/-
InSpaceKube/Karpenter/Slot.lean

The firewall-mutation slots (`firewall_mutation_slot.go`) and the operations of
the create-fence store that go through them: AuthorizeBaseFirewall,
ObserveBaseFirewall and RejectBaseFirewall, and the three on a detachment.

Two objects are in play, each with its own compare-and-swap: the fence on the
NodeClaim, which carries the assignment of its own VM, and one Lease with a
ledger of slots, one per firewall.  An assignment is issued on the fence
first; then `acquireFirewallMutationSlot` installs it in the slot of its
firewall, once the slot's earlier owner is terminal.

`FenceOp` adds to the requests of the store those for the ledger, the list of
all NodeClaims, and the cloud that the controller talks to.  The programs of
the store run over it unchanged (`lift`).  A Go map is a list of pairs here;
a ledger whose map is nil is malformed.
-/
import InSpaceKube.Karpenter.Journal
import InSpaceKube.Karpenter.Protection
import InSpaceKube.Prog.Habit

namespace InSpaceKube.Karpenter

open Prog

/-! ### The ledger -/

def FirewallAssignmentPhase.text : FirewallAssignmentPhase → String
  | .unset => ""
  | .intent => "intent"
  | .issued => "issued"
  | .rejected => "rejected"
  | .observed => "observed"
  | .other text => text

/-- `FirewallAssignmentObserved` or `FirewallAssignmentRejected`. -/
def FirewallAssignmentPhase.terminal (phase : FirewallAssignmentPhase) : Bool :=
  phase == .observed || phase == .rejected

/-- `firewallMutationAssign`, `firewallMutationDetach`, or another text. -/
inductive FirewallMutation
  | assign | detach
  | other (text : String)
deriving DecidableEq, Repr

def FirewallMutation.text : FirewallMutation → String
  | .assign => "assign"
  | .detach => "detach"
  | .other text => text

/-- `firewallMutationSlotRecord`. -/
structure FirewallMutationSlot where
  schema : String
  location : String
  firewallUUID : String
  vmUUID : String
  nodeClaimName : String
  nodeClaimUID : String
  operation : FirewallMutation
  phase : FirewallAssignmentPhase
  issueID : String
  acquisitionID : String
deriving DecidableEq, Repr

structure FirewallMutationLedger where
  schema : String
  slots : List (String × FirewallMutationSlot)
deriving DecidableEq, Repr

/-- The coordinator Lease, as far as it is read. -/
structure LedgerLease where
  resourceVersion : ℕ
  holder : Option String
  ledger : AnnotationValue FirewallMutationLedger
deriving DecidableEq, Repr

def firewallMutationSlotSchema : String := "karpenter.inspace.cloud/firewall-mutation-slot-v1"

def firewallMutationLedgerSchema : String := "karpenter.inspace.cloud/firewall-mutation-ledger-v1"

def firewallMutationCoordinatorHolder : String := "karpenter-inspace-firewall-mutations"

def maxFirewallMutationLedgerBytes : ℕ := 128 * 1024

/-- The slot of a key. -/
def FirewallMutationLedger.slot (ledger : FirewallMutationLedger) (key : String) :
    Option FirewallMutationSlot :=
  ledger.slots.lookup key

/-- `ledger.Slots[key] = slot`. -/
def FirewallMutationLedger.set (ledger : FirewallMutationLedger) (key : String)
    (slot : FirewallMutationSlot) : FirewallMutationLedger :=
  { ledger with slots := (key, slot) :: ledger.slots.filter fun entry => entry.1 != key }

/-! ### Requests -/

structure FirewallDetachmentFence where
  vmUUID : String := ""
  firewallUUID : String := ""
  phase : FirewallAssignmentPhase := .unset
  issueID : String := ""
deriving DecidableEq, Repr

structure FirewallAssignmentAuthorization where
  fence : FirewallAssignmentFence := {}
  allowPOST : Bool := false
deriving DecidableEq, Repr

structure FirewallDetachmentAuthorization where
  fence : FirewallDetachmentFence := {}
  allowDELETE : Bool := false
deriving DecidableEq, Repr

/-- `FencedCreateCleanupRequest`, its callbacks apart.  `identity` stands for
the fields that are copied from the cleanup identity of the fence, and a
receipt of `resolutions` comes with its `Converged`. -/
structure FencedCreateCleanupRequest where
  identity : CreateFenceCleanupIdentity
  specHash : String
  bootstrapHash : String
  attemptToken : String
  attemptIssuedAt : ℤ
  postIssued : Bool
  postRejected : Bool
  attemptResolved : Bool
  createdVMUUID : String
  rollbackChosen : Bool
  dependentUnresolved : Bool
  dependentsResolved : Bool
  observedVMUUID : String
  floatingIPName : String
  publicIPv4 : String
  resolutions : List (FencedCreateCleanupResolution × Bool)
  baseline : CreateInventory
  baseFirewallAssignment : FirewallAssignmentFence
  floatingIPUpdate : Option FloatingIPUpdateFence

/-- The two calls of the controller to the cloud. -/
inductive CloudCall
  | protectFencedCreate (request : FencedCreateCleanupRequest)
  | cleanupFencedCreate (request : FencedCreateCleanupRequest)

/-- What the cloud asks of the controller while such a call is under way. -/
inductive Callback
  | authorizeBaseFirewall (vmUUID : String)
  | observeBaseFirewall (vmUUID issueID : String)
  | rejectBaseFirewall (vmUUID issueID : String)
  | authorizeBaseFirewallDetach (vmUUID : String)
  | observeBaseFirewallDetach (fence : FirewallDetachmentFence)
  | rejectBaseFirewallDetach (fence : FirewallDetachmentFence)
  | authorizeFloatingIPUpdate (vmUUID address name : String) (billingAccountID : ℤ)
  | observeFloatingIPUpdate (fence : FloatingIPUpdateFence)
  | rejectFloatingIPUpdate (fence : FloatingIPUpdateFence)
  | authorizeRemovalMutation (mutation : RemovalMutation) (present : Bool)
  | observeRemovalMutation (fence : RemovalMutationFence)
  | rejectRemovalMutation (fence : RemovalMutationFence)

/-- `FencedCreateCleanupResult`, with the error of the call. -/
structure CloudResult where
  resolution : Option FencedCreateCleanupResolution := none
  dependentsResolved : Bool := false
  err : Option Err := none

/-- One step of a call to the cloud: a callback, or its end. -/
inductive CloudStep
  | callback (request : Callback)
  | done (result : CloudResult)

/-- The requests of the store with its slots, and of the controller. -/
inductive FenceOp
  | store (op : Op)
  | list
  | getLedger
  | createLedger (lease : LedgerLease)
  | updateLedger (lease : LedgerLease)
  | cloud (call : CloudCall)

/-- Their replies; a write answers with its error. -/
abbrev FenceReply : FenceOp → Type
  | .store op => Reply op
  | .list => Except Err (List NodeClaim)
  | .getLedger => Except Err LedgerLease
  | .createLedger _ => Option Err
  | .updateLedger _ => Option Err
  | .cloud _ => CloudStep

/-- Fallible code over these requests. -/
abbrev FenceCode (α : Type) := ExceptT Err (Prog FenceOp FenceReply) α

/-- Issue a request. -/
abbrev ask (op : FenceOp) : FenceCode (FenceReply op) := perform op

/-- The code of the store over the larger set of requests. -/
def lift {α : Type} (x : Code α) : FenceCode α :=
  ExceptT.mk (x.run.embed FenceOp.store fun _ r => r)

/-- The store with its slots; `ledgerBytes` is the length of a ledger's JSON. -/
structure SlotStore extends JournalStore where
  ledgerBytes : FirewallMutationLedger → ℕ

/-! ### Reading and checking the ledger -/

/-- `firewallMutationSlotName`. -/
def Store.slotName (s : Store) (location firewallUUID : String) : String :=
  let hash := s.sha256 (trimSpace location ++ "\x00" ++ toLower (trimSpace firewallUUID))
  "inspace-fw-" ++ String.ofList (hash.toList.take 32)

def validateFirewallMutationSlot (value : FirewallMutationSlot) : Except Err Unit :=
  if value.schema ≠ firewallMutationSlotSchema ∨ trimSpace value.location = "" ∨
      uuidPatternFold value.firewallUUID = false ∨ uuidPatternFold value.vmUUID = false ∨
      value.nodeClaimName = "" ∨ value.nodeClaimUID = "" ∨ hex32Pattern value.issueID = false ∨
      hex32Pattern value.acquisitionID = false then
    .error (.new "durable firewall mutation slot has invalid identity")
  else if value.operation ≠ .assign ∧ value.operation ≠ .detach then
    .error (.new ("durable firewall mutation slot has invalid operation " ++
      quote value.operation.text))
  else if value.phase ≠ .issued ∧ value.phase ≠ .observed ∧ value.phase ≠ .rejected then
    .error (.new ("durable firewall mutation slot has invalid phase " ++ quote value.phase.text))
  else .ok ()

/-- The loop of `validateFirewallMutationLedger` over the slots.  The source
takes them in the order a Go map gives them. -/
def Store.validateSlots (s : Store) : List (String × FirewallMutationSlot) → Except Err Unit
  | [] => .ok ()
  | (key, slot) :: rest => do
    Except.mapError (.within ("durable firewall mutation ledger slot " ++ quote key))
      (validateFirewallMutationSlot slot)
    failIf (key ≠ s.slotName slot.location slot.firewallUUID)
        (.new ("durable firewall mutation ledger slot " ++ quote key ++ " has identity drift"))
    s.validateSlots rest

/-- `validateFirewallMutationLedger`. -/
def Store.validateLedger (s : Store) (value : FirewallMutationLedger) : Except Err Unit := do
  failIf (value.schema ≠ firewallMutationLedgerSchema)
      (.new "durable firewall mutation ledger has invalid schema")
  s.validateSlots value.slots

variable (s : SlotStore) (claim current : NodeClaim) (binding : CreateFenceBinding)
  (record : CreateFenceRecord) (desired : FirewallMutationSlot) (token : String)
  (assignment : BaseFirewallAssignment) (vmUUID issueID : String) (fence : FirewallDetachmentFence)
  (terminal : FirewallAssignmentPhase)

/-- `encodeFirewallMutationLedger`: it may be written. -/
def SlotStore.encodeLedger (value : FirewallMutationLedger) : Except Err Unit := do
  s.validateLedger value
  failIf (maxFirewallMutationLedgerBytes < s.ledgerBytes value)
      (.new ("durable firewall mutation ledger exceeds " ++
        toString maxFirewallMutationLedgerBytes ++ "-byte safety bound"))

/-- `decodeFirewallMutationLedger`.  A ledger that is too long is malformed. -/
def Store.decodeLedger (s : Store) (lease : LedgerLease) : Except Err FirewallMutationLedger := do
  match lease.holder with
  | none => throw (.new "durable firewall mutation Lease has no holder identity")
  | some holder =>
    failIf (holder ≠ firewallMutationCoordinatorHolder)
        (.new "durable firewall mutation Lease has invalid fixed identity")
    match lease.ledger with
    | .absent => throw (.new "durable firewall mutation Lease has no bounded ledger")
    | .malformed => throw (.new "decoding durable firewall mutation ledger")
    | .record value =>
      s.validateLedger value
      pure value

/-- `getFirewallMutationLedger`. -/
def SlotStore.getLedger : FenceCode (LedgerLease × FirewallMutationLedger) := do
  let lease ← check (← ask .getLedger)
  let value ← check (s.decodeLedger lease)
  pure (lease, value)

/-- `newFirewallMutationSlotRecord`. -/
def newFirewallMutationSlot (operation : FirewallMutation) (issueID acquisitionID : String) :
    Except Err FirewallMutationSlot := do
  let value : FirewallMutationSlot :=
    { schema := firewallMutationSlotSchema, location := record.cleanup.location,
      firewallUUID := toLower record.cleanup.firewallUUID, vmUUID := toLower vmUUID,
      nodeClaimName := current.name, nodeClaimUID := current.uid, operation := operation,
      phase := .issued, issueID := issueID, acquisitionID := acquisitionID }
  validateFirewallMutationSlot value
  pure value

/-- `readbackOwnFirewallMutationSlot`. -/
def SlotStore.readbackOwnSlot : FenceCode Bool := do
  let (_, ledger) ← s.getLedger
  pure (ledger.slot (s.slotName desired.location desired.firewallUUID) == some desired)

/-! ### Taking a slot -/

/-- What `firewallMutationSlotTerminal` makes of the owner it has read. -/
def Store.slotOwnerTerminal (s : Store) (value : FirewallMutationSlot)
    (owner : Except Err NodeClaim) : Except Err Bool :=
  match owner with
  | .error e =>
    if e.is .notFound then .ok true
    else .error (e.within ("reading prior firewall-slot NodeClaim " ++ quote value.nodeClaimName))
  | .ok claim =>
    if claim.uid ≠ value.nodeClaimUID then .ok true
    else if value.operation = .detach then .ok false
    else do
      let record ← Except.mapError (.within ("prior firewall-slot NodeClaim " ++
        quote value.nodeClaimName ++ " has invalid durable fence"))
        (decodeCreateFence s.sha256 claim.createFence)
      let drifted : Err := .new ("prior firewall-slot NodeClaim " ++ quote value.nodeClaimName ++
        " no longer carries the exact owned assignment receipt")
      match record.baseFirewallAssignment with
      | none => throw drifted
      | some assignment =>
        failIf (record.binding.nodeClaimUID ≠ value.nodeClaimUID ∨
            record.cleanup.nodeClaimName ≠ value.nodeClaimName ∨
            record.cleanup.location ≠ value.location ∨
            toLower record.cleanup.firewallUUID ≠ value.firewallUUID ∨
            toLower assignment.firewallUUID ≠ value.firewallUUID ∨
            assignment.issueID ≠ value.issueID) drifted
        pure assignment.phase.terminal

/-- `firewallMutationSlotTerminal`. -/
def SlotStore.slotTerminal (value : FirewallMutationSlot) : FenceCode Bool := do
  if value.phase.terminal then pure true
  else check (s.slotOwnerTerminal value (← ask (.store (.get value.nodeClaimName))))

/-- The loop of `auditUnresolvedLegacyFirewallMutationOwners`. -/
def Store.auditLegacyOwners (s : Store) (desired : FirewallMutationSlot) :
    List NodeClaim → Except Err Unit
  | [] => .ok ()
  | claim :: rest =>
    if claim.createFence = .absent then s.auditLegacyOwners desired rest
    else do
      let record ← Except.mapError (.within ("NodeClaim " ++ quote claim.name ++
        " has an invalid durable fence during legacy firewall-mutation migration"))
        (decodeCreateFence s.sha256 claim.createFence)
      failIf (record.binding.nodeClaimUID ≠ claim.uid ∨
          record.cleanup.nodeClaimName ≠ claim.name)
          (.new ("NodeClaim " ++ quote claim.name ++
            " has drifted durable identity during legacy firewall-mutation migration"))
      match record.baseFirewallAssignment with
      | none => s.auditLegacyOwners desired rest
      | some assignment =>
        if record.legacyV2BaseFirewallMayBeIssued = false ∨ assignment.phase ≠ .issued ∨
            s.slotName record.cleanup.location record.cleanup.firewallUUID ≠
              s.slotName desired.location desired.firewallUUID then
          s.auditLegacyOwners desired rest
        else if claim.name = desired.nodeClaimName ∧ claim.uid = desired.nodeClaimUID ∧
            equalFold assignment.vmUUID desired.vmUUID ∧
            assignment.issueID = desired.issueID then
          s.auditLegacyOwners desired rest
        else
          throw (.wrap .createAttemptPending ("firewall " ++ desired.firewallUUID ++
            " still has unresolved legacy-v2 assignment issue " ++ assignment.issueID ++
            " owned by NodeClaim " ++ quote claim.name))

/-- `auditUnresolvedLegacyFirewallMutationOwners`. -/
def SlotStore.auditLegacy : FenceCode Unit := do
  let claims ← check (Except.mapError
    (.within "listing NodeClaims for legacy firewall-mutation migration") (← ask .list))
  check (s.auditLegacyOwners desired claims)

/-- The slot's owner is this very mutation, acquired by another invocation. -/
def sameMutation (current desired : FirewallMutationSlot) : Bool :=
  current.nodeClaimUID == desired.nodeClaimUID && current.nodeClaimName == desired.nodeClaimName &&
  current.operation == desired.operation && current.vmUUID == desired.vmUUID &&
  current.issueID == desired.issueID

/-- A slot that is taken may be taken over only when its owner is terminal. -/
def SlotStore.supersede : Option FirewallMutationSlot → FenceCode Unit
  | none => pure ()
  | some current => do
    match ← attempt (s.slotTerminal current) with
    | .error e => throw (e.within "auditing prior durable firewall mutation owner")
    | .ok terminal =>
      check (failIf (terminal = false) (.wrap .createAttemptPending ("firewall " ++
        desired.firewallUUID ++ " still has active " ++ current.operation.text ++ " issue " ++
        current.issueID ++ " owned by NodeClaim " ++ quote current.nodeClaimName)))

/-- The loop of `acquireFirewallMutationSlot`: whether this invocation has the
slot. -/
def SlotStore.acquireLoop : ℕ → FenceCode Bool
  | 0 =>
    throw (.wrap .createAttemptPending ("firewall " ++ desired.firewallUUID ++
      " mutation-slot CAS did not converge"))
  | attempts + 1 => do
    let key := s.slotName desired.location desired.firewallUUID
    s.auditLegacy desired
    match ← attempt s.getLedger with
    | .error e =>
      if e.is .notFound then
        let ledger := ⟨firewallMutationLedgerSchema, [(key, desired)]⟩
        check (s.encodeLedger ledger)
        let writeErr ← ask (.createLedger
          ⟨0, some firewallMutationCoordinatorHolder, .record ledger⟩)
        match ← attempt (s.readbackOwnSlot desired) with
        | .ok true => pure true
        | .ok false => SlotStore.acquireLoop attempts
        | .error e =>
          if e.is .notFound then SlotStore.acquireLoop attempts
          else
            throw ((GoError.joinOpt writeErr e).within
              "creating and exactly reading back firewall mutation slot")
      else throw (e.within "reading durable firewall mutation ledger")
    | .ok (lease, ledger) =>
      let current := ledger.slot key
      if current = some desired then pure true
      else if current.any fun value => sameMutation value desired then pure false
      else
        s.supersede desired current
        let taken := ledger.set key desired
        check (s.encodeLedger taken)
        let writeErr ← ask (.updateLedger { lease with ledger := .record taken })
        match ← attempt (s.readbackOwnSlot desired) with
        | .ok true => pure true
        | .ok false => SlotStore.acquireLoop attempts
        | .error e =>
          throw ((GoError.joinOpt writeErr e).within
            "updating and exactly reading back firewall mutation slot")

/-- `acquireFirewallMutationSlot`. -/
def SlotStore.acquireSlot : FenceCode Bool :=
  s.acquireLoop desired 6

/-! ### Ending a mutation -/

/-- The loop of `finishFirewallMutationSlot`. -/
def SlotStore.finishSlotLoop (operation : FirewallMutation) (vmUUID issueID : String)
    (terminal : FirewallAssignmentPhase) : ℕ → FenceCode Unit
  | 0 => throw (.wrap .createAttemptPending "terminal firewall mutation slot did not converge")
  | attempts + 1 => do
    let key := s.slotName record.cleanup.location record.cleanup.firewallUUID
    match ← attempt s.getLedger with
    | .error e =>
      if e.is .notFound then pure ()
      else throw (e.within "reading firewall mutation ledger for terminal receipt")
    | .ok (lease, ledger) =>
    match ledger.slot key with
    | none => pure ()
    | some value =>
      if value.nodeClaimUID ≠ current.uid ∨ value.nodeClaimName ≠ current.name ∨
          value.operation ≠ operation ∨ value.vmUUID ≠ toLower vmUUID ∨
          value.issueID ≠ issueID then pure ()
      else if value.phase = terminal then pure ()
      else if value.phase ≠ .issued then
        throw (.new ("firewall mutation slot issue " ++ issueID ++
          " has conflicting terminal phase " ++ quote value.phase.text))
      else
        let ended := { value with phase := terminal }
        let written := ledger.set key ended
        check (s.encodeLedger written)
        let writeErr ← ask (.updateLedger { lease with ledger := .record written })
        match ← attempt s.getLedger with
        | .error e =>
          throw ((GoError.joinOpt writeErr e).within
            "writing and reading back terminal firewall mutation slot")
        | .ok (_, stored) =>
          if stored.slot key = some ended then pure ()
          else SlotStore.finishSlotLoop operation vmUUID issueID terminal attempts

/-- `finishFirewallMutationSlot`. -/
def SlotStore.finishSlot (operation : FirewallMutation) (vmUUID issueID : String)
    (terminal : FirewallAssignmentPhase) : FenceCode Unit := do
  check (failIf (terminal.terminal = false)
      (.new ("invalid terminal firewall mutation phase " ++ quote terminal.text)))
  s.finishSlotLoop current record operation vmUUID issueID terminal 4

/-! ### AuthorizeBaseFirewall -/

/-- `authorizeBaseFirewallAssignmentSlot`: the authorization, and the error it
comes with. -/
def SlotStore.authorizeAssignmentSlot :
    FenceCode (FirewallAssignmentAuthorization × Option Err) := do
  let lacking : Err := .new ("NodeClaim " ++ quote current.name ++
    " lacks an exact issued base-firewall assignment receipt")
  match record.baseFirewallAssignment with
  | none => pure ({}, some lacking)
  | some assignment =>
    if baseFirewallAssignmentMatches (some assignment) vmUUID record.cleanup.firewallUUID = false ∨
        assignment.phase ≠ .issued ∨ hex32Pattern assignment.issueID = false then
      pure ({}, some lacking)
    else
      let fence := firewallAssignmentFenceFromRecord record
      match ← ask (.store .nonce) with
      | .error e =>
        pure ({}, some (e.within "generating base-firewall assignment acquisition identity"))
      | .ok acquisitionID =>
        match newFirewallMutationSlot current record vmUUID .assign assignment.issueID
            acquisitionID with
        | .error e => pure ({}, some e)
        | .ok desired =>
          match ← attempt (s.acquireSlot desired) with
          | .error e => pure ({ fence := fence }, some e)
          | .ok allow =>
            if record.legacyV2BaseFirewallMayBeIssued then pure ({ fence := fence }, none)
            else pure ({ fence := fence, allowPOST := allow }, none)

/-- What `persistBaseFirewallAssignment` makes of its read-back. -/
def Store.persistedAssignment (s : Store) (current : NodeClaim) (binding : CreateFenceBinding)
    (accept : CreateFenceRecord → Bool) (updateErr : Option Err)
    (readback : Except Err NodeClaim) : Except Err NodeClaim :=
  let name := "NodeClaim " ++ quote current.name
  match readback with
  | .error e =>
    .error ((GoError.joinOpt updateErr e).within
      ("writing and reading back " ++ name ++ " base-firewall assignment fence"))
  | .ok readback =>
    if readback.uid ≠ current.uid ∨ readback.protectedBy createFenceFinalizer = false then
      .error (.new (name ++
        " changed identity or lost protection during base-firewall assignment fencing"))
    else
      match s.parse readback binding with
      | .error e => .error (GoError.joinOpt updateErr e)
      | .ok stored =>
        if accept stored then .ok readback
        else
          match updateErr with
          | some e => .error e
          | none =>
            .error (.new (name ++ " base-firewall assignment fence changed during readback"))

/-- `persistBaseFirewallAssignment`. -/
def Store.persistAssignment (s : Store) (current : NodeClaim) (binding : CreateFenceBinding)
    (record : CreateFenceRecord) (accept : CreateFenceRecord → Bool) : Code NodeClaim := do
  let updateErr ← call (.update (current.withRecord record))
  check (s.persistedAssignment current binding accept updateErr (← call (.get current.name)))

def newBaseFirewallAssignmentIntent (now : ℤ) : BaseFirewallAssignment :=
  { vmUUID := toLower vmUUID, firewallUUID := record.cleanup.firewallUUID, phase := .intent,
    intentAt := now }

/-- The record with its assignment issued. -/
def issueAssignment (now : ℤ) : CreateFenceRecord :=
  { record with baseFirewallAssignment := some { assignment with
      phase := .issued, issueID := issueID, issuedAt := some now, rejectedAt := none,
      observedAt := none } }

/-- What `AuthorizeBaseFirewall` accepts as its own issue. -/
def assignmentIssued (now : ℤ) (stored : CreateFenceRecord) : Bool :=
  baseFirewallAssignmentMatches stored.baseFirewallAssignment vmUUID stored.cleanup.firewallUUID &&
  stored.baseFirewallAssignment.any fun a =>
    a.phase == .issued && a.issueID == issueID && a.issuedAt == some now

/-- The checks of `AuthorizeBaseFirewall` on the object it has read. -/
def Store.assignable (s : Store) (claim current : NodeClaim) (binding : CreateFenceBinding)
    (token vmUUID : String) : Except Err CreateFenceRecord := do
  let record ← s.parse current binding
  failIf (token = "" ∨ record.token ≠ token ∨ record.phase ≠ .issued ∨ record.issuedAt = none ∨
      record.createdVMUUID ≠ vmUUID ∨ record.launchObservedAt = none)
      (.new ("NodeClaim " ++ quote claim.name ++
        " base-firewall assignment lacks the exact anchored VM attempt"))
  pure record

/-- After a failed issue, the receipt of another issue is returned as it is. -/
def Store.competingIssue (s : Store) (current : NodeClaim) (binding : CreateFenceBinding)
    (issueID : String) (latest : Except Err NodeClaim) :
    Option (NodeClaim × FirewallAssignmentAuthorization) :=
  match latest with
  | .error _ => none
  | .ok latest =>
    match s.parse latest binding with
    | .error _ => none
    | .ok stored =>
      if latest.uid = current.uid ∧
          stored.baseFirewallAssignment.any fun a => a.phase == .issued && a.issueID != issueID then
        some (latest, { fence := firewallAssignmentFenceFromRecord stored })
      else none

/-- The shared slot of a rejected issue is retired before the issue is
replaced. -/
def SlotStore.retireRejected : FenceCode (Except Err Unit) :=
  if assignment.phase = .rejected then
    attempt (s.finishSlot current record .assign vmUUID assignment.issueID .rejected)
  else pure (.ok ())

/-- The round of `AuthorizeBaseFirewall` that issues the assignment; `again` is
its next round, after an error. -/
def SlotStore.issueAndAcquire
    (claim current : NodeClaim) (record : CreateFenceRecord) (assignment : BaseFirewallAssignment)
    (again : Err → FenceCode (NodeClaim × FirewallAssignmentAuthorization × Option Err)) :
    FenceCode (NodeClaim × FirewallAssignmentAuthorization × Option Err) := do
  match ← s.retireRejected current record assignment vmUUID with
  | .error e => pure (current, { fence := firewallAssignmentFenceFromRecord record }, some e)
  | .ok () =>
  let issueID ← check (Except.mapError
    (.within "generating base-firewall assignment issue identity") (← ask (.store .nonce)))
  let now ← ask (.store .now)
  let issued := issueAssignment record assignment issueID now
  match ← attempt (lift (s.persistAssignment current binding issued
      (assignmentIssued vmUUID issueID now))) with
  | .ok written =>
    let (authorization, err) ← s.authorizeAssignmentSlot written issued vmUUID
    pure (written, authorization, err)
  | .error e =>
    match s.competingIssue current binding issueID (← ask (.store (.get claim.name))) with
    | some (latest, authorization) => pure (latest, authorization, none)
    | none => again e

/-- The loop of `AuthorizeBaseFirewall`.  The source returns a claim beside
some of its errors; those are the results with an error in them. -/
def SlotStore.authorizeBaseFirewallLoop : ℕ → NodeClaim → Option Err →
    FenceCode (NodeClaim × FirewallAssignmentAuthorization × Option Err)
  | 0, claim, lastErr =>
    throw (exhausted ("persisting issued base-firewall assignment for NodeClaim " ++
      quote claim.name ++ " did not converge") lastErr)
  | attempts + 1, claim, lastErr => do
    let current ← lift (getProtectedExact claim "authorize base-firewall assignment")
    let record ← check (s.assignable claim current binding token vmUUID)
    match record.baseFirewallAssignment with
    | none =>
      let now ← ask (.store .now)
      let intent := newBaseFirewallAssignmentIntent record vmUUID now
      match ← attempt (lift (s.persistAssignment current binding
          { record with baseFirewallAssignment := some intent } fun stored =>
            stored.baseFirewallAssignment.any (fun a => a.phase == .intent) &&
            baseFirewallAssignmentMatches stored.baseFirewallAssignment vmUUID
              stored.cleanup.firewallUUID)) with
      | .error e => SlotStore.authorizeBaseFirewallLoop attempts claim (some e)
      | .ok written => SlotStore.authorizeBaseFirewallLoop attempts written lastErr
    | some assignment =>
    check (failIf (baseFirewallAssignmentMatches (some assignment) vmUUID
        record.cleanup.firewallUUID = false)
        (.new ("NodeClaim " ++ quote claim.name ++ " base-firewall assignment identity changed")))
    match assignment.phase with
    | .issued =>
      let (authorization, err) ← s.authorizeAssignmentSlot current record vmUUID
      pure (current, authorization, err)
    | .observed =>
      pure (current, { fence := firewallAssignmentFenceFromRecord record }, none)
    | .intent | .rejected =>
      s.issueAndAcquire binding vmUUID claim current record assignment fun e =>
        SlotStore.authorizeBaseFirewallLoop attempts claim (some e)
    | phase =>
      throw (.new ("NodeClaim " ++ quote claim.name ++
        " has invalid base-firewall assignment phase " ++ quote phase.text))

def SlotStore.authorizeBaseFirewall :
    FenceCode (NodeClaim × FirewallAssignmentAuthorization × Option Err) := do
  let vmUUID := toLower vmUUID
  check (failIf (uuidPatternFold vmUUID = false)
      (.new "base-firewall authorization requires a canonical VM UUID"))
  s.authorizeBaseFirewallLoop binding token vmUUID 4 claim none

/-! ### ObserveBaseFirewall and RejectBaseFirewall -/

/-- The record with its assignment observed or rejected. -/
def endAssignment (now : ℤ) : CreateFenceRecord :=
  let ended :=
    if terminal = .observed then
      { assignment with phase := terminal, observedAt := some now, rejectedAt := none }
    else { assignment with phase := terminal, rejectedAt := some now, observedAt := none }
  { record with baseFirewallAssignment := some ended }

/-- What `finishBaseFirewallAssignment` finds on the object it has read. -/
def Store.ownAssignment (s : Store) (claim current : NodeClaim) (binding : CreateFenceBinding)
    (token vmUUID : String) : Except Err (CreateFenceRecord × BaseFirewallAssignment) := do
  let record ← s.parse current binding
  let changed : Err := .new ("NodeClaim " ++ quote claim.name ++
    " base-firewall assignment identity changed")
  match record.baseFirewallAssignment with
  | none => throw changed
  | some assignment =>
    failIf (token = "" ∨ record.token ≠ token ∨
      baseFirewallAssignmentMatches (some assignment) vmUUID record.cleanup.firewallUUID = false)
      changed
    pure (record, assignment)

/-- The loop of `finishBaseFirewallAssignment`. -/
def SlotStore.finishBaseFirewallLoop : ℕ → Option Err → FenceCode (NodeClaim × Option Err)
  | 0, lastErr =>
    throw (exhausted ("persisting terminal base-firewall assignment for NodeClaim " ++
      quote claim.name ++ " did not converge") lastErr)
  | attempts + 1, _ => do
    let current ← lift (getProtectedExact claim "finish base-firewall assignment")
    let (record, assignment) ← check (s.ownAssignment claim current binding token vmUUID)
    if assignment.phase = terminal ∧ assignment.issueID = issueID then
      match ← attempt (s.finishSlot current record .assign vmUUID issueID terminal) with
      | .error e => pure (current, some e)
      | .ok () => pure (current, none)
    else
      check (failIf (assignment.phase ≠ .issued ∨ assignment.issueID ≠ issueID ∨
          assignment.issuedAt = none)
          (.new ("NodeClaim " ++ quote claim.name ++
            " base-firewall assignment does not match issued receipt " ++ issueID)))
      let now ← ask (.store .now)
      match ← attempt (lift (s.persistAssignment current binding
          (endAssignment record assignment terminal now) fun stored =>
            baseFirewallAssignmentMatches stored.baseFirewallAssignment vmUUID
              stored.cleanup.firewallUUID &&
            stored.baseFirewallAssignment.any fun a =>
              a.phase == terminal && a.issueID == issueID)) with
      | .error e =>
        SlotStore.finishBaseFirewallLoop attempts (some e)
      | .ok written =>
        match s.parse written binding with
        | .error e => pure (written, some e)
        | .ok stored =>
          match ← attempt (s.finishSlot written stored .assign vmUUID issueID terminal) with
          | .error e => pure (written, some e)
          | .ok () => pure (written, none)

/-- `finishBaseFirewallAssignment`. -/
def SlotStore.finishBaseFirewall : FenceCode (NodeClaim × Option Err) := do
  let vmUUID := toLower vmUUID
  check (failIf (uuidPatternFold vmUUID = false ∨ hex32Pattern issueID = false ∨
      terminal.terminal = false)
      (.new "finishing base-firewall assignment requires canonical identity and terminal phase"))
  s.finishBaseFirewallLoop claim binding token vmUUID issueID terminal 3 none

def SlotStore.observeBaseFirewall : FenceCode (NodeClaim × Option Err) :=
  s.finishBaseFirewall claim binding token vmUUID issueID .observed

def SlotStore.rejectBaseFirewall : FenceCode (NodeClaim × Option Err) :=
  s.finishBaseFirewall claim binding token vmUUID issueID .rejected

/-! ### Detachments -/

def createFenceOwnsVM : Bool :=
  let vmUUID := toLower vmUUID
  record.createdVMUUID == vmUUID || record.observedVMUUID == vmUUID ||
  record.cleanupVMUUID == vmUUID ||
  record.cleanupResolutions.any fun resolution => equalFold resolution.vmUUID vmUUID

/-- The checks of `AuthorizeBaseFirewallDetach` on the object it has read. -/
def Store.detachable (s : Store) (claim current : NodeClaim) (binding : CreateFenceBinding)
    (token vmUUID : String) : Except Err CreateFenceRecord := do
  let record ← s.parse current binding
  failIf (token = "" ∨ record.token ≠ token ∨ createFenceOwnsVM record vmUUID = false)
      (.new ("NodeClaim " ++ quote claim.name ++ " does not durably own VM " ++ vmUUID ++
        " for base-firewall detachment"))
  pure record

/-- The detachment of this VM that the slot already has, if it is not rejected. -/
def existingDetach (firewallUUID : String)
    (slot : Option FirewallMutationSlot) : Option FirewallDetachmentFence :=
  slot.bind fun existing =>
    if existing.nodeClaimUID = current.uid ∧ existing.nodeClaimName = current.name ∧
        existing.operation = .detach ∧ existing.vmUUID = vmUUID ∧
        (existing.phase = .issued ∨ existing.phase = .observed) then
      some ⟨vmUUID, firewallUUID, existing.phase, existing.issueID⟩
    else none

/-- `AuthorizeBaseFirewallDetach`: the authorization, and the error it comes
with. -/
def SlotStore.authorizeBaseFirewallDetach :
    FenceCode (FirewallDetachmentAuthorization × Option Err) := do
  let vmUUID := toLower vmUUID
  check (failIf (uuidPatternFold vmUUID = false)
      (.new "base-firewall detachment requires a canonical VM UUID"))
  let current ← lift (getProtectedExact claim "authorize base-firewall detachment")
  let record ← check (s.detachable claim current binding token vmUUID)
  let read ← attempt s.getLedger
  check (match read with
    | .ok _ => .ok ()
    | .error e => failIf (e.is .notFound = false) e)
  let slot := match read with
    | .ok (_, ledger) =>
      ledger.slot (s.slotName record.cleanup.location record.cleanup.firewallUUID)
    | .error _ => none
  match existingDetach current vmUUID record.cleanup.firewallUUID slot with
  | some fence => pure ({ fence := fence }, none)
  | none =>
    let issueID ← check (Except.mapError
      (.within "generating base-firewall detachment issue identity") (← ask (.store .nonce)))
    let acquisitionID ← check (Except.mapError
      (.within "generating base-firewall detachment acquisition identity")
      (← ask (.store .nonce)))
    let desired ← check (newFirewallMutationSlot current record vmUUID .detach issueID
      acquisitionID)
    let fence : FirewallDetachmentFence :=
      ⟨vmUUID, record.cleanup.firewallUUID, .issued, issueID⟩
    match ← attempt (s.acquireSlot desired) with
    | .error e => pure ({ fence := fence }, some e)
    | .ok allow => pure ({ fence := fence, allowDELETE := allow }, none)

def SlotStore.finishBaseFirewallDetach : FenceCode Unit := do
  let current ← lift (getProtectedExact claim "finish base-firewall detachment")
  let record ← check (s.parse current binding)
  check (failIf (token = "" ∨ record.token ≠ token ∨
      createFenceOwnsVM record fence.vmUUID = false ∨
      toLower record.cleanup.firewallUUID ≠ toLower fence.firewallUUID ∨
      hex32Pattern fence.issueID = false)
      (.new ("NodeClaim " ++ quote claim.name ++ " base-firewall detachment identity changed")))
  s.finishSlot current record .detach fence.vmUUID fence.issueID terminal

def SlotStore.observeBaseFirewallDetach : FenceCode Unit :=
  s.finishBaseFirewallDetach claim binding token fence .observed

def SlotStore.rejectBaseFirewallDetach : FenceCode Unit :=
  s.finishBaseFirewallDetach claim binding token fence .rejected

end InSpaceKube.Karpenter
