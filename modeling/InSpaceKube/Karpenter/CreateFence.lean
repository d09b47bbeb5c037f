/-
InSpaceKube/Karpenter/CreateFence.lean

The operations of the Kubernetes create-fence store (`create_fence.go`):
Get, Ensure, Authorize, RecordCreatedVM, ChooseRollback, MarkRejected and
MarkMaterialized, as programs over the API server, the clock and the nonce.

Every write is an `Update` of the object that was read, so it carries that
object's resource version.  The last four operations share one loop, three
times: read the protected object, plan a new record, write it, read it back
and judge what is stored (`casLoop`).

A nil claim and one without a name are refused by the same check with the same
text, so a claim is never nil here.  Contexts carry deadlines and nothing
else: a read that a deadline cuts short is a read that fails.
-/
import InSpaceKube.Karpenter.Receipts
import InSpaceKube.Prog.Basic

namespace InSpaceKube.Karpenter

open Prog

/-! ### Objects and requests -/

def terminationFinalizer : String := "karpenter.sh/termination"

def createFenceFinalizer : String := "karpenter.inspace.cloud/create-protection"

/-- `createFenceOperatorResolution`. -/
structure OperatorResolution where
  schema : String
  issueID : String
  result : String
  vmUUID : String
deriving DecidableEq, Repr

/-- What the store and its controller read of a NodeClaim.  `spec` is the whole
spec, as far as `reflect.DeepEqual` tells two of them apart. -/
structure NodeClaim where
  name : String
  uid : String
  resourceVersion : ℕ
  generation : ℤ
  spec : String
  nodePool : String
  deleting : Bool
  finalizers : List String
  createFence : AnnotationValue CreateFenceRecord
  floatingIPUpdate : AnnotationValue FloatingIPUpdateRecord
  removalMutation : AnnotationValue RemovalMutationRecord
  resolution : AnnotationValue OperatorResolution := .absent
  providerID : String := ""
deriving DecidableEq, Repr

/-- `controllerutil.ContainsFinalizer`. -/
def NodeClaim.protectedBy (claim : NodeClaim) (finalizer : String) : Bool :=
  claim.finalizers.contains finalizer

/-- `copy.Annotations[AnnotationCreateFence]` set to a record. -/
def NodeClaim.withRecord (claim : NodeClaim) (record : CreateFenceRecord) : NodeClaim :=
  { claim with createFence := .record record }

/-- `VM` of package `cloudapi`: what the store reads of it. -/
structure VM where
  uuid : String
  name : String
  clusterName : String
  nodeClaimName : String
  location : String
  billingAccountID : ℤ
  floatingIPName : String
  publicIPv4 : String
deriving DecidableEq, Repr

/-- The requests of the store. -/
inductive Op
  | get (name : String)
  | update (claim : NodeClaim)
  | now
  | nonce

/-- Their replies; an update answers with its error. -/
abbrev Reply : Op → Type
  | .get _ => Except Err NodeClaim
  | .update _ => Option Err
  | .now => ℤ
  | .nonce => Except Err String

/-- Fallible store code. -/
abbrev Code (α : Type) := ExceptT Err (Prog Op Reply) α

/-- Issue a request. -/
abbrev call (op : Op) : Code (Reply op) := perform op

/-- `kubernetesCreateFenceStore`, as far as it is configuration; `sha256` is
the hexadecimal digest of a text. -/
structure Store where
  sha256 : String → String

variable (s : Store) (claim : NodeClaim) (binding : CreateFenceBinding) (token : String)
  (current : NodeClaim) (record : CreateFenceRecord) (issueID vmUUID : String)
  (stored : CreateFenceRecord) (cleanup : CreateFenceCleanupIdentity)
  (canonical : Option FencedCreateCleanupResolution)

/-- `parseCreateFence` of the fence of a NodeClaim. -/
abbrev Store.parse : Except Err CreateFenceRecord :=
  parseCreateFence s.sha256 claim.createFence binding

structure FirewallAssignmentFence where
  vmUUID : String := ""
  firewallUUID : String := ""
  phase : FirewallAssignmentPhase := .unset
  issueID : String := ""
deriving DecidableEq, Repr

structure CreateFence where
  token : String
  startedAt : ℤ
  baseline : CreateInventory
  issued : Bool
  issuedAt : ℤ
  intent : CreateAuthorizationKind
  issueID : String
  createdVMUUID : String
  hasCleanupHistory : Bool
  rollbackChosen : Bool
  baseFirewallAssignment : FirewallAssignmentFence
deriving DecidableEq, Repr

def firewallAssignmentFenceFromRecord (r : CreateFenceRecord) : FirewallAssignmentFence :=
  match r.baseFirewallAssignment with
  | none => {}
  | some a => ⟨a.vmUUID, a.firewallUUID, a.phase, a.issueID⟩

def fenceFromRecord (r : CreateFenceRecord) : CreateFence :=
  { token := r.token, startedAt := r.startedAt, baseline := r.baseline,
    issued := r.phase != .reserved, issuedAt := r.issuedAt.getD 0, intent := r.intent,
    issueID := r.issueID, createdVMUUID := r.createdVMUUID,
    hasCleanupHistory := !r.cleanupResolutions.isEmpty,
    rollbackChosen := r.phase == .issued && r.rollbackAt.isSome,
    baseFirewallAssignment := firewallAssignmentFenceFromRecord r }

/-! ### Reads -/

def getExact : Code NodeClaim := do
  check (failIf (claim.name = "" ∨ claim.uid = "")
      (.new "durable VM create fencing requires a named NodeClaim with UID"))
  let current ← check (Except.mapError (.within
    ("reading NodeClaim " ++ quote claim.name ++ " for durable VM create fence"))
    (← call (.get claim.name)))
  check (failIf (current.uid ≠ claim.uid ∨ current.deleting)
      (.new ("NodeClaim " ++ quote claim.name ++
        " changed identity or is deleting before VM create")))
  check (failIf (current.generation ≠ claim.generation ∨ current.spec ≠ claim.spec ∨
      current.nodePool ≠ claim.nodePool)
      (.new ("NodeClaim " ++ quote claim.name ++
        " spec or NodePool identity changed before VM create")))
  pure current

def getProtectedExact (action : String) : Code NodeClaim := do
  check (failIf (claim.name = "" ∨ claim.uid = "")
      (.new (action ++ " requires a named NodeClaim with UID")))
  let current ← check (Except.mapError (.within
    ("exact-reading NodeClaim " ++ quote claim.name ++ " to " ++ action))
    (← call (.get claim.name)))
  check (failIf (current.uid ≠ claim.uid ∨ current.protectedBy createFenceFinalizer = false)
      (.new ("NodeClaim " ++ quote claim.name ++
        " changed identity or lost create protection before attempting to " ++ action)))
  pure current

/-- The fence of `current` as Get and Ensure return it. -/
def Store.existing (claim : NodeClaim) (binding : CreateFenceBinding)
    (cleanup : CreateFenceCleanupIdentity) : Except Err CreateFence := do
  let record ← s.parse current binding
  failIf (record.cleanup ≠ cleanup ∨ current.protectedBy createFenceFinalizer = false)
      (.new ("NodeClaim " ++ quote claim.name ++ " durable VM create protection changed"))
  pure (fenceFromRecord record)

def Store.get : Code (NodeClaim × Option CreateFence) := do
  let current ← getExact claim
  if current.createFence = .absent then pure (current, none)
  else
    let fence ← check (s.existing current claim binding cleanup)
    pure (current, some fence)

/-! ### Ensure -/

/-- `newCreateFenceRecord`, with the nonce it has drawn. -/
def newCreateFenceRecord
    (baseline : CreateInventory) (now : ℤ) (token : String) : CreateFenceRecord :=
  { schema := .createFence, binding := binding, cleanup := cleanup, baseline := baseline,
    token := token, phase := .reserved, startedAt := now,
    baseFirewallAssignment :=
      some { firewallUUID := cleanup.firewallUUID, phase := .intent, intentAt := now } }

/-- The object `persist` writes. -/
def NodeClaim.withFence (binding : CreateFenceBinding) (record : CreateFenceRecord) : NodeClaim :=
  { current with
    createFence := .record record
    removalMutation := .record (newRemovalMutationReadyRecord binding record.token record.startedAt)
    finalizers := if current.protectedBy createFenceFinalizer then current.finalizers
      else current.finalizers ++ [createFenceFinalizer] }

/-- What `persist` makes of its read-back. -/
def Store.persisted (readback : NodeClaim) (binding : CreateFenceBinding)
    (record : CreateFenceRecord) : Except Err CreateFence := do
  let name := "NodeClaim " ++ quote current.name
  failIf (readback.uid ≠ current.uid ∨ readback.deleting)
      (.new (name ++ " changed identity or began deletion during durable VM create fence readback"))
  failIf (readback.protectedBy terminationFinalizer = false ∨
      readback.protectedBy createFenceFinalizer = false)
      (.new (name ++ " durable VM create protection finalizers did not survive readback"))
  let stored ← s.parse readback binding
  failIf (stored.token ≠ record.token)
      (.new (name ++ " durable VM create fence token changed during readback"))
  let _ ← Except.mapError (.within (name ++ " initial removal fence did not survive readback"))
    (decodeRemovalMutationRecord readback.removalMutation binding record.token)
  pure (fenceFromRecord stored)

def Store.persist (binding : CreateFenceBinding)
    (record : CreateFenceRecord) : Code (NodeClaim × CreateFence × Bool) := do
  let name := "NodeClaim " ++ quote current.name
  match ← call (.update (current.withFence binding record)) with
  | some e =>
    if e.is .conflict then throw (e.within (name ++ " durable VM create fence CAS conflicted"))
    else throw (e.within ("persisting " ++ name ++ " durable VM create fence"))
  | none =>
    let readback ← check (Except.mapError (.within
      ("reading back " ++ name ++ " durable VM create fence")) (← call (.get current.name)))
    let fence ← check (s.persisted current readback binding record)
    pure (readback, fence, true)

/-- `Ensure`: the flag says whether this attempt may still be issued. -/
def Store.ensure (baseline : CreateInventory) : Code (NodeClaim × CreateFence × Bool) := do
  let current ← getExact claim
  if current.createFence = .absent then
    check (failIf (current.protectedBy terminationFinalizer = false)
        (.new ("NodeClaim " ++ quote claim.name ++
          " lacks Karpenter termination finalizer before VM create")))
    check (Except.mapError (.within "pre-POST cloud inventory") (validateCreateInventory baseline))
    let now ← call .now
    let token ← check (Except.mapError (.within "generating durable VM create fence token")
      (← call .nonce))
    s.persist current binding (newCreateFenceRecord binding cleanup baseline now token)
  else
    let fence ← check (s.existing current claim binding cleanup)
    pure (current, fence, !fence.issued)

/-! ### Authorize -/

/-- The record `Authorize` issues. -/
def issueRecord (assignment : BaseFirewallAssignment) (intent : CreateAuthorizationKind) (now : ℤ)
    (issueID assignmentIssueID : String) : CreateFenceRecord :=
  { record with
    phase := .issued, intent := intent, issueID := issueID, issuedAt := some now,
    baseFirewallAssignment := some { assignment with
      phase := .issued, issueID := assignmentIssueID, issuedAt := some now } }

/-- `stored` is the record this invocation issued. -/
def issuedHere (token : String) (intent : CreateAuthorizationKind)
    (now : ℤ) (issueID assignmentIssueID : String) : Bool :=
  stored.token == token && stored.phase == .issued && stored.intent == intent &&
  stored.issueID == issueID && stored.issuedAt == some now &&
  stored.baseFirewallAssignment.any fun a =>
    a.phase == .issued && a.issueID == assignmentIssueID

/-- The checks of `Authorize` on what it has read. -/
def Store.authorizable (claim : NodeClaim) (binding : CreateFenceBinding)
    (token : String) (intent : CreateAuthorizationKind) : Except Err CreateFenceRecord := do
  let name := "NodeClaim " ++ quote claim.name
  failIf (current.protectedBy terminationFinalizer = false ∨
      current.protectedBy createFenceFinalizer = false)
      (.new (name ++ " lost required create-protection finalizers before VM POST"))
  let record ← s.parse current binding
  failIf (token = "" ∨ record.token ≠ token)
      (.new (name ++ " durable VM create token changed before VM POST"))
  failIf (intent ≠ .post ∧ intent ≠ .adoption)
      (.new (name ++ " VM create authorization has invalid intent " ++ quote intent.text))
  failIf (record.phase ≠ .reserved ∨ record.issuedAt ≠ none ∨ record.rollbackAt ≠ none ∨
      record.cleanupResolutions ≠ [])
      (.wrap .createAttemptPending (name ++ " immutable VM create attempt was already issued"))
  pure record

/-- The pre-VM assignment `Authorize` asks for. -/
def preVMAssignment (claim : NodeClaim) : Except Err BaseFirewallAssignment :=
  match record.baseFirewallAssignment with
  | some a =>
    if a.phase ≠ .intent ∨ a.vmUUID ≠ "" ∨ a.firewallUUID ≠ record.cleanup.firewallUUID ∨
        a.intentAt = 0 then
      .error (.new ("NodeClaim " ++ quote claim.name ++
        " lacks its durable pre-VM base-firewall assignment intent"))
    else .ok a
  | none =>
    .error (.new ("NodeClaim " ++ quote claim.name ++
      " lacks its durable pre-VM base-firewall assignment intent"))

/-- What `Authorize` makes of a failed issue CAS: only this invocation's own
issue ID proves that nobody else holds the authority. -/
def Store.failedIssue (claim : NodeClaim) (binding : CreateFenceBinding)
    (mine : CreateFenceRecord → Bool) (cause : Err) (readback : Except Err NodeClaim) :
    Except Err (NodeClaim × Option Err) :=
  let uncertain : Err := .wrap .createAttemptPending ("NodeClaim " ++ quote claim.name ++
    " VM create issue CAS outcome belongs to another invocation or remains uncertain: " ++
    cause.text)
  match readback with
  | .error _ => .error uncertain
  | .ok readback =>
    match s.parse readback binding with
    | .error _ => .error uncertain
    | .ok stored =>
      if readback.uid = current.uid ∧ mine stored then
        .ok (readback, some ⟨.createAttemptRejected :: cause.kinds,
          "this invocation's issue CAS committed but its response failed before SDK dispatch: "
            ++ cause.text⟩)
      else .error uncertain

/-- What `Authorize` makes of its read-back after the issue CAS: the error it
returns beside the claim, `none` for a granted authority. -/
def Store.confirmIssue (copy claim : NodeClaim) (binding : CreateFenceBinding)
    (mine : CreateFenceRecord → Bool) (readback : Except Err NodeClaim) :
    Except Err (NodeClaim × Option Err) :=
  let name := "NodeClaim " ++ quote claim.name
  match readback with
  | .error e =>
    .ok (copy, some ⟨.createAttemptRejected :: e.kinds, "reading back " ++ name ++
      " issued VM create attempt before SDK dispatch: " ++ e.text⟩)
  | .ok readback =>
    if readback.uid ≠ current.uid ∨ readback.deleting ∨
        readback.protectedBy terminationFinalizer = false ∨
        readback.protectedBy createFenceFinalizer = false then
      .ok (copy, some (.wrap .createAttemptRejected (name ++
        " changed identity, finalizers, or deletion state after issue CAS and before SDK dispatch")))
    else
      match s.parse readback binding with
      | .error e =>
        .ok (copy, some ⟨.createAttemptRejected :: e.kinds, "issued " ++ name ++
          " readback is invalid before SDK dispatch: " ++ e.text⟩)
      | .ok issued =>
        if mine issued then .ok (readback, none)
        else
          .error (.wrap .createAttemptPending (name ++
            " immutable VM create issue is owned by another invocation or changed before SDK dispatch"))

/-- `Authorize`.  The source returns a claim beside some of its errors; those
are the results with an error in them.  The authority to create a VM is a
result without one. -/
def Store.authorize (intent : CreateAuthorizationKind) : Code (NodeClaim × Option Err) := do
  let current ← getExact claim
  let record ← check (s.authorizable current claim binding token intent)
  let now ← call .now
  let issueID ← check (Except.mapError (.within "generating VM create authorization identity")
    (← call .nonce))
  let assignmentIssueID ← check (Except.mapError
    (.within "generating base-firewall assignment authorization identity") (← call .nonce))
  let assignment ← check (preVMAssignment record claim)
  let mine := fun stored => issuedHere stored token intent now issueID assignmentIssueID
  let copy := current.withRecord
    (issueRecord record assignment intent now issueID assignmentIssueID)
  match ← call (.update copy) with
  | some e => check (s.failedIssue current claim binding mine e (← call (.get claim.name)))
  | none => check (s.confirmIssue current copy claim binding mine (← call (.get claim.name)))

/-! ### The loop of the terminal writes -/

/-- `fmt.Errorf("text: %w", lastErr)`, where the last write may have failed
with nothing. -/
def exhausted (text : String) : Option Err → Err
  | some e => e.within text
  | none => .new (text ++ ": %!w(<nil>)")

/-- What an operation makes of the record it has read back. -/
inductive Verdict
  | done
  | failed (e : Err)
  | again

/-- The loop of RecordCreatedVM, ChooseRollback, MarkRejected and
MarkMaterialized.  `plan` looks at the object read: it has nothing to write,
or it gives the record to write.  `verdict` judges the record read back. -/
def Store.casLoop
    (action lost notConverged : String) (plan : NodeClaim → Code (Option CreateFenceRecord))
    (verdict : CreateFenceRecord → Verdict) : ℕ → Option Err → Code NodeClaim
  | 0, lastErr => throw (exhausted notConverged lastErr)
  | attempts + 1, _ => do
    let current ← getProtectedExact claim action
    match ← plan current with
    | none => pure current
    | some record =>
    let writeErr ← call (.update (current.withRecord record))
    match ← call (.get claim.name) with
    | .error e =>
      Store.casLoop action lost notConverged plan verdict attempts
        (some (GoError.joinOpt writeErr e))
    | .ok readback =>
      if readback.uid ≠ current.uid ∨ readback.protectedBy createFenceFinalizer = false then
        throw (.new lost)
      else
        match s.parse readback binding with
        | .error e =>
          Store.casLoop action lost notConverged plan verdict attempts
            (some (GoError.joinOpt writeErr e))
        | .ok stored =>
          match verdict stored with
          | .done => pure readback
          | .failed e => throw e
          | .again =>
            Store.casLoop action lost notConverged plan verdict attempts writeErr

/-! ### RecordCreatedVM -/

def baseFirewallAssignmentMatches (value : Option BaseFirewallAssignment)
    (vmUUID firewallUUID : String) : Bool :=
  value.any fun a => a.vmUUID == toLower vmUUID && a.firewallUUID == firewallUUID

/-- The pre-issued assignment a created VM is anchored to. -/
def preIssuedAssignment : Option BaseFirewallAssignment :=
  record.baseFirewallAssignment.filter fun a =>
    a.phase == .issued && a.vmUUID == "" && a.firewallUUID == record.cleanup.firewallUUID &&
      hex32Pattern a.issueID

/-- What `RecordCreatedVM` writes on the object it has read, if anything. -/
def Store.anchorPlan (current : NodeClaim) : Code (Option CreateFenceRecord) := do
  let name := "NodeClaim " ++ quote claim.name
  let record ← check (s.parse current binding)
  check (failIf (token = "" ∨ record.token ≠ token ∨ record.issueID ≠ issueID ∨ record.issuedAt = none)
      (.new (name ++ " created VM does not match its exact issued attempt")))
  if record.createdVMUUID ≠ "" then
    if record.createdVMUUID = vmUUID ∧ timeSet record.launchObservedAt then
      if baseFirewallAssignmentMatches record.baseFirewallAssignment vmUUID
          record.cleanup.firewallUUID then
        pure none
      else throw (.new (name ++
        " created VM lacks its pre-issued base-firewall assignment receipt"))
    else throw (.new (name ++ " created VM identity changed from " ++ record.createdVMUUID ++
      " to " ++ vmUUID))
  else if record.phase ≠ .issued ∨ record.rollbackAt ≠ none then
    throw (.new (name ++ " cannot anchor a created VM from phase " ++ quote record.phase.text ++
      " or after rollback"))
  else
    match preIssuedAssignment record with
    | none =>
      throw (.new (name ++ " cannot anchor a VM without its pre-issued base-firewall assignment"))
    | some assignment =>
      let now ← call .now
      pure (some { record with
        createdVMUUID := vmUUID, launchObservedAt := some now,
        baseFirewallAssignment := some { assignment with vmUUID := vmUUID } })

/-- What `RecordCreatedVM` makes of its read-back. -/
def anchorVerdict : Verdict :=
  if stored.token = token ∧ stored.issueID = issueID ∧ stored.createdVMUUID = vmUUID ∧
      timeSet stored.launchObservedAt ∧
      baseFirewallAssignmentMatches stored.baseFirewallAssignment vmUUID
        stored.cleanup.firewallUUID then .done
  else if stored.createdVMUUID ≠ "" ∨ stored.phase ≠ .issued ∨ stored.rollbackAt ≠ none then
    .failed (.new ("NodeClaim " ++ quote claim.name ++
      " changed terminal state before the created VM anchor committed"))
  else .again

def Store.recordCreatedVM : Code NodeClaim := do
  let vmUUID := toLower vmUUID
  check (failIf (uuidPatternFold vmUUID = false ∨ hex32Pattern issueID = false)
      (.new "recording a created VM requires canonical VM and issue identities"))
  s.casLoop claim binding "anchor created VM identity"
    ("NodeClaim " ++ quote claim.name ++ " changed identity or lost protection while anchoring created VM")
    ("persisting exact created VM anchor for NodeClaim " ++ quote claim.name ++ " did not converge")
    (s.anchorPlan claim binding token issueID vmUUID) (anchorVerdict claim token issueID vmUUID)
    3 none

/-! ### ChooseRollback -/

/-- The canonical form of the receipt ChooseRollback is given. -/
def canonicalRollbackReceipt (resolution : Option FencedCreateCleanupResolution)
    (vmUUID : String) : Except Err (Option FencedCreateCleanupResolution) :=
  match resolution with
  | none => .ok none
  | some resolution => do
    let value ← normalizeCleanupResolution resolution
    failIf (value.vmUUID ≠ vmUUID)
        (.new ("rollback receipt VM " ++ value.vmUUID ++ " does not match anchored VM " ++ vmUUID))
    pure (some value)

/-- The receipt, if there is one, is in the record's history. -/
def receiptStored : Bool :=
  canonical.all (cleanupResolutionStored record)

/-- The rollback time: the chosen one, or now. -/
def chooseRollbackAt : Code ℤ :=
  match record.rollbackAt with
  | some t => pure t
  | none => call .now

/-- What `ChooseRollback` writes on the object it has read, if anything. -/
def Store.rollbackPlan (current : NodeClaim) : Code (Option CreateFenceRecord) := do
  let name := "NodeClaim " ++ quote claim.name
  let record ← check (s.parse current binding)
  check (failIf (token = "" ∨ record.token ≠ token ∨ record.issueID ≠ issueID ∨ record.issuedAt = none ∨
      record.createdVMUUID ≠ vmUUID ∨ record.launchObservedAt = none)
      (.new (name ++ " rollback does not match its exact anchored create attempt")))
  check (failIf (record.phase = .materialized)
      (.new (name ++ " VM " ++ vmUUID ++ " was already materialized and cannot be rolled back")))
  check (failIf (record.phase ≠ .issued)
      (.new (name ++ " cannot choose rollback from phase " ++ quote record.phase.text)))
  if record.rollbackAt ≠ none ∧ receiptStored record canonical then pure none
  else
    let rollbackAt ← chooseRollbackAt record
    let chosen := { record with
      rollbackAt := some rollbackAt, protectionFailureAt := none, dependentsResolvedAt := none }
    match canonical with
    | none => pure (some { chosen with dependentUnresolved := true })
    | some resolution =>
      let now ← call .now
      let applied ← check (applyCleanupResolution chosen resolution now)
      pure (some { applied with dependentUnresolved := false })

/-- What `ChooseRollback` makes of its read-back. -/
def rollbackVerdict (stored : CreateFenceRecord) : Verdict :=
  if stored.token = token ∧ stored.issueID = issueID ∧ stored.createdVMUUID = vmUUID ∧
      stored.rollbackAt ≠ none ∧ receiptStored stored canonical then .done
  else if stored.phase = .materialized ∨ stored.createdVMUUID ≠ vmUUID then
    .failed (.new ("NodeClaim " ++ quote claim.name ++
      " changed terminal state before rollback committed"))
  else .again

def Store.chooseRollback (resolution : Option FencedCreateCleanupResolution) : Code NodeClaim := do
  let vmUUID := toLower vmUUID
  check (failIf (uuidPatternFold vmUUID = false ∨ hex32Pattern issueID = false)
      (.new "choosing rollback requires canonical VM and issue identities"))
  let canonical ← check (canonicalRollbackReceipt resolution vmUUID)
  s.casLoop claim binding "choose created VM rollback"
    ("NodeClaim " ++ quote claim.name ++ " changed identity or lost protection while choosing rollback")
    ("persisting rollback choice for NodeClaim " ++ quote claim.name ++ " did not converge")
    (s.rollbackPlan claim binding token issueID vmUUID canonical)
    (rollbackVerdict claim token issueID vmUUID canonical) 3 none

/-! ### MarkRejected -/

/-- What `MarkRejected` writes on the object it has read, if anything. -/
def Store.rejectPlan (current : NodeClaim) : Code (Option CreateFenceRecord) := do
  let name := "NodeClaim " ++ quote claim.name
  let record ← check (s.parse current binding)
  check (failIf (token = "" ∨ issueID = "" ∨ record.token ≠ token ∨ record.issueID ≠ issueID ∨
      record.issuedAt = none)
      (.new (name ++ " cannot reject a VM create attempt without its exact issued token")))
  if record.phase = .rejected then pure none
  else if record.createdVMUUID ≠ "" ∨ record.rollbackAt ≠ none ∨ record.cleanupResolutions ≠ [] then
    throw (.new (name ++ " accepted VM " ++ record.createdVMUUID ++
      " and cannot be marked as a rejected POST"))
  else if record.phase ≠ .issued then
    throw (.new (name ++ " cannot reject VM create from phase " ++ quote record.phase.text))
  else
    match record.baseFirewallAssignment.filter fun a => a.phase == .issued && a.vmUUID == "" with
    | none =>
      throw (.new (name ++ " VM rejection lacks its unused base-firewall assignment issue"))
    | some assignment =>
      let now ← call .now
      pure (some { record with
        phase := .rejected,
        baseFirewallAssignment := some { assignment with
          phase := .rejected, rejectedAt := some now } })

/-- What `MarkRejected` makes of its read-back. -/
def rejectVerdict : Verdict :=
  if stored.token = token ∧ stored.issueID = issueID ∧ stored.phase = .rejected ∧
      stored.issuedAt ≠ none then .done
  else if stored.token ≠ token ∨ stored.issueID ≠ issueID ∨ stored.phase ≠ .issued then
    .failed (.new ("NodeClaim " ++ quote claim.name ++
      " changed state before create rejection committed"))
  else .again

def Store.markRejected : Code NodeClaim :=
  s.casLoop claim binding "reject VM create"
    ("NodeClaim " ++ quote claim.name ++ " changed identity or lost protection while rejecting create")
    ("persisting rejected create state for NodeClaim " ++ quote claim.name ++ " did not converge")
    (s.rejectPlan claim binding token issueID) (rejectVerdict claim token issueID) 3 none

/-! ### MarkMaterialized -/

def validateMaterializedVM (vm : Option VM) : Except Err VM :=
  match vm with
  | none => .error (.new "materialized VM does not match the exact durable create identity")
  | some vm =>
    if uuidPatternFold vm.uuid = false ∨ vm.name ≠ record.cleanup.vmName ∨
        vm.clusterName ≠ record.cleanup.clusterName ∨
        vm.nodeClaimName ≠ record.cleanup.nodeClaimName ∨
        vm.location ≠ record.cleanup.location ∨
        vm.billingAccountID ≠ record.cleanup.billingAccountID then
      .error (.new "materialized VM does not match the exact durable create identity")
    else if vm.floatingIPName = "" ∨ vm.publicIPv4 = "" then
      .error (.new "materialized VM lacks durable floating-IP name or address")
    else if record.assignmentPhase ≠ some .observed ∨
        baseFirewallAssignmentMatches record.baseFirewallAssignment vm.uuid
          record.cleanup.firewallUUID = false then
      .error (.new "materialized VM lacks a durable observed base-firewall assignment")
    else if publicIPv4 vm.publicIPv4 = false then
      .error (.new ("materialized VM has invalid public IPv4 " ++ quote vm.publicIPv4))
    else if record.observedVMUUID ≠ "" ∧ (record.observedVMUUID ≠ toLower vm.uuid ∨
        record.floatingIPName ≠ vm.floatingIPName ∨ record.publicIPv4 ≠ vm.publicIPv4) then
      .error (.new "materialized VM identity changed")
    else .ok vm

/-- The receipt of the floating-IP update names the VM to be materialized; a
materialized record of the first schema has no such receipt. -/
def validateUpdateReceipt (name : String) (current : NodeClaim) (binding : CreateFenceBinding)
    (token : String) (record : CreateFenceRecord) (vm : VM) : Except Err Unit :=
  if record.legacyV2 ∧ record.phase = .materialized then .ok ()
  else do
    let update ← Except.mapError (.within (name ++
        " cannot materialize without its durable floating-IP update receipt"))
      (decodeFloatingIPUpdateRecord current.floatingIPUpdate binding token)
    failIf (update.phase ≠ .observed ∨ update.vmUUID ≠ toLower vm.uuid ∨
        update.address ≠ vm.publicIPv4 ∨ update.name ≠ vm.floatingIPName ∨
        update.billingAccountID ≠ vm.billingAccountID)
      (.new (name ++ " floating-IP update receipt does not match materialized VM " ++
        toLower vm.uuid))

/-- What `MarkMaterialized` writes on the object it has read, if anything. -/
def Store.materializePlan (vm : Option VM) (current : NodeClaim) :
    Code (Option CreateFenceRecord) := do
  let name := "NodeClaim " ++ quote claim.name
  check (failIf (current.deleting = false ∧ (current.protectedBy terminationFinalizer = false ∨
      current.generation ≠ claim.generation ∨ current.spec ≠ claim.spec ∨
      current.nodePool ≠ claim.nodePool))
      (.new (name ++ " changed spec, NodePool identity, or Karpenter finalizer before materializing VM identity")))
  let record ← check (s.parse current binding)
  check (failIf (token = "" ∨ record.token ≠ token)
      (.new (name ++ " durable VM create token changed before materialization")))
  let vm ← check (validateMaterializedVM record vm)
  let vmUUID := toLower vm.uuid
  check (validateUpdateReceipt name current binding token record vm)
  check (failIf (record.createdVMUUID ≠ vmUUID ∨ record.launchObservedAt = none)
      (.new (name ++ " cannot materialize VM " ++ vmUUID ++
        " before the exact launch UUID is durable")))
  if record.phase = .materialized then pure none
  else if record.phase ≠ .issued ∨ record.issuedAt = none then
    throw (.new (name ++ " VM create attempt must be durably issued before materialization"))
  else if record.rollbackAt ≠ none ∨ record.cleanupVMUUID ≠ "" ∨ record.cleanupResolutions ≠ [] then
    throw (.new (name ++
      " VM create rollback is already durably chosen and cannot be materialized"))
  else
    let now ← call .now
    pure (some { record with
      phase := .materialized, protectionFailureAt := none, observedAt := some now,
      observedVMUUID := vmUUID, floatingIPName := vm.floatingIPName,
      publicIPv4 := vm.publicIPv4 })

/-- What `MarkMaterialized` makes of its read-back. -/
def materializeVerdict (publicIP : String) (stored : CreateFenceRecord) : Verdict :=
  if stored.phase = .materialized ∧ stored.createdVMUUID = vmUUID ∧
      stored.observedVMUUID = vmUUID ∧ stored.publicIPv4 = publicIP ∧ stored.observedAt ≠ none ∧
      stored.rollbackAt = none then .done
  else if stored.rollbackAt ≠ none ∨ stored.phase ≠ .issued ∨ stored.createdVMUUID ≠ vmUUID then
    .failed (.new ("NodeClaim " ++ quote claim.name ++
      " rollback or another terminal state won before materialization"))
  else .again

/-- `MarkMaterialized`.  A nil VM never gets as far as a write. -/
def Store.markMaterialized (vm : Option VM) : Code NodeClaim :=
  let vmUUID := (vm.map fun vm => toLower vm.uuid).getD ""
  let publicIP := (vm.map fun vm => vm.publicIPv4).getD ""
  s.casLoop claim binding "materialize VM identity"
    ("NodeClaim " ++ quote claim.name ++
      " changed identity or lost protection while materializing VM identity")
    ("persisting materialized VM identity for NodeClaim " ++ quote claim.name ++
      " did not converge")
    (s.materializePlan claim binding token vm) (materializeVerdict claim vmUUID publicIP) 3 none

end InSpaceKube.Karpenter
