/-
InSpaceKube/Karpenter/Controller.lean

One pass of the create-protection controller (`create_fence_controller.go`).

A pass reads the NodeClaim, makes sure it has a removal journal, and then does
one thing: it waits, chooses rollback, applies the result an operator has
written down, has the cloud protect the anchored VM, or has the cloud clean up
and writes down what that has found.

While a call to the cloud is under way, the cloud asks for receipts through
the callbacks of the request.  Here such a call is a conversation (`talk`):
the cloud answers with the next callback, or with its result.  It may ask for
anything in any order; `rounds` bounds how often it does.

The record a pass works with is that of its first read, also when it writes
beside the callbacks: they move `nodeClaim` on, but not `record`.
-/
import InSpaceKube.Karpenter.Slot

namespace InSpaceKube.Karpenter

open Prog

/-- `reconcile.Result`; a delay is in nanoseconds. -/
inductive ReconcileResult
  | done
  | requeue
  | requeueAfter (delay : ℤ)
deriving DecidableEq, Repr

def createFenceCleanupRequeue : ℤ := 10 * 1000000000

def createProtectionIssueDeadline : ℤ := 2 * 60 * 1000000000

/-! ### Calls to the cloud -/

/-- The request of a pass. -/
def cleanupRequest (record : CreateFenceRecord) (resolutions : List FencedCreateCleanupResolution)
    (update : Option FloatingIPUpdateRecord) : FencedCreateCleanupRequest :=
  let fresh (vmUUID : String) : Bool := !record.baseline.vms.contains vmUUID
  let converged (resolution : FencedCreateCleanupResolution) : Bool :=
    terminalCleanupConverged record &&
    resolution == ⟨record.observedVMUUID, record.floatingIPName, record.publicIPv4⟩
  let cleaned := record.cleanupVMUUID != ""
  { identity := record.cleanup, specHash := record.binding.specHash,
    bootstrapHash := record.binding.bootstrapHash, attemptToken := record.token,
    attemptIssuedAt := record.issuedAt.getD 0,
    postIssued := record.issuedAt.isSome && record.intent == .post,
    postRejected := record.phase == .rejected && record.intent == .post,
    attemptResolved := record.phase == .materialized || record.phase == .rejected ||
      record.intent == .adoption || (resolutions.any fun resolution => fresh resolution.vmUUID) ||
      (record.createdVMUUID != "" && fresh record.createdVMUUID),
    createdVMUUID := toLower record.createdVMUUID,
    rollbackChosen := record.phase == .issued && record.rollbackAt.isSome,
    dependentUnresolved := record.dependentUnresolved,
    dependentsResolved := record.dependentsResolvedAt.isSome,
    observedVMUUID := if cleaned then record.cleanupVMUUID else toLower record.observedVMUUID,
    floatingIPName := if cleaned then record.cleanupFloatingIPName else record.floatingIPName,
    publicIPv4 := if cleaned then record.cleanupPublicIPv4 else record.publicIPv4,
    resolutions := resolutions.map fun resolution => (resolution, converged resolution),
    baseline := record.baseline,
    baseFirewallAssignment := firewallAssignmentFenceFromRecord record,
    floatingIPUpdate := (update.filter fun update =>
      update.phase == .issued || update.phase == .observed).map floatingIPUpdateFenceFromRecord }

/-- The object an operation has come to, or the old one if it has failed. -/
def moved {α : Type} (nodeClaim : NodeClaim) (updated : α → NodeClaim) (result : Except Err α) :
    NodeClaim :=
  match result with
  | .ok a => updated a
  | .error _ => nodeClaim

/-- A callback of the cloud: what `nodeClaim` is after it. -/
def SlotStore.callback (s : SlotStore) (record : CreateFenceRecord) (nodeClaim : NodeClaim) :
    Callback → FenceCode NodeClaim
  | .authorizeBaseFirewall vmUUID => do
    let result ← attempt (s.authorizeBaseFirewall nodeClaim record.binding record.token vmUUID)
    pure (moved nodeClaim (fun r => r.1) result)
  | .observeBaseFirewall vmUUID issueID => do
    let result ← attempt (s.observeBaseFirewall nodeClaim record.binding record.token vmUUID issueID)
    pure (moved nodeClaim (fun r => if r.2 = none then r.1 else nodeClaim) result)
  | .rejectBaseFirewall vmUUID issueID => do
    let result ← attempt (s.rejectBaseFirewall nodeClaim record.binding record.token vmUUID issueID)
    pure (moved nodeClaim (fun r => if r.2 = none then r.1 else nodeClaim) result)
  | .authorizeBaseFirewallDetach vmUUID => do
    let _ ← attempt (s.authorizeBaseFirewallDetach nodeClaim record.binding record.token vmUUID)
    pure nodeClaim
  | .observeBaseFirewallDetach fence => do
    let _ ← attempt (s.observeBaseFirewallDetach nodeClaim record.binding record.token fence)
    pure nodeClaim
  | .rejectBaseFirewallDetach fence => do
    let _ ← attempt (s.rejectBaseFirewallDetach nodeClaim record.binding record.token fence)
    pure nodeClaim
  | .authorizeFloatingIPUpdate vmUUID address name billingAccountID => do
    let result ← attempt (lift (s.authorizeFloatingIPUpdate nodeClaim record.binding record.token
      vmUUID address name billingAccountID))
    pure (moved nodeClaim (fun r => r.1) result)
  | .observeFloatingIPUpdate fence => do
    let result ← attempt (lift (observeFloatingIPUpdate nodeClaim record.binding record.token fence))
    pure (moved nodeClaim id result)
  | .rejectFloatingIPUpdate fence => do
    let result ← attempt (lift (rejectFloatingIPUpdate nodeClaim record.binding record.token fence))
    pure (moved nodeClaim id result)
  | .authorizeRemovalMutation mutation present => do
    let result ← attempt (lift (s.authorizeRemovalMutation nodeClaim record.binding record.token
      mutation present))
    pure (moved nodeClaim (fun r => r.1) result)
  | .observeRemovalMutation fence => do
    let result ← attempt (lift (s.observeRemovalMutation nodeClaim record.binding record.token fence))
    pure (moved nodeClaim id result)
  | .rejectRemovalMutation fence => do
    let result ← attempt (lift (s.rejectRemovalMutation nodeClaim record.binding record.token fence))
    pure (moved nodeClaim id result)

variable (s : SlotStore) (rounds : ℕ) (nodeClaim : NodeClaim) (record : CreateFenceRecord)
  (update : Option FloatingIPUpdateRecord) (request : FencedCreateCleanupRequest)

/-- A call to the cloud with the callbacks it makes. -/
def SlotStore.talk (call : CloudCall) : ℕ → NodeClaim → FenceCode (NodeClaim × CloudResult)
  | 0, _ => outOfRounds
  | rounds + 1, nodeClaim => do
    match ← ask (.cloud call) with
    | .done result => pure (nodeClaim, result)
    | .callback request =>
      let nodeClaim ← s.callback record nodeClaim request
      SlotStore.talk call rounds nodeClaim

/-! ### Writing down what a cleanup has found -/

def SlotStore.persistDependentResolution : FenceCode Unit := do
  let name := "NodeClaim " ++ quote nodeClaim.name
  check (failIf (record.dependentUnresolved = false ∨ record.rollbackAt = none ∨
      record.createdVMUUID = "")
      (.new (name ++ " has no unresolved anchored dependent to complete")))
  let now ← ask (.store .now)
  let resolved := { record with dependentUnresolved := false, dependentsResolvedAt := some now }
  match ← ask (.store (.update (nodeClaim.withRecord resolved))) with
  | some e => throw (e.within ("persisting " ++ name ++ " dependent absence proof"))
  | none =>
  let readback ← check (Except.mapError
    (.within ("reading back " ++ name ++ " dependent absence proof"))
    (← ask (.store (.get nodeClaim.name))))
  check (failIf (readback.uid ≠ nodeClaim.uid ∨ readback.protectedBy createFenceFinalizer = false)
      (.new (name ++ " changed identity or lost protection while persisting dependent absence")))
  let stored ← check (decodeCreateFence s.sha256 readback.createFence)
  check (failIf (stored.dependentUnresolved ∨ timeSet stored.dependentsResolvedAt = false ∨
      stored.rollbackAt = none ∨ stored.createdVMUUID ≠ record.createdVMUUID)
      (.new (name ++ " dependent absence proof did not survive exact readback")))

/-- `netip.ParseAddr` gives a global unicast IPv4 address. -/
def globalUnicastIPv4 (s : String) : Bool := (parseIPv4 s).any isGlobalUnicast

/-- The receipt of the VM itself, before another one is added. -/
def withObservedReceipt : Except Err (List FencedCreateCleanupResolution) :=
  if record.observedVMUUID = "" then .ok record.cleanupResolutions
  else appendCleanupResolution record.cleanupResolutions
    ⟨record.observedVMUUID, record.floatingIPName, record.publicIPv4⟩

/-- The record `persistCleanupResolution` writes, at the time `now`. -/
def resolvedRecord
    (resolution : FencedCreateCleanupResolution) (now : ℤ) : Except Err CreateFenceRecord := do
  let name := "NodeClaim " ++ quote nodeClaim.name
  let vmUUID := toLower resolution.vmUUID
  failIf (uuidPatternFold resolution.vmUUID = false ∨ resolution.floatingIPName = "")
      (.new "cloud returned an incomplete fenced cleanup resolution")
  failIf (globalUnicastIPv4 resolution.publicIPv4 = false)
      (.new ("cloud returned invalid fenced cleanup public IPv4 " ++ quote resolution.publicIPv4))
  failIf (record.cleanupVMUUID = vmUUID ∧
      record.cleanupFloatingIPName = resolution.floatingIPName ∧
      record.cleanupPublicIPv4 = resolution.publicIPv4)
      (.new ("cloud rediscovered fenced VM " ++ vmUUID ++
        " without consuming its durable cleanup receipt"))
  let resolutions ← Except.mapError
    (.within ("recording " ++ name ++ " materialized cleanup receipt")) (withObservedReceipt record)
  let applied ← Except.mapError (.within ("recording " ++ name ++ " cleanup receipt"))
    (applyCleanupResolution { record with cleanupResolutions := resolutions } resolution now)
  if record.createdVMUUID ≠ "" ∧ equalFold record.createdVMUUID resolution.vmUUID then
    pure { applied with dependentUnresolved := false, dependentsResolvedAt := none }
  else pure applied

def SlotStore.persistCleanupResolution (resolution : FencedCreateCleanupResolution) :
    FenceCode Unit := do
  let name := "NodeClaim " ++ quote nodeClaim.name
  let now ← ask (.store .now)
  let resolved ← check (resolvedRecord nodeClaim record resolution now)
  match ← ask (.store (.update (nodeClaim.withRecord resolved))) with
  | some e => throw (e.within ("persisting " ++ name ++ " fenced cleanup resolution"))
  | none =>
  let readback ← check (Except.mapError
    (.within ("reading back " ++ name ++ " fenced cleanup resolution"))
    (← ask (.store (.get nodeClaim.name))))
  check (failIf (readback.uid ≠ nodeClaim.uid ∨ readback.protectedBy createFenceFinalizer = false)
      (.new (name ++
        " changed identity or lost create protection while persisting cleanup resolution")))
  let stored ← check (decodeCreateFence s.sha256 readback.createFence)
  check (failIf (stored.cleanupVMUUID ≠ toLower resolution.vmUUID ∨
      stored.cleanupFloatingIPName ≠ resolution.floatingIPName ∨
      stored.cleanupPublicIPv4 ≠ resolution.publicIPv4)
      (.new (name ++ " fenced cleanup resolution did not survive exact readback")))

/-! ### Letting go of the NodeClaim -/

/-- The function `removeProtection` retries: the finalizer goes, and the fence
with it, unless the fence is no longer the one that was audited. -/
def release : FenceCode Unit := do
  let name := "NodeClaim " ++ quote nodeClaim.name
  match ← ask (.store (.get nodeClaim.name)) with
  | .error e => check (failIf (e.is .notFound = false) e)
  | .ok exact =>
    check (failIf (exact.uid ≠ nodeClaim.uid)
        (.new (name ++ " UID changed before create-protection release")))
    if exact.protectedBy createFenceFinalizer = false then pure ()
    else
      check (failIf (exact.deleting = false ∨ exact.createFence ≠ nodeClaim.createFence ∨
          exact.resolution ≠ nodeClaim.resolution)
          (.new (name ++ " create-protection state changed after cloud cleanup audit")))
      let released := { exact with
        finalizers := exact.finalizers.filter fun finalizer => finalizer != createFenceFinalizer,
        createFence := .absent }
      match ← ask (.store (.update released)) with
      | some e => throw e
      | none => pure ()

/-- `retry.RetryOnConflict` of `removeProtection`. -/
def releaseLoop : ℕ → Option Err → FenceCode Unit
  | 0, lastErr =>
    throw (exhausted ("NodeClaim " ++ quote nodeClaim.name ++
      " create-protection CAS did not converge after bounded retries") lastErr)
  | attempts + 1, _ => do
    match ← attempt (release nodeClaim) with
    | .ok () => pure ()
    | .error e =>
      if e.is .conflict then releaseLoop attempts (some e)
      else check (failIf (e.is .notFound = false) e)

def removeProtection : FenceCode Unit := releaseLoop nodeClaim 5 none

/-! ### The result of an operator -/

def createFenceResolutionSchema : String := "karpenter.inspace.cloud/create-fence-resolution-v1"

def createFenceResolutionVM : String := "vm"

def createFenceResolutionNoResult : String := "no-result"

def decodeCreateFenceOperatorResolution (value : AnnotationValue OperatorResolution) :
    Except Err OperatorResolution :=
  match value with
  | .absent => .error (.new "create-fence operator resolution is empty or oversized")
  | .malformed => .error (.new "decoding create-fence operator resolution")
  | .record resolution =>
    if resolution.schema ≠ createFenceResolutionSchema ∨
        hex32Pattern resolution.issueID = false then
      .error (.new "create-fence operator resolution has invalid schema or issue identity")
    else if resolution.result = createFenceResolutionVM then
      if uuidPatternFold (toLower resolution.vmUUID) = false then
        .error (.new "VM create-fence resolution requires a canonical VM UUID")
      else .ok { resolution with vmUUID := toLower resolution.vmUUID }
    else if resolution.result = createFenceResolutionNoResult then
      if resolution.vmUUID ≠ "" then
        .error (.new "no-result create-fence resolution cannot include a VM UUID")
      else .ok resolution
    else
      .error (.new ("unsupported create-fence operator result " ++ quote resolution.result))

def clearOperatorCreateFenceResolution : FenceCode Unit := do
  let name := "NodeClaim " ++ quote nodeClaim.name
  match ← ask (.store (.update { nodeClaim with resolution := .absent })) with
  | some e => throw (e.within ("clearing " ++ name ++ " consumed create-fence resolution"))
  | none =>
  let readback ← check (Except.mapError
    (.within ("reading back " ++ name ++ " consumed create-fence resolution"))
    (← ask (.store (.get nodeClaim.name))))
  check (failIf (readback.uid ≠ nodeClaim.uid ∨ readback.resolution ≠ .absent ∨
      readback.protectedBy createFenceFinalizer = false)
      (.new (name ++ " operator resolution clear did not survive exact readback")))

/-- The case of `resolveOperatorCreateFence` for a VM. -/
def SlotStore.resolveVM (vmUUID : String) : FenceCode ReconcileResult := do
  if (record.phase = .materialized ∨ record.phase = .issued) ∧ record.createdVMUUID = vmUUID then
    clearOperatorCreateFenceResolution nodeClaim
    pure .requeue
  else
    check (failIf (record.phase ≠ .issued ∨ record.createdVMUUID ≠ "" ∨ record.rollbackAt ≠ none)
        (.new ("NodeClaim " ++ quote nodeClaim.name ++
          " cannot apply a VM result to create-fence phase " ++ quote record.phase.text)))
    let candidate := { request with createdVMUUID := vmUUID }
    let (nodeClaim, result) ← s.talk record (.protectFencedCreate candidate) rounds nodeClaim
    match result.err with
    | some e => throw (e.within ("validating and protecting operator-resolved VM " ++ vmUUID))
    | none =>
      let anchored ← withErr (lift (s.recordCreatedVM nodeClaim record.binding record.token
        record.issueID vmUUID)) (.within ("persisting operator-resolved VM " ++ vmUUID))
      clearOperatorCreateFenceResolution anchored
      pure .requeue

/-- The case of `resolveOperatorCreateFence` for no result. -/
def SlotStore.resolveNoResult : FenceCode ReconcileResult := do
  if record.phase = .rejected ∧ record.createdVMUUID = "" then
    clearOperatorCreateFenceResolution nodeClaim
    pure .requeue
  else
    check (failIf (record.phase ≠ .issued ∨ record.createdVMUUID ≠ "" ∨ record.rollbackAt ≠ none)
        (.new ("NodeClaim " ++ quote nodeClaim.name ++
          " cannot apply no-result to create-fence phase " ++ quote record.phase.text)))
    let (nodeClaim, result) ← s.talk record (.cleanupFencedCreate request) rounds nodeClaim
    check (failIf (result.resolution ≠ none ∨ result.dependentsResolved)
        (.new "operator no-result audit discovered a cloud result; resolve the exact VM instead"))
    let failed := "operator no-result audit did not produce three authoritative empty observations"
    match result.err with
    | none => throw (exhausted failed none)
    | some auditErr =>
      if auditErr.is .createAttemptPending then
        pure (.requeueAfter createFenceCleanupRequeue)
      else if auditErr.is .createAttemptUnresolved = false then throw (auditErr.within failed)
      else
        let rejected ← withErr (lift (s.markRejected nodeClaim record.binding record.token
          record.issueID)) (.within "persisting support-confirmed no-result create fence")
        clearOperatorCreateFenceResolution rejected
        pure .requeue

def SlotStore.resolveOperatorCreateFence
    (resolution : OperatorResolution) : FenceCode ReconcileResult := do
  check (failIf (record.issueID = "" ∨ resolution.issueID ≠ record.issueID)
      (.new ("NodeClaim " ++ quote nodeClaim.name ++
        " operator resolution issue ID does not match the exact durable attempt")))
  if resolution.result = createFenceResolutionVM then
    s.resolveVM rounds nodeClaim record request resolution.vmUUID
  else if resolution.result = createFenceResolutionNoResult then
    s.resolveNoResult rounds nodeClaim record request
  else
    throw (.new ("unsupported operator create-fence result " ++ quote resolution.result))

/-! ### Protecting the anchored VM -/

def floatingIPUpdateForProtection : Except Err (Option FloatingIPUpdateRecord) :=
  let name := "NodeClaim " ++ quote nodeClaim.name
  if nodeClaim.floatingIPUpdate = .absent then .ok none
  else do
    let update ← Except.mapError (.within (name ++ " floating-IP protection receipt"))
      (decodeFloatingIPUpdateRecord nodeClaim.floatingIPUpdate record.binding record.token)
    failIf (update.vmUUID ≠ record.createdVMUUID ∨
        update.billingAccountID ≠ record.cleanup.billingAccountID)
        (.new (name ++ " floating-IP protection receipt does not match its exact created VM"))
    pure (some update)

/-- What `readProtectionState` makes of the object it has read. -/
def Store.protectionState (s : Store) (nodeClaim current : NodeClaim) :
    Except Err (CreateFenceRecord × Option FloatingIPUpdateRecord) := do
  failIf (current.uid ≠ nodeClaim.uid ∨ current.protectedBy createFenceFinalizer = false)
      (.new "NodeClaim changed identity or lost create protection")
  let record ← decodeCreateFence s.sha256 current.createFence
  failIf (record.binding.nodeClaimUID ≠ current.uid ∨ record.cleanup.nodeClaimName ≠ current.name)
      (.new "durable create protection changed exact NodeClaim identity")
  let update ← floatingIPUpdateForProtection current record
  pure (record, update)

def SlotStore.readProtectionState :
    FenceCode (NodeClaim × CreateFenceRecord × Option FloatingIPUpdateRecord) := do
  let current ← check (← ask (.store (.get nodeClaim.name)))
  let (record, update) ← check (s.protectionState nodeClaim current)
  pure (current, record, update)

def unresolvedProtectionIssuedAt : Option ℤ :=
  let firewall := (record.baseFirewallAssignment.filter fun a => a.phase == .issued).bind fun a =>
    if timeSet a.issuedAt then a.issuedAt else record.issuedAt
  let floatingIP := (update.filter fun u => u.phase == .issued).bind fun u =>
    if u.issuedAt ≠ 0 then some u.issuedAt else record.issuedAt
  firewall.or floatingIP

/-- The receipt that goes with a rollback, out of the floating-IP update. -/
def rollbackResolution : Option FencedCreateCleanupResolution :=
  (update.filter fun u => u.phase == .issued || u.phase == .observed).map fun u =>
    ⟨u.vmUUID, u.name, u.address⟩

/-- A protection that has failed for too long ends in a rollback. -/
def SlotStore.giveUpProtection (protectErr : Err) : FenceCode ReconcileResult := do
  match ← attempt (lift (s.chooseRollback nodeClaim record.binding record.token record.issueID
      record.createdVMUUID (rollbackResolution update))) with
  | .error e =>
    throw ((GoError.join protectErr e).within ("protecting anchored VM " ++
      record.createdVMUUID ++ " failed and persisting rollback also failed"))
  | .ok _ => pure .requeue

/-- The cloud could not protect the VM: wait, or give up. -/
def SlotStore.protectionFailed (protectErr : Err) : FenceCode ReconcileResult := do
  let (nodeClaim, record, update) ← withErr (s.readProtectionState nodeClaim)
    (.within ("refreshing NodeClaim " ++ quote nodeClaim.name ++
      " protection state after cloud audit failed"))
  if record.rollbackAt ≠ none then pure .requeue
  else
    match unresolvedProtectionIssuedAt record update with
    | some issuedAt =>
      let now ← ask (.store .now)
      if now < issuedAt + createProtectionIssueDeadline then
        pure (.requeueAfter createFenceCleanupRequeue)
      else s.giveUpProtection nodeClaim record update protectErr
    | none =>
      if protectErr.is .createAttemptPending then
        let (nodeClaim, failureAt) ← withErr (lift (s.recordProtectionFailure nodeClaim
          record.binding record.token record.issueID record.createdVMUUID))
          (.within ("persisting anchored VM " ++ record.createdVMUUID ++ " protection failure"))
        let now ← ask (.store .now)
        if now < failureAt + createProtectionIssueDeadline then
          pure (.requeueAfter createFenceCleanupRequeue)
        else s.giveUpProtection nodeClaim record update protectErr
      else s.giveUpProtection nodeClaim record update protectErr

/-- The anchored VM of a NodeClaim that is to stay is protected again. -/
def SlotStore.protect : FenceCode ReconcileResult := do
  let (nodeClaim, result) ← s.talk record (.protectFencedCreate request) rounds nodeClaim
  match result.err with
  | some protectErr => s.protectionFailed nodeClaim protectErr
  | none =>
    if record.protectionFailureAt ≠ none then
      let _ ← withErr (lift (s.clearProtectionFailure nodeClaim record.binding record.token
        record.issueID record.createdVMUUID))
        (.within ("clearing anchored VM " ++ record.createdVMUUID ++
          " protection failure after successful readback"))
      pure .requeue
    else pure (.requeueAfter createFenceCleanupRequeue)

/-! ### Cleaning up -/

/-- The end of a pass that cleans up. -/
def SlotStore.cleanUp (deleting : Bool) (nodeClaim : NodeClaim) (record : CreateFenceRecord)
    (request : FencedCreateCleanupRequest) : FenceCode ReconcileResult := do
  let (nodeClaim, result) ← s.talk record (.cleanupFencedCreate request) rounds nodeClaim
  match result.resolution, result.dependentsResolved, result.err with
  | some _, true, _ =>
    throw (.new "cloud returned both a fenced cleanup receipt and dependent-absence proof")
  | some _, false, some e =>
    throw (e.within "cloud returned both fenced cleanup resolution and error")
  | some resolution, false, none =>
    s.persistCleanupResolution nodeClaim record resolution
    pure .requeue
  | none, true, some e => throw (e.within "cloud returned dependent-absence proof with an error")
  | none, true, none =>
    s.persistDependentResolution nodeClaim record
    pure .requeue
  | none, false, none =>
    if deleting then removeProtection nodeClaim
    pure .done
  | none, false, some e =>
    if e.is .cloudNotFound then
      if deleting then removeProtection nodeClaim
      pure .done
    else if e.is .createAttemptPending then pure (.requeueAfter createFenceCleanupRequeue)
    else throw e

/-! ### The pass -/

/-- The receipt in the history that names the anchored VM. -/
def anchorReceipt : Option FencedCreateCleanupResolution :=
  record.cleanupResolutions.find? fun resolution =>
    equalFold resolution.vmUUID record.createdVMUUID

/-- The removal journal of the NodeClaim, opened if it has none. -/
def SlotStore.ensureJournal : FenceCode NodeClaim := do
  let name := "NodeClaim " ++ quote nodeClaim.name
  if nodeClaim.removalMutation = .absent then
    check (failIf (nodeClaim.deleting ∨ (record.phase = .issued ∧ record.rollbackAt ≠ none))
        (.new (name ++ " lacks a removal mutation fence established before deletion/rollback")))
    withErr (lift (s.ensureRemovalFence nodeClaim record.binding record.token))
      (.within ("initializing " ++ name ++ " removal mutation fence"))
  else
    let _ ← check (Except.mapError (.within (name ++ " removal mutation fence"))
      (decodeRemovalMutationRecord nodeClaim.removalMutation record.binding record.token))
    pure nodeClaim

/-- The pass from where the fence and the journal have been read; `deleting`
is that of the first read. -/
def SlotStore.reconcileFence (deleting : Bool)
    (nodeClaim : NodeClaim) (record : CreateFenceRecord) : FenceCode ReconcileResult := do
  let name := "NodeClaim " ++ quote nodeClaim.name
  check (failIf (record.phase = .issued ∧ record.issuedAt = none)
      (.new ("issued " ++ name ++ " fence has no durable issue time")))
  if deleting ∧ nodeClaim.providerID ≠ "" ∧ nodeClaim.protectedBy terminationFinalizer then
    pure (.requeueAfter createFenceCleanupRequeue)
  else if deleting ∧ record.phase = .issued ∧ record.createdVMUUID ≠ "" ∧
      record.rollbackAt = none then
    let _ ← withErr (lift (s.chooseRollback nodeClaim record.binding record.token record.issueID
      record.createdVMUUID (anchorReceipt record)))
      (.within ("persisting deletion rollback for anchored VM " ++ record.createdVMUUID))
    pure .requeue
  else
    let resolutions ← check (Except.mapError (.within (name ++ " materialized cleanup receipt"))
      (withObservedReceipt record))
    let update ← check (floatingIPUpdateForProtection nodeClaim record)
    let request := cleanupRequest record resolutions update
    if nodeClaim.resolution ≠ .absent then
      let resolution ← check (Except.mapError
        (.within (name ++ " operator create-fence resolution"))
        (decodeCreateFenceOperatorResolution nodeClaim.resolution))
      s.resolveOperatorCreateFence rounds nodeClaim record request resolution
    else if deleting = false ∧ ¬ (record.phase = .issued ∧ record.rollbackAt ≠ none) then
      if record.phase = .issued ∧ record.createdVMUUID ≠ "" then
        s.protect rounds nodeClaim record request
      else pure .done
    else s.cleanUp rounds deleting nodeClaim record request

def SlotStore.reconcile : FenceCode ReconcileResult := do
  let name := "NodeClaim " ++ quote nodeClaim.name
  if nodeClaim.protectedBy createFenceFinalizer = false then pure .done
  else
    match ← ask (.store (.get nodeClaim.name)) with
    | .error e => if e.is .notFound then pure .done else throw e
    | .ok exact =>
      check (failIf (exact.uid ≠ nodeClaim.uid)
          (.new (name ++ " UID changed before create-protection reconciliation")))
      if exact.protectedBy createFenceFinalizer = false then pure .done
      else
        let record ← check (Except.mapError
          (.within (name ++ " create-protection finalizer has no valid fence"))
          (decodeCreateFence s.sha256 exact.createFence))
        check (failIf (record.binding.nodeClaimUID ≠ exact.uid ∨
            record.cleanup.nodeClaimName ≠ exact.name)
            (.new (name ++ " create-protection identity does not match its UID/name")))
        let current ← s.ensureJournal exact record
        s.reconcileFence rounds exact.deleting current record

end InSpaceKube.Karpenter
