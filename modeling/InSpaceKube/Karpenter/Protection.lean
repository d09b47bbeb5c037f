/-
InSpaceKube/Karpenter/Protection.lean

The operations of the create-fence store that look after the VM once it has
been created (`create_fence.go`): RecordProtectionFailure and
ClearProtectionFailure, RecordTerminalCleanup, and the three on the receipt of
the floating-IP update.

The first two share the loop `protectionLoop`, which differs from that of the
other terminal writes only in the error it ends with; RecordTerminalCleanup
uses theirs.  The receipt of the floating-IP update is written like the
removal journal: update, read back, and ask `accept` about what is stored.
-/
import InSpaceKube.Karpenter.CreateFence

namespace InSpaceKube.Karpenter

open Prog

/-! ### RecordProtectionFailure and ClearProtectionFailure -/

/-- The loop of RecordProtectionFailure and ClearProtectionFailure, which
returns the object with the record it has settled on.  `remained` is what it
says of a read-back that has changed nothing. -/
def Store.protectionLoop (s : Store) (claim : NodeClaim) (binding : CreateFenceBinding)
    (action lost notConverged remained : String)
    (plan : NodeClaim → Code (CreateFenceRecord ⊕ CreateFenceRecord))
    (verdict : CreateFenceRecord → Verdict) : ℕ → Option Err → Code (NodeClaim × CreateFenceRecord)
  | 0, lastErr => throw (exhausted notConverged lastErr)
  | attempts + 1, _ => do
    let current ← getProtectedExact claim action
    match ← plan current with
    | .inl record => pure (current, record)
    | .inr record =>
    let writeErr ← call (.update (current.withRecord record))
    match ← call (.get claim.name) with
    | .error e =>
      s.protectionLoop claim binding action lost notConverged remained plan verdict attempts
        (some (GoError.joinOpt writeErr e))
    | .ok readback =>
      if readback.uid ≠ current.uid ∨ readback.protectedBy createFenceFinalizer = false then
        throw (.new lost)
      else
        match s.parse readback binding with
        | .error e =>
          s.protectionLoop claim binding action lost notConverged remained plan verdict
            attempts (some (GoError.joinOpt writeErr e))
        | .ok stored =>
          match verdict stored with
          | .done => pure (readback, stored)
          | .failed e => throw e
          | .again =>
            s.protectionLoop claim binding action lost notConverged remained plan verdict
              attempts (some (GoError.joinOpt writeErr (.new remained)))

variable (s : Store) (claim : NodeClaim) (binding : CreateFenceBinding)
  (token issueID vmUUID : String) (current : NodeClaim)

/-- The record is that of the live attempt anchored to the VM. -/
def Store.liveAnchored (binding : CreateFenceBinding)
    (token issueID vmUUID mismatch : String) : Except Err CreateFenceRecord := do
  let record ← s.parse current binding
  failIf (token = "" ∨ record.token ≠ token ∨ record.issueID ≠ issueID ∨ record.phase ≠ .issued ∨
      record.issuedAt = none ∨ record.createdVMUUID ≠ vmUUID ∨ record.launchObservedAt = none ∨
      record.rollbackAt ≠ none)
      (.new ("NodeClaim " ++ quote claim.name ++ mismatch))
  pure record

/-- What both make of a read-back; `settled` is what the marker has to be. -/
def protectionVerdict (change : String)
    (settled : Option ℤ → Bool) (stored : CreateFenceRecord) : Verdict :=
  if stored.token = token ∧ stored.issueID = issueID ∧ stored.phase = .issued ∧
      stored.createdVMUUID = vmUUID ∧ stored.rollbackAt = none ∧
      settled stored.protectionFailureAt then .done
  else if stored.rollbackAt ≠ none ∨ stored.phase ≠ .issued ∨ stored.createdVMUUID ≠ vmUUID then
    .failed (.new ("NodeClaim " ++ quote claim.name ++
      " changed terminal state before " ++ change ++ " committed"))
  else .again

/-- What `RecordProtectionFailure` writes on the object it has read. -/
def Store.failurePlan : Code (CreateFenceRecord ⊕ CreateFenceRecord) := do
  let record ← check (s.liveAnchored claim current binding token issueID vmUUID
    " protection failure does not match its exact live anchored create attempt")
  if record.protectionFailureAt ≠ none then pure (.inl record)
  else
    let now ← call .now
    pure (.inr { record with protectionFailureAt := some now })

/-- `RecordProtectionFailure`: the object, and since when protection fails. -/
def Store.recordProtectionFailure : Code (NodeClaim × ℤ) := do
  let vmUUID := toLower vmUUID
  check (failIf (uuidPatternFold vmUUID = false ∨ hex32Pattern issueID = false)
      (.new "recording protection failure requires canonical VM and issue identities"))
  let (current, record) ← s.protectionLoop claim binding "record protection failure"
    ("NodeClaim " ++ quote claim.name ++
      " changed identity or lost protection while recording protection failure")
    ("persisting protection failure for NodeClaim " ++ quote claim.name ++ " did not converge")
    "protection failure readback did not contain the durable marker"
    (s.failurePlan claim binding token issueID vmUUID)
    (protectionVerdict claim token issueID vmUUID "protection failure" Option.isSome) 3 none
  pure (current, record.protectionFailureAt.getD 0)

/-- What `ClearProtectionFailure` writes on the object it has read. -/
def Store.recoveryPlan : Code (CreateFenceRecord ⊕ CreateFenceRecord) := do
  let record ← check (s.liveAnchored claim current binding token issueID vmUUID
    " protection recovery does not match its exact live anchored create attempt")
  if record.protectionFailureAt = none then pure (.inl record)
  else pure (.inr { record with protectionFailureAt := none })

def Store.clearProtectionFailure : Code NodeClaim := do
  let vmUUID := toLower vmUUID
  check (failIf (uuidPatternFold vmUUID = false ∨ hex32Pattern issueID = false)
      (.new "clearing protection failure requires canonical VM and issue identities"))
  let (current, _) ← s.protectionLoop claim binding "clear protection failure"
    ("NodeClaim " ++ quote claim.name ++
      " changed identity or lost protection while clearing protection failure")
    ("clearing protection failure for NodeClaim " ++ quote claim.name ++ " did not converge")
    "protection failure marker remained after recovery CAS"
    (s.recoveryPlan claim binding token issueID vmUUID)
    (protectionVerdict claim token issueID vmUUID "protection recovery" Option.isNone) 3 none
  pure current

/-! ### RecordTerminalCleanup -/

def newTerminalCleanupRecord (record : CreateFenceRecord) (observedAt : ℤ) :
    TerminalCleanupRecord :=
  { observedAt := observedAt, vmUUID := record.observedVMUUID,
    floatingIPName := record.floatingIPName, publicIPv4 := record.publicIPv4,
    firewallUUID := record.cleanup.firewallUUID }

def terminalCleanupConverged (r : CreateFenceRecord) : Bool :=
  match r.terminalCleanup with
  | none => false
  | some marker =>
    r.phase == .materialized && marker.observedAt != 0 &&
    r.observedVMUUID != "" && marker.vmUUID == r.observedVMUUID &&
    r.floatingIPName != "" && marker.floatingIPName == r.floatingIPName &&
    r.publicIPv4 != "" && marker.publicIPv4 == r.publicIPv4 &&
    r.cleanup.firewallUUID != "" && marker.firewallUUID == r.cleanup.firewallUUID

def validateTerminalCleanupTarget (record : CreateFenceRecord) (token vmUUID : String) :
    Except Err Unit :=
  if token = "" ∨ record.token ≠ token then
    .error (.new "durable VM create token changed before recording terminal cleanup")
  else if record.phase ≠ .materialized ∨ vmUUID = "" ∨ record.observedVMUUID ≠ vmUUID ∨
      record.rollbackAt ≠ none then
    .error (.new "terminal cleanup can only be recorded for the materialized VM")
  else .ok ()

/-- What `RecordTerminalCleanup` writes on the object it has read, if anything. -/
def Store.terminalCleanupPlan : Code (Option CreateFenceRecord) := do
  let record ← check (s.parse current binding)
  check (Except.mapError (.within ("NodeClaim " ++ quote claim.name))
    (validateTerminalCleanupTarget record token vmUUID))
  if terminalCleanupConverged record then pure none
  else
    let now ← call .now
    pure (some { record with terminalCleanup := some (newTerminalCleanupRecord record now) })

def Store.recordTerminalCleanup : Code NodeClaim :=
  let vmUUID := toLower vmUUID
  s.casLoop claim binding "record terminal cleanup"
    ("NodeClaim " ++ quote claim.name ++
      " changed identity or lost protection while recording terminal cleanup")
    ("persisting terminal cleanup marker for NodeClaim " ++ quote claim.name ++ " did not converge")
    (s.terminalCleanupPlan claim binding token vmUUID)
    (fun stored => if terminalCleanupConverged stored then .done else .again) 3 none

/-! ### The receipt of the floating-IP update -/

def FloatingIPUpdatePhase.text : FloatingIPUpdatePhase → String
  | .issued => "issued"
  | .rejected => "rejected"
  | .observed => "observed"
  | .other text => text

structure FloatingIPUpdateFence where
  vmUUID : String
  address : String
  name : String
  billingAccountID : ℤ
  phase : FloatingIPUpdatePhase
  issueID : String
deriving DecidableEq, Repr

structure FloatingIPUpdateAuthorization where
  fence : FloatingIPUpdateFence
  allowPOST : Bool := false
deriving DecidableEq, Repr

/-- `newFloatingIPUpdateFence`; the fence has no phase yet. -/
def newFloatingIPUpdateFence (address name : String) (billingAccountID : ℤ) :
    Except Err FloatingIPUpdateFence :=
  if uuidPatternFold (toLower vmUUID) = false ∨ name = "" ∨ 128 < byteLength name ∨
      billingAccountID ≤ 0 then
    .error (.new "floating-IP update requires canonical VM, name, and billing identity")
  else if publicIPv4 address = false then
    .error (.new "floating-IP update requires canonical public IPv4 address")
  else .ok ⟨toLower vmUUID, address, name, billingAccountID, .other "", ""⟩

def validateFloatingIPUpdateFence (fence : FloatingIPUpdateFence) : Except Err Unit := do
  let desired ← newFloatingIPUpdateFence fence.vmUUID fence.address fence.name
    fence.billingAccountID
  failIf (hex32Pattern fence.issueID = false ∨
      (fence.phase ≠ .issued ∧ fence.phase ≠ .rejected ∧ fence.phase ≠ .observed) ∨
      desired.vmUUID ≠ fence.vmUUID)
      (.new "floating-IP update receipt has invalid phase or issue identity")

def floatingIPUpdateFenceFromRecord (r : FloatingIPUpdateRecord) : FloatingIPUpdateFence :=
  ⟨r.vmUUID, r.address, r.name, r.billingAccountID, r.phase, r.issueID⟩

def floatingIPUpdateIdentityMatches (record : FloatingIPUpdateRecord)
    (fence : FloatingIPUpdateFence) : Bool :=
  record.vmUUID == toLower fence.vmUUID && record.address == fence.address &&
  record.name == fence.name && record.billingAccountID == fence.billingAccountID

/-- What `persistFloatingIPUpdate` makes of its read-back. -/
def persistedFloatingIPUpdate (record : FloatingIPUpdateRecord)
    (accept : FloatingIPUpdateRecord → Bool) (updateErr : Option Err)
    (readback : Except Err NodeClaim) : Except Err NodeClaim :=
  let name := "NodeClaim " ++ quote current.name
  match readback with
  | .error e =>
    .error ((GoError.joinOpt updateErr e).within
      ("writing and reading back " ++ name ++ " floating-IP update fence"))
  | .ok readback =>
    if readback.uid ≠ current.uid ∨ readback.protectedBy createFenceFinalizer = false then
      .error (.new (name ++
        " changed identity or lost protection during floating-IP update fencing"))
    else
      match decodeFloatingIPUpdateRecord readback.floatingIPUpdate record.binding
          record.attemptToken with
      | .error e => .error (GoError.joinOpt updateErr e)
      | .ok stored =>
        if accept stored then .ok readback
        else
          match updateErr with
          | some e => .error e
          | none => .error (.new (name ++ " floating-IP update fence changed during readback"))

def persistFloatingIPUpdate (record : FloatingIPUpdateRecord)
    (accept : FloatingIPUpdateRecord → Bool) : Code NodeClaim := do
  let updateErr ← call (.update { current with floatingIPUpdate := .record record })
  check (persistedFloatingIPUpdate current record accept updateErr (← call (.get current.name)))

/-- What `AuthorizeFloatingIPUpdate` finds on the object it has read: a receipt
that stands, or `none` where the update is to be issued. -/
def Store.floatingIPUpdateReceipt
    (binding : CreateFenceBinding) (token : String) (desired : FloatingIPUpdateFence) :
    Except Err (CreateFenceRecord × Option FloatingIPUpdateRecord) := do
  let name := "NodeClaim " ++ quote claim.name
  let createRecord ← s.parse current binding
  failIf (token = "" ∨ createRecord.token ≠ token ∨ createRecord.createdVMUUID ≠ desired.vmUUID ∨
      createRecord.launchObservedAt = none)
      (.new (name ++ " floating-IP update lacks the exact anchored VM attempt"))
  if current.floatingIPUpdate = .absent then pure (createRecord, none)
  else
    let record ← decodeFloatingIPUpdateRecord current.floatingIPUpdate binding token
    failIf (floatingIPUpdateIdentityMatches record desired = false)
        (.new (name ++ " floating-IP update identity changed"))
    match record.phase with
    | .issued | .observed => pure (createRecord, some record)
    | .rejected => pure (createRecord, none)
    | .other text =>
      throw (.new (name ++ " has invalid floating-IP update phase " ++ quote text))

/-- The record `AuthorizeFloatingIPUpdate` issues. -/
def issuedFloatingIPUpdate
    (desired : FloatingIPUpdateFence) (issueID : String) (now : ℤ) : FloatingIPUpdateRecord :=
  { schema := floatingIPUpdateFenceSchema, binding := binding, attemptToken := token,
    vmUUID := desired.vmUUID, address := desired.address, name := desired.name,
    billingAccountID := desired.billingAccountID, phase := .issued, issueID := issueID,
    issuedAt := now }

/-- The loop of `AuthorizeFloatingIPUpdate`. -/
def Store.authorizeFloatingIPUpdateLoop (desired : FloatingIPUpdateFence) :
    ℕ → NodeClaim → Option Err → Code (NodeClaim × FloatingIPUpdateAuthorization)
  | 0, claim, lastErr =>
    throw (exhausted ("persisting issued floating-IP update for NodeClaim " ++
      quote claim.name ++ " did not converge") lastErr)
  | attempts + 1, claim, _ => do
    let current ← getProtectedExact claim "authorize floating-IP metadata update"
    let (createRecord, receipt) ←
      check (s.floatingIPUpdateReceipt claim current binding token desired)
    match receipt with
    | some record => pure (current, { fence := floatingIPUpdateFenceFromRecord record })
    | none =>
      let issueID ← check (Except.mapError
        (.within "generating floating-IP update issue identity") (← call .nonce))
      let now ← call .now
      let record := issuedFloatingIPUpdate binding token desired issueID now
      match ← attempt (persistFloatingIPUpdate current record fun stored =>
          stored.phase == .issued && stored.issueID == issueID && stored.issuedAt == now) with
      | .ok written =>
        pure (written, { fence := floatingIPUpdateFenceFromRecord record,
                         allowPOST := !createRecord.legacyV2FloatingIPMayBeIssued })
      | .error e => Store.authorizeFloatingIPUpdateLoop desired attempts current (some e)

def Store.authorizeFloatingIPUpdate (address name : String) (billingAccountID : ℤ) :
    Code (NodeClaim × FloatingIPUpdateAuthorization) := do
  let desired ← check (newFloatingIPUpdateFence vmUUID address name billingAccountID)
  s.authorizeFloatingIPUpdateLoop binding token desired 4 claim none

/-- What `finishFloatingIPUpdate` writes on the object it has read, if anything. -/
def finishFloatingIPUpdatePlan (binding : CreateFenceBinding)
    (token : String) (fence : FloatingIPUpdateFence) (terminal : FloatingIPUpdatePhase) :
    Code (Option FloatingIPUpdateRecord) := do
  let name := "NodeClaim " ++ quote claim.name
  let record ← check (decodeFloatingIPUpdateRecord current.floatingIPUpdate binding token)
  check (failIf (floatingIPUpdateIdentityMatches record fence = false ∨
      record.issueID ≠ fence.issueID) (.new (name ++ " floating-IP update identity changed")))
  if record.phase = terminal then pure none
  else
    check (failIf (record.phase ≠ .issued)
        (.new (name ++ " floating-IP update does not match its issued receipt")))
    let now ← call .now
    if terminal = .observed then
      pure (some { record with phase := terminal, observedAt := some now, rejectedAt := none })
    else
      pure (some { record with phase := terminal, rejectedAt := some now, observedAt := none })

/-- The loop of `finishFloatingIPUpdate`. -/
def finishFloatingIPUpdateLoop (fence : FloatingIPUpdateFence) (terminal : FloatingIPUpdatePhase) :
    ℕ → NodeClaim → Option Err → Code NodeClaim
  | 0, claim, lastErr =>
    throw (exhausted ("persisting terminal floating-IP update for NodeClaim " ++
      quote claim.name ++ " did not converge") lastErr)
  | attempts + 1, claim, _ => do
    let current ← getProtectedExact claim "finish floating-IP metadata update"
    match ← finishFloatingIPUpdatePlan claim current binding token fence terminal with
    | none => pure current
    | some record =>
      match ← attempt (persistFloatingIPUpdate current record fun stored =>
          stored.phase == terminal && stored.issueID == fence.issueID &&
            floatingIPUpdateIdentityMatches stored fence) with
      | .ok written => pure written
      | .error e => finishFloatingIPUpdateLoop fence terminal attempts current (some e)

def finishFloatingIPUpdate
    (fence : FloatingIPUpdateFence) (terminal : FloatingIPUpdatePhase) : Code NodeClaim := do
  check (Except.mapError (.within "finishing floating-IP update requires exact identity")
    (validateFloatingIPUpdateFence fence))
  check (failIf (terminal ≠ .observed ∧ terminal ≠ .rejected)
      (.new ("finishing floating-IP update requires a terminal phase, got " ++
        quote terminal.text)))
  finishFloatingIPUpdateLoop binding token fence terminal 3 claim none

def observeFloatingIPUpdate (fence : FloatingIPUpdateFence) : Code NodeClaim :=
  finishFloatingIPUpdate claim binding token fence .observed

def rejectFloatingIPUpdate (fence : FloatingIPUpdateFence) : Code NodeClaim :=
  finishFloatingIPUpdate claim binding token fence .rejected

end InSpaceKube.Karpenter
