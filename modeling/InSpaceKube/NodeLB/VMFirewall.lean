/-
InSpaceKube/NodeLB/VMFirewall.lean

Changes of a per-VM firewall under the receipt of its anchor
(`node_loadbalancer_vm_firewall_state.go`, `_delete.go`, and the renames of
`_migration_adopt.go` and `_reverse_adopt.go`).

A change goes through the anchor in three writes.  It is staged: the next
ledger becomes pending.  It is issued: the receipt gets an issue id and a time,
in a write of its own before the call.  It is resolved from a listing: the
pending ledger becomes the applied one if the firewall carries its rules, or
the receipt is reset once the call can no longer be under way and the firewall
is as it was.  All writes go through `updateVMFirewallAnchor`; what each makes
of the object it finds is one `Mutation` below, with the checks it makes.

`vmFirewallStep` is one step of a Service that wants an entry on a VM or off
it.  `resolveVMFirewallReceipt` settles whatever receipt it finds, among them a
staged delete (`deleteVMFirewall`).  `runVMFirewallMutation` makes a create or a
PUT, `adoptVMFirewallMigration` and `unadoptVMFirewallReverse` make the renames.
-/
import InSpaceKube.NodeLB.RelationFence

namespace InSpaceKube.NodeLB.Receipts

open Prog

/-! ### Mutations of an anchor -/

/-- What a write makes of the object it finds: an error, no change, or a change. -/
abbrev Mutation := Object → Except Err (Option Object)

/-- A change of the annotations. -/
def Object.annotate (o : Object) (f : AnchorAnnotations → AnchorAnnotations) : Object :=
  { o with fw := f o.fw }

/-- The absence counter is taken off. -/
def AnchorAnnotations.withoutAbsence (a : AnchorAnnotations) : AnchorAnnotations :=
  { a with absenceCount := .none, absenceCheckedAt := .absent }

/-- Staging: a receipt is written where there is none, over the applied ledger
that was read.  `more` is what else must be as it was; keys `fill` does not name
keep what they hold. -/
def stageReceipt (appliedRaw : LedgerText) (more : AnchorAnnotations → Bool) (refusal : String)
    (fill : Receipt → Receipt) : Mutation := fun cm => do
  failIf (cm.fw.hasReceipt ∨ cm.fw.applied ≠ appliedRaw ∨ ¬ more cm.fw) (.new refusal)
  return some (cm.withReceipt (fill cm.fw.receipt))

/-- The write of `stageVMFirewallMutation`. -/
def stageMutation (op : PendingOp) (appliedRaw pendingRaw : LedgerText) (pendingHash : String)
    (now : Time) : Mutation :=
  stageReceipt appliedRaw (fun _ => true)
    "public-node-local: the VM firewall anchor changed before the mutation was staged"
    fun r => { r with pending := pendingRaw, pendingHash := pendingHash, pendingOp := op,
                      pendingAt := .at now }

/-- The write of `stageVMFirewallAdopt`. -/
def stageAdopt (appliedRaw pendingRaw : LedgerText) (pendingHash adoptUUID : String) (now : Time) :
    Mutation :=
  stageReceipt appliedRaw (fun a => a.uuid == "")
    "public-node-local: the VM firewall anchor changed before the adopt was staged"
    fun r => { r with pending := pendingRaw, pendingHash := pendingHash, pendingOp := .adopt,
                      pendingAt := .at now, adoptUUID := adoptUUID }

/-- The write of `stageVMFirewallUnadopt`. -/
def stageUnadopt (appliedRaw pendingRaw : LedgerText) (policy uuid : String) (now : Time) :
    Mutation :=
  stageReceipt appliedRaw (fun a => a.uuid == uuid)
    "public-node-local: the VM firewall anchor changed before the rename was staged"
    fun r => { r with pending := pendingRaw, pendingHash := policy, pendingOp := .unadopt,
                      pendingAt := .at now, adoptUUID := uuid }

/-- The write of `stageVMFirewallDelete`. -/
def stageDelete (appliedRaw empty : LedgerText) (now : Time) : Mutation :=
  stageReceipt appliedRaw (fun _ => true)
    "public-node-local: the VM firewall anchor changed before the delete was staged"
    fun r => { r with pending := empty, pendingOp := .delete, pendingAt := .at now }

/-- The write of `issueVMFirewallMutation`. -/
def issueMutation (staged : Object) (token : String) (now : Time) : Mutation := fun cm => do
  failIf (cm.fw.receipt.pending ≠ staged.fw.receipt.pending ∨
      cm.fw.receipt.pendingAt ≠ staged.fw.receipt.pendingAt ∨ cm.fw.receipt.issuedAt ≠ .absent)
    (.new "public-node-local: the staged VM firewall mutation changed before it was issued")
  return some (cm.withReceipt { cm.fw.receipt with issuedAt := .at now, issueID := token })

/-- The write of `resetVMFirewallReceipt`. -/
def resetMutation (expected : Receipt) : Mutation := fun cm => do
  failIf (cm.fw.receipt ≠ expected)
    (.new "public-node-local: the VM firewall receipt changed before it was reset")
  return some ((cm.withReceipt .none).annotate AnchorAnnotations.withoutAbsence)

/-- The pending ledger becomes the applied one. -/
def AnchorAnnotations.commit (a : AnchorAnnotations) (uuid : String) (now : Time) :
    AnchorAnnotations :=
  { a.withoutAbsence with
    repair := a.repair && decide (a.receipt.pending ≠ a.applied)
    applied := a.receipt.pending
    appliedHash := a.receipt.pendingHash
    appliedAt := .at now
    uuid := uuid
    receipt := .none }

/-- The write of `commitVMFirewallMutation`. -/
def commitMutation (expected : Receipt) (uuid : String) (now : Time) : Mutation := fun cm => do
  failIf (cm.fw.receipt ≠ expected ∨ cm.fw.receipt.pending = .none)
    (.new "public-node-local: the VM firewall receipt changed before its commit")
  return some (cm.annotate fun a => a.commit uuid now)

/-- The write of `retireAbsentVMFirewallCreate`. -/
def countMutation (expected : Receipt) (count : ℤ) (now : Time) : Mutation := fun cm => do
  failIf (cm.fw.receipt ≠ expected)
    (.new "public-node-local: the VM firewall receipt changed before its absence was recorded")
  return some (cm.annotate fun a =>
    { a with absenceCount := .count count, absenceCheckedAt := .at now })

/-- A ledger is written without a receipt, over the applied one that was read. -/
def ledgerMutation (appliedRaw nextRaw : LedgerText) (refusal : String) : Mutation := fun cm => do
  failIf (cm.fw.hasReceipt ∨ cm.fw.applied ≠ appliedRaw) (.new refusal)
  return some (cm.annotate fun a => { a with applied := nextRaw })

/-- A new attach starts a new settle. -/
def clearAttached : Mutation := fun cm =>
  if cm.fw.attachedAt = .absent then .ok none
  else .ok (some (cm.annotate fun a => { a with attachedAt := .absent }))

/-- The attach has just been read back. -/
def stampAttached (now : Time) : Mutation := fun cm =>
  if cm.fw.attachedAt ≠ .absent then .ok none
  else .ok (some (cm.annotate fun a => { a with attachedAt := .at now }))

/-- The firewall of a staged delete is not listed: it becomes the target. -/
def targetMutation (uuid : String) : Mutation := fun cm =>
  if cm.fw.deleteTarget ≠ "" then .ok none
  else .ok (some (cm.annotate fun a => { a with deleteTarget := uuid }))

/-- One more absent read of a staged delete. -/
def absentMutation (uuid : String) (seen : CountText) (count : ℤ) (now : Time) : Mutation :=
  fun cm => do
    failIf (cm.fw.deleteTarget ≠ uuid ∨ cm.fw.absenceCount ≠ seen) (.new
      "public-node-local: the VM firewall delete receipt changed during its absence proof")
    return some (cm.annotate fun a =>
      { a with absenceCount := .count count, absenceCheckedAt := .at now })

/-- The write of `issueVMFirewallDelete`. -/
def issueDeleteMutation (uuid : String) (now : Time) : Mutation := fun cm => do
  failIf (cm.fw.receipt.pendingOp ≠ .delete ∨ cm.fw.deleteIssued ≠ .absent)
    (.new "public-node-local: the VM firewall delete changed before it was issued")
  return some (cm.annotate fun a =>
    { a.withoutAbsence with deleteTarget := uuid, deleteIssued := .at now })

/-- The write of `clearVMFirewallDeleteIssue`. -/
def clearDeleteMutation (clearAbsence clearIssued : Bool) : Mutation := fun cm =>
  let a := if clearAbsence then cm.fw.withoutAbsence else cm.fw
  let a := if clearIssued then { a with deleteIssued := .absent } else a
  if a = cm.fw then .ok none else .ok (some (cm.annotate fun _ => a))

/-- The write of `writeVMFirewallMigrationPlan`. -/
def planMutation (from_ next : MigrationText) : Mutation := fun cm =>
  if cm.fw.migration = next then .ok none
  else if cm.fw.migration ≠ from_ then
    .error (.new "public-node-local: the migration record changed before its phase was advanced")
  else .ok (some (cm.annotate fun a => { a with migration := next }))

/-- The write of `rebuildVMFirewallAnchor`. -/
def rebuildMutation (uuid : String) (ledger : LedgerText) (actual : String) (now : Time) :
    Mutation := fun cm => do
  failIf (cm.fw.hasReceipt ∨ cm.fw.applied ≠ .none)
    (.new "public-node-local: the VM firewall anchor changed during its rebuild")
  return some (cm.annotate fun a =>
    { a with uuid := uuid, applied := ledger, appliedHash := actual, appliedAt := .at now })

/-- A write that has to change something. -/
def requireChanged (what : String) (result : Object × Bool) : Except Err Object := do
  failIf (result.2 = false) (.new ("public-node-local: " ++ what))
  return result.1

section Effects

variable {base o staged : Object} {appliedRaw raw : LedgerText} {now : Time} {r : Receipt}
  {uuid : String}

theorem stageReceipt_ok {more : AnchorAnnotations → Bool} {refusal : String}
    {fill : Receipt → Receipt} (h : stageReceipt appliedRaw more refusal fill base = .ok (some o)) :
    base.fw.hasReceipt = false ∧ base.fw.applied = appliedRaw ∧
      o = base.withReceipt (fill base.fw.receipt) := by
  obtain ⟨_, hok, h⟩ := except_bind_ok h
  have hno := failIf_ok hok
  cases h
  refine ⟨?_, not_not.1 fun hne => hno (.inr (.inl hne)), rfl⟩
  rw [← Bool.not_eq_true]
  exact fun hyes => hno (.inl hyes)

theorem issueMutation_ok {token : String} (h : issueMutation staged token now base = .ok (some o)) :
    base.fw.receipt.pending = staged.fw.receipt.pending ∧ base.fw.receipt.issuedAt = .absent ∧
      o = base.withReceipt { base.fw.receipt with issuedAt := .at now, issueID := token } := by
  obtain ⟨_, hok, h⟩ := except_bind_ok h
  have hno := failIf_ok hok
  cases h
  exact ⟨not_not.1 fun hne => hno (.inl hne), not_not.1 fun hne => hno (.inr (.inr hne)), rfl⟩

theorem resetMutation_ok (h : resetMutation r base = .ok (some o)) : base.fw.receipt = r ∧
    o = (base.withReceipt .none).annotate AnchorAnnotations.withoutAbsence := by
  obtain ⟨_, hok, h⟩ := except_bind_ok h
  cases h
  exact ⟨not_not.1 (failIf_ok hok), rfl⟩

theorem commitMutation_ok (h : commitMutation r uuid now base = .ok (some o)) :
    base.fw.receipt = r ∧ r.pending ≠ .none ∧ o = base.annotate fun a => a.commit uuid now := by
  obtain ⟨_, hok, h⟩ := except_bind_ok h
  have hno := failIf_ok hok
  have hr : base.fw.receipt = r := not_not.1 fun hne => hno (.inl hne)
  cases h
  exact ⟨hr, fun hp => hno (.inr (hr ▸ hp)), rfl⟩

theorem countMutation_ok {n : ℤ} (h : countMutation r n now base = .ok (some o)) :
    base.fw.receipt = r ∧ o = base.annotate fun a =>
      { a with absenceCount := .count n, absenceCheckedAt := .at now } := by
  obtain ⟨_, hok, h⟩ := except_bind_ok h
  cases h
  exact ⟨not_not.1 (failIf_ok hok), rfl⟩

theorem ledgerMutation_ok {refusal : String}
    (h : ledgerMutation appliedRaw raw refusal base = .ok (some o)) :
    base.fw.hasReceipt = false ∧ base.fw.applied = appliedRaw ∧
      o = base.annotate fun a => { a with applied := raw } := by
  obtain ⟨_, hok, h⟩ := except_bind_ok h
  have hno := failIf_ok hok
  cases h
  refine ⟨?_, not_not.1 fun hne => hno (.inr hne), rfl⟩
  rw [← Bool.not_eq_true]
  exact fun hyes => hno (.inl hyes)

theorem targetMutation_ok (h : targetMutation uuid base = .ok (some o)) :
    base.fw.deleteTarget = "" ∧ o = base.annotate fun a => { a with deleteTarget := uuid } := by
  unfold targetMutation at h
  split at h
  · cases h
  · rename_i hno
    cases h
    exact ⟨not_not.1 hno, rfl⟩

theorem absentMutation_ok {seen : CountText} {n : ℤ}
    (h : absentMutation uuid seen n now base = .ok (some o)) : base.fw.deleteTarget = uuid ∧
    base.fw.absenceCount = seen ∧ o = base.annotate fun a =>
      { a with absenceCount := .count n, absenceCheckedAt := .at now } := by
  obtain ⟨_, hok, h⟩ := except_bind_ok h
  have hno := failIf_ok hok
  cases h
  exact ⟨not_not.1 fun hne => hno (.inl hne), not_not.1 fun hne => hno (.inr hne), rfl⟩

theorem issueDeleteMutation_ok (h : issueDeleteMutation uuid now base = .ok (some o)) :
    base.fw.receipt.pendingOp = .delete ∧ base.fw.deleteIssued = .absent ∧
      o = base.annotate fun a =>
        { a.withoutAbsence with deleteTarget := uuid, deleteIssued := .at now } := by
  obtain ⟨_, hok, h⟩ := except_bind_ok h
  have hno := failIf_ok hok
  cases h
  exact ⟨not_not.1 fun hne => hno (.inl hne), not_not.1 fun hne => hno (.inr hne), rfl⟩

/-- Which of the two is cleared does not matter later, only that nothing else is
touched. -/
theorem clearDeleteMutation_ok {clearAbsence clearIssued : Bool}
    (h : clearDeleteMutation clearAbsence clearIssued base = .ok (some o)) :
    ∃ count checkedAt issued,
      (issued = base.fw.deleteIssued ∨ issued = .absent) ∧
      (count = .none ∧ checkedAt = .absent ∨
        count = base.fw.absenceCount ∧ checkedAt = base.fw.absenceCheckedAt) ∧
      o = base.annotate fun a =>
        { a with absenceCount := count, absenceCheckedAt := checkedAt, deleteIssued := issued } := by
  have written : ∀ a : AnchorAnnotations,
      (if a = base.fw then Except.ok none else .ok (some (base.annotate fun _ => a)) :
        Except Err (Option Object)) = .ok (some o) → o = base.annotate fun _ => a := by
    intro a h
    split at h
    · cases h
    · cases h
      rfl
  cases clearAbsence <;> cases clearIssued
  · exact ⟨_, _, _, .inl rfl, .inr ⟨rfl, rfl⟩, written _ h⟩
  · exact ⟨_, _, _, .inr rfl, .inr ⟨rfl, rfl⟩, written _ h⟩
  · exact ⟨_, _, _, .inl rfl, .inl ⟨rfl, rfl⟩, written _ h⟩
  · exact ⟨_, _, _, .inr rfl, .inl ⟨rfl, rfl⟩, written _ h⟩

theorem planMutation_ok {from_ next : MigrationText}
    (h : planMutation from_ next base = .ok (some o)) :
    o = base.annotate fun a => { a with migration := next } := by
  unfold planMutation at h
  split at h
  · cases h
  · split at h
    · cases h
    · cases h
      rfl

theorem rebuildMutation_ok {actual : String}
    (h : rebuildMutation uuid raw actual now base = .ok (some o)) :
    base.fw.hasReceipt = false ∧ base.fw.applied = .none ∧ o = base.annotate fun a =>
      { a with uuid := uuid, applied := raw, appliedHash := actual, appliedAt := .at now } := by
  obtain ⟨_, hok, h⟩ := except_bind_ok h
  have hno := failIf_ok hok
  cases h
  refine ⟨?_, not_not.1 fun hne => hno (.inr hne), rfl⟩
  rw [← Bool.not_eq_true]
  exact fun hyes => hno (.inl hyes)

end Effects

variable (cfg : Config)

/-! ### Staging, issuing, resetting, committing -/

variable (networkUUID : String) (rounds : ℕ) (vmUUID : String) (issued anchor : Object)
  (applied : VMLedger) (firewall : Firewall) (uuid : String) (items : List Firewall) (now : Time)

def stageVMFirewallMutation (op : PendingOp)
    (appliedRaw pendingRaw : LedgerText) (pendingHash : String) : M Object := do
  let now ← look .now
  let result ← updateVMFirewallAnchor cfg vmUUID anchor
    (stageMutation op appliedRaw pendingRaw pendingHash now)
  check (requireChanged "the VM firewall mutation was not staged" result)

def stageVMFirewallAdopt (adoptUUID : String)
    (pendingRaw : LedgerText) (pendingHash : String) : M Object := do
  let now ← look .now
  let result ← updateVMFirewallAnchor cfg vmUUID anchor
    (stageAdopt anchor.fw.applied pendingRaw pendingHash adoptUUID now)
  check (requireChanged "the VM firewall adopt was not staged" result)

def stageVMFirewallUnadopt (pendingRaw : LedgerText) (policy : String) : M Object := do
  let now ← look .now
  let result ← updateVMFirewallAnchor cfg vmUUID anchor
    (stageUnadopt anchor.fw.applied pendingRaw policy anchor.fw.uuid now)
  check (requireChanged "the VM firewall rename was not staged" result)

def issueVMFirewallMutation (staged : Object) : M Object := do
  let token ← check (← look .token)
  let now ← look .now
  let result ← updateVMFirewallAnchor cfg vmUUID staged (issueMutation staged token now)
  check (requireChanged "the VM firewall mutation was not issued" result)

def resetVMFirewallReceipt : M Unit := do
  let _ ← withErr (updateVMFirewallAnchor cfg vmUUID anchor (resetMutation anchor.fw.receipt))
    (.within "public-node-local: reset the VM firewall receipt")
  return ()

def commitVMFirewallMutation : M Unit := do
  let now ← look .now
  let result ← withErr (updateVMFirewallAnchor cfg vmUUID anchor
      (commitMutation anchor.fw.receipt firewall.uuid now))
    (.within "public-node-local: commit the VM firewall mutation")
  let _ ← check (requireChanged "the VM firewall mutation was not committed" result)
  return ()

/-! ### Ledgers without a PUT -/

def stageVMFirewallDelete (delta : VMDelta) (firewall : Option Firewall) : M Unit := do
  check ((← look (.authorizeDelta delta anchor firewall)).mapError (.within
    ("public-node-local: reject VM firewall delete for " ++ anchor.fw.vm ++ " at final authority")))
  let empty ← check (encodeVMFirewallLedger cfg .empty)
  let now ← look .now
  let result ← updateVMFirewallAnchor cfg vmUUID anchor (stageDelete anchor.fw.applied empty now)
  let _ ← check (requireChanged "the VM firewall delete was not staged" result)
  return ()

def removeVMFirewallEntryLedgerOnly
    (delta : VMDelta) (firewall : Option Firewall) (next : VMLedger) : M Unit := do
  let (owned, absent) ← reads (vmCloudAuthority cfg networkUUID vmUUID)
  check (failIf (owned = true ∨ absent = false) (.new
    ("public-node-local: a ledger-only removal needs VM " ++ vmUUID ++ " to be gone, and it is not")))
  if next.members = [] then stageVMFirewallDelete cfg vmUUID anchor delta firewall
  else do
    check ((← look (.authorizeDelta delta anchor firewall)).mapError (.within
      ("public-node-local: reject ledger-only VM firewall removal for " ++ vmUUID)))
    let nextRaw ← check (encodeVMFirewallLedger cfg next)
    let result ← updateVMFirewallAnchor cfg vmUUID anchor (ledgerMutation anchor.fw.applied nextRaw
      "public-node-local: the VM firewall anchor changed before the ledger-only removal")
    let _ ← check (requireChanged "the ledger-only removal was not persisted" result)
    return ()

def commitVMFirewallLedgerUnchanged (delta : VMDelta)
    (next : VMLedger) (firewall : Option Firewall) : M Unit := do
  check ((← look (.authorizeDelta delta anchor firewall)).mapError (.within
    ("public-node-local: reject the VM firewall ledger change for " ++ vmUUID
      ++ " at final authority")))
  let nextRaw ← check (encodeVMFirewallLedger cfg next)
  let result ← updateVMFirewallAnchor cfg vmUUID anchor (ledgerMutation anchor.fw.applied nextRaw
    "public-node-local: the VM firewall anchor changed before the ledger change")
  let _ ← check (requireChanged "the VM firewall ledger change was not persisted" result)
  return ()

/-! ### The delete -/

def clearVMFirewallDeleteIssue (clearAbsence clearIssued : Bool) : M Unit := do
  let _ ← updateVMFirewallAnchor cfg vmUUID anchor (clearDeleteMutation clearAbsence clearIssued)
  return ()

/-- The end of a refused or blocked delete: the issue is taken back. -/
def rejectDelete {α : Type} (vmUUID : String) (issued : Object) (cause : Err) : M α := do
  let rejection := cause.within ("public-node-local: reject VM firewall delete for " ++ vmUUID
    ++ " at final authority")
  match ← attempt (clearVMFirewallDeleteIssue cfg vmUUID issued false true) with
  | .error e => throw (rejection.join e)
  | .ok _ => throw rejection

/-- The checks between the issue of a delete and the call. -/
def authorizeDelete : Q Unit := do
  match ← getVMFirewallAnchor cfg vmUUID with
  | none => throw (.new "the delete receipt changed after it was issued")
  | some current => do
    check (failIf (current.uid ≠ issued.uid ∨ current.fw.deleteIssued ≠ .at now ∨
        current.fw.receipt.pendingOp ≠ .delete)
      (.new "the delete receipt changed after it was issued"))
    let fresh ← exactNodeLoadBalancerFirewallFresh firewall.uuid
    check (failIf (¬ firewallAuthorityUnchanged firewall fresh)
      (.new ("firewall " ++ firewall.uuid ++ " changed after the delete was issued")))
    check (validateNodeLoadBalancerVMFirewallIdentity cfg fresh vmUUID)
    check (failIf (fresh.resources ≠ [])
      (.new ("firewall " ++ firewall.uuid ++ " is still attached")))

/-- The call of a delete, and what its error means. -/
def sendDelete : M Bool := do
  match ← ask (.deleteFirewall uuid) with
  | .ok _ => return false
  | .error e =>
    let deleteErr := e.within ("public-node-local: delete VM firewall " ++ uuid)
    if mutationKnownPreDispatch deleteErr then do
      match ← attempt (clearVMFirewallDeleteIssue cfg vmUUID issued false true) with
      | .error e => throw (deleteErr.join e)
      | .ok _ => throw deleteErr
    else throw (deleteErr.join (vmFirewallWait retry
      ("public-node-local: VM firewall " ++ uuid ++ " delete is ambiguous")))

def issueVMFirewallDelete : M Bool := do
  let now ← look .now
  let result ← updateVMFirewallAnchor cfg vmUUID anchor (issueDeleteMutation firewall.uuid now)
  let issued ← check (requireChanged "the VM firewall delete was not issued" result)
  match ← attempt (reads (authorizeDelete cfg vmUUID issued firewall now)) with
  | .error e => rejectDelete cfg vmUUID issued e
  | .ok _ => sendDelete cfg vmUUID issued firewall.uuid

/-- The anchor is deleted, under the UID it was read with. -/
def deleteAnchor (fresh : Object) : M Unit := do
  match ← ask (.delete vmUUID fresh.uid) with
  | .ok _ => return ()
  | .error e =>
    if e.is .notFound then return ()
    else throw (e.within "public-node-local: delete the VM firewall anchor")

/-- The finalizer is taken off and the anchor deleted. -/
def dropAnchor (fresh : Object) : M Unit := do
  match ← ask (.update (.anchor vmUUID) { fresh with finalizer := false }) with
  | .conflict e => throw (e.within "public-node-local: remove the VM firewall anchor finalizer")
  | .failed e => throw (e.within "public-node-local: remove the VM firewall anchor finalizer")
  | .ok _ => deleteAnchor vmUUID fresh

/-- The end of a reverse migration is remembered on the anchors still to come. -/
def stampIfReverse (fresh : Object) : M Unit :=
  match fresh.fw.migration with
  | .plan p =>
    if p.direction = .reverse then do check (← ask .stampReverseDone) else pure ()
  | _ => pure ()

def finalizeVMFirewallAnchor : M Unit := do
  check (vmFirewallNamespace cfg)
  match ← look (.get (.anchor vmUUID)) with
  | .error e => throw (e.within "public-node-local: read the VM firewall anchor to finalize it")
  | .ok none => return ()
  | .ok (some fresh) => do
    check (failIf (fresh.uid ≠ anchor.uid ∨ fresh.fw.deleteTarget ≠ anchor.fw.deleteTarget ∨
        fresh.fw.receipt.pendingOp ≠ .delete)
      (.new ("public-node-local: the VM firewall delete receipt changed before the anchor was "
        ++ "finalized")))
    stampIfReverse fresh
    dropAnchor vmUUID fresh

/-- Every attachment is taken off, one relation after the other. -/
def detachRows : List String → M Bool
  | [] => pure false
  | row :: rest => do
    let fence : Fence := ⟨.unassign, uuid, row, "", .absent, .absent, .absent⟩
    if ← reconcileRelation cfg networkUUID (.anchor vmUUID) rounds (some fence) then
      detachRows rest
    else return false

/-- The firewall is listed although its DELETE was issued. -/
def awaitDelete : M Bool := do
  if anchor.fw.absenceCount ≠ .none then do
    clearVMFirewallDeleteIssue cfg vmUUID anchor true false
    return false
  else
    match anchor.fw.deleteIssued with
    | .at issuedAt =>
      let wait := issuedAt + retireDelay - now
      if 0 < wait then throw (vmFirewallWait (min wait retry) ("public-node-local: VM firewall "
        ++ uuid ++ " was deleted but is still listed; waiting"))
      else do
        clearVMFirewallDeleteIssue cfg vmUUID anchor false true
        return false
    | _ => throw (corruptVMFirewallLedger ("anchor " ++ vmFirewallAnchorName vmUUID
        ++ " delete-issued is unreadable"))

/-- The part of `deleteVMFirewall` for a firewall that is listed. -/
def deleteListed : M Bool := do
  check ((validateNodeLoadBalancerVMFirewallIdentity cfg firewall vmUUID).mapError fun e =>
    vmFirewallDrift vmUUID ("refusing to delete firewall " ++ firewall.uuid ++ ": " ++ e.text))
  let rows ← check (nodeLoadBalancerFirewallAssignmentVMs firewall)
  if rows ≠ [] then detachRows cfg networkUUID rounds vmUUID firewall.uuid rows
  else if anchor.fw.deleteIssued ≠ .absent then awaitDelete cfg vmUUID anchor firewall.uuid now
  else issueVMFirewallDelete cfg vmUUID anchor firewall

/-- How many absent reads the anchor has, once the last is old enough. -/
def absentReads : Except Err ℤ :=
  match anchor.fw.absenceCount with
  | .none => .ok 0
  | .other text => .error (corruptVMFirewallLedger ("anchor " ++ vmFirewallAnchorName vmUUID
      ++ " absence count " ++ quote text))
  | .count count => do
    failIf (count < 1 ∨ absenceConfirmations < count) (corruptVMFirewallLedger ("anchor "
      ++ vmFirewallAnchorName vmUUID ++ " absence count " ++ quote (formatInt count)))
    match anchor.fw.absenceCheckedAt with
    | .at checked => do
      failIf (0 < checked + absenceDelay cfg - now) (vmFirewallWait
        (checked + absenceDelay cfg - now) ("public-node-local: VM firewall " ++ anchor.fw.uuid
          ++ ": waiting for the next spaced absent read"))
      return count
    | _ => .error (corruptVMFirewallLedger ("anchor " ++ vmFirewallAnchorName vmUUID
        ++ " absence-checked-at is unreadable"))

/-- The part of `deleteVMFirewall` for a firewall that is not listed. -/
def deleteAbsent : M Bool := do
  if anchor.fw.deleteTarget = "" then do
    let _ ← updateVMFirewallAnchor cfg vmUUID anchor (targetMutation anchor.fw.uuid)
    return false
  else do
    let count ← check (absentReads cfg vmUUID anchor now)
    if absenceConfirmations ≤ count + 1 then do
      finalizeVMFirewallAnchor cfg vmUUID anchor
      return true
    else do
      let _ ← updateVMFirewallAnchor cfg vmUUID anchor
        (absentMutation anchor.fw.uuid anchor.fw.absenceCount (count + 1) now)
      throw (vmFirewallWait (absenceDelay cfg) ("public-node-local: VM firewall " ++ anchor.fw.uuid
        ++ ": absent read " ++ formatInt (count + 1) ++ " recorded"))

/-- Nothing may carry a name that has to be free. -/
def refuseAny (found : Option Firewall) (refusal : Firewall → Err) : Except Err Unit :=
  match found with
  | some other => .error (refusal other)
  | none => .ok ()

/-- The rows of a listing with a UUID: none, the exact one, or no unique one. -/
def deleteRow (uuid : String) : Except Err (Option Firewall) :=
  match items.filter fun f => equalFold f.uuid uuid with
  | [] => .ok none
  | [f] => if f.uuid = uuid then .ok (some f) else .error (.new ("public-node-local: firewall UUID "
      ++ uuid ++ " has 1 case-folded rows during its delete"))
  | rows => .error (.new ("public-node-local: firewall UUID " ++ uuid ++ " has "
      ++ toString rows.length ++ " case-folded rows during its delete"))

/-- `deleteVMFirewall`: a staged delete is carried one durable step further. -/
def deleteVMFirewall : M Bool := do
  let uuid := anchor.fw.uuid
  check (failIf (anchor.fw.receipt.pendingOp ≠ .delete ∨ ¬ validNodeLoadBalancerCloudUUID uuid)
    (corruptVMFirewallLedger ("anchor " ++ vmFirewallAnchorName vmUUID
      ++ " has no valid staged delete")))
  if anchor.relation.issued ≠ .none then do
    let _ ← reconcileRelation cfg networkUUID (.anchor vmUUID) rounds none
    return false
  else do
    let items ← check ((← look (.listFirewalls .deleteVMFirewall)).mapError (.within
      ("public-node-local: list firewalls to delete the VM firewall of " ++ vmUUID)))
    let now ← look .now
    let row ← check (deleteRow items uuid)
    check (failIf (anchor.fw.deleteTarget ≠ "" ∧ anchor.fw.deleteTarget ≠ uuid)
      (corruptVMFirewallLedger ("anchor " ++ vmFirewallAnchorName vmUUID ++ " delete targets "
        ++ anchor.fw.deleteTarget ++ ", not " ++ uuid)))
    match row with
    | some firewall => deleteListed cfg networkUUID rounds vmUUID anchor firewall now
    | none => deleteAbsent cfg vmUUID anchor now

/-! ### Resolving a receipt -/

def retireAbsentVMFirewallCreate : M Bool := do
  let name := vmFirewallAnchorName vmUUID
  let record (count : ℤ) : M Bool := do
    let _ ← updateVMFirewallAnchor cfg vmUUID anchor (countMutation anchor.fw.receipt (count + 1) now)
    throw (vmFirewallWait (absenceDelay cfg) ("public-node-local: VM firewall create for "
      ++ anchor.fw.vm ++ ": first absent read recorded"))
  match anchor.fw.absenceCount with
  | .none => record 0
  | .other text => throw (corruptVMFirewallLedger ("anchor " ++ name ++ " absence count " ++ quote text))
  | .count count => do
    check (failIf (count < 1 ∨ absenceConfirmations < count) (corruptVMFirewallLedger
      ("anchor " ++ name ++ " absence count " ++ quote (formatInt count))))
    match anchor.fw.absenceCheckedAt with
    | .at checked => do
      check (failIf (now < checked + absenceDelay cfg) (vmFirewallWait
        (checked + absenceDelay cfg - now) ("public-node-local: VM firewall create for "
          ++ anchor.fw.vm ++ ": waiting for the second spaced absent read")))
      if 2 ≤ count + 1 then do
        resetVMFirewallReceipt cfg vmUUID anchor
        return true
      else record count
    | _ => throw (corruptVMFirewallLedger ("anchor " ++ name ++ " absence-checked-at is unreadable"))

/-- The wait before a receipt may be retired. -/
def untilRetire (issuedAt now : Time) : Time := min (issuedAt + retireDelay - now) retry

/-- A receipt whose firewall is as it was: it is waited for, or reset once its
request can no longer be under way. -/
def retireUnchanged (issuedAt now : Time) (what : String) : M Bool := do
  if now < issuedAt + retireDelay then
    throw (vmFirewallWait (untilRetire issuedAt now)
      ("public-node-local: " ++ what ++ " is ambiguous; waiting for readback"))
  else do
    resetVMFirewallReceipt cfg vmUUID anchor
    return true

/-- The create part of `resolveVMFirewallReceipt`. -/
def resolveCreate (byName : Option Firewall) (issuedAt now : Time) : M Bool := do
  match byName with
  | some firewall => do
    match nodeLoadBalancerVMFirewallSpecHash cfg firewall.rules with
    | .error _ => throw (vmFirewallDrift vmUUID ("firewall " ++ firewall.uuid
        ++ " carries the per-VM name with rules other than the pending create"))
    | .ok actual => do
      check (failIf (actual ≠ anchor.fw.receipt.pendingHash) (vmFirewallDrift vmUUID ("firewall "
        ++ firewall.uuid ++ " carries the per-VM name with rules other than the pending create")))
      check ((validateNodeLoadBalancerVMFirewall cfg firewall vmUUID
        anchor.fw.receipt.pendingHash).mapError fun e =>
          vmFirewallDrift vmUUID ("firewall " ++ firewall.uuid ++ ": " ++ e.text))
      commitVMFirewallMutation cfg vmUUID anchor firewall
      return true
  | none =>
    if now < issuedAt + retireDelay then
      throw (vmFirewallWait (untilRetire issuedAt now) ("public-node-local: VM firewall create for "
        ++ vmUUID ++ " is ambiguous; waiting for readback"))
    else retireAbsentVMFirewallCreate cfg vmUUID anchor now

/-- The update part of `resolveVMFirewallReceipt`. -/
def resolveUpdate (byName : Option Firewall) (issuedAt now : Time) : M Bool := do
  let a := anchor.fw
  let firewall ← check ((exactNodeLoadBalancerFirewallFromItems items a.uuid).mapError fun e =>
    vmFirewallDrift vmUUID ("recorded firewall " ++ a.uuid ++ " is not readable during a PUT: "
      ++ e.text))
  check (failIf (byName.map (·.uuid) ≠ some firewall.uuid) (vmFirewallDrift vmUUID
    ("recorded firewall " ++ a.uuid ++ " is not the one carrying the per-VM name")))
  let actual ← check ((nodeLoadBalancerVMFirewallSpecHash cfg firewall.rules).mapError fun e =>
    vmFirewallDrift vmUUID ("firewall " ++ firewall.uuid ++ ": " ++ e.text))
  if actual = a.receipt.pendingHash then do
    commitVMFirewallMutation cfg vmUUID anchor firewall
    return true
  else if actual = a.appliedHash then
    retireUnchanged cfg vmUUID anchor issuedAt now ("VM firewall update for " ++ vmUUID)
  else if a.receipt.pendingHash = a.appliedHash then
    -- a repair is under way over a drifted firewall
    retireUnchanged cfg vmUUID anchor issuedAt now ("VM firewall repair for " ++ vmUUID)
  else throw (vmFirewallDrift vmUUID ("firewall " ++ firewall.uuid
    ++ " has rules that are neither the applied nor the pending ledger"))

/-- The time a receipt was issued. -/
def issueTime : Except Err Time :=
  match anchor.fw.receipt.issuedAt with
  | .at issuedAt => .ok issuedAt
  | _ => .error (corruptVMFirewallLedger ("anchor " ++ vmFirewallAnchorName vmUUID
      ++ " issued-at is unreadable"))

/-- `resolveVMFirewallReceipt` of a create or a PUT. -/
def resolvePut (create : Bool) : M Bool := do
  if anchor.fw.receipt.issuedAt = .absent then do
    -- staged but never issued: no request was ever authorized
    resetVMFirewallReceipt cfg vmUUID anchor
    return true
  else do
    let issuedAt ← check (issueTime vmUUID anchor)
    let now ← look .now
    let name ← check (nodeLoadBalancerVMFirewallName cfg vmUUID)
    let byName ← check ((vmFirewallByNameFromItems items name).mapError fun e =>
      vmFirewallDrift vmUUID e.text)
    if create then resolveCreate cfg vmUUID anchor byName issuedAt now
    else resolveUpdate cfg vmUUID anchor items byName issuedAt now

/-- `source` of a migration plan. -/
def MigrationPlan.source (p : MigrationPlan) (firewall : String) : Option MigrationSource :=
  p.sources.find? fun s => equalFold s.firewall firewall

/-- `sourceOfService` of a migration plan. -/
def MigrationPlan.sourceOfService (p : MigrationPlan) (uid : String) : Option MigrationSource :=
  p.sources.find? fun s => s.uid == uid

/-- `migration` of an anchor. -/
def AnchorAnnotations.migrationPlan (a : AnchorAnnotations) : Except Err (Option MigrationPlan) :=
  match a.migration with
  | .none => .ok none
  | .plan p => .ok (some p)
  | .other text => .error (corruptVMFirewallLedger ("migration record: " ++ text))

/-- A firewall that was found must not be another one. -/
def refuseOther (found : Option Firewall) (expected : String) (refusal : Firewall → Err) :
    Except Err Unit :=
  match found with
  | some other => failIf (other.uuid ≠ expected) (refusal other)
  | none => .ok ()

/-- The rows of an assignment are those of one VM alone. -/
def onlyRow : List String → String → Bool
  | [row], vmUUID => equalFold row vmUUID
  | _, _ => false

/-- A firewall is attached to one VM alone. -/
def attachedAlone (f : Firewall) (vmUUID : String) : Bool :=
  match nodeLoadBalancerFirewallAssignmentVMs f with
  | .ok rows => onlyRow rows vmUUID
  | .error _ => false

/-- The source an adopt receipt renames. -/
def adoptSource : Except Err MigrationSource := do
  let adoptUUID := anchor.fw.receipt.adoptUUID
  let refusal := corruptVMFirewallLedger ("anchor " ++ vmFirewallAnchorName vmUUID ++ " adopts "
    ++ adoptUUID ++ ", which its migration record does not name as the adoptee")
  match ← anchor.fw.migrationPlan with
  | none => .error refusal
  | some plan =>
    match plan.source adoptUUID with
    | none => .error refusal
    | some source => do
      failIf (¬ equalFold plan.adoptee adoptUUID) refusal
      return source

/-- The switch of `resolveVMFirewallAdoptReceipt`. -/
def resolveAdopted (name : String) (anchor : Object) (source : MigrationSource)
    (firewall : Firewall) (issuedAt now : Time) : M Bool := do
  let pendingHash := anchor.fw.receipt.pendingHash
  let adoptUUID := anchor.fw.receipt.adoptUUID
  let renamed := decide (firewall.effectiveName = name)
  let vmHash := nodeLoadBalancerVMFirewallSpecHash cfg firewall.rules
  let serviceHash := nodeLoadBalancerServiceFirewallSpecHash cfg firewall.rules
  if renamed = true ∧ vmHash = .ok pendingHash then do
    check ((validateNodeLoadBalancerVMFirewall cfg firewall vmUUID pendingHash).mapError fun e =>
      vmFirewallDrift vmUUID ("adopted firewall " ++ adoptUUID ++ ": " ++ e.text))
    check (failIf (¬ attachedAlone firewall vmUUID) (vmFirewallDrift vmUUID ("adopted firewall "
      ++ adoptUUID ++ " is not attached to VM " ++ vmUUID ++ " alone")))
    commitVMFirewallMutation cfg vmUUID anchor firewall
    return true
  else if renamed = false ∧ serviceHash = .ok source.policy then
    retireUnchanged cfg vmUUID anchor issuedAt now
      ("the adopt of firewall " ++ adoptUUID ++ " for " ++ vmUUID)
  else if renamed = false ∧ vmHash = .ok pendingHash then
    throw (vmFirewallDrift vmUUID ("firewall " ++ adoptUUID
      ++ " took the union rules but not the per-VM name; the rename did not take effect"))
  else throw (vmFirewallDrift vmUUID ("firewall " ++ adoptUUID
    ++ " is neither the adoptee as it was nor the adopted per-VM firewall"))

def resolveVMFirewallAdoptReceipt : M Bool := do
  let adoptUUID := anchor.fw.receipt.adoptUUID
  check (failIf (¬ validNodeLoadBalancerCloudUUID adoptUUID) (corruptVMFirewallLedger ("anchor "
    ++ vmFirewallAnchorName vmUUID ++ " has an adopt receipt without a valid adopt-uuid ("
    ++ quote adoptUUID ++ ")")))
  if anchor.fw.receipt.issuedAt = .absent then do
    resetVMFirewallReceipt cfg vmUUID anchor
    return true
  else do
    let issuedAt ← check (issueTime vmUUID anchor)
    let source ← check (adoptSource vmUUID anchor)
    let name ← check (nodeLoadBalancerVMFirewallName cfg vmUUID)
    let firewall ← check ((exactNodeLoadBalancerFirewallFromItems items adoptUUID).mapError fun e =>
      vmFirewallDrift vmUUID ("the firewall " ++ adoptUUID ++ " being adopted is not readable: "
        ++ e.text))
    let byName ← check ((vmFirewallByNameFromItems items name).mapError fun e =>
      vmFirewallDrift vmUUID e.text)
    check (refuseOther byName firewall.uuid fun other => vmFirewallDrift vmUUID ("firewall "
      ++ other.uuid ++ " carries the per-VM name, not the one being adopted (" ++ adoptUUID ++ ")"))
    let now ← look .now
    resolveAdopted cfg vmUUID name anchor source firewall issuedAt now

/-- The anchor of a committed rename is deleted last. -/
def deleteVMFirewallAnchorAfterUnadopt : M Unit := do
  check (vmFirewallNamespace cfg)
  match ← look (.get (.anchor vmUUID)) with
  | .error e => throw (e.within "public-node-local: read the VM firewall anchor to delete it")
  | .ok none => return ()
  | .ok (some fresh) => do
    check (failIf (fresh.uid ≠ anchor.uid ∨ fresh.fw.receipt.pendingOp ≠ .unadopt) (.new
      "public-node-local: the VM firewall rename receipt changed before the anchor was deleted"))
    check (← ask .stampReverseDone)
    if fresh.finalizer then dropAnchor vmUUID fresh else deleteAnchor vmUUID fresh

def finishVMFirewallUnadopt (uid policy : String) : M Unit := do
  check (← ask (.recordOwnFirewall uid firewall.uuid policy))
  deleteVMFirewallAnchorAfterUnadopt cfg vmUUID anchor

/-- The one entry a rename receipt is about. -/
def unadoptEntry : Except Err VMMember := do
  let name := vmFirewallAnchorName vmUUID
  let pending ← if anchor.fw.receipt.pending = .none then .ok VMLedger.empty
    else decodeVMFirewallLedger cfg anchor.fw.receipt.pending
  match pending.members with
  | [entry] => do
    failIf (entry.policy ≠ anchor.fw.receipt.pendingHash) (corruptVMFirewallLedger ("anchor "
      ++ name ++ " rename receipt does not name exactly one entry"))
    let refusal := corruptVMFirewallLedger ("anchor " ++ name ++ " renames into Service "
      ++ entry.uid ++ ", which its migration record does not name as the adoptee")
    match ← anchor.fw.migrationPlan with
    | none => .error refusal
    | some plan => do
      failIf (plan.direction ≠ .reverse ∨ plan.strategy ≠ .adopt ∨ plan.adoptee ≠ entry.uid) refusal
      return entry
  | _ => .error (corruptVMFirewallLedger ("anchor " ++ name
      ++ " rename receipt does not name exactly one entry"))

/-- The switch of `resolveVMFirewallUnadoptReceipt`. -/
def resolveRenamed (perVMName ownName : String) (anchor : Object) (entry : VMMember)
    (firewall : Firewall) (issuedAt now : Time) : M Bool := do
  let uuid := anchor.fw.receipt.adoptUUID
  let serviceHash := nodeLoadBalancerServiceFirewallSpecHash cfg firewall.rules
  let vmHash := nodeLoadBalancerVMFirewallSpecHash cfg firewall.rules
  if firewall.effectiveName = ownName ∧ serviceHash = .ok entry.policy then do
    check (failIf (¬ firewallOwnedByService cfg firewall entry.uid) (vmFirewallDrift vmUUID
      ("renamed firewall " ++ uuid ++ " is not owned by Service " ++ entry.uid)))
    check (failIf (¬ attachedAlone firewall vmUUID) (vmFirewallDrift vmUUID ("renamed firewall "
      ++ uuid ++ " is not attached to VM " ++ vmUUID ++ " alone")))
    finishVMFirewallUnadopt cfg vmUUID anchor firewall entry.uid entry.policy
    return true
  else if firewall.effectiveName = perVMName ∧ vmHash = .ok anchor.fw.appliedHash then
    retireUnchanged cfg vmUUID anchor issuedAt now
      ("the rename of firewall " ++ uuid ++ " for " ++ vmUUID)
  else if firewall.effectiveName = perVMName ∧ serviceHash = .ok entry.policy then
    throw (vmFirewallDrift vmUUID ("firewall " ++ uuid ++ " took the rules of Service " ++ entry.uid
      ++ " but not its name; the rename did not take effect"))
  else throw (vmFirewallDrift vmUUID ("firewall " ++ uuid
    ++ " is neither the per-VM firewall as it was nor the own firewall of Service " ++ entry.uid))

def resolveVMFirewallUnadoptReceipt : M Bool := do
  let uuid := anchor.fw.receipt.adoptUUID
  check (failIf (¬ validNodeLoadBalancerCloudUUID uuid ∨ ¬ equalFold uuid anchor.fw.uuid)
    (corruptVMFirewallLedger ("anchor " ++ vmFirewallAnchorName vmUUID
      ++ " has a rename receipt without the per-VM firewall as its target (" ++ quote uuid ++ ")")))
  if anchor.fw.receipt.issuedAt = .absent then do
    resetVMFirewallReceipt cfg vmUUID anchor
    return true
  else do
    let issuedAt ← check (issueTime vmUUID anchor)
    let entry ← check (unadoptEntry cfg vmUUID anchor)
    let perVMName ← check (nodeLoadBalancerVMFirewallName cfg vmUUID)
    let ownName := nodeLoadBalancerFirewallName cfg entry.uid entry.policy
    let firewall ← check ((exactNodeLoadBalancerFirewallFromItems items uuid).mapError fun e =>
      vmFirewallDrift vmUUID ("the firewall " ++ uuid ++ " being renamed is not readable: " ++ e.text))
    let byOwnName ← check ((vmFirewallByNameFromItems items ownName).mapError fun e =>
      vmFirewallDrift vmUUID e.text)
    check (refuseOther byOwnName firewall.uuid fun other => vmFirewallDrift vmUUID ("firewall "
      ++ other.uuid ++ " carries the name " ++ quote ownName ++ ", not the one being renamed ("
      ++ uuid ++ ")"))
    let now ← look .now
    resolveRenamed cfg vmUUID perVMName ownName anchor entry firewall issuedAt now

def resolveVMFirewallReceipt : M Bool :=
  match anchor.fw.receipt.pendingOp with
  | .create => resolvePut cfg vmUUID anchor items true
  | .update => resolvePut cfg vmUUID anchor items false
  | .delete => deleteVMFirewall cfg networkUUID rounds vmUUID anchor
  | .adopt => resolveVMFirewallAdoptReceipt cfg vmUUID anchor items
  | .unadopt => resolveVMFirewallUnadoptReceipt cfg vmUUID anchor items
  | op => throw (.new ("public-node-local: VM firewall receipt operation " ++ quote op.text
      ++ " cannot be resolved here"))

/-! ### Issuing a change -/

/-- The receipt is still exactly the one this process issued. -/
def sameReceipt : Q Object := do
  match ← getVMFirewallAnchor cfg vmUUID with
  | none => throw (.new "public-node-local: the VM firewall receipt changed during final authority")
  | some current => do
    check (failIf (current.uid ≠ issued.uid ∨ current.fw.receipt ≠ issued.fw.receipt)
      (.new "public-node-local: the VM firewall receipt changed during final authority"))
    return current

/-- `exactNodeLoadBalancerFirewallNameFresh`: nobody has the name. -/
def requireNameFree (name : String) : Q Unit := do
  match ← query (.listFirewalls .nameFresh) with
  | .error e => throw (e.within "node load balancer: fresh deterministic firewall-name read")
  | .ok items =>
    check (failIf (¬ (items.filter fun f => equalFold f.effectiveName name) = [])
      (.new ("public-node-local: firewall " ++ name ++ " already carries the per-VM name")))

/-- What a create or a PUT acts on: no firewall, or the one just observed. -/
abbrev Target := Option Firewall

/-- The cloud is as it was when the change was planned. -/
def requireTarget : Target → Q (Option Firewall)
  | some before => do
    let current ← exactNodeLoadBalancerFirewallFresh before.uuid
    check (failIf (¬ firewallAuthorityUnchanged before current) (.new
      ("public-node-local: VM firewall " ++ current.uuid ++ " changed after the mutation was issued")))
    return some current
  | none => do
    let name ← check (nodeLoadBalancerVMFirewallName cfg vmUUID)
    requireNameFree name
    requireFirewallVMCapacity cfg "(new per-VM firewall)" vmUUID
    return none

/-- `vmFirewallDeltaAuthority`: the authority of a step, or that of a repair. -/
inductive Authority
  | delta (d : VMDelta) | stillRequested

def Authority.authorize : Authority → Object → Option Firewall → Q Unit
  | .delta d, anchor, fresh => do check (← query (.authorizeDelta d anchor fresh))
  | .stillRequested, anchor, _ => check (failIf (anchor.fw.repair = false)
      (.new "public-node-local: no VM firewall repair was requested on the anchor"))

def authorizeVMFirewallMutation (target : Target) (authority : Authority) : Q Unit := do
  let _ ← sameReceipt cfg vmUUID issued
  let fresh ← requireTarget cfg vmUUID target
  let anchor ← sameReceipt cfg vmUUID issued
  authority.authorize anchor fresh
  let _ ← sameReceipt cfg vmUUID issued
  return ()

/-- A receipt whose request was refused before the call is reset. -/
def rejectPut {α : Type} (vmUUID what : String) (issued : Object) (cause : Err) : M α := do
  let rejection := cause.within ("public-node-local: reject " ++ what
    ++ " at final pre-dispatch authority")
  match ← attempt (resetVMFirewallReceipt cfg vmUUID issued) with
  | .error e => throw (rejection.join e)
  | .ok _ => throw rejection

/-- What the messages of a change call it. -/
structure PutTexts where
  call : String
  firewall : String
  during : String

/-- The readback of a call that may have committed. -/
def readBackPut (texts : PutTexts) (reader : Reader) (dispatchErr : Option Err) : M Unit := do
  match ← look (.listFirewalls reader) with
  | .error e => throw (.joinOpt dispatchErr (e.within ("public-node-local: read back the "
      ++ texts.firewall ++ " firewall of " ++ vmUUID)))
  | .ok items => do
    let gone : Err := .new ("public-node-local: the VM firewall anchor disappeared during "
      ++ texts.during)
    match ← attempt (reads (getVMFirewallAnchor cfg vmUUID)) with
    | .error e => throw (.joinOpt dispatchErr (e.join gone))
    | .ok none => throw (.joinOpt dispatchErr gone)
    | .ok (some current) => do
      match ← attempt (resolveVMFirewallReceipt cfg networkUUID rounds vmUUID current items) with
      | .error e => throw (.joinOpt dispatchErr e)
      | .ok _ => return ()

/-- The call under an issued receipt, and its readback. -/
def sendPut (texts : PutTexts) (reader : Reader) (issued : Object) (change : Put) : M Unit := do
  match ← ask (.put vmUUID issued.fw.receipt change) with
  | .ok _ => readBackPut cfg networkUUID rounds vmUUID texts reader none
  | .error e => do
    let dispatchErr := e.within ("public-node-local: " ++ texts.call)
    if mutationKnownPreDispatch dispatchErr then do
      match ← attempt (resetVMFirewallReceipt cfg vmUUID issued) with
      | .error e => throw (dispatchErr.join e)
      | .ok _ => throw dispatchErr
    else readBackPut cfg networkUUID rounds vmUUID texts reader (some dispatchErr)

/-- The request of a create or a PUT. -/
def putRequest (target : Target) (merged : List FirewallRule) : Except Err Put :=
  match target with
  | none => do return .create (← vmFirewallCreateRequest cfg vmUUID merged)
  | some f => do return .update f.uuid (← vmFirewallUpdateRequest cfg vmUUID f merged)

def putOp (target : Target) : PendingOp := if target.isSome then .update else .create

def runVMFirewallMutation (target : Target) (next : VMLedger) (merged : List FirewallRule)
    (authority : Authority) : M Unit := do
  let nextRaw ← check (encodeVMFirewallLedger cfg next)
  let digest ← check (nodeLoadBalancerVMFirewallSpecHash cfg merged)
  let change ← check (putRequest cfg vmUUID target merged)
  let op := putOp target
  let staged ← stageVMFirewallMutation cfg vmUUID anchor op anchor.fw.applied nextRaw digest
  let issued ← issueVMFirewallMutation cfg vmUUID staged
  match ← attempt (reads (authorizeVMFirewallMutation cfg vmUUID issued target authority)) with
  | .error e => rejectPut cfg vmUUID ("VM firewall " ++ op.text ++ " for " ++ vmUUID) issued e
  | .ok _ =>
    sendPut cfg networkUUID rounds vmUUID
      ⟨op.text ++ " VM firewall for " ++ vmUUID, "VM", "a mutation"⟩ .runMutation issued change

/-! ### The step -/

/-- `validate` of a delta. -/
def VMDelta.validate (d : VMDelta) : Except Err Unit := do
  failIf (d.add.isNone = d.remove.isNone) (.new
    "public-node-local: a VM firewall delta adds or removes exactly one entry")
  failIf (d.ledgerOnly = true ∧ d.remove = none)
    (.new "public-node-local: a ledger-only VM firewall delta must be a removal")
  match d.add with
  | some m => validateVMFirewallMember cfg m
  | none => .ok ()

/-- `vmFirewallStepResult`. -/
structure StepResult where
  converged : Bool
  appliedAt : Stamp
  firewallUUID : String

/-- The firewall of a VM as it should be; `none` where there is none yet. -/
structure Observation where
  firewall : Option Firewall
  attached : Bool

def observeVMFirewall : Except Err Observation := do
  let a := anchor.fw
  let name ← nodeLoadBalancerVMFirewallName cfg vmUUID
  let byName ← (vmFirewallByNameFromItems items name).mapError fun e => vmFirewallDrift vmUUID e.text
  if a.uuid = "" then do
    failIf (applied.members ≠ []) (vmFirewallDrift vmUUID
      "the anchor records an applied ledger but no firewall UUID")
    refuseAny byName fun other => vmFirewallDrift vmUUID ("firewall " ++ other.uuid
      ++ " carries the per-VM name but the anchor does not own it")
    return ⟨none, false⟩
  else do
    let exact ← (exactNodeLoadBalancerFirewallFromItems items a.uuid).mapError fun e =>
      vmFirewallDrift vmUUID ("recorded firewall " ++ a.uuid ++ " is not readable: " ++ e.text)
    failIf (byName.map (·.uuid) ≠ some exact.uuid) (vmFirewallDrift vmUUID
      ("recorded firewall " ++ a.uuid ++ " is not the one carrying the per-VM name"))
    (validateNodeLoadBalancerVMFirewall cfg exact vmUUID a.appliedHash).mapError fun e =>
      vmFirewallDrift vmUUID ("firewall " ++ a.uuid ++ ": " ++ e.text)
    return ⟨some exact, vmFirewallAttachedTo exact vmUUID⟩

/-- The ledger a delta leads to, and whether it changes anything. -/
def VMDelta.next (d : VMDelta) (applied : VMLedger) : Except Err (VMLedger × Bool) :=
  match d.add, d.remove with
  | some m, _ =>
    if (applied.find m.key).isSome then .ok (applied, false)
    else do return (← applied.withMember cfg m, true)
  | none, some k => .ok ((applied.without k).1, (applied.without k).2)
  | none, none => .ok (applied, false)

/-- `settledFrom`: the later of the last rule commit and the last attach. -/
def settledFrom (a : AnchorAnnotations) : Except Err Stamp :=
  match a.appliedAt, a.attachedAt with
  | .malformed, _ => .error (corruptVMFirewallLedger "applied-at is unreadable")
  | _, .malformed => .error (corruptVMFirewallLedger "attached-at is unreadable")
  | .absent, attached => .ok attached
  | applied, .absent => .ok applied
  | .at applied, .at attached => .ok (.at (max applied attached))

/-- A settled entry that is not attached: the attach is asked for. -/
def attachVMFirewall : M StepResult := do
  let _ ← if anchor.fw.attachedAt ≠ .absent then updateVMFirewallAnchor cfg vmUUID anchor clearAttached
    else pure (anchor, false)
  let fence : Fence := ⟨.assign, anchor.fw.uuid, vmUUID, "", .absent, .absent, .absent⟩
  let _ ← reconcileRelation cfg networkUUID (.anchor vmUUID) rounds (some fence)
  return ⟨false, .absent, anchor.fw.uuid⟩

/-- The attach is stamped the first time it is read back. -/
def stampAttach : M Object := do
  if anchor.fw.attachedAt = .absent then do
    let now ← look .now
    let result ← updateVMFirewallAnchor cfg vmUUID anchor (stampAttached now)
    return result.1
  else return anchor

/-- The end of a step whose delta is already there. -/
def stepUnchanged (delta : VMDelta) (observation : Observation) : M StepResult := do
  if delta.remove.isSome then return ⟨true, .absent, anchor.fw.uuid⟩
  else if observation.attached = false then attachVMFirewall cfg networkUUID rounds vmUUID anchor
  else do
    let stamped ← stampAttach cfg vmUUID anchor
    let settled ← check (settledFrom stamped.fw)
    return ⟨true, settled, stamped.fw.uuid⟩

/-- An add must never narrow what the firewall allows. -/
def checkWidens (delta : VMDelta) (applied : VMLedger) (merged : List FirewallRule) :
    Except Err Unit :=
  if delta.add.isSome ∧ applied.members ≠ [] then do
    let before ← mergeVMFirewallLedger cfg applied
    failIf (vmFirewallMergedNarrows before merged) (.new
      "public-node-local: an add must never narrow the VM firewall; make-before-break")
  else .ok ()

/-- The merged rules are those the firewall already has. -/
def sameRules (observation : Observation) (merged : List FirewallRule) : Except Err Bool :=
  if observation.firewall.isSome ∧ applied.members ≠ [] then do
    return decide ((← nodeLoadBalancerVMFirewallSpecHash cfg merged) = anchor.fw.appliedHash)
  else .ok false

/-- The end of a step that changes the ledger. -/
def stepChanged
    (delta : VMDelta) (applied : VMLedger) (observation : Observation) (next : VMLedger) :
    M Unit := do
  if delta.ledgerOnly then
    removeVMFirewallEntryLedgerOnly cfg networkUUID vmUUID anchor delta observation.firewall next
  else if next.members = [] then stageVMFirewallDelete cfg vmUUID anchor delta observation.firewall
  else do
    let merged ← check (mergeVMFirewallLedger cfg next)
    check (checkWidens cfg delta applied merged)
    if ← check (sameRules cfg anchor applied observation merged) then
      commitVMFirewallLedgerUnchanged cfg vmUUID anchor delta next observation.firewall
    else
      runVMFirewallMutation cfg networkUUID rounds vmUUID anchor observation.firewall next merged
        (.delta delta)

/-- A drifted firewall of a VM that is gone: with the VM proven absent the whole
anchor is retired through the delete receipt. -/
def stepDrifted (delta : VMDelta) (items : List Firewall) (drift : Err) : M StepResult := do
  if drift.is .drift ∧ delta.ledgerOnly = true ∧ anchor.fw.uuid ≠ "" ∧
      vmFirewallListed items anchor.fw.uuid = false then do
    match ← attempt (reads (vmCloudAuthority cfg networkUUID vmUUID)) with
    | .ok (false, true) => do
      stageVMFirewallDelete cfg vmUUID anchor delta none
      return ⟨false, .absent, anchor.fw.uuid⟩
    | _ => throw drift
  else throw drift

/-- A step over an anchor without a receipt and without a relation fence. -/
def stepOver (delta : VMDelta) (items : List Firewall) : M StepResult := do
  let applied ← check (anchor.fw.appliedLedger cfg)
  match observeVMFirewall cfg vmUUID anchor applied items with
  | .error drift => stepDrifted cfg networkUUID vmUUID anchor delta items drift
  | .ok observation => do
    let (next, changed) ← check (delta.next cfg applied)
    if changed then do
      stepChanged cfg networkUUID rounds vmUUID anchor delta applied observation next
      return ⟨false, .absent, anchor.fw.uuid⟩
    else stepUnchanged cfg networkUUID rounds vmUUID anchor delta observation

/-- The anchor of a first entry. -/
def firstAnchor (name : String) (items : List Firewall) : M Object := do
  let existing ← check ((vmFirewallByNameFromItems items name).mapError fun e =>
    vmFirewallDrift vmUUID e.text)
  check (refuseAny existing fun other => vmFirewallDrift vmUUID ("firewall " ++ other.uuid
    ++ " carries the per-VM name but no anchor records it"))
  -- refused before anything is persisted: a VM at the limit gets no anchor
  reads (firewallVMCapacityFromItems cfg items "(new per-VM firewall)" vmUUID)
  createVMFirewallAnchor cfg vmUUID

/-- A step over an anchor. -/
def stepAnchor (delta : VMDelta) (items : List Firewall) : M StepResult := do
  if anchor.fw.hasReceipt then do
    let _ ← resolveVMFirewallReceipt cfg networkUUID rounds vmUUID anchor items
    return ⟨false, .absent, ""⟩
  else if anchor.relation.issued ≠ .none then do
    let _ ← reconcileRelation cfg networkUUID (.anchor vmUUID) rounds none
    return ⟨false, .absent, ""⟩
  else stepOver cfg networkUUID rounds vmUUID anchor delta items

def vmFirewallStep (delta : VMDelta) : M StepResult := do
  check (delta.validate cfg)
  let name ← check (nodeLoadBalancerVMFirewallName cfg vmUUID)
  let found ← reads (getVMFirewallAnchor cfg vmUUID)
  let items ← check ((← look (.listFirewalls .vmFirewallStep)).mapError (.within
    ("public-node-local: list firewalls for VM " ++ vmUUID)))
  match found with
  | some anchor => stepAnchor cfg networkUUID rounds vmUUID anchor delta items
  | none =>
    if delta.remove.isSome then return ⟨true, .absent, ""⟩
    else do
      let anchor ← firstAnchor cfg vmUUID name items
      stepAnchor cfg networkUUID rounds vmUUID anchor delta items

/-! ### Repair, rebuild and renames -/

def repairVMFirewall : M Unit := do
  let a := anchor.fw
  check (failIf (a.repair = false)
    (.new "public-node-local: no VM firewall repair was requested on the anchor"))
  check (failIf (a.hasReceipt) (vmFirewallWait retry ("public-node-local: VM firewall of " ++ vmUUID
    ++ " has an open receipt; resolve it before a repair")))
  let applied ← check (a.appliedLedger cfg)
  check (failIf (applied.members = [] ∨ ¬ validNodeLoadBalancerCloudUUID a.uuid)
    (.new ("public-node-local: VM firewall of " ++ vmUUID ++ " has no applied ledger to restore")))
  let merged ← check (mergeVMFirewallLedger cfg applied)
  let items ← check ((← look (.listFirewalls .repair)).mapError (.within
    ("public-node-local: list firewalls to repair the VM firewall of " ++ vmUUID)))
  let firewall ← check (exactNodeLoadBalancerFirewallFromItems items a.uuid)
  check ((validateNodeLoadBalancerVMFirewallIdentity cfg firewall vmUUID).mapError (.within
    ("public-node-local: refusing to repair a firewall that is not the VM firewall of " ++ vmUUID)))
  runVMFirewallMutation cfg networkUUID rounds vmUUID anchor (some firewall) applied merged
    .stillRequested

/-- Every source has its entry. -/
def requireEntries (sources : List MigrationSource)
    (refusal : MigrationSource → Err) : Except Err Unit :=
  match sources.find? fun s => (applied.find ⟨s.uid, s.policy⟩).isNone with
  | some s => .error (refusal s)
  | none => .ok ()

def markVMFirewallMigrationOpened (plan : MigrationPlan) : M Unit := do
  let gone : Err := .new "public-node-local: the VM firewall anchor is gone"
  match ← attempt (reads (getVMFirewallAnchor cfg vmUUID)) with
  | .error e => throw (e.join gone)
  | .ok none => throw gone
  | .ok (some anchor) => do
    let applied ← check (anchor.fw.appliedLedger cfg)
    let live ← check (← look (.liveSources plan))
    check (requireEntries applied live fun s => .new ("public-node-local: the per-VM firewall of VM "
      ++ vmUUID ++ " does not hold the entry of Service " ++ s.uid ++ " yet"))
    let _ ← updateVMFirewallAnchor cfg vmUUID anchor
      (planMutation (.plan plan) (.plan { plan with phase := .opened }))
    return ()

def authorizeVMFirewallAdopt (plan : MigrationPlan) (before : Firewall) : Q Unit := do
  let anchor ← sameReceipt cfg vmUUID issued
  match ← check anchor.fw.migrationPlan with
  | none => throw (.new "public-node-local: the migration record changed before the adopt")
  | some current => do
    check (failIf (current.phase ≠ .planned ∨ current.adoptee ≠ plan.adoptee ∨
        current.sources ≠ plan.sources)
      (.new "public-node-local: the migration record changed before the adopt"))
    let fresh ← exactNodeLoadBalancerFirewallFresh before.uuid
    check (failIf (¬ firewallAuthorityUnchanged before fresh) (.new ("public-node-local: firewall "
      ++ fresh.uuid ++ " changed after the adopt was issued")))
    let rows ← check (nodeLoadBalancerFirewallAssignmentVMs fresh)
    check (failIf (¬ onlyRow rows vmUUID) (.new ("public-node-local: firewall " ++ fresh.uuid
      ++ " is no longer attached to VM " ++ vmUUID ++ " alone, so it can not be adopted")))
    let items ← check (← query (.listFirewalls .adopt))
    check (← query (.authorizeSources vmUUID plan))
    let count := (vmFirewallsAttachedTo items vmUUID).length
    check (failIf (maxFirewallsPerVM cfg < count) (.new ("public-node-local: VM " ++ vmUUID
      ++ " carries " ++ toString count ++ " firewalls, above the limit")))
    let _ ← sameReceipt cfg vmUUID issued
    return ()

/-- The ledger of an adopt: one member for every source of the plan. -/
def adoptLedger (plan : MigrationPlan) (items : List Firewall) : Except Err VMLedger := do
  let members ← plan.sources.mapM fun source => do
    let changed (e : Err) : Err := .wrap .sourceChanged ("firewall " ++ source.firewall ++ ": "
      ++ e.text)
    let firewall ← (exactNodeLoadBalancerFirewallFromItems items source.firewall).mapError changed
    (vmFirewallMemberFromFirewall cfg source.uid source.policy firewall).mapError changed
  return canonicalVMFirewallLedger ⟨vmFirewallLedgerVersion, members⟩

/-- The rename of `adoptVMFirewallMigration`, for a plan nothing has come of yet. -/
def adoptFirewall (plan : MigrationPlan) (items : List Firewall) : M Unit := do
  let adoptee ← check ((exactNodeLoadBalancerFirewallFromItems items plan.adoptee).mapError fun e =>
    .wrap .sourceChanged ("adoptee " ++ plan.adoptee ++ ": " ++ e.text))
  let next ← check (adoptLedger cfg plan items)
  let merged ← check (mergeVMFirewallLedger cfg next)
  let nextRaw ← check (encodeVMFirewallLedger cfg next)
  let digest ← check (nodeLoadBalancerVMFirewallSpecHash cfg merged)
  let request ← check (vmFirewallAdoptRequest cfg vmUUID adoptee merged)
  let staged ← stageVMFirewallAdopt cfg vmUUID anchor adoptee.uuid nextRaw digest
  let issued ← issueVMFirewallMutation cfg vmUUID staged
  match ← attempt (reads (authorizeVMFirewallAdopt cfg vmUUID issued plan adoptee)) with
  | .error e =>
    rejectPut cfg vmUUID ("the adopt of firewall " ++ adoptee.uuid ++ " for " ++ vmUUID) issued e
  | .ok _ =>
    sendPut cfg networkUUID rounds vmUUID
      ⟨"adopt firewall " ++ adoptee.uuid ++ " for " ++ vmUUID, "adopted", "an adopt"⟩
      .adopt issued (.update adoptee.uuid request)

/-- `adoptVMFirewallMigration`; `live` are the sources whose Service is still
there. -/
def adoptVMFirewallMigration (plan : MigrationPlan) (items : List Firewall)
    (live : List MigrationSource) : M Unit := do
  let applied ← check (anchor.fw.appliedLedger cfg)
  if anchor.fw.uuid ≠ "" then do
    -- the rename committed: what the anchor recorded is checked, and the plan opened
    check (failIf (¬ equalFold anchor.fw.uuid plan.adoptee) (vmFirewallDrift vmUUID
      ("the anchor records firewall " ++ anchor.fw.uuid ++ ", the plan adopts " ++ plan.adoptee)))
    check (requireEntries applied live fun s => vmFirewallDrift vmUUID
      ("the adopted firewall does not record Service " ++ s.uid))
    let observation ← check (observeVMFirewall cfg vmUUID anchor applied items)
    check (failIf (observation.attached = false) (vmFirewallDrift vmUUID ("the adopted firewall "
      ++ anchor.fw.uuid ++ " is not attached to the VM")))
    markVMFirewallMigrationOpened cfg vmUUID plan
  else do
    check (failIf (applied.members ≠ []) (vmFirewallDrift vmUUID
      "the anchor records a ledger but no firewall during an adopt"))
    adoptFirewall cfg networkUUID rounds vmUUID anchor plan items

def authorizeVMFirewallUnadopt (plan : MigrationPlan)
    (desired : DesiredFirewall) (before : Firewall) : Q Unit := do
  let anchor ← sameReceipt cfg vmUUID issued
  match ← check anchor.fw.migrationPlan with
  | none => throw (.new "public-node-local: the migration record changed before the rename")
  | some current => do
    check (failIf (current.direction ≠ .reverse ∨ current.phase ≠ .detaching ∨
        current.adoptee ≠ plan.adoptee ∨ current.sources ≠ plan.sources)
      (.new "public-node-local: the migration record changed before the rename"))
    let remaining ← query (.reverseSettleRemaining current)
    check (failIf (0 < remaining) (.new ("public-node-local: the own firewalls of VM " ++ vmUUID
      ++ " have not settled yet")))
    let fresh ← exactNodeLoadBalancerFirewallFresh before.uuid
    check (failIf (¬ firewallAuthorityUnchanged before fresh) (.new ("public-node-local: firewall "
      ++ fresh.uuid ++ " changed after the rename was issued")))
    let rows ← check (nodeLoadBalancerFirewallAssignmentVMs fresh)
    check (failIf (¬ onlyRow rows vmUUID) (.new ("public-node-local: firewall " ++ fresh.uuid
      ++ " is not attached to VM " ++ vmUUID ++ " alone, so it can not be renamed")))
    let items ← check (← query (.listFirewalls .unadopt))
    let applied ← check (anchor.fw.appliedLedger cfg)
    check (← query (.authorizeMembers vmUUID plan applied))
    let existing ← check (vmFirewallByNameFromItems items desired.request.displayName)
    check (refuseAny existing fun other => .new ("public-node-local: firewall " ++ other.uuid
      ++ " already carries the name " ++ quote desired.request.displayName))
    let count := (vmFirewallsAttachedTo items vmUUID).length
    check (failIf (maxFirewallsPerVM cfg < count) (.new ("public-node-local: VM " ++ vmUUID
      ++ " carries " ++ toString count ++ " firewalls, above the limit")))
    let _ ← sameReceipt cfg vmUUID issued
    return ()

/-- The adoptee of a reverse plan, with its entry. -/
def reverseAdoptee (plan : MigrationPlan) (applied : VMLedger) :
    Except Err (MigrationSource × VMMember) :=
  match plan.sourceOfService plan.adoptee with
  | none => .error (corruptVMFirewallLedger ("anchor " ++ vmFirewallAnchorName vmUUID
      ++ " reverse-adopts " ++ plan.adoptee ++ ", which its migration record does not list"))
  | some adoptee =>
    match applied.find ⟨adoptee.uid, adoptee.policy⟩ with
    | none => .error (vmFirewallDrift vmUUID ("the adoptee " ++ adoptee.uid
        ++ " is not on the per-VM firewall"))
    | some entry => .ok (adoptee, entry)

def unadoptVMFirewallReverse (plan : MigrationPlan) (applied : VMLedger) (items : List Firewall) :
    M Unit := do
  let (adoptee, entry) ← check (reverseAdoptee vmUUID plan applied)
  let desired ← check (← look (.steadyService adoptee))
  let current ← check ((exactNodeLoadBalancerFirewallFromItems items anchor.fw.uuid).mapError fun e =>
    vmFirewallDrift vmUUID ("the per-VM firewall " ++ anchor.fw.uuid ++ " is not readable: " ++ e.text))
  let request ← check (vmFirewallUnadoptRequest current desired.request)
  let pending ← check (encodeVMFirewallLedger cfg ⟨vmFirewallLedgerVersion, [entry]⟩)
  let staged ← stageVMFirewallUnadopt cfg vmUUID anchor pending adoptee.policy
  let issued ← issueVMFirewallMutation cfg vmUUID staged
  match ← attempt (reads (authorizeVMFirewallUnadopt cfg vmUUID issued plan desired current)) with
  | .error e =>
    rejectPut cfg vmUUID ("the rename of firewall " ++ current.uuid ++ " for " ++ vmUUID) issued e
  | .ok _ =>
    sendPut cfg networkUUID rounds vmUUID
      ⟨"rename firewall " ++ current.uuid ++ " for " ++ vmUUID, "renamed", "a rename"⟩
      .unadopt issued (.update current.uuid request)

/-- A rebuild never replaces a ledger. -/
def requireNoLedger (existing : Option Object) : Except Err Unit :=
  match existing with
  | none => .ok ()
  | some anchor => do
    let applied ← anchor.fw.appliedLedger cfg
    failIf (applied.members ≠ []) (.new ("public-node-local: VM " ++ vmUUID
      ++ " already has an applied ledger; a rebuild would replace evidence"))

/-- The rules of a firewall and the merge of a ledger have one hash. -/
def requireSameHash (rules : List FirewallRule) (ledger : VMLedger) : Except Err String := do
  let hold (e : Err) := vmFirewallDrift vmUUID ("cannot rebuild the ledger: " ++ e.text)
  failIf (ledger.members = []) (vmFirewallDrift vmUUID
    "cannot rebuild the ledger: no Service owns any rule")
  let merged ← (mergeVMFirewallLedger cfg ledger).mapError hold
  let mergedHash ← (nodeLoadBalancerVMFirewallSpecHash cfg merged).mapError hold
  let actual ← (nodeLoadBalancerVMFirewallSpecHash cfg rules).mapError hold
  failIf (mergedHash ≠ actual) (vmFirewallDrift vmUUID ("cannot rebuild the ledger: the attributed "
    ++ "ledger hashes to " ++ mergedHash ++ ", the firewall to " ++ actual))
  return actual

/-- The anchor, created if there is none. -/
def anchorOrCreate : Option Object → M Object
  | some anchor => pure anchor
  | none => createVMFirewallAnchor cfg vmUUID

/-- `rebuildVMFirewallAnchor`; `ledger` is what the attribution of the rules to
live Services gives. -/
def rebuildVMFirewallAnchor (ledger : VMLedger) : M Unit := do
  check ((validateNodeLoadBalancerVMFirewallIdentity cfg firewall vmUUID).mapError (.within
    ("public-node-local: refusing to rebuild from a firewall that is not the VM firewall of "
      ++ vmUUID)))
  let existing ← reads (getVMFirewallAnchor cfg vmUUID)
  check (requireNoLedger cfg vmUUID existing)
  let actual ← check (requireSameHash cfg vmUUID firewall.rules ledger)
  let encoded ← check (encodeVMFirewallLedger cfg ledger)
  let anchor ← anchorOrCreate cfg vmUUID existing
  let now ← look .now
  let _ ← updateVMFirewallAnchor cfg vmUUID anchor
    (rebuildMutation firewall.uuid encoded actual now)
  return ()

/-! ### Calls -/

/-- What the controller's workers call in this part.  A relation is asked for by
what it relates; the receipts of a VM are worked on from a fresh read. -/
inductive Call
  | relation (ref : Ref) (operation : RelationOperation) (firewallUUID vmUUID : String)
  | settle (ref : Ref)
  | step (vmUUID : String) (delta : VMDelta)
  | resolve (vmUUID : String)
  | delete (vmUUID : String)
  | repair (vmUUID : String)
  | adopt (vmUUID : String)
  | unadopt (vmUUID : String)
  | rebuild (vmUUID : String) (firewall : Firewall) (ledger : VMLedger)

/-- Work on the anchor of a VM. -/
def onAnchor (work : Object → M Unit) : M Unit := do
  match ← reads (getVMFirewallAnchor cfg vmUUID) with
  | none => return ()
  | some anchor => work anchor

/-- Work on the anchor of a VM, with a listing. -/
def onAnchorListed (reader : Reader) (work : Object → List Firewall → M Unit) : M Unit :=
  onAnchor cfg vmUUID fun anchor => do
    let items ← check (← look (.listFirewalls reader))
    work anchor items

/-- The plan an anchor carries, if it is of the given direction. -/
def withPlan (direction : MigrationDirection) (work : MigrationPlan → M Unit) : M Unit := do
  match ← check anchor.fw.migrationPlan with
  | none => return ()
  | some plan => if plan.direction = direction then work plan else return ()

/-- The adopt step of a migration. -/
def adoptCall : M Unit :=
  withPlan anchor .forward fun plan => do
    let live ← check (← look (.liveSources plan))
    adoptVMFirewallMigration cfg networkUUID rounds vmUUID anchor plan items live

/-- The rename step of a reverse migration. -/
def unadoptCall : M Unit :=
  withPlan anchor .reverse fun plan => do
    let applied ← check (anchor.fw.appliedLedger cfg)
    unadoptVMFirewallReverse cfg networkUUID rounds vmUUID anchor plan applied items

/-- The code of a call. -/
def Call.run : Call → M Unit
  | .relation ref operation firewallUUID vmUUID => do
    let _ ← reconcileRelation cfg networkUUID ref rounds
      (some ⟨operation, firewallUUID, vmUUID, "", .absent, .absent, .absent⟩)
    return ()
  | .settle ref => do
    let _ ← reconcileRelation cfg networkUUID ref rounds none
    return ()
  | .step vmUUID delta => do
    let _ ← vmFirewallStep cfg networkUUID rounds vmUUID delta
    return ()
  | .resolve vmUUID => onAnchorListed cfg vmUUID .resolve fun anchor items => do
    let _ ← resolveVMFirewallReceipt cfg networkUUID rounds vmUUID anchor items
    return ()
  | .delete vmUUID => onAnchor cfg vmUUID fun anchor => do
    let _ ← deleteVMFirewall cfg networkUUID rounds vmUUID anchor
    return ()
  | .repair vmUUID => onAnchor cfg vmUUID (repairVMFirewall cfg networkUUID rounds vmUUID)
  | .adopt vmUUID => onAnchorListed cfg vmUUID .adopt (adoptCall cfg networkUUID rounds vmUUID)
  | .unadopt vmUUID =>
    onAnchorListed cfg vmUUID .unadopt (unadoptCall cfg networkUUID rounds vmUUID)
  | .rebuild vmUUID firewall ledger => rebuildVMFirewallAnchor cfg vmUUID firewall ledger

end InSpaceKube.NodeLB.Receipts
