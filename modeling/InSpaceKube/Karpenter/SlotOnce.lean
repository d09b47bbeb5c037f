/-
InSpaceKube/Karpenter/SlotOnce.lean

Any number of NodeClaims that share a firewall, under the operations of the
create-fence store and its firewall-mutation slots, by any number of replicas:
each assignment is given the authority to POST at most once, and no two
assignments of one firewall that were given it are unresolved together.

An issue ID enters a fence once, since it is drawn for that write, and an
assignment that has ended stays ended.  In the ledger an assignment stands in
the slot of its firewall until it is over (`LedgerInv.stays`), so another firewall
assignment is installed there only after that; and whoever is granted an
assignment has installed it there, under an acquisition ID of their own.

All this needs that an assignment is installed while it is still issued.  The
code does not see to that: it reads the fence, and installs the slot some
requests later.  In between another replica may have finished the assignment,
and the slot may have been taken over and freed; the ledger then has forgotten
the issue, and grants it once more.  `timely` is the condition that rules this
out.
-/
import InSpaceKube.Karpenter.SlotHabit

namespace InSpaceKube.Karpenter.SlotOnce

open Prog Relation Rules Fencing
open Function (update update_of_ne update_self)

/-! ### The API server -/

/-- The versions of the coordinator Lease. -/
def leaseStamp : Stamp LedgerLease where
  version := LedgerLease.resourceVersion
  stamp n lease := { lease with resourceVersion := n }
  version_stamp _ _ := rfl

/-- The NodeClaims by their names, and the coordinator Lease.  `old` has the
issue IDs the fences came with, `drawn` the nonces with who drew them. -/
structure State where
  claims : String → Versioned NodeClaim
  ledger : Versioned LedgerLease
  old : List String
  drawn : List (String × Tid)

/-- The object is stored under its name. -/
def State.store (s : State) (o : NodeClaim) : State :=
  { s with claims := update s.claims o.name ((s.claims o.name).put claimStamp o) }

/-- The Lease is stored. -/
def State.storeLedger (s : State) (lease : LedgerLease) : State :=
  { s with ledger := s.ledger.put leaseStamp lease }

/-- The update `copy` is one of the stored object. -/
def Fits (s : State) (copy : NodeClaim) : Prop :=
  ∃ current, (s.claims copy.name).current = some current ∧ current.uid = copy.uid ∧
    current.resourceVersion = copy.resourceVersion

/-- The update `lease` is one of the stored Lease. -/
def LedgerFits (s : State) (lease : LedgerLease) : Prop :=
  ∃ current, s.ledger.current = some current ∧ current.resourceVersion = lease.resourceVersion

/-- The effect of a request.  A write that fails may have been applied all the
same.  Nonces are never repeated. -/
def exec (t : Tid) : (op : FenceOp) → State → FenceReply op → State → Prop
  | .store (.get name), s, r, s' => s' = s ∧
      (∀ o, r = .ok o → (s.claims name).current = some o ∧ o.name = name) ∧
      (∀ e, r = .error e → e.is .notFound = true → (s.claims name).current = none)
  | .store (.update copy), s, r, s' => (Fits s copy ∧ s' = s.store copy) ∨ (r ≠ none ∧ s' = s)
  | .store .now, s, r, s' => s' = s ∧ r ≠ 0
  | .store .nonce, s, r, s' => (s' = s ∧ ∀ n, r ≠ .ok n) ∨
      ∃ n, r = .ok n ∧ hex32Pattern n = true ∧ n ∉ s.old ∧ (∀ u, (n, u) ∉ s.drawn) ∧
        s' = { s with drawn := (n, t) :: s.drawn }
  | .list, s, _, s' => s' = s
  | .getLedger, s, r, s' => s' = s ∧ ∀ lease, r = .ok lease → s.ledger.current = some lease
  | .createLedger lease, s, r, s' =>
    (s.ledger.current = none ∧ s' = s.storeLedger lease) ∨ (r ≠ none ∧ s' = s)
  | .updateLedger lease, s, r, s' =>
    (LedgerFits s lease ∧ s' = s.storeLedger lease) ∨ (r ≠ none ∧ s' = s)
  | .cloud _, s, _, s' => s' = s

/-- What happens without the store. -/
inductive Env : State → State → Prop
  /-- Somebody else edits a NodeClaim.  A deletion is not taken back. -/
  | edit (s : State) (current o : NodeClaim) : (s.claims o.name).current = some current →
      o.uid = current.uid → o.createFence = current.createFence →
      (current.deleting = true → o.deleting = true) → Env s (s.store o)
  /-- The fence is released with a NodeClaim that is being deleted. -/
  | release (s : State) (current o : NodeClaim) : (s.claims o.name).current = some current →
      o.uid = current.uid → o.createFence = .absent → o.deleting = true → Env s (s.store o)
  /-- A NodeClaim is gone. -/
  | remove (s : State) (name : String) :
      Env s { s with claims := update s.claims name (s.claims name).drop }
  /-- A NodeClaim is created, with a UID of its own. -/
  | create (s : State) (o : NodeClaim) : (s.claims o.name).current = none →
      o.createFence = .absent → (∀ o' ∈ (s.claims o.name).log, o'.uid ≠ o.uid) →
      Env s (s.store o)

/-- The system over this world. -/
def sem : Sem State FenceOp FenceReply := ⟨exec, Env⟩

/-! ### What the statement says of a state -/

/-- The record of a stored fence; one of the first schema is migrated. -/
def fenceOf (sha256 : String → String) (o : NodeClaim) : Option CreateFenceRecord :=
  match o.createFence with
  | .record raw => some (upgradeCreateFence sha256 raw)
  | _ => none

/-- The NodeClaim is stored with its assignment issued under this ID. -/
def Unresolved (sha256 : String → String) (s : State) (name uid issueID : String) : Prop :=
  ∃ o r, (s.claims name).current = some o ∧ o.uid = uid ∧ fenceOf sha256 o = some r ∧
    issueOf r = issueID ∧ r.assignmentPhase = some .issued

/-- The firewall of a stored NodeClaim: its location, and its UUID. -/
def FirewallOf (sha256 : String → String) (s : State) (name uid location firewallUUID : String) :
    Prop :=
  ∃ o r, (s.claims name).current = some o ∧ o.uid = uid ∧ fenceOf sha256 o = some r ∧
    r.cleanup.location = location ∧ toLower r.cleanup.firewallUUID = firewallUUID

/-- NodeClaims with any fences, whose assignments have issue IDs of their own,
and no ledger yet. -/
structure Initial (sha256 : String → String) (s : State) : Prop where
  ledger : s.ledger = ⟨[], true⟩
  drawn : s.drawn = []
  single : ∀ name, (s.claims name).log.length ≤ 1
  names : ∀ name, ∀ o ∈ (s.claims name).log, o.name = name
  old : ∀ name, ∀ o ∈ (s.claims name).log, ∀ r, fenceOf sha256 o = some r →
    issueOf r ≠ "" → issueOf r ∈ s.old
  distinct : ∀ name name', ∀ o ∈ (s.claims name).log, ∀ o' ∈ (s.claims name').log, ∀ r r',
    fenceOf sha256 o = some r → fenceOf sha256 o' = some r' → issueOf r ≠ "" →
    issueOf r = issueOf r' → name = name'

/-- A slot of an assignment is installed only while the stored fence of its
NodeClaim has the assignment issued. -/
def timely (sha256 : String → String) (_ : Tid) (op : FenceOp) (s : State) : Prop :=
  match op with
  | .createLedger lease => s.ledger.current = none → ∀ slot, Holds sha256 lease slot →
      slot.operation = .assign →
      Unresolved sha256 s slot.nodeClaimName slot.nodeClaimUID slot.issueID
  | .updateLedger lease => ∀ current, s.ledger.current = some current →
      current.resourceVersion = lease.resourceVersion → ∀ slot, Holds sha256 lease slot →
      ¬ Holds sha256 current slot → slot.operation = .assign → slot.phase = .issued →
      Unresolved sha256 s slot.nodeClaimName slot.nodeClaimUID slot.issueID
  | _ => True

/-! ### Invocations -/

/-- One operation on a create fence or a slot. -/
inductive Call
  | fence (call : Karpenter.Call)
  | recordProtectionFailure (claim : NodeClaim) (binding : CreateFenceBinding)
      (token issueID vmUUID : String)
  | clearProtectionFailure (claim : NodeClaim) (binding : CreateFenceBinding)
      (token issueID vmUUID : String)
  | recordTerminalCleanup (claim : NodeClaim) (binding : CreateFenceBinding)
      (token vmUUID : String)
  | authorizeBaseFirewall (claim : NodeClaim) (binding : CreateFenceBinding)
      (token vmUUID : String)
  | observeBaseFirewall (claim : NodeClaim) (binding : CreateFenceBinding)
      (token vmUUID issueID : String)
  | rejectBaseFirewall (claim : NodeClaim) (binding : CreateFenceBinding)
      (token vmUUID issueID : String)
  | authorizeBaseFirewallDetach (claim : NodeClaim) (binding : CreateFenceBinding)
      (token vmUUID : String)
  | observeBaseFirewallDetach (claim : NodeClaim) (binding : CreateFenceBinding)
      (token : String) (fence : FirewallDetachmentFence)
  | rejectBaseFirewallDetach (claim : NodeClaim) (binding : CreateFenceBinding)
      (token : String) (fence : FirewallDetachmentFence)

/-- What it returns: an authorization comes with the NodeClaim it is for. -/
inductive Outcome
  | done
  | authorized (claim : NodeClaim) (authorization : FirewallAssignmentAuthorization)

/-- Its code. -/
def Call.code (s : SlotStore) : Call → FenceCode Outcome
  | .fence call => do
    let _ ← lift (Karpenter.Call.code s.toStore call)
    pure .done
  | .recordProtectionFailure claim binding token issueID vmUUID => do
    let _ ← lift (s.recordProtectionFailure claim binding token issueID vmUUID)
    pure .done
  | .clearProtectionFailure claim binding token issueID vmUUID => do
    let _ ← lift (s.clearProtectionFailure claim binding token issueID vmUUID)
    pure .done
  | .recordTerminalCleanup claim binding token vmUUID => do
    let _ ← lift (s.recordTerminalCleanup claim binding token vmUUID)
    pure .done
  | .authorizeBaseFirewall claim binding token vmUUID => do
    let (current, authorization, _) ← s.authorizeBaseFirewall claim binding token vmUUID
    pure (.authorized current authorization)
  | .observeBaseFirewall claim binding token vmUUID issueID => do
    let _ ← s.observeBaseFirewall claim binding token vmUUID issueID
    pure .done
  | .rejectBaseFirewall claim binding token vmUUID issueID => do
    let _ ← s.rejectBaseFirewall claim binding token vmUUID issueID
    pure .done
  | .authorizeBaseFirewallDetach claim binding token vmUUID => do
    let _ ← s.authorizeBaseFirewallDetach claim binding token vmUUID
    pure .done
  | .observeBaseFirewallDetach claim binding token detachment => do
    s.observeBaseFirewallDetach claim binding token detachment
    pure .done
  | .rejectBaseFirewallDetach claim binding token detachment => do
    s.rejectBaseFirewallDetach claim binding token detachment
    pure .done

/-- Any operation of any replica. -/
def Calls (sha256 : String → String) (_ : Tid)
    (p : Prog FenceOp FenceReply (Except Err Outcome)) : Prop :=
  ∃ s : SlotStore, s.sha256 = sha256 ∧ ∃ call : Call, p = (call.code s).run

/-- The invocation returned an authorization that allows the POST of `claim`'s
assignment. -/
def Grants (r : Except Err Outcome) (claim : NodeClaim) (issueID : String) : Prop :=
  ∃ authorization, r = .ok (.authorized claim authorization) ∧ authorization.allowPOST = true ∧
    authorization.fence.issueID = issueID

/-! ### Fences -/

section Fences

variable {sha256 : String → String} {r r' : CreateFenceRecord}

variable {o : NodeClaim}

theorem fenceOf_decode (h : decodeCreateFence sha256 o.createFence = .ok r) :
    fenceOf sha256 o = some r := by
  unfold fenceOf
  cases hfence : o.createFence with
  | absent => rw [hfence] at h; cases h
  | malformed => rw [hfence] at h; cases h
  | record =>
    rw [hfence] at h
    obtain ⟨_, -, h⟩ := except_bind_ok h
    exact congrArg some (Except.ok.inj h)

theorem fenceOf_withRecord (h : r.schema = .createFence) :
    fenceOf sha256 (o.withRecord r) = some r := by
  simp only [fenceOf, NodeClaim.withRecord, upgradeCreateFence, h]
  rfl

theorem fenceOf_congr {o' : NodeClaim} (h : o'.createFence = o.createFence) :
    fenceOf sha256 o' = fenceOf sha256 o := by
  unfold fenceOf
  rw [h]

theorem fenceOf_absent (h : o.createFence = .absent) : fenceOf sha256 o = none := by
  unfold fenceOf
  rw [h]

/-- The two fences are of one create attempt: what it is about stays, and the
VM, once it is anchored. -/
structure Continues (r r' : CreateFenceRecord) : Prop where
  cleanup : r'.cleanup = r.cleanup
  created : r.createdVMUUID ≠ "" → r'.createdVMUUID = r.createdVMUUID

/-- The assignment is the same, and if it has ended, it stays so. -/
def Keeps (r r' : CreateFenceRecord) : Prop :=
  issueOf r' = issueOf r ∧ (Ended r → Ended r')

theorem applyCleanupResolution_same {x : FencedCreateCleanupResolution} {now : ℤ}
    (h : applyCleanupResolution r x now = .ok r') : r'.schema = r.schema ∧
      Continues r r' ∧ Keeps r r' := by
  obtain ⟨_, -, h⟩ := except_bind_ok h
  obtain ⟨l, -, h⟩ := except_bind_ok h
  obtain rfl := Except.ok.inj h
  exact ⟨rfl, ⟨rfl, fun _ => rfl⟩, rfl, id⟩

theorem issueOf_some {a : BaseFirewallAssignment} (ha : r.baseFirewallAssignment = some a) :
    issueOf r = a.issueID := by
  rw [issueOf, ha]
  rfl

/-- A writer continues the fence, and an issue ID that it brings in is fresh. -/
theorem write_continues {tr : Trace Op Reply} (h : FenceWrite tr r r') :
    r'.schema = r.schema ∧ Continues r r' ∧ (Keeps r r' ∨ Fresh (issueOf r') tr) := by
  cases h with
  | issue _ _ _ _ _ hfresh => exact ⟨rfl, ⟨rfl, fun _ => rfl⟩, .inr hfresh⟩
  | anchor _ hcreated _ ha =>
    obtain ⟨ha, hpre⟩ := Option.filter_eq_some_iff.1 ha
    simp only [Bool.and_eq_true, beq_iff_eq] at hpre
    refine ⟨rfl, ⟨rfl, fun hne => absurd hcreated hne⟩, .inl ⟨(issueOf_some ha).symm, ?_⟩⟩
    -- what is anchored is still under way
    rintro ⟨_, ha', hterminal⟩
    obtain rfl := Option.some.inj (ha.symm.trans ha')
    rw [hpre.1.1.1] at hterminal
    cases hterminal
  | rollbackUnresolved =>
    exact ⟨rfl, ⟨rfl, fun _ => rfl⟩, .inl ⟨rfl, id⟩⟩
  | rollbackResolved _ _ _ _ _ _ happlied =>
    obtain ⟨hschema, hcontinues, hkeeps⟩ := applyCleanupResolution_same happlied
    exact ⟨hschema, ⟨hcontinues.cleanup, hcontinues.created⟩, .inl hkeeps⟩
  | reject _ _ _ ha =>
    obtain ⟨ha, -⟩ := Option.filter_eq_some_iff.1 ha
    exact ⟨rfl, ⟨rfl, fun _ => rfl⟩, .inl ⟨(issueOf_some ha).symm, fun _ => ⟨_, rfl, rfl⟩⟩⟩
  | mark =>
    exact ⟨rfl, ⟨rfl, fun _ => rfl⟩, .inl ⟨rfl, id⟩⟩
  | terminal => exact ⟨rfl, ⟨rfl, fun _ => rfl⟩, .inl ⟨rfl, id⟩⟩
  | materialize =>
    exact ⟨rfl, ⟨rfl, fun _ => rfl⟩, .inl ⟨rfl, id⟩⟩
  | reissue _ _ _ hfresh => exact ⟨rfl, ⟨rfl, fun _ => rfl⟩, .inr hfresh⟩
  | endAssignment ha _ _ hterminal =>
    refine ⟨rfl, ⟨rfl, fun _ => rfl⟩, .inl ⟨?_, fun _ => ?_⟩⟩
    · rw [issueOf_some ha]
      unfold endAssignment issueOf
      dsimp only
      split <;> rfl
    · unfold endAssignment
      refine ⟨_, rfl, ?_⟩
      split <;> exact hterminal

/-! ### The life of a NodeClaim -/

/-- From one stored object to the next under the same UID.  `new` are the issue
IDs that may be brought in. -/
inductive Move (sha256 : String → String) (new : String → Prop) (o o' : NodeClaim) : Prop
  | same : fenceOf sha256 o' = fenceOf sha256 o → (o.deleting = true → o'.deleting = true) →
      Move sha256 new o o'
  | gone : fenceOf sha256 o' = none → o'.deleting = true → Move sha256 new o o'
  | reserve {r' : CreateFenceRecord} : fenceOf sha256 o = none → o.deleting = false →
      fenceOf sha256 o' = some r' → issueOf r' = "" → Move sha256 new o o'
  | write {r r' : CreateFenceRecord} : fenceOf sha256 o = some r → fenceOf sha256 o' = some r' →
      Continues r r' → Keeps r r' ∨ new (issueOf r') → Move sha256 new o o'

/-- An issue ID of the new fence is the old one's, or none, or brought in. -/
theorem Move.issue {new : String → Prop} {c : NodeClaim} (h : Move sha256 new c o)
    (hr' : fenceOf sha256 o = some r') :
    (∃ r, fenceOf sha256 c = some r ∧ issueOf r = issueOf r') ∨ issueOf r' = "" ∨
      new (issueOf r') := by
  cases h with
  | same hfence => exact .inl ⟨r', hfence ▸ hr', rfl⟩
  | gone hnone =>
    rw [hnone] at hr'
    cases hr'
  | reserve _ _ hr hempty =>
    obtain rfl := Option.some.inj (hr.symm.trans hr')
    exact .inr (.inl hempty)
  | write hr hr₁ _ hkeeps =>
    obtain rfl := Option.some.inj (hr₁.symm.trans hr')
    exact hkeeps.imp (fun hkeep => ⟨_, hr, hkeep.1.symm⟩) .inr

/-- What the life of an object has made of an earlier fence of it. -/
def Aged (sha256 : String → String) (o o' : NodeClaim) : Prop :=
  (fenceOf sha256 o = none → o.deleting = true → fenceOf sha256 o' = none ∧ o'.deleting = true) ∧
  ∀ r, fenceOf sha256 o = some r → (fenceOf sha256 o' = none ∧ o'.deleting = true) ∨
    ∃ r', fenceOf sha256 o' = some r' ∧ Continues r r' ∧
      (issueOf r' = issueOf r → Ended r → Ended r')

theorem Aged.refl (o : NodeClaim) : Aged sha256 o o :=
  ⟨fun h h' => ⟨h, h'⟩, fun r hr => .inr ⟨r, hr, ⟨rfl, fun _ => rfl⟩, fun _ h => h⟩⟩

theorem Continues.trans {r'' : CreateFenceRecord} (h : Continues r r') (h' : Continues r' r'') :
    Continues r r'' := by
  refine ⟨h'.cleanup.trans h.cleanup, fun hne => ?_⟩
  have hcreated := h.created hne
  rw [← hcreated]
  exact h'.created (by rwa [hcreated])

/-- An issue ID that the earlier fence has is not brought in again. -/
theorem Aged.move {new : String → Prop} {o₁ o₂ : NodeClaim} (h : Aged sha256 o o₁)
    (hmove : Move sha256 new o₁ o₂) (hnew : ∀ r, fenceOf sha256 o = some r → ¬ new (issueOf r)) :
    Aged sha256 o o₂ := by
  cases hmove with
  | same hfence hdeleting =>
    rw [Aged, hfence]
    refine ⟨fun hnone hdel => ?_, fun r hr => ?_⟩
    · obtain ⟨hnone₁, hdel₁⟩ := h.1 hnone hdel
      exact ⟨hnone₁, hdeleting hdel₁⟩
    · rcases h.2 r hr with ⟨hnone₁, hdel₁⟩ | hsome
      · exact .inl ⟨hnone₁, hdeleting hdel₁⟩
      · exact .inr hsome
  | gone hnone hdel => exact ⟨fun _ _ => ⟨hnone, hdel⟩, fun _ _ => .inl ⟨hnone, hdel⟩⟩
  | reserve hnone hlive =>
    have hlive' : ¬ (fenceOf sha256 o₁ = none ∧ o₁.deleting = true) := fun hdel => by
      rw [hlive] at hdel
      cases hdel.2
    refine ⟨fun hnone₀ hdel => absurd (h.1 hnone₀ hdel) hlive', fun r hr => ?_⟩
    rcases h.2 r hr with hdel | ⟨_, hr₁, -⟩
    · exact absurd hdel hlive'
    · rw [hnone] at hr₁
      cases hr₁
  | write hr₁ hr₂ hcontinues hkeeps =>
    refine ⟨fun hnone₀ hdel => ?_, fun r hr => ?_⟩
    · rw [(h.1 hnone₀ hdel).1] at hr₁
      cases hr₁
    rcases h.2 r hr with ⟨hnone₁, -⟩ | ⟨_, hr₁', hcontinues₁, hended⟩
    · rw [hnone₁] at hr₁
      cases hr₁
    obtain rfl := Option.some.inj (hr₁.symm.trans hr₁')
    refine .inr ⟨_, hr₂, hcontinues₁.trans hcontinues, fun hissue hend => ?_⟩
    rcases hkeeps with ⟨hsame, hkeep⟩ | hnew₂
    · exact hkeep (hended (hsame.symm.trans hissue) hend)
    · rw [hissue] at hnew₂
      exact absurd hnew₂ (hnew r hr)

end Fences

/-! ### The invariant -/

/-- The object has been stored. -/
def Stored (s : State) (o : NodeClaim) : Prop := o ∈ (s.claims o.name).log

/-- A stored fence has had this issue ID. -/
def Carried (sha256 : String → String) (s : State) (issueID : String) : Prop :=
  ∃ o r, Stored s o ∧ fenceOf sha256 o = some r ∧ issueOf r = issueID

/-- An object of the slot's owner has been stored, with this fence. -/
def OwnerStored (sha256 : String → String) (s : State) (slot : FirewallMutationSlot)
    (r : CreateFenceRecord) : Prop :=
  ∃ o, Stored s o ∧ o.name = slot.nodeClaimName ∧ o.uid = slot.nodeClaimUID ∧
    fenceOf sha256 o = some r

/-- The owner has had the assignment of the slot. -/
def Backed (sha256 : String → String) (s : State) (slot : FirewallMutationSlot) : Prop :=
  ∃ r, OwnerStored sha256 s slot r ∧ issueOf r = slot.issueID ∧
    r.cleanup.location = slot.location ∧ toLower r.cleanup.firewallUUID = slot.firewallUUID ∧
    r.createdVMUUID = slot.vmUUID

/-- The UID is no longer stored under the name. -/
def Gone (s : State) (name uid : String) : Prop :=
  (∃ o, Stored s o ∧ o.name = name ∧ o.uid = uid) ∧
    ∀ o, (s.claims name).current = some o → o.uid ≠ uid

/-- The assignment of the slot has ended, or its owner is gone. -/
def Over (sha256 : String → String) (s : State) (slot : FirewallMutationSlot) : Prop :=
  (∃ r, OwnerStored sha256 s slot r ∧ issueOf r = slot.issueID ∧ Ended r) ∨
    Gone s slot.nodeClaimName slot.nodeClaimUID

/-- The two slots are of one acquisition. -/
structure Same (slot slot' : FirewallMutationSlot) : Prop where
  operation : slot.operation = slot'.operation
  name : slot.nodeClaimName = slot'.nodeClaimName
  uid : slot.nodeClaimUID = slot'.nodeClaimUID
  vm : slot.vmUUID = slot'.vmUUID
  issue : slot.issueID = slot'.issueID
  acquisition : slot.acquisitionID = slot'.acquisitionID

theorem Same.refl (slot : FirewallMutationSlot) : Same slot slot := ⟨rfl, rfl, rfl, rfl, rfl, rfl⟩

theorem Same.trans {slot slot' slot'' : FirewallMutationSlot} (h : Same slot slot')
    (h' : Same slot' slot'') : Same slot slot'' :=
  ⟨h.operation.trans h'.operation, h.name.trans h'.name, h.uid.trans h'.uid, h.vm.trans h'.vm,
    h.issue.trans h'.issue, h.acquisition.trans h'.acquisition⟩

/-- The invariant of the NodeClaims. -/
structure ClaimInv (sha256 : String → String) (s : State) : Prop where
  ordered : ∀ name, (s.claims name).Ordered claimStamp
  names : ∀ name, ∀ o ∈ (s.claims name).log, o.name = name
  aged : ∀ name, (s.claims name).log.Pairwise fun newer older =>
    older.uid = newer.uid → Aged sha256 older newer
  owned : ∀ o o' r r', Stored s o → Stored s o' → fenceOf sha256 o = some r →
    fenceOf sha256 o' = some r' → issueOf r ≠ "" → issueOf r = issueOf r' →
    o.name = o'.name ∧ o.uid = o'.uid
  known : ∀ issueID, Carried sha256 s issueID → issueID ≠ "" →
    issueID ∈ s.old ∨ ∃ t, (issueID, t) ∈ s.drawn
  drawn : ∀ n t u, (n, t) ∈ s.drawn → (n, u) ∈ s.drawn → t = u

/-- The invariant of the ledger. -/
structure LedgerInv (sha256 : String → String) (s : State) : Prop where
  ordered : s.ledger.Ordered leaseStamp
  here : s.ledger.here = true
  /-- A slot is one of its owner's assignments. -/
  backed : ∀ lease ∈ s.ledger.log, ∀ slot, Holds sha256 lease slot →
    slot.operation = .assign → Backed sha256 s slot
  identified : ∀ lease ∈ s.ledger.log, ∀ slot, Holds sha256 lease slot →
    slot.issueID ≠ "" ∧ slot.vmUUID ≠ ""
  /-- An assignment is acquired once. -/
  once : ∀ lease ∈ s.ledger.log, ∀ lease' ∈ s.ledger.log, ∀ slot slot',
    Holds sha256 lease slot → Holds sha256 lease' slot' → slot.operation = .assign →
    slot'.operation = .assign → slot.issueID = slot'.issueID →
    slot.acquisitionID = slot'.acquisitionID
  /-- An assignment stays in its slot until it is over. -/
  stays : ∀ lease ∈ s.ledger.log, ∀ slot, Holds sha256 lease slot → slot.operation = .assign →
    Over sha256 s slot ∨ ∃ current slot', s.ledger.current = some current ∧
      Holds sha256 current slot' ∧ Same slot' slot
  ended : ∀ lease ∈ s.ledger.log, ∀ slot, Holds sha256 lease slot → slot.operation = .assign →
    slot.phase.terminal = true → Over sha256 s slot

/-- The invariant of the shared state. -/
structure Inv (sha256 : String → String) (s : State) : Prop where
  claims : ClaimInv sha256 s
  ledger : LedgerInv sha256 s

/-- Nothing that has been stored is forgotten, and a UID that is gone does not
come back. -/
structure Grows (s s' : State) : Prop where
  stored : ∀ o, Stored s o → Stored s' o
  gone : ∀ name uid, Gone s name uid → Gone s' name uid
  ledger : s.ledger.log ⊆ s'.ledger.log
  drawn : s.drawn ⊆ s'.drawn

/-- What a step of `t` does: the issue IDs that it brings in it has drawn. -/
def Guar (sha256 : String → String) (t : Tid) (s s' : State) : Prop :=
  Grows s s' ∧ ∀ issueID, Carried sha256 s' issueID →
    Carried sha256 s issueID ∨ issueID = "" ∨ (issueID, t) ∈ s.drawn

/-- The rules of the system. -/
def rules (sha256 : String → String) : Rules State := ⟨Inv sha256, Guar sha256, fun _ _ => True⟩

/-! ### Storing a NodeClaim -/

section Claims

variable {sha256 : String → String} {s s' : State} {o c : NodeClaim} {slot : FirewallMutationSlot}

theorem Grows.refl (s : State) : Grows s s :=
  ⟨fun _ h => h, fun _ _ h => h, List.Subset.refl _, List.Subset.refl _⟩

theorem OwnerStored.grows {r : CreateFenceRecord} (h : OwnerStored sha256 s slot r)
    (hgrows : Grows s s') : OwnerStored sha256 s' slot r := by
  obtain ⟨o, ho, hrest⟩ := h
  exact ⟨o, hgrows.stored o ho, hrest⟩

theorem Backed.grows (h : Backed sha256 s slot) (hgrows : Grows s s') : Backed sha256 s' slot := by
  obtain ⟨r, hr, hrest⟩ := h
  exact ⟨r, hr.grows hgrows, hrest⟩

theorem Over.grows (h : Over sha256 s slot) (hgrows : Grows s s') : Over sha256 s' slot := by
  rcases h with ⟨r, hr, hrest⟩ | hgone
  · exact .inl ⟨r, hr.grows hgrows, hrest⟩
  · exact .inr (hgrows.gone _ _ hgone)

theorem LedgerInv.grows (h : LedgerInv sha256 s) (hgrows : Grows s s')
    (hledger : s'.ledger = s.ledger) : LedgerInv sha256 s' where
  ordered := by rw [hledger]; exact h.ordered
  here := by rw [hledger]; exact h.here
  backed := fun lease hlease slot hslot hassign => by
    rw [hledger] at hlease
    exact (h.backed lease hlease slot hslot hassign).grows hgrows
  identified := by rw [hledger]; exact h.identified
  once := by rw [hledger]; exact h.once
  stays := fun lease hlease slot hslot hassign => by
    rw [hledger] at hlease ⊢
    exact (h.stays lease hlease slot hslot hassign).imp_left fun hover => hover.grows hgrows
  ended := fun lease hlease slot hslot hassign hphase => by
    rw [hledger] at hlease
    exact (h.ended lease hlease slot hslot hassign hphase).grows hgrows

/-- The object as it is stored. -/
def stamped (s : State) (o : NodeClaim) : NodeClaim :=
  claimStamp.stamp ((s.claims o.name).next claimStamp) o

theorem stored_store {o' : NodeClaim} : Stored (s.store o) o' ↔ o' = stamped s o ∨ Stored s o' := by
  unfold Stored State.store
  dsimp only
  by_cases hname : o'.name = o.name
  · rw [hname, update_self, Versioned.log_put, List.mem_cons]
    rfl
  · rw [update_of_ne hname]
    refine ⟨.inr, fun h => h.resolve_left ?_⟩
    rintro rfl
    exact hname rfl

theorem current_store (name : String) : ((s.store o).claims name).current =
    if name = o.name then some (stamped s o) else (s.claims name).current := by
  unfold State.store
  dsimp only
  split
  next hname => rw [hname, update_self]; rfl
  next hname => rw [update_of_ne hname]

theorem log_store (name : String) : ((s.store o).claims name).log =
    if name = o.name then stamped s o :: (s.claims name).log else (s.claims name).log := by
  unfold State.store
  dsimp only
  split
  next hname => rw [hname, update_self]; rfl
  next hname => rw [update_of_ne hname]

theorem fenceOf_stamped : fenceOf sha256 (stamped s o) = fenceOf sha256 o := rfl

/-- Storing an object grows the state, if it does not bring back a UID. -/
theorem grows_store
    (huid : (∃ c, (s.claims o.name).current = some c ∧ o.uid = c.uid) ∨
      ∀ o' ∈ (s.claims o.name).log, o'.uid ≠ o.uid) : Grows s (s.store o) where
  stored := fun o' ho' => stored_store.2 (.inr ho')
  gone := fun name uid hgone => by
    obtain ⟨⟨o', ho', hname', huid'⟩, hother⟩ := hgone
    refine ⟨⟨o', stored_store.2 (.inr ho'), hname', huid'⟩, fun c hc => ?_⟩
    rw [current_store] at hc
    split at hc
    next heq =>
      obtain rfl := Option.some.inj hc
      rcases huid with ⟨c, hc, hsame⟩ | hnew
      · rw [heq] at hother
        exact fun h => hother c hc (hsame.symm.trans h)
      · intro h
        refine hnew o' ?_ (huid'.trans h.symm)
        rw [← heq, ← hname']
        exact ho'
    next => exact hother c hc
  ledger := List.Subset.refl _
  drawn := List.Subset.refl _

theorem ClaimInv.ordered_store (h : ClaimInv sha256 s) (name : String) :
    ((s.store o).claims name).Ordered claimStamp := by
  unfold State.store
  dsimp only
  by_cases hname : name = o.name
  · rw [hname, update_self]
    exact (h.ordered _).put
  · rw [update_of_ne hname]
    exact h.ordered name

theorem ClaimInv.names_store (h : ClaimInv sha256 s) (name : String) :
    ∀ o' ∈ ((s.store o).claims name).log, o'.name = name := by
  rw [log_store]
  split
  next hname => exact List.forall_mem_cons.2 ⟨hname.symm, h.names name⟩
  next => exact h.names name

theorem ClaimInv.current_stored (h : ClaimInv sha256 s) {name : String}
    (hc : (s.claims name).current = some c) : Stored s c ∧ c.name = name := by
  have hname := h.names name c (Versioned.current_mem hc)
  refine ⟨?_, hname⟩
  rw [Stored, hname]
  exact Versioned.current_mem hc

/-- An object is stored over the current one. -/
theorem ClaimInv.move {new : String → Prop} (h : ClaimInv sha256 s)
    (hc : (s.claims o.name).current = some c) (huid : o.uid = c.uid) (hmove : Move sha256 new c o)
    (hnew : ∀ issueID, new issueID → ¬ Carried sha256 s issueID ∧ ∃ t, (issueID, t) ∈ s.drawn) :
    ClaimInv sha256 (s.store o) := by
  obtain ⟨hcstored, hcname⟩ := h.current_stored hc
  have hmem : ∀ o' ∈ (s.claims o.name).log, Stored s o' := fun o' ho' => by
    unfold Stored
    rw [h.names _ o' ho']
    exact ho'
  have hcarried : ∀ r', fenceOf sha256 o = some r' → issueOf r' ≠ "" →
      (∃ r, fenceOf sha256 c = some r ∧ issueOf r = issueOf r') ∨ new (issueOf r') :=
    fun r' hr' hne => (hmove.issue hr').imp_right fun h => h.resolve_left hne
  refine ⟨h.ordered_store, h.names_store, fun name => ?_, ?_, ?_, h.drawn⟩
  · rw [log_store]
    split
    next hname =>
      subst hname
      refine List.pairwise_cons.2 ⟨fun older holder hsame => ?_, h.aged _⟩
      have hfresh : ∀ r, fenceOf sha256 older = some r → ¬ new (issueOf r) := fun r hr hin =>
        (hnew _ hin).1 ⟨older, r, hmem older holder, hr, rfl⟩
      show Aged sha256 older o
      obtain ⟨_, hlog⟩ := Versioned.log_of_current hc
      have haged := h.aged o.name
      rw [hlog] at holder haged
      rcases List.mem_cons.1 holder with rfl | holder
      · exact (Aged.refl _).move hmove hfresh
      · exact ((List.pairwise_cons.1 haged).1 older holder (hsame.trans huid)).move hmove hfresh
    next => exact h.aged name
  · -- an issue ID of the new fence is the current one's, or nobody's
    have hone : ∀ o' r r', Stored s o' → fenceOf sha256 o = some r → fenceOf sha256 o' = some r' →
        issueOf r ≠ "" → issueOf r = issueOf r' → o.name = o'.name ∧ o.uid = o'.uid := by
      intro o' r r' ho' hr hr' hne heq
      rcases hcarried r hr hne with ⟨rc, hrc, hsame⟩ | hin
      · obtain ⟨hname, huid'⟩ := h.owned c o' rc r' hcstored ho' hrc hr' (by rwa [hsame])
          (hsame.trans heq)
        exact ⟨hcname.symm.trans hname, huid.trans huid'⟩
      · exact absurd ⟨o', r', ho', hr', heq.symm⟩ (hnew _ hin).1
    intro o₁ o₂ r₁ r₂ ho₁ ho₂ hr₁ hr₂ hne heq
    rcases stored_store.1 ho₁ with rfl | ho₁ <;> rcases stored_store.1 ho₂ with rfl | ho₂
    · exact ⟨rfl, rfl⟩
    · exact hone o₂ r₁ r₂ ho₂ hr₁ hr₂ hne heq
    · obtain ⟨hname, huid'⟩ := hone o₁ r₂ r₁ ho₁ hr₂ hr₁ (by rwa [← heq]) heq.symm
      exact ⟨hname.symm, huid'.symm⟩
    · exact h.owned o₁ o₂ r₁ r₂ ho₁ ho₂ hr₁ hr₂ hne heq
  · rintro _ ⟨o', r', ho', hr', rfl⟩ hne
    rcases stored_store.1 ho' with rfl | ho'
    · rcases hcarried r' hr' hne with ⟨rc, hrc, hsame⟩ | hin
      · rw [← hsame] at hne ⊢
        exact h.known _ ⟨c, rc, hcstored, hrc, rfl⟩ hne
      · exact .inr (hnew _ hin).2
    · exact h.known _ ⟨o', r', ho', hr', rfl⟩ hne

/-- A new object has no fence. -/
theorem ClaimInv.create (h : ClaimInv sha256 s) (hfence : o.createFence = .absent)
    (huid : ∀ o' ∈ (s.claims o.name).log, o'.uid ≠ o.uid) : ClaimInv sha256 (s.store o) := by
  have hnone : fenceOf sha256 (stamped s o) = none := fenceOf_absent hfence
  refine ⟨h.ordered_store, h.names_store, fun name => ?_, ?_, ?_, h.drawn⟩
  · rw [log_store]
    split
    next hname =>
      subst hname
      exact List.pairwise_cons.2 ⟨fun older holder hsame => absurd hsame (huid older holder),
        h.aged _⟩
    next => exact h.aged name
  · intro o₁ o₂ r₁ r₂ ho₁ ho₂ hr₁ hr₂ hne heq
    rcases stored_store.1 ho₁ with rfl | ho₁
    · rw [hnone] at hr₁; cases hr₁
    rcases stored_store.1 ho₂ with rfl | ho₂
    · rw [hnone] at hr₂; cases hr₂
    exact h.owned o₁ o₂ r₁ r₂ ho₁ ho₂ hr₁ hr₂ hne heq
  · rintro _ ⟨o', r', ho', hr', rfl⟩ hne
    rcases stored_store.1 ho' with rfl | ho'
    · rw [hnone] at hr'; cases hr'
    · exact h.known _ ⟨o', r', ho', hr', rfl⟩ hne

/-- A NodeClaim is gone. -/
theorem ClaimInv.remove (h : ClaimInv sha256 s) (name : String) :
    let s' := { s with claims := update s.claims name (s.claims name).drop }
    ClaimInv sha256 s' ∧ Grows s s' ∧ ∀ issueID, Carried sha256 s' issueID →
      Carried sha256 s issueID := by
  intro s'
  have hlog : ∀ name', (s'.claims name').log = (s.claims name').log := fun name' => by
    by_cases hname : name' = name
    · subst hname
      rw [show s'.claims name' = (s.claims name').drop from update_self ..]
      rfl
    · rw [show s'.claims name' = s.claims name' from update_of_ne hname ..]
  have hstored : ∀ o, Stored s' o ↔ Stored s o := fun o => by unfold Stored; rw [hlog]
  have hcarried : ∀ issueID, Carried sha256 s' issueID → Carried sha256 s issueID := by
    rintro _ ⟨o, r, ho, hr⟩
    exact ⟨o, r, (hstored o).1 ho, hr⟩
  refine ⟨⟨fun name' => ?_, fun name' => ?_, fun name' => ?_, ?_, ?_, h.drawn⟩, ?_, hcarried⟩
  · unfold Versioned.Ordered
    rw [hlog]
    exact h.ordered name'
  · rw [hlog]
    exact h.names name'
  · rw [hlog]
    exact h.aged name'
  · intro o o' r r' ho ho'
    exact h.owned o o' r r' ((hstored o).1 ho) ((hstored o').1 ho')
  · intro issueID hc
    exact h.known issueID (hcarried issueID hc)
  · refine ⟨fun o ho => (hstored o).2 ho, ?_, List.Subset.refl _, List.Subset.refl _⟩
    rintro name' _ ⟨⟨o, ho, hrest⟩, hother⟩
    refine ⟨⟨o, (hstored o).2 ho, hrest⟩, fun c hc => ?_⟩
    by_cases hname : name' = name
    · subst hname
      rw [show s'.claims name' = (s.claims name').drop from update_self ..] at hc
      cases hc
    · rw [show s'.claims name' = s.claims name' from update_of_ne hname ..] at hc
      exact hother c hc

/-- What is carried after an object has been stored over the current one. -/
theorem carried_move {new : String → Prop} (h : ClaimInv sha256 s)
    (hc : (s.claims o.name).current = some c) (hmove : Move sha256 new c o) {issueID : String}
    (hcarried : Carried sha256 (s.store o) issueID) :
    Carried sha256 s issueID ∨ issueID = "" ∨ new issueID := by
  obtain ⟨o', r', ho', hr', rfl⟩ := hcarried
  rcases stored_store.1 ho' with rfl | ho'
  · rcases hmove.issue hr' with ⟨r, hr, hsame⟩ | hnew
    · exact .inl ⟨c, r, (h.current_stored hc).1, hr, hsame⟩
    · exact .inr hnew
  · exact .inl ⟨o', r', ho', hr', rfl⟩

theorem Inv.env {s s' : State} (h : Inv sha256 s) (he : Env s s') :
    Inv sha256 s' ∧ Grows s s' ∧ ∀ issueID, Carried sha256 s' issueID →
      Carried sha256 s issueID ∨ issueID = "" := by
  have hmoved : ∀ {o c : NodeClaim}, (s.claims o.name).current = some c → o.uid = c.uid →
      Move sha256 (fun _ => False) c o → Inv sha256 (s.store o) ∧ Grows s (s.store o) ∧
        ∀ issueID, Carried sha256 (s.store o) issueID → Carried sha256 s issueID ∨ issueID = "" := by
    intro o c hc huid hmove
    have hgrows : Grows s (s.store o) := grows_store (.inl ⟨c, hc, huid⟩)
    refine ⟨⟨h.claims.move hc huid hmove fun _ h => h.elim, h.ledger.grows hgrows rfl⟩, hgrows,
      fun issueID hcarried => ?_⟩
    rcases carried_move h.claims hc hmove hcarried with hold | hempty | hnone
    · exact .inl hold
    · exact .inr hempty
    · exact hnone.elim
  cases he with
  | edit _ _ hc huid hfence hdeleting =>
    exact hmoved hc huid (.same (fenceOf_congr hfence) hdeleting)
  | release _ _ hc huid hfence hdeleting =>
    exact hmoved hc huid (.gone (fenceOf_absent hfence) hdeleting)
  | remove name =>
    obtain ⟨hclaims, hgrows, hcarried⟩ := h.claims.remove name
    exact ⟨⟨hclaims, h.ledger.grows hgrows rfl⟩, hgrows, fun issueID hc => .inl (hcarried _ hc)⟩
  | create o _ hfence huid =>
    have hgrows : Grows s (s.store o) := grows_store (.inr huid)
    refine ⟨⟨h.claims.create hfence huid, h.ledger.grows hgrows rfl⟩, hgrows, ?_⟩
    rintro _ ⟨o', r', ho', hr', rfl⟩
    rcases stored_store.1 ho' with rfl | ho'
    · rw [fenceOf_stamped, fenceOf_absent hfence] at hr'
      cases hr'
    · exact .inl ⟨o', r', ho', hr', rfl⟩

end Claims

/-! ### Storing the ledger -/

section Ledger

variable {sha256 : String → String} {s : State} {slot slot' : FirewallMutationSlot}

/-- Two fences of one UID are of one attempt. -/
theorem ClaimInv.related (h : ClaimInv sha256 s) {o o' : NodeClaim} {r r' : CreateFenceRecord}
    (ho : Stored s o) (ho' : Stored s o') (hname : o.name = o'.name) (huid : o.uid = o'.uid)
    (hr : fenceOf sha256 o = some r) (hr' : fenceOf sha256 o' = some r') :
    Continues r r' ∨ Continues r' r := by
  have hmem : o ∈ (s.claims o'.name).log := by rw [← hname]; exact ho
  -- the later of the two has a fence, so it continues the earlier one
  have haged : ∀ {a b : NodeClaim} {ra rb : CreateFenceRecord}, fenceOf sha256 a = some ra →
      fenceOf sha256 b = some rb → Aged sha256 a b → Continues ra rb := by
    intro _ _ ra _ ha hb h
    rcases h.2 ra ha with ⟨hnone, -⟩ | ⟨_, hr'', hcontinues, -⟩
    · rw [hnone] at hb; cases hb
    · obtain rfl := Option.some.inj (hr''.symm.trans hb)
      exact hcontinues
  have hsymm : Std.Symm fun a b : NodeClaim => a.uid = b.uid →
      Aged sha256 a b ∨ Aged sha256 b a := ⟨fun a b hab hsame => (hab hsame.symm).symm⟩
  have hpairs : (s.claims o'.name).log.Pairwise fun a b => a.uid = b.uid →
      Aged sha256 a b ∨ Aged sha256 b a :=
    (h.aged o'.name).imp fun hpair hsame => .inr (hpair hsame.symm)
  rcases hpairs.forall_of_forall (fun _ _ _ => .inl (Aged.refl _)) hmem ho' huid with h | h
  · exact .inl (haged hr hr' h)
  · exact .inr (haged hr' hr h)

theorem ClaimInv.same_cleanup (h : ClaimInv sha256 s) {o o' : NodeClaim} {r r' : CreateFenceRecord}
    (ho : Stored s o) (ho' : Stored s o') (hname : o.name = o'.name) (huid : o.uid = o'.uid)
    (hr : fenceOf sha256 o = some r) (hr' : fenceOf sha256 o' = some r') : r'.cleanup = r.cleanup := by
  rcases h.related ho ho' hname huid hr hr' with hc | hc
  · exact hc.cleanup
  · exact hc.cleanup.symm

/-- What two slots with the same issue ID have in common. -/
theorem ClaimInv.same_home (h : ClaimInv sha256 s) (hslot : Backed sha256 s slot)
    (hslot' : Backed sha256 s slot') (hissue : slot.issueID = slot'.issueID)
    (hne : slot.issueID ≠ "") (hvm : slot.vmUUID ≠ "") (hvm' : slot'.vmUUID ≠ "") :
    slot.nodeClaimName = slot'.nodeClaimName ∧ slot.nodeClaimUID = slot'.nodeClaimUID ∧
      slot.vmUUID = slot'.vmUUID ∧ keyOf sha256 slot = keyOf sha256 slot' := by
  obtain ⟨r, ⟨o, ho, hname, huid, hr⟩, hissueOf, hlocation, hfirewall, hcreated⟩ := hslot
  obtain ⟨r', ⟨o', ho', hname', huid', hr'⟩, hissueOf', hlocation', hfirewall', hcreated'⟩ := hslot'
  obtain ⟨hnames, huids⟩ := h.owned o o' r r' ho ho' hr hr' (by rwa [hissueOf])
    (hissueOf.trans (hissue.trans hissueOf'.symm))
  have hhome : r'.cleanup = r.cleanup ∧ r.createdVMUUID = r'.createdVMUUID := by
    rcases h.related ho ho' hnames huids hr hr' with hc | hc
    · exact ⟨hc.cleanup, (hc.created (by rwa [hcreated])).symm⟩
    · exact ⟨hc.cleanup.symm, hc.created (by rwa [hcreated'])⟩
  refine ⟨?_, ?_, ?_, ?_⟩
  · rw [← hname, ← hname', hnames]
  · rw [← huid, ← huid', huids]
  · rw [← hcreated, ← hcreated', hhome.2]
  · unfold keyOf
    rw [← hlocation, ← hlocation', ← hfirewall, ← hfirewall', hhome.1]

theorem Over.congr (h : Over sha256 s slot) (hname : slot'.nodeClaimName = slot.nodeClaimName)
    (huid : slot'.nodeClaimUID = slot.nodeClaimUID) (hissue : slot'.issueID = slot.issueID) :
    Over sha256 s slot' := by
  unfold Over OwnerStored at *
  rw [hname, huid, hissue]
  exact h

/-- An assignment that is over is not issued. -/
theorem ClaimInv.not_unresolved (h : ClaimInv sha256 s) (hover : Over sha256 s slot) :
    ¬ Unresolved sha256 s slot.nodeClaimName slot.nodeClaimUID slot.issueID := by
  rintro ⟨c, rc, hc, huid, hrc, hissue, hphase⟩
  rcases hover with ⟨r, ⟨o, ho, hname, huid', hr⟩, hissue', hended⟩ | ⟨-, hother⟩
  · have hlive : ¬ Ended rc := by
      rintro ⟨a, ha, hterminal⟩
      simp only [CreateFenceRecord.assignmentPhase, ha, Option.map_some, Option.some.injEq] at hphase
      rw [hphase] at hterminal
      cases hterminal
    have hmem : o ∈ (s.claims slot.nodeClaimName).log := by rw [← hname]; exact ho
    have haged := h.aged slot.nodeClaimName
    obtain ⟨_, hlog⟩ := Versioned.log_of_current hc
    rw [hlog] at hmem haged
    rcases List.mem_cons.1 hmem with rfl | hmem
    · obtain rfl := Option.some.inj (hr.symm.trans hrc)
      exact hlive hended
    · rcases ((List.pairwise_cons.1 haged).1 o hmem (huid'.trans huid.symm)).2 r hr with
        ⟨hnone, -⟩ | ⟨r', hr', -, hend⟩
      · rw [hnone] at hrc; cases hrc
      · obtain rfl := Option.some.inj (hr'.symm.trans hrc)
        exact hlive (hend (hissue.trans hissue'.symm) hended)
  · exact hother c hc huid

theorem slot_set (ledger : FirewallMutationLedger) (key key' : String) :
    (ledger.set key slot).slot key' = if key' = key then some slot else ledger.slot key' := by
  unfold FirewallMutationLedger.slot FirewallMutationLedger.set
  rw [List.lookup_cons]
  by_cases heq : key' = key
  · simp [heq]
  · rw [if_neg heq, beq_false_of_ne heq]
    dsimp only
    generalize ledger.slots = slots
    induction slots with
    | nil => rfl
    | cons entry _ ih =>
      obtain ⟨k, v⟩ := entry
      rw [List.filter_cons]
      by_cases hk : k = key
      · subst hk
        simp [List.lookup_cons, beq_false_of_ne heq, ih]
      · simp [List.lookup_cons, hk, ih]

variable {lease : LedgerLease} {ledger : FirewallMutationLedger}

/-- What the Lease holds after a slot has been set in it. -/
theorem holds_set (slot slot' : FirewallMutationSlot) {n : ℕ}
    (hledger : lease.ledger = .record ledger) : Holds sha256 (leaseStamp.stamp n
      { lease with ledger := .record (ledger.set (keyOf sha256 slot) slot) }) slot' ↔
    slot' = slot ∨ (keyOf sha256 slot' ≠ keyOf sha256 slot ∧ Holds sha256 lease slot') := by
  have hset : Holds sha256 (leaseStamp.stamp n
      { lease with ledger := .record (ledger.set (keyOf sha256 slot) slot) }) slot' ↔
      (ledger.set (keyOf sha256 slot) slot).slot (keyOf sha256 slot') = some slot' :=
    ⟨fun ⟨_, h, h'⟩ => by cases h; exact h', fun h => ⟨_, rfl, h⟩⟩
  have hold : Holds sha256 lease slot' ↔ ledger.slot (keyOf sha256 slot') = some slot' := by
    unfold Holds
    rw [hledger]
    exact ⟨fun ⟨_, h, h'⟩ => by cases h; exact h', fun h => ⟨_, rfl, h⟩⟩
  rw [hset, hold, slot_set]
  split
  next hkey =>
    constructor
    · exact fun h => .inl (Option.some.inj h).symm
    · rintro (rfl | ⟨hne, -⟩)
      · rfl
      · exact absurd hkey hne
  next hkey =>
    constructor
    · exact fun h => .inr ⟨hkey, h⟩
    · rintro (rfl | ⟨-, h⟩)
      · exact absurd rfl hkey
      · exact h

theorem grows_storeLedger : Grows s (s.storeLedger lease) :=
  ⟨fun _ h => h, fun _ _ h => h, List.subset_cons_self _ _, List.Subset.refl _⟩

/-- A Lease is stored in which only the slot `slot` is new. -/
theorem LedgerInv.put (h : LedgerInv sha256 s) (slot : FirewallMutationSlot)
    (hholds : ∀ slot', Holds sha256 (leaseStamp.stamp (s.ledger.next leaseStamp) lease) slot' ↔
      slot' = slot ∨ (keyOf sha256 slot' ≠ keyOf sha256 slot ∧
        ∃ current, s.ledger.current = some current ∧ Holds sha256 current slot'))
    (hid : slot.issueID ≠ "" ∧ slot.vmUUID ≠ "")
    (hbacked : slot.operation = .assign → Backed sha256 s slot)
    (honce : slot.operation = .assign → ∀ lease ∈ s.ledger.log, ∀ slot', Holds sha256 lease slot' →
      slot'.operation = .assign → slot'.issueID = slot.issueID →
      slot'.acquisitionID = slot.acquisitionID)
    (hover : ∀ current, s.ledger.current = some current → ∀ slot', Holds sha256 current slot' →
      slot'.operation = .assign → keyOf sha256 slot' = keyOf sha256 slot →
      Over sha256 s slot' ∨ Same slot slot')
    (hended : slot.operation = .assign → slot.phase.terminal = true → Over sha256 s slot) :
    LedgerInv sha256 (s.storeLedger lease) := by
  have hgrows : Grows s (s.storeLedger lease) := grows_storeLedger
  -- a slot of the ledger's log is the new one, or was there before
  have hcases : ∀ lease' ∈ (s.storeLedger lease).ledger.log, ∀ slot', Holds sha256 lease' slot' →
      slot' = slot ∨ ∃ lease'' ∈ s.ledger.log, Holds sha256 lease'' slot' := by
    intro lease' hlease' slot' hslot'
    rcases List.mem_cons.1 hlease' with rfl | hlease'
    · rcases (hholds slot').1 hslot' with rfl | ⟨-, current, hcurrent, hslot'⟩
      · exact .inl rfl
      · exact .inr ⟨current, Versioned.current_mem hcurrent, hslot'⟩
    · exact .inr ⟨lease', hlease', hslot'⟩
  have hnow : Holds sha256 (leaseStamp.stamp (s.ledger.next leaseStamp) lease) slot :=
    (hholds slot).2 (.inl rfl)
  refine ⟨h.ordered.put, rfl, ?_, ?_, ?_, ?_, ?_⟩
  · intro lease' hlease' slot' hslot' hassign
    rcases hcases lease' hlease' slot' hslot' with rfl | ⟨lease'', hlease'', hslot'⟩
    · exact hbacked hassign
    · exact h.backed lease'' hlease'' slot' hslot' hassign
  · intro lease' hlease' slot' hslot'
    rcases hcases lease' hlease' slot' hslot' with rfl | ⟨lease'', hlease'', hslot'⟩
    · exact hid
    · exact h.identified lease'' hlease'' slot' hslot'
  · intro l₁ hl₁ l₂ hl₂ s₁ s₂ hs₁ hs₂ ha₁ ha₂ hissue
    rcases hcases l₁ hl₁ s₁ hs₁ with rfl | ⟨l₁', hl₁', hs₁'⟩ <;>
      rcases hcases l₂ hl₂ s₂ hs₂ with rfl | ⟨l₂', hl₂', hs₂'⟩
    · rfl
    · exact (honce ha₁ l₂' hl₂' s₂ hs₂' ha₂ hissue.symm).symm
    · exact honce ha₂ l₁' hl₁' s₁ hs₁' ha₁ hissue
    · exact h.once l₁' hl₁' l₂' hl₂' s₁ s₂ hs₁' hs₂' ha₁ ha₂ hissue
  · intro lease' hlease' slot' hslot' hassign
    rcases hcases lease' hlease' slot' hslot' with rfl | ⟨lease'', hlease'', hslot'⟩
    · exact .inr ⟨_, slot', rfl, hnow, .refl _⟩
    rcases h.stays lease'' hlease'' slot' hslot' hassign with hold | ⟨current, old, hcurrent, hold, hsame⟩
    · exact .inl (hold.grows hgrows)
    by_cases hkey : keyOf sha256 old = keyOf sha256 slot
    · have hassign' : old.operation = .assign := hsame.operation.trans hassign
      rcases hover current hcurrent old hold hassign' hkey with hdone | hsame'
      · exact .inl (Over.grows (hdone.congr hsame.name.symm hsame.uid.symm hsame.issue.symm) hgrows)
      · exact .inr ⟨_, slot, rfl, hnow, hsame'.trans hsame⟩
    · exact .inr ⟨_, old, rfl, (hholds old).2 (.inr ⟨hkey, current, hcurrent, hold⟩), hsame⟩
  · intro lease' hlease' slot' hslot' hassign hterminal
    rcases hcases lease' hlease' slot' hslot' with rfl | ⟨lease'', hlease'', hslot'⟩
    · exact (hended hassign hterminal).grows hgrows
    · exact (h.ended lease'' hlease'' slot' hslot' hassign hterminal).grows hgrows

/-- A slot is installed in the stored Lease. -/
theorem Inv.install (h : Inv sha256 s)
    (hcurrent : s.ledger.current = some lease) (hledger : lease.ledger = .record ledger)
    (hphase : slot.phase = .issued) (hid : slot.issueID ≠ "" ∧ slot.vmUUID ≠ "")
    (hbacked : slot.operation = .assign → Backed sha256 s slot)
    (htimely : slot.operation = .assign →
      Unresolved sha256 s slot.nodeClaimName slot.nodeClaimUID slot.issueID)
    (hold : ∀ old, ledger.slot (keyOf sha256 slot) = some old →
      (old.operation = .assign → Over sha256 s old) ∧ sameMutation old slot = false) :
    LedgerInv sha256 (s.storeLedger
      { lease with ledger := .record (ledger.set (keyOf sha256 slot) slot) }) := by
  -- what stands under the key is the slot that was read there
  have hsame : ∀ old, Holds sha256 lease old → keyOf sha256 old = keyOf sha256 slot →
      ledger.slot (keyOf sha256 slot) = some old := by
    rintro _ ⟨_, hledger', hold⟩ hkey
    rw [hledger] at hledger'
    cases hledger'
    rw [← hkey]
    exact hold
  refine h.ledger.put slot (fun slot' => ?_) hid hbacked ?_ ?_ ?_
  · rw [holds_set slot slot' hledger]
    simp only [hcurrent, Option.some.injEq, exists_eq_left']
  · -- the assignment has not been in the ledger yet
    intro hassign lease' hlease' slot' hslot' hassign' hissue
    have hhome : ∀ {other : FirewallMutationSlot}, Backed sha256 s other → other.vmUUID ≠ "" →
        other.issueID = slot.issueID → _ := fun hother hvm heq =>
      h.claims.same_home hother (hbacked hassign) heq (by rw [heq]; exact hid.1) hvm hid.2
    have hbacked' := h.ledger.backed lease' hlease' slot' hslot' hassign'
    have hvm' := (h.ledger.identified lease' hlease' slot' hslot').2
    rcases h.ledger.stays lease' hlease' slot' hslot' hassign' with hover | ⟨_, old, hcur, hin, hold'⟩
    · obtain ⟨hname, huid, -, -⟩ := hhome hbacked' hvm' hissue
      have hunresolved := htimely hassign
      rw [← hname, ← huid, ← hissue] at hunresolved
      exact absurd hunresolved (h.claims.not_unresolved hover)
    · obtain rfl := Option.some.inj (hcurrent.symm.trans hcur)
      have hmem := Versioned.current_mem hcurrent
      have hassignOld : old.operation = .assign := hold'.operation.trans hassign'
      obtain ⟨hname, huid, hvm, hkey⟩ := hhome (h.ledger.backed lease hmem old hin hassignOld)
        (h.ledger.identified lease hmem old hin).2 (hold'.issue.trans hissue)
      have hdiffers := (hold old (hsame old hin hkey)).2
      have hequal : sameMutation old slot = true := by
        simp [sameMutation, hname, huid, hvm, hassignOld, hassign, hold'.issue.trans hissue]
      rw [hequal] at hdiffers
      cases hdiffers
  · intro _ hcur old hin hassign hkey
    obtain rfl := Option.some.inj (hcurrent.symm.trans hcur)
    exact .inl ((hold old (hsame old hin hkey)).1 hassign)
  · intro _ hterminal
    rw [hphase] at hterminal
    cases hterminal

/-- A slot of the stored Lease is ended. -/
theorem Inv.finish (h : Inv sha256 s) {phase : FirewallAssignmentPhase}
    (hcurrent : s.ledger.current = some lease) (hledger : lease.ledger = .record ledger)
    (hslot : ledger.slot (keyOf sha256 slot) = some slot)
    (hended : slot.operation = .assign → Over sha256 s slot) :
    LedgerInv sha256 (s.storeLedger { lease with
      ledger := .record (ledger.set (keyOf sha256 slot) { slot with phase := phase }) }) := by
  have hholds : Holds sha256 lease slot := ⟨ledger, hledger, hslot⟩
  have hmem := Versioned.current_mem hcurrent
  refine h.ledger.put { slot with phase := phase } (fun slot' => ?_) ?_ ?_ ?_ ?_ ?_
  · simp only [hcurrent, Option.some.injEq, exists_eq_left']
    exact holds_set { slot with phase := phase } slot' hledger
  · exact h.ledger.identified lease hmem slot hholds
  · exact fun hassign => h.ledger.backed lease hmem slot hholds hassign
  · intro hassign lease' hlease' slot' hslot' hassign' hissue
    exact h.ledger.once lease' hlease' lease hmem slot' slot hslot' hholds hassign' hassign hissue
  · intro _ hcur _ hin _ hkey
    obtain rfl := Option.some.inj (hcurrent.symm.trans hcur)
    obtain ⟨_, hledger', hold⟩ := hin
    rw [hledger] at hledger'
    cases hledger'
    rw [hkey] at hold
    obtain rfl := Option.some.inj (hslot.symm.trans hold)
    exact .inr ⟨rfl, rfl, rfl, rfl, rfl, rfl⟩
  · exact fun hassign _ => (hended hassign).congr rfl rfl rfl

/-- The first slot is installed. -/
theorem Inv.createLedger (h : Inv sha256 s) (hnone : s.ledger.current = none)
    (hledger : lease.ledger = .record ⟨firewallMutationLedgerSchema, [(keyOf sha256 slot, slot)]⟩)
    (hphase : slot.phase = .issued) (hid : slot.issueID ≠ "" ∧ slot.vmUUID ≠ "")
    (hbacked : slot.operation = .assign → Backed sha256 s slot) :
    LedgerInv sha256 (s.storeLedger lease) := by
  have hempty : s.ledger.log = [] := by
    unfold Versioned.current at hnone
    rw [if_pos h.ledger.here] at hnone
    exact List.head?_eq_none_iff.1 hnone
  refine h.ledger.put slot (fun slot' => ?_) hid hbacked ?_ ?_ ?_
  · constructor
    · rintro ⟨ledger, hrecord, hslot'⟩
      have hrecord : lease.ledger = .record ledger := hrecord
      rw [hledger] at hrecord
      cases hrecord
      unfold FirewallMutationLedger.slot at hslot'
      rw [List.lookup_cons] at hslot'
      split at hslot'
      · exact .inl (Option.some.inj hslot').symm
      · cases hslot'
    · rintro (rfl | ⟨-, _, hcurrent, -⟩)
      · exact ⟨_, hledger, by simp [FirewallMutationLedger.slot]⟩
      · rw [hnone] at hcurrent; cases hcurrent
  · intro _ _ hlease'
    rw [hempty] at hlease'
    cases hlease'
  · intro _ hcurrent
    rw [hnone] at hcurrent
    cases hcurrent
  · intro _ hterminal
    rw [hphase] at hterminal
    cases hterminal

end Ledger

/-! ### One request -/

section Steps

variable {sha256 : String → String} {t : Tid} {tr : Trace FenceOp FenceReply} {s s' : State}
  {slot : FirewallMutationSlot}

/-- What a reply tells for good. -/
def fact (t : Tid) : Event FenceOp FenceReply → State → Prop
  | ⟨.store (.get _), r⟩, s => ∀ o, r = .ok o → Stored s o
  | ⟨.store .nonce, r⟩, s => ∀ n, r = .ok n → (n, t) ∈ s.drawn
  | ⟨.getLedger, r⟩, s => ∀ lease, r = .ok lease → lease ∈ s.ledger.log
  | _, _ => True

/-- What an invocation knows: what the replies told, that the issue ID it has
just drawn is nobody's, and that the slots it has found over are over. -/
structure Know (sha256 : String → String) (t : Tid) (tr : Trace FenceOp FenceReply) (s : State) :
    Prop where
  facts : ∀ e ∈ tr, fact t e s
  fresh : ∀ issueID, Fresh issueID (seen tr) → ¬ Carried sha256 s issueID
  checked : ∀ slot, slot.operation = .assign → Checked sha256 slot tr → Over sha256 s slot

variable {e : Event FenceOp FenceReply}

theorem fact_grows (hgrows : Grows s s') (h : fact t e s) : fact t e s' := by
  obtain ⟨op, r⟩ := e
  cases op with
  | store op =>
    cases op with
    | get => exact fun o ho => hgrows.stored o (h o ho)
    | update => trivial
    | now => trivial
    | nonce => exact fun n hn => hgrows.drawn (h n hn)
  | list => trivial
  | getLedger => exact fun lease hlease => hgrows.ledger (h lease hlease)
  | createLedger => trivial
  | updateLedger => trivial
  | cloud => trivial

theorem mem_seen {e : Event Op Reply} (h : e ∈ seen tr) : ⟨.store e.op, e.reply⟩ ∈ tr := by
  obtain ⟨⟨op, r⟩, he, hevent⟩ := List.mem_filterMap.1 h
  cases op with
  | store => obtain rfl := Option.some.inj hevent; exact he
  | list => cases hevent
  | getLedger => cases hevent
  | createLedger => cases hevent
  | updateLedger => cases hevent
  | cloud => cases hevent

theorem Know.read {o : NodeClaim} (h : Know sha256 t tr s) (ho : Read o (seen tr)) : Stored s o := by
  obtain ⟨_, hmem⟩ := ho
  exact h.facts _ (mem_seen hmem) o rfl

theorem Know.drew {n : String} (h : Know sha256 t tr s) (hn : Drew n (seen tr)) :
    (n, t) ∈ s.drawn :=
  h.facts _ (mem_seen hn) n rfl

theorem Know.owner {r : CreateFenceRecord} (h : Know sha256 t tr s)
    (ho : OwnerRead sha256 slot r tr) : OwnerStored sha256 s slot r := by
  obtain ⟨o, ho, hname, huid, hdecode⟩ := ho
  exact ⟨o, h.read ho, hname, huid, fenceOf_decode hdecode⟩

/-- What is known in a later state. -/
theorem Know.grows (h : Know sha256 t tr s) (hgrows : Grows s s')
    (hfresh : ∀ issueID, Fresh issueID (seen tr) → ¬ Carried sha256 s' issueID) :
    Know sha256 t tr s' :=
  ⟨fun e he => fact_grows hgrows (h.facts e he), hfresh,
    fun slot hassign hchecked => (h.checked slot hassign hchecked).grows hgrows⟩

/-- What is known after one more reply. -/
theorem Know.cons (h : Know sha256 t tr s)
    (hledger : LedgerInv sha256 s') (hgrows : Grows s s') (hfact : fact t e s')
    (hfresh : ∀ issueID, Fresh issueID (seen (e :: tr)) → ¬ Carried sha256 s' issueID)
    (howner : ∀ slot r, e = ⟨.store (.get slot.nodeClaimName), r⟩ → slot.operation = .assign →
      SlotRead sha256 slot tr → OwnerOver sha256 slot r → Over sha256 s' slot) :
    Know sha256 t (e :: tr) s' := by
  have hfacts : ∀ e' ∈ e :: tr, fact t e' s' :=
    List.forall_mem_cons.2 ⟨hfact, fun e' he' => fact_grows hgrows (h.facts e' he')⟩
  refine ⟨hfacts, hfresh, fun slot hassign hchecked => ?_⟩
  generalize htr : e :: tr = tr' at hchecked hfacts
  cases hchecked with
  | ended hslot hterminal =>
    obtain ⟨lease, hread, hholds⟩ := hslot
    exact hledger.ended lease (hfacts _ hread lease rfl) slot hholds hassign hterminal
  | owner hslot hover =>
    obtain ⟨he, rfl⟩ := List.cons.inj htr
    exact howner slot _ he hassign hslot hover
  | later hchecked =>
    obtain ⟨-, rfl⟩ := List.cons.inj htr
    exact (h.checked slot hassign hchecked).grows hgrows

/-- The NodeClaims do not change. -/
theorem Know.quiet (h : Know sha256 t tr s) (hledger : LedgerInv sha256 s') (hgrows : Grows s s')
    (hclaims : s'.claims = s.claims) (hfact : fact t e s')
    (hfresh : ∀ issueID, Fresh issueID (seen (e :: tr)) → Fresh issueID (seen tr))
    (hget : ∀ name r, e ≠ ⟨.store (.get name), r⟩) : Know sha256 t (e :: tr) s' := by
  refine h.cons hledger hgrows hfact (fun issueID hissue hcarried => ?_) fun slot r he => ?_
  · obtain ⟨o, r, ho, hrest⟩ := hcarried
    unfold Stored at ho
    rw [hclaims] at ho
    exact h.fresh issueID (hfresh issueID hissue) ⟨o, r, ho, hrest⟩
  · exact absurd he (hget _ _)

/-- What an update of the store's makes of the stored object. -/
theorem move_of_update {o copy : NodeClaim} {tr : Trace Op Reply}
    (h : Update sha256 False tr o copy) : copy.name = o.name ∧ copy.uid = o.uid ∧
      Move sha256 (fun issueID => Fresh issueID tr) o copy := by
  cases h with
  | keep hname huid _ hfence hdeleting =>
    exact ⟨hname, huid, .same (fenceOf_congr hfence) fun h => hdeleting.trans h⟩
  | write hdecode hwrite =>
    obtain ⟨hschema, hcontinues, hkeeps⟩ := write_continues hwrite
    have hvalid := decodeCreateFence_valid hdecode
    exact ⟨rfl, rfl, .write (fenceOf_decode hdecode)
      (fenceOf_withRecord (hschema.trans hvalid.schema)) hcontinues hkeeps⟩
  | reserve habsent hlive =>
    exact ⟨rfl, rfl, .reserve (fenceOf_absent habsent) hlive rfl rfl⟩
  | patch hpatches => exact hpatches.elim
  | release hpatches => exact hpatches.elim

/-- An update of a NodeClaim is applied. -/
theorem update_step (hi : Inv sha256 s) (hknow : Know sha256 t tr s) {copy : NodeClaim}
    {r : Option Err} (hok : (habit sha256 False).ok (seen tr) (.update copy))
    (hfits : Fits s copy) :
    Inv sha256 (s.store copy) ∧ Guar sha256 t s (s.store copy) ∧
      Know sha256 t (⟨.store (.update copy), r⟩ :: tr) (s.store copy) := by
  obtain ⟨o, hread, hupdate⟩ := hok
  obtain ⟨hname, huid, hmove⟩ := move_of_update hupdate
  have ho := hknow.read hread
  obtain ⟨current, hcurrent, -, hversion⟩ := hfits
  -- the version names the object that the update was made from
  obtain rfl : current = o := by
    refine (hi.claims.ordered copy.name).current_eq hcurrent ?_ (hversion.trans hupdate.version)
    rw [hname]
    exact ho
  have hnew : ∀ issueID, Fresh issueID (seen tr) →
      ¬ Carried sha256 s issueID ∧ ∃ t, (issueID, t) ∈ s.drawn := fun issueID hfresh =>
    ⟨hknow.fresh issueID hfresh, t, hknow.drew hfresh.drew⟩
  have hgrows : Grows s (s.store copy) := grows_store (.inl ⟨current, hcurrent, huid⟩)
  have hledger := hi.ledger.grows hgrows rfl
  refine ⟨⟨hi.claims.move hcurrent huid hmove hnew, hledger⟩, ⟨hgrows, fun issueID hcarried => ?_⟩,
    hknow.cons hledger hgrows trivial (fun issueID hfresh => ?_) fun slot r he => by cases he⟩
  · rcases carried_move hi.claims hcurrent hmove hcarried with hold | hempty | hfresh
    · exact .inl hold
    · exact .inr (.inl hempty)
    · exact .inr (.inr (hknow.drew hfresh.drew))
  · -- what was fresh has been used
    cases hfresh with
    | later hop => exact absurd rfl (hop copy)

theorem identified {slot : FirewallMutationSlot} (h : Installable sha256 slot tr) :
    slot.issueID ≠ "" ∧ slot.vmUUID ≠ "" := by
  refine ⟨fun hempty => ?_, fun hempty => ?_⟩
  · have hhex := h.issueID
    rw [hempty] at hhex
    exact absurd hhex (by decide)
  · have huuid := h.vmUUID
    rw [hempty] at huuid
    exact absurd huuid (by decide)

/-- What may be installed is one of its owner's assignments. -/
theorem backed_of_installable (hi : Inv sha256 s) (hknow : Know sha256 t tr s)
    (h : Installable sha256 slot tr) (hassign : slot.operation = .assign) :
    Backed sha256 s slot := by
  obtain ⟨r, hr, hlocation, hfirewall⟩ := h.home hassign
  obtain ⟨r', hr', hissue, hcreated⟩ := h.issue hassign
  obtain ⟨o, ho, hname, huid, hfence⟩ := hknow.owner hr
  obtain ⟨o', ho', hname', huid', hfence'⟩ := hknow.owner hr'
  have hcleanup := hi.claims.same_cleanup ho ho' (hname.trans hname'.symm) (huid.trans huid'.symm)
    hfence hfence'
  refine ⟨r', ⟨o', ho', hname', huid', hfence'⟩, hissue, ?_, ?_, hcreated⟩
  · rw [hcleanup, hlocation]
  · rw [hcleanup, hfirewall]

theorem guar_storeLedger {lease : LedgerLease} : Guar sha256 t s (s.storeLedger lease) :=
  ⟨grows_storeLedger, fun _ h => .inl h⟩

/-- The Lease is updated. -/
theorem updateLedger_step (hi : Inv sha256 s) (hknow : Know sha256 t tr s) {lease : LedgerLease}
    (hok : LedgerWrite sha256 tr lease) (hcond : timely sha256 t (.updateLedger lease) s)
    (hfits : LedgerFits s lease) : Inv sha256 (s.storeLedger lease) := by
  obtain ⟨current, hcurrent, hversion⟩ := hfits
  have hread : ∀ {read : LedgerLease}, LedgerRead read tr →
      current.resourceVersion = read.resourceVersion → current = read := fun hread heq =>
    hi.ledger.ordered.current_eq hcurrent (hknow.facts _ hread _ rfl) heq
  refine ⟨⟨hi.claims.ordered, hi.claims.names, hi.claims.aged, hi.claims.owned, hi.claims.known,
    hi.claims.drawn⟩, ?_⟩
  cases hok with
  | @install _ ledger slot hlease hledger hinstallable hover =>
    obtain rfl := hread hlease hversion
    have hholds : Holds sha256 { current with
        ledger := .record (ledger.set (keyOf sha256 slot) slot) } slot :=
      ⟨_, rfl, by rw [slot_set, if_pos rfl]⟩
    have hnew : ¬ Holds sha256 current slot := by
      rintro ⟨_, hledger', hslot⟩
      rw [hledger] at hledger'
      cases hledger'
      have hdiffers := (hover slot hslot).2
      simp [sameMutation] at hdiffers
    refine hi.install hcurrent hledger hinstallable.phase (identified hinstallable)
      (backed_of_installable hi hknow hinstallable)
      (fun hassign => hcond current hcurrent hversion slot hholds hnew hassign
        hinstallable.phase) fun old hold => ?_
    obtain ⟨hchecked, hdiffers⟩ := hover old hold
    exact ⟨fun hassign => hknow.checked old hassign hchecked, hdiffers⟩
  | @finish _ _ _ _ hlease hledger hslot _ hended =>
    obtain rfl := hread hlease hversion
    refine hi.finish hcurrent hledger hslot fun hassign => ?_
    obtain ⟨r, hr, hissue, hend⟩ := hended hassign
    exact .inl ⟨r, hknow.owner hr, hissue, hend⟩

/-- One request: what it does to the shared state, and what its reply tells. -/
theorem exec_step {op : FenceOp} {r : FenceReply op} (hok : (fenceHabit sha256 False).ok tr op)
    (hi : Inv sha256 s) (hknow : Know sha256 t tr s) (hcond : timely sha256 t op s)
    (hexec : exec t op s r s') :
    Inv sha256 s' ∧ Guar sha256 t s s' ∧ (fenceHabit sha256 False).rep op r ∧
      Know sha256 t (⟨op, r⟩ :: tr) s' := by
  have hquiet : Guar sha256 t s s := ⟨.refl s, fun _ h => .inl h⟩
  have hsame : ∀ {e : Event FenceOp FenceReply}, fact t e s →
      (∀ issueID, Fresh issueID (seen (e :: tr)) → Fresh issueID (seen tr)) →
      (∀ name r, e ≠ ⟨.store (.get name), r⟩) → Know sha256 t (e :: tr) s :=
    hknow.quiet hi.ledger (.refl s) rfl
  cases op with
  | store op =>
    cases op with
    | get =>
      obtain ⟨rfl, hread, hgone⟩ := hexec
      have hstored : ∀ o, r = .ok o → Stored s' o := fun o ho =>
        (hi.claims.current_stored (hread o ho).1).1
      refine ⟨hi, hquiet, fun o ho => (hread o ho).2, hknow.cons hi.ledger (.refl s') hstored
        (fun issueID hfresh => ?_) fun slot r' he hassign hslot hover => ?_⟩
      · cases hfresh with
        | later _ hfresh => exact hknow.fresh issueID hfresh
      -- the owner is read after its slot, so its UID has been stored
      cases he
      obtain ⟨lease, hlease, hholds⟩ := hslot
      obtain ⟨_, ⟨ob, hob, hname, huid, -⟩, -⟩ :=
        hi.ledger.backed lease (hknow.facts _ hlease lease rfl) slot hholds hassign
      cases r' with
      | error e =>
        refine .inr ⟨⟨ob, hob, hname, huid⟩, fun c hc => ?_⟩
        rw [hgone e rfl hover] at hc
        cases hc
      | ok o =>
        obtain ⟨hcurrent, hname'⟩ := hread o rfl
        rcases hover with hother | ⟨rc, hdecode, hissue, hended⟩
        · refine .inr ⟨⟨ob, hob, hname, huid⟩, fun c hc => ?_⟩
          cases hcurrent.symm.trans hc
          exact hother
        · by_cases huid' : o.uid = slot.nodeClaimUID
          · exact .inl ⟨rc, ⟨o, hstored o rfl, hname', huid', fenceOf_decode hdecode⟩, hissue,
              hended⟩
          · refine .inr ⟨⟨ob, hob, hname, huid⟩, fun c hc => ?_⟩
            cases hcurrent.symm.trans hc
            exact huid'
    | update copy =>
      rcases hexec with ⟨hfits, rfl⟩ | ⟨-, rfl⟩
      · obtain ⟨hi', hguar, hknow'⟩ := update_step hi hknow hok hfits
        exact ⟨hi', hguar, trivial, hknow'⟩
      · refine ⟨hi, hquiet, trivial, hsame trivial
          (fun issueID hfresh => ?_) fun _ _ h => by cases h⟩
        cases hfresh with
        | later hop => exact absurd rfl (hop copy)
    | now =>
      obtain ⟨rfl, hr⟩ := hexec
      refine ⟨hi, hquiet, hr, hsame trivial (fun issueID hfresh => ?_) fun _ _ h => by cases h⟩
      cases hfresh with
      | later _ hfresh => exact hfresh
    | nonce =>
      rcases hexec with ⟨rfl, herr⟩ | ⟨n, rfl, hhex, hold, hnew, rfl⟩
      · refine ⟨hi, hquiet, fun n hn => absurd hn (herr n), hsame
          (fun n hn => absurd hn (herr n)) (fun issueID hfresh => ?_) fun _ _ h => by cases h⟩
        cases hfresh with
        | drawn => exact absurd rfl (herr issueID)
        | later _ hfresh => exact hfresh
      · have hgrows : Grows s { s with drawn := (n, t) :: s.drawn } :=
          ⟨fun _ h => h, fun _ _ h => h, List.Subset.refl _, List.subset_cons_self _ _⟩
        have hledger := hi.ledger.grows hgrows rfl
        refine ⟨⟨⟨hi.claims.ordered, hi.claims.names, hi.claims.aged, hi.claims.owned, ?_, ?_⟩,
          hledger⟩, ⟨hgrows, fun _ h => .inl h⟩, ?_, ?_⟩
        · intro issueID hcarried hne
          refine (hi.claims.known issueID hcarried hne).imp_right fun ⟨u, hu⟩ => ?_
          exact ⟨u, .tail _ hu⟩
        · exact fun m u v => drawn_once_cons_swap hi.claims.drawn hnew
        · intro m hm
          cases hm
          exact hhex
        · refine hknow.cons hledger hgrows (fun m hm => ?_) (fun issueID hfresh => ?_)
            fun slot r he => by cases he
          · cases hm
            exact .head _
          · cases hfresh with
            | drawn =>
              -- a nonce is in no fence yet
              intro hcarried
              have hne : n ≠ "" := by
                rintro rfl
                exact absurd hhex (by decide)
              rcases hi.claims.known n hcarried hne with h | ⟨u, hu⟩
              · exact hold h
              · exact hnew u hu
            | later _ hfresh => exact hknow.fresh issueID hfresh
  | list =>
    obtain rfl := hexec
    exact ⟨hi, hquiet, trivial, hsame trivial (fun _ h => h) fun _ _ h => by cases h⟩
  | getLedger =>
    obtain ⟨rfl, hread⟩ := hexec
    exact ⟨hi, hquiet, trivial, hsame
      (fun lease hlease => Versioned.current_mem (hread lease hlease)) (fun _ h => h)
      fun _ _ h => by cases h⟩
  | createLedger =>
    rcases hexec with ⟨hnone, rfl⟩ | ⟨-, rfl⟩
    · obtain ⟨_, hinstallable, hledger⟩ := hok
      have hledger' := hi.createLedger hnone hledger hinstallable.phase (identified hinstallable)
        (backed_of_installable hi hknow hinstallable)
      exact ⟨⟨⟨hi.claims.ordered, hi.claims.names, hi.claims.aged, hi.claims.owned,
        hi.claims.known, hi.claims.drawn⟩, hledger'⟩, guar_storeLedger, trivial,
        hknow.quiet hledger' grows_storeLedger rfl trivial (fun _ h => h) fun _ _ h => by cases h⟩
    · exact ⟨hi, hquiet, trivial, hsame trivial (fun _ h => h) fun _ _ h => by cases h⟩
  | updateLedger =>
    rcases hexec with ⟨hfits, rfl⟩ | ⟨-, rfl⟩
    · have hi' := updateLedger_step hi hknow hok hcond hfits
      exact ⟨hi', guar_storeLedger, trivial, hknow.quiet hi'.ledger grows_storeLedger rfl trivial
        (fun _ h => h) fun _ _ h => by cases h⟩
    · exact ⟨hi, hquiet, trivial, hsame trivial (fun _ h => h) fun _ _ h => by cases h⟩
  | cloud =>
    obtain rfl := hexec
    exact ⟨hi, hquiet, trivial, hsame trivial (fun _ h => h) fun _ _ h => by cases h⟩

theorem upholds : (rules sha256).Upholds (sem.restrict (timely sha256)) (fenceHabit sha256 False)
    (Know sha256) where
  stable := fun t tr s s' h hstep => by
    obtain ⟨hinv, -, henv | ⟨u, hne, hgrows, hcarried⟩⟩ := hstep
    · obtain ⟨-, hgrows, hcarried⟩ := Inv.env hinv henv
      refine h.grows hgrows fun issueID hfresh hc => ?_
      rcases hcarried issueID hc with hc | rfl
      · exact h.fresh issueID hfresh hc
      · exact absurd hfresh.hex (by decide)
    · refine h.grows hgrows fun issueID hfresh hc => ?_
      rcases hcarried issueID hc with hc | rfl | hu
      · exact h.fresh issueID hfresh hc
      · exact absurd hfresh.hex (by decide)
      · exact hne (hinv.claims.drawn issueID u t hu (h.drew hfresh.drew))
  step := fun t tr op s r s' hok hi hknow hexec => exec_step hok hi hknow hexec.1 hexec.2

end Steps

/-! ### The invocations -/

section Invocations

variable {tr : Trace FenceOp FenceReply}

/-- What an invocation returns: an authorization comes from the ledger. -/
def Returned (sha256 : String → String) (outcome : Outcome) (tr : Trace FenceOp FenceReply) :
    Prop :=
  match outcome with
  | .done => True
  | .authorized claim authorization => Granted sha256 claim authorization tr

theorem done_follows {sha256 : String → String} {α : Type} {x : FenceCode α}
    {Q : α → Trace FenceOp FenceReply → Prop} (hx : (fenceHabit sha256 False).FollowsE x tr Q) :
    (fenceHabit sha256 False).FollowsE (do let _ ← x; pure Outcome.done) tr (Returned sha256) :=
  .bind hx fun _ _ _ _ => .pure trivial

theorem fence_follows (s : Store) (call : Karpenter.Call) {tr : Trace Op Reply} :
    (habit s.sha256 False).FollowsE (call.code s) tr fun _ _ => True := by
  cases call with
  | get => exact .done get_follows
  | ensure =>
    exact .done ensure_follows
  | authorize =>
    exact .done authorize_follows
  | recordCreatedVM =>
    exact .done recordCreatedVM_follows
  | chooseRollback =>
    exact .done chooseRollback_follows
  | markRejected =>
    exact .done markRejected_follows
  | markMaterialized =>
    exact .done markMaterialized_follows

theorem code_follows {s : SlotStore} {call : Call} :
    (fenceHabit s.sha256 False).FollowsE (call.code s) tr (Returned s.sha256) := by
  cases call with
  | fence call => exact done_follows (lift_follows (fence_follows s.toStore call))
  | recordProtectionFailure =>
    exact done_follows (lift_follows recordProtectionFailure_follows)
  | clearProtectionFailure =>
    exact done_follows (lift_follows clearProtectionFailure_follows)
  | recordTerminalCleanup =>
    exact done_follows (lift_follows recordTerminalCleanup_follows)
  | authorizeBaseFirewall =>
    exact .bind authorizeBaseFirewall_follows fun _ _ _ h => .pure h.2
  | observeBaseFirewall =>
    exact done_follows finishBaseFirewall_follows
  | rejectBaseFirewall =>
    exact done_follows finishBaseFirewall_follows
  | authorizeBaseFirewallDetach =>
    exact done_follows authorizeBaseFirewallDetach_follows
  | observeBaseFirewallDetach =>
    exact done_follows finishBaseFirewallDetach_follows
  | rejectBaseFirewallDetach =>
    exact done_follows finishBaseFirewallDetach_follows

end Invocations

/-! ### One authority for an assignment -/

variable {sha256 : String → String}

/-- Whoever was granted an assignment has a slot in the ledger's log, acquired
under a nonce of their own. -/
def Owns (sha256 : String → String) (t : Tid) (r : Except Err Outcome) (s : State) : Prop :=
  ∀ claim issueID, Grants r claim issueID → ∃ lease ∈ s.ledger.log, ∃ slot,
    Holds sha256 lease slot ∧ (slot.acquisitionID, t) ∈ s.drawn ∧ slot.operation = .assign ∧
    slot.nodeClaimName = claim.name ∧ slot.nodeClaimUID = claim.uid ∧ slot.issueID = issueID

theorem Initial.inv {s : State} (h : Initial sha256 s) : Inv sha256 s := by
  have hpairs : ∀ {R : NodeClaim → NodeClaim → Prop} (name : String),
      (s.claims name).log.Pairwise R := fun {R} name => by
    have hone := h.single name
    match hlog : (s.claims name).log with
    | [] => exact .nil
    | [a] => exact List.pairwise_singleton _ _
    | a :: b :: log =>
      rw [hlog] at hone
      simp at hone
  have hempty : ∀ lease, lease ∉ s.ledger.log := fun lease hlease => by
    rw [h.ledger] at hlease
    cases hlease
  refine ⟨⟨fun name => hpairs name, h.names, fun name => hpairs name, ?_, ?_, ?_⟩, ?_⟩
  · intro o o' r r' ho ho' hr hr' hne heq
    have hname := h.distinct o.name o'.name o ho o' ho' r r' hr hr' hne heq
    refine ⟨hname, ?_⟩
    -- at most one object of the name has been stored
    unfold Stored at ho ho'
    rw [hname] at ho
    obtain ⟨a, ha⟩ := List.length_eq_one_iff.1
      (Nat.le_antisymm (h.single o'.name) (List.length_pos_of_mem ho'))
    rw [ha] at ho ho'
    rw [List.mem_singleton.1 ho, List.mem_singleton.1 ho']
  · rintro _ ⟨o, r, ho, hr, rfl⟩ hne
    exact .inl (h.old o.name o ho r hr hne)
  · intro n t u ht
    rw [h.drawn] at ht
    cases ht
  · refine ⟨?_, by rw [h.ledger], ?_, ?_, ?_, ?_, ?_⟩
    · rw [h.ledger]
      exact .nil
    all_goals exact fun lease hlease => absurd hlease (hempty lease)

theorem verified : (rules sha256).Verified (sem.restrict (timely sha256)) (Calls sha256)
    (Initial sha256) (Owns sha256) where
  init := fun s h => ⟨h.inv, fun _ => trivial⟩
  env := fun s s' hinv henv => (Inv.env hinv henv).1
  fresh := fun _ _ _ _ _ => trivial
  stable := by
    intro t r s s' h hstep claim issueID hgrants
    obtain ⟨lease, hlease, slot, hholds, hdrawn, hrest⟩ := h claim issueID hgrants
    have hgrows : Grows s s' := by
      obtain ⟨hinv, -, henv | ⟨u, -, hguar⟩⟩ := hstep
      · exact (Inv.env hinv henv).2.1
      · exact hguar.1
    exact ⟨lease, hgrows.ledger hlease, slot, hholds, hgrows.drawn hdrawn, hrest⟩
  start := by
    rintro t p s ⟨store, rfl, call, rfl⟩ hinv -
    have hfollows : (fenceHabit store.sha256 False).Follows (call.code store).run [] fun r tr =>
        ∀ outcome, r = .ok outcome → Returned store.sha256 outcome tr :=
      code_follows.run (fun a tr h outcome heq => Except.ok.inj heq ▸ h)
        fun e tr outcome heq => by cases heq
    have hknow : Know store.sha256 t [] s := by
      refine ⟨fun _ h => ?_, fun _ h => ?_, fun slot _ h => ?_⟩
      · cases h
      · cases h
      · cases h with
        | ended hslot =>
          obtain ⟨_, hread, -⟩ := hslot
          cases hread
    refine wp_mono ?_ (wp_of_upheld upholds hfollows hinv hknow)
    rintro _ _ ⟨_, hreturned, hknow⟩ _ _ ⟨_, rfl, hallow, hissue⟩
    obtain ⟨slot, ⟨lease, hread, hholds⟩, hdrew, hassign, hname, huid, hslot⟩ :=
      hreturned _ rfl hallow
    exact ⟨lease, hknow.facts _ hread lease rfl, slot, hholds, hknow.drew hdrew, hassign, hname,
      huid, hslot.trans hissue⟩

/-- In every run in which slots of assignments are installed only while the
assignment is issued: an issue ID is granted to one invocation at most, and
two assignments of one firewall that were granted and are unresolved are one
and the same. -/
theorem baseFirewall_assignment_granted_once
    {c : Config State FenceOp FenceReply (Except Err Outcome)}
    (h : Reachable (sem.restrict (timely sha256)) (Calls sha256) (Initial sha256) c)
    {t t' : Tid} {r r' : Except Err Outcome} {claim claim' : NodeClaim} {issueID issueID' : String}
    (ht : c.threads t = .running (.ret r)) (ht' : c.threads t' = .running (.ret r'))
    (hgrants : Grants r claim issueID) (hgrants' : Grants r' claim' issueID') :
    (issueID = issueID' → t = t') ∧
    (∀ location firewallUUID,
      Unresolved sha256 c.shared claim.name claim.uid issueID →
      Unresolved sha256 c.shared claim'.name claim'.uid issueID' →
      FirewallOf sha256 c.shared claim.name claim.uid location firewallUUID →
      FirewallOf sha256 c.shared claim'.name claim'.uid location firewallUUID →
      issueID = issueID' ∧ t = t') := by
  have hinv : Inv sha256 c.shared := sound verified h
  obtain ⟨lease, hlease, slot, hholds, hdrawn, hassign, hname, huid, rfl⟩ :=
    sound_ret verified h ht claim issueID hgrants
  obtain ⟨lease', hlease', slot', hholds', hdrawn', hassign', hname', huid', rfl⟩ :=
    sound_ret verified h ht' claim' issueID' hgrants'
  have hone : slot.issueID = slot'.issueID → t = t' := fun hissue => by
    have hsame := hinv.ledger.once lease hlease lease' hlease' slot slot' hholds hholds' hassign
      hassign' hissue
    rw [hsame] at hdrawn
    exact hinv.claims.drawn _ t t' hdrawn hdrawn'
  refine ⟨hone, fun location firewallUUID hopen hopen' hfirewall hfirewall' => ?_⟩
  rw [← hname, ← huid] at hopen hfirewall
  rw [← hname', ← huid'] at hopen' hfirewall'
  -- both stand in the ledger, under the key of the firewall
  have hkey : ∀ {slot : FirewallMutationSlot}, Backed sha256 c.shared slot →
      FirewallOf sha256 c.shared slot.nodeClaimName slot.nodeClaimUID location firewallUUID →
      keyOf sha256 slot = Store.slotName ⟨sha256⟩ location firewallUUID := by
    rintro _ ⟨_, ⟨_, ho, hname, huid, hr⟩, -, hlocation, hfirewall, -⟩
      ⟨o', r', hcurrent, huid', hr', hlocation', hfirewall'⟩
    obtain ⟨ho', hname'⟩ := hinv.claims.current_stored hcurrent
    have hcleanup := hinv.claims.same_cleanup ho ho' (hname.trans hname'.symm)
      (huid.trans huid'.symm) hr hr'
    rw [keyOf, ← hlocation, ← hfirewall, ← hlocation', ← hfirewall', hcleanup]
  have hstands : ∀ {lease : LedgerLease} {slot : FirewallMutationSlot}, lease ∈ c.shared.ledger.log →
      Holds sha256 lease slot → slot.operation = .assign →
      Unresolved sha256 c.shared slot.nodeClaimName slot.nodeClaimUID slot.issueID →
      ∃ current slot', c.shared.ledger.current = some current ∧ Holds sha256 current slot' ∧
        Same slot' slot := fun hlease hholds hassign hopen =>
    (hinv.ledger.stays _ hlease _ hholds hassign).resolve_left fun hover =>
      hinv.claims.not_unresolved hover hopen
  obtain ⟨current, stands, hcurrent, hstand, hsame⟩ := hstands hlease hholds hassign hopen
  obtain ⟨_, stands', hcurrent', hstand', hsame'⟩ := hstands hlease' hholds' hassign' hopen'
  obtain rfl := Option.some.inj (hcurrent.symm.trans hcurrent')
  have hmem := Versioned.current_mem hcurrent
  have hkeys : keyOf sha256 stands = keyOf sha256 stands' := by
    have hbacked := hinv.ledger.backed current hmem stands hstand (hsame.operation.trans hassign)
    have hbacked' := hinv.ledger.backed current hmem stands' hstand'
      (hsame'.operation.trans hassign')
    rw [← hsame.name, ← hsame.uid] at hfirewall
    rw [← hsame'.name, ← hsame'.uid] at hfirewall'
    exact (hkey hbacked hfirewall).trans (hkey hbacked' hfirewall').symm
  obtain rfl : stands = stands' := by
    obtain ⟨_, hledger, hslot⟩ := hstand
    obtain ⟨_, hledger', hslot'⟩ := hstand'
    rw [hledger] at hledger'
    cases hledger'
    rw [hkeys] at hslot
    exact Option.some.inj (hslot.symm.trans hslot')
  have hissue := hsame.issue.symm.trans hsame'.issue
  exact ⟨hissue, hone hissue⟩

/-! ### Two runs

Two NodeClaims of one cluster, each with a VM and with its assignment issued. -/

def firewall : String := "11111111-0000-4000-8000-000000000001"

def firstVM : String := "0a1b2c3d-0000-4000-8000-000000000001"

def secondVM : String := "0a1b2c3d-0000-4000-8000-000000000002"

def firstIssue : String := "0123456789abcdef0123456789abcde1"

def secondIssue : String := "0123456789abcdef0123456789abcde2"

/-- The fence of such a NodeClaim. -/
def anchoredRecord (uid name vmUUID issueID : String) : CreateFenceRecord :=
  let reserved := newCreateFenceRecord { workerBinding with nodeClaimUID := uid }
    { workerCleanup with firewallUUID := firewall, nodeClaimName := name } {} 1 "token"
  let issued := issueRecord reserved
    { firewallUUID := firewall, phase := .intent, intentAt := 1 } .post 2
    "0123456789abcdef0123456789abcdef" issueID
  { issued with
    createdVMUUID := vmUUID, launchObservedAt := some 3,
    baseFirewallAssignment := issued.baseFirewallAssignment.map fun a => { a with vmUUID := vmUUID } }

def anchoredClaim (uid name vmUUID issueID : String) : NodeClaim :=
  { fencedWorker.withRecord (anchoredRecord uid name vmUUID issueID) with name := name, uid := uid }

def firstClaim : NodeClaim := anchoredClaim "uid-1" "first" firstVM firstIssue

def secondClaim : NodeClaim := anchoredClaim "uid-2" "second" secondVM secondIssue

def anchoredState : State where
  claims name :=
    if name = "first" then ⟨[firstClaim], true⟩
    else if name = "second" then ⟨[secondClaim], true⟩ else ⟨[], false⟩
  ledger := ⟨[], true⟩
  old := [firstIssue, secondIssue]
  drawn := []

/-- A digest for the runs: every firewall has the same key. -/
def noDigest : String → String := fun _ => ""

def slotStore : SlotStore := ⟨⟨⟨noDigest⟩, fun _ => 0⟩, fun _ => 0⟩

/-- Requests succeed; the nonce that is drawn is given. -/
def server (t : Tid) (nonce : String) : sem.Driver t where
  answer op s := match op with
    | .store (.get name) =>
      match (s.claims name).current with
      | some o => if o.name = name then some (.ok o, s) else none
      | none => none
    | .store (.update copy) =>
      match (s.claims copy.name).current with
      | some o =>
        if o.uid = copy.uid ∧ o.resourceVersion = copy.resourceVersion then
          some (none, s.store copy)
        else none
      | none => none
    | .store .now => some (5, s)
    | .store .nonce =>
      if hex32Pattern nonce = true ∧ nonce ∉ s.old ∧ s.drawn.all fun d => d.1 != nonce then
        some (.ok nonce, { s with drawn := (nonce, t) :: s.drawn })
      else none
    | .list => some (.ok [], s)
    | .getLedger =>
      match s.ledger.current with
      | some lease => some (.ok lease, s)
      | none => some (.error (.wrap .notFound "no such Lease"), s)
    | .createLedger lease =>
      match s.ledger.current with
      | some _ => none
      | none => some (none, s.storeLedger lease)
    | .updateLedger lease =>
      match s.ledger.current with
      | some current =>
        if current.resourceVersion = lease.resourceVersion then
          some (none, s.storeLedger lease)
        else none
      | none => none
    | .cloud _ => none
  sound op s r s' h := by
    split at h
    · split at h
      next o ho =>
        split at h
        next hname =>
          cases h
          refine ⟨rfl, fun o' ho' => ?_, nofun⟩
          obtain rfl := Except.ok.inj ho'
          exact ⟨ho, hname⟩
        · cases h
      · cases h
    · split at h
      next o ho =>
        split at h
        next hfits =>
          cases h
          exact .inl ⟨⟨o, ho, hfits⟩, rfl⟩
        · cases h
      · cases h
    · cases h
      exact ⟨rfl, by decide⟩
    · split at h
      next hnonce =>
        cases h
        obtain ⟨hhex, hold, hnew⟩ := hnonce
        refine .inr ⟨nonce, rfl, hhex, hold, fun u hu => ?_, rfl⟩
        simpa using List.all_eq_true.1 hnew _ hu
      · cases h
    · cases h
      rfl
    · split at h
      next lease hlease =>
        cases h
        refine ⟨rfl, fun lease' hlease' => ?_⟩
        obtain rfl := Except.ok.inj hlease'
        exact hlease
      · cases h
        exact ⟨rfl, nofun⟩
    · split at h
      · cases h
      next hnone =>
        cases h
        exact .inl ⟨hnone, rfl⟩
    · split at h
      next current hcurrent =>
        split at h
        next hversion =>
          cases h
          exact .inl ⟨⟨current, hcurrent, hversion⟩, rfl⟩
        · cases h
      · cases h
    · cases h

def authorizeFirst : Prog FenceOp FenceReply (Except Err Outcome) :=
  ((Call.authorizeBaseFirewall firstClaim { workerBinding with nodeClaimUID := "uid-1" } "token"
    firstVM).code slotStore).run

def observeFirst : Prog FenceOp FenceReply (Except Err Outcome) :=
  ((Call.observeBaseFirewall firstClaim { workerBinding with nodeClaimUID := "uid-1" } "token"
    firstVM firstIssue).code slotStore).run

def authorizeSecond : Prog FenceOp FenceReply (Except Err Outcome) :=
  ((Call.authorizeBaseFirewall secondClaim { workerBinding with nodeClaimUID := "uid-2" } "token"
    secondVM).code slotStore).run

def observeSecond : Prog FenceOp FenceReply (Except Err Outcome) :=
  ((Call.observeBaseFirewall secondClaim { workerBinding with nodeClaimUID := "uid-2" } "token"
    secondVM secondIssue).code slotStore).run

theorem calls (t : Tid) (call : Call) : Calls noDigest t (call.code slotStore).run :=
  ⟨slotStore, rfl, call, rfl⟩

/-- The invocation has returned with the authority for this issue. -/
def granted (issueID : String) : Prog FenceOp FenceReply (Except Err Outcome) → Bool
  | .ret (.ok (.authorized _ authorization)) =>
    authorization.allowPOST && authorization.fence.issueID == issueID
  | _ => false

/-- A replica has read the fence, and drawn its acquisition ID. -/
def pausedRun : State × Prog FenceOp FenceReply (Except Err Outcome) :=
  (server 0 "00000000000000000000000000000000").drive 2 anchoredState authorizeFirst

/-- Another one is granted the assignment. -/
def firstRun : State × Prog FenceOp FenceReply (Except Err Outcome) :=
  (server 1 "00000000000000000000000000000001").drive 6 pausedRun.1 authorizeFirst

theorem firstRun_granted : granted firstIssue firstRun.2 = true := by decide +kernel

/-- It is observed. -/
def observedRun : State × Prog FenceOp FenceReply (Except Err Outcome) :=
  (server 2 "").drive 7 firstRun.1 observeFirst

/-- The slot goes to the other NodeClaim, -/
def secondRun : State × Prog FenceOp FenceReply (Except Err Outcome) :=
  (server 3 "00000000000000000000000000000003").drive 6 observedRun.1 authorizeSecond

/-- which is done with it too. -/
def freedRun : State × Prog FenceOp FenceReply (Except Err Outcome) :=
  (server 4 "").drive 7 secondRun.1 observeSecond

/-- The first replica goes on. -/
def againRun : State × Prog FenceOp FenceReply (Except Err Outcome) :=
  (server 0 "").drive 5 freedRun.1 pausedRun.2

theorem againRun_granted : granted firstIssue againRun.2 = true := by decide +kernel

theorem granted_ret {issueID : String} {p : Prog FenceOp FenceReply (Except Err Outcome)}
    (h : granted issueID p = true) : ∃ r claim, p = .ret r ∧ Grants r claim issueID := by
  unfold granted at h
  split at h
  next claim authorization =>
    obtain ⟨hallow, hissue⟩ := Bool.and_eq_true_iff.1 h
    exact ⟨_, claim, rfl, authorization, rfl, hallow, beq_iff_eq.1 hissue⟩
  · cases h

theorem initial_anchoredState : Initial noDigest anchoredState := by
  have hlog : ∀ name, ∀ o ∈ (anchoredState.claims name).log,
      (name = "first" ∧ o = firstClaim) ∨ (name = "second" ∧ o = secondClaim) := by
    intro _ _ ho
    unfold anchoredState at ho
    dsimp only at ho
    split at ho
    next hname => exact .inl ⟨hname, List.mem_singleton.1 ho⟩
    split at ho
    next hname => exact .inr ⟨hname, List.mem_singleton.1 ho⟩
    · cases ho
  have hfirst : fenceOf noDigest firstClaim = some (anchoredRecord "uid-1" "first" firstVM firstIssue) := rfl
  have hsecond : fenceOf noDigest secondClaim =
      some (anchoredRecord "uid-2" "second" secondVM secondIssue) := rfl
  refine ⟨rfl, rfl, fun name => ?_, fun name o ho => ?_, fun name o ho r hr _ => ?_, ?_⟩
  · unfold anchoredState
    dsimp only
    split
    · exact le_refl _
    split
    · exact le_refl _
    · exact Nat.zero_le _
  · rcases hlog name o ho with ⟨rfl, rfl⟩ | ⟨rfl, rfl⟩ <;> rfl
  · rcases hlog name o ho with ⟨-, rfl⟩ | ⟨-, rfl⟩
    · obtain rfl := Option.some.inj (hfirst.symm.trans hr)
      decide
    · cases hsecond.symm.trans hr
      decide
  · intro name name' o ho o' ho' _ _ hr hr' _ heq
    rcases hlog name o ho with ⟨rfl, rfl⟩ | ⟨rfl, rfl⟩ <;>
      rcases hlog name' o' ho' with ⟨rfl, rfl⟩ | ⟨rfl, rfl⟩
    · rfl
    · cases hfirst.symm.trans hr
      obtain rfl := Option.some.inj (hsecond.symm.trans hr')
      exact absurd heq (by decide)
    · obtain rfl := Option.some.inj (hsecond.symm.trans hr)
      obtain rfl := Option.some.inj (hfirst.symm.trans hr')
      exact absurd heq (by decide)
    · rfl

/-- A replica reads the fence and waits.  The assignment is granted to another
one, observed, and its slot taken over and freed; then the first one goes on,
and is granted the same assignment. -/
theorem baseFirewall_assignment_granted_twice :
    ∃ c : Config State FenceOp FenceReply (Except Err Outcome),
      Reachable sem (Calls noDigest) (Initial noDigest) c ∧ ∃ r r' claim claim',
        c.threads 0 = .running (.ret r) ∧ Grants r claim firstIssue ∧
        c.threads 1 = .running (.ret r') ∧ Grants r' claim' firstIssue := by
  have h := (server 0 "00000000000000000000000000000000").started (r := pausedRun)
    (.init initial_anchoredState) rfl (calls 0 _) rfl
  have h := (server 1 "00000000000000000000000000000001").started (r := firstRun) h rfl (calls 1 _) rfl
  have h := (server 2 "").started (r := observedRun) h rfl (calls 2 _) rfl
  have h := (server 3 "00000000000000000000000000000003").started (r := secondRun) h rfl (calls 3 _) rfl
  have h := (server 4 "").started (r := freedRun) h rfl (calls 4 _) rfl
  have h := (server 0 "").resumed (r := againRun) h rfl rfl
  obtain ⟨r, claim, hr, hgrants⟩ := granted_ret againRun_granted
  obtain ⟨r', claim', hr', hgrants'⟩ := granted_ret firstRun_granted
  exact ⟨_, h, r, r', claim, claim', congrArg Thread.running hr, hgrants,
    congrArg Thread.running hr', hgrants'⟩

/-- The assignment of the slot is issued on the stored fence. -/
def unresolved (s : State) (slot : FirewallMutationSlot) : Bool :=
  match (s.claims slot.nodeClaimName).current with
  | some o => o.uid == slot.nodeClaimUID &&
      (fenceOf noDigest o).any fun r =>
        issueOf r == slot.issueID && r.assignmentPhase == some .issued
  | none => false

/-- The first slot is installed in time, and no other one is. -/
def firstTimely (op : FenceOp) (s : State) : Bool :=
  match op with
  | .createLedger lease =>
    match lease.ledger with
    | .record ledger => ledger.slots.all fun entry => unresolved s entry.2
    | _ => true
  | .updateLedger _ => false
  | _ => true

theorem unresolved_sound {s : State} {slot : FirewallMutationSlot} (h : unresolved s slot = true) :
    Unresolved noDigest s slot.nodeClaimName slot.nodeClaimUID slot.issueID := by
  unfold unresolved at h
  split at h
  next o ho =>
    simp only [Bool.and_eq_true, beq_iff_eq, Option.any_eq_true] at h
    obtain ⟨huid, r, hr, hissue, hphase⟩ := h
    exact ⟨o, r, ho, huid, hr, hissue, hphase⟩
  · cases h

theorem timely_of_firstTimely (t : Tid) (op : FenceOp) (s : State)
    (h : firstTimely op s = true) : timely noDigest t op s := by
  unfold timely
  split
  next lease =>
    rintro - slot ⟨ledger, hledger, hslot⟩ -
    simp only [firstTimely, hledger] at h
    have hmem : (keyOf noDigest slot, slot) ∈ ledger.slots := by
      obtain ⟨_, _, hslots, -⟩ := List.lookup_eq_some_iff.1 hslot
      rw [hslots]
      simp
    exact unresolved_sound (List.all_eq_true.1 h _ hmem)
  next lease => cases h
  · trivial

/-- The same invocation in the restricted system. -/
def timelyRun : State × Prog FenceOp FenceReply (Except Err Outcome) :=
  ((server 1 "00000000000000000000000000000001").restrict firstTimely
    (timely_of_firstTimely 1)).drive 6 anchoredState authorizeFirst

theorem timelyRun_granted : granted firstIssue timelyRun.2 = true := by decide +kernel

/-- An assignment is granted, and to nobody else. -/
theorem baseFirewall_assignment_granted_once_first :
    ∃ c : Config State FenceOp FenceReply (Except Err Outcome),
      Reachable (sem.restrict (timely noDigest)) (Calls noDigest) (Initial noDigest) c ∧
      (∃ r claim, c.threads 1 = .running (.ret r) ∧ Grants r claim firstIssue) ∧
      ∀ t r claim, c.threads t = .running (.ret r) → Grants r claim firstIssue → t = 1 := by
  obtain ⟨r, claim, hr, hgrants⟩ := granted_ret timelyRun_granted
  obtain ⟨c, h, hrun⟩ : ∃ c, Reachable (sem.restrict (timely noDigest)) (Calls noDigest)
      (Initial noDigest) c ∧ c.threads 1 = .running (.ret r) :=
    ⟨_, ((server 1 "00000000000000000000000000000001").restrict firstTimely
      (timely_of_firstTimely 1)).started (r := timelyRun) (.init initial_anchoredState) rfl (calls 1 _)
      rfl, congrArg Thread.running hr⟩
  refine ⟨c, h, ⟨r, claim, hrun, hgrants⟩, fun t r' claim' ht hgrants' => ?_⟩
  exact (baseFirewall_assignment_granted_once h ht hrun hgrants' hgrants).1 rfl

end InSpaceKube.Karpenter.SlotOnce
