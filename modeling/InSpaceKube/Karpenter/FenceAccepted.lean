/-
InSpaceKube/Karpenter/FenceAccepted.lean

Whatever the provider's calls and the passes of the controller do on one
NodeClaim, and however they interleave: the create fence that is stored can be
read back by `decodeCreateFence`.

The controller does write a record that is older than the object under it; the
statement holds all the same, since the record comes from an object that could
be read.

It does not hold of every run.  While the NodeClaim is being deleted, a pass
of the controller may store the receipt of a VM that is not anchored yet.  The
Create call anchors it, and then chooses rollback without a receipt; this
marks the dependents as unresolved beside the receipt, which no reader
accepts.  `undisputed` is the condition that rules this out.

An update whose error says nothing may have been applied, may never be, or may
be applied later.  Everybody else may edit the object, but not the fence.
-/
import InSpaceKube.Karpenter.SlotHabit

namespace InSpaceKube.Karpenter.Accepted

open Prog Relation Rules Fencing

/-! ### The API server -/

/-- The NodeClaim, and the updates that are still under way. -/
structure State where
  claim : Versioned NodeClaim
  pending : List NodeClaim

/-- The object is stored. -/
def State.store (s : State) (o : NodeClaim) : State :=
  { s with claim := s.claim.put claimStamp o }

/-- The update `copy` is one of the stored object. -/
def Fits (s : State) (copy : NodeClaim) : Prop :=
  ∃ current, s.claim.current = some current ∧ current.name = copy.name ∧
    current.uid = copy.uid ∧ current.resourceVersion = copy.resourceVersion

/-- The effect of a request.  The clock never shows the zero time, and a nonce
is a text of 32 digits.  Other objects are not followed: the list of all
NodeClaims, the ledger of the firewall slots and the cloud may answer
anything. -/
def exec (_ : Tid) : (op : FenceOp) → State → FenceReply op → State → Prop
  | .store (.get name), s, r, s' =>
    s' = s ∧ ∀ o, r = .ok o → s.claim.current = some o ∧ o.name = name
  | .store (.update copy), s, r, s' =>
    (Fits s copy ∧ s' = s.store copy) ∨
    (r ≠ none ∧ (s' = s ∨ s' = { s with pending := copy :: s.pending }))
  | .store .now, s, r, s' => s' = s ∧ r ≠ 0
  | .store .nonce, s, r, s' => s' = s ∧ ∀ n, r = .ok n → hex32Pattern n = true
  | .list, s, _, s' => s' = s
  | .getLedger, s, _, s' => s' = s
  | .createLedger _, s, _, s' => s' = s
  | .updateLedger _, s, _, s' => s' = s
  | .cloud _, s, _, s' => s' = s

/-- What happens without the provider and its controller. -/
inductive Env : State → State → Prop
  /-- An update that was under way is applied. -/
  | deliver (s : State) (copy : NodeClaim) : copy ∈ s.pending → Fits s copy → Env s (s.store copy)
  /-- Somebody else edits the object.  A deletion is not taken back. -/
  | edit (s : State) (current o : NodeClaim) : s.claim.current = some current →
      o.createFence = current.createFence → (current.deleting = true → o.deleting = true) →
      Env s (s.store o)
  /-- The object is gone. -/
  | remove (s : State) : Env s { s with claim := s.claim.drop }

/-- The system over this world. -/
def sem : Sem State FenceOp FenceReply := ⟨exec, Env⟩

/-- One NodeClaim with a fence that can be read, and nothing asked for yet. -/
def Initial (sha256 : String → String) (s : State) : Prop :=
  (∃ o r, s.claim = ⟨[o], true⟩ ∧ decodeCreateFence sha256 o.createFence = .ok r) ∧ s.pending = []

/-! ### Invocations -/

/-- One operation of the store, or one pass of the controller. -/
inductive Call
  | get (claim : NodeClaim) (binding : CreateFenceBinding) (cleanup : CreateFenceCleanupIdentity)
  | ensure (claim : NodeClaim) (binding : CreateFenceBinding)
      (cleanup : CreateFenceCleanupIdentity) (baseline : CreateInventory)
  | authorize (claim : NodeClaim) (binding : CreateFenceBinding) (token : String)
      (intent : CreateAuthorizationKind)
  | recordCreatedVM (claim : NodeClaim) (binding : CreateFenceBinding)
      (token issueID vmUUID : String)
  | chooseRollback (claim : NodeClaim) (binding : CreateFenceBinding)
      (token issueID vmUUID : String) (resolution : Option FencedCreateCleanupResolution)
  | markRejected (claim : NodeClaim) (binding : CreateFenceBinding) (token issueID : String)
  | markMaterialized (claim : NodeClaim) (binding : CreateFenceBinding) (token : String)
      (vm : Option VM)
  | recordProtectionFailure (claim : NodeClaim) (binding : CreateFenceBinding)
      (token issueID vmUUID : String)
  | clearProtectionFailure (claim : NodeClaim) (binding : CreateFenceBinding)
      (token issueID vmUUID : String)
  | recordTerminalCleanup (claim : NodeClaim) (binding : CreateFenceBinding)
      (token vmUUID : String)
  | ensureRemovalFence (claim : NodeClaim) (binding : CreateFenceBinding) (token : String)
  /-- One of the operations the cloud also reaches through the callbacks. -/
  | receipt (claim : NodeClaim) (record : CreateFenceRecord) (request : Callback)
  | reconcile (rounds : ℕ) (claim : NodeClaim)

/-- Its code, without what it returns. -/
def Call.code (s : SlotStore) : Call → FenceCode Unit
  | .get claim binding cleanup => do
    let _ ← lift (s.get claim binding cleanup)
  | .ensure claim binding cleanup baseline => do
    let _ ← lift (s.ensure claim binding cleanup baseline)
  | .authorize claim binding token intent => do
    let _ ← lift (s.authorize claim binding token intent)
  | .recordCreatedVM claim binding token issueID vmUUID => do
    let _ ← lift (s.recordCreatedVM claim binding token issueID vmUUID)
  | .chooseRollback claim binding token issueID vmUUID resolution => do
    let _ ← lift (s.chooseRollback claim binding token issueID vmUUID resolution)
  | .markRejected claim binding token issueID => do
    let _ ← lift (s.markRejected claim binding token issueID)
  | .markMaterialized claim binding token vm => do
    let _ ← lift (s.markMaterialized claim binding token vm)
  | .recordProtectionFailure claim binding token issueID vmUUID => do
    let _ ← lift (s.recordProtectionFailure claim binding token issueID vmUUID)
  | .clearProtectionFailure claim binding token issueID vmUUID => do
    let _ ← lift (s.clearProtectionFailure claim binding token issueID vmUUID)
  | .recordTerminalCleanup claim binding token vmUUID => do
    let _ ← lift (s.recordTerminalCleanup claim binding token vmUUID)
  | .ensureRemovalFence claim binding token => do
    let _ ← lift (s.ensureRemovalFence claim binding token)
  | .receipt claim record request => do
    let _ ← s.callback record claim request
  | .reconcile rounds claim => do
    let _ ← s.reconcile rounds claim

/-- Any operation of any replica, and any pass of the controller. -/
def Calls (_ : Tid) (p : Prog FenceOp FenceReply (Except Err Unit)) : Prop :=
  ∃ s : SlotStore, ∃ call : Call, p = (call.code s).run

/-! ### What is kept -/

/-- The fence of the object can be read, or has been released with the object
on its way out. -/
def Good (sha256 : String → String) (o : NodeClaim) : Prop :=
  (o.createFence = .absent ∧ o.deleting = true) ∨
    ∃ r, decodeCreateFence sha256 o.createFence = .ok r

/-- Where `copy` chooses rollback with unresolved dependents, the fence of `o`
has no receipt of the anchored VM. -/
def Undisputed (o copy : NodeClaim) : Prop :=
  match o.createFence, copy.createFence with
  | .record r, .record r' => r.rollbackAt = none → r'.rollbackAt ≠ none →
      r'.dependentUnresolved = true → createdReceipt r = false
  | _, _ => True

/-- No rollback with unresolved dependents is written over a fence that has the
receipt of the anchored VM. -/
def undisputed (_ : Tid) (op : FenceOp) (s : State) : Prop :=
  match op with
  | .store (.update copy) => ∀ o ∈ s.claim.log, o.resourceVersion = copy.resourceVersion →
      Undisputed o copy
  | _ => True

section

variable {sha256 : String → String} {o : NodeClaim} {r : CreateFenceRecord}

theorem good_withRecord (h : ValidFence r) : Good sha256 (o.withRecord r) :=
  .inr ⟨r, h.decode⟩

theorem Good.congr {o' : NodeClaim} (h : Good sha256 o) (hfence : o'.createFence = o.createFence)
    (hdeleting : o.deleting = true → o'.deleting = true) : Good sha256 o' := by
  rcases h with ⟨habsent, hd⟩ | ⟨r, hr⟩
  · exact .inl ⟨hfence.trans habsent, hdeleting hd⟩
  · exact .inr ⟨r, by rw [hfence]; exact hr⟩

end

/-! ### The invariant -/

/-- The invariant of the shared state: what is stored and what is under way can
be read. -/
structure Inv (sha256 : String → String) (s : State) : Prop where
  ordered : s.claim.Ordered claimStamp
  stored : ∀ o ∈ s.claim.log, Good sha256 o
  pending : ∀ copy ∈ s.pending, Good sha256 copy

/-- Nothing that has been stored is forgotten. -/
def Grows (s s' : State) : Prop := s.claim.log ⊆ s'.claim.log

variable {sha256 : String → String}

variable {s : State}

theorem Inv.store {o : NodeClaim} (h : Inv sha256 s) (ho : Good sha256 o) :
    Inv sha256 (s.store o) where
  ordered := h.ordered.put
  stored := List.forall_mem_cons.2 ⟨ho.congr rfl id, h.stored⟩
  pending := h.pending

theorem Grows.store {o : NodeClaim} : Grows s (s.store o) := List.subset_cons_self _ _

theorem Inv.env {s' : State} (h : Inv sha256 s) (he : Env s s') : Inv sha256 s' ∧ Grows s s' := by
  cases he with
  | deliver copy hcopy => exact ⟨h.store (h.pending copy hcopy), .store⟩
  | edit current _ hcur hfence hdeleting =>
    have hgood := h.stored current (Versioned.current_mem hcur)
    exact ⟨h.store (hgood.congr hfence hdeleting), .store⟩
  | remove => exact ⟨⟨h.ordered.drop, h.stored, h.pending⟩, fun _ ho => ho⟩

/-- The rules of the system. -/
def rules (sha256 : String → String) : Rules State := ⟨Inv sha256, fun _ => Grows, fun _ _ => True⟩

/-! ### One step -/

/-- What a reply tells for good. -/
def fact (_ : Tid) : Event FenceOp FenceReply → State → Prop
  | ⟨.store (.get _), r⟩, s => ∀ o, r = .ok o → o ∈ s.claim.log
  | _, _ => True

theorem fact_grows {t : Tid} {e : Event FenceOp FenceReply} {s' : State} (hgrows : Grows s s')
    (h : fact t e s) : fact t e s' := by
  obtain ⟨op, r⟩ := e
  cases op with
  | store op =>
    cases op with
    | get => exact fun o ho => hgrows (h o ho)
    | update => trivial
    | now => trivial
    | nonce => trivial
  | list => trivial
  | getLedger => trivial
  | createLedger => trivial
  | updateLedger => trivial
  | cloud => trivial

theorem read_fact {t : Tid} {o : NodeClaim} {tr : Trace FenceOp FenceReply}
    (h : Read o (seen tr)) (hfacts : ∀ e ∈ tr, fact t e s) : o ∈ s.claim.log := by
  obtain ⟨_, hmem⟩ := h
  obtain ⟨⟨op, r⟩, he, hevent⟩ := List.mem_filterMap.1 hmem
  cases op with
  | store =>
    obtain ⟨rfl, hr⟩ := Event.mk.inj (Option.some.inj hevent)
    obtain rfl := eq_of_heq hr
    exact hfacts _ he o rfl
  | list => cases hevent
  | getLedger => cases hevent
  | createLedger => cases hevent
  | updateLedger => cases hevent
  | cloud => cases hevent

/-- What the writers of the store make of a fence that can be read can be read,
a disputed rollback apart. -/
theorem valid_of_write {tr : Trace Op Reply} {r r' : CreateFenceRecord} (h : FenceWrite tr r r')
    (hr : ValidFence r) (hundisputed : r.rollbackAt = none → r'.rollbackAt ≠ none →
      r'.dependentUnresolved = true → createdReceipt r = false) : ValidFence r' := by
  cases h with
  | issue hphase ha hintent hnow hissueID hfresh =>
    exact hr.issue hphase ha hintent hnow hissueID hfresh.hex
  | anchor hphase hcreated hrollback ha hnow huuid hlower =>
    exact hr.anchor hphase hcreated hrollback ha hnow huuid hlower
  | rollbackUnresolved hphase hcreated hrollback hnow =>
    exact hr.rollbackUnresolved hphase hcreated hnow (hundisputed hrollback (by simp) rfl)
  | rollbackResolved hphase hcreated hat hnow hx hvm happlied =>
    exact hr.rollbackResolved hphase hcreated hat hnow hx hvm happlied
  | reject hphase hcreated hrollback ha hnow => exact hr.reject hphase hcreated hrollback ha hnow
  | mark hphase hcreated hrollback hat => exact hr.mark hphase hcreated hrollback hat
  | terminal => exact hr.terminal _
  | materialize hphase hcreated hrollback hassigned hcanonical hnow =>
    exact hr.materialize hphase hcreated hrollback hassigned hcanonical hnow
  | reissue hphase ha hnow hfresh => exact hr.reissue hphase ha hnow hfresh.hex
  | endAssignment ha hissued hvm hterminal hnow =>
    exact hr.endAssignment ha hissued hvm hterminal hnow

theorem valid_of_patch {r r' : CreateFenceRecord} (h : FencePatch r r') (hr : ValidFence r) :
    ValidFence r' := by
  cases h with
  | resolveDependents hunresolved hrollback hnow =>
    exact hr.resolveDependents hunresolved hrollback hnow
  | resolved hresolved hnow => exact hr.resolved hresolved hnow

/-- What an update makes of an object with a fence that can be read, whatever
digest the store uses. -/
theorem good_of_update {digest : String → String} {patches : Prop} {tr : Trace Op Reply}
    {o copy : NodeClaim} (h : Update digest patches tr o copy) (ho : Good sha256 o) (hundisputed : Undisputed o copy) :
    Good sha256 copy := by
  cases h with
  | keep _ _ _ hfence hdeleting => exact ho.congr hfence fun h => hdeleting.trans h
  | write hdecode hwrite =>
    refine good_withRecord (valid_of_write hwrite (decodeCreateFence_valid hdecode) ?_)
    intro hnone hsome hunresolved
    obtain ⟨_, hraw, hrollback, hcreated, hhistory⟩ := decodeCreateFence_raw hdecode
    simp only [Undisputed, hraw, NodeClaim.withRecord] at hundisputed
    have hreceipt := hundisputed (hrollback.symm.trans hnone) hsome hunresolved
    rwa [createdReceipt, hcreated, hhistory]
  | reserve habsent hdeleting =>
    -- an object without a fence is being deleted, so none is reserved
    rcases ho with ⟨-, hgone⟩ | ⟨r, hr⟩
    · rw [hdeleting] at hgone
      cases hgone
    · rw [habsent] at hr
      cases hr
  | patch _ _ hdecode hpatch =>
    exact good_withRecord (valid_of_patch hpatch (decodeCreateFence_valid hdecode))
  | release _ hdeleting => exact .inl ⟨rfl, hdeleting⟩

/-- One request: what it does to the shared state, and what its reply tells. -/
theorem exec_step {digest : String → String} {t : Tid} {tr : Trace FenceOp FenceReply}
    {op : FenceOp} {s' : State} {r : FenceReply op} (hok : (fenceHabit digest True).ok tr op) (hi : Inv sha256 s)
    (hfacts : ∀ e ∈ tr, fact t e s) (hcond : undisputed t op s) (hexec : exec t op s r s') :
    Inv sha256 s' ∧ Grows s s' ∧ (fenceHabit digest True).rep op r ∧ fact t ⟨op, r⟩ s' := by
  have hrefl : Grows s s := List.Subset.refl _
  cases op with
  | store op =>
    cases op with
    | get =>
      obtain ⟨rfl, hread⟩ := hexec
      have hmem : ∀ o, r = .ok o → o ∈ s'.claim.log := fun o ho =>
        Versioned.current_mem (hread o ho).1
      exact ⟨hi, hrefl, fun o ho => (hread o ho).2, hmem⟩
    | update =>
      obtain ⟨o, hread, hupdate⟩ := hok
      have ho := read_fact hread hfacts
      have hcopy := good_of_update hupdate (hi.stored o ho) (hcond o ho hupdate.version.symm)
      rcases hexec with ⟨-, rfl⟩ | ⟨-, rfl | rfl⟩
      · exact ⟨hi.store hcopy, .store, trivial, trivial⟩
      · exact ⟨hi, hrefl, trivial, trivial⟩
      · exact ⟨⟨hi.ordered, hi.stored, List.forall_mem_cons.2 ⟨hcopy, hi.pending⟩⟩,
          List.Subset.refl _, trivial, trivial⟩
    | now =>
      obtain ⟨rfl, hr⟩ := hexec
      exact ⟨hi, hrefl, hr, trivial⟩
    | nonce =>
      obtain ⟨rfl, hr⟩ := hexec
      exact ⟨hi, hrefl, hr, trivial⟩
  | list => obtain rfl := hexec; exact ⟨hi, hrefl, trivial, trivial⟩
  | getLedger => obtain rfl := hexec; exact ⟨hi, hrefl, trivial, trivial⟩
  | createLedger => obtain rfl := hexec; exact ⟨hi, hrefl, trivial, trivial⟩
  | updateLedger => obtain rfl := hexec; exact ⟨hi, hrefl, trivial, trivial⟩
  | cloud => obtain rfl := hexec; exact ⟨hi, hrefl, trivial, trivial⟩

theorem honours (digest : String → String) :
    (rules sha256).Honours (sem.restrict undisputed) (fenceHabit digest True) fact where
  stable := fun t e s s' h hstep => by
    refine fact_grows ?_ h
    obtain ⟨hinv, -, henv | ⟨u, -, hguar⟩⟩ := hstep
    · exact (Inv.env hinv henv).2
    · exact hguar
  step := fun t tr op s r s' hok hi hfacts hexec => by
    obtain ⟨hi', hgrows, hrep, hnew⟩ := exec_step hok hi hfacts hexec.1 hexec.2
    exact ⟨hi', hgrows, hrep, fun e he => fact_grows hgrows (hfacts e he), hnew⟩

section Controller

variable {tr tr' : Trace FenceOp FenceReply} {α : Type}

/-! ### The controller -/

variable {s : SlotStore} {rounds : ℕ} {record : CreateFenceRecord}
  (request : FencedCreateCleanupRequest) {nodeClaim : NodeClaim}
  {Q : α → Trace FenceOp FenceReply → Prop}

/-- A callback that moves the object on. -/
theorem moved_follows {x : FenceCode α} {updated : α → NodeClaim} (hx : (fenceHabit sha256 True).FollowsE x tr Q)
    (hQ : ∀ a tr', tr ⊆ tr' → Read nodeClaim (seen tr) → Q a tr' → Read (updated a) (seen tr')) :
    (fenceHabit sha256 True).FollowsE (do
      let result ← attempt x
      pure (moved nodeClaim updated result)) tr fun o tr' =>
        Read nodeClaim (seen tr) → Read o (seen tr') := by
  refine .bind (.attempt hx) fun r tr' hsub hr => .pure fun hclaim => ?_
  cases r with
  | ok a => exact hQ a tr' hsub hclaim (hr a rfl)
  | error => exact hclaim.mono (seen_mono hsub)

/-- A callback that leaves it. -/
theorem unmoved_follows {x : FenceCode α} (hx : (fenceHabit sha256 True).FollowsE x tr Q) :
    (fenceHabit sha256 True).FollowsE (do
      let _ ← attempt x
      pure nodeClaim) tr fun o tr' =>
        Read nodeClaim (seen tr) → Read o (seen tr') :=
  .bind (.attempt hx) fun _ _ hsub _ => .pure fun hclaim => hclaim.mono (seen_mono hsub)

theorem callback_follows {nodeClaim : NodeClaim} {request : Callback} :
    (fenceHabit s.sha256 True).FollowsE (s.callback record nodeClaim request) tr fun o tr' =>
      Read nodeClaim (seen tr) → Read o (seen tr') := by
  have hunlessErr : ∀ (a : NodeClaim × Option Err) (tr' : Trace FenceOp FenceReply), tr ⊆ tr' →
      Read nodeClaim (seen tr) → Read a.1 (seen tr') →
      Read (if a.2 = none then a.1 else nodeClaim) (seen tr') := by
    intro _ _ hsub hclaim ha
    split
    · exact ha
    · exact hclaim.mono (seen_mono hsub)
  cases request with
  | authorizeBaseFirewall =>
    exact moved_follows authorizeBaseFirewall_follows fun _ _ _ _ h => h.1
  | observeBaseFirewall =>
    exact moved_follows finishBaseFirewall_follows hunlessErr
  | rejectBaseFirewall =>
    exact moved_follows finishBaseFirewall_follows hunlessErr
  | authorizeBaseFirewallDetach =>
    exact unmoved_follows authorizeBaseFirewallDetach_follows
  | observeBaseFirewallDetach =>
    exact unmoved_follows finishBaseFirewallDetach_follows
  | rejectBaseFirewallDetach =>
    exact unmoved_follows finishBaseFirewallDetach_follows
  | authorizeFloatingIPUpdate =>
    exact moved_follows (lift_follows authorizeFloatingIPUpdate_follows)
      fun _ _ _ _ h => h
  | observeFloatingIPUpdate =>
    exact moved_follows (lift_follows finishFloatingIPUpdate_follows) fun _ _ _ _ h => h
  | rejectFloatingIPUpdate =>
    exact moved_follows (lift_follows finishFloatingIPUpdate_follows) fun _ _ _ _ h => h
  | authorizeRemovalMutation =>
    exact moved_follows (lift_follows (journal_follows
      Journal.authorizeRemovalMutation_follows)) fun _ _ _ _ h => h.1
  | observeRemovalMutation =>
    exact moved_follows (lift_follows (journal_follows
      Journal.observeRemovalMutation_follows)) fun _ _ _ _ h => h
  | rejectRemovalMutation =>
    exact moved_follows (lift_follows (journal_follows
      Journal.rejectRemovalMutation_follows)) fun _ _ _ _ h => h

theorem talk_follows {call : CloudCall} {rounds : ℕ} (hclaim : Read nodeClaim (seen tr)) :
    (fenceHabit s.sha256 True).FollowsE (s.talk record call rounds nodeClaim) tr
      fun r tr' => Read r.1 (seen tr') := by
  induction rounds generalizing nodeClaim tr with
  | zero => exact .outOfRounds
  | succ _ ih =>
    refine .perform_bind trivial fun r _ => ?_
    cases r with
    | done => exact .pure hclaim
    | callback request =>
      exact .bind callback_follows fun o tr' _ ho => ih (ho hclaim)

/-- The record was read on some object. -/
def Origin (s : SlotStore) (record : CreateFenceRecord) (tr : Trace FenceOp FenceReply) : Prop :=
  ∃ o, Read o (seen tr) ∧ decodeCreateFence s.sha256 o.createFence = .ok record

theorem Origin.mono {s : SlotStore} {record : CreateFenceRecord} (h : Origin s record tr)
    (hsub : tr ⊆ tr') : Origin s record tr' := by
  obtain ⟨o, ho, hdecode⟩ := h
  exact ⟨o, ho.mono (seen_mono hsub), hdecode⟩

theorem persistDependentResolution_follows {record : CreateFenceRecord}
    (hclaim : Read nodeClaim (seen tr)) (hrecord : Origin s record tr) :
    (fenceHabit s.sha256 True).FollowsE (s.persistDependentResolution nodeClaim record) tr
      fun _ _ => True := by
  refine .check_bind fun _ hdue => ?_
  have hdue := failIf_ok hdue
  simp only [not_or, Bool.not_eq_false] at hdue
  refine .perform_bind trivial fun now hnow => ?_
  obtain ⟨o, ho, hdecode⟩ := hrecord
  refine .perform_bind ⟨nodeClaim, hclaim.cons, .patch trivial ho.cons hdecode
    (.resolveDependents hdue.1 hdue.2.1 hnow)⟩ fun r _ => ?_
  cases r with
  | some => exact .throw
  | none =>
    refine .perform_bind trivial fun readback _ => ?_
    refine .skip ?_
    refine .skip ?_
    refine .skip ?_
    exact .check fun _ _ => trivial

theorem persistCleanupResolution_follows
    {record : CreateFenceRecord} {resolution : FencedCreateCleanupResolution}
    (hclaim : Read nodeClaim (seen tr)) (hrecord : Origin s record tr) :
    (fenceHabit s.sha256 True).FollowsE (s.persistCleanupResolution nodeClaim record resolution) tr
      fun _ _ => True := by
  refine .perform_bind trivial fun now hnow => ?_
  refine .check_bind fun resolved hresolved => ?_
  obtain ⟨o, ho, hdecode⟩ := hrecord
  refine .perform_bind ⟨nodeClaim, hclaim.cons, .patch trivial ho.cons hdecode
    (.resolved hresolved hnow)⟩ fun r _ => ?_
  cases r with
  | some => exact .throw
  | none =>
    refine .perform_bind trivial fun readback _ => ?_
    refine .skip ?_
    refine .skip ?_
    refine .skip ?_
    exact .check fun _ _ => trivial

/-- The fence is released only with an object that is being deleted. -/
theorem release_follows {nodeClaim : NodeClaim} :
    (fenceHabit sha256 True).FollowsE (release nodeClaim) tr fun _ _ => True := by
  refine .perform_bind trivial fun r hr => ?_
  cases r with
  | error => exact .check fun _ _ => trivial
  | ok exact =>
    refine .skip ?_
    split
    · exact .pure trivial
    refine .check_bind fun _ hsame => ?_
    have hdeleting := (not_or.1 (failIf_ok hsame)).1
    refine .perform_bind ⟨exact, read_cons, .release trivial (by simpa using hdeleting)⟩
      fun r _ => ?_
    cases r with
    | some => exact .throw
    | none => exact .pure trivial

theorem removeProtection_follows {nodeClaim : NodeClaim} :
    (fenceHabit sha256 True).FollowsE (removeProtection nodeClaim) tr fun _ _ => True := by
  suffices h : ∀ attempts lastErr (tr : Trace FenceOp FenceReply), (fenceHabit sha256 True).FollowsE
      (releaseLoop nodeClaim attempts lastErr) tr fun _ _ => True from h 5 none tr
  intro attempts
  induction attempts with
  | zero => exact fun _ _ => .throw
  | succ _ ih =>
    intro _ _
    refine .bind (.attempt release_follows) fun r _ _ _ => ?_
    split
    · exact .pure trivial
    split
    · exact ih _ _
    · exact .check fun _ _ => trivial

theorem clearOperatorCreateFenceResolution_follows (hclaim : Read nodeClaim (seen tr)) :
    (fenceHabit sha256 True).FollowsE (clearOperatorCreateFenceResolution nodeClaim) tr
      fun _ _ => True := by
  refine .perform_bind ⟨nodeClaim, hclaim, .keep rfl rfl rfl rfl rfl⟩ fun r _ => ?_
  cases r with
  | some => exact .throw
  | none =>
    refine .perform_bind trivial fun readback _ => ?_
    refine .skip ?_
    exact .check fun _ _ => trivial

theorem resolveVM_follows {vmUUID : String} (hclaim : Read nodeClaim (seen tr)) :
    (fenceHabit s.sha256 True).FollowsE (s.resolveVM rounds nodeClaim record request vmUUID) tr
      fun _ _ => True := by
  unfold SlotStore.resolveVM
  split
  · exact .done (clearOperatorCreateFenceResolution_follows hclaim)
  refine .skip ?_
  refine .bind (talk_follows hclaim) fun r tr₁ _ _ => ?_
  obtain ⟨_, _⟩ := r
  dsimp only
  split
  · exact .throw
  refine .bind (.withErr (lift_follows recordCreatedVM_follows) _)
    fun anchored tr₂ _ hanchored => ?_
  exact .done (clearOperatorCreateFenceResolution_follows hanchored)

theorem resolveNoResult_follows (hclaim : Read nodeClaim (seen tr)) :
    (fenceHabit s.sha256 True).FollowsE (s.resolveNoResult rounds nodeClaim record request) tr
      fun _ _ => True := by
  unfold SlotStore.resolveNoResult
  split
  · exact .done (clearOperatorCreateFenceResolution_follows hclaim)
  refine .skip ?_
  refine .bind (talk_follows hclaim) fun r tr₁ _ _ => ?_
  obtain ⟨_, _⟩ := r
  refine .skip ?_
  dsimp only
  split
  · exact .throw
  split
  · exact .pure trivial
  split
  · exact .throw
  refine .bind (.withErr (lift_follows markRejected_follows) _)
    fun rejected tr₂ _ hrejected => ?_
  exact .done (clearOperatorCreateFenceResolution_follows hrejected)

theorem giveUpProtection_follows {nodeClaim : NodeClaim}
    {record : CreateFenceRecord} {update : Option FloatingIPUpdateRecord} {protectErr : Err} :
    (fenceHabit s.sha256 True).FollowsE (s.giveUpProtection nodeClaim record update protectErr) tr
      fun _ _ => True := by
  refine .bind (.attempt (lift_follows chooseRollback_follows)) fun r _ _ _ => ?_
  split
  · exact .throw
  · exact .pure trivial

theorem protectionFailed_follows {nodeClaim : NodeClaim} {protectErr : Err} :
    (fenceHabit s.sha256 True).FollowsE (s.protectionFailed nodeClaim protectErr) tr fun _ _ => True := by
  have hread : (fenceHabit s.sha256 True).FollowsE (s.readProtectionState nodeClaim) tr
      fun _ _ => True := by
    refine .perform_bind trivial fun r _ => ?_
    refine .check_bind fun current _ => ?_
    refine .check_bind fun state _ => ?_
    exact .pure trivial
  refine .bind (.withErr hread _) fun state _ _ _ => ?_
  obtain ⟨_, _, _⟩ := state
  dsimp only
  split
  · exact .pure trivial
  split
  · refine .perform_bind trivial fun now _ => ?_
    split
    · exact .pure trivial
    · exact giveUpProtection_follows
  split
  · refine .bind (.withErr (lift_follows recordProtectionFailure_follows) _)
      fun r _ _ _ => ?_
    refine .perform_bind trivial fun now _ => ?_
    split
    · exact .pure trivial
    · exact giveUpProtection_follows
  · exact giveUpProtection_follows

theorem protect_follows (hclaim : Read nodeClaim (seen tr)) :
    (fenceHabit s.sha256 True).FollowsE (s.protect rounds nodeClaim record request) tr
      fun _ _ => True := by
  refine .bind (talk_follows hclaim) fun r tr₁ _ _ => ?_
  obtain ⟨_, _⟩ := r
  dsimp only
  split
  · exact protectionFailed_follows
  split
  · exact .done (.withErr (lift_follows clearProtectionFailure_follows) _)
  · exact .pure trivial

theorem cleanUp_follows {deleting : Bool}
    {record : CreateFenceRecord} {request : FencedCreateCleanupRequest}
    (hclaim : Read nodeClaim (seen tr)) (hrecord : Origin s record tr) :
    (fenceHabit s.sha256 True).FollowsE (s.cleanUp rounds deleting nodeClaim record request) tr
      fun _ _ => True := by
  refine .bind (talk_follows hclaim) fun r tr₁ hsub hr => ?_
  obtain ⟨nodeClaim, _⟩ := r
  have hrecord₁ := hrecord.mono hsub
  have hremove : ∀ {tr' : Trace FenceOp FenceReply}, (fenceHabit s.sha256 True).FollowsE
      (do if deleting then removeProtection nodeClaim
          pure ReconcileResult.done) tr' fun _ _ => True := by
    intro _
    cases deleting with
    | true => exact .done removeProtection_follows
    | false => exact .pure trivial
  dsimp only
  split
  · exact .throw
  · exact .throw
  · exact .done (persistCleanupResolution_follows hr hrecord₁)
  · exact .throw
  · exact .done (persistDependentResolution_follows hr hrecord₁)
  · exact hremove
  · split
    · exact hremove
    split
    · exact .pure trivial
    · exact .throw

theorem ensureJournal_follows (hclaim : Read nodeClaim (seen tr)) :
    (fenceHabit s.sha256 True).FollowsE (s.ensureJournal nodeClaim record) tr
      fun o tr' => Read o (seen tr') := by
  unfold SlotStore.ensureJournal
  dsimp only
  split
  · refine .skip ?_
    exact .withErr (lift_follows (journal_follows
      Journal.ensureRemovalFence_follows)) _
  · refine .skip ?_
    exact .pure hclaim

theorem reconcileFence_follows {deleting : Bool} {record : CreateFenceRecord}
    (hclaim : Read nodeClaim (seen tr)) (hrecord : Origin s record tr) :
    (fenceHabit s.sha256 True).FollowsE (s.reconcileFence rounds deleting nodeClaim record) tr
      fun _ _ => True := by
  refine .skip ?_
  split
  · exact .pure trivial
  split
  · exact .done (.withErr (lift_follows chooseRollback_follows) _)
  refine .check_bind fun resolutions _ => ?_
  refine .check_bind fun update _ => ?_
  dsimp only
  split
  · refine .check_bind fun resolution _ => ?_
    refine .skip ?_
    split
    · exact resolveVM_follows _ hclaim
    split
    · exact resolveNoResult_follows _ hclaim
    · exact .throw
  split
  · split
    · exact protect_follows _ hclaim
    · exact .pure trivial
  · exact cleanUp_follows hclaim hrecord

theorem reconcile_follows {nodeClaim : NodeClaim} :
    (fenceHabit s.sha256 True).FollowsE (s.reconcile rounds nodeClaim) tr fun _ _ => True := by
  unfold SlotStore.reconcile
  dsimp only
  split
  · exact .pure trivial
  refine .perform_bind trivial fun r hr => ?_
  split
  · split
    · exact .pure trivial
    · exact .throw
  next exact =>
  refine .skip ?_
  split
  · exact .pure trivial
  refine .check_bind fun record hrecord => ?_
  refine .skip ?_
  refine .bind (ensureJournal_follows read_cons) fun current tr' hsub hcurrent => ?_
  have horigin : Origin s record (⟨.store (.get nodeClaim.name), .ok exact⟩ :: tr) :=
    ⟨exact, read_cons, mapError_iff.1 hrecord⟩
  exact reconcileFence_follows hcurrent (horigin.mono hsub)

theorem discard_follows {x : FenceCode α} (hx : (fenceHabit sha256 True).FollowsE x tr Q) :
    (fenceHabit sha256 True).FollowsE (do let _ ← x) tr fun _ _ => True :=
  .bind hx fun _ _ _ _ => .pure trivial

theorem code_follows {call : Call} :
    (fenceHabit s.sha256 True).FollowsE (call.code s) tr fun _ _ => True := by
  cases call with
  | get => exact discard_follows (lift_follows get_follows)
  | ensure => exact discard_follows (lift_follows ensure_follows)
  | authorize =>
    exact discard_follows (lift_follows authorize_follows)
  | recordCreatedVM =>
    exact discard_follows (lift_follows recordCreatedVM_follows)
  | chooseRollback =>
    exact discard_follows (lift_follows chooseRollback_follows)
  | markRejected =>
    exact discard_follows (lift_follows markRejected_follows)
  | markMaterialized =>
    exact discard_follows (lift_follows markMaterialized_follows)
  | recordProtectionFailure =>
    exact discard_follows (lift_follows recordProtectionFailure_follows)
  | clearProtectionFailure =>
    exact discard_follows (lift_follows clearProtectionFailure_follows)
  | recordTerminalCleanup =>
    exact discard_follows (lift_follows recordTerminalCleanup_follows)
  | ensureRemovalFence =>
    exact discard_follows (lift_follows (journal_follows
      Journal.ensureRemovalFence_follows))
  | receipt claim record request => exact discard_follows callback_follows
  | reconcile rounds claim => exact discard_follows reconcile_follows

end Controller

/-! ### Every stored fence -/

theorem verified : (rules sha256).Verified (sem.restrict undisputed) Calls (Initial sha256)
    fun _ _ _ => True where
  init := by
    rintro s ⟨⟨o, r, hclaim, hread⟩, hpending⟩
    refine ⟨⟨?_, ?_, ?_⟩, fun _ => trivial⟩
    · rw [hclaim]
      exact List.pairwise_singleton _ _
    · intro _ ho'
      rw [hclaim] at ho'
      rw [List.mem_singleton.1 ho']
      exact .inr ⟨r, hread⟩
    · rw [hpending]
      exact fun _ h => by cases h
  env := fun s s' hinv henv => (Inv.env hinv henv).1
  fresh := fun _ _ _ _ _ => trivial
  stable := fun _ _ _ _ _ _ => trivial
  start := by
    rintro t p s ⟨store, call, rfl⟩ hinv -
    have hfollows : (fenceHabit store.sha256 True).Follows (call.code store).run [] fun _ _ => True :=
      code_follows.run (fun _ _ _ => trivial) fun _ _ => trivial
    exact wp_mono (fun _ _ _ => trivial)
      (wp_of_follows (honours store.sha256) hfollows hinv fun _ h => by cases h)

/-- In every run of provider calls and controller passes on one NodeClaim that
starts from a fence `decodeCreateFence` accepts, and in which no rollback with
unresolved dependents is written over a fence that has the receipt of the
anchored VM: every fence that has ever been stored is accepted, and an object
without one is being deleted. -/
theorem createFence_stored_accepted {c : Config State FenceOp FenceReply (Except Err Unit)}
    (h : Reachable (sem.restrict undisputed) Calls (Initial sha256) c) {o : NodeClaim}
    (ho : o ∈ c.shared.claim.log) : (o.createFence = .absent → o.deleting = true) ∧
      (o.createFence ≠ .absent → ∃ r, decodeCreateFence sha256 o.createFence = .ok r) := by
  have hgood := (sound verified h).stored o ho
  refine ⟨fun habsent => ?_, fun hpresent => ?_⟩
  · rcases hgood with ⟨-, hdeleting⟩ | ⟨r, hr⟩
    · exact hdeleting
    · rw [habsent] at hr
      cases hr
  · rcases hgood with ⟨habsent, -⟩ | hread
    · exact absurd habsent hpresent
    · exact hread

/-! ### Two runs

The NodeClaim is being deleted while its Create call is still under way: the
VM has been asked for, but its UUID is not anchored. -/

/-- The NodeClaim, with its create attempt issued. -/
def deletedWorker : NodeClaim :=
  { fencedWorker.withRecord issuedWorkerRecord with resourceVersion := 3, deleting := true }

/-- The VM the cloud has created. -/
def workerVM : String := "0a1b2c3d-0000-4000-8000-000000000001"

/-- What a cleanup finds of it. -/
def workerReceipt : FencedCreateCleanupResolution :=
  { vmUUID := workerVM, floatingIPName := "worker-ip", publicIPv4 := "203.0.113.7" }

def deletedState : State := ⟨⟨[deletedWorker], true⟩, []⟩

/-- Requests succeed, and a cleanup finds the VM. -/
def server (t : Tid) : sem.Driver t where
  answer op s := match op with
    | .store (.get name) =>
      match s.claim.current with
      | some o => if o.name = name then some (.ok o, s) else none
      | none => none
    | .store (.update copy) =>
      match s.claim.current with
      | some o =>
        if o.name = copy.name ∧ o.uid = copy.uid ∧ o.resourceVersion = copy.resourceVersion then
          some (none, s.store copy)
        else none
      | none => none
    | .store .now => some (5, s)
    | .cloud _ => some (.done { resolution := some workerReceipt }, s)
    | _ => none
  sound op s r s' h := by
    split at h
    · split at h
      next o ho =>
        split at h
        next hname =>
          obtain ⟨rfl, rfl⟩ := Prod.mk.inj (Option.some.inj h)
          refine ⟨rfl, fun o' ho' => ?_⟩
          obtain rfl := Except.ok.inj ho'
          exact ⟨ho, hname⟩
        · cases h
      · cases h
    · split at h
      next o ho =>
        split at h
        next hfits =>
          obtain ⟨rfl, rfl⟩ := Prod.mk.inj (Option.some.inj h)
          exact .inl ⟨⟨o, ho, hfits⟩, rfl⟩
        · cases h
      · cases h
    · obtain ⟨rfl, rfl⟩ := Prod.mk.inj (Option.some.inj h)
      exact ⟨rfl, by decide⟩
    · obtain ⟨-, rfl⟩ := Prod.mk.inj (Option.some.inj h)
      exact rfl
    · cases h

/-- A digest for the runs; no fence of the first schema occurs in them. -/
def noDigest : String → String := fun _ => ""

def workerStore : SlotStore := ⟨⟨⟨noDigest⟩, fun _ => 0⟩, fun _ => 0⟩

/-- A pass of the controller. -/
def pass : Prog FenceOp FenceReply (Except Err Unit) :=
  ((Call.reconcile 1 deletedWorker).code workerStore).run

/-- The Create call anchors the VM. -/
def anchorVM : Prog FenceOp FenceReply (Except Err Unit) :=
  ((Call.recordCreatedVM deletedWorker workerBinding "token" issuedWorkerRecord.issueID
    workerVM).code workerStore).run

/-- The Create call gives up: rollback without a receipt. -/
def giveUp : Prog FenceOp FenceReply (Except Err Unit) :=
  ((Call.chooseRollback deletedWorker workerBinding "token" issuedWorkerRecord.issueID workerVM
    none).code workerStore).run

theorem initial_deletedState : Initial noDigest deletedState :=
  ⟨⟨deletedWorker, issuedWorkerRecord, rfl, by decide +kernel⟩, rfl⟩

theorem pass_calls : Calls 0 pass := ⟨workerStore, _, rfl⟩

theorem anchorVM_calls : Calls 1 anchorVM := ⟨workerStore, _, rfl⟩

theorem giveUp_calls : Calls 2 giveUp := ⟨workerStore, _, rfl⟩

/-- The pass stores the receipt of the VM. -/
def passRun : State × Prog FenceOp FenceReply (Except Err Unit) :=
  (server 0).drive 5 deletedState pass

/-- The VM is anchored after that. -/
def anchorRun : State × Prog FenceOp FenceReply (Except Err Unit) :=
  (server 1).drive 4 passRun.1 anchorVM

/-- Rollback is chosen, and written. -/
def giveUpRun : State × Prog FenceOp FenceReply (Except Err Unit) :=
  (server 2).drive 3 anchorRun.1 giveUp

/-- The stored fence has the receipt of the VM, and can be read. -/
def hasReceipt (s : State) : Bool :=
  match s.claim.log.head?.map fun o => decodeCreateFence noDigest o.createFence with
  | some (.ok r) => r.cleanupResolutions == [workerReceipt]
  | _ => false

/-- The error that says that the dependents are disposed of twice. -/
def disposedTwice : Err :=
  .new "durable VM create fence rollback dependent state does not have exactly one durable disposition"

/-- The stored fence is rejected with it. -/
def rejected (o : NodeClaim) : Bool :=
  match decodeCreateFence noDigest o.createFence with
  | .error e => e == disposedTwice
  | .ok _ => false

theorem giveUpRun_rejected : giveUpRun.1.claim.log.head?.any rejected = true := by decide +kernel

/-- An update that chooses no rollback is never disputed. -/
def unresolvedFree (op : FenceOp) (_ : State) : Bool :=
  match op with
  | .store (.update copy) =>
    match copy.createFence with
    | .record r => !r.dependentUnresolved
    | _ => true
  | _ => true

theorem undisputed_of_unresolvedFree (t : Tid) (op : FenceOp) (s : State)
    (h : unresolvedFree op s = true) : undisputed t op s := by
  unfold undisputed
  split
  next copy =>
    intro o _ _
    unfold Undisputed
    split
    next r r' _ hr' =>
      intro _ _ hunresolved
      simp only [unresolvedFree, hr', hunresolved] at h
      cases h
    · trivial
  · trivial

/-- The same pass in the restricted system. -/
def quietRun : State × Prog FenceOp FenceReply (Except Err Unit) :=
  ((server 0).restrict unresolvedFree (undisputed_of_unresolvedFree 0)).drive 5 deletedState pass

theorem quietRun_hasReceipt : hasReceipt quietRun.1 = true := by decide +kernel

/-- The receipt that a cleanup stores can be read. -/
theorem createFence_stored_accepted_receipt :
    ∃ c : Config State FenceOp FenceReply (Except Err Unit),
      Reachable (sem.restrict undisputed) Calls (Initial noDigest) c ∧
      hasReceipt c.shared = true ∧
      ∀ o ∈ c.shared.claim.log, (o.createFence = .absent → o.deleting = true) ∧
        (o.createFence ≠ .absent → ∃ r, decodeCreateFence noDigest o.createFence = .ok r) := by
  have h := ((server 0).restrict unresolvedFree (undisputed_of_unresolvedFree 0)).started
    (r := quietRun) (.init initial_deletedState) rfl pass_calls rfl
  exact ⟨_, h, quietRun_hasReceipt, fun o ho => createFence_stored_accepted h ho⟩

/-- A pass of the controller, and then a Create call that anchors the VM and
gives up: the fence that is stored in the end is rejected. -/
theorem rollback_after_receipt_rejected : ∃ c : Config State FenceOp FenceReply (Except Err Unit),
      Reachable sem Calls (Initial noDigest) c ∧
      ∃ o ∈ c.shared.claim.log, decodeCreateFence noDigest o.createFence = .error disposedTwice := by
  have h := (server 0).started (r := passRun) (.init initial_deletedState) rfl pass_calls rfl
  have h := (server 1).started (r := anchorRun) h rfl anchorVM_calls rfl
  have h := (server 2).started (r := giveUpRun) h rfl giveUp_calls rfl
  obtain ⟨o, ho, hrejected⟩ := (Option.any_eq_true _ _).1 giveUpRun_rejected
  refine ⟨_, h, o, List.mem_of_mem_head? ho, ?_⟩
  unfold rejected at hrejected
  split at hrejected
  next e he => rw [he, beq_iff_eq.1 hrejected]
  · cases hrejected

end InSpaceKube.Karpenter.Accepted
