/-
InSpaceKube/Karpenter/JournalOnce.lean

Whatever the replicas do and however their operations interleave, the removal
journal of a NodeClaim has one mutation issued at a time, grants an issue ID
at most once, and never forgets a floating-IP DELETE that has been observed.

* `JournalStep` is what one write may do to the journal.  Every operation
  plans such a step from an object it has read, and the compare-and-swap makes
  it a step from the stored journal: the log of what has been stored is a
  chain of steps.
* The statements about the journal are statements about such chains: what has
  to stand between two entries, and what stays in all later ones.
* An authority is given for an issue ID that the invocation has drawn itself.

An update whose error says nothing may have been applied, may never be, or may
be applied later, if the version still fits by then.  Everybody else may edit
the object, but the journal only by opening it, as the create fence does.
-/
import InSpaceKube.Karpenter.JournalWrites
import InSpaceKube.Karpenter.System
import InSpaceKube.Prog.Versioned

namespace InSpaceKube.Karpenter.Journal

open Prog Relation Rules

/-! ### What a journal says -/

/-- The journal is at another mutation. -/
def Superseded (mutation : RemovalMutation) : Stored → Prop
  | .record r => r.mutation ≠ mutation
  | _ => False

/-- The journal has a receipt that the mutation was observed under this issue
ID: the current one or one of the history. -/
def Holds (mutation : RemovalMutation) (issueID : String) : Stored → Prop
  | .record r => (r.phase = .observed ∧ r.mutation = mutation ∧ r.issueID = issueID) ∨
      ∃ entry ∈ r.observedFloatingIPDeletes,
        (observedFloatingIPDeleteFence entry).mutation = mutation ∧ entry.issueID = issueID
  | _ => False

/-! ### Steps of the journal -/

/-- How a write moves the journal from `r` to `r'`. -/
inductive Move (r r' : RemovalMutationRecord) : Prop
  /-- A mutation is issued: the first one, the one that was rejected, or another
  than the one observed, and one without a receipt. -/
  | issue (free : r.phase = .ready ∨ (r.phase = .rejected ∧ r.mutation = r'.mutation) ∨
        (r.phase = .observed ∧ r.mutation ≠ r'.mutation))
      (unheld : r'.mutation.operation = .floatingIPDelete → r.receipt r'.mutation = none)
      (phase : r'.phase = .issued)
  /-- The mutation is rejected or observed. -/
  | finish (mutation : r'.mutation = r.mutation) (issueID : r'.issueID = r.issueID)
      (phase : (r.phase = .issued ∧ r'.phase = .rejected) ∨
        ((r.phase = .issued ∨ r.phase = .rejected) ∧ r'.phase = .observed))
  /-- The receipt of the observed mutation is added to the history. -/
  | archive (mutation : r'.mutation = r.mutation) (issueID : r'.issueID = r.issueID)
      (before : r.phase = .observed) (phase : r'.phase = .observed)

/-- What a write does to the journal. -/
inductive JournalStep : Stored → Stored → Prop
  | stay (j : Stored) : JournalStep j j
  | opened (binding : CreateFenceBinding) (token : String) (now : ℤ) :
      JournalStep .absent (.record (newRemovalMutationReadyRecord binding token now))
  | moved (r r' : RemovalMutationRecord) (move : Move r r')
      (kept : ∀ m i, m.operation = .floatingIPDelete → Holds m i (.record r) →
        Holds m i (.record r')) : JournalStep (.record r) (.record r')

section Steps

variable {m : RemovalMutation} {i : String} {j j' : Stored}

/-- An issued mutation stays issued until it is rejected or observed. -/
theorem JournalStep.issued (h : JournalStep j j') (hj : At .issued m i j) :
    At .issued m i j' ∨ At .rejected m i j' ∨ At .observed m i j' := by
  cases h with
  | stay => exact .inl hj
  | opened => exact hj.elim
  | moved _ _ move =>
    obtain ⟨hphase, hm, hi⟩ := hj
    cases move with
    | issue free =>
      rw [hphase] at free
      rcases free with h | ⟨h, -⟩ | ⟨h, -⟩ <;> cases h
    | finish mutation issueID phase =>
      rcases phase with ⟨-, hr⟩ | ⟨-, ho⟩
      · exact .inr (.inl ⟨hr, mutation.trans hm, issueID.trans hi⟩)
      · exact .inr (.inr ⟨ho, mutation.trans hm, issueID.trans hi⟩)
    | archive _ _ before => rw [hphase] at before; cases before

/-- An observed mutation stays the current one until another is issued. -/
theorem JournalStep.observed (h : JournalStep j j') (hj : At .observed m i j) :
    At .observed m i j' ∨ Superseded m j' := by
  cases h with
  | stay => exact .inl hj
  | opened => exact hj.elim
  | moved _ _ move =>
    obtain ⟨hphase, hm, hi⟩ := hj
    cases move with
    | issue free =>
      rw [hphase] at free
      rcases free with h | ⟨h, -⟩ | ⟨-, hne⟩
      · cases h
      · cases h
      · exact .inr fun h => hne (hm.trans h.symm)
    | finish _ _ phase =>
      rw [hphase] at phase
      rcases phase with ⟨h, -⟩ | ⟨h | h, -⟩ <;> cases h
    | archive mutation issueID _ phase =>
      exact .inl ⟨phase, mutation.trans hm, issueID.trans hi⟩

/-- A floating-IP DELETE with a receipt keeps it, and is not issued. -/
def Settled (m : RemovalMutation) (i : String) (j : Stored) : Prop :=
  Holds m i j ∧ ∀ i', ¬ At .issued m i' j

/-- The history has no receipt of a mutation if `receipt` finds none. -/
theorem receipt_none {r : RemovalMutationRecord} (h : r.receipt m = none)
    {entry : ObservedFloatingIPDelete} (hmem : entry ∈ r.observedFloatingIPDeletes) :
    (observedFloatingIPDeleteFence entry).mutation ≠ m := by
  intro heq
  have hnone := List.find?_eq_none.1 h _ (List.mem_map_of_mem hmem)
  simp [heq] at hnone

theorem JournalStep.settled (h : JournalStep j j') (hop : m.operation = .floatingIPDelete)
    (hj : Settled m i j) : Settled m i j' := by
  obtain ⟨hholds, hunissued⟩ := hj
  cases h with
  | stay => exact ⟨hholds, hunissued⟩
  | opened => exact hholds.elim
  | moved _ _ move kept =>
    refine ⟨kept m i hop hholds, ?_⟩
    rintro _ ⟨hissued, hm, -⟩
    cases move with
    | issue free unheld =>
      -- a receipt of `m` stands in the way of issuing it
      rw [hm] at free unheld
      rcases hholds with ⟨hobserved, hmutation, -⟩ | ⟨_, hmem, hentry, -⟩
      · rw [hobserved] at free
        rcases free with h | ⟨h, -⟩ | ⟨-, hne⟩
        · cases h
        · cases h
        · exact hne hmutation
      · exact receipt_none (unheld hop) hmem hentry
    | finish _ _ phase =>
      rw [hissued] at phase
      rcases phase with ⟨-, h⟩ | ⟨-, h⟩ <;> cases h
    | archive _ _ _ phase => rw [hissued] at phase; cases phase

theorem settled_of_observed (hj : At .observed m i j) : Settled m i j := by
  cases j with
  | absent => exact hj.elim
  | malformed => exact hj.elim
  | record =>
    refine ⟨.inl hj, ?_⟩
    rintro _ ⟨hissued, -, -⟩
    rw [hj.1] at hissued
    cases hissued

end Steps

/-! ### Chains of steps -/

/-- A journal under the steps above, newest first. -/
abbrev Life (journals : List Stored) : Prop :=
  journals.IsChain fun newer older => JournalStep older newer

section Chains

variable {m m' : RemovalMutation} {i i' : String} {j j' : Stored} {between earlier : List Stored}

/-- Phases exclude each other. -/
theorem At.phase_eq {phase phase' : RemovalPhase} (h : At phase m i j) (h' : At phase' m' i' j) :
    phase = phase' ∧ m = m' ∧ i = i' := by
  cases j with
  | absent => exact h.elim
  | malformed => exact h.elim
  | record => exact ⟨h.1.symm.trans h'.1, h.2.1.symm.trans h'.2.1, h.2.2.symm.trans h'.2.2⟩

/-- Between two issues the first one is rejected or observed. -/
theorem issue_resolved (hlife : Life ((j' :: between) ++ j :: earlier)) (hj : At .issued m i j)
    (hj' : At .issued m' i' j') (hne : (m, i) ≠ (m', i')) :
    ∃ k ∈ between, At .rejected m i k ∨ At .observed m i k := by
  rcases isChain_until (fun _ _ hstep hk => hstep.issued hk) hlife hj with ⟨k, hk, hleave⟩ | hstay
  · rcases List.mem_cons.1 hk with rfl | hk
    · rcases hleave with h | h <;> cases (h.phase_eq hj').1
    · exact ⟨k, hk, hleave⟩
  · obtain ⟨-, rfl, rfl⟩ := (hstay j' List.mem_cons_self).phase_eq hj'
    exact absurd rfl hne

/-- Between two issues of the same mutation the first one is rejected or
superseded. -/
theorem issue_again (hlife : Life ((j' :: between) ++ j :: earlier)) (hj : At .issued m i j)
    (hj' : At .issued m i' j') (hne : i ≠ i') :
    ∃ k ∈ between, At .rejected m i k ∨ Superseded m k := by
  have hstep : ∀ k k', JournalStep k k' → (At .issued m i k ∨ At .observed m i k) →
      (At .issued m i k' ∨ At .observed m i k') ∨ (At .rejected m i k' ∨ Superseded m k') := by
    rintro _ _ hstep (hk | hk)
    · rcases hstep.issued hk with h | h | h
      · exact .inl (.inl h)
      · exact .inr (.inl h)
      · exact .inl (.inr h)
    · rcases hstep.observed hk with h | h
      · exact .inl (.inr h)
      · exact .inr (.inr h)
  rcases isChain_until hstep hlife (.inl hj) with ⟨k, hk, hleave⟩ | hstay
  · rcases List.mem_cons.1 hk with rfl | hk
    · rcases hleave with h | h
      · cases (h.phase_eq hj').1
      · cases k with
        | absent => exact h.elim
        | malformed => exact h.elim
        | record => exact absurd hj'.2.1 h
    · exact ⟨k, hk, hleave⟩
  · rcases hstay j' List.mem_cons_self with h | h
    · exact absurd (h.phase_eq hj').2.2 hne
    · cases (h.phase_eq hj').1

/-- Between two issues of the same floating-IP DELETE the first one is
rejected. -/
theorem delete_again (hop : m.operation = .floatingIPDelete)
    (hlife : Life ((j' :: between) ++ j :: earlier)) (hj : At .issued m i j)
    (hj' : At .issued m i' j') (hne : i ≠ i') : ∃ k ∈ between, At .rejected m i k := by
  have hstep : ∀ k k', JournalStep k k' → (At .issued m i k ∨ Settled m i k) →
      (At .issued m i k' ∨ Settled m i k') ∨ At .rejected m i k' := by
    rintro _ _ hstep (hk | hk)
    · rcases hstep.issued hk with h | h | h
      · exact .inl (.inl h)
      · exact .inr h
      · exact .inl (.inr (settled_of_observed h))
    · exact .inl (.inr (hstep.settled hop hk))
  rcases isChain_until hstep hlife (.inl hj) with ⟨k, hk, hleave⟩ | hstay
  · rcases List.mem_cons.1 hk with rfl | hk
    · cases (hleave.phase_eq hj').1
    · exact ⟨k, hk, hleave⟩
  · rcases hstay j' List.mem_cons_self with h | h
    · exact absurd (h.phase_eq hj').2.2 hne
    · exact absurd hj' (h.2 i')

/-- An observed floating-IP DELETE keeps its receipt and is not issued again. -/
theorem delete_settled (hop : m.operation = .floatingIPDelete)
    (hlife : Life ((j' :: between) ++ j :: earlier)) (hj : At .observed m i j) :
    Settled m i j' := by
  have hstep : ∀ k k', JournalStep k k' → Settled m i k → Settled m i k' ∨ False :=
    fun k k' hstep hk => .inl (hstep.settled hop hk)
  rcases isChain_until hstep hlife (settled_of_observed hj) with ⟨_, -, h⟩ | hstay
  · exact h.elim
  · exact hstay j' List.mem_cons_self

end Chains

/-! ### The API server -/

/-- The NodeClaim, the updates that are still under way, and the nonces that
have been drawn. -/
structure State where
  claim : Versioned NodeClaim
  pending : List NodeClaim
  drawn : List (String × Tid)

/-- The journals that have been stored, newest first. -/
def State.journals (s : State) : List Stored := s.claim.log.map NodeClaim.removalMutation

/-- The object is stored. -/
def State.store (s : State) (o : NodeClaim) : State :=
  { s with claim := s.claim.put claimStamp o }

/-- The update `copy` is one of the stored object. -/
def Fits (s : State) (copy : NodeClaim) : Prop :=
  ∃ current, s.claim.current = some current ∧ current.name = copy.name ∧
    current.uid = copy.uid ∧ current.resourceVersion = copy.resourceVersion

/-- The effect of a request.  Nonces do not repeat. -/
def exec (t : Tid) : (op : Op) → State → Reply op → State → Prop
  | .get name, s, r, s' =>
    s' = s ∧ ∀ o, r = .ok o → s.claim.current = some o ∧ o.name = name
  | .update copy, s, r, s' =>
    (Fits s copy ∧ s' = s.store copy) ∨
    (r ≠ none ∧ (s' = s ∨ s' = { s with pending := copy :: s.pending }))
  | .now, s, _, s' => s' = s
  | .nonce, s, r, s' =>
    match r with
    | .ok n => (∀ u, (n, u) ∉ s.drawn) ∧ s' = { s with drawn := (n, t) :: s.drawn }
    | .error _ => s' = s

/-- What happens without the replicas. -/
inductive Env : State → State → Prop
  /-- An update that was under way is applied. -/
  | deliver (s : State) (copy : NodeClaim) : copy ∈ s.pending → Fits s copy → Env s (s.store copy)
  /-- Somebody else edits the object, and may open the journal. -/
  | edit (s : State) (current o : NodeClaim) : s.claim.current = some current →
      o.removalMutation = current.removalMutation ∨ (current.removalMutation = .absent ∧
        ∃ binding token now,
          o.removalMutation = .record (newRemovalMutationReadyRecord binding token now)) →
      Env s (s.store o)
  /-- The object is gone. -/
  | remove (s : State) : Env s { s with claim := s.claim.drop }

/-- The system of replicas over this world. -/
def sem : Sem State Op Reply := ⟨exec, Env⟩

/-- One NodeClaim, with any journal, and nothing asked for yet. -/
def Initial (s : State) : Prop :=
  (∃ o, s.claim = ⟨[o], true⟩) ∧ s.pending = [] ∧ s.drawn = []

/-! ### Invocations -/

/-- Any operation of any replica. -/
def Calls (_ : Tid) (p : Prog Op Reply (Except Err Outcome)) : Prop :=
  ∃ s : JournalStore, ∃ call : Call, p = (call.code s).run

/-- The invocation has returned the authority for a mutation under an issue ID. -/
def Grants (r : Except Err Outcome) (mutation : RemovalMutation) (issueID : String) : Prop :=
  ∃ claim authorization, r = .ok (.authorized claim authorization) ∧
    authorization.allowMutation = true ∧ authorization.fence.mutation = mutation ∧
    authorization.fence.issueID = issueID

/-! ### The invariant -/

/-- `copy` is a step of the journal, planned from `o`. -/
structure Planned (o copy : NodeClaim) : Prop where
  version : copy.resourceVersion = o.resourceVersion
  step : JournalStep o.removalMutation copy.removalMutation

/-- The invariant of the shared state. -/
structure Inv (s : State) : Prop where
  ordered : s.claim.Ordered claimStamp
  life : s.claim.Chain fun o o' => JournalStep o.removalMutation o'.removalMutation
  pending : ∀ copy ∈ s.pending, ∃ o ∈ s.claim.log, Planned o copy
  drawn : ∀ n t u, (n, t) ∈ s.drawn → (n, u) ∈ s.drawn → t = u

/-- What a step does to the shared state: nothing that has been stored or drawn
is forgotten. -/
structure Grows (s s' : State) : Prop where
  log : s.claim.log ⊆ s'.claim.log
  drawn : s.drawn ⊆ s'.drawn

theorem Grows.refl (s : State) : Grows s s := ⟨List.Subset.refl _, List.Subset.refl _⟩

variable {s s' : State} {t : Tid} {tr : Trace Op Reply} {fence : RemovalMutationFence}
  {r r' record written : RemovalMutationRecord} {name : String} {terminal : RemovalPhase}

theorem Inv.life_journals (h : Inv s) : Life s.journals :=
  (List.isChain_map _).2 h.life

section Store

variable {s : State} {current o copy : NodeClaim}

theorem Grows.store : Grows s (s.store o) := ⟨List.subset_cons_self _ _, List.Subset.refl _⟩

/-- Storing a step of the journal keeps the invariant. -/
theorem Inv.store (h : Inv s) (hcur : s.claim.current = some current)
    (hstep : JournalStep current.removalMutation o.removalMutation) : Inv (s.store o) where
  ordered := h.ordered.put
  life := h.life.put hcur hstep
  pending := fun copy hcopy => by
    obtain ⟨o', ho', hplanned⟩ := h.pending copy hcopy
    exact ⟨o', List.mem_cons_of_mem _ ho', hplanned⟩
  drawn := h.drawn

/-- An update that fits was planned from the stored object. -/
theorem Inv.apply (h : Inv s) (ho : o ∈ s.claim.log) (hplanned : Planned o copy)
    (hfits : Fits s copy) : Inv (s.store copy) := by
  obtain ⟨current, hcur, -, -, hversion⟩ := hfits
  obtain rfl : current = o := h.ordered.current_eq hcur ho (hversion.trans hplanned.version)
  exact h.store hcur hplanned.step

end Store

theorem Inv.env (h : Inv s) (he : Env s s') : Inv s' ∧ Grows s s' := by
  cases he with
  | deliver copy hcopy hfits =>
    obtain ⟨o, ho, hplanned⟩ := h.pending copy hcopy
    exact ⟨h.apply ho hplanned hfits, .store⟩
  | edit _ _ hcur hjournal =>
    refine ⟨h.store hcur ?_, .store⟩
    rcases hjournal with heq | ⟨habsent, binding, token, now, hopened⟩
    · rw [heq]
      exact .stay _
    · rw [habsent, hopened]
      exact .opened binding token now
  | remove =>
    exact ⟨⟨h.ordered.drop, h.life.drop, h.pending, h.drawn⟩, fun _ ho => ho, fun _ hn => hn⟩

/-! ### The rules -/

/-- The rules of the replicas. -/
def rules : Rules State := ⟨Inv, fun _ => Grows, fun _ _ => True⟩

/-- An update is a step of the journal, planned from an object that was read. -/
def habit : Habit Op Reply where
  ok tr op := match op with
    | .update copy => ∃ o, Read o tr ∧ Planned o copy
    | _ => True
  rep _ _ := True

/-- What a reply tells for good. -/
def fact (t : Tid) : Event Op Reply → State → Prop
  | ⟨.get _, r⟩, s => ∀ o, r = .ok o → o ∈ s.claim.log
  | ⟨.update _, _⟩, _ => True
  | ⟨.now, _⟩, _ => True
  | ⟨.nonce, r⟩, s => ∀ n, r = .ok n → (n, t) ∈ s.drawn

theorem fact_grows {e : Event Op Reply} (hgrows : Grows s s') (h : fact t e s) : fact t e s' := by
  obtain ⟨op, r⟩ := e
  cases op with
  | get => exact fun o ho => hgrows.log (h o ho)
  | update => trivial
  | now => trivial
  | nonce => exact fun n hn => hgrows.drawn (h n hn)

theorem interfere_grows (h : rules.Interfere sem t s s') : Grows s s' := by
  obtain ⟨hinv, -, henv | ⟨u, -, hguar⟩⟩ := h
  · exact (Inv.env hinv henv).2
  · exact hguar

theorem read_fact {o : NodeClaim} (h : Read o tr)
    (hfacts : ∀ e ∈ tr, fact t e s) : o ∈ s.claim.log := by
  obtain ⟨_, hmem⟩ := h
  exact hfacts _ hmem o rfl

theorem drew_fact {n : String} (h : Drew n tr) (hfacts : ∀ e ∈ tr, fact t e s) : (n, t) ∈ s.drawn :=
  hfacts _ h n rfl

/-- One request: what it does to the shared state, and what its reply tells. -/
theorem exec_step {op : Op} {r : Reply op}
    (hok : habit.ok tr op) (hi : Inv s) (hfacts : ∀ e ∈ tr, fact t e s)
    (hexec : exec t op s r s') : Inv s' ∧ Grows s s' ∧ fact t ⟨op, r⟩ s' := by
  cases op with
  | get =>
    obtain ⟨rfl, hread⟩ := hexec
    exact ⟨hi, .refl _, fun o ho => Versioned.current_mem (hread o ho).1⟩
  | update =>
    obtain ⟨o, hread, hplanned⟩ := hok
    have ho := read_fact hread hfacts
    rcases hexec with ⟨hfits, rfl⟩ | ⟨-, rfl | rfl⟩
    · exact ⟨hi.apply ho hplanned hfits, .store, trivial⟩
    · exact ⟨hi, .refl _, trivial⟩
    · have hpending := List.forall_mem_cons.2 ⟨⟨o, ho, hplanned⟩, hi.pending⟩
      exact ⟨⟨hi.ordered, hi.life, hpending, hi.drawn⟩,
        ⟨List.Subset.refl _, List.Subset.refl _⟩, trivial⟩
  | now =>
    obtain rfl := hexec
    exact ⟨hi, .refl _, trivial⟩
  | nonce =>
    cases r with
    | error =>
      obtain rfl := hexec
      exact ⟨hi, .refl _, fun n hn => by cases hn⟩
    | ok n =>
      obtain ⟨hfresh, rfl⟩ := hexec
      refine ⟨⟨hi.ordered, hi.life, hi.pending, fun n' u v => drawn_once_cons_swap hi.drawn hfresh⟩,
        ⟨List.Subset.refl _, List.subset_cons_self _ _⟩, fun n' hn' => ?_⟩
      obtain rfl : n = n' := Except.ok.inj hn'
      exact List.mem_cons_self

theorem honours : rules.Honours sem habit fact where
  stable := fun _ _ _ _ h hstep => fact_grows (interfere_grows hstep) h
  step := fun t tr op s r s' hok hi hfacts hexec => by
    obtain ⟨hi', hgrows, hnew⟩ := exec_step hok hi hfacts hexec
    exact ⟨hi', hgrows, trivial, fun e he => fact_grows hgrows (hfacts e he), hnew⟩

/-! ### The code -/

variable {tr : Trace Op Reply}

/-- The receipt of a floating-IP DELETE is for that mutation. -/
theorem observedDelete_mutation {now : ℤ} (hop : fence.mutation.operation = .floatingIPDelete) :
    (observedFloatingIPDeleteFence (observedDelete fence now)).mutation = fence.mutation := by
  rcases hfence : fence.mutation with ⟨_, _, _, _, _, _⟩
  rw [hfence] at hop
  simp only at hop
  simp [observedFloatingIPDeleteFence, observedDelete, hfence, hop]

/-- `appendObservedFloatingIPDelete` adds to the history and changes nothing
else; the receipt it is given is in the history then. -/
theorem appendObserved_ok {now : ℤ} (h : appendObservedFloatingIPDelete r fence now = .ok r') :
    r' = { r with observedFloatingIPDeletes := r'.observedFloatingIPDeletes } ∧
    r.observedFloatingIPDeletes ⊆ r'.observedFloatingIPDeletes ∧
    (fence.mutation.operation = .floatingIPDelete → ∃ entry ∈ r'.observedFloatingIPDeletes,
      (observedFloatingIPDeleteFence entry).mutation = fence.mutation ∧
        entry.issueID = fence.issueID) := by
  unfold appendObservedFloatingIPDelete at h
  split at h
  next hop =>
    obtain rfl := Except.ok.inj h
    exact ⟨rfl, List.Subset.refl _, fun h => absurd h hop⟩
  split at h
  next current hcurrent =>
    split at h
    · cases h
    next hsame =>
    cases h
    refine ⟨rfl, List.Subset.refl _, fun _ => ?_⟩
    -- the receipt that is there already is the same one
    obtain ⟨entry, hmem, rfl⟩ := List.mem_map.1 (List.mem_of_find?_eq_some hcurrent)
    have hmutation := List.find?_some hcurrent
    exact ⟨entry, hmem, beq_iff_eq.1 hmutation, not_not.1 (not_or.1 hsame).1⟩
  · split at h
    · cases h
    cases h
    exact ⟨rfl, List.subset_append_left _ _, fun hop => ⟨observedDelete fence now,
      List.mem_append_right _ (List.mem_singleton.2 rfl), observedDelete_mutation hop, rfl⟩⟩

/-- Archiving loses no receipt: what the record holds is in the history then. -/
theorem archive_holds {m : RemovalMutation} {i : String}
    (h : archiveCurrentObservedFloatingIPDelete r = .ok r') (hop : m.operation = .floatingIPDelete)
    (hholds : Holds m i (.record r)) : ∃ entry ∈ r'.observedFloatingIPDeletes,
      (observedFloatingIPDeleteFence entry).mutation = m ∧ entry.issueID = i := by
  unfold archiveCurrentObservedFloatingIPDelete at h
  split at h
  next hnone =>
    obtain rfl := Except.ok.inj h
    rcases hholds with ⟨hphase, hm, -⟩ | hentry
    · rcases hnone with hne | hne
      · exact absurd hphase hne
      · exact absurd (hm ▸ hop) hne
    · exact hentry
  · obtain ⟨-, hsub, hnew⟩ := appendObserved_ok h
    rcases hholds with ⟨-, rfl, rfl⟩ | ⟨entry, hmem, hentry⟩
    · exact hnew hop
    · exact ⟨entry, hsub hmem, hentry⟩

/-- Where a mutation is to be issued, it is free and has no receipt. -/
theorem removalAnswer_none {desired : RemovalMutation} {present : Bool}
    (h : removalAnswer name record desired present = .ok none) :
    (record.phase = .ready ∨ (record.phase = .rejected ∧ record.mutation = desired) ∨
      (record.phase = .observed ∧ record.mutation ≠ desired)) ∧
    (desired.operation = .floatingIPDelete → record.receipt desired = none) := by
  unfold removalAnswer at h
  split at h
  · split at h <;> cases h
  next hhistory =>
  have hunheld : desired.operation = .floatingIPDelete → record.receipt desired = none := by
    intro hop
    rwa [historicalObservedFloatingIPDelete, if_neg (not_not.2 hop)] at hhistory
  refine ⟨?_, hunheld⟩
  split at h
  next hphase => exact .inl hphase
  · split at h
    · cases h
    · split at h <;> cases h
  next hphase =>
    split at h
    next hsame => exact .inr (.inl ⟨hphase, hsame⟩)
    · split at h <;> cases h
  next hphase =>
    split at h
    · split at h <;> cases h
    next hother => exact .inr (.inr ⟨hphase, hother⟩)
  · cases h

/-- A record that differs from `r` in its phase, its times and a longer history
keeps the receipts of the history; the current one it keeps if it is still
observed. -/
theorem holds_of_history
    (hsub : r.observedFloatingIPDeletes ⊆ r'.observedFloatingIPDeletes)
    (hcurrent : r.phase = .observed → r'.phase = .observed ∧ r'.mutation = r.mutation ∧
      r'.issueID = r.issueID) {m : RemovalMutation} {i : String} (h : Holds m i (.record r)) :
    Holds m i (.record r') := by
  rcases h with ⟨hphase, hm, hi⟩ | ⟨entry, hmem, hentry⟩
  · obtain ⟨hphase', hm', hi'⟩ := hcurrent hphase
    exact .inl ⟨hphase', hm'.trans hm, hi'.trans hi⟩
  · exact .inr ⟨entry, hsub hmem, hentry⟩

theorem finishedRemoval_ok (h : finishedRemoval name record fence terminal = .ok (some written)) :
    terminal = .observed ∧ appendObservedFloatingIPDelete record
      (removalMutationFenceFromRecord record) (record.observedAt.getD 0) = .ok written := by
  unfold finishedRemoval at h
  split at h
  · cases h
  next hterminal =>
  refine ⟨not_not.1 (not_or.1 hterminal).1, ?_⟩
  split at h
  · cases h
  split at h
  · cases h
  cases happend : appendObservedFloatingIPDelete record (removalMutationFenceFromRecord record)
      (record.observedAt.getD 0) with
  | error e => rw [happend] at h; cases h
  | ok r' =>
    rw [happend] at h
    exact congrArg _ (Option.some.inj (Except.ok.inj h))

theorem finishedRemoval_step (hphase : record.phase = terminal)
    (h : finishedRemoval name record fence terminal = .ok (some written)) :
    JournalStep (.record record) (.record written) := by
  obtain ⟨rfl, happend⟩ := finishedRemoval_ok h
  obtain ⟨heq, hsub, -⟩ := appendObserved_ok happend
  have hmutation : written.mutation = record.mutation := by rw [heq]
  have hissueID : written.issueID = record.issueID := by rw [heq]
  have hphase' : written.phase = .observed := by rw [heq]; exact hphase
  refine .moved _ _ (.archive hmutation hissueID hphase hphase') fun m i _ hholds => ?_
  exact holds_of_history hsub (fun _ => ⟨hphase', hmutation, hissueID⟩) hholds

theorem finishable_ok (h : finishable name record fence terminal = .ok ()) :
    (terminal = .rejected → record.phase = .issued) ∧
      (terminal = .observed → record.phase = .issued ∨ record.phase = .rejected) := by
  obtain ⟨_, hrejected, h⟩ := except_bind_ok h
  obtain ⟨_, hobserved, -⟩ := except_bind_ok h
  refine ⟨fun hterminal => ?_, fun hterminal => ?_⟩
  · by_contra hne
    exact failIf_ok hrejected ⟨hterminal, hne⟩
  · by_contra hne
    exact failIf_ok hobserved ⟨hterminal, not_or.1 hne⟩

theorem terminalRemoval_step {now : ℤ} (hterminal : terminal = .observed ∨ terminal = .rejected)
    (hfinishable : finishable name record fence terminal = .ok ())
    (h : terminalRemoval record terminal now = .ok written) :
    JournalStep (.record record) (.record written) := by
  obtain ⟨hrejected, hobserved⟩ := finishable_ok hfinishable
  unfold terminalRemoval at h
  rcases hterminal with rfl | rfl
  · -- observed: from issued or rejected, and into the history
    rw [if_pos rfl] at h
    obtain ⟨heq, hsub, -⟩ := appendObserved_ok h
    have hmutation : written.mutation = record.mutation := by rw [heq]
    have hissueID : written.issueID = record.issueID := by rw [heq]
    have hphase : written.phase = .observed := by rw [heq]
    refine .moved _ _ (.finish hmutation hissueID (.inr ⟨hobserved rfl, hphase⟩))
      fun m i _ hholds => ?_
    exact holds_of_history (r := record) hsub (fun _ => ⟨hphase, hmutation, hissueID⟩) hholds
  · rw [if_neg (by decide)] at h
    obtain rfl := Except.ok.inj h
    have hissued := hrejected rfl
    refine .moved _ _ (.finish rfl rfl (.inl ⟨hissued, rfl⟩)) fun m i _ hholds => ?_
    rcases hholds with ⟨hphase, -, -⟩ | hentry
    · rw [hissued] at hphase
      cases hphase
    · exact .inr hentry

/-- What an operation writes is a step of the journal it has read. -/
theorem Writes.step {current : NodeClaim} {call : Call} (h : Writes tr current call record) :
    JournalStep current.removalMutation (.record record) := by
  cases h with
  | opened absent =>
    rw [absent]
    exact .opened _ _ _
  | issued _ journal answer archive =>
    rw [decodeRemovalMutationRecord_eq journal]
    obtain ⟨hfree, hunheld⟩ := removalAnswer_none answer
    refine .moved _ _ (.issue hfree hunheld rfl) fun m i hop hholds => ?_
    obtain ⟨entry, hmem, hentry⟩ := archive_holds archive hop hholds
    exact .inr ⟨entry, hmem, hentry⟩
  | archived _ journal phase plan =>
    rw [decodeRemovalMutationRecord_eq journal]
    exact finishedRemoval_step phase plan
  | ended ends journal _ due _ plan =>
    rw [decodeRemovalMutationRecord_eq journal]
    exact terminalRemoval_step ends.terminal due plan

theorem habit_of_writing {call : Call} {op : Op}
    (h : (writing call).ok tr op) : habit.ok tr op := by
  cases op with
  | update =>
    obtain ⟨current, _, hread, rfl, hwrites⟩ := h
    exact ⟨current, hread, rfl, hwrites.step⟩
  | get => trivial
  | now => trivial
  | nonce => trivial

/-! ### The whole system -/

/-- What the shared state shows of an invocation that has returned. -/
def Left (t : Tid) (r : Except Err Outcome) (s : State) : Prop :=
  ∀ m i, Grants r m i → (i, t) ∈ s.drawn ∧ ∃ j ∈ s.journals, At .issued m i j

theorem left_of_learnt {r : Except Err Outcome} (hlearnt : Learnt r tr)
    (hfacts : ∀ e ∈ tr, fact t e s) : Left t r s := by
  rintro m i ⟨claim, authorization, hr, hallow, rfl, rfl⟩
  obtain ⟨hdrew, o, hread, hissued⟩ := hlearnt claim authorization hr hallow
  exact ⟨drew_fact hdrew hfacts, _, List.mem_map_of_mem (read_fact hread hfacts), hissued⟩

theorem left_grows {r : Except Err Outcome} (h : Left t r s)
    (hgrows : Grows s s') : Left t r s' := by
  intro m i hgrants
  obtain ⟨hdrawn, j, hj, hissued⟩ := h m i hgrants
  exact ⟨hgrows.drawn hdrawn, j, List.map_subset _ hgrows.log hj, hissued⟩

/-- The replicas keep their rules. -/
theorem verified : rules.Verified sem Calls Initial Left where
  init := by
    rintro s ⟨⟨o, ho⟩, hpending, hdrawn⟩
    refine ⟨⟨?_, ?_, ?_, ?_⟩, fun _ => trivial⟩
    · rw [ho]
      exact List.pairwise_singleton _ _
    · rw [ho]
      exact List.isChain_singleton _
    · intro _ hcopy
      rw [hpending] at hcopy
      cases hcopy
    · intro n t u hn
      rw [hdrawn] at hn
      cases hn
  env := fun _ _ hi he => (Inv.env hi he).1
  fresh := fun _ _ _ _ _ => trivial
  stable := fun _ _ _ _ h hstep => left_grows h (interfere_grows hstep)
  start := by
    rintro t p s ⟨store, call, rfl⟩ hi -
    have hcode : habit.Follows (call.code store).run [] Learnt :=
      (call_follows.run (fun _ _ h => h) fun _ _ _ _ h => by cases h).weaken
        (fun _ _ => habit_of_writing) fun _ _ _ => trivial
    refine wp_mono (fun r s hr => ?_) (wp_of_follows honours hcode hi fun e he => by cases he)
    obtain ⟨_, hlearnt, hfacts⟩ := hr
    exact left_of_learnt hlearnt hfacts

/-- Every step of the system forgets nothing. -/
theorem step_grows {c c' : Config State Op Reply (Except Err Outcome)}
    (h : Reachable sem Calls Initial c) (hstep : Step sem Calls c c') :
    Grows c.shared c'.shared := by
  rcases sound_step verified h hstep with heq | henv | ⟨_, hguar⟩
  · rw [heq]
    exact .refl _
  · exact (Inv.env (sound verified h) henv).2
  · exact hguar

theorem drawn_run {c c' : Config State Op Reply (Except Err Outcome)}
    (h : Reachable sem Calls Initial c) (hrun : ReflTransGen (Step sem Calls) c c') :
    c.shared.drawn ⊆ c'.shared.drawn := by
  induction hrun with
  | refl => exact List.Subset.refl _
  | tail hrun hstep ih => exact List.Subset.trans ih (step_grows (h.run hrun) hstep).drawn

/-- The journal `j'` was stored after `j`, with `between` in between. -/
def Since (journals : List Stored) (j : Stored) (between : List Stored) (j' : Stored) : Prop :=
  ∃ later earlier, journals = later ++ ((j' :: between) ++ j :: earlier)

/-- A server that answers at once, with the time and the nonce given. -/
def answer (t : Tid) (now : ℤ) (nonce : String) : (op : Op) → State → Option (Reply op × State)
  | .get name, s =>
    match s.claim.current with
    | some o => if o.name = name then some (.ok o, s) else none
    | none => none
  | .update copy, s =>
    match s.claim.current with
    | some o =>
      if o.name = copy.name ∧ o.uid = copy.uid ∧ o.resourceVersion = copy.resourceVersion then
        some (none, s.store copy)
      else none
    | none => none
  | .now, s => some (now, s)
  | .nonce, s =>
    if s.drawn.all fun p => p.1 != nonce then
      some (.ok nonce, { s with drawn := (nonce, t) :: s.drawn })
    else none

theorem answer_sound (t : Tid) (now : ℤ) (nonce : String) (op : Op) (s : State) (r : Reply op)
    (s' : State) (h : answer t now nonce op s = some (r, s')) : exec t op s r s' := by
  cases op with
  | get =>
    simp only [answer] at h
    split at h
    next o ho =>
      split at h
      next hname =>
        obtain ⟨rfl, rfl⟩ := Prod.mk.inj (Option.some.inj h)
        exact ⟨rfl, fun o' ho' => Except.ok.inj ho' ▸ ⟨ho, hname⟩⟩
      · cases h
    · cases h
  | update =>
    simp only [answer] at h
    split at h
    next o ho =>
      split at h
      next hfits =>
        obtain ⟨rfl, rfl⟩ := Prod.mk.inj (Option.some.inj h)
        exact .inl ⟨⟨o, ho, hfits⟩, rfl⟩
      · cases h
    · cases h
  | now =>
    obtain ⟨-, rfl⟩ := Prod.mk.inj (Option.some.inj h)
    rfl
  | nonce =>
    simp only [answer] at h
    split at h
    next hfresh =>
      obtain ⟨rfl, rfl⟩ := Prod.mk.inj (Option.some.inj h)
      refine ⟨fun u hu => ?_, rfl⟩
      have hne := List.all_eq_true.1 hfresh _ hu
      simp at hne
    · cases h

/-- The driver with these answers. -/
def server (t : Tid) (now : ℤ) (nonce : String) : sem.Driver t :=
  ⟨answer t now nonce, answer_sound t now nonce⟩

/-- A server whose replies to reads are lost. -/
def unreachable (t : Tid) : sem.Driver t where
  answer op s := match op with
    | .get _ => some (.error (.new "connection lost"), s)
    | _ => none
  sound op s r s' h := by
    cases op with
    | get =>
      obtain ⟨rfl, rfl⟩ := Prod.mk.inj (Option.some.inj h)
      exact ⟨rfl, fun o ho => by cases ho⟩
    | update => cases h
    | now => cases h
    | nonce => cases h

def workerStore : JournalStore := { sha256 := id, encodedBytes := fun _ => 0 }

/-- The floating-IP DELETE of the runs. -/
def workerDelete : RemovalMutation :=
  { operation := .floatingIPDelete, location := "bkk01",
    vmUUID := "0a000000-0000-4000-8000-000000000001", address := "203.0.113.7",
    name := "worker-ip", billingAccountID := 1 }

/-- The NodeClaim of the runs has a reserved fence and a ready journal. -/
def workerState : State := { claim := ⟨[fencedWorker], true⟩, pending := [], drawn := [] }

def workerIssue : String := "0123456789abcdef0123456789abcdef"

/-- The replica that is to delete the address. -/
def authorizeDelete : Prog Op Reply (Except Err Outcome) :=
  ((Call.authorize fencedWorker workerBinding "token" workerDelete true).code workerStore).run

theorem authorizeDelete_calls : Calls 0 authorizeDelete := ⟨workerStore, _, rfl⟩

theorem initial_workerState : Initial workerState := ⟨⟨fencedWorker, rfl⟩, rfl, rfl⟩

/-- The authorization succeeds at once. -/
def grantedRun : State × Prog Op Reply (Except Err Outcome) :=
  (server 0 5 workerIssue).drive 5 workerState authorizeDelete

/-- What a thread has returned grants the DELETE, or grants nothing. -/
def returned (allowed : Bool) : Prog Op Reply (Except Err Outcome) → Bool
  | .ret (.ok (.authorized _ authorization)) =>
    authorization.allowMutation == allowed && authorization.fence.mutation == workerDelete &&
      authorization.fence.issueID == workerIssue
  | _ => false

theorem grantedRun_returned : returned true grantedRun.2 = true := by decide +kernel

theorem returned_ret {allowed : Bool} {p : Prog Op Reply (Except Err Outcome)}
    (h : returned allowed p = true) : ∃ claim authorization,
      p = .ret (.ok (.authorized claim authorization)) ∧ authorization.allowMutation = allowed ∧
      authorization.fence.mutation = workerDelete ∧ authorization.fence.issueID = workerIssue := by
  unfold returned at h
  split at h
  next claim authorization =>
    simp only [Bool.and_eq_true, beq_iff_eq] at h
    exact ⟨claim, authorization, rfl, h.1.1, h.1.2, h.2⟩
  · cases h

/-- The same invocation, but the read-back after its update is lost. -/
def issuedRun : State × Prog Op Reply (Except Err Outcome) :=
  (server 0 5 workerIssue).drive 4 workerState authorizeDelete

def lostRun : State × Prog Op Reply (Except Err Outcome) :=
  (unreachable 0).drive 1 issuedRun.1 issuedRun.2

/-- Its next round finds its own receipt and returns without the authority. -/
def ungrantedRun : State × Prog Op Reply (Except Err Outcome) :=
  (server 0 5 workerIssue).drive 1 lostRun.1 lostRun.2

/-- The journal has the DELETE issued, and the invocation has drawn its issue ID. -/
def issuedIn (s : State) : Bool :=
  (s.journals.any fun j => match j with
    | .record r => r.phase == .issued && r.mutation == workerDelete && r.issueID == workerIssue
    | _ => false) && s.drawn.contains (workerIssue, 0)

theorem ungrantedRun_returned :
    (returned false ungrantedRun.2 && issuedIn ungrantedRun.1) = true := by decide +kernel

theorem issuedIn_at (h : issuedIn s = true) :
    (∃ j ∈ s.journals, At .issued workerDelete workerIssue j) ∧ (workerIssue, 0) ∈ s.drawn := by
  obtain ⟨hjournal, hdrawn⟩ := Bool.and_eq_true_iff.1 h
  refine ⟨?_, List.contains_iff_mem.1 hdrawn⟩
  obtain ⟨j, hj, hissued⟩ := List.any_eq_true.1 hjournal
  refine ⟨j, hj, ?_⟩
  cases j with
  | absent => cases hissued
  | malformed => cases hissued
  | record =>
    simp only [Bool.and_eq_true, beq_iff_eq] at hissued
    exact ⟨hissued.1.1, hissued.1.2, hissued.2⟩

end InSpaceKube.Karpenter.Journal
