/-
InSpaceKube/Karpenter/IssueOnce.lean

Whatever the replicas do and however their operations interleave, a
NodeClaim's create attempt is authorized at most once, and its fence only
moves forward.

What carries the proof is the compare-and-swap.  An operation knows the object
it has read for as long as the object's version stands (`Seen`): every write
takes a version of its own, so an update that is applied, at once or late,
meets exactly the object its new record was planned from.  `Writes` says what
the operations plan; from there on the argument is about single steps of the
stored object (`ClaimStep`), and the authority is counted by the ghost list of
those updates that moved a fence from reserved to issued.
-/
import InSpaceKube.Karpenter.System

namespace InSpaceKube.Karpenter

open Prog Relation Rules

/-! ### Steps of a fence -/

/-- One step of the phase; `none` is a NodeClaim without a record. -/
inductive PhaseStep : Option Phase → Option Phase → Prop
  | stay (p : Option Phase) : PhaseStep p p
  | reserve : PhaseStep none (some .reserved)
  | issue : PhaseStep (some .reserved) (some .issued)
  | reject : PhaseStep (some .issued) (some .rejected)
  | materialize : PhaseStep (some .issued) (some .materialized)

/-- One step of a fence. -/
structure FenceStep (a a' : AnnotationValue CreateFenceRecord) : Prop where
  phase : PhaseStep a.phase a'.phase
  issueID : a.issueID ≠ "" → a'.issueID = a.issueID
  createdVMUUID : a.createdVMUUID ≠ "" → a'.createdVMUUID = a.createdVMUUID
  rollback : a.rollbackChosen → a'.rollbackChosen ∧ a'.phase = a.phase
  materialized : a.phase = some .materialized → a'.rollbackChosen = a.rollbackChosen

/-- Any number of steps of a fence. -/
structure FenceLater (a a' : AnnotationValue CreateFenceRecord) : Prop where
  phase : ReflTransGen PhaseStep a.phase a'.phase
  issueID : a.issueID ≠ "" → a'.issueID = a.issueID
  createdVMUUID : a.createdVMUUID ≠ "" → a'.createdVMUUID = a.createdVMUUID
  rollback : a.rollbackChosen → a'.rollbackChosen ∧ a'.phase = a.phase
  materialized : a.phase = some .materialized →
    a'.phase = some .materialized ∧ a'.rollbackChosen = a.rollbackChosen

/-- One step of a NodeClaim: a step of its fence, or its fence is gone with the
NodeClaim being deleted, and then it stays gone. -/
structure ClaimStep (o o' : NodeClaim) : Prop where
  uid : o'.uid = o.uid
  deleting : o.deleting → o'.deleting
  fence : FenceStep o.createFence o'.createFence ∨ (o'.deleting ∧ o'.createFence.phase = none)
  gone : o.deleting → o.createFence.phase = none → o'.createFence.phase = none

/-- Any number of steps of a NodeClaim. -/
structure ClaimLater (o o' : NodeClaim) : Prop where
  uid : o'.uid = o.uid
  deleting : o.deleting → o'.deleting
  fence : FenceLater o.createFence o'.createFence ∨ (o'.deleting ∧ o'.createFence.phase = none)
  gone : o.deleting → o.createFence.phase = none → o'.createFence.phase = none

section Steps

variable {a a' a'' : AnnotationValue CreateFenceRecord} {o o' o'' : NodeClaim}

theorem SameCore.step (h : SameCore a a') : FenceStep a a' where
  phase := by rw [h.phase]; exact .stay _
  issueID := fun _ => h.issueID
  createdVMUUID := fun _ => h.createdVMUUID
  rollback := fun hr => ⟨by rw [h.rollbackChosen]; exact hr, h.phase⟩
  materialized := fun _ => h.rollbackChosen

theorem SameCore.refl (a : AnnotationValue CreateFenceRecord) : SameCore a a := ⟨rfl, rfl, rfl, rfl⟩

theorem ClaimStep.refl (o : NodeClaim) : ClaimStep o o :=
  ⟨rfl, id, .inl (SameCore.refl _).step, fun _ h => h⟩

/-- Nothing leads away from materialized. -/
theorem PhaseStep.of_materialized {p : Option Phase} (h : PhaseStep (some .materialized) p) :
    p = some .materialized := by
  cases h with
  | stay => rfl

theorem FenceLater.refl (a : AnnotationValue CreateFenceRecord) : FenceLater a a :=
  ⟨.refl, fun _ => rfl, fun _ => rfl, fun h => ⟨h, rfl⟩, fun h => ⟨h, rfl⟩⟩

theorem FenceLater.tail (h : FenceLater a a') (hs : FenceStep a' a'') : FenceLater a a'' where
  phase := h.phase.tail hs.phase
  issueID := by
    intro hne
    have heq := h.issueID hne
    rw [← heq] at hne ⊢
    exact hs.issueID hne
  createdVMUUID := by
    intro hne
    have heq := h.createdVMUUID hne
    rw [← heq] at hne ⊢
    exact hs.createdVMUUID hne
  rollback := by
    intro hr
    obtain ⟨hr', hp⟩ := h.rollback hr
    obtain ⟨hr'', hp'⟩ := hs.rollback hr'
    exact ⟨hr'', hp'.trans hp⟩
  materialized := by
    intro hm
    obtain ⟨hm', hr⟩ := h.materialized hm
    have hstep := hs.phase
    rw [hm'] at hstep
    exact ⟨hstep.of_materialized, (hs.materialized hm').trans hr⟩

theorem ClaimLater.refl (o : NodeClaim) : ClaimLater o o :=
  ⟨rfl, id, .inl (.refl _), fun _ h => h⟩

theorem ClaimLater.tail (h : ClaimLater o o') (hs : ClaimStep o' o'') : ClaimLater o o'' where
  uid := hs.uid.trans h.uid
  deleting := fun hd => hs.deleting (h.deleting hd)
  fence := by
    rcases h.fence with hf | ⟨hd, hn⟩
    · rcases hs.fence with hf' | hgone
      · exact .inl (hf.tail hf')
      · exact .inr hgone
    · exact .inr ⟨hs.deleting hd, hs.gone hd hn⟩
  gone := fun hd hn => hs.gone (h.deleting hd) (h.gone hd hn)

end Steps

/-! ### What the operations write -/

/-- The create attempt of this fence has been issued. -/
def Begun (a : AnnotationValue CreateFenceRecord) : Prop :=
  a.phase = some .issued ∨ a.phase = some .rejected ∨ a.phase = some .materialized

/-- `copy` is what an operation may plan from `current`.  Before the attempt is
issued it writes only on a NodeClaim that is not being deleted. -/
structure Writes (current copy : NodeClaim) : Prop where
  name : copy.name = current.name
  uid : copy.uid = current.uid
  resourceVersion : copy.resourceVersion = current.resourceVersion
  deleting : copy.deleting = current.deleting
  fence : FenceStep current.createFence copy.createFence
  live : current.deleting = true → Begun current.createFence

theorem Begun.step {a a' : AnnotationValue CreateFenceRecord} (h : Begun a) (hs : FenceStep a a') :
    Begun a' := by
  have hp := hs.phase
  unfold Begun at h ⊢
  generalize a'.phase = p at hp
  rcases h with h | h | h <;> rw [h] at hp <;> cases hp <;> simp

theorem Begun.ne_none {a : AnnotationValue CreateFenceRecord} (h : Begun a) : a.phase ≠ none := by
  rcases h with h | h | h <;> simp [h]

theorem Begun.ne_reserved {a : AnnotationValue CreateFenceRecord} (h : Begun a) :
    a.phase ≠ some .reserved := by
  rcases h with h | h | h <;> simp [h]

theorem Writes.step {current copy : NodeClaim} (h : Writes current copy) :
    ClaimStep current copy where
  uid := h.uid
  deleting := by rw [h.deleting]; exact id
  fence := .inl h.fence
  gone := fun hd hn => absurd hn (h.live hd).ne_none

/-! ### The invariant -/

/-- The invariant of the shared state. -/
structure Inv (s : State) : Prop where
  object : ∀ o, s.object = some o → o.resourceVersion ≤ s.revision ∧ o.uid ∈ s.used
  pending : ∀ t copy, (t, copy) ∈ s.pending → copy.resourceVersion ≤ s.revision ∧
    ∀ current, s.object = some current → Fits current copy → Writes current copy
  used : ∀ u t, (u, t) ∈ s.issued → u ∈ s.used
  once : ∀ u t t', (u, t) ∈ s.issued → (u, t') ∈ s.issued → t = t'
  begun : ∀ o t, s.object = some o → (o.uid, t) ∈ s.issued → o.deleting ∨ Begun o.createFence

/-- What a step does to the shared state.  A stored object takes a version
that nobody has seen. -/
structure Advance (s s' : State) : Prop where
  revision : s.revision ≤ s'.revision
  object : s'.object = s.object ∨ ∀ o', s'.object = some o' → s.revision < o'.resourceVersion
  used : ∀ u ∈ s.used, u ∈ s'.used
  issued : ∀ p ∈ s.issued, p ∈ s'.issued
  claim : ∀ o', s'.object = some o' → o'.uid ∈ s.used → ∃ o, s.object = some o ∧ ClaimStep o o'

theorem Advance.same {s s' : State} (hobject : s'.object = s.object)
    (hrevision : s'.revision = s.revision) (hused : s'.used = s.used)
    (hissued : s'.issued = s.issued) : Advance s s' where
  revision := hrevision.ge
  object := .inl hobject
  used := fun u hu => by rw [hused]; exact hu
  issued := fun p hp => by rw [hissued]; exact hp
  claim := fun o' ho' _ => ⟨o', by rw [← hobject, ho'], .refl o'⟩

theorem Advance.refl (s : State) : Advance s s := .same rfl rfl rfl rfl

section Store

variable {s : State} {current copy : NodeClaim} {t : Tid}

/-- Storing an object that is a step of the stored one. -/
theorem Advance.store (hcur : s.object = some current) (hstep : ClaimStep current copy) :
    Advance s (s.store copy) where
  revision := Nat.le_succ _
  object := .inr fun o' ho' => by
    obtain rfl : _ = o' := Option.some.inj ho'
    exact Nat.lt_succ_self _
  used := fun _ hu => hu
  issued := fun _ hp => hp
  claim := fun o' ho' _ => by
    obtain rfl : _ = o' := Option.some.inj ho'
    exact ⟨current, hcur, hstep.uid, hstep.deleting, hstep.fence, hstep.gone⟩

theorem Advance.apply (hcur : s.object = some current) (hstep : ClaimStep current copy) :
    Advance s (s.apply t current copy) where
  revision := (Advance.store hcur hstep).revision
  object := (Advance.store hcur hstep).object
  used := (Advance.store hcur hstep).used
  issued := by
    intro p hp
    show p ∈ if issues current copy then (copy.uid, t) :: s.issued else s.issued
    split
    · exact List.mem_cons_of_mem _ hp
    · exact hp
  claim := (Advance.store hcur hstep).claim

/-- A step of the stored object keeps the invariant; `Begun` survives it or
the NodeClaim is being deleted. -/
theorem Inv.store (h : Inv s) (hcur : s.object = some current) (hstep : ClaimStep current copy) :
    Inv (s.store copy) where
  object := fun o ho => by
    obtain rfl : _ = o := Option.some.inj ho
    refine ⟨le_refl _, ?_⟩
    show copy.uid ∈ s.used
    rw [hstep.uid]
    exact (h.object current hcur).2
  pending := fun u p hp => by
    obtain ⟨hle, _⟩ := h.pending u p hp
    refine ⟨hle.trans (Nat.le_succ _), fun o ho hfits => ?_⟩
    obtain rfl : _ = o := Option.some.inj ho
    -- no pending update has seen the version just taken
    have hversion : s.revision + 1 = p.resourceVersion := hfits.2.2
    omega
  used := h.used
  once := h.once
  begun := fun o u ho hu => by
    obtain rfl : _ = o := Option.some.inj ho
    have hu' : (current.uid, u) ∈ s.issued := by rw [← hstep.uid]; exact hu
    rcases h.begun current u hcur hu' with hd | hb
    · exact .inl (hstep.deleting hd)
    · rcases hstep.fence with hf | ⟨hd, _⟩
      · exact .inr (hb.step hf)
      · exact .inl hd

/-- An update that issues the attempt is the first to do so. -/
theorem Inv.not_issued (h : Inv s) (hcur : s.object = some current) (hw : Writes current copy)
    (hissues : issues current copy = true) (u : Tid) : (copy.uid, u) ∉ s.issued := by
  intro hu
  have hreserved : current.createFence.phase = some .reserved := by
    simp only [issues, Bool.and_eq_true, beq_iff_eq] at hissues
    exact hissues.1
  rw [hw.uid] at hu
  rcases h.begun current u hcur hu with hd | hb
  · exact (hw.live hd).ne_reserved hreserved
  · exact hb.ne_reserved hreserved

theorem issues_begun (hissues : issues current copy = true) : Begun copy.createFence := by
  simp only [issues, Bool.and_eq_true, beq_iff_eq] at hissues
  exact .inl hissues.2

theorem Inv.apply (h : Inv s) (hcur : s.object = some current) (hw : Writes current copy) :
    Inv (s.apply t current copy) := by
  have hstore := h.store hcur hw.step
  by_cases hissues : issues current copy = true
  · have hnew := h.not_issued hcur hw hissues
    have hlist : (s.apply t current copy).issued = (copy.uid, t) :: s.issued := if_pos hissues
    refine ⟨hstore.object, hstore.pending, ?_, ?_, ?_⟩
    · intro u u' hu
      rw [hlist, List.mem_cons] at hu
      rcases hu with heq | hu
      · obtain ⟨rfl, -⟩ := Prod.mk.inj heq
        rw [hw.uid]
        exact (h.object current hcur).2
      · exact h.used u u' hu
    · rw [hlist]
      exact fun u u₁ u₂ => drawn_once_cons_swap h.once hnew
    · intro o u ho _
      obtain rfl : _ = o := Option.some.inj ho
      exact .inr (issues_begun hissues)
  · have hlist : (s.apply t current copy).issued = s.issued := if_neg hissues
    exact ⟨hstore.object, hstore.pending, fun u u' hu => h.used u u' (hlist ▸ hu),
      fun u u₁ u₂ h₁ h₂ => h.once u u₁ u₂ (hlist ▸ h₁) (hlist ▸ h₂),
      fun o u ho hu => hstore.begun o u ho (hlist ▸ hu)⟩

end Store

/-- What happens without the stores keeps the invariant. -/
theorem Inv.env {s s' : State} (h : Inv s) (he : Env s s') : Inv s' ∧ Advance s s' := by
  cases he with
  | deliver t current copy hmem hcur hfits =>
    have hw := (h.pending t copy hmem).2 current hcur hfits
    exact ⟨h.apply hcur hw, .apply hcur hw.step⟩
  | edit current o hcur _ huid hdeleting hfence =>
    have hstep : ClaimStep current o := by
      refine ⟨huid, hdeleting, ?_, ?_⟩
      · rcases hfence with hcore | ⟨hd, habsent⟩
        · exact .inl hcore.step
        · exact .inr ⟨hd, by rw [habsent]; rfl⟩
      · intro _ hnone
        rcases hfence with hcore | ⟨_, habsent⟩
        · rw [hcore.phase, hnone]
        · rw [habsent]; rfl
    exact ⟨h.store hcur hstep, .store hcur hstep⟩
  | remove =>
    refine ⟨⟨?_, ?_, h.used, h.once, ?_⟩, ⟨Nat.le_succ _, .inr ?_, fun _ hu => hu, fun _ hp => hp, ?_⟩⟩
    · intro o ho; cases ho
    · exact fun t p hp => ⟨(h.pending t p hp).1.trans (Nat.le_succ _), fun o ho => by cases ho⟩
    · intro o t ho; cases ho
    · intro o ho; cases ho
    · intro o ho; cases ho
  | create o hnone hfresh =>
    refine ⟨⟨?_, ?_, ?_, h.once, ?_⟩, ⟨Nat.le_succ _, .inr ?_, ?_, fun _ hp => hp, ?_⟩⟩
    · intro o' ho'
      obtain rfl : _ = o' := Option.some.inj ho'
      exact ⟨le_refl _, .head _⟩
    · intro t p hp
      have hle := (h.pending t p hp).1
      refine ⟨hle.trans (Nat.le_succ _), fun o' ho' hfits => ?_⟩
      obtain rfl : _ = o' := Option.some.inj ho'
      have hversion : s.revision + 1 = p.resourceVersion := hfits.2.2
      omega
    · exact fun u t hu => .tail _ (h.used u t hu)
    · intro o' t ho' hu
      obtain rfl : _ = o' := Option.some.inj ho'
      exact absurd (h.used _ t hu) hfresh
    · intro o' ho'
      obtain rfl : _ = o' := Option.some.inj ho'
      exact Nat.lt_succ_self _
    · exact fun u hu => .tail _ hu
    · intro o' ho' hu
      obtain rfl : _ = o' := Option.some.inj ho'
      exact absurd hu hfresh

/-! ### Reading the record -/

section Parse

variable {sha256 : String → String} {value : AnnotationValue CreateFenceRecord}
  {binding : CreateFenceBinding} {record : CreateFenceRecord}

theorem upgradeCreateFence_core (raw : CreateFenceRecord) :
    SameCore (.record raw) (.record (upgradeCreateFence sha256 raw)) := by
  unfold upgradeCreateFence
  split
  · exact ⟨rfl, rfl, rfl, rfl⟩
  · exact .refl _

theorem validateCreateFence_phase (h : validateCreateFence record = .ok ()) :
    validPhase record = true := by
  obtain ⟨_, hidentity, -⟩ := except_bind_ok h
  simpa using (not_or.1 (not_or.1 (failIf_ok hidentity)).2).1

/-- A record that is read has the core of the stored one, and is valid in its phase. -/
theorem parseCreateFence_ok (h : parseCreateFence sha256 value binding = .ok record) :
    SameCore value (.record record) ∧ validPhase record = true := by
  obtain ⟨decoded, hdecode, h⟩ := except_bind_ok h
  obtain ⟨_, -, h⟩ := except_bind_ok h
  obtain rfl : decoded = record := Except.ok.inj h
  cases value with
  | absent => cases hdecode
  | malformed => cases hdecode
  | record raw =>
    obtain ⟨_, hvalid, hupgrade⟩ := except_bind_ok hdecode
    obtain rfl : upgradeCreateFence sha256 raw = decoded := Except.ok.inj hupgrade
    exact ⟨upgradeCreateFence_core raw, validateCreateFence_phase hvalid⟩

end Parse

/-! ### The rules -/

/-- The rules of the replicas: every step is an `Advance`. -/
def rules : Rules State := ⟨Inv, fun _ => Advance, fun _ _ => True⟩

/-- An operation has read `o`: as long as its version stands, so does it. -/
def Seen (o : NodeClaim) (s : State) : Prop :=
  o.resourceVersion ≤ s.revision ∧
    ∀ current, s.object = some current → current.resourceVersion = o.resourceVersion → current = o

variable {t : Tid} {P : State → Prop} {E : Err → State → Prop} {s : Store}
  {claim current : NodeClaim} {binding : CreateFenceBinding} {token issueID vmUUID : String}

theorem interfere_advance {s s' : State} (h : rules.Interfere sem t s s') : Advance s s' := by
  obtain ⟨hinv, -, henv | ⟨u, -, hguar⟩⟩ := h
  · exact (Inv.env hinv henv).2
  · exact hguar

theorem stable_seen {o : NodeClaim} : rules.Stable sem t (Seen o) := by
  rintro _ _ ⟨hle, hsame⟩ hstep
  have hadv := interfere_advance hstep
  refine ⟨hle.trans hadv.revision, fun current hcur hversion => ?_⟩
  rcases hadv.object with heq | hnew
  · exact hsame current (by rw [← heq, hcur]) hversion
  · -- the object has been stored since, under a later version
    have hlt := hnew current hcur
    omega

theorem stable_issued (p : String × Tid) : rules.Stable sem t fun s => p ∈ s.issued :=
  fun _ _ hp hstep => (interfere_advance hstep).issued p hp

/-- A request that touches nothing. -/
theorem pure_request {op : Op} (hop : ∀ s r s', exec t op s r s' → s' = s)
    (hP : rules.Stable sem t P) : rules.TripleE sem t P (call op) (fun _ => P) E := by
  refine .perform hP fun s r s' hi hp hexec => ?_
  obtain rfl := hop s r s' hexec
  exact ⟨hi, .refl _, hp⟩

theorem now_triple (hP : rules.Stable sem t P) : rules.TripleE sem t P (call .now) (fun _ => P) E :=
  pure_request (fun _ _ _ h => h) hP

theorem nonce_triple (hP : rules.Stable sem t P) :
    rules.TripleE sem t P (call .nonce) (fun _ => P) E :=
  pure_request (fun _ _ _ h => h) hP

/-- What a read shows has been seen. -/
theorem get_triple (hP : rules.Stable sem t P) {name : String} :
    rules.TripleE sem t P (call (.get name)) (fun r s => P s ∧ ∀ o, r = .ok o → Seen o s) E := by
  refine .perform hP fun s r s' hi hp hexec => ?_
  obtain ⟨rfl, hread⟩ := hexec
  refine ⟨hi, .refl _, hp, fun o hr => ?_⟩
  obtain ⟨hobject, -⟩ := hread o hr
  refine ⟨(Inv.object hi o hobject).1, fun current hcur _ => ?_⟩
  exact Option.some.inj (hcur.symm.trans hobject)

/-- An update planned from what has been seen.  Without an error it has been
applied, by this thread. -/
theorem update_triple {current copy : NodeClaim} (hw : Writes current copy) :
    rules.TripleE sem t (Seen current) (call (.update copy))
      (fun r s => r = none → issues current copy = true → (copy.uid, t) ∈ s.issued) E := by
  refine .perform stable_seen fun s r s' hi hseen hexec => ?_
  have hi : Inv s := hi
  -- the object the update fits is the one that was read
  have hmeets : ∀ o, s.object = some o → Fits o copy → o = current := fun o ho hfits =>
    hseen.2 o ho (hfits.2.2.trans hw.resourceVersion)
  rcases hexec with ⟨o, ho, hfits, rfl⟩ | ⟨hr, rfl | rfl⟩
  · obtain rfl := hmeets o ho hfits
    refine ⟨hi.apply ho hw, .apply ho hw.step, fun _ hissues => ?_⟩
    show (copy.uid, t) ∈ if issues o copy then (copy.uid, t) :: s.issued else s.issued
    rw [if_pos hissues]
    exact List.mem_cons_self
  · exact ⟨hi, .refl _, fun h => absurd h hr⟩
  · refine ⟨⟨hi.object, ?_, hi.used, hi.once, hi.begun⟩,
      .same rfl rfl rfl rfl, fun h => absurd h hr⟩
    intro u p hp
    rcases List.mem_cons.1 hp with heq | hp
    · obtain ⟨rfl, rfl⟩ := Prod.mk.inj heq
      refine ⟨by rw [hw.resourceVersion]; exact hseen.1, fun o ho hfits => ?_⟩
      obtain rfl := hmeets o ho hfits
      exact hw
    · exact hi.pending u p hp

/-! ### The code -/

/-- Nothing is asked of an error. -/
abbrev Any : Err → State → Prop := fun _ _ => True

theorem getExact_triple :
    rules.TripleE sem t (fun _ => True) (getExact claim)
      (fun o s => (o.uid = claim.uid ∧ o.deleting = false) ∧ Seen o s) Any := by
  refine .skip ?_
  refine .bind (get_triple stable_const) fun r => ?_
  cases r with
  | error => exact .throw_any
  | ok o =>
    refine .check_any fun o' ho' => ?_
    obtain rfl : o = o' := Except.ok.inj ho'
    refine .check_any fun _ hid => ?_
    refine .skip fun {_} => ?_
    have hid := not_or.1 (failIf_ok hid)
    exact .pure fun s _ h =>
      ⟨⟨not_not.1 hid.1, Bool.eq_false_iff.2 hid.2⟩, h.2 o rfl⟩

theorem getProtectedExact_triple {action : String} :
    rules.TripleE sem t (fun _ => True) (getProtectedExact claim action) Seen Any := by
  refine .skip ?_
  refine .bind (get_triple stable_const) fun r => ?_
  cases r with
  | error => exact .throw_any
  | ok o =>
    refine .check_any fun o' ho' => ?_
    obtain rfl : o = o' := Except.ok.inj ho'
    refine .skip ?_
    exact .pure fun s _ h => h.2 o rfl

/-- The write of a planned record. -/
abbrev Plans (current : NodeClaim) (record : CreateFenceRecord) : Prop :=
  Writes current (current.withRecord record)

/-- What a plan promises of its result. -/
abbrev Planned (current : NodeClaim) (r : Option CreateFenceRecord) (st : State) : Prop :=
  (∀ record, r = some record → Plans current record) ∧ Seen current st

/-- One lemma for the four operations that share the loop: if what they plan is
a permitted write, so is everything they do. -/
theorem casLoop_triple {action lost notConverged : String}
    {plan : NodeClaim → Code (Option CreateFenceRecord)}
    {verdict : CreateFenceRecord → Verdict}
    (hplan : ∀ current, rules.TripleE sem t (Seen current) (plan current) (Planned current) Any)
    {attempts : ℕ} {lastErr : Option Err} :
    rules.SafeE sem t (fun _ => True)
      (s.casLoop claim binding action lost notConverged plan verdict attempts lastErr) := by
  induction attempts generalizing lastErr with
  | zero => exact .throw_any
  | succ attempts ih =>
    refine .bind getProtectedExact_triple fun current => ?_
    refine .bind (hplan current) fun r => TripleE.hyp fun hwrites => ?_
    cases r with
    | none => exact .pure fun _ _ _ => trivial
    | some record =>
      refine .bind (update_triple (hwrites record rfl)) fun writeErr => ?_
      refine .bind ((get_triple stable_const).pre
        fun _ _ _ => trivial) fun readback => ?_
      have again : ∀ {e}, rules.SafeE sem t
          (fun st => True ∧ ∀ o, readback = .ok o → Seen o st)
          (s.casLoop claim binding action lost notConverged plan verdict attempts e) :=
        ih.pre fun _ _ _ => trivial
      cases readback with
      | error => exact again
      | ok =>
        dsimp only
        split
        · exact .throw_any
        · split
          · exact again
          · split
            · exact .pure fun _ _ _ => trivial
            · exact .throw_any
            · exact again

/-- What is planned on the record read is a step of the stored fence. -/
theorem SameCore.trans_step {a b c : AnnotationValue CreateFenceRecord} (h : SameCore a b)
    (hs : FenceStep b c) : FenceStep a c where
  phase := by rw [← h.phase]; exact hs.phase
  issueID := by rw [← h.issueID]; exact hs.issueID
  createdVMUUID := by rw [← h.createdVMUUID]; exact hs.createdVMUUID
  rollback := by rw [← h.rollbackChosen, ← h.phase]; exact hs.rollback
  materialized := by rw [← h.rollbackChosen, ← h.phase]; exact hs.materialized

section Plans

variable {record record' : CreateFenceRecord}

/-- A record planned from an issued one. -/
theorem plans_of_issued (hparse : s.parse current binding = .ok record)
    (hissued : record.phase = .issued) (hstep : FenceStep (.record record) (.record record')) :
    Plans current record' where
  name := rfl
  uid := rfl
  resourceVersion := rfl
  deleting := rfl
  fence := (parseCreateFence_ok hparse).1.trans_step hstep
  live := fun _ => .inl ((parseCreateFence_ok hparse).1.phase.symm.trans (congrArg some hissued))

theorem anchorPlan_triple :
    rules.TripleE sem t (Seen current) (s.anchorPlan claim binding token issueID vmUUID current)
      (Planned current) Any := by
  refine .check_any fun record hparse => ?_
  refine .skip ?_
  split
  · split
    · split
      · exact .pure fun _ _ h => ⟨fun _ hr => (by cases hr), h⟩
      · exact .throw_any
    · exact .throw_any
  next hcreated =>
  split
  · exact .throw_any
  next hphase =>
  obtain ⟨hissued, hrollback⟩ := not_or.1 hphase
  rw [not_not] at hcreated hissued hrollback
  split
  · exact .throw_any
  · refine .bind (now_triple stable_seen) fun now => ?_
    refine .pure fun _ _ h => ⟨fun record' hr => ?_, h⟩
    obtain rfl := Option.some.inj hr
    refine plans_of_issued hparse hissued ⟨.stay _, fun _ => rfl, ?_, ?_, fun _ => rfl⟩
    · exact fun hne => absurd hcreated hne
    · exact fun hr => ⟨hr, rfl⟩

theorem applyCleanupResolution_core {resolution : FencedCreateCleanupResolution} {now : ℤ}
    (h : applyCleanupResolution record resolution now = .ok record') :
    SameCore (.record record) (.record record') := by
  obtain ⟨_, -, h⟩ := except_bind_ok h
  obtain ⟨_, -, h⟩ := except_bind_ok h
  obtain rfl := Except.ok.inj h
  exact ⟨rfl, rfl, rfl, rfl⟩

theorem chooseRollbackAt_triple :
    rules.TripleE sem t (Seen current) (chooseRollbackAt record) (fun _ => Seen current) Any := by
  unfold chooseRollbackAt
  split
  · exact .pure fun _ _ h => h
  · exact now_triple stable_seen

theorem rollbackPlan_triple {canonical : Option FencedCreateCleanupResolution} :
    rules.TripleE sem t (Seen current)
      (s.rollbackPlan claim binding token issueID vmUUID canonical current)
      (Planned current) Any := by
  refine .check_any fun record hparse => ?_
  refine .skip ?_
  refine .skip ?_
  refine .check_any fun _ hphase => ?_
  have hissued : record.phase = .issued := not_not.1 (failIf_ok hphase)
  split
  · exact .pure fun _ _ h => ⟨fun _ hr => (by cases hr), h⟩
  · refine .bind chooseRollbackAt_triple fun rollbackAt => ?_
    -- the chosen record is issued and not materialized
    have hchosen : ∀ r : CreateFenceRecord, r.phase = record.phase → r.issueID = record.issueID →
        r.createdVMUUID = record.createdVMUUID → r.rollbackAt.isSome = true →
        FenceStep (.record record) (.record r) := by
      intro r hp hi hc hr
      refine ⟨?_, fun _ => hi, fun _ => hc, fun _ => ⟨hr, congrArg some hp⟩, fun hm => ?_⟩
      · show PhaseStep (some record.phase) (some r.phase)
        rw [hp]
        exact .stay _
      · rw [show AnnotationValue.phase (.record record) = some record.phase from rfl, hissued] at hm
        cases hm
    cases canonical with
    | none =>
      refine .pure fun _ _ h => ⟨fun record' hr => ?_, h⟩
      obtain rfl := Option.some.inj hr
      exact plans_of_issued hparse hissued (hchosen _ rfl rfl rfl rfl)
    | some =>
      refine .bind (now_triple stable_seen) fun now => ?_
      refine .check_any fun applied happlied => ?_
      refine .pure fun _ _ h => ⟨fun record' hr => ?_, h⟩
      obtain rfl := Option.some.inj hr
      have hcore := applyCleanupResolution_core happlied
      exact plans_of_issued hparse hissued (hchosen _ (Option.some.inj hcore.phase) hcore.issueID
        hcore.createdVMUUID hcore.rollbackChosen)

theorem rejectPlan_triple :
    rules.TripleE sem t (Seen current) (s.rejectPlan claim binding token issueID current)
      (Planned current) Any := by
  refine .check_any fun record hparse => ?_
  refine .skip ?_
  split
  · exact .pure fun _ _ h => ⟨fun _ hr => (by cases hr), h⟩
  split
  · exact .throw_any
  next hfree =>
  split
  · exact .throw_any
  next hissued =>
  rw [not_not] at hissued
  split
  · exact .throw_any
  · refine .bind (now_triple stable_seen) fun now => ?_
    refine .pure fun _ _ h => ⟨fun record' hr => ?_, h⟩
    obtain rfl := Option.some.inj hr
    have hrollback : record.rollbackAt = none := not_not.1 (not_or.1 (not_or.1 hfree).2).1
    refine plans_of_issued hparse hissued ⟨?_, fun _ => rfl, fun _ => rfl, ?_, fun _ => rfl⟩
    · show PhaseStep (some record.phase) (some .rejected)
      rw [hissued]
      exact .reject
    · intro hr
      simp [AnnotationValue.rollbackChosen, hrollback] at hr

theorem materializePlan_triple {vm : Option VM} :
    rules.TripleE sem t (Seen current) (s.materializePlan claim binding token vm current)
      (Planned current) Any := by
  refine .skip ?_
  refine .check_any fun record hparse => ?_
  refine .skip ?_
  refine .check_any fun vm _ => ?_
  refine .skip ?_
  refine .skip fun {_} => ?_
  split
  · exact .pure fun _ _ h => ⟨fun _ hr => (by cases hr), h⟩
  split
  · exact .throw_any
  next hphase =>
  split
  · exact .throw_any
  next hfree =>
  have hissued : record.phase = .issued := not_not.1 (not_or.1 hphase).1
  have hrollback : record.rollbackAt = none := not_not.1 (not_or.1 hfree).1
  refine .bind (now_triple stable_seen) fun now => ?_
  refine .pure fun _ _ h => ⟨fun record' hr => ?_, h⟩
  obtain rfl := Option.some.inj hr
  refine plans_of_issued hparse hissued ⟨?_, fun _ => rfl, fun _ => rfl, ?_, fun _ => rfl⟩
  · show PhaseStep (some record.phase) (some .materialized)
    rw [hissued]
    exact .materialize
  · intro hr
    simp [AnnotationValue.rollbackChosen, hrollback] at hr

end Plans

theorem store_get_triple {cleanup : CreateFenceCleanupIdentity} :
    rules.SafeE sem t (fun _ => True) (s.get claim binding cleanup) := by
  refine .bind getExact_triple fun current => ?_
  split
  · exact .pure fun _ _ _ => trivial
  · refine .skip ?_
    exact .pure fun _ _ _ => trivial

/-- A NodeClaim without a fence gets a reserved one. -/
theorem writes_withFence (habsent : current.createFence = .absent)
    (hlive : current.deleting = false) {cleanup : CreateFenceCleanupIdentity}
    {baseline : CreateInventory} {now : ℤ} :
    Writes current (current.withFence binding
      (newCreateFenceRecord binding cleanup baseline now token)) where
  name := rfl
  uid := rfl
  resourceVersion := rfl
  deleting := rfl
  fence := by
    rw [habsent]
    refine ⟨.reserve, fun h => ?_, fun h => ?_, fun h => ?_, fun h => ?_⟩
    · exact absurd rfl h
    · exact absurd rfl h
    · cases h
    · cases h
  live := fun hd => by rw [hlive] at hd; cases hd

theorem store_ensure_triple {cleanup : CreateFenceCleanupIdentity} {baseline : CreateInventory} :
    rules.SafeE sem t (fun _ => True) (s.ensure claim binding cleanup baseline) := by
  refine .bind getExact_triple fun current => TripleE.hyp fun hcurrent => ?_
  split
  next habsent =>
    refine .skip ?_
    refine .skip ?_
    refine .bind (now_triple stable_seen) fun now => ?_
    refine .bind (nonce_triple stable_seen) fun r => ?_
    refine .check_any fun token _ => ?_
    refine .bind (update_triple (writes_withFence habsent hcurrent.2)) fun r => ?_
    cases r with
    | some =>
      dsimp only
      split <;> exact .throw_any
    | none =>
      refine .bind ((get_triple stable_const).pre fun _ _ _ => trivial) fun readback => ?_
      refine .skip ?_
      refine .skip ?_
      exact .pure fun _ _ _ => trivial
  · refine .skip ?_
    exact .pure fun _ _ _ => trivial

section Authorize

theorem authorizable_reserved {intent : CreateAuthorizationKind}
    {record : CreateFenceRecord}
    (h : s.authorizable current claim binding token intent = .ok record) :
    s.parse current binding = .ok record ∧ record.phase = .reserved ∧ record.rollbackAt = none := by
  obtain ⟨_, -, h⟩ := except_bind_ok h
  obtain ⟨parsed, hparse, h⟩ := except_bind_ok h
  obtain ⟨_, -, h⟩ := except_bind_ok h
  obtain ⟨_, -, h⟩ := except_bind_ok h
  obtain ⟨_, hphase, h⟩ := except_bind_ok h
  obtain rfl : parsed = record := Except.ok.inj h
  obtain ⟨hreserved, hrest⟩ := not_or.1 (failIf_ok hphase)
  exact ⟨hparse, not_not.1 hreserved, not_not.1 (not_or.1 (not_or.1 hrest).2).1⟩

/-- The issue CAS is planned from a reserved record, which has no issue ID yet. -/
theorem writes_issue {record : CreateFenceRecord} (hlive : current.deleting = false)
    (hparse : s.parse current binding = .ok record) (hreserved : record.phase = .reserved)
    (hrollback : record.rollbackAt = none) {assignment : BaseFirewallAssignment}
    {intent : CreateAuthorizationKind} {now : ℤ} {assignmentIssueID : String} :
    Plans current (issueRecord record assignment intent now issueID assignmentIssueID) where
  name := rfl
  uid := rfl
  resourceVersion := rfl
  deleting := rfl
  fence := by
    obtain ⟨hcore, hvalid⟩ := parseCreateFence_ok hparse
    have hunissued : record.issueID = "" := by
      simp only [validPhase, hreserved, Bool.and_eq_true, beq_iff_eq] at hvalid
      exact hvalid.1.1
    refine hcore.trans_step ⟨?_, fun h => absurd hunissued h, fun _ => rfl, fun h => ?_, fun _ => rfl⟩
    · show PhaseStep (some record.phase) (some .issued)
      rw [hreserved]
      exact .issue
    · simp [AnnotationValue.rollbackChosen, hrollback] at h
  live := fun hd => by rw [hlive] at hd; cases hd

/-- After a failed issue CAS no authority is granted. -/
theorem failedIssue_err {mine : CreateFenceRecord → Bool} {cause : Err}
    {readback : Except Err NodeClaim} {r : NodeClaim × Option Err}
    (h : s.failedIssue current claim binding mine cause readback = .ok r) : r.2 ≠ none := by
  unfold Store.failedIssue at h
  cases readback with
  | error => cases h
  | ok =>
    dsimp only at h
    split at h
    · cases h
    · split at h
      · obtain rfl := Except.ok.inj h
        exact Option.some_ne_none _
      · cases h

/-- `Authorize` grants the authority only to the invocation whose own update
issued the attempt. -/
theorem store_authorize_triple {intent : CreateAuthorizationKind} :
    rules.TripleE sem t (fun _ => True) (s.authorize claim binding token intent)
      (fun r st => r.2 = none → (claim.uid, t) ∈ st.issued) Any := by
  refine .bind getExact_triple fun current => TripleE.hyp fun ⟨huid, hlive⟩ => ?_
  refine .check_any fun record hrecord => ?_
  obtain ⟨hparse, hreserved, hrollback⟩ := authorizable_reserved hrecord
  refine .bind (now_triple stable_seen) fun now => ?_
  refine .bind (nonce_triple stable_seen) fun r => ?_
  refine .check_any fun issueID _ => ?_
  refine .bind (nonce_triple stable_seen) fun r => ?_
  refine .check_any fun assignmentIssueID _ => ?_
  refine .check_any fun assignment _ => ?_
  refine .bind (update_triple (writes_issue hlive hparse hreserved hrollback)) fun r => ?_
  cases r with
  | some =>
    refine .bind ((get_triple stable_const).pre fun _ _ _ => trivial) fun readback => ?_
    exact .check (fun r hr _ _ _ hnone => absurd hnone (failedIssue_err hr))
      fun _ _ _ _ _ => trivial
  | none =>
    have hissues : issues current (current.withRecord
        (issueRecord record assignment intent now issueID assignmentIssueID)) = true := by
      have hphase : current.createFence.phase = some .reserved :=
        (parseCreateFence_ok hparse).1.phase.symm.trans (congrArg some hreserved)
      rw [issues, hphase]
      rfl
    refine .bind ((get_triple (stable_issued (claim.uid, t))).pre fun st _ h => ?_)
      fun readback => ?_
    · rw [← huid]
      exact h rfl hissues
    · exact .check (fun _ _ _ _ h _ => h.1) fun _ _ _ _ _ => trivial

end Authorize

/-! ### The whole system -/

/-- What is left in the shared state by an invocation that has returned. -/
def Left (t : Tid) (r : Except Err Outcome) (st : State) : Prop :=
  ∀ uid claim, r = .ok (.authorized uid claim none) → (uid, t) ∈ st.issued

theorem stable_left (r : Except Err Outcome) : rules.Stable sem t (Left t r) :=
  fun s s' h hstep uid claim hr => stable_issued (uid, t) s s' (h uid claim hr) hstep

/-- An invocation that never returns an authority. -/
theorem left_of_triple {α : Type} {x : Code α} {f : α → Outcome}
    (h : rules.SafeE sem t (fun _ => True) x)
    (hf : ∀ a uid claim, f a ≠ .authorized uid claim none) :
    rules.TripleE sem t (fun _ => True) (x >>= fun a => pure (f a))
      (fun r st => Left t (.ok r) st) Any :=
  TripleE.bind h fun a => TripleE.pure fun _ _ _ uid claim hr =>
    absurd (Except.ok.inj hr) (hf a uid claim)

theorem call_triple {call : Call} :
    rules.TripleE sem t (fun _ => True) (call.code s) (fun r st => Left t (.ok r) st) Any := by
  cases call with
  | get => exact left_of_triple store_get_triple fun _ _ _ h => by cases h
  | ensure => exact left_of_triple store_ensure_triple fun _ _ _ h => by cases h
  | authorize =>
    refine .bind store_authorize_triple fun r => ?_
    refine .pure fun st _ h uid current hr => ?_
    obtain ⟨rfl, -, hnone⟩ := Outcome.authorized.inj (Except.ok.inj hr)
    exact h hnone
  | recordCreatedVM =>
    refine left_of_triple ?_ fun _ _ _ h => by cases h
    refine .skip ?_
    exact casLoop_triple fun _ => anchorPlan_triple
  | chooseRollback =>
    refine left_of_triple ?_ fun _ _ _ h => by cases h
    refine .skip ?_
    refine .check_any fun canonical _ => ?_
    exact casLoop_triple fun _ => rollbackPlan_triple
  | markRejected =>
    refine left_of_triple ?_ fun _ _ _ h => by cases h
    exact casLoop_triple fun _ => rejectPlan_triple
  | markMaterialized =>
    refine left_of_triple ?_ fun _ _ _ h => by cases h
    exact casLoop_triple fun _ => materializePlan_triple

/-- The replicas keep their rules. -/
theorem verified : rules.Verified sem Calls Initial Left where
  init := by
    rintro s ⟨hpending, hissued, hobject⟩
    refine ⟨⟨hobject, ?_, ?_, ?_, ?_⟩, fun _ => trivial⟩
    · intro t p hp; rw [hpending] at hp; cases hp
    · intro u t hu; rw [hissued] at hu; cases hu
    · intro u t t' hu; rw [hissued] at hu; cases hu
    · intro o t _ hu; rw [hissued] at hu; cases hu
  env := fun _ _ hi he => (Inv.env hi he).1
  fresh := fun _ _ _ _ _ => trivial
  stable := fun _ r => stable_left r
  start := by
    rintro t p s ⟨store, call, rfl⟩ hi hfresh
    exact call_triple.wp hi hfresh (fun _ _ h => h)
      fun _ _ _ uid claim hr => by cases hr

/-- Every step of the system is an `Advance`. -/
theorem step_advance {c c' : Config State Op Reply (Except Err Outcome)}
    (h : Reachable sem Calls Initial c) (hstep : Step sem Calls c c') :
    Advance c.shared c'.shared := by
  rcases sound_step verified h hstep with heq | henv | ⟨_, hguar⟩
  · rw [heq]
    exact .refl _
  · exact (Inv.env (sound verified h) henv).2
  · exact hguar

/-- A run takes each NodeClaim only further. -/
theorem run_later {c c' : Config State Op Reply (Except Err Outcome)}
    (h : Reachable sem Calls Initial c) (hrun : ReflTransGen (Step sem Calls) c c') :
    (∀ u ∈ c.shared.used, u ∈ c'.shared.used) ∧
    ∀ o', c'.shared.object = some o' → o'.uid ∈ c.shared.used →
      ∃ o, c.shared.object = some o ∧ ClaimLater o o' := by
  -- induction on the run; a UID that is in use at its start never comes back
  induction hrun with
  | refl => exact ⟨fun _ hu => hu, fun o' ho' _ => ⟨o', ho', .refl o'⟩⟩
  | tail hrun hstep ih =>
    have hadv := step_advance (h.run hrun) hstep
    obtain ⟨hused, hlater⟩ := ih
    refine ⟨fun u hu => hadv.used u (hused u hu), fun o'' ho'' hu => ?_⟩
    obtain ⟨o', ho', hclaim⟩ := hadv.claim o'' ho'' (hused _ hu)
    obtain ⟨o, ho, hlater⟩ := hlater o' ho' (hclaim.uid ▸ hu)
    exact ⟨o, ho, hlater.tail hclaim⟩

/-- **At most one create is authorized, and a fence only moves forward.**  In
every run of any number of stores on one NodeClaim:

* two invocations of Authorize that were granted the authority for the same
  NodeClaim are the same invocation;
* every step moves the fence by one step of its phase at most;
* from any state to any later one the issue ID and the created VM's UUID stay
  once they are set, the phase has only moved forward, a fence with rollback
  chosen has not been materialized, nor the reverse. -/
theorem createFence_authorized_once {c : Config State Op Reply (Except Err Outcome)}
    (h : Reachable sem Calls Initial c) :
    (∀ t u uid claim claim',
      c.threads t = .running (.ret (.ok (.authorized uid claim none))) →
      c.threads u = .running (.ret (.ok (.authorized uid claim' none))) → t = u) ∧
    (∀ c', Step sem Calls c c' → ∀ o o', c.shared.object = some o →
      c'.shared.object = some o' → o'.uid = o.uid → ClaimStep o o') ∧
    ∀ c', ReflTransGen (Step sem Calls) c c' → ∀ o o', c.shared.object = some o →
      c'.shared.object = some o' → o'.uid = o.uid → ClaimLater o o' := by
  have hinv : Inv c.shared := sound verified h
  refine ⟨?_, ?_, ?_⟩
  · intro t u uid claim claim' ht hu
    have hleft := sound_ret verified h ht uid claim rfl
    have hleft' := sound_ret verified h hu uid claim' rfl
    exact hinv.once uid t u hleft hleft'
  · intro _ hstep o o' ho ho' huid
    have hused : o'.uid ∈ c.shared.used := by rw [huid]; exact (hinv.object o ho).2
    obtain ⟨o₁, ho₁, hclaim⟩ := (step_advance h hstep).claim o' ho' hused
    obtain rfl : o₁ = o := Option.some.inj (ho₁.symm.trans ho)
    exact hclaim
  · intro _ hrun o o' ho ho' huid
    have hused : o'.uid ∈ c.shared.used := by rw [huid]; exact (hinv.object o ho).2
    obtain ⟨o₁, ho₁, hlater⟩ := (run_later h hrun).2 o' ho' hused
    obtain rfl : o₁ = o := Option.some.inj (ho₁.symm.trans ho)
    exact hlater

/-- A run in which one replica reserves the attempt and another is granted the
authority to create the VM. -/
theorem createFence_authorized_once_run :
    ∃ c : Config State Op Reply (Except Err Outcome), Reachable sem Calls Initial c ∧
      (∃ claim, c.threads 1 = .running (.ret (.ok (.authorized "uid-1" claim none)))) ∧
      ∀ t claim, c.threads t = .running (.ret (.ok (.authorized "uid-1" claim none))) → t = 1 := by
  have h : Reachable sem Calls Initial ⟨workerState, fun _ => .idle⟩ := .init initial_workerState
  have h := h.step (.spawn 0 _ rfl ⟨⟨id⟩, .ensure workerClaim workerBinding workerCleanup {}, rfl⟩)
  have h := h.serve 0 (.get "worker") (.ok workerClaim) rfl (exec_get 0 rfl rfl)
  have h := h.serve 0 .now 1 rfl rfl
  have h := h.serve 0 .nonce (.ok "token") rfl rfl
  have h := h.serve 0 (.update (workerClaim.withFence workerBinding workerRecord)) none rfl
    (.inl ⟨workerClaim, rfl, ⟨rfl, rfl, rfl⟩, rfl⟩)
  have h := h.step (.spawn 1 _ rfl ⟨⟨id⟩, .authorize workerClaim workerBinding "token" .post, rfl⟩)
  have h := h.serve 1 (.get "worker") (.ok fencedWorker) rfl (exec_get 1 rfl rfl)
  have h := h.serve 1 .now 2 rfl rfl
  have h := h.serve 1 .nonce (.ok "0123456789abcdef0123456789abcdef") rfl rfl
  have h := h.serve 1 .nonce (.ok "fedcba9876543210fedcba9876543210") rfl rfl
  have h := h.serve 1 (.update (fencedWorker.withRecord issuedWorkerRecord)) none rfl
    (.inl ⟨fencedWorker, rfl, ⟨rfl, rfl, rfl⟩, rfl⟩)
  have h := h.serve 1 (.get "worker")
    (.ok { fencedWorker.withRecord issuedWorkerRecord with resourceVersion := 3 }) rfl
    (exec_get 1 rfl rfl)
  exact ⟨_, h, ⟨_, rfl⟩, fun t claim ht =>
    (createFence_authorized_once h).1 t 1 "uid-1" claim _ ht rfl⟩

end InSpaceKube.Karpenter
