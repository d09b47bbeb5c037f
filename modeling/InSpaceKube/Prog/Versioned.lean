/-
InSpaceKube/Prog/Versioned.lean

One object of a store with optimistic concurrency.

Every write gives the object a version of its own, and an update names the
version it was made from.  `Versioned` keeps what has been stored under one
name, newest first, and whether the newest is still there.  The log is what
the argument about such a store needs: whoever has read an object holds an
entry of the log, for good, and an update that fits the stored object by its
version meets exactly the entry it was made from (`Ordered.unique`).

`Chain R` says that every entry is an `R`-step from the one before it, so that
what holds of `R` along chains holds of the whole life of the object.
-/
import Mathlib.Data.List.Chain
import Mathlib.Data.List.Pairwise
import Mathlib.Data.Nat.Notation

namespace InSpaceKube

variable {ν : Type}

/-- How objects carry their version. -/
structure Stamp (ν : Type) where
  version : ν → ℕ
  stamp : ℕ → ν → ν
  version_stamp : ∀ n o, version (stamp n o) = n

/-- What has been stored under one name, newest first; `here` says that the
newest has not been deleted. -/
structure Versioned (ν : Type) where
  log : List ν
  here : Bool

namespace Versioned

variable (V : Stamp ν) (s : Versioned ν)

/-- The stored object. -/
def current : Option ν := if s.here then s.log.head? else none

/-- The version the next write takes. -/
def next : ℕ := (s.log.head?.map V.version).getD 0 + 1

/-- The object is stored, under the next version. -/
def put (o : ν) : Versioned ν := ⟨V.stamp (s.next V) o :: s.log, true⟩

/-- The object is deleted. -/
def drop : Versioned ν := { s with here := false }

/-- Later entries have higher versions. -/
def Ordered : Prop := s.log.Pairwise fun newer older => V.version older < V.version newer

/-- Every entry is an `R`-step from the one before it. -/
def Chain (R : ν → ν → Prop) : Prop := s.log.IsChain fun newer older => R older newer

variable {V s} {o o' : ν} {R : ν → ν → Prop}

theorem head_of_current (h : s.current = some o) : s.log.head? = some o := by
  unfold current at h
  split at h
  · exact h
  · cases h

/-- The stored object stands first. -/
theorem log_of_current (h : s.current = some o) : ∃ rest, s.log = o :: rest :=
  List.head?_eq_some_iff.1 (head_of_current h)

theorem current_mem (h : s.current = some o) : o ∈ s.log :=
  List.mem_of_mem_head? (head_of_current h)

@[simp] theorem current_put : (s.put V o).current = some (V.stamp (s.next V) o) := rfl

@[simp] theorem current_drop : s.drop.current = none := rfl

@[simp] theorem log_put : (s.put V o).log = V.stamp (s.next V) o :: s.log := rfl

@[simp] theorem log_drop : s.drop.log = s.log := rfl

/-- A version names one entry. -/
theorem Ordered.unique (h : s.Ordered V) (ho : o ∈ s.log) (ho' : o' ∈ s.log)
    (heq : V.version o = V.version o') : o = o' := by
  unfold Ordered at h
  generalize s.log = log at *
  induction log with
  | nil => cases ho
  | cons _ _ ih =>
    obtain ⟨hnew, hrest⟩ := List.pairwise_cons.1 h
    rcases List.mem_cons.1 ho with rfl | hold <;> rcases List.mem_cons.1 ho' with rfl | hold'
    · rfl
    · exact absurd heq (hnew o' hold').ne'
    · exact absurd heq (hnew o hold).ne
    · exact ih hrest hold hold'

/-- No entry has the version of the next write. -/
theorem Ordered.lt_next (h : s.Ordered V) (ho : o ∈ s.log) : V.version o < s.next V := by
  unfold Ordered at h
  unfold next
  cases hlog : s.log with
  | nil => rw [hlog] at ho; cases ho
  | cons =>
    rw [hlog] at h ho
    rcases List.mem_cons.1 ho with rfl | ho
    · exact Nat.lt_succ_self _
    · exact ((List.pairwise_cons.1 h).1 o ho).trans (Nat.lt_succ_self _)

theorem Ordered.put (h : s.Ordered V) : (s.put V o).Ordered V := by
  refine List.pairwise_cons.2 ⟨fun a ha => ?_, h⟩
  rw [V.version_stamp]
  exact h.lt_next ha

theorem Ordered.drop (h : s.Ordered V) : s.drop.Ordered V := h

/-- The stored object is the entry an update with its version was made from. -/
theorem Ordered.current_eq (h : s.Ordered V) (hcur : s.current = some o) (ho' : o' ∈ s.log)
    (heq : V.version o = V.version o') : o = o' :=
  h.unique (current_mem hcur) ho' heq

theorem Chain.put (h : s.Chain R) (hcur : s.current = some o')
    (hstep : R o' (V.stamp (s.next V) o)) : (s.put V o).Chain R := by
  refine List.isChain_cons.2 ⟨fun a ha => ?_, h⟩
  obtain rfl : o' = a := Option.some.inj ((head_of_current hcur).symm.trans ha)
  exact hstep

theorem Chain.drop (h : s.Chain R) : s.drop.Chain R := h

end Versioned

/-- Along a chain, newest first: what each step keeps or leaves has been left
somewhere since `o`, or holds ever since. -/
theorem isChain_until {R : ν → ν → Prop} {Stay Leave : ν → Prop}
    (hstep : ∀ o o', R o o' → Stay o → Stay o' ∨ Leave o') {o : ν} {later earlier : List ν}
    (hchain : (later ++ o :: earlier).IsChain fun newer older => R older newer) (ho : Stay o) :
    (∃ o' ∈ later, Leave o') ∨ ∀ o' ∈ later, Stay o' := by
  induction later with
  | nil => exact .inr nofun
  | cons a later ih =>
    obtain ⟨hhead, hrest⟩ := List.isChain_cons.1 hchain
    rcases ih hrest with ⟨o', ho', hleave⟩ | hstay
    · exact .inl ⟨o', .tail _ ho', hleave⟩
    · -- the entry before `a` still has it
      have hbefore : ∃ b, (later ++ o :: earlier).head? = some b ∧ Stay b := by
        cases later with
        | nil => exact ⟨o, rfl, ho⟩
        | cons b => exact ⟨b, rfl, hstay b (.head _)⟩
      obtain ⟨b, hb, hstayb⟩ := hbefore
      rcases hstep b a (hhead b hb) hstayb with ha | ha
      · exact .inr (List.forall_mem_cons.2 ⟨ha, hstay⟩)
      · exact .inl ⟨a, .head _, ha⟩

end InSpaceKube
