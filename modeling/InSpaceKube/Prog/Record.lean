/-
InSpaceKube/Prog/Record.lean

Systems that keep a record of what has been served.

A habit is read off the code: it says which requests a program issues, given
its own trace.  A system that records every served request in its state, with
the thread it was served for, turns this into facts about states: the trace of
a thread is the part of the record that is its own (`ownTrace`), and in every
reachable state all these traces keep to the habit (`Habit.Obeys`).  What a
system adds is an invariant of its state, one request at a time
(`Records.sound`).
-/
import InSpaceKube.Prog.Habit

namespace InSpaceKube

variable {Op : Type} {Reply : Op → Type} {α σ : Type}

/-- Every request of the trace was permitted by what came before it, and was
answered as promised. -/
def Habit.Obeys (H : Habit Op Reply) : Trace Op Reply → Prop
  | [] => True
  | e :: tr => H.ok tr e.op ∧ H.rep e.op e.reply ∧ H.Obeys tr

namespace Habit.Obeys

variable {H : Habit Op Reply} {newer older : Trace Op Reply} {e : Event Op Reply}

theorem of_append (h : H.Obeys (newer ++ older)) : H.Obeys older := by
  induction newer with
  | nil => exact h
  | cons _ _ ih => exact ih h.2.2

theorem ok_of_append (h : H.Obeys (newer ++ e :: older)) : H.ok older e.op :=
  (of_append h).1

/-- Somewhere in the trace. -/
theorem ok_of_mem {tr : Trace Op Reply} (h : H.Obeys tr) (he : e ∈ tr) :
    ∃ newer older, tr = newer ++ e :: older ∧ H.ok older e.op := by
  obtain ⟨newer, older, rfl⟩ := List.append_of_mem he
  exact ⟨newer, older, rfl, h.ok_of_append⟩

end Habit.Obeys

/-! ### Threads -/

/-- What thread `t` has been served, newest first. -/
def ownTrace (t : Tid) (served : List (Tid × Event Op Reply)) : Trace Op Reply :=
  served.filterMap fun p => if p.1 = t then some p.2 else none

section OwnTrace

variable {t u : Tid} {e : Event Op Reply} {served : List (Tid × Event Op Reply)}

@[simp] theorem ownTrace_nil : ownTrace t ([] : List (Tid × Event Op Reply)) = [] := rfl

@[simp] theorem ownTrace_cons_self : ownTrace t ((t, e) :: served) = e :: ownTrace t served := by
  simp [ownTrace]

theorem ownTrace_cons_ne (h : u ≠ t) : ownTrace u ((t, e) :: served) = ownTrace u served := by
  simp [ownTrace, Ne.symm h]

theorem mem_ownTrace : e ∈ ownTrace t served ↔ (t, e) ∈ served := by
  simp [ownTrace]

/-- The place of an event in the record gives its place in its own trace. -/
theorem ownTrace_append (newer older : List (Tid × Event Op Reply)) :
    ownTrace t (newer ++ older) = ownTrace t newer ++ ownTrace t older :=
  List.filterMap_append

/-- Where threads are served one after the other, what the last one was served is
the newest part of the record. -/
theorem ownTrace_newest (horder : served.Pairwise fun newer older => older.1 ≤ newer.1)
    (hle : ∀ p ∈ served, p.1 ≤ t) : ∃ rest, served.map Prod.snd = ownTrace t served ++ rest := by
  induction served with
  | nil => exact ⟨[], rfl⟩
  | cons p served ih =>
    obtain ⟨u, e⟩ := p
    obtain ⟨hu, horder⟩ := List.pairwise_cons.1 horder
    have hrest : ∀ p ∈ served, p.1 ≤ t := fun p hp => hle p (.tail _ hp)
    have hut : u ≤ t := hle (u, e) (.head _)
    rcases Nat.lt_or_eq_of_le hut with hlt | rfl
    · -- this thread has not been served yet
      refine ⟨_, (List.nil_append _).symm.trans (congrArg (· ++ _) (Eq.symm ?_))⟩
      refine List.eq_nil_iff_forall_not_mem.2 fun e' he' => ?_
      rcases List.mem_cons.1 (mem_ownTrace.1 he') with heq | hmem
      · exact absurd (congrArg Prod.fst heq) (Nat.ne_of_gt hlt)
      · exact absurd (hu _ hmem) (Nat.not_le_of_lt hlt)
    · obtain ⟨rest, hsplit⟩ := ih horder hrest
      exact ⟨rest, by rw [ownTrace_cons_self, List.map_cons, hsplit]; rfl⟩

end OwnTrace

/-- The state of the system has a record of all requests served. -/
structure Records (sem : Sem σ Op Reply) (served : σ → List (Tid × Event Op Reply)) : Prop where
  exec : ∀ t op s r s', sem.exec t op s r s' → served s' = (t, ⟨op, r⟩) :: served s
  env : ∀ s s', sem.env s s' → served s' = served s

namespace Records

variable {sem : Sem σ Op Reply} {served : σ → List (Tid × Event Op Reply)} {H : Habit Op Reply}
  {I : σ → Prop} {start : Tid → Prog Op Reply α → Prop} {init : σ → Prop}

/-- What is shown of every reachable state. -/
structure Kept (served : σ → List (Tid × Event Op Reply)) (H : Habit Op Reply) (I : σ → Prop)
    (c : Config σ Op Reply α) : Prop where
  inv : I c.shared
  obeys : ∀ t, H.Obeys (ownTrace t (served c.shared))
  idle : ∀ t, c.threads t = .idle → ownTrace t (served c.shared) = []
  running : ∀ t p, c.threads t = .running p →
    H.Follows p (ownTrace t (served c.shared)) fun _ _ => True

/-- **Soundness**: programs with the habit, run by a system that records what
it serves, keep to the habit, and with it to every invariant that the
permitted requests keep. -/
theorem sound (hrec : Records sem served) (hinit : ∀ s, init s → served s = [] ∧ I s)
    (henv : ∀ s s', I s → sem.env s s' → I s')
    (hstart : ∀ t p, start t p → H.Follows p [] fun _ _ => True)
    (hstep : ∀ t op s r s', I s → (∀ u, H.Obeys (ownTrace u (served s))) →
      H.ok (ownTrace t (served s)) op → sem.exec t op s r s' → H.rep op r ∧ I s')
    {c : Config σ Op Reply α} (h : Reachable sem start init c) : Kept served H I c := by
  induction h with
  | init hs =>
    obtain ⟨hnil, hI⟩ := hinit _ hs
    exact ⟨hI, fun t => by rw [hnil]; trivial, fun t _ => by rw [hnil]; rfl,
      fun t p hp => by simp at hp⟩
  | @step c c' _ hs ih =>
    cases hs with
    | spawn t p hidle hp =>
      refine ⟨ih.inv, ih.obeys, fun u hu => ?_, fun u q hq => ?_⟩ <;>
        rcases eq_or_ne u t with rfl | hne
      · simp at hu
      · exact ih.idle u (by simpa [Function.update_of_ne hne] using hu)
      · obtain rfl : p = q := by simpa using hq
        rw [ih.idle u hidle]
        exact hstart u p hp
      · exact ih.running u q (by simpa [Function.update_of_ne hne] using hq)
    | serve t op next r s' hrun hexec =>
      have hserved := hrec.exec t op _ r s' hexec
      obtain ⟨hok, hnext⟩ := Habit.follows_call.1 (ih.running t _ hrun)
      obtain ⟨hrep, hI⟩ := hstep t op _ r s' ih.inv ih.obeys hok hexec
      refine ⟨hI, fun u => ?_, fun u hu => ?_, fun u q hq => ?_⟩ <;>
        rcases eq_or_ne u t with rfl | hne
      · rw [hserved, ownTrace_cons_self]
        exact ⟨hok, hrep, ih.obeys u⟩
      · rw [hserved, ownTrace_cons_ne hne]
        exact ih.obeys u
      · simp at hu
      · rw [hserved, ownTrace_cons_ne hne]
        exact ih.idle u (by simpa [Function.update_of_ne hne] using hu)
      · obtain rfl : next r = q := by simpa using hq
        rw [hserved, ownTrace_cons_self]
        exact hnext r hrep
      · rw [hserved, ownTrace_cons_ne hne]
        exact ih.running u q (by simpa [Function.update_of_ne hne] using hq)
    | crash t =>
      refine ⟨ih.inv, ih.obeys, fun u hu => ?_, fun u q hq => ?_⟩ <;>
        rcases eq_or_ne u t with rfl | hne
      · simp at hu
      · exact ih.idle u (by simpa [Function.update_of_ne hne] using hu)
      · simp at hq
      · exact ih.running u q (by simpa [Function.update_of_ne hne] using hq)
    | env s' hmove =>
      have hserved := hrec.env _ s' hmove
      refine ⟨henv _ _ ih.inv hmove, fun u => ?_, fun u hu => ?_, fun u q hq => ?_⟩ <;> rw [hserved]
      · exact ih.obeys u
      · exact ih.idle u hu
      · exact ih.running u q hq

end Records

end InSpaceKube
