/-
InSpaceKube/Prog/Threads.lean

Any number of threads over one shared state, and a rely-guarantee logic for
them.

A thread runs a `Prog`.  One step of the system is one of

* a thread starts;
* a running thread has its next request served, atomically, in the current
  shared state, with any reply the semantics allows there;
* a thread that has not returned crashes: it takes no further step, and what
  it has already asked for stays asked for;
* the environment moves (`Sem.env`): late effects, outside actors, clocks.

So every interleaving at the granularity of requests is a run, and a crash
may fall between any two of them.

The logic is the usual one.  `Rules` fixes an invariant `inv` of the shared
state and, for each thread, what its steps may do (`guar`).  Thread `t`
relies on the others' guarantees and on the environment (`Rules.Rely t`).
`fresh t` is what holds of the shared state until `t` starts.
`Rules.wp` is the weakest precondition under that rely, `Rules.Triple` the
corresponding triple; `Rules.sound` says that if every program that may start
is safe, then `inv` holds in every reachable state, every step of a thread is
one its guarantee allows, and a thread that has returned satisfies its
postcondition ever after.
-/
import InSpaceKube.Prog.Basic
import Mathlib.Logic.Function.Basic
import Mathlib.Data.Nat.Notation

namespace InSpaceKube

open Relation
open Function (update update_eq_self update_idem update_of_ne update_self)

/-- Names of threads.  A name is used for one thread only. -/
abbrev Tid := ℕ

/-- What a thread is doing.  A thread whose program is `Prog.ret a` has
returned `a`. -/
inductive Thread (Op : Type) (Reply : Op → Type) (α : Type) : Type
  | idle : Thread Op Reply α
  | running (p : Prog Op Reply α) : Thread Op Reply α
  | crashed : Thread Op Reply α

/-- Meaning of the requests, and of the environment, on a shared state. -/
structure Sem (σ : Type) (Op : Type) (Reply : Op → Type) where
  exec : Tid → (op : Op) → σ → Reply op → σ → Prop
  env : σ → σ → Prop

/-- A state of the whole system. -/
structure Config (σ : Type) (Op : Type) (Reply : Op → Type) (α : Type) where
  shared : σ
  threads : Tid → Thread Op Reply α

variable {σ Op : Type} {Reply : Op → Type} {α β ε : Type}

/-- What a thread draws for the first time keeps every draw with one thread. -/
theorem drawn_once_cons {drawn : List (Tid × α)} {t u v : Tid} {a b : α}
    (h : ∀ u v b, (u, b) ∈ drawn → (v, b) ∈ drawn → u = v) (hnew : ∀ u, (u, a) ∉ drawn)
    (hu : (u, b) ∈ (t, a) :: drawn) (hv : (v, b) ∈ (t, a) :: drawn) : u = v := by
  rcases List.mem_cons.1 hu with hu | hu <;> rcases List.mem_cons.1 hv with hv | hv
  · cases hu; cases hv; rfl
  · cases hu; exact absurd hv (hnew v)
  · cases hv; exact absurd hu (hnew u)
  · exact h u v b hu hv

@[inherit_doc drawn_once_cons]
theorem drawn_once_cons_swap {drawn : List (α × Tid)} {t u v : Tid} {a b : α}
    (h : ∀ b u v, (b, u) ∈ drawn → (b, v) ∈ drawn → u = v) (hnew : ∀ u, (a, u) ∉ drawn)
    (hu : (b, u) ∈ (a, t) :: drawn) (hv : (b, v) ∈ (a, t) :: drawn) : u = v := by
  rcases List.mem_cons.1 hu with hu | hu <;> rcases List.mem_cons.1 hv with hv | hv
  · cases hu; cases hv; rfl
  · cases hu; exact absurd hv (hnew v)
  · cases hv; exact absurd hu (hnew u)
  · exact h b u v hu hv

/-- The same system with only those requests served that satisfy `cond`. -/
def Sem.restrict (sem : Sem σ Op Reply) (cond : Tid → Op → σ → Prop) : Sem σ Op Reply where
  exec t op s r s' := cond t op s ∧ sem.exec t op s r s'
  env := sem.env

/-- One step of the system; `start t p` says that thread `t` may start as `p`. -/
inductive Step (sem : Sem σ Op Reply) (start : Tid → Prog Op Reply α → Prop) :
    Config σ Op Reply α → Config σ Op Reply α → Prop
  | spawn {c : Config σ Op Reply α} (t : Tid) (p : Prog Op Reply α) :
      c.threads t = .idle → start t p →
      Step sem start c ⟨c.shared, update c.threads t (.running p)⟩
  | serve {c : Config σ Op Reply α} (t : Tid) (op : Op) (next : Reply op → Prog Op Reply α)
      (r : Reply op) (s' : σ) :
      c.threads t = .running (.call op next) → sem.exec t op c.shared r s' →
      Step sem start c ⟨s', update c.threads t (.running (next r))⟩
  | crash {c : Config σ Op Reply α} (t : Tid) (op : Op) (next : Reply op → Prog Op Reply α) :
      c.threads t = .running (.call op next) →
      Step sem start c ⟨c.shared, update c.threads t .crashed⟩
  | env {c : Config σ Op Reply α} (s' : σ) :
      sem.env c.shared s' → Step sem start c ⟨s', c.threads⟩

/-- The states a run can reach from a shared state in `init`, all threads idle. -/
inductive Reachable (sem : Sem σ Op Reply) (start : Tid → Prog Op Reply α → Prop)
    (init : σ → Prop) : Config σ Op Reply α → Prop
  | init {s : σ} : init s → Reachable sem start init ⟨s, fun _ => .idle⟩
  | step {c c' : Config σ Op Reply α} :
      Reachable sem start init c → Step sem start c c' → Reachable sem start init c'

variable {sem : Sem σ Op Reply} {start : Tid → Prog Op Reply α → Prop} {init : σ → Prop}
  {c c' : Config σ Op Reply α}

/-- Following a run by hand: the next request of a thread is served. -/
theorem Reachable.serve_step (_ : Reachable sem start init c)
    (t : Tid) (op : Op) (r : Reply op) {next : Reply op → Prog Op Reply α} {s' : σ}
    (hrun : c.threads t = .running (.call op next)) (hexec : sem.exec t op c.shared r s') :
    Step sem start c ⟨s', update c.threads t (.running (next r))⟩ :=
  .serve t op next r s' hrun hexec

theorem Reachable.serve (h : Reachable sem start init c)
    (t : Tid) (op : Op) (r : Reply op) {next : Reply op → Prog Op Reply α} {s' : σ}
    (hrun : c.threads t = .running (.call op next)) (hexec : sem.exec t op c.shared r s') :
    Reachable sem start init ⟨s', update c.threads t (.running (next r))⟩ :=
  h.step (h.serve_step t op r hrun hexec)

theorem Reachable.moved {s s' : σ} {threads : Tid → Thread Op Reply α}
    (h : Reachable sem start init ⟨s, threads⟩) (henv : sem.env s s') :
    Reachable sem start init ⟨s', threads⟩ :=
  h.step (.env s' henv)

/-- The end of a run under a name: nothing is computed to compare it. -/
theorem Reachable.named {s : σ} {threads : Tid → Thread Op Reply α}
    (h : Reachable sem start init ⟨s, threads⟩) :
    ∃ c, Reachable sem start init c ∧ c.shared = s ∧ c.threads = threads :=
  ⟨_, h, rfl, rfl⟩

/-- A run goes on. -/
theorem Reachable.run (h : Reachable sem start init c)
    (hrun : ReflTransGen (Step sem start) c c') : Reachable sem start init c' := by
  induction hrun with
  | refl => exact h
  | tail _ hstep ih => exact ih.step hstep

/-- A thread that has returned takes no further step. -/
theorem Step.returned (h : Step sem start c c') {t : Tid} {a : α}
    (ht : c.threads t = .running (.ret a)) : c'.threads t = .running (.ret a) := by
  cases h with
  | spawn u _ hidle =>
    have hne : t ≠ u := by rintro rfl; rw [ht] at hidle; cases hidle
    exact (update_of_ne hne ..).trans ht
  | serve u _ _ _ _ hrun =>
    have hne : t ≠ u := by rintro rfl; rw [ht] at hrun; cases hrun
    exact (update_of_ne hne ..).trans ht
  | crash u _ _ hrun =>
    have hne : t ≠ u := by rintro rfl; rw [ht] at hrun; cases hrun
    exact (update_of_ne hne ..).trans ht
  | env => exact ht

theorem returned_run (hrun : ReflTransGen (Step sem start) c c') {t : Tid} {a : α}
    (ht : c.threads t = .running (.ret a)) : c'.threads t = .running (.ret a) := by
  induction hrun with
  | refl => exact ht
  | tail _ hstep ih => exact hstep.returned ih

/-! ### Rely-guarantee -/

/-- An invariant of the shared state, a guarantee for every thread, and what
is known of the shared state as long as a thread has not started. -/
structure Rules (σ : Type) where
  inv : σ → Prop
  guar : Tid → σ → σ → Prop
  fresh : Tid → σ → Prop

namespace Rules

variable (R : Rules σ) (sem : Sem σ Op Reply)

/-- One step that thread `t` has to put up with. -/
def Interfere (t : Tid) (s s' : σ) : Prop :=
  R.inv s ∧ R.inv s' ∧ (sem.env s s' ∨ ∃ u, u ≠ t ∧ R.guar u s s')

/-- What thread `t` relies on: any number of such steps. -/
def Rely (t : Tid) : σ → σ → Prop := ReflTransGen (R.Interfere sem t)

/-- Weakest precondition of thread `t` running `p` to end in `Q`: every
request is served after any interference and keeps `inv` and `guar`. -/
def wp (t : Tid) : Prog Op Reply α → (α → σ → Prop) → σ → Prop
  | .ret a, Q, s => Q a s
  | .stop, _, _ => True
  | .call op next, Q, s =>
    ∀ s', R.Rely sem t s s' → R.inv s' → ∀ r s'', sem.exec t op s' r s'' →
      R.inv s'' ∧ R.guar t s' s'' ∧ wp t (next r) Q s''

variable {R sem} {t : Tid}

variable {p : Prog Op Reply α} {c : Config σ Op Reply α} {f : α → ExceptT ε (Prog Op Reply) β}

theorem wp_mono {Q Q' : α → σ → Prop} {s : σ}
    (hQ : ∀ a s, Q a s → Q' a s) (h : R.wp sem t p Q s) : R.wp sem t p Q' s := by
  induction p generalizing s with
  | ret a => exact hQ a s h
  | stop => trivial
  | call _ _ ih =>
    intro s' hrely hinv r s'' hexec
    obtain ⟨hi, hg, hk⟩ := h s' hrely hinv r s'' hexec
    exact ⟨hi, hg, ih r hk⟩

theorem wp_bind {f : α → Prog Op Reply β} {Q : β → σ → Prop} {s : σ}
    (h : R.wp sem t p (fun a s => R.wp sem t (f a) Q s) s) : R.wp sem t (p >>= f) Q s := by
  induction p generalizing s with
  | ret => exact h
  | stop => trivial
  | call _ _ ih =>
    intro s' hrely hinv r s'' hexec
    obtain ⟨hi, hg, hk⟩ := h s' hrely hinv r s'' hexec
    exact ⟨hi, hg, ih r hk⟩

variable (R sem)

/-- `P` is not disturbed by what thread `t` relies on. -/
def Stable (t : Tid) (P : σ → Prop) : Prop :=
  ∀ s s', P s → R.Interfere sem t s s' → P s'

variable {R sem} {P P' : σ → Prop}

theorem Stable.rely (hP : R.Stable sem t P) {s s' : σ} (h : P s)
    (hrely : R.Rely sem t s s') : P s' := by
  induction hrely with
  | refl => exact h
  | tail _ hstep ih => exact hP _ _ ih hstep

theorem Stable.and {P₁ P₂ : σ → Prop} (h₁ : R.Stable sem t P₁) (h₂ : R.Stable sem t P₂) :
    R.Stable sem t fun s => P₁ s ∧ P₂ s :=
  fun s s' h hi => ⟨h₁ s s' h.1 hi, h₂ s s' h.2 hi⟩

theorem stable_const {φ : Prop} : R.Stable sem t fun _ => φ := fun _ _ h _ => h

/-- A thread that is safe stays safe while others move. -/
theorem wp_rely {Q : α → σ → Prop} (hQ : ∀ a, R.Stable sem t (Q a))
    {s s' : σ} (hrely : R.Rely sem t s s') (h : R.wp sem t p Q s) : R.wp sem t p Q s' := by
  cases p with
  | ret a => exact (hQ a).rely h hrely
  | stop => trivial
  | call =>
    intro s₁ hrely₁ hinv r s₂ hexec
    exact h s₁ (hrely.trans hrely₁) hinv r s₂ hexec

variable (R sem)

/-- What has to be shown of a system: `inv` and `fresh` at the start, `inv`
kept by the environment, `fresh t` by everyone but `t`, and every program that
may start is safe and ends in `post`, which nobody disturbs. -/
structure Verified (start : Tid → Prog Op Reply α → Prop) (init : σ → Prop)
    (post : Tid → α → σ → Prop) : Prop where
  init : ∀ s, init s → R.inv s ∧ ∀ t, R.fresh t s
  env : ∀ s s', R.inv s → sem.env s s' → R.inv s'
  fresh : ∀ t s s', R.fresh t s → R.Interfere sem t s s' → R.fresh t s'
  stable : ∀ t a, R.Stable sem t (post t a)
  start : ∀ t p s, start t p → R.inv s → R.fresh t s → R.wp sem t p (post t) s

variable {R sem}

/-- The invariant of a verified system, with the safety of every thread. -/
structure Good (R : Rules σ) (sem : Sem σ Op Reply) (post : Tid → α → σ → Prop)
    (c : Config σ Op Reply α) : Prop where
  inv : R.inv c.shared
  idle : ∀ t, c.threads t = .idle → R.fresh t c.shared
  running : ∀ t p, c.threads t = .running p → R.wp sem t p (post t) c.shared

variable {start : Tid → Prog Op Reply α → Prop} {init : σ → Prop} {post : Tid → α → σ → Prop}

theorem Good.step (V : R.Verified sem start init post) {c' : Config σ Op Reply α}
    (hc : Good R sem post c) (h : Step sem start c c') : Good R sem post c' := by
  obtain ⟨hinv, hidle, hthreads⟩ := hc
  cases h with
  | spawn t p ht hstart =>
    refine ⟨hinv, fun u hu => ?_, fun u q hq => ?_⟩ <;> rcases eq_or_ne u t with rfl | hne
    · simp at hu
    · exact hidle u (by simpa [update_of_ne hne] using hu)
    · obtain rfl : p = q := by simpa using hq
      exact V.start u p c.shared hstart hinv (hidle u ht)
    · exact hthreads u q (by simpa [update_of_ne hne] using hq)
  | serve t op next r s' hrun hexec =>
    obtain ⟨hinv', hguar, hk⟩ := hthreads t _ hrun c.shared .refl hinv r s' hexec
    have hstep : ∀ u, u ≠ t → R.Interfere sem u c.shared s' := fun u hne =>
      ⟨hinv, hinv', .inr ⟨t, hne.symm, hguar⟩⟩
    refine ⟨hinv', fun u hu => ?_, fun u q hq => ?_⟩ <;> rcases eq_or_ne u t with rfl | hne
    · simp at hu
    · exact V.fresh u _ _ (hidle u (by simpa [update_of_ne hne] using hu)) (hstep u hne)
    · obtain rfl : next r = q := by simpa using hq
      exact hk
    · have hu := hthreads u q (by simpa [update_of_ne hne] using hq)
      exact wp_rely (V.stable u) (.single (hstep u hne)) hu
  | crash t =>
    refine ⟨hinv, fun u hu => ?_, fun u q hq => ?_⟩ <;> rcases eq_or_ne u t with rfl | hne
    · simp at hu
    · exact hidle u (by simpa [update_of_ne hne] using hu)
    · simp at hq
    · exact hthreads u q (by simpa [update_of_ne hne] using hq)
  | env s' henv =>
    have hinv' := V.env c.shared s' hinv henv
    have hstep : ∀ u, R.Interfere sem u c.shared s' := fun u => ⟨hinv, hinv', .inl henv⟩
    exact ⟨hinv', fun u hu => V.fresh u _ _ (hidle u hu) (hstep u),
      fun u q hq => wp_rely (V.stable u) (.single (hstep u)) (hthreads u q hq)⟩

theorem Good.reachable (V : R.Verified sem start init post)
    (h : Reachable sem start init c) : Good R sem post c := by
  induction h with
  | init hs =>
    obtain ⟨hinv, hfresh⟩ := V.init _ hs
    exact ⟨hinv, fun t _ => hfresh t, fun t p hp => by simp at hp⟩
  | step _ hstep ih => exact ih.step V hstep

/-- **Soundness, states**: `inv` holds in every reachable state. -/
theorem sound (V : R.Verified sem start init post)
    (h : Reachable sem start init c) : R.inv c.shared :=
  (Good.reachable V h).inv

/-- **Soundness, steps**: a step from a reachable state leaves the shared state
alone, or is one of the environment, or one some thread's guarantee allows. -/
theorem sound_step (V : R.Verified sem start init post) {c' : Config σ Op Reply α}
    (h : Reachable sem start init c) (hstep : Step sem start c c') :
    c'.shared = c.shared ∨ sem.env c.shared c'.shared ∨ ∃ t, R.guar t c.shared c'.shared := by
  have hc := Good.reachable V h
  cases hstep with
  | spawn => exact .inl rfl
  | serve t _ _ r s' hrun hexec =>
    exact .inr (.inr ⟨t, (hc.running t _ hrun c.shared .refl hc.inv r s' hexec).2.1⟩)
  | crash => exact .inl rfl
  | env _ henv => exact .inr (.inl henv)

/-- **Soundness, results**: a thread that has returned satisfies `post`. -/
theorem sound_ret (V : R.Verified sem start init post) (h : Reachable sem start init c) {t : Tid}
    {a : α} (hret : c.threads t = .running (.ret a)) : post t a c.shared :=
  (Good.reachable V h).running t _ hret

/-! ### Triples -/

variable (R sem)

/-- From a state in `P`, thread `t` runs `p` safely and returns in `Q`.  The
invariant is there at both ends. -/
def Triple (t : Tid) (P : σ → Prop) (p : Prog Op Reply α) (Q : α → σ → Prop) : Prop :=
  ∀ s, R.inv s → P s → R.wp sem t p (fun a s => R.inv s ∧ Q a s) s

variable {R sem} {Q Q' : α → σ → Prop}

theorem Triple.wp (h : R.Triple sem t P p Q) {s : σ} (hi : R.inv s) (hP : P s) : R.wp sem t p Q s :=
  wp_mono (fun _ _ hQ => hQ.2) (h s hi hP)

theorem Triple.ret {a : α} (h : ∀ s, R.inv s → P s → Q a s) : R.Triple sem t P (.ret a) Q :=
  fun s hi hP => ⟨hi, h s hi hP⟩

theorem Triple.stop : R.Triple sem t P (.stop : Prog Op Reply α) Q := fun _ _ _ => trivial

theorem Triple.conseq (h : R.Triple sem t P p Q) (hP : ∀ s, R.inv s → P' s → P s)
    (hQ : ∀ a s, R.inv s → Q a s → Q' a s) : R.Triple sem t P' p Q' :=
  fun s hi hs => wp_mono (fun a s h => ⟨h.1, hQ a s h.1 h.2⟩) (h s hi (hP s hi hs))

theorem Triple.bind {f : α → Prog Op Reply β} {M : α → σ → Prop}
    {Q : β → σ → Prop} (hp : R.Triple sem t P p M) (hf : ∀ a, R.Triple sem t (M a) (f a) Q) :
    R.Triple sem t P (p >>= f) Q :=
  fun s hi hs => wp_bind (wp_mono (fun a s hM => hf a s hM.1 hM.2) (hp s hi hs))

/-- The rule for a request: the precondition is stable, and serving the
request from it keeps the rules and leads to `M`. -/
theorem Triple.request {op : Op} {M : Reply op → σ → Prop} (hP : R.Stable sem t P)
    (h : ∀ s r s', R.inv s → P s → sem.exec t op s r s' → R.inv s' ∧ R.guar t s s' ∧ M r s') :
    R.Triple sem t P (Prog.request op) M := by
  intro s _ hs s₁ hrely hinv r s₂ hexec
  obtain ⟨hi, hg, hM⟩ := h s₁ r s₂ hinv (hP.rely hs hrely) hexec
  exact ⟨hi, hg, hi, hM⟩

/-! ### Fallible code -/

/-- A triple for fallible code, with one postcondition for success and one
for failure. -/
def TripleE (R : Rules σ) (sem : Sem σ Op Reply) (t : Tid) (P : σ → Prop)
    (x : ExceptT ε (Prog Op Reply) α) (Q : α → σ → Prop) (E : ε → σ → Prop) : Prop :=
  R.Triple sem t P x.run fun
    | .ok a, s => Q a s
    | .error e, s => E e s

variable {E E' : ε → σ → Prop} {x : ExceptT ε (Prog Op Reply) α}

theorem TripleE.pure {a : α} (h : ∀ s, R.inv s → P s → Q a s) :
    R.TripleE sem t P (Pure.pure a) Q E := Triple.ret h

theorem TripleE.throw {e : ε} (h : ∀ s, R.inv s → P s → E e s) :
    R.TripleE sem t P (throw e : ExceptT ε (Prog Op Reply) α) Q E := Triple.ret h

theorem TripleE.conseq (h : R.TripleE sem t P x Q E) (hP : ∀ s, R.inv s → P' s → P s)
    (hQ : ∀ a s, R.inv s → Q a s → Q' a s) (hE : ∀ e s, R.inv s → E e s → E' e s) :
    R.TripleE sem t P' x Q' E' := by
  refine Triple.conseq h hP fun r s hi hr => ?_
  cases r with
  | ok a => exact hQ a s hi hr
  | error e => exact hE e s hi hr

theorem TripleE.pre (h : R.TripleE sem t P x Q E) (hP : ∀ s, R.inv s → P' s → P s) :
    R.TripleE sem t P' x Q E :=
  h.conseq hP (fun _ _ _ h => h) fun _ _ _ h => h

theorem TripleE.mono (h : R.TripleE sem t P x Q E) (hQ : ∀ a s, Q a s → Q' a s) :
    R.TripleE sem t P x Q' E :=
  h.conseq (fun _ _ h => h) (fun a s _ => hQ a s) fun _ _ _ h => h

/-- A precondition that does not speak of the state is a hypothesis. -/
theorem TripleE.hyp {φ : Prop} (h : φ → R.TripleE sem t P x Q E) :
    R.TripleE sem t (fun s => φ ∧ P s) x Q E :=
  fun s hi hs => h hs.1 s hi hs.2

theorem TripleE.bind {M : α → σ → Prop} {Q : β → σ → Prop} (hx : R.TripleE sem t P x M E)
    (hf : ∀ a, R.TripleE sem t (M a) (f a) Q E) : R.TripleE sem t P (x >>= f) Q E := by
  refine Triple.bind hx fun r => ?_
  cases r with
  | ok a => exact hf a
  | error => exact Triple.ret fun _ _ h => h

theorem TripleE.lift (h : R.Triple sem t P p Q) : R.TripleE sem t P (ExceptT.lift p) Q E :=
  Triple.bind h fun _ => Triple.ret fun _ _ h => h

theorem TripleE.perform {op : Op} {M : Reply op → σ → Prop} (hP : R.Stable sem t P)
    (h : ∀ s r s', R.inv s → P s → sem.exec t op s r s' → R.inv s' ∧ R.guar t s s' ∧ M r s') :
    R.TripleE sem t P (Prog.perform op) M E :=
  TripleE.lift (Triple.request hP h)

theorem TripleE.check {y : Except ε α} (hok : ∀ a, y = .ok a → ∀ s, R.inv s → P s → Q a s)
    (herr : ∀ e, y = .error e → ∀ s, R.inv s → P s → E e s) :
    R.TripleE sem t P (Prog.check y) Q E := by
  refine Triple.ret fun s hi hs => ?_
  cases y with
  | ok a => exact hok a rfl s hi hs
  | error e => exact herr e rfl s hi hs

/-- Code behind a pure check runs with its result. -/
theorem TripleE.check_bind {y : Except ε α}
    {Q : β → σ → Prop} (hf : ∀ a, y = .ok a → R.TripleE sem t P (f a) Q E)
    (herr : ∀ e s, R.inv s → P s → E e s) : R.TripleE sem t P (Prog.check y >>= f) Q E := by
  cases y with
  | ok a => exact hf a rfl
  | error e => exact TripleE.throw (herr e)

/-- The same two where nothing is asked of an error. -/
theorem TripleE.check_any {y : Except ε α}
    {Q : β → σ → Prop} (hf : ∀ a, y = .ok a → R.TripleE sem t P (f a) Q fun _ _ => True) :
    R.TripleE sem t P (Prog.check y >>= f) Q fun _ _ => True :=
  .check_bind hf fun _ _ _ _ => trivial

/-- Behind a check whose result is not used. -/
theorem TripleE.skip {y : Except ε α}
    {Q : β → σ → Prop} (hf : ∀ {a}, R.TripleE sem t P (f a) Q fun _ _ => True) :
    R.TripleE sem t P (Prog.check y >>= f) Q fun _ _ => True := .check_any fun _ _ => hf

/-- Code of which only the requests matter. -/
abbrev SafeE (R : Rules σ) (sem : Sem σ Op Reply) (t : Tid) (P : σ → Prop)
    (x : ExceptT ε (Prog Op Reply) α) : Prop :=
  R.TripleE sem t P x (fun _ _ => True) fun _ _ => True

theorem TripleE.checked {y : Except ε α} :
    R.SafeE sem t P (Prog.check y : ExceptT ε (Prog Op Reply) α) :=
  .check (fun _ _ _ _ _ => trivial) fun _ _ _ _ _ => trivial

theorem TripleE.throw_any {e : ε} :
    R.TripleE sem t P (MonadExcept.throw e : ExceptT ε (Prog Op Reply) α) Q fun _ _ => True :=
  .throw fun _ _ _ => trivial

theorem TripleE.outOfRounds :
    R.TripleE sem t P (Prog.outOfRounds : ExceptT ε (Prog Op Reply) α) Q E :=
  Triple.stop

theorem TripleE.attempt (h : R.TripleE sem t P x Q E) : R.TripleE sem t P (Prog.attempt x)
      (fun r s => match r with | .ok a => Q a s | .error e => E e s) E' :=
  TripleE.lift (Triple.conseq h (fun _ _ h => h) fun r s _ hr => by cases r <;> exact hr)

theorem TripleE.withErr {f : ε → ε} (h : R.TripleE sem t P x Q E')
    (hE : ∀ e s, R.inv s → E' e s → E (f e) s) : R.TripleE sem t P (Prog.withErr x f) Q E := by
  refine TripleE.bind (TripleE.attempt h) fun r => ?_
  cases r with
  | ok => exact TripleE.pure fun _ _ h => h
  | error e => exact TripleE.throw (hE e)

/-- A triple is what starting a thread asks for. -/
theorem TripleE.wp (h : R.TripleE sem t P x Q E) {s : σ} (hi : R.inv s) (hP : P s)
    {post : Except ε α → σ → Prop} (hQ : ∀ a s, Q a s → post (.ok a) s)
    (hE : ∀ e s, E e s → post (.error e) s) : R.wp sem t x.run post s := by
  refine wp_mono (fun r s hr => ?_) (Triple.wp h hi hP)
  cases r with
  | ok a => exact hQ a s hr
  | error e => exact hE e s hr

-- From here on code is walked through by the rules above only.
attribute [irreducible] Triple TripleE

end Rules

/-! ### Runs by computation -/

/-- Answers to requests of thread `t`, each one the system may give; `none`
where the driver has no answer. -/
structure Sem.Driver (sem : Sem σ Op Reply) (t : Tid) where
  answer : (op : Op) → σ → Option (Reply op × σ)
  sound : ∀ op s r s', answer op s = some (r, s') → sem.exec t op s r s'

namespace Sem.Driver

variable {sem : Sem σ Op Reply} {t : Tid} (D : sem.Driver t)

/-- The next `n` requests of a program are answered, or as many as the driver
has answers for. -/
def drive : ℕ → σ → Prog Op Reply α → σ × Prog Op Reply α
  | n + 1, s, .call op next =>
    match D.answer op s with
    | some (r, s') => drive n s' (next r)
    | none => (s, .call op next)
  | 0, s, p => (s, p)
  | _ + 1, s, p => (s, p)

/-- Drivers of different systems with the same answers. -/
theorem drive_congr {sem' : Sem σ Op Reply} {t' : Tid} (D' : sem'.Driver t')
    (h : ∀ op s, D.answer op s = D'.answer op s) (n : ℕ) (s : σ) (p : Prog Op Reply α) :
    D.drive n s p = D'.drive n s p := by
  induction n generalizing s p with
  | zero => cases p <;> rfl
  | succ _ ih =>
    cases p with
    | ret => rfl
    | stop => rfl
    | call op =>
      simp only [drive, h op s]
      split
      · exact ih _ _
      · rfl

/-- A driven thread makes a run. -/
theorem reachable_drive {start : Tid → Prog Op Reply α → Prop} {init : σ → Prop} (n : ℕ)
    {c : Config σ Op Reply α} {p : Prog Op Reply α} (h : Reachable sem start init c)
    (hrun : c.threads t = .running p) : Reachable sem start init ⟨(D.drive n c.shared p).1,
      update c.threads t (.running (D.drive n c.shared p).2)⟩ := by
  induction n generalizing c p with
  | zero =>
    have hc : update c.threads t (.running p) = c.threads := by
      rw [← hrun, update_eq_self]
    simpa only [drive, hc] using h
  | succ _ ih =>
    cases p with
    | ret => simpa only [drive, ← hrun, update_eq_self] using h
    | stop => simpa only [drive, ← hrun, update_eq_self] using h
    | call op =>
      rcases hans : D.answer op c.shared with - | ⟨r, s'⟩
      · simpa only [drive, hans, ← hrun, update_eq_self] using h
      · have hstep := h.serve t op r hrun (D.sound op c.shared r s' hans)
        simpa only [drive, hans, update_idem] using ih hstep (update_self ..)

section

variable {start : Tid → Prog Op Reply α → Prop} {init : σ → Prop} {n : ℕ} {s : σ}
  {threads : Tid → Thread Op Reply α} {p : Prog Op Reply α} {r : σ × Prog Op Reply α}

/-- The same with the end of the run under a name. -/
theorem resumed (h : Reachable sem start init ⟨s, threads⟩) (hrun : threads t = .running p)
    (hr : D.drive n s p = r) :
    Reachable sem start init ⟨r.1, update threads t (.running r.2)⟩ :=
  hr ▸ D.reachable_drive n h hrun

/-- A thread starts and is driven. -/
theorem started (h : Reachable sem start init ⟨s, threads⟩) (hidle : threads t = .idle)
    (hp : start t p) (hr : D.drive n s p = r) :
    Reachable sem start init ⟨r.1, update threads t (.running r.2)⟩ := by
  have hspawned := D.resumed (h.step (.spawn t p hidle hp)) (update_self ..) hr
  rwa [update_idem] at hspawned

end

/-- The answers that are still possible under a condition on the requests,
where it can be checked. -/
def restrict {cond : Tid → Op → σ → Prop} (meets : Op → σ → Bool)
    (hmeets : ∀ op s, meets op s = true → cond t op s) : (sem.restrict cond).Driver t where
  answer op s := if meets op s then D.answer op s else none
  sound op s r s' h := by
    split at h
    · next hcond => exact ⟨hmeets op s hcond, D.sound op s r s' h⟩
    · cases h

end Sem.Driver

end InSpaceKube
