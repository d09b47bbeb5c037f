/-
InSpaceKube/Prog/Habit.lean

What a program asks for, given what it has been told.

A `Contract` permits a request or does not, whatever came before.  A `Habit`
looks at the trace of the program: the requests it has issued so far with
their replies, newest first.  "It writes only what it has planned from an
object it has read" is a habit.  `Habit.Follows p tr Q`: run from the trace
`tr`, `p` issues only requests that its trace permits by then, and what it
returns is in `Q` together with the trace at the end.

The rules name the trace instead of a precondition on it.  Facts about a trace
are hypotheses, and code that runs on has a longer one (`⊆` in the rule for
bind), so what has been learnt is never forgotten.

`Rules.Upholds` connects a habit to a system of threads: `know t tr` is what
thread `t` knows of the shared state after the trace `tr`.  `Rules.Honours` is
the case where every reply tells something of its own: `fact t e` for the
event `e`.  `Rules.wp_of_upheld` and `Rules.wp_of_follows` make a safe thread
of a program with the habit.  `Tracks.sound` is for threads with different
habits, and says of each request about to be served that it is permitted.
-/
import InSpaceKube.Prog.Uses

namespace InSpaceKube

variable {Op : Type} {Reply : Op → Type} {α β ε σ : Type}

/-- A request that has been served, and the reply it got. -/
structure Event (Op : Type) (Reply : Op → Type) where
  op : Op
  reply : Reply op

/-- What a program has asked and been told, newest first. -/
abbrev Trace (Op : Type) (Reply : Op → Type) := List (Event Op Reply)

/-- Permitted requests, given the trace, and the replies that may be counted on. -/
structure Habit (Op : Type) (Reply : Op → Type) where
  ok : Trace Op Reply → Op → Prop
  rep : (op : Op) → Reply op → Prop

namespace Habit

variable (H : Habit Op Reply)

/-- From the trace `tr` on, `p` has the habit and returns in `Q`. -/
def Follows : Prog Op Reply α → Trace Op Reply → (α → Trace Op Reply → Prop) → Prop
  | .ret a, tr, Q => Q a tr
  | .stop, _, _ => True
  | .call op next, tr, Q => H.ok tr op ∧ ∀ r, H.rep op r → Follows (next r) (⟨op, r⟩ :: tr) Q

variable {H} {Q Q' : α → Trace Op Reply → Prop} {tr : Trace Op Reply} {p : Prog Op Reply α}

theorem follows_call {op : Op} {next : Reply op → Prog Op Reply α} :
    H.Follows (.call op next) tr Q ↔
      H.ok tr op ∧ ∀ r, H.rep op r → H.Follows (next r) (⟨op, r⟩ :: tr) Q := Iff.rfl

/-- What is returned comes with a trace that continues the given one. -/
theorem Follows.mono (hp : H.Follows p tr Q) (hQ : ∀ a tr', tr ⊆ tr' → Q a tr' → Q' a tr') :
    H.Follows p tr Q' := by
  induction p generalizing tr with
  | ret a => exact hQ a tr (List.Subset.refl tr) hp
  | stop => trivial
  | call _ _ ih =>
    refine ⟨hp.1, fun r hr => ih r (hp.2 r hr) fun a tr' hsub => hQ a tr' ?_⟩
    exact List.Subset.trans (List.subset_cons_self _ tr) hsub

/-- A habit is also any habit that permits more. -/
theorem Follows.weaken {H' : Habit Op Reply} (hp : H.Follows p tr Q)
    (hok : ∀ tr op, H.ok tr op → H'.ok tr op) (hrep : ∀ op r, H'.rep op r → H.rep op r) :
    H'.Follows p tr Q := by
  induction p generalizing tr with
  | ret => exact hp
  | stop => trivial
  | call op _ ih => exact ⟨hok tr op hp.1, fun r hr => ih r (hp.2 r (hrep op r hr))⟩

theorem Follows.bind {f : α → Prog Op Reply β} {Q : β → Trace Op Reply → Prop}
    {M : α → Trace Op Reply → Prop} (hp : H.Follows p tr M)
    (hf : ∀ a tr', tr ⊆ tr' → M a tr' → H.Follows (f a) tr' Q) : H.Follows (p >>= f) tr Q := by
  induction p generalizing tr with
  | ret a => exact hf a tr (List.Subset.refl tr) hp
  | stop => trivial
  | call _ _ ih =>
    refine ⟨hp.1, fun r hr => ih r (hp.2 r hr) fun a tr' hsub => hf a tr' ?_⟩
    exact List.Subset.trans (List.subset_cons_self _ tr) hsub

/-- Fallible code with the habit; nothing is said of its errors. -/
def FollowsE (H : Habit Op Reply) (x : ExceptT ε (Prog Op Reply) α) (tr : Trace Op Reply)
    (Q : α → Trace Op Reply → Prop) : Prop :=
  H.Follows x.run tr fun r tr' => match r with
    | .ok a => Q a tr'
    | .error _ => True

variable {x : ExceptT ε (Prog Op Reply) α}

theorem FollowsE.pure {a : α} (h : Q a tr) :
    H.FollowsE (Pure.pure a : ExceptT ε (Prog Op Reply) α) tr Q := h

theorem FollowsE.throw {e : ε} : H.FollowsE (throw e : ExceptT ε (Prog Op Reply) α) tr Q := trivial

theorem FollowsE.mono (hx : H.FollowsE x tr Q) (hQ : ∀ a tr', tr ⊆ tr' → Q a tr' → Q' a tr') :
    H.FollowsE x tr Q' := by
  refine Follows.mono hx fun r tr' hsub hr => ?_
  cases r with
  | ok a => exact hQ a tr' hsub hr
  | error => trivial

/-- Fallible code as a program that returns its error. -/
theorem FollowsE.run {Q' : Except ε α → Trace Op Reply → Prop} (hx : H.FollowsE x tr Q)
    (hok : ∀ a tr', Q a tr' → Q' (.ok a) tr') (herr : ∀ e tr', Q' (.error e) tr') :
    H.Follows x.run tr Q' := by
  refine Follows.mono hx fun r tr' _ hr => ?_
  cases r with
  | ok a => exact hok a tr' hr
  | error e => exact herr e tr'

theorem FollowsE.weaken {H' : Habit Op Reply} (hx : H.FollowsE x tr Q)
    (hok : ∀ tr op, H.ok tr op → H'.ok tr op) (hrep : ∀ op r, H'.rep op r → H.rep op r) :
    H'.FollowsE x tr Q := Follows.weaken hx hok hrep

theorem FollowsE.bind {f : α → ExceptT ε (Prog Op Reply) β} {M : α → Trace Op Reply → Prop}
    {Q : β → Trace Op Reply → Prop} (hx : H.FollowsE x tr M)
    (hf : ∀ a tr', tr ⊆ tr' → M a tr' → H.FollowsE (f a) tr' Q) : H.FollowsE (x >>= f) tr Q := by
  refine Follows.bind hx fun r tr' hsub hr => ?_
  cases r with
  | ok a => exact hf a tr' hsub hr
  | error => trivial

theorem FollowsE.perform {op : Op} (hop : H.ok tr op) :
    H.FollowsE (Prog.perform op : ExceptT ε (Prog Op Reply) (Reply op)) tr
      fun r tr' => H.rep op r ∧ tr' = ⟨op, r⟩ :: tr :=
  ⟨hop, fun _ hr => ⟨hr, rfl⟩⟩

/-- A request, and what follows it. -/
theorem FollowsE.perform_bind {op : Op} {f : Reply op → ExceptT ε (Prog Op Reply) β}
    {Q : β → Trace Op Reply → Prop} (hop : H.ok tr op)
    (hf : ∀ r, H.rep op r → H.FollowsE (f r) (⟨op, r⟩ :: tr) Q) :
    H.FollowsE (Prog.perform op >>= f) tr Q :=
  ⟨hop, hf⟩

theorem FollowsE.check {y : Except ε α} (hy : ∀ a, y = .ok a → Q a tr) :
    H.FollowsE (Prog.check y : ExceptT ε (Prog Op Reply) α) tr Q := by
  cases y with
  | ok a => exact hy a rfl
  | error => trivial

/-- Code behind a pure check runs with its result. -/
theorem FollowsE.check_bind {y : Except ε α} {f : α → ExceptT ε (Prog Op Reply) β}
    {Q : β → Trace Op Reply → Prop} (hf : ∀ a, y = .ok a → H.FollowsE (f a) tr Q) :
    H.FollowsE (Prog.check y >>= f) tr Q := by
  cases y with
  | ok a => exact hf a rfl
  | error => trivial

/-- What is returned last says nothing. -/
theorem FollowsE.done {f : α → β} (hx : H.FollowsE x tr Q) :
    H.FollowsE (x >>= fun a => Pure.pure (f a)) tr fun _ _ => True :=
  hx.bind fun _ _ _ _ => .pure trivial

/-- Behind a check whose result is not used. -/
theorem FollowsE.skip {y : Except ε α} {f : α → ExceptT ε (Prog Op Reply) β}
    {Q : β → Trace Op Reply → Prop} (hf : ∀ {a}, H.FollowsE (f a) tr Q) :
    H.FollowsE (Prog.check y >>= f) tr Q := .check_bind fun _ _ => hf

theorem FollowsE.outOfRounds :
    H.FollowsE (Prog.outOfRounds : ExceptT ε (Prog Op Reply) α) tr Q := trivial

theorem FollowsE.attempt (hx : H.FollowsE x tr Q) :
    H.FollowsE (Prog.attempt x) tr fun r tr' => ∀ a, r = .ok a → Q a tr' := by
  refine Follows.bind hx fun r tr' _ hr => ?_
  rintro a rfl
  exact hr

theorem FollowsE.withErr (hx : H.FollowsE x tr Q) (f : ε → ε) :
    H.FollowsE (Prog.withErr x f) tr Q := by
  refine FollowsE.bind (FollowsE.attempt hx) fun r tr' _ hr => ?_
  cases r with
  | ok a => exact FollowsE.pure (hr a rfl)
  | error => exact FollowsE.throw

section Embed

variable {Op' : Type} {Reply' : Op' → Type} {H' : Habit Op' Reply'} {f : Op → Op'}
  {g : (op : Op) → Reply' (f op) → Reply op} {view : Trace Op' Reply' → Trace Op Reply}

/-- Code keeps its habits over a larger set of requests: `view` picks its own
requests out of a trace. -/
theorem Follows.embed (hok : ∀ tr op, H.ok (view tr) op → H'.ok tr (f op))
    (hrep : ∀ op r, H'.rep (f op) r → H.rep op (g op r))
    (hview : ∀ tr op r, view (⟨f op, r⟩ :: tr) = ⟨op, g op r⟩ :: view tr)
    {tr : Trace Op' Reply'} (hp : H.Follows p (view tr) Q) :
    H'.Follows (p.embed f g) tr fun a tr' => Q a (view tr') := by
  induction p generalizing tr with
  | ret => exact hp
  | stop => trivial
  | call op _ ih =>
    refine ⟨hok tr op hp.1, fun r hr => ih (g op r) ?_⟩
    rw [hview]
    exact hp.2 (g op r) (hrep op r hr)

theorem FollowsE.embed (hok : ∀ tr op, H.ok (view tr) op → H'.ok tr (f op))
    (hrep : ∀ op r, H'.rep (f op) r → H.rep op (g op r))
    (hview : ∀ tr op r, view (⟨f op, r⟩ :: tr) = ⟨op, g op r⟩ :: view tr)
    {tr : Trace Op' Reply'} (hx : H.FollowsE x (view tr) Q) :
    H'.FollowsE (ExceptT.mk (x.run.embed f g)) tr fun a tr' => Q a (view tr') := by
  refine Follows.mono (Follows.embed hok hrep hview hx) fun r tr' _ hr => ?_
  cases r with
  | ok => exact hr
  | error => trivial

/-- No request is out of bounds, and no reply is promised. -/
def free : Habit Op Reply := ⟨fun _ _ => True, fun _ _ => True⟩

theorem free_follows (p : Prog Op Reply α) (tr : Trace Op Reply) :
    free.Follows p tr fun _ tr' => ∃ own, tr' = own ++ tr := by
  induction p generalizing tr with
  | ret => exact ⟨[], rfl⟩
  | stop => trivial
  | call op _ ih =>
    refine ⟨trivial, fun r _ => (ih r _).mono fun a tr' _ h => ?_⟩
    obtain ⟨own, rfl⟩ := h
    exact ⟨own ++ [⟨op, r⟩], by simp⟩

theorem free_followsE (x : ExceptT ε (Prog Op Reply) α) (tr : Trace Op Reply) :
    free.FollowsE x tr fun _ tr' => ∃ own, tr' = own ++ tr :=
  (free_follows x.run tr).mono fun r _ _ h => by cases r with
    | ok => exact h
    | error => trivial

variable {g' : (op : Op) → Reply op → Reply' (f op)}

/-- A trace of code, over the larger set of requests. -/
def embedTrace (f : Op → Op') (g' : (op : Op) → Reply op → Reply' (f op)) (tr : Trace Op Reply) :
    Trace Op' Reply' :=
  tr.map fun e => ⟨f e.op, g' e.op e.reply⟩

/-- Code over requests that are always permitted: what it asks for is added to
the trace, and nothing else is, however the code ends. -/
theorem Follows.embed_free (hg : ∀ op r, g' op (g op r) = r) (hok : ∀ tr op, H'.ok tr (f op))
    {own : Trace Op Reply} (hp : free.Follows p own Q) {tr : Trace Op' Reply'} :
    H'.Follows (p.embed f g) (embedTrace f g' own ++ tr) fun a tr' =>
      ∃ own', Q a own' ∧ tr' = embedTrace f g' own' ++ tr := by
  induction p generalizing own with
  | ret => exact ⟨own, hp, rfl⟩
  | stop => trivial
  | call op _ ih =>
    refine ⟨hok _ op, fun r _ => ?_⟩
    have h := ih (g op r) (hp.2 (g op r) trivial)
    simpa only [embedTrace, List.map_cons, List.cons_append, hg] using h

theorem FollowsE.embed_free (hg : ∀ op r, g' op (g op r) = r) (hok : ∀ tr op, H'.ok tr (f op))
    (hx : free.FollowsE x [] Q) {tr : Trace Op' Reply'} :
    H'.FollowsE (ExceptT.mk (x.run.embed f g)) tr fun a tr' =>
      ∃ own, Q a own ∧ tr' = embedTrace f g' own ++ tr := by
  refine Follows.mono (Follows.embed_free hg hok hx) fun r tr' _ hr => ?_
  cases r with
  | ok => exact hr
  | error => trivial

/-- The same for code whose error is looked at. -/
theorem FollowsE.attempt_embed_free (hg : ∀ op r, g' op (g op r) = r)
    (hok : ∀ tr op, H'.ok tr (f op)) (hx : free.FollowsE x [] Q) {tr : Trace Op' Reply'} :
    H'.FollowsE (Prog.attempt (ExceptT.mk (x.run.embed f g))) tr fun r tr' =>
      ∃ own, (∀ a, r = .ok a → Q a own) ∧ tr' = embedTrace f g' own ++ tr := by
  refine Follows.bind (Follows.embed_free hg hok hx) fun r tr' _ hr => ?_
  obtain ⟨own, hown, rfl⟩ := hr
  refine ⟨own, ?_, rfl⟩
  rintro a rfl
  exact hown

end Embed

/-- Answered as in the trace, the program returns `a`; `tr'` is the trace at the
end. -/
inductive Ends (a : α) (tr' : Trace Op Reply) : Prog Op Reply α → Trace Op Reply → Prop
  | ret : Ends a tr' (.ret a) tr'
  | call {op : Op} {next : Reply op → Prog Op Reply α} {tr : Trace Op Reply} (r : Reply op) :
      Ends a tr' (next r) (⟨op, r⟩ :: tr) → Ends a tr' (.call op next) tr

theorem Ends.subset {a : α} {tr' : Trace Op Reply} (h : Ends a tr' p tr) : tr ⊆ tr' := by
  induction h with
  | ret => exact List.Subset.refl _
  | call r _ ih => exact List.Subset.trans (List.subset_cons_self _ _) ih

/-- What is returned on replies that may be counted on. -/
theorem Follows.ends (hp : H.Follows p tr Q) {a : α} {tr' : Trace Op Reply} (h : Ends a tr' p tr)
    (hrep : ∀ e ∈ tr', H.rep e.op e.reply) : Q a tr' := by
  induction h with
  | ret => exact hp
  | call r h ih => exact ih (hp.2 r (hrep _ (h.subset (.head _))))

/-- The same for fallible code that does not fail. -/
theorem FollowsE.ends (hx : H.FollowsE x tr Q) {a : α} {tr' : Trace Op Reply}
    (h : Ends (.ok a) tr' x.run tr) (hrep : ∀ e ∈ tr', H.rep e.op e.reply) : Q a tr' :=
  Follows.ends hx h hrep

end Habit

namespace Rules

variable {R : Rules σ} {sem : Sem σ Op Reply} {t : Tid} {H : Habit Op Reply}
  {fact : Tid → Event Op Reply → σ → Prop}

/-- A request that the trace permits keeps the rules and is answered as
promised; `know` is what a thread with a given trace knows of the state. -/
structure Upholds (R : Rules σ) (sem : Sem σ Op Reply) (H : Habit Op Reply)
    (know : Tid → Trace Op Reply → σ → Prop) : Prop where
  stable : ∀ t tr, R.Stable sem t (know t tr)
  step : ∀ t tr op s r s', H.ok tr op → R.inv s → know t tr s → sem.exec t op s r s' →
    R.inv s' ∧ R.guar t s s' ∧ H.rep op r ∧ know t (⟨op, r⟩ :: tr) s'

/-- A program with the habit is safe.  What it returns comes with what it knows. -/
theorem wp_of_upheld {know : Tid → Trace Op Reply → σ → Prop} (hH : R.Upholds sem H know)
    {p : Prog Op Reply α} {tr : Trace Op Reply} {Q : α → Trace Op Reply → Prop}
    (hp : H.Follows p tr Q) {s : σ} (hi : R.inv s) (hs : know t tr s) :
    R.wp sem t p (fun a s => ∃ tr', Q a tr' ∧ know t tr' s) s := by
  induction p generalizing tr s with
  | ret => exact ⟨tr, hp, hs⟩
  | stop => trivial
  | call op _ ih =>
    intro s₁ hrely hi₁ r s₂ hexec
    obtain ⟨hi₂, hguar, hrep, hs₂⟩ :=
      hH.step t tr op s₁ r s₂ hp.1 hi₁ ((hH.stable t tr).rely hs hrely) hexec
    exact ⟨hi₂, hguar, ih r (hp.2 r hrep) hi₂ hs₂⟩

/-- The same where each reply tells something of its own, and for good. -/
structure Honours (R : Rules σ) (sem : Sem σ Op Reply) (H : Habit Op Reply)
    (fact : Tid → Event Op Reply → σ → Prop) : Prop where
  stable : ∀ t e, R.Stable sem t (fact t e)
  step : ∀ t tr op s r s', H.ok tr op → R.inv s → (∀ e ∈ tr, fact t e s) →
    sem.exec t op s r s' →
    R.inv s' ∧ R.guar t s s' ∧ H.rep op r ∧ (∀ e ∈ tr, fact t e s') ∧ fact t ⟨op, r⟩ s'

theorem Honours.upholds (hH : R.Honours sem H fact) :
    R.Upholds sem H fun t tr s => ∀ e ∈ tr, fact t e s where
  stable := fun t tr s s' h hstep e he => hH.stable t e s s' (h e he) hstep
  step := fun t tr op s r s' hok hi hs hexec => by
    obtain ⟨hi', hguar, hrep, hold, hnew⟩ := hH.step t tr op s r s' hok hi hs hexec
    exact ⟨hi', hguar, hrep, List.forall_mem_cons.2 ⟨hnew, hold⟩⟩

theorem wp_of_follows (hH : R.Honours sem H fact) {p : Prog Op Reply α} {tr : Trace Op Reply}
    {Q : α → Trace Op Reply → Prop} (hp : H.Follows p tr Q) {s : σ} (hi : R.inv s)
    (hs : ∀ e ∈ tr, fact t e s) :
    R.wp sem t p (fun a s => ∃ tr', Q a tr' ∧ ∀ e ∈ tr', fact t e s) s :=
  wp_of_upheld hH.upholds hp hi hs

end Rules

/-! ### Threads with habits of their own -/

section Tracked

variable {sem : Sem σ Op Reply} {H : Tid → Habit Op Reply} {I : σ → Prop}
  {know : Tid → Trace Op Reply → σ → Prop} {start : Tid → Prog Op Reply α → Prop} {init : σ → Prop}

/-- Every running thread has come along a trace that it knows of and from which
its program has the thread's habit. -/
structure Tracked (H : Tid → Habit Op Reply) (I : σ → Prop)
    (know : Tid → Trace Op Reply → σ → Prop) (c : Config σ Op Reply α) : Prop where
  inv : I c.shared
  running : ∀ t p, c.threads t = .running p →
    ∃ tr, know t tr c.shared ∧ (H t).Follows p tr fun _ _ => True

/-- A thread about to be served asks for something that such a trace permits. -/
theorem Tracked.ok {c : Config σ Op Reply α} (h : Tracked H I know c) {t : Tid} {op : Op}
    {next : Reply op → Prog Op Reply α} (hrun : c.threads t = .running (.call op next)) :
    ∃ tr, know t tr c.shared ∧ (H t).ok tr op := by
  obtain ⟨tr, hknow, hfollows⟩ := h.running t _ hrun
  exact ⟨tr, hknow, (Habit.follows_call.1 hfollows).1⟩

/-- What has to be shown of a system in which thread `t` has the habit `H t`:
what is known stays known, and a permitted request keeps `I`. -/
structure Tracks (sem : Sem σ Op Reply) (H : Tid → Habit Op Reply) (I : σ → Prop)
    (know : Tid → Trace Op Reply → σ → Prop) (start : Tid → Prog Op Reply α → Prop)
    (init : σ → Prop) : Prop where
  init : ∀ s, init s → I s
  start : ∀ t p s, start t p → know t [] s ∧ (H t).Follows p [] fun _ _ => True
  env : ∀ s s', I s → sem.env s s' → I s' ∧ ∀ t tr, know t tr s → know t tr s'
  step : ∀ t tr op s r s', (H t).ok tr op → I s → know t tr s → sem.exec t op s r s' →
    I s' ∧ (H t).rep op r ∧ know t (⟨op, r⟩ :: tr) s' ∧ ∀ u tr', know u tr' s → know u tr' s'

/-- **Soundness** of habits that differ from thread to thread. -/
theorem Tracks.sound (V : Tracks sem H I know start init) {c : Config σ Op Reply α}
    (h : Reachable sem start init c) : Tracked H I know c := by
  induction h with
  | init hs => exact ⟨V.init _ hs, fun t p hp => by simp at hp⟩
  | @step c c' _ hs ih =>
    cases hs with
    | spawn t p hidle hp =>
      refine ⟨ih.inv, fun u q hq => ?_⟩
      rcases eq_or_ne u t with rfl | hne
      · obtain rfl : p = q := by simpa using hq
        exact ⟨[], V.start u p _ hp⟩
      · exact ih.running u q (by simpa [Function.update_of_ne hne] using hq)
    | serve t op next r s' hrun hexec =>
      obtain ⟨tr, hknow, hfollows⟩ := ih.running t _ hrun
      obtain ⟨hok, hnext⟩ := Habit.follows_call.1 hfollows
      obtain ⟨hI, hrep, hmore, hkeep⟩ := V.step t tr op _ r s' hok ih.inv hknow hexec
      refine ⟨hI, fun u q hq => ?_⟩
      rcases eq_or_ne u t with rfl | hne
      · obtain rfl : next r = q := by simpa using hq
        exact ⟨_, hmore, hnext r hrep⟩
      · obtain ⟨tr', hknow', hfollows'⟩ :=
          ih.running u q (by simpa [Function.update_of_ne hne] using hq)
        exact ⟨tr', hkeep u tr' hknow', hfollows'⟩
    | crash t =>
      refine ⟨ih.inv, fun u q hq => ?_⟩
      rcases eq_or_ne u t with rfl | hne
      · simp at hq
      · exact ih.running u q (by simpa [Function.update_of_ne hne] using hq)
    | env _ hmove =>
      obtain ⟨hI, hkeep⟩ := V.env _ _ ih.inv hmove
      refine ⟨hI, fun u q hq => ?_⟩
      obtain ⟨tr, hknow, hfollows⟩ := ih.running u q hq
      exact ⟨tr, hkeep u tr hknow, hfollows⟩

end Tracked

-- From here on code is walked through by the rules above only.
attribute [irreducible] Habit.Follows Habit.FollowsE

end InSpaceKube
