/-
InSpaceKube/Prog/Uses.lean

What a program asks for, whatever it is told.

A `Contract` says which requests may be issued (`ok`), and which replies the
program may count on (`rep`).  `Contract.Uses p Q`: along every path whose
replies keep to the contract, `p` issues only permitted requests, and what it
returns is in `Q`.  No state is involved, so this is the cheap part of an
argument about code that has little to do with it; `Rules.wp_of_usesE` makes
a safe thread of it.
-/
import InSpaceKube.Prog.Threads

namespace InSpaceKube

variable {Op : Type} {Reply : Op → Type} {α β ε σ : Type}

/-- Permitted requests, and the replies that may be counted on. -/
structure Contract (Op : Type) (Reply : Op → Type) where
  ok : Op → Prop
  rep : (op : Op) → Reply op → Prop

namespace Contract

variable (C : Contract Op Reply)

/-- `p` keeps to the contract and returns in `Q`. -/
def Uses : Prog Op Reply α → (α → Prop) → Prop
  | .ret a, Q => Q a
  | .stop, _ => True
  | .call op next, Q => C.ok op ∧ ∀ r, C.rep op r → Uses (next r) Q

variable {C} {Q Q' : α → Prop}

theorem Uses.mono {p : Prog Op Reply α} (hp : C.Uses p Q) (hQ : ∀ a, Q a → Q' a) : C.Uses p Q' := by
  induction p with
  | ret a => exact hQ a hp
  | stop => trivial
  | call _ _ ih => exact ⟨hp.1, fun r hr => ih r (hp.2 r hr)⟩

theorem Uses.bind {p : Prog Op Reply α} {f : α → Prog Op Reply β} {Q : β → Prop}
    {M : α → Prop} (hp : C.Uses p M) (hf : ∀ a, M a → C.Uses (f a) Q) : C.Uses (p >>= f) Q := by
  induction p with
  | ret a => exact hf a hp
  | stop => trivial
  | call _ _ ih => exact ⟨hp.1, fun r hr => ih r (hp.2 r hr)⟩

/-- Every request is permitted, and any reply may come. -/
def free : Contract Op Reply := ⟨fun _ => True, fun _ _ => True⟩

theorem Uses.of_yields {p : Prog Op Reply α} {a : α} (hp : free.Uses p Q) (h : p.Yields a) :
    Q a := by
  induction p with
  | ret => exact h ▸ hp
  | stop => cases h
  | call _ _ ih =>
    obtain ⟨r, hr⟩ := h
    exact ih r (hp.2 r trivial) hr

/-- Fallible code that keeps to the contract; nothing is said of its errors. -/
def UsesE (C : Contract Op Reply) (x : ExceptT ε (Prog Op Reply) α) (Q : α → Prop) : Prop :=
  C.Uses x.run fun
    | .ok a => Q a
    | .error _ => True

/-- The same where nothing is said of what it returns. -/
abbrev Obeys (C : Contract Op Reply) (x : ExceptT ε (Prog Op Reply) α) : Prop :=
  C.UsesE x fun _ => True

variable {x : ExceptT ε (Prog Op Reply) α}

theorem usesE_iff : C.UsesE x Q ↔ C.Uses x.run fun | .ok a => Q a | .error _ => True := Iff.rfl

theorem UsesE.pure {a : α} (h : Q a) : C.UsesE (Pure.pure a : ExceptT ε (Prog Op Reply) α) Q := h

theorem UsesE.throw {e : ε} : C.UsesE (throw e : ExceptT ε (Prog Op Reply) α) Q := trivial

theorem UsesE.mono (hx : C.UsesE x Q) (hQ : ∀ a, Q a → Q' a) : C.UsesE x Q' := by
  refine Uses.mono hx fun r hr => ?_
  cases r with
  | ok a => exact hQ a hr
  | error => trivial

theorem UsesE.bind {f : α → ExceptT ε (Prog Op Reply) β} {M : α → Prop} {Q : β → Prop}
    (hx : C.UsesE x M) (hf : ∀ a, M a → C.UsesE (f a) Q) : C.UsesE (x >>= f) Q := by
  refine Uses.bind hx fun r hr => ?_
  cases r with
  | ok a => exact hf a hr
  | error => trivial

theorem UsesE.perform {op : Op} (hop : C.ok op) :
    C.UsesE (Prog.perform op : ExceptT ε (Prog Op Reply) (Reply op)) (C.rep op) :=
  ⟨hop, fun _ hr => hr⟩

theorem UsesE.check {y : Except ε α} (hy : ∀ a, y = .ok a → Q a) :
    C.UsesE (Prog.check y : ExceptT ε (Prog Op Reply) α) Q := by
  cases y with
  | ok a => exact hy a rfl
  | error => trivial

theorem UsesE.checked {y : Except ε α} :
    C.Obeys (Prog.check y : ExceptT ε (Prog Op Reply) α) := .check fun _ _ => trivial

/-- Behind a check whose result is not used. -/
theorem UsesE.skip {y : Except ε α} {f : α → ExceptT ε (Prog Op Reply) β} {Q : β → Prop}
    (hf : ∀ {a}, C.UsesE (f a) Q) : C.UsesE (Prog.check y >>= f) Q := .bind .checked fun _ _ => hf

theorem UsesE.done {f : α → β} (hx : C.UsesE x Q) :
    C.Obeys (x >>= fun a => Pure.pure (f a)) := hx.bind fun _ _ => .pure trivial

theorem UsesE.of_yields {a : α} (hx : free.UsesE x Q) (h : x.run.Yields (.ok a)) : Q a := by
  rw [usesE_iff] at hx
  exact hx.of_yields h

/-- Any code keeps to the contract that permits everything. -/
theorem UsesE.any : free.Obeys x := by
  have hall : ∀ p : Prog Op Reply (Except ε α), free.Uses p fun _ => True := by
    intro p
    induction p with
    | ret => trivial
    | stop => trivial
    | call _ _ ih => exact ⟨trivial, fun r _ => ih r⟩
  refine Uses.mono (hall x.run) fun r _ => ?_
  cases r with
  | ok => trivial
  | error => trivial

theorem UsesE.outOfRounds : C.UsesE (Prog.outOfRounds : ExceptT ε (Prog Op Reply) α) Q := trivial

theorem UsesE.attempt (hx : C.UsesE x Q) :
    C.UsesE (Prog.attempt x) fun r => ∀ a, r = .ok a → Q a := by
  refine Uses.bind hx fun r hr => ?_
  rintro a rfl
  exact hr

theorem UsesE.withErr (hx : C.UsesE x Q) (f : ε → ε) : C.UsesE (Prog.withErr x f) Q := by
  refine UsesE.bind (UsesE.attempt hx) fun r hr => ?_
  cases r with
  | ok a => exact UsesE.pure (hr a rfl)
  | error => exact UsesE.throw

end Contract

namespace Rules

variable {R : Rules σ} {sem : Sem σ Op Reply} {t : Tid} {P : σ → Prop} {C : Contract Op Reply}

/-- Permitted requests keep the rules and `P`, and are answered as promised. -/
structure Serves (R : Rules σ) (sem : Sem σ Op Reply) (t : Tid) (P : σ → Prop)
    (C : Contract Op Reply) : Prop where
  stable : R.Stable sem t P
  step : ∀ op s r s', C.ok op → R.inv s → P s → sem.exec t op s r s' →
    R.inv s' ∧ R.guar t s s' ∧ P s' ∧ C.rep op r

theorem wp_of_uses (hC : R.Serves sem t P C) {p : Prog Op Reply α} {Q : α → Prop}
    (hp : C.Uses p Q) {s : σ} (hi : R.inv s) (hs : P s) :
    R.wp sem t p (fun a s => R.inv s ∧ Q a ∧ P s) s := by
  induction p generalizing s with
  | ret => exact ⟨hi, hp, hs⟩
  | stop => trivial
  | call op _ ih =>
    intro s₁ hrely hi₁ r s₂ hexec
    obtain ⟨hi₂, hg, hs₂, hr⟩ := hC.step op s₁ r s₂ hp.1 hi₁ (hC.stable.rely hs hrely) hexec
    exact ⟨hi₂, hg, ih r (hp.2 r hr) hi₂ hs₂⟩

/-- Code that keeps to a contract the system serves is safe. -/
theorem wp_of_usesE (hC : R.Serves sem t P C) {x : ExceptT ε (Prog Op Reply) α} {Q : α → Prop}
    (hx : C.UsesE x Q) {s : σ} (hi : R.inv s) (hs : P s) :
    R.wp sem t x.run (fun _ _ => True) s :=
  wp_mono (fun _ _ _ => trivial) (wp_of_uses hC hx hi hs)

/-- Such code keeps `P`, also when it fails. -/
theorem TripleE.of_usesE (hC : R.Serves sem t P C) {x : ExceptT ε (Prog Op Reply) α}
    {Q : α → Prop} (hx : C.UsesE x Q) :
    R.TripleE sem t P x (fun a s => Q a ∧ P s) (fun _ s => P s) := by
  unfold TripleE Triple
  intro s hi hs
  refine wp_mono (fun r s hr => ?_) (wp_of_uses hC hx hi hs)
  obtain ⟨hinv, hQ, hP⟩ := hr
  cases r with
  | ok => exact ⟨hinv, hQ, hP⟩
  | error => exact ⟨hinv, hP⟩

end Rules

attribute [irreducible] Contract.Uses Contract.UsesE

end InSpaceKube
