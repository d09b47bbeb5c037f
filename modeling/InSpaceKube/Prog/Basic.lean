/-
InSpaceKube/Prog/Basic.lean

Programs as trees of requests.

A controller is sequential code that talks to the outside through requests:
it reads and writes a store, calls a cloud API, reads a clock.  Everything
the outside does to such code is the reply it gives, so the code itself is a
tree: at each node one request, below it one subtree per reply.

* `Prog.ret a` — the code has returned `a`;
* `Prog.call op next` — the code issues `op` and goes on with the reply;
* `Prog.stop` — the code is not followed any further.  A polling loop of the
  source has no bound; its model takes a bound and stops there.  Statements
  hold for every bound, so they are about every finite part of the loop.

The replies are typed by the request (`Reply : Op → Type`).  Fallible code is
`ExceptT ε (Prog Op Reply)`: `perform` issues a request, `check` runs a pure
check, `attempt` makes an error a value for code that looks at it before it
goes on, `withErr` rewrites an error on its way out.
-/
import Mathlib.Logic.Relation
import Mathlib.Control.Basic
import Mathlib.Data.Nat.Notation

namespace InSpaceKube

/-- A program over the requests `Op`. -/
inductive Prog (Op : Type) (Reply : Op → Type) (α : Type) : Type
  | ret (a : α) : Prog Op Reply α
  | stop : Prog Op Reply α
  | call (op : Op) (next : Reply op → Prog Op Reply α) : Prog Op Reply α

namespace Prog

variable {Op : Type} {Reply : Op → Type} {α β γ : Type}

/-- Sequential composition. -/
def bind : Prog Op Reply α → (α → Prog Op Reply β) → Prog Op Reply β
  | ret a, f => f a
  | stop, _ => stop
  | call op next, f => call op fun r => (next r).bind f

instance : Monad (Prog Op Reply) where
  pure := ret
  bind := bind

@[simp] theorem pure_eq (a : α) : (pure a : Prog Op Reply α) = ret a := rfl

@[simp] theorem ret_bind (a : α) (f : α → Prog Op Reply β) : (ret a >>= f) = f a := rfl

@[simp] theorem stop_bind (f : α → Prog Op Reply β) : ((stop : Prog Op Reply α) >>= f) = stop := rfl

@[simp] theorem call_bind (op : Op) (next : Reply op → Prog Op Reply α)
    (f : α → Prog Op Reply β) :
    (call op next >>= f) = call op fun r => next r >>= f := rfl

theorem bind_ret (p : Prog Op Reply α) : p >>= ret = p := by
  induction p with
  | ret => rfl
  | stop => rfl
  | call _ _ ih => simp only [call_bind, ih]

theorem bind_assoc (p : Prog Op Reply α) (f : α → Prog Op Reply β)
    (g : β → Prog Op Reply γ) :
    p >>= f >>= g = p >>= fun a => f a >>= g := by
  induction p with
  | ret => rfl
  | stop => rfl
  | call _ _ ih => simp only [call_bind, ih]

instance : LawfulMonad (Prog Op Reply) :=
  LawfulMonad.mk' (Prog Op Reply) bind_ret (fun _ _ => rfl) bind_assoc

/-- The same program over another set of requests, each `op` issued as `f op`
and its reply read by `g`. -/
def embed {Op' : Type} {Reply' : Op' → Type} (f : Op → Op')
    (g : (op : Op) → Reply' (f op) → Reply op) : Prog Op Reply α → Prog Op' Reply' α
  | ret a => ret a
  | stop => stop
  | call op next => call (f op) fun r => (next (g op r)).embed f g

/-- Some replies make the program return `a`. -/
def Yields : Prog Op Reply α → α → Prop
  | ret b, a => b = a
  | stop, _ => False
  | call _ next, a => ∃ r, (next r).Yields a

/-- What the program returns when its first `n` requests are answered from a
state. -/
def replay {σ : Type} (answer : (op : Op) → σ → Reply op × σ) : ℕ → σ → Prog Op Reply α → Option α
  | _, _, ret a => some a
  | n + 1, s, call op next => replay answer n (answer op s).2 (next (answer op s).1)
  | _, _, _ => none

theorem yields_of_replay {σ : Type} {answer : (op : Op) → σ → Reply op × σ} {n : ℕ} {s : σ}
    {p : Prog Op Reply α} {a : α} (h : replay answer n s p = some a) : p.Yields a := by
  induction p generalizing n s with
  | ret =>
    rw [replay] at h
    exact Option.some.inj h
  | stop =>
    cases n with
    | zero => cases h
    | succ => cases h
  | call op _ ih =>
    cases n with
    | zero => cases h
    | succ => exact ⟨(answer op s).1, ih _ h⟩

/-- Issue one request and return its reply. -/
def request (op : Op) : Prog Op Reply (Reply op) := call op ret

section Fallible

variable {ε : Type}

/-- Issue one request in fallible code. -/
def perform (op : Op) : ExceptT ε (Prog Op Reply) (Reply op) := ExceptT.lift (request op)

/-- A pure check that fails with its own error. -/
def check (x : Except ε α) : ExceptT ε (Prog Op Reply) α := ExceptT.mk (ret x)

/-- A loop that has used up its rounds. -/
def outOfRounds : ExceptT ε (Prog Op Reply) α := ExceptT.mk stop

/-- Fallible code whose error is an ordinary value. -/
def attempt (x : ExceptT ε (Prog Op Reply) α) : ExceptT ε (Prog Op Reply) (Except ε α) :=
  ExceptT.lift x.run

/-- Fallible code with its error rewritten. -/
def withErr (x : ExceptT ε (Prog Op Reply) α) (f : ε → ε) : ExceptT ε (Prog Op Reply) α := do
  match ← attempt x with
  | .ok a => pure a
  | .error e => throw (f e)

end Fallible

end Prog

end InSpaceKube
