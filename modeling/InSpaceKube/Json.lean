/-
InSpaceKube/Json.lean

JSON values and a reflective decoder for them.

A value keeps the order of its members, because the decoder does: it walks the
members of an object from the first to the last and stores each one in the
field of the struct whose name it matches, exactly or else up to case.  A
later member that matches the same field overwrites what an earlier one left
there.  `decode` is that decoder for the types a struct can be built from, and
it stores into an existing value (`old`), as the decoder of the language does.

`Moved` is one reordering of the members of one object, anywhere in the value
but inside a raw message, whose text is kept as it stands.  `Moved.decode_eq`
says that a value in which no two members of an object go to one field decodes
the same after it.
-/
import Mathlib.Data.Int.Notation
import Mathlib.Data.List.Nodup
import Mathlib.Data.Nat.Notation
import Mathlib.Logic.Relation
import InSpaceKube.Go

namespace InSpaceKube

/-- A JSON value.  A number is its sign, its integer part and the text of its
fraction and exponent; a string is the text it stands for. -/
inductive Json
  | null
  | bool (b : Bool)
  | num (neg : Bool) (int : ℕ) (rest : String)
  | str (s : String)
  | arr (items : List Json)
  | obj (members : List (String × Json))

namespace Json

/-- A value of one of the decoded types.  A slice keeps, behind the elements it
shows, those that are left in its storage from an earlier, longer content. -/
inductive Val
  | str (s : String)
  | int (i : ℤ)
  | bool (b : Bool)
  | nil
  | ref (v : Val)
  | list (shown stale : List Val)
  | record (fields : List (String × Val))
  | raw (j : Json)

/-- The storage of a slice. -/
def Val.elements : Val → List Val
  | .list shown stale => shown ++ stale
  | _ => []

/-- The fields of a struct. -/
def Val.fields : Val → List (String × Val)
  | .record fields => fields
  | _ => []

/-- The value of a field. -/
def Val.get (v : Val) (name : String) : Option Val := v.fields.lookup name

def isNull : Json → Bool
  | .null => true
  | _ => false

/-- What a decoding method can see of a member: its key, and whether its value
is `null`. -/
def shape (m : String × Json) : String × Bool := (m.1, m.2.isNull)

/-- A decoding method of a struct type: it decodes the plain struct and then
looks at the members once more.  What it accepts does not depend on their
order. -/
structure Method where
  post : List (String × Json) → Val → Except String Val
  orderFree : ∀ {ms ms' v w}, (ms.map Prod.fst).Nodup →
    (ms.map shape).Perm (ms'.map shape) → post ms v = .ok w → post ms' v = .ok w

inductive Scalar
  | string
  | int (bits : ℕ)
  | bool

/-- The types the decoder stores into. -/
inductive Ty
  | scalar (s : Scalar)
  | pointer (s : Scalar)
  | slice (t : Ty)
  | raw
  | record (fields : List (String × Ty)) (method : Option Method)

def Scalar.zero : Scalar → Val
  | .string => .str ""
  | .int _ => .int 0
  | .bool => .bool false

mutual

/-- The value a variable of the type starts with. -/
def Ty.zero : Ty → Val
  | .scalar s => s.zero
  | .pointer _ => .nil
  | .slice _ => .nil
  | .raw => .nil
  | .record fields _ => .record (zeroFields fields)

def Ty.zeroFields : List (String × Ty) → List (String × Val)
  | [] => []
  | f :: fs => zeroField f :: zeroFields fs

def Ty.zeroField : String × Ty → String × Val
  | (name, t) => (name, t.zero)

end

/-! ### The decoder -/

/-- The smallest rune of the simple-folding orbit, for the orbits that meet
the ASCII letters: the long s folds with `S` and the Kelvin sign with `K`. -/
def foldRune (c : Char) : Char :=
  if 'a' ≤ c ∧ c ≤ 'z' then Char.ofNat (c.toNat - 32)
  else if c = Char.ofNat 0x17F then 'S'
  else if c = Char.ofNat 0x212A then 'K'
  else c

def foldName (s : String) : List Char := s.toList.map foldRune

/-- The field a key is stored in: the one of that name, or else the first one
whose name is the key up to case. -/
def fieldFor (fields : List (String × Ty)) (key : String) : Option (String × Ty) :=
  (fields.find? fun f => f.1 = key) <|> fields.find? fun f => foldName f.1 = foldName key

theorem fieldFor_mem {fields : List (String × Ty)} {key : String} {f : String × Ty}
    (h : fieldFor fields key = some f) : f ∈ fields ∧ foldName f.1 = foldName key := by
  rw [fieldFor, Option.orElse_eq_orElse, Option.orElse_eq_or, Option.or_eq_some_iff] at h
  rcases h with h | ⟨-, h⟩
  · refine ⟨List.mem_of_find?_eq_some h, ?_⟩
    have heq := List.find?_some h
    rw [of_decide_eq_true heq]
  · refine ⟨List.mem_of_find?_eq_some h, ?_⟩
    have heq := List.find?_some h
    exact of_decide_eq_true heq

def mismatch {α : Type} (value : String) : Except String α :=
  .error ("json: cannot unmarshal " ++ value)

def kind : Json → String
  | .null => "null"
  | .bool _ => "bool"
  | .num .. => "number"
  | .str _ => "string"
  | .arr _ => "array"
  | .obj _ => "object"

/-- The number a literal stands for, for a literal without fraction and
exponent. -/
def signed (neg : Bool) (int : ℕ) : ℤ := if neg then -int else int

/-- Stores a literal other than `null`. -/
def Scalar.store : Scalar → Json → Except String Val
  | .string, .str s => .ok (.str s)
  | .bool, .bool b => .ok (.bool b)
  | .int bits, .num neg n rest =>
    if rest = "" ∧ -2 ^ (bits - 1) ≤ signed neg n ∧ signed neg n < 2 ^ (bits - 1) then
      .ok (.int (signed neg n))
    else mismatch "number"
  | _, j => mismatch j.kind

/-- Stores a literal; `null` leaves a scalar and a plain struct as they are. -/
def Ty.store (old : Val) : Ty → Json → Except String Val
  | .scalar _, .null => .ok old
  | .scalar s, j => s.store j
  | .pointer _, .null => .ok .nil
  | .pointer s, j => (s.store j).map .ref
  | .slice _, .null => .ok .nil
  | .raw, j => .ok (.raw j)
  | .record _ none, .null => .ok old
  | .record fields (some m), .null => m.post [] (.record (zeroFields fields))
  | _, j => mismatch j.kind

def assign (r : List (String × Val)) (name : String) (v : Val) : List (String × Val) :=
  r.map fun f => if f.1 = name then (name, v) else f

mutual

/-- Stores a value of the given type over `old`.  A type with a method decodes
into a fresh struct. -/
def decode (t : Ty) (old : Val) : Json → Except String Val
  | .arr items =>
    match t with
    | .slice u => do
      let vs ← decodeItems u old.elements items
      return .list vs (if items.isEmpty then [] else old.elements.drop items.length)
    | .raw => .ok (.raw (.arr items))
    | _ => mismatch "array"
  | .obj ms =>
    match t with
    | .record fields none => do
      let r ← decodeMembers fields old.fields ms
      return .record r
    | .record fields (some m) => do
      let r ← decodeMembers fields (Ty.zeroFields fields) ms
      m.post ms (.record r)
    | .raw => .ok (.raw (.obj ms))
    | _ => mismatch "object"
  | j => t.store old j

/-- The elements, each over what the storage holds at its place. -/
def decodeItems (t : Ty) (olds : List Val) : List Json → Except String (List Val)
  | [] => .ok []
  | x :: xs => do
    let v ← decode t (olds.headD t.zero) x
    let vs ← decodeItems t olds.tail xs
    return v :: vs

def decodeMembers (fields : List (String × Ty)) (r : List (String × Val)) :
    List (String × Json) → Except String (List (String × Val))
  | [] => .ok r
  | m :: ms => do
    let r' ← decodeMember fields r m
    decodeMembers fields r' ms

/-- A member that matches no field is skipped. -/
def decodeMember (fields : List (String × Ty)) (r : List (String × Val)) :
    String × Json → Except String (List (String × Val))
  | (key, x) =>
    match fieldFor fields key with
    | none => .ok r
    | some (name, t) => do
      let v ← decode t ((r.lookup name).getD t.zero) x
      return assign r name v

end

theorem decode_raw (old : Val) (j : Json) : decode .raw old j = .ok (.raw j) := by
  cases j <;> rfl

/-! ### Where the objects of a value are stored -/

variable {t u : Option Ty} {j j' x y : Json} {ms ms' : List (String × Json)}

/-- The type of the elements of an array; `none` is a value that is skipped.
What is inside a raw message is part of its text. -/
def itemTy : Option Ty → Option Ty
  | some (.slice t) => some t
  | some .raw => some .raw
  | _ => none

/-- The type of the member with the given key. -/
def memberTy (key : String) : Option Ty → Option Ty
  | some (.record fields _) => (fieldFor fields key).map Prod.snd
  | some .raw => some .raw
  | _ => none

/-- The object `ms` occurs in the value, at a place of type `u`. -/
inductive At : Option Ty → Json → Option Ty → List (String × Json) → Prop
  | here (t : Option Ty) (ms : List (String × Json)) : At t (.obj ms) t ms
  | item {t u : Option Ty} {x : Json} {xs : List Json} {ms : List (String × Json)} :
      x ∈ xs → At (itemTy t) x u ms → At t (.arr xs) u ms
  | member {t u : Option Ty} {key : String} {x : Json} {ns ms : List (String × Json)} :
      (key, x) ∈ ns → At (memberTy key t) x u ms → At t (.obj ns) u ms

/-- One reordering of the members of one object, anywhere but inside a raw
message. -/
inductive Moved : Option Ty → Json → Json → Prop
  | members {t : Option Ty} {ms ms' : List (String × Json)} :
      t ≠ some .raw → ms.Perm ms' → Moved t (.obj ms) (.obj ms')
  | item {t : Option Ty} {x y : Json} (xs ys : List Json) :
      Moved (itemTy t) x y → Moved t (.arr (xs ++ x :: ys)) (.arr (xs ++ y :: ys))
  | member {t : Option Ty} {key : String} {x y : Json} (ms ns : List (String × Json)) :
      Moved (memberTy key t) x y →
      Moved t (.obj (ms ++ (key, x) :: ns)) (.obj (ms ++ (key, y) :: ns))

/-- The members of any objects outside the raw messages, reordered. -/
def Reordered (t : Ty) : Json → Json → Prop := Relation.ReflTransGen (Moved (some t))

/-- The members go to fields of their own. -/
def Apart (fields : List (String × Ty)) (ms : List (String × Json)) : Prop :=
  (ms.filterMap fun m => (fieldFor fields m.1).map Prod.fst).Nodup

instance (fields : List (String × Ty)) (ms : List (String × Json)) : Decidable (Apart fields ms) :=
  inferInstanceAs (Decidable (List.Nodup _))

/-- No two members of one object are stored in one field of a struct. -/
def Unambiguous (t : Option Ty) (j : Json) : Prop :=
  ∀ fields m ms, At t j (some (.record fields m)) ms → Apart fields ms

/-- No object has two members with one key. -/
def UniqueKeys (t : Option Ty) (j : Json) : Prop :=
  ∀ u ms, At t j u ms → (ms.map Prod.fst).Nodup

theorem Unambiguous.item {xs : List Json} (h : Unambiguous t (.arr xs)) (hx : x ∈ xs) :
    Unambiguous (itemTy t) x := fun fields m ms hat => h fields m ms (.item hx hat)

theorem Unambiguous.member {key : String} (h : Unambiguous t (.obj ms)) (hx : (key, x) ∈ ms) :
    Unambiguous (memberTy key t) x := fun fields m ms hat => h fields m ms (.member hx hat)

theorem UniqueKeys.item {xs : List Json} (h : UniqueKeys t (.arr xs)) (hx : x ∈ xs) :
    UniqueKeys (itemTy t) x := fun u ms hat => h u ms (.item hx hat)

theorem UniqueKeys.member {key : String} (h : UniqueKeys t (.obj ms)) (hx : (key, x) ∈ ms) :
    UniqueKeys (memberTy key t) x := fun u ms hat => h u ms (.member hx hat)

theorem uniqueKeys_arr_iff {xs : List Json} :
    UniqueKeys t (.arr xs) ↔ ∀ x ∈ xs, UniqueKeys (itemTy t) x := by
  refine ⟨fun h x hx => h.item hx, fun h u ms hat => ?_⟩
  cases hat with
  | item hx hat => exact h _ hx u ms hat

theorem uniqueKeys_obj_iff :
    UniqueKeys t (.obj ms) ↔
      (ms.map Prod.fst).Nodup ∧ ∀ m ∈ ms, UniqueKeys (memberTy m.1 t) m.2 := by
  refine ⟨fun h => ⟨h _ _ (.here _ _), fun m hm => h.member hm⟩, fun h u ns hat => ?_⟩
  cases hat with
  | here => exact h.1
  | member hx hat => exact h.2 _ hx u ns hat

/-- Nothing is stored from a skipped value. -/
theorem not_at_none {s : Ty} (h : At none j (some s) ms) : False := by
  generalize ht : (none : Option Ty) = t at h
  generalize hu : some s = u at h
  induction h with
  | here => exact nomatch ht.trans hu.symm
  | item _ _ ih => exact ih (by rw [← ht]; rfl) hu
  | member _ _ ih => exact ih (by rw [← ht]; rfl) hu

theorem not_at_scalar {s : Scalar} {fields : List (String × Ty)} {m : Option Method}
    (h : At (some (.scalar s)) j (some (.record fields m)) ms) : False := by
  cases h with
  | item _ hat => exact not_at_none hat
  | member _ hat => exact not_at_none hat

/-- A member that is neither an object nor an array holds no object. -/
theorem at_obj_of_literals {s : Ty} (hlit : ∀ m ∈ ms, ∀ t u ns, ¬ At t m.2 u ns)
    (h : At t (.obj ms) (some s) ms') : t = some s ∧ ms = ms' := by
  cases h with
  | here => exact ⟨rfl, rfl⟩
  | member hx hat => exact absurd hat (hlit _ hx _ _ _)

/-- The objects are the same ones after a reordering, up to the order of their
keys. -/
theorem Moved.at_of_at (h : Moved t j j') (hat : At t j' u ms') :
    ∃ ms, At t j u ms ∧ (ms.map Prod.fst).Perm (ms'.map Prod.fst) := by
  induction h with
  | members _ hperm =>
    cases hat with
    | here => exact ⟨_, .here _ _, hperm.map _⟩
    | member hx hat => exact ⟨_, .member (hperm.mem_iff.2 hx) hat, .refl _⟩
  | @item _ _ _ _ _ _ ih =>
    cases hat with
    | item hz hat =>
      rcases List.mem_append.1 hz with hz | hz
      · exact ⟨_, .item (List.mem_append.2 (.inl hz)) hat, .refl _⟩
      · rcases List.mem_cons.1 hz with rfl | hz
        · obtain ⟨ms, hms, hkeys⟩ := ih hat
          exact ⟨ms, .item (by simp) hms, hkeys⟩
        · exact ⟨_, .item (by simp [hz]) hat, .refl _⟩
  | @member _ _ _ _ ms _ _ ih =>
    cases hat with
    | here => exact ⟨_, .here _ _, by simp⟩
    | @member _ _ _ _ _ _ hz hat =>
      rcases List.mem_append.1 hz with hz | hz
      · exact ⟨_, .member (List.mem_append.2 (.inl hz)) hat, .refl _⟩
      · rcases List.mem_cons.1 hz with heq | hz
        · cases heq
          obtain ⟨ms, hms, hkeys⟩ := ih hat
          exact ⟨ms, .member (by simp) hms, hkeys⟩
        · exact ⟨_, .member (List.mem_append.2 (.inr (.tail _ hz))) hat, .refl _⟩

theorem apart_iff_of_keys {fields : List (String × Ty)}
    (h : (ms.map Prod.fst).Perm (ms'.map Prod.fst)) : Apart fields ms ↔ Apart fields ms' := by
  have hmap : ∀ l : List (String × Json),
      (l.filterMap fun m => (fieldFor fields m.1).map Prod.fst)
        = (l.map Prod.fst).filterMap fun k => (fieldFor fields k).map Prod.fst :=
    fun l => by rw [List.filterMap_map]; rfl
  rw [Apart, Apart, hmap, hmap]
  exact (h.filterMap _).nodup_iff

theorem Moved.unambiguous (h : Moved t j j') (hu : Unambiguous t j) : Unambiguous t j' := by
  intro fields m _ hat
  obtain ⟨ms, hms, hkeys⟩ := h.at_of_at hat
  exact (apart_iff_of_keys hkeys).1 (hu fields m ms hms)

theorem Moved.uniqueKeys (h : Moved t j j') (hu : UniqueKeys t j) : UniqueKeys t j' := by
  intro u _ hat
  obtain ⟨ms, hms, hkeys⟩ := h.at_of_at hat
  exact hkeys.nodup_iff.1 (hu u ms hms)

/-- A reordered value is an array or an object. -/
theorem Moved.isNull_eq (h : Moved t j j') : j.isNull = false ∧ j'.isNull = false := by
  cases h <;> exact ⟨rfl, rfl⟩

/-! ### Decoding reordered members -/

theorem lookup_eq_of_perm {β : Type} {l l' : List (String × β)} (h : l.Perm l')
    (hkeys : (l.map Prod.fst).Nodup) (key : String) : l.lookup key = l'.lookup key := by
  induction h with
  | nil => rfl
  | cons f _ ih =>
    obtain ⟨k, b⟩ := f
    rw [List.lookup_cons, List.lookup_cons, ih (List.nodup_cons.1 hkeys).2]
  | swap f f' =>
    obtain ⟨k, b⟩ := f
    obtain ⟨k', _⟩ := f'
    have hne : k ≠ k' := by
      rintro rfl
      simp at hkeys
    by_cases hf : key = k
    · simp [List.lookup_cons, hf, beq_false_of_ne hne]
    · simp [List.lookup_cons, beq_false_of_ne hf]
  | trans h _ ih ih' => exact (ih hkeys).trans (ih' ((h.map _).nodup_iff.1 hkeys))

section Members

variable {fields : List (String × Ty)} {r r' : List (String × Val)}

theorem lookup_assign_of_ne {name name' : String} {v : Val} (h : name' ≠ name) :
    (assign r name v).lookup name' = r.lookup name' := by
  induction r with
  | nil => rfl
  | cons f _ ih =>
    obtain ⟨n, w⟩ := f
    by_cases hn : n = name
    · subst hn
      simp only [assign, List.map_cons, if_true]
      rw [List.lookup_cons, List.lookup_cons, beq_false_of_ne h]
      exact ih
    · simp only [assign, List.map_cons, if_neg hn]
      rw [List.lookup_cons, List.lookup_cons]
      split
      · rfl
      · exact ih

theorem assign_comm {name name' : String} {v v' : Val} (h : name ≠ name') :
    assign (assign r name v) name' v' = assign (assign r name' v') name v := by
  simp only [assign, List.map_map]
  refine List.map_congr_left fun f _ => ?_
  by_cases hn : f.1 = name
  · simp [hn, h]
  · by_cases hn' : f.1 = name'
    · simp [hn', h.symm]
    · simp [hn, hn']

/-- What storing one member does. -/
theorem decodeMember_iff {m : String × Json} :
    decodeMember fields r m = .ok r' ↔
      (fieldFor fields m.1 = none ∧ r' = r) ∨
      ∃ name t v, fieldFor fields m.1 = some (name, t) ∧
        decode t ((r.lookup name).getD t.zero) m.2 = .ok v ∧ r' = assign r name v := by
  obtain ⟨key, x⟩ := m
  rw [decodeMember]
  cases h : fieldFor fields key with
  | none => simp [eq_comm]
  | some f =>
    obtain ⟨name, t⟩ := f
    simp only [except_bind_iff, pure, Except.pure, Except.ok.injEq]
    constructor
    · rintro ⟨v, hv, rfl⟩
      exact .inr ⟨name, t, v, rfl, hv, rfl⟩
    · rintro (⟨h, -⟩ | ⟨_, _, v, h, hv, rfl⟩)
      · cases h
      · cases h
        exact ⟨v, hv, rfl⟩

/-- Members that go to different fields can be stored in either order. -/
theorem decodeMember_swap {m m' : String × Json} {r₁ r₂ : List (String × Val)}
    (hne : ∀ f f', fieldFor fields m.1 = some f → fieldFor fields m'.1 = some f' → f.1 ≠ f'.1)
    (h₁ : decodeMember fields r m = .ok r₁) (h₂ : decodeMember fields r₁ m' = .ok r₂) :
    ∃ r₃, decodeMember fields r m' = .ok r₃ ∧ decodeMember fields r₃ m = .ok r₂ := by
  rcases decodeMember_iff.1 h₁ with ⟨hm, rfl⟩ | ⟨name, t, v, hm, _, rfl⟩
  · exact ⟨r₂, h₂, decodeMember_iff.2 (.inl ⟨hm, rfl⟩)⟩
  · rcases decodeMember_iff.1 h₂ with ⟨hm', rfl⟩ | ⟨name', t', v', hm', hv', rfl⟩
    · exact ⟨r, decodeMember_iff.2 (.inl ⟨hm', rfl⟩), h₁⟩
    · have hname : name ≠ name' := hne _ _ hm hm'
      rw [lookup_assign_of_ne hname.symm] at hv'
      refine ⟨assign r name' v', decodeMember_iff.2 (.inr ⟨name', t', v', hm', hv', rfl⟩),
        decodeMember_iff.2 (.inr ⟨name, t, v, hm, ?_, (assign_comm hname)⟩)⟩
      rwa [lookup_assign_of_ne hname]

theorem decodeMembers_cons {m : String × Json} :
    decodeMembers fields r (m :: ms) = .ok r' ↔
      ∃ r₁, decodeMember fields r m = .ok r₁ ∧ decodeMembers fields r₁ ms = .ok r' := by
  rw [decodeMembers, except_bind_iff]

theorem Apart.of_cons {m : String × Json} (h : Apart fields (m :: ms)) : Apart fields ms := by
  rw [Apart, List.filterMap_cons] at h
  split at h
  · exact h
  · exact h.of_cons

theorem Apart.ne {m m' : String × Json} (h : Apart fields (m :: m' :: ms)) :
    ∀ f f', fieldFor fields m.1 = some f → fieldFor fields m'.1 = some f' → f.1 ≠ f'.1 := by
  intro _ _ hf hf'
  simp only [Apart, List.filterMap_cons, hf, hf', Option.map_some, List.nodup_cons,
    List.mem_cons, not_or] at h
  exact h.1.1

/-- Members that go to fields of their own can be stored in any order. -/
theorem decodeMembers_perm (hperm : ms.Perm ms') (hapart : Apart fields ms)
    (h : decodeMembers fields r ms = .ok r') : decodeMembers fields r ms' = .ok r' := by
  induction hperm generalizing r with
  | nil => exact h
  | cons _ _ ih =>
    obtain ⟨r₁, h₁, h⟩ := decodeMembers_cons.1 h
    exact decodeMembers_cons.2 ⟨r₁, h₁, ih hapart.of_cons h⟩
  | swap =>
    obtain ⟨_, h₁, h⟩ := decodeMembers_cons.1 h
    obtain ⟨r₂, h₂, h⟩ := decodeMembers_cons.1 h
    obtain ⟨r₃, h₃, h₄⟩ := decodeMember_swap hapart.ne h₁ h₂
    exact decodeMembers_cons.2 ⟨r₃, h₃, decodeMembers_cons.2 ⟨r₂, h₄, h⟩⟩
  | trans h₁ _ ih₁ ih₂ =>
    exact ih₂ ((apart_iff_of_keys (h₁.map _)).1 hapart) (ih₁ hapart h)

theorem decodeMembers_append {ns : List (String × Json)} :
    decodeMembers fields r (ms ++ ns) = .ok r' ↔
      ∃ r₁, decodeMembers fields r ms = .ok r₁ ∧ decodeMembers fields r₁ ns = .ok r' := by
  induction ms generalizing r with
  | nil => simp [decodeMembers]
  | cons _ _ ih =>
    simp only [List.cons_append, decodeMembers_cons, ih]
    constructor
    · rintro ⟨r₁, h₁, r₂, h₂, h⟩
      exact ⟨r₂, ⟨r₁, h₁, h₂⟩, h⟩
    · rintro ⟨r₂, ⟨r₁, h₁, h₂⟩, h⟩
      exact ⟨r₁, h₁, r₂, h₂, h⟩

end Members

/-- `y` decodes to whatever `x` decodes to. -/
def Follows (t : Option Ty) (x y : Json) : Prop :=
  ∀ s old v, t = some s → decode s old x = .ok v → decode s old y = .ok v

/-- Each element of a decoded list was decoded. -/
theorem decode_of_mem {s : Ty} {olds vs : List Val} {xs : List Json}
    (h : decodeItems s olds xs = .ok vs) (hx : x ∈ xs) : ∃ old v, decode s old x = .ok v := by
  induction xs generalizing olds vs with
  | nil => cases hx
  | cons _ _ ih =>
    rw [decodeItems, except_bind_iff] at h
    obtain ⟨v, hv, h⟩ := h
    obtain ⟨_, hvs, -⟩ := except_bind_iff.1 h
    rcases List.mem_cons.1 hx with rfl | hx
    · exact ⟨_, v, hv⟩
    · exact ih hvs hx

theorem decodeItems_replace {s : Ty} {olds : List Val} {vs : List Val} {xs ys : List Json}
    (hxy : Follows (some s) x y) (h : decodeItems s olds (xs ++ x :: ys) = .ok vs) :
    decodeItems s olds (xs ++ y :: ys) = .ok vs := by
  induction xs generalizing olds vs with
  | nil =>
    simp only [List.nil_append, decodeItems, except_bind_iff] at h ⊢
    obtain ⟨v, hv, h⟩ := h
    exact ⟨v, hxy s _ v rfl hv, h⟩
  | cons _ _ ih =>
    simp only [List.cons_append, decodeItems, except_bind_iff] at h ⊢
    obtain ⟨v, hv, vs', hvs, h⟩ := h
    exact ⟨v, hv, vs', ih hvs, h⟩

theorem decodeMembers_replace {fields : List (String × Ty)} {m : Option Method} {key : String}
    {r r' : List (String × Val)} {ns : List (String × Json)}
    (hxy : Follows (memberTy key (some (.record fields m))) x y)
    (h : decodeMembers fields r (ms ++ (key, x) :: ns) = .ok r') :
    decodeMembers fields r (ms ++ (key, y) :: ns) = .ok r' := by
  obtain ⟨r₁, h₁, h⟩ := decodeMembers_append.1 h
  obtain ⟨r₂, h₂, h⟩ := decodeMembers_cons.1 h
  refine decodeMembers_append.2 ⟨r₁, h₁, decodeMembers_cons.2 ⟨r₂, decodeMember_iff.2 ?_, h⟩⟩
  rcases decodeMember_iff.1 h₂ with hskip | ⟨name, t, v, hf, hv, rfl⟩
  · exact .inl hskip
  · have hf' : fieldFor fields key = some (name, t) := hf
    exact .inr ⟨name, t, v, hf, hxy t _ v (by rw [memberTy, hf']; rfl) hv, rfl⟩

/-- A value decodes the same after its members were reordered, if no two
members of one object go to one field. -/
theorem Moved.decode_eq (h : Moved t j j') (hu : Unambiguous t j) (hkeys : UniqueKeys t j) :
    Follows t j j' := by
  induction h with
  | @members _ ms _ hraw hperm =>
    rintro s _ _ rfl hv
    cases s with
    | scalar => cases hv
    | pointer => cases hv
    | slice => cases hv
    | raw => exact absurd rfl hraw
    | record fields m =>
      have hapart := hu fields m ms (.here _ _)
      cases m with
      | none =>
        simp only [decode, except_bind_iff] at hv ⊢
        obtain ⟨r, hr, hv⟩ := hv
        exact ⟨r, decodeMembers_perm hperm hapart hr, hv⟩
      | some m =>
        simp only [decode, except_bind_iff] at hv ⊢
        obtain ⟨r, hr, hv⟩ := hv
        exact ⟨r, decodeMembers_perm hperm hapart hr,
          m.orderFree (hkeys _ _ (.here _ _)) (hperm.map _) hv⟩
  | @item t x y xs ys _ ih =>
    have hx : x ∈ xs ++ x :: ys := by simp
    have ih := ih (hu.item hx) (hkeys.item hx)
    rintro s old v rfl hv
    cases s with
    | scalar => cases hv
    | pointer => cases hv
    | slice s =>
      simp only [decode, except_bind_iff] at hv ⊢
      obtain ⟨vs, hvs, hv⟩ := hv
      refine ⟨vs, decodeItems_replace ih hvs, ?_⟩
      simpa using hv
    | raw =>
      -- a raw message keeps its text: `ih` makes the two elements equal
      have hxy := ih .raw old (.raw x) rfl (decode_raw _ _)
      rw [decode_raw] at hxy
      cases hxy
      exact hv
    | record => cases hv
  | @member _ key x _ ms ns hxy ih =>
    have hx : (key, x) ∈ ms ++ (key, x) :: ns := by simp
    have ih := ih (hu.member hx) (hkeys.member hx)
    rintro s old v rfl hv
    cases s with
    | scalar => cases hv
    | pointer => cases hv
    | slice => cases hv
    | raw =>
      have hxy := ih .raw old (.raw x) rfl (decode_raw _ _)
      rw [decode_raw] at hxy
      cases hxy
      exact hv
    | record _ m =>
      cases m with
      | none =>
        simp only [decode, except_bind_iff] at hv ⊢
        obtain ⟨r, hr, hv⟩ := hv
        exact ⟨r, decodeMembers_replace ih hr, hv⟩
      | some m =>
        simp only [decode, except_bind_iff] at hv ⊢
        obtain ⟨r, hr, hv⟩ := hv
        refine ⟨r, decodeMembers_replace ih hr, m.orderFree (hkeys _ _ (.here _ _)) ?_ hv⟩
        have hnull := hxy.isNull_eq
        simp [shape, hnull.1, hnull.2]

/-- What holds of a value and survives each reordering holds of the reordered
value. -/
theorem Reordered.keeps {s : Ty} {P : Json → Prop} (h : Reordered s j j')
    (hstep : ∀ x y, Moved (some s) x y → P x → P y) (hj : P j) : P j' := by
  induction h with
  | refl => exact hj
  | tail _ hmove ih => exact hstep _ _ hmove ih

theorem Reordered.decode_eq {s : Ty} {old v : Val} (h : Reordered s j j')
    (hu : Unambiguous (some s) j) (hkeys : UniqueKeys (some s) j) (hv : decode s old j = .ok v) :
    decode s old j' = .ok v ∧ UniqueKeys (some s) j' := by
  -- the two conditions are kept along the way, for the next reordering
  have H := h.keeps (P := fun j =>
      Unambiguous (some s) j ∧ UniqueKeys (some s) j ∧ decode s old j = .ok v) ?_ ⟨hu, hkeys, hv⟩
  · exact ⟨H.2.2, H.2.1⟩
  · rintro x y hmove ⟨hu, hkeys, hv⟩
    exact ⟨hmove.unambiguous hu, hmove.uniqueKeys hkeys, hmove.decode_eq hu hkeys s old v rfl hv⟩

end Json

end InSpaceKube
