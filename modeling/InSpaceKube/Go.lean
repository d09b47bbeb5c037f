/-
InSpaceKube/Go.lean

The part of Go's standard library the modelled code leans on: errors, a few
functions of package `strings`, the IPv4 half of `netip`, and how long a text
or a number is once `json.Marshal` has written it.

An error is what code can find out about it: the sentinels `errors.Is` finds
in it, and its text, without that of a sentinel.  `fmt.Errorf` with `%w` keeps
the sentinels of what it wraps, with `%v` it keeps only the text; `errors.Join`
keeps both operands'.

The string functions work on the list of characters, so that they compute in
the kernel.  Case folding is that of ASCII: the texts it is applied to are
UUIDs, location names, IP addresses and status words.
-/
import Mathlib

namespace InSpaceKube

/-! ### Errors -/

/-- A Go error over the sentinels `κ`. -/
structure GoError (κ : Type) where
  kinds : List κ
  text : String
deriving DecidableEq, Repr

namespace GoError

variable {κ : Type}

/-- `errors.New(text)`, and `fmt.Errorf` without `%w`. -/
def new (text : String) : GoError κ := ⟨[], text⟩

/-- `fmt.Errorf("%w: text", k)`. -/
def wrap (k : κ) (text : String) : GoError κ := ⟨[k], text⟩

/-- `fmt.Errorf("text: %w", e)`. -/
def within (text : String) (e : GoError κ) : GoError κ := ⟨e.kinds, text ++ ": " ++ e.text⟩

/-- `errors.Join(e₁, e₂)` of two errors. -/
def join (e₁ e₂ : GoError κ) : GoError κ := ⟨e₁.kinds ++ e₂.kinds, e₁.text ++ "\n" ++ e₂.text⟩

/-- `errors.Join` where the first operand may be nil. -/
def joinOpt (e₁ : Option (GoError κ)) (e₂ : GoError κ) : GoError κ :=
  match e₁ with
  | none => e₂
  | some e => e.join e₂

/-- `errors.Is(e, k)`. -/
def is [BEq κ] (e : GoError κ) (k : κ) : Bool := e.kinds.contains k

end GoError

/-- `if c { return e }` in code that goes on otherwise. -/
def failIf {ε : Type} (c : Prop) [Decidable c] (e : ε) : Except ε Unit :=
  if c then .error e else .ok ()

section Except

variable {ε α β : Type}

/-- A composition succeeds when both parts do. -/
theorem except_bind_ok {x : Except ε α} {f : α → Except ε β} {b : β} (h : (x >>= f) = .ok b) :
    ∃ a, x = .ok a ∧ f a = .ok b := by
  cases x with
  | error => cases h
  | ok a => exact ⟨a, rfl, h⟩

theorem failIf_ok {c : Prop} [Decidable c] {e : ε} {u : Unit} (h : failIf c e = .ok u) : ¬ c := by
  unfold failIf at h
  split at h
  · cases h
  · assumption

theorem except_bind_iff {x : Except ε α} {f : α → Except ε β} {b : β} :
    (x >>= f) = .ok b ↔ ∃ a, x = .ok a ∧ f a = .ok b := by
  refine ⟨except_bind_ok, ?_⟩
  rintro ⟨a, rfl, h⟩
  exact h

theorem failIf_iff {c : Prop} [Decidable c] {e : ε} {u : Unit} : failIf c e = .ok u ↔ ¬ c := by
  unfold failIf
  split <;> simp_all

theorem mapError_iff {ε' : Type} {x : Except ε α} {f : ε → ε'} {a : α} :
    x.mapError f = .ok a ↔ x = .ok a := by
  cases x <;> simp [Except.mapError]

end Except

/-! ### Strings -/

def toLower (s : String) : String := String.ofList (s.toList.map Char.toLower)

theorem char_toLower_toLower (c : Char) : c.toLower.toLower = c.toLower := by
  unfold Char.toLower
  split
  · next h =>
    split
    · next h' =>
      -- a lower-case letter is not between 'A' and 'Z'
      exfalso
      simp only [UInt32.le_iff_toNat_le, ge_iff_le, UInt32.toNat_add] at h h'
      simp at h h'
      omega
    · rfl
  · rfl

theorem toLower_toLower (s : String) : toLower (toLower s) = toLower s := by
  unfold toLower
  rw [String.toList_ofList, List.map_map]
  exact congrArg String.ofList (List.map_congr_left fun c _ => char_toLower_toLower c)

def equalFold (a b : String) : Bool := toLower a == toLower b

/-- The ASCII white space of `unicode.IsSpace`. -/
def isSpace (c : Char) : Bool :=
  c == ' ' || c == '\t' || c == '\n' || c == '\r' || c.toNat == 11 || c.toNat == 12

def trimSpace (s : String) : String :=
  String.ofList (((s.toList.dropWhile isSpace).reverse.dropWhile isSpace).reverse)

theorem trimSpace_toList (s : String) :
    (trimSpace s).toList = (s.toList.dropWhile isSpace).rdropWhile isSpace := by
  rw [trimSpace, String.toList_ofList, List.rdropWhile]

theorem trimSpace_trimSpace (s : String) : trimSpace (trimSpace s) = trimSpace s := by
  refine String.toList_injective ?_
  rw [trimSpace_toList, trimSpace_toList]
  -- what is left starts where the text without its leading spaces starts
  have hleft : ((s.toList.dropWhile isSpace).rdropWhile isSpace).dropWhile isSpace =
      (s.toList.dropWhile isSpace).rdropWhile isSpace := by
    obtain ⟨_, htail⟩ := List.rdropWhile_prefix isSpace (s.toList.dropWhile isSpace)
    generalize (s.toList.dropWhile isSpace).rdropWhile isSpace = front at htail ⊢
    cases front with
    | nil => rfl
    | cons c front =>
      have hhead := List.head?_dropWhile_not isSpace s.toList
      rw [← htail, List.cons_append, List.head?_cons] at hhead
      exact List.dropWhile_cons_of_neg (by simpa using hhead)
  rw [hleft, List.rdropWhile_idempotent]

theorem isSpace_eq_false {c : Char} (h : 32 < c.toNat) : isSpace c = false := by
  rw [Bool.eq_false_iff]
  intro hspace
  simp only [isSpace, Bool.or_eq_true, beq_iff_eq] at hspace
  rcases hspace with ((((rfl | rfl) | rfl) | rfl) | _) | _
  · exact absurd h (by decide)
  · exact absurd h (by decide)
  · exact absurd h (by decide)
  · exact absurd h (by decide)
  · omega
  · omega

theorem isSpace_toLower (c : Char) : isSpace c.toLower = isSpace c := by
  by_cases hupper : 65 ≤ c.toNat ∧ c.toNat ≤ 90
  · -- a letter is no space, in either case
    have hlower : c.toLower.toNat = c.toNat + 32 := by
      unfold Char.toLower
      rw [dif_pos (by simpa [UInt32.le_iff_toNat_le] using hupper)]
      change (c.val + 32).toNat = _
      rw [UInt32.toNat_add]
      change (c.toNat + 32) % 2 ^ 32 = _
      omega
    rw [isSpace_eq_false (by omega), isSpace_eq_false (by omega)]
  · unfold Char.toLower
    rw [dif_neg (by simpa [UInt32.le_iff_toNat_le] using hupper)]

theorem trimSpace_toLower (s : String) : trimSpace (toLower s) = toLower (trimSpace s) := by
  have hsame : isSpace ∘ Char.toLower = isSpace := funext isSpace_toLower
  refine String.toList_injective ?_
  rw [trimSpace_toList, toLower, String.toList_ofList, toLower, String.toList_ofList,
    trimSpace_toList, List.rdropWhile, List.rdropWhile, List.dropWhile_map, hsame,
    ← List.map_reverse, List.dropWhile_map, hsame, ← List.map_reverse]

def hasPrefix (s pre : String) : Bool := pre.toList.isPrefixOf s.toList

theorem eq_append_of_hasPrefix {s pre : String} (h : hasPrefix s pre = true) :
    ∃ tail, s = pre ++ tail := by
  rw [hasPrefix, List.isPrefixOf_iff_prefix] at h
  obtain ⟨tail, htail⟩ := h
  have hs := congrArg String.ofList htail
  rw [String.ofList_append, String.ofList_toList, String.ofList_toList] at hs
  exact ⟨String.ofList tail, hs.symm⟩

def trimPrefix (s pre : String) : String :=
  if hasPrefix s pre then String.ofList (s.toList.drop pre.toList.length) else s

/-- `len(s)`: the bytes of the UTF-8 text. -/
def byteLength (s : String) : ℕ := (s.toList.map fun c => c.utf8Size).sum

/-- The verb `%q`, for texts without anything to escape. -/
def quote (s : String) : String := "\"" ++ s ++ "\""

def stringsAreSorted : List String → Bool
  | [] => true
  | [_] => true
  | a :: b :: rest => decide (a ≤ b) && stringsAreSorted (b :: rest)

/-! ### Canonical UUIDs -/

/-- A lower-case hexadecimal digit. -/
def isLowerHex (c : Char) : Bool := ('0' ≤ c && c ≤ '9') || ('a' ≤ c && c ≤ 'f')

/-- Groups of lower-case hexadecimal digits of the given lengths, joined by dashes. -/
def matchHexGroups : List ℕ → List Char → Bool
  | [], cs => cs.isEmpty
  | n :: ns, cs =>
    (cs.take n).length == n && (cs.take n).all isLowerHex &&
      match ns, cs.drop n with
      | [], rest => rest.isEmpty
      | _ :: _, '-' :: rest => matchHexGroups ns rest
      | _ :: _, _ => false

/-- `^[0-9a-f]{8}-[0-9a-f]{4}-[0-9a-f]{4}-[0-9a-f]{4}-[0-9a-f]{12}$`. -/
def uuidPattern (s : String) : Bool := matchHexGroups [8, 4, 4, 4, 12] s.toList

/-- The same pattern with either case, `[0-9a-fA-F]`. -/
def uuidPatternFold (s : String) : Bool := uuidPattern (toLower s)

/-- `^[0-9a-f]{32}$`. -/
def hex32Pattern (s : String) : Bool := matchHexGroups [32] s.toList

/-! ### Addresses and labels -/

/-- The number a text of decimal digits without leading zeros stands for, if
it fits a byte. -/
def parseOctet (cs : List Char) : Option ℕ :=
  if cs.isEmpty || !cs.all Char.isDigit || (cs.head? == some '0' && cs.length != 1) then none
  else
    let n := cs.foldl (fun n c => 10 * n + (c.toNat - '0'.toNat)) 0
    if n ≤ 255 then some n else none

/-- `netip.ParseAddr` with `Is4`: four octets joined by dots.  An address has
one such text, so `String` gives the parsed text back. -/
def parseIPv4 (s : String) : Option (List ℕ) :=
  let octets := (s.toList.splitOn '.').map parseOctet
  if octets.length == 4 && octets.all Option.isSome then some (octets.filterMap id) else none

/-- `IsGlobalUnicast` of an IPv4 address: not unspecified, broadcast, loopback,
multicast or link-local. -/
def isGlobalUnicast (octets : List ℕ) : Bool :=
  match octets with
  | [a, b, _, _] =>
    octets != [0, 0, 0, 0] && octets != [255, 255, 255, 255] && a != 127 &&
      !(224 ≤ a && a ≤ 239) && !(a == 169 && b == 254)
  | _ => false

/-- `IsPrivate` of an IPv4 address. -/
def isPrivate (octets : List ℕ) : Bool :=
  match octets with
  | [a, b, _, _] => a == 10 || (a == 172 && 16 ≤ b && b ≤ 31) || (a == 192 && b == 168)
  | _ => false

/-- A text `netip.ParseAddr` takes to a public IPv4 address. -/
def publicIPv4 (s : String) : Bool :=
  match parseIPv4 s with
  | some octets => isGlobalUnicast octets && !isPrivate octets
  | none => false

def isDNS1123Label (s : String) : Bool :=
  let inner c := ('a' ≤ c && c ≤ 'z') || ('0' ≤ c && c ≤ '9')
  s.toList.all (fun c => inner c || c == '-') && s.toList.head?.any inner &&
    s.toList.getLast?.any inner && s.toList.length ≤ 63

/-! ### The length of JSON -/

/-- The bytes `json.Marshal` writes for one character of a string. -/
def jsonCharBytes (c : Char) : ℕ :=
  if c = '"' ∨ c = '\\' ∨ c = '\n' ∨ c = '\r' ∨ c = '\t' ∨ c.toNat = 8 ∨ c.toNat = 12 then 2
  else if c.toNat < 32 ∨ c = '<' ∨ c = '>' ∨ c = '&' ∨ c.toNat = 0x2028 ∨ c.toNat = 0x2029 then 6
  else c.utf8Size

def jsonStringBytes (s : String) : ℕ := 2 + (s.toList.map jsonCharBytes).sum

def jsonIntBytes (n : ℤ) : ℕ := (toString n).toList.length

/-- Elements or members of the given lengths, between brackets and with commas. -/
def jsonListBytes (lengths : List ℕ) : ℕ := 2 + lengths.sum + (lengths.length - 1)

/-- A member of an object. -/
def jsonMemberBytes (key : String) (valueBytes : ℕ) : ℕ := jsonStringBytes key + 1 + valueBytes

example : uuidPattern "0a000000-0000-4000-8000-00000000000f" = true := by decide

example : uuidPattern "0a000000-0000-4000-8000-00000000000F" = false := by decide

example : trimSpace " Deleted\n" = "Deleted" := by decide

example : publicIPv4 "203.0.113.7" = true := by decide

example : publicIPv4 "203.0.113.07" = false := by decide

end InSpaceKube
