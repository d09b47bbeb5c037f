/-
InSpaceKube/Url.lean

References as `net/url` parses them.

`parse` follows `url.Parse`: the fragment is cut off, then the scheme, the
query, the authority and the path are taken from the front.  A text is the
list of its characters; a decoded path is a list of bytes, since a percent
escape stands for one byte.

* `parse_hierarchical` — scheme, host and path segment are read back from
  `scheme://host/segment`, when there is nothing to escape in them.

Hosts are read as they are written.  An address in brackets and a host with a
percent escape are refused, which `url.Parse` does not always do; so are the
lists of hosts that it reads for the scheme of PostgreSQL only.
-/
import Mathlib

namespace InSpaceKube

/-- `URL`.  `user` says whether there is any user information, `rawPath` is the
path as it is written, `rest` what `Opaque` holds: what follows the scheme where
no slash does. -/
structure Url where
  scheme : List Char := []
  rest : List Char := []
  user : Bool := false
  host : List Char := []
  path : List UInt8 := []
  rawPath : List Char := []
  rawQuery : List Char := []
  fragment : List UInt8 := []
deriving DecidableEq, Repr

namespace Url

/-! ### Characters -/

/-- Characters of a scheme. -/
def schemeChar (c : Char) : Bool := c.isAlphanum || c == '+' || c == '-' || c == '.'

/-- Characters that need no escape anywhere in a reference. -/
def unreserved (c : Char) : Bool := c.isAlphanum || c == '-' || c == '_' || c == '.' || c == '~'

/-- `stringContainsCTLByte`. -/
def control (c : Char) : Bool := decide (c.toNat < 0x20) || c.toNat == 0x7f

/-- Characters of a host that is not in brackets: those that are not ASCII pass. -/
def hostChar (c : Char) : Bool :=
  decide (0x80 ≤ c.toNat) || unreserved c || "!$&'()*+,;=:<>\"".toList.contains c

/-- `validUserinfo`, for one character. -/
def userChar (c : Char) : Bool := unreserved c || ":!$&'()*+,;=%@".toList.contains c

/-- `!shouldEscape(c, encodePath)`. -/
def pathChar (c : Char) : Bool := unreserved c || "$&+,/:;=@".toList.contains c

/-- `validEncoded`, for one character of a path. -/
def encodedChar (c : Char) : Bool := pathChar c || "!'()*[]%".toList.contains c

/-! ### Escapes -/

/-- The value of a hexadecimal digit. -/
def unhex (c : Char) : Option ℕ :=
  if c.isDigit then some (c.toNat - '0'.toNat)
  else if 'a' ≤ c ∧ c ≤ 'f' then some (c.toNat - 'a'.toNat + 10)
  else if 'A' ≤ c ∧ c ≤ 'F' then some (c.toNat - 'A'.toNat + 10)
  else none

/-- `unescape` of a path, a fragment or user information. -/
def unescape : List Char → Option (List UInt8)
  | [] => some []
  | '%' :: hi :: lo :: text => do
    let hi ← unhex hi
    let lo ← unhex lo
    let bytes ← unescape text
    some (UInt8.ofNat (16 * hi + lo) :: bytes)
  | c :: text =>
    if c = '%' then none
    else (unescape text).map (String.utf8EncodeChar c ++ ·)

/-- A byte as the character of that number. -/
def byteChar (b : UInt8) : Char := Char.ofNat b.toNat

/-- The digit of a number below 16, in upper case. -/
def hexDigit (n : ℕ) : Char := "0123456789ABCDEF".toList.getD n '0'

/-- `escape` of a path. -/
def escape (bytes : List UInt8) : List Char :=
  bytes.flatMap fun b =>
    if pathChar (byteChar b) then [byteChar b]
    else ['%', hexDigit (b.toNat / 16), hexDigit (b.toNat % 16)]

def escapedPath (u : Url) : List Char :=
  if u.rawPath.all encodedChar then u.rawPath else escape u.path

/-- The decoded path, a character for each byte. -/
def pathText (u : Url) : List Char := u.path.map byteChar

/-! ### The parts -/

/-- `strings.Cut` at a character. -/
def cut (sep : Char) (text : List Char) : List Char × List Char :=
  (text.takeWhile (· != sep), (text.dropWhile (· != sep)).tail)

/-- `getScheme`: the scheme, which may be empty, and what follows it. -/
def getScheme (text : List Char) : Option (List Char × List Char) :=
  let scheme := text.takeWhile schemeChar
  match text.dropWhile schemeChar with
  | ':' :: rest =>
    if scheme = [] then none
    else if scheme.head?.any Char.isAlpha then some (scheme, rest)
    else some ([], text)
  | _ => some ([], text)

def validOptionalPort : List Char → Bool
  | [] => true
  | c :: digits => c == ':' && digits.all Char.isDigit

/-- `parseHost`: the host is the text itself. -/
def validHost (text : List Char) : Bool :=
  text.all hostChar && validOptionalPort (text.dropWhile (· != ':'))

/-- `parseAuthority`: whether there is user information, and the host. -/
def parseAuthority (text : List Char) : Option (Bool × List Char) :=
  if '@' ∈ text then
    let host := (text.reverse.takeWhile (· != '@')).reverse
    let user := text.take (text.length - host.length - 1)
    if validHost host && user.all userChar && (unescape user).isSome then some (true, host)
    else none
  else if validHost text then some (false, text)
  else none

def setPath (u : Url) (path : List Char) : Option Url :=
  (unescape path).map fun bytes => { u with path := bytes, rawPath := path }

/-- The authority and the path, behind the scheme and before the query. -/
def parseHierarchy (u : Url) (text : List Char) : Option Url :=
  if "//".toList.isPrefixOf text && (u.scheme != [] || !"///".toList.isPrefixOf text) then
    let authority := (text.drop 2).takeWhile (· != '/')
    (parseAuthority authority).bind fun (user, host) =>
      setPath { u with user := user, host := host } ((text.drop 2).dropWhile (· != '/'))
  else u.setPath text

/-- `parse`: everything before the fragment. -/
def parseReference (text : List Char) : Option Url :=
  if text.any control then none
  else if text = ['*'] then setPath {} text
  else
    (getScheme text).bind fun (scheme, text) =>
      let (text, query) := cut '?' text
      let u : Url := { scheme := scheme.map Char.toLower, rawQuery := query }
      if text.head? = some '/' then parseHierarchy u text
      else if scheme ≠ [] then some { u with rest := text }
      else if ':' ∈ (cut '/' text).1 then none
      else parseHierarchy u text

def parse (text : List Char) : Option Url :=
  let (text, fragment) := cut '#' text
  (parseReference text).bind fun u =>
    (unescape fragment).map fun bytes => { u with fragment := bytes }

/-! ### What is read back -/

/-- What is known of an unreserved character. -/
structure Plain (c : Char) : Prop where
  ascii : c.toNat < 0x80
  control : control c = false
  ne_hash : c ≠ '#'
  ne_question : c ≠ '?'
  ne_slash : c ≠ '/'
  ne_colon : c ≠ ':'
  ne_at : c ≠ '@'
  ne_percent : c ≠ '%'

theorem isAlphanum_cases {c : Char} (h : c.isAlphanum = true) :
    (65 ≤ c.toNat ∧ c.toNat ≤ 90) ∨ (97 ≤ c.toNat ∧ c.toNat ≤ 122) ∨
      (48 ≤ c.toNat ∧ c.toNat ≤ 57) := by
  simp only [Char.isAlphanum, Char.isAlpha, Char.isUpper, Char.isLower, Char.isDigit,
    Bool.or_eq_true, Bool.and_eq_true, decide_eq_true_eq, UInt32.le_iff_toNat_le, ge_iff_le] at h
  change ((65 ≤ c.toNat ∧ c.toNat ≤ 90) ∨ (97 ≤ c.toNat ∧ c.toNat ≤ 122)) ∨
    (48 ≤ c.toNat ∧ c.toNat ≤ 57) at h
  omega

theorem plain_of_unreserved {c : Char} (h : unreserved c = true) : Plain c := by
  simp only [unreserved, Bool.or_eq_true, beq_iff_eq] at h
  rcases h with (((h | rfl) | rfl) | rfl) | rfl
  · have hrange := isAlphanum_cases h
    -- none of the excluded characters is a letter or a digit
    have hne : ∀ d : Char, d.isAlphanum = false → c ≠ d := by
      rintro d hd rfl
      rw [h] at hd
      cases hd
    refine ⟨by omega, ?_, hne _ rfl, hne _ rfl, hne _ rfl, hne _ rfl, hne _ rfl, hne _ rfl⟩
    rw [control, Bool.or_eq_false_iff, decide_eq_false_iff_not, beq_eq_false_iff_ne]
    omega
  all_goals constructor <;> decide

theorem utf8EncodeChar_plain {c : Char} (h : Plain c) :
    String.utf8EncodeChar c = [UInt8.ofNat c.toNat] := by
  have hlt : c.toNat ≤ 0x7f := Nat.le_of_lt_succ h.ascii
  simp [String.utf8EncodeChar, hlt]

theorem byteChar_plain {c : Char} (h : Plain c) : byteChar (UInt8.ofNat c.toNat) = c := by
  have hlt := h.ascii
  rw [byteChar, UInt8.toNat_ofNat', Nat.mod_eq_of_lt (by omega), Char.ofNat_toNat]

/-- The bytes of a text without anything to escape. -/
def bytes (text : List Char) : List UInt8 := text.map fun c => UInt8.ofNat c.toNat

theorem map_byteChar_bytes {text : List Char} (h : ∀ c ∈ text, Plain c) :
    (bytes text).map byteChar = text := by
  rw [bytes, List.map_map]
  exact (List.map_congr_left fun c hc => byteChar_plain (h c hc)).trans (List.map_id text)

theorem unescape_cons {c : Char} (hascii : String.utf8EncodeChar c = [UInt8.ofNat c.toNat])
    (hpercent : c ≠ '%') (text : List Char) :
    unescape (c :: text) = (unescape text).map (UInt8.ofNat c.toNat :: ·) := by
  rw [unescape, if_neg hpercent, hascii]
  · rfl
  · intro _ _ _ hc
    exact absurd hc hpercent

theorem unescape_plain {text : List Char} (h : ∀ c ∈ text, Plain c) :
    unescape text = some (bytes text) := by
  induction text with
  | nil => rfl
  | cons _ _ ih =>
    obtain ⟨hc, htext⟩ := List.forall_mem_cons.1 h
    rw [unescape_cons (utf8EncodeChar_plain hc) hc.ne_percent, ih htext]
    rfl

theorem cut_of_not_mem {sep : Char} {text : List Char} (h : sep ∉ text) :
    cut sep text = (text, []) := by
  have htext : ∀ c ∈ text, (c != sep) = true := fun c hc => bne_iff_ne.2 fun heq => h (heq ▸ hc)
  rw [cut, List.takeWhile_eq_self_iff.2 htext, List.dropWhile_eq_nil_iff.2 htext]
  rfl

theorem getScheme_append {scheme : List Char} (hne : scheme.head?.any Char.isAlpha = true)
    (hall : ∀ c ∈ scheme, schemeChar c = true) (text : List Char) :
    getScheme (scheme ++ ':' :: text) = some (scheme, text) := by
  have hnil : scheme ≠ [] := by
    rintro rfl
    cases hne
  have hcolon : schemeChar ':' = false := by decide
  simp [getScheme, List.takeWhile_append_of_pos hall, List.dropWhile_append_of_pos hall, hcolon,
    hnil, hne]

theorem validHost_plain {host : List Char} (h : ∀ c ∈ host, unreserved c = true) :
    validHost host = true := by
  have hport : host.dropWhile (· != ':') = [] :=
    List.dropWhile_eq_nil_iff.2 fun c hc => bne_iff_ne.2 (plain_of_unreserved (h c hc)).ne_colon
  rw [validHost, hport, Bool.and_eq_true]
  refine ⟨List.all_eq_true.2 fun c hc => ?_, rfl⟩
  simp [hostChar, h c hc]

theorem parseAuthority_plain {host : List Char} (h : ∀ c ∈ host, unreserved c = true) :
    parseAuthority host = some (false, host) := by
  have hat : '@' ∉ host := fun hmem => (plain_of_unreserved (h _ hmem)).ne_at rfl
  rw [parseAuthority, if_neg hat, if_pos (validHost_plain h)]

theorem parseHierarchy_plain {u : Url} (hscheme : u.scheme ≠ []) {host segment : List Char}
    (hhost : ∀ c ∈ host, unreserved c = true) (hsegment : ∀ c ∈ segment, unreserved c = true) :
    parseHierarchy u ("//".toList ++ host ++ '/' :: segment) =
      some { u with
        user := false, host := host, path := bytes ('/' :: segment),
        rawPath := '/' :: segment } := by
  have hslash : ∀ c ∈ host, (c != '/') = true := fun c hc =>
    bne_iff_ne.2 (plain_of_unreserved (hhost c hc)).ne_slash
  have hpath : unescape ('/' :: segment) = some (bytes ('/' :: segment)) := by
    rw [unescape_cons (by decide) (by decide),
      unescape_plain fun c hc => plain_of_unreserved (hsegment c hc)]
    rfl
  have hauthority : (host ++ '/' :: segment).takeWhile (· != '/') = host := by
    rw [List.takeWhile_append_of_pos hslash]
    simp
  have hrest : (host ++ '/' :: segment).dropWhile (· != '/') = '/' :: segment := by
    rw [List.dropWhile_append_of_pos hslash]
    simp
  have hfront : ("//".toList.isPrefixOf ("//".toList ++ host ++ '/' :: segment) &&
      (u.scheme != [] || !"///".toList.isPrefixOf ("//".toList ++ host ++ '/' :: segment))) =
      true := by
    rw [Bool.and_eq_true, Bool.or_eq_true]
    exact ⟨by rw [List.append_assoc, List.isPrefixOf_iff_prefix]; exact List.prefix_append ..,
      .inl (bne_iff_ne.2 hscheme)⟩
  rw [parseHierarchy, if_pos hfront]
  change (parseAuthority ((host ++ '/' :: segment).takeWhile (· != '/'))).bind _ = _
  rw [hauthority, parseAuthority_plain hhost, Option.bind_some]
  change setPath _ ((host ++ '/' :: segment).dropWhile (· != '/')) = _
  rw [hrest, setPath, hpath]
  rfl

/-- Scheme, host and path segment of a reference that has nothing to escape. -/
theorem parse_hierarchical {scheme host segment : List Char}
    (halpha : scheme.head?.any Char.isAlpha = true) (hscheme : ∀ c ∈ scheme, schemeChar c = true)
    (hplain : ∀ c ∈ scheme, unreserved c = true) (hhost : ∀ c ∈ host, unreserved c = true)
    (hsegment : ∀ c ∈ segment, unreserved c = true) :
    parse (scheme ++ ':' :: ("//".toList ++ host ++ '/' :: segment)) =
      some { scheme := scheme.map Char.toLower, host := host, path := bytes ('/' :: segment),
             rawPath := '/' :: segment } := by
  -- every character is plain, a colon or a slash
  have hchars : ∀ c ∈ scheme ++ ':' :: ("//".toList ++ host ++ '/' :: segment),
      Plain c ∨ c = ':' ∨ c = '/' := by
    intro c hc
    simp only [List.mem_append, List.mem_cons, show "//".toList = ['/', '/'] from rfl,
      List.not_mem_nil, or_false] at hc
    rcases hc with hc | hc | ((hc | hc) | hc) | hc | hc
    · exact .inl (plain_of_unreserved (hplain c hc))
    · exact .inr (.inl hc)
    · exact .inr (.inr hc)
    · exact .inr (.inr hc)
    · exact .inl (plain_of_unreserved (hhost c hc))
    · exact .inr (.inr hc)
    · exact .inl (plain_of_unreserved (hsegment c hc))
  have hnot : ∀ sep : Char, (∀ c, Plain c → c ≠ sep) → sep ≠ ':' → sep ≠ '/' →
      sep ∉ scheme ++ ':' :: ("//".toList ++ host ++ '/' :: segment) := by
    intro sep hsep hcolon hslash hmem
    rcases hchars sep hmem with h | h | h
    · exact hsep sep h rfl
    · exact hcolon h
    · exact hslash h
  have hquestion := hnot '?' (fun _ h => h.ne_question) (by decide) (by decide)
  have hcontrol : (scheme ++ ':' :: ("//".toList ++ host ++ '/' :: segment)).any control =
      false := by
    rw [List.any_eq_false]
    intro c hc
    rcases hchars c hc with h | rfl | rfl
    · rw [h.control]
      exact Bool.false_ne_true
    · decide
    · decide
  have hstar : scheme ++ ':' :: ("//".toList ++ host ++ '/' :: segment) ≠ ['*'] := by
    intro h
    have hcolon : ':' ∈ ['*'] := h ▸ List.mem_append_right scheme (.head _)
    exact absurd hcolon (by decide)
  have hlower : scheme.map Char.toLower ≠ [] := by
    intro h
    rw [List.map_eq_nil_iff.1 h] at halpha
    cases halpha
  rw [parse, cut_of_not_mem (hnot '#' (fun _ h => h.ne_hash) (by decide) (by decide))]
  dsimp only
  rw [parseReference, hcontrol, if_neg Bool.false_ne_true, if_neg hstar,
    getScheme_append halpha hscheme, Option.bind_some]
  dsimp only
  rw [cut_of_not_mem fun h => hquestion (List.mem_append_right _ (.tail _ h))]
  dsimp only
  rw [if_pos (by rfl), parseHierarchy_plain (by exact hlower) hhost hsegment]
  rfl

end Url

end InSpaceKube
