/-
InSpaceKube/Netip.lean

IPv4 addresses and prefixes of package `netip`, as 32-bit words.

A prefix of `bits` bits holds the addresses that agree with its own in the
first `bits` bits (`Prefix4.Contains`).  These are the addresses between the
masked one and the one with all host bits set (`Prefix4.contains_iff`), so
whether a range meets a prefix is a matter of their ends
(`Prefix4.exists_mem_iff`).  Code that works with the four bytes of an address
puts them together again with shifts, in 32 or in 64 bits (`value_bytes`).
-/
import Mathlib

namespace InSpaceKube.Netip

/-! ### Addresses -/

abbrev IPv4 := BitVec 32

/-- `As4`. -/
structure Bytes where
  b0 : BitVec 8
  b1 : BitVec 8
  b2 : BitVec 8
  b3 : BitVec 8
deriving DecidableEq, Repr

def bytes (a : IPv4) : Bytes :=
  ⟨a.extractLsb' 24 8, a.extractLsb' 16 8, a.extractLsb' 8 8, a.extractLsb' 0 8⟩

/-- The bytes put together in a word of `w` bits. -/
def Bytes.value (w : ℕ) (b : Bytes) : BitVec w :=
  b.b0.setWidth w <<< 24 ||| b.b1.setWidth w <<< 16 ||| b.b2.setWidth w <<< 8 ||| b.b3.setWidth w

theorem getLsbD_byte (a : IPv4) {w i : ℕ} (k : ℕ) (hi : i < w) :
    ((a.extractLsb' k 8).setWidth w <<< k).getLsbD i =
      (decide (k ≤ i ∧ i < k + 8) && a.getLsbD i) := by
  simp only [BitVec.getLsbD_shiftLeft, BitVec.getLsbD_setWidth, BitVec.getLsbD_extractLsb', hi,
    decide_true, Bool.true_and]
  by_cases hk : k ≤ i
  · have hle : ¬ i < k := by omega
    have hw : i - k < w := by omega
    have hbyte : i - k < 8 ↔ i < k + 8 := by omega
    have hbit : k + (i - k) = i := by omega
    simp [hk, hle, hw, hbyte, hbit]
  · have hlt : i < k := by omega
    simp [hk, hlt]

theorem value_bytes (w : ℕ) (a : IPv4) : (bytes a).value w = a.setWidth w := by
  refine BitVec.eq_of_getLsbD_eq fun i hi => ?_
  have hlast := getLsbD_byte a 0 hi
  rw [BitVec.shiftLeft_zero] at hlast
  rw [Bytes.value, BitVec.getLsbD_or, BitVec.getLsbD_or, BitVec.getLsbD_or, bytes,
    getLsbD_byte a 24 hi, getLsbD_byte a 16 hi, getLsbD_byte a 8 hi, hlast,
    BitVec.getLsbD_setWidth]
  cases hbit : a.getLsbD i with
  | false => simp
  | true =>
    have hlt := BitVec.lt_of_getLsbD hbit
    simp [hi]
    omega

/-- The four numbers of a text, as an address. -/
def ofOctets (octets : List ℕ) : IPv4 :=
  octets.foldl (fun a octet => a <<< 8 ||| BitVec.ofNat 32 octet) 0

/-- `String`. -/
def text (a : IPv4) : String :=
  toString (bytes a).b0.toNat ++ "." ++ toString (bytes a).b1.toNat ++ "." ++
    toString (bytes a).b2.toNat ++ "." ++ toString (bytes a).b3.toNat

/-- `IsPrivate`. -/
def isPrivate4 (a : IPv4) : Bool :=
  let b := bytes a
  b.b0 == 10 || (b.b0 == 172 && b.b1 &&& 0xf0 == 16) || (b.b0 == 192 && b.b1 == 168)

/-! ### Prefixes -/

/-- A prefix with any address in it. -/
structure Prefix4 where
  addr : IPv4
  bits : ℕ
  bits_le : bits ≤ 32
deriving DecidableEq

namespace Prefix4

/-- The bits of the host, `^uint32(0) >> bits`. -/
def hostMask (p : Prefix4) : IPv4 := BitVec.allOnes 32 >>> p.bits

/-- `Masked().Addr()`. -/
def masked (p : Prefix4) : IPv4 := p.addr &&& ~~~ p.hostMask

def Contains (p : Prefix4) (a : IPv4) : Prop := (a ^^^ p.addr) >>> (32 - p.bits) = 0#32

instance (p : Prefix4) (a : IPv4) : Decidable (p.Contains a) :=
  inferInstanceAs (Decidable (_ = _))

theorem hostMask_toNat (p : Prefix4) : p.hostMask.toNat = 2 ^ (32 - p.bits) - 1 := by
  have key : ∀ bits ≤ 32, (2 ^ 32 - 1) >>> bits = 2 ^ (32 - bits) - 1 := by decide
  rw [hostMask, BitVec.toNat_ushiftRight, BitVec.toNat_allOnes]
  exact key p.bits p.bits_le

/-- Masking shifts the host bits out and in again. -/
theorem masked_eq_shift (p : Prefix4) :
    p.masked = (p.addr >>> (32 - p.bits)) <<< (32 - p.bits) := by
  have hbits := p.bits_le
  refine BitVec.eq_of_getLsbD_eq fun i hi => ?_
  simp only [masked, hostMask, BitVec.getLsbD_and, BitVec.getLsbD_not, BitVec.getLsbD_ushiftRight,
    BitVec.getLsbD_allOnes, BitVec.getLsbD_shiftLeft, hi, decide_true, Bool.true_and]
  by_cases hhost : i < 32 - p.bits
  · have hlt : p.bits + i < 32 := by omega
    simp [hhost, hlt]
  · have hge : ¬ p.bits + i < 32 := by omega
    have hbit : 32 - p.bits + (i - (32 - p.bits)) = i := by omega
    simp [hhost, hge, hbit]

theorem masked_toNat (p : Prefix4) :
    p.masked.toNat = (p.addr.toNat / 2 ^ (32 - p.bits)) <<< (32 - p.bits) := by
  rw [masked_eq_shift, BitVec.toNat_shiftLeft, BitVec.toNat_ushiftRight, Nat.shiftRight_eq_div_pow]
  refine Nat.mod_eq_of_lt ?_
  rw [Nat.shiftLeft_eq]
  exact Nat.lt_of_le_of_lt (Nat.div_mul_le_self _ _) p.addr.isLt

/-- The last address of the prefix has all host bits set. -/
theorem last_toNat (p : Prefix4) :
    (p.masked ||| p.hostMask).toNat = p.masked.toNat + (2 ^ (32 - p.bits) - 1) := by
  have hlt : 2 ^ (32 - p.bits) - 1 < 2 ^ (32 - p.bits) :=
    Nat.sub_lt (Nat.two_pow_pos _) Nat.one_pos
  rw [BitVec.toNat_or, hostMask_toNat, masked_toNat, Nat.shiftLeft_add_eq_or_of_lt hlt]

theorem contains_iff_div (p : Prefix4) (a : IPv4) :
    p.Contains a ↔ a.toNat / 2 ^ (32 - p.bits) = p.addr.toNat / 2 ^ (32 - p.bits) := by
  rw [Contains, BitVec.ushiftRight_xor_distrib, BitVec.xor_eq_zero_iff, ← BitVec.toNat_inj,
    BitVec.toNat_ushiftRight, BitVec.toNat_ushiftRight, Nat.shiftRight_eq_div_pow,
    Nat.shiftRight_eq_div_pow]

/-- A prefix is the range of addresses from the masked one to the last. -/
theorem contains_iff (p : Prefix4) (a : IPv4) :
    p.Contains a ↔ p.masked ≤ a ∧ a ≤ (p.masked ||| p.hostMask) := by
  have hpos := Nat.two_pow_pos (32 - p.bits)
  rw [contains_iff_div, BitVec.le_def, BitVec.le_def, last_toNat, masked_toNat, Nat.shiftLeft_eq,
    Nat.div_eq_iff hpos]
  omega

/-- A range meets a prefix when neither lies behind the other. -/
theorem exists_mem_iff (p : Prefix4) {start stop : IPv4} (h : start ≤ stop) :
    (∃ a, start ≤ a ∧ a ≤ stop ∧ p.Contains a) ↔
      start ≤ (p.masked ||| p.hostMask) ∧ p.masked ≤ stop := by
  simp only [contains_iff]
  constructor
  · rintro ⟨a, hstart, hstop, hmasked, hlast⟩
    exact ⟨BitVec.le_trans hstart hlast, BitVec.le_trans hmasked hstop⟩
  · rintro ⟨hlast, hmasked⟩
    have hprefix : p.masked ≤ (p.masked ||| p.hostMask) := by
      rw [BitVec.le_def, last_toNat]
      omega
    -- the later one of the two first addresses is in both
    rcases BitVec.le_total start p.masked with hle | hle
    · exact ⟨p.masked, hle, hmasked, BitVec.le_refl _, hprefix⟩
    · exact ⟨start, BitVec.le_refl _, h, hle, hlast⟩

end Prefix4

end InSpaceKube.Netip
