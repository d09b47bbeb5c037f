/-
InSpaceKube/PrivatePool.lean

The range of private addresses that Services of type LoadBalancer get theirs
from, and the four places that check it: the configuration of the cloud
controller manager (`cloud.go`), that of Karpenter
(`private_load_balancer_pool.go`), the spec of an `InSpaceCluster`
(`api/v1alpha1/types.go`) and the bootstrap (`reconciler.go`).

They differ in the width of their words, in how they find the last address of
a prefix and in the order of their checks.  All accept a pair that is a `Pool`:
canonical private addresses in order, between 16 and 256 of them, none in the
pod or the Service network.  The spec also looks at the virtual address of the
control plane, and the bootstrap at the subnet as well; these checks come on
top and change nothing else (`pool_validators_agree`).

Of IPv6 texts only which ones package `netip` takes matters: every check here
turns them down or passes over them.
-/
import InSpaceKube.Netip
import InSpaceKube.NodeLB.Firewall

namespace InSpaceKube.PrivatePool

open Netip

/-! ### Parsing -/

/-- The texts `netip` takes to an IPv6 address or prefix. -/
structure IPv6Texts where
  addr : String → Bool
  pre : String → Bool

inductive Addr
  | v4 (a : IPv4)
  | v6 (text : String)
deriving DecidableEq

inductive Prefix
  | v4 (p : Prefix4)
  | v6 (text : String)
deriving DecidableEq

def parseAddr (v6 : IPv6Texts) (value : String) : Option Addr :=
  match parseIPv4 value with
  | some octets => some (.v4 (ofOctets octets))
  | none => if v6.addr value then some (.v6 value) else none

def parsePrefix (v6 : IPv6Texts) (value : String) : Option Prefix :=
  match NodeLB.parsePrefix4 value with
  | some (addr, bits) =>
    if h : bits ≤ 32 then some (.v4 ⟨BitVec.ofNat 32 addr, bits, h⟩) else none
  | none => if v6.pre value then some (.v6 value) else none

/-- The address of a text that parses, is IPv4 and private. -/
def privateIPv4 (v6 : IPv6Texts) (value : String) : Option IPv4 :=
  match parseAddr v6 value with
  | some (.v4 a) => if isPrivate4 a then some a else none
  | _ => none

def prefixText (p : Prefix4) : String := text p.addr ++ "/" ++ toString p.bits

/-! ### The constants -/

def CiliumNativeRoutingPodCIDR : String := "10.42.0.0/16"
def KubernetesServiceCIDR : String := "10.43.0.0/16"
def PrivateLoadBalancerPoolMinAddresses : BitVec 64 := 16#64
def PrivateLoadBalancerPoolMaxAddresses : BitVec 64 := 256#64

/-- `netip.MustParsePrefix(CiliumNativeRoutingPodCIDR)`. -/
def podPrefix : Prefix4 := ⟨ofOctets [10, 42, 0, 0], 16, by decide⟩

/-- `netip.MustParsePrefix(KubernetesServiceCIDR)`. -/
def servicePrefix : Prefix4 := ⟨ofOctets [10, 43, 0, 0], 16, by decide⟩

theorem parsePrefix_pod (v6 : IPv6Texts) :
    parsePrefix v6 CiliumNativeRoutingPodCIDR = some (.v4 podPrefix) := by
  have h : NodeLB.parsePrefix4 CiliumNativeRoutingPodCIDR = some (0x0a2a0000, 16) := by decide
  rw [parsePrefix, h]
  rfl

theorem parsePrefix_service (v6 : IPv6Texts) :
    parsePrefix v6 KubernetesServiceCIDR = some (.v4 servicePrefix) := by
  have h : NodeLB.parsePrefix4 KubernetesServiceCIDR = some (0x0a2b0000, 16) := by decide
  rw [parsePrefix, h]
  rfl

/-! ### The cloud controller manager -/

namespace Ccm

def cloudIPv4Value (address : IPv4) : BitVec 32 := (bytes address).value 32

def fixedClusterCIDRs : List Prefix4 := [podPrefix, servicePrefix]

def cloudIPv4RangeOverlapsPrefix (start stop : IPv4) (p : Prefix4) : Bool :=
  let prefixStart := cloudIPv4Value p.masked
  let prefixStop := prefixStart ||| (BitVec.allOnes 32 >>> p.bits)
  cloudIPv4Value start ≤ prefixStop && prefixStart ≤ cloudIPv4Value stop

def parsePrivateLoadBalancerPool (v6 : IPv6Texts) (startValue stopValue : String) :
    Except String (IPv4 × IPv4) :=
  match privateIPv4 v6 startValue, privateIPv4 v6 stopValue with
  | some start, some stop => do
    failIf (text start ≠ startValue ∨ text stop ≠ stopValue)
      ("cloudprovider: private load-balancer pool start/stop must be canonical RFC1918 IPv4 "
        ++ "addresses")
    failIf (stop < start)
      "cloudprovider: private load-balancer pool start must be less than or equal to stop"
    let count := (cloudIPv4Value stop - cloudIPv4Value start).setWidth 64 + 1#64
    failIf (count < PrivateLoadBalancerPoolMinAddresses ∨
        PrivateLoadBalancerPoolMaxAddresses < count)
      "cloudprovider: private load-balancer pool must contain between 16 and 256 addresses"
    fixedClusterCIDRs.forM fun reserved =>
      failIf (cloudIPv4RangeOverlapsPrefix start stop reserved)
        ("cloudprovider: private load-balancer pool must not overlap fixed cluster CIDR "
          ++ prefixText reserved)
    return (start, stop)
  | _, _ => .error ("cloudprovider: private load-balancer pool start/stop must be canonical "
      ++ "RFC1918 IPv4 addresses")

end Ccm

/-! ### Karpenter -/

namespace Karpenter

def ipv4Value (address : IPv4) : BitVec 64 := (bytes address).value 64

def inclusiveRangeOverlapsPrefix (start stop : IPv4) (p : Prefix4) : Bool :=
  let prefixStartValue := ipv4Value p.masked
  let prefixEndValue := prefixStartValue + (1#64 <<< (32 - p.bits)) - 1#64
  ipv4Value start ≤ prefixEndValue && prefixStartValue ≤ ipv4Value stop

def parseCanonicalPrivateIPv4 (v6 : IPv6Texts) (value fieldName : String) : Except String IPv4 :=
  match privateIPv4 v6 value with
  | none => .error (fieldName ++ " " ++ quote value ++ " must be a literal RFC1918 IPv4 address")
  | some address => do
    failIf (value ≠ text address) (fieldName ++ " " ++ quote value
      ++ " must use canonical IPv4 form " ++ text address)
    return address

structure PrivateLoadBalancerPool where
  start : String
  stop : String

def PrivateLoadBalancerPool.range (v6 : IPv6Texts) (p : PrivateLoadBalancerPool) :
    Except String (IPv4 × IPv4) := do
  let start ← parseCanonicalPrivateIPv4 v6 p.start "start"
  let stop ← parseCanonicalPrivateIPv4 v6 p.stop "stop"
  let startValue := ipv4Value start
  let stopValue := ipv4Value stop
  failIf (stopValue < startValue)
    ("start " ++ text start ++ " must not be greater than stop " ++ text stop)
  let size := stopValue - startValue + 1#64
  failIf (size < PrivateLoadBalancerPoolMinAddresses)
    ("range contains " ++ toString size.toNat ++ " addresses; minimum is 16")
  failIf (PrivateLoadBalancerPoolMaxAddresses < size)
    ("range contains " ++ toString size.toNat ++ " addresses; maximum is 256")
  [podPrefix, servicePrefix].forM fun reserved =>
    failIf (inclusiveRangeOverlapsPrefix start stop reserved)
      ("range " ++ text start ++ "-" ++ text stop ++ " must not overlap reserved CIDR "
        ++ prefixText reserved)
  return (start, stop)

end Karpenter

/-! ### The spec of the cluster -/

namespace Spec

structure ValidationError where
  field : String
  message : String
deriving DecidableEq

def ipv4Value (address : IPv4) : BitVec 32 := (bytes address).value 32

def canonicalPrivateIPv4 (v6 : IPv6Texts) (value : String) : Option IPv4 :=
  (privateIPv4 v6 value).filter fun address => text address == value

def inclusiveIPv4Count (start stop : IPv4) : BitVec 64 :=
  (ipv4Value stop - ipv4Value start).setWidth 64 + 1#64

def ipv4RangeContains (start stop : IPv4) : Addr → Bool
  | .v4 address => start ≤ address && address ≤ stop
  | .v6 _ => false

def ipv4RangeOverlapsPrefix (start stop : IPv4) : Prefix → Bool
  | .v4 p =>
    let prefixStart := ipv4Value p.masked
    let prefixHostMask := BitVec.allOnes 32 >>> p.bits
    let prefixStop := prefixStart ||| prefixHostMask
    ipv4Value start ≤ prefixStop && prefixStart ≤ ipv4Value stop
  | .v6 _ => false

/-- `if c { add(field, message) }`. -/
def addIf (c : Bool) (field message : String) : List ValidationError :=
  if c then [⟨field, message⟩] else []

/-- The checks of `spec.network.privateLoadBalancerPool` in `Validate`. -/
def poolErrors (v6 : IPv6Texts) (podCIDR serviceCIDR virtualIPv4 start stop : String) :
    List ValidationError :=
  let poolStart := canonicalPrivateIPv4 v6 start
  let poolStop := canonicalPrivateIPv4 v6 stop
  addIf poolStart.isNone "spec.network.privateLoadBalancerPool.start"
      "must be a canonical RFC1918 IPv4 address" ++
    addIf poolStop.isNone "spec.network.privateLoadBalancerPool.stop"
      "must be a canonical RFC1918 IPv4 address" ++
    match poolStart, poolStop with
    | some poolStart, some poolStop =>
      if poolStop < poolStart then
        [⟨"spec.network.privateLoadBalancerPool", "start must be less than or equal to stop"⟩]
      else
        let addressCount := inclusiveIPv4Count poolStart poolStop
        addIf (addressCount < PrivateLoadBalancerPoolMinAddresses ||
            PrivateLoadBalancerPoolMaxAddresses < addressCount)
          "spec.network.privateLoadBalancerPool"
          "must contain between 16 and 256 addresses in v1alpha1" ++
        addIf ((parseAddr v6 virtualIPv4).any (ipv4RangeContains poolStart poolStop))
          "spec.network.privateLoadBalancerPool" "must not contain spec.endpoint.virtualIPv4" ++
        addIf ((parsePrefix v6 podCIDR).any (ipv4RangeOverlapsPrefix poolStart poolStop))
          "spec.network.privateLoadBalancerPool" "must not overlap spec.network.podCIDR" ++
        addIf ((parsePrefix v6 serviceCIDR).any (ipv4RangeOverlapsPrefix poolStart poolStop))
          "spec.network.privateLoadBalancerPool" "must not overlap spec.network.serviceCIDR"
    | _, _ => []

end Spec

/-! ### The bootstrap -/

namespace Bootstrap

def bootstrapIPv4Value (address : IPv4) : BitVec 32 := (bytes address).value 32

/-- `validateVirtualIPv4`: a usable private host of the subnet. -/
def validateVirtualIPv4 (v6 : IPv6Texts) (subnet value : String) : Except String Unit :=
  let unusable := "bootstrap: virtual IPv4 " ++ quote value
    ++ " must be a usable private host inside VPC subnet " ++ quote subnet
  match parsePrefix v6 subnet, privateIPv4 v6 value with
  | some (.v4 p), some address => do
    failIf (30 < p.bits ∨ ¬ p.Contains address) unusable
    failIf (address = p.masked)
      ("bootstrap: virtual IPv4 " ++ quote value ++ " is the VPC network address")
    let networkValue := (bytes p.masked).value 32
    let addressValue := (bytes address).value 32
    let hostMask := BitVec.allOnes 32 >>> p.bits
    failIf (addressValue = networkValue ||| hostMask)
      ("bootstrap: virtual IPv4 " ++ quote value ++ " is the VPC broadcast address")
  | _, _ => .error unusable

structure PrivateIPv4Range where
  start : IPv4
  stop : IPv4
  addressCount : BitVec 64
deriving DecidableEq

def privatePoolContains (pool : PrivateIPv4Range) : Addr → Bool
  | .v4 address => pool.start ≤ address && address ≤ pool.stop
  | .v6 _ => false

def privatePoolOverlapsPrefix (pool : PrivateIPv4Range) : Prefix → Bool
  | .v4 p =>
    let prefixStart := bootstrapIPv4Value p.masked
    let prefixStop := prefixStart ||| (BitVec.allOnes 32 >>> p.bits)
    bootstrapIPv4Value pool.start ≤ prefixStop && prefixStart ≤ bootstrapIPv4Value pool.stop
  | .v6 _ => false

/-- The body of the loop over the two networks. -/
def checkNetwork (v6 : IPv6Texts) (pool : PrivateIPv4Range) (name value : String) :
    Except String Unit :=
  match parsePrefix v6 value with
  | none => .error ("bootstrap: parse " ++ name ++ " CIDR")
  | some p => failIf (privatePoolOverlapsPrefix pool p)
      ("bootstrap: private load-balancer pool overlaps the " ++ name ++ " CIDR " ++ value)

def validatePrivateLoadBalancerPool (v6 : IPv6Texts)
    (subnet podCIDR serviceCIDR virtualIPv4 startValue stopValue : String) :
    Except String PrivateIPv4Range :=
  match privateIPv4 v6 startValue, privateIPv4 v6 stopValue with
  | some start, some stop => do
    failIf (text start ≠ startValue ∨ text stop ≠ stopValue)
      ("bootstrap: private load-balancer pool start/stop must be canonical RFC1918 IPv4 "
        ++ "addresses")
    failIf (stop < start)
      "bootstrap: private load-balancer pool start must be less than or equal to stop"
    let addressCount := (bootstrapIPv4Value stop - bootstrapIPv4Value start).setWidth 64 + 1#64
    failIf (addressCount < PrivateLoadBalancerPoolMinAddresses ∨
        PrivateLoadBalancerPoolMaxAddresses < addressCount)
      "bootstrap: private load-balancer pool must contain between 16 and 256 addresses"
    (validateVirtualIPv4 v6 subnet startValue).mapError
      ("bootstrap: private load-balancer pool start is not a usable VPC host: " ++ ·)
    (validateVirtualIPv4 v6 subnet stopValue).mapError
      ("bootstrap: private load-balancer pool stop is not a usable VPC host: " ++ ·)
    match parseAddr v6 virtualIPv4 with
    | none => .error "bootstrap: parse control-plane virtual IPv4"
    | some virtualAddress => do
      let pool : PrivateIPv4Range := ⟨start, stop, addressCount⟩
      failIf (privatePoolContains pool virtualAddress)
        "bootstrap: private load-balancer pool contains the control-plane virtual IPv4"
      checkNetwork v6 pool "pod" podCIDR
      checkNetwork v6 pool "service" serviceCIDR
      return pool
  | _, _ => .error ("bootstrap: private load-balancer pool start/stop must be canonical RFC1918 "
      ++ "IPv4 addresses")

end Bootstrap

/-! ### The overlap tests -/

theorem value32 (a : IPv4) : (bytes a).value 32 = a := by
  rw [value_bytes, BitVec.setWidth_eq]

theorem value64_toNat (a : IPv4) : ((bytes a).value 64).toNat = a.toNat := by
  rw [value_bytes, BitVec.toNat_setWidth]
  exact Nat.mod_eq_of_lt (Nat.lt_of_lt_of_le a.isLt (by decide))

/-- The range and the prefix have an address in common. -/
def Meets (start stop : IPv4) (p : Prefix4) : Prop :=
  ∃ a, start ≤ a ∧ a ≤ stop ∧ p.Contains a

section

variable {start stop : IPv4} (h : start ≤ stop) (p : Prefix4)

include h

theorem meets_iff : Meets start stop p ↔
    start ≤ (p.masked ||| (BitVec.allOnes 32 >>> p.bits)) ∧ p.masked ≤ stop :=
  p.exists_mem_iff h

theorem Ccm.overlaps_iff : cloudIPv4RangeOverlapsPrefix start stop p = true ↔ Meets start stop p := by
  rw [meets_iff h]
  simp [cloudIPv4RangeOverlapsPrefix, cloudIPv4Value, value32]

theorem Spec.overlaps_iff :
    ipv4RangeOverlapsPrefix start stop (.v4 p) = true ↔ Meets start stop p := by
  rw [meets_iff h]
  simp [ipv4RangeOverlapsPrefix, ipv4Value, value32]

theorem Bootstrap.overlaps_iff (count : BitVec 64) :
    privatePoolOverlapsPrefix ⟨start, stop, count⟩ (.v4 p) = true ↔ Meets start stop p := by
  rw [meets_iff h]
  simp [privatePoolOverlapsPrefix, bootstrapIPv4Value, value32]

theorem Karpenter.overlaps_iff :
    inclusiveRangeOverlapsPrefix start stop p = true ↔ Meets start stop p := by
  have hlast : (ipv4Value p.masked + (1#64 <<< (32 - p.bits)) - 1#64).toNat =
      (p.masked ||| p.hostMask).toNat := by
    have hmasked := p.masked.isLt
    have hpow : 2 ^ (32 - p.bits) ≤ 2 ^ 32 := Nat.pow_le_pow_right (by decide) (Nat.sub_le _ _)
    have hpos := Nat.two_pow_pos (32 - p.bits)
    rw [Prefix4.last_toNat, BitVec.toNat_sub, BitVec.toNat_add, BitVec.toNat_shiftLeft, ipv4Value,
      value64_toNat]
    simp only [BitVec.toNat_ofNat, Nat.shiftLeft_eq]
    omega
  rw [meets_iff h, ← Prefix4.hostMask.eq_def]
  simp only [inclusiveRangeOverlapsPrefix, Bool.and_eq_true, decide_eq_true_eq, BitVec.le_def, hlast]
  simp only [ipv4Value, value64_toNat]

end

/-! ### What all four accept -/

/-- The number of addresses of a range. -/
def size (start stop : IPv4) : ℕ := stop.toNat - start.toNat + 1

theorem count_toNat {start stop : IPv4} (h : start ≤ stop) :
    ((stop - start).setWidth 64 + 1#64).toNat = size start stop := by
  have hstop := stop.isLt
  rw [BitVec.le_def] at h
  rw [BitVec.toNat_add, BitVec.toNat_setWidth, BitVec.toNat_sub, size]
  simp only [BitVec.toNat_ofNat]
  omega

/-- A pair of texts that is a pool. -/
structure Pool (v6 : IPv6Texts) (startValue stopValue : String) (start stop : IPv4) : Prop where
  startAddr : privateIPv4 v6 startValue = some start
  stopAddr : privateIPv4 v6 stopValue = some stop
  startText : text start = startValue
  stopText : text stop = stopValue
  ordered : start ≤ stop
  large : 16 ≤ size start stop
  small : size start stop ≤ 256
  pods : ¬ Meets start stop podPrefix
  services : ¬ Meets start stop servicePrefix

theorem count_ok {start stop : IPv4} (h : start ≤ stop) :
    ¬ ((stop - start).setWidth 64 + 1#64 < PrivateLoadBalancerPoolMinAddresses ∨
      PrivateLoadBalancerPoolMaxAddresses < (stop - start).setWidth 64 + 1#64) ↔
      16 ≤ size start stop ∧ size start stop ≤ 256 := by
  rw [BitVec.lt_def, BitVec.lt_def, count_toNat h]
  simp [PrivateLoadBalancerPoolMinAddresses, PrivateLoadBalancerPoolMaxAddresses]

section

variable {v6 : IPv6Texts} {startValue stopValue : String} {start stop : IPv4}

theorem forM_pair_ok {ε α : Type} {f : α → Except ε Unit} {a b : α} {u : Unit} :
    [a, b].forM f = .ok u ↔ f a = .ok () ∧ f b = .ok () := by
  refine except_bind_iff.trans ⟨?_, ?_⟩
  · rintro ⟨_, ha, hb⟩
    obtain ⟨_, hb, -⟩ := except_bind_ok hb
    exact ⟨ha, hb⟩
  · rintro ⟨ha, hb⟩
    exact ⟨(), ha, except_bind_iff.2 ⟨(), hb, rfl⟩⟩

theorem not_lt_iff {a b : IPv4} : ¬ b < a ↔ a ≤ b := by
  rw [BitVec.lt_def, BitVec.le_def, Nat.not_lt]

theorem Ccm.parsePrivateLoadBalancerPool_ok :
    parsePrivateLoadBalancerPool v6 startValue stopValue = .ok (start, stop) ↔
      Pool v6 startValue stopValue start stop := by
  unfold parsePrivateLoadBalancerPool
  constructor
  · intro h
    split at h
    · rename_i s t hs ht
      simp only [except_bind_iff, failIf_iff, fixedClusterCIDRs, cloudIPv4Value, value32,
        forM_pair_ok, not_lt_iff] at h
      obtain ⟨-, htext, -, hle, -, hcount, -, ⟨hpods, hservices⟩, heq⟩ := h
      cases heq
      obtain ⟨hlarge, hsmall⟩ := (count_ok hle).1 hcount
      simp only [not_or, ne_eq, Decidable.not_not] at htext
      exact ⟨hs, ht, htext.1, htext.2, hle, hlarge, hsmall, by rwa [overlaps_iff hle] at hpods,
        by rwa [overlaps_iff hle] at hservices⟩
    · cases h
  · intro h
    rw [h.startAddr, h.stopAddr]
    simp only [except_bind_iff, failIf_iff, fixedClusterCIDRs, cloudIPv4Value, value32,
      forM_pair_ok, not_lt_iff, overlaps_iff h.ordered]
    refine ⟨(), ?_, (), h.ordered, (), (count_ok h.ordered).2 ⟨h.large, h.small⟩, (),
      ⟨h.pods, h.services⟩, rfl⟩
    simp [h.startText, h.stopText]

theorem Karpenter.parseCanonicalPrivateIPv4_ok {value fieldName : String} {a : IPv4} :
    parseCanonicalPrivateIPv4 v6 value fieldName = .ok a ↔
      privateIPv4 v6 value = some a ∧ text a = value := by
  unfold parseCanonicalPrivateIPv4
  cases hparse : privateIPv4 v6 value with
  | none => simp
  | some =>
    simp only [except_bind_iff, failIf_iff, ne_eq, Decidable.not_not, Option.some.injEq]
    constructor
    · rintro ⟨_, htext, heq⟩
      cases heq
      exact ⟨rfl, htext.symm⟩
    · rintro ⟨rfl, htext⟩
      exact ⟨(), htext.symm, rfl⟩

theorem Karpenter.size_toNat (h : start ≤ stop) :
    (ipv4Value stop - ipv4Value start + 1#64).toNat = size start stop := by
  have hstop := stop.isLt
  rw [BitVec.le_def] at h
  rw [BitVec.toNat_add, BitVec.toNat_sub, ipv4Value, ipv4Value, value64_toNat, value64_toNat, size]
  simp only [BitVec.toNat_ofNat]
  omega

theorem Karpenter.range_ok :
    PrivateLoadBalancerPool.range v6 ⟨startValue, stopValue⟩ = .ok (start, stop) ↔
      Pool v6 startValue stopValue start stop := by
  have hvalue : ∀ s t : IPv4, ¬ ipv4Value t < ipv4Value s ↔ s ≤ t := by
    intro s t
    rw [BitVec.lt_def, ipv4Value, ipv4Value, value64_toNat, value64_toNat, Nat.not_lt,
      BitVec.le_def]
  have hbounds : ∀ {s t : IPv4}, s ≤ t →
      (¬ ipv4Value t - ipv4Value s + 1#64 < PrivateLoadBalancerPoolMinAddresses ↔ 16 ≤ size s t) ∧
      (¬ PrivateLoadBalancerPoolMaxAddresses < ipv4Value t - ipv4Value s + 1#64 ↔
        size s t ≤ 256) := by
    intro s t hle
    rw [BitVec.lt_def, BitVec.lt_def, size_toNat hle]
    simp [PrivateLoadBalancerPoolMinAddresses, PrivateLoadBalancerPoolMaxAddresses]
  unfold PrivateLoadBalancerPool.range
  simp only [except_bind_iff, failIf_iff, parseCanonicalPrivateIPv4_ok, forM_pair_ok, hvalue]
  constructor
  · rintro ⟨s, ⟨hs, hstext⟩, t, ⟨ht, httext⟩, -, hle, -, hlarge, -, hsmall, -,
      ⟨hpods, hservices⟩, heq⟩
    cases heq
    exact ⟨hs, ht, hstext, httext, hle, (hbounds hle).1.1 hlarge, (hbounds hle).2.1 hsmall,
      by rwa [overlaps_iff hle] at hpods, by rwa [overlaps_iff hle] at hservices⟩
  · intro h
    refine ⟨start, ⟨h.startAddr, h.startText⟩, stop, ⟨h.stopAddr, h.stopText⟩, (), h.ordered, (),
      (hbounds h.ordered).1.2 h.large, (), (hbounds h.ordered).2.2 h.small, (), ?_, rfl⟩
    rw [overlaps_iff h.ordered, overlaps_iff h.ordered]
    exact ⟨h.pods, h.services⟩

/-- The virtual address, when it is IPv4, lies outside the range. -/
def Outside (v6 : IPv6Texts) (virtualIPv4 : String) (start stop : IPv4) : Prop :=
  ∀ a, parseAddr v6 virtualIPv4 = some (.v4 a) → ¬ (start ≤ a ∧ a ≤ stop)

theorem Spec.addIf_eq_nil {c : Bool} {field message : String} :
    addIf c field message = [] ↔ c = false := by
  cases c <;> simp [addIf]

theorem Spec.contains_iff {virtualIPv4 : String} :
    (parseAddr v6 virtualIPv4).any (ipv4RangeContains start stop) = false ↔
      Outside v6 virtualIPv4 start stop := by
  unfold Outside
  cases parseAddr v6 virtualIPv4 with
  | none => simp
  | some address => cases address <;> simp [ipv4RangeContains]

theorem Spec.canonicalPrivateIPv4_eq_some {value : String} {a : IPv4} :
    canonicalPrivateIPv4 v6 value = some a ↔ privateIPv4 v6 value = some a ∧ text a = value := by
  unfold canonicalPrivateIPv4
  rw [Option.filter_eq_some_iff, beq_iff_eq]

theorem Spec.overlaps_eq_false (h : start ≤ stop) {p : Prefix4} :
    (some (Prefix.v4 p)).any (ipv4RangeOverlapsPrefix start stop) = false ↔
      ¬ Meets start stop p := by
  rw [Option.any_some, ← Bool.not_eq_true, overlaps_iff h]

theorem Spec.count_eq_false (h : start ≤ stop) :
    (decide (inclusiveIPv4Count start stop < PrivateLoadBalancerPoolMinAddresses) ||
      decide (PrivateLoadBalancerPoolMaxAddresses < inclusiveIPv4Count start stop)) = false ↔
      16 ≤ size start stop ∧ size start stop ≤ 256 := by
  rw [← count_ok h, not_or, Bool.or_eq_false_iff, decide_eq_false_iff_not, decide_eq_false_iff_not,
    inclusiveIPv4Count, ipv4Value, ipv4Value, value32, value32]

theorem Spec.poolErrors_eq_nil {virtualIPv4 : String} :
    poolErrors v6 CiliumNativeRoutingPodCIDR KubernetesServiceCIDR virtualIPv4 startValue
        stopValue = [] ↔
      ∃ start stop, Pool v6 startValue stopValue start stop ∧
        Outside v6 virtualIPv4 start stop := by
  unfold poolErrors
  simp only [parsePrefix_pod, parsePrefix_service, List.append_eq_nil_iff, addIf_eq_nil]
  constructor
  · rintro ⟨⟨hstart, hstop⟩, hrest⟩
    obtain ⟨s, hs⟩ := Option.isSome_iff_exists.1 (Option.isNone_eq_false_iff.1 hstart)
    obtain ⟨t, ht⟩ := Option.isSome_iff_exists.1 (Option.isNone_eq_false_iff.1 hstop)
    simp only [hs, ht] at hrest
    split at hrest
    · cases hrest
    · rename_i hlt
      have hle := not_lt_iff.1 hlt
      simp only [List.append_eq_nil_iff, addIf_eq_nil, count_eq_false hle, contains_iff,
        overlaps_eq_false hle] at hrest
      obtain ⟨⟨⟨⟨hlarge, hsmall⟩, hvirtual⟩, hpods⟩, hservices⟩ := hrest
      obtain ⟨hs, hstext⟩ := canonicalPrivateIPv4_eq_some.1 hs
      obtain ⟨ht, httext⟩ := canonicalPrivateIPv4_eq_some.1 ht
      exact ⟨s, t, ⟨hs, ht, hstext, httext, hle, hlarge, hsmall, hpods, hservices⟩, hvirtual⟩
  · rintro ⟨_, _, h, hvirtual⟩
    rw [canonicalPrivateIPv4_eq_some.2 ⟨h.startAddr, h.startText⟩,
      canonicalPrivateIPv4_eq_some.2 ⟨h.stopAddr, h.stopText⟩]
    refine ⟨⟨rfl, rfl⟩, ?_⟩
    simp only [if_neg (not_lt_iff.2 h.ordered), List.append_eq_nil_iff, addIf_eq_nil,
      count_eq_false h.ordered, contains_iff, overlaps_eq_false h.ordered]
    exact ⟨⟨⟨⟨h.large, h.small⟩, hvirtual⟩, h.pods⟩, h.services⟩

/-- The loop body accepts the fixed networks when the range stays clear of them. -/
theorem Bootstrap.checkNetwork_ok {pool : PrivateIPv4Range} (h : pool.start ≤ pool.stop)
    {name value : String} {p : Prefix4} (hp : parsePrefix v6 value = some (.v4 p)) :
    checkNetwork v6 pool name value = .ok () ↔ ¬ Meets pool.start pool.stop p := by
  rw [checkNetwork, hp]
  simp only [failIf_iff]
  rw [← overlaps_iff h p pool.addressCount]

theorem Bootstrap.contains_iff {pool : PrivateIPv4Range} {virtualIPv4 : String} {address : Addr}
    (h : parseAddr v6 virtualIPv4 = some address) :
    ¬ privatePoolContains pool address = true ↔ Outside v6 virtualIPv4 pool.start pool.stop := by
  unfold Outside
  rw [h]
  cases address <;> simp [privatePoolContains]

theorem Bootstrap.validatePrivateLoadBalancerPool_ok {subnet virtualIPv4 : String}
    {pool : PrivateIPv4Range} :
    validatePrivateLoadBalancerPool v6 subnet CiliumNativeRoutingPodCIDR KubernetesServiceCIDR
        virtualIPv4 startValue stopValue = .ok pool ↔
      Pool v6 startValue stopValue pool.start pool.stop ∧
      pool.addressCount = BitVec.ofNat 64 (size pool.start pool.stop) ∧
      validateVirtualIPv4 v6 subnet startValue = .ok () ∧
      validateVirtualIPv4 v6 subnet stopValue = .ok () ∧
      parseAddr v6 virtualIPv4 ≠ none ∧ Outside v6 virtualIPv4 pool.start pool.stop := by
  have hcount : ∀ {s t : IPv4}, s ≤ t →
      (t - s).setWidth 64 + 1#64 = BitVec.ofNat 64 (size s t) := by
    intro s t hle
    rw [← count_toNat hle, BitVec.ofNat_toNat, BitVec.setWidth_eq]
  unfold validatePrivateLoadBalancerPool
  constructor
  · intro h
    split at h
    · rename_i s t hs ht
      simp only [except_bind_iff, failIf_iff, mapError_iff, bootstrapIPv4Value, value32,
        not_lt_iff] at h
      obtain ⟨_, htext, _, hle, _, hbounds, _, hstart, _, hstop, h⟩ := h
      split at h
      · cases h
      · rename_i address hvirtual
        simp only [except_bind_iff, failIf_iff, contains_iff hvirtual] at h
        obtain ⟨_, hout, _, hpods, _, hservices, heq⟩ := h
        cases heq
        obtain ⟨hlarge, hsmall⟩ := (count_ok hle).1 hbounds
        simp only [not_or, ne_eq, Decidable.not_not] at htext
        refine ⟨⟨hs, ht, htext.1, htext.2, hle, hlarge, hsmall, ?_, ?_⟩, hcount hle, hstart, hstop,
          by simp [hvirtual], hout⟩
        · exact (checkNetwork_ok hle (parsePrefix_pod v6)).1 hpods
        · exact (checkNetwork_ok hle (parsePrefix_service v6)).1 hservices
    · cases h
  · rintro ⟨h, hsize, hstart, hstop, hvirtual, hout⟩
    obtain ⟨_, hvirtual⟩ := Option.ne_none_iff_exists'.1 hvirtual
    obtain ⟨_, _, _⟩ := pool
    rw [h.startAddr, h.stopAddr]
    simp only [except_bind_iff, failIf_iff, mapError_iff, bootstrapIPv4Value, value32, not_lt_iff,
      hvirtual, contains_iff hvirtual]
    refine ⟨(), by simp [h.startText, h.stopText], (), h.ordered, (),
      (count_ok h.ordered).2 ⟨h.large, h.small⟩, (), hstart, (), hstop, (), hout, (), ?_, (), ?_, ?_⟩
    · exact (checkNetwork_ok h.ordered (parsePrefix_pod v6)).2 h.pods
    · exact (checkNetwork_ok h.ordered (parsePrefix_service v6)).2 h.services
    · rw [hcount h.ordered, ← hsize]
      rfl

end

/-! ### The four validators -/

/-- The four validators of the pool agree, apart from what the last two check
about the subnet and the virtual address, and so do their overlap tests: each
says whether the range and the prefix have an address in common. -/
theorem pool_validators_agree (v6 : IPv6Texts) :
    (∀ startValue stopValue : String,
      (∀ range, Karpenter.PrivateLoadBalancerPool.range v6 ⟨startValue, stopValue⟩ = .ok range ↔
        Ccm.parsePrivateLoadBalancerPool v6 startValue stopValue = .ok range) ∧
      (∀ virtualIPv4, Spec.poolErrors v6 CiliumNativeRoutingPodCIDR KubernetesServiceCIDR virtualIPv4
          startValue stopValue = [] ↔
        ∃ range, Ccm.parsePrivateLoadBalancerPool v6 startValue stopValue = .ok range ∧
          Outside v6 virtualIPv4 range.1 range.2) ∧
      ∀ subnet virtualIPv4 start stop,
        (∃ count, Bootstrap.validatePrivateLoadBalancerPool v6 subnet CiliumNativeRoutingPodCIDR
          KubernetesServiceCIDR virtualIPv4 startValue stopValue = .ok ⟨start, stop, count⟩) ↔
        Ccm.parsePrivateLoadBalancerPool v6 startValue stopValue = .ok (start, stop) ∧
          (Bootstrap.validateVirtualIPv4 v6 subnet startValue = .ok () ∧
            Bootstrap.validateVirtualIPv4 v6 subnet stopValue = .ok ()) ∧
          parseAddr v6 virtualIPv4 ≠ none ∧ Outside v6 virtualIPv4 start stop) ∧
    ∀ (start stop : IPv4) (p : Prefix4), start ≤ stop →
      (Ccm.cloudIPv4RangeOverlapsPrefix start stop p = true ↔ Meets start stop p) ∧
      (Karpenter.inclusiveRangeOverlapsPrefix start stop p = true ↔ Meets start stop p) ∧
      (Spec.ipv4RangeOverlapsPrefix start stop (.v4 p) = true ↔ Meets start stop p) ∧
      ∀ count, Bootstrap.privatePoolOverlapsPrefix ⟨start, stop, count⟩ (.v4 p) = true ↔
        Meets start stop p := by
  refine ⟨fun startValue stopValue => ⟨?_, ?_, ?_⟩, ?_⟩
  · rintro ⟨_, _⟩
    rw [Karpenter.range_ok, Ccm.parsePrivateLoadBalancerPool_ok]
  · intro _
    rw [Spec.poolErrors_eq_nil]
    simp only [Prod.exists, Ccm.parsePrivateLoadBalancerPool_ok]
  · intro _ _ _ _
    simp only [Bootstrap.validatePrivateLoadBalancerPool_ok, Ccm.parsePrivateLoadBalancerPool_ok]
    constructor
    · rintro ⟨_, hpool, -, hstart, hstop, hvirtual⟩
      exact ⟨hpool, ⟨hstart, hstop⟩, hvirtual⟩
    · rintro ⟨hpool, ⟨hstart, hstop⟩, hvirtual⟩
      exact ⟨_, hpool, rfl, hstart, hstop, hvirtual⟩
  · intro _ _ p h
    exact ⟨Ccm.overlaps_iff h p, Karpenter.overlaps_iff h p, Spec.overlaps_iff h p,
      Bootstrap.overlaps_iff h p⟩

/-- No text is IPv6. -/
def noIPv6 : IPv6Texts := ⟨fun _ => false, fun _ => false⟩

/-- A pool all four accept, and a range that reaches into the pod network. -/
theorem pool_validators_agree_lan :
    Karpenter.PrivateLoadBalancerPool.range noIPv6 ⟨"10.20.30.200", "10.20.30.239"⟩ =
      .ok (0x0a141ec8, 0x0a141eef) ∧
    Spec.poolErrors noIPv6 CiliumNativeRoutingPodCIDR KubernetesServiceCIDR "10.20.30.10"
      "10.20.30.200" "10.20.30.239" = [] ∧
    (∃ count, Bootstrap.validatePrivateLoadBalancerPool noIPv6 "10.20.30.0/24"
      CiliumNativeRoutingPodCIDR KubernetesServiceCIDR "10.20.30.10" "10.20.30.200"
      "10.20.30.239" = .ok ⟨0x0a141ec8, 0x0a141eef, count⟩) ∧
    Meets 0x0a29fff0 0x0a2a000f podPrefix := by
  have hccm : Ccm.parsePrivateLoadBalancerPool noIPv6 "10.20.30.200" "10.20.30.239" =
      .ok (0x0a141ec8, 0x0a141eef) := by decide +kernel
  have hvirtual : parseAddr noIPv6 "10.20.30.10" = some (.v4 0x0a141e0a) := by decide +kernel
  have hout : Outside noIPv6 "10.20.30.10" 0x0a141ec8 0x0a141eef := by
    intro a ha
    rw [hvirtual] at ha
    cases ha
    decide
  obtain ⟨hagree, hoverlap⟩ := pool_validators_agree noIPv6
  obtain ⟨hrange, hspec, hbootstrap⟩ := hagree "10.20.30.200" "10.20.30.239"
  refine ⟨(hrange _).2 hccm, (hspec _).2 ⟨_, hccm, hout⟩,
    (hbootstrap _ _ _ _).2 ⟨hccm, ⟨?_, ?_⟩, by rw [hvirtual]; simp, hout⟩, ?_⟩
  · decide +kernel
  · decide +kernel
  · exact (hoverlap _ _ _ (by decide)).1.1 (by decide +kernel)

end InSpaceKube.PrivatePool
