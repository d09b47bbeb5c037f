/-
InSpaceKube/NodeLB/Firewall.lean

Firewalls as the node load balancer sees them: the rows of `ListFirewalls`,
the canonical port policy of a rule list with its hash, and the checks that
tell whose firewall a row is (`node_load_balancer_firewall.go` of the client,
and the lookups of `node_loadbalancer_firewall_relation_fence.go` and
`node_loadbalancer_vm_firewall_state.go`).

* A policy hash is SHA-256 of a text that spells out a sorted list of lines,
  one per rule.  Here it is a function of that list, any function:
  `Config.policyHash`.
* `Allows` is what a rule list lets through: a protocol, a port and a source
  address.  `vmFirewallMergedNarrows` is the check the controller makes in its
  place, port by port and prefix by prefix.
-/
import InSpaceKube.Go
import Mathlib.Data.List.Sort
import Mathlib.Data.List.Basic

namespace InSpaceKube.NodeLB

/-! ### Errors and time -/

/-- Nanoseconds, as Go counts both times and durations. -/
abbrev Time := ℤ

def second : Time := 1000000000

/-- What code finds in an error with `errors.Is` and `errors.As`. -/
inductive Kind
  | pending (retryAfter : Time) | settling (retryAfter : Time)
  | drift | sourceChanged | receiptPending | ledgerCorrupt | entryOrder | portConflict
  | relationParked | vmNotHealthy | healthDeferred | limitExceeded
  | migrationDeferred | migrationBlocked | namespaceMissing
  | notFound | mutationBlocked | mutationNotDispatched
  | transient | deferral | holding | reservedPort
deriving DecidableEq, Repr

abbrev Err := GoError Kind

/-- `nodeLoadBalancerMutationKnownPreDispatch`. -/
def mutationKnownPreDispatch (e : Err) : Bool := e.is .mutationBlocked || e.is .mutationNotDispatched

/-! ### Rows -/

structure FirewallRule where
  uuid : String
  protocol : String
  direction : String
  portStart : Option ℤ
  portEnd : Option ℤ
  endpointSpecType : String
  endpointSpec : List String
deriving DecidableEq, Repr

structure FirewallResource where
  resourceType : String
  resourceUUID : String
deriving DecidableEq, Repr

/-- One row of `ListFirewalls`; `none` is an omitted `resources_assigned`. -/
structure Firewall where
  uuid : String
  name : String
  displayName : String
  description : String
  billingAccountID : ℤ
  rules : List FirewallRule
  resourcesAssigned : Option (List FirewallResource)
deriving DecidableEq, Repr

def Firewall.effectiveName (f : Firewall) : String :=
  if f.displayName ≠ "" then f.displayName else f.name

/-- The rows of a slice that may be nil. -/
def Firewall.resources (f : Firewall) : List FirewallResource := f.resourcesAssigned.getD []

structure CreateFirewallRequest where
  displayName : String
  description : String
  billingAccountID : ℤ
  rules : List FirewallRule
deriving DecidableEq, Repr

/-- The body of a PUT; `name` goes out as `display_name`. -/
structure UpdateFirewallRequest where
  name : String
  description : String
  rules : List FirewallRule
deriving DecidableEq, Repr

/-! ### Policies -/

/-- One line of the canonical text of a port policy. -/
structure PolicyLine where
  protocol : String
  port : ℤ
  endpointSpecType : String
  endpoints : List String
deriving DecidableEq, Repr

/-- What the controller is configured with, and the hash it uses. -/
structure Config where
  location : String
  /-- `LocalFirewallMode` is `perVM`. -/
  perVMMode : Bool
  clusterID : String
  billingAccountID : ℤ
  controllerNamespace : String
  vmFirewallSettle : Time
  firewallRelationAbsentDelay : Time
  maxFirewallsPerVM : ℕ
  /-- `nodeLoadBalancerShortHash` of a text. -/
  shortHash : String → String
  /-- `nodeLoadBalancerFullHash` of the canonical text of a policy. -/
  policyHash : List PolicyLine → String

def formatInt (n : ℤ) : String := toString n

/-- The text of a line. -/
def PolicyLine.text (line : PolicyLine) : String :=
  "|".intercalate [line.protocol, formatInt line.port, line.endpointSpecType,
    ",".intercalate line.endpoints]

/-- The bits of `/n` in a prefix, without leading zeros. -/
def parsePrefixBits (cs : List Char) : Option ℕ :=
  (parseOctet cs).bind fun n => if n ≤ 32 then some n else none

/-- The number four octets stand for. -/
def ipv4Value (octets : List ℕ) : ℕ := octets.foldl (fun n o => 256 * n + o) 0

/-- `netip.ParsePrefix` with `Is4`: the address and the bits. -/
def parsePrefix4 (s : String) : Option (ℕ × ℕ) :=
  match s.toList.splitOn '/' with
  | [addr, bits] => do
    let octets ← parseIPv4 (String.ofList addr)
    let n ← parsePrefixBits bits
    return (ipv4Value octets, n)
  | _ => none

/-- A prefix whose `Masked().String()` is itself.  An address and its bits have
one text, so this is a matter of the host bits. -/
def canonicalPrefix4 (s : String) : Bool :=
  match parsePrefix4 s with
  | some (addr, bits) => addr % 2 ^ (32 - bits) == 0
  | none => false

/-- The text of the prefix an address lies in: `Masked().String()`. -/
def maskedText (addr bits : ℕ) : String :=
  let base := addr / 2 ^ (32 - bits) * 2 ^ (32 - bits)
  ".".intercalate ([2 ^ 24, 2 ^ 16, 2 ^ 8, 1].map fun w => toString (base / w % 256))
    ++ "/" ++ toString bits

/-- An address lies in a prefix. -/
def prefixContains (s : String) (addr : ℕ) : Bool :=
  match parsePrefix4 s with
  | some (base, bits) => base / 2 ^ (32 - bits) == addr / 2 ^ (32 - bits)
  | none => false

def sortStrings (values : List String) : List String :=
  values.insertionSort fun a b => decide (a ≤ b)

def canonicalNodeLoadBalancerFirewallEndpoints (kind : String) (index : ℕ) (rule : FirewallRule) :
    Except Err (List String) :=
  let at_ := s!"{kind} firewall rule {index}"
  if rule.endpointSpecType = "any" then do
    failIf (rule.endpointSpec ≠ []) (.new (at_ ++ " endpoint any must not include prefixes"))
    return []
  else if rule.endpointSpecType = "ip_prefixes" then do
    failIf (rule.endpointSpec = []) (.new (at_ ++ " must include IPv4 prefixes"))
    failIf (¬ rule.endpointSpec.all canonicalPrefix4)
      (.new (at_ ++ " prefix must be canonical IPv4 CIDR"))
    failIf (¬ rule.endpointSpec.Nodup) (.new (at_ ++ " prefix is duplicated"))
    return sortStrings rule.endpointSpec
  else .error (.new (at_ ++ " endpoint type " ++ quote rule.endpointSpecType ++ " is unsupported"))

/-- The one port of a rule. -/
def singlePort (kind : String) (index : ℕ) (rule : FirewallRule) : Except Err ℤ :=
  match rule.portStart, rule.portEnd with
  | some first, some last =>
    if first ≠ last ∨ first < 1 ∨ 65535 < first then
      .error (.new s!"{kind} firewall rule {index} must contain one explicit valid port")
    else .ok first
  | _, _ => .error (.new s!"{kind} firewall rule {index} must contain one explicit valid port")

/-- The loop of `canonicalNodeLoadBalancerPortFirewallPolicy`; `seen` are the
ports so far.  The source also refuses a line equal to an earlier one; such a
line has an earlier one's port, which is refused first. -/
def policyLines (kind : String) : List FirewallRule → ℕ → List (String × ℤ) →
    Except Err (List PolicyLine)
  | [], _, _ => .ok []
  | rule :: rest, index, seen => do
    let at_ := s!"{kind} firewall rule {index}"
    failIf (rule.direction ≠ "inbound") (.new (at_ ++ " must be inbound"))
    failIf (rule.protocol ≠ "tcp" ∧ rule.protocol ≠ "udp")
      (.new (at_ ++ " protocol " ++ quote rule.protocol ++ " must be lowercase tcp or udp"))
    let port ← singlePort kind index rule
    failIf ((rule.protocol, port) ∈ seen)
      (.new (at_ ++ " duplicates public " ++ rule.protocol ++ "/" ++ formatInt port))
    let endpoints ← canonicalNodeLoadBalancerFirewallEndpoints kind index rule
    let lines ← policyLines kind rest (index + 1) ((rule.protocol, port) :: seen)
    return ⟨rule.protocol, port, rule.endpointSpecType, endpoints⟩ :: lines

/-- `canonicalNodeLoadBalancerPortFirewallPolicy`: the sorted lines of its text. -/
def canonicalNodeLoadBalancerPortFirewallPolicy (kind : String) (rules : List FirewallRule) :
    Except Err (List PolicyLine) := do
  failIf (rules = []) (.new s!"{kind} firewall requires at least one ingress rule")
  let lines ← policyLines kind rules 0 []
  return lines.insertionSort fun a b => decide (a.text ≤ b.text)

variable (cfg : Config)

variable (f : Firewall) (items : List Firewall) (rules : List FirewallRule)
  (serviceUID vmUUID : String)

def nodeLoadBalancerVMFirewallSpecHash : Except Err String := do
  let lines ← canonicalNodeLoadBalancerPortFirewallPolicy "VM" rules
  return cfg.policyHash lines

/-- `NodeLoadBalancerServiceFirewallSpecHash`: the first eight digits. -/
def nodeLoadBalancerServiceFirewallSpecHash : Except Err String := do
  let lines ← canonicalNodeLoadBalancerPortFirewallPolicy "Service" rules
  return String.ofList ((cfg.policyHash lines).toList.take 8)

/-! ### Identities -/

/-- `nodeLoadBalancerPolicyHashPattern`. -/
def policyHashPattern (s : String) : Bool := matchHexGroups [64] s.toList

def vmFirewallPolicyPattern (s : String) : Bool := matchHexGroups [8] s.toList

/-- `validNodeLoadBalancerCloudUUID`; `nodeLoadBalancerFirewallUUIDPattern` is
the same set of texts. -/
def validNodeLoadBalancerCloudUUID (s : String) : Bool := uuidPatternFold s

def validateNodeLoadBalancerServiceUID (uid : String) : Except Err Unit := do
  failIf (uid = "" ∨ uid ≠ toLower uid ∨ 36 < byteLength uid)
    (.new "node load balancer: Service UID must be a lowercase DNS label of at most 36 characters")
  failIf (¬ isDNS1123Label uid)
    (.new ("node load balancer: Service UID " ++ quote uid ++ " is unsafe for firewall ownership"))

def vmFirewallDescription : String := "Managed InSpace public-node-local VM firewall"

/-- The name without its checks. -/
def vmFirewallNameOf : String :=
  "inlb-" ++ cfg.shortHash cfg.clusterID ++ "-vm-" ++ vmUUID

def nodeLoadBalancerVMFirewallName : Except Err String := do
  failIf (cfg.clusterID = "") (.new "cluster identity is required")
  failIf (¬ uuidPattern vmUUID)
    (.new ("VM UUID " ++ quote vmUUID ++ " must be a lowercase canonical UUID"))
  return vmFirewallNameOf cfg vmUUID

/-- `ParseNodeLoadBalancerVMFirewallName`: the VM of a name. -/
def parseNodeLoadBalancerVMFirewallName (name : String) : Option String :=
  let head := "inlb-" ++ cfg.shortHash cfg.clusterID ++ "-vm-"
  let rest := String.ofList (name.toList.drop head.toList.length)
  if cfg.clusterID ≠ "" ∧ hasPrefix name head ∧ uuidPattern rest then some rest else none

def validateNodeLoadBalancerVMFirewallIdentity : Except Err Unit := do
  failIf (cfg.clusterID = "" ∨ cfg.billingAccountID < 1 ∨ f.billingAccountID ≠ cfg.billingAccountID)
    (.new "VM firewall cluster and billing identity do not match")
  let name ← nodeLoadBalancerVMFirewallName cfg vmUUID
  failIf (f.effectiveName ≠ name)
    (.new ("name " ++ quote f.effectiveName ++ " is not the owned firewall for VM " ++ quote vmUUID))
  failIf (f.description ≠ "" ∧ f.description ≠ vmFirewallDescription)
    (.new ("VM firewall description " ++ quote f.description ++ " is not the managed description"))
  let _ ← nodeLoadBalancerVMFirewallSpecHash cfg f.rules
  failIf (¬ f.resources.all fun row =>
      equalFold row.resourceType "vm" && row.resourceUUID == vmUUID)
    (.new ("VM firewall assignment is not VM " ++ quote vmUUID))

def validateNodeLoadBalancerVMFirewall (expectedPolicyHash : String) : Except Err Unit := do
  validateNodeLoadBalancerVMFirewallIdentity cfg f vmUUID
  failIf (¬ policyHashPattern expectedPolicyHash)
    (.new ("expected VM firewall policy hash " ++ quote expectedPolicyHash ++ " is invalid"))
  let actual ← nodeLoadBalancerVMFirewallSpecHash cfg f.rules
  failIf (actual ≠ expectedPolicyHash)
    (.new ("VM firewall policy hash " ++ quote actual ++ " does not match expected hash "
      ++ quote expectedPolicyHash))

/-- `nodeLoadBalancerFirewallServicePrefix`. -/
def firewallServicePrefix : String :=
  "inlb-" ++ cfg.shortHash cfg.clusterID ++ "-" ++ serviceUID ++ "-"

def nodeLoadBalancerFirewallName (specHash : String) : String :=
  firewallServicePrefix cfg serviceUID ++ specHash

/-- The rest of a name behind the prefix of a Service. -/
def firewallNameSuffix : String :=
  String.ofList (f.effectiveName.toList.drop (firewallServicePrefix cfg serviceUID).toList.length)

/-- `nodeLoadBalancerFirewallIdentityOwnedByService`. -/
def firewallIdentityOwnedByService : Bool :=
  cfg.clusterID ≠ "" && (validateNodeLoadBalancerServiceUID serviceUID matches .ok _) &&
    f.billingAccountID == cfg.billingAccountID &&
    hasPrefix f.effectiveName (firewallServicePrefix cfg serviceUID) &&
    vmFirewallPolicyPattern (firewallNameSuffix cfg f serviceUID)

/-- `nodeLoadBalancerFirewallOwnedByService`. -/
def firewallOwnedByService : Bool :=
  firewallIdentityOwnedByService cfg f serviceUID &&
    match nodeLoadBalancerServiceFirewallSpecHash cfg f.rules with
    | .ok hash => hash == firewallNameSuffix cfg f serviceUID
    | .error _ => false

/-- `ValidateNodeLoadBalancerServiceFirewall`.  The name is read from its end:
eight digits, a dash, and before them the Service UID. -/
def validateNodeLoadBalancerServiceFirewall : Except Err Unit := do
  failIf (cfg.clusterID = "" ∨ cfg.billingAccountID < 1 ∨ f.billingAccountID ≠ cfg.billingAccountID)
    (.new "Service firewall cluster and billing identity do not match")
  let head := "inlb-" ++ cfg.shortHash cfg.clusterID ++ "-"
  let rest := f.effectiveName.toList.drop head.toList.length
  let uid := String.ofList (rest.take (rest.length - 9))
  let suffix := String.ofList (rest.drop (rest.length - 8))
  failIf (¬ hasPrefix f.effectiveName head ∨ rest.length < 10 ∨ rest[rest.length - 9]? ≠ some '-' ∨
      ¬ vmFirewallPolicyPattern suffix ∨ ¬ isDNS1123Label uid ∨ 36 < byteLength uid)
    (.new ("name " ++ quote f.effectiveName
      ++ " is not an owned Service firewall for this cluster"))
  let hash ← nodeLoadBalancerServiceFirewallSpecHash cfg f.rules
  failIf (suffix ≠ hash)
    (.new ("name spec hash " ++ quote suffix ++ " does not match Service policy hash " ++ quote hash))

/-! ### Lookups in a listing -/

def vmFirewallAttachedTo : Bool :=
  f.resources.any fun row => equalFold row.resourceType "vm" && equalFold row.resourceUUID vmUUID

/-- `nodeLoadBalancerFirewallVMAssignments`: the VMs a row is assigned to. -/
def nodeLoadBalancerFirewallVMAssignments : Except Err (List String) := do
  failIf (¬ validNodeLoadBalancerCloudUUID f.uuid)
    (.new ("node load balancer: firewall has invalid UUID " ++ quote f.uuid))
  match f.resourcesAssigned with
  | none => .error (.new ("node load balancer: firewall " ++ f.uuid ++ " omitted resources_assigned"))
  | some rows => do
    failIf (¬ rows.all fun row =>
        equalFold row.resourceType "vm" && validNodeLoadBalancerCloudUUID row.resourceUUID)
      (.new ("node load balancer: firewall " ++ f.uuid ++ " has unexpected assigned resource"))
    return (rows.map fun row => toLower row.resourceUUID).dedup

def nodeLoadBalancerFirewallAssignmentVMs : Except Err (List String) := do
  return sortStrings (← nodeLoadBalancerFirewallVMAssignments f)

def vmFirewallListed (uuid : String) : Bool :=
  items.any fun f => equalFold f.uuid uuid

def exactNodeLoadBalancerFirewallFromItems (uuid : String) : Except Err Firewall := do
  failIf (¬ validNodeLoadBalancerCloudUUID uuid)
    (.new ("node load balancer: invalid firewall UUID " ++ quote uuid))
  match items.filter fun f => equalFold f.uuid uuid with
  | [f] => do
    failIf (f.uuid ≠ uuid) (.new ("node load balancer: firewall UUID " ++ uuid
      ++ " has 1 case-folded rows and no unique exact authority"))
    let _ ← nodeLoadBalancerFirewallVMAssignments f
    return f
  | rows => .error (.new ("node load balancer: firewall UUID " ++ uuid ++ " has "
      ++ toString rows.length ++ " case-folded rows and no unique exact authority"))

def exactNodeLoadBalancerFirewallFromItemsOptional (uuid : String) : Option Firewall :=
  if vmFirewallListed items uuid then
    match exactNodeLoadBalancerFirewallFromItems items uuid with
    | .ok f => some f
    | .error _ => none
  else none

def vmFirewallByNameFromItems (name : String) : Except Err (Option Firewall) :=
  match items.filter fun f => equalFold f.effectiveName name with
  | [] => .ok none
  | [f] =>
    if f.effectiveName = name then .ok (some f)
    else .error (.new ("public-node-local: firewall name " ++ quote name
      ++ " has 1 case-folded rows and no unique exact owner"))
  | rows => .error (.new ("public-node-local: firewall name " ++ quote name ++ " has "
      ++ toString rows.length ++ " case-folded rows and no unique exact owner"))

def vmFirewallsAttachedTo : List Firewall :=
  items.filter fun f => vmFirewallAttachedTo f vmUUID

/-- `nodeLoadBalancerFirewallAuthorityUnchanged`. -/
def firewallAuthorityUnchanged (before after : Firewall) : Bool :=
  before.uuid == after.uuid && before.effectiveName == after.effectiveName &&
    before.description == after.description &&
    before.billingAccountID == after.billingAccountID && before.rules == after.rules &&
    before.resourcesAssigned == after.resourcesAssigned

/-! ### Ports -/

/-- `nodeLoadBalancerShardFirewallRuleLogicalKey`: protocol and first port. -/
def ruleLogicalKey (rule : FirewallRule) : String × ℤ := (rule.protocol, rule.portStart.getD 0)

/-- An entry of the map from keys to rules: a later rule replaces an earlier one. -/
def ruleAt (key : String × ℤ) : Option FirewallRule :=
  rules.reverse.find? fun rule => ruleLogicalKey rule = key

def retainFirewallRuleUUIDs (current desired : List FirewallRule) : List FirewallRule :=
  desired.map fun rule =>
    { rule with uuid := ((ruleAt current (ruleLogicalKey rule)).map (·.uuid)).getD "" }

/-- `vmFirewallMergedNarrows`: something `before` opens is closed in `after`. -/
def vmFirewallMergedNarrows (before after : List FirewallRule) : Bool :=
  (before.map ruleLogicalKey).any fun key =>
    match ruleAt before key, ruleAt after key with
    | some old, some current =>
      if current.endpointSpecType = "any" then false
      else if old.endpointSpecType = "any" then true
      else old.endpointSpec.any fun source => !current.endpointSpec.contains source
    | some _, none => true
    | none, _ => false

/-- A rule lets a connection in: inbound, to the port, from the address. -/
def FirewallRule.Allows (rule : FirewallRule) (protocol : String) (port : ℤ) (source : ℕ) : Prop :=
  rule.direction = "inbound" ∧ rule.protocol = protocol ∧
    (∃ first last, rule.portStart = some first ∧ rule.portEnd = some last ∧
      first ≤ port ∧ port ≤ last) ∧
    (rule.endpointSpecType = "any" ∨ ∃ p ∈ rule.endpointSpec, prefixContains p source)

/-- A rule list lets a connection in. -/
def Allows (protocol : String) (port : ℤ) (source : ℕ) : Prop :=
  ∃ rule ∈ rules, rule.Allows protocol port source

/-! ### What the readers find -/

section Readers

variable {cfg : Config} {items : List Firewall} {f : Firewall}

theorem exactNodeLoadBalancerFirewallFromItems_ok {uuid : String}
    (h : exactNodeLoadBalancerFirewallFromItems items uuid = .ok f) : f ∈ items ∧ f.uuid = uuid := by
  obtain ⟨_, -, h⟩ := except_bind_ok h
  split at h
  · rename_i row hrows
    obtain ⟨_, huuid, h⟩ := except_bind_ok h
    obtain ⟨_, -, h⟩ := except_bind_ok h
    cases h
    have hmem : f ∈ items.filter fun f => equalFold f.uuid uuid := by simp [hrows]
    exact ⟨(List.mem_filter.1 hmem).1, not_not.1 (failIf_ok huuid)⟩
  · cases h

theorem vmFirewallByNameFromItems_ok {name : String}
    (h : vmFirewallByNameFromItems items name = .ok (some f)) :
    f ∈ items ∧ f.effectiveName = name := by
  unfold vmFirewallByNameFromItems at h
  split at h
  · cases h
  · rename_i row hrows
    split at h
    · rename_i hname
      cases h
      have hmem : f ∈ items.filter fun f => equalFold f.effectiveName name := by simp [hrows]
      exact ⟨(List.mem_filter.1 hmem).1, hname⟩
    · cases h
  · cases h

theorem validateNodeLoadBalancerVMFirewall_ok {vmUUID expected : String}
    (h : validateNodeLoadBalancerVMFirewall cfg f vmUUID expected = .ok ()) :
    nodeLoadBalancerVMFirewallSpecHash cfg f.rules = .ok expected := by
  obtain ⟨_, -, h⟩ := except_bind_ok h
  obtain ⟨_, -, h⟩ := except_bind_ok h
  obtain ⟨_, hactual, h⟩ := except_bind_ok h
  rw [hactual, not_not.1 (failIf_ok h)]

end Readers

end InSpaceKube.NodeLB
