/-
InSpaceKube/NodeLB/VMLedger.lean

The ledger of a per-VM firewall (`node_loadbalancer_vm_firewall.go`).

A VM has one firewall for all its public-node-local Services, and the ledger
says which rules of it belong to whom: one member per Service and policy, with
the rules it asked for.  The firewall's rules are the merge of all members: for
every port the sources of the one Service that asks for it.

A ledger is stored as its canonical JSON and read back only if it is byte for
byte that.  So a stored text is either the text of a canonical ledger or one
that does not decode (`LedgerText`).
-/
import InSpaceKube.NodeLB.Firewall
import InSpaceKube.NodeLB.Objects

namespace InSpaceKube.NodeLB

/-- `vmFirewallRule`; no sources means any source. -/
structure VMRule where
  protocol : String
  port : ℤ
  sources : List String
deriving DecidableEq, Repr

/-- `vmFirewallMember`. -/
structure VMMember where
  uid : String
  policy : String
  rules : List VMRule
deriving DecidableEq, Repr

/-- `vmFirewallMemberKey`. -/
structure VMMemberKey where
  uid : String
  policy : String
deriving DecidableEq, Repr

/-- `vmFirewallLedger`. -/
structure VMLedger where
  v : ℤ
  members : List VMMember
deriving DecidableEq, Repr

def vmFirewallLedgerVersion : ℤ := 1
def vmFirewallMaxEntriesPerUID : ℕ := 2

def VMLedger.empty : VMLedger := ⟨vmFirewallLedgerVersion, []⟩

def corruptVMFirewallLedger (text : String) : Err := .wrap .ledgerCorrupt text

def VMMember.key (m : VMMember) : VMMemberKey := ⟨m.uid, m.policy⟩

/-- The part of a rule that says what it opens, without whom for. -/
def VMRule.slot (rule : VMRule) : String × ℤ := (rule.protocol, rule.port)

/-- One inbound port, from the given sources or, without any, from everywhere. -/
def portRule (slot : String × ℤ) (open_ : Bool) (sources : List String) : FirewallRule where
  uuid := ""
  protocol := slot.1
  direction := "inbound"
  portStart := some slot.2
  portEnd := some slot.2
  endpointSpecType := if open_ then "any" else "ip_prefixes"
  endpointSpec := if open_ then [] else sources

def vmFirewallMemberFirewallRules (m : VMMember) : List FirewallRule :=
  m.rules.map fun rule => portRule rule.slot (decide (rule.sources = [])) rule.sources

/-- The order of `sortVMFirewallRules`. -/
def slotLE (a b : String × ℤ) : Bool :=
  decide (a.1 < b.1) || (a.1 == b.1 && decide (a.2 ≤ b.2))

def sortVMFirewallRules (rules : List VMRule) : List VMRule :=
  rules.insertionSort fun a b => slotLE a.slot b.slot = true

/-- The order of members: by UID, then by policy. -/
def memberLE (a b : VMMember) : Bool :=
  decide (a.uid < b.uid) || (a.uid == b.uid && decide (a.policy ≤ b.policy))

/-! ### Checks -/

/-- A list every entry of which is before the next. -/
def ascending {α : Type} (before : α → α → Bool) : List α → Bool
  | [] => true
  | [_] => true
  | a :: b :: rest => before a b && ascending before (b :: rest)

/-- The checks on one rule of a member. -/
def validateVMFirewallRule (m : VMMember) (index : ℕ) (rule : VMRule) : Except Err Unit := do
  let at_ := "member " ++ m.uid ++ "/" ++ m.policy ++ " rule " ++ toString index
  failIf (rule.protocol ≠ "tcp" ∧ rule.protocol ≠ "udp")
    (corruptVMFirewallLedger (at_ ++ " protocol " ++ quote rule.protocol ++ " is not tcp or udp"))
  failIf (rule.port < 1 ∨ 65535 < rule.port)
    (corruptVMFirewallLedger (at_ ++ " port " ++ formatInt rule.port ++ " is out of range"))
  failIf (¬ rule.sources.all canonicalPrefix4)
    (corruptVMFirewallLedger (at_ ++ " source is not a canonical IPv4 CIDR"))
  failIf (¬ ascending (fun a b => decide (a < b)) rule.sources)
    (corruptVMFirewallLedger (at_ ++ " sources are not unique and sorted"))

/-- Rules are unique and sorted by protocol and port. -/
def slotLT (a b : VMRule) : Bool :=
  decide (a.protocol < b.protocol) || (a.protocol == b.protocol && decide (a.port < b.port))

variable (cfg : Config)

def validateVMFirewallMember (m : VMMember) : Except Err Unit := do
  match validateNodeLoadBalancerServiceUID m.uid with
  | .error e => .error (corruptVMFirewallLedger e.text)
  | .ok _ => .ok ()
  failIf (¬ vmFirewallPolicyPattern m.policy)
    (corruptVMFirewallLedger ("member " ++ m.uid ++ " policy " ++ quote m.policy
      ++ " is not an 8 hex digit hash"))
  failIf (m.rules = [])
    (corruptVMFirewallLedger ("member " ++ m.uid ++ "/" ++ m.policy ++ " has no rules"))
  let _ ← m.rules.zipIdx.mapM fun p => validateVMFirewallRule m p.2 p.1
  failIf (¬ ascending slotLT m.rules)
    (corruptVMFirewallLedger ("member " ++ m.uid ++ "/" ++ m.policy
      ++ " rules are not unique and sorted by protocol and port"))
  match nodeLoadBalancerServiceFirewallSpecHash cfg (vmFirewallMemberFirewallRules m) with
  | .error e => .error (corruptVMFirewallLedger ("member " ++ m.uid ++ "/" ++ m.policy ++ " rules: "
      ++ e.text))
  | .ok digest =>
    failIf (digest ≠ m.policy) (corruptVMFirewallLedger ("member " ++ m.uid
      ++ " rules hash to " ++ digest ++ ", not to its policy " ++ m.policy))

/-- One rule of a Service's firewall as a rule of a member. -/
def memberRule (index : ℕ) (rule : FirewallRule) : Except Err VMRule := do
  let at_ := "public-node-local: Service firewall rule " ++ toString index
  match rule.portStart, rule.portEnd with
  | some first, some last => do
    failIf (rule.direction ≠ "inbound" ∨ first ≠ last) (.new (at_ ++ " is not one inbound port"))
    if rule.endpointSpecType = "any" then return ⟨rule.protocol, first, []⟩
    else if rule.endpointSpecType = "ip_prefixes" then do
      let sources ← canonicalNodeLoadBalancerSourceRanges rule.endpointSpec
      return ⟨rule.protocol, first, sources⟩
    else .error (.new (at_ ++ " endpoint type " ++ quote rule.endpointSpecType
      ++ " is unsupported"))
  | _, _ => .error (.new (at_ ++ " is not one inbound port"))

/-- `vmFirewallMemberFromFirewall`, and with it `vmFirewallMemberFromDesired`. -/
def vmFirewallMemberFromFirewall (uid policy : String) (f : Firewall) : Except Err VMMember := do
  validateNodeLoadBalancerServiceUID uid
  let rules ← f.rules.zipIdx.mapM fun p => memberRule p.2 p.1
  let member : VMMember := ⟨uid, policy, sortVMFirewallRules rules⟩
  validateVMFirewallMember cfg member
  return member

/-- Members are sorted by UID, then by policy, and appear once. -/
def memberLT (a b : VMMember) : Bool :=
  decide (a.uid < b.uid) || (a.uid == b.uid && decide (a.policy < b.policy))

variable (l : VMLedger)

def validateVMFirewallLedger : Except Err Unit := do
  failIf (l.v ≠ vmFirewallLedgerVersion)
    (corruptVMFirewallLedger ("unsupported version " ++ toString l.v))
  let _ ← l.members.mapM fun m => validateVMFirewallMember cfg m
  failIf (¬ (l.members.map (·.key)).Nodup) (corruptVMFirewallLedger "a member appears twice")
  failIf (¬ l.members.all fun m =>
      decide ((l.members.filter fun other => other.uid == m.uid).length
        ≤ vmFirewallMaxEntriesPerUID))
    (corruptVMFirewallLedger ("a Service has more than "
      ++ toString vmFirewallMaxEntriesPerUID ++ " entries"))
  failIf (¬ ascending memberLT l.members)
    (corruptVMFirewallLedger "members are not sorted by UID then policy")

def canonicalVMFirewallLedger : VMLedger where
  v := l.v
  members := (l.members.map fun m => { m with
    rules := sortVMFirewallRules (m.rules.map fun rule =>
      { rule with sources := sortStrings rule.sources }) }).insertionSort
    fun a b => memberLE a b = true

/-! ### Texts -/

/-- The text of an annotation that should hold a ledger: none, the canonical
JSON of a ledger, or something else. -/
inductive LedgerText
  | none | ledger (l : VMLedger) | other (text : String)
deriving DecidableEq, Repr

def encodeVMFirewallLedger : Except Err LedgerText := do
  validateVMFirewallLedger cfg (canonicalVMFirewallLedger l)
  return .ledger (canonicalVMFirewallLedger l)

def decodeVMFirewallLedger : LedgerText → Except Err VMLedger
  | .none => .error (corruptVMFirewallLedger "decode: EOF")
  | .other text => .error (corruptVMFirewallLedger ("decode: " ++ text))
  | .ledger l => do
    validateVMFirewallLedger cfg (canonicalVMFirewallLedger l)
    failIf (canonicalVMFirewallLedger l ≠ l)
      (corruptVMFirewallLedger "ledger is not in canonical form")
    return canonicalVMFirewallLedger l

/-! ### Members in and out -/

def VMLedger.find (k : VMMemberKey) : Option VMMember :=
  l.members.find? fun m => m.key == k

/-- `with`: the ledger with one more member. -/
def VMLedger.withMember (m : VMMember) : Except Err VMLedger := do
  validateVMFirewallMember cfg m
  failIf ((l.find m.key).isSome)
    (.wrap .entryOrder ("member " ++ m.uid ++ "/" ++ m.policy ++ " is already in the ledger"))
  let entries := (l.members.filter fun other => other.uid == m.uid).length
  failIf (vmFirewallMaxEntriesPerUID ≤ entries)
    (.wrap .entryOrder ("Service " ++ m.uid ++ " already has " ++ toString entries
      ++ " entries; remove the old policy first"))
  return canonicalVMFirewallLedger
    ⟨vmFirewallLedgerVersion, (canonicalVMFirewallLedger l).members ++
      (canonicalVMFirewallLedger ⟨vmFirewallLedgerVersion, [m]⟩).members⟩

/-- `without`: the ledger without the member of a key, and whether there was one. -/
def VMLedger.without (k : VMMemberKey) : VMLedger × Bool :=
  let next := (canonicalVMFirewallLedger l).members
  (⟨vmFirewallLedgerVersion, next.filter fun m => m.key != k⟩, next.any fun m => m.key == k)

/-! ### The merge -/

/-- What the members ask for at one port, with the Service that asks. -/
def VMLedger.asked (slot : String × ℤ) : List (String × VMRule) :=
  l.members.flatMap fun m => (m.rules.filter fun rule => rule.slot == slot).map fun rule =>
    (m.uid, rule)

/-- The ports of a ledger, in the order of the rules. -/
def VMLedger.slots : List (String × ℤ) :=
  (l.members.flatMap fun m => m.rules.map (·.slot)).dedup.insertionSort fun a b => slotLE a b = true

/-- The rule of one port. -/
def mergedRule (slot : String × ℤ) : Except Err FirewallRule := do
  let asked := l.asked slot
  let uids := (asked.map (·.1)).dedup
  failIf (1 < uids.length) (.wrap .portConflict ("public-node-local: VM firewall " ++ slot.1 ++ "/"
    ++ formatInt slot.2 ++ " is requested by more than one Service ("
    ++ ", ".intercalate (sortStrings uids) ++ ")"))
  return portRule slot (asked.any fun p => decide (p.2.sources = []))
    (sortStrings (asked.flatMap fun p => p.2.sources).dedup)

/-- `mergeVMFirewallLedger`.  The limit on the number of rules is off. -/
def mergeVMFirewallLedger : Except Err (List FirewallRule) := do
  failIf (l.members = []) (.new
    "public-node-local: an empty VM firewall ledger has no rules; delete the firewall instead")
  let rules ← l.slots.mapM fun slot => mergedRule l slot
  let _ ← nodeLoadBalancerVMFirewallSpecHash cfg rules
  return rules

/-! ### Requests -/

def vmFirewallCreateRequest (vmUUID : String) (merged : List FirewallRule) :
    Except Err CreateFirewallRequest := do
  let name ← nodeLoadBalancerVMFirewallName cfg vmUUID
  failIf (cfg.billingAccountID < 1)
    (.new "public-node-local: the billing account is required to create a VM firewall")
  let _ ← nodeLoadBalancerVMFirewallSpecHash cfg merged
  return ⟨name, vmFirewallDescription, cfg.billingAccountID, retainFirewallRuleUUIDs [] merged⟩

/-- The rule UUIDs of a firewall are well formed and differ.  `subject` is what
the refusals call the firewall. -/
def checkRuleUUIDs (invalid reused : String → String) (rules : List FirewallRule) :
    Except Err Unit := do
  let uuids := (rules.map (·.uuid)).filter (· ≠ "")
  failIf (¬ uuids.all validNodeLoadBalancerCloudUUID)
    (.new (invalid (quote ((uuids.find? fun u => !validNodeLoadBalancerCloudUUID u).getD ""))))
  failIf (¬ (uuids.map toLower).Nodup) (.new (reused (quote (uuids.head?.getD ""))))

def vmFirewallUpdateRequest (vmUUID : String) (current : Firewall) (merged : List FirewallRule) :
    Except Err UpdateFirewallRequest := do
  let name ← nodeLoadBalancerVMFirewallName cfg vmUUID
  failIf (¬ validNodeLoadBalancerCloudUUID current.uuid)
    (.new ("public-node-local: current VM firewall UUID " ++ quote current.uuid ++ " is invalid"))
  failIf (current.effectiveName ≠ name) (.new ("public-node-local: firewall "
    ++ quote current.effectiveName ++ " is not the VM firewall " ++ quote name))
  failIf (current.description ≠ "" ∧ current.description ≠ vmFirewallDescription)
    (.new ("public-node-local: current VM firewall description " ++ quote current.description
      ++ " is not the managed description"))
  checkRuleUUIDs (fun u => "public-node-local: current VM firewall rule UUID " ++ u ++ " is invalid")
    (fun u => "public-node-local: current VM firewall reuses rule UUID " ++ u) current.rules
  let _ ← nodeLoadBalancerVMFirewallSpecHash cfg merged
  return ⟨name, vmFirewallDescription, retainFirewallRuleUUIDs current.rules merged⟩

/-- `vmFirewallAdoptRequest`: the PUT that renames the firewall of a Service. -/
def vmFirewallAdoptRequest (vmUUID : String) (current : Firewall) (merged : List FirewallRule) :
    Except Err UpdateFirewallRequest := do
  let name ← nodeLoadBalancerVMFirewallName cfg vmUUID
  failIf (¬ validNodeLoadBalancerCloudUUID current.uuid)
    (.new ("public-node-local: firewall UUID " ++ quote current.uuid ++ " to adopt is invalid"))
  failIf (current.effectiveName = name) (.new ("public-node-local: firewall " ++ current.uuid
    ++ " already carries the per-VM name"))
  checkRuleUUIDs (fun u => "public-node-local: rule UUID " ++ u ++ " of the firewall to adopt is invalid")
    (fun u => "public-node-local: the firewall to adopt reuses rule UUID " ++ u) current.rules
  let _ ← nodeLoadBalancerVMFirewallSpecHash cfg merged
  return ⟨name, vmFirewallDescription, retainFirewallRuleUUIDs current.rules merged⟩

/-- `vmFirewallUnadoptRequest`: the PUT that gives the firewall back to a Service. -/
def vmFirewallUnadoptRequest (current : Firewall) (desired : CreateFirewallRequest) :
    Except Err UpdateFirewallRequest := do
  failIf (¬ validNodeLoadBalancerCloudUUID current.uuid)
    (.new ("public-node-local: firewall UUID " ++ quote current.uuid ++ " to rename is invalid"))
  failIf (current.effectiveName = desired.displayName) (.new ("public-node-local: firewall "
    ++ current.uuid ++ " already carries the name " ++ quote desired.displayName))
  checkRuleUUIDs (fun u => "public-node-local: rule UUID " ++ u ++ " of the firewall to rename is invalid")
    (fun u => "public-node-local: the firewall to rename reuses rule UUID " ++ u) current.rules
  return ⟨desired.displayName, desired.description, retainFirewallRuleUUIDs current.rules desired.rules⟩

/-! ### What is encoded, and what is merged -/

section Members

variable {cfg} {l : VMLedger}

theorem encodeVMFirewallLedger_ok {raw : LedgerText} (h : encodeVMFirewallLedger cfg l = .ok raw) :
    validateVMFirewallLedger cfg (canonicalVMFirewallLedger l) = .ok () ∧
      raw = .ledger (canonicalVMFirewallLedger l) := by
  obtain ⟨_, hvalid, h⟩ := except_bind_ok h
  cases h
  exact ⟨hvalid, rfl⟩

theorem canonicalVMFirewallLedger_members :
    (canonicalVMFirewallLedger l).members = [] ↔ l.members = [] := by
  simp [canonicalVMFirewallLedger, ← List.length_eq_zero_iff, List.length_insertionSort]

/-- Only a ledger with members has a merge. -/
theorem mergeVMFirewallLedger_members {merged : List FirewallRule}
    (h : mergeVMFirewallLedger cfg l = .ok merged) : l.members ≠ [] := by
  obtain ⟨_, hne, -⟩ := except_bind_ok h
  exact failIf_ok hne

end Members

end InSpaceKube.NodeLB
