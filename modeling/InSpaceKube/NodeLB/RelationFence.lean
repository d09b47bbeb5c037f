/-
InSpaceKube/NodeLB/RelationFence.lean

Attach and detach of firewalls under a relation fence
(`node_loadbalancer_firewall_relation_fence.go`,
`node_loadbalancer_firewall_limit.go`, and the anchor as an owner in
`node_loadbalancer_vm_firewall_relation.go`).

`reconcileNodeLoadBalancerFirewallRelation` is four things at once.  With a
fence on the owner it resolves it from a listing: the relation converged, or it
is still as it was after the retire delay, or it is waited for.  Without one it
issues the desired relation: it writes a fence under a fresh issue id, has the
owner's authority checked again, reads the owner once more and only then makes
the call.  After the call it reads back what became of it, by calling itself
without a desired relation.

The function is cut at its seams here: `resolveExisting` and `planDesired`
decide on new annotations and an outcome (`Pass`), `commitPass` stores them,
`dispatchIssued` goes from a stored fence to the call.  The number of times
the function may call itself is an argument.
-/
import InSpaceKube.NodeLB.ReceiptOps

namespace InSpaceKube.NodeLB.Receipts

open Prog

/-! ### Fences as texts -/

/-- A text `hex.DecodeString` takes to sixteen bytes. -/
def validIssueToken (token : String) : Bool := hex32Pattern (toLower token)

def malformedFence : Err := .new "node load balancer: malformed firewall relation fence"

/-- The stamps at the end of a fence, as the three versions of its text allow. -/
def checkFenceStamps (f : Fence) (issuedAt : Time) : Except Err Unit :=
  match f.targetAbsentAt, f.absenceObservedAt with
  | .absent, .absent => .ok ()
  | .absent, observed => do
    failIf (f.operation ≠ .unassign)
      (.new "node load balancer: only an unassign fence may contain absence evidence")
    failIf (observed = .malformed)
      (.new "node load balancer: invalid firewall relation absence observation")
  | .malformed, _ =>
    .error (.new "node load balancer: invalid firewall relation target-absence observation")
  | .at target, observed => do
    failIf (f.operation ≠ .unassign)
      (.new "node load balancer: only an unassign fence may contain target-absence evidence")
    failIf (issuedAt < target)
      (.new "node load balancer: invalid firewall relation target-absence observation")
    failIf (observed = .malformed)
      (.new "node load balancer: invalid firewall relation absence observation")

/-- `parseNodeLoadBalancerFirewallRelationFence`. -/
def parseFence : FenceText → Except Err Fence
  | .none => .error malformedFence
  | .other _ => .error malformedFence
  | .fence f => do
    failIf (f.issueID = "" ∧ f.issuedAt = .absent) malformedFence
    failIf (¬ validNodeLoadBalancerCloudUUID f.firewallUUID ∨
      ¬ validNodeLoadBalancerCloudUUID f.vmUUID) malformedFence
    failIf (¬ validIssueToken f.issueID)
      (.new ("node load balancer: invalid firewall relation issue identity: node load balancer: "
        ++ "invalid firewall create-issued token " ++ quote f.issueID))
    match f.issuedAt with
    | .at issuedAt => do
      checkFenceStamps f issuedAt
      return { f with firewallUUID := toLower f.firewallUUID, vmUUID := toLower f.vmUUID }
    | _ => .error (.new ("node load balancer: invalid firewall relation issue identity: "
        ++ "node load balancer: invalid firewall create-issued timestamp"))

/-- What is parsed is what is there, with its UUIDs in lower case. -/
theorem parseFence_ok {text : FenceText} {fence : Fence} (h : parseFence text = .ok fence) :
    ∃ f, text = .fence f ∧
      fence = { f with firewallUUID := toLower f.firewallUUID, vmUUID := toLower f.vmUUID } := by
  unfold parseFence at h
  split at h
  · cases h
  · cases h
  · rename_i f
    obtain ⟨_, -, h⟩ := except_bind_ok h
    obtain ⟨_, -, h⟩ := except_bind_ok h
    obtain ⟨_, -, h⟩ := except_bind_ok h
    split at h
    · obtain ⟨_, -, h⟩ := except_bind_ok h
      cases h
      exact ⟨f, rfl, rfl⟩
    · cases h

/-- `sameNodeLoadBalancerFirewallRelationIssue`. -/
def sameIssue (left right : Fence) : Bool :=
  left.operation == right.operation && equalFold left.firewallUUID right.firewallUUID &&
    equalFold left.vmUUID right.vmUUID && left.issueID == right.issueID &&
    left.issuedAt == right.issuedAt && left.targetAbsentAt == right.targetAbsentAt

/-! ### Observations -/

/-- `nodeLoadBalancerFirewallRelationConverged`. -/
def relationConverged (fence : Fence) (items : List Firewall) : Except Err Bool :=
  match items.filter fun f => equalFold f.uuid fence.firewallUUID with
  | [] => .ok (fence.operation == .unassign)
  | [current] => do
    let assignments ← nodeLoadBalancerFirewallVMAssignments current
    let assigned := assignments.contains fence.vmUUID
    return match fence.operation with
      | .assign => assigned
      | .unassign => !assigned
  | _ => .error (.new ("node load balancer: firewall UUID " ++ fence.firewallUUID
      ++ " appears multiple times during relation readback"))

/-- The receipt is taken off. -/
def RelationAnnotations.withoutReceipt (values : RelationAnnotations) : RelationAnnotations :=
  { values with issued := .none, ownerUID := "" }

/-- What `advanceNodeLoadBalancerFirewallRelationObservation` does. -/
structure Advance where
  values : RelationAnnotations
  cleared : Bool
  changed : Bool

/-- `advanceNodeLoadBalancerFirewallRelationObservation`. -/
def advanceObservation (values : RelationAnnotations) (fence : Fence) (converged : Bool)
    (now delay : Time) : Except Err Advance :=
  match fence.operation with
  | .assign => do
    failIf (fence.absenceObservedAt ≠ .absent)
      (.new "node load balancer: assignment relation fence contains removal absence evidence")
    if converged then return ⟨values.withoutReceipt, true, true⟩
    else return ⟨values, false, false⟩
  | .unassign =>
    if converged then
      match fence.absenceObservedAt with
      | .absent => .ok ⟨{ values with issued := .fence { fence with absenceObservedAt := .at now } },
          false, true⟩
      | .malformed =>
        .error (.new "node load balancer: invalid persisted firewall relation absence observation")
      | .at observedAt =>
        if now < observedAt + delay then .ok ⟨values, false, false⟩
        else .ok ⟨values.withoutReceipt, true, true⟩
    else if fence.absenceObservedAt = .absent then .ok ⟨values, false, false⟩
    else .ok ⟨{ values with issued := .fence { fence with absenceObservedAt := .absent } },
      false, true⟩

/-- `nodeLoadBalancerFirewallRelationRetireDue`. -/
def retireDue (fence : Fence) (now : Time) : Except Err Bool :=
  match fence.issuedAt with
  | .at issuedAt => .ok (decide (issuedAt + retireDelay ≤ now))
  | _ => .error (.new "node load balancer: invalid firewall relation issue timestamp")

/-- `nodeLoadBalancerFirewallRelationPendingRetry`. -/
def pendingRetry (existing : Fence) (converged : Bool) (now delay : Time) : Time :=
  let untilRetire := match existing.issuedAt with
    | .at issuedAt => min retry (issuedAt + retireDelay - now)
    | _ => retry
  let wait := if existing.operation = .unassign ∧ converged = true then
      match existing.absenceObservedAt with
      | .at observedAt => observedAt + delay - now
      | _ => delay
    else untilRetire
  if wait ≤ 0 then second else wait

/-! ### Retirements -/

def parkRetirements : ℕ := 3
def parkDuration : Time := 1800 * second
def retirementRecords : ℕ := 16

def RelationOperation.text : RelationOperation → String
  | .assign => "assign"
  | .unassign => "unassign"

/-- `nodeLoadBalancerFirewallRelationKey`. -/
def relationKey (fence : Fence) : String :=
  fence.operation.text ++ "/" ++ toLower fence.firewallUUID ++ "/" ++ toLower fence.vmUUID

/-- `parseNodeLoadBalancerFirewallRelationRetirements`. -/
def parseRetirements (text : Option (List (String × Retirement))) : List (String × Retirement) :=
  (text.getD []).filter fun p => p.2.count ≠ 0

/-- The record that goes first when there are too many. -/
def oldestRetirement (records : List (String × Retirement)) : Option String :=
  (records.insertionSort fun a b =>
    a.2.since < b.2.since ∨ (a.2.since = b.2.since ∧ a.1 ≤ b.1)).head?.map (·.1)

/-- The loop that drops the oldest records. -/
def boundRetirements : ℕ → List (String × Retirement) → List (String × Retirement)
  | 0, records => records
  | n + 1, records =>
    if records.length ≤ retirementRecords then records
    else boundRetirements n (records.filter fun p => oldestRetirement records ≠ some p.1)

/-- `storeNodeLoadBalancerFirewallRelationRetirements`. -/
def storeRetirements (values : RelationAnnotations) (records : List (String × Retirement))
    (now : Time) : RelationAnnotations :=
  let live := records.filter fun p => decide (now < p.2.since + parkDuration)
  match boundRetirements live.length live with
  | [] => { values with retired := none }
  | bounded => { values with retired := some bounded }

/-- `recordNodeLoadBalancerFirewallRelationRetirement`. -/
def recordRetirement (values : RelationAnnotations) (fence : Fence) (now : Time) :
    RelationAnnotations :=
  let records := parseRetirements values.retired
  let count := ((records.lookup (relationKey fence)).map (·.count)).getD 0
  storeRetirements values ((relationKey fence, ⟨count + 1, now⟩) ::
    records.filter fun p => p.1 ≠ relationKey fence) now

/-- `clearNodeLoadBalancerFirewallRelationRetirement`. -/
def clearRetirement (values : RelationAnnotations) (key : String) (now : Time) :
    RelationAnnotations × Bool :=
  let records := parseRetirements values.retired
  if (records.lookup key).isSome then
    (storeRetirements values (records.filter fun p => p.1 ≠ key) now, true)
  else (values, false)

/-! ### The firewall limit -/

variable (cfg : Config)

def maxFirewallsPerVM : ℕ := if cfg.maxFirewallsPerVM < 1 then 3 else cfg.maxFirewallsPerVM

variable (networkUUID : String) (ref : Ref) (uid vmUUID : String) (snapshot : Object)
  (values : RelationAnnotations) (fence : Fence) (items : List Firewall) (issued desired : Fence)
  (before : Firewall)

/-- The firewalls of a listing that are attached to a VM. -/
def attachedFirewalls (vmUUID : String) : List String :=
  ((items.filter fun f => vmFirewallAttachedTo f vmUUID).map fun f => toLower f.uuid).dedup

def limitExceeded (firewallUUID : String) (current limit : ℕ) : Err :=
  .wrap .limitExceeded ("firewall limit exceeded: VM " ++ vmUUID ++ " already has "
    ++ toString current ++ " firewalls attached and the limit is " ++ toString limit
    ++ "; refusing to attach firewall " ++ firewallUUID)

/-- The check once the remembered attachments are known. -/
def checkCapacity (recent : List String) (firewallUUID vmUUID : String) : Except Err Unit :=
  let attached := (attachedFirewalls items vmUUID ++ recent).dedup
  failIf (¬ attached.contains (toLower firewallUUID) ∧ maxFirewallsPerVM cfg < attached.length + 1)
    (limitExceeded vmUUID firewallUUID attached.length (maxFirewallsPerVM cfg))

def firewallVMCapacityFromItems (firewallUUID vmUUID : String) : Q Unit := do
  if (attachedFirewalls items vmUUID).contains (toLower firewallUUID) then return ()
  else do
    let now ← query .now
    let recent ← query (.recentFirewallAssignsFor vmUUID now)
    check (checkCapacity cfg items recent firewallUUID vmUUID)

def requireFirewallVMCapacity (firewallUUID vmUUID : String) : Q Unit := do
  match ← query (.listFirewalls .capacity) with
  | .error e => throw (e.within ("node load balancer: read firewalls of VM " ++ vmUUID
      ++ " before attaching firewall " ++ firewallUUID))
  | .ok items => firewallVMCapacityFromItems cfg items firewallUUID vmUUID

/-! ### VM authority -/

/-- The text a location and a VM UUID give a provider ID. -/
def validMember (member : String) : Bool := uuidPatternFold member

/-- `canonicalConfiguredVPCVMUUIDs`: the lower-cased members, with their texts. -/
def canonicalConfiguredVPCVMUUIDs (network : Network) : Except Err (List (String × String)) :=
  match network.vmUUIDs with
  | none => .error (.new "configured VPC omitted VM membership")
  | some members => do
    failIf (¬ members.all validMember) (.new "configured VPC member has invalid VM UUID")
    failIf (¬ (members.map toLower).Nodup) (.new "configured VPC contains duplicate VM UUID")
    return members.map fun m => (toLower m, m)

/-- The exact read shows the VM, or that it is gone. -/
def exactVMPresence (networkUUID : String) (got : Except Err (Option CloudVM)) :
    Except Err (Option CloudVM) :=
  match got with
  | .error e =>
    if e.is .notFound then .ok none
    else .error (e.within ("node load balancer: read exact relation VM " ++ vmUUID))
  | .ok none => .error (.new ("node load balancer: exact relation VM " ++ vmUUID
      ++ " returned an empty response"))
  | .ok (some vm) =>
    if equalFold (trimSpace vm.status) "deleted" then do
      failIf (vm.uuid ≠ vmUUID ∨ vm.billingAccountID ≠ cfg.billingAccountID ∨
          (vm.networkUUID ≠ "" ∧ vm.networkUUID ≠ networkUUID))
        (.new ("node load balancer: deleted relation VM " ++ vmUUID
          ++ " has conflicting exact identity"))
      return none
    else .ok (some vm)

/-- The three reads agree: the VM is owned, or it is absent. -/
def vmVerdict (networkUUID : String) (exact : Option CloudVM) (items : List CloudVM)
    (members : List (String × String)) : Except Err (Bool × Bool) :=
  let rows := items.filter fun vm => equalFold vm.uuid vmUUID
  let memberships := members.filter fun m => m.1 == vmUUID
  match exact with
  | none =>
    if rows = [] ∧ memberships = [] then .ok (false, true)
    else .error (.new ("node load balancer: exact relation VM " ++ vmUUID
      ++ " is absent but inventory/VPC still report it (rows=" ++ toString rows.length
      ++ " memberships=" ++ toString memberships.length ++ ")"))
  | some vm => do
    failIf (vm.uuid ≠ vmUUID ∨ rows.length ≠ 1 ∨ ¬ rows.all (fun row => row.uuid == vmUUID) ∨
        memberships.length ≠ 1 ∨ ¬ memberships.all fun m => m.2 == vmUUID)
      (.new ("node load balancer: relation VM " ++ vmUUID
        ++ " lacks unique exact GET/list/VPC identity (rows=" ++ toString rows.length
        ++ " memberships=" ++ toString memberships.length ++ ")"))
    failIf (¬ (vm :: rows).all fun v => v.billingAccountID == cfg.billingAccountID &&
        (v.networkUUID == "" || v.networkUUID == networkUUID))
      (.new ("node load balancer: relation VM " ++ vmUUID ++ " has foreign billing or VPC identity"))
    return (true, false)

/-- `nodeLoadBalancerFirewallRelationVMCloudAuthority`: owned, and absent. -/
def vmCloudAuthority : Q (Bool × Bool) := do
  check (failIf (¬ validNodeLoadBalancerCloudUUID vmUUID)
    (.new ("node load balancer: invalid relation VM UUID " ++ quote vmUUID)))
  let exact ← check (exactVMPresence cfg vmUUID networkUUID (← query (.getVM vmUUID)))
  let items ← check ((← query .listVMs).mapError
    (.within "node load balancer: list relation VM inventory"))
  match ← check ((← query .getNetwork).mapError
    (.within "node load balancer: read relation VM VPC membership")) with
  | none => throw (.new "node load balancer: relation VM VPC identity changed")
  | some network => do
    check (failIf (network.uuid ≠ networkUUID)
      (.new "node load balancer: relation VM VPC identity changed"))
    let members ← check ((canonicalConfiguredVPCVMUUIDs network).mapError
      (.within "node load balancer: relation VM VPC membership is invalid"))
    check (vmVerdict cfg vmUUID networkUUID exact items members)

def authorizeFirewallRelationUnassignVM : Q Unit := do
  let (owned, absent) ← vmCloudAuthority cfg networkUUID fence.vmUUID
  if owned then return ()
  else do
    check (failIf (absent = false ∨ fence.targetAbsentAt = .absent) (.new
      ("node load balancer: unassign target has neither canonical owned VM authority nor "
        ++ "durable absence proof")))
    let now ← query .now
    match fence.targetAbsentAt with
    | .at observedAt =>
      check (failIf (now < observedAt + absenceDelay cfg) (.new
        "node load balancer: unassign target VM absence is not durably spaced"))
    | _ => throw (.new "node load balancer: unassign target VM absence is not durably spaced")

/-! ### Owners -/

/-- `read` of an owner. -/
def readOwner : Q Object :=
  match ref with
  | .anchor vmUUID => do
    match ← getVMFirewallAnchor cfg vmUUID with
    | none => throw (.new ("public-node-local: VM firewall anchor of " ++ vmUUID
        ++ " does not exist"))
    | some anchor => return anchor
  | .owner kind name => do
    match ← query (.get (.owner kind name)) with
    | .error e => throw e
    | .ok none => throw (.wrap .notFound name)
    | .ok (some o) => return o

/-- `commit` of a Service, a NodePool or a NodeClass. -/
def commitOwner (kind : OwnerKind) (name : String) (snapshot : Object)
    (values : RelationAnnotations) : M Unit := do
  let copy := snapshot.withRelation values
  match ← ask (.update (.owner kind name) copy) with
  | .conflict e => throw e
  | .failed e => throw e
  | .ok updated => do
    check (failIf (updated.uid ≠ snapshot.uid ∨ ¬ updated.sameAnnotations copy)
      (.new ("node load balancer: " ++ kind.noun
        ++ " admission changed the firewall relation fence update")))
    match ← look (.get (.owner kind name)) with
    | .error e => throw (e.within ("read back " ++ kind.noun ++ " firewall relation fence"))
    | .ok none => throw (.wrap .notFound ("read back " ++ kind.noun ++ " firewall relation fence"))
    | .ok (some verified) =>
      check (failIf (verified.uid ≠ snapshot.uid ∨ verified.version ≠ updated.version ∨
          ¬ verified.sameAnnotations copy)
        (.new ("node load balancer: " ++ kind.noun
          ++ " firewall relation fence failed exact UID/resourceVersion readback")))

/-- One annotation of `commitVMFirewallAnchorDiff`: what is to change must still
be as it was read. -/
def mergeAnnotation {α : Type} [DecidableEq α] (key : String) (snapshot want current : α) :
    Except Err α :=
  if want = snapshot then .ok current
  else if current = snapshot then .ok want
  else .error (.new ("public-node-local: VM firewall anchor annotation " ++ key
    ++ " changed under the relation fence"))

/-- The mutation of `commitVMFirewallAnchorDiff`. -/
def relationDiff (snapshot values : RelationAnnotations) (cm : Object) :
    Except Err (Option Object) := do
  failIf (cm.uid ≠ uid) (.new
    "public-node-local: VM firewall anchor identity changed before the relation fence update")
  let issued ← mergeAnnotation "service.inspace.cloud/node-lb-firewall-relation-issued"
    snapshot.issued values.issued cm.relation.issued
  let ownerUID ← mergeAnnotation "service.inspace.cloud/node-lb-firewall-relation-owner-uid"
    snapshot.ownerUID values.ownerUID cm.relation.ownerUID
  let vmAbsent ← mergeAnnotation "service.inspace.cloud/node-lb-firewall-relation-vm-absence"
    snapshot.vmAbsent values.vmAbsent cm.relation.vmAbsent
  let retired ← mergeAnnotation "service.inspace.cloud/node-lb-firewall-relation-retired"
    snapshot.retired values.retired cm.relation.retired
  if values = snapshot then return none
  else return some (cm.withRelation ⟨issued, ownerUID, vmAbsent, retired⟩)

/-- `commit` of an owner: write the annotations over what was read. -/
def commitRelation : M Unit :=
  match ref with
  | .anchor vmUUID => do
    let _ ← updateVMFirewallAnchor cfg vmUUID snapshot
      (relationDiff snapshot.uid snapshot.relation values)
    return ()
  | .owner kind name => commitOwner kind name snapshot values

def exactNodeLoadBalancerFirewallFresh (uuid : String) : Q Firewall := do
  check (failIf (¬ validNodeLoadBalancerCloudUUID uuid)
    (.new ("node load balancer: invalid firewall UUID " ++ quote uuid)))
  match ← query (.listFirewalls .exactFresh) with
  | .error e => throw (e.within "node load balancer: fresh firewall authority read")
  | .ok items => check (exactNodeLoadBalancerFirewallFromItems items uuid)

/-- `hasReceipt` of an anchor: an unresolved PUT, create or delete. -/
def AnchorAnnotations.hasReceipt (a : AnchorAnnotations) : Bool :=
  a.receipt.pending != .none || a.receipt.pendingOp != .none || a.receipt.issuedAt != .absent ||
    a.deleteTarget != ""

/-- `applied` of an anchor: the ledger the firewall was last read back with. -/
def AnchorAnnotations.appliedLedger (a : AnchorAnnotations) : Except Err VMLedger :=
  if a.applied = .none then .ok .empty else decodeVMFirewallLedger cfg a.applied

def vmFirewallPutReceiptOpen (a : AnchorAnnotations) : Bool :=
  a.receipt.issuedAt != .absent || (a.receipt.pendingOp != .none && a.receipt.pendingOp != .delete)

/-- The reads that `authorizeVMFirewallRelationPreDispatch` makes first and,
for an attach, last. -/
def validateRelationAnchor : Q (Firewall × Object) := do
  match ← getVMFirewallAnchor cfg vmUUID with
  | none => throw (.new ("public-node-local: VM firewall anchor of " ++ vmUUID ++ " does not exist"))
  | some anchor => do
    check (failIf (¬ equalFold anchor.fw.uuid fence.firewallUUID)
      (.new ("public-node-local: anchor firewall " ++ quote anchor.fw.uuid
        ++ " is not the relation firewall " ++ fence.firewallUUID)))
    check (failIf (vmFirewallPutReceiptOpen anchor.fw) (.new
      "public-node-local: the per-VM firewall has an unresolved create or PUT receipt"))
    let firewall ← exactNodeLoadBalancerFirewallFresh fence.firewallUUID
    check (failIf (¬ firewallAuthorityUnchanged before firewall)
      (.new ("public-node-local: VM firewall " ++ fence.firewallUUID
        ++ " changed after relation issue")))
    check ((validateNodeLoadBalancerVMFirewallIdentity cfg firewall vmUUID).mapError
      (.within ("public-node-local: VM firewall " ++ fence.firewallUUID
        ++ " lost exact ownership")))
    return (firewall, anchor)

/-- The detach of a per-VM firewall that is not being deleted needs the VM gone. -/
def requireDetachIntent (anchor : Object) : Q Unit := do
  if anchor.fw.receipt.pendingOp = .delete then return ()
  else do
    let (owned, _) ← vmCloudAuthority cfg networkUUID fence.vmUUID
    check (failIf (owned = true) (.new
      ("public-node-local: refusing to detach the firewall of a live VM without a verified "
        ++ "delete intent")))

/-- The part of `authorizeVMFirewallRelationPreDispatch` for an attach. -/
def authorizeVMFirewallAttach (firewall : Firewall) (anchor : Object) : Q Unit := do
  check (failIf (anchor.fw.receipt.pendingOp = .delete)
    (.new "public-node-local: the per-VM firewall is being deleted"))
  let applied ← check (anchor.fw.appliedLedger cfg)
  check (failIf (applied.members = [] ∨ anchor.fw.appliedHash = "")
    (.new "public-node-local: the per-VM firewall has no applied ledger to attach"))
  check ((validateNodeLoadBalancerVMFirewall cfg firewall vmUUID anchor.fw.appliedHash).mapError
    (.within ("public-node-local: VM firewall " ++ fence.firewallUUID
      ++ " does not match its applied ledger")))
  check (← query (.authorizeNode fence.vmUUID))
  let _ ← validateRelationAnchor cfg vmUUID fence before
  return ()

def authorizeVMFirewallRelationPreDispatch : Q Unit := do
  check (failIf (¬ equalFold fence.vmUUID vmUUID) (.new ("public-node-local: relation names VM "
    ++ fence.vmUUID ++ ", but the anchor belongs to " ++ vmUUID)))
  let (firewall, anchor) ← validateRelationAnchor cfg vmUUID fence before
  match fence.operation with
  | .unassign => do
    requireDetachIntent cfg networkUUID fence anchor
    authorizeFirewallRelationUnassignVM cfg networkUUID fence
  | .assign => authorizeVMFirewallAttach cfg vmUUID fence before firewall anchor

/-- `authorize` of an owner. -/
def authorizeRelation : Q Unit :=
  match ref with
  | .anchor vmUUID => authorizeVMFirewallRelationPreDispatch cfg networkUUID vmUUID fence before
  | .owner kind name => do check (← query (.authorizeOwner (.owner kind name) fence before))

/-! ### Clearing and observing -/

/-- `clearNodeLoadBalancerFirewallRelationFence`. -/
def clearFence (expectedOwnerUID : String) (issued : Fence) : M Unit := do
  let snapshot ← reads (readOwner cfg ref)
  check (failIf (expectedOwnerUID = "" ∨ snapshot.uid ≠ expectedOwnerUID ∨
    snapshot.relation.ownerUID ≠ expectedOwnerUID) (.new
      "firewall relation owner UID changed before authoritative-outcome clearance"))
  match parseFence snapshot.relation.issued with
  | .error _ =>
    throw (.new "firewall relation fence changed before authoritative-outcome clearance")
  | .ok stored => do
    check (failIf (¬ sameIssue stored issued)
      (.new "firewall relation fence changed before authoritative-outcome clearance"))
    commitRelation cfg ref snapshot snapshot.relation.withoutReceipt

/-- `observeNodeLoadBalancerFirewallRelationIssue`. -/
def observeIssue (expectedOwnerUID : String) (expected : Fence)
    (items : List Firewall) (now : Time) : M Bool := do
  let snapshot ← withErr (reads (readOwner cfg ref)) (.within ("node load balancer: read "
    ++ ref.description ++ " firewall relation owner after mutation"))
  check (failIf (expectedOwnerUID = "" ∨ snapshot.uid ≠ expectedOwnerUID ∨
    snapshot.relation.ownerUID ≠ expectedOwnerUID) (.new
      ("node load balancer: firewall relation owner UID changed before authoritative-outcome "
        ++ "observation")))
  let stored ← check (parseFence snapshot.relation.issued)
  check (failIf (¬ sameIssue stored expected) (.new
    "node load balancer: firewall relation issue changed before authoritative-outcome observation"))
  let converged ← check (relationConverged stored items)
  let advance ← check (advanceObservation snapshot.relation stored converged now (absenceDelay cfg))
  if advance.changed then do
    withErr (commitRelation cfg ref snapshot advance.values) (.within ("node load balancer: persist "
      ++ ref.description ++ " firewall relation observation"))
    return advance.cleared
  else return advance.cleared

/-! ### The pass -/

inductive Outcome
  | converged | pending (retryAfter : Time) | preDispatchProof (retryAfter : Time) | cleared
  | issued (fence : Fence)

/-- What a pass has decided.  `confirm`: look again at once for the second
absence; `proofAgain`: look again at once for the second absence of the VM. -/
structure Pass where
  values : RelationAnnotations
  changed : Bool
  outcome : Outcome
  confirm : Bool
  proofAgain : Bool

/-- The fence on the owner is retired. -/
def retireExisting (existing : Fence) : Q Pass := do
  let taken := values.withoutReceipt
  if ref.parkRetired then do
    let now ← query .now
    return ⟨recordRetirement taken existing now, true, .cleared, false, false⟩
  else return ⟨taken, true, .cleared, false, false⟩

/-- The fence on the owner is observed. -/
def observeExisting (existing : Fence) (converged : Bool) : Q Pass := do
  let now ← query .now
  let advance ← check (advanceObservation values existing converged now (absenceDelay cfg))
  if advance.cleared then do
    let later ← query .now
    return ⟨(clearRetirement advance.values (relationKey existing) later).1, advance.changed,
      .cleared, false, false⟩
  else do
    let later ← query .now
    return ⟨advance.values, advance.changed,
      .pending (pendingRetry existing converged later (absenceDelay cfg)),
      existing.operation == .unassign && converged && existing.absenceObservedAt == .absent &&
        absenceDelay cfg == 0, false⟩

/-- The part of the pass that finds a fence on the owner. -/
def resolveExisting : Q Pass := do
  check (failIf (snapshot.relation.ownerUID ≠ snapshot.uid) (.new ("node load balancer: "
    ++ ref.description ++ " firewall relation receipt owner UID " ++ quote snapshot.relation.ownerUID
    ++ " does not match live UID " ++ quote snapshot.uid)))
  let existing ← check (parseFence snapshot.relation.issued)
  let converged ← check (relationConverged existing items)
  if converged then observeExisting cfg snapshot.relation existing true
  else do
    let now ← query .now
    if ← check (retireDue existing now) then retireExisting ref snapshot.relation existing
    else observeExisting cfg snapshot.relation existing false

/-- The VM-absence annotation is dropped. -/
def RelationAnnotations.withoutAbsence : RelationAnnotations :=
  { values with vmAbsent := .none }

/-- Nothing is to be done: what is left of earlier attempts is cleared away. -/
def settleConverged : Q Pass := do
  let now ← query .now
  let (cleared, found) := clearRetirement values.withoutAbsence (relationKey desired) now
  if found ∨ values.vmAbsent ≠ .none then return ⟨cleared, true, .cleared, false, false⟩
  else return ⟨values, false, .converged, false, false⟩

/-- The relation is parked after repeated retirements, or a finished park is
forgotten. -/
def checkParked : Q (RelationAnnotations × Bool) := do
  if ref.parkRetired ∧ values.retired ≠ none then do
    let now ← query .now
    match (parseRetirements values.retired).lookup (relationKey desired) with
    | none => return (values, false)
    | some record =>
      if record.count < parkRetirements then return (values, false)
      else if now < record.since + parkDuration then
        throw (.wrap .relationParked (relationKey desired ++ " on " ++ ref.description))
      else return ((clearRetirement values (relationKey desired) now).1, true)
  else return (values, false)

/-- `parseNodeLoadBalancerFirewallRelationVMAbsence`. -/
def parseVMAbsence (text : AbsenceText) (firewallUUID vmUUID : String) : Except Err (Option Time) :=
  match text with
  | .none => .ok none
  | .other _ => .error (.new
      "node load balancer: firewall relation VM-absence receipt does not match the requested relation")
  | .seen fw vm observed => do
    failIf (fw ≠ firewallUUID ∨ vm ≠ vmUUID) (.new
      "node load balancer: firewall relation VM-absence receipt does not match the requested relation")
    match observed with
    | .at t => return some t
    | _ => .error (.new
        "node load balancer: firewall relation VM-absence receipt has an invalid timestamp")

/-- Whether a relation may be issued now. -/
inductive Ready
  | issue (values : RelationAnnotations) (changed : Bool) (targetAbsentAt : Stamp)
  | wait (values : RelationAnnotations) (changed : Bool) (retryAfter : Time) (again : Bool)

/-- A detach needs the VM owned, or gone for long enough. -/
def readyToUnassign (changed : Bool) (desired : Fence) : Q Ready := do
  let (owned, absent) ← vmCloudAuthority cfg networkUUID desired.vmUUID
  if owned then return .issue values.withoutAbsence (changed || values.vmAbsent != .none) desired.targetAbsentAt
  else do
    check (failIf (absent = false) (.new
      "node load balancer: unassign target VM is neither canonically owned nor absent"))
    let found ← check (parseVMAbsence values.vmAbsent desired.firewallUUID desired.vmUUID)
    let now ← query .now
    match found with
    | none => do
      let seen : AbsenceText := .seen desired.firewallUUID desired.vmUUID (.at now)
      let wait := max (absenceDelay cfg) second
      return .wait { values with vmAbsent := seen } true wait (absenceDelay cfg == 0)
    | some observedAt =>
      if now < observedAt + absenceDelay cfg then
        return .wait values changed (max (observedAt + absenceDelay cfg - now) second) false
      else return .issue values.withoutAbsence true (.at observedAt)

/-- The owner's annotations with a fence under a fresh issue id. -/
def issueRelation (targetAbsentAt : Stamp) : Q Pass := do
  let issueID ← check (← query .token)
  let now ← query .now
  let issued : Fence := { desired with issueID := issueID, issuedAt := .at now,
                                       targetAbsentAt := targetAbsentAt }
  return ⟨{ values with issued := .fence issued, ownerUID := uid }, true, .issued issued, false, false⟩

/-- The part of the pass that wants a relation the cloud does not show. -/
def issueDesired : Q Pass := do
  match desired.operation with
  | .assign => do
    firewallVMCapacityFromItems cfg items desired.firewallUUID desired.vmUUID
    let (values, _) ← checkParked ref snapshot.relation desired
    issueRelation snapshot.uid values.withoutAbsence desired desired.targetAbsentAt
  | .unassign => do
    let (values, changed) ← checkParked ref snapshot.relation desired
    match ← readyToUnassign cfg networkUUID values changed desired with
    | .wait values changed retryAfter again =>
      return ⟨values, changed, .preDispatchProof retryAfter, false, again⟩
    | .issue values _ targetAbsentAt => issueRelation snapshot.uid values desired targetAbsentAt

/-- The part of the pass that finds no fence on the owner. -/
def planDesired (desired : Option Fence) : Q Pass := do
  check (failIf (snapshot.relation.ownerUID ≠ "") (.new ("node load balancer: " ++ ref.description
    ++ " has an orphan firewall relation owner UID receipt " ++ quote snapshot.relation.ownerUID)))
  match desired with
  | none => return ⟨snapshot.relation, false, .converged, false, false⟩
  | some desired => do
    if ← check (relationConverged desired items) then settleConverged snapshot.relation desired
    else issueDesired cfg networkUUID ref snapshot items desired

/-! ### The call -/

/-- A fence whose request never went out is cleared, and the cause reported. -/
def rejectUndispatched {α : Type} (ref : Ref) (uid : String) (issued : Fence) (cause : Err) :
    M α := do
  let rejection := cause.within ("node load balancer: reject " ++ ref.description
    ++ " firewall relation mutation at final pre-dispatch authority")
  match ← attempt (clearFence cfg ref uid issued) with
  | .error e => throw (rejection.join (e.within
      ("node load balancer: clear proven-undispatched " ++ ref.description
        ++ " firewall relation fence")))
  | .ok _ =>
    if cause.is .vmNotHealthy then throw { rejection with kinds := .healthDeferred :: rejection.kinds }
    else throw rejection

/-- Code whose failure means that nothing was dispatched. -/
def orReject {α : Type} (ref : Ref) (uid : String) (issued : Fence) (x : Q α) : M α := do
  match ← attempt (reads x) with
  | .ok a => return a
  | .error e => rejectUndispatched cfg ref uid issued e

/-- The last read of the owner before the call. -/
def requireIssuedReceipt : Q Unit := do
  let owner ← withErr (readOwner cfg ref) (.within "re-read exact issued receipt")
  check (failIf (owner.uid ≠ uid ∨ owner.relation.ownerUID ≠ uid)
    (.new "firewall relation owner UID changed during final authority"))
  match parseFence owner.relation.issued with
  | .error e => throw ((GoError.new "exact issued receipt changed during final authority").join e)
  | .ok fence => check (failIf (¬ sameIssue fence issued)
      (.new "exact issued receipt changed during final authority"))

/-- The race backstop of an attach. -/
def requireAttachCapacity : Q Unit :=
  match issued.operation with
  | .assign => requireFirewallVMCapacity cfg issued.firewallUUID issued.vmUUID
  | .unassign => pure ()

/-- From a committed fence to the permission to call. -/
def authorizeIssued : Q Unit := do
  let before ← check ((exactNodeLoadBalancerFirewallFromItems items issued.firewallUUID).mapError
    (.within ("capture " ++ ref.description ++ " firewall relation issue authority")))
  authorizeRelation cfg networkUUID ref issued before
  requireIssuedReceipt cfg ref uid issued
  requireAttachCapacity cfg issued

/-- What is remembered of an acknowledged call. -/
def noteAcknowledged : M Unit :=
  match issued.operation with
  | .assign => do
    let now ← look .now
    ask (.rememberFirewallAssign issued.vmUUID issued.firewallUUID now)
  | .unassign => ask (.forgetFirewallAssign issued.vmUUID issued.firewallUUID)

/-- After a call that reported an error: it may still have committed. -/
def observeFailedCall (mutationErr : Err) : M Bool := do
  if mutationKnownPreDispatch mutationErr then do
    let blocked := mutationErr.within ("node load balancer: " ++ ref.description
      ++ " firewall relation mutation was blocked before dispatch")
    match ← attempt (clearFence cfg ref uid issued) with
    | .error e => throw (blocked.join e)
    | .ok _ => throw blocked
  else do
    match ← look (.listFirewalls .relationReadback) with
    | .error e => throw ((mutationErr.within ("node load balancer: " ++ ref.description
        ++ " firewall relation mutation returned an error")).join
          (e.within "node load balancer: authoritative firewall relation readback"))
    | .ok items => do
      let now ← look .now
      match ← attempt (observeIssue cfg ref uid issued items now) with
      | .error e => throw (mutationErr.join e)
      | .ok true => return false
      | .ok false => throw (mutationErr.within ("node load balancer: " ++ ref.description
          ++ " firewall relation mutation is ambiguous"))

/-- From a committed fence to the call and its readback; `readback` is the pass
without a desired relation. -/
def dispatchIssued (readback : M Bool) : M Bool := do
  orReject cfg ref uid issued (authorizeIssued cfg networkUUID ref uid items issued)
  match ← ask (.relate ref issued) with
  | .error mutationErr => observeFailedCall cfg ref uid issued mutationErr
  | .ok _ => do
    noteAcknowledged issued
    let _ ← readback
    return false

/-- The last look at a converged relation: the receipt has not changed. -/
def confirmConverged : Q Bool := do
  let final ← withErr (readOwner cfg ref) (.within ("node load balancer: re-read converged "
    ++ ref.description ++ " firewall relation owner"))
  check (failIf (final.uid ≠ snapshot.uid) (.new
    "node load balancer: firewall relation owner UID changed during converged readback"))
  check (failIf (final.relation.issued ≠ snapshot.relation.issued ∨
      final.relation.ownerUID ≠ snapshot.relation.ownerUID ∨
      final.relation.vmAbsent ≠ snapshot.relation.vmAbsent) (.new
    "node load balancer: firewall relation receipt changed during converged readback"))
  return true

/-- A receipt of before owner UIDs were recorded is bound to its owner. -/
def bindLegacyReceipt : M Bool := do
  let _ ← check (parseFence snapshot.relation.issued)
  withErr (commitRelation cfg ref snapshot { snapshot.relation with ownerUID := snapshot.uid })
    (.within ("node load balancer: bind legacy " ++ ref.description
      ++ " firewall relation receipt to owner UID"))
  return false

/-- What a pass has decided is stored. -/
def commitPass (pass : Pass) : M Unit :=
  if pass.changed then
    withErr (commitRelation cfg ref snapshot pass.values) (.within ("node load balancer: persist "
      ++ ref.description ++ " firewall relation fence"))
  else pure ()

/-- The end of a pass, once its annotations are stored. -/
def endPass (outcome : Outcome) (readback : M Bool) : M Bool :=
  match outcome with
  | .converged => reads (confirmConverged cfg ref snapshot)
  | .pending retryAfter => throw (pendingError retryAfter ("node load balancer: "
      ++ ref.description ++ " firewall relation mutation remains ambiguous; waiting for "
      ++ "authoritative cloud readback"))
  | .preDispatchProof retryAfter => throw (pendingError retryAfter
      "node load balancer: waiting for spaced exact VM-absence authority before firewall detach")
  | .cleared => pure false
  | .issued fence => dispatchIssued cfg networkUUID ref snapshot.uid items fence readback

/-- A pass decides on the owner's annotations. -/
def decidePass (desired : Option Fence) : Q Pass :=
  if snapshot.relation.issued ≠ .none then resolveExisting cfg ref snapshot items
  else planDesired cfg networkUUID ref snapshot items desired

/-- `reconcileNodeLoadBalancerFirewallRelation`; `rounds` bounds how often it
calls itself. -/
def reconcileRelation : ℕ → Option Fence → M Bool
  | 0, _ => outOfRounds
  | rounds + 1, desired => do
    let snapshot ← withErr (reads (readOwner cfg ref)) (.within ("node load balancer: read "
      ++ ref.description ++ " firewall relation owner"))
    check (failIf (snapshot.uid = "") (.new ("node load balancer: " ++ ref.description
      ++ " firewall relation owner has an empty UID")))
    if snapshot.relation.issued ≠ .none ∧ snapshot.relation.ownerUID = "" then
      bindLegacyReceipt cfg ref snapshot
    else do
      let items ← check ((← look (.listFirewalls .relation)).mapError (.within
        ("node load balancer: list firewalls for " ++ ref.description ++ " relation fence")))
      let pass ← reads (decidePass cfg networkUUID ref snapshot items desired)
      commitPass cfg ref snapshot pass
      if pass.confirm then reconcileRelation rounds none
      else if pass.proofAgain then reconcileRelation rounds desired
      else endPass cfg networkUUID ref snapshot items pass.outcome <| reconcileRelation rounds none

end InSpaceKube.NodeLB.Receipts
