/-
InSpaceKube/NodeLB/ReceiptOps.lean

Objects and requests of the code that changes firewalls in the cloud.

Every such change is made under a receipt: an annotation on the Kubernetes
object that owns the change says what has been asked for, under which issue
id and since when.  There are two kinds.

* An attach or a detach of a firewall has a relation fence (`Fence`) on its
  owner: a Service, a NodePool, a NodeClass, or the anchor of a VM.
* A create, a PUT, a rename or a delete of a per-VM firewall has a `Receipt`
  on the anchor, the ConfigMap of that VM.

`Object` is such an owner, with the annotations this code reads or writes.
Texts of annotations are kept decoded: a value, or the fact that the text does
not decode.  Objects are stored with a resource version, and every write is an
update that names the version it was made from.

The requests at the end are all the code asks of the outside.  Where a request
goes out under a receipt, the receipt is part of it: the provider sees only the
rest.  A listing says which function asked for it.
-/
import InSpaceKube.NodeLB.VMLedger
import InSpaceKube.Prog.Basic

namespace InSpaceKube.NodeLB.Receipts

open Prog

/-! ### Relation fences -/

inductive RelationOperation
  | assign | unassign
deriving DecidableEq, Repr

/-- `nodeLoadBalancerFirewallRelationFence`. -/
structure Fence where
  operation : RelationOperation
  firewallUUID : String
  vmUUID : String
  issueID : String
  issuedAt : Stamp
  targetAbsentAt : Stamp
  absenceObservedAt : Stamp
deriving DecidableEq, Repr

/-- The text of the fence annotation. -/
inductive FenceText
  | none | fence (f : Fence) | other (text : String)
deriving DecidableEq, Repr

/-- The text of the VM-absence annotation. -/
inductive AbsenceText
  | none | seen (firewallUUID vmUUID : String) (observedAt : Stamp) | other (text : String)
deriving DecidableEq, Repr

/-- `nodeLoadBalancerFirewallRelationRetirement`. -/
structure Retirement where
  count : ℕ
  since : Time
deriving DecidableEq, Repr

/-- The annotations of the relation fence.  A retirement record that does not
decode counts as an empty one. -/
structure RelationAnnotations where
  issued : FenceText
  ownerUID : String
  vmAbsent : AbsenceText
  retired : Option (List (String × Retirement))
deriving DecidableEq, Repr

/-! ### Anchors -/

/-- `vmFirewallOp`, as the annotation holds it. -/
inductive PendingOp
  | none | create | update | delete | adopt | unadopt | other (text : String)
deriving DecidableEq, Repr

def PendingOp.text : PendingOp → String
  | .none => ""
  | .create => "create"
  | .update => "update"
  | .delete => "delete"
  | .adopt => "adopt"
  | .unadopt => "unadopt"
  | .other text => text

/-- The annotations of `vmFirewallReceiptKeys`. -/
structure Receipt where
  pending : LedgerText
  pendingHash : String
  pendingOp : PendingOp
  pendingAt : Stamp
  issuedAt : Stamp
  issueID : String
  adoptUUID : String
deriving DecidableEq, Repr

/-- All of them deleted. -/
def Receipt.none : Receipt := ⟨.none, "", .none, .absent, .absent, "", ""⟩

/-- The text of the absence counter. -/
inductive CountText
  | none | count (n : ℤ) | other (text : String)
deriving DecidableEq, Repr

inductive MigrationDirection
  | forward | reverse
deriving DecidableEq, Repr

inductive MigrationPhase
  | planned | opened | detaching | aborting | done
deriving DecidableEq, Repr

inductive MigrationStrategy
  | headroom | adopt
deriving DecidableEq, Repr

/-- `vmFirewallMigrationSource`. -/
structure MigrationSource where
  firewall : String
  uid : String
  policy : String
deriving DecidableEq, Repr

/-- `vmFirewallMigrationPlan`. -/
structure MigrationPlan where
  direction : MigrationDirection
  phase : MigrationPhase
  strategy : MigrationStrategy
  sources : List MigrationSource
  adoptee : String
  openedAt : Stamp
deriving DecidableEq, Repr

inductive MigrationText
  | none | plan (p : MigrationPlan) | other (text : String)
deriving DecidableEq, Repr

/-- The other annotations of an anchor. -/
structure AnchorAnnotations where
  vm : String
  uuid : String
  applied : LedgerText
  appliedHash : String
  appliedAt : Stamp
  attachedAt : Stamp
  receipt : Receipt
  deleteTarget : String
  deleteIssued : Stamp
  absenceCount : CountText
  absenceCheckedAt : Stamp
  repair : Bool
  migration : MigrationText
deriving DecidableEq, Repr

/-- An owner of receipts.  `finalizer`: the anchor finalizer is on it. -/
structure Object where
  version : ℕ
  uid : String
  finalizer : Bool
  relation : RelationAnnotations
  fw : AnchorAnnotations
deriving DecidableEq, Repr

/-- The same object with other annotations of the relation fence. -/
def Object.withRelation (o : Object) (values : RelationAnnotations) : Object :=
  { o with relation := values }

/-- The same object with another receipt. -/
def Object.withReceipt (o : Object) (r : Receipt) : Object :=
  { o with fw := { o.fw with receipt := r } }

/-- Annotations are equal (`mapsEqualStringString`). -/
def Object.sameAnnotations (o o' : Object) : Bool := o.relation == o'.relation && o.fw == o'.fw

/-- The owners of relation fences other than anchors. -/
inductive OwnerKind
  | service | nodePool | nodeClass
deriving DecidableEq, Repr

def OwnerKind.noun : OwnerKind → String
  | .service => "Service"
  | .nodePool => "NodePool"
  | .nodeClass => "InSpaceNodeClass"

/-- Names of objects: the anchor of a VM, or an owner of another kind. -/
inductive Ref
  | anchor (vmUUID : String)
  | owner (kind : OwnerKind) (name : String)
deriving DecidableEq, Repr

/-- `description` of the owner. -/
def Ref.description : Ref → String
  | .anchor vmUUID => "VM firewall anchor " ++ vmUUID
  | .owner kind name => kind.noun ++ " " ++ name

/-- `parkRetired` of the owner. -/
def Ref.parkRetired : Ref → Bool
  | .anchor _ => true
  | .owner kind _ => kind == .service

/-! ### The cloud's VMs -/

structure CloudVM where
  uuid : String
  status : String
  billingAccountID : ℤ
  networkUUID : String
deriving DecidableEq, Repr

/-- A network; `none` is an omitted membership. -/
structure Network where
  uuid : String
  vmUUIDs : Option (List String)
deriving DecidableEq, Repr

/-! ### Requests -/

/-- `vmFirewallDelta`: one member comes or goes.  `ledgerOnly` is for a VM that is
gone: no PUT is made. -/
structure VMDelta where
  add : Option VMMember
  remove : Option VMMemberKey
  ledgerOnly : Bool

/-- Who lists firewalls. -/
inductive Reader
  | vmFirewallStep | runMutation | deleteVMFirewall | repair | resolve | exactFresh | nameFresh
  | relation | relationReadback | capacity | adopt | unadopt
deriving DecidableEq, Repr

/-- The answer to an update. -/
inductive Written
  | ok (o : Object) | conflict (e : Err) | failed (e : Err)

/-- The answer to a create. -/
inductive Created
  | ok (o : Object) | exists | failed (e : Err)

/-- A change of a per-VM firewall that goes out under the receipt of an anchor. -/
inductive Put
  | create (request : CreateFirewallRequest)
  | update (uuid : String) (request : UpdateFirewallRequest)
deriving DecidableEq, Repr

/-- Requests that read. -/
inductive Query
  -- the owners
  | get (ref : Ref)
  -- the process
  | now
  /-- `newNodeLoadBalancerFirewallCreateIssuedToken`. -/
  | token
  | recentFirewallAssignsFor (vmUUID : String) (now : Time)
  -- the cloud
  | listFirewalls (reader : Reader)
  | getVM (vmUUID : String)
  | listVMs
  | getNetwork
  -- authorities that other parts of the controller derive from live state
  /-- `authorize` of a Service, a NodePool or a NodeClass. -/
  | authorizeOwner (ref : Ref) (fence : Fence) (before : Firewall)
  /-- The Node of the VM is unique and healthy. -/
  | authorizeNode (vmUUID : String)
  /-- `vmFirewallDeltaAuthority` of a step. -/
  | authorizeDelta (delta : VMDelta) (anchor : Object) (fresh : Option Firewall)
  /-- `validateVMFirewallMigrationSources`, on fresh reads. -/
  | authorizeSources (vmUUID : String) (plan : MigrationPlan)
  /-- The checks of `authorizeVMFirewallUnadopt` on the members' Services. -/
  | authorizeMembers (vmUUID : String) (plan : MigrationPlan) (applied : VMLedger)
  /-- `reverseMemberChanged` and `desiredServiceFirewall` of a member's Service. -/
  | steadyService (source : MigrationSource)
  /-- The sources of a plan whose Service is there and not being deleted. -/
  | liveSources (plan : MigrationPlan)
  /-- `vmFirewallReverseSettleRemaining`. -/
  | reverseSettleRemaining (plan : MigrationPlan)

abbrev Answer : Query → Type
  | .get _ => Except Err (Option Object)
  | .now => Time
  | .token => Except Err String
  | .recentFirewallAssignsFor _ _ => List String
  | .listFirewalls _ => Except Err (List Firewall)
  | .getVM _ => Except Err (Option CloudVM)
  | .listVMs => Except Err (List CloudVM)
  | .getNetwork => Except Err (Option Network)
  | .authorizeOwner _ _ _ | .authorizeNode _ | .authorizeDelta _ _ _ | .authorizeSources _ _
  | .authorizeMembers _ _ _ => Except Err Unit
  | .steadyService _ => Except Err DesiredFirewall
  | .liveSources _ => Except Err (List MigrationSource)
  | .reverseSettleRemaining _ => Time

/-- All requests. -/
inductive Op
  | read (q : Query)
  -- the owners
  | update (ref : Ref) (o : Object)
  | create (vmUUID : String) (o : Object)
  | delete (vmUUID uid : String)
  -- the process
  | rememberFirewallAssign (vmUUID firewallUUID : String) (now : Time)
  | forgetFirewallAssign (vmUUID firewallUUID : String)
  -- the cloud, under the receipt of an owner
  | relate (ref : Ref) (fence : Fence)
  | put (vmUUID : String) (receipt : Receipt) (change : Put)
  | deleteFirewall (uuid : String)
  /-- The Service of a committed rename records the firewall as its own. -/
  | recordOwnFirewall (uid firewallUUID policy : String)
  /-- `stampVMFirewallReverseDone`: the other anchors remember the end. -/
  | stampReverseDone

abbrev Reply : Op → Type
  | .read q => Answer q
  | .update _ _ => Written
  | .create _ _ => Created
  | .rememberFirewallAssign _ _ _ | .forgetFirewallAssign _ _ => Unit
  | .delete _ _ | .relate _ _ | .put _ _ _ | .deleteFirewall _ | .recordOwnFirewall _ _ _
  | .stampReverseDone => Except Err Unit

/-- Code that only reads. -/
abbrev Q := ExceptT Err (Prog Query Answer)

/-- Code of this part. -/
abbrev M := ExceptT Err (Prog Op Reply)

/-- One reading request. -/
abbrev query (q : Query) : Q (Answer q) := perform q

/-- Issue one request. -/
abbrev ask (op : Op) : M (Reply op) := perform op

/-- One reading request among others. -/
abbrev look (q : Query) : M (Answer q) := ask (.read q)

/-- Code that only reads, as a part of other code. -/
def reads {α : Type} (x : Q α) : M α := ExceptT.mk (x.run.embed Op.read fun _ r => r)

/-! ### Time -/

/-- `nodeLoadBalancerShardFirewallMutationTimeout`. -/
def mutationTimeout : Time := 300 * second

/-- `nodeLoadBalancerAbsenceConfirmationDelay`. -/
def absenceConfirmationDelay : Time := 30 * second

/-- `nodeLoadBalancerFirewallRelationRetireDelay`. -/
def retireDelay : Time := mutationTimeout + absenceConfirmationDelay

/-- `nodeLoadBalancerRetry`. -/
def retry : Time := 10 * second

/-- `nodeLoadBalancerAbsenceConfirmations`. -/
def absenceConfirmations : ℤ := 3

variable (cfg : Config)

/-- `nodeLoadBalancerFirewallRelationAbsenceDelay`. -/
def absenceDelay : Time :=
  if cfg.firewallRelationAbsentDelay < 0 then absenceConfirmationDelay
  else cfg.firewallRelationAbsentDelay

/-- `vmFirewallWait`, and every other `nodeLoadBalancerFirewallRelationPendingError`. -/
def pendingError (retryAfter : Time) (text : String) : Err := ⟨[.pending retryAfter], text⟩

def vmFirewallWait (retryAfter : Time) (text : String) : Err :=
  pendingError (max retryAfter second) text

variable (vmUUID : String)

def vmFirewallDrift (text : String) : Err := .wrap .drift ("VM " ++ vmUUID ++ ": " ++ text)

/-! ### Reading and writing an anchor -/

def vmFirewallNamespace : Except Err Unit :=
  failIf (trimSpace cfg.controllerNamespace = "")
    (.wrap .namespaceMissing "public-node-local: CCM namespace is not configured")

def vmFirewallAnchorName : String := "inlb-vmfw-" ++ vmUUID

def validateVMFirewallAnchorVMUUID : Except Err Unit :=
  failIf (¬ uuidPattern vmUUID)
    (.new ("VM UUID " ++ quote vmUUID ++ " must be a lowercase canonical UUID"))

/-- `validateVMFirewallAnchor`: the annotation names the VM.  Namespace, name and
labels are what the request is made by. -/
def validateVMFirewallAnchor (o : Object) : Except Err Unit :=
  failIf (o.fw.vm ≠ vmUUID) (corruptVMFirewallLedger ("anchor " ++ vmFirewallAnchorName vmUUID
    ++ " names VM " ++ quote o.fw.vm ++ ", want " ++ quote vmUUID))

def getVMFirewallAnchor : Q (Option Object) := do
  check (vmFirewallNamespace cfg)
  check (validateVMFirewallAnchorVMUUID vmUUID)
  match ← query (.get (.anchor vmUUID)) with
  | .error e => throw (e.within ("public-node-local: read VM firewall anchor of " ++ vmUUID))
  | .ok none => return none
  | .ok (some o) => do
    check (validateVMFirewallAnchor vmUUID o)
    return some o

/-- The empty anchor of a VM. -/
def emptyAnchor : Object where
  version := 0
  uid := ""
  finalizer := true
  relation := ⟨.none, "", .none, none⟩
  fw := ⟨vmUUID, "", .none, "", .absent, .absent, .none, "", .absent, .none, .absent, false, .none⟩

def createVMFirewallAnchor : M Object := do
  check (vmFirewallNamespace cfg)
  check (validateVMFirewallAnchorVMUUID vmUUID)
  match ← ask (.create vmUUID (emptyAnchor vmUUID)) with
  | .exists => do
    match ← reads (getVMFirewallAnchor cfg vmUUID) with
    | none => throw (.new ("public-node-local: VM firewall anchor of " ++ vmUUID
        ++ " vanished while it was being created"))
    | some existing => return existing
  | .failed e => throw (e.within ("public-node-local: create VM firewall anchor of " ++ vmUUID))
  | .ok created => do
    check (validateVMFirewallAnchor vmUUID created)
    return created

/-- The end of a write: it is read back and must match. -/
def readBackAnchor (anchor next updated : Object) : Q (Object × Bool) := do
  let name := vmFirewallAnchorName vmUUID
  match ← query (.get (.anchor vmUUID)) with
  | .error e => throw (e.within ("public-node-local: read back VM firewall anchor " ++ name))
  | .ok none => throw (.wrap .notFound ("public-node-local: read back VM firewall anchor " ++ name))
  | .ok (some verified) => do
    check (failIf (verified.uid ≠ anchor.uid ∨ updated.uid ≠ anchor.uid)
      (.new ("public-node-local: VM firewall anchor " ++ name
        ++ " identity changed during the update")))
    check (failIf (verified.version ≠ updated.version ∨ ¬ verified.sameAnnotations next)
      (.new ("public-node-local: VM firewall anchor " ++ name ++ " failed exact readback")))
    return (verified, true)

/-- The second attempt of `updateVMFirewallAnchor`, on the fresh object. -/
def retryVMFirewallAnchor (anchor : Object)
    (mutate : Object → Except Err (Option Object)) : M (Object × Bool) := do
  let name := vmFirewallAnchorName vmUUID
  match ← look (.get (.anchor vmUUID)) with
  | .error e => throw (e.within ("public-node-local: re-read VM firewall anchor " ++ name
      ++ " after a conflict"))
  | .ok none => throw (.wrap .notFound ("public-node-local: re-read VM firewall anchor " ++ name
      ++ " after a conflict"))
  | .ok (some fresh) => do
    check (failIf (fresh.uid ≠ anchor.uid)
      (.new ("public-node-local: VM firewall anchor " ++ name ++ " identity changed")))
    match ← check (mutate fresh) with
    | none => return (fresh, false)
    | some next => do
      match ← ask (.update (.anchor vmUUID) next) with
      | .conflict e => throw (e.within ("public-node-local: update VM firewall anchor " ++ name))
      | .failed e => throw (e.within ("public-node-local: update VM firewall anchor " ++ name))
      | .ok updated => reads (readBackAnchor vmUUID anchor next updated)

/-- `updateVMFirewallAnchor`: `mutate` gives the changed object, if it changes
anything.  The result says whether there was a write. -/
def updateVMFirewallAnchor (anchor : Object)
    (mutate : Object → Except Err (Option Object)) : M (Object × Bool) := do
  check (vmFirewallNamespace cfg)
  match ← check (mutate anchor) with
  | none => return (anchor, false)
  | some next => do
    match ← ask (.update (.anchor vmUUID) next) with
    | .conflict _ => retryVMFirewallAnchor vmUUID anchor mutate
    | .failed e => throw (e.within ("public-node-local: update VM firewall anchor "
        ++ vmFirewallAnchorName vmUUID))
    | .ok updated => reads (readBackAnchor vmUUID anchor next updated)

end InSpaceKube.NodeLB.Receipts
