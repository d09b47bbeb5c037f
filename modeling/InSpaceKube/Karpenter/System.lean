/-
InSpaceKube/Karpenter/System.lean

The API server the provider replicas share, as far as one NodeClaim goes.

* Reads show the stored object, or fail.
* An update is a compare-and-swap on the resource version.  Its error says
  nothing: the update may have been applied, may never be, or may still be
  under way and be applied later, if the version still fits by then.
* Everybody else may edit the object at any time: status and spec, labels and
  finalizers, the other annotations, and those parts of the fence that none of
  the modelled operations decides.  A fence is removed only from an object
  that is being deleted.
* The object may disappear, and another may be created under its name, with a
  UID of its own.

`issued` remembers whose update moved which object's fence from reserved to
issued.
-/
import InSpaceKube.Karpenter.CreateFence
import InSpaceKube.Prog.Threads
import InSpaceKube.Prog.Versioned

namespace InSpaceKube.Karpenter

/-- The versions of NodeClaims. -/
def claimStamp : Stamp NodeClaim where
  version := NodeClaim.resourceVersion
  stamp n o := { o with resourceVersion := n }
  version_stamp _ _ := rfl

/-! ### What the statements say of a stored fence -/

/-- The phase of a stored fence, if there is a record. -/
def AnnotationValue.phase : AnnotationValue CreateFenceRecord → Option Phase
  | .record r => some r.phase
  | _ => none

/-- Its issue ID, empty if there is none. -/
def AnnotationValue.issueID : AnnotationValue CreateFenceRecord → String
  | .record r => r.issueID
  | _ => ""

/-- The UUID of the VM it is anchored to, empty if there is none. -/
def AnnotationValue.createdVMUUID : AnnotationValue CreateFenceRecord → String
  | .record r => r.createdVMUUID
  | _ => ""

/-- Rollback has been chosen. -/
def AnnotationValue.rollbackChosen : AnnotationValue CreateFenceRecord → Bool
  | .record r => r.rollbackAt.isSome
  | _ => false

/-- The same in all of these. -/
structure SameCore (a a' : AnnotationValue CreateFenceRecord) : Prop where
  phase : a'.phase = a.phase
  issueID : a'.issueID = a.issueID
  createdVMUUID : a'.createdVMUUID = a.createdVMUUID
  rollbackChosen : a'.rollbackChosen = a.rollbackChosen

/-! ### The shared state -/

structure State where
  object : Option NodeClaim
  revision : ℕ
  pending : List (Tid × NodeClaim)
  used : List String
  issued : List (String × Tid)

/-- The update from `current` to `copy` issues the create attempt. -/
def issues (current copy : NodeClaim) : Bool :=
  current.createFence.phase == some .reserved && copy.createFence.phase == some .issued

/-- The object is stored under the next resource version. -/
def State.store (s : State) (o : NodeClaim) : State :=
  { s with object := some { o with resourceVersion := s.revision + 1 }, revision := s.revision + 1 }

/-- The update of `t` is applied to `current`. -/
def State.apply (s : State) (t : Tid) (current copy : NodeClaim) : State :=
  { s.store copy with
    issued := if issues current copy then (copy.uid, t) :: s.issued else s.issued }

/-- The update `copy` is one of the object `current`. -/
def Fits (current copy : NodeClaim) : Prop :=
  current.name = copy.name ∧ current.uid = copy.uid ∧ current.resourceVersion = copy.resourceVersion

/-- The effect of a request. -/
def exec (t : Tid) : (op : Op) → State → Reply op → State → Prop
  | .get name, s, r, s' =>
    s' = s ∧ ∀ o, r = .ok o → s.object = some o ∧ o.name = name
  | .update copy, s, r, s' =>
    (∃ current, s.object = some current ∧ Fits current copy ∧ s' = s.apply t current copy) ∨
    (r ≠ none ∧ (s' = s ∨ s' = { s with pending := (t, copy) :: s.pending }))
  | .now, s, _, s' => s' = s
  | .nonce, s, _, s' => s' = s

theorem exec_get (t : Tid) {s : State} {o : NodeClaim} {name : String}
    (hobject : s.object = some o) (hname : o.name = name) :
    exec t (.get name) s (.ok o) s :=
  ⟨rfl, fun _ h => Except.ok.inj h ▸ ⟨hobject, hname⟩⟩

/-- What happens without the store. -/
inductive Env : State → State → Prop
  /-- An update that was under way is applied. -/
  | deliver (s : State) (t : Tid) (current copy : NodeClaim) :
      (t, copy) ∈ s.pending → s.object = some current → Fits current copy →
      Env s (s.apply t current copy)
  /-- Somebody else edits the object. -/
  | edit (s : State) (current o : NodeClaim) :
      s.object = some current → o.name = current.name → o.uid = current.uid →
      (current.deleting → o.deleting) →
      SameCore current.createFence o.createFence ∨ (o.deleting ∧ o.createFence = .absent) →
      Env s (s.store o)
  /-- The object is gone. -/
  | remove (s : State) : Env s { s with object := none, revision := s.revision + 1 }
  /-- A NodeClaim is created. -/
  | create (s : State) (o : NodeClaim) :
      s.object = none → o.uid ∉ s.used → Env s { s.store o with used := o.uid :: s.used }

/-- The system of stores over this world. -/
def sem : Sem State Op Reply := ⟨exec, Env⟩

/-- Nothing has been asked for yet; the object, if there is one, is arbitrary. -/
def Initial (s : State) : Prop :=
  s.pending = [] ∧ s.issued = [] ∧
    ∀ o, s.object = some o → o.resourceVersion ≤ s.revision ∧ o.uid ∈ s.used

/-! ### Invocations -/

/-- One operation of a store. -/
inductive Call
  | get (claim : NodeClaim) (binding : CreateFenceBinding) (cleanup : CreateFenceCleanupIdentity)
  | ensure (claim : NodeClaim) (binding : CreateFenceBinding)
      (cleanup : CreateFenceCleanupIdentity) (baseline : CreateInventory)
  | authorize (claim : NodeClaim) (binding : CreateFenceBinding) (token : String)
      (intent : CreateAuthorizationKind)
  | recordCreatedVM (claim : NodeClaim) (binding : CreateFenceBinding)
      (token issueID vmUUID : String)
  | chooseRollback (claim : NodeClaim) (binding : CreateFenceBinding)
      (token issueID vmUUID : String) (resolution : Option FencedCreateCleanupResolution)
  | markRejected (claim : NodeClaim) (binding : CreateFenceBinding) (token issueID : String)
  | markMaterialized (claim : NodeClaim) (binding : CreateFenceBinding) (token : String)
      (vm : Option VM)

/-- What it returns when it does not fail. -/
inductive Outcome
  | got (claim : NodeClaim) (fence : Option CreateFence)
  | ensured (claim : NodeClaim) (fence : CreateFence) (acquired : Bool)
  | authorized (uid : String) (claim : NodeClaim) (err : Option Err)
  | marked (claim : NodeClaim)

/-- Its code. -/
def Call.code (s : Store) : Call → Code Outcome
  | .get claim binding cleanup => do
    let (current, fence) ← s.get claim binding cleanup
    pure (.got current fence)
  | .ensure claim binding cleanup baseline => do
    let (current, fence, acquired) ← s.ensure claim binding cleanup baseline
    pure (.ensured current fence acquired)
  | .authorize claim binding token intent => do
    let (current, err) ← s.authorize claim binding token intent
    pure (.authorized claim.uid current err)
  | .recordCreatedVM claim binding token issueID vmUUID => do
    let current ← s.recordCreatedVM claim binding token issueID vmUUID
    pure (.marked current)
  | .chooseRollback claim binding token issueID vmUUID resolution => do
    let current ← s.chooseRollback claim binding token issueID vmUUID resolution
    pure (.marked current)
  | .markRejected claim binding token issueID => do
    let current ← s.markRejected claim binding token issueID
    pure (.marked current)
  | .markMaterialized claim binding token vm => do
    let current ← s.markMaterialized claim binding token vm
    pure (.marked current)

/-- The invocations of the statements: any operation of any store. -/
def Calls (_ : Tid) (p : Prog Op Reply (Except Err Outcome)) : Prop :=
  ∃ s : Store, ∃ call : Call, p = (call.code s).run

/-! ### A small world

The objects of the concrete runs. -/

def workerBinding : CreateFenceBinding :=
  { nodeClaimUID := "uid-1", idempotencyKeyHash := "key", requestHash := "request",
    specHash := "spec", bootstrapHash := "bootstrap" }

def workerCleanup : CreateFenceCleanupIdentity :=
  { clusterName := "prod", location := "bkk01", networkUUID := "vpc", nodePoolName := "",
    controlPlaneVIP := "10.0.0.2", privateLoadBalancerPoolStart := "10.0.0.10",
    privateLoadBalancerPoolStop := "10.0.0.20", firewallUUID := "base-firewall",
    firewallProfile := .privateWorker, nodeClaimName := "worker", vmName := "worker-vm",
    billingAccountID := 1, ownershipKeyHash := "00000000000000000000000000000000" }

/-- A NodeClaim on which no fence has been put yet. -/
def workerClaim : NodeClaim :=
  { name := "worker", uid := "uid-1", resourceVersion := 1, generation := 1, spec := "",
    nodePool := "general", deleting := false, finalizers := [terminationFinalizer],
    createFence := .absent, floatingIPUpdate := .absent, removalMutation := .absent }

/-- The fence an Ensure at time 1 puts on it. -/
def workerRecord : CreateFenceRecord :=
  newCreateFenceRecord workerBinding workerCleanup {} 1 "token"

/-- The NodeClaim with that fence, at version 2. -/
def fencedWorker : NodeClaim :=
  { workerClaim.withFence workerBinding workerRecord with resourceVersion := 2 }

/-- The record an Authorize at time 2 writes on it. -/
def issuedWorkerRecord : CreateFenceRecord :=
  issueRecord workerRecord
    { firewallUUID := workerCleanup.firewallUUID, phase := .intent, intentAt := 1 } .post 2
    "0123456789abcdef0123456789abcdef" "fedcba9876543210fedcba9876543210"

/-- The state in which the NodeClaim has just been created. -/
def workerState : State :=
  { object := some workerClaim, revision := 1, pending := [], used := ["uid-1"], issued := [] }

theorem initial_workerState : Initial workerState := by
  refine ⟨rfl, rfl, fun o ho => ?_⟩
  obtain rfl := Option.some.inj ho
  exact ⟨le_refl _, List.mem_singleton.2 rfl⟩

end InSpaceKube.Karpenter
