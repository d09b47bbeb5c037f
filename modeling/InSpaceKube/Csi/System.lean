/-
InSpaceKube/Csi/System.lean

The world the adapters share: the fence store and the provider's disks, with
the history the statements speak of.

* The fence store is atomic: one request, one operation of `FenceStore`.
* A `CreateDisk` that reaches the network is *dispatched*.  Its reply is
  arbitrary and says nothing.  The provider may commit it at any later time,
  as a disk of the requested name with a fresh UUID, or never.
* A `DeleteDisk` that reaches the network is dispatched; the provider may
  remove the disk at any later time, or never.
* `ListDisks` and `GetDisk` are linearizable: they show the inventory of the
  moment, or fail.  What they have shown is remembered in `observed`.  A disk
  that is gone may still be read, as a tombstone.
* The VM and network reads, clocks, timers and deadlines reply anything: no
  statement needs more of them.
* The provider moves disks through their statuses and may change whatever is
  not their identity.  Outside actors may do as they like with disks whose
  name is in `outside`.
* An attempt token is drawn once; `drawn` remembers by whom.

`Dispatch.fence` is the fence the dispatching invocation had acquired.
-/
import InSpaceKube.Csi.Adapter
import InSpaceKube.Prog.Threads

namespace InSpaceKube.Csi

/-- A `CreateDisk` request that reached the network. -/
structure Dispatch where
  tid : Tid
  fence : Option MutationFence
  location : String
  request : CreateDiskRequest

/-- A disk the provider has created for the dispatch with the given index. -/
structure Commit where
  dispatch : ℕ
  location : String
  name : String
  uuid : String
deriving DecidableEq

/-- The shared state. -/
structure State where
  fences : FenceStore
  disks : String → List Disk
  deletes : List (String × String)
  drawn : List (Tid × ℕ)
  acquired : Tid → Option MutationFence
  dispatches : List Dispatch
  commits : List Commit
  observed : List (String × String)

/-- Something has been shown to an adapter. -/
def State.observe (s : State) (o : List (String × String)) : State :=
  { s with observed := o ++ s.observed }

/-- What identifies a disk of the inventory. -/
def Disk.identity (d : Disk) : String × String := (toLower d.uuid, d.displayName)

/-- Nothing has happened yet; the inventory holds only disks of outside actors. -/
def Initial (outside : String → Prop) (s : State) : Prop :=
  (∀ key, s.fences key = none) ∧ (∀ location, ∀ d ∈ s.disks location, outside d.displayName) ∧
  s.deletes = [] ∧ s.drawn = [] ∧ s.dispatches = [] ∧ s.commits = [] ∧ ∀ t, s.acquired t = none

/-- The effect of a request.  A request that is neither of the store nor a
mutation leaves the state as it is and may be answered by anything. -/
def exec (t : Tid) : (op : Op) → State → Reply op → State → Prop
  | .listDisks location, s, r, s' =>
    match r with
    | .ok disks => disks = s.disks location ∧
        s' = s.observe (disks.map fun d => (location, toLower d.uuid))
    | .error _ => s' = s
  | .getDisk location diskUUID, s, r, s' =>
    let missing := ∀ e ∈ s.disks location, toLower e.uuid ≠ toLower diskUUID
    match r with
    | .ok (some d) =>
      (d ∈ s.disks location ∧ toLower d.uuid = toLower diskUUID ∧
        s' = s.observe [(location, toLower d.uuid)]) ∨
      (diskDeletedTombstone d = true ∧ missing ∧ s' = s)
    | .error .notFound => missing ∧ s' = s
    | _ => s' = s
  | .createDisk location request, s, r, s' =>
    (r = .error .mutationBlocked ∧ s' = s) ∨
    (r ≠ .error .mutationBlocked ∧
      s' = { s with dispatches := s.dispatches ++ [⟨t, s.acquired t, location, request⟩] })
  | .deleteDisk location diskUUID, s, r, s' =>
    (r = .error .mutationBlocked ∧ s' = s) ∨
    (r ≠ .error .mutationBlocked ∧ s' = { s with deletes := (location, diskUUID) :: s.deletes })
  | .fenceGet key, s, r, s' => r = s.fences key ∧ s' = s
  | .fenceList pre, s, r, s' =>
    (∀ fence, fence ∈ r ↔ hasPrefix fence.key pre ∧ s.fences fence.key = some fence) ∧ s' = s
  | .fenceCreate fence, s, r, s' =>
    r = ((s.fences.create fence).1, (s.fences.create fence).2.1) ∧
    s' = { s with
      fences := (s.fences.create fence).2.2
      acquired := if (s.fences.create fence).2.1 then Function.update s.acquired t (some fence)
        else s.acquired }
  | .fenceSetReceipt fence receipt, s, r, s' =>
    r = (s.fences.setReceipt fence receipt).1 ∧
    s' = { s with fences := (s.fences.setReceipt fence receipt).2 }
  | .fenceSetObservation fence observation, s, r, s' =>
    r = (s.fences.setObservation fence observation).1 ∧
    s' = { s with fences := (s.fences.setObservation fence observation).2 }
  | .fenceDelete fence, s, r, s' =>
    r = (s.fences.delete fence).1 ∧ s' = { s with fences := (s.fences.delete fence).2 }
  | .newAttempt, s, r, s' =>
    (∀ u, (u, r) ∉ s.drawn) ∧ s' = { s with drawn := (t, r) :: s.drawn }
  | .listVMs _, s, _, s' => s' = s
  | .getVM _ _, s, _, s' => s' = s
  | .getNetwork _ _, s, _, s' => s' = s
  | .now, s, _, s' => s' = s
  | .wait, s, _, s' => s' = s
  | .dispatchReserve, s, _, s' => s' = s
  | .attachDisk _ _ _, s, _, s' => s' = s
  | .detachDisk _ _ _, s, _, s' => s' = s
  | .resizeAttachedDisk _ _ _ _, s, _, s' => s' = s
  | .providerIDForNode _, s, _, s' => s' = s
  | .missingNodeIdentity _ _, s, _, s' => s' = s
  | .lockVM _, s, _, s' => s' = s

/-- What happens without the adapters. -/
inductive Env (outside : String → Prop) : State → State → Prop
  /-- The provider commits a dispatched create, once, under a fresh UUID. -/
  | commitCreate (s : State) (i : ℕ) (dispatch : Dispatch) (disk : Disk) :
      s.dispatches[i]? = some dispatch → (∀ c ∈ s.commits, c.dispatch ≠ i) →
      disk.displayName = dispatch.request.displayName →
      (∀ c ∈ s.commits, toLower c.uuid ≠ toLower disk.uuid) →
      (∀ location, ∀ d ∈ s.disks location, toLower d.uuid ≠ toLower disk.uuid) →
      Env outside s { s with
        disks := Function.update s.disks dispatch.location (disk :: s.disks dispatch.location)
        commits := ⟨i, dispatch.location, disk.displayName, disk.uuid⟩ :: s.commits }
  /-- The provider removes a disk whose deletion was dispatched. -/
  | commitDelete (s : State) (location diskUUID : String) :
      (location, diskUUID) ∈ s.deletes →
      Env outside s { s with
        disks := Function.update s.disks location
          ((s.disks location).filter fun d => !equalFold d.uuid diskUUID) }
  /-- Disks change, those named outside the statement's names arbitrarily. -/
  | drift (s : State) (disks : String → List Disk) :
      (∀ location p, (∃ d ∈ disks location, d.identity = p ∧ ¬ outside d.displayName) ↔
        ∃ d ∈ s.disks location, d.identity = p ∧ ¬ outside d.displayName) →
      Env outside s { s with disks := disks }

/-- The system of adapters over this world. -/
def sem (outside : String → Prop) : Sem State Op Reply := ⟨exec, Env outside⟩

/-! ### A small world

The objects of the concrete runs. -/

def State.empty : State :=
  { fences := fun _ => none, disks := fun _ => [], deletes := [], drawn := [],
    acquired := fun _ => none, dispatches := [], commits := [], observed := [] }

theorem initial_empty (outside : String → Prop) : Initial outside State.empty :=
  ⟨fun _ => rfl, fun _ d hd => by simp [State.empty] at hd, rfl, rfl, rfl, rfl, fun _ => rfl⟩

def bkkAdapter : Adapter := { sha256 := id, network := "vpc", billing := 1, absencePoll := 30 }

def pvcSpec : VolumeSpec := { name := "pvc", location := "bkk", capacityBytes := 1 }

/-- The create fence of `pvcSpec` with the given attempt. -/
def pvcFence (attempt : ℕ) : MutationFence :=
  { key := diskCreateFenceKey id "bkk" "pvc", attempt := attempt,
    intent := .diskCreate { operation := "create-disk", location := "bkk", name := "pvc",
                            sizeGiB := 1, billingAccountID := 1 } }

def pvcUUID : String := "0a000000-0000-4000-8000-00000000000f"

def pvcDisk : Disk :=
  { uuid := pvcUUID, displayName := "pvc", status := "Active",
    sizeGiB := 1, billingAccountID := 1, sourceImageType := "EMPTY", sourceImage := "",
    readOnlyBootable := false, snapshots := some [] }

def pvcRequest : CreateDiskRequest :=
  { displayName := "pvc", sizeGiB := 1, billingAccountID := 1, sourceImageType := "EMPTY" }

end InSpaceKube.Csi
