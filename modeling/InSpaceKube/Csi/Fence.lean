/-
InSpaceKube/Csi/Fence.lean

The CSI driver's durable mutation fences (`mutation_fence.go`) and the
intents they carry (`mutation_recovery.go`).

A fence authorizes one cloud mutation.  Its key, intent and attempt never
change; receipt and observation advance by compare-and-swap.  The attempt is
sixteen random bytes in the source; what the code relies on is only that no
two fences ever share one, so here it is a number drawn fresh.

The store is the memory store of the source: a map from keys to fences whose
operations are atomic.  They are given as functions on the map, each under
the name of the method it models.
-/
import InSpaceKube.Go
import Mathlib.Logic.Function.Basic
import Mathlib.Data.Int.Notation

namespace InSpaceKube.Csi

open Function (update)

/-! ### Errors -/

/-- The sentinels of package `cloud`, of the client, and of the fence store. -/
inductive Sentinel
  | notFound | volumeAttachedElsewhere | incompatibleVolume | snapshotsPresent
  | volumeNotAttached | invalidNode | unavailable | unauthenticated
  | permissionDenied | conflict | rejected
  | mutationBlocked | mutationNotDispatched | mutationFenceChanged | contextDone | nodeNotFound
deriving DecidableEq, Repr

abbrev Err := GoError Sentinel

/-! ### Intents -/

structure DiskCreateIntent where
  operation : String
  location : String
  name : String
  sizeGiB : ℤ
  billingAccountID : ℤ
deriving DecidableEq, Repr

structure DiskAttachmentIntent where
  operation : String
  location : String
  diskUUID : String
  billingAccountID : ℤ
  desiredVMUUID : String := ""
  previousVMUUID : String := ""
  recoveryNodeID : String := ""
deriving DecidableEq, Repr

/-- The JSON object a fence carries. -/
inductive Intent
  | diskCreate (intent : DiskCreateIntent)
  | diskAttachment (intent : DiskAttachmentIntent)
deriving DecidableEq, Repr

/-- The kinds of `mutationObservation`. -/
inductive ObservationKind
  | detachAbsence | diskDeleteAbsence
deriving DecidableEq, Repr

/-- `mutationObservation`; the timestamps are instants of the controller clock. -/
structure MutationObservation where
  kind : ObservationKind
  count : ℕ
  firstObservedAt : ℤ
  lastObservedAt : Option ℤ
deriving DecidableEq, Repr

/-- `mutationFence`.  An empty receipt or observation is the empty string or
`none`. -/
structure MutationFence where
  key : String
  intent : Intent
  attempt : ℕ
  receipt : String := ""
  observation : Option MutationObservation := none
deriving DecidableEq, Repr

/-- `decodeMutationIntent[diskCreateIntent]`: decoding the other intent leaves
the fields it does not have at their zero values. -/
def decodeDiskCreateIntent (fence : MutationFence) : DiskCreateIntent :=
  match fence.intent with
  | .diskCreate intent => intent
  | .diskAttachment intent =>
    { operation := intent.operation, location := intent.location, name := "",
      sizeGiB := 0, billingAccountID := intent.billingAccountID }

/-- `decodeMutationIntent[diskAttachmentIntent]`. -/
def decodeDiskAttachmentIntent (fence : MutationFence) : DiskAttachmentIntent :=
  match fence.intent with
  | .diskAttachment intent => intent
  | .diskCreate intent =>
    { operation := intent.operation, location := intent.location, diskUUID := "",
      billingAccountID := intent.billingAccountID }

/-- `diskCreateFenceKey`; `sha256` is the hexadecimal digest of a name. -/
def diskCreateFenceKey (sha256 : String → String) (location name : String) : String :=
  "disk-create/" ++ toLower location ++ "/" ++ sha256 name

def diskAttachmentFenceKey (location diskUUID : String) : String :=
  "disk-attachment/" ++ toLower location ++ "/" ++ toLower diskUUID

/-- The two families of keys part at their sixth character. -/
theorem createPrefix_ne_attachmentPrefix (a b : String) :
    "disk-create/" ++ a ≠ "disk-attachment/" ++ b := by
  intro h
  have hl := congrArg String.toList h
  simp only [String.toList_append] at hl
  have h₁ : "disk-create/".toList
      = ['d', 'i', 's', 'k', '-', 'c', 'r', 'e', 'a', 't', 'e', '/'] := by decide
  have h₂ : "disk-attachment/".toList
      = ['d', 'i', 's', 'k', '-', 'a', 't', 't', 'a', 'c', 'h', 'm', 'e', 'n', 't', '/'] := by
    decide
  rw [h₁, h₂] at hl
  simp only [List.cons_append, List.cons.injEq] at hl
  exact absurd hl.2.2.2.2.2.1 (by decide)

/-- A create key is never an attachment key. -/
theorem diskCreateFenceKey_ne_diskAttachmentFenceKey (sha256 : String → String)
    (location name location' uuid : String) :
    diskCreateFenceKey sha256 location name ≠ diskAttachmentFenceKey location' uuid := by
  unfold diskCreateFenceKey diskAttachmentFenceKey
  simp only [String.append_assoc]
  exact createPrefix_ne_attachmentPrefix _ _

/-- A key that `List` finds under a create prefix is not an attachment key. -/
theorem ne_diskAttachmentFenceKey_of_hasPrefix {key rest location uuid : String}
    (h : hasPrefix key ("disk-create/" ++ rest) = true) :
    key ≠ diskAttachmentFenceKey location uuid := by
  obtain ⟨_, rfl⟩ := eq_append_of_hasPrefix h
  unfold diskAttachmentFenceKey
  simp only [String.append_assoc]
  exact createPrefix_ne_attachmentPrefix _ _

/-! ### Comparing fences -/

def sameMutationFenceAttempt (left right : MutationFence) : Bool :=
  left.key == right.key && left.intent == right.intent && left.attempt == right.attempt

def sameMutationFenceAuthority (left right : MutationFence) : Bool :=
  sameMutationFenceAttempt left right && left.receipt == right.receipt

def sameMutationFenceState (left right : MutationFence) : Bool :=
  sameMutationFenceAuthority left right && left.observation == right.observation

/-- The fields compared are all there are. -/
theorem sameMutationFenceState_iff {left right : MutationFence} :
    sameMutationFenceState left right = true ↔ left = right := by
  obtain ⟨k, i, a, r, o⟩ := left
  obtain ⟨_, _, _, _, _⟩ := right
  simp [sameMutationFenceState, sameMutationFenceAuthority, sameMutationFenceAttempt, and_assoc]

/-! ### The memory store -/

/-- `memoryMutationFenceStore.fences`. -/
abbrev FenceStore := String → Option MutationFence

namespace FenceStore

variable (s : FenceStore) (fence : MutationFence)

/-- `Create`: the stored fence, whether it is the caller's, and the new store. -/
def create : MutationFence × Bool × FenceStore :=
  match s fence.key with
  | some current => (current, false, s)
  | none => (fence, true, update s fence.key (some fence))

def setReceipt (receipt : String) : Except Err MutationFence × FenceStore :=
  match s fence.key with
  | none => (.error (.new "CSI mutation fence disappeared before receipt persistence"), s)
  | some current =>
    if sameMutationFenceState current fence then
      let next := { current with receipt := receipt }
      (.ok next, update s fence.key (some next))
    else (.error (.new "CSI mutation fence changed before receipt persistence"), s)

/-- `validateMutationObservation`, on decoded timestamps. -/
def validateMutationObservation (o : MutationObservation) : Except Err Unit :=
  if o.count < 1 ∨ 3 < o.count then
    .error (.new "CSI mutation fence observation count is invalid")
  else if o.count = 1 then
    if o.lastObservedAt.isSome then
      .error (.new "CSI mutation fence first observation unexpectedly contains a last-observation timestamp")
    else .ok ()
  else match o.lastObservedAt with
    | some last =>
      if o.firstObservedAt < last then .ok ()
      else .error (.new "CSI mutation fence last-observation timestamp is invalid")
    | none => .error (.new "CSI mutation fence last-observation timestamp is invalid")

def setObservation
    (observation : Option MutationObservation) : Except Err MutationFence × FenceStore :=
  match s fence.key with
  | none => (.error (.wrap .mutationFenceChanged
      "CSI mutation fence disappeared before observation persistence"), s)
  | some current =>
    if current.observation = observation ∧ sameMutationFenceAuthority current fence then
      (.ok current, s)
    else if sameMutationFenceState current fence then
      match observation.elim (.ok ()) validateMutationObservation with
      | .error e => (.error e, s)
      | .ok () =>
        let next := { current with observation := observation }
        (.ok next, update s fence.key (some next))
    else (.error (.wrap .mutationFenceChanged "before observation persistence"), s)

def delete : Except Err Unit × FenceStore :=
  match s fence.key with
  | none => (.ok (), s)
  | some current =>
    if sameMutationFenceState current fence then
      (.ok (), update s fence.key none)
    else (.error (.new "CSI mutation fence changed before completion"), s)

/-! #### What each operation does to the store -/

variable {s : FenceStore} {fence : MutationFence}

/-- `Create` either reports the fence that is there, or stores its own. -/
theorem create_cases (s : FenceStore) (fence : MutationFence) :
    (∃ current, s fence.key = some current ∧ s.create fence = (current, false, s)) ∨
    (s fence.key = none ∧
      s.create fence = (fence, true, update s fence.key (some fence))) := by
  unfold create
  rcases h : s fence.key with - | current
  · exact .inr ⟨rfl, rfl⟩
  · exact .inl ⟨current, rfl, rfl⟩

/-- `SetReceipt` either fails and changes nothing, or stamps the very fence
it was given. -/
theorem setReceipt_cases (s : FenceStore) (fence : MutationFence) (receipt : String) :
    (∃ e, s.setReceipt fence receipt = (.error e, s)) ∨
    (s fence.key = some fence ∧
      s.setReceipt fence receipt = (.ok { fence with receipt := receipt },
        update s fence.key (some { fence with receipt := receipt }))) := by
  unfold setReceipt
  rcases h : s fence.key with - | current
  · exact .inl ⟨_, rfl⟩
  · by_cases hs : sameMutationFenceState current fence
    · obtain rfl := sameMutationFenceState_iff.1 hs
      exact .inr ⟨rfl, by simp only [hs, if_true]⟩
    · exact .inl ⟨_, by simp only [hs]; rfl⟩

/-- `Delete` leaves the store alone, or removes the very fence it was given. -/
theorem delete_cases (s : FenceStore) (fence : MutationFence) :
    (∃ r, s.delete fence = (r, s)) ∨
    (s fence.key = some fence ∧ s.delete fence = (.ok (), update s fence.key none)) := by
  unfold delete
  rcases h : s fence.key with - | current
  · exact .inl ⟨_, rfl⟩
  · by_cases hs : sameMutationFenceState current fence
    · obtain rfl := sameMutationFenceState_iff.1 hs
      exact .inr ⟨rfl, by simp only [hs, if_true]⟩
    · exact .inl ⟨_, by simp only [hs]; rfl⟩

/-- `SetObservation` leaves the store alone, or changes the observation of the
very fence it was given. -/
theorem setObservation_cases (s : FenceStore) (fence : MutationFence)
    (observation : Option MutationObservation) :
    (∃ r, s.setObservation fence observation = (r, s) ∧
      ∀ g, r = .ok g → ∃ current, s fence.key = some current ∧ g = current) ∨
    (s fence.key = some fence ∧
      s.setObservation fence observation = (.ok { fence with observation := observation },
        update s fence.key (some { fence with observation := observation }))) := by
  unfold setObservation
  rcases h : s fence.key with - | current
  · exact .inl ⟨_, rfl, nofun⟩
  · dsimp only
    split
    · exact .inl ⟨_, rfl, fun _ hg => by cases hg; exact ⟨_, rfl, rfl⟩⟩
    · by_cases hs : sameMutationFenceState current fence
      · obtain rfl := sameMutationFenceState_iff.1 hs
        rw [if_pos hs]
        cases observation.elim (.ok ()) validateMutationObservation with
        | error => exact .inl ⟨_, rfl, nofun⟩
        | ok => exact .inr ⟨rfl, rfl⟩
      · rw [if_neg hs]
        exact .inl ⟨_, rfl, nofun⟩

/-- `SetObservation` of the stored fence, with another valid observation. -/
theorem setObservation_current {observation : Option MutationObservation}
    (hs : s fence.key = some fence) (hne : fence.observation ≠ observation)
    (hvalid : observation.elim (.ok ()) validateMutationObservation = .ok ()) :
    s.setObservation fence observation = (.ok { fence with observation := observation },
      update s fence.key (some { fence with observation := observation })) := by
  have hstate : sameMutationFenceState fence fence = true :=
    sameMutationFenceState_iff.2 rfl
  simp [setObservation, hs, hne, hstate, hvalid]

/-- What `SetObservation` hands back is the same attempt with the same receipt. -/
theorem setObservation_same (s : FenceStore) (fence : MutationFence)
    (observation : Option MutationObservation) :
    ∀ g, (s.setObservation fence observation).1 = .ok g →
      sameMutationFenceAuthority g fence = true := by
  intro g hg
  unfold setObservation at hg
  rcases h : s fence.key with - | current
  · rw [h] at hg; cases hg
  · rw [h] at hg
    dsimp only at hg
    split at hg
    · next hsame => cases hg; exact hsame.2
    · split at hg
      · next hstate =>
        obtain rfl := sameMutationFenceState_iff.1 hstate
        cases hv : observation.elim (.ok ()) validateMutationObservation with
        | error => rw [hv] at hg; cases hg
        | ok =>
          rw [hv] at hg
          cases hg
          simp [sameMutationFenceAuthority, sameMutationFenceAttempt]
      · cases hg

end FenceStore

end InSpaceKube.Csi
