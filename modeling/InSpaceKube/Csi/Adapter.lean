/-
InSpaceKube/Csi/Adapter.lean

`EnsureVolume` and `DeleteVolume` of the CSI adapter (`adapter.go`), with the
recovery code they share (`mutation_recovery.go`), as programs over the
adapter's requests: the cloud API, the fence store, the clock, the timers.

Every polling loop of the source ends only by its result or by its context;
its model takes a number of rounds (`fuel`) and is followed that far.  A timer
that a context may cut short is one request, whose reply says whether the
context was done.  The dispatch reserve depends on the caller's deadline; it
is a request too.
-/
import InSpaceKube.Csi.Cloud
import InSpaceKube.Prog.Basic
import Mathlib.Data.List.Dedup

namespace InSpaceKube.Csi

/-! ### Requests -/

/-- The requests of an adapter. -/
inductive Op
  | listDisks (location : String)
  | getDisk (location diskUUID : String)
  | createDisk (location : String) (request : CreateDiskRequest)
  | deleteDisk (location diskUUID : String)
  | listVMs (location : String)
  | getVM (location vmUUID : String)
  | getNetwork (location networkUUID : String)
  | fenceGet (key : String)
  | fenceList (pre : String)
  | fenceCreate (fence : MutationFence)
  | fenceSetReceipt (fence : MutationFence) (receipt : String)
  | fenceSetObservation (fence : MutationFence) (observation : Option MutationObservation)
  | fenceDelete (fence : MutationFence)
  | newAttempt
  | now
  | wait
  | dispatchReserve
  | attachDisk (location vmUUID diskUUID : String)
  | detachDisk (location vmUUID diskUUID : String)
  | resizeAttachedDisk (location vmUUID diskUUID : String) (sizeGiB : ℤ)
  | providerIDForNode (nodeName : String)
  /-- The end of `missingNodeDetachTarget`: the identity of the VM just read and
  the authority of its NodeClaim. -/
  | missingNodeIdentity (vm : VM) (nodeID : String)
  | lockVM (vmUUID : String)

/-- Their replies. -/
abbrev Reply : Op → Type
  | .listDisks _ => Except ClientError (List Disk)
  | .getDisk _ _ => Except ClientError (Option Disk)
  | .createDisk _ _ => Except ClientError (Option Disk)
  | .deleteDisk _ _ => Except ClientError Unit
  | .listVMs _ => Except ClientError (List VM)
  | .getVM _ _ => Except ClientError (Option VM)
  | .getNetwork _ _ => Except ClientError (Option Network)
  | .fenceGet _ => Option MutationFence
  | .fenceList _ => List MutationFence
  | .fenceCreate _ => MutationFence × Bool
  | .fenceSetReceipt _ _ => Except Err MutationFence
  | .fenceSetObservation _ _ => Except Err MutationFence
  | .fenceDelete _ => Except Err Unit
  | .newAttempt => ℕ
  | .now => ℤ
  | .wait => Option Err
  | .dispatchReserve => Option Err
  | .attachDisk _ _ _ => Except ClientError (Option VMStorage)
  | .detachDisk _ _ _ => Except ClientError Unit
  | .resizeAttachedDisk _ _ _ _ => Except ClientError (Option VMStorage)
  | .providerIDForNode _ => Except Err String
  | .missingNodeIdentity _ _ => Except Err Bool
  | .lockVM _ => Option Err

/-- Fallible adapter code. -/
abbrev Code (α : Type) := ExceptT Err (Prog Op Reply) α

open Prog

variable {α : Type}

/-- Issue a request. -/
abbrev call (op : Op) : Code (Reply op) := perform op

/-- `Adapter`: what its methods read of the configuration. -/
structure Adapter where
  sha256 : String → String
  network : String
  billing : ℤ
  absencePoll : ℤ

/-! ### The fence store through the adapter -/

variable (fuel : ℕ) (a : Adapter) (intent : DiskCreateIntent) (fence : MutationFence)

/-- `a.fences.SetReceipt`. -/
def fencesSetReceipt (receipt : String) : Code MutationFence := do
  check (← call (.fenceSetReceipt fence receipt))

/-- `a.fences.Delete`, and `deleteMutationFenceDetached`: the memory store
does not look at the context. -/
def fencesDelete : Code Unit := do
  check (← call (.fenceDelete fence))

/-- `waitMutationReadback`, and a timer in a select with `ctx.Done()`. -/
def waitMutationReadback : Code Unit := do
  match ← call .wait with
  | none => pure ()
  | some e => throw e

/-- Clear a fence whose mutation was not dispatched, and fail with `cause`;
`wrap` is what is made of a failure to clear it. -/
def clearFence (cause : Err) (wrap : Err → Err) : Code α := do
  match ← attempt (fencesDelete fence) with
  | .ok () => throw cause
  | .error e => throw (cause.join (wrap e))

def clearUndispatchedDiskCreateFence (cause : Err) : Code α :=
  clearFence fence cause (.within "clear undispatched disk-create fence")

/-! ### EnsureVolume -/

def beginDiskCreateFence : Code (MutationFence × Bool) := do
  let key := diskCreateFenceKey a.sha256 intent.location intent.name
  match ← call (.fenceGet key) with
  | some current =>
    if decodeDiskCreateIntent current ≠ intent then
      throw (.wrap .incompatibleVolume "unresolved disk-create fence has another intent")
    else pure (current, false)
  | none =>
    let attempt ← call .newAttempt
    let candidate : MutationFence := { key := key, intent := .diskCreate intent, attempt := attempt }
    let (stored, acquired) ← call (.fenceCreate candidate)
    if stored.key ≠ key ∨ decodeDiskCreateIntent stored ≠ intent then
      throw (.wrap .incompatibleVolume "disk-create fence changed during acquisition")
    else pure (stored, acquired)

/-- The loop of `waitForDiskReady`. -/
def waitForDiskReadyLoop (expectedUUID : String) : ℕ → Disk → Code Disk
  | 0, _ => outOfRounds
  | fuel + 1, disk => do
    match validateExactDisk disk expectedUUID intent.billingAccountID with
    | .error e =>
      throw (.wrap .incompatibleVolume ("disk create readiness identity changed: " ++ e.text))
    | .ok () =>
    check (validateDiskCreateReadback disk intent)
    let status := toLower (trimSpace disk.status)
    if status = "active" then pure disk
    else if status = "error" ∨ status = "failed" ∨ status = "deleted" then
      throw (.new "InSpace disk entered terminal status")
    else
    waitMutationReadback
    match ← call (.getDisk intent.location disk.uuid) with
    | .error e => throw (normalizeAPIError e)
    | .ok none => throw (.new "InSpace API returned an empty disk response")
    | .ok (some current) => waitForDiskReadyLoop expectedUUID fuel current

def waitForDiskReady (disk : Disk) : Code Disk :=
  waitForDiskReadyLoop intent (toLower (trimSpace disk.uuid)) fuel disk

def completeFencedDisk (ready : Disk) : Code Volume := do
  let canonical ← withErr (fencesSetReceipt fence (toLower ready.uuid)) fun e =>
    .wrap .unavailable ("persist canonical disk-create receipt after authoritative readback: " ++ e.text)
  let volume ← check (diskVolume intent.location ready)
  withErr (fencesDelete canonical) fun e =>
    .wrap .unavailable ("complete disk-create fence after authoritative readback: " ++ e.text)
  pure volume

def finishFencedDisk (disk : Disk) : Code Volume := do
  check (validateDiskCreateReadback disk intent)
  let ready ← waitForDiskReady fuel intent disk
  completeFencedDisk intent fence ready

def finishUndispatchedFencedDisk (disk : Disk) : Code Volume := do
  match validateDiskCreateReadback disk intent with
  | .error e => clearUndispatchedDiskCreateFence fence e
  | .ok () =>
  match ← attempt (waitForDiskReady fuel intent disk) with
  | .error e => clearUndispatchedDiskCreateFence fence e
  | .ok ready => completeFencedDisk intent fence ready

/-- The loop of `reconcileDiskCreateFence`. -/
def reconcileDiskCreateFenceLoop (mutationErr : Option Err) : ℕ → Code Volume
  | 0 => outOfRounds
  | fuel + 1 => do
    let ambiguous (lastObservation e : Err) : Err := .wrap .unavailable
      ("disk create outcome remains ambiguous behind its durable fence: " ++
        (GoError.joinOpt mutationErr (lastObservation.join e)).text)
    match ← call (.listDisks intent.location) with
    | .ok disks =>
      match ← check (uniqueNamedDisk disks intent.name) with
      | some disk => finishFencedDisk fuel intent fence disk
      | none =>
        withErr waitMutationReadback (ambiguous (.new "same-named disk is not visible"))
        reconcileDiskCreateFenceLoop mutationErr fuel
    | .error listErr =>
      withErr waitMutationReadback (ambiguous (normalizeAPIError listErr))
      reconcileDiskCreateFenceLoop mutationErr fuel

def reconcileDiskCreateFence (mutationErr : Option Err) : Code Volume :=
  if decodeDiskCreateIntent fence ≠ intent ∨
      fence.key ≠ diskCreateFenceKey a.sha256 intent.location intent.name then
    throw (.wrap .incompatibleVolume "disk-create fence does not match the requested volume")
  else reconcileDiskCreateFenceLoop intent fence mutationErr fuel

/-- The found branch of `EnsureVolume` clears the fence of a lost reply. -/
def clearMatchingFence (ready : Disk) : Code Unit := do
  match ← call (.fenceGet (diskCreateFenceKey a.sha256 intent.location intent.name)) with
  | none => pure ()
  | some fence =>
    if decodeDiskCreateIntent fence ≠ intent then
      throw (.wrap .incompatibleVolume "same-named disk does not match its durable create fence")
    else
      let canonical ← withErr (fencesSetReceipt fence (toLower ready.uuid)) fun e =>
        .wrap .unavailable ("persist canonical disk-create receipt: " ++ e.text)
      withErr (fencesDelete canonical) fun e =>
        .wrap .unavailable ("complete disk-create fence: " ++ e.text)

/-- The branch of `EnsureVolume` for a disk that is already listed. -/
def adoptNamedDisk (existing : Disk) : Code Volume := do
  check (validateDiskCreateReadback existing intent)
  let ready ← waitForDiskReady fuel intent existing
  clearMatchingFence a intent ready
  check (diskVolume intent.location ready)

/-- The branch of `EnsureVolume` for the invocation that won the fence. -/
def createFencedDisk : Code Volume := do
  match ← call (.listDisks intent.location) with
  | .error e =>
    clearUndispatchedDiskCreateFence fence (.wrap .unavailable
      ("post-fence disk-create authority is unavailable behind its durable fence: " ++
        (normalizeAPIError e).text))
  | .ok postFenceDisks =>
  match uniqueNamedDisk postFenceDisks intent.name with
  | .error e => clearUndispatchedDiskCreateFence fence e
  | .ok (some existing) => finishUndispatchedFencedDisk fuel intent fence existing
  | .ok none =>
  match ← call .dispatchReserve with
  | some reserveErr => clearUndispatchedDiskCreateFence fence reserveErr
  | none =>
  match ← call (.createDisk intent.location
      { displayName := intent.name, sizeGiB := intent.sizeGiB,
        billingAccountID := intent.billingAccountID, sourceImageType := "EMPTY" }) with
  | .error .mutationBlocked =>
    clearFence fence ClientError.mutationBlocked.toErr
      (.within "clear locally blocked disk-create fence")
  | .error e => reconcileDiskCreateFence fuel a intent fence (some e.toErr)
  | .ok none =>
    reconcileDiskCreateFence fuel a intent fence
      (some (.new "InSpace API returned an empty create-disk response"))
  | .ok (some _) => reconcileDiskCreateFence fuel a intent fence none

/-- `EnsureVolume` from its intent on. -/
def ensureDisk : Code Volume := do
  match ← call (.listDisks intent.location) with
  | .error e => throw (normalizeAPIError e)
  | .ok disks =>
  match ← check (uniqueNamedDisk disks intent.name) with
  | some existing => adoptNamedDisk fuel a intent existing
  | none =>
  let (fence, acquired) ← beginDiskCreateFence a intent
  if acquired then
    createFencedDisk fuel a intent fence
  else
    reconcileDiskCreateFence fuel a intent fence
      (some (.new "a previous disk-create attempt remains unresolved"))

def ensureVolume (spec : VolumeSpec) : Code Volume := do
  let sizeGiB ← check (bytesToGiB spec.capacityBytes)
  ensureDisk fuel a
    { operation := "create-disk", location := spec.location, name := spec.name,
      sizeGiB := sizeGiB, billingAccountID := a.billing }

end InSpaceKube.Csi
