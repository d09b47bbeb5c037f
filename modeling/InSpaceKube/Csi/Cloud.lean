/-
InSpaceKube/Csi/Cloud.lean

The cloud objects the CSI adapter reads (`sdk.Disk`, `sdk.VM`,
`sdk.Network`), the errors of the client, and the pure checks of
`adapter.go` and `mutation_recovery.go` on them.

A Go slice that may be nil is an `Option`: nil is omitted authority, which
several checks tell apart from an empty collection.
-/
import InSpaceKube.Csi.Fence

namespace InSpaceKube.Csi

/-! ### Cloud objects -/

structure Disk where
  uuid : String
  displayName : String
  status : String
  sizeGiB : ℤ
  billingAccountID : ℤ
  sourceImageType : String
  sourceImage : String
  readOnlyBootable : Bool
  snapshots : Option (List String)
deriving DecidableEq, Repr

structure CreateDiskRequest where
  displayName : String
  sizeGiB : ℤ
  billingAccountID : ℤ
  sourceImageType : String
deriving DecidableEq, Repr

structure VMStorage where
  uuid : String
  primary : Bool
deriving DecidableEq, Repr

structure VM where
  uuid : String
  status : String
  billingAccountID : ℤ
  networkUUID : String
  storage : Option (List VMStorage)
deriving DecidableEq, Repr

structure Network where
  uuid : String
  vmUUIDs : Option (List String)
deriving DecidableEq, Repr

/-- What a client call can fail with.  `notFound` is any error for which
`sdk.IsNotFound` holds; a blocked mutation never reached the network. -/
inductive ClientError
  | mutationBlocked
  | mutationNotDispatched
  | notFound
  | api (statusCode : ℕ) (retryable : Bool)
  | transport
deriving DecidableEq, Repr

structure VolumeSpec where
  name : String
  location : String
  capacityBytes : ℤ
deriving DecidableEq, Repr

structure Volume where
  id : String
  name : String
  location : String
  capacityBytes : ℤ
deriving DecidableEq, Repr

/-- The text of a client error. -/
def ClientError.text : ClientError → String
  | mutationBlocked => "inspace: mutation blocked for non-loopback API endpoint"
  | mutationNotDispatched => "inspace: mutation was not dispatched"
  | notFound => "inspace: not found"
  | api _ _ => "inspace: API error"
  | transport => "inspace: transport error"

/-- A client error passed on as it is. -/
def ClientError.toErr : ClientError → Err
  | mutationBlocked => .wrap .mutationBlocked ClientError.mutationBlocked.text
  | mutationNotDispatched => .wrap .mutationNotDispatched ClientError.mutationNotDispatched.text
  | e => .new e.text

def normalizeAPIError : ClientError → Err
  | .notFound => .wrap .notFound "cloud volume not found"
  | .api 401 r => .wrap .unauthenticated (ClientError.api 401 r).text
  | .api 403 r => .wrap .permissionDenied (ClientError.api 403 r).text
  | .api 409 r => .wrap .conflict (ClientError.api 409 r).text
  | .api code true => .wrap .unavailable (ClientError.api code true).text
  | e => e.toErr

/-! ### Checks on disks -/

def gib : ℤ := 1024 * 1024 * 1024

/-- `bytesToGiB`; the sum does not overflow, since `bytes` is an `int64`. -/
def bytesToGiB (bytes : ℤ) : Except Err ℤ :=
  if bytes ≤ 0 then .error (.new "volume capacity must be positive")
  else .ok (1 + (bytes - 1) / gib)

def uniqueNamedDisk (disks : List Disk) (name : String) : Except Err (Option Disk) :=
  match disks.filter fun d => d.displayName == name with
  | [] => .ok none
  | [d] => .ok (some d)
  | _ => .error (.wrap .incompatibleVolume "several disks have the requested name")

def validateExactDisk (disk : Disk) (expectedUUID : String) (billingAccountID : ℤ) :
    Except Err Unit :=
  let expected := toLower (trimSpace expectedUUID)
  let actual := toLower (trimSpace disk.uuid)
  if billingAccountID ≤ 0 then
    .error (.wrap .permissionDenied "configured billing account ID is not positive")
  else if !uuidPattern expected || !uuidPattern actual || actual != expected then
    .error (.wrap .permissionDenied "exact disk read returned another UUID")
  else if disk.billingAccountID ≠ billingAccountID then
    .error (.wrap .permissionDenied "disk has another billing account")
  else .ok ()

def validateDiskCreateReadback (disk : Disk) (intent : DiskCreateIntent) : Except Err Unit :=
  if intent.billingAccountID ≤ 0 then
    .error (.wrap .incompatibleVolume "disk-create intent has no positive billing account")
  else match validateExactDisk disk disk.uuid intent.billingAccountID with
    | .error e => .error (.wrap .incompatibleVolume ("disk create ownership readback: " ++ e.text))
    | .ok () =>
      if disk.displayName ≠ intent.name then
        .error (.wrap .incompatibleVolume "disk receipt name does not match")
      else if disk.sizeGiB ≠ intent.sizeGiB then
        .error (.wrap .incompatibleVolume "disk has another size than requested")
      else if !equalFold (trimSpace disk.sourceImageType) "EMPTY" then
        .error (.wrap .incompatibleVolume "disk source type is not EMPTY")
      else if trimSpace disk.sourceImage ≠ "" then
        .error (.wrap .incompatibleVolume "disk unexpectedly has a source image")
      else if disk.readOnlyBootable then
        .error (.wrap .incompatibleVolume "disk is unexpectedly marked read-only bootable")
      else .ok ()

def validateCSIMutableDisk (disk : Disk) (expectedUUID : String) (billingAccountID : ℤ) :
    Except Err Unit := do
  validateExactDisk disk expectedUUID billingAccountID
  if trimSpace disk.displayName = "" then
    throw (.wrap .permissionDenied "disk has no CSI display name")
  else if !equalFold (trimSpace disk.sourceImageType) "EMPTY" then
    throw (.wrap .permissionDenied "disk source type is not mutable CSI EMPTY storage")
  else if trimSpace disk.sourceImage ≠ "" then
    throw (.wrap .permissionDenied "disk has a source image and is not mutable CSI EMPTY storage")
  else if disk.readOnlyBootable then
    throw (.wrap .permissionDenied "disk is marked read-only bootable")
  else pure ()

def diskDeletedTombstone (disk : Disk) : Bool := equalFold (trimSpace disk.status) "deleted"

def requireExactDiskSnapshotCollection (disk : Disk) : Except Err Unit :=
  match disk.snapshots with
  | none => .error (.new "InSpace exact disk omitted snapshots; refusing to treat the relationship as empty")
  | some _ => .ok ()

/-- `len(disk.Snapshots)`. -/
def snapshotCount (disk : Disk) : ℕ := (disk.snapshots.getD []).length

/-- `diskVolume`; `math.MaxInt64 / gib` is `8589934591`. -/
def diskVolume (location : String) (disk : Disk) : Except Err Volume :=
  if !uuidPattern (toLower disk.uuid) || disk.sizeGiB ≤ 0 then
    .error (.new "InSpace API returned an invalid disk")
  else if 8589934591 < disk.sizeGiB then
    .error (.new "InSpace disk size overflows bytes")
  else .ok { id := toLower disk.uuid, name := disk.displayName, location := location,
             capacityBytes := disk.sizeGiB * gib }

/-! ### Checks on VMs -/

/-- `canonicalNetworkVMMembers`: the members in order, canonical and distinct. -/
def canonicalNetworkVMMembers : Option (List String) → Except Err (List String)
  | none => .error (.new "network VM membership is omitted")
  | some vmUUIDs => vmUUIDs.foldlM (fun members raw =>
    let vmUUID := toLower (trimSpace raw)
    if !uuidPattern vmUUID then .error (.new "network contains an invalid VM UUID")
    else if vmUUID ∈ members then .error (.new "network contains a VM more than once")
    else .ok (members ++ [vmUUID])) []

def vmDiskRows (vm : VM) (diskUUID : String) : ℕ :=
  ((vm.storage.getD []).filter fun s => equalFold s.uuid diskUUID).length

def requireExactVMAttachmentCollection (vm : VM) : Except Err Unit :=
  match vm.storage with
  | none => .error (.new "InSpace exact VM omitted storage; refusing to treat the relationship as empty")
  | some _ => .ok ()

def rejectPrimaryDiskReference (vm : VM) (diskUUID : String) : Except Err Unit :=
  if (vm.storage.getD []).any fun s =>
      equalFold (trimSpace s.uuid) (trimSpace diskUUID) && s.primary then
    .error (.wrap .permissionDenied "disk is the primary boot disk of a VM")
  else .ok ()

def validateExactVM (network : String) (billing : ℤ) (vm : VM) (expectedUUID : String) :
    Except Err Unit :=
  let expected := toLower (trimSpace expectedUUID)
  let actual := toLower (trimSpace vm.uuid)
  if !uuidPattern expected || !uuidPattern actual || actual != expected then
    .error (.wrap .invalidNode "exact VM read returned another UUID")
  else if equalFold (trimSpace vm.status) "deleted" then
    .error (.wrap .invalidNode "exact VM is a deleted tombstone")
  else if vm.billingAccountID ≠ billing then
    .error (.wrap .permissionDenied "VM has another billing account")
  else if network ≠ "" ∧ trimSpace vm.networkUUID ≠ "" ∧
      !equalFold (trimSpace vm.networkUUID) network then
    .error (.wrap .invalidNode "VM is in another network")
  else .ok ()

/-! ### What the disk checks establish -/

/-- An exact disk has a UUID. -/
theorem validateExactDisk_uuid_ne {disk : Disk} {expected : String} {billing : ℤ}
    (h : validateExactDisk disk expected billing = .ok ()) : toLower disk.uuid ≠ "" := by
  intro hempty
  have huuid : disk.uuid = "" := by
    have := congrArg String.toList hempty
    simpa [toLower] using this
  have hpat : uuidPattern (toLower (trimSpace disk.uuid)) = false := by rw [huuid]; decide
  unfold validateExactDisk at h
  dsimp only at h
  rw [hpat] at h
  split at h
  · cases h
  · simp at h

/-- A disk found by name is in the listing, under that name. -/
theorem uniqueNamedDisk_some {disks : List Disk} {name : String} {d : Disk}
    (h : uniqueNamedDisk disks name = .ok (some d)) : d ∈ disks ∧ d.displayName = name := by
  unfold uniqueNamedDisk at h
  rcases hf : disks.filter (fun d => d.displayName == name) with - | ⟨e, - | ⟨e', es⟩⟩ <;>
    simp only [hf] at h
  · simp at h
  · obtain rfl : e = d := by simpa using h
    have hmem : e ∈ disks.filter fun d => d.displayName == name := by rw [hf]; simp
    simpa using List.mem_filter.1 hmem
  · cases h

/-- Nothing found by name means no listed disk has it. -/
theorem uniqueNamedDisk_none {disks : List Disk} {name : String}
    (h : uniqueNamedDisk disks name = .ok none) : ∀ d ∈ disks, d.displayName ≠ name := by
  unfold uniqueNamedDisk at h
  rcases hf : disks.filter (fun d => d.displayName == name) with - | ⟨e, - | ⟨e', es⟩⟩ <;>
    simp only [hf] at h
  · intro d hd hname
    have hmem : d ∈ disks.filter fun d => d.displayName == name :=
      List.mem_filter.2 ⟨hd, by simpa using hname⟩
    rw [hf] at hmem
    simp at hmem
  · simp at h
  · cases h

end InSpaceKube.Csi
