/-
InSpaceKube/Csi/AttachVolume.lean

`AttachVolume`, `DetachVolume` and `ExpandVolume` of the CSI adapter
(`adapter.go`, `expand.go`), with the fence they acquire
(`prepareAttachmentFence`) and the end of an attachment mutation
(`finishAttachmentMutation`).

* The lock of a VM serializes the calls of one process.  Here it is a request
  that may fail; calls of different processes do not exclude one another.
* A node name is resolved by one request, and so is the last part of
  `missingNodeDetachTarget`: the identity of the VM that was just read, and
  the authority its NodeClaim gives.
-/
import InSpaceKube.Csi.DeleteVolume
import InSpaceKube.Url

namespace InSpaceKube.Csi

open Prog

/-! ### The VM of a node -/

variable (fuel : ℕ) (a : Adapter) (location volumeID vmUUID nodeID attached : String)
  (intent : DiskAttachmentIntent) (fence : MutationFence)

def getVPCVM : Code VM := do
  if a.network = "" then
    throw (.wrap .invalidNode "configured VPC UUID is required for CSI VM mutations")
  else
  match ← call (.getVM location vmUUID) with
  | .error e => throw (normalizeAPIError e)
  | .ok none => throw (.new "InSpace API returned an empty VM response")
  | .ok (some vm) =>
  check (validateExactVM a.network a.billing vm vmUUID)
  match ← call (.getNetwork location a.network) with
  | .error e => throw (normalizeAPIError e)
  | .ok network =>
  if !network.any (fun n => equalFold (trimSpace n.uuid) a.network) then
    throw (.wrap .invalidNode "configured VPC lacks exact membership authority")
  else
    let members ← withErr (check (canonicalNetworkVMMembers (network.bind (·.vmUUIDs)))) fun e =>
      .wrap .invalidNode ("configured VPC has invalid VM membership: " ++ e.text)
    if toLower (trimSpace vmUUID) ∈ members then pure vm
    else throw (.wrap .invalidNode "VM has 0 configured-VPC memberships, want one")

def getOwnedVM : Code VM := do
  let vm ← getVPCVM a location vmUUID
  match ← call (.listVMs location) with
  | .error e => throw (normalizeAPIError e)
  | .ok vms =>
    if (vms.filter fun summary => equalFold (trimSpace summary.uuid) vmUUID).length = 1 then
      pure vm
    else throw (.wrap .invalidNode "VM does not have one unfiltered inventory row")

/-- `parseProviderID`: the location and the VM UUID. -/
def parseProviderID (value : String) : Except Err (String × String) :=
  let value := toLower (trimSpace value)
  match Url.parse value.toList with
  | none => .error (.new "expected inspace://<location>/<vm-uuid>")
  | some u =>
    if u.scheme ≠ "inspace".toList ∨ u.host = [] ∨ u.user ∨ u.rawQuery ≠ [] ∨ u.fragment ≠ [] then
      .error (.new "expected inspace://<location>/<vm-uuid>")
    else
      let location := toLower (String.ofList u.host)
      let vmUUID := toLower (trimPrefix (String.ofList u.escapedPath) "/")
      if '/' ∈ vmUUID.toList ∨ uuidPattern vmUUID = false then
        .error (.new "provider ID contains an invalid VM UUID")
      else .ok (location, vmUUID)

/-- The provider ID of a node: `nodeID` itself, or what the resolver says. -/
def nodeProviderID (providerID : String) : Code String := do
  if hasPrefix (toLower providerID) "inspace://" then pure providerID
  else
    withErr (do check (← call (.providerIDForNode providerID))) fun e =>
      if e.is .contextDone ∨ e.is .unavailable then e
      else ⟨.invalidNode :: e.kinds, "resolve Kubernetes node: " ++ e.text⟩

def resolveVM : Code String := do
  let providerID := trimSpace nodeID
  if providerID = "" then throw (.wrap .invalidNode "empty node ID")
  else
    let providerID ← nodeProviderID providerID
    let (providerLocation, vmUUID) ← withErr (check (parseProviderID providerID)) fun e =>
      .wrap .invalidNode e.text
    if providerLocation ≠ location then
      throw (.wrap .invalidNode "provider location does not match")
    else
      let _ ← withErr (getVPCVM a location vmUUID) fun e =>
        if e.is .notFound then .wrap .invalidNode "VM not found" else e
      pure vmUUID

def lockVM : Code Unit := do
  match ← call (.lockVM vmUUID) with
  | none => pure ()
  | some e => throw e

/-! ### The attachment fence -/

def beginAttachmentFence : Code (MutationFence × Bool) := do
  let key := diskAttachmentFenceKey intent.location intent.diskUUID
  let attempt ← call .newAttempt
  let (stored, acquired) ← call (.fenceCreate
    { key := key, intent := .diskAttachment intent, attempt := attempt })
  if stored.key ≠ key ∨ decodeDiskAttachmentIntent stored ≠ intent then pure (stored, false)
  else pure (stored, acquired)

/-- The loop of `prepareAttachmentFence`, at most three rounds; `none` when the
intent was already carried out. -/
def prepareAttachmentFence : ℕ → Code (Option MutationFence)
  | 0 => throw (.wrap .unavailable "attachment fence changed repeatedly during acquisition")
  | rounds + 1 => do
    if ← settleExistingAttachmentFence fuel a intent then pure none
    else
      let (fence, acquired) ← beginAttachmentFence intent
      if acquired then pure (some fence)
      -- Another controller created a fence of the disk between GET and POST.
      else prepareAttachmentFence rounds

/-- `finishAttachmentMutation` of a mutation that may have been carried out. -/
def finishAttachmentMutation (mutationErr : Option Err) : Code Unit := do
  match ← withErr (waitForFencedAttachment fuel a intent fence) (fun e => .wrap .unavailable
      ("disk attachment outcome remains ambiguous behind its durable fence: " ++
        (GoError.joinOpt mutationErr e).text)) with
  | none => pure ()
  | some resolved =>
    withErr (fencesDelete resolved) fun e =>
      .wrap .unavailable ("complete disk attachment fence: " ++ e.text)

/-- The branch of `finishAttachmentMutation` for a mutation that was blocked. -/
def clearBlocked : Code Unit :=
  clearFence fence ClientError.mutationBlocked.toErr
    (.within "clear locally blocked disk attachment fence")

/-! ### AttachVolume -/

def getVolume : Code Volume := do
  let disk ← getOwnedDisk a location volumeID
  check (diskVolume location disk)

def clearUnissuedAttach : Err → Err := .within "clear unissued disk-attach fence"

/-- `AttachVolume` once it may dispatch. -/
def dispatchAttach : Code Unit := do
  match ← call (.attachDisk location vmUUID volumeID) with
  | .error .mutationBlocked => clearBlocked fence
  | .error e => finishAttachmentMutation fuel a intent fence (some e.toErr)
  | .ok storage =>
    if storage.any fun s => equalFold s.uuid volumeID then
      finishAttachmentMutation fuel a intent fence none
    else
      finishAttachmentMutation fuel a intent fence
        (some (.new "InSpace API returned an invalid attach-disk response"))

/-- The final authority of `AttachVolume`: disk and attachment are read once
more. -/
def reauthorizeAttach : Code Unit := do
  match ← attempt (getOwnedDisk a location volumeID) with
  | .error e => clearFence fence e clearUnissuedAttach
  | .ok _ =>
  match ← attempt (attachedVM a location volumeID) with
  | .error e =>
    clearFence fence e (.within "clear unissued disk-attach fence after final attachment read")
  | .ok finalAttachedVM =>
  if finalAttachedVM = vmUUID then fencesDelete fence
  else if finalAttachedVM ≠ "" then
    clearFence fence (.wrap .volumeAttachedElsewhere finalAttachedVM) id
  else
  match ← call .dispatchReserve with
  | some e => clearFence fence e (.within "clear undispatched disk-attach fence")
  | none => dispatchAttach fuel a location volumeID vmUUID intent fence

/-- `AttachVolume` behind its fence. -/
def attachFenced : Code Unit := do
  match ← attempt (attachedVM a location volumeID) with
  | .error e => clearFence fence e clearUnissuedAttach
  | .ok attached =>
  if attached = vmUUID then fencesDelete fence
  else if attached ≠ "" then
    clearFence fence (.wrap .volumeAttachedElsewhere attached) id
  else
  match ← attempt (getOwnedVM a location vmUUID) with
  | .error e => clearFence fence e clearUnissuedAttach
  | .ok targetVM =>
  match requireExactVMAttachmentCollection targetVM with
  | .error e => clearFence fence e clearUnissuedAttach
  | .ok () =>
  if vmDiskRows targetVM volumeID = 1 then
    -- The exact VM is newer than the list: the desired state is there.
    fencesDelete fence
  else if vmDiskRows targetVM volumeID ≠ 0 then
    clearFence fence (.new "InSpace exact VM reported several attachment rows") id
  else reauthorizeAttach fuel a location volumeID vmUUID intent fence

/-- The intent of every call on a disk, without its VMs. -/
def attachmentIntent : DiskAttachmentIntent :=
  { operation := "disk-attachment", location := location, diskUUID := toLower volumeID,
    billingAccountID := a.billing }

def attachVolume : Code Unit := do
  let vmUUID ← resolveVM a location nodeID
  let _ ← getVolume a location volumeID
  lockVM vmUUID
  let intent := { attachmentIntent a location volumeID with desiredVMUUID := vmUUID }
  match ← prepareAttachmentFence fuel a intent 3 with
  | none => pure ()
  | some fence => attachFenced fuel a location volumeID vmUUID intent fence

/-! ### DetachVolume -/

/-- `^[a-z0-9](?:[-a-z0-9.]{0,251}[a-z0-9])?$`. -/
def nodeNamePattern (s : String) : Bool :=
  let edge c := ('a' ≤ c && c ≤ 'z') || ('0' ≤ c && c ≤ '9')
  s.toList.head?.any edge && s.toList.getLast?.any edge &&
    s.toList.all (fun c => edge c || c == '-' || c == '.') && s.toList.length ≤ 253

def missingNodeDetachTarget : Code Bool := do
  let nodeID := trimSpace nodeID
  if !nodeNamePattern nodeID || hasPrefix (toLower nodeID) "inspace://" then
    throw (.wrap .unavailable "missing-node detach received invalid Kubernetes node name")
  else
    let vm ← getOwnedVM a location attached
    check (requireExactVMAttachmentCollection vm)
    check (rejectPrimaryDiskReference vm volumeID)
    if vmDiskRows vm volumeID ≠ 1 then
      throw (.wrap .unavailable "exact VM does not report one attachment row for the disk")
    else check (← call (.missingNodeIdentity vm nodeID))

/-- What `DetachVolume` makes of the node it was given. -/
inductive DetachTarget
  /-- The requested pair is already unpublished. -/
  | unpublished
  /-- The VM that holds the disk is the requested one; `recovered` when its
  Node is missing. -/
  | attached (recovered : Bool)
deriving DecidableEq

/-- The middle of `DetachVolume`: is the VM that holds the disk the one meant? -/
def detachTarget : Code DetachTarget := do
  if nodeID = "" then pure (.attached false)
  else
  match ← attempt (resolveVM a location nodeID) with
  | .ok requested => pure (if requested = attached then .attached false else .unpublished)
  | .error e =>
    if e.is .nodeNotFound then do
      if ← missingNodeDetachTarget a location volumeID nodeID attached then
        pure (.attached true)
      else pure .unpublished
    else if e.is .invalidNode then
      throw (.wrap .unavailable ("cannot prove detach target for node: " ++ e.text))
    else throw e

def clearUnissuedDetach : Err → Err := .within "clear unissued disk-detach fence"

/-- `DetachVolume` once it may dispatch. -/
def dispatchDetach : Code Unit := do
  match ← call .dispatchReserve with
  | some e => clearFence fence e (.within "clear undispatched disk-detach fence")
  | none =>
  match ← call (.detachDisk location attached volumeID) with
  | .error .mutationBlocked => clearBlocked fence
  | .error e => finishAttachmentMutation fuel a intent fence (some e.toErr)
  | .ok () => finishAttachmentMutation fuel a intent fence none

/-- The second proof of a missing node's identity, right before the dispatch. -/
def reauthorizeMissingNode : Code Unit := do
  match ← attempt (missingNodeDetachTarget a location volumeID nodeID attached) with
  | .ok true => pure ()
  | .ok false =>
    clearFence fence (.wrap .unavailable
      "missing-node detach identity changed after authorization")
      (.within "clear unissued missing-node detach fence")
  | .error e => clearFence fence e (.within "clear unissued missing-node detach fence")

/-- The final authority of `DetachVolume`. -/
def reauthorizeDetach
    (recovered : Bool) (intent : DiskAttachmentIntent) (fence : MutationFence) : Code Unit := do
  match ← attempt (getOwnedDisk a location volumeID) with
  | .error e => clearFence fence e clearUnissuedDetach
  | .ok _ =>
  match ← attempt (attachedVM a location volumeID) with
  | .error e =>
    clearFence fence e (.within "clear unissued disk-detach fence after final attachment read")
  | .ok final =>
  if final = "" then fencesDelete fence
  else if final ≠ attached then
    clearFence fence (.wrap .volumeAttachedElsewhere "disk moved to another VM") id
  else
    if recovered then reauthorizeMissingNode a location volumeID nodeID attached fence else pure ()
    dispatchDetach fuel a location volumeID attached intent fence

/-- `DetachVolume` behind its fence. -/
def detachFenced
    (recovered : Bool) (intent : DiskAttachmentIntent) (fence : MutationFence) : Code Unit := do
  match ← attempt (attachedVM a location volumeID) with
  | .error e => clearFence fence e clearUnissuedDetach
  | .ok current =>
  if current = "" then fencesDelete fence
  else if current ≠ attached then
    clearFence fence (.wrap .volumeAttachedElsewhere "disk moved to another VM") id
  else
  match ← attempt (getOwnedVM a location attached) with
  | .error e => clearFence fence e clearUnissuedDetach
  | .ok targetVM =>
  match requireExactVMAttachmentCollection targetVM with
  | .error e => clearFence fence e clearUnissuedDetach
  | .ok () =>
  if vmDiskRows targetVM volumeID = 0 then
    -- The exact VM is newer than the list: the disk is already detached.
    fencesDelete fence
  else if vmDiskRows targetVM volumeID ≠ 1 then
    clearFence fence (.new "InSpace exact VM reported several attachment rows") id
  else reauthorizeDetach fuel a location volumeID nodeID attached recovered intent fence

def detachVolume : Code Unit := do
  let _ ← getOwnedDisk a location volumeID
  -- Any earlier attach or detach is resolved first: an empty readback must not
  -- be a success while an attach can still commit.
  let _ ← settleExistingAttachmentFence fuel a (attachmentIntent a location volumeID)
  let attached ← attachedVM a location volumeID
  if attached = "" then pure ()
  else
  match ← detachTarget a location volumeID nodeID attached with
  | .unpublished => pure ()
  | .attached recovered =>
    lockVM attached
    let intent := { attachmentIntent a location volumeID with
      previousVMUUID := attached
      recoveryNodeID := if recovered then trimSpace nodeID else "" }
    match ← prepareAttachmentFence fuel a intent 3 with
    | none => pure ()
    | some fence => detachFenced fuel a location volumeID nodeID attached recovered intent fence

/-! ### ExpandVolume -/

def diskCapacity (disk : Disk) : Except Err ℤ := do
  let volume ← diskVolume location disk
  return volume.capacityBytes

def definitiveResizeRejection : ClientError → Option Err
  | .api code retryable =>
    if retryable ∨ code < 400 ∨ 500 ≤ code ∨ code = 408 ∨ code = 425 ∨ code = 429 then none
    else if code = 401 ∨ code = 403 ∨ code = 404 ∨ code = 409 then
      some (normalizeAPIError (.api code retryable))
    else some (.wrap .rejected (ClientError.api code retryable).text)
  | .notFound => some (normalizeAPIError .notFound)
  | _ => none

/-- The loop of `waitForDiskSize`. -/
def waitForDiskSize (sizeGiB : ℤ) : ℕ → Code Disk
  | 0 => outOfRounds
  | fuel + 1 => do
    match ← attempt (getOwnedDisk a location volumeID) with
    | .ok disk =>
      if sizeGiB ≤ disk.sizeGiB then pure disk
      else
        waitMutationReadback
        waitForDiskSize sizeGiB fuel
    | .error e =>
      if e.is .permissionDenied ∨ e.is .notFound then throw e
      else
        withErr waitMutationReadback (·.join e)
        waitForDiskSize sizeGiB fuel

/-- `ExpandVolume` once it may dispatch. -/
def dispatchResize (sizeGiB : ℤ) : Code ℤ := do
  let readback (mutationErr : Option Err) : Code ℤ := do
    let resized ← withErr (waitForDiskSize a location volumeID sizeGiB fuel) fun e =>
      .wrap .unavailable ("disk did not reach its size: " ++ (GoError.joinOpt mutationErr e).text)
    check (diskCapacity location resized)
  match ← call (.resizeAttachedDisk location attached volumeID sizeGiB) with
  | .ok _ => readback none
  | .error .mutationBlocked => throw ClientError.mutationBlocked.toErr
  | .error e =>
  match definitiveResizeRejection e with
  | none => readback (some (normalizeAPIError e))
  | some rejection =>
    match ← attempt (getOwnedDisk a location volumeID) with
    | .ok disk =>
      if sizeGiB ≤ disk.sizeGiB then check (diskCapacity location disk) else throw rejection
    | .error _ => throw rejection

/-- The reads of `ExpandVolume` under the lock of the VM. -/
def expandLocked (sizeGiB : ℤ) : Code ℤ := do
  lockVM attached
  let disk ← getOwnedDisk a location volumeID
  if sizeGiB ≤ disk.sizeGiB then check (diskCapacity location disk)
  else
  let final ← attachedVM a location volumeID
  if final ≠ attached then throw (.wrap .conflict "disk moved to another VM before resize")
  else
  match ← call .dispatchReserve with
  | some e => throw e
  | none => dispatchResize fuel a location volumeID attached sizeGiB

def expandVolume (capacityBytes : ℤ) : Code ℤ := do
  let sizeGiB ← check (bytesToGiB capacityBytes)
  let disk ← getOwnedDisk a location volumeID
  if sizeGiB ≤ disk.sizeGiB then check (diskCapacity location disk)
  else
  let _ ← settleExistingAttachmentFence fuel a (attachmentIntent a location volumeID)
  let attached ← attachedVM a location volumeID
  if attached = "" then
    throw (.wrap .volumeNotAttached "disk must be attached to a node to expand")
  else
  let targetVM ← getOwnedVM a location attached
  check (requireExactVMAttachmentCollection targetVM)
  check (rejectPrimaryDiskReference targetVM volumeID)
  if vmDiskRows targetVM volumeID ≠ 1 then
    throw (.new "InSpace exact VM reported several attachment rows")
  else expandLocked fuel a location volumeID attached sizeGiB

end InSpaceKube.Csi
