/-
InSpaceKube/Csi/DeleteVolume.lean

`DeleteVolume` of the CSI adapter, with what it shares with the attachment
code: the location-wide attachment proof (`attachedVM`), the settling of an
older fence of the disk (`settleExistingAttachmentFence`), and the durable
absence proof (`waitForDiskAbsent`, `waitForDetached`).
-/
import InSpaceKube.Csi.Adapter
import Mathlib.Data.List.Sort

namespace InSpaceKube.Csi

open Prog

/-! ### Reading disks and VMs -/

variable (fuel : ℕ) (a : Adapter) (location : String) (intent : DiskAttachmentIntent)
  (volumeID : String) (fence : MutationFence) (diskUUID : String)

def getOwnedDisk : Code Disk := do
  match ← call (.getDisk location diskUUID) with
  | .error e => throw (normalizeAPIError e)
  | .ok none => throw (.new "InSpace API returned an empty disk response")
  | .ok (some disk) =>
    check (validateExactDisk disk diskUUID a.billing)
    if diskDeletedTombstone disk then throw (.wrap .notFound "cloud volume not found")
    else
      check (validateCSIMutableDisk disk diskUUID a.billing)
      pure disk

/-- One VM of the loop of `attachedVM`: whether it holds the disk. -/
def inspectVM (members : List String) (vmUUID : String) : Code Bool := do
  match ← call (.getVM location vmUUID) with
  | .error e => throw ((normalizeAPIError e).within "read exact VM while checking disk")
  | .ok none => throw (.new "InSpace exact VM read changed identity while checking disk")
  | .ok (some vm) =>
    if !equalFold (trimSpace vm.uuid) vmUUID then
      throw (.new "InSpace exact VM read changed identity while checking disk")
    else
      check (requireExactVMAttachmentCollection vm)
      check (rejectPrimaryDiskReference vm diskUUID)
      let rows := vmDiskRows vm diskUUID
      if 1 < rows then throw (.new "InSpace exact VM reported several attachment rows")
      else if vmUUID ∈ members then
        withErr (check (validateExactVM a.network a.billing vm vmUUID)) fun e =>
          e.within "validate configured-VPC VM while checking disk"
        pure (rows == 1)
      else if 0 < rows then
        throw (.wrap .volumeAttachedElsewhere "disk is attached to a VM outside the configured VPC")
      else pure false

/-- The loop of `attachedVM` over the canonical, sorted, distinct VM UUIDs. -/
def inspectVMs (members : List String) : List String → String → Code String
  | [], attached => pure attached
  | vmUUID :: rest, attached => do
    let holds ← inspectVM a location diskUUID members vmUUID
    if holds then
      if attached ≠ "" ∧ attached ≠ vmUUID then
        throw (.new "InSpace reported disk attached to multiple VMs")
      else inspectVMs members rest vmUUID
    else inspectVMs members rest attached

/-- The canonical UUIDs of the listed VMs, which are valid and distinct. -/
def listedVMs (vms : List VM) : Except Err (List String) :=
  vms.foldlM (fun listed summary =>
    let vmUUID := toLower (trimSpace summary.uuid)
    if !uuidPattern vmUUID then .error (.new "InSpace listed a VM with invalid UUID")
    else if vmUUID ∈ listed then .error (.new "InSpace listed a VM more than once")
    else .ok (listed ++ [vmUUID])) []

def attachedVM : Code String := do
  if a.network = "" then
    throw (.wrap .invalidNode "configured VPC UUID is required for CSI attachment discovery")
  else
  match ← call (.listVMs location) with
  | .error e => throw (normalizeAPIError e)
  | .ok vms =>
  match ← call (.getNetwork location a.network) with
  | .error e => throw (normalizeAPIError e)
  | .ok none =>
    throw (.new "InSpace API returned an empty network response while checking disk attachment")
  | .ok (some network) =>
  if !equalFold (trimSpace network.uuid) a.network then
    throw (.new "InSpace exact network read returned another UUID")
  else
    let members ← withErr (check (canonicalNetworkVMMembers network.vmUUIDs)) fun e =>
      e.within "InSpace network has invalid VM membership while checking disk attachment"
    let listed ← check (listedVMs vms)
    inspectVMs a location diskUUID members ((members ++ listed).dedup.insertionSort (· ≤ ·)) ""

/-! ### Settling an older fence of the disk -/

/-- The loop of `waitForAttachment`. -/
def waitForAttachment (desired transitional : String) : ℕ → Code Unit
  | 0 => outOfRounds
  | fuel + 1 => do
    let current ← attachedVM a location volumeID
    if current = desired then pure ()
    else if current ≠ transitional then
      throw (.wrap .volumeAttachedElsewhere "disk converged to another VM")
    else
      waitMutationReadback
      waitForAttachment desired transitional fuel

/-- What `observeDetachState` collects from the listing: the VM the disk is
listed on, the number of rows, and what is wrong with them. -/
def listedDetachState (vms : List VM) (intent : DiskAttachmentIntent) : String × ℕ × Option Err :=
  let rows := vms.flatMap fun vm =>
    ((vm.storage.getD []).filter fun s => equalFold s.uuid intent.diskUUID).map fun s => (vm, s)
  rows.foldl (fun (listedVM, n, err) (vm, s) =>
    let err := if s.primary then
        some (GoError.joinOpt err (.wrap .permissionDenied "disk is listed as the primary boot disk of a VM"))
      else err
    let vmUUID := toLower vm.uuid
    if !uuidPattern vmUUID then
      (if listedVM = "" then "<invalid-vm>" else listedVM, n + 1,
        some (GoError.joinOpt err (.new "InSpace reported disk on a VM with invalid UUID")))
    else
      (if listedVM = "" ∨ listedVM = "<invalid-vm>" then vmUUID else listedVM, n + 1,
        if listedVM ≠ "" ∧ !equalFold listedVM vmUUID then
          some (GoError.joinOpt err (.new "InSpace reported disk attached to multiple VMs"))
        else err))
    ("", 0, none)

/-- What `observeDetachState` reads off the exact VM: whether it holds the
disk, and what is wrong with it. -/
def exactDetachState (vm : VM) (intent : DiskAttachmentIntent) : Bool × Option Err :=
  if !equalFold vm.uuid intent.previousVMUUID then
    (false, some (.new "InSpace API returned another VM for exact detach readback"))
  else
    match (do validateExactVM a.network a.billing vm intent.previousVMUUID
              requireExactVMAttachmentCollection vm
              rejectPrimaryDiskReference vm intent.diskUUID : Except Err Unit) with
    | .error e => (false, some e)
    | .ok () =>
      let rows := vmDiskRows vm intent.diskUUID
      (0 < rows, if 1 < rows then
          some (.new "InSpace reported disk in several exact attachment rows")
        else none)

/-- `errors.Join` of two errors that may be nil. -/
def joinErrs : Option Err → Option Err → Option Err
  | none, e => e
  | e, none => e
  | some e₁, some e₂ => some (e₁.join e₂)

/-- `observeDetachState`: the VM the disk is seen on, and what is wrong. -/
def observeDetachState : Code (String × Option Err) := do
  match ← call (.listVMs intent.location) with
  | .error e => pure ("", some (normalizeAPIError e))
  | .ok vms =>
  let (listedVM, rows, err) := listedDetachState vms intent
  let listErr := if 1 < rows then
      some (GoError.joinOpt err (.new "InSpace reported disk in several ListVMs attachment rows"))
    else err
  match ← call (.getVM intent.location intent.previousVMUUID) with
  | .error .notFound => pure (listedVM, listErr)
  | .error e => pure ("", some (normalizeAPIError e))
  | .ok none =>
    pure ("", some (.new "InSpace API returned an empty VM during detach readback"))
  | .ok (some vm) =>
    let (exactPresent, exactErr) := exactDetachState a vm intent
    if listedVM ≠ "" then pure (listedVM, joinErrs listErr exactErr)
    else if exactPresent then
      pure (toLower intent.previousVMUUID, joinErrs listErr exactErr)
    else pure ("", joinErrs listErr exactErr)

/-- `updateMutationObservation`: the fence as it stands now, or `none` when it
is gone. -/
def updateMutationObservation
    (observation : Option MutationObservation) : Code (Option MutationFence) := do
  match ← call (.fenceSetObservation fence observation) with
  | .ok updated => pure (some updated)
  | .error e =>
    if !e.is .mutationFenceChanged then throw e
    else
    match ← call (.fenceGet fence.key) with
    | none => pure none
    | some current =>
      if !sameMutationFenceAuthority current fence then
        throw (.wrap .conflict "CSI mutation authority changed during observation update")
      else pure (some current)

/-- `validateMutationObservationSpacing`, on decoded timestamps. -/
def validateMutationObservationSpacing (o : MutationObservation) (interval : ℤ) : Except Err Unit :=
  if o.count < 2 then .ok ()
  else match o.lastObservedAt with
    | none => .error (.new "CSI mutation fence observation spacing is invalid")
    | some last =>
      if interval ≤ 0 then .error (.new "CSI mutation fence observation spacing is invalid")
      else if last < o.firstObservedAt + (o.count - 1 : ℤ) * interval then
        .error (.new "CSI mutation fence observation was not spaced by the interval")
      else .ok ()

/-- The observation a wait loop starts its round from. -/
def decodeObservation (kind : ObservationKind) (fence : MutationFence) :
    Except Err (Option MutationObservation) :=
  match fence.observation with
  | none => .ok none
  | some o => do
    FenceStore.validateMutationObservation o
    if o.kind ≠ kind then
      throw (.new "mutation fence contains another operation's absence observation")
    else
      validateMutationObservationSpacing o a.absencePoll
      pure (some o)

/-- The instant of the latest observation. -/
def MutationObservation.previousAt (o : MutationObservation) : ℤ :=
  if o.count = 2 then o.lastObservedAt.getD 0 else o.firstObservedAt

/-- What a wait loop does after a round in which the absence was seen. -/
inductive AbsenceRound
  /-- The fence disappeared: another process completed it. -/
  | completed
  /-- Go on with this fence. -/
  | again (fence : MutationFence)
  /-- The absence is proven. -/
  | proven (fence : MutationFence)

/-- The `switch observation.Count` of `waitForDiskAbsent` and
`waitForDetached`, which differ only in the kind they persist. -/
def recordAbsence (kind : ObservationKind) (fence : MutationFence)
    (observation : Option MutationObservation) : Code AbsenceRound := do
  let now ← call .now
  match observation with
  | none =>
    match ← updateMutationObservation fence (some ⟨kind, 1, now, none⟩) with
    | none => pure .completed
    | some updated => waitMutationReadback; pure (.again updated)
  | some o =>
    if o.count = 3 then pure (.proven fence)
    else
      if now < o.previousAt + a.absencePoll then
        -- `waitMutationReadbackUntil`, then the next round
        waitMutationReadback
        pure (.again fence)
      else
      let next : MutationObservation := ⟨kind, o.count + 1, o.firstObservedAt, some now⟩
      check (FenceStore.validateMutationObservation next)
      match ← updateMutationObservation fence (some next) with
      | none => pure .completed
      | some updated =>
        if o.count = 2 then pure (.proven updated)
        else
          waitMutationReadback
          pure (.again updated)

/-- What is seen breaks the absence proof: the observation is withdrawn. -/
def withdrawObservation (text : String) : Code MutationFence := do
  match fence.observation with
  | none => pure fence
  | some _ =>
    match ← updateMutationObservation fence none with
    | none => throw (.new text)
    | some updated => pure updated

/-- The loop of `waitForDetached`; `none` when the fence was completed by
another process. -/
def waitForDetached : ℕ → MutationFence → Code (Option MutationFence)
  | 0, _ => outOfRounds
  | fuel + 1, fence => do
    let observation ← check (decodeObservation a .detachAbsence fence)
    let (visibleVM, stateErr) ← observeDetachState a intent
    if visibleVM ≠ "" then
      let fence ← withdrawObservation fence
        "detach mutation fence disappeared while its disk was visible"
      match stateErr with
      | some e => throw e
      | none =>
        if !equalFold visibleVM intent.previousVMUUID then
          throw (.wrap .volumeAttachedElsewhere "disk converged to a VM instead of detached")
        else
          waitMutationReadback
          waitForDetached fuel fence
    else
    match stateErr with
    | some e => throw e
    | none =>
    match ← recordAbsence a .detachAbsence fence observation with
    | .completed => pure none
    | .proven fence => pure (some fence)
    | .again fence => waitForDetached fuel fence

def waitForFencedAttachment : Code (Option MutationFence) := do
  if intent.billingAccountID ≠ a.billing ∨ intent.billingAccountID ≤ 0 then
    throw (.wrap .conflict "attachment fence billing account does not match the configured account")
  else if intent.desiredVMUUID ≠ "" then
    if fence.observation.isSome then
      throw (.new "attach mutation fence contains a detach-absence observation")
    else
      waitForAttachment a intent.location intent.diskUUID intent.desiredVMUUID
        intent.previousVMUUID fuel
      pure (some fence)
  else if intent.previousVMUUID = "" ∨ !uuidPattern (toLower intent.previousVMUUID) then
    throw (.new "detach mutation fence has an invalid previous VM UUID")
  else waitForDetached a intent fuel fence

def settleExistingAttachmentFence (requested : DiskAttachmentIntent) : Code Bool := do
  if requested.billingAccountID ≠ a.billing ∨ requested.billingAccountID ≤ 0 then
    throw (.wrap .conflict "requested disk mutation billing account does not match the configured account")
  else
  match ← call (.fenceGet (diskAttachmentFenceKey requested.location requested.diskUUID)) with
  | none => pure false
  | some fence =>
  let intent := decodeDiskAttachmentIntent fence
  if intent.location ≠ requested.location ∨ intent.diskUUID ≠ requested.diskUUID ∨
      intent.billingAccountID ≠ a.billing then
    throw (.wrap .conflict "attachment fence identity does not match disk")
  else if intent.operation = "disk-delete" then
    throw (.wrap .unavailable "disk deletion remains protected by its durable fence")
  else if intent.operation ≠ "disk-attachment" then
    throw (.wrap .conflict "unknown disk mutation fence operation")
  else
  match ← withErr (waitForFencedAttachment fuel a intent fence) (fun e => .wrap .unavailable
      ("unresolved durable attachment fence; operator must inspect cloud state: " ++ e.text)) with
  | none => pure (decide (intent = requested))
  | some resolved =>
    withErr (fencesDelete resolved) fun e =>
      .wrap .unavailable ("complete attachment fence: " ++ e.text)
    pure (decide (intent = requested))

/-! ### DeleteVolume -/

/-- The loop of `prepareDiskDeleteFence`, at most three rounds. -/
def prepareDiskDeleteFence : ℕ → Code (MutationFence × Bool)
  | 0 => throw (.wrap .unavailable "disk-delete fence changed repeatedly during acquisition")
  | rounds + 1 => do
    let key := diskAttachmentFenceKey intent.location intent.diskUUID
    match ← call (.fenceGet key) with
    | some current =>
      if decodeDiskAttachmentIntent current = intent then pure (current, false)
      else
        let _ ← settleExistingAttachmentFence fuel a intent
        prepareDiskDeleteFence rounds
    | none =>
      let attempt ← call .newAttempt
      let (stored, acquired) ← call (.fenceCreate
        { key := key, intent := .diskAttachment intent, attempt := attempt })
      if decodeDiskAttachmentIntent stored = intent then pure (stored, acquired)
      else prepareDiskDeleteFence rounds

/-- One fence of the loop of `matchingDiskCreateFence`. -/
def matchDiskCreateFence (disk : Option Disk)
    (found : Option MutationFence) (fence : MutationFence) : Except Err (Option MutationFence) := do
  let intent := decodeDiskCreateIntent fence
  if intent.operation ≠ "create-disk" ∨ !equalFold intent.location location then
    throw (.wrap .conflict "malformed disk-create fence")
  else
  let matchesReceipt := fence.receipt ≠ "" ∧ equalFold fence.receipt volumeID
  let matchesName := disk.any fun d => d.displayName ≠ "" && d.displayName == intent.name
  if (disk.any fun d => d.displayName == "") ∧ fence.receipt = "" then
    throw (.wrap .unavailable "cannot exclude unresolved create fence while disk has no display name")
  else if ¬ matchesReceipt ∧ !matchesName then pure found
  else if found.isSome then
    throw (.wrap .conflict "multiple durable create fences match disk")
  else if fence.receipt = "" then
    throw (.wrap .unavailable "create fence has no exact disk receipt and could still commit")
  else if !equalFold fence.receipt volumeID then
    throw (.wrap .conflict "create fence receipt conflicts with disk")
  else
    match disk with
    | none => pure (some fence)
    | some d => do
      validateDiskCreateReadback d intent
      pure (some fence)

def matchingDiskCreateFence (disk : Option Disk) : Code (Option MutationFence) := do
  let fences ← call (.fenceList ("disk-create/" ++ toLower location ++ "/"))
  check (fences.foldlM (matchDiskCreateFence location volumeID disk) none)

/-- What the exact GET of `waitForDiskAbsent` shows. -/
def observeDiskAbsent : Code Bool := do
  match ← call (.getDisk location volumeID) with
  | .error .notFound => pure true
  | .error _ => pure false
  | .ok none => pure false
  | .ok (some disk) =>
    check (validateExactDisk disk volumeID a.billing)
    pure (diskDeletedTombstone disk)

/-- What the listing of `waitForDiskAbsent` shows. -/
def observeDiskUnlisted : Code Bool := do
  match ← call (.listDisks location) with
  | .error _ => pure false
  | .ok disks =>
    let rows := disks.filter fun d => equalFold d.uuid volumeID
    check (rows.forM fun d => validateExactDisk d volumeID a.billing)
    if 1 < rows.length then throw (.wrap .conflict "disk list contains a UUID several times")
    else pure rows.isEmpty

/-- The loop of `waitForDiskAbsent`; `none` when the fence was completed by
another process. -/
def waitForDiskAbsent : ℕ → MutationFence → Code (Option MutationFence)
  | 0, _ => outOfRounds
  | fuel + 1, fence => do
    let observation ← check (decodeObservation a .diskDeleteAbsence fence)
    let getAbsent ← observeDiskAbsent a location volumeID
    let listAbsent ← observeDiskUnlisted a location volumeID
    if !getAbsent || !listAbsent then
      let fence ← withdrawObservation fence
        "disk-delete mutation fence disappeared while its disk was visible"
      waitMutationReadback
      waitForDiskAbsent fuel fence
    else
    match ← recordAbsence a .diskDeleteAbsence fence observation with
    | .completed => pure none
    | .proven fence => pure (some fence)
    | .again fence => waitForDiskAbsent fuel fence

/-- Delete a fence, if there is one. -/
def completeFence (fence : Option MutationFence) (text : String) : Code Unit :=
  match fence with
  | none => pure ()
  | some fence => withErr (fencesDelete fence) fun e => .wrap .unavailable (text ++ e.text)

/-- The end of `DeleteVolume`: the absence is proven, then the matching create
fence and the delete fence are completed.  A delete fence that is gone is the
zero fence, whose key is not in the store. -/
def completeDeletion (createFence : Option MutationFence) (deleteFence : MutationFence)
    (mutationErr : Option Err) : Code Unit := do
  let resolved ← withErr (waitForDiskAbsent a location volumeID fuel deleteFence) fun e =>
    .wrap .unavailable ("disk deletion remains ambiguous behind its durable fence: " ++
      (GoError.joinOpt mutationErr e).text)
  completeFence createFence "complete matching disk-create fence after deletion: "
  completeFence resolved "complete disk-delete fence after absence proof: "

/-- A failure of `DeleteVolume` before its dispatch: a fence this invocation
issued is cleared. -/
def failUnissued {α : Type} (issueDelete : Bool) (deleteFence : MutationFence) (cause : Err)
    (wrap : Err → Err) : Code α :=
  if issueDelete then clearFence deleteFence cause wrap else throw cause

def clearUnissued : Err → Err := .within "clear unissued disk-delete fence"

/-- The first exact read of `DeleteVolume`: the disk, or `none` when it is missing. -/
def readDeleteTarget (issueDelete : Bool) (deleteFence : MutationFence) : Code (Option Disk) := do
  match ← call (.getDisk location volumeID) with
  | .error .notFound => pure none
  | .error e => failUnissued issueDelete deleteFence (normalizeAPIError e) clearUnissued
  | .ok none =>
    failUnissued issueDelete deleteFence (.new "InSpace API returned an empty disk response") id
  | .ok (some disk) =>
    match validateExactDisk disk volumeID a.billing with
    | .error e => failUnissued issueDelete deleteFence e clearUnissued
    | .ok () =>
    if issueDelete ∧ !diskDeletedTombstone disk then
      match validateCSIMutableDisk disk volumeID a.billing,
          requireExactDiskSnapshotCollection disk with
      | .error e, _ =>
        clearFence deleteFence e (.within "clear unauthorized disk-delete fence")
      | .ok (), .error e => clearFence deleteFence e clearUnissued
      | .ok (), .ok () => pure (some disk)
    else pure (some disk)

/-- The first half of the authority of `DeleteVolume`: no snapshot, no VM. -/
def authorizeDelete (disk : Disk) (deleteFence : MutationFence) : Code Unit := do
  if snapshotCount disk ≠ 0 then
    clearFence deleteFence (.wrap .snapshotsPresent "disk has snapshots") id
  else
  match ← attempt (attachedVM a location volumeID) with
  | .error e => clearFence deleteFence e clearUnissued
  | .ok vm =>
    if vm ≠ "" then clearFence deleteFence (.wrap .volumeAttachedElsewhere vm) id
    else pure ()

/-- The final authority of `DeleteVolume`: the disk and its attachment are read
once more. -/
def reauthorizeDelete (deleteFence : MutationFence) : Code Unit := do
  match ← attempt (getOwnedDisk a location volumeID) with
  | .error e => clearFence deleteFence e clearUnissued
  | .ok freshDisk =>
  match requireExactDiskSnapshotCollection freshDisk with
  | .error e => clearFence deleteFence e clearUnissued
  | .ok () =>
  if snapshotCount freshDisk ≠ 0 then
    clearFence deleteFence (.wrap .snapshotsPresent "disk has snapshots") id
  else
  match ← attempt (attachedVM a location volumeID) with
  | .error e =>
    clearFence deleteFence e
      (.within "clear unissued disk-delete fence after final attachment read")
  | .ok vm =>
  if vm ≠ "" then clearFence deleteFence (.wrap .volumeAttachedElsewhere vm) id
  else
  match ← call .dispatchReserve with
  | some e => clearFence deleteFence e (.within "clear undispatched disk-delete fence")
  | none => pure ()

/-- `DeleteVolume` once it may dispatch. -/
def dispatchDelete
    (createFence : Option MutationFence) (deleteFence : MutationFence) : Code Unit := do
  match ← call (.deleteDisk location volumeID) with
  | .error .mutationBlocked =>
    clearFence deleteFence ClientError.mutationBlocked.toErr
      (.within "clear locally blocked disk-delete fence")
  | .error e => completeDeletion fuel a location volumeID createFence deleteFence (some e.toErr)
  | .ok () => completeDeletion fuel a location volumeID createFence deleteFence none

def deleteVolume : Code Unit := do
  let (deleteFence, issueDelete) ← prepareDiskDeleteFence fuel a
    { operation := "disk-delete", location := location, diskUUID := toLower volumeID,
      billingAccountID := a.billing } 3
  let disk ← readDeleteTarget a location volumeID issueDelete deleteFence
  match ← attempt (matchingDiskCreateFence location volumeID disk) with
  | .error e => failUnissued issueDelete deleteFence e clearUnissued
  | .ok createFence =>
  match disk with
  | none =>
    completeDeletion fuel a location volumeID createFence deleteFence none
    throw (.wrap .notFound "cloud volume not found")
  | some disk =>
  if diskDeletedTombstone disk ∨ !issueDelete then
    completeDeletion fuel a location volumeID createFence deleteFence none
  else
    authorizeDelete a location volumeID disk deleteFence
    reauthorizeDelete a location volumeID deleteFence
    dispatchDelete fuel a location volumeID createFence deleteFence

end InSpaceKube.Csi
