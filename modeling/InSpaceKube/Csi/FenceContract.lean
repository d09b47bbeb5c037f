/-
InSpaceKube/Csi/FenceContract.lean

What the adapter's code asks for, in terms of any contract: code that only
reads keeps to every contract that permits reads (`Reads`), a wait for an
absence to every contract under which a fence may be observed (`Keeps`), and
the end of a deletion to every contract under which it may also be deleted
(`Completes`).  `D` is what is known of such a fence.
-/
import InSpaceKube.Csi.AttachVolume
import InSpaceKube.Prog.Uses

namespace InSpaceKube.Csi

open Prog Contract

/-- The requests that issue no attempt, change no fence, and neither create a
disk nor move it. -/
def Op.Plain : Op → Prop
  | .createDisk _ _ | .attachDisk _ _ _ | .detachDisk _ _ _ => False
  | .fenceCreate _ | .fenceSetReceipt _ _ | .fenceSetObservation _ _ | .fenceDelete _ => False
  | .newAttempt => False
  | _ => True

/-- The contract permits the plain requests. -/
structure Reads (C : Contract Op Reply) : Prop where
  ok : ∀ op : Op, op.Plain → C.ok op

/-- A fence in `D` may be observed, and is in `D` afterwards. -/
structure Keeps (C : Contract Op Reply) (D : MutationFence → Prop) : Prop extends Reads C where
  observe : ∀ f o, D f → C.ok (.fenceSetObservation f o)
  observed : ∀ f o g, D f → C.rep (.fenceSetObservation f o) (.ok g) → D g
  got : ∀ f g, D f → C.rep (.fenceGet f.key) (some g) → sameMutationFenceAuthority g f = true → D g

/-- A fence in `D` may be deleted. -/
structure Completes (C : Contract Op Reply) (D : MutationFence → Prop) : Prop
    extends Keeps C D where
  delete : ∀ f, D f → C.ok (.fenceDelete f)

/-- A fence that is handed back is in `D`. -/
def Kept (D : MutationFence → Prop) (r : Option MutationFence) : Prop := ∀ g, r = some g → D g

section

variable {α : Type} {a : Adapter} {location volumeID : String} {fence : MutationFence}
variable {C : Contract Op Reply} {D : MutationFence → Prop}

/-! ### Reads -/

section

variable (hC : Reads C)

include hC

theorem Reads.read {op : Op} (h : op.Plain) : C.UsesE (call op) (C.rep op) :=
  UsesE.perform (hC.ok op h)

theorem Reads.waitMutationReadback_uses : C.Obeys waitMutationReadback := by
  refine .bind (hC.read trivial) fun r _ => ?_
  cases r with
  | none => exact .pure trivial
  | some => exact .throw

theorem Reads.getOwnedDisk_uses : C.Obeys (getOwnedDisk a location volumeID) := by
  refine .bind (hC.read trivial) fun r _ => ?_
  rcases r with _ | - | _
  · exact .throw
  · exact .throw
  · refine .skip fun {_} => ?_
    split
    · exact .throw
    · exact .done .checked

theorem Reads.inspectVM_uses {members : List String} {vmUUID : String} :
    C.Obeys (inspectVM a location volumeID members vmUUID) := by
  refine .bind (hC.read trivial) fun r _ => ?_
  rcases r with _ | - | _
  · exact .throw
  · exact .throw
  · dsimp only
    split
    · exact .throw
    · refine .skip ?_
      refine .skip fun {_} => ?_
      split
      · exact .throw
      · split
        · exact .done (UsesE.withErr .checked _)
        · split
          · exact .throw
          · exact .pure trivial

theorem Reads.inspectVMs_uses {members vmUUIDs : List String} {attached : String} :
    C.Obeys (inspectVMs a location volumeID members vmUUIDs attached) := by
  induction vmUUIDs generalizing attached with
  | nil => exact .pure trivial
  | cons vmUUID _ ih =>
    refine .bind hC.inspectVM_uses fun holds _ => ?_
    split
    · split
      · exact .throw
      · exact ih
    · exact ih

theorem Reads.attachedVM_uses : C.Obeys (attachedVM a location volumeID) := by
  unfold attachedVM
  split
  · exact .throw
  · refine .bind (hC.read trivial) fun r _ => ?_
    rcases r with e | _
    · exact .throw
    · refine .bind (hC.read trivial) fun r _ => ?_
      rcases r with _ | - | _
      · exact .throw
      · exact .throw
      · dsimp only
        split
        · exact .throw
        · refine .bind (UsesE.withErr .checked _) fun _ _ => ?_
          refine .skip ?_
          exact hC.inspectVMs_uses

theorem Reads.waitForAttachment_uses {desired transitional : String} {fuel : ℕ} :
    C.Obeys (waitForAttachment a location volumeID desired transitional fuel) := by
  induction fuel with
  | zero => exact .outOfRounds
  | succ _ ih =>
    refine .bind hC.attachedVM_uses fun current _ => ?_
    split
    · exact .pure trivial
    · split
      · exact .throw
      · exact .bind hC.waitMutationReadback_uses fun _ _ => ih

theorem Reads.observeDetachState_uses {intent : DiskAttachmentIntent} :
    C.Obeys (observeDetachState a intent) := by
  refine .bind (hC.read trivial) fun r _ => ?_
  rcases r with e | _
  · exact .pure trivial
  · refine .bind (hC.read trivial) fun r _ => ?_
    rcases r with e | - | _
    · cases e <;> exact .pure trivial
    · exact .pure trivial
    · dsimp only
      split
      · exact .pure trivial
      · split <;> exact .pure trivial

theorem Reads.observeDiskAbsent_uses : C.Obeys (observeDiskAbsent a location volumeID) := by
  refine .bind (hC.read trivial) fun r _ => ?_
  rcases r with e | - | _
  · cases e <;> exact .pure trivial
  · exact .pure trivial
  · exact .done .checked

theorem Reads.observeDiskUnlisted_uses : C.Obeys (observeDiskUnlisted a location volumeID) := by
  refine .bind (hC.read trivial) fun r _ => ?_
  rcases r with _ | _
  · exact .pure trivial
  · refine .skip fun {_} => ?_
    split
    · exact .throw
    · exact .pure trivial

theorem Reads.lockVM_uses {vmUUID : String} : C.Obeys (lockVM vmUUID) := by
  refine .bind (hC.read trivial) fun r _ => ?_
  cases r with
  | none => exact .pure trivial
  | some => exact .throw

theorem Reads.getVPCVM_uses {vmUUID : String} : C.Obeys (getVPCVM a location vmUUID) := by
  unfold getVPCVM
  split
  · exact .throw
  · refine .bind (hC.read trivial) fun r _ => ?_
    rcases r with e | - | _
    · exact .throw
    · exact .throw
    · refine .skip ?_
      refine .bind (hC.read trivial) fun r _ => ?_
      rcases r with _ | _
      · exact .throw
      · dsimp only
        split
        · exact .throw
        · refine .bind (UsesE.withErr .checked _) fun _ _ => ?_
          split
          · exact .pure trivial
          · exact .throw

theorem Reads.getOwnedVM_uses {vmUUID : String} : C.Obeys (getOwnedVM a location vmUUID) := by
  refine .bind hC.getVPCVM_uses fun vm _ => ?_
  refine .bind (hC.read trivial) fun r _ => ?_
  rcases r with _ | _
  · exact .throw
  · dsimp only
    split
    · exact .pure trivial
    · exact .throw

theorem Reads.resolveVM_uses {nodeID : String} : C.Obeys (resolveVM a location nodeID) := by
  unfold resolveVM
  dsimp only
  split
  · exact .throw
  · have hnode : C.Obeys (nodeProviderID (trimSpace nodeID)) := by
      unfold nodeProviderID
      split
      · exact .pure trivial
      · exact UsesE.withErr
          (UsesE.bind (hC.read (by trivial)) fun _ _ => .checked) _
    refine .bind hnode fun providerID _ => ?_
    refine .bind (UsesE.withErr .checked _) fun parsed _ => ?_
    obtain ⟨_, vmUUID⟩ := parsed
    split
    · exact .throw
    · exact .done (UsesE.withErr hC.getVPCVM_uses _)

theorem Reads.getVolume_uses : C.Obeys (getVolume a location volumeID) :=
  UsesE.bind hC.getOwnedDisk_uses fun _ _ => .checked

theorem Reads.missingNodeDetachTarget_uses {nodeID attached : String} :
    C.Obeys (missingNodeDetachTarget a location volumeID nodeID attached) := by
  unfold missingNodeDetachTarget
  dsimp only
  split
  · exact .throw
  · refine .bind hC.getOwnedVM_uses fun vm _ => ?_
    refine .skip ?_
    refine .skip fun {_} => ?_
    split
    · exact .throw
    · exact .bind (hC.read trivial) fun _ _ => .checked

theorem Reads.detachTarget_uses {nodeID attached : String} :
    C.Obeys (detachTarget a location volumeID nodeID attached) := by
  unfold detachTarget
  split
  · exact .pure trivial
  · refine .bind (UsesE.attempt hC.resolveVM_uses) fun r _ => ?_
    cases r with
    | ok => exact .pure trivial
    | error =>
      dsimp only
      split
      · refine .bind hC.missingNodeDetachTarget_uses fun found _ => ?_
        split <;> exact .pure trivial
      · split <;> exact .throw

theorem Reads.waitForDiskSize_uses {sizeGiB : ℤ} {fuel : ℕ} :
    C.Obeys (waitForDiskSize a location volumeID sizeGiB fuel) := by
  induction fuel with
  | zero => exact .outOfRounds
  | succ _ ih =>
    refine .bind (UsesE.attempt hC.getOwnedDisk_uses) fun r _ => ?_
    cases r with
    | ok =>
      dsimp only
      split
      · exact .pure trivial
      · exact .bind hC.waitMutationReadback_uses fun _ _ => ih
    | error =>
      dsimp only
      split
      · exact .throw
      · exact .bind (UsesE.withErr hC.waitMutationReadback_uses _) fun _ _ => ih

theorem Reads.dispatchResize_uses {fuel : ℕ} {attached : String} {sizeGiB : ℤ} :
    C.Obeys (dispatchResize fuel a location volumeID attached sizeGiB) := by
  have hreadback (mutationErr : Option Err) : C.Obeys (do
      let resized ← withErr (waitForDiskSize a location volumeID sizeGiB fuel) fun e =>
        .wrap .unavailable ("disk did not reach its size: " ++ (GoError.joinOpt mutationErr e).text)
      check (diskCapacity location resized) : Code ℤ) :=
    UsesE.bind (UsesE.withErr hC.waitForDiskSize_uses _) fun _ _ =>
      .checked
  refine .bind (hC.read trivial) fun r _ => ?_
  rcases r with e | _
  · cases e with
    | mutationBlocked => exact .throw
    | _ =>
      dsimp only
      split
      · exact hreadback _
      · refine .bind (UsesE.attempt hC.getOwnedDisk_uses) fun r _ => ?_
        cases r with
        | ok =>
          dsimp only
          split
          · exact .check fun _ _ => trivial
          · exact .throw
        | error => exact .throw
  · exact hreadback none

theorem Reads.expandLocked_uses {fuel : ℕ} {attached : String} {sizeGiB : ℤ} :
    C.Obeys (expandLocked fuel a location volumeID attached sizeGiB) := by
  refine .bind hC.lockVM_uses fun _ _ => ?_
  refine .bind hC.getOwnedDisk_uses fun disk _ => ?_
  split
  · exact .check fun _ _ => trivial
  · refine .bind hC.attachedVM_uses fun final _ => ?_
    split
    · exact .throw
    · refine .bind (hC.read trivial) fun r _ => ?_
      cases r with
      | some => exact .throw
      | none => exact hC.dispatchResize_uses

end

/-! ### The readback of a detach -/

/-- The exact readback of a detach that finds nothing wrong and no disk. -/
theorem exactDetachState_none {vm : VM} {intent : DiskAttachmentIntent}
    (h : exactDetachState a vm intent = (false, none)) :
    vmDiskRows vm intent.diskUUID = 0 := by
  unfold exactDetachState at h
  split at h
  · cases h
  · split at h
    · cases h
    · simp only [Prod.mk.injEq, decide_eq_false_iff_not] at h
      omega

theorem joinErrs_none {e e' : Option Err} (h : joinErrs e e' = none) : e = none ∧ e' = none := by
  cases e <;> cases e' <;> first | exact ⟨rfl, rfl⟩ | cases h

/-! ### The create fence of the disk -/

theorem matchDiskCreateFence_cases {disk : Option Disk} {found r : Option MutationFence}
    (h : matchDiskCreateFence location volumeID disk found fence = .ok r) :
    r = found ∨ (r = some fence ∧ fence.receipt ≠ "") := by
  unfold matchDiskCreateFence at h
  dsimp only at h
  split at h
  · cases h
  · split at h
    · cases h
    · split at h
      · cases h
        exact .inl rfl
      · split at h
        · cases h
        · split at h
          · cases h
          · next hreceipt =>
            split at h
            · cases h
            · cases disk with
              | none => cases h; exact .inr ⟨rfl, hreceipt⟩
              | some d =>
                dsimp only at h
                cases hd : validateDiskCreateReadback d (decodeDiskCreateIntent fence) with
                | error => rw [hd] at h; cases h
                | ok => rw [hd] at h; cases h; exact .inr ⟨rfl, hreceipt⟩

theorem foldlM_matchDiskCreateFence {disk : Option Disk} {fences : List MutationFence}
    {found r : Option MutationFence}
    (h : fences.foldlM (matchDiskCreateFence location volumeID disk) found = .ok r) :
    r = found ∨ ∃ f ∈ fences, r = some f ∧ f.receipt ≠ "" := by
  induction fences generalizing found with
  | nil => cases h; exact .inl rfl
  | cons fence _ ih =>
    rw [List.foldlM_cons] at h
    cases hstep : matchDiskCreateFence location volumeID disk found fence with
    | error => rw [hstep] at h; cases h
    | ok =>
      rw [hstep] at h
      rcases ih h with rfl | ⟨f, hf, hr⟩
      · rcases matchDiskCreateFence_cases hstep with rfl | hr
        · exact .inl rfl
        · exact .inr ⟨fence, .head _, hr⟩
      · exact .inr ⟨f, .tail _ hf, hr⟩

/-- The create fence that is found was listed, and has a receipt. -/
theorem Reads.matchingDiskCreateFence_uses (hC : Reads C) (disk : Option Disk) :
    C.UsesE (matchingDiskCreateFence location volumeID disk) (Kept fun f =>
      ∃ fences : List MutationFence,
        C.rep (.fenceList ("disk-create/" ++ toLower location ++ "/")) fences ∧
        f ∈ fences ∧ f.receipt ≠ "") := by
  refine .bind (hC.read trivial) fun fences hfences => UsesE.check fun r hr => ?_
  intro f hf
  rcases foldlM_matchDiskCreateFence hr with rfl | ⟨g, hg, hrg, hreceipt⟩
  · cases hf
  · obtain rfl : g = f := Option.some.inj (hrg.symm.trans hf)
    exact ⟨fences, hfences, hg, hreceipt⟩

/-! ### Proving an absence -/

section

variable (hC : Keeps C D) {fuel : ℕ} {observation : Option MutationObservation} (h : D fence)

include hC h

theorem Keeps.updateMutationObservation_uses :
    C.UsesE (updateMutationObservation fence observation) (Kept D) := by
  refine .bind (UsesE.perform (hC.observe fence observation h)) fun r hr => ?_
  rcases r with e | updated
  · dsimp only
    split
    · exact .throw
    · refine .bind (hC.read trivial) fun r hr => ?_
      cases r with
      | none => exact .pure nofun
      | some current =>
        dsimp only
        split
        · exact .throw
        · next hsame =>
          refine .pure fun g hg => ?_
          cases hg
          exact hC.got fence current h hr (by simpa using hsame)
  · refine .pure fun g hg => ?_
    cases hg
    exact hC.observed fence observation updated h hr

theorem Keeps.withdrawObservation_uses {text : String} :
    C.UsesE (withdrawObservation fence text) fun g => D g := by
  unfold withdrawObservation
  split
  · exact .pure h
  · refine .bind (hC.updateMutationObservation_uses h) fun r hr => ?_
    cases r with
    | none => exact .throw
    | some updated => exact .pure (hr updated rfl)

theorem Keeps.recordAbsence_uses {kind : ObservationKind} :
    C.UsesE (recordAbsence a kind fence observation) fun
      | .completed => True
      | .again g => D g
      | .proven g => D g := by
  refine .bind (hC.read trivial) fun now _ => ?_
  cases observation with
  | none =>
    refine .bind (hC.updateMutationObservation_uses h) fun r hr => ?_
    cases r with
    | none => exact .pure trivial
    | some updated =>
      exact .bind hC.waitMutationReadback_uses fun _ _ => UsesE.pure (hr updated rfl)
  | some =>
    dsimp only
    split
    · exact .pure h
    · split
      · exact .bind hC.waitMutationReadback_uses fun _ _ => UsesE.pure h
      · refine .skip ?_
        refine .bind (hC.updateMutationObservation_uses h) fun r hr => ?_
        cases r with
        | none => exact .pure trivial
        | some updated =>
          dsimp only
          split
          · exact .pure (hr updated rfl)
          · exact .bind hC.waitMutationReadback_uses fun _ _ => UsesE.pure (hr updated rfl)

theorem Keeps.waitForDetached_uses {intent : DiskAttachmentIntent} :
    C.UsesE (waitForDetached a intent fuel fence) (Kept D) := by
  induction fuel generalizing fence with
  | zero => exact .outOfRounds
  | succ _ ih =>
    refine .bind .checked fun observation _ => ?_
    refine .bind hC.observeDetachState_uses fun r _ => ?_
    obtain ⟨_, stateErr⟩ := r
    dsimp only
    split
    · refine .bind (hC.withdrawObservation_uses h) fun fence hfence => ?_
      cases stateErr with
      | some => exact .throw
      | none =>
        dsimp only
        split
        · exact .throw
        · exact .bind hC.waitMutationReadback_uses fun _ _ => ih hfence
    · cases stateErr with
      | some => exact .throw
      | none =>
        refine .bind (hC.recordAbsence_uses h) fun r hr => ?_
        cases r with
        | completed => exact .pure nofun
        | proven => exact .pure fun _ hg => by cases hg; exact hr
        | again => exact ih hr

theorem Keeps.waitForFencedAttachment_uses {intent : DiskAttachmentIntent} :
    C.UsesE (waitForFencedAttachment fuel a intent fence) (Kept D) := by
  unfold waitForFencedAttachment
  split
  · exact .throw
  · split
    · split
      · exact .throw
      · refine .bind hC.waitForAttachment_uses fun _ _ => ?_
        exact .pure fun _ hg => by cases hg; exact h
    · split
      · exact .throw
      · exact hC.waitForDetached_uses h

theorem Keeps.waitForDiskAbsent_uses :
    C.UsesE (waitForDiskAbsent a location volumeID fuel fence) (Kept D) := by
  induction fuel generalizing fence with
  | zero => exact .outOfRounds
  | succ _ ih =>
    refine .bind .checked fun observation _ => ?_
    refine .bind hC.observeDiskAbsent_uses fun getAbsent _ => ?_
    refine .bind hC.observeDiskUnlisted_uses fun listAbsent _ => ?_
    split
    · refine .bind (hC.withdrawObservation_uses h) fun fence hfence => ?_
      exact .bind hC.waitMutationReadback_uses fun _ _ => ih hfence
    · refine .bind (hC.recordAbsence_uses h) fun r hr => ?_
      cases r with
      | completed => exact .pure nofun
      | proven => exact .pure fun _ hg => by cases hg; exact hr
      | again => exact ih hr

end

/-! ### The end of a deletion -/

theorem fencesDelete_uses (h : C.ok (.fenceDelete fence)) : C.Obeys (fencesDelete fence) :=
  UsesE.bind (UsesE.perform h) fun _ _ => .checked

theorem completeFence_uses {r : Option MutationFence}
    (h : Kept (fun f => C.ok (.fenceDelete f)) r) {text : String} :
    C.Obeys (completeFence r text) := by
  cases r with
  | none => exact .pure trivial
  | some fence => exact UsesE.withErr (fencesDelete_uses (h fence rfl)) _

/-- A create fence that goes with the disk. -/
abbrev Deletable (C : Contract Op Reply) : Option MutationFence → Prop :=
  Kept fun f => C.ok (.fenceDelete f)

variable (hC : Completes C D) {fuel : ℕ} {issueDelete : Bool} {cause : Err} {wrap : Err → Err}
  {Q : α → Prop} (h : D fence)

include hC h

theorem Completes.clearFence_uses : C.UsesE (clearFence fence cause wrap : Code α) Q := by
  refine .bind (UsesE.attempt (fencesDelete_uses (hC.delete fence h))) fun r _ => ?_
  cases r with
  | ok => exact .throw
  | error => exact .throw

theorem Completes.failUnissued_uses :
    C.UsesE (failUnissued issueDelete fence cause wrap : Code α) Q := by
  unfold failUnissued
  split
  · exact hC.clearFence_uses h
  · exact .throw

theorem Completes.readDeleteTarget_uses :
    C.Obeys (readDeleteTarget a location volumeID issueDelete fence) := by
  refine .bind (hC.read trivial) fun r _ => ?_
  rcases r with e | - | _
  · cases e with
    | notFound => exact .pure trivial
    | _ => exact hC.failUnissued_uses h
  · exact hC.failUnissued_uses h
  · dsimp only
    split
    · exact hC.failUnissued_uses h
    · split
      · split
        · exact hC.clearFence_uses h
        · exact hC.clearFence_uses h
        · exact .pure trivial
      · exact .pure trivial

theorem Completes.authorizeDelete_uses {disk : Disk} :
    C.Obeys (authorizeDelete a location volumeID disk fence) := by
  unfold authorizeDelete
  split
  · exact hC.clearFence_uses h
  · refine .bind (UsesE.attempt hC.attachedVM_uses) fun r _ => ?_
    cases r with
    | error => exact hC.clearFence_uses h
    | ok =>
      dsimp only
      split
      · exact hC.clearFence_uses h
      · exact .pure trivial

theorem Completes.reauthorizeDelete_uses :
    C.Obeys (reauthorizeDelete a location volumeID fence) := by
  refine .bind (UsesE.attempt hC.getOwnedDisk_uses) fun r _ => ?_
  cases r with
  | error => exact hC.clearFence_uses h
  | ok =>
    dsimp only
    split
    · exact hC.clearFence_uses h
    · split
      · exact hC.clearFence_uses h
      · refine .bind (UsesE.attempt hC.attachedVM_uses) fun r _ => ?_
        cases r with
        | error => exact hC.clearFence_uses h
        | ok =>
          dsimp only
          split
          · exact hC.clearFence_uses h
          · refine .bind (hC.read trivial) fun r _ => ?_
            cases r with
            | none => exact .pure trivial
            | some => exact hC.clearFence_uses h

theorem Completes.completeDeletion_uses {createFence : Option MutationFence}
    (hcreate : Deletable C createFence) {mutationErr : Option Err} :
    C.Obeys (completeDeletion fuel a location volumeID createFence fence mutationErr) := by
  refine .bind (UsesE.withErr (hC.waitForDiskAbsent_uses h) _) fun resolved hresolved => ?_
  refine .bind (completeFence_uses hcreate) fun _ _ => ?_
  exact completeFence_uses fun f hf => hC.delete f (hresolved f hf)

theorem Completes.dispatchDelete_uses {createFence : Option MutationFence}
    (hcreate : Deletable C createFence) :
    C.Obeys (dispatchDelete fuel a location volumeID createFence fence) := by
  refine .bind (hC.read trivial) fun r _ => ?_
  rcases r with e | -
  · cases e with
    | mutationBlocked => exact hC.clearFence_uses h
    | _ => exact hC.completeDeletion_uses h hcreate
  · exact hC.completeDeletion_uses h hcreate

omit hC h

/-- `DeleteVolume` behind its fence. -/
def deleteFenced (fuel : ℕ) (a : Adapter) (location volumeID : String)
    (deleteFence : MutationFence) (issueDelete : Bool) : Code Unit := do
  let disk ← readDeleteTarget a location volumeID issueDelete deleteFence
  match ← attempt (matchingDiskCreateFence location volumeID disk) with
  | .error e => failUnissued issueDelete deleteFence e clearUnissued
  | .ok createFence =>
  match disk with
  | none =>
    completeDeletion fuel a location volumeID createFence deleteFence none
    throw (.wrap .notFound "cloud volume not found")
  | some disk =>
  if diskDeletedTombstone disk ∨ !issueDelete then
    completeDeletion fuel a location volumeID createFence deleteFence none
  else
    authorizeDelete a location volumeID disk deleteFence
    reauthorizeDelete a location volumeID deleteFence
    dispatchDelete fuel a location volumeID createFence deleteFence

/-- The intent of a deletion. -/
def deleteIntent (a : Adapter) (location volumeID : String) : DiskAttachmentIntent :=
  { operation := "disk-delete", location := location, diskUUID := toLower volumeID,
    billingAccountID := a.billing }

theorem deleteVolume_eq (fuel : ℕ) (a : Adapter) (location volumeID : String) :
    deleteVolume fuel a location volumeID =
      (do let r ← prepareDiskDeleteFence fuel a (deleteIntent a location volumeID) 3
          deleteFenced fuel a location volumeID r.1 r.2) := rfl

include hC h in
theorem Completes.deleteFenced_uses
    (hmatch : ∀ disk, C.UsesE (matchingDiskCreateFence location volumeID disk) (Deletable C)) :
    C.Obeys (deleteFenced fuel a location volumeID fence issueDelete) := by
  refine .bind (hC.readDeleteTarget_uses h) fun disk _ => ?_
  refine .bind (UsesE.attempt (hmatch disk)) fun r hcreate => ?_
  cases r with
  | error => exact hC.failUnissued_uses h
  | ok createFence =>
    have hcreate := hcreate createFence rfl
    cases disk with
    | none =>
      exact .bind (hC.completeDeletion_uses h hcreate) fun _ _ => UsesE.throw
    | some disk =>
      dsimp only
      split
      · exact hC.completeDeletion_uses h hcreate
      · refine .bind (hC.authorizeDelete_uses h) fun _ _ => ?_
        refine .bind (hC.reauthorizeDelete_uses h) fun _ _ => ?_
        exact hC.dispatchDelete_uses h hcreate

end

end InSpaceKube.Csi
