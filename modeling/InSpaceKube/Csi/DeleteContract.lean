/-
InSpaceKube/Csi/DeleteContract.lean

What `DeleteVolume` asks of the fence store.

The fence it issues, and the older fences of the disk that it settles, have
attachment keys.  The one create fence it deletes carries a receipt.
-/
import InSpaceKube.Csi.FenceContract

namespace InSpaceKube.Csi.DeleteContract

open Prog Contract

def AttachmentKey (key : String) : Prop :=
  ∃ location uuid, key = diskAttachmentFenceKey location uuid

def deleteContract : Contract Op Reply where
  ok
    | .createDisk _ _ => False
    | .fenceSetReceipt _ _ => False
    | .fenceCreate f => AttachmentKey f.key
    | .fenceSetObservation f _ => AttachmentKey f.key
    | .fenceDelete f => AttachmentKey f.key ∨ f.receipt ≠ ""
    | _ => True
  rep
    | .fenceGet key, r => ∀ f, r = some f → f.key = key
    | .fenceCreate f, r => r.1.key = f.key
    | .fenceSetObservation f _, r => ∀ g, r = .ok g → g.key = f.key
    | _, _ => True

section Uses

variable {a : Adapter} {location volumeID : String} {fence : MutationFence}

/-- The fences of a disk may be observed and deleted. -/
theorem completes : Completes deleteContract fun f => AttachmentKey f.key where
  ok op h := by cases op <;> first | exact trivial | exact h.elim
  observe f _ h := h
  observed f _ g h hr := hr g rfl ▸ h
  got f g h hr _ := hr g rfl ▸ h
  delete f h := .inl h

theorem settleExistingAttachmentFence_uses (fuel : ℕ) (requested : DiskAttachmentIntent) :
    deleteContract.Obeys (settleExistingAttachmentFence fuel a requested) := by
  unfold settleExistingAttachmentFence
  split
  · exact .throw
  · refine .bind (UsesE.perform trivial) fun r hr => ?_
    cases r with
    | none => exact .pure trivial
    | some fence =>
      have hkey : AttachmentKey fence.key := ⟨_, _, hr fence rfl⟩
      dsimp only
      split
      · exact .throw
      · split
        · exact .throw
        · split
          · exact .throw
          · refine .bind (UsesE.withErr (completes.waitForFencedAttachment_uses hkey) _)
              fun r hr => ?_
            cases r with
            | none => exact .pure trivial
            | some resolved =>
              have hdelete := fencesDelete_uses (completes.delete resolved (hr resolved rfl))
              exact .done (UsesE.withErr hdelete _)

theorem prepareDiskDeleteFence_uses (fuel : ℕ) (intent : DiskAttachmentIntent) (rounds : ℕ) :
    deleteContract.UsesE (prepareDiskDeleteFence fuel a intent rounds)
      fun r => AttachmentKey r.1.key := by
  induction rounds with
  | zero => exact .throw
  | succ _ ih =>
    refine .bind (UsesE.perform trivial) fun r hr => ?_
    cases r with
    | some current =>
      dsimp only
      split
      · exact .pure ⟨_, _, hr current rfl⟩
      · exact .bind (settleExistingAttachmentFence_uses fuel intent) fun _ _ => ih
    | none =>
      refine .bind (UsesE.perform trivial) fun attempt _ => ?_
      refine .bind (UsesE.perform ⟨_, _, rfl⟩) fun r hr => ?_
      obtain ⟨_, _⟩ := r
      dsimp only
      split
      · exact .pure ⟨_, _, hr⟩
      · exact ih

theorem deleteVolume_uses (fuel : ℕ) :
    deleteContract.Obeys (deleteVolume fuel a location volumeID) := by
  rw [deleteVolume_eq]
  refine .bind (prepareDiskDeleteFence_uses fuel _ 3) fun r hr => ?_
  refine completes.deleteFenced_uses hr fun disk => ?_
  -- the create fence that goes with the disk has a receipt
  refine UsesE.mono (completes.matchingDiskCreateFence_uses disk) fun _ h f hf => ?_
  obtain ⟨-, -, -, hreceipt⟩ := h f hf
  exact .inr hreceipt

end Uses

end InSpaceKube.Csi.DeleteContract
