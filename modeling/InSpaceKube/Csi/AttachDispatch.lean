/-
InSpaceKube/Csi/AttachDispatch.lean

The adapter's calls on a disk, walked through under the rules of
`AttachFence`: a settled fence is one whose end has been seen, a held fence
stays until its holder deletes it or dispatches, and so every request that
moves the disk is issued under the fence of its own invocation.

Without the condition on the creation of fences this fails, by a run of one
`AttachVolume` and one `DetachVolume`.
-/
import InSpaceKube.Csi.AttachFence
import InSpaceKube.Csi.System

namespace InSpaceKube.Csi.AttachFence

open Rules Prog Contract

variable {key location volumeID : String} {s s' : State} {t : Tid} {f : MutationFence} {n : ℕ}

/-! ### Settling a fence

A fence is settled when the disk has been seen where its intent wants it. -/

section

variable {P : State → Prop} {a : Adapter} {intent : DiskAttachmentIntent}

/-- What a wait loop keeps while it looks for the end of `intent`. -/
def Watch (n : ℕ) (intent : DiskAttachmentIntent) (P : State → Prop) (s : State) : Prop :=
  Known n intent s ∧ P s

variable (hP : Lasting key location volumeID t P)

include hP

theorem lasting_watch :
    Lasting key location volumeID t (Watch n intent P) :=
  lasting_known.and hP

/-- The exact read of a VM settles the fence when it shows the disk there. -/
theorem call_getVM_seen {vmUUID : String}
    (hdesired : intent.desiredVMUUID ≠ "") :
    KeyTriple key location volumeID t (Watch n intent P)
      (call (.getVM location vmUUID))
      (fun r s => Watch n intent P s ∧ ∀ vm, r = .ok (some vm) →
        0 < vmDiskRows vm (toLower volumeID) → vmUUID = intent.desiredVMUUID → Settled n s) := by
  refine .perform (lasting_watch hP).stable fun s r s' hi hs hexec => ?_
  obtain ⟨-, rfl, hhonest⟩ := hexec
  refine ⟨hi, guar_refl, hs, ?_⟩
  rintro _ rfl hrows rfl
  refine Settled.of_seen hi hs.1 ?_
  have hholder := (hhonest rfl).1 hrows
  simp [NotYet, hdesired, hholder]

/-- The exact read of the previous VM settles a detach when the disk is gone. -/
theorem call_getVM_gone
    (hdesired : intent.desiredVMUUID = "") :
    KeyTriple key location volumeID t (Watch n intent P)
      (call (.getVM location intent.previousVMUUID))
      (fun r s => Watch n intent P s ∧ (r = .error .notFound → Settled n s) ∧
        ∀ vm, r = .ok (some vm) → vmDiskRows vm (toLower volumeID) = 0 → Settled n s) := by
  refine .perform (lasting_watch hP).stable fun s r s' hi hs hexec => ?_
  obtain ⟨-, rfl, hhonest⟩ := hexec
  refine ⟨hi, guar_refl, hs, ?_, ?_⟩
  · rintro rfl
    refine Settled.of_seen hi hs.1 ?_
    have hholder : equalFold s'.holder intent.previousVMUUID = false := hhonest rfl
    simp [NotYet, hdesired, hholder]
  · rintro _ rfl _
    refine Settled.of_seen hi hs.1 ?_
    have hholder : ¬ equalFold s'.holder intent.previousVMUUID = true := fun h => by
      have := (hhonest rfl).2 h
      omega
    simp [NotYet, hdesired, hholder]

theorem inspectVM_triple (members : List String)
    {vmUUID : String} (hdesired : intent.desiredVMUUID ≠ "") :
    KeyTriple key location volumeID t (Watch n intent P)
      (inspectVM a location (toLower volumeID) members vmUUID)
      (fun holds s => Watch n intent P s ∧
        (holds = true → vmUUID = intent.desiredVMUUID → Settled n s)) := by
  refine .bind (call_getVM_seen hP hdesired) fun r => ?_
  rcases r with e | - | vm
  · exact .throw_any
  · exact .throw_any
  · dsimp only
    split
    · exact .throw_any
    · refine .skip ?_
      refine .skip ?_
      split
      · exact .throw_any
      · split
        · refine .bind (withErr_check fun _ _ _ _ h => h) fun _ => ?_
          refine .pure fun s _ hs => ⟨hs.1, fun hrows hvm => ?_⟩
          have hone : vmDiskRows vm (toLower volumeID) = 1 := by simpa using hrows
          exact hs.2 vm rfl (by omega) hvm
        · split
          · exact .throw_any
          · exact .pure fun s _ hs => ⟨hs.1, nofun⟩

theorem inspectVMs_triple (members vmUUIDs : List String)
    (attached : String) (hdesired : intent.desiredVMUUID ≠ "") :
    KeyTriple key location volumeID t
      (fun s => Watch n intent P s ∧ (attached = intent.desiredVMUUID → Settled n s))
      (inspectVMs a location (toLower volumeID) members vmUUIDs attached)
      (fun vm s => Watch n intent P s ∧ (vm = intent.desiredVMUUID → Settled n s)) := by
  induction vmUUIDs generalizing attached with
  | nil => exact .pure fun _ _ h => h
  | cons vmUUID _ ih =>
    -- what the VMs before have shown outlasts the read of this one
    by_cases hatt : attached = intent.desiredVMUUID
    · have hlast : Lasting key location volumeID t fun s => P s ∧ Settled n s :=
        hP.and lasting_settled
      refine .bind (M := fun _ s => Watch n intent (fun s => P s ∧ Settled n s) s)
        (((inspectVM_triple hlast members hdesired).pre fun s _ hs => ⟨hs.1.1, hs.1.2, hs.2 hatt⟩).mono
          fun _ _ h => h.1) fun holds => ?_
      have hdone : ∀ vm : String, ∀ s, Watch n intent (fun s => P s ∧ Settled n s) s →
          Watch n intent P s ∧ (vm = intent.desiredVMUUID → Settled n s) :=
        fun vm s h => ⟨⟨h.1, h.2.1⟩, fun _ => h.2.2⟩
      split
      · split
        · exact .throw_any
        · exact (ih vmUUID).pre fun s _ h => hdone _ s h
      · exact (ih attached).pre fun s _ h => hdone _ s h
    · refine .bind ((inspectVM_triple hP members hdesired).pre fun s _ hs => hs.1) fun holds => ?_
      cases holds with
      | true =>
        rw [if_pos rfl]
        split
        · exact .throw_any
        · exact (ih vmUUID).pre fun s _ h => ⟨h.1, h.2 rfl⟩
      | false =>
        rw [if_neg (by simp)]
        exact (ih attached).pre fun s _ h => ⟨h.1, fun h => absurd h hatt⟩

theorem attachedVM_triple
    (hdesired : intent.desiredVMUUID ≠ "") :
    KeyTriple key location volumeID t (Watch n intent P)
      (attachedVM a location (toLower volumeID))
      (fun vm s => Watch n intent P s ∧ (vm = intent.desiredVMUUID → Settled n s)) := by
  have hstable : (rules key).Stable (neededWorld location volumeID) t (Watch n intent P) :=
    (lasting_watch hP).stable
  unfold attachedVM
  split
  · exact .throw_any
  · refine .bind (plain_triple hstable (reads_plain.read trivial)) fun r => ?_
    rcases r with e | _
    · exact .throw_any
    · refine .bind (plain_triple hstable (reads_plain.read trivial)) fun r => ?_
      rcases r with _ | - | _
      · exact .throw_any
      · exact .throw_any
      · dsimp only
        split
        · exact .throw_any
        · refine .bind (plain_triple hstable
            (UsesE.withErr .checked _)) fun members => ?_
          refine .skip ?_
          exact (inspectVMs_triple hP members _ "" hdesired).pre fun s _ hs =>
            ⟨hs, fun h => absurd h.symm hdesired⟩

theorem waitForAttachment_triple
    (hdesired : intent.desiredVMUUID ≠ "") (transitional : String) (fuel : ℕ) :
    KeyTriple key location volumeID t (Watch n intent P)
      (waitForAttachment a location (toLower volumeID) intent.desiredVMUUID transitional fuel)
      (fun _ s => Watch n intent P s ∧ Settled n s) := by
  induction fuel with
  | zero => exact .outOfRounds
  | succ _ ih =>
    refine .bind (attachedVM_triple hP hdesired) fun current => ?_
    split
    · next hcurrent => exact .pure fun _ _ hs => ⟨hs.1, hs.2 hcurrent⟩
    · split
      · exact .throw_any
      · refine .bind ((plain_triple (lasting_watch hP).stable
          reads_plain.waitMutationReadback_uses).pre fun _ _ hs => hs.1) fun _ => ih

/-- `intent` is a detach of the disk from a VM that is named. -/
structure DetachOf (location volumeID : String) (intent : DiskAttachmentIntent) : Prop where
  location : intent.location = location
  disk : intent.diskUUID = toLower volumeID
  desired : intent.desiredVMUUID = ""
  previous : toLower intent.previousVMUUID ≠ ""

theorem observeDetachState_triple
    (hdetach : DetachOf location volumeID intent) :
    KeyTriple key location volumeID t (Watch n intent P)
      (observeDetachState a intent)
      (fun r s => Watch n intent P s ∧ (r = ("", none) → Settled n s)) := by
  obtain ⟨rfl, hdisk, hdesired, hprevious⟩ := hdetach
  refine .bind (plain_triple (lasting_watch hP).stable (reads_plain.read trivial)) fun r => ?_
  rcases r with e | _
  · exact .pure fun _ _ hs => ⟨hs, nofun⟩
  · refine .bind (call_getVM_gone hP hdesired) fun r => ?_
    rcases r with e | - | vm
    · cases e with
      | notFound => exact .pure fun _ _ hs => ⟨hs.1, fun _ => hs.2.1 rfl⟩
      | _ => exact .pure fun _ _ hs => ⟨hs.1, nofun⟩
    · exact .pure fun _ _ hs => ⟨hs.1, nofun⟩
    · dsimp only
      split
      · next hlisted =>
        exact .pure fun _ _ hs => ⟨hs.1, fun h => absurd (congrArg Prod.fst h) hlisted⟩
      · split
        · exact .pure fun _ _ hs =>
            ⟨hs.1, fun h => absurd (congrArg Prod.fst h) hprevious⟩
        · next hpresent =>
          refine .pure fun _ _ hs => ⟨hs.1, fun h => hs.2.2 vm rfl ?_⟩
          have herr := (joinErrs_none (Prod.mk.inj h).2).2
          rw [← hdisk]
          refine exactDetachState_none (Prod.ext ?_ herr)
          simpa using hpresent

omit hP in
/-- A fence may be observed, and stays the same attempt. -/
theorem keeps_quiet : Keeps (quiet key) fun f => f.attempt = n where
  ok op h := by cases op <;> first | exact trivial | exact h.elim
  observe _ _ _ := trivial
  observed f _ g h hr := (attempt_of_authority (hr g rfl)).trans h
  got f g h _ hsame := (attempt_of_authority hsame).trans h

theorem waitForDetached_triple
    (hdetach : DetachOf location volumeID intent) (fuel : ℕ) {fence : MutationFence}
    (hfence : fence.attempt = n) :
    KeyTriple key location volumeID t (Watch n intent P)
      (waitForDetached a intent fuel fence)
      (fun r s => Watch n intent P s ∧ ∀ g, r = some g → g.attempt = n ∧ Settled n s) := by
  induction fuel generalizing fence with
  | zero => exact .outOfRounds
  | succ fuel ih =>
    refine .check_any fun observation _ => ?_
    refine .bind (observeDetachState_triple hP hdetach) fun r => ?_
    obtain ⟨visibleVM, stateErr⟩ := r
    dsimp only
    split
    · -- the disk is seen: the observation is withdrawn and the loop goes on
      refine .bind ((quiet_triple (lasting_watch hP)
        (keeps_quiet.withdrawObservation_uses hfence)).pre fun _ _ hs => hs.1) fun fence => ?_
      refine TripleE.hyp fun hfence => ?_
      cases stateErr with
      | some => exact .throw_any
      | none =>
        dsimp only
        split
        · exact .throw_any
        · exact .bind (plain_triple (lasting_watch hP).stable
            reads_plain.waitMutationReadback_uses) fun _ => ih hfence
    · next hgone =>
      cases stateErr with
      | some => exact .throw_any
      | none =>
        -- the disk is gone: the fence is settled from here on
        have hlast : Lasting key location volumeID t fun s => Watch n intent P s ∧ Settled n s :=
          (lasting_watch hP).and lasting_settled
        have hempty : visibleVM = "" := by simpa using hgone
        refine .bind ((quiet_triple hlast
          (keeps_quiet.recordAbsence_uses hfence)).pre
            fun _ _ hs => ⟨hs.1, hs.2 (by rw [hempty])⟩) fun r => ?_
        refine TripleE.hyp fun hr => ?_
        cases r with
        | completed => exact .pure fun _ _ hs => ⟨hs.1, nofun⟩
        | proven =>
          exact .pure fun _ _ hs => ⟨hs.1, fun _ h => by cases h; exact ⟨hr, hs.2⟩⟩
        | again => exact (ih hr).pre fun _ _ hs => hs.1

/-- A fence that is handed back is settled. -/
theorem waitForFencedAttachment_triple (fuel : ℕ)
    (hloc : intent.location = location) (hdisk : intent.diskUUID = toLower volumeID)
    {fence : MutationFence} (hfence : fence.attempt = n) :
    KeyTriple key location volumeID t (Watch n intent P)
      (waitForFencedAttachment fuel a intent fence)
      (fun r s => Watch n intent P s ∧ ∀ g, r = some g → g.attempt = n ∧ Settled n s) := by
  unfold waitForFencedAttachment
  split
  · exact .throw_any
  · split
    · next hdesired =>
      split
      · exact .throw_any
      · rw [hloc, hdisk]
        refine .bind (waitForAttachment_triple hP hdesired _ fuel) fun _ => ?_
        exact .pure fun _ _ hs => ⟨hs.1, fun _ h => by cases h; exact ⟨hfence, hs.2⟩⟩
    · next hdesired =>
      split
      · exact .throw_any
      · next hprevious =>
        refine waitForDetached_triple hP ⟨hloc, hdisk, by simpa using hdesired, fun h => ?_⟩ fuel
          hfence
        have huuid : uuidPattern (toLower intent.previousVMUUID) = true := by
          simpa using (not_or.1 hprevious).2
        rw [h] at huuid
        exact absurd huuid (by decide)

omit hP

theorem settleExistingAttachmentFence_triple (hkey : key = diskKey location volumeID) (fuel : ℕ)
    {requested : DiskAttachmentIntent} (hloc : requested.location = location)
    (hdisk : requested.diskUUID = toLower volumeID) :
    KeyTriple key location volumeID t (Idle t)
      (settleExistingAttachmentFence fuel a requested) (fun _ => Idle t) := by
  unfold settleExistingAttachmentFence
  split
  · exact .throw_any
  · refine .bind (call_fenceGet lasting_idle.stable (by rw [hloc, hdisk, hkey])) fun r => ?_
    cases r with
    | none => exact .pure fun _ _ hs => hs.1
    | some fence =>
      dsimp only
      split
      · exact .throw_any
      · next hident =>
        rw [not_or, not_not, not_or, not_not] at hident
        split
        · exact .throw_any
        · split
          · exact .throw_any
          · refine .bind (TripleE.withErr ((waitForFencedAttachment_triple lasting_idle
              fuel (hident.1.trans hloc) (hident.2.1.trans hdisk) rfl).pre
                fun s _ hs => ⟨hs.2 fence rfl, hs.1⟩) fun _ _ _ h => h) fun r => ?_
            cases r with
            | none => exact .pure fun _ _ hs => hs.1.2
            | some resolved =>
              have hlast : Lasting key location volumeID t fun s =>
                  Idle t s ∧ Settled resolved.attempt s := lasting_idle.and lasting_settled
              refine .bind (TripleE.withErr ((fencesDelete_triple hlast
                fun s hs _ => hs.2.free).pre fun s _ hs => ?_) fun _ _ _ h => h)
                fun _ => TripleE.pure fun _ _ hs => hs.1
              obtain ⟨hn, hset⟩ := hs.2 resolved rfl
              exact ⟨hs.1.2, hn ▸ hset⟩

end

/-! ### The four calls -/

section

variable {a : Adapter} {intent : DiskAttachmentIntent} {fence : MutationFence}

/-- An attach or detach of the disk. -/
structure IntentOf (location volumeID : String) (intent : DiskAttachmentIntent) : Prop where
  location : intent.location = location
  disk : intent.diskUUID = toLower volumeID
  operation : intent.operation = "disk-attachment"

/-- The rules of the disk. -/
abbrev diskRules (location volumeID : String) : Rules State := rules (diskKey location volumeID)

abbrev DiskTriple (location volumeID : String) {α : Type} (t : Tid) (P : State → Prop)
    (x : Code α) (Q : α → State → Prop) : Prop :=
  (diskRules location volumeID).TripleE (neededWorld location volumeID) t P x Q fun _ _ => True

variable (hintent : IntentOf location volumeID intent)

include hintent

theorem beginAttachmentFence_triple :
    DiskTriple location volumeID t (Idle t)
      (beginAttachmentFence intent)
      (fun r s => (r.2 = true → decodeDiskAttachmentIntent r.1 = intent ∧ Held t r.1 s) ∧
        (r.2 = false → Idle t s)) := by
  refine .bind call_newAttempt fun attempt => ?_
  have hkey : diskAttachmentFenceKey intent.location intent.diskUUID
      = diskKey location volumeID := by rw [hintent.location, hintent.disk]
  refine .bind (call_fenceCreate (f := ⟨_, .diskAttachment intent, attempt, "", none⟩) hkey)
    fun r => ?_
  obtain ⟨_, acquired⟩ := r
  dsimp only
  split
  · next hother =>
    refine .pure fun s _ hs => ⟨nofun, fun _ => ?_⟩
    cases acquired with
    | false => exact hs.2 rfl
    | true =>
      -- a fence that was acquired is the candidate itself
      obtain ⟨rfl, -⟩ := hs.1 rfl
      simp [decodeDiskAttachmentIntent] at hother
  · refine .pure fun s _ hs => ⟨fun hacq => ?_, hs.2⟩
    obtain ⟨rfl, hheld⟩ := hs.1 hacq
    exact ⟨rfl, hheld hintent.operation⟩

variable {fuel : ℕ} {vmUUID nodeID attached : String} {recovered : Bool}

theorem prepareAttachmentFence_triple {rounds : ℕ} :
    DiskTriple location volumeID t (Idle t)
      (prepareAttachmentFence fuel a intent rounds)
      (fun r s => ∀ f, r = some f → decodeDiskAttachmentIntent f = intent ∧ Held t f s) := by
  induction rounds with
  | zero => exact .throw_any
  | succ _ ih =>
    refine .bind (settleExistingAttachmentFence_triple rfl fuel hintent.location
      hintent.disk) fun done => ?_
    split
    · exact .pure fun _ _ _ => nofun
    · refine .bind (beginAttachmentFence_triple hintent) fun r => ?_
      obtain ⟨f, acquired⟩ := r
      cases acquired with
      | true => exact .pure fun s _ hs _ h => by cases h; exact hs.1 rfl
      | false => exact ih.pre fun s _ hs => hs.2 rfl

/-- Code that runs under the fence of its own invocation. -/
abbrev HeldTriple (location volumeID : String) (t : Tid) (fence : MutationFence) {α : Type}
    (x : Code α) : Prop :=
  DiskTriple location volumeID t (Held t fence) x fun _ _ => True

omit hintent in
/-- Code that only reads keeps the fence, also when it fails. -/
theorem held_attempt {α β : Type} {x : Code α} {f : Except Err α → Code β} {Q : β → State → Prop}
    (hx : plain.Obeys x)
    (herr : ∀ e, DiskTriple location volumeID t (Held t fence) (f (.error e)) Q)
    (hok : ∀ a, DiskTriple location volumeID t (Held t fence) (f (.ok a)) Q) :
    DiskTriple location volumeID t (Held t fence) (attempt x >>= f) Q := by
  refine .bind (TripleE.attempt (TripleE.of_usesE (serves_plain stable_held) hx)) fun r => ?_
  cases r with
  | ok a => exact (hok a).pre fun _ _ h => h.2
  | error e => exact herr e

variable (hdecode : decodeDiskAttachmentIntent fence = intent)

include hdecode

theorem finishAttachmentMutation_triple {mutationErr : Option Err} :
    DiskTriple location volumeID t
      (fun s => s.acquired t = some fence)
      (finishAttachmentMutation fuel a intent fence mutationErr)
      (fun _ _ => True) := by
  have hwait : DiskTriple location volumeID t
      (Watch fence.attempt intent fun s => s.acquired t = some fence)
      (waitForFencedAttachment fuel a intent fence) _ :=
    waitForFencedAttachment_triple lasting_acquired fuel hintent.location hintent.disk rfl
  refine .bind (TripleE.withErr (hwait.pre fun s _ hs => ⟨⟨t, fence, hs, rfl, hdecode⟩, hs⟩)
    fun _ _ _ h => h) fun r => ?_
  cases r with
  | none => exact .pure fun _ _ _ => trivial
  | some resolved =>
    have hlast : Lasting (diskKey location volumeID) location volumeID t
      (Settled resolved.attempt) := lasting_settled
    have hdelete := (fencesDelete_triple hlast fun s hs _ => hs.free).mono fun _ _ _ => trivial
    refine TripleE.withErr (hdelete.pre fun s _ hs => ?_) fun _ _ _ h => h
    obtain ⟨hn, hset⟩ := hs.2 resolved rfl
    exact hn ▸ hset

theorem dispatchAttach_triple : HeldTriple location volumeID t fence
    (dispatchAttach fuel a location volumeID vmUUID intent fence) := by
  have hfinish {e} : DiskTriple location volumeID t _ (finishAttachmentMutation fuel a _ _ e) _ :=
    finishAttachmentMutation_triple hintent hdecode
  refine .bind call_attachDisk fun r => ?_
  rcases r with e | _
  · cases e with
    | mutationBlocked => exact clearFence_held.pre fun s _ hs => hs.2 rfl
    | _ => exact hfinish.pre fun _ _ hs => hs.1
  · dsimp only
    split
    · exact hfinish.pre fun _ _ hs => hs.1
    · exact hfinish.pre fun _ _ hs => hs.1

theorem reauthorizeAttach_triple : HeldTriple location volumeID t fence
    (reauthorizeAttach fuel a location volumeID vmUUID intent fence) := by
  refine held_attempt reads_plain.getOwnedDisk_uses (fun _ => clearFence_held) fun _ => ?_
  refine held_attempt reads_plain.attachedVM_uses (fun _ => clearFence_held) fun current => ?_
  dsimp only
  split
  · exact fencesDelete_held
  · split
    · exact clearFence_held
    · refine .bind (plain_triple stable_held (reads_plain.read trivial)) fun r => ?_
      cases r with
      | some => exact clearFence_held
      | none => exact dispatchAttach_triple hintent hdecode

theorem attachFenced_triple : HeldTriple location volumeID t fence
    (attachFenced fuel a location volumeID vmUUID intent fence) := by
  refine held_attempt reads_plain.attachedVM_uses (fun _ => clearFence_held) fun current => ?_
  dsimp only
  split
  · exact fencesDelete_held
  · split
    · exact clearFence_held
    · refine held_attempt reads_plain.getOwnedVM_uses (fun _ => clearFence_held)
        fun vm => ?_
      dsimp only
      split
      · exact clearFence_held
      · split
        · exact fencesDelete_held
        · split
          · exact clearFence_held
          · exact reauthorizeAttach_triple hintent hdecode

omit hintent hdecode in
theorem attachVolume_triple :
    DiskTriple location volumeID t (Idle t)
      (attachVolume fuel a location volumeID nodeID) (fun _ _ => True) := by
  refine .bind (plain_triple lasting_idle.stable reads_plain.resolveVM_uses)
    fun vmUUID => ?_
  refine .bind (plain_triple lasting_idle.stable reads_plain.getVolume_uses) fun _ => ?_
  refine .bind (plain_triple lasting_idle.stable reads_plain.lockVM_uses) fun _ => ?_
  have hintent : IntentOf location volumeID
      { attachmentIntent a location volumeID with desiredVMUUID := vmUUID } := ⟨rfl, rfl, rfl⟩
  refine .bind (prepareAttachmentFence_triple hintent) fun r => ?_
  cases r with
  | none => exact .pure fun _ _ _ => trivial
  | some fence =>
    exact (TripleE.hyp fun hdecode => attachFenced_triple hintent hdecode).pre
      fun s _ hs => hs fence rfl

theorem dispatchDetach_triple : HeldTriple location volumeID t fence
    (dispatchDetach fuel a location volumeID attached intent fence) := by
  have hfinish {e} : DiskTriple location volumeID t _ (finishAttachmentMutation fuel a _ _ e) _ :=
    finishAttachmentMutation_triple hintent hdecode
  refine .bind (plain_triple stable_held (reads_plain.read trivial)) fun r => ?_
  cases r with
  | some => exact clearFence_held
  | none =>
    refine .bind call_detachDisk fun r => ?_
    rcases r with e | -
    · cases e with
      | mutationBlocked => exact clearFence_held.pre fun s _ hs => hs.2 rfl
      | _ => exact hfinish.pre fun _ _ hs => hs.1
    · exact hfinish.pre fun _ _ hs => hs.1

omit hintent hdecode in
theorem reauthorizeMissingNode_triple :
    DiskTriple location volumeID t (Held t fence)
      (reauthorizeMissingNode a location volumeID nodeID attached fence)
      (fun _ => Held t fence) := by
  refine held_attempt reads_plain.missingNodeDetachTarget_uses
    (fun _ => clearFence_held) fun found => ?_
  cases found with
  | true => exact .pure fun _ _ h => h
  | false => exact clearFence_held

theorem reauthorizeDetach_triple : HeldTriple location volumeID t fence
    (reauthorizeDetach fuel a location volumeID nodeID attached recovered intent fence) := by
  refine held_attempt reads_plain.getOwnedDisk_uses (fun _ => clearFence_held) fun _ => ?_
  refine held_attempt reads_plain.attachedVM_uses (fun _ => clearFence_held) fun current => ?_
  dsimp only
  split
  · exact fencesDelete_held
  · split
    · exact clearFence_held
    · split
      · exact .bind reauthorizeMissingNode_triple fun _ => dispatchDetach_triple hintent hdecode
      · exact dispatchDetach_triple hintent hdecode

theorem detachFenced_triple : HeldTriple location volumeID t fence
    (detachFenced fuel a location volumeID nodeID attached recovered intent fence) := by
  refine held_attempt reads_plain.attachedVM_uses (fun _ => clearFence_held) fun current => ?_
  dsimp only
  split
  · exact fencesDelete_held
  · split
    · exact clearFence_held
    · refine held_attempt reads_plain.getOwnedVM_uses (fun _ => clearFence_held)
        fun vm => ?_
      dsimp only
      split
      · exact clearFence_held
      · split
        · exact fencesDelete_held
        · split
          · exact clearFence_held
          · exact reauthorizeDetach_triple hintent hdecode

omit hintent hdecode

theorem detachVolume_triple :
    DiskTriple location volumeID t (Idle t)
      (detachVolume fuel a location volumeID nodeID) (fun _ _ => True) := by
  refine .bind (plain_triple lasting_idle.stable reads_plain.getOwnedDisk_uses) fun _ => ?_
  refine .bind (settleExistingAttachmentFence_triple rfl fuel rfl rfl) fun _ => ?_
  refine .bind (plain_triple lasting_idle.stable reads_plain.attachedVM_uses) fun attached => ?_
  split
  · exact .pure fun _ _ _ => trivial
  · refine .bind (plain_triple lasting_idle.stable
      reads_plain.detachTarget_uses) fun target => ?_
    cases target with
    | unpublished => exact .pure fun _ _ _ => trivial
    | attached recovered =>
      refine .bind (plain_triple lasting_idle.stable reads_plain.lockVM_uses) fun _ => ?_
      have hintent : IntentOf location volumeID { attachmentIntent a location volumeID with
          previousVMUUID := attached
          recoveryNodeID := if recovered then trimSpace nodeID else "" } := ⟨rfl, rfl, rfl⟩
      refine .bind (prepareAttachmentFence_triple hintent) fun r => ?_
      cases r with
      | none => exact .pure fun _ _ _ => trivial
      | some fence =>
        exact (TripleE.hyp fun hdecode => detachFenced_triple hintent hdecode).pre
          fun s _ hs => hs fence rfl

theorem expandVolume_triple {capacityBytes : ℤ} :
    DiskTriple location volumeID t (Idle t)
      (expandVolume fuel a location volumeID capacityBytes)
      (fun _ _ => True) := by
  have hread {α : Type} {x : Code α} (hx : plain.Obeys x) :
      DiskTriple location volumeID t (Idle t) x
        (fun _ => Idle t) := plain_triple lasting_idle.stable hx
  refine .check_any fun sizeGiB _ => ?_
  refine .bind (hread reads_plain.getOwnedDisk_uses) fun disk => ?_
  split
  · exact .check (fun _ _ _ _ _ => trivial) fun _ _ _ _ _ => trivial
  · refine .bind (settleExistingAttachmentFence_triple rfl fuel rfl rfl) fun _ => ?_
    refine .bind (hread reads_plain.attachedVM_uses) fun attached => ?_
    split
    · exact .throw_any
    · refine .bind (hread reads_plain.getOwnedVM_uses) fun targetVM => ?_
      refine .skip ?_
      refine .skip ?_
      split
      · exact .throw_any
      · exact (hread reads_plain.expandLocked_uses).mono fun _ _ _ => trivial

theorem prepareDiskDeleteFence_triple (hloc : intent.location = location)
    (hdisk : intent.diskUUID = toLower volumeID) (hop : intent.operation ≠ "disk-attachment")
    {rounds : ℕ} :
    DiskTriple location volumeID t (Idle t)
      (prepareDiskDeleteFence fuel a intent rounds)
      (fun r _ => ¬ Attachment r.1 ∧ True) := by
  have hkey : diskAttachmentFenceKey intent.location intent.diskUUID
      = diskKey location volumeID := by rw [hloc, hdisk]
  have hdelete : ∀ f, decodeDiskAttachmentIntent f = intent → ¬ Attachment f := by
    rintro f rfl
    exact hop
  induction rounds with
  | zero => exact .throw_any
  | succ _ ih =>
    refine .bind (call_fenceGet lasting_idle.stable hkey) fun r => ?_
    cases r with
    | some =>
      dsimp only
      split
      · next hcurrent => exact .pure fun _ _ _ => ⟨hdelete _ hcurrent, trivial⟩
      · exact .bind ((settleExistingAttachmentFence_triple rfl fuel hloc hdisk).pre
          fun _ _ hs => hs.1) fun _ => ih
    | none =>
      refine .bind (call_newAttempt.pre fun _ _ hs => hs.1) fun attempt => ?_
      refine .bind (call_fenceCreate
        (f := ⟨_, .diskAttachment intent, attempt, "", none⟩) hkey) fun r => ?_
      obtain ⟨_, acquired⟩ := r
      dsimp only
      split
      · next hstored => exact .pure fun _ _ _ => ⟨hdelete _ hstored, trivial⟩
      · next hother =>
        refine ih.pre fun s _ hs => ?_
        cases acquired with
        | false => exact hs.2 rfl
        | true =>
          obtain ⟨rfl, -⟩ := hs.1 rfl
          exact absurd rfl hother

/-- A disk-delete fence is not an attachment fence. -/
theorem completes_quiet : Completes (quiet key) fun f => ¬ Attachment f where
  ok op h := by cases op <;> first | exact trivial | exact h.elim
  observe _ _ _ := trivial
  observed f _ g h hr := not_attachment_of_authority (hr g rfl) h
  got f g h _ hsame := not_attachment_of_authority hsame h
  delete _ h := .inl h

/-- The create fence of the disk has another key. -/
theorem matchingDiskCreateFence_quiet (disk : Option Disk) :
    (quiet (diskKey location volumeID)).UsesE (matchingDiskCreateFence location volumeID disk)
      (Deletable (quiet (diskKey location volumeID))) := by
  refine UsesE.mono (completes_quiet.matchingDiskCreateFence_uses disk) fun _ h f hf => .inr ?_
  obtain ⟨_, hfences, hmem, -⟩ := h f hf
  have hpre : hasPrefix f.key ("disk-create/" ++ (toLower location ++ "/")) = true := by
    rw [← String.append_assoc]
    exact hfences f hmem
  exact ne_diskAttachmentFenceKey_of_hasPrefix hpre

theorem deleteFenced_triple {issueDelete : Bool} (h : ¬ Attachment fence) :
    DiskTriple location volumeID t (fun _ => True)
      (deleteFenced fuel a location volumeID fence issueDelete)
      (fun _ _ => True) := by
  have hlast : Lasting (diskKey location volumeID) location volumeID t fun _ => True :=
    lasting_of_onward fun _ _ h _ => h
  have huses : (quiet (diskKey location volumeID)).UsesE
      (deleteFenced fuel a location volumeID fence issueDelete) fun _ => True :=
    completes_quiet.deleteFenced_uses h matchingDiskCreateFence_quiet
  exact (quiet_triple hlast huses).mono fun _ _ _ => trivial

theorem deleteVolume_triple :
    DiskTriple location volumeID t (Idle t)
      (deleteVolume fuel a location volumeID) (fun _ _ => True) := by
  have hop : (deleteIntent a location volumeID).operation ≠ "disk-attachment" := by
    show "disk-delete" ≠ "disk-attachment"
    decide
  rw [deleteVolume_eq]
  refine .bind (prepareDiskDeleteFence_triple rfl rfl hop) fun r => ?_
  exact TripleE.hyp deleteFenced_triple

end

/-! ### The statement -/

theorem verified : (diskRules location volumeID).Verified (neededWorld location volumeID)
    (Calls location volumeID) Initial (fun _ _ _ => True) where
  init := by
    rintro s ⟨hf, hd, ha, hr⟩
    refine ⟨⟨by simp [hd], by simp [ha], by simp [ha], by simp [hf], by simp [ha], ?_⟩,
      fun t => ⟨ha t, hr t⟩⟩
    rintro t ⟨c, hc⟩
    rw [hr t] at hc
    cases hc
  env _ _ hi henv := inv_env hi henv
  fresh _ _ _ h hstep := idle_step h hstep
  stable _ _ := stable_const
  start := by
    rintro t p s ⟨fuel, a, call, rfl⟩ hi hidle
    have hcode : DiskTriple location volumeID t (Idle t)
        (call.code location volumeID fuel a) (fun _ _ => True) := by
      cases call with
      | attachVolume => exact attachVolume_triple
      | detachVolume => exact detachVolume_triple
      | deleteVolume => exact deleteVolume_triple
      | expandVolume => exact .bind expandVolume_triple fun _ => TripleE.pure fun _ _ _ => trivial
    exact hcode.wp hi hidle (fun _ _ _ => trivial) fun _ _ _ => trivial

/-- **The disk moves under the mover's own fence.**  In every run in which
attachment fences are created only while the disk is not yet where their intent
wants it, an invocation that is about to issue `AttachDisk` or `DetachDisk` has
the attachment fence it created in the store. -/
theorem moves_under_own_fence {c : Config State Op Reply (Except Err Unit)}
    (h : Reachable (neededWorld location volumeID) (Calls location volumeID) Initial c)
    {t : Tid} {op : Op} {next : Reply op → Prog Op Reply (Except Err Unit)}
    (hrun : c.threads t = .running (.call op next)) (hop : Moves op) :
    Covered location volumeID t c.shared := by
  have hgood := Good.reachable verified h
  have hi : Inv (diskKey location volumeID) c.shared := hgood.inv
  -- let the request be dispatched here: the guarantee says under which fence
  have hdispatch : ∀ change r, (neededWorld location volumeID).exec t op c.shared r
      (c.shared.dispatch t change) → Covered location volumeID t c.shared := by
    intro change r hexec
    obtain ⟨-, hg, -⟩ := hgood.running t _ hrun c.shared .refl hgood.inv r _ hexec
    have hflight : InFlight t (c.shared.dispatch t change) := ⟨change, Function.update_self ..⟩
    rcases hg.dispatch hflight with hbefore | ⟨f, hf, ha, hs⟩
    · obtain ⟨f, hf, ha, hs⟩ := hi.inFlight t hbefore
      exact ⟨f, hf, hi.keyed t f hf, ha, hs⟩
    · exact ⟨f, hf, hi.keyed t f hf, ha, hs⟩
  cases op with
  | attachDisk _ vmUUID =>
    exact hdispatch (.attach vmUUID) (.error .transport) ⟨trivial, .inr ⟨nofun, rfl⟩⟩
  | detachDisk _ vmUUID =>
    exact hdispatch (.detach vmUUID) (.error .transport) ⟨trivial, .inr ⟨nofun, rfl⟩⟩
  | _ => exact hop.elim

/-! ### Runs on one disk and one VM -/

def workerUUID : String := "0b000000-0000-4000-8000-000000000001"

def workerNode : String := "inspace://bkk/0b000000-0000-4000-8000-000000000001"

/-- The VM as it is read while `holder` holds the disk. -/
def workerVM (holder vmUUID : String) : VM :=
  { uuid := vmUUID, status := "running", billingAccountID := 1, networkUUID := "vpc",
    storage := some (if equalFold holder vmUUID then [⟨pvcUUID, false⟩] else []) }

theorem workerVM_honest (holder vmUUID : String) :
    Honest (toLower pvcUUID) vmUUID holder (.ok (some (workerVM holder vmUUID))) := by
  have hfold : equalFold pvcUUID (toLower pvcUUID) = true := by decide
  simp only [Honest, workerVM, vmDiskRows, Option.getD_some]
  split
  · next h => simp [h, hfold]
  · next h => simp [h]

/-- Plain answers: everything is there and works.  No answer to `AttachDisk`,
so a run stops in front of it. -/
def answer (t : Tid) : (op : Op) → State → Option (Reply op × State)
  | .listVMs _, s => some (.ok [workerVM s.holder workerUUID], s)
  | .getVM _ vmUUID, s => some (.ok (some (workerVM s.holder vmUUID)), s)
  | .getNetwork _ _, s => some (.ok (some ⟨"vpc", some [workerUUID]⟩), s)
  | .getDisk _ _, s => some (.ok (some pvcDisk), s)
  | .lockVM _, s => some (none, s)
  | .dispatchReserve, s => some (none, s)
  | .fenceGet key, s => some (s.fences key, s)
  | .fenceCreate fence, s =>
    some (((s.fences.create fence).1, (s.fences.create fence).2.1), { s with
      fences := (s.fences.create fence).2.2
      acquired := if (s.fences.create fence).2.1 then Function.update s.acquired t (some fence)
        else s.acquired })
  | .fenceDelete fence, s =>
    some ((s.fences.delete fence).1, { s with fences := (s.fences.delete fence).2 })
  | .newAttempt, s =>
    if s.drawn.all fun p => p.2 != s.drawn.length then
      some (s.drawn.length, { s with drawn := (t, s.drawn.length) :: s.drawn })
    else none
  | .detachDisk _ vmUUID _, s => some (.ok (), s.dispatch t (.detach vmUUID))
  | _, _ => none

def driver (t : Tid) : (world "bkk" pvcUUID).Driver t where
  answer := answer t
  sound op s r s' h := by
    cases op with
    | getVM _ vmUUID =>
      cases h
      exact ⟨rfl, fun _ => workerVM_honest s.holder vmUUID⟩
    | newAttempt =>
      simp only [answer, Option.ite_none_right_eq_some, List.all_eq_true, bne_iff_ne] at h
      obtain ⟨hnew, heq⟩ := h
      cases heq
      exact ⟨fun u hu => hnew _ hu rfl, rfl⟩
    | detachDisk => cases h; exact .inr ⟨nofun, rfl⟩
    | listVMs | getNetwork | getDisk | lockVM | dispatchReserve => cases h; rfl
    | fenceGet | fenceCreate | fenceDelete => cases h; exact ⟨rfl, rfl⟩
    | _ => cases h

/-- The disk is on `holder`, and nothing has happened. -/
def State.start (holder : String) : State :=
  { fences := fun _ => none, holder := holder, drawn := [], acquired := fun _ => none,
    requests := fun _ => none }

theorem initial_start (holder : String) : Initial (State.start holder) :=
  ⟨fun _ => rfl, rfl, fun _ => rfl, fun _ => rfl⟩

/-- The next request is an `AttachDisk`. -/
def attaches : Prog Op Reply (Except Err Unit) → Bool
  | .call (.attachDisk _ _ _) _ => true
  | _ => false

theorem call_of_attaches {p : Prog Op Reply (Except Err Unit)} (h : attaches p = true) :
    ∃ l vmUUID diskUUID next, p = .call (.attachDisk l vmUUID diskUUID) next := by
  cases p with
  | ret | stop => cases h
  | call op next =>
    cases op with
    | attachDisk l vmUUID diskUUID => exact ⟨l, vmUUID, diskUUID, next, rfl⟩
    | _ => cases h

/-- The thread's fence is in the store. -/
def fenceStands (t : Tid) (s : State) : Bool :=
  (s.acquired t).any fun f => (s.fences f.key).any fun g => g.attempt == f.attempt

theorem not_covered_of_fenceStands (h : fenceStands t s = false) :
    ¬ Covered location volumeID t s := by
  rintro ⟨f, hf, -, -, g, hg, hn⟩
  simp [fenceStands, hf, hg, hn] at h

/-- `AttachVolume` of the disk to the VM, and the detach from it. -/
def attachCall : Prog Op Reply (Except Err Unit) :=
  ((Call.attachVolume workerNode).code "bkk" pvcUUID 9 bkkAdapter).run

def detachCall : Prog Op Reply (Except Err Unit) :=
  ((Call.detachVolume "").code "bkk" pvcUUID 9 bkkAdapter).run

theorem calls_attach : Calls "bkk" pvcUUID t attachCall :=
  ⟨9, bkkAdapter, .attachVolume workerNode, rfl⟩

theorem calls_detach : Calls "bkk" pvcUUID t detachCall :=
  ⟨9, bkkAdapter, .detachVolume "", rfl⟩

/-- The condition on the creation of fences, checked. -/
def meetsNeeded : Op → State → Bool
  | .fenceCreate f, s =>
    let intent := decodeDiskAttachmentIntent f
    if intent.desiredVMUUID ≠ "" then !equalFold s.holder intent.desiredVMUUID
    else equalFold s.holder intent.previousVMUUID
  | _, _ => true

theorem needed_of_meets (op : Op) (s : State) (h : meetsNeeded op s = true) : Needed t op s := by
  cases op with
  | fenceCreate f =>
    intro _ _
    simp only [meetsNeeded] at h
    unfold NotYet
    split
    · next hd => rw [if_pos hd] at h; simpa using h
    · next hd => rw [if_neg hd] at h; exact h
  | _ => trivial

/-- An `AttachVolume` of a free disk, up to its `AttachDisk`. -/
def attachRun : State × Prog Op Reply (Except Err Unit) :=
  ((driver 0).restrict meetsNeeded needed_of_meets).drive 30 (State.start "") attachCall

theorem moves_under_own_fence_attach :
    ∃ c : Config State Op Reply (Except Err Unit),
      Reachable (neededWorld "bkk" pvcUUID) (Calls "bkk" pvcUUID) Initial c ∧
      Covered "bkk" pvcUUID 0 c.shared := by
  have h := ((driver 0).restrict meetsNeeded needed_of_meets).started (r := attachRun)
    (.init (initial_start _)) rfl (calls_attach (t := 0)) rfl
  obtain ⟨_, _, _, _, hp⟩ :=
    call_of_attaches (p := attachRun.2) (by decide +kernel)
  exact ⟨_, h, moves_under_own_fence (t := 0) h (congrArg Thread.running hp) trivial⟩

/-- `AttachVolume` creates its fence while the VM has the disk already. -/
def fencedRun : State × Prog Op Reply (Except Err Unit) :=
  (driver 0).drive 7 (State.start workerUUID) attachCall

/-- `DetachVolume` settles that fence, creates its own and dispatches. -/
def detachRun : State × Prog Op Reply (Except Err Unit) :=
  (driver 1).drive 25 fencedRun.1 detachCall

/-- The provider detaches the disk. -/
def detached : State :=
  { detachRun.1 with
    holder := (Change.detach workerUUID).apply detachRun.1.holder
    requests := Function.update detachRun.1.requests 1 (some ⟨.detach workerUUID, true⟩) }

/-- `AttachVolume` goes on. -/
def resumedRun : State × Prog Op Reply (Except Err Unit) :=
  (driver 0).drive 30 detached fencedRun.2

/-- Where the run comes out; evaluated once. -/
theorem resumedRun_eval :
    (decide (detachRun.1.requests 1 = some ⟨.detach workerUUID, false⟩) &&
      attaches resumedRun.2 && !fenceStands 0 resumedRun.1) = true := by decide +kernel

/-- A detach settles the fence of an attach that has nothing to do yet, and
takes the disk away; the attach then dispatches without its fence. -/
theorem attach_without_fence :
    ∃ (c : Config State Op Reply (Except Err Unit)) (l vmUUID diskUUID : String)
      (next : Reply (.attachDisk l vmUUID diskUUID) → Prog Op Reply (Except Err Unit)),
      Reachable (world "bkk" pvcUUID) (Calls "bkk" pvcUUID) Initial c ∧
      c.threads 0 = .running (.call (.attachDisk l vmUUID diskUUID) next) ∧
      ¬ Covered "bkk" pvcUUID 0 c.shared := by
  have heval := resumedRun_eval
  simp only [Bool.and_eq_true, decide_eq_true_eq, Bool.not_eq_true'] at heval
  obtain ⟨⟨hrequest, hattaches⟩, hgone⟩ := heval
  -- the attach creates its fence, the detach settles it and dispatches under its own
  have h := (driver 0).started (r := fencedRun) (.init (initial_start workerUUID)) rfl
    (calls_attach (t := 0)) rfl
  have h := (driver 1).started (r := detachRun) h rfl calls_detach rfl
  -- the provider detaches the disk, and the attach goes on
  have henv : Env detachRun.1 detached := .commit detachRun.1 1 (.detach workerUUID) hrequest
  obtain ⟨c, h, hs, hthreads⟩ :=
    ((driver 0).resumed (r := resumedRun) (h.moved henv) rfl rfl).named
  obtain ⟨l, vmUUID, diskUUID, next, hp⟩ := call_of_attaches hattaches
  refine ⟨c, l, vmUUID, diskUUID, next, h, ?_, ?_⟩
  · rw [hthreads]
    exact congrArg Thread.running hp
  · rw [hs]
    exact not_covered_of_fenceStands hgone

end InSpaceKube.Csi.AttachFence
