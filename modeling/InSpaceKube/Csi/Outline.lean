/-
InSpaceKube/Csi/Outline.lean

A proof outline of `EnsureVolume`.

Whatever one wants to know about many adapters running `EnsureVolume`, one
invocation goes through the same stages:

* `fresh` — it has done nothing but read;
* `drawn n` — it has drawn the attempt token `n`;
* `held f` — it has acquired the fence `f` and not dispatched;
* `ready f` — it has then listed the disks and found none of the name;
* `seen d` — a read has shown it the disk `d` of the name.

An `Outline` gives each stage a meaning in the shared state and says what each
request does between them.  `Outline.ensureVolume` is the walk through the
code, once for all meanings.
-/
import InSpaceKube.Csi.System

namespace InSpaceKube.Csi

open Rules Prog

/-- An assertion a thread may keep over requests that only show it something. -/
structure Local (R : Rules State) (W : Sem State Op Reply) (t : Tid) (P : State → Prop) :
    Prop where
  stable : R.Stable W t P
  observe : ∀ s o, P s → P (s.observe o)

theorem Local.and {R : Rules State} {W : Sem State Op Reply} {t : Tid} {P Q : State → Prop}
    (hP : Local R W t P) (hQ : Local R W t Q) : Local R W t fun s => P s ∧ Q s :=
  ⟨hP.stable.and hQ.stable, fun s o h => ⟨hP.observe s o h.1, hQ.observe s o h.2⟩⟩

theorem local_true {R : Rules State} {W : Sem State Op Reply} {t : Tid} :
    Local R W t fun _ => True :=
  ⟨stable_const, fun _ _ h => h⟩

/-- The system serves requests as `exec` says, and showing a thread something
is within its rules. -/
structure Frame (R : Rules State) (W : Sem State Op Reply) (t : Tid) : Prop where
  exec_of : ∀ op s r s', W.exec t op s r s' → exec t op s r s'
  observe : ∀ s o, R.inv s → R.inv (s.observe o) ∧ R.guar t s (s.observe o)

/-- The stages of one `EnsureVolume`, and what the requests do between them. -/
structure Outline (R : Rules State) (W : Sem State Op Reply) (t : Tid)
    (sha256 : String → String) (intent : DiskCreateIntent) extends Frame R W t where
  fresh : State → Prop
  drawn : ℕ → State → Prop
  held : MutationFence → State → Prop
  ready : MutationFence → State → Prop
  seen : Disk → State → Prop
  local_fresh : Local R W t fresh
  local_held : ∀ f, Local R W t (held f)
  local_ready : ∀ f, Local R W t (ready f)
  local_seen : ∀ d, Local R W t (seen d)
  seen_listed : ∀ s d, d ∈ s.disks intent.location → d.displayName = intent.name →
    (intent.location, toLower d.uuid) ∈ s.observed → seen d s
  seen_read : ∀ s d d', seen d s → (intent.location, toLower d'.uuid) ∈ s.observed → seen d' s
  ready_of_held : ∀ f s, R.inv s → held f s →
    (∀ d ∈ s.disks intent.location, d.displayName ≠ intent.name) → ready f s
  held_of_ready : ∀ f s, ready f s → held f s
  newAttempt : ∀ E : Err → State → Prop, R.TripleE W t fresh (call .newAttempt) (fun n => drawn n) E
  fenceCreate : ∀ (n : ℕ) (f : MutationFence) (E : Err → State → Prop),
    f = { key := diskCreateFenceKey sha256 intent.location intent.name,
          intent := .diskCreate intent, attempt := n } →
    R.TripleE W t (drawn n) (call (.fenceCreate f)) (fun r s => r.2 = true → r.1 = f ∧ held f s) E
  setReceipt : ∀ (f : MutationFence) (d : Disk) (E : Err → State → Prop),
    decodeDiskCreateIntent f = intent → toLower d.uuid ≠ "" →
    R.TripleE W t (seen d) (call (.fenceSetReceipt f (toLower d.uuid)))
      (fun r s => seen d s ∧ ∀ g, r = .ok g → g.receipt ≠ "") E
  deleteStamped : ∀ (f : MutationFence) (d : Disk) (E : Err → State → Prop), f.receipt ≠ "" →
    R.TripleE W t (seen d) (call (.fenceDelete f)) (fun _ _ => True) E
  deleteHeld : ∀ (f : MutationFence) (E : Err → State → Prop),
    R.TripleE W t (held f) (call (.fenceDelete f)) (fun _ _ => True) E
  createDisk : ∀ (f : MutationFence) (request : CreateDiskRequest) (E : Err → State → Prop),
    request.displayName = intent.name →
    R.TripleE W t (ready f) (call (.createDisk intent.location request))
      (fun r s => r = .error .mutationBlocked → held f s) E

variable {R : Rules State} {W : Sem State Op Reply} {t : Tid} {P : State → Prop}
  {E : Err → State → Prop}

/-! ### Requests that read -/

namespace Frame

variable (F : Frame R W t)

include F

/-- A request that at most shows the caller something. -/
theorem quiet {op : Op} (hP : Local R W t P)
    (hq : ∀ s r s', exec t op s r s' → ∃ o, s' = s.observe o) :
    R.TripleE W t P (call op) (fun _ => P) E := by
  refine .perform hP.stable fun s r s' hi hp hexec => ?_
  obtain ⟨o, rfl⟩ := hq s r s' (F.exec_of _ _ _ _ hexec)
  exact ⟨(F.observe s o hi).1, (F.observe s o hi).2, hP.observe s o hp⟩

theorem wait (hP : Local R W t P) : R.TripleE W t P (call .wait) (fun _ => P) E :=
  F.quiet hP fun _ _ _ h => ⟨[], h⟩

theorem dispatchReserve (hP : Local R W t P) :
    R.TripleE W t P (call .dispatchReserve) (fun _ => P) E :=
  F.quiet hP fun _ _ _ h => ⟨[], h⟩

theorem fenceGet (hP : Local R W t P) (key : String) :
    R.TripleE W t P (call (.fenceGet key)) (fun _ => P) E :=
  F.quiet hP fun _ _ _ h => ⟨[], h.2⟩

/-- What a listing shows is there, and has been observed. -/
theorem listDisks (hP : Local R W t P) (location : String) :
    R.TripleE W t P (call (.listDisks location))
      (fun r s => P s ∧ ∀ disks, r = .ok disks → disks = s.disks location ∧
        ∀ d ∈ disks, (location, toLower d.uuid) ∈ s.observed) E := by
  refine .perform hP.stable fun s r s' hi hp hexec => ?_
  have hexec := F.exec_of _ _ _ _ hexec
  cases r with
  | ok disks =>
    obtain ⟨rfl, rfl⟩ := hexec
    refine ⟨(F.observe s _ hi).1, (F.observe s _ hi).2, hP.observe s _ hp, fun disks h => ?_⟩
    cases h
    exact ⟨rfl, fun d hd => List.mem_append_left _ (List.mem_map.2 ⟨d, hd, rfl⟩)⟩
  | error =>
    obtain rfl : s' = s := hexec
    exact ⟨hi, (F.observe s' [] hi).2, hp, nofun⟩

/-- An exact read shows a disk that is there, or a tombstone. -/
theorem getDisk (hP : Local R W t P) (location uuid : String) :
    R.TripleE W t P (call (.getDisk location uuid))
      (fun r s => P s ∧ ∀ d, r = .ok (some d) →
        diskDeletedTombstone d = true ∨ (location, toLower d.uuid) ∈ s.observed) E := by
  refine .perform hP.stable fun s r s' hi hp hexec => ?_
  have hexec := F.exec_of _ _ _ _ hexec
  have hskip : s' = s → R.inv s' ∧ R.guar t s s' ∧ P s' := by
    rintro rfl
    exact ⟨hi, (F.observe s' [] hi).2, hp⟩
  rcases r with e | - | d
  · have hs : s' = s := by
      cases e with
      | notFound => exact hexec.2
      | _ => exact hexec
    exact ⟨(hskip hs).1, (hskip hs).2.1, (hskip hs).2.2, nofun⟩
  · exact ⟨(hskip hexec).1, (hskip hexec).2.1, (hskip hexec).2.2, nofun⟩
  · rcases hexec with ⟨-, -, rfl⟩ | ⟨hdel, -, hs⟩
    · exact ⟨(F.observe s _ hi).1, (F.observe s _ hi).2, hP.observe s _ hp,
        fun _ h => by cases h; exact .inr (List.mem_append_left _ (List.mem_singleton.2 rfl))⟩
    · exact ⟨(hskip hs).1, (hskip hs).2.1, (hskip hs).2.2, fun _ h => by cases h; exact .inl hdel⟩

theorem waitMutationReadback (hP : Local R W t P) :
    R.TripleE W t P waitMutationReadback (fun _ => P) (fun _ => P) := by
  refine .bind (F.wait hP) fun r => ?_
  cases r with
  | none => exact .pure fun _ _ h => h
  | some => exact .throw fun _ _ h => h

end Frame

/-! ### The code of `EnsureVolume` -/

namespace Outline

variable {sha256 : String → String} {intent : DiskCreateIntent} (O : Outline R W t sha256 intent)
  {a : Adapter} {f : MutationFence} {disk : Disk} {mutationErr : Option Err} {fuel : ℕ}

include O

/-- A disk that is about to be waited for: seen, or read as a tombstone. -/
def known (d : Disk) (s : State) : Prop := diskDeletedTombstone d = true ∨ O.seen d s

/-- Waiting for a disk ends with a disk that has been seen. -/
theorem waitForDiskReadyLoop (hP : Local R W t P) {expected : String} :
    R.TripleE W t (fun s => P s ∧ O.known disk s)
      (waitForDiskReadyLoop intent expected fuel disk)
      (fun ready s => toLower ready.uuid ≠ "" ∧ P s ∧ O.seen ready s) (fun _ => P) := by
  induction fuel generalizing disk with
  | zero => exact .outOfRounds
  | succ _ ih =>
    unfold Csi.waitForDiskReadyLoop
    split
    · exact .throw fun _ _ h => h.1
    next hexact =>
    refine .bind (TripleE.check (fun _ _ _ _ h => h) fun _ _ _ _ h => h.1) fun _ => ?_
    have hseen : toLower (trimSpace disk.status) ≠ "deleted" →
        ∀ s, P s ∧ O.known disk s → P s ∧ O.seen disk s := by
      rintro hne s ⟨hp, hdel | h⟩
      · exact absurd ((beq_iff_eq.1 hdel).trans (by decide)) hne
      · exact ⟨hp, h⟩
    dsimp only
    split
    next hactive =>
      exact .pure fun s _ h =>
        ⟨validateExactDisk_uuid_ne hexact, hseen (by rw [hactive]; decide) s h⟩
    next =>
    split
    · exact .throw fun _ _ h => h.1
    next hstatus =>
      have hlive := hseen fun h => hstatus (.inr (.inr h))
      have hL := hP.and (O.local_seen disk)
      refine .bind ((O.waitMutationReadback hL).conseq (fun s _ h => hlive s h)
        (fun _ _ _ h => h) fun _ _ _ h => h.1) fun _ => ?_
      refine .bind (O.getDisk hL _ _) fun r => ?_
      rcases r with e | - | current
      · exact .throw fun _ _ h => h.1.1
      · exact .throw fun _ _ h => h.1.1
      · exact ih.pre fun s _ h => ⟨h.1.1,
          (h.2 current rfl).imp id fun hobs => O.seen_read s disk current h.1.2 hobs⟩

theorem fencesSetReceipt (hf : decodeDiskCreateIntent f = intent) (hd : toLower disk.uuid ≠ "") :
    R.TripleE W t (O.seen disk) (fencesSetReceipt f (toLower disk.uuid))
      (fun g s => g.receipt ≠ "" ∧ O.seen disk s) (fun _ _ => True) :=
  TripleE.bind (O.setReceipt f disk _ hf hd) fun _ =>
    TripleE.check (fun g hg _ _ h => ⟨h.2 g hg, h.1⟩) fun _ _ _ _ _ => trivial

theorem fencesDeleteStamped (hf : f.receipt ≠ "") :
    R.SafeE W t (O.seen disk) (fencesDelete f) :=
  TripleE.bind (O.deleteStamped f disk _ hf) fun _ => .checked

/-- The owner gives its fence up before the dispatch. -/
theorem clearFence {α : Type} {Q : α → State → Prop} {cause : Err} {wrap : Err → Err} :
    R.TripleE W t (O.held f) (clearFence f cause wrap : Code α) Q (fun _ _ => True) := by
  have hdelete : R.SafeE W t (O.held f) (fencesDelete f) :=
    TripleE.bind (O.deleteHeld f _) fun _ => .checked
  refine .bind (TripleE.attempt hdelete) fun r => ?_
  cases r with
  | ok => exact .throw_any
  | error => exact .throw_any

/-- Completing a fence, once a disk of the name has been seen. -/
theorem completeFencedDisk (hf : decodeDiskCreateIntent f = intent) (hd : toLower disk.uuid ≠ "") :
    R.SafeE W t (O.seen disk) (completeFencedDisk intent f disk) := by
  refine .bind (TripleE.withErr (O.fencesSetReceipt hf hd)
    fun _ _ _ _ => trivial) fun canonical => TripleE.hyp fun hcanonical => ?_
  refine .skip ?_
  refine .bind (TripleE.withErr (O.fencesDeleteStamped hcanonical)
    fun _ _ _ _ => trivial) fun _ => ?_
  exact .pure fun _ _ _ => trivial

theorem finishFencedDisk (hf : decodeDiskCreateIntent f = intent) :
    R.SafeE W t (O.seen disk) (finishFencedDisk fuel intent f disk) := by
  refine .skip ?_
  refine .bind ((O.waitForDiskReadyLoop local_true).conseq
    (fun _ _ h => ⟨trivial, .inr h⟩) (fun _ _ _ h => h) fun _ _ _ h => h) fun ready => ?_
  exact TripleE.hyp fun hd => (O.completeFencedDisk hf hd).pre fun _ _ h => h.2

theorem finishUndispatchedFencedDisk (hf : decodeDiskCreateIntent f = intent) :
    R.SafeE W t (fun s => O.held f s ∧ O.seen disk s)
      (finishUndispatchedFencedDisk fuel intent f disk) := by
  unfold Csi.finishUndispatchedFencedDisk
  split
  · exact O.clearFence.pre fun _ _ h => h.1
  · refine .bind ((TripleE.attempt (O.waitForDiskReadyLoop (O.local_held f))).pre
      fun _ _ h => ⟨h.1, .inr h.2⟩) fun r => ?_
    cases r with
    | ok ready =>
      exact TripleE.hyp fun hd => (O.completeFencedDisk hf hd).pre fun _ _ h => h.2
    | error => exact O.clearFence

/-- A disk found by name in a listing has been seen. -/
theorem seen_of_found {s : State} {disks : List Disk} {d : Disk}
    (hdisks : disks = s.disks intent.location ∧
      ∀ d ∈ disks, (intent.location, toLower d.uuid) ∈ s.observed)
    (h : uniqueNamedDisk disks intent.name = .ok (some d)) : O.seen d s := by
  obtain ⟨hmem, hn⟩ := uniqueNamedDisk_some h
  exact O.seen_listed s d (hdisks.1 ▸ hmem) hn (hdisks.2 d hmem)

theorem reconcileDiskCreateFenceLoop (hf : decodeDiskCreateIntent f = intent) :
    R.SafeE W t (fun _ => True) (reconcileDiskCreateFenceLoop intent f mutationErr fuel) := by
  induction fuel with
  | zero => exact .outOfRounds
  | succ fuel ih =>
    have hwait : ∀ g : Err → Err, R.SafeE W t (fun _ => True)
      (withErr Csi.waitMutationReadback g) := fun g =>
      TripleE.withErr (O.waitMutationReadback local_true) fun _ _ _ _ => trivial
    refine .bind (O.listDisks local_true _) fun r => ?_
    rcases r with e | disks
    · exact (TripleE.bind (hwait _) fun _ => ih).pre fun _ _ _ => trivial
    · refine .bind (M := fun found s => ∀ d, found = some d → O.seen d s) ?_ fun found => ?_
      · refine .check (fun found hfound s _ hs d hd => ?_) fun _ _ _ _ _ => trivial
        exact O.seen_of_found (hs.2 disks rfl) (hd ▸ hfound)
      · cases found with
        | none => exact (TripleE.bind (hwait _) fun _ => ih).pre fun _ _ _ => trivial
        | some d => exact (O.finishFencedDisk hf).pre fun _ _ h => h d rfl

theorem reconcileDiskCreateFence :
    R.SafeE W t (fun _ => True) (reconcileDiskCreateFence fuel a intent f mutationErr) := by
  unfold Csi.reconcileDiskCreateFence
  split
  · exact .throw_any
  next h => exact O.reconcileDiskCreateFenceLoop (by simpa using (not_or.1 h).1)

theorem beginDiskCreateFence (hsha : a.sha256 = sha256) :
    R.TripleE W t O.fresh (beginDiskCreateFence a intent)
      (fun r s => r.2 = true → decodeDiskCreateIntent r.1 = intent ∧ O.held r.1 s)
      (fun _ _ => True) := by
  subst hsha
  refine .bind (O.fenceGet O.local_fresh _) fun r => ?_
  cases r with
  | some =>
    dsimp only
    split
    · exact .throw_any
    · exact .pure nofun
  | none =>
    refine .bind (O.newAttempt _) fun attempt => ?_
    refine .bind (O.fenceCreate attempt _ _ rfl) fun r => ?_
    obtain ⟨_, _⟩ := r
    dsimp only
    split
    · exact .throw_any
    · refine .pure fun s _ h hacq => ?_
      obtain ⟨rfl, hheld⟩ := h hacq
      exact ⟨rfl, hheld⟩

theorem clearMatchingFence (hd : toLower disk.uuid ≠ "") :
    R.SafeE W t (O.seen disk) (clearMatchingFence a intent disk) := by
  refine .bind (O.fenceGet (O.local_seen disk) _) fun r => ?_
  cases r with
  | none => exact .pure fun _ _ _ => trivial
  | some fence =>
    dsimp only
    split
    · exact .throw_any
    next hf =>
      refine .bind (TripleE.withErr (O.fencesSetReceipt (not_not.1 hf) hd)
        fun _ _ _ _ => trivial) fun canonical => TripleE.hyp fun hcanonical => ?_
      exact TripleE.withErr (O.fencesDeleteStamped hcanonical)
        fun _ _ _ _ => trivial

theorem adoptNamedDisk :
    R.SafeE W t (O.seen disk) (adoptNamedDisk fuel a intent disk) := by
  refine .skip ?_
  refine .bind ((O.waitForDiskReadyLoop local_true).conseq
    (fun _ _ h => ⟨trivial, .inr h⟩) (fun _ _ _ h => h) fun _ _ _ h => h) fun ready => ?_
  refine TripleE.hyp fun hd => ?_
  refine .bind ((O.clearMatchingFence hd).pre fun _ _ h => h.2) fun _ => ?_
  exact .checked

/-- The winner of the fence dispatches at most once, and only when it may. -/
theorem createFencedDisk (hf : decodeDiskCreateIntent f = intent) :
    R.SafeE W t (O.held f) (createFencedDisk fuel a intent f) := by
  refine .bind (O.listDisks (O.local_held f) _) fun r => ?_
  rcases r with e | disks
  · exact O.clearFence.pre fun _ _ h => h.1
  · dsimp only
    rcases hfound : uniqueNamedDisk disks intent.name with e | - | d
    · exact O.clearFence.pre fun _ _ h => h.1
    · refine (TripleE.bind (O.dispatchReserve (O.local_ready f)) fun r => ?_).pre
        (P := O.ready f) fun s hi h => O.ready_of_held f s hi h.1 ?_
      · cases r with
        | some => exact O.clearFence.pre fun s _ h => O.held_of_ready f s h
        | none =>
          refine .bind (O.createDisk f _ _ rfl) fun r => ?_
          rcases r with e | - | d
          · cases e with
            | mutationBlocked => exact O.clearFence.pre fun _ _ h => h rfl
            | _ => exact O.reconcileDiskCreateFence.pre fun _ _ _ => trivial
          · exact O.reconcileDiskCreateFence.pre fun _ _ _ => trivial
          · exact O.reconcileDiskCreateFence.pre fun _ _ _ => trivial
      · rw [← (h.2 disks rfl).1]
        exact uniqueNamedDisk_none hfound
    · exact (O.finishUndispatchedFencedDisk hf).pre fun s _ h =>
        ⟨h.1, O.seen_of_found (h.2 disks rfl) hfound⟩

theorem ensureDisk (hsha : a.sha256 = sha256) :
    R.SafeE W t O.fresh (ensureDisk fuel a intent) := by
  refine .bind (O.listDisks O.local_fresh _) fun r => ?_
  rcases r with e | disks
  · exact .throw_any
  · refine .bind (M := fun found s => O.fresh s ∧ ∀ d, found = some d → O.seen d s) ?_
      fun found => ?_
    · refine .check (fun found hfound s _ hs => ⟨hs.1, fun d hd => ?_⟩) fun _ _ _ _ _ => trivial
      exact O.seen_of_found (hs.2 disks rfl) (hd ▸ hfound)
    · cases found with
      | some d => exact O.adoptNamedDisk.pre fun _ _ h => h.2 d rfl
      | none =>
        refine .bind ((O.beginDiskCreateFence hsha).pre fun _ _ h => h.1) fun r => ?_
        obtain ⟨fence, - | -⟩ := r
        · exact O.reconcileDiskCreateFence.pre fun _ _ _ => trivial
        · exact (TripleE.hyp O.createFencedDisk).pre fun _ _ h => h rfl

end Outline

/-- One `EnsureVolume` is safe, if there is an outline for each intent it may
have. -/
theorem ensureVolume_triple {a : Adapter} {spec : VolumeSpec} {fresh : State → Prop}
    (O : ∀ sizeGiB, Outline R W t a.sha256
      { operation := "create-disk", location := spec.location, name := spec.name,
        sizeGiB := sizeGiB, billingAccountID := a.billing })
    (hfresh : ∀ sizeGiB s, fresh s → (O sizeGiB).fresh s) {fuel : ℕ} :
    R.SafeE W t fresh (ensureVolume fuel a spec) :=
  TripleE.check_any fun sizeGiB _ => ((O sizeGiB).ensureDisk rfl).pre fun s _ h => hfresh sizeGiB s h

end InSpaceKube.Csi
