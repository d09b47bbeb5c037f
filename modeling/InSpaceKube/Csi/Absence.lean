/-
InSpaceKube/Csi/Absence.lean

When is a fence completed because its object is gone?

Any number of processes run `waitForDiskAbsent` or `waitForDetached` on one
fence and delete what the loop hands back.  The observation on the fence
counts the absences seen so far; a loop advances it by compare-and-swap and
withdraws it when it sees the object.

The shared state keeps a log, newest entry first: every observation that was
stored or withdrawn, and every read that showed the object.  A fence should
go only after three stored absences, spaced by the poll interval, with no
sighting between the first and the last (`AbsenceProven`).

It does go earlier.  A loop whose third swap is lost takes over the fence as
it stands, and treats it as proven although the observation was withdrawn.
Where no swap is lost, and no absence is recorded while a sighting of another
loop waits for its withdrawal (`Answered`), the fence goes only when it
should: a stored observation is the head of its own series (`Series`), and a
loop never extends a series past its own sighting.
-/
import InSpaceKube.Csi.FenceContract
import InSpaceKube.Csi.System

namespace InSpaceKube.Csi.Absence

open Rules Prog
open Function (update update_of_ne update_self)

/-! ### The log -/

inductive Event
  /-- The observation was stored on the fence with this attempt. -/
  | recorded (attempt : ℕ) (observation : MutationObservation)
  | withdrawn (attempt : ℕ)
  /-- A read of thread `t` showed the object. -/
  | seen (t : Tid)
deriving DecidableEq

/-- Thread `t` has seen the object since the observation was last written. -/
def UnansweredBy (t : Tid) : List Event → Prop
  | .seen u :: log => u = t ∨ UnansweredBy t log
  | _ => False

/-- Three absences were recorded on the fence `n`, at instants `poll` apart,
with no sighting between the first and the last. -/
def AbsenceProven (poll : ℤ) (n : ℕ) (log : List Event) : Prop :=
  ∃ (o₁ o₂ o₃ : MutationObservation) (t₂ t₃ : ℤ) (newer mid₂ mid₁ older : List Event),
    log = newer ++ .recorded n o₃ :: (mid₂ ++ .recorded n o₂ :: (mid₁ ++ .recorded n o₁ :: older)) ∧
    o₂.lastObservedAt = some t₂ ∧ o₃.lastObservedAt = some t₃ ∧
    o₁.firstObservedAt + poll ≤ t₂ ∧ t₂ + poll ≤ t₃ ∧
    ∀ u, .seen u ∉ mid₁ ∧ .seen u ∉ mid₂

/-! ### The world -/

structure State where
  fences : FenceStore
  log : List Event

/-- The read showed the disk, or an attachment of it. -/
def Shows (diskUUID : String) : (op : Op) → Reply op → Bool
  | .getDisk _ _, .ok (some d) => equalFold d.uuid diskUUID && !diskDeletedTombstone d
  | .listDisks _, .ok disks => disks.any fun d => equalFold d.uuid diskUUID
  | .listVMs _, .ok vms => vms.any fun vm =>
    (vm.storage.getD []).any fun s => equalFold s.uuid diskUUID
  | .getVM _ _, .ok (some vm) => 0 < vmDiskRows vm diskUUID
  | _, _ => false

/-- The entry of a write of the observation. -/
def Event.ofWrite (f : MutationFence) : Option MutationObservation → Event
  | some o => .recorded f.attempt o
  | none => .withdrawn f.attempt

/-- The effect of a request.  The cloud and the clocks say anything; what they
show is logged. -/
def exec (diskUUID : String) (t : Tid) : (op : Op) → State → Reply op → State → Prop
  | .fenceGet key, s, r, s' => r = s.fences key ∧ s' = s
  | .fenceSetObservation f o, s, r, s' =>
    r = (s.fences.setObservation f o).1 ∧
    s' = { fences := (s.fences.setObservation f o).2
           log := if (s.fences.setObservation f o).2 f.key ≠ s.fences f.key then
               .ofWrite f o :: s.log
             else s.log }
  | .fenceDelete f, s, r, s' =>
    r = (s.fences.delete f).1 ∧ s' = { s with fences := (s.fences.delete f).2 }
  | op, s, r, s' => s' = if Shows diskUUID op r then { s with log := .seen t :: s.log } else s

/-- Other code creates fences, and clears fences of mutations that were not
dispatched. -/
inductive Env : State → State → Prop
  | create (s : State) (f : MutationFence) :
      s.fences f.key = none → f.observation = none →
      Env s { s with fences := update s.fences f.key (some f) }
  | clear (s : State) (key : String) :
      Env s { s with fences := update s.fences key none }

def world (diskUUID : String) : Sem State Op Reply := ⟨exec diskUUID, Env⟩

/-- The two wait loops. -/
inductive Loop
  | diskAbsent (location volumeID : String)
  | detached (intent : DiskAttachmentIntent)

/-- The disk whose absence, or detachment, is waited for. -/
def Loop.disk : Loop → String
  | .diskAbsent _ volumeID => volumeID
  | .detached intent => intent.diskUUID

/-- A detach is waited for only when the VM it left is named. -/
def Loop.Named : Loop → Prop
  | .diskAbsent _ _ => True
  | .detached intent => uuidPattern (toLower intent.previousVMUUID) = true

def Loop.wait (fuel : ℕ) (a : Adapter) : Loop → MutationFence → Code (Option MutationFence)
  | .diskAbsent location volumeID => waitForDiskAbsent a location volumeID fuel
  | .detached intent => waitForDetached a intent fuel

/-- A process takes up the fence where it stands, and completes it through the
absence path. -/
def Loop.code (fuel : ℕ) (a : Adapter) (key : String) (loop : Loop) : Code Unit := do
  match ← call (.fenceGet key) with
  | none => pure ()
  | some fence =>
  match ← loop.wait fuel a fence with
  | none => pure ()
  | some resolved => fencesDelete resolved

/-- The processes of the statement: any loop on the fence and the disk. -/
def Loops (poll : ℤ) (key diskUUID : String) (_ : Tid)
    (p : Prog Op Reply (Except Err Unit)) : Prop :=
  ∃ fuel a, ∃ loop : Loop, a.absencePoll = poll ∧ equalFold loop.disk diskUUID = true ∧
    loop.Named ∧ p = (loop.code fuel a key).run

/-- No absence has been observed yet. -/
def Initial (s : State) : Prop :=
  s.log = [] ∧ ∀ key f, s.fences key = some f → f.key = key ∧ f.observation = none

/-- A write of the observation is served while the fence it was given is the
stored one, and an absence is not recorded on top of an observation while a
sighting of another loop waits for its withdrawal. -/
def Answered (t : Tid) (op : Op) (s : State) : Prop :=
  match op with
  | .fenceSetObservation f o => s.fences f.key = some f ∧
      (o.isSome → f.observation.isSome → ∀ u, u ≠ t → ¬ UnansweredBy u s.log)
  | _ => True

abbrev answeredWorld (diskUUID : String) : Sem State Op Reply := (world diskUUID).restrict Answered

/-! ### The invariant -/

/-- The observation `o` on the fence `n` was built up entry by entry at the head
of the log. -/
inductive Series (poll : ℤ) (n : ℕ) : MutationObservation → List Event → Prop
  | first (kind : ObservationKind) (now : ℤ) (older : List Event) :
      Series poll n ⟨kind, 1, now, none⟩ (.recorded n ⟨kind, 1, now, none⟩ :: older)
  | next {o : MutationObservation} {log : List Event} (kind : ObservationKind) (now : ℤ) :
      Series poll n o log → o.previousAt + poll ≤ now →
      Series poll n ⟨kind, o.count + 1, o.firstObservedAt, some now⟩
        (.recorded n ⟨kind, o.count + 1, o.firstObservedAt, some now⟩ :: log)

/-- The invariant: since its observation was last written, a fence has only been
followed by sightings. -/
structure Inv (poll : ℤ) (key : String) (s : State) : Prop where
  keyed : ∀ k g, s.fences k = some g → g.key = k
  series : ∀ g o, s.fences key = some g → g.observation = some o →
    ∃ later log, s.log = later ++ log ∧ Series poll g.attempt o log ∧ ∀ e ∈ later, ∃ u, e = .seen u

/-- What one step of thread `t` may do. -/
structure Guar (poll : ℤ) (key : String) (t : Tid) (s s' : State) : Prop where
  log : ∃ new, s'.log = new ++ s.log ∧ ∀ u, .seen u ∈ new → u = t
  completed : ∀ g, s.fences key = some g → s'.fences key = none → AbsenceProven poll g.attempt s.log

/-- Thread `t` has no sighting that waits for its withdrawal. -/
def Clear (t : Tid) (s : State) : Prop := ¬ UnansweredBy t s.log

/-- Thread `t` may go on with `f`: it has nothing to withdraw. -/
def Ready (t : Tid) (f : MutationFence) (s : State) : Prop := f.observation = none ∨ Clear t s

def rules (poll : ℤ) (key : String) : Rules State := ⟨Inv poll key, Guar poll key, Clear⟩

/-- Code that may fail in any way. -/
abbrev PollTriple (poll : ℤ) (key diskUUID : String) {α : Type} (t : Tid) (P : State → Prop)
    (x : Code α) (Q : α → State → Prop) : Prop :=
  (rules poll key).TripleE (answeredWorld diskUUID) t P x Q fun _ _ => True

variable {poll : ℤ} {key diskUUID : String} {s s' : State} {t : Tid} {f : MutationFence} {n : ℕ}
variable {o : MutationObservation} {log : List Event}

theorem Series.count_pos (h : Series poll n o log) : 0 < o.count := by
  cases h with
  | first => exact Nat.one_pos
  | next => exact Nat.succ_pos _

/-- A series of three is a proof of absence. -/
theorem Series.proven (h : Series poll n o log) (hcount : o.count = 3) (newer : List Event) :
    AbsenceProven poll n (newer ++ log) := by
  cases h with
  | first => cases hcount
  | @next o₂ _ kind₃ t₃ h₂ ht₃ =>
    cases h₂ with
    | first => cases hcount
    | @next o₁ _ kind₂ t₂ h₁ ht₂ =>
      have hone : o₁.count = 1 := by simpa using hcount
      cases h₁ with
      | first _ _ older =>
        exact ⟨_, _, _, t₂, t₃, newer, [], [], older, rfl, rfl, rfl, ht₂, ht₃,
          fun _ => ⟨List.not_mem_nil, List.not_mem_nil⟩⟩
      | @next o₀ _ kind₁ t₁ h₀ =>
        -- a series does not start before its first entry
        have := h₀.count_pos
        simp only at hone
        omega

theorem unansweredBy_append {new : List Event} (hnew : ∀ u, .seen u ∈ new → u ≠ t)
    (h : UnansweredBy t (new ++ log)) : UnansweredBy t log := by
  induction new with
  | nil => exact h
  | cons e _ ih =>
    cases e with
    | seen u =>
      rcases h with rfl | h
      · exact absurd rfl (hnew u (.head _))
      · exact ih (fun v hv => hnew v (.tail _ hv)) h
    | recorded => exact h.elim
    | withdrawn => exact h.elim

/-- If nobody's sighting is unanswered, nothing has followed the last write. -/
theorem later_eq_nil {later : List Event} (hlater : ∀ e ∈ later, ∃ u, e = .seen u)
    (h : ∀ u, ¬ UnansweredBy u (later ++ log)) : later = [] := by
  cases later with
  | nil => rfl
  | cons e =>
    obtain ⟨u, rfl⟩ := hlater e (.head _)
    exact absurd (.inl rfl) (h u)

/-! ### The environment and the others -/

theorem inv_env (hi : Inv poll key s) (h : Env s s') : Inv poll key s' := by
  cases h with
  | create f hnone hobs =>
    refine ⟨fun k g hg => ?_, fun g o hg ho => ?_⟩
    · rcases eq_or_ne k f.key with rfl | hne
      · obtain rfl : f = g := by simpa using hg
        rfl
      · exact hi.keyed k g (by simpa [update_of_ne hne] using hg)
    · rcases eq_or_ne key f.key with rfl | hne
      · obtain rfl : f = g := by simpa using hg
        rw [hobs] at ho
        cases ho
      · exact hi.series g o (by simpa [update_of_ne hne] using hg) ho
  | clear k =>
    refine ⟨fun k' g hg => ?_, fun g o hg ho => ?_⟩
    · rcases eq_or_ne k' k with rfl | hne
      · simp at hg
      · exact hi.keyed k' g (by simpa [update_of_ne hne] using hg)
    · rcases eq_or_ne key k with rfl | hne
      · simp at hg
      · exact hi.series g o (by simpa [update_of_ne hne] using hg) ho

theorem stable_clear : (rules poll key).Stable (answeredWorld diskUUID) t (Clear t) := by
  rintro s s' h ⟨-, -, henv | ⟨u, hu, hg⟩⟩
  · have hlog : s'.log = s.log := by cases henv <;> rfl
    rw [Clear, hlog]
    exact h
  · obtain ⟨_, hlog, hnew⟩ := hg.log
    rw [Clear, hlog]
    exact fun hun => h (unansweredBy_append (fun v hv => (hnew v hv).trans_ne hu) hun)

theorem stable_ready : (rules poll key).Stable (answeredWorld diskUUID) t (Ready t f) :=
  fun s s' h hstep => h.imp id fun h => stable_clear s s' h hstep

/-! ### Requests -/

section

variable {P : State → Prop}

theorem guar_refl : Guar poll key t s s :=
  ⟨⟨[], rfl, fun _ h => absurd h List.not_mem_nil⟩, fun g hg hg' => by rw [hg] at hg'; cases hg'⟩

theorem see_step (hi : Inv poll key s) :
    let s' : State := { s with log := .seen t :: s.log }
    Inv poll key s' ∧ Guar poll key t s s' := by
  intro s'
  refine ⟨⟨hi.keyed, fun g o hg ho => ?_⟩, ⟨⟨[.seen t], rfl, fun u hu => ?_⟩, fun g hg hg' => ?_⟩⟩
  · obtain ⟨later, log, hlog, hseries, hlater⟩ := hi.series g o hg ho
    exact ⟨.seen t :: later, log, congrArg _ hlog, hseries,
      List.forall_mem_cons.2 ⟨⟨t, rfl⟩, hlater⟩⟩
  · cases List.mem_singleton.1 hu
    rfl
  · rw [show s'.fences key = s.fences key from rfl, hg] at hg'
    cases hg'

/-- A read keeps what it did not refute. -/
theorem call_read {op : Op} (hop : ∀ s r s', exec diskUUID t op s r s' →
      s' = if Shows diskUUID op r then { s with log := .seen t :: s.log } else s)
    (hP : (rules poll key).Stable (answeredWorld diskUUID) t P) :
    PollTriple poll key diskUUID t P (call op) (fun r s => Shows diskUUID op r = false → P s) := by
  refine .perform hP fun s r s' hi hs hexec => ?_
  obtain rfl := hop s r s' hexec.2
  split
  · next hshows =>
    obtain ⟨hi', hg⟩ := see_step (t := t) hi
    exact ⟨hi', hg, fun h => absurd (hshows.symm.trans h) (by decide)⟩
  · exact ⟨hi, guar_refl, fun _ => hs⟩

theorem call_quiet {op : Op} (hop : ∀ s r s', exec diskUUID t op s r s' → s' = s)
    (hP : (rules poll key).Stable (answeredWorld diskUUID) t P) :
    PollTriple poll key diskUUID t P (call op) (fun _ => P) := by
  refine .perform hP fun s r s' hi hs hexec => ?_
  obtain rfl := hop s r s' hexec.2
  exact ⟨hi, guar_refl, hs⟩

theorem waitMutationReadback_triple
    (hP : (rules poll key).Stable (answeredWorld diskUUID) t P) :
    PollTriple poll key diskUUID t P waitMutationReadback (fun _ => P) := by
  refine .bind (call_quiet (fun _ _ _ h => h) hP) fun r => ?_
  cases r with
  | none => exact .pure fun _ _ h => h
  | some => exact .throw_any

/-- The stored fence with another observation. -/
theorem write_step (hi : Inv poll key s) {o : Option MutationObservation} (hkey : f.key = key)
    (hseries : ∀ o', o = some o' → Series poll f.attempt o' (.recorded f.attempt o' :: s.log)) :
    let s' : State := {
      fences := update s.fences f.key (some { f with observation := o })
      log := .ofWrite f o :: s.log }
    Inv poll key s' ∧ Guar poll key t s s' ∧ Clear t s' := by
  subst hkey
  intro s'
  have hstored : s'.fences f.key = some { f with observation := o } := update_self ..
  refine ⟨⟨fun k g hg => ?_, fun g o' hg ho => ?_⟩, ⟨⟨[.ofWrite f o], rfl, fun u hu => ?_⟩,
    fun g hg hg' => ?_⟩, ?_⟩
  · rcases eq_or_ne k f.key with rfl | hne
    · cases hstored.symm.trans hg
      rfl
    · exact hi.keyed k g (by simpa [s', update_of_ne hne] using hg)
  · cases hstored.symm.trans hg
    obtain rfl : o = some o' := ho
    exact ⟨[], _, rfl, hseries o' rfl, fun _ h => absurd h List.not_mem_nil⟩
  · cases o <;> cases List.mem_singleton.1 hu
  · rw [hstored] at hg'
    cases hg'
  · cases o <;> exact id

/-- `o'` is the next entry of a series whose observation so far is `o`. -/
def Extends (poll : ℤ) (o : Option MutationObservation) (o' : MutationObservation) : Prop :=
  match o with
  | none => ∃ kind now, o' = ⟨kind, 1, now, none⟩
  | some o => ∃ kind now, o.previousAt + poll ≤ now ∧
      o' = ⟨kind, o.count + 1, o.firstObservedAt, some now⟩

theorem Extends.ne (h : Extends poll f.observation o) : f.observation ≠ some o := by
  intro heq
  rw [heq] at h
  obtain ⟨_, _, -, ho⟩ := h
  have := congrArg MutationObservation.count ho
  simp at this

/-- A write of the stored fence, and what the log says of it. -/
theorem exec_write {o : Option MutationObservation} {r : Except Err MutationFence}
    (hs : s.fences f.key = some f) (hne : f.observation ≠ o)
    (hvalid : o.elim (.ok ()) FenceStore.validateMutationObservation = .ok ())
    (h : exec diskUUID t (.fenceSetObservation f o) s r s') :
    r = .ok { f with observation := o } ∧
      s' = { fences := update s.fences f.key (some { f with observation := o })
             log := .ofWrite f o :: s.log } := by
  obtain ⟨rfl, rfl⟩ := h
  rw [FenceStore.setObservation_current hs hne hvalid]
  refine ⟨rfl, ?_⟩
  have hchanged : update s.fences f.key (some { f with observation := o }) f.key
      ≠ s.fences f.key := by
    rw [update_self, hs]
    intro heq
    exact hne (congrArg MutationFence.observation (Option.some.inj heq)).symm
  rw [if_pos hchanged]

theorem call_record (hkey : f.key = key) (hext : Extends poll f.observation o)
    (hvalid : FenceStore.validateMutationObservation o = .ok ()) :
    PollTriple poll key diskUUID t (Ready t f)
      (call (.fenceSetObservation f (some o)))
      (fun r s => r = .ok { f with observation := some o } ∧ Clear t s) := by
  refine .perform stable_ready fun s r s' hi hs hexec => ?_
  obtain ⟨⟨hstored, hothers⟩, hexec⟩ := hexec
  have hwrite : exec diskUUID t (.fenceSetObservation f (some o)) s r s' := hexec
  obtain ⟨rfl, rfl⟩ := exec_write hstored hext.ne hvalid hwrite
  have hseries : Series poll f.attempt o (.recorded f.attempt o :: s.log) := by
    rcases hobs : f.observation with - | o₀
    · rw [hobs] at hext
      obtain ⟨kind, now, rfl⟩ := hext
      exact .first kind now s.log
    · -- nobody has seen the object since `o₀` was stored
      obtain ⟨later, log, hlog, hser, hlater⟩ := hi.series f o₀ (hkey ▸ hstored) hobs
      have hclear : Clear t s := hs.resolve_left (by simp [hobs])
      have hnone : ∀ u, ¬ UnansweredBy u (later ++ log) := fun u => by
        rw [← hlog]
        rcases eq_or_ne u t with rfl | hne
        · exact hclear
        · exact hothers rfl (by simp [hobs]) u hne
      have hnil : later = [] := later_eq_nil hlater hnone
      rw [hnil, List.nil_append] at hlog
      rw [hobs] at hext
      obtain ⟨kind, now, hnow, rfl⟩ := hext
      rw [hlog]
      exact .next kind now hser hnow
  obtain ⟨hi', hg, hc⟩ := write_step (t := t) (o := some o) hi hkey fun o' ho => by
    cases ho
    exact hseries
  exact ⟨hi', hg, rfl, hc⟩

theorem call_withdraw (hkey : f.key = key) (hobs : f.observation ≠ none) :
    PollTriple poll key diskUUID t (fun _ => True)
      (call (.fenceSetObservation f none))
      (fun r _ => r = .ok { f with observation := none }) := by
  refine .perform stable_const fun s r s' hi hs hexec => ?_
  obtain ⟨⟨hstored, -⟩, hexec⟩ := hexec
  have hwrite : exec diskUUID t (.fenceSetObservation f none) s r s' := hexec
  obtain ⟨rfl, rfl⟩ := exec_write hstored hobs rfl hwrite
  obtain ⟨hi', hg, -⟩ := write_step (t := t) (f := f) (o := none) hi hkey nofun
  exact ⟨hi', hg, rfl⟩

/-- The fence carries its third absence. -/
def Complete (f : MutationFence) : Prop := ∃ o, f.observation = some o ∧ o.count = 3

theorem fencesDelete_triple (hcomplete : Complete f) :
    PollTriple poll key diskUUID t (fun _ => True) (fencesDelete f) (fun _ _ => True) := by
  refine .bind (TripleE.perform (M := fun _ _ => True) stable_const
    fun s r s' hi _ hexec => ?_) fun r => TripleE.check (fun _ _ _ _ h => h) fun _ _ _ _ h => h
  obtain ⟨-, rfl, rfl⟩ := hexec
  rcases FenceStore.delete_cases s.fences f with ⟨r, h⟩ | ⟨hf, h⟩
  · rw [h]
    exact ⟨hi, guar_refl, trivial⟩
  · rw [h]
    obtain ⟨o, hobs, hcount⟩ := hcomplete
    refine ⟨⟨fun k g hg => ?_, fun g o' hg ho => ?_⟩,
      ⟨⟨[], rfl, fun _ h => absurd h List.not_mem_nil⟩, fun g hg hg' => ?_⟩, trivial⟩
    · rcases eq_or_ne k f.key with rfl | hne
      · simp at hg
      · exact hi.keyed k g (by simpa [update_of_ne hne] using hg)
    · rcases eq_or_ne key f.key with rfl | hne
      · simp at hg
      · exact hi.series g o' (by simpa [update_of_ne hne] using hg) ho
    · -- the fence that goes is `f`, at the head of whose series its third absence stands
      rcases eq_or_ne key f.key with rfl | hne
      · cases hf.symm.trans hg
        obtain ⟨later, _, hlog, hser, -⟩ := hi.series f o hf hobs
        rw [hlog]
        exact hser.proven hcount later
      · replace hg' : update s.fences f.key none key = none := hg'
        rw [update_of_ne hne, hg] at hg'
        cases hg'

end

/-! ### The loops -/

section

variable {P : State → Prop} {a : Adapter} {location volumeID : String}

theorem equalFold_congr {x y z : String} (h : equalFold y z = true) :
    equalFold x y = equalFold x z := by
  simp only [equalFold, beq_iff_eq] at h ⊢
  rw [h]

theorem observeDiskAbsent_triple (hP : (rules poll key).Stable (answeredWorld diskUUID) t P) :
    PollTriple poll key diskUUID t P
      (observeDiskAbsent a location volumeID) (fun absent s => absent = true → P s) := by
  refine .bind (call_read (fun _ _ _ h => h) hP) fun r => ?_
  rcases r with e | - | _
  · cases e with
    | notFound => exact .pure fun _ _ h _ => h rfl
    | _ => exact .pure fun _ _ _ => nofun
  · exact .pure fun _ _ _ => nofun
  · refine .skip ?_
    exact .pure fun _ _ h htomb => h (by simp [Shows, htomb])

theorem observeDiskUnlisted_triple (hdisk : equalFold volumeID diskUUID = true)
    (hP : (rules poll key).Stable (answeredWorld diskUUID) t P) :
    PollTriple poll key diskUUID t P
      (observeDiskUnlisted a location volumeID) (fun absent s => absent = true → P s) := by
  refine .bind (call_read (fun _ _ _ h => h) hP) fun r => ?_
  rcases r with e | disks
  · exact .pure fun _ _ _ => nofun
  · refine .skip ?_
    split
    · exact .throw_any
    · refine .pure fun _ _ h habsent => h ?_
      have hrows : ∀ d ∈ disks, equalFold d.uuid volumeID = false := by
        simpa [List.isEmpty_iff, List.filter_eq_nil_iff] using habsent
      simp only [Shows, List.any_eq_false]
      intro d hd
      rw [← equalFold_congr hdisk, hrows d hd]
      decide

/-- Once a row is found, the VM it is on is named. -/
theorem unlisted_of_listedDetachState {vms : List VM} {intent : DiskAttachmentIntent}
    (h : (listedDetachState vms intent).1 = "") :
    ∀ vm ∈ vms, ∀ s ∈ vm.storage.getD [], equalFold s.uuid intent.diskUUID = false := by
  unfold listedDetachState at h
  dsimp only at h
  generalize hrows : (vms.flatMap fun vm =>
    ((vm.storage.getD []).filter fun s => equalFold s.uuid intent.diskUUID).map
      fun s => (vm, s)) = rows at h
  have hnil : rows = [] := by
    rcases List.eq_nil_or_concat rows with hnil | ⟨_, ⟨vm, _⟩, rfl⟩
    · exact hnil
    · -- the last row leaves a name
      exfalso
      rw [List.concat_eq_append, List.foldl_append, List.foldl_cons, List.foldl_nil] at h
      split at h
      · next hlast =>
        split at h
        · simp at h
        · next hne => exact hne h
      · next huuid =>
        split at h
        · simp only [Bool.not_eq_true, Bool.not_eq_false'] at huuid
          have hname : toLower vm.uuid = "" := h
          rw [hname] at huuid
          exact absurd huuid (by decide)
        · next hne => exact hne (.inl h)
  rw [hnil, List.flatMap_eq_nil_iff] at hrows
  intro vm hvm s hs
  have hfilter := hrows vm hvm
  rw [List.map_eq_nil_iff, List.filter_eq_nil_iff] at hfilter
  simpa using hfilter s hs

theorem observeDetachState_triple {intent : DiskAttachmentIntent}
    (hdisk : equalFold intent.diskUUID diskUUID = true)
    (hprevious : toLower intent.previousVMUUID ≠ "")
    (hP : (rules poll key).Stable (answeredWorld diskUUID) t P) :
    PollTriple poll key diskUUID t P (observeDetachState a intent)
      (fun r s => r = ("", none) → P s) := by
  refine .bind (call_read (fun _ _ _ h => h) hP) fun r => ?_
  rcases r with e | vms
  · exact .pure fun _ _ _ hr => by cases hr
  · -- if the listing names no VM, it has not shown the disk
    have hlisted : (listedDetachState vms intent).1 = "" →
        Shows diskUUID (.listVMs intent.location) (.ok vms) = false := by
      intro h
      simp only [Shows, List.any_eq_false, List.any_eq_true, not_exists, not_and]
      intro vm hvm s hs
      rw [← equalFold_congr hdisk, unlisted_of_listedDetachState h vm hvm s hs]
      decide
    have hstable : (rules poll key).Stable (answeredWorld diskUUID) t
        fun s => Shows diskUUID (.listVMs intent.location) (.ok vms) = false → P s :=
      fun s s' h hstep hshows => hP s s' (h hshows) hstep
    refine .bind (call_read (fun _ _ _ h => h) hstable) fun r => ?_
    rcases r with e | - | vm
    · cases e with
      | notFound =>
        exact .pure fun _ _ h hr => h rfl (hlisted (congrArg Prod.fst hr))
      | _ => exact .pure fun _ _ _ hr => by cases hr
    · exact .pure fun _ _ _ hr => by cases hr
    · dsimp only
      split
      · next hvm => exact .pure fun _ _ _ hr => absurd (congrArg Prod.fst hr) hvm
      · next hvm =>
        have hvm := not_not.1 hvm
        split
        · exact .pure fun _ _ _ hr => absurd (congrArg Prod.fst hr) hprevious
        · next hpresent =>
          refine .pure fun _ _ h hr => h ?_ (hlisted hvm)
          have herr := (joinErrs_none (Prod.mk.inj hr).2).2
          have hrows : vmDiskRows vm intent.diskUUID = 0 :=
            exactDetachState_none (Prod.ext (by simpa using hpresent) herr)
          have hsame : vmDiskRows vm diskUUID = vmDiskRows vm intent.diskUUID := by
            simp only [vmDiskRows, equalFold_congr hdisk]
          simp [Shows, hsame, hrows]

theorem updateMutationObservation_record (hkey : f.key = key) (hext : Extends poll f.observation o)
    (hvalid : FenceStore.validateMutationObservation o = .ok ()) :
    PollTriple poll key diskUUID t (Ready t f)
      (updateMutationObservation f (some o))
      (fun r s => r = some { f with observation := some o } ∧ Clear t s) := by
  refine .bind (call_record hkey hext hvalid) fun r => TripleE.hyp fun hr => ?_
  subst hr
  exact .pure fun _ _ h => ⟨rfl, h⟩

theorem withdrawObservation_triple (hkey : f.key = key) (text : String) :
    PollTriple poll key diskUUID t (fun _ => True)
      (withdrawObservation f text) (fun g _ => g.key = key ∧ g.observation = none) := by
  unfold withdrawObservation
  split
  · next hobs => exact .pure fun _ _ _ => ⟨hkey, hobs⟩
  · next o hobs =>
    have hupdate : PollTriple poll key diskUUID t (fun _ => True)
        (updateMutationObservation f none)
        (fun r _ => r = some { f with observation := none } ∧ True) := by
      refine .bind (call_withdraw hkey (by simp [hobs])) fun r => ?_
      refine TripleE.pre (P := fun _ => r = .ok { f with observation := none } ∧ True) ?_
        fun _ _ h => ⟨h, trivial⟩
      refine TripleE.hyp fun hr => ?_
      subst hr
      exact .pure fun _ _ _ => ⟨rfl, trivial⟩
    refine .bind hupdate fun r => TripleE.hyp fun hr => ?_
    subst hr
    exact .pure fun _ _ _ => ⟨hkey, rfl⟩

/-- What a round that found nothing leaves behind. -/
def Onward (key : String) (t : Tid) : AbsenceRound → State → Prop
  | .completed, _ => True
  | .again g, s => g.key = key ∧ Ready t g s
  | .proven g, _ => Complete g

theorem recordAbsence_triple (hpoll : a.absencePoll = poll) (hkey : f.key = key)
    (kind : ObservationKind) :
    PollTriple poll key diskUUID t (Ready t f)
      (recordAbsence a kind f f.observation) (Onward key t) := by
  refine .bind (call_quiet (fun _ _ _ h => h) stable_ready) fun now => ?_
  rcases hobs : f.observation with - | o
  · have hext : Extends poll f.observation ⟨kind, 1, now, none⟩ := by
      rw [hobs]
      exact ⟨kind, now, rfl⟩
    refine .bind (updateMutationObservation_record hkey hext rfl) fun r =>
      TripleE.hyp fun hr => ?_
    subst hr
    exact .bind (waitMutationReadback_triple stable_clear) fun _ =>
      TripleE.pure fun _ _ h => ⟨hkey, .inr h⟩
  · dsimp only
    split
    · next hcount => exact .pure fun _ _ _ => ⟨o, hobs, hcount⟩
    · split
      · exact .bind (waitMutationReadback_triple stable_ready) fun _ =>
          TripleE.pure fun _ _ h => ⟨hkey, h⟩
      · next hcount hnow =>
        refine .check_any fun _ hvalid => ?_
        have hext : Extends poll f.observation ⟨kind, o.count + 1, o.firstObservedAt, some now⟩ := by
          rw [hobs]
          exact ⟨kind, now, by rw [← hpoll]; exact not_lt.1 hnow, rfl⟩
        refine .bind (updateMutationObservation_record hkey hext hvalid) fun r =>
          TripleE.hyp fun hr => ?_
        subst hr
        dsimp only
        split
        · next htwo => exact .pure fun _ _ _ => ⟨_, rfl, by simp [htwo]⟩
        · exact .bind (waitMutationReadback_triple stable_clear) fun _ =>
            TripleE.pure fun _ _ h => ⟨hkey, .inr h⟩

theorem decodeObservation_eq {kind : ObservationKind} {r : Option MutationObservation}
    (h : decodeObservation a kind f = .ok r) : r = f.observation := by
  unfold decodeObservation at h
  rcases hobs : f.observation with - | o
  · rw [hobs] at h
    cases h
    rfl
  · rw [hobs] at h
    obtain ⟨_, -, h⟩ := except_bind_ok h
    split at h
    · cases h
    · obtain ⟨_, -, h⟩ := except_bind_ok h
      cases h
      rfl

/-- What is handed back is complete. -/
def Resolved (r : Option MutationFence) (_ : State) : Prop := ∀ g, r = some g → Complete g

theorem waitForDiskAbsent_triple (hpoll : a.absencePoll = poll)
    (hdisk : equalFold volumeID diskUUID = true) (fuel : ℕ) (hkey : f.key = key) :
    PollTriple poll key diskUUID t (Ready t f)
      (waitForDiskAbsent a location volumeID fuel f) Resolved := by
  induction fuel generalizing f with
  | zero => exact .outOfRounds
  | succ _ ih =>
    refine .check_any fun observation hobs => ?_
    obtain rfl := decodeObservation_eq hobs
    refine .bind (observeDiskAbsent_triple stable_ready) fun getAbsent => ?_
    have hstable : (rules poll key).Stable (answeredWorld diskUUID) t
        fun s => getAbsent = true → Ready t f s := fun s s' h hstep hg =>
      stable_ready s s' (h hg) hstep
    refine .bind (observeDiskUnlisted_triple hdisk hstable) fun listAbsent => ?_
    split
    · refine .bind ((withdrawObservation_triple hkey _).pre fun _ _ _ => trivial) fun g => ?_
      refine TripleE.pre (P := fun _ => (g.key = key ∧ g.observation = none) ∧ True) ?_
        fun _ _ h => ⟨h, trivial⟩
      refine TripleE.hyp fun hg => ?_
      refine .bind (waitMutationReadback_triple stable_const) fun _ => ?_
      exact (ih hg.1).pre fun _ _ _ => .inl hg.2
    · next habsent =>
      simp only [Bool.or_eq_true, Bool.not_eq_true', not_or, Bool.not_eq_false] at habsent
      refine .bind ((recordAbsence_triple hpoll hkey _).pre fun s _ hs =>
        hs habsent.2 habsent.1) fun r => ?_
      cases r with
      | completed => exact .pure fun _ _ _ _ hg => by cases hg
      | proven => exact .pure fun _ _ h _ hg => by cases hg; exact h
      | again => exact TripleE.hyp fun hg => ih hg

theorem waitForDetached_triple (hpoll : a.absencePoll = poll) {intent : DiskAttachmentIntent}
    (hdisk : equalFold intent.diskUUID diskUUID = true)
    (hprevious : toLower intent.previousVMUUID ≠ "") (fuel : ℕ) (hkey : f.key = key) :
    PollTriple poll key diskUUID t (Ready t f) (waitForDetached a intent fuel f) Resolved := by
  induction fuel generalizing f with
  | zero => exact .outOfRounds
  | succ fuel ih =>
    refine .check_any fun observation hobs => ?_
    obtain rfl := decodeObservation_eq hobs
    refine .bind (observeDetachState_triple hdisk hprevious stable_ready) fun r => ?_
    obtain ⟨visibleVM, stateErr⟩ := r
    dsimp only
    split
    · refine .bind ((withdrawObservation_triple hkey _).pre fun _ _ _ => trivial) fun g => ?_
      refine TripleE.pre (P := fun _ => (g.key = key ∧ g.observation = none) ∧ True) ?_
        fun _ _ h => ⟨h, trivial⟩
      refine TripleE.hyp fun hg => ?_
      cases stateErr with
      | some => exact .throw_any
      | none =>
        dsimp only
        split
        · exact .throw_any
        · refine .bind (waitMutationReadback_triple stable_const) fun _ => ?_
          exact (ih hg.1).pre fun _ _ _ => .inl hg.2
    · next hgone =>
      cases stateErr with
      | some => exact .throw_any
      | none =>
        have hempty : visibleVM = "" := by simpa using hgone
        refine .bind ((recordAbsence_triple hpoll hkey _).pre fun s _ hs =>
          hs (by rw [hempty])) fun r => ?_
        cases r with
        | completed => exact .pure fun _ _ _ _ => nofun
        | proven => exact .pure fun _ _ h _ hg => by cases hg; exact h
        | again => exact TripleE.hyp fun hg => ih hg

/-- A process takes up the fence and completes it. -/
theorem code_triple (hpoll : a.absencePoll = poll) {loop : Loop}
    (hdisk : equalFold loop.disk diskUUID = true) (hnamed : loop.Named) (fuel : ℕ) :
    PollTriple poll key diskUUID t (Clear t) (loop.code fuel a key) (fun _ _ => True) := by
  have hget : PollTriple poll key diskUUID t (Clear t) (call (.fenceGet key))
      (fun r s => (∀ f, r = some f → f.key = key) ∧ Clear t s) := by
    refine .perform stable_clear fun s r s' hi hs hexec => ?_
    obtain ⟨-, rfl, rfl⟩ := hexec
    exact ⟨hi, guar_refl, fun f hf => hi.keyed key f hf, hs⟩
  refine .bind hget fun r => TripleE.hyp fun hr => ?_
  cases r with
  | none => exact .pure fun _ _ _ => trivial
  | some fence =>
    have hkey := hr fence rfl
    have hwait : PollTriple poll key diskUUID t (Ready t fence)
        (loop.wait fuel a fence) Resolved := by
      cases loop with
      | diskAbsent => exact waitForDiskAbsent_triple hpoll hdisk fuel hkey
      | detached intent =>
        refine waitForDetached_triple hpoll hdisk (fun hempty => ?_) fuel hkey
        have huuid : uuidPattern (toLower intent.previousVMUUID) = true := hnamed
        rw [hempty] at huuid
        exact absurd huuid (by decide)
    refine .bind (hwait.pre fun _ _ h => .inr h) fun r => ?_
    cases r with
    | none => exact .pure fun _ _ _ => trivial
    | some resolved =>
      refine TripleE.pre (P := fun _ => Complete resolved ∧ True) ?_
        fun _ _ h => ⟨h resolved rfl, trivial⟩
      exact TripleE.hyp fun h => fencesDelete_triple h

end

/-! ### The statement -/

theorem verified : (rules poll key).Verified (answeredWorld diskUUID) (Loops poll key diskUUID)
    Initial (fun _ _ _ => True) where
  init := by
    rintro s ⟨hlog, hfences⟩
    refine ⟨⟨fun k g hg => (hfences k g hg).1, fun g o hg ho => ?_⟩, fun t => ?_⟩
    · rw [(hfences key g hg).2] at ho
      cases ho
    · show ¬ UnansweredBy t s.log
      rw [hlog]
      exact id
  env _ _ hi henv := inv_env hi henv
  fresh t s s' h hstep := stable_clear s s' h hstep
  stable _ _ := stable_const
  start := by
    rintro _ _ _ ⟨fuel, _, _, hpoll, hdisk, hnamed, rfl⟩ hi hclear
    exact (code_triple hpoll hdisk hnamed fuel).wp hi hclear (fun _ _ _ => trivial)
      fun _ _ _ => trivial

theorem delete_stored {fences : FenceStore} (h : fences f.key = some f) :
    (fences.delete f).2 f.key = none := by
  have hstate : sameMutationFenceState f f = true := sameMutationFenceState_iff.2 rfl
  simp [FenceStore.delete, h, hstate]

/-- **A fence goes when its object is proven gone.**  In every run in which no
swap of an observation is lost, and no absence is recorded while a sighting of
another loop is unanswered, a loop that is about to complete the fence finds it
with three recorded absences, spaced by the poll interval, and no sighting
between the first and the last. -/
theorem completed_after_three_absences {c : Config State Op Reply (Except Err Unit)}
    (h : Reachable (answeredWorld diskUUID) (Loops poll key diskUUID) Initial c)
    {g : MutationFence} {next : Reply (.fenceDelete g) → Prog Op Reply (Except Err Unit)}
    (hrun : c.threads t = .running (.call (.fenceDelete g) next))
    (hstored : c.shared.fences key = some g) : AbsenceProven poll g.attempt c.shared.log := by
  have hgood := Good.reachable verified h
  have hi : Inv poll key c.shared := hgood.inv
  obtain rfl := hi.keyed key g hstored
  -- let the deletion be served here: the guarantee says what it needs
  obtain ⟨-, hg, -⟩ := hgood.running t _ hrun c.shared .refl hgood.inv
    (c.shared.fences.delete g).1 { c.shared with fences := (c.shared.fences.delete g).2 }
    ⟨trivial, rfl, rfl⟩
  exact hg.completed g hstored (delete_stored hstored)

/-! ### Runs on one disk -/

def deleteFence : MutationFence :=
  { key := "disk-attachment/bkk/" ++ pvcUUID, attempt := 1,
    intent := .diskAttachment { operation := "disk-delete", location := "bkk",
                                diskUUID := pvcUUID, billingAccountID := 1 } }

/-- The fence is there, and nothing has been observed. -/
def State.start : State :=
  { fences := update (fun _ => none) deleteFence.key (some deleteFence), log := [] }

theorem initial_start : Initial State.start := by
  refine ⟨rfl, fun key f hf => ?_⟩
  rcases eq_or_ne key deleteFence.key with rfl | hne
  · obtain rfl : deleteFence = f := by simpa [State.start] using hf
    exact ⟨rfl, rfl⟩
  · simp [State.start, update_of_ne hne] at hf

/-- The disk is visible by its exact GET, or it is gone; the clock moves on by
the poll interval with every entry of the log.  No answer to `Delete`, so a run
stops in front of it. -/
def answer (visible : Bool) (t : Tid) : (op : Op) → State → Option (Reply op × State)
  | .fenceGet key, s => some (s.fences key, s)
  | .fenceSetObservation f o, s =>
    some ((s.fences.setObservation f o).1,
      { fences := (s.fences.setObservation f o).2
        log := if (s.fences.setObservation f o).2 f.key ≠ s.fences f.key then
            .ofWrite f o :: s.log
          else s.log })
  | .getDisk _ _, s =>
    if visible then some (.ok (some pvcDisk), { s with log := .seen t :: s.log })
    else some (.error .notFound, s)
  | .listDisks _, s => some (.ok [], s)
  | .now, s => some (30 * s.log.length, s)
  | .wait, s => some (none, s)
  | _, _ => none

def driver (visible : Bool) (t : Tid) : (world pvcUUID).Driver t where
  answer := answer visible t
  sound op s r s' h := by
    cases op with
    | getDisk l d =>
      have hshows : Shows pvcUUID (.getDisk l d) (.ok (some pvcDisk)) = true := by
        show (equalFold pvcDisk.uuid pvcUUID && !diskDeletedTombstone pvcDisk) = true
        decide
      cases visible with
      | true =>
        cases h
        show _ = if _ then _ else _
        rw [if_pos hshows]
      | false => cases h; rfl
    | fenceGet | fenceSetObservation => cases h; exact ⟨rfl, rfl⟩
    | listDisks | now | wait => cases h; rfl
    | _ => cases h

/-- The fence whose deletion is the next request. -/
def completes : Prog Op Reply (Except Err Unit) → Option MutationFence
  | .call (.fenceDelete g) _ => some g
  | _ => none

theorem call_of_completes {p : Prog Op Reply (Except Err Unit)} {g : MutationFence}
    (h : completes p = some g) : ∃ next, p = .call (.fenceDelete g) next := by
  cases p with
  | ret | stop => cases h
  | call op next =>
    cases op with
    | fenceDelete => cases h; exact ⟨next, rfl⟩
    | _ => cases h

/-- A process that waits for the disk to be gone. -/
def waitCall : Prog Op Reply (Except Err Unit) :=
  ((Loop.diskAbsent "bkk" pvcUUID).code 9 bkkAdapter deleteFence.key).run

theorem loops_waitCall : Loops 30 deleteFence.key pvcUUID t waitCall :=
  ⟨9, bkkAdapter, .diskAbsent "bkk" pvcUUID, rfl, by decide, trivial, rfl⟩

/-- The condition on the writes, where there is one loop only. -/
def meetsAnswered : Op → State → Bool
  | .fenceSetObservation f _, s =>
    s.fences f.key == some f && s.log.all fun e => !(e matches .seen _)
  | _, _ => true

theorem not_unansweredBy_of_all (h : s.log.all (fun e => !(e matches .seen _)) = true) (u : Tid) :
    ¬ UnansweredBy u s.log := by
  rcases hlog : s.log with - | ⟨e, _⟩
  · exact id
  · rw [hlog] at h
    cases e with
    | seen => simp at h
    | recorded | withdrawn => exact id

theorem answered_of_meets (op : Op) (s : State) (h : meetsAnswered op s = true) :
    Answered t op s := by
  cases op with
  | fenceSetObservation =>
    simp only [meetsAnswered, Bool.and_eq_true, beq_iff_eq] at h
    exact ⟨h.1, fun _ _ u _ => not_unansweredBy_of_all h.2 u⟩
  | _ => trivial

/-- One process alone, up to the deletion of the fence. -/
def waitRun : State × Prog Op Reply (Except Err Unit) :=
  ((driver false 0).restrict meetsAnswered answered_of_meets).drive 30 State.start waitCall

theorem waitRun_eval : ((completes waitRun.2).isSome &&
    decide (completes waitRun.2 = waitRun.1.fences deleteFence.key)) = true := by decide +kernel

theorem completed_after_three_absences_run :
    ∃ (c : Config State Op Reply (Except Err Unit)) (g : MutationFence),
      Reachable (answeredWorld pvcUUID) (Loops 30 deleteFence.key pvcUUID) Initial c ∧
      c.shared.fences deleteFence.key = some g ∧ AbsenceProven 30 g.attempt c.shared.log := by
  have heval := waitRun_eval
  simp only [Bool.and_eq_true, decide_eq_true_eq, Option.isSome_iff_exists] at heval
  obtain ⟨⟨g, hg⟩, hsame⟩ := heval
  have h := ((driver false 0).restrict meetsAnswered answered_of_meets).started (r := waitRun)
    (.init initial_start) rfl (loops_waitCall (t := 0)) rfl
  obtain ⟨_, hp⟩ := call_of_completes hg
  have hstored : waitRun.1.fences deleteFence.key = some g := by rw [← hsame, hg]
  exact ⟨_, g, h, hstored, completed_after_three_absences (t := 0) h (congrArg Thread.running hp) hstored⟩

/-- The first process has recorded two absences and sees a third one. -/
def twiceRun : State × Prog Op Reply (Except Err Unit) :=
  (driver false 0).drive 13 State.start waitCall

/-- The second one sees the disk and withdraws the observation. -/
def withdrawRun : State × Prog Op Reply (Except Err Unit) :=
  (driver true 1).drive 4 twiceRun.1 waitCall

/-- The first one goes on: its swap is lost. -/
def adoptRun : State × Prog Op Reply (Except Err Unit) :=
  (driver false 0).drive 9 withdrawRun.1 twiceRun.2

theorem adoptRun_eval : ((completes adoptRun.2).isSome &&
    decide (completes adoptRun.2 = adoptRun.1.fences deleteFence.key) &&
    decide ((adoptRun.1.log.filter fun e => e matches .recorded _ _).length = 2)) = true := by
  decide +kernel

theorem AbsenceProven.three_le (h : AbsenceProven poll n log) :
    3 ≤ (log.filter fun e => e matches .recorded _ _).length := by
  obtain ⟨_, _, _, _, _, _, _, _, _, rfl, -⟩ := h
  simp only [List.filter_append, List.filter_cons, if_true, List.length_append, List.length_cons]
  omega

/-- Two processes complete the fence with two absences recorded, and the second
of them withdrawn because the disk was seen. -/
theorem completed_after_lost_swap :
    ∃ (c : Config State Op Reply (Except Err Unit)) (g : MutationFence)
      (next : Reply (.fenceDelete g) → Prog Op Reply (Except Err Unit)),
      Reachable (world pvcUUID) (Loops 30 deleteFence.key pvcUUID) Initial c ∧
      c.threads 0 = .running (.call (.fenceDelete g) next) ∧
      c.shared.fences deleteFence.key = some g ∧ ¬ AbsenceProven 30 g.attempt c.shared.log := by
  have heval := adoptRun_eval
  simp only [Bool.and_eq_true, decide_eq_true_eq, Option.isSome_iff_exists] at heval
  obtain ⟨⟨⟨g, hg⟩, hsame⟩, htwo⟩ := heval
  -- the second process comes in between a read and a write of the first
  have h := (driver false 0).started (r := twiceRun) (.init initial_start) rfl
    (loops_waitCall (t := 0)) rfl
  have h := (driver true 1).started (r := withdrawRun) h rfl loops_waitCall rfl
  have h := (driver false 0).resumed (r := adoptRun) h rfl rfl
  obtain ⟨next, hp⟩ := call_of_completes hg
  refine ⟨_, g, next, h, congrArg Thread.running hp, by rw [← hsame, hg], fun hproven => ?_⟩
  have hthree := hproven.three_le
  rw [htwo] at hthree
  omega

end InSpaceKube.Csi.Absence
