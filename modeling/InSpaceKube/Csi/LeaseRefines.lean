/-
InSpaceKube/Csi/LeaseRefines.lean

Any number of clients of the Lease store over one API server, against the
memory store.

The server gives every Lease a fresh UID and every write a fresh resource
version (one counter serves for both), applies a PUT or DELETE only to the
version it names, and may lose any answer, applied or not.  An ambiguous status
is no better than a lost answer; a 404 is given only for a Lease that is not
there.

`fences` is the memory store the Leases stand for.  Every served request is a
`Moment`: whose it was, and the memory store before and after.  `Refines` says
that the moments are a run of the memory store, and that a call which returned
without an error made its own step in it.  It holds as long as
`Undisturbed` does; the two runs at the end show what happens otherwise.
-/
import InSpaceKube.Csi.LeaseStore
import InSpaceKube.Prog.Threads
import Mathlib.Data.List.Chain

namespace InSpaceKube.Csi.LeaseStore

open Prog Rules
open Function (update update_eq_self update_of_ne update_self)

/-! ### The server -/

/-- A served request of thread `tid`. -/
structure Moment where
  tid : Tid
  before : FenceStore
  after : FenceStore

/-- The Leases, with their history: what each resource version was, whose POST
began each lifetime, and the moments, latest first. -/
structure Server where
  leases : String → Option Lease
  clock : ℕ
  versions : ℕ → Option (String × Lease)
  creator : ℕ → Option Tid
  moments : List Moment

variable (leaseName : String → String)

/-- The memory store the Leases stand for. -/
def fences (leases : String → Option Lease) : FenceStore := fun key =>
  (leases (leaseName key)).bind fun lease =>
    if lease.fence.key = key then some (lowered lease.fence) else none

/-- A request of `t` is served, and the Leases are `leases` afterwards. -/
def Server.serve (s : Server) (t : Tid) (leases : String → Option Lease) : Server :=
  { s with
    leases := leases
    moments := ⟨t, fences leaseName s.leases, fences leaseName leases⟩ :: s.moments }

/-- A Lease is written under the next version. -/
def Server.write (s : Server) (t : Tid) (name : String) (uid : ℕ) (fence : MutationFence) :
    Server :=
  let lease : Lease := ⟨uid, s.clock + 1, fence⟩
  { s.serve leaseName t (update s.leases name (some lease)) with
    clock := s.clock + 1
    versions := update s.versions (s.clock + 1) (some (name, lease)) }

/-- A Lease comes into being. -/
def Server.create (s : Server) (t : Tid) (name : String) (fence : MutationFence) : Server :=
  { s.write leaseName t name (s.clock + 1) fence with
    creator := update s.creator (s.clock + 1) (some t) }

section Answers

variable {α : Type}

/-- The answers to a request that was applied and has result `body`. -/
def Applied (body : α) : Answer α → Prop
  | .ok b => b = body
  | .status code => 300 ≤ code ∧ ambiguousKubernetesMutationStatus code = true
  | .failed _ => True

/-- The answers to a request that was not applied. -/
def Refused (absent : Prop) : Answer α → Prop
  | .ok _ => False
  | .status code => 300 ≤ code ∧ (code = 404 → absent)
  | .failed _ => True

end Answers

/-- The Lease a PUT or DELETE names is there, in that version. -/
def Server.Holds (s : Server) (name : String) (uid resourceVersion : ℕ) : Prop :=
  ∃ lease, s.leases name = some lease ∧ lease.uid = uid ∧ lease.resourceVersion = resourceVersion

/-- The effect of a request. -/
def exec (t : Tid) : (op : LeaseOp) → Server → LeaseReply op → Server → Prop
  | .post name fence, s, r, s' =>
    (s.leases name = none ∧ s' = s.create leaseName t name fence ∧
      Applied ⟨s.clock + 1, s.clock + 1, fence⟩ r) ∨
    (Refused (s.leases name = none) r ∧ s' = s.serve leaseName t s.leases)
  | .get name, s, r, s' =>
    s' = s.serve leaseName t s.leases ∧
    match r with
    | .ok lease => s.leases name = some lease
    | .status code => 300 ≤ code ∧ (code = 404 → s.leases name = none)
    | .failed _ => True
  | .put name lease, s, r, s' =>
    (s.Holds name lease.uid lease.resourceVersion ∧
      s' = s.write leaseName t name lease.uid lease.fence ∧
      Applied ⟨lease.uid, s.clock + 1, lease.fence⟩ r) ∨
    (Refused (s.leases name = none) r ∧ s' = s.serve leaseName t s.leases)
  | .delete name uid resourceVersion, s, r, s' =>
    (s.Holds name uid resourceVersion ∧
      s' = s.serve leaseName t (update s.leases name none) ∧ Applied () r) ∨
    (Refused (s.leases name = none) r ∧ s' = s.serve leaseName t s.leases)

/-- Clients over the server.  Nothing else writes Leases. -/
def world : Sem Server LeaseOp LeaseReply := ⟨exec leaseName, fun _ _ => False⟩

def Initial (s : Server) : Prop :=
  (∀ name, s.leases name = none) ∧ (∀ rv, s.versions rv = none) ∧ (∀ uid, s.creator uid = none) ∧
    s.moments = []

variable (call : Tid → Call)

variable (t : Tid) (s : Server)

/-- Thread `t` makes the call it is down for. -/
def Runs (p : Prog LeaseOp LeaseReply (Except Err Result)) : Prop :=
  p = ((call t).code leaseName).run

/-- Attempts are sixteen random bytes: no two candidates share one. -/
def UniqueAttempts : Prop :=
  ∀ t u f g, call t = .create f → call u = .create g → f.attempt = g.attempt → t = u

/-! ### The statement -/

/-- At one of its moments, `t` did to the memory store what its call asks for. -/
def Stepped : Prop :=
  ∃ m ∈ s.moments, m.tid = t ∧ (call t).memory m.before = (.ok (call t).aim, m.after)

/-- What a call that returned `r` has done. -/
def Returned (r : Result) (s : Server) : Prop :=
  match call t with
  | .create candidate => ∀ fence, r = .created fence true →
      (∃ f, fence = some f ∧ f.attempt = candidate.attempt) ∧ Stepped call t s
  | _ => r = (call t).aim ∧ Stepped call t s

/-- A call of `Create` reported the fence of the Lease lifetime `uid` as acquired. -/
def AcquiredOn (c : Config Server LeaseOp LeaseReply (Except Err Result)) (t : Tid) (uid : ℕ) :
    Prop :=
  ∃ fence lease name, c.threads t = .running (.ret (.ok (.created (some fence) true))) ∧
    c.shared.versions lease.resourceVersion = some (name, lease) ∧ lease.uid = uid ∧
    lowered lease.fence = fence

/-- The run so far is one of the memory store. -/
structure Refines (c : Config Server LeaseOp LeaseReply (Except Err Result)) : Prop where
  /-- The moments follow each other, and the last one ends in the present. -/
  linked : c.shared.moments.IsChain fun m m' => m.before = m'.after
  present : ∀ m ∈ c.shared.moments.head?, m.after = fences leaseName c.shared.leases
  /-- A moment changes nothing, or is a step of its caller's method. -/
  steps : ∀ m ∈ c.shared.moments, m.before = m.after ∨
    (call m.tid).memory m.before = (.ok (call m.tid).aim, m.after)
  /-- A call changes something at most once. -/
  once : c.shared.moments.Pairwise fun m m' =>
    m.tid = m'.tid → m.before = m.after ∨ m'.before = m'.after
  /-- A call that returned without an error has made its step. -/
  returned : ∀ t r, c.threads t = .running (.ret (.ok r)) → Returned call t r c.shared
  /-- A lifetime is acquired by one caller. -/
  acquired : ∀ t u uid, AcquiredOn c t uid → AcquiredOn c u uid → t = u

/-- `t` has changed something. -/
def Changed : Prop := ∃ m ∈ s.moments, m.tid = t ∧ m.before ≠ m.after

/-- A PUT meets a Lease, whatever its version; and where a `SetReceipt` reads
back the fence it asked for, it is its own doing. -/
def Undisturbed : LeaseOp → Server → Prop
  | .put name _, s => s.leases name ≠ none
  | .get name, s => ∀ fence receipt lease, call t = .setReceipt fence receipt →
      (∃ m ∈ s.moments, m.tid = t) → s.leases name = some lease →
      lowered lease.fence = { fence with receipt := toLower receipt } →
      fence.receipt = toLower receipt ∨ Changed t s
  | _, _ => True

def undisturbedWorld : Sem Server LeaseOp LeaseReply :=
  (world leaseName).restrict (Undisturbed call)

/-! ### The memory store under the Leases -/

section Fences

variable {leaseName} {leases : String → Option Lease} {name key : String} {lease : Lease}

/-- The fence of a Lease that is found under its own key. -/
theorem fences_of_lease (h : leases (leaseName lease.fence.key) = some lease) :
    fences leaseName leases lease.fence.key = some (lowered lease.fence) := by
  simp [fences, h]

theorem fences_of_none (h : leases (leaseName key) = none) : fences leaseName leases key = none := by
  simp [fences, h]

/-- Writing a Lease that had the same key, or none, writes one fence. -/
theorem fences_write (hprev : ∀ l, leases (leaseName lease.fence.key) = some l →
      l.fence.key = lease.fence.key) :
    fences leaseName (update leases (leaseName lease.fence.key) (some lease)) =
      update (fences leaseName leases) lease.fence.key (some (lowered lease.fence)) := by
  funext key
  rcases eq_or_ne key lease.fence.key with rfl | hkey
  · rw [update_self, fences, update_self]
    simp
  rw [update_of_ne hkey]
  rcases eq_or_ne (leaseName key) (leaseName lease.fence.key) with hname | hname
  · -- another key with the same Lease: not there before, not there after
    rcases hl : leases (leaseName lease.fence.key) with - | l
    · simp [fences, hname, hl, hkey.symm]
    · simp [fences, hname, hl, hprev l hl, hkey.symm]
  · simp only [fences, update_of_ne hname]

/-- Removing a Lease removes its fence. -/
theorem fences_remove (h : leases (leaseName lease.fence.key) = some lease) :
    fences leaseName (update leases (leaseName lease.fence.key) none) =
      update (fences leaseName leases) lease.fence.key none := by
  funext key
  rcases eq_or_ne key lease.fence.key with rfl | hkey
  · rw [update_self, fences, update_self]
    rfl
  rw [update_of_ne hkey]
  rcases eq_or_ne (leaseName key) (leaseName lease.fence.key) with hname | hname
  · simp [fences, hname, h, hkey.symm]
  · simp only [fences, update_of_ne hname]

end Fences

/-! ### The methods of the memory store that succeed -/

section Memory

variable {before : FenceStore} {f current : MutationFence} {receipt : String}
  {o : Option MutationObservation}

theorem memory_create (h : before f.key = none) :
    (Call.create f).memory before = (.ok (Call.create f).aim,
      update before f.key (some (lowered f))) := by
  have hkey : before (lowered f).key = none := h
  simp only [Call.memory, Call.aim, FenceStore.create, hkey]
  rfl

theorem memory_setReceipt (h : before f.key = some f) :
    (Call.setReceipt f receipt).memory before = (.ok (Call.setReceipt f receipt).aim,
      update before f.key (some { f with receipt := toLower receipt })) := by
  have hsame : sameMutationFenceState f f = true := sameMutationFenceState_iff.2 rfl
  simp only [Call.memory, Call.aim, FenceStore.setReceipt, h, hsame, if_true]
  rfl

/-- A receipt that is there already. -/
theorem memory_setReceipt_same (h : before f.key = some f) (hr : f.receipt = toLower receipt) :
    (Call.setReceipt f receipt).memory before = (.ok (Call.setReceipt f receipt).aim, before) := by
  have hf : { f with receipt := toLower receipt } = f := by rw [← hr]
  rw [memory_setReceipt h, hf, ← h, update_eq_self]

theorem memory_setObservation (h : before f.key = some f) (hne : f.observation ≠ o)
    (hvalid : o.elim (.ok ()) FenceStore.validateMutationObservation = .ok ()) :
    (Call.setObservation f o).memory before = (.ok (Call.setObservation f o).aim,
      update before f.key (some { f with observation := o })) := by
  simp only [Call.memory, Call.aim, FenceStore.setObservation_current h hne hvalid]
  rfl

theorem eq_of_sameMutationFenceAuthority (h : sameMutationFenceAuthority current f = true)
    (ho : current.observation = o) : current = { f with observation := o } := by
  obtain ⟨_, _, _, _, _⟩ := current
  simp only [sameMutationFenceAuthority, sameMutationFenceAttempt, Bool.and_eq_true,
    beq_iff_eq] at h
  obtain ⟨⟨⟨rfl, rfl⟩, rfl⟩, rfl⟩ := h
  subst ho
  rfl

/-- An observation that is there already. -/
theorem memory_setObservation_same (h : before f.key = some current)
    (hsame : sameMutationFenceAuthority current f = true) (ho : current.observation = o) :
    (Call.setObservation f o).memory before = (.ok (Call.setObservation f o).aim, before) := by
  have hcur := eq_of_sameMutationFenceAuthority hsame ho
  simp only [Call.memory, Call.aim, FenceStore.setObservation, h, ho, hsame, and_self, if_true,
    ← hcur]
  rfl

theorem memory_delete (h : before f.key = some f) :
    (Call.delete f).memory before = (.ok (Call.delete f).aim,
      update before f.key none) := by
  have hsame : sameMutationFenceState f f = true := sameMutationFenceState_iff.2 rfl
  simp only [Call.memory, Call.aim, FenceStore.delete, h, hsame, if_true]
  rfl

theorem memory_delete_none (h : before f.key = none) :
    (Call.delete f).memory before = (.ok (Call.delete f).aim, before) := by
  simp only [Call.memory, Call.aim, FenceStore.delete, h]
  rfl

end Memory

/-! ### The invariant -/

/-- What `Refines` says of the moments. -/
structure Traced (s : Server) : Prop where
  linked : s.moments.IsChain fun m m' => m.before = m'.after
  present : ∀ m ∈ s.moments.head?, m.after = fences leaseName s.leases
  steps : ∀ m ∈ s.moments, m.before = m.after ∨
    (call m.tid).memory m.before = (.ok (call m.tid).aim, m.after)
  once : s.moments.Pairwise fun m m' =>
    m.tid = m'.tid → m.before = m.after ∨ m'.before = m'.after

structure Inv (s : Server) : Prop extends Traced leaseName call s where
  /-- A Lease is what its version says. -/
  versioned : ∀ name lease, s.leases name = some lease →
    s.versions lease.resourceVersion = some (name, lease)
  /-- Every version of a Lease has its fence's name and its creator's attempt. -/
  stamped : ∀ rv name lease, s.versions rv = some (name, lease) →
    rv ≤ s.clock ∧ lease.resourceVersion = rv ∧ name = leaseName lease.fence.key ∧
    ∃ t f, s.creator lease.uid = some t ∧ call t = .create f ∧ f.attempt = lease.fence.attempt
  /-- The creator of a lifetime has made its step. -/
  creators : ∀ uid t, s.creator uid = some t → uid ≤ s.clock ∧ Stepped call t s

/-- What a client's step may do: it is one moment of the client, and versions
stay what they were. -/
structure Guar (t : Tid) (s s' : Server) : Prop where
  moment : ∃ m, m.tid = t ∧ s'.moments = m :: s.moments
  versions : ∀ rv p, s.versions rv = some p → s'.versions rv = some p

/-- `t` has been served nothing. -/
def Fresh : Prop := ∀ m ∈ s.moments, m.tid ≠ t

def rules : Rules Server := ⟨Inv leaseName call, Guar, Fresh⟩

/-- Code that may fail in any way. -/
abbrev CallTriple {α : Type} (t : Tid) (P : Server → Prop) (x : LeaseCode α)
    (Q : α → Server → Prop) : Prop :=
  (rules leaseName call).TripleE (undisturbedWorld leaseName call) t P x Q fun _ _ => True

/-- `t` has changed nothing. -/
def Untouched : Prop := ∀ m ∈ s.moments, m.tid = t → m.before = m.after

/-- `t` has read the Lease. -/
def Saw (name : String) (lease : Lease) (s : Server) : Prop :=
  s.versions lease.resourceVersion = some (name, lease)

/-- At a moment of `t` that changed nothing, the fence under `key` was `f`. -/
def Found (key : String) (f : Option MutationFence) (s : Server) : Prop :=
  ∃ m ∈ s.moments, m.tid = t ∧ m.after = m.before ∧ m.before key = f

/-- Leaving the Leases like this is what the call of `t` asks for. -/
abbrev Asks (leases : String → Option Lease) : Prop :=
  (call t).memory (fences leaseName s.leases) = (.ok (call t).aim, fences leaseName leases)

section Steps

variable {leaseName call} {s s' : Server} {t : Tid} {name : String} {lease : Lease}
  {f : MutationFence}

theorem Fresh.untouched (h : Fresh t s) : Untouched t s := fun m hm ht => absurd ht (h m hm)

theorem Traced.serve (hi : Traced leaseName call s) {leases : String → Option Lease}
    (h : fences leaseName s.leases = fences leaseName leases ∨
      (Untouched t s ∧ Asks leaseName call t s leases)) :
    Traced leaseName call (s.serve leaseName t leases) where
  linked := by
    refine List.isChain_cons.2 ⟨fun m hm => ?_, hi.linked⟩
    exact (hi.present m hm).symm
  present := by
    rintro m ⟨⟩
    rfl
  steps := List.forall_mem_cons.2 ⟨h.imp id And.right, hi.steps⟩
  once := by
    refine List.pairwise_cons.2 ⟨fun m hm heq => ?_, hi.once⟩
    rcases h with h | h
    · exact .inl h
    · exact .inr (h.1 m hm heq.symm)

theorem Stepped.serve {u : Tid} {leases : String → Option Lease} (h : Stepped call u s) :
    Stepped call u (s.serve leaseName t leases) := by
  obtain ⟨m, hm, hu⟩ := h
  exact ⟨m, .tail _ hm, hu⟩

theorem stepped_serve {leases : String → Option Lease}
    (h : Asks leaseName call t s leases) :
    Stepped call t (s.serve leaseName t leases) :=
  ⟨_, .head _, rfl, h⟩

theorem inv_quiet (hi : Inv leaseName call s) : Inv leaseName call (s.serve leaseName t s.leases) :=
  { hi.toTraced.serve (.inl rfl) with
    versioned := hi.versioned
    stamped := hi.stamped
    creators := fun uid u hu => ⟨(hi.creators uid u hu).1, (hi.creators uid u hu).2.serve⟩ }

theorem guar_serve {leases : String → Option Lease} : Guar t s (s.serve leaseName t leases) :=
  ⟨⟨_, rfl, rfl⟩, fun _ _ h => h⟩

/-- The Lease in the store under its version is the one that was read. -/
theorem lease_of_holds (hi : Inv leaseName call s) (hsaw : Saw name lease s)
    (h : s.Holds name lease.uid lease.resourceVersion) : s.leases name = some lease := by
  obtain ⟨l, hl, -, hrv⟩ := h
  have hver := hi.versioned name l hl
  rw [hrv, hsaw] at hver
  cases hver
  exact hl

theorem inv_remove (hi : Inv leaseName call s) (hun : Untouched t s)
    (hstep : Asks leaseName call t s (update s.leases name none)) :
    Inv leaseName call (s.serve leaseName t (update s.leases name none)) :=
  { hi.toTraced.serve (.inr ⟨hun, hstep⟩) with
    versioned := fun name' l h => by
      rcases eq_or_ne name' name with rfl | hne
      · simp [Server.serve] at h
      · exact hi.versioned name' l (by simpa [Server.serve, update_of_ne hne] using h)
    stamped := hi.stamped
    creators := fun uid u hu => ⟨(hi.creators uid u hu).1, (hi.creators uid u hu).2.serve⟩ }

/-- A write: `creator` are the creators afterwards. -/
theorem inv_written {uid : ℕ} {creator : ℕ → Option Tid} (hi : Inv leaseName call s)
    (hun : Untouched t s) (hname : name = leaseName f.key)
    (hstep : Asks leaseName call t s (update s.leases name (some ⟨uid, s.clock + 1, f⟩)))
    (hmono : ∀ uid u, s.creator uid = some u → creator uid = some u)
    (hnew : ∃ u g, creator uid = some u ∧ call u = .create g ∧ g.attempt = f.attempt)
    (hcreator : ∀ uid u, creator uid = some u →
      s.creator uid = some u ∨ (uid = s.clock + 1 ∧ u = t)) :
    Inv leaseName call { s.write leaseName t name uid f with creator := creator } := by
  have htraced := hi.toTraced.serve (.inr ⟨hun, hstep⟩)
  refine ⟨⟨htraced.linked, htraced.present, htraced.steps, htraced.once⟩, ?_, ?_, ?_⟩
  · intro name' l hl
    simp only [Server.write, Server.serve] at hl ⊢
    rcases eq_or_ne name' name with rfl | hne
    · rw [update_self] at hl
      cases hl
      exact update_self ..
    · rw [update_of_ne hne] at hl
      have hver := hi.versioned name' l hl
      have hrv := (hi.stamped _ _ _ hver).1
      rw [update_of_ne (by omega)]
      exact hver
  · intro rv name' l hver
    simp only [Server.write, Server.serve] at hver ⊢
    rcases eq_or_ne rv (s.clock + 1) with rfl | hne
    · rw [update_self] at hver
      cases hver
      exact ⟨le_rfl, rfl, hname, hnew⟩
    · rw [update_of_ne hne] at hver
      obtain ⟨_, hl, hkey, u, g, hu, hg⟩ := hi.stamped rv name' l hver
      exact ⟨by omega, hl, hkey, u, g, hmono _ _ hu, hg⟩
  · intro uid' u hu
    rcases hcreator uid' u hu with hold | ⟨rfl, rfl⟩
    · obtain ⟨hle, hst⟩ := hi.creators uid' u hold
      exact ⟨Nat.le_succ_of_le hle, hst.serve⟩
    · exact ⟨le_rfl, stepped_serve hstep⟩

theorem inv_put (hi : Inv leaseName call s) (hun : Untouched t s)
    (hl : s.leases name = some lease) (hkey : f.key = lease.fence.key)
    (hattempt : f.attempt = lease.fence.attempt)
    (hstep : Asks leaseName call t s
      (update s.leases name (some ⟨lease.uid, s.clock + 1, f⟩))) :
    Inv leaseName call (s.write leaseName t name lease.uid f) := by
  obtain ⟨-, -, hname, u, g, hu, hg, ha⟩ := hi.stamped _ _ _ (hi.versioned name lease hl)
  exact inv_written hi hun (hkey ▸ hname) hstep (fun _ _ h => h) ⟨u, g, hu, hg, hattempt ▸ ha⟩
    fun _ _ h => .inl h

theorem inv_post (hi : Inv leaseName call s) (hun : Untouched t s) (hcall : call t = .create f)
    (hstep : Asks leaseName call t s
      (update s.leases (leaseName f.key) (some ⟨s.clock + 1, s.clock + 1, f⟩))) :
    Inv leaseName call (s.create leaseName t (leaseName f.key) f) := by
  refine inv_written hi hun rfl hstep (fun uid u hu => ?_)
    ⟨t, f, update_self .., hcall, rfl⟩ fun uid u hu => ?_
  · -- the new lifetime is nobody's yet
    have hle := (hi.creators uid u hu).1
    exact (update_of_ne (by omega) ..).trans hu
  · rcases eq_or_ne uid (s.clock + 1) with rfl | hne
    · rw [update_self] at hu
      cases hu
      exact .inr ⟨rfl, rfl⟩
    · rw [update_of_ne hne] at hu
      exact .inl hu

theorem guar_write (hi : Inv leaseName call s) {uid : ℕ} {creator : ℕ → Option Tid} :
    Guar t s { s.write leaseName t name uid f with creator := creator } := by
  refine ⟨⟨_, rfl, rfl⟩, fun rv p hp => ?_⟩
  have hle := (hi.stamped rv p.1 p.2 hp).1
  exact (update_of_ne (by omega) ..).trans hp

end Steps

/-! ### What clients know -/

section Knowledge

variable {leaseName call} {s s' : Server} {t u : Tid} {name key : String} {lease : Lease}
  {f : Option MutationFence} {P : Server → Prop}

/-- Not lost while others move. -/
def Lasting (t : Tid) (P : Server → Prop) : Prop :=
  ∀ u s s', u ≠ t → Guar u s s' → P s → P s'

theorem Lasting.stable (h : Lasting t P) :
    (rules leaseName call).Stable (undisturbedWorld leaseName call) t P := by
  rintro s s' hP ⟨-, -, henv | ⟨u, hne, hg⟩⟩
  · exact henv.elim
  · exact h u s s' hne hg hP

theorem Lasting.and {P' : Server → Prop} (h : Lasting t P) (h' : Lasting t P') :
    Lasting t fun s => P s ∧ P' s :=
  fun u s s' hne hg hs => ⟨h u s s' hne hg hs.1, h' u s s' hne hg hs.2⟩

theorem lasting_fresh : Lasting t (Fresh t) := by
  rintro _ _ _ hne ⟨⟨_, rfl, hm⟩, -⟩ hs
  rw [Fresh, hm]
  exact List.forall_mem_cons.2 ⟨hne, hs⟩

theorem lasting_untouched : Lasting t (Untouched t) := by
  rintro _ _ _ hne ⟨⟨_, rfl, hm⟩, -⟩ hs
  rw [Untouched, hm]
  exact List.forall_mem_cons.2 ⟨fun ht => absurd ht hne, hs⟩

theorem Guar.mem {m : Moment} (h : Guar u s s') (hm : m ∈ s.moments) : m ∈ s'.moments := by
  obtain ⟨⟨_, -, h'⟩, -⟩ := h
  exact h' ▸ .tail _ hm

theorem lasting_saw : Lasting t (Saw name lease) := fun _ _ _ _ hg hs => hg.versions _ _ hs

theorem lasting_stepped : Lasting t (Stepped call t) := by
  rintro _ _ _ - hg ⟨m, hm, hrest⟩
  exact ⟨m, hg.mem hm, hrest⟩

/-- `t` has been served something. -/
def Asked (t : Tid) (s : Server) : Prop := ∃ m ∈ s.moments, m.tid = t

theorem lasting_asked : Lasting t (Asked t) := by
  rintro _ _ _ - hg ⟨m, hm, hrest⟩
  exact ⟨m, hg.mem hm, hrest⟩

theorem stepped_of_changed (hi : Inv leaseName call s) (h : Changed t s) : Stepped call t s := by
  obtain ⟨m, hm, rfl, hne⟩ := h
  exact ⟨m, hm, rfl, (hi.steps m hm).resolve_left hne⟩

end Knowledge

/-! ### The code, method by method -/

theorem kubernetesFenceStatusError_isSome {operation : String} {status : ℕ} (h : 300 ≤ status)
    (hne : status ≠ 404) : (kubernetesFenceStatusError operation status).isSome = true := by
  unfold kubernetesFenceStatusError
  rw [if_neg (by omega)]
  split <;> rfl

theorem joinErrs_isSome {e e' : Option Err} (h : e.isSome = true ∨ e'.isSome = true) :
    (joinErrs e e').isSome = true := by
  cases e <;> cases e' <;> simp_all [joinErrs]

theorem mutationFenceFromLease_ok {lease : Lease} {f : MutationFence}
    (h : mutationFenceFromLease lease = .ok f) : f = lowered lease.fence := by
  obtain ⟨-, -, h⟩ := except_bind_ok h
  cases h
  rfl

/-- What a `SetReceipt` may conclude from reading `f`. -/
def Own (f : MutationFence) (s : Server) : Prop :=
  ∀ fence receipt, call t = .setReceipt fence receipt →
    f = { fence with receipt := toLower receipt } →
    fence.receipt = toLower receipt ∨ Stepped call t s

/-- What `t` knows from an answer to GET; `asked` if it was not its first
request. -/
def Answered (asked : Prop) (t : Tid) (name : String) : Except ℕ Lease → Server → Prop
  | .ok lease, s => Saw name lease s ∧
      Found t lease.fence.key (some (lowered lease.fence)) s ∧
      (asked → Own call t (lowered lease.fence) s)
  | .error code, s => 300 ≤ code ∧
      (code = 404 → ∀ key, leaseName key = name → Found t key none s)

section Code

variable {leaseName call} {t : Tid} {name key : String} {lease : Lease} {f : MutationFence}
  {receipt : String} {o : Option MutationObservation} {α : Type} {asked : Prop}
  {P N : Server → Prop} {Q : α → Server → Prop}

theorem returnErr_triple {err : Option Err} {a : α} (h : err.isSome = true) :
    CallTriple leaseName call t P (returnErr err a) Q := by
  cases err with
  | none => cases h
  | some => exact .throw_any

theorem getMutationLease_triple (asked : Prop) (hlast : Lasting t P)
    (hquiet : ∀ s, P s → N (s.serve leaseName t s.leases))
    (hasked : asked → ∀ s, P s → Asked t s) :
    CallTriple leaseName call t P (getMutationLease name)
      (fun r s => Answered leaseName call asked t name r s ∧ N s) := by
  have hget : CallTriple leaseName call t P
      (request (.get name))
      (fun r s => (match r with
        | .ok lease => Answered leaseName call asked t name (.ok lease) s
        | .status code => Answered leaseName call asked t name (.error code) s
        | .failed _ => True) ∧ N s) := by
    refine .perform hlast.stable fun s r s' hi hs hexec => ?_
    obtain ⟨hcond, rfl, hr⟩ := hexec
    refine ⟨inv_quiet hi, guar_serve, ?_, hquiet s hs⟩
    cases r with
    | failed => trivial
    | status =>
      refine ⟨hr.1, fun h404 key hkey => ⟨_, .head _, rfl, rfl, ?_⟩⟩
      exact fences_of_none (hkey ▸ hr.2 h404)
    | ok lease =>
      have hver := hi.versioned name lease hr
      have hname := (hi.stamped _ _ _ hver).2.2.1
      refine ⟨hver, ⟨_, .head _, rfl, rfl, fences_of_lease (hname ▸ hr)⟩, fun ha => ?_⟩
      intro fence receipt hcall hf
      refine (hcond fence receipt lease hcall (hasked ha s hs) hr hf).imp id fun h => ?_
      exact (stepped_of_changed hi h).serve
  refine .bind hget fun r => ?_
  cases r with
  | failed => exact .throw_any
  | status => exact .pure fun _ _ h => h
  | ok => exact .pure fun _ _ h => h

/-- A read that was refused, but not because there is no Lease. -/
theorem answered_error {operation : String} {code : ℕ} {a : α} (h404 : code ≠ 404) :
    CallTriple leaseName call t
      (fun s => Answered leaseName call asked t name (.error code) s ∧ N s)
      (returnErr (kubernetesFenceStatusError operation code) a) Q := by
  refine TripleE.pre (TripleE.hyp fun hcode => ?_) fun _ _ h => ⟨h.1.1, h.2⟩
  exact returnErr_triple (kubernetesFenceStatusError_isSome hcode h404)

/-- What `t` knows from a `Get`. -/
def Looked (leaseName : String → String) (call : Tid → Call) (asked : Prop) (t : Tid)
    (key : String) (r : Option MutationFence) (s : Server) : Prop :=
  Found t key r s ∧ ∀ f, r = some f → f.key = key ∧ (asked → Own call t f s) ∧
    ∃ lease, Saw (leaseName key) lease s ∧ lowered lease.fence = f

theorem get_triple (asked : Prop) (hlast : Lasting t P)
    (hasked : asked → ∀ s, P s → Asked t s) :
    CallTriple leaseName call t P (get leaseName key)
      (fun r s => Looked leaseName call asked t key r s) := by
  refine .skip ?_
  refine .bind (getMutationLease_triple (N := fun _ => True) asked hlast
    (fun _ _ => trivial) hasked) fun r => ?_
  cases r with
  | error code =>
    by_cases h404 : code = 404
    · simp only [if_pos h404]
      exact .pure fun s _ h => ⟨h.1.2 h404 key rfl, nofun⟩
    · simp only [if_neg h404]
      exact answered_error h404
  | ok lease =>
    refine .check_any fun f hf => ?_
    refine .check_any fun _ hkey => ?_
    obtain rfl := mutationFenceFromLease_ok hf
    obtain rfl : (lowered lease.fence).key = key := not_not.1 (failIf_ok hkey)
    refine .pure fun s _ h => ⟨h.1.2.1, ?_⟩
    rintro f ⟨⟩
    exact ⟨rfl, h.1.2.2, lease, h.1.1, rfl⟩

/-- A readback, whose failure is a value. -/
theorem readback_triple (asked : Prop) (hlast : Lasting t P)
    (hasked : asked → ∀ s, P s → Asked t s) :
    CallTriple leaseName call t P
      (attempt (get leaseName key))
      (fun r s => ∀ found, r = .ok found → Looked leaseName call asked t key found s) := by
  refine (TripleE.attempt (get_triple asked hlast hasked)).conseq (fun _ _ h => h)
    (fun r s _ hr => ?_) fun _ _ _ h => h
  rintro _ rfl
  exact hr

/-! #### Create -/

/-- The Lease carries the candidate's attempt, so the candidate began its
lifetime. -/
theorem stepped_of_attempt (huniq : UniqueAttempts call) (hcall : call t = .create f)
    {s : Server} (hi : Inv leaseName call s) (hsaw : Saw name lease s)
    (hattempt : lease.fence.attempt = f.attempt) : Stepped call t s := by
  obtain ⟨-, -, -, u, g, hu, hg, ha⟩ := hi.stamped _ _ _ hsaw
  obtain rfl : u = t := huniq u t g f hg hcall (ha.trans hattempt)
  exact (hi.creators _ _ hu).2

theorem createReadback_triple (huniq : UniqueAttempts call) (hcall : call t = .create f)
    {requestErr : Option Err} {status : ℕ} :
    CallTriple leaseName call t (fun _ => True)
      (createReadback leaseName f requestErr status)
      (fun r s => r.2 = true → (∃ g, r.1 = some g ∧ g.attempt = f.attempt) ∧ Stepped call t s) := by
  refine .bind (readback_triple False (fun _ _ _ _ _ h => h) False.elim) fun r => ?_
  match r with
  | .error e => exact returnErr_triple (joinErrs_isSome (.inr rfl))
  | .ok none => exact returnErr_triple (joinErrs_isSome (.inr rfl))
  | .ok (some current) =>
    refine .pure fun s hi h hacq => ?_
    obtain ⟨-, -, _, hsaw, rfl⟩ := (h _ rfl).2 current rfl
    simp only [Bool.and_eq_true, beq_iff_eq] at hacq
    exact ⟨⟨_, rfl, hacq.1.2⟩, stepped_of_attempt huniq hcall hi hsaw hacq.1.2⟩

theorem post_triple (hcall : call t = .create f) :
    CallTriple leaseName call t (Fresh t)
      (request (.post (leaseName f.key) f))
      (fun r s => ∀ stored, r = .ok stored → Stepped call t s) := by
  refine .perform lasting_fresh.stable fun s r s' hi hs hexec => ?_
  obtain ⟨-, ⟨hnone, rfl, -⟩ | ⟨hrefused, rfl⟩⟩ := hexec
  · have hstep : Asks leaseName call t s
        (update s.leases (leaseName f.key) (some ⟨s.clock + 1, s.clock + 1, f⟩)) := by
      rw [Asks, hcall, memory_create (fences_of_none hnone)]
      have hwrite := @fences_write leaseName s.leases ⟨s.clock + 1, s.clock + 1, f⟩ fun l hl =>
        nomatch hnone.symm.trans hl
      exact congrArg _ hwrite.symm
    exact ⟨inv_post hi hs.untouched hcall hstep, guar_write hi, fun _ _ => stepped_serve hstep⟩
  · refine ⟨inv_quiet hi, guar_serve, ?_⟩
    rintro _ rfl
    exact hrefused.elim

theorem create_triple (huniq : UniqueAttempts call) (hcall : call t = .create f) :
    CallTriple leaseName call t (Fresh t)
      (create leaseName f)
      (fun r s => r.2 = true → (∃ g, r.1 = some g ∧ g.attempt = f.attempt) ∧ Stepped call t s) := by
  refine .skip ?_
  refine .bind (post_triple hcall) fun r => ?_
  cases r with
  | ok stored =>
    refine .check_any fun fence _ => ?_
    refine .check_any fun _ hsame => ?_
    obtain rfl : fence = f := not_not.1 (failIf_ok hsame)
    exact .pure fun s _ h _ => ⟨⟨_, rfl, rfl⟩, h stored rfl⟩
  | status =>
    dsimp only
    split
    · -- refused for good: no error for 404, but nothing acquired either
      unfold returnErr
      split
      · exact .pure fun _ _ _ h => nomatch h
      · exact .throw_any
    · exact (createReadback_triple huniq hcall).pre fun _ _ _ => trivial
  | failed => exact (createReadback_triple huniq hcall).pre fun _ _ _ => trivial

/-! #### SetReceipt and SetObservation -/

/-- A PUT of a Lease that was read, with a fence of the same attempt.  `hstep`:
if the Lease is as it was read, the write is what the call asks for. -/
theorem put_triple (hkey : f.key = lease.fence.key) (hattempt : f.attempt = lease.fence.attempt)
    (hstep : ∀ before : FenceStore, before lease.fence.key = some (lowered lease.fence) →
      (call t).memory before = (.ok (call t).aim,
        update before lease.fence.key (some (lowered f)))) :
    CallTriple leaseName call t
      (fun s => Saw (leaseName lease.fence.key) lease s ∧ Untouched t s)
      (request (.put (leaseName lease.fence.key) { lease with fence := f }))
      (fun r s => Asked t s ∧ match r with
        | .ok stored => stored.fence = f ∧ Stepped call t s
        | .status code => 300 ≤ code ∧ code ≠ 404
        | .failed _ => True) := by
  refine .perform (lasting_saw.and lasting_untouched).stable fun s r s' hi hs hexec => ?_
  obtain ⟨hmeets, ⟨hholds, rfl, hr⟩ | ⟨hr, rfl⟩⟩ := hexec
  · have hl : s.leases (leaseName lease.fence.key) = some lease := lease_of_holds hi hs.1 hholds
    have hwrite := @fences_write leaseName s.leases ⟨lease.uid, s.clock + 1, f⟩ fun l h => by
      rw [show leaseName f.key = leaseName lease.fence.key from congrArg _ hkey, hl] at h
      cases h
      exact hkey.symm
    have hmem : Asks leaseName call t s
        (update s.leases (leaseName lease.fence.key) (some ⟨lease.uid, s.clock + 1, f⟩)) := by
      rw [Asks, hstep _ (fences_of_lease hl), ← hkey]
      exact congrArg _ hwrite.symm
    have hinv : Inv leaseName call (s.write leaseName t (leaseName lease.fence.key) lease.uid f) :=
      inv_put hi hs.2 hl hkey hattempt hmem
    refine ⟨hinv, guar_write hi, ⟨_, .head _, rfl⟩, ?_⟩
    cases r with
    | ok stored =>
      obtain rfl : stored = _ := hr
      exact ⟨rfl, stepped_serve hmem⟩
    | status =>
      refine ⟨hr.1, ?_⟩
      rintro rfl
      cases hr.2
    | failed => trivial
  · refine ⟨inv_quiet hi, guar_serve, ⟨_, .head _, rfl⟩, ?_⟩
    cases r with
    | ok => exact hr.elim
    | status => exact ⟨hr.1, fun h404 => hmeets (hr.2 h404)⟩
    | failed => trivial

/-- What is read is in lower case. -/
theorem receipt_eq_of_equalFold (h : equalFold (lowered f).receipt receipt = true) :
    (lowered f).receipt = toLower receipt := by
  have hfold : toLower (toLower f.receipt) = toLower receipt := by simpa [equalFold, lowered] using h
  rw [toLower_toLower] at hfold
  exact hfold

theorem untouched_quiet {s : Server} (h : Fresh t s) :
    Untouched t (s.serve leaseName t s.leases) :=
  List.forall_mem_cons.2 ⟨fun _ => rfl, fun m hm ht => absurd ht (h m hm)⟩

/-- The method's step at a moment that changed nothing. -/
theorem stepped_of_found {s : Server} {found : Option MutationFence} (h : Found t key found s)
    (hstep : ∀ before : FenceStore, before key = found →
      (call t).memory before = (.ok (call t).aim, before)) : Stepped call t s := by
  obtain ⟨m, hm, ht, hquiet, hfound⟩ := h
  exact ⟨m, hm, ht, by rw [hstep m.before hfound, hquiet]⟩

theorem setReceiptReadback_triple (hcall : call t = .setReceipt f receipt)
    (hne : f.receipt ≠ toLower receipt) {requestErr : Option Err} {status : ℕ}
    (herr : (joinErrs requestErr
      (kubernetesFenceStatusError "persist receipt" status)).isSome = true) :
    CallTriple leaseName call t (Asked t)
      (setReceiptReadback leaseName f receipt requestErr status)
      (fun r s => r = some { f with receipt := toLower receipt } ∧ Stepped call t s) := by
  refine .bind (readback_triple True lasting_asked fun _ _ h => h) fun r => ?_
  match r with
  | .error e => exact returnErr_triple (joinErrs_isSome (.inr rfl))
  | .ok none => exact returnErr_triple herr
  | .ok (some readback) =>
    dsimp only
    split
    · next hmatch =>
      refine .pure fun s _ h => ?_
      obtain ⟨hkey, hown, _, -, hlease⟩ := (h _ rfl).2 readback rfl
      obtain ⟨hintent, hattempt, hobs, hfold⟩ := hmatch
      have hreceipt : readback.receipt = toLower receipt := by
        rw [← hlease] at hfold ⊢
        exact receipt_eq_of_equalFold hfold
      obtain ⟨k, i, a, r, o⟩ := readback
      subst hkey hintent hattempt hobs hreceipt
      exact ⟨rfl, (hown trivial f receipt hcall rfl).resolve_left hne⟩
    · exact returnErr_triple herr

theorem setReceipt_triple (hcall : call t = .setReceipt f receipt) :
    CallTriple leaseName call t (Fresh t)
      (setReceipt leaseName f receipt)
      (fun r s => r = some { f with receipt := toLower receipt } ∧ Stepped call t s) := by
  refine .skip ?_
  refine .check_any fun _ huuid => ?_
  refine .bind (getMutationLease_triple False lasting_fresh
    (fun _ h => untouched_quiet h) False.elim) fun r => ?_
  cases r with
  | error code =>
    dsimp only
    split
    · exact .throw_any
    · next h404 => exact answered_error h404
  | ok lease =>
    refine .check_any fun current hcurrent => ?_
    refine .check_any fun _ hsame => ?_
    obtain rfl := mutationFenceFromLease_ok hcurrent
    obtain rfl := sameMutationFenceState_iff.1 (Bool.not_eq_false _ ▸ failIf_ok hsame)
    split
    · next hidem =>
      -- the receipt is there already
      have hreceipt := receipt_eq_of_equalFold hidem.2
      refine .pure fun s _ h => ⟨by rw [← hreceipt], ?_⟩
      refine stepped_of_found h.1.2.1 fun before hbefore => ?_
      rw [hcall]
      exact memory_setReceipt_same hbefore hreceipt
    · next hidem =>
      have hne : (lowered lease.fence).receipt ≠ toLower receipt := by
        intro heq
        refine hidem ⟨?_, ?_⟩
        · intro hempty
          rw [← heq, hempty] at huuid
          exact failIf_ok huuid (by decide)
        · rw [equalFold, heq, toLower_toLower]
          exact beq_self_eq_true _
      have hlow : lowered { lease.fence with receipt := toLower receipt } =
          { lowered lease.fence with receipt := toLower receipt } := by
        simp only [lowered, toLower_toLower]
      have hput := @put_triple leaseName call t lease
        { lease.fence with receipt := toLower receipt } rfl rfl fun before hbefore => by
          rw [hcall, hlow]
          exact memory_setReceipt hbefore
      refine .bind (hput.pre fun s _ h => ⟨h.1.1, h.2⟩) fun r => ?_
      cases r with
      | ok stored =>
        refine .check_any fun g hg => ?_
        refine .skip ?_
        obtain rfl := mutationFenceFromLease_ok hg
        refine .pure fun s _ h => ⟨?_, h.2.2⟩
        rw [h.2.1, hlow]
      | status code =>
        refine TripleE.pre (TripleE.hyp fun hcode => ?_) fun s _ h => ⟨h.2, h.1⟩
        have hstatus := @kubernetesFenceStatusError_isSome "persist receipt" code hcode.1 hcode.2
        dsimp only
        split
        · exact returnErr_triple hstatus
        · exact setReceiptReadback_triple hcall hne (joinErrs_isSome (.inr hstatus))
      | failed e =>
        refine TripleE.pre ?_ fun s _ h => h.1
        exact setReceiptReadback_triple hcall hne (joinErrs_isSome (.inl rfl))

theorem setObservationReadback_triple (hcall : call t = .setObservation f o)
    {requestErr : Option Err} {status : ℕ}
    (herr : (joinErrs requestErr
      (kubernetesFenceStatusError "persist observation" status)).isSome = true) :
    CallTriple leaseName call t (fun _ => True)
      (setObservationReadback leaseName f o requestErr status)
      (fun r s => r = some { f with observation := o } ∧ Stepped call t s) := by
  refine .bind (readback_triple False (fun _ _ _ _ _ h => h) False.elim) fun r => ?_
  match r with
  | .error e => exact returnErr_triple (joinErrs_isSome (.inr rfl))
  | .ok none => exact returnErr_triple herr
  | .ok (some readback) =>
    dsimp only
    split
    · next hmatch =>
      -- whoever wrote it, this moment will do
      refine .pure fun s _ h => ?_
      refine ⟨congrArg some (eq_of_sameMutationFenceAuthority hmatch.1 hmatch.2), ?_⟩
      refine stepped_of_found (h _ rfl).1 fun before hbefore => ?_
      rw [hcall]
      exact memory_setObservation_same hbefore hmatch.1 hmatch.2
    · split
      · exact .throw_any
      · exact returnErr_triple herr

theorem setObservation_triple (hcall : call t = .setObservation f o) :
    CallTriple leaseName call t (Fresh t)
      (setObservation leaseName f o)
      (fun r s => r = some { f with observation := o } ∧ Stepped call t s) := by
  refine .skip ?_
  refine .check_any fun _ hvalid => ?_
  refine .bind (getMutationLease_triple False lasting_fresh
    (fun _ h => untouched_quiet h) False.elim) fun r => ?_
  cases r with
  | error code =>
    dsimp only
    split
    · exact .throw_any
    · next h404 => exact answered_error h404
  | ok lease =>
    refine .check_any fun current hcurrent => ?_
    obtain rfl := mutationFenceFromLease_ok hcurrent
    split
    · next hidem =>
      -- the observation is there already
      refine .pure fun s _ h => ?_
      refine ⟨congrArg some (eq_of_sameMutationFenceAuthority hidem.2 hidem.1), ?_⟩
      have hcurrent := eq_of_sameMutationFenceAuthority hidem.2 hidem.1
      have hkey : (lowered lease.fence).key = f.key := by rw [hcurrent]
      have hfound : Found t (lowered lease.fence).key (some (lowered lease.fence)) s := h.1.2.1
      rw [hkey] at hfound
      refine stepped_of_found hfound fun before hbefore => ?_
      rw [hcall]
      exact memory_setObservation_same hbefore hidem.2 hidem.1
    · next hidem =>
      refine .check_any fun _ hsame => ?_
      obtain rfl := sameMutationFenceState_iff.1 (Bool.not_eq_false _ ▸ failIf_ok hsame)
      have hne : (lowered lease.fence).observation ≠ o := by
        intro heq
        refine hidem ⟨heq, ?_⟩
        simp [sameMutationFenceAuthority, sameMutationFenceAttempt]
      have hput := @put_triple leaseName call t lease
        { lease.fence with observation := o } rfl rfl fun before hbefore => by
          rw [hcall]
          exact memory_setObservation hbefore hne hvalid
      refine .bind (hput.pre fun s _ h => ⟨h.1.1, h.2⟩) fun r => ?_
      cases r with
      | ok stored =>
        refine .check_any fun g hg => ?_
        refine .skip ?_
        obtain rfl := mutationFenceFromLease_ok hg
        refine .pure fun s _ h => ⟨?_, h.2.2⟩
        rw [h.2.1]
        rfl
      | status code =>
        refine TripleE.pre (TripleE.hyp fun hcode => ?_) fun s _ h => ⟨h.2, trivial⟩
        have hstatus :=
          @kubernetesFenceStatusError_isSome "persist observation" code hcode.1 hcode.2
        dsimp only
        split
        · exact returnErr_triple hstatus
        · exact setObservationReadback_triple hcall (joinErrs_isSome (.inr hstatus))
      | failed e =>
        refine TripleE.pre ?_ fun s _ h => trivial
        exact setObservationReadback_triple hcall (joinErrs_isSome (.inl rfl))

/-! #### Delete -/

theorem deleteReadback_triple (hcall : call t = .delete f) {deleteErr : Option Err} {status : ℕ} :
    CallTriple leaseName call t (fun _ => True)
      (deleteReadback leaseName f deleteErr status) (fun _ s => Stepped call t s) := by
  refine .bind (readback_triple False (fun _ _ _ _ _ h => h) False.elim) fun r => ?_
  match r with
  | .error e => exact returnErr_triple (joinErrs_isSome (.inr rfl))
  | .ok (some _) => exact returnErr_triple (joinErrs_isSome (.inr rfl))
  | .ok none =>
    -- whoever removed it, this moment will do
    refine .pure fun s _ h => ?_
    refine stepped_of_found (h _ rfl).1 fun before hbefore => ?_
    rw [hcall]
    exact memory_delete_none hbefore

theorem request_delete_triple (hcall : call t = .delete (lowered lease.fence)) :
    CallTriple leaseName call t
      (fun s => Saw (leaseName lease.fence.key) lease s ∧ Untouched t s)
      (request (.delete (leaseName lease.fence.key) lease.uid lease.resourceVersion))
      (fun r _ => ∀ code, r = .status code → 300 ≤ code) := by
  refine .perform (lasting_saw.and lasting_untouched).stable fun s r s' hi hs hexec => ?_
  obtain ⟨-, ⟨hholds, rfl, hr⟩ | ⟨hr, rfl⟩⟩ := hexec
  · have hl : s.leases (leaseName lease.fence.key) = some lease := lease_of_holds hi hs.1 hholds
    have hmem : Asks leaseName call t s (update s.leases (leaseName lease.fence.key) none) := by
      rw [Asks, hcall, fences_remove hl]
      exact memory_delete (fences_of_lease hl)
    refine ⟨inv_remove hi hs.2 hmem, guar_serve, ?_⟩
    rintro _ rfl
    exact hr.1
  · refine ⟨inv_quiet hi, guar_serve, ?_⟩
    rintro _ rfl
    exact hr.1

theorem delete_triple (hcall : call t = .delete f) :
    CallTriple leaseName call t (Fresh t) (delete leaseName f) (fun _ s => Stepped call t s) := by
  refine .skip ?_
  refine .bind (getMutationLease_triple False lasting_fresh
    (fun _ h => untouched_quiet h) False.elim) fun r => ?_
  match r with
  | .error code =>
    dsimp only
    split
    · next h404 =>
      refine .pure fun s _ h => ?_
      refine stepped_of_found (h.1.2 h404 f.key rfl) fun before hbefore => ?_
      rw [hcall]
      exact memory_delete_none hbefore
    · next h404 => exact answered_error h404
  | .ok lease =>
    refine .check_any fun current hcurrent => ?_
    refine .check_any fun _ hsame => ?_
    obtain rfl := mutationFenceFromLease_ok hcurrent
    obtain rfl := sameMutationFenceState_iff.1 (Bool.not_eq_false _ ▸ failIf_ok hsame)
    refine .bind ((request_delete_triple hcall).pre fun s _ h => ⟨h.1.1, h.2⟩) fun r => ?_
    match r with
    | .ok () => exact (deleteReadback_triple hcall).pre fun _ _ _ => trivial
    | .failed e => exact (deleteReadback_triple hcall).pre fun _ _ _ => trivial
    | .status code =>
      refine TripleE.pre (TripleE.hyp fun hcode => ?_) fun s _ h => ⟨h code rfl, trivial⟩
      dsimp only
      split
      · next hrefused => exact returnErr_triple (kubernetesFenceStatusError_isSome hcode hrefused.1)
      · exact deleteReadback_triple hcall

end Code

/-! ### The refinement -/

section Refinement

variable {leaseName call}

theorem code_triple (huniq : UniqueAttempts call) (t : Tid) :
    CallTriple leaseName call t (Fresh t)
      ((call t).code leaseName) (fun r s => Returned call t r s) := by
  unfold Returned
  cases hcall : call t with
  | create =>
    refine .bind (create_triple huniq hcall) fun r => TripleE.pure fun s _ h => ?_
    intro _ hr
    obtain ⟨rfl, hacq⟩ := Result.created.inj hr
    exact h hacq
  | setReceipt =>
    refine .bind (setReceipt_triple hcall) fun r => TripleE.pure fun s _ h => ?_
    exact ⟨congrArg Result.fence h.1, h.2⟩
  | setObservation =>
    refine .bind (setObservation_triple hcall) fun r => TripleE.pure fun s _ h => ?_
    exact ⟨congrArg Result.fence h.1, h.2⟩
  | delete =>
    refine .bind (delete_triple hcall) fun r => TripleE.pure fun s _ h => ?_
    exact ⟨rfl, h⟩

theorem lasting_returned (t : Tid) (r : Result) : Lasting t (Returned call t r) := by
  intro u s s' hne hg h
  unfold Returned at h ⊢
  cases hcall : call t with
  | create =>
    rw [hcall] at h
    exact fun fence hr => ⟨(h fence hr).1, lasting_stepped u s s' hne hg (h fence hr).2⟩
  | _ =>
    rw [hcall] at h
    exact ⟨h.1, lasting_stepped u s s' hne hg h.2⟩

theorem verified (huniq : UniqueAttempts call) :
    (rules leaseName call).Verified (undisturbedWorld leaseName call) (Runs leaseName call) Initial
      fun t r s => ∀ a, r = .ok a → Returned call t a s where
  init := by
    rintro s ⟨hleases, hversions, hcreator, hmoments⟩
    refine ⟨⟨⟨?_, ?_, ?_, ?_⟩, ?_, ?_, ?_⟩, fun t => ?_⟩
    · rw [hmoments]; exact .nil
    · simp [hmoments]
    · simp [hmoments]
    · rw [hmoments]; exact .nil
    · simp [hleases]
    · simp [hversions]
    · simp [hcreator]
    · simp [rules, Fresh, hmoments]
  env _ _ _ h := h.elim
  fresh t s s' h hstep := lasting_fresh.stable s s' h hstep
  stable t r := by
    intro s s' h hstep a ha
    exact (lasting_returned t a).stable s s' (h a ha) hstep
  start := by
    rintro t p s rfl hi hfresh
    refine (code_triple huniq t).wp hi hfresh (fun a s h => ?_) fun e s _ => ?_
    · rintro b ⟨⟩
      exact h
    · exact nofun

/-- Who reports a lifetime as acquired has begun it. -/
theorem creator_of_acquiredOn (huniq : UniqueAttempts call)
    {c : Config Server LeaseOp LeaseReply (Except Err Result)}
    (h : Reachable (undisturbedWorld leaseName call) (Runs leaseName call) Initial c) {t : Tid}
    {uid : ℕ} (hacq : AcquiredOn c t uid) : c.shared.creator uid = some t := by
  obtain ⟨_, _, _, hret, hver, rfl, rfl⟩ := hacq
  have hi : Inv leaseName call c.shared := sound (verified huniq) h
  obtain ⟨-, -, -, u, g, hu, hg, hattempt⟩ := hi.stamped _ _ _ hver
  have hreturned := sound_ret (verified huniq) h hret _ rfl
  unfold Returned at hreturned
  cases hcall : call t with
  | create f =>
    rw [hcall] at hreturned
    obtain ⟨⟨_, ⟨⟩, ha⟩, -⟩ := hreturned _ rfl
    rw [hu, huniq u t g f hg hcall (hattempt.trans ha)]
  | _ =>
    rw [hcall] at hreturned
    cases hreturned.1

end Refinement

/-! ### Runs over one Lease -/

/-- A server that answers everything, at once. -/
def answer : (op : LeaseOp) → Server → Option (LeaseReply op × Server)
  | .post name fence, s =>
    match s.leases name with
    | none => some (.ok ⟨s.clock + 1, s.clock + 1, fence⟩, s.create id t name fence)
    | some _ => some (.status 409, s.serve id t s.leases)
  | .get name, s =>
    match s.leases name with
    | none => some (.status 404, s.serve id t s.leases)
    | some lease => some (.ok lease, s.serve id t s.leases)
  | .put name lease, s =>
    match s.leases name with
    | none => some (.status 404, s.serve id t s.leases)
    | some l =>
      if l.uid = lease.uid ∧ l.resourceVersion = lease.resourceVersion then
        some (.ok ⟨lease.uid, s.clock + 1, lease.fence⟩, s.write id t name lease.uid lease.fence)
      else some (.status 409, s.serve id t s.leases)
  | .delete name uid resourceVersion, s =>
    match s.leases name with
    | none => some (.status 404, s.serve id t s.leases)
    | some l =>
      if l.uid = uid ∧ l.resourceVersion = resourceVersion then
        some (.ok (), s.serve id t (update s.leases name none))
      else some (.status 409, s.serve id t s.leases)

theorem refused_conflict {α : Type} (absent : Prop) :
    Refused absent (.status 409 : Answer α) := ⟨by decide, nofun⟩

theorem exec_answer {t : Tid} {op : LeaseOp} {s s' : Server} {r : LeaseReply op}
    (h : answer t op s = some (r, s')) : exec id t op s r s' := by
  cases op with
  | post name =>
    cases hl : s.leases name with
    | none => simp only [answer, hl] at h; cases h; exact .inl ⟨hl, rfl, rfl⟩
    | some => simp only [answer, hl] at h; cases h; exact .inr ⟨refused_conflict _, rfl⟩
  | get name =>
    cases hl : s.leases name with
    | none => simp only [answer, hl] at h; cases h; exact ⟨rfl, by decide, fun _ => hl⟩
    | some => simp only [answer, hl] at h; cases h; exact ⟨rfl, hl⟩
  | put name =>
    cases hl : s.leases name with
    | none => simp only [answer, hl] at h; cases h; exact .inr ⟨⟨by decide, fun _ => hl⟩, rfl⟩
    | some l =>
      simp only [answer, hl] at h
      split at h
      · next hsame => cases h; exact .inl ⟨⟨l, hl, hsame⟩, rfl, rfl⟩
      · cases h; exact .inr ⟨refused_conflict _, rfl⟩
  | delete name =>
    cases hl : s.leases name with
    | none => simp only [answer, hl] at h; cases h; exact .inr ⟨⟨by decide, fun _ => hl⟩, rfl⟩
    | some l =>
      simp only [answer, hl] at h
      split at h
      · next hsame => cases h; exact .inl ⟨⟨l, hl, hsame⟩, rfl, rfl⟩
      · cases h; exact .inr ⟨refused_conflict _, rfl⟩

def driver : (world id).Driver t where
  answer := answer t
  sound _ _ _ _ h := exec_answer h

def Server.start : Server :=
  { leases := fun _ => none, clock := 0, versions := fun _ => none, creator := fun _ => none,
    moments := [] }

theorem initial_start : Initial Server.start := ⟨fun _ => rfl, fun _ => rfl, fun _ => rfl, rfl⟩

def diskUUID : String := "0a000000-0000-4000-8000-00000000000f"

def otherUUID : String := "0a000000-0000-4000-8000-00000000000e"

/-- A fence under the key `disk`. -/
def diskFence : MutationFence :=
  { key := "disk", attempt := 7,
    intent := .diskCreate { operation := "create-disk", location := "bkk", name := "pvc",
                            sizeGiB := 1, billingAccountID := 1 } }

/-- What a program has returned without an error. -/
def result : Prog LeaseOp LeaseReply (Except Err Result) → Option Result
  | .ret (.ok r) => some r
  | _ => none

theorem ret_of_result {p : Prog LeaseOp LeaseReply (Except Err Result)} {r : Result}
    (h : result p = some r) : p = .ret (.ok r) := by
  match p with
  | .ret (.ok _) => cases h; rfl
  | .ret (.error _) | .stop | .call _ _ => cases h

/-- One `Create`, thread 0; the other calls are given. -/
def withCreate (others : Tid → Call) : Tid → Call
  | 0 => .create diskFence
  | t + 1 => others t

theorem uniqueAttempts_withCreate {others : Tid → Call} (h : ∀ t f, others t ≠ .create f) :
    UniqueAttempts (withCreate others) := by
  intro t u f g ht hu _
  match t, u with
  | 0, 0 => rfl
  | t + 1, _ => exact absurd ht (h t f)
  | 0, u + 1 => exact absurd hu (h u g)

/-- Thread `t` goes on with `p` for at most `n` requests. -/
def go (n : ℕ) (s : Server) (p : Prog LeaseOp LeaseReply (Except Err Result)) :
    Server × Prog LeaseOp LeaseReply (Except Err Result) := (driver t).drive n s p

def program : Prog LeaseOp LeaseReply (Except Err Result) :=
  ((call t).code id).run

/-- The Lease is there. -/
def createdRun : Server × Prog LeaseOp LeaseReply (Except Err Result) :=
  go 0 9 Server.start (program (withCreate fun _ => .delete diskFence) 0)

/-! #### A PUT that finds nothing -/

/-- A `SetReceipt`, and `Delete`s. -/
def receiptOrDelete : Tid → Call :=
  withCreate fun t => if t = 0 then .setReceipt diskFence diskUUID else .delete diskFence

/-- `SetReceipt` reads the Lease; -/
def readRun : Server × Prog LeaseOp LeaseReply (Except Err Result) :=
  go 1 1 createdRun.1 (program receiptOrDelete 1)

/-- a `Delete` runs to its end; -/
def deletedRun : Server × Prog LeaseOp LeaseReply (Except Err Result) :=
  go 2 9 readRun.1 (program receiptOrDelete 2)

/-- `SetReceipt` goes on with its PUT. -/
def putRun : Server × Prog LeaseOp LeaseReply (Except Err Result) := go 1 9 deletedRun.1 readRun.2

theorem putRun_eval : result putRun.2 = some (.fence none) := by decide +kernel

/-- The condition on the requests, checked for a thread that reads once. -/
def meetsUndisturbed : LeaseOp → Server → Bool
  | .put name _, s => (s.leases name).isSome
  | .get _, s => s.moments.all fun m => m.tid != t
  | _, _ => true

theorem undisturbed_of_meets {call : Tid → Call} {t : Tid} (op : LeaseOp) (s : Server)
    (h : meetsUndisturbed t op s = true) : Undisturbed call t op s := by
  cases op with
  | put => exact Option.isSome_iff_ne_none.1 h
  | get =>
    rintro _ _ _ - ⟨m, hm, rfl⟩
    have hne := List.all_eq_true.1 h m hm
    simp at hne
  | post | delete => trivial

def undisturbedDriver : (undisturbedWorld id call).Driver t :=
  (driver t).restrict (meetsUndisturbed t) undisturbed_of_meets

/-- `Create`, then `SetReceipt`, one after the other. -/
def quietCreateRun : Server × Prog LeaseOp LeaseReply (Except Err Result) :=
  (undisturbedDriver receiptOrDelete 0).drive 9 Server.start (program receiptOrDelete 0)

def quietReceiptRun : Server × Prog LeaseOp LeaseReply (Except Err Result) :=
  (undisturbedDriver receiptOrDelete 1).drive 9 quietCreateRun.1 (program receiptOrDelete 1)

theorem quietReceiptRun_eval : result quietReceiptRun.2 = some (receiptOrDelete 1).aim := by
  decide +kernel

/-- The fence with the other receipt. -/
def otherFence : MutationFence := { diskFence with receipt := otherUUID }

/-- Two `SetReceipt`s of the fence, and one that replaces the receipt of the second. -/
def receipts : Tid → Call :=
  withCreate fun t => if t = 0 then .setReceipt diskFence diskUUID
    else if t = 1 then .setReceipt diskFence otherUUID else .setReceipt otherFence diskUUID

/-- The first reads the Lease; -/
def firstRun : Server × Prog LeaseOp LeaseReply (Except Err Result) :=
  go 1 1 createdRun.1 (program receipts 1)

def secondRun : Server × Prog LeaseOp LeaseReply (Except Err Result) :=
  go 2 9 firstRun.1 (program receipts 2)

def thirdRun : Server × Prog LeaseOp LeaseReply (Except Err Result) :=
  go 3 9 secondRun.1 (program receipts 3)

/-- and goes on when the receipt has been written, and replaced by its own. -/
def adoptedRun : Server × Prog LeaseOp LeaseReply (Except Err Result) :=
  go 1 9 thirdRun.1 firstRun.2

/-- No moment of `t` is its method's step, as far as the key `disk` shows. -/
def noStep : Bool :=
  s.moments.all fun m => m.tid != t || ((call t).memory m.before).2 "disk" != m.after "disk" ||
    match ((call t).memory m.before).1 with
    | .ok _ => false
    | .error _ => true

theorem not_stepped_of_noStep {call : Tid → Call} {t : Tid} {s : Server}
    (h : noStep call t s = true) : ¬ Stepped call t s := by
  rintro ⟨m, hm, rfl, hstep⟩
  have hm := List.all_eq_true.1 h m hm
  simp [hstep] at hm

theorem adoptedRun_eval :
    (decide (result adoptedRun.2 = some (.fence (some { diskFence with receipt := diskUUID }))) &&
      noStep receipts 1 adoptedRun.1) = true := by decide +kernel

end InSpaceKube.Csi.LeaseStore
