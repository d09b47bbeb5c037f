/-
InSpaceKube/Csi/EnsureOnce.lean

`EnsureVolume` creates a volume at most once.

Any number of adapters run `EnsureVolume` for one location and name, over one
atomic fence store, with crashes anywhere, late commits and lost replies, and
nobody else touching disks of that name.  Then the provider never commits two
disks of that name (`ensureVolume_commits_at_most_one`).

The argument is about dispatches, not commits: at most one `CreateDisk` is
ever dispatched.  Its invariant (`Inv`) says of a dispatch that its fence is
still in the store, or a disk of the name is there to be seen.  A fence is
taken away only by someone who has seen such a disk, or by the invocation that
acquired it and has not dispatched; and an invocation dispatches only after it
has acquired the fence and then seen no disk.  Since nothing removes disks,
whoever acquires the fence after a dispatch sees the disk.
-/
import InSpaceKube.Csi.Outline
import Mathlib.Data.List.Perm.Subperm

namespace InSpaceKube.Csi.EnsureOnce

open Rules Prog
open Function (update update_of_ne)

variable (sha256 : String → String) (location name : String)

/-- The invocations of the statement: `EnsureVolume` of any adapter, for any
capacity, of the one name. -/
def Calls (_ : Tid) (p : Prog Op Reply (Except Err Volume)) : Prop :=
  ∃ fuel a spec, a.sha256 = sha256 ∧ spec.location = location ∧ spec.name = name ∧
    p = (ensureVolume fuel a spec).run

/-- A disk of the name is listed. -/
def Present (s : State) : Prop := ∃ d ∈ s.disks location, d.displayName = name

/-- The fence of attempt `n` is in the store. -/
def Holds (s : State) (n : ℕ) : Prop :=
  ∃ g, s.fences (diskCreateFenceKey sha256 location name) = some g ∧ g.attempt = n

/-- The invariant. -/
structure Inv (s : State) : Prop where
  deletes : s.deletes = []
  one : s.dispatches.length ≤ 1
  target : ∀ d ∈ s.dispatches, d.location = location ∧ d.request.displayName = name
  owner : ∀ d ∈ s.dispatches, d.fence = s.acquired d.tid
  covered : ∀ d ∈ s.dispatches, ∃ f, d.fence = some f ∧
    (Holds sha256 location name s f.attempt ∨ Present location name s)
  commit_lt : ∀ c ∈ s.commits, c.dispatch < s.dispatches.length
  commit_nodup : (s.commits.map Commit.dispatch).Nodup
  present : Present location name s → s.dispatches ≠ []
  fence_acquired : ∀ g, s.fences (diskCreateFenceKey sha256 location name) = some g →
    ∃ t f, s.acquired t = some f ∧ f.attempt = g.attempt
  acquired_drawn : ∀ t f, s.acquired t = some f → (t, f.attempt) ∈ s.drawn
  drawn_once : ∀ t u n, (t, n) ∈ s.drawn → (u, n) ∈ s.drawn → t = u

/-- What one step of thread `t` may do. -/
structure Guar (t : Tid) (s s' : State) : Prop where
  disks : s'.disks = s.disks
  acquired : ∀ u, u ≠ t → s'.acquired u = s.acquired u
  drawn : ∀ p ∈ s.drawn, p ∈ s'.drawn
  dispatch : s'.dispatches = s.dispatches ∨ ∃ d f, s'.dispatches = s.dispatches ++ [d] ∧
    d.tid = t ∧ s.acquired t = some f ∧ Holds sha256 location name s f.attempt
  store : ∀ n, Holds sha256 location name s n → Holds sha256 location name s' n ∨
    Present location name s ∨ ∃ f, s.acquired t = some f ∧ f.attempt = n

/-- Nothing has been done under the name of thread `t`. -/
def Fresh (t : Tid) (s : State) : Prop :=
  s.acquired t = none ∧ ∀ d ∈ s.dispatches, d.tid ≠ t

/-- Thread `t` has acquired `f` and has not dispatched. -/
def Held (t : Tid) (f : MutationFence) (s : State) : Prop :=
  s.acquired t = some f ∧ (∀ d ∈ s.dispatches, d.tid ≠ t) ∧
    (Holds sha256 location name s f.attempt ∨ Present location name s)

/-- Thread `t` may dispatch under `f`. -/
def Ready (t : Tid) (f : MutationFence) (s : State) : Prop :=
  s.acquired t = some f ∧ s.dispatches = [] ∧
    Holds sha256 location name s f.attempt ∧ ¬ Present location name s

/-- The rules of the argument. -/
def rules : Rules State := ⟨Inv sha256 location name, Guar sha256 location name, Fresh⟩

/-- The system of the statement. -/
abbrev world : Sem State Op Reply := sem fun n => n ≠ name

variable {sha256 location name}

/-! ### The environment -/

theorem present_env {s s' : State} (hi : Inv sha256 location name s)
    (h : Env (fun n => n ≠ name) s s') (hp : Present location name s) :
    Present location name s' := by
  cases h with
  | commitCreate i dispatch disk _ _ _ _ _ =>
    obtain ⟨d, hd, hn⟩ := hp
    refine ⟨d, ?_, hn⟩
    rcases eq_or_ne location dispatch.location with rfl | hne
    · simpa using Or.inr hd
    · simpa [update_of_ne hne] using hd
  | commitDelete _ _ hmem => simp [hi.deletes] at hmem
  | drift disks hd =>
    obtain ⟨d, hmem, hn⟩ := hp
    obtain ⟨d', hmem', -, hin⟩ :=
      (hd location d.identity).2 ⟨d, hmem, rfl, by simpa using hn⟩
    exact ⟨d', hmem', by simpa using hin⟩

/-- Without a dispatch the environment brings no disk of the name. -/
theorem not_present_env {s s' : State} (hi : Inv sha256 location name s)
    (h : Env (fun n => n ≠ name) s s') (hd : s.dispatches = [])
    (hp : ¬ Present location name s) : ¬ Present location name s' := by
  cases h with
  | commitCreate _ _ _ hidx => simp [hd] at hidx
  | commitDelete _ _ hmem => simp [hi.deletes] at hmem
  | drift disks hdrift =>
    rintro ⟨d, hmem, hn⟩
    obtain ⟨d', hmem', -, hin⟩ :=
      (hdrift location d.identity).1 ⟨d, hmem, rfl, by simpa using hn⟩
    exact hp ⟨d', hmem', by simpa using hin⟩

/-- The environment touches the inventory and the commits only. -/
theorem env_frame {outside : String → Prop} {s s' : State} (h : Env outside s s') :
    s'.fences = s.fences ∧ s'.acquired = s.acquired ∧ s'.dispatches = s.dispatches ∧
      s'.drawn = s.drawn ∧ s'.deletes = s.deletes := by
  cases h <;> exact ⟨rfl, rfl, rfl, rfl, rfl⟩

theorem inv_env {s s' : State} (hi : Inv sha256 location name s)
    (h : Env (fun n => n ≠ name) s s') : Inv sha256 location name s' := by
  obtain ⟨hf, ha, hd, hdr, hdel⟩ := env_frame h
  have hpres := present_env hi h
  have hcommit : (∀ c ∈ s'.commits, c.dispatch < s'.dispatches.length) ∧
      (s'.commits.map Commit.dispatch).Nodup := by
    cases h with
    | commitCreate i _ _ hidx hnew =>
      have hlt : i < s.dispatches.length := (List.getElem?_eq_some_iff.1 hidx).1
      refine ⟨List.forall_mem_cons.2 ⟨hlt, hi.commit_lt⟩, ?_⟩
      · refine List.nodup_cons.2 ⟨fun hmem => ?_, hi.commit_nodup⟩
        obtain ⟨c, hc, hci⟩ := List.mem_map.1 hmem
        exact hnew c hc hci
    | commitDelete => exact ⟨hi.commit_lt, hi.commit_nodup⟩
    | drift => exact ⟨hi.commit_lt, hi.commit_nodup⟩
  refine ⟨hdel ▸ hi.deletes, hd ▸ hi.one, hd ▸ hi.target, ?_, ?_, hcommit.1, hcommit.2, ?_, ?_, ?_,
    hdr ▸ hi.drawn_once⟩
  · rw [hd, ha]; exact hi.owner
  · rw [hd]
    intro d hmem
    obtain ⟨f, hfence, hcov⟩ := hi.covered d hmem
    refine ⟨f, hfence, hcov.imp ?_ hpres⟩
    rintro ⟨g, hg, hn⟩
    exact ⟨g, by rw [hf]; exact hg, hn⟩
  · intro hp hnil
    exact not_present_env hi h (hd ▸ hnil) (fun hp' => hi.present hp' (hd ▸ hnil)) hp
  · rw [hf, ha]; exact hi.fence_acquired
  · rw [ha, hdr]; exact hi.acquired_drawn

/-! ### Stable assertions -/

variable {t : Tid} {f : MutationFence}

theorem stable_present :
    (rules sha256 location name).Stable (world name) t (Present location name) := by
  rintro _ _ hp ⟨hi, -, henv | ⟨_, -, hg⟩⟩
  · exact present_env hi henv hp
  · simpa only [Present, hg.disks] using hp

theorem stable_fresh : (rules sha256 location name).Stable (world name) t (Fresh t) := by
  rintro _ _ ⟨ha, hd⟩ ⟨-, -, henv | ⟨_, hu, hg⟩⟩
  · obtain ⟨-, ha', hd', -⟩ := env_frame henv
    exact ⟨by rw [ha']; exact ha, by rw [hd']; exact hd⟩
  · refine ⟨by rw [hg.acquired t hu.symm]; exact ha, ?_⟩
    rcases hg.dispatch with h | ⟨d, -, h, htid, -⟩
    · rw [h]; exact hd
    · rw [h]
      exact List.forall_mem_append.2 ⟨hd, List.forall_mem_singleton.2 (htid ▸ hu)⟩

/-- Two threads never hold one attempt. -/
theorem Inv.acquired_inj {s : State} (hi : Inv sha256 location name s) {u : Tid}
    {g : MutationFence} (ht : s.acquired t = some f) (hu : s.acquired u = some g)
    (h : f.attempt = g.attempt) : t = u :=
  hi.drawn_once t u f.attempt (hi.acquired_drawn t f ht) (h ▸ hi.acquired_drawn u g hu)

theorem stable_held :
    (rules sha256 location name).Stable (world name) t (Held sha256 location name t f) := by
  rintro s s' ⟨ha, hd, hcov⟩ hstep
  obtain ⟨ha', hd'⟩ : s'.acquired t = some f ∧ ∀ d ∈ s'.dispatches, d.tid ≠ t := by
    rcases hstep with ⟨-, -, henv | ⟨u, hu, hg⟩⟩
    · obtain ⟨-, hacq, hdis, -⟩ := env_frame henv
      exact ⟨by rw [hacq]; exact ha, by rw [hdis]; exact hd⟩
    · refine ⟨by rw [hg.acquired t hu.symm]; exact ha, ?_⟩
      rcases hg.dispatch with h | ⟨d, -, h, htid, -⟩
      · rw [h]; exact hd
      · rw [h]
        exact List.forall_mem_append.2 ⟨hd, List.forall_mem_singleton.2 (htid ▸ hu)⟩
  refine ⟨ha', hd', ?_⟩
  rcases hcov with hheld | hp
  · rcases hstep with ⟨hi, -, henv | ⟨u, hu, hg⟩⟩
    · left
      obtain ⟨g, hg, hn⟩ := hheld
      exact ⟨g, by rw [(env_frame henv).1]; exact hg, hn⟩
    · rcases hg.store _ hheld with h | hp | ⟨g, hacq, hn⟩
      · exact .inl h
      · exact .inr (by simpa only [Present, hg.disks] using hp)
      · exact absurd (hi.acquired_inj ha hacq hn.symm) hu.symm
  · exact .inr (stable_present s s' hp hstep)

theorem stable_ready :
    (rules sha256 location name).Stable (world name) t (Ready sha256 location name t f) := by
  rintro _ _ ⟨ha, hd, hheld, hp⟩ hstep
  rcases hstep with ⟨hi, -, henv | ⟨u, hu, hg⟩⟩
  · obtain ⟨hf, hacq, hdis, -⟩ := env_frame henv
    refine ⟨by rw [hacq]; exact ha, by rw [hdis]; exact hd, ?_, not_present_env hi henv hd hp⟩
    obtain ⟨g, hg, hn⟩ := hheld
    exact ⟨g, by rw [hf]; exact hg, hn⟩
  · refine ⟨by rw [hg.acquired t hu.symm]; exact ha, ?_, ?_,
      by simpa only [Present, hg.disks] using hp⟩
    · rcases hg.dispatch with h | ⟨_, _, h, -, hacq, hheld'⟩
      · rw [h]; exact hd
      · -- the other thread would have to hold the fence this thread holds
        obtain ⟨g, hg₁, hn₁⟩ := hheld
        obtain ⟨g', hg₂, hn₂⟩ := hheld'
        obtain rfl : g = g' := by simpa [hg₁] using hg₂
        exact absurd (hi.acquired_inj ha hacq (hn₁.symm.trans hn₂)) hu.symm
    · rcases hg.store _ hheld with h | h | ⟨g, hacq, hn⟩
      · exact h
      · exact absurd h hp
      · exact absurd (hi.acquired_inj ha hacq hn.symm) hu.symm

/-! ### Requests -/

theorem inv_observe {s : State} (hi : Inv sha256 location name s) (o : List (String × String)) :
    Inv sha256 location name (s.observe o) :=
  ⟨hi.deletes, hi.one, hi.target, hi.owner, hi.covered, hi.commit_lt, hi.commit_nodup, hi.present,
    hi.fence_acquired, hi.acquired_drawn, hi.drawn_once⟩

theorem guar_observe (s : State) (o : List (String × String)) :
    Guar sha256 location name t s (s.observe o) :=
  ⟨rfl, fun _ _ => rfl, fun _ h => h, .inl rfl, fun _ h => .inl h⟩

section

variable {E : Err → State → Prop}

/-- The store changed, but not which attempt it holds. -/
theorem store_same {s : State} {fences : FenceStore} (hi : Inv sha256 location name s)
    (h : ∀ n, (∃ g, fences (diskCreateFenceKey sha256 location name) = some g ∧ g.attempt = n) ↔
      Holds sha256 location name s n) :
    Inv sha256 location name { s with fences := fences } ∧
      Guar sha256 location name t s { s with fences := fences } := by
  refine ⟨⟨hi.deletes, hi.one, hi.target, hi.owner, ?_, hi.commit_lt, hi.commit_nodup, hi.present,
    ?_, hi.acquired_drawn, hi.drawn_once⟩,
    ⟨rfl, fun _ _ => rfl, fun _ h => h, .inl rfl, fun n hn => .inl ((h n).2 hn)⟩⟩
  · intro d hd
    obtain ⟨f, hf, hcov⟩ := hi.covered d hd
    exact ⟨f, hf, hcov.imp (h _).2 id⟩
  · intro g hg
    obtain ⟨g', hg', hn⟩ := (h g.attempt).1 ⟨g, hg, rfl⟩
    obtain ⟨u, f, hu, hf⟩ := hi.fence_acquired g' hg'
    exact ⟨u, f, hu, hf.trans hn⟩

/-- Replacing a stored fence by one of the same attempt. -/
theorem update_same {s : State} {fence : MutationFence} (fence' : MutationFence)
    (hfence : s.fences fence.key = some fence) (hattempt : fence'.attempt = fence.attempt) (n : ℕ) :
    (∃ g, update s.fences fence.key (some fence')
        (diskCreateFenceKey sha256 location name) = some g ∧ g.attempt = n) ↔
      Holds sha256 location name s n := by
  rcases eq_or_ne (diskCreateFenceKey sha256 location name) fence.key with hk | hk
  · simp [Holds, hk, hfence, hattempt]
  · simp [Holds, update_of_ne hk]

theorem call_fenceSetReceipt (fence : MutationFence) (receipt : String) (hreceipt : receipt ≠ "") :
    (rules sha256 location name).TripleE (world name) t (Present location name)
      (call (.fenceSetReceipt fence receipt))
      (fun r s => Present location name s ∧ ∀ g, r = .ok g → g.receipt ≠ "") E := by
  refine .perform stable_present fun s r s' hi hp hexec => ?_
  obtain ⟨rfl, rfl⟩ := hexec
  rcases s.fences.setReceipt_cases fence receipt with ⟨e, h⟩ | ⟨hfence, h⟩
  · rw [h]
    exact ⟨hi, guar_observe s [], hp, nofun⟩
  · rw [h]
    obtain ⟨hi', hg'⟩ := store_same (t := t) hi
      (update_same { fence with receipt := receipt } hfence rfl)
    exact ⟨hi', hg', hp, fun g hg => by cases hg; exact hreceipt⟩

/-- The fence is taken away by someone who has seen a disk, or by its owner
before the dispatch. -/
theorem store_remove {s : State} {fence : MutationFence} (hi : Inv sha256 location name s)
    (hfence : s.fences fence.key = some fence)
    (h : Present location name s ∨ (s.acquired t = some fence ∧ ∀ d ∈ s.dispatches, d.tid ≠ t)) :
    Inv sha256 location name { s with fences := update s.fences fence.key none } ∧
      Guar sha256 location name t s
        { s with fences := update s.fences fence.key none } := by
  rcases eq_or_ne (diskCreateFenceKey sha256 location name) fence.key with hk | hk
  · -- whoever still needs the fence is covered by the disk
    have hcov : ∀ d ∈ s.dispatches, ∃ f, d.fence = some f ∧ Present location name s := by
      intro d hd
      obtain ⟨f, hf, hheld | hp⟩ := hi.covered d hd
      · refine ⟨f, hf, h.resolve_right ?_⟩
        rintro ⟨hacq, htid⟩
        obtain ⟨g, hg, hn⟩ := hheld
        obtain rfl : fence = g := by simpa [hk, hfence] using hg
        exact htid d hd (hi.acquired_inj (hi.owner d hd ▸ hf) hacq hn.symm)
      · exact ⟨f, hf, hp⟩
    refine ⟨⟨hi.deletes, hi.one, hi.target, hi.owner, ?_, hi.commit_lt, hi.commit_nodup,
      hi.present, ?_, hi.acquired_drawn, hi.drawn_once⟩,
      ⟨rfl, fun _ _ => rfl, fun _ h => h, .inl rfl, ?_⟩⟩
    · intro d hd
      obtain ⟨f, hf, hp⟩ := hcov d hd
      exact ⟨f, hf, .inr hp⟩
    · intro g hg
      simp [hk] at hg
    · rintro n ⟨g, hg, rfl⟩
      obtain rfl : fence = g := by simpa [hk, hfence] using hg
      exact .inr (h.imp id fun h => ⟨fence, h.1, rfl⟩)
  · refine store_same hi fun n => ?_
    simp [Holds, update_of_ne hk]

theorem call_fenceDelete {P : State → Prop}
    (hP : (rules sha256 location name).Stable (world name) t P) (fence : MutationFence)
    (h : ∀ s, P s → Present location name s ∨
      (s.acquired t = some fence ∧ ∀ d ∈ s.dispatches, d.tid ≠ t)) :
    (rules sha256 location name).TripleE (world name) t P
      (call (.fenceDelete fence)) (fun _ _ => True) E := by
  refine .perform hP fun s r s' hi hp hexec => ?_
  obtain ⟨-, rfl⟩ := hexec
  rcases s.fences.delete_cases fence with ⟨r, hr⟩ | ⟨hfence, hr⟩
  · rw [hr]
    exact ⟨hi, guar_observe s [], trivial⟩
  · rw [hr]
    obtain ⟨hi', hg'⟩ := store_remove hi hfence (h s hp)
    exact ⟨hi', hg', trivial⟩

/-- Thread `t` has drawn the attempt `n`. -/
def Drawn (t : Tid) (n : ℕ) (s : State) : Prop := Fresh t s ∧ (t, n) ∈ s.drawn

theorem stable_drawn {n : ℕ} : (rules sha256 location name).Stable (world name) t (Drawn t n) := by
  refine Stable.and stable_fresh ?_
  rintro _ _ hd ⟨-, -, henv | ⟨_, -, hg⟩⟩
  · rw [(env_frame henv).2.2.2.1]; exact hd
  · exact hg.drawn _ hd

theorem call_newAttempt :
    (rules sha256 location name).TripleE (world name) t (Fresh t) (call .newAttempt)
      (fun n => Drawn t n) E := by
  refine .perform stable_fresh fun s r s' hi hp hexec => ?_
  obtain ⟨hnew, rfl⟩ := hexec
  refine ⟨⟨hi.deletes, hi.one, hi.target, hi.owner, hi.covered, hi.commit_lt, hi.commit_nodup,
    hi.present, hi.fence_acquired, fun u g hu => .tail _ (hi.acquired_drawn u g hu), ?_⟩,
    ⟨rfl, fun _ _ => rfl, fun _ h => .tail _ h, .inl rfl, fun _ h => .inl h⟩, hp, .head _⟩
  exact fun u v n => drawn_once_cons hi.drawn_once hnew

theorem call_fenceCreate (fence : MutationFence)
    (hkey : fence.key = diskCreateFenceKey sha256 location name) :
    (rules sha256 location name).TripleE (world name) t (Drawn t fence.attempt)
      (call (.fenceCreate fence))
      (fun r s => r.2 = true → r.1 = fence ∧ Held sha256 location name t fence s) E := by
  refine .perform stable_drawn fun s r s' hi hp hexec => ?_
  obtain ⟨⟨hnone, hdis⟩, hdrawn⟩ := hp
  obtain ⟨rfl, rfl⟩ := hexec
  rcases s.fences.create_cases fence with ⟨_, -, h⟩ | ⟨habsent, h⟩
  · rw [h]
    exact ⟨hi, guar_observe s [], nofun⟩
  · rw [h]
    have hacq : ∀ u g, s.acquired u = some g →
        update s.acquired t (some fence) u = some g := by
      intro u g hu
      rcases eq_or_ne u t with rfl | hne
      · simp [hnone] at hu
      · simpa [update_of_ne hne] using hu
    have hstored : update s.fences fence.key (some fence)
        (diskCreateFenceKey sha256 location name) = some fence := by
      simp [← hkey]
    have hno : ∀ n, ¬ Holds sha256 location name s n := by
      rintro n ⟨g, hg, -⟩
      rw [← hkey, habsent] at hg
      cases hg
    refine ⟨⟨hi.deletes, hi.one, hi.target, ?_, ?_, hi.commit_lt, hi.commit_nodup, hi.present,
      ?_, ?_, hi.drawn_once⟩,
      ⟨rfl, fun u hu => by simp [update_of_ne hu], fun _ h => h, .inl rfl,
        fun n hn => absurd hn (hno n)⟩,
      fun _ => ⟨rfl, by simp, hdis, .inl ⟨fence, hstored, rfl⟩⟩⟩
    · intro d hd
      simpa [update_of_ne (hdis d hd)] using hi.owner d hd
    · intro d hd
      obtain ⟨g, hg, hheld | hp⟩ := hi.covered d hd
      · exact absurd hheld (hno _)
      · exact ⟨g, hg, .inr hp⟩
    · intro g hg
      obtain rfl : fence = g := by simpa [hstored] using hg
      exact ⟨t, fence, by simp, rfl⟩
    · intro u g hu
      rcases eq_or_ne u t with rfl | hne
      · obtain rfl : fence = g := by simpa using hu
        exact hdrawn
      · exact hi.acquired_drawn u g (by simpa [update_of_ne hne] using hu)

theorem call_createDisk {request : CreateDiskRequest} (hname : request.displayName = name) :
    (rules sha256 location name).TripleE (world name) t (Ready sha256 location name t f)
      (call (.createDisk location request))
      (fun r s => r = .error .mutationBlocked → Held sha256 location name t f s) E := by
  refine .perform stable_ready fun s r s' hi hp hexec => ?_
  obtain ⟨hacq, hdis, hheld, _⟩ := hp
  rcases hexec with ⟨-, rfl⟩ | ⟨hr, rfl⟩
  · exact ⟨hi, guar_observe s' [], fun _ => ⟨hacq, by simp [hdis], .inl hheld⟩⟩
  · have hnew : ∀ d ∈ s.dispatches ++ [⟨t, s.acquired t, location, request⟩],
        d = ⟨t, s.acquired t, location, request⟩ := by
      simp [hdis]
    refine ⟨⟨hi.deletes, by simp [hdis], ?_, ?_, ?_, ?_, hi.commit_nodup, by simp,
      hi.fence_acquired, hi.acquired_drawn, hi.drawn_once⟩,
      ⟨rfl, fun _ _ => rfl, fun _ h => h, .inr ⟨_, f, rfl, rfl, hacq, hheld⟩, fun _ h => .inl h⟩,
      fun h => absurd h hr⟩
    · intro d hd
      obtain rfl := hnew d hd
      exact ⟨rfl, hname⟩
    · intro d hd
      obtain rfl := hnew d hd
      rfl
    · intro d hd
      obtain rfl := hnew d hd
      exact ⟨f, hacq, .inl hheld⟩
    · intro c hc
      exact Nat.lt_of_lt_of_le (hi.commit_lt c hc) (by simp)

end

theorem Ready.held {s : State} (h : Ready sha256 location name t f s) :
    Held sha256 location name t f s :=
  ⟨h.1, by simp [h.2.1], .inl h.2.2.1⟩

/-- The post-fence listing decides: a disk is adopted, and without one this
thread is the only one that can dispatch. -/
theorem ready_of_held {s : State} (hi : Inv sha256 location name s)
    (h : Held sha256 location name t f s) (hp : ¬ Present location name s) :
    Ready sha256 location name t f s := by
  obtain ⟨hacq, htid, hcov⟩ := h
  have hheld := hcov.resolve_right hp
  refine ⟨hacq, ?_, hheld, hp⟩
  by_contra hne
  obtain ⟨d, hd⟩ := List.exists_mem_of_ne_nil _ hne
  obtain ⟨g, hg, hcov'⟩ := hi.covered d hd
  obtain ⟨g₁, hg₁, hn₁⟩ := hheld
  obtain ⟨g₂, hg₂, hn₂⟩ := hcov'.resolve_right hp
  obtain rfl : g₁ = g₂ := by simpa [hg₁] using hg₂
  exact htid d hd (hi.acquired_inj (hi.owner d hd ▸ hg) hacq (hn₂.symm.trans hn₁))

/-- One invocation: a disk that has been seen is there for good. -/
def outline (t : Tid) (intent : DiskCreateIntent) (hloc : intent.location = location)
    (hname : intent.name = name) :
    Outline (rules sha256 location name) (world name) t sha256 intent where
  exec_of _ _ _ _ h := h
  observe s o hi := ⟨inv_observe hi o, guar_observe s o⟩
  fresh := Fresh t
  drawn := Drawn t
  held := Held sha256 location name t
  ready := Ready sha256 location name t
  seen _ := Present location name
  local_fresh := ⟨stable_fresh, fun _ _ h => h⟩
  local_held _ := ⟨stable_held, fun _ _ h => h⟩
  local_ready _ := ⟨stable_ready, fun _ _ h => h⟩
  local_seen _ := ⟨stable_present, fun _ _ h => h⟩
  seen_listed _ d hd hn _ := ⟨d, hloc ▸ hd, hname ▸ hn⟩
  seen_read _ _ _ h _ := h
  ready_of_held _ _ hi h hp := ready_of_held hi h fun ⟨d, hd, hn⟩ => hp d (hloc ▸ hd) (hname ▸ hn)
  held_of_ready _ _ h := h.held
  newAttempt _ := call_newAttempt
  fenceCreate n f _ hf := by
    obtain rfl : f.attempt = n := by rw [hf]
    exact call_fenceCreate f (by rw [hf, hloc, hname])
  setReceipt f d _ _ hd := call_fenceSetReceipt f (toLower d.uuid) hd
  deleteStamped f _ _ _ := call_fenceDelete stable_present f fun _ h => .inl h
  deleteHeld f _ := call_fenceDelete stable_held f fun _ h => .inr ⟨h.1, h.2.1⟩
  createDisk f request _ hrequest := by
    subst hloc hname
    exact call_createDisk hrequest

/-! ### The system -/

theorem verified :
    (rules sha256 location name).Verified (world name) (Calls sha256 location name)
      (Initial fun n => n ≠ name) (fun _ _ _ => True) where
  init := by
    rintro s ⟨hf, hdisks, hdel, hdrawn, hdis, hcom, hacq⟩
    refine ⟨⟨hdel, by simp [hdis], by simp [hdis], by simp [hdis], by simp [hdis], by simp [hcom],
      by simp [hcom], ?_, by simp [hf], by simp [hacq], by simp [hdrawn]⟩,
      fun t => ⟨hacq t, by simp [hdis]⟩⟩
    rintro ⟨d, hd, hn⟩
    exact absurd hn (hdisks location d hd)
  env := fun _ _ hi henv => inv_env hi henv
  fresh := fun _ _ _ hf hstep => stable_fresh _ _ hf hstep
  stable := fun _ _ => stable_const
  start := by
    rintro t _ _ ⟨fuel, _, _, hsha, hloc, hname, rfl⟩ hi hfresh
    subst hsha
    exact (ensureVolume_triple (fun _ => outline t _ hloc hname) (fun _ _ h => h)).wp
      hi hfresh (fun _ _ _ => trivial) fun _ _ _ => trivial

/-- There are no more commits than dispatches: each is of one dispatch, once. -/
theorem Inv.commits_le {s : State} (hi : Inv sha256 location name s) :
    s.commits.length ≤ s.dispatches.length := by
  have hsub : s.commits.map Commit.dispatch ⊆ List.range s.dispatches.length := by
    intro i hmem
    obtain ⟨k, hk, rfl⟩ := List.mem_map.1 hmem
    exact List.mem_range.2 (hi.commit_lt k hk)
  simpa using (List.subperm_of_subset hi.commit_nodup hsub).length_le

/-- **At most one disk.**  In every state reached by any number of adapters
calling `EnsureVolume` for one location and name, the provider has committed
at most one disk of that name there. -/
theorem ensureVolume_commits_at_most_one
    {c : Config State Op Reply (Except Err Volume)}
    (h : Reachable (world name) (Calls sha256 location name) (Initial fun n => n ≠ name) c) :
    (c.shared.commits.filter fun k => k.location = location ∧ k.name = name).length ≤ 1 := by
  have hi : Inv sha256 location name c.shared := sound verified h
  exact Nat.le_trans (List.length_filter_le _ _) (Nat.le_trans hi.commits_le hi.one)

/-- A run in which the reply of the create is lost and the disk is committed. -/
theorem ensureVolume_commits_at_most_one_run :
    ∃ c : Config State Op Reply (Except Err Volume),
      Reachable (world "pvc") (Calls id "bkk" "pvc") (Initial fun n => n ≠ "pvc") c ∧
      c.shared.commits.length = 1 ∧
      (c.shared.commits.filter fun k => k.location = "bkk" ∧ k.name = "pvc").length ≤ 1 := by
  have h : Reachable (world "pvc") (Calls id "bkk" "pvc") (Initial fun n => n ≠ "pvc")
      ⟨State.empty, fun _ => .idle⟩ := .init (initial_empty _)
  have h := h.step (.spawn 0 _ rfl ⟨9, bkkAdapter, pvcSpec, rfl, rfl, rfl, rfl⟩)
  have h := h.serve 0 (.listDisks "bkk") (.ok []) rfl ⟨rfl, rfl⟩
  have h := h.serve 0 (.fenceGet (pvcFence 7).key) none rfl ⟨rfl, rfl⟩
  have h := h.serve 0 .newAttempt 7 rfl ⟨fun _ => List.not_mem_nil, rfl⟩
  have h := h.serve 0 (.fenceCreate (pvcFence 7)) (pvcFence 7, true) rfl ⟨rfl, rfl⟩
  have h := h.serve 0 (.listDisks "bkk") (.ok []) rfl ⟨rfl, rfl⟩
  have h := h.serve 0 .dispatchReserve none rfl rfl
  have h := h.serve 0 (.createDisk "bkk" pvcRequest) (.error .transport) rfl (.inr ⟨nofun, rfl⟩)
  have h := h.step (.env _ (.commitCreate _ 0 _ pvcDisk rfl
    (fun _ hk => absurd hk List.not_mem_nil) rfl (fun _ hk => absurd hk List.not_mem_nil)
    fun _ _ hd => absurd hd List.not_mem_nil))
  exact ⟨_, h, rfl, ensureVolume_commits_at_most_one h⟩

/-- **At most one create is sent**, by the invocation that acquired the fence; from
then on the fence is held or a disk of the name is there, and nothing is deleted. -/
theorem ensureVolume_dispatches_once
    {c : Config State Op Reply (Except Err Volume)}
    (h : Reachable (world name) (Calls sha256 location name) (Initial fun n => n ≠ name) c) :
    c.shared.dispatches.length ≤ 1 ∧ c.shared.deletes = [] ∧
      ∀ d ∈ c.shared.dispatches, ∃ f, c.shared.acquired d.tid = some f ∧
        (Holds sha256 location name c.shared f.attempt ∨ Present location name c.shared) := by
  have hi : Inv sha256 location name c.shared := sound verified h
  refine ⟨hi.one, hi.deletes, fun d hd => ?_⟩
  obtain ⟨f, hf, hcovered⟩ := hi.covered d hd
  exact ⟨f, (hi.owner d hd).symm.trans hf, hcovered⟩

/-- The create is sent and its reply lost. -/
theorem ensureVolume_dispatches_once_lost :
    ∃ c, Reachable (world "pvc") (Calls id "bkk" "pvc") (Initial fun n => n ≠ "pvc") c ∧
      c.shared.dispatches ≠ [] ∧ c.shared.dispatches.length ≤ 1 := by
  have h : Reachable (world "pvc") (Calls id "bkk" "pvc") (Initial fun n => n ≠ "pvc")
      ⟨State.empty, fun _ => .idle⟩ := .init (initial_empty _)
  have h := h.step (.spawn 0 _ rfl ⟨9, bkkAdapter, pvcSpec, rfl, rfl, rfl, rfl⟩)
  have h := h.serve 0 (.listDisks "bkk") (.ok []) rfl ⟨rfl, rfl⟩
  have h := h.serve 0 (.fenceGet (pvcFence 7).key) none rfl ⟨rfl, rfl⟩
  have h := h.serve 0 .newAttempt 7 rfl ⟨fun _ => List.not_mem_nil, rfl⟩
  have h := h.serve 0 (.fenceCreate (pvcFence 7)) (pvcFence 7, true) rfl ⟨rfl, rfl⟩
  have h := h.serve 0 (.listDisks "bkk") (.ok []) rfl ⟨rfl, rfl⟩
  have h := h.serve 0 .dispatchReserve none rfl rfl
  have h := h.serve 0 (.createDisk "bkk" pvcRequest) (.error .transport) rfl (.inr ⟨nofun, rfl⟩)
  exact ⟨_, h, List.cons_ne_nil _ _, (ensureVolume_dispatches_once h).1⟩

end InSpaceKube.Csi.EnsureOnce
