/-
InSpaceKube/Csi/FenceRemoval.lean

When is the fence of a dispatched `CreateDisk` taken away?

Adapters run `EnsureVolume` and `DeleteVolume` in any interleaving.  A create
fence should go only when the disk of its own dispatch has been seen.  The
found-disk branch of `EnsureVolume` lists the disks long before it reads,
stamps and deletes the fence that is current by then; so a disk that was
deleted in between can take a newer dispatch's fence with it.

Where every request that rests on an earlier read is served while what was
read is still so (`Current`), the fences do go only then.  The invariant says
of every dispatch (`Covered`): its fence stands in the store or its disk has
been observed, and as long as the fence stands, a disk of the name is the
dispatch's own.
-/
import InSpaceKube.Csi.DeleteContract
import InSpaceKube.Csi.Outline

namespace InSpaceKube.Csi.FenceRemoval

open Rules Prog DeleteContract
open Function (update update_of_ne update_self)

/-! ### The statement -/

/-- A call of the interface. -/
inductive Call
  | ensureVolume (spec : VolumeSpec)
  | deleteVolume (location volumeID : String)

/-- Its code. -/
def Call.code (fuel : ℕ) (a : Adapter) : Call → Code (Option Volume)
  | .ensureVolume spec => do
    let volume ← Csi.ensureVolume fuel a spec
    pure (some volume)
  | .deleteVolume location volumeID => do
    Csi.deleteVolume fuel a location volumeID
    pure none

/-- The invocations of the statement: any call of any adapter. -/
def Calls (sha256 : String → String) (_ : Tid)
    (p : Prog Op Reply (Except Err (Option Volume))) : Prop :=
  ∃ fuel a, ∃ call : Call, a.sha256 = sha256 ∧ p = (call.code fuel a).run

/-- There are no outside actors. -/
abbrev world : Sem State Op Reply := sem fun _ => False

/-- The fence `f` is still in the store, whatever has been stamped on it. -/
def Stored (f : MutationFence) (s : State) : Prop :=
  ∃ g, s.fences f.key = some g ∧ g.attempt = f.attempt

/-- A read has shown the disk that was committed by the dispatch `i`. -/
def Observed (i : ℕ) (s : State) : Prop :=
  ∃ k ∈ s.commits, k.dispatch = i ∧ (k.location, toLower k.uuid) ∈ s.observed

/-- From `s` to `s'` no fence of a dispatched create has been removed, but where
the disk of that dispatch had been observed. -/
def RemovalJustified (s s' : State) : Prop :=
  ∀ i d f, s.dispatches[i]? = some d → d.fence = some f → Stored f s → ¬ Stored f s' → Observed i s

/-- A request that rests on an earlier read is served while what was read still
holds: a receipt is stamped on a create fence while the disk it names is in the
inventory under the fence's name, and a create is dispatched while the fence
this invocation acquired stands in the store as it was acquired. -/
def Current (t : Tid) (op : Op) (s : State) : Prop :=
  match op with
  | .fenceSetReceipt fence receipt =>
    ∃ d ∈ s.disks (decodeDiskCreateIntent fence).location,
      d.displayName = (decodeDiskCreateIntent fence).name ∧ toLower d.uuid = receipt
  | .createDisk _ _ => ∃ f, s.acquired t = some f ∧ s.fences f.key = some f
  | _ => True

/-! ### The invariant -/

section

variable (sha256 : String → String)

/-- What holds of a dispatch and the fence it was made under. -/
structure Covered (s : State) (i : ℕ) (d : Dispatch) (f : MutationFence) : Prop where
  fence : d.fence = some f
  drawn : (d.tid, f.attempt) ∈ s.drawn
  key : f.key = diskCreateFenceKey sha256 d.location d.request.displayName
  intent : ∃ intent, f.intent = .diskCreate intent ∧ intent.location = d.location ∧
    intent.name = d.request.displayName
  held : Stored f s ∨ Observed i s
  same : ∀ g, s.fences f.key = some g → g.attempt = f.attempt → g.intent = f.intent
  stamped : ∀ g, s.fences f.key = some g → g.attempt = f.attempt → g.receipt ≠ "" → Observed i s
  -- as long as the fence stands, a disk of the name is the dispatch's own
  own : Stored f s → ∀ e ∈ s.disks d.location, e.displayName = d.request.displayName →
    ∃ k ∈ s.commits, k.dispatch = i ∧ k.location = d.location ∧ toLower k.uuid = toLower e.uuid

/-- The invariant. -/
structure Inv (s : State) : Prop where
  keyed : ∀ key g, s.fences key = some g → g.key = key
  drawn_once : ∀ t u n, (t, n) ∈ s.drawn → (u, n) ∈ s.drawn → t = u
  once : ∀ (i j : ℕ) (d e : Dispatch), s.dispatches[i]? = some d → s.dispatches[j]? = some e → d.tid = e.tid → i = j
  covered : ∀ i d, s.dispatches[i]? = some d → ∃ f, Covered sha256 s i d f

/-- What one step of thread `t` may do. -/
structure Guar (t : Tid) (s s' : State) : Prop where
  disks : s'.disks = s.disks
  commits : s'.commits = s.commits
  acquired : ∀ u, u ≠ t → s'.acquired u = s.acquired u
  drawn : ∀ p ∈ s.drawn, p ∈ s'.drawn
  observed : ∀ p ∈ s.observed, p ∈ s'.observed
  dispatch : s'.dispatches = s.dispatches ∨ ∃ d, s'.dispatches = s.dispatches ++ [d] ∧ d.tid = t
  store : ∀ f, ¬ AttachmentKey f.key → Stored f s' → Stored f s ∨ (t, f.attempt) ∈ s.drawn

/-- Thread `t` has not dispatched. -/
def Fresh (t : Tid) (s : State) : Prop := ∀ d ∈ s.dispatches, d.tid ≠ t

def Drawn (t : Tid) (n : ℕ) (s : State) : Prop := Fresh t s ∧ (t, n) ∈ s.drawn

/-- Thread `t` has acquired `f` for `intent` and has not dispatched. -/
structure Held (intent : DiskCreateIntent) (t : Tid) (f : MutationFence) (s : State) : Prop where
  fresh : Fresh t s
  acquired : s.acquired t = some f
  drawn : (t, f.attempt) ∈ s.drawn
  fence : f = { key := diskCreateFenceKey sha256 intent.location intent.name,
                intent := .diskCreate intent, attempt := f.attempt }

/-- Thread `t` may dispatch under `f`, if its fence still stands. -/
def Ready (intent : DiskCreateIntent) (t : Tid) (f : MutationFence) (s : State) : Prop :=
  Held sha256 intent t f s ∧
    (Stored f s → ∀ d ∈ s.disks intent.location, d.displayName ≠ intent.name)

/-- The rules of the argument. -/
def rules : Rules State := ⟨Inv sha256, Guar, Fresh⟩

/-- The system of the statement, where requests rest on what is still so. -/
abbrev currentWorld : Sem State Op Reply := world.restrict Current

end

variable {sha256 : String → String} {s s' : State} {t : Tid} {f : MutationFence}

theorem Observed.mono {i : ℕ} (h : Observed i s) (hc : ∀ k ∈ s.commits, k ∈ s'.commits)
    (ho : ∀ p ∈ s.observed, p ∈ s'.observed) : Observed i s' := by
  obtain ⟨k, hk, hi, hobs⟩ := h
  exact ⟨k, hc k hk, hi, ho _ hobs⟩

/-- Two dispatches under one attempt are one dispatch. -/
theorem Inv.eq_of_attempt (hi : Inv sha256 s) {i j : ℕ} {d e : Dispatch} {f g : MutationFence}
    (hd : s.dispatches[i]? = some d) (he : s.dispatches[j]? = some e)
    (hf : Covered sha256 s i d f) (hg : Covered sha256 s j e g) (h : f.attempt = g.attempt) :
    i = j :=
  hi.once i j d e hd he (hi.drawn_once _ _ _ hf.drawn (h ▸ hg.drawn))

/-- A dispatch that is not committed has its fence in the store. -/
theorem Covered.stored {i : ℕ} {d : Dispatch} (h : Covered sha256 s i d f)
    (hnew : ∀ k ∈ s.commits, k.dispatch ≠ i) : Stored f s :=
  h.held.resolve_right fun ⟨k, hk, hki, _⟩ => hnew k hk hki

/-- Fences that stand under one key are one attempt. -/
theorem Stored.attempt_eq {g : MutationFence} (hf : Stored f s) (hg : Stored g s)
    (h : f.key = g.key) : f.attempt = g.attempt := by
  obtain ⟨a, ha, hfa⟩ := hf
  obtain ⟨b, hb, hgb⟩ := hg
  obtain rfl : a = b := by simpa [h, hb] using ha.symm
  exact hfa.symm.trans hgb

/-- What a dispatch is covered by, when the store and what it shares with the
dispatch stay as they are. -/
theorem Covered.of_frame {i : ℕ} {d : Dispatch} (h : Covered sha256 s i d f)
    (hstore : s'.fences f.key = s.fences f.key) (hdisks : s'.disks = s.disks)
    (hcommits : s'.commits = s.commits) (hdrawn : ∀ p ∈ s.drawn, p ∈ s'.drawn)
    (hobs : ∀ p ∈ s.observed, p ∈ s'.observed) : Covered sha256 s' i d f := by
  have hobserved : Observed i s → Observed i s' := fun ho => ho.mono (by simp [hcommits]) hobs
  have hstored : Stored f s' ↔ Stored f s := by simp [Stored, hstore]
  refine ⟨h.fence, hdrawn _ h.drawn, h.key, h.intent, ?_, ?_, ?_, ?_⟩
  · exact h.held.imp hstored.2 hobserved
  · rw [hstore]; exact h.same
  · rw [hstore]
    intro g hg ha hr
    exact hobserved (h.stamped g hg ha hr)
  · rw [hstored, hdisks, hcommits]; exact h.own

/-! ### The environment -/

/-- The environment touches the inventory and the commits only, and forgets no
commit. -/
theorem env_frame {outside : String → Prop} (h : Env outside s s') :
    s'.fences = s.fences ∧ s'.acquired = s.acquired ∧ s'.dispatches = s.dispatches ∧
      s'.drawn = s.drawn ∧ s'.observed = s.observed ∧ ∀ k ∈ s.commits, k ∈ s'.commits := by
  cases h with
  | commitCreate => exact ⟨rfl, rfl, rfl, rfl, rfl, fun _ hk => .tail _ hk⟩
  | commitDelete => exact ⟨rfl, rfl, rfl, rfl, rfl, fun _ hk => hk⟩
  | drift => exact ⟨rfl, rfl, rfl, rfl, rfl, fun _ hk => hk⟩

/-- A disk that appears is the commit of a dispatch that was not committed; any
other was there before, under the same UUID and name. -/
theorem env_disks (h : Env (fun _ => False) s s') {location : String} {e : Disk}
    (he : e ∈ s'.disks location) :
    (∃ e' ∈ s.disks location, e'.displayName = e.displayName ∧ toLower e'.uuid = toLower e.uuid) ∨
    (∃ i d, s.dispatches[i]? = some d ∧ (∀ k ∈ s.commits, k.dispatch ≠ i) ∧
      d.location = location ∧ d.request.displayName = e.displayName ∧
      ⟨i, location, e.displayName, e.uuid⟩ ∈ s'.commits) := by
  cases h with
  | commitCreate i dispatch _ hidx hnew hname =>
    rcases eq_or_ne location dispatch.location with rfl | hne
    · simp only [update_self, List.mem_cons] at he
      rcases he with rfl | he
      · exact .inr ⟨i, dispatch, hidx, hnew, rfl, hname.symm, .head _⟩
      · exact .inl ⟨e, he, rfl, rfl⟩
    · simp only [update_of_ne hne] at he
      exact .inl ⟨e, he, rfl, rfl⟩
  | commitDelete loc =>
    rcases eq_or_ne location loc with rfl | hne
    · simp only [update_self] at he
      exact .inl ⟨e, (List.mem_filter.1 he).1, rfl, rfl⟩
    · simp only [update_of_ne hne] at he
      exact .inl ⟨e, he, rfl, rfl⟩
  | drift _ hdrift =>
    obtain ⟨e', he', hid, -⟩ := (hdrift location e.identity).1 ⟨e, he, rfl, id⟩
    simp only [Disk.identity, Prod.mk.injEq] at hid
    exact .inl ⟨e', he', hid.2, hid.1⟩

theorem inv_env (hi : Inv sha256 s) (h : Env (fun _ => False) s s') : Inv sha256 s' := by
  obtain ⟨hf, -, hd, hdr, ho, hc⟩ := env_frame h
  refine ⟨hf ▸ hi.keyed, hdr ▸ hi.drawn_once, hd ▸ hi.once, ?_⟩
  rw [hd]
  intro i d hidx
  obtain ⟨f, hcov⟩ := hi.covered i d hidx
  have hobserved : Observed i s → Observed i s' := fun hobs => hobs.mono hc (by simp [ho])
  have hstored : Stored f s' ↔ Stored f s := by simp [Stored, hf]
  refine ⟨f, hcov.fence, hdr ▸ hcov.drawn, hcov.key, hcov.intent,
    hcov.held.imp hstored.2 hobserved, hf ▸ hcov.same, ?_, ?_⟩
  · rw [hf]
    intro g hg ha hr
    exact hobserved (hcov.stamped g hg ha hr)
  · rw [hstored]
    intro hst e he hname
    rcases env_disks h he with ⟨e', he', hn, hu⟩ | ⟨j, d', hj, hnew, hloc, hn, hk⟩
    · obtain ⟨k, hk, hki, hkl, hku⟩ := hcov.own hst e' he' (hn.trans hname)
      exact ⟨k, hc k hk, hki, hkl, hku.trans hu⟩
    · -- the new disk is of a dispatch whose fence stands under the same key
      obtain ⟨f', hcov'⟩ := hi.covered j d' hj
      have hkey : f.key = f'.key := by rw [hcov.key, hcov'.key, hloc, hn, hname]
      obtain rfl := hi.eq_of_attempt hidx hj hcov hcov' (hst.attempt_eq (hcov'.stored hnew) hkey)
      exact ⟨_, hk, rfl, rfl, rfl⟩

/-! ### Stable assertions -/

theorem fresh_step (hf : Fresh t s) (hstep : (rules sha256).Interfere currentWorld t s s') :
    Fresh t s' := by
  rcases hstep with ⟨-, -, henv | ⟨u, hu, hg⟩⟩
  · simpa only [Fresh, (env_frame henv).2.2.1] using hf
  · rcases hg.dispatch with h | ⟨d, h, htid⟩
    · simpa only [Fresh, h] using hf
    · rw [Fresh, h]
      exact List.forall_mem_append.2 ⟨hf, List.forall_mem_singleton.2 (htid ▸ hu)⟩

theorem drawn_step {p : Tid × ℕ} (hp : p ∈ s.drawn)
    (hstep : (rules sha256).Interfere currentWorld t s s') : p ∈ s'.drawn := by
  rcases hstep with ⟨-, -, henv | ⟨u, -, hg⟩⟩
  · rw [(env_frame henv).2.2.2.1]; exact hp
  · exact hg.drawn p hp

theorem stable_observed (p : String × String) :
    (rules sha256).Stable currentWorld t fun s => p ∈ s.observed := by
  rintro _ _ hp ⟨-, -, henv | ⟨_, -, hg⟩⟩
  · rw [(env_frame henv).2.2.2.2.1]; exact hp
  · exact hg.observed p hp

theorem stable_fresh : (rules sha256).Stable currentWorld t (Fresh t) :=
  fun _ _ h hstep => fresh_step h hstep

theorem stable_drawn {n : ℕ} : (rules sha256).Stable currentWorld t (Drawn t n) :=
  fun _ _ h hstep => ⟨fresh_step h.1 hstep, drawn_step h.2 hstep⟩

variable {intent : DiskCreateIntent}

theorem stable_held : (rules sha256).Stable currentWorld t (Held sha256 intent t f) := by
  intro _ _ h hstep
  refine ⟨fresh_step h.fresh hstep, ?_, drawn_step h.drawn hstep, h.fence⟩
  rcases hstep with ⟨-, -, henv | ⟨u, hu, hg⟩⟩
  · rw [(env_frame henv).2.1]; exact h.acquired
  · rw [hg.acquired t hu.symm]; exact h.acquired

theorem Held.key (h : Held sha256 intent t f s) :
    f.key = diskCreateFenceKey sha256 intent.location intent.name := by rw [h.fence]

theorem not_attachmentKey {f : MutationFence} {location name : String}
    (h : f.key = diskCreateFenceKey sha256 location name) : ¬ AttachmentKey f.key := by
  rintro ⟨_, _, h'⟩
  exact diskCreateFenceKey_ne_diskAttachmentFenceKey _ _ _ _ _ (h.symm.trans h')

/-- Nobody else dispatches under a fence that is held. -/
theorem Held.attempt_ne (hi : Inv sha256 s) (h : Held sha256 intent t f s) {i : ℕ} {d : Dispatch}
    {g : MutationFence} (hd : s.dispatches[i]? = some d) (hg : Covered sha256 s i d g) :
    g.attempt ≠ f.attempt := by
  intro ha
  exact h.fresh d (List.mem_of_getElem? hd) (hi.drawn_once _ _ _ hg.drawn (ha ▸ h.drawn))

theorem stable_ready : (rules sha256).Stable currentWorld t (Ready sha256 intent t f) := by
  rintro s s' ⟨hheld, hnone⟩ hstep
  refine ⟨stable_held s s' hheld hstep, ?_⟩
  rcases hstep with ⟨hi, -, henv | ⟨u, hu, hg⟩⟩
  · have hstored : Stored f s' ↔ Stored f s := by simp [Stored, (env_frame henv).1]
    rw [hstored]
    intro hst e he hname
    rcases env_disks henv he with ⟨e', he', hn, -⟩ | ⟨j, d, hj, hnew, hloc, hn, -⟩
    · exact hnone hst e' he' (hn.trans hname)
    · obtain ⟨f', hcov⟩ := hi.covered j d hj
      have hkey : f'.key = f.key := by rw [hcov.key, hheld.key, hloc, hn, hname]
      exact hheld.attempt_ne hi hj hcov ((hcov.stored hnew).attempt_eq hst hkey)
  · rw [hg.disks]
    intro hst
    rcases hg.store f (not_attachmentKey hheld.key) hst with h | h
    · exact hnone h
    · exact absurd (hi.drawn_once _ _ _ h hheld.drawn) hu

/-! ### Changes of the store -/

/-- The store with another entry under one key. -/
abbrev put (s : State) (key : String) (v : Option MutationFence) : State :=
  { s with fences := update s.fences key v }

theorem Guar.of_store {fences : FenceStore}
    (h : ∀ f, ¬ AttachmentKey f.key → Stored f { s with fences := fences } →
      Stored f s ∨ (t, f.attempt) ∈ s.drawn) : Guar t s { s with fences := fences } :=
  ⟨rfl, rfl, fun _ _ => rfl, fun _ h => h, fun _ h => h, .inl rfl, h⟩

theorem guar_refl : Guar t s s :=
  ⟨rfl, rfl, fun _ _ => rfl, fun _ h => h, fun _ h => h, .inl rfl, fun _ _ h => .inl h⟩

/-- The store under one key has changed, and with it what is left to show. -/
theorem Inv.of_update (hi : Inv sha256 s) {key : String} {v : Option MutationFence}
    (hv : ∀ g, v = some g → g.key = key) (hs' : s'.fences = update s.fences key v)
    (hdisks : s'.disks = s.disks) (hcommits : s'.commits = s.commits)
    (hdrawn : s'.drawn = s.drawn) (hobs : s'.observed = s.observed)
    (hdispatches : s'.dispatches = s.dispatches)
    (h : ∀ i d g, s.dispatches[i]? = some d → Covered sha256 s i d g → g.key = key →
      Covered sha256 s' i d g) : Inv sha256 s' := by
  refine ⟨fun key' g hg => ?_, hdrawn ▸ hi.drawn_once, hdispatches ▸ hi.once, ?_⟩
  · rw [hs'] at hg
    rcases eq_or_ne key' key with rfl | hne
    · exact hv g (by simpa using hg)
    · exact hi.keyed key' g (by simpa [update_of_ne hne] using hg)
  · rw [hdispatches]
    intro i d hidx
    obtain ⟨g, hcov⟩ := hi.covered i d hidx
    refine ⟨g, ?_⟩
    rcases eq_or_ne g.key key with hk | hne
    · exact h i d g hidx hcov hk
    · exact hcov.of_frame (by rw [hs', update_of_ne hne]) hdisks hcommits
        (by simp [hdrawn]) (by simp [hobs])

/-- The fence `f` may be stamped or removed: its dispatch has been observed, if
there was one. -/
def Settled (sha256 : String → String) (f : MutationFence) (s : State) : Prop :=
  ∀ i d g, s.dispatches[i]? = some d → Covered sha256 s i d g → g.key = f.key →
    g.attempt = f.attempt → Observed i s

theorem inv_remove (hi : Inv sha256 s) (hf : s.fences f.key = some f) (h : Settled sha256 f s) :
    Inv sha256 (put s f.key none) := by
  refine hi.of_update (fun _ hg => by cases hg) rfl rfl rfl rfl rfl rfl fun i d g hidx hcov hk => ?_
  have hobserved : Observed i s := hcov.held.elim
    (fun ⟨a, ha, hattempt⟩ => h i d g hidx hcov hk (by
      obtain rfl : f = a := by simpa [hk, hf] using ha
      exact hattempt.symm)) id
  have hnone : ∀ a, (put s f.key none).fences g.key ≠ some a := by simp [hk]
  refine ⟨hcov.fence, hcov.drawn, hcov.key, hcov.intent, .inr hobserved,
    fun a ha => absurd ha (hnone a), fun _ _ _ _ => hobserved, ?_⟩
  rintro ⟨a, ha, -⟩
  exact absurd ha (hnone a)

theorem guar_remove (key : String) : Guar t s (put s key none) := by
  refine Guar.of_store fun f _ hst => .inl ?_
  obtain ⟨g, hg, ha⟩ := hst
  rcases eq_or_ne f.key key with hk | hne
  · simp [hk] at hg
  · exact ⟨g, by simpa [update_of_ne hne] using hg, ha⟩

/-- Stamping keeps the attempt that stands under a key. -/
theorem stored_stamp (hf : s.fences f.key = some f) (receipt : String) (g : MutationFence) :
    Stored g (put s f.key (some { f with receipt := receipt })) ↔ Stored g s := by
  rcases eq_or_ne g.key f.key with hk | hne
  · simp [Stored, hk, hf]
  · simp [Stored, update_of_ne hne]

theorem inv_stamp (hi : Inv sha256 s) (hf : s.fences f.key = some f) (receipt : String)
    (h : Settled sha256 f s) :
    Inv sha256 (put s f.key (some { f with receipt := receipt })) := by
  refine hi.of_update (fun g hg => by cases hg; rfl) rfl rfl rfl rfl rfl rfl
    fun i d g hidx hcov hk => ?_
  have hsame : ∀ a, (put s f.key (some { f with receipt := receipt })).fences g.key = some a →
      a = { f with receipt := receipt } := by
    intro a ha
    simpa [hk] using ha.symm
  refine ⟨hcov.fence, hcov.drawn, hcov.key, hcov.intent,
    hcov.held.imp (stored_stamp hf receipt g).2 id, ?_, ?_, ?_⟩
  · intro a ha hattempt
    obtain rfl := hsame a ha
    exact hcov.same f (hk ▸ hf) hattempt
  · intro a ha hattempt _
    obtain rfl := hsame a ha
    exact h i d g hidx hcov hk hattempt.symm
  · exact fun hst => hcov.own ((stored_stamp hf receipt g).1 hst)

theorem guar_stamp (hf : s.fences f.key = some f) (receipt : String) :
    Guar t s (put s f.key (some { f with receipt := receipt })) :=
  Guar.of_store fun g _ hst => .inl ((stored_stamp hf receipt g).1 hst)

/-- A thread stores a fence of an attempt it has drawn, and not dispatched. -/
theorem inv_create (hi : Inv sha256 s) (habsent : s.fences f.key = none) (hfresh : Fresh t s)
    (hdrawn : (t, f.attempt) ∈ s.drawn) (acquired : Tid → Option MutationFence) :
    Inv sha256 { s with fences := update s.fences f.key (some f)
                        acquired := acquired } := by
  refine hi.of_update (fun g hg => by cases hg; rfl) rfl rfl rfl rfl rfl rfl
    fun i d g hidx hcov hk => ?_
  have hne : f.attempt ≠ g.attempt := fun ha =>
    hfresh d (List.mem_of_getElem? hidx) (hi.drawn_once _ _ _ hcov.drawn (ha ▸ hdrawn))
  have hobserved : Observed i s := hcov.held.resolve_left fun ⟨a, ha, _⟩ => by
    rw [hk, habsent] at ha
    cases ha
  have hother : ∀ a, update s.fences f.key (some f) g.key = some a →
      a.attempt = g.attempt → False := by
    intro a ha hattempt
    obtain rfl : f = a := by simpa [hk] using ha
    exact hne hattempt
  refine ⟨hcov.fence, hcov.drawn, hcov.key, hcov.intent, .inr hobserved,
    fun a ha h => (hother a ha h).elim, fun _ _ _ _ => hobserved, ?_⟩
  rintro ⟨a, ha, hattempt⟩
  exact (hother a ha hattempt).elim

/-- The store under an attachment key is nobody's concern here. -/
theorem inv_attachment (hi : Inv sha256 s) {key : String} (hkey : AttachmentKey key)
    {v : Option MutationFence} (hv : ∀ g, v = some g → g.key = key)
    (acquired : Tid → Option MutationFence) :
    Inv sha256 { s with fences := update s.fences key v, acquired := acquired } :=
  hi.of_update hv rfl rfl rfl rfl rfl rfl fun _ _ _ _ hcov hk =>
    absurd (hk ▸ hkey) (not_attachmentKey hcov.key)

theorem guar_attachment {key : String} (hkey : AttachmentKey key) (v : Option MutationFence) :
    Guar t s (put s key v) := by
  refine Guar.of_store fun f hf hst => .inl ?_
  have hne : f.key ≠ key := fun h => hf (h ▸ hkey)
  simpa [Stored, update_of_ne hne] using hst

/-! ### Requests of both calls -/

theorem inv_observe (hi : Inv sha256 s) (o : List (String × String)) :
    Inv sha256 (s.observe o) ∧ Guar t s (s.observe o) := by
  refine ⟨⟨hi.keyed, hi.drawn_once, hi.once, fun i d hidx => ?_⟩,
    ⟨rfl, rfl, fun _ _ => rfl, fun _ h => h, fun _ h => List.mem_append_right _ h, .inl rfl,
      fun _ _ h => .inl h⟩⟩
  obtain ⟨f, hcov⟩ := hi.covered i d hidx
  exact ⟨f, hcov.of_frame rfl rfl rfl (fun _ h => h) fun _ h => List.mem_append_right _ h⟩

theorem inv_draw (hi : Inv sha256 s) {n : ℕ} (hnew : ∀ u, (u, n) ∉ s.drawn) :
    Inv sha256 { s with drawn := (t, n) :: s.drawn } ∧
      Guar t s { s with drawn := (t, n) :: s.drawn } := by
  refine ⟨⟨hi.keyed, ?_, hi.once, fun i d hidx => ?_⟩,
    ⟨rfl, rfl, fun _ _ => rfl, fun _ h => .tail _ h, fun _ h => h, .inl rfl, fun _ _ h => .inl h⟩⟩
  · exact fun u v m => drawn_once_cons hi.drawn_once hnew
  · obtain ⟨f, hcov⟩ := hi.covered i d hidx
    exact ⟨f, hcov.of_frame rfl rfl rfl (fun _ h => .tail _ h) fun _ h => h⟩

/-- A fence with a receipt is settled. -/
theorem settled_of_receipt (hf : s.fences f.key = some f) (hr : f.receipt ≠ "") :
    Settled sha256 f s :=
  fun _ _ _ _ hcov hk ha => hcov.stamped f (hk ▸ hf) ha.symm hr

theorem exec_fenceDelete (hi : Inv sha256 s)
    (hsettled : s.fences f.key = some f → Settled sha256 f s) {r : Except Err Unit}
    (hexec : exec t (.fenceDelete f) s r s') : Inv sha256 s' ∧ Guar t s s' := by
  obtain ⟨-, rfl⟩ := hexec
  rcases s.fences.delete_cases f with ⟨r, hr⟩ | ⟨hf, hr⟩
  · rw [hr]
    exact ⟨hi, guar_refl⟩
  · rw [hr]
    exact ⟨inv_remove hi hf (hsettled hf), guar_remove f.key⟩

/-- `DeleteVolume` does nothing to a dispatched create's fence but remove it
when it is settled. -/
theorem serves_delete : (rules sha256).Serves currentWorld t (fun _ => True) deleteContract where
  stable := stable_const
  step := by
    rintro op s r s' hok (hi : Inv sha256 s) - ⟨-, hexec⟩
    have hquiet : (∃ o, s' = s.observe o) → Inv sha256 s' ∧ Guar t s s' := by
      rintro ⟨o, rfl⟩
      exact inv_observe hi o
    have hskip : s' = s → Inv sha256 s' ∧ Guar t s s' ∧ True ∧ True := by
      rintro rfl
      exact ⟨hi, guar_refl, trivial, trivial⟩
    cases op with
    | listDisks =>
      obtain ⟨hi', hg⟩ := hquiet (by
        cases r with
        | ok => exact ⟨_, hexec.2⟩
        | error => exact ⟨[], hexec⟩)
      exact ⟨hi', hg, trivial, trivial⟩
    | getDisk =>
      obtain ⟨hi', hg⟩ := hquiet (by
        rcases r with e | - | d
        · cases e with
          | notFound => exact ⟨[], hexec.2⟩
          | _ => exact ⟨[], hexec⟩
        · exact ⟨[], hexec⟩
        · rcases hexec with h | h
          · exact ⟨_, h.2.2⟩
          · exact ⟨[], h.2.2⟩)
      exact ⟨hi', hg, trivial, trivial⟩
    | createDisk => exact hok.elim
    | deleteDisk location uuid =>
      have hs' : s' = s ∨ s' = { s with deletes := (location, uuid) :: s.deletes } :=
        hexec.imp (·.2) (·.2)
      rcases hs' with rfl | rfl
      · exact ⟨hi, guar_refl, trivial, trivial⟩
      · exact ⟨⟨hi.keyed, hi.drawn_once, hi.once, fun i d hidx =>
          (hi.covered i d hidx).imp fun _ hcov =>
            hcov.of_frame rfl rfl rfl (fun _ h => h) fun _ h => h⟩,
          ⟨rfl, rfl, fun _ _ => rfl, fun _ h => h, fun _ h => h, .inl rfl, fun _ _ h => .inl h⟩,
          trivial, trivial⟩
    | fenceGet key =>
      obtain ⟨rfl, rfl⟩ := hexec
      exact ⟨hi, guar_refl, trivial, fun f hf => hi.keyed key f hf⟩
    | fenceList => exact hskip hexec.2
    | fenceCreate fence =>
      obtain ⟨rfl, rfl⟩ := hexec
      rcases s.fences.create_cases fence with ⟨_, hcur, h⟩ | ⟨-, h⟩
      · rw [h]
        exact ⟨hi, guar_refl, trivial, hi.keyed _ _ hcur⟩
      · rw [h]
        have hg := guar_attachment (t := t) (s := s) hok (some fence)
        exact ⟨inv_attachment hi hok (fun g hg => by cases hg; rfl) _,
          ⟨rfl, rfl, fun u hu => by simp [update_of_ne hu], hg.drawn, hg.observed,
            hg.dispatch, hg.store⟩, trivial, rfl⟩
    | fenceSetReceipt => exact hok.elim
    | fenceSetObservation fence observation =>
      obtain ⟨rfl, rfl⟩ := hexec
      rcases s.fences.setObservation_cases fence observation with ⟨_, h, hr⟩ | ⟨_, h⟩
      · rw [h]
        exact ⟨hi, guar_refl, trivial, fun g hg => by
          obtain ⟨_, hcur, rfl⟩ := hr g hg
          exact hi.keyed _ _ hcur⟩
      · rw [h]
        exact ⟨inv_attachment hi hok (fun g hg => by cases hg; rfl) s.acquired,
          guar_attachment hok _, trivial, fun g hg => by cases hg; rfl⟩
    | fenceDelete fence =>
      obtain ⟨hi', hg⟩ : Inv sha256 s' ∧ Guar t s s' := by
        rcases hok with hk | hr
        · obtain ⟨-, rfl⟩ := hexec
          rcases s.fences.delete_cases fence with ⟨r, h⟩ | ⟨-, h⟩
          · rw [h]
            exact ⟨hi, guar_refl⟩
          · rw [h]
            exact ⟨inv_attachment hi hk (fun _ hg => by cases hg) s.acquired, guar_remove fence.key⟩
        · exact exec_fenceDelete hi (fun hf => settled_of_receipt hf hr) hexec
      exact ⟨hi', hg, trivial, trivial⟩
    | newAttempt =>
      obtain ⟨hnew, rfl⟩ := hexec
      obtain ⟨hi', hg⟩ := inv_draw (t := t) hi hnew
      exact ⟨hi', hg, trivial, trivial⟩
    | listVMs | getVM | getNetwork | now | wait | dispatchReserve | attachDisk | detachDisk
    | resizeAttachedDisk | providerIDForNode | missingNodeIdentity | lockVM => exact hskip hexec

/-! ### Requests of `EnsureVolume` -/

section

variable {E : Err → State → Prop}

theorem call_newAttempt :
    (rules sha256).TripleE currentWorld t (Fresh t) (call .newAttempt) (fun n => Drawn t n) E := by
  refine .perform stable_fresh fun s r s' hi hp hexec => ?_
  obtain ⟨-, hnew, rfl⟩ := hexec
  obtain ⟨hi', hg⟩ := inv_draw (t := t) hi hnew
  exact ⟨hi', hg, hp, .head _⟩

theorem call_fenceCreate (f : MutationFence)
    (hf : f = { key := diskCreateFenceKey sha256 intent.location intent.name,
                intent := .diskCreate intent, attempt := f.attempt }) :
    (rules sha256).TripleE currentWorld t (Drawn t f.attempt) (call (.fenceCreate f))
      (fun r s => r.2 = true → r.1 = f ∧ Held sha256 intent t f s) E := by
  refine .perform stable_drawn fun s r s' hi hp hexec => ?_
  obtain ⟨hfresh, hdrawn⟩ := hp
  obtain ⟨-, rfl, rfl⟩ := hexec
  rcases s.fences.create_cases f with ⟨_, -, h⟩ | ⟨habsent, h⟩
  · rw [h]
    exact ⟨hi, guar_refl, nofun⟩
  · rw [h]
    refine ⟨inv_create hi habsent hfresh hdrawn _,
      ⟨rfl, rfl, fun u hu => by simp [update_of_ne hu], fun _ h => h, fun _ h => h,
        .inl rfl, fun g _ hst => ?_⟩,
      fun _ => ⟨rfl, hfresh, by simp, hdrawn, hf⟩⟩
    -- what stands under the key now is of this thread's attempt
    obtain ⟨a, ha, hattempt⟩ := hst
    rcases eq_or_ne g.key f.key with hk | hne
    · obtain rfl : f = a := by simpa [hk] using ha
      exact .inr (hattempt ▸ hdrawn)
    · exact .inl ⟨a, by simpa [update_of_ne hne] using ha, hattempt⟩

/-- A receipt names a disk that is there; as long as the fence stands, that is
the disk of its own dispatch. -/
theorem settled_of_current (hf : s.fences f.key = some f) (hdecode : decodeDiskCreateIntent f = intent)
    {receipt : String} (hobs : (intent.location, receipt) ∈ s.observed)
    (hcurrent : Current t (.fenceSetReceipt f receipt) s) : Settled sha256 f s := by
  intro _ _ _ _ hcov hk ha
  obtain ⟨e, he, hname, huuid⟩ := hcurrent
  obtain ⟨intent', hintent, hloc, hname'⟩ := hcov.intent
  have hdecode' : decodeDiskCreateIntent f = intent' := by
    simp only [decodeDiskCreateIntent, hcov.same f (hk ▸ hf) ha.symm, hintent]
  obtain rfl : intent = intent' := hdecode.symm.trans hdecode'
  rw [hdecode] at he hname
  obtain ⟨k, hmem, hki, hkl, hku⟩ := hcov.own ⟨f, hk ▸ hf, ha.symm⟩ e (hloc ▸ he)
    (hname.trans hname')
  exact ⟨k, hmem, hki, by rw [hkl, hku, huuid, ← hloc]; exact hobs⟩

theorem call_fenceSetReceipt (f : MutationFence) (d : Disk)
    (hdecode : decodeDiskCreateIntent f = intent) (hd : toLower d.uuid ≠ "") :
    (rules sha256).TripleE currentWorld t
      (fun s => (intent.location, toLower d.uuid) ∈ s.observed)
      (call (.fenceSetReceipt f (toLower d.uuid)))
      (fun r s => (intent.location, toLower d.uuid) ∈ s.observed ∧
        ∀ g, r = .ok g → g.receipt ≠ "") E := by
  refine .perform (stable_observed _) fun s r s' hi hp hexec => ?_
  obtain ⟨hcurrent, rfl, rfl⟩ := hexec
  rcases s.fences.setReceipt_cases f (toLower d.uuid) with ⟨e, h⟩ | ⟨hf, h⟩
  · rw [h]
    exact ⟨hi, guar_refl, hp, nofun⟩
  · rw [h]
    exact ⟨inv_stamp hi hf _ (settled_of_current hf hdecode hp hcurrent), guar_stamp hf _, hp,
      fun g hg => by cases hg; exact hd⟩

theorem call_fenceDelete {P : State → Prop} (hP : (rules sha256).Stable currentWorld t P)
    (f : MutationFence)
    (h : ∀ s, Inv sha256 s → P s → s.fences f.key = some f → Settled sha256 f s) :
    (rules sha256).TripleE currentWorld t P (call (.fenceDelete f)) (fun _ _ => True) E := by
  refine .perform hP fun s r s' hi hp hexec => ?_
  obtain ⟨hi', hg⟩ := exec_fenceDelete hi (h s hi hp) hexec.2
  exact ⟨hi', hg, trivial⟩

/-- A fence that is held has no dispatch. -/
theorem Held.settled (hi : Inv sha256 s) (h : Held sha256 intent t f s) : Settled sha256 f s :=
  fun _ _ _ hidx hcov _ ha => absurd ha (h.attempt_ne hi hidx hcov)

theorem call_createDisk (f : MutationFence) {request : CreateDiskRequest}
    (hname : request.displayName = intent.name) :
    (rules sha256).TripleE currentWorld t (Ready sha256 intent t f)
      (call (.createDisk intent.location request))
      (fun r s => r = .error .mutationBlocked → Held sha256 intent t f s) E := by
  refine .perform stable_ready fun s r s' hi hp hexec => ?_
  obtain ⟨hheld, hnone⟩ := hp
  obtain ⟨⟨f', hacq, hstands⟩, hexec⟩ := hexec
  obtain rfl : f = f' := by simpa [hheld.acquired] using hacq
  rcases hexec with ⟨-, rfl⟩ | ⟨hr, rfl⟩
  · exact ⟨hi, guar_refl, fun _ => hheld⟩
  · set d : Dispatch := ⟨t, s.acquired t, intent.location, request⟩ with hd
    have hlast : ∀ i e, (s.dispatches ++ [d])[i]? = some e →
        s.dispatches[i]? = some e ∨ (i = s.dispatches.length ∧ e = d) := by
      intro i e he
      rcases Nat.lt_or_ge i s.dispatches.length with hlt | hge
      · exact .inl (by rwa [List.getElem?_append_left hlt] at he)
      · rw [List.getElem?_append_right hge] at he
        obtain ⟨h0, rfl⟩ := List.getElem?_eq_some_iff.1 he
        simp only [List.length_singleton] at h0
        exact .inr ⟨by omega, by simp⟩
    refine ⟨⟨hi.keyed, hi.drawn_once, ?_, ?_⟩,
      ⟨rfl, rfl, fun _ _ => rfl, fun _ h => h, fun _ h => h, .inr ⟨d, rfl, rfl⟩,
        fun _ _ h => .inl h⟩, fun h => absurd h hr⟩
    · intro i j e e' he he' htid
      rcases hlast i e he with he | ⟨rfl, rfl⟩ <;> rcases hlast j e' he' with he' | ⟨rfl, rfl⟩
      · exact hi.once i j e e' he he' htid
      · exact absurd htid (hheld.fresh e (List.mem_of_getElem? he))
      · exact absurd htid.symm (hheld.fresh e' (List.mem_of_getElem? he'))
      · rfl
    · intro i e he
      rcases hlast i e he with he | ⟨rfl, rfl⟩
      · obtain ⟨g, hcov⟩ := hi.covered i e he
        exact ⟨g, hcov.of_frame rfl rfl rfl (fun _ h => h) fun _ h => h⟩
      · have hst : Stored f s := ⟨f, hstands, rfl⟩
        have hkey : f.key = diskCreateFenceKey sha256 intent.location request.displayName := by
          rw [hname]; exact hheld.key
        refine ⟨f, hacq, hheld.drawn, hkey, ⟨intent, by rw [hheld.fence], rfl, hname.symm⟩,
          .inl hst, ?_, ?_, ?_⟩
        · intro g hg _
          obtain rfl : f = g := by simpa [hstands] using hg
          rfl
        · intro g hg _ hreceipt
          obtain rfl : f = g := by simpa [hstands] using hg
          exact absurd (by rw [hheld.fence]) hreceipt
        · intro _ e he hn
          exact absurd (hn.trans hname) (hnone hst e he)

/-- One `EnsureVolume`: a disk that has been seen has been observed. -/
def outline (sha256 : String → String) (t : Tid) (intent : DiskCreateIntent) :
    Outline (rules sha256) currentWorld t sha256 intent where
  exec_of _ _ _ _ h := h.2
  observe _ o hi := inv_observe hi o
  fresh := Fresh t
  drawn := Drawn t
  held := Held sha256 intent t
  ready := Ready sha256 intent t
  seen d s := (intent.location, toLower d.uuid) ∈ s.observed
  local_fresh := ⟨stable_fresh, fun _ _ h => h⟩
  local_held _ := ⟨stable_held, fun _ _ h => ⟨h.fresh, h.acquired, h.drawn, h.fence⟩⟩
  local_ready _ := ⟨stable_ready, fun _ _ h => ⟨⟨h.1.fresh, h.1.acquired, h.1.drawn, h.1.fence⟩, h.2⟩⟩
  local_seen _ := ⟨stable_observed _, fun _ _ h => List.mem_append_right _ h⟩
  seen_listed _ _ _ _ h := h
  seen_read _ _ _ _ h := h
  ready_of_held _ _ _ h hnone := ⟨h, fun _ => hnone⟩
  held_of_ready _ _ h := h.1
  newAttempt _ := call_newAttempt
  fenceCreate n f _ hf := by
    obtain rfl : f.attempt = n := by rw [hf]
    exact call_fenceCreate f hf
  setReceipt f d _ hdecode hd := call_fenceSetReceipt f d hdecode hd
  deleteStamped f d _ hr := call_fenceDelete (stable_observed _) f fun _ _ _ hf =>
    settled_of_receipt hf hr
  deleteHeld f _ := call_fenceDelete stable_held f fun _ hi h _ => h.settled hi
  createDisk f _ _ hname := call_createDisk f hname

end

/-! ### The system -/

theorem verified :
    (rules sha256).Verified currentWorld (Calls sha256) (Initial fun _ => False)
      (fun _ _ _ => True) where
  init := by
    rintro s ⟨hf, -, -, hdrawn, hdis, -, -⟩
    exact ⟨⟨by simp [hf], by simp [hdrawn], by simp [hdis], by simp [hdis]⟩,
      fun t => by simp [rules, Fresh, hdis]⟩
  env := fun _ _ hi henv => inv_env hi henv
  fresh := fun _ _ _ hf hstep => fresh_step hf hstep
  stable := fun _ _ => stable_const
  start := by
    rintro t p s ⟨fuel, a, call, rfl, rfl⟩ hi hfresh
    cases call with
    | ensureVolume spec =>
      have h : (rules a.sha256).SafeE currentWorld t (Fresh t) (ensureVolume fuel a spec) :=
        ensureVolume_triple (fun _ => outline a.sha256 t _) fun _ _ h => h
      exact (TripleE.bind h fun _ =>
        TripleE.pure (Q := fun _ _ => True) fun _ _ _ => trivial).wp hi hfresh
          (fun _ _ _ => trivial) fun _ _ _ => trivial
    | deleteVolume =>
      exact wp_of_usesE serves_delete
        (Contract.UsesE.bind (deleteVolume_uses fuel) fun _ _ =>
          Contract.UsesE.pure (Q := fun _ => True) trivial) hi trivial

/-- A request that changes the store shows nothing and commits nothing. -/
theorem exec_store {op : Op} {r : Reply op} (h : exec t op s r s') :
    s'.fences = s.fences ∨
      (s'.dispatches = s.dispatches ∧ s'.commits = s.commits ∧ s'.observed = s.observed) := by
  cases op with
  | listDisks => cases r with
    | ok => exact .inl (by rw [h.2]; rfl)
    | error => exact .inl (by rw [show s' = s from h])
  | getDisk =>
    rcases r with e | - | d
    · cases e with
      | notFound => exact .inl (by rw [h.2])
      | _ => exact .inl (by rw [show s' = s from h])
    · exact .inl (by rw [show s' = s from h])
    · rcases h with h | h
      · exact .inl (by rw [h.2.2]; rfl)
      · exact .inl (by rw [h.2.2])
  | createDisk => rcases h with h | h <;> exact .inl (by rw [h.2])
  | deleteDisk => rcases h with h | h <;> exact .inl (by rw [h.2])
  | fenceCreate | fenceSetReceipt | fenceSetObservation | fenceDelete =>
    exact .inr (by rw [h.2]; exact ⟨rfl, rfl, rfl⟩)
  | fenceGet | fenceList | newAttempt => exact .inl (by rw [h.2])
  | listVMs | getVM | getNetwork | now | wait | dispatchReserve | attachDisk | detachDisk
  | resizeAttachedDisk | providerIDForNode | missingNodeIdentity | lockVM =>
    exact .inl (by rw [show s' = s from h])

/-- **Fences outlive their dispatch.**  In every run whose requests are served
while what they rest on is still so, no step removes the fence of a dispatched
`CreateDisk` before the disk of that very dispatch has been observed. -/
theorem fence_removed_after_observed {c c' : Config State Op Reply (Except Err (Option Volume))}
    (h : Reachable currentWorld (Calls sha256) (Initial fun _ => False) c)
    (hstep : Step currentWorld (Calls sha256) c c') :
    RemovalJustified c.shared c'.shared := by
  intro i d f hidx hfence hst hgone
  have hi : Inv sha256 c'.shared := sound verified (h.step hstep)
  have hchanged : c'.shared.fences ≠ c.shared.fences := by
    intro heq
    exact hgone (by simpa only [Stored, heq] using hst)
  obtain ⟨hd, hc, ho⟩ : c'.shared.dispatches = c.shared.dispatches ∧
      c'.shared.commits = c.shared.commits ∧ c'.shared.observed = c.shared.observed := by
    cases hstep with
    | spawn => exact absurd rfl hchanged
    | crash => exact absurd rfl hchanged
    | env _ henv => exact absurd (env_frame henv).1 hchanged
    | serve _ _ _ _ _ _ hexec => exact (exec_store hexec.2).resolve_left hchanged
  obtain ⟨g, hcov⟩ := hi.covered i d (hd ▸ hidx)
  obtain rfl : f = g := by simpa [hfence] using hcov.fence
  exact (hcov.held.resolve_left hgone).mono (by simp [hc]) (by simp [ho])

theorem not_stored_of_none (h : s.fences f.key = none) : ¬ Stored f s := by
  rintro ⟨g, hg, -⟩
  rw [h] at hg
  cases hg

theorem not_observed_of_all {i : ℕ} (h : s.commits.all (fun k => k.dispatch != i) = true) :
    ¬ Observed i s := by
  rintro ⟨k, hk, hi, -⟩
  simpa [hi] using List.all_eq_true.1 h k hk

/-- A run in which a create is dispatched, its disk found, and its fence removed. -/
theorem fence_removed_after_observed_run :
    ∃ c c', Reachable currentWorld (Calls id) (Initial fun _ => False) c ∧
      Step currentWorld (Calls id) c c' ∧ c.shared.dispatches.length = 1 ∧
      Stored (pvcFence 7) c.shared ∧ ¬ Stored (pvcFence 7) c'.shared ∧
      RemovalJustified c.shared c'.shared := by
  have h : Reachable currentWorld (Calls id) (Initial fun _ => False)
      ⟨State.empty, fun _ => .idle⟩ := .init (initial_empty _)
  have h := h.step (.spawn 0 _ rfl ⟨9, bkkAdapter, .ensureVolume pvcSpec, rfl, rfl⟩)
  have h := h.serve 0 (.listDisks "bkk") (.ok []) rfl ⟨trivial, rfl, rfl⟩
  have h := h.serve 0 (.fenceGet (pvcFence 7).key) none rfl ⟨trivial, rfl, rfl⟩
  have h := h.serve 0 .newAttempt 7 rfl ⟨trivial, fun _ => List.not_mem_nil, rfl⟩
  have h := h.serve 0 (.fenceCreate (pvcFence 7)) (pvcFence 7, true) rfl ⟨trivial, rfl, rfl⟩
  have h := h.serve 0 (.listDisks "bkk") (.ok []) rfl ⟨trivial, rfl, rfl⟩
  have h := h.serve 0 .dispatchReserve none rfl ⟨trivial, rfl⟩
  have h := h.serve 0 (.createDisk "bkk" pvcRequest) (.error .transport) rfl
    ⟨⟨pvcFence 7, rfl, rfl⟩, .inr ⟨nofun, rfl⟩⟩
  have h := h.step (.env _ (.commitCreate _ 0 _ pvcDisk rfl
    (fun _ hk => absurd hk List.not_mem_nil) rfl (fun _ hk => absurd hk List.not_mem_nil)
    fun _ _ hd => absurd hd List.not_mem_nil))
  have h := h.serve 0 (.listDisks "bkk") (.ok [pvcDisk]) rfl ⟨trivial, rfl, rfl⟩
  have h := h.serve 0 (.fenceSetReceipt (pvcFence 7) pvcUUID)
    (.ok { pvcFence 7 with receipt := pvcUUID }) rfl ⟨⟨pvcDisk, .head _, rfl, rfl⟩, rfl, rfl⟩
  have hstep := h.serve_step 0 (.fenceDelete { pvcFence 7 with receipt := pvcUUID }) (.ok ()) rfl
    ⟨trivial, rfl, rfl⟩
  exact ⟨_, _, h, hstep, rfl, ⟨{ pvcFence 7 with receipt := pvcUUID }, rfl, rfl⟩, not_stored_of_none rfl,
    fence_removed_after_observed h hstep⟩

/-- The fence of the `DeleteVolume` in the run below. -/
def pvcDeleteFence : MutationFence :=
  { key := diskAttachmentFenceKey "bkk" pvcUUID, attempt := 8,
    intent := .diskAttachment { operation := "disk-delete", location := "bkk",
                                diskUUID := toLower pvcUUID, billingAccountID := 1 } }

/-- While the disk is being deleted there is no create fence to be listed. -/
theorem pvc_no_create_fence (fence : MutationFence) :
    ¬ (hasPrefix fence.key "disk-create/bkk/" = true ∧
      update (update (update (update (fun _ => none)
        (pvcFence 7).key (some (pvcFence 7)))
        (pvcFence 7).key (some { pvcFence 7 with receipt := pvcUUID }))
        (pvcFence 7).key none)
        pvcDeleteFence.key (some pvcDeleteFence) fence.key = some fence) := by
  rintro ⟨hp, hf⟩
  rcases eq_or_ne fence.key pvcDeleteFence.key with hk | hne
  · rw [hk] at hp
    exact absurd hp (by decide)
  · rw [update_of_ne hne] at hf
    rcases eq_or_ne fence.key (pvcFence 7).key with hk | hne'
    · simp [hk] at hf
    · simp [update_of_ne hne'] at hf

/-- **A stale list takes a newer fence away.**  The second invocation lists the
disk and stops; the disk is deleted; the fourth invocation acquires a new fence
and dispatches a new create; then the second one stamps the new fence with the
old disk and deletes it, while the new create has not been committed. -/
theorem stale_list_removes_newer_fence :
    ∃ c c', Reachable world (Calls id) (Initial fun _ => False) c ∧
      Step world (Calls id) c c' ∧ ¬ RemovalJustified c.shared c'.shared := by
  have h : Reachable world (Calls id) (Initial fun _ => False)
      ⟨State.empty, fun _ => .idle⟩ := .init (initial_empty _)
  -- the first `EnsureVolume` creates the disk and completes its fence
  have h := h.step (.spawn 0 _ rfl ⟨9, bkkAdapter, .ensureVolume pvcSpec, rfl, rfl⟩)
  have h := h.serve 0 (.listDisks "bkk") (.ok []) rfl ⟨rfl, rfl⟩
  have h := h.serve 0 (.fenceGet (pvcFence 7).key) none rfl ⟨rfl, rfl⟩
  have h := h.serve 0 .newAttempt 7 rfl ⟨fun _ => List.not_mem_nil, rfl⟩
  have h := h.serve 0 (.fenceCreate (pvcFence 7)) (pvcFence 7, true) rfl ⟨rfl, rfl⟩
  have h := h.serve 0 (.listDisks "bkk") (.ok []) rfl ⟨rfl, rfl⟩
  have h := h.serve 0 .dispatchReserve none rfl rfl
  have h := h.serve 0 (.createDisk "bkk" pvcRequest) (.error .transport) rfl (.inr ⟨nofun, rfl⟩)
  have h := h.step (.env _ (.commitCreate _ 0 _ pvcDisk rfl
    (fun _ hk => absurd hk List.not_mem_nil) rfl (fun _ hk => absurd hk List.not_mem_nil)
    fun _ _ hd => absurd hd List.not_mem_nil))
  have h := h.serve 0 (.listDisks "bkk") (.ok [pvcDisk]) rfl ⟨rfl, rfl⟩
  have h := h.serve 0 (.fenceSetReceipt (pvcFence 7) pvcUUID)
    (.ok { pvcFence 7 with receipt := pvcUUID }) rfl ⟨rfl, rfl⟩
  have h := h.serve 0 (.fenceDelete { pvcFence 7 with receipt := pvcUUID }) (.ok ()) rfl ⟨rfl, rfl⟩
  -- the second one lists it
  have h := h.step (.spawn 1 _ rfl ⟨9, bkkAdapter, .ensureVolume pvcSpec, rfl, rfl⟩)
  have h := h.serve 1 (.listDisks "bkk") (.ok [pvcDisk]) rfl ⟨rfl, rfl⟩
  -- `DeleteVolume` deletes it
  have h := h.step (.spawn 2 _ rfl ⟨9, bkkAdapter, .deleteVolume "bkk" pvcUUID, rfl, rfl⟩)
  have h := h.serve 2 (.fenceGet pvcDeleteFence.key) none rfl ⟨rfl, rfl⟩
  have h := h.serve 2 .newAttempt 8 rfl ⟨fun _ hu => by cases hu; contradiction, rfl⟩
  have h := h.serve 2 (.fenceCreate pvcDeleteFence) (pvcDeleteFence, true) rfl ⟨rfl, rfl⟩
  have h := h.serve 2 (.getDisk "bkk" pvcUUID) (.ok (some pvcDisk)) rfl (.inl ⟨.head _, rfl, rfl⟩)
  have h := h.serve 2 (.fenceList "disk-create/bkk/") [] rfl
    ⟨fun fence => ⟨fun hf => absurd hf List.not_mem_nil,
      fun hf => (pvc_no_create_fence fence hf).elim⟩, rfl⟩
  have h := h.serve 2 (.listVMs "bkk") (.ok []) rfl rfl
  have h := h.serve 2 (.getNetwork "bkk" "vpc") (.ok (some ⟨"vpc", some []⟩)) rfl rfl
  have h := h.serve 2 (.getDisk "bkk" pvcUUID) (.ok (some pvcDisk)) rfl (.inl ⟨.head _, rfl, rfl⟩)
  have h := h.serve 2 (.listVMs "bkk") (.ok []) rfl rfl
  have h := h.serve 2 (.getNetwork "bkk" "vpc") (.ok (some ⟨"vpc", some []⟩)) rfl rfl
  have h := h.serve 2 .dispatchReserve none rfl rfl
  have h := h.serve 2 (.deleteDisk "bkk" pvcUUID) (.ok ()) rfl (.inr ⟨nofun, rfl⟩)
  have h := h.step (.env _ (.commitDelete _ "bkk" pvcUUID (.head _)))
  -- the third `EnsureVolume` dispatches a new create under a new fence
  have h := h.step (.spawn 3 _ rfl ⟨9, bkkAdapter, .ensureVolume pvcSpec, rfl, rfl⟩)
  have h := h.serve 3 (.listDisks "bkk") (.ok []) rfl ⟨rfl, rfl⟩
  have h := h.serve 3 (.fenceGet (pvcFence 9).key) none rfl ⟨rfl, rfl⟩
  have h := h.serve 3 .newAttempt 9 rfl
    ⟨fun _ hu => by cases hu with | tail _ hu => cases hu; contradiction, rfl⟩
  have h := h.serve 3 (.fenceCreate (pvcFence 9)) (pvcFence 9, true) rfl ⟨rfl, rfl⟩
  have h := h.serve 3 (.listDisks "bkk") (.ok []) rfl ⟨rfl, rfl⟩
  have h := h.serve 3 .dispatchReserve none rfl rfl
  have h := h.serve 3 (.createDisk "bkk" pvcRequest) (.error .transport) rfl (.inr ⟨nofun, rfl⟩)
  -- the second one goes on
  have h := h.serve 1 (.fenceGet (pvcFence 9).key) (some (pvcFence 9)) rfl ⟨rfl, rfl⟩
  have h := h.serve 1 (.fenceSetReceipt (pvcFence 9) pvcUUID)
    (.ok { pvcFence 9 with receipt := pvcUUID }) rfl ⟨rfl, rfl⟩
  have hstep := h.serve_step 1 (.fenceDelete { pvcFence 9 with receipt := pvcUUID }) (.ok ()) rfl
    ⟨rfl, rfl⟩
  refine ⟨_, _, h, hstep, fun hjust => ?_⟩
  have hobserved := hjust 1 ⟨3, some (pvcFence 9), "bkk", pvcRequest⟩ (pvcFence 9) rfl rfl
    ⟨{ pvcFence 9 with receipt := pvcUUID }, rfl, rfl⟩ (not_stored_of_none rfl)
  exact not_observed_of_all rfl hobserved

end InSpaceKube.Csi.FenceRemoval
