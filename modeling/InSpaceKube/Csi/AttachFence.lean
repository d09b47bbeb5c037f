/-
InSpaceKube/Csi/AttachFence.lean

Is an `AttachDisk` or `DetachDisk` dispatched under the fence the invocation
created?

Adapters run `AttachVolume`, `DetachVolume`, `DeleteVolume` and `ExpandVolume`
on one disk, in any interleaving.  An invocation that finds a fence of the
disk settles it: it waits until the disk is where the fence's intent wants it,
and deletes the fence.  When the disk is there already, before the creator of
the fence has dispatched anything, the fence goes while its creator still
counts on it.

Where a fence is created only while the disk is not yet in the state its
intent asks for (`Needed`), this cannot happen.  The invariant says of a fence
in the store (`Inv.pending`): the request of its creator has been carried out,
or the disk is not yet there.  So a settled fence is one whose creator has
dispatched, and a creator that has not dispatched still has its fence.
-/
import InSpaceKube.Csi.FenceContract

namespace InSpaceKube.Csi.AttachFence

open Rules Prog Contract
open Function (update update_of_ne update_self)

/-! ### The disk and the adapters -/

/-- A request that moves the disk. -/
inductive Change
  | attach (vmUUID : String)
  | detach (vmUUID : String)
deriving DecidableEq

/-- Where the disk is when the provider has carried it out. -/
def Change.apply : Change → String → String
  | .attach vmUUID, _ => vmUUID
  | .detach vmUUID, holder => if equalFold holder vmUUID then "" else holder

/-- A dispatched request, and whether the provider has carried it out. -/
structure Request where
  change : Change
  committed : Bool
deriving DecidableEq

/-- The shared state: the fences, the VM that holds the disk (empty when there
is none), and for every invocation the fence it created and the request it
dispatched. -/
structure State where
  fences : FenceStore
  holder : String
  drawn : List (Tid × ℕ)
  acquired : Tid → Option MutationFence
  requests : Tid → Option Request

/-- The request of thread `t` has reached the network. -/
def State.dispatch (s : State) (t : Tid) (change : Change) : State :=
  { s with requests := update s.requests t (some ⟨change, false⟩) }

/-- Nothing has happened yet; the disk may be anywhere. -/
def Initial (s : State) : Prop :=
  (∀ key, s.fences key = none) ∧ s.drawn = [] ∧ (∀ t, s.acquired t = none) ∧
    ∀ t, s.requests t = none

/-- What the exact read of a VM shows of the disk. -/
def Honest (diskUUID vmUUID holder : String) : Except ClientError (Option VM) → Prop
  | .ok (some vm) => (0 < vmDiskRows vm diskUUID ↔ equalFold holder vmUUID = true)
  | .error .notFound => equalFold holder vmUUID = false
  | _ => True

section

variable (location volumeID : String)

/-- The effect of a request.  The exact read of a VM of the location is honest
about the disk; all other reads are answered by anything. -/
def exec (t : Tid) : (op : Op) → State → Reply op → State → Prop
  | .getVM l vmUUID, s, r, s' =>
    s' = s ∧ (l = location → Honest (toLower volumeID) vmUUID s.holder r)
  | .attachDisk _ vmUUID _, s, r, s' =>
    (r = .error .mutationBlocked ∧ s' = s) ∨
    (r ≠ .error .mutationBlocked ∧ s' = s.dispatch t (.attach vmUUID))
  | .detachDisk _ vmUUID _, s, r, s' =>
    (r = .error .mutationBlocked ∧ s' = s) ∨
    (r ≠ .error .mutationBlocked ∧ s' = s.dispatch t (.detach vmUUID))
  | .fenceGet key, s, r, s' => r = s.fences key ∧ s' = s
  | .fenceList pre, s, r, s' =>
    (∀ fence ∈ r, hasPrefix fence.key pre ∧ s.fences fence.key = some fence) ∧ s' = s
  | .fenceCreate fence, s, r, s' =>
    r = ((s.fences.create fence).1, (s.fences.create fence).2.1) ∧
    s' = { s with
      fences := (s.fences.create fence).2.2
      acquired := if (s.fences.create fence).2.1 then update s.acquired t (some fence)
        else s.acquired }
  | .fenceSetReceipt fence receipt, s, r, s' =>
    r = (s.fences.setReceipt fence receipt).1 ∧
    s' = { s with fences := (s.fences.setReceipt fence receipt).2 }
  | .fenceSetObservation fence observation, s, r, s' =>
    r = (s.fences.setObservation fence observation).1 ∧
    s' = { s with fences := (s.fences.setObservation fence observation).2 }
  | .fenceDelete fence, s, r, s' =>
    r = (s.fences.delete fence).1 ∧ s' = { s with fences := (s.fences.delete fence).2 }
  | .newAttempt, s, r, s' =>
    (∀ u, (u, r) ∉ s.drawn) ∧ s' = { s with drawn := (t, r) :: s.drawn }
  | _, s, _, s' => s' = s

/-- The provider carries out a dispatched request, at any later time or never. -/
inductive Env : State → State → Prop
  | commit (s : State) (t : Tid) (change : Change) :
      s.requests t = some ⟨change, false⟩ →
      Env s { s with
        holder := change.apply s.holder
        requests := update s.requests t (some ⟨change, true⟩) }

/-- The system of adapters over this world. -/
def world : Sem State Op Reply := ⟨exec location volumeID, Env⟩

/-- A call of the interface on the disk. -/
inductive Call
  | attachVolume (nodeID : String)
  | detachVolume (nodeID : String)
  | deleteVolume
  | expandVolume (capacityBytes : ℤ)

/-- Its code. -/
def Call.code (fuel : ℕ) (a : Adapter) : Call → Code Unit
  | .attachVolume nodeID => Csi.attachVolume fuel a location volumeID nodeID
  | .detachVolume nodeID => Csi.detachVolume fuel a location volumeID nodeID
  | .deleteVolume => Csi.deleteVolume fuel a location volumeID
  | .expandVolume capacityBytes => do
    let _ ← Csi.expandVolume fuel a location volumeID capacityBytes
    pure ()

/-- The invocations of the statement: any call of any adapter. -/
def Calls (_ : Tid) (p : Prog Op Reply (Except Err Unit)) : Prop :=
  ∃ fuel a, ∃ call : Call, p = (call.code location volumeID fuel a).run

/-- The key of the fences of the disk. -/
abbrev diskKey : String := diskAttachmentFenceKey location (toLower volumeID)

/-- The fence `f` is still in the store, whatever has been observed on it. -/
def Stored (f : MutationFence) (s : State) : Prop :=
  ∃ g, s.fences f.key = some g ∧ g.attempt = f.attempt

/-- `f` is the fence of an attach or a detach. -/
def Attachment (f : MutationFence) : Prop :=
  (decodeDiskAttachmentIntent f).operation = "disk-attachment"

/-- The store holds the attachment fence of the disk that thread `t` created. -/
def Covered (t : Tid) (s : State) : Prop :=
  ∃ f, s.acquired t = some f ∧ f.key = diskKey location volumeID ∧ Attachment f ∧ Stored f s

/-- The requests that move the disk. -/
def Moves : Op → Prop
  | .attachDisk _ _ _ | .detachDisk _ _ _ => True
  | _ => False

/-- The disk is not yet in the state the intent asks for. -/
def NotYet (intent : DiskAttachmentIntent) (holder : String) : Prop :=
  if intent.desiredVMUUID ≠ "" then equalFold holder intent.desiredVMUUID = false
  else equalFold holder intent.previousVMUUID = true

/-- An attachment fence is created only while there is something to do. -/
def Needed (_ : Tid) (op : Op) (s : State) : Prop :=
  match op with
  | .fenceCreate f => s.fences f.key = none → Attachment f →
      NotYet (decodeDiskAttachmentIntent f) s.holder
  | _ => True

/-- The system of the statement, where fences are created when they are needed. -/
abbrev neededWorld : Sem State Op Reply := (world location volumeID).restrict Needed

end

/-! ### The invariant -/

/-- The request of thread `t` has been carried out. -/
def Done (t : Tid) (s : State) : Prop := ∃ change, s.requests t = some ⟨change, true⟩

/-- The request of thread `t` may still be carried out. -/
def InFlight (t : Tid) (s : State) : Prop := ∃ change, s.requests t = some ⟨change, false⟩

/-- The invariant; `key` is the key of the disk. -/
structure Inv (key : String) (s : State) : Prop where
  drawn_once : ∀ t u n, (t, n) ∈ s.drawn → (u, n) ∈ s.drawn → t = u
  drawn : ∀ t f, s.acquired t = some f → (t, f.attempt) ∈ s.drawn
  keyed : ∀ t f, s.acquired t = some f → f.key = key
  stored : ∀ g, s.fences key = some g →
    ∃ t f, s.acquired t = some f ∧ f.attempt = g.attempt ∧ f.intent = g.intent
  -- a fence stands until its creator's request has been carried out
  pending : ∀ t f, s.acquired t = some f → Attachment f → Stored f s →
    Done t s ∨ NotYet (decodeDiskAttachmentIntent f) s.holder
  inFlight : ∀ t, InFlight t s → ∃ f, s.acquired t = some f ∧ Attachment f ∧ Stored f s

/-- What one step of thread `t` may do. -/
structure Guar (t : Tid) (s s' : State) : Prop where
  holder : s'.holder = s.holder
  drawn : ∀ p ∈ s.drawn, p ∈ s'.drawn
  requests : ∀ u, u ≠ t → s'.requests u = s.requests u
  acquired : ∀ u, u ≠ t → s'.acquired u = s.acquired u
  kept : ∀ u f, s.acquired u = some f → s'.acquired u = some f
  done : Done t s → Done t s'
  -- a request is dispatched under the thread's own fence
  dispatch : InFlight t s' → InFlight t s ∨ ∃ f, s.acquired t = some f ∧ Attachment f ∧ Stored f s
  -- a fence is not stored again, and goes when it is the thread's own or settled
  created : ∀ u f, s.acquired u = some f → Stored f s' → Stored f s
  removed : ∀ u f, s.acquired u = some f → Attachment f → Stored f s → ¬ Stored f s' →
    u = t ∨ Done u s

/-- Thread `t` has created no fence and dispatched nothing. -/
def Idle (t : Tid) (s : State) : Prop := s.acquired t = none ∧ s.requests t = none

def Drawn (t : Tid) (n : ℕ) (s : State) : Prop := Idle t s ∧ (t, n) ∈ s.drawn

/-- Thread `t` holds the attachment fence `f` and has dispatched nothing. -/
structure Held (t : Tid) (f : MutationFence) (s : State) : Prop where
  acquired : s.acquired t = some f
  attachment : Attachment f
  stored : Stored f s
  undispatched : s.requests t = none

/-- A fence with the attempt `n` was created for `intent`. -/
def Known (n : ℕ) (intent : DiskAttachmentIntent) (s : State) : Prop :=
  ∃ t f, s.acquired t = some f ∧ f.attempt = n ∧ decodeDiskAttachmentIntent f = intent

/-- The fence with the attempt `n` is no longer needed: the request of its
creator, if the fence still stands, has been carried out. -/
def Settled (n : ℕ) (s : State) : Prop :=
  ∃ t f, s.acquired t = some f ∧ f.attempt = n ∧ (Attachment f → Stored f s → Done t s)

/-- The rules of the argument. -/
def rules (key : String) : Rules State := ⟨Inv key, Guar, Idle⟩

/-- Code that may fail in any way. -/
abbrev KeyTriple (key location volumeID : String) {α : Type} (t : Tid) (P : State → Prop)
    (x : Code α) (Q : α → State → Prop) : Prop :=
  (rules key).TripleE (neededWorld location volumeID) t P x Q fun _ _ => True

variable {key location volumeID : String} {s s' : State} {t : Tid} {f : MutationFence} {n : ℕ}

theorem not_done_of_inFlight (h : InFlight t s) : ¬ Done t s := by
  rintro ⟨c, hc⟩
  obtain ⟨_, hc'⟩ := h
  rw [hc'] at hc
  cases hc

/-- Fences that stand under one key are one attempt. -/
theorem Stored.attempt_eq {g : MutationFence} (hf : Stored f s) (hg : Stored g s)
    (h : f.key = g.key) : f.attempt = g.attempt := by
  obtain ⟨a, ha, hfa⟩ := hf
  obtain ⟨b, hb, hgb⟩ := hg
  obtain rfl : a = b := by simpa [h, hb] using ha.symm
  exact hfa.symm.trans hgb

/-- An attempt has one creator. -/
theorem Inv.creator_eq (hi : Inv key s) {u : Tid} {g : MutationFence}
    (hf : s.acquired t = some f) (hg : s.acquired u = some g) (h : f.attempt = g.attempt) :
    t = u ∧ f = g := by
  obtain rfl : t = u := hi.drawn_once _ _ _ (hi.drawn t f hf) (h ▸ hi.drawn u g hg)
  exact ⟨rfl, Option.some.inj (hf.symm.trans hg)⟩

/-- The fence in the store is one fence of one creator. -/
theorem Inv.owner_eq (hi : Inv key s) {u : Tid} {g : MutationFence}
    (hf : s.acquired t = some f) (hg : s.acquired u = some g) (hsf : Stored f s)
    (hsg : Stored g s) : t = u ∧ f = g :=
  hi.creator_eq hf hg (hsf.attempt_eq hsg ((hi.keyed t f hf).trans (hi.keyed u g hg).symm))

theorem Settled.of_seen (hi : Inv key s) {intent : DiskAttachmentIntent} (h : Known n intent s)
    (hseen : ¬ NotYet intent s.holder) : Settled n s := by
  obtain ⟨t, f, hf, hn, rfl⟩ := h
  exact ⟨t, f, hf, hn, fun ha hs => (hi.pending t f hf ha hs).resolve_right hseen⟩

/-! ### The environment -/

theorem inv_env (hi : Inv key s) (h : Env s s') : Inv key s' := by
  obtain ⟨t, change, hreq⟩ := h
  refine ⟨hi.drawn_once, hi.drawn, hi.keyed, hi.stored, fun u f hf ha hs => ?_, fun u hu => ?_⟩
  · -- the fence of the request is the one in the store
    obtain ⟨g, hg, -, hsg⟩ := hi.inFlight t ⟨change, hreq⟩
    obtain ⟨rfl, -⟩ := hi.owner_eq hf hg hs hsg
    exact .inl ⟨change, update_self ..⟩
  · obtain ⟨c, hc⟩ := hu
    rcases eq_or_ne u t with rfl | hne
    · simp at hc
    · exact hi.inFlight u ⟨c, by simpa [update_of_ne hne] using hc⟩

/-- The environment leaves the fences alone, and carries out what is in flight. -/
theorem env_frame (h : Env s s') :
    s'.fences = s.fences ∧ s'.acquired = s.acquired ∧ s'.drawn = s.drawn ∧
      (∀ u, s.requests u = none → s'.requests u = none) ∧ ∀ u, Done u s → Done u s' := by
  obtain ⟨t, change, hreq⟩ := h
  refine ⟨rfl, rfl, rfl, fun u hu => ?_, fun u hu => ?_⟩
  · rcases eq_or_ne u t with rfl | hne
    · rw [hreq] at hu; cases hu
    · simpa [update_of_ne hne] using hu
  · rcases eq_or_ne u t with rfl | hne
    · exact ⟨change, update_self ..⟩
    · obtain ⟨c, hc⟩ := hu
      exact ⟨c, by simpa [update_of_ne hne] using hc⟩

/-! ### Stable assertions -/

/-- What everyone has to put up with: fences that were created stay known, what
was carried out stays so, and no fence is stored again. -/
structure Onward (s s' : State) : Prop where
  kept : ∀ u f, s.acquired u = some f → s'.acquired u = some f
  done : ∀ u, Done u s → Done u s'
  created : ∀ u f, s.acquired u = some f → Stored f s' → Stored f s

theorem Guar.onward (h : Guar t s s') : Onward s s' := by
  refine ⟨h.kept, fun u hu => ?_, h.created⟩
  rcases eq_or_ne u t with rfl | hne
  · exact h.done hu
  · simpa only [Done, h.requests u hne] using hu

theorem Env.onward (h : Env s s') : Onward s s' := by
  obtain ⟨hf, ha, -, -, hd⟩ := env_frame h
  exact ⟨fun u f hu => by rwa [ha], hd, fun u f _ hs => by simpa only [Stored, hf] using hs⟩

theorem Known.onward {intent : DiskAttachmentIntent} (h : Known n intent s) (ho : Onward s s') :
    Known n intent s' := by
  obtain ⟨t, f, hf, hn, hi⟩ := h
  exact ⟨t, f, ho.kept t f hf, hn, hi⟩

theorem Settled.onward (h : Settled n s) (ho : Onward s s') : Settled n s' := by
  obtain ⟨t, f, hf, hn, hd⟩ := h
  exact ⟨t, f, ho.kept t f hf, hn, fun ha hs => ho.done t (hd ha (ho.created t f hf hs))⟩

section

variable {P : State → Prop}

theorem interfere_onward (h : (rules key).Interfere (neededWorld location volumeID) t s s') :
    Onward s s' := by
  rcases h with ⟨-, -, henv | ⟨u, -, hg⟩⟩
  · exact Env.onward henv
  · exact Guar.onward hg

theorem idle_step (h : Idle t s)
    (hstep : (rules key).Interfere (neededWorld location volumeID) t s s') : Idle t s' := by
  rcases hstep with ⟨-, -, henv | ⟨u, hu, hg⟩⟩
  · obtain ⟨-, ha, -, hr, -⟩ := env_frame henv
    exact ⟨by rw [ha]; exact h.1, hr t h.2⟩
  · exact ⟨(hg.acquired t hu.symm).trans h.1, (hg.requests t hu.symm).trans h.2⟩

theorem stable_drawn : (rules key).Stable (neededWorld location volumeID) t (Drawn t n) := by
  intro _ _ h hstep
  refine ⟨idle_step h.1 hstep, ?_⟩
  rcases hstep with ⟨-, -, henv | ⟨u, -, hg⟩⟩
  · rw [(env_frame henv).2.2.1]; exact h.2
  · exact hg.drawn _ h.2

theorem stable_held : (rules key).Stable (neededWorld location volumeID) t (Held t f) := by
  intro _ _ h hstep
  have hkept := (interfere_onward hstep).kept t f h.acquired
  rcases hstep with ⟨-, -, henv | ⟨u, hu, hg⟩⟩
  · obtain ⟨hf, -, -, hr, -⟩ := env_frame henv
    exact ⟨hkept, h.attachment, by simpa only [Stored, hf] using h.stored, hr t h.undispatched⟩
  · refine ⟨hkept, h.attachment, ?_, (hg.requests t hu.symm).trans h.undispatched⟩
    -- nobody else removes a fence whose request has not been carried out
    by_contra hgone
    rcases hg.removed t f h.acquired h.attachment h.stored hgone with rfl | ⟨c, hc⟩
    · exact hu rfl
    · rw [h.undispatched] at hc
      cases hc

/-- `P` outlasts interference, and the thread's own changes to other fences. -/
structure Lasting (key location volumeID : String) (t : Tid) (P : State → Prop) : Prop where
  stable : (rules key).Stable (neededWorld location volumeID) t P
  quiet : ∀ s s', P s → s'.acquired = s.acquired → s'.requests = s.requests → Onward s s' → P s'

theorem lasting_idle : Lasting key location volumeID t (Idle t) where
  stable _ _ h hstep := idle_step h hstep
  quiet s s' h ha hr _ := ⟨by rw [ha]; exact h.1, by rw [hr]; exact h.2⟩

theorem lasting_of_onward (hP : ∀ s s', P s → Onward s s' → P s') :
    Lasting key location volumeID t P where
  stable s s' h hstep := hP s s' h (interfere_onward hstep)
  quiet s s' h _ _ ho := hP s s' h ho

theorem Lasting.and {Q : State → Prop} (hP : Lasting key location volumeID t P)
    (hQ : Lasting key location volumeID t Q) :
    Lasting key location volumeID t fun s => P s ∧ Q s where
  stable := hP.stable.and hQ.stable
  quiet s s' h ha hr ho := ⟨hP.quiet s s' h.1 ha hr ho, hQ.quiet s s' h.2 ha hr ho⟩

theorem lasting_known {intent : DiskAttachmentIntent} :
    Lasting key location volumeID t (Known n intent) :=
  lasting_of_onward fun _ _ h ho => h.onward ho

theorem lasting_settled : Lasting key location volumeID t (Settled n) :=
  lasting_of_onward fun _ _ h ho => h.onward ho

theorem lasting_acquired : Lasting key location volumeID t fun s => s.acquired t = some f :=
  lasting_of_onward fun _ _ h ho => ho.kept t f h

end

/-! ### Own steps -/

theorem guar_refl : Guar t s s :=
  ⟨rfl, fun _ h => h, fun _ _ => rfl, fun _ _ => rfl, fun _ _ h => h, fun h => h, .inl,
    fun _ _ _ h => h, fun _ _ _ _ h h' => absurd h h'⟩

theorem exec_plain {op : Op} {r : Reply op} (hop : op.Plain)
    (h : exec location volumeID t op s r s') : s' = s := by
  cases op with
  | createDisk | attachDisk | detachDisk | fenceCreate | fenceSetReceipt | fenceSetObservation
    | fenceDelete | newAttempt => exact hop.elim
  | getVM => exact h.1
  | fenceGet => exact h.2
  | fenceList => exact h.2
  | _ => exact h

/-- The store has changed under the key of a fence that was in it, to another
observation of the same fence. -/
theorem stored_observe {g : MutationFence} {o : Option MutationObservation}
    (hf : s.fences f.key = some f) :
    Stored g { s with fences := update s.fences f.key (some { f with observation := o }) }
      ↔ Stored g s := by
  unfold Stored
  dsimp only
  rcases eq_or_ne g.key f.key with h | h
  · rw [h, update_self, hf]
    simp
  · rw [update_of_ne h]

theorem observe_step (hi : Inv key s) (o : Option MutationObservation)
    (hf : s.fences f.key = some f) :
    let s' := { s with
      fences := update s.fences f.key (some { f with observation := o }) }
    Inv key s' ∧ Guar t s s' := by
  intro s'
  have hst : ∀ g, Stored g s' ↔ Stored g s := fun g => stored_observe hf
  refine ⟨⟨hi.drawn_once, hi.drawn, hi.keyed, fun g hg => ?_, fun u g hu ha hs => ?_,
    fun u hu => ?_⟩, ⟨rfl, fun _ h => h, fun _ _ => rfl, fun _ _ => rfl, fun _ _ h => h,
    fun h => h, .inl, fun u g _ h => (hst g).1 h, fun u g _ _ h h' => absurd ((hst g).2 h) h'⟩⟩
  · rcases eq_or_ne key f.key with rfl | h
    · obtain rfl : { f with observation := o } = g := by simpa [s'] using hg
      exact hi.stored f hf
    · exact hi.stored g (by simpa [s', update_of_ne h] using hg)
  · exact hi.pending u g hu ha ((hst g).1 hs)
  · obtain ⟨g, hg, ha, hs⟩ := hi.inFlight u hu
    exact ⟨g, hg, ha, (hst g).2 hs⟩

/-- Thread `t` may delete the fence with the attempt `n`: it is settled, or the
thread's own and nothing has been dispatched under it. -/
def Free (t : Tid) (n : ℕ) (s : State) : Prop :=
  ∃ u g, s.acquired u = some g ∧ g.attempt = n ∧
    (Attachment g → Stored g s → Done u s ∨ (u = t ∧ s.requests t = none))

theorem Settled.free (h : Settled n s) : Free t n s := by
  obtain ⟨u, g, hg, hn, hd⟩ := h
  exact ⟨u, g, hg, hn, fun ha hs => .inl (hd ha hs)⟩

theorem Held.free (h : Held t f s) : Free t f.attempt s :=
  ⟨t, f, h.acquired, rfl, fun _ _ => .inr ⟨rfl, h.undispatched⟩⟩

theorem delete_step (hi : Inv key s) (hf : s.fences f.key = some f)
    (hfree : f.key = key → Free t f.attempt s) :
    let s' := { s with fences := update s.fences f.key none }
    Inv key s' ∧ Guar t s s' := by
  intro s'
  -- what is still stored was stored; what has gone is a fence of the disk that was free
  have hst : ∀ u g, s.acquired u = some g → Stored g s' → Stored g s := by
    rintro _ g _ ⟨h, hh, ha⟩
    rcases eq_or_ne g.key f.key with he | he
    · simp [s', he] at hh
    · exact ⟨h, by simpa [s', update_of_ne he] using hh, ha⟩
  have hgone : ∀ u g, s.acquired u = some g → Attachment g → Stored g s → ¬ Stored g s' →
      Done u s ∨ (u = t ∧ s.requests t = none) := by
    intro u g hg ha hs hs'
    have hkey : g.key = f.key := by
      by_contra hne
      obtain ⟨h, hh, hn⟩ := hs
      exact hs' ⟨h, by simpa [s', update_of_ne hne] using hh, hn⟩
    have hn : g.attempt = f.attempt := hs.attempt_eq ⟨f, hf, rfl⟩ hkey
    obtain ⟨_, _, hg', hn', hd⟩ := hfree (hkey.symm.trans (hi.keyed u g hg))
    obtain ⟨rfl, rfl⟩ := hi.creator_eq hg hg' (hn.trans hn'.symm)
    exact hd ha hs
  refine ⟨⟨hi.drawn_once, hi.drawn, hi.keyed, fun g hg => ?_, fun u g hu ha hs => ?_,
    fun u hu => ?_⟩, ⟨rfl, fun _ h => h, fun _ _ => rfl, fun _ _ => rfl, fun _ _ h => h,
    fun h => h, .inl, hst, fun u g hu ha hs hs' => ?_⟩⟩
  · rcases eq_or_ne key f.key with rfl | h
    · simp [s'] at hg
    · exact hi.stored g (by simpa [s', update_of_ne h] using hg)
  · exact hi.pending u g hu ha (hst u g hu hs)
  · obtain ⟨g, hg, ha, hs⟩ := hi.inFlight u hu
    refine ⟨g, hg, ha, ?_⟩
    by_contra hs'
    rcases hgone u g hg ha hs hs' with hd | ⟨rfl, hr⟩
    · exact not_done_of_inFlight hu hd
    · obtain ⟨c, hc⟩ := hu
      exact absurd (hr.symm.trans hc) (by simp)
  · exact (hgone u g hu ha hs hs').symm.imp And.left id

theorem dispatch_step (hi : Inv key s) (h : Held t f s) (change : Change) :
    Inv key (s.dispatch t change) ∧ Guar t s (s.dispatch t change) := by
  have hdone : ∀ u, Done u s → Done u (s.dispatch t change) := by
    rintro u ⟨c, hc⟩
    have hne : u ≠ t := by
      rintro rfl
      rw [h.undispatched] at hc
      cases hc
    exact ⟨c, by simpa [State.dispatch, update_of_ne hne] using hc⟩
  refine ⟨⟨hi.drawn_once, hi.drawn, hi.keyed, hi.stored, fun u g hu ha hs => ?_, fun u hu => ?_⟩,
    ⟨rfl, fun _ h => h, fun u hne => update_of_ne hne .., fun _ _ => rfl,
      fun _ _ h => h, hdone t, fun _ => .inr ⟨f, h.acquired, h.attachment, h.stored⟩,
      fun _ _ _ h => h, fun _ _ _ _ h h' => absurd h h'⟩⟩
  · exact (hi.pending u g hu ha hs).imp (hdone u) id
  · rcases eq_or_ne u t with rfl | hne
    · exact ⟨f, h.acquired, h.attachment, h.stored⟩
    · obtain ⟨c, hc⟩ := hu
      exact hi.inFlight u ⟨c, by simpa [State.dispatch, update_of_ne hne] using hc⟩

theorem create_step (hi : Inv key s) (hd : Drawn t f.attempt s) (hkey : f.key = key)
    (hnone : s.fences f.key = none)
    (hneeded : Attachment f → NotYet (decodeDiskAttachmentIntent f) s.holder) :
    let s' : State := { s with
      fences := update s.fences f.key (some f)
      acquired := update s.acquired t (some f) }
    Inv key s' ∧ Guar t s s' ∧ s'.acquired t = some f ∧ Stored f s' ∧ s'.requests t = none := by
  intro s'
  obtain ⟨⟨hacq, hreq⟩, hdrawn⟩ := hd
  have hother : ∀ u, u ≠ t → s'.acquired u = s.acquired u := fun u hne =>
    update_of_ne hne ..
  have hown : s'.acquired t = some f := update_self ..
  -- no fence of the disk was stored, so nobody's request is in flight
  have hempty : ∀ u g, s.acquired u = some g → ¬ Stored g s := by
    rintro u g hg ⟨h, hh, -⟩
    rw [hi.keyed u g hg, ← hkey, hnone] at hh
    cases hh
  have hne : ∀ u g, s.acquired u = some g → u ≠ t := by
    rintro u g hg rfl
    rw [hacq] at hg
    cases hg
  have hsplit : ∀ u g, s'.acquired u = some g → (u = t ∧ g = f) ∨ s.acquired u = some g := by
    intro u g hg
    rcases eq_or_ne u t with rfl | hu
    · exact .inl ⟨rfl, (Option.some.inj (hown.symm.trans hg)).symm⟩
    · exact .inr ((hother u hu).symm.trans hg)
  -- and a fence that was created before is not the one in the store now
  have hold : ∀ u g, s.acquired u = some g → ¬ Stored g s' := by
    rintro u g hg ⟨h, hh, hn⟩
    obtain rfl : f = h := by simpa [s', hi.keyed u g hg, hkey] using hh
    exact hne u g hg (hi.drawn_once _ _ _ (hi.drawn u g hg) (hn ▸ hdrawn))
  have hstored : Stored f s' := ⟨f, update_self .., rfl⟩
  refine ⟨⟨hi.drawn_once, fun u g hg => ?_, fun u g hg => ?_, fun g hg => ?_,
    fun u g hg ha hs => ?_, fun u hu => ?_⟩, ⟨rfl, fun _ h => h, fun _ _ => rfl, hother,
    fun u g hg => (hother u (hne u g hg)).trans hg, fun h => h, .inl,
    fun u g hg hs => absurd hs (hold u g hg), fun u g hg _ hs => absurd hs (hempty u g hg)⟩,
    hown, hstored, hreq⟩
  · rcases hsplit u g hg with ⟨rfl, rfl⟩ | h
    · exact hdrawn
    · exact hi.drawn u g h
  · rcases hsplit u g hg with ⟨rfl, rfl⟩ | h
    · exact hkey
    · exact hi.keyed u g h
  · obtain rfl : f = g := by simpa [s', hkey] using hg
    exact ⟨t, f, hown, rfl, rfl⟩
  · rcases hsplit u g hg with ⟨rfl, rfl⟩ | h
    · exact .inr (hneeded ha)
    · exact absurd hs (hold u g h)
  · obtain ⟨g, hg, -, hs⟩ := hi.inFlight u hu
    exact absurd hs (hempty u g hg)

/-! ### Requests -/

section

variable {P : State → Prop} {α : Type}

/-- The requests that change nothing of the state. -/
def plain : Contract Op Reply := ⟨Op.Plain, fun _ _ => True⟩

theorem reads_plain : Reads plain := ⟨fun _ h => h⟩

theorem serves_plain (hP : (rules key).Stable (neededWorld location volumeID) t P) :
    (rules key).Serves (neededWorld location volumeID) t P plain where
  stable := hP
  step op s r s' hop hi hs hexec := by
    obtain rfl := exec_plain hop hexec.2
    exact ⟨hi, guar_refl, hs, trivial⟩

/-- Code that only reads keeps what is stable. -/
theorem plain_triple {x : Code α} (hP : (rules key).Stable (neededWorld location volumeID) t P)
    (hx : plain.UsesE x fun _ => True) :
    KeyTriple key location volumeID t P x (fun _ => P) :=
  (TripleE.of_usesE (serves_plain hP) hx).conseq (fun _ _ h => h) (fun _ _ _ h => h.2)
    fun _ _ _ _ => trivial

/-- The requests of code that has nothing to do with attachment fences. -/
def quiet (key : String) : Contract Op Reply where
  ok
    | .fenceSetObservation _ _ => True
    | .fenceDelete f => ¬ Attachment f ∨ f.key ≠ key
    | op => op.Plain
  rep
    | .fenceSetObservation f _, r => ∀ g, r = .ok g → sameMutationFenceAuthority g f = true
    | .fenceList pre, r => ∀ f ∈ r, hasPrefix f.key pre = true
    | _, _ => True

/-- What an unsuccessful change of the store, or an observation, does. -/
theorem setObservation_step (hi : Inv key s) (o : Option MutationObservation) :
    let s' := { s with fences := (s.fences.setObservation f o).2 }
    Inv key s' ∧ Guar t s s' ∧
      ∀ g, (s.fences.setObservation f o).1 = .ok g → sameMutationFenceAuthority g f = true := by
  have hsame := FenceStore.setObservation_same s.fences f o
  rcases FenceStore.setObservation_cases s.fences f o with ⟨r, h, -⟩ | ⟨hf, h⟩
  · rw [h] at hsame ⊢
    exact ⟨hi, guar_refl, hsame⟩
  · rw [h] at hsame ⊢
    obtain ⟨hi', hg⟩ := observe_step (t := t) hi o hf
    exact ⟨hi', hg, hsame⟩

theorem fenceDelete_step (hi : Inv key s)
    (hfree : s.fences f.key = some f → f.key = key → Free t f.attempt s) :
    let s' := { s with fences := (s.fences.delete f).2 }
    Inv key s' ∧ Guar t s s' := by
  rcases FenceStore.delete_cases s.fences f with ⟨r, h⟩ | ⟨hf, h⟩
  · rw [h]
    exact ⟨hi, guar_refl⟩
  · rw [h]
    exact delete_step hi hf (hfree hf)

/-- A fence of the disk that is no attachment fence is free. -/
theorem free_of_not_attachment (hi : Inv key s) (hf : s.fences f.key = some f) (hkey : f.key = key)
    (h : ¬ Attachment f) : Free t f.attempt s := by
  obtain ⟨u, g, hg, hn, hintent⟩ := hi.stored f (hkey ▸ hf)
  refine ⟨u, g, hg, hn, fun ha => absurd ?_ h⟩
  simpa only [Attachment, decodeDiskAttachmentIntent, hintent] using ha

theorem serves_quiet (hP : Lasting key location volumeID t P) :
    (rules key).Serves (neededWorld location volumeID) t P (quiet key) where
  stable := hP.stable
  step op s r s' hop hi hs hexec := by
    replace hexec : exec location volumeID t op s r s' := hexec.2
    cases op with
    | fenceSetObservation f o =>
      obtain ⟨rfl, rfl⟩ := hexec
      obtain ⟨hi', hg, hr⟩ := setObservation_step (t := t) (f := f) hi o
      exact ⟨hi', hg, hP.quiet _ _ hs rfl rfl hg.onward, hr⟩
    | fenceDelete f =>
      obtain ⟨rfl, rfl⟩ := hexec
      obtain ⟨hi', hg⟩ := fenceDelete_step (t := t) (f := f) hi fun hf hkey =>
        hop.elim (free_of_not_attachment hi hf hkey) fun hne => absurd hkey hne
      exact ⟨hi', hg, hP.quiet _ _ hs rfl rfl hg.onward, trivial⟩
    | fenceList =>
      obtain ⟨hr, rfl⟩ := hexec
      exact ⟨hi, guar_refl, hs, fun f hf => (hr f hf).1⟩
    | createDisk | attachDisk | detachDisk | fenceCreate | fenceSetReceipt | newAttempt =>
      exact hop.elim
    | _ =>
      obtain rfl := exec_plain (by trivial) hexec
      exact ⟨hi, guar_refl, hs, trivial⟩

/-- Code that has nothing to do with attachment fences keeps what lasts. -/
theorem quiet_triple {x : Code α} {Q : α → Prop} (hP : Lasting key location volumeID t P)
    (hx : (quiet key).UsesE x Q) :
    KeyTriple key location volumeID t P x (fun a s => Q a ∧ P s) :=
  (TripleE.of_usesE (serves_quiet hP) hx).conseq (fun _ _ h => h) (fun _ _ _ h => h)
    fun _ _ _ _ => trivial

theorem attempt_of_authority {g : MutationFence} (h : sameMutationFenceAuthority g f = true) :
    g.attempt = f.attempt := by
  simp only [sameMutationFenceAuthority, sameMutationFenceAttempt, Bool.and_eq_true,
    beq_iff_eq] at h
  exact h.1.2

theorem not_attachment_of_authority {g : MutationFence}
    (h : sameMutationFenceAuthority g f = true) (hf : ¬ Attachment f) : ¬ Attachment g := by
  simp only [sameMutationFenceAuthority, sameMutationFenceAttempt, Bool.and_eq_true,
    beq_iff_eq] at h
  simpa only [Attachment, decodeDiskAttachmentIntent, h.1.1.2] using hf

/-- A fence of the disk that is read was created by somebody. -/
theorem call_fenceGet (hP : (rules key).Stable (neededWorld location volumeID) t P) {k : String}
    (hkey : k = key) :
    KeyTriple key location volumeID t P (call (.fenceGet k))
      (fun r s => P s ∧ ∀ g, r = some g → Known g.attempt (decodeDiskAttachmentIntent g) s) := by
  refine .perform hP fun s r s' hi hs hexec => ?_
  obtain ⟨-, rfl, rfl⟩ := hexec
  refine ⟨hi, guar_refl, hs, fun g hg => ?_⟩
  obtain ⟨u, f, hf, hn, hintent⟩ := hi.stored g (hkey ▸ hg)
  exact ⟨u, f, hf, hn, by simp only [decodeDiskAttachmentIntent, hintent]⟩

/-- A pure check, whose error nobody looks at. -/
theorem withErr_check {R : Rules State} {W : Sem State Op Reply} {y : Except Err α}
    {g : Err → Err} {Q : α → State → Prop} (h : ∀ a, y = .ok a → ∀ s, R.inv s → P s → Q a s) :
    R.TripleE W t P (withErr (check y) g) Q (fun _ _ => True) := by
  have hcheck : R.TripleE W t P (check y) Q (fun _ _ => True) :=
    TripleE.check h fun _ _ _ _ _ => trivial
  exact TripleE.withErr hcheck fun _ _ _ h => h

theorem call_newAttempt :
    KeyTriple key location volumeID t (Idle t) (call .newAttempt) (fun n => Drawn t n) := by
  refine .perform lasting_idle.stable fun s r s' hi hs hexec => ?_
  obtain ⟨-, hnew, rfl⟩ := hexec
  -- the new attempt was drawn by nobody else
  refine ⟨⟨fun u v n => drawn_once_cons hi.drawn_once hnew, fun u f hf => .tail _ (hi.drawn u f hf), hi.keyed, hi.stored,
    hi.pending, hi.inFlight⟩, ⟨rfl, fun _ h => .tail _ h, fun _ _ => rfl, fun _ _ => rfl,
    fun _ _ h => h, fun h => h, .inl, fun _ _ _ h => h, fun _ _ _ _ h h' => absurd h h'⟩,
    hs, .head _⟩

theorem call_fenceCreate (hkey : f.key = key) :
    KeyTriple key location volumeID t (Drawn t f.attempt)
      (call (.fenceCreate f))
      (fun r s => (r.2 = true → r.1 = f ∧ (Attachment f → Held t f s)) ∧
        (r.2 = false → Idle t s)) := by
  refine .perform stable_drawn fun s r s' hi hs hexec => ?_
  obtain ⟨hneeded, rfl, rfl⟩ := hexec
  rcases FenceStore.create_cases s.fences f with ⟨_, _, h⟩ | ⟨hnone, h⟩
  · simp only [h]
    exact ⟨hi, guar_refl, nofun, fun _ => hs.1⟩
  · simp only [h, if_true]
    obtain ⟨hi', hg, hacq, hst, hreq⟩ := create_step hi hs hkey hnone (hneeded hnone)
    exact ⟨hi', hg, fun _ => ⟨trivial, fun ha => ⟨hacq, ha, hst, hreq⟩⟩, nofun⟩

theorem fencesDelete_triple (hP : Lasting key location volumeID t P)
    (hfree : ∀ s, P s → f.key = key → Free t f.attempt s) :
    KeyTriple key location volumeID t P (fencesDelete f) (fun _ => P) := by
  refine .bind (TripleE.perform (M := fun _ => P) hP.stable fun s r s' hi hs hexec => ?_)
    fun r => TripleE.check (fun _ _ _ _ h => h) fun _ _ _ _ _ => trivial
  obtain ⟨-, rfl, rfl⟩ := hexec
  obtain ⟨hi', hg⟩ := fenceDelete_step (t := t) (f := f) hi fun _ hkey => hfree s hs hkey
  exact ⟨hi', hg, hP.quiet _ _ hs rfl rfl hg.onward⟩

/-- A thread clears its own fence before it has dispatched anything. -/
theorem fencesDelete_held :
    KeyTriple key location volumeID t (Held t f) (fencesDelete f) (fun _ _ => True) := by
  refine .bind (TripleE.perform (M := fun _ _ => True) stable_held
    fun s r s' hi hs hexec => ?_) fun r => TripleE.check (fun _ _ _ _ h => h) fun _ _ _ _ h => h
  obtain ⟨-, rfl, rfl⟩ := hexec
  obtain ⟨hi', hg⟩ := fenceDelete_step (t := t) (f := f) hi fun _ _ => hs.free
  exact ⟨hi', hg, trivial⟩

theorem clearFence_held {cause : Err} {wrap : Err → Err} {Q : α → State → Prop} :
    KeyTriple key location volumeID t (Held t f) (clearFence f cause wrap : Code α) Q := by
  refine .bind (TripleE.attempt fencesDelete_held) fun r => ?_
  cases r with
  | ok => exact .throw_any
  | error => exact .throw_any

theorem call_attachDisk {l vmUUID diskUUID : String} :
    KeyTriple key location volumeID t (Held t f)
      (call (.attachDisk l vmUUID diskUUID))
      (fun r s => s.acquired t = some f ∧ (r = .error .mutationBlocked → Held t f s)) := by
  refine .perform stable_held fun s r s' hi hs hexec => ?_
  rcases hexec.2 with ⟨rfl, rfl⟩ | ⟨hr, rfl⟩
  · exact ⟨hi, guar_refl, hs.acquired, fun _ => hs⟩
  · obtain ⟨hi', hg⟩ := dispatch_step hi hs (.attach vmUUID)
    exact ⟨hi', hg, hs.acquired, fun h => absurd h hr⟩

theorem call_detachDisk {l vmUUID diskUUID : String} :
    KeyTriple key location volumeID t (Held t f)
      (call (.detachDisk l vmUUID diskUUID))
      (fun r s => s.acquired t = some f ∧ (r = .error .mutationBlocked → Held t f s)) := by
  refine .perform stable_held fun s r s' hi hs hexec => ?_
  rcases hexec.2 with ⟨rfl, rfl⟩ | ⟨hr, rfl⟩
  · exact ⟨hi, guar_refl, hs.acquired, fun _ => hs⟩
  · obtain ⟨hi', hg⟩ := dispatch_step hi hs (.detach vmUUID)
    exact ⟨hi', hg, hs.acquired, fun h => absurd h hr⟩

end

end InSpaceKube.Csi.AttachFence
