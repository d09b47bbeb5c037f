/-
InSpaceKube/NodeLB/AnchorDiff.lean

The write of the relation fence to a VM firewall anchor
(`commitVMFirewallAnchorDiff`, over `updateVMFirewallAnchor`).

The fence has read a snapshot of the annotations and wants other values.  What
is written is the difference: the anchor may have been changed by others since,
and on a conflict the difference is applied to the fresh object, where every
key of it must still have its value of the snapshot.

The loops over the two maps edit a key each: a key of the wanted map is set, a
key of the snapshot alone is deleted (`edits`).  An `AList` is a map with the
order it is ranged over in, so any order is covered.  A conflict means that the
update is not applied; any other error leaves that open.  The anchor is one that
was read, so it is not nil.
-/
import InSpaceKube.Prog.Threads
import InSpaceKube.Prog.Versioned
import InSpaceKube.Go
import Mathlib.Data.List.AList

namespace InSpaceKube.NodeLB.AnchorDiff

open Prog Rules

abbrev Annotations := AList fun _ : String => String

structure ConfigMap where
  uid : String
  resourceVersion : ℕ
  annotations : Annotations

/-- Where an error comes from, and its text. -/
inductive Err
  | mutator (text : String)
  | other (text : String)

/-- What an update returns. -/
inductive Updated
  | ok (updated : ConfigMap)
  | conflict (text : String)
  | failed (text : String)

inductive Op
  | update (next : ConfigMap)
  | get

def Reply : Op → Type
  | .update _ => Updated
  | .get => Except String ConfigMap

abbrev M := ExceptT Err (Prog Op Reply)

def cmsUpdate (next : ConfigMap) : M Updated := perform (Op.update next)

def cmsGet : M (Except String ConfigMap) := perform Op.get

/-- The call: where it writes, the anchor it was made from, and the maps. -/
structure Commit where
  /-- The error of `vmFirewallNamespace`. -/
  namespaceErr : Option String
  name : String
  anchor : ConfigMap
  snapshot : Annotations
  values : Annotations

/-! ### The code -/

section

variable (call : Commit)

/-- The end of a write: it is read back and must match. -/
def readBack (next updated : ConfigMap) : M Bool := do
  match ← cmsGet with
  | .error e => throw (.other ("public-node-local: read back VM firewall anchor " ++ call.name ++ ": " ++ e))
  | .ok verified => do
    check (failIf (verified.uid ≠ call.anchor.uid ∨ updated.uid ≠ call.anchor.uid)
      (.other ("public-node-local: VM firewall anchor " ++ call.name
        ++ " identity changed during the update")))
    check (failIf (verified.resourceVersion ≠ updated.resourceVersion ∨
        ¬ verified.annotations.entries.Perm next.annotations.entries)
      (.other ("public-node-local: VM firewall anchor " ++ call.name ++ " failed exact readback")))
    return true

/-- One attempt of `updateVMFirewallAnchor`; `mutate` gives the changed object, if
it changes anything. -/
def tryUpdate (mutate : ConfigMap → Except Err (Option ConfigMap)) (current : ConfigMap)
    (onConflict : String → M Bool) : M Bool := do
  match ← check (mutate current) with
  | none => return false
  | some next => do
    match ← cmsUpdate next with
    | .conflict e => onConflict e
    | .failed e => throw (.other ("public-node-local: update VM firewall anchor "
        ++ call.name ++ ": " ++ e))
    | .ok updated => readBack call next updated

/-- Its loop: a conflict is retried on the fresh object. -/
def updateFrom (mutate : ConfigMap → Except Err (Option ConfigMap)) : (retries : ℕ) →
    (current : ConfigMap) → M Bool
  | 0, current => tryUpdate call mutate current fun e =>
    throw (.other ("public-node-local: update VM firewall anchor " ++ call.name ++ ": " ++ e))
  | retries + 1, current => tryUpdate call mutate current fun _ => do
    match ← cmsGet with
    | .error e => throw (.other ("public-node-local: re-read VM firewall anchor "
        ++ call.name ++ " after a conflict: " ++ e))
    | .ok fresh => do
      check (failIf (fresh.uid ≠ call.anchor.uid)
        (.other ("public-node-local: VM firewall anchor " ++ call.name ++ " identity changed")))
      updateFrom mutate retries fresh

def updateVMFirewallAnchor (mutate : ConfigMap → Except Err (Option ConfigMap)) : M Bool := do
  check (call.namespaceErr.elim (.ok ()) fun e => .error (.other e))
  updateFrom call mutate 1 call.anchor

/-- The keys that differ, each with the value it is to have. -/
def edits (snapshot values : Annotations) : List (String × Option String) :=
  (values.entries.filter fun e => snapshot.lookup e.1 ≠ some e.2).map (fun e => (e.1, some e.2)) ++
  (snapshot.keys.filter fun key => key ∉ values).map fun key => (key, none)

/-- Each of them must still have its value of the snapshot. -/
def applyEdits (snapshot : Annotations) : List (String × Option String) → Annotations →
    Except Err Annotations
  | [], current => .ok current
  | (key, want) :: rest, current =>
    if snapshot.lookup key ≠ current.lookup key then
      .error (.mutator ("public-node-local: VM firewall anchor annotation " ++ key
        ++ " changed under the relation fence"))
    else applyEdits snapshot rest (want.elim (current.erase key) fun w => current.insert key w)

/-- The mutator of `commitVMFirewallAnchorDiff`. -/
def mutateDiff (cm : ConfigMap) : Except Err (Option ConfigMap) :=
  if cm.uid ≠ call.anchor.uid then
    .error (.mutator ("public-node-local: VM firewall anchor identity changed before the relation "
      ++ "fence update"))
  else do
    let annotations ← applyEdits call.snapshot (edits call.snapshot call.values) cm.annotations
    return if edits call.snapshot call.values = [] then none
      else some { cm with annotations := annotations }

def commitVMFirewallAnchorDiff : M Unit := do
  let _ ← updateVMFirewallAnchor call (mutateDiff call)
  return ()

end

/-! ### The difference -/

/-- The write replaces `old` by `new`: the keys that differ between the snapshot
and the wanted map had their value of the snapshot and have the wanted one, and
every other key has the value it had. -/
structure Diff (snapshot values : Annotations) (old new : ConfigMap) : Prop where
  uid : new.uid = old.uid
  differ : ∀ key, snapshot.lookup key ≠ values.lookup key →
    old.annotations.lookup key = snapshot.lookup key ∧
      new.annotations.lookup key = values.lookup key
  same : ∀ key, snapshot.lookup key = values.lookup key →
    new.annotations.lookup key = old.annotations.lookup key

section

variable {snapshot values : Annotations}

theorem mem_edits {key : String} {want : Option String} :
    (key, want) ∈ edits snapshot values ↔
      snapshot.lookup key ≠ values.lookup key ∧ want = values.lookup key := by
  have hentry : ∀ w, (⟨key, w⟩ : Sigma fun _ => String) ∈ values.entries ↔ values.lookup key = some w :=
    fun w => AList.mem_lookup_iff.symm
  simp only [edits, List.mem_append, List.mem_map, List.mem_filter, decide_eq_true_eq]
  constructor
  · rintro (⟨⟨k, w⟩, ⟨hin, hne⟩, heq⟩ | ⟨k, ⟨hin, hnot⟩, heq⟩)
    · obtain ⟨rfl, rfl⟩ := Prod.mk.inj heq
      rw [(hentry w).1 hin]
      exact ⟨hne, rfl⟩
    · obtain ⟨rfl, rfl⟩ := Prod.mk.inj heq
      rw [AList.lookup_eq_none.2 hnot]
      exact ⟨fun hnone => AList.lookup_eq_none.1 hnone hin, rfl⟩
  · rintro ⟨hne, rfl⟩
    cases hvalue : values.lookup key with
    | some w => exact .inl ⟨⟨key, w⟩, ⟨(hentry w).2 hvalue, by rwa [hvalue] at hne⟩, rfl⟩
    | none =>
      refine .inr ⟨key, ⟨?_, AList.lookup_eq_none.1 hvalue⟩, rfl⟩
      rw [hvalue] at hne
      by_contra hnot
      exact hne (AList.lookup_eq_none.2 hnot)

theorem edits_nodup : ((edits snapshot values).map (·.1)).Nodup := by
  simp only [edits, List.map_append, List.map_map, Function.comp_def, List.map_id']
  refine List.nodup_append.2 ⟨?_, snapshot.keys_nodup.filter _, ?_⟩
  · exact values.keys_nodup.sublist (List.filter_sublist.map _)
  · rintro _ hkey _ hother rfl
    obtain ⟨e, he, rfl⟩ := List.mem_map.1 hkey
    have hnot := of_decide_eq_true (List.mem_filter.1 hother).2
    exact hnot (List.mem_map.2 ⟨e, (List.mem_filter.1 he).1, rfl⟩)

/-- The edits change the keys they name, and no others. -/
theorem applyEdits_lookup {todo : List (String × Option String)} (hnodup : (todo.map (·.1)).Nodup)
    {old new : Annotations} (h : applyEdits snapshot todo old = .ok new) (key : String) :
    (∀ want, (key, want) ∈ todo → old.lookup key = snapshot.lookup key ∧ new.lookup key = want) ∧
      (key ∉ todo.map (·.1) → new.lookup key = old.lookup key) := by
  induction todo generalizing old with
  | nil =>
    cases h
    exact ⟨nofun, fun _ => rfl⟩
  | cons e rest ih =>
    obtain ⟨k, w⟩ := e
    obtain ⟨hfirst, hrest⟩ := List.nodup_cons.1 hnodup
    rw [applyEdits] at h
    split at h
    · cases h
    rename_i hsame
    obtain ⟨hedited, hleft⟩ := ih hrest h
    -- the rest does not name the key of the first edit again
    have hset : (w.elim (old.erase k) fun w => old.insert k w).lookup k = w := by
      cases w <;> simp
    have hframe : key ≠ k → (w.elim (old.erase k) fun w => old.insert k w).lookup key =
        old.lookup key := by
      intro hne
      cases w <;> simp [hne]
    by_cases hkey : key = k
    · subst hkey
      refine ⟨fun want hwant => ?_, fun hnot => absurd (.head _) hnot⟩
      have hnew : want = w := by
        rcases List.mem_cons.1 hwant with heq | hin
        · exact (Prod.mk.inj heq).2
        · exact absurd (List.mem_map.2 ⟨_, hin, rfl⟩) hfirst
      subst hnew
      exact ⟨(not_ne_iff.1 hsame).symm, (hleft hfirst).trans hset⟩
    · rw [hframe hkey] at hedited hleft
      refine ⟨fun want hwant => ?_, fun hnot => hleft fun hin => hnot (.tail _ hin)⟩
      rcases List.mem_cons.1 hwant with heq | hin
      · exact absurd (Prod.mk.inj heq).1 hkey
      · exact hedited want hin

end

/-- What the mutator makes of an object. -/
theorem mutateDiff_ok {call : Commit} {current : ConfigMap} {next : Option ConfigMap}
    (h : mutateDiff call current = .ok next) :
    (next = none → ∀ key, call.snapshot.lookup key = call.values.lookup key) ∧
    ∀ new, next = some new → new.resourceVersion = current.resourceVersion ∧
      Diff call.snapshot call.values current new := by
  unfold mutateDiff at h
  split at h
  · cases h
  obtain ⟨_, happly, h⟩ := except_bind_ok h
  have hlookup := applyEdits_lookup edits_nodup happly
  have hnext := (Except.ok.inj h).symm
  subst hnext
  split
  · rename_i hempty
    refine ⟨fun _ key => ?_, nofun⟩
    by_contra hne
    have hin := mem_edits.2 ⟨hne, rfl⟩
    rw [hempty] at hin
    cases hin
  · refine ⟨nofun, ?_⟩
    rintro _ heq
    cases heq
    refine ⟨rfl, rfl, fun key hne => (hlookup key).1 _ (mem_edits.2 ⟨hne, rfl⟩), fun key heq => ?_⟩
    refine (hlookup key).2 fun hin => ?_
    obtain ⟨e, he, rfl⟩ := List.mem_map.1 hin
    exact (mem_edits.1 he).1 heq

/-! ### The server -/

def stamp : InSpaceKube.Stamp ConfigMap where
  version cm := cm.resourceVersion
  stamp n cm := { cm with resourceVersion := n }
  version_stamp _ _ := rfl

/-- The anchor, and the writes of the call: the version each replaced and the one
it stored. -/
structure State where
  anchor : Versioned ConfigMap
  writes : List (ConfigMap × ConfigMap)

def State.apply (s : State) (replaced next : ConfigMap) : State where
  anchor := s.anchor.put stamp next
  writes := (replaced, stamp.stamp (s.anchor.next stamp) next) :: s.writes

/-- An update is applied to the version it was made from only, and its reply may
be lost. -/
def exec : (op : Op) → State → Reply op → State → Prop
  | .update next, s, r, s' =>
    (s' = s ∧ ∀ updated, r ≠ Updated.ok updated) ∨
    ∃ replaced, s.anchor.current = some replaced ∧ replaced.uid = next.uid ∧
      replaced.resourceVersion = next.resourceVersion ∧ s' = s.apply replaced next ∧
      ∀ text, r ≠ Updated.conflict text
  | .get, s, r, s' => s' = s ∧ ∀ cm, r = Except.ok cm → s.anchor.current = some cm

/-- The other writers. -/
inductive Others : State → State → Prop
  | put (s : State) (o : ConfigMap) : Others s ⟨s.anchor.put stamp o, s.writes⟩
  | drop (s : State) : Others s ⟨s.anchor.drop, s.writes⟩

def server : Sem State Op Reply where
  exec _ := exec
  env := Others

section

variable (call : Commit)

/-- The call starts from an anchor that was read at some time. -/
def Init (s : State) : Prop :=
  s.anchor.Ordered stamp ∧ call.anchor ∈ s.anchor.log ∧ s.writes = []

/-- One call is made. -/
def Runs (t : Tid) (p : Prog Op Reply (Except Err Unit)) : Prop :=
  t = 0 ∧ p = (commitVMFirewallAnchorDiff call).run

/-- The call has made one write, which is the difference; none where nothing
differs. -/
def Written (writes : List (ConfigMap × ConfigMap)) : Prop :=
  (writes = [] ∧ ∀ key, call.snapshot.lookup key = call.values.lookup key) ∨
  ∃ replaced stored, writes = [(replaced, stored)] ∧ Diff call.snapshot call.values replaced stored

/-- An object that was read, before any write. -/
def Holding (current : ConfigMap) (s : State) : Prop :=
  current ∈ s.anchor.log ∧ s.writes = []

/-- Nothing is written when the mutator fails. -/
def Refused (e : Err) (s : State) : Prop := (∃ text, e = .mutator text) → s.writes = []

def rules : Rules State where
  inv s := s.anchor.Ordered stamp
  guar t _ _ := t = 0
  fresh t s := t = 0 → Holding call.anchor s

end

section

variable {call : Commit} {s s' : State}

theorem interfere_frame (h : (rules call).Interfere server 0 s s') :
    s'.writes = s.writes ∧ s.anchor.log ⊆ s'.anchor.log := by
  obtain ⟨-, -, henv | ⟨u, hu, hguar⟩⟩ := h
  · cases henv with
    | put => exact ⟨rfl, List.subset_cons_self _ _⟩
    | drop => exact ⟨rfl, fun _ h => h⟩
  · exact absurd hguar hu

theorem holding_stable (current : ConfigMap) : (rules call).Stable server 0 (Holding current) := by
  intro _ _ ⟨hin, hnone⟩ h
  obtain ⟨hwrites, hlog⟩ := interfere_frame h
  exact ⟨hlog hin, hwrites.trans hnone⟩

/-- What speaks of the writes only is stable. -/
theorem writes_stable (P : List (ConfigMap × ConfigMap) → Prop) :
    (rules call).Stable server 0 fun s => P s.writes := by
  intro _ _ hP h
  rw [(interfere_frame h).1]
  exact hP

/-- Reading gives an object that was stored. -/
theorem cmsGet_triple {P : List (ConfigMap × ConfigMap) → Prop} {E : Err → State → Prop} :
    (rules call).TripleE server 0 (fun s => P s.writes) cmsGet
      (fun r s => P s.writes ∧ ∀ cm, r = .ok cm → cm ∈ s.anchor.log) E := by
  refine .perform (writes_stable P) fun s r s' hinv hP hexec => ?_
  obtain ⟨rfl, hread⟩ := hexec
  exact ⟨hinv, rfl, hP, fun cm hcm => Versioned.current_mem (hread cm hcm)⟩

/-- An update replaces the object the mutator was given: no other version fits. -/
theorem cmsUpdate_triple {current next : ConfigMap} {E : Err → State → Prop}
    (hversion : next.resourceVersion = current.resourceVersion)
    (hdiff : Diff call.snapshot call.values current next) :
    (rules call).TripleE server 0 (Holding current) (cmsUpdate next) (fun r s => match r with
      | .ok _ => Written call s.writes
      | .conflict _ => s.writes = []
      | .failed _ => True) E := by
  refine .perform (holding_stable current) fun s r s' hinv hhold hexec => ?_
  rcases hexec with ⟨rfl, hno⟩ | ⟨replaced, hcur, -, hfits, rfl, hno⟩
  · refine ⟨hinv, rfl, ?_⟩
    cases r with
    | ok updated => exact absurd rfl (hno updated)
    | conflict => exact hhold.2
    | failed => trivial
  · refine ⟨hinv.put, rfl, ?_⟩
    cases r with
    | ok =>
      obtain rfl : replaced = current := hinv.current_eq hcur hhold.1 (hfits.trans hversion)
      refine .inr ⟨replaced, _, congrArg (_ :: ·) hhold.2, ?_⟩
      exact ⟨hdiff.uid, hdiff.differ, hdiff.same⟩
    | conflict text => exact absurd rfl (hno text)
    | failed => trivial

/-- An error that is not the mutator's may leave a write. -/
theorem other_refused {text : String} : Refused (.other text) s := nofun

theorem failIf_refused {P : Prop} [Decidable P] {text : String} {e : Err}
    (h : failIf P (Err.other text) = .error e) : Refused e s := by
  unfold failIf at h
  split at h
  · cases h
    exact other_refused
  · cases h

theorem readBack_triple (next updated : ConfigMap) :
    (rules call).TripleE server 0 (fun s => Written call s.writes) (readBack call next updated)
      (fun _ s => Written call s.writes) Refused := by
  refine .bind (cmsGet_triple (P := Written call)) fun r => ?_
  cases r with
  | error => exact .throw fun _ _ _ => other_refused
  | ok =>
    refine .bind (.check (fun _ _ _ _ h => h) fun _ herr _ _ _ => failIf_refused herr) fun _ => ?_
    refine .bind (.check (fun _ _ _ _ h => h) fun _ herr _ _ _ => failIf_refused herr) fun _ => ?_
    exact .pure fun _ _ h => h.1

/-- One attempt: a conflict leaves nothing written. -/
theorem tryUpdate_triple (current : ConfigMap) {onConflict : String → M Bool}
    (hconflict : ∀ e, (rules call).TripleE server 0 (fun s => s.writes = []) (onConflict e)
      (fun _ s => Written call s.writes) Refused) :
    (rules call).TripleE server 0 (Holding current)
      (tryUpdate call (mutateDiff call) current onConflict)
      (fun _ s => Written call s.writes) Refused := by
  refine .check_bind (fun next hmutate => ?_) fun _ _ _ h _ => h.2
  obtain ⟨hsame, hdiff⟩ := mutateDiff_ok hmutate
  cases next with
  | none => exact .pure fun _ _ h => .inl ⟨h.2, hsame rfl⟩
  | some next =>
    obtain ⟨hversion, hdiff⟩ := hdiff next rfl
    refine .bind (cmsUpdate_triple hversion hdiff) fun r => ?_
    cases r with
    | ok updated => exact readBack_triple next updated
    | conflict e => exact hconflict e
    | failed => exact .throw fun _ _ _ => other_refused

/-- The attempts: each holds an object that was read and has written nothing
before. -/
theorem updateFrom_triple (retries : ℕ) (current : ConfigMap) :
    (rules call).TripleE server 0 (Holding current)
      (updateFrom call (mutateDiff call) retries current) (fun _ s => Written call s.writes)
      Refused := by
  induction retries generalizing current with
  | zero => exact tryUpdate_triple current fun e => .throw fun _ _ _ => other_refused
  | succ _ ih =>
    refine tryUpdate_triple current fun _ => .bind (cmsGet_triple (P := (· = []))) fun r => ?_
    cases r with
    | error => exact .throw fun _ _ _ => other_refused
    | ok fresh =>
      refine .bind (.check (fun _ _ _ _ h => h) fun _ herr _ _ _ => failIf_refused herr) fun _ => ?_
      exact (ih fresh).pre fun s _ h => ⟨h.2 fresh rfl, h.1⟩

/-- What the call leaves, by its result. -/
def Post (call : Commit) (t : Tid) (r : Except Err Unit) (s : State) : Prop :=
  t = 0 → (∀ u, r = .ok u → Written call s.writes) ∧ ∀ e, r = .error e → Refused e s

theorem commit_verified : (rules call).Verified server (Runs call) (Init call) (Post call) where
  init s h := ⟨h.1, fun _ _ => h.2⟩
  env s s' hinv henv := by
    cases henv with
    | put => exact hinv.put
    | drop => exact hinv.drop
  fresh t s s' h hstep := by
    rintro rfl
    exact holding_stable _ s s' (h rfl) hstep
  stable t r s s' h hstep := by
    rintro rfl
    unfold Refused
    rw [(interfere_frame hstep).1]
    exact h rfl
  start t p s hstart hinv hfresh := by
    obtain ⟨rfl, rfl⟩ := hstart
    have htriple : (rules call).TripleE server 0 (Holding call.anchor)
        (commitVMFirewallAnchorDiff call) (fun _ s => Written call s.writes) Refused := by
      refine .bind (.check_bind (fun _ _ => updateFrom_triple 1 call.anchor) ?_)
        fun _ => .pure fun _ _ h => h
      exact fun _ _ _ h _ => h.2
    exact htriple.wp hinv (hfresh rfl) (fun _ _ h _ => ⟨fun _ _ => h, nofun⟩)
      fun e s h _ => ⟨nofun, fun _ he => Except.error.inj he ▸ h⟩

/-- **The write of the relation fence.**  Whatever the other writers do, a call
that succeeds has made one write: it changes the keys that differ between the
snapshot and the wanted map, which had their value of the snapshot in the version
it replaced, to the wanted values, and leaves every other key as it was there.
With no difference there is no write, and there is none when the mutator fails. -/
theorem anchorDiff_written {c : InSpaceKube.Config State Op Reply (Except Err Unit)}
    (h : Reachable server (Runs call) (Init call) c) {r : Except Err Unit}
    (hret : c.threads 0 = .running (.ret r)) :
    (∀ u, r = .ok u → Written call c.shared.writes) ∧
      ∀ text, r = .error (.mutator text) → c.shared.writes = [] := by
  obtain ⟨hok, herr⟩ := sound_ret commit_verified h hret rfl
  exact ⟨hok, fun text hr => herr _ hr ⟨text, rfl⟩⟩

end

/-! ### A conflict -/

/-- A server that answers, by the stored version. -/
def answering : server.Driver 0 where
  answer
    | .update next, s => match s.anchor.current with
        | some replaced =>
          if replaced.uid = next.uid ∧ replaced.resourceVersion = next.resourceVersion then
            some (Updated.ok (stamp.stamp (s.anchor.next stamp) next), s.apply replaced next)
          else some (Updated.conflict "the object has been modified", s)
        | none => some (Updated.failed "not found", s)
    | .get, s => some (s.anchor.current.elim (.error "not found") .ok, s)
  sound op s r s' h := by
    cases op with
    | get =>
      cases h
      refine ⟨rfl, fun cm hcm => ?_⟩
      cases hcur : s.anchor.current with
      | none => rw [hcur] at hcm; cases hcm
      | some => rw [hcur] at hcm; cases hcm; rfl
    | update =>
      dsimp only at h
      split at h
      · rename_i replaced hcur
        split at h
        · rename_i hfits
          cases h
          exact .inr ⟨replaced, hcur, hfits.1, hfits.2, rfl, nofun⟩
        · cases h
          exact .inl ⟨rfl, nofun⟩
      · cases h
        exact .inl ⟨rfl, nofun⟩

/-- The fence sets `state` and deletes `since`; `hold` was written by another. -/
def movedCall : Commit where
  namespaceErr := none
  name := "anchor"
  anchor := ⟨"u", 1, [⟨"state", "Issued"⟩, ⟨"since", "3"⟩].toAList⟩
  snapshot := [⟨"state", "Issued"⟩, ⟨"since", "3"⟩].toAList
  values := [⟨"state", "Settled"⟩].toAList

def movedState : State where
  anchor := ⟨[⟨"u", 2, [⟨"hold", "1"⟩, ⟨"state", "Issued"⟩, ⟨"since", "3"⟩].toAList⟩,
    movedCall.anchor], true⟩
  writes := []

def movedRun : State × Prog Op Reply (Except Err Unit) :=
  answering.drive 5 movedState (commitVMFirewallAnchorDiff movedCall).run

theorem anchorDiff_written_moved : ∃ c : InSpaceKube.Config State Op Reply (Except Err Unit),
    Reachable server (Runs movedCall) (Init movedCall) c ∧ c.threads 0 = .running (.ret (.ok ())) ∧
    c.shared.writes.length = 1 ∧ Written movedCall c.shared.writes := by
  have hinit : Init movedCall movedState := by
    refine ⟨List.pairwise_pair.2 (by decide), .tail _ (.head _), rfl⟩
  have h := answering.started (r := movedRun) (Reachable.init hinit) rfl
    (show Runs movedCall 0 _ from ⟨rfl, rfl⟩) rfl
  obtain ⟨c, hc, hshared, hthreads⟩ := h.named
  have hret : c.threads 0 = .running (.ret (.ok ())) := hthreads ▸ rfl
  exact ⟨c, hc, hret, hshared ▸ rfl, (anchorDiff_written hc hret).1 () rfl⟩

end InSpaceKube.NodeLB.AnchorDiff
