/-
InSpaceKube/NodeLB/ReceiptSystem.lean

Any number of controllers over one API server.

The owners are stored with versions; a write fits if it was made from the stored
one.  A write whose reply is lost may have been stored, or may be stored later,
as long as it fits.  Requests to the cloud that went out are `flights` until
they end, and none lasts longer than `mutationTimeout`.  What the cloud says is
arbitrary.  Everything that was served is recorded.

`Inv` says what the habit of the code (`receiptHabit`) makes of the store.

* Every version of an owner that was written by the code was made from the one
  before it, by one of the changes of the habit, on grounds the writer had when
  the request went out (`Stored`).  This holds because a version names one entry
  of the log: what was read under it is what was written over.
* Issue ids are drawn once, so a receipt is known by its id: where it comes from,
  and when it was issued (`Stamped`).
* On an anchor a staged delete excludes every other receipt, and stays until the
  anchor is gone (`Sound`, `Inv.sticks`).
-/
import InSpaceKube.NodeLB.AnchorHabit
import InSpaceKube.Prog.Record
import InSpaceKube.Prog.Versioned
import Mathlib.Logic.Function.Basic

namespace InSpaceKube.NodeLB.Receipts

open Prog

/-! ### The API server and the requests under way -/

/-- The versions of owners. -/
def objectStamp : InSpaceKube.Stamp Object where
  version := Object.version
  stamp n o := { o with version := n }
  version_stamp _ _ := rfl

/-- A request that went out to the cloud and may still commit. -/
structure Flight where
  op : Op
  sentAt : Time

/-- `old` has the issue ids there were at the start.  `late` has the writes that
failed and may still be stored. -/
structure State where
  store : Ref → Versioned Object
  clock : Time
  old : List String
  late : List (Ref × Object)
  flights : List Flight
  served : List (Tid × Event Op Reply)

namespace State

variable (s : State) (ref : Ref) (o : Object)

/-- The object as it is stored next. -/
def stamped : Object := objectStamp.stamp ((s.store ref).next objectStamp) o

def put : State :=
  { s with store := Function.update s.store ref ((s.store ref).put objectStamp o) }

def drop : State := { s with store := Function.update s.store ref (s.store ref).drop }

def note (t : Tid) (op : Op) (r : Reply op) : State := { s with served := (t, ⟨op, r⟩) :: s.served }

/-- The request goes out, unless the reply says that it did not. -/
def send (op : Op) (r : Except Err Unit) : State :=
  match r with
  | .ok _ => { s with flights := ⟨op, s.clock⟩ :: s.flights }
  | .error e =>
    if mutationKnownPreDispatch e then s else { s with flights := ⟨op, s.clock⟩ :: s.flights }

end State

/-- The write was made from the stored object. -/
def Fits (s : State) (ref : Ref) (o : Object) : Prop :=
  ∃ cur, (s.store ref).current = some cur ∧ cur.version = o.version

/-- No object under this name has had the UID. -/
def FreshUID (s : State) (ref : Ref) (uid : String) : Prop :=
  ∀ o ∈ (s.store ref).log, o.uid ≠ uid

inductive Updates (s : State) (ref : Ref) (o : Object) : Written → State → Prop
  | stored : Fits s ref o → Updates s ref o (.ok (s.stamped ref o)) (s.put ref o)
  | lost (e : Err) : Fits s ref o → Updates s ref o (.failed e) (s.put ref o)
  | refused (e : Err) : Updates s ref o (.conflict e) s
  | failed (e : Err) : Updates s ref o (.failed e) { s with late := (ref, o) :: s.late }

inductive Creates (s : State) (vmUUID : String) (o : Object) : Created → State → Prop
  | created (uid : String) : (s.store (.anchor vmUUID)).current = none →
      FreshUID s (.anchor vmUUID) uid →
      Creates s vmUUID o (.ok (s.stamped (.anchor vmUUID) { o with uid := uid }))
        (s.put (.anchor vmUUID) { o with uid := uid })
  | lost (uid : String) (e : Err) : (s.store (.anchor vmUUID)).current = none →
      FreshUID s (.anchor vmUUID) uid →
      Creates s vmUUID o (.failed e) (s.put (.anchor vmUUID) { o with uid := uid })
  | there : (s.store (.anchor vmUUID)).current ≠ none → Creates s vmUUID o .exists s
  | failed (e : Err) : Creates s vmUUID o (.failed e) s

/-- The effect of a request on all but the record. -/
def effect : (op : Op) → State → Reply op → State → Prop
  | .read (.get ref), s, r, s' => s' = s ∧ ∀ found, r = .ok found → (s.store ref).current = found
  | .read .now, s, r, s' => s' = s ∧ r = s.clock
  | .read .token, s, r, s' => s' = s ∧ ∀ n, r = .ok n → n ∉ s.old ∧
      ∀ u, (u, (⟨.read .token, .ok n⟩ : Event Op Reply)) ∉ s.served
  | .read _, s, _, s' => s' = s
  | .update ref o, s, r, s' => Updates s ref o r s'
  | .create vmUUID o, s, r, s' => Creates s vmUUID o r s'
  | .delete vmUUID uid, s, _, s' => s' = s ∨ s' = s.drop (.anchor vmUUID) ∧
      ∃ cur, (s.store (.anchor vmUUID)).current = some cur ∧ cur.uid = uid ∧ cur.finalizer = false
  | .relate ref fence, s, r, s' => s' = s.send (.relate ref fence) r
  | .put vmUUID receipt change, s, r, s' => s' = s.send (.put vmUUID receipt change) r
  | _, s, _, s' => s' = s

def exec (t : Tid) (op : Op) (s : State) (r : Reply op) (s' : State) : Prop :=
  ∃ s₁, effect op s r s₁ ∧ s' = s₁.note t op r

/-- What happens without the controllers: an operator asks for a repair, or a
migration is planned; time passes, but not past the end of a request; a request
ends. -/
inductive Quiet : State → State → Prop
  | edit (s : State) (ref : Ref) (cur : Object) (repair : Bool) (migration : MigrationText) :
      (s.store ref).current = some cur → Quiet s (s.put ref
        (cur.annotate fun a => { a with repair := repair, migration := migration }))
  | tick (s : State) (now : Time) : s.clock ≤ now →
      (∀ f ∈ s.flights, now ≤ f.sentAt + mutationTimeout) → Quiet s { s with clock := now }
  | ended (s : State) (flights : List Flight) : flights ⊆ s.flights →
      Quiet s { s with flights := flights }

/-- No receipt of any kind. -/
structure Clean (o : Object) : Prop where
  issued : o.relation.issued = .none
  receipt : o.fw.receipt = .none
  target : o.fw.deleteTarget = ""
  deleteIssued : o.fw.deleteIssued = .absent

/-- Owners also come and go, and a failed write may be stored after all. -/
inductive Env : State → State → Prop
  | quiet {s s' : State} : Quiet s s' → Env s s'
  | remove (s : State) (ref : Ref) : Env s (s.drop ref)
  | create (s : State) (ref : Ref) (o : Object) : (s.store ref).current = none →
      FreshUID s ref o.uid → Clean o → Env s (s.put ref o)
  | late (s : State) (ref : Ref) (o : Object) : (ref, o) ∈ s.late → Fits s ref o →
      Env s (s.put ref o)

def sem : Sem State Op Reply := ⟨exec, Env⟩

/-- One controller only.  Its passes are threads that are served one after the
other: once a later one has been served, an earlier one is over, be it that it has
returned or that the controller was restarted. -/
def oneByOne : Sem State Op Reply where
  exec t op s r s' := (∀ p ∈ s.served, p.1 ≤ t) ∧ exec t op s r s'
  env := Quiet

/-- Controllers make any of the calls, as often as they like. -/
def Calls (cfg : Config) (_ : Tid) (p : Prog Op Reply (Except Err Unit)) : Prop :=
  ∃ networkUUID rounds call, p = (Call.run cfg networkUUID rounds call).run

theorem records : Records sem State.served where
  exec := by
    rintro _ op s _ _ ⟨s₁, heffect, rfl⟩
    have hserved : s₁.served = s.served := by
      cases op with
      | read q =>
        cases q with
        | get => rw [heffect.1]
        | now => rw [heffect.1]
        | token => rw [heffect.1]
        | _ => exact congrArg State.served heffect
      | update => cases heffect <;> rfl
      | create => cases heffect <;> rfl
      | delete => rcases heffect with rfl | ⟨rfl, -⟩ <;> rfl
      | relate =>
        obtain rfl := heffect
        unfold State.send
        split
        · rfl
        · split <;> rfl
      | put =>
        obtain rfl := heffect
        unfold State.send
        split
        · rfl
        · split <;> rfl
      | _ => exact congrArg State.served heffect
    unfold State.note
    rw [hserved]
  env := by
    rintro _ _ henv
    cases henv with
    | quiet h => cases h <;> rfl
    | _ => rfl

/-! ### Issue ids -/

section Tokens

/-- The issue id an event draws. -/
def drawnToken : Event Op Reply → Option String
  | ⟨.read .token, .ok n⟩ => some n
  | _ => none

/-- The issue ids that were drawn. -/
def drawnTokens (served : List (Tid × Event Op Reply)) : List String :=
  served.filterMap fun p => drawnToken p.2

/-- The issue id a request goes out under. -/
def issueOf : Op → Option String
  | .relate _ fence => some fence.issueID
  | .put _ receipt _ => some receipt.issueID
  | _ => none

/-- The id was drawn, and the clock read for it. -/
def Stamped (tr : Tr) (id : String) (now : Time) : Prop :=
  ∃ newer older, tr = newer ++ ⟨.read .now, now⟩ :: ⟨.read .token, .ok id⟩ :: older

variable {cfg : Config} {renames : Prop} {tr tr' : Tr} {id : String} {now now' : Time} {t u : Tid}
  {served : List (Tid × Event Op Reply)} {e : Event Op Reply}

theorem drawnToken_eq_some : drawnToken e = some id ↔ e = ⟨.read .token, .ok id⟩ := by
  constructor
  · intro h
    unfold drawnToken at h
    split at h
    · cases h
      rfl
    · cases h
  · rintro rfl
    rfl

theorem mem_drawnTokens :
    id ∈ drawnTokens served ↔ ∃ t, (t, (⟨.read .token, .ok id⟩ : Event Op Reply)) ∈ served := by
  unfold drawnTokens
  rw [List.mem_filterMap]
  constructor
  · rintro ⟨⟨t, e⟩, hmem, he⟩
    obtain rfl := drawnToken_eq_some.1 he
    exact ⟨t, hmem⟩
  · rintro ⟨t, hmem⟩
    exact ⟨_, hmem, rfl⟩

/-- An id is drawn by one thread. -/
theorem token_owner (h : (drawnTokens served).Nodup)
    (ht : (⟨.read .token, .ok id⟩ : Event Op Reply) ∈ ownTrace t served)
    (hu : (⟨.read .token, .ok id⟩ : Event Op Reply) ∈ ownTrace u served) : t = u := by
  rw [mem_ownTrace] at ht hu
  induction served with
  | nil => cases ht
  | cons p served ih =>
    rcases List.mem_cons.1 ht with rfl | ht' <;> rcases List.mem_cons.1 hu with hp | hu'
    · exact (congrArg Prod.fst hp).symm
    · exact absurd (mem_drawnTokens.2 ⟨u, hu'⟩) (List.nodup_cons.1 h).1
    · subst hp
      exact absurd (mem_drawnTokens.2 ⟨t, ht'⟩) (List.nodup_cons.1 h).1
    · refine ih (h.sublist ?_) ht' hu'
      exact (List.sublist_cons_self p served).filterMap _

/-- The ids a thread has drawn are distinct. -/
theorem own_tokens_nodup (h : (drawnTokens served).Nodup) :
    ((ownTrace t served).filterMap drawnToken).Nodup := by
  induction served with
  | nil => exact List.nodup_nil
  | cons p served ih =>
    obtain ⟨u, e⟩ := p
    have hrest := ih (h.sublist ((List.sublist_cons_self _ served).filterMap _))
    rcases eq_or_ne t u with rfl | hne
    · rw [ownTrace_cons_self]
      cases he : drawnToken e with
      | none => rwa [List.filterMap_cons_none he]
      | some n =>
        rw [List.filterMap_cons_some he]
        refine List.nodup_cons.2 ⟨fun hmem => ?_, hrest⟩
        obtain ⟨_, hmem, he'⟩ := List.mem_filterMap.1 hmem
        have hold : n ∈ drawnTokens served := List.mem_filterMap.2 ⟨_, mem_ownTrace.1 hmem, he'⟩
        unfold drawnTokens at h
        rw [List.filterMap_cons_some (by exact he)] at h
        exact (List.nodup_cons.1 h).1 hold
    · rwa [ownTrace_cons_ne hne]

/-- An id is drawn once in a trace. -/
theorem token_once (h : (drawnTokens served).Nodup)
    (htr : ownTrace t served = tr ++ ⟨.read .token, .ok id⟩ :: tr') :
    (⟨.read .token, .ok id⟩ : Event Op Reply) ∉ tr ∧
      (⟨.read .token, .ok id⟩ : Event Op Reply) ∉ tr' := by
  have hown := @own_tokens_nodup t served h
  have htoken : drawnToken ⟨.read .token, .ok id⟩ = some id := rfl
  rw [htr, List.filterMap_append, List.filterMap_cons_some htoken] at hown
  obtain ⟨-, hcons, hdisj⟩ := List.nodup_append.1 hown
  refine ⟨fun hmem => ?_, fun hmem => ?_⟩
  · exact hdisj id (List.mem_filterMap.2 ⟨_, hmem, rfl⟩) id List.mem_cons_self rfl
  · exact (List.nodup_cons.1 hcons).1 (List.mem_filterMap.2 ⟨_, hmem, rfl⟩)

theorem Drawn.token (h : Drawn tr id now) : (⟨.read .token, .ok id⟩ : Event Op Reply) ∈ tr := by
  obtain ⟨_, _, rfl, -⟩ := h
  simp

theorem Drawn.stamped (h : Drawn tr id now) : Stamped tr id now := by
  obtain ⟨newer, older, htr, -⟩ := h
  exact ⟨newer, older, htr⟩

theorem Stamped.append (h : Stamped tr id now) (newer : Tr) : Stamped (newer ++ tr) id now := by
  obtain ⟨newer', older, rfl⟩ := h
  exact ⟨newer ++ newer', older, by simp⟩

theorem Stamped.token (h : Stamped tr id now) : (⟨.read .token, .ok id⟩ : Event Op Reply) ∈ tr := by
  obtain ⟨_, _, rfl⟩ := h
  simp

/-- An id comes with one time. -/
theorem Stamped.unique (hnodup : (drawnTokens served).Nodup)
    (h : Stamped (ownTrace t served) id now) (h' : Stamped (ownTrace u served) id now') :
    now = now' := by
  obtain rfl := token_owner hnodup h.token h'.token
  obtain ⟨newer, older, htr⟩ := h
  obtain ⟨newer', older', htr'⟩ := h'
  have hsplit : newer ++ [⟨.read .now, now⟩] = newer' ++ [⟨.read .now, now'⟩] := by
    have hone := token_once hnodup (htr.trans (by simp : _ = (newer ++ [⟨.read .now, now⟩]) ++
      ⟨.read .token, .ok id⟩ :: older))
    have hone' := token_once hnodup (htr'.trans (by simp : _ = (newer' ++ [⟨.read .now, now'⟩]) ++
      ⟨.read .token, .ok id⟩ :: older'))
    have heq : (newer ++ [⟨.read .now, now⟩]) ++ ⟨.read .token, .ok id⟩ :: older =
        (newer' ++ [⟨.read .now, now'⟩]) ++ ⟨.read .token, .ok id⟩ :: older' := by
      simpa using htr.symm.trans htr'
    rcases List.append_eq_append_iff.1 heq with ⟨mid, hnew', hold⟩ | ⟨mid, hnew, hold⟩
    · cases mid with
      | nil => simpa using hnew'.symm
      | cons =>
        injection hold with ha _
        refine absurd ?_ hone'.1
        rw [hnew', ha]
        simp
    · cases mid with
      | nil => simpa using hnew
      | cons =>
        injection hold with ha _
        refine absurd ?_ hone.1
        rw [hnew, ha]
        simp
  have hlast := congrArg List.getLast? hsplit
  simpa using hlast

/-- What a request under a receipt comes after: the id was drawn, the receipt
stored, and since then the code has only read. -/
theorem ready_of_ok {op : Op} (h : (receiptHabit cfg renames).ok tr op) (hid : issueOf op = some id) :
    ∃ idle ref o u older now, tr = idle ++ ⟨.update ref o, .ok u⟩ :: older ∧ (∀ e ∈ idle, Idle e) ∧
      Drawn older id now := by
  cases op with
  | relate ref =>
    obtain rfl := Option.some.inj hid
    obtain ⟨late, cur, early, o, u, older, _, now, rfl, -, -, -, -, -, -, -, hdrawn, -⟩ := h
    refine ⟨asOps late ++ ⟨.read (.get ref), .ok (some cur)⟩ :: asOps early, ref, o, u, older, now,
      by simp, ?_, hdrawn⟩
    exact List.forall_mem_append.2 ⟨asOps_idle, List.forall_mem_cons.2 ⟨.read _ _, asOps_idle⟩⟩
  | put vmUUID =>
    obtain rfl := Option.some.inj hid
    obtain ⟨own, cur, o, u, older, now, rfl, -, -, -, -, hdrawn, -⟩ := h
    exact ⟨⟨.read (.get (.anchor vmUUID)), .ok (some cur)⟩ :: asOps own, .anchor vmUUID, o, u, older,
      now, by simp, List.forall_mem_cons.2 ⟨.read _ _, asOps_idle⟩, hdrawn⟩
  | _ => cases hid

theorem Idle.not_issued (h : Idle e) : issueOf e.op = none := by
  cases h <;> rfl

/-- Whoever sends under an id has drawn it. -/
theorem token_of_ok {op : Op} (h : (receiptHabit cfg renames).ok tr op) (hid : issueOf op = some id) :
    (⟨.read .token, .ok id⟩ : Event Op Reply) ∈ tr := by
  obtain ⟨_, _, _, _, _, _, rfl, -, hdrawn⟩ := ready_of_ok h hid
  exact List.mem_append_right _ (List.mem_cons_of_mem _ hdrawn.token)

/-- Nothing goes out under an id before it is drawn. -/
theorem not_sent_of_drawn (hnodup : (drawnTokens served).Nodup)
    (hobeys : (receiptHabit cfg renames).Obeys (ownTrace t served))
    (htr : ownTrace t served = tr' ++ tr) (hdrawn : Drawn tr id now) :
    ∀ e ∈ tr, issueOf e.op ≠ some id := by
  intro e he hid
  obtain ⟨newer, older, rfl, hidle⟩ := hdrawn
  have honce := token_once hnodup (htr.trans (by simp : _ = (tr' ++ newer ++ [⟨.read .now, now⟩]) ++
    ⟨.read .token, .ok id⟩ :: older))
  rcases List.mem_append.1 he with he | he
  · rw [(hidle e he).not_issued] at hid
    cases hid
  · rcases List.mem_cons.1 he with rfl | he
    · cases hid
    · rcases List.mem_cons.1 he with rfl | he
      · cases hid
      · obtain ⟨_, early, rfl⟩ := List.append_of_mem he
        have hok : (receiptHabit cfg renames).ok early e.op := by
          rw [htr] at hobeys
          exact hobeys.of_append.of_append.2.2.2.2.ok_of_append
        exact honce.2 (List.mem_append_right _ (List.mem_cons_of_mem _ (token_of_ok hok hid)))

/-- Nothing went out before under an id that is sent now. -/
theorem not_sent_before (hnodup : (drawnTokens served).Nodup)
    (hobeys : (receiptHabit cfg renames).Obeys (ownTrace t served))
    (htr : ownTrace t served = tr' ++ e :: tr) (hid : issueOf e.op = some id) :
    ∀ e' ∈ tr, issueOf e'.op ≠ some id := by
  have hok : (receiptHabit cfg renames).ok tr e.op := by
    rw [htr] at hobeys
    exact hobeys.ok_of_append
  obtain ⟨idle, ref, o, u, older, _, rfl, hidle, hdrawn⟩ := ready_of_ok hok hid
  intro e' he' hid'
  rcases List.mem_append.1 he' with he' | he'
  · rw [(hidle e' he').not_issued] at hid'
    cases hid'
  · rcases List.mem_cons.1 he' with rfl | he'
    · cases hid'
    · have hsplit : ownTrace t served =
          (tr' ++ e :: idle ++ [⟨.update ref o, .ok u⟩]) ++ older := htr.trans (by simp)
      exact not_sent_of_drawn hnodup hobeys hsplit hdrawn e' he' hid'

end Tokens

/-! ### What one change does to an anchor -/

section Change

variable {cfg : Config} {tr : Tr} {vmUUID : String} {base o : Object}

/-- A change of the anchor's own annotations leaves the rest alone. -/
structure Framed (base o : Object) : Prop where
  version : o.version = base.version
  uid : o.uid = base.uid
  relation : o.relation = base.relation

theorem AnchorChange.framed (h : AnchorChange cfg tr vmUUID base o) : Framed base o := by
  cases h with
  | stagePut _ _ _ _ hm => obtain ⟨-, -, rfl⟩ := stageReceipt_ok hm; exact ⟨rfl, rfl, rfl⟩
  | stageAdopt _ _ _ hm => obtain ⟨-, -, rfl⟩ := stageReceipt_ok hm; exact ⟨rfl, rfl, rfl⟩
  | stageUnadopt _ hm => obtain ⟨-, -, rfl⟩ := stageReceipt_ok hm; exact ⟨rfl, rfl, rfl⟩
  | stageDelete _ hm => obtain ⟨-, -, rfl⟩ := stageReceipt_ok hm; exact ⟨rfl, rfl, rfl⟩
  | issue _ _ hm => obtain ⟨-, -, rfl⟩ := issueMutation_ok hm; exact ⟨rfl, rfl, rfl⟩
  | reset _ hm => obtain ⟨-, rfl⟩ := resetMutation_ok hm; exact ⟨rfl, rfl, rfl⟩
  | commit _ hm => obtain ⟨-, -, rfl⟩ := commitMutation_ok hm; exact ⟨rfl, rfl, rfl⟩
  | count _ hm => obtain ⟨-, rfl⟩ := countMutation_ok hm; exact ⟨rfl, rfl, rfl⟩
  | ledger _ _ hm => obtain ⟨-, -, rfl⟩ := ledgerMutation_ok hm; exact ⟨rfl, rfl, rfl⟩
  | attachedAt => exact ⟨rfl, rfl, rfl⟩
  | target _ _ _ hm => obtain ⟨-, rfl⟩ := targetMutation_ok hm; exact ⟨rfl, rfl, rfl⟩
  | absent _ _ _ _ _ hm => obtain ⟨-, -, rfl⟩ := absentMutation_ok hm; exact ⟨rfl, rfl, rfl⟩
  | issueDelete hm => obtain ⟨-, -, rfl⟩ := issueDeleteMutation_ok hm; exact ⟨rfl, rfl, rfl⟩
  | clearDelete hm =>
    obtain ⟨_, _, _, -, -, rfl⟩ := clearDeleteMutation_ok hm
    exact ⟨rfl, rfl, rfl⟩
  | plan hm => obtain rfl := planMutation_ok hm; exact ⟨rfl, rfl, rfl⟩
  | rebuild _ hm => obtain ⟨-, -, rfl⟩ := rebuildMutation_ok hm; exact ⟨rfl, rfl, rfl⟩
  | finalize => exact ⟨rfl, rfl, rfl⟩
  | handOver => exact ⟨rfl, rfl, rfl⟩

theorem hasReceipt_eq_false {a : AnchorAnnotations} : a.hasReceipt = false ↔
    a.receipt.pending = .none ∧ a.receipt.pendingOp = .none ∧ a.receipt.issuedAt = .absent ∧
      a.deleteTarget = "" := by
  simp [AnchorAnnotations.hasReceipt, and_assoc]

/-- The receipts of an anchor: a delete excludes all others, and what is issued is
of a create, a PUT or a rename. -/
structure Sound (a : AnchorAnnotations) : Prop where
  delete : a.deleteTarget ≠ "" ∨ a.deleteIssued ≠ .absent → a.receipt.pendingOp = .delete
  empty : a.receipt.pendingOp = .delete → ¬ PendingMembers a.receipt ∧ a.receipt.issuedAt = .absent
  ofPut : PendingMembers a.receipt ∨ a.receipt.issuedAt ≠ .absent → OfPut a.receipt

theorem OfPut.not_delete {r : Receipt} (h : OfPut r) : r.pendingOp ≠ .delete := by
  intro hd
  rcases h with h | h | h | h <;> rw [hd] at h <;> cases h

/-- What a receipt may be reset for is not a delete. -/
theorem ResetReason.not_delete {r : Receipt} (h : ResetReason tr vmUUID r) (hsound : Sound base.fw)
    (hr : base.fw.receipt = r) : r.pendingOp ≠ .delete := by
  cases h with
  | staged hop => exact hop.not_delete
  | due hop => exact hop.not_delete
  | undispatched hp =>
    subst hr
    exact fun hd => (hsound.empty hd).1 hp

theorem CommitReason.not_delete {r : Receipt} {uuid : String} (h : CommitReason cfg tr vmUUID r uuid) :
    r.pendingOp ≠ .delete := by
  obtain ⟨_, _, -, -, -, -, hop⟩ := h
  rcases hop with hop | hop | ⟨hop, -⟩ <;> rw [hop] <;> exact nofun

/-- A receipt is staged where there is none. -/
theorem Sound.stage {r : Receipt} (h : Sound base.fw) (hno : base.fw.hasReceipt = false)
    (hat : r.issuedAt = base.fw.receipt.issuedAt)
    (hr : r.pendingOp = .delete ∧ ¬ PendingMembers r ∨ OfPut r) : Sound (base.withReceipt r).fw := by
  obtain ⟨-, hop, hissued, _⟩ := hasReceipt_eq_false.1 hno
  have hnot : ¬ (base.fw.deleteTarget ≠ "" ∨ base.fw.deleteIssued ≠ .absent) := fun hd => by
    have hdel := h.delete hd
    rw [hop] at hdel
    cases hdel
  refine ⟨fun hd => absurd hd hnot, fun hd => ?_, fun hp => ?_⟩
  · rcases hr with ⟨-, hmembers⟩ | hput
    · exact ⟨hmembers, hat.trans hissued⟩
    · exact absurd hd hput.not_delete
  · rcases hr with ⟨-, hmembers⟩ | hput
    · exact (hp.elim hmembers fun hne => hne (hat.trans hissued)).elim
    · exact hput

/-- A receipt that is not of a delete is taken off. -/
theorem Sound.clear {a : AnchorAnnotations} (h : Sound base.fw)
    (hno : base.fw.receipt.pendingOp ≠ .delete) (hr : a.receipt = .none)
    (htarget : a.deleteTarget = base.fw.deleteTarget) (hissued : a.deleteIssued = base.fw.deleteIssued) :
    Sound a := by
  refine ⟨fun hd => ?_, fun hd => ?_, fun hp => ?_⟩
  · rw [htarget, hissued] at hd
    exact absurd (h.delete hd) hno
  · rw [hr] at hd
    cases hd
  · rw [hr] at hp
    rcases hp with ⟨l, hl, -⟩ | hne
    · cases hl
    · exact absurd rfl hne

/-- Nothing about receipts changes. -/
theorem Sound.congr {a b : AnchorAnnotations} (h : Sound a) (hr : b.receipt = a.receipt)
    (htarget : b.deleteTarget = a.deleteTarget)
    (hissued : b.deleteIssued = a.deleteIssued ∨ b.deleteIssued = .absent) : Sound b := by
  refine ⟨fun hd => ?_, ?_, ?_⟩
  · rw [hr]
    refine h.delete (hd.imp (fun hne => htarget ▸ hne) fun hne => ?_)
    exact hissued.elim (fun heq => heq ▸ hne) fun heq => absurd heq hne
  · rw [hr]
    exact h.empty
  · rw [hr]
    exact h.ofPut

theorem not_pendingMembers_empty {raw : LedgerText} {r : Receipt}
    (hraw : encodeVMFirewallLedger cfg .empty = .ok raw) (hr : r.pending = raw) :
    ¬ PendingMembers r := by
  rintro ⟨l, hl, hne⟩
  obtain ⟨-, rfl⟩ := encodeVMFirewallLedger_ok hraw
  rw [hr] at hl
  obtain rfl := LedgerText.ledger.inj hl
  exact hne (canonicalVMFirewallLedger_members.2 rfl)

/-- Every change keeps the receipts in order.  `hdelete`: the anchor whose delete
is carried on has it still. -/
theorem AnchorChange.sound (h : AnchorChange cfg tr vmUUID base o) (hsound : Sound base.fw)
    (hdelete : ∀ anchor, Shown tr (.anchor vmUUID) anchor → anchor.uid = base.uid →
      anchor.fw.receipt.pendingOp = .delete → base.fw.receipt.pendingOp = .delete) : Sound o.fw := by
  cases h with
  | stagePut hop _ _ _ hm =>
    obtain ⟨hno, -, rfl⟩ := stageReceipt_ok hm
    exact hsound.stage hno rfl (.inr (hop.elim .inl fun h => .inr (.inl h)))
  | stageAdopt _ _ _ hm =>
    obtain ⟨hno, -, rfl⟩ := stageReceipt_ok hm
    exact hsound.stage hno rfl (.inr (.inr (.inr (.inl rfl))))
  | stageUnadopt _ hm =>
    obtain ⟨hno, -, rfl⟩ := stageReceipt_ok hm
    exact hsound.stage hno rfl (.inr (.inr (.inr (.inr rfl))))
  | stageDelete hraw hm =>
    obtain ⟨hno, -, rfl⟩ := stageReceipt_ok hm
    exact hsound.stage hno rfl (.inl ⟨rfl, not_pendingMembers_empty hraw rfl⟩)
  | issue hpending _ hm =>
    obtain ⟨hpend, -, rfl⟩ := issueMutation_ok hm
    obtain ⟨l, hl, hne⟩ := hpending
    have hbase : PendingMembers base.fw.receipt := ⟨l, hpend.trans hl, hne⟩
    exact ⟨hsound.delete, fun hd => absurd hbase (hsound.empty hd).1, fun _ => hsound.ofPut (.inl hbase)⟩
  | reset hreason hm =>
    obtain ⟨hr, rfl⟩ := resetMutation_ok hm
    exact hsound.clear (hr ▸ hreason.not_delete hsound hr) rfl rfl rfl
  | commit hreason hm =>
    obtain ⟨hr, -, rfl⟩ := commitMutation_ok hm
    exact hsound.clear (hr ▸ hreason.not_delete) rfl rfl rfl
  | count _ hm => obtain ⟨-, rfl⟩ := countMutation_ok hm; exact hsound.congr rfl rfl (.inl rfl)
  | ledger _ _ hm => obtain ⟨-, -, rfl⟩ := ledgerMutation_ok hm; exact hsound.congr rfl rfl (.inl rfl)
  | attachedAt => exact hsound.congr rfl rfl (.inl rfl)
  | @target _ anchor hshown huid hop hm =>
    obtain ⟨-, rfl⟩ := targetMutation_ok hm
    exact ⟨fun _ => hdelete anchor hshown huid hop, hsound.empty, hsound.ofPut⟩
  | absent _ _ _ _ _ hm =>
    obtain ⟨-, -, rfl⟩ := absentMutation_ok hm
    exact hsound.congr rfl rfl (.inl rfl)
  | issueDelete hm =>
    obtain ⟨hop, -, rfl⟩ := issueDeleteMutation_ok hm
    exact ⟨fun _ => hop, hsound.empty, hsound.ofPut⟩
  | clearDelete hm =>
    obtain ⟨_, _, _, hissued, -, rfl⟩ := clearDeleteMutation_ok hm
    exact hsound.congr rfl rfl hissued
  | plan hm => obtain rfl := planMutation_ok hm; exact hsound.congr rfl rfl (.inl rfl)
  | rebuild _ hm => obtain ⟨-, -, rfl⟩ := rebuildMutation_ok hm; exact hsound.congr rfl rfl (.inl rfl)
  | finalize => exact hsound
  | handOver => exact hsound

/-- How a change treats the receipt: it is left alone, staged where there was
none, issued once, or taken off for a reason. -/
inductive ReceiptStep (cfg : Config) (tr : Tr) (vmUUID : String) (base o : Object) : Prop
  | same : o.fw.receipt = base.fw.receipt → ReceiptStep cfg tr vmUUID base o
  | staged : base.fw.hasReceipt = false → o.fw.receipt.issuedAt = .absent →
      ReceiptStep cfg tr vmUUID base o
  | issued {token : String} {now : Time} : base.fw.receipt.issuedAt = .absent → Drawn tr token now →
      PendingMembers base.fw.receipt →
      o.fw.receipt = { base.fw.receipt with issuedAt := .at now, issueID := token } →
      ReceiptStep cfg tr vmUUID base o
  | reset : ResetReason tr vmUUID base.fw.receipt → o.fw.receipt = .none →
      o.fw.applied = base.fw.applied → ReceiptStep cfg tr vmUUID base o
  | committed {uuid : String} {now : Time} : CommitReason cfg tr vmUUID base.fw.receipt uuid →
      o = base.annotate (fun a => a.commit uuid now) → ReceiptStep cfg tr vmUUID base o

theorem AnchorChange.receiptStep (h : AnchorChange cfg tr vmUUID base o) :
    ReceiptStep cfg tr vmUUID base o := by
  have hissued : base.fw.hasReceipt = false → base.fw.receipt.issuedAt = .absent := fun hno =>
    (hasReceipt_eq_false.1 hno).2.2.1
  cases h with
  | stagePut _ _ _ _ hm =>
    obtain ⟨hno, -, rfl⟩ := stageReceipt_ok hm
    exact .staged hno (hissued hno)
  | stageAdopt _ _ _ hm =>
    obtain ⟨hno, -, rfl⟩ := stageReceipt_ok hm
    exact .staged hno (hissued hno)
  | stageUnadopt _ hm =>
    obtain ⟨hno, -, rfl⟩ := stageReceipt_ok hm
    exact .staged hno (hissued hno)
  | stageDelete _ hm =>
    obtain ⟨hno, -, rfl⟩ := stageReceipt_ok hm
    exact .staged hno (hissued hno)
  | issue hpending hdrawn hm =>
    obtain ⟨hpend, hat, rfl⟩ := issueMutation_ok hm
    obtain ⟨l, hl, hne⟩ := hpending
    exact .issued hat hdrawn ⟨l, hpend.trans hl, hne⟩ rfl
  | reset hreason hm =>
    obtain ⟨hr, rfl⟩ := resetMutation_ok hm
    exact .reset (hr ▸ hreason) rfl rfl
  | commit hreason hm =>
    obtain ⟨hr, -, rfl⟩ := commitMutation_ok hm
    exact .committed (hr ▸ hreason) rfl
  | count _ hm => obtain ⟨-, rfl⟩ := countMutation_ok hm; exact .same rfl
  | ledger _ _ hm => obtain ⟨-, -, rfl⟩ := ledgerMutation_ok hm; exact .same rfl
  | attachedAt => exact .same rfl
  | target _ _ _ hm => obtain ⟨-, rfl⟩ := targetMutation_ok hm; exact .same rfl
  | absent _ _ _ _ _ hm => obtain ⟨-, -, rfl⟩ := absentMutation_ok hm; exact .same rfl
  | issueDelete hm => obtain ⟨-, -, rfl⟩ := issueDeleteMutation_ok hm; exact .same rfl
  | clearDelete hm => obtain ⟨_, _, _, -, -, rfl⟩ := clearDeleteMutation_ok hm; exact .same rfl
  | plan hm => obtain rfl := planMutation_ok hm; exact .same rfl
  | rebuild _ hm => obtain ⟨-, -, rfl⟩ := rebuildMutation_ok hm; exact .same rfl
  | finalize => exact .same rfl
  | handOver => exact .same rfl

/-- A staged delete stays. -/
theorem ReceiptStep.delete_stays (h : ReceiptStep cfg tr vmUUID base o) (hsound : Sound base.fw)
    (hdelete : base.fw.receipt.pendingOp = .delete) : o.fw.receipt.pendingOp = .delete := by
  cases h with
  | same heq => rw [heq, hdelete]
  | staged hno =>
    rw [(hasReceipt_eq_false.1 hno).2.1] at hdelete
    cases hdelete
  | issued _ _ _ heq => rw [heq]; exact hdelete
  | reset hreason => exact absurd hdelete (hreason.not_delete hsound rfl)
  | committed hreason => exact absurd hdelete hreason.not_delete

end Change

/-! ### Where the versions of an owner come from -/

section Stored

variable (cfg : Config)

/-- A write of an owner, over the object it was made from. -/
inductive WriteOver (tr : Tr) (old : Object) : Ref → Object → Prop
  | relation {ref : Ref} {snapshot : Object} {values new : RelationAnnotations} :
      Shown tr ref snapshot → old.uid = snapshot.uid → RelationChange cfg tr ref snapshot values →
      Merged snapshot.relation values old.relation new →
      WriteOver tr old ref (old.withRelation new)
  | anchor {vmUUID : String} {o : Object} : AnchorChange cfg tr vmUUID old o →
      WriteOver tr old (.anchor vmUUID) o

/-- The thread has asked for a write, and was not refused; `tr` is what it knew. -/
def Asked (served : List (Tid × Event Op Reply)) (t : Tid) (tr : Tr) (ref : Ref) (o : Object) : Prop :=
  ∃ newer older r, served = newer ++ (t, ⟨.update ref o, r⟩) :: older ∧ tr = ownTrace t older ∧
    ∀ e, r ≠ .conflict e

/-- One version of an owner after the other. -/
inductive Stored (served : List (Tid × Event Op Reply)) (ref : Ref) (old new : Object) : Prop
  | written {t : Tid} {tr : Tr} {o : Object} {n : ℕ} : Asked served t tr ref o →
      WriteOver cfg tr old ref o → new = { o with version := n } → Stored served ref old new
  | edited {repair : Bool} {migration : MigrationText} {n : ℕ} : new = { (old.annotate fun a =>
    { a with repair := repair, migration := migration }) with version := n } →
    Stored served ref old new
  | created : Clean new → new.uid ≠ old.uid → Stored served ref old new

/-- An id from before, or one with the time it was issued at. -/
def IssuedAs (s : State) (id : String) (issuedAt : Stamp) : Prop :=
  id ∈ s.old ∨ ∃ t now, Stamped (ownTrace t s.served) id now ∧ issuedAt = .at now

/-- What holds of every reachable state. -/
structure Inv (s : State) : Prop where
  ordered : ∀ ref, (s.store ref).Ordered objectStamp
  shown : ∀ t ref o, Shown (ownTrace t s.served) ref o → o ∈ (s.store ref).log
  tokens : (drawnTokens s.served).Nodup
  notOld : ∀ id ∈ drawnTokens s.served, id ∉ s.old
  clocked : ∀ t now, Clocked (ownTrace t s.served) now → now ≤ s.clock
  chain : ∀ ref, (s.store ref).log.IsChain fun new old => Stored cfg s.served ref old new
  late : ∀ ref o, (ref, o) ∈ s.late → ∃ t tr, Asked s.served t tr ref o ∧ Write cfg tr ref o
  sound : ∀ ref, ∀ o ∈ (s.store ref).log, Sound o.fw
  sticks : ∀ ref, (s.store ref).log.Pairwise fun newer older => older.uid = newer.uid →
    older.fw.receipt.pendingOp = .delete → newer.fw.receipt.pendingOp = .delete
  fences : ∀ ref, ∀ o ∈ (s.store ref).log, ∀ f, o.relation.issued = .fence f →
    IssuedAs s f.issueID f.issuedAt
  receipts : ∀ ref, ∀ o ∈ (s.store ref).log, o.fw.receipt.issuedAt ≠ .absent →
    IssuedAs s o.fw.receipt.issueID o.fw.receipt.issuedAt
  first : ∀ ref o, (s.store ref).log.getLast? = some o → ∀ f, o.relation.issued = .fence f →
    f.absenceObservedAt = .absent

/-- Owners with any receipts, under ids that will not be drawn again; nobody has
been served yet. -/
structure Initial (s : State) : Prop where
  late : s.late = []
  flights : s.flights = []
  served : s.served = []
  single : ∀ ref, (s.store ref).log.length ≤ 1
  sound : ∀ ref, ∀ o ∈ (s.store ref).log, Sound o.fw
  fences : ∀ ref, ∀ o ∈ (s.store ref).log, ∀ f, o.relation.issued = .fence f →
    f.issueID ∈ s.old ∧ f.absenceObservedAt = .absent
  receipts : ∀ ref, ∀ o ∈ (s.store ref).log, o.fw.receipt.issuedAt ≠ .absent →
    o.fw.receipt.issueID ∈ s.old

variable {cfg} {s : State} {ref : Ref} {o cur : Object} {t : Tid} {tr : Tr}
  {served : List (Tid × Event Op Reply)}

theorem Asked.cons {p : Tid × Event Op Reply} (h : Asked served t tr ref o) :
    Asked (p :: served) t tr ref o := by
  obtain ⟨newer, older, r, rfl, htr, hr⟩ := h
  exact ⟨p :: newer, older, r, rfl, htr, hr⟩

theorem Stored.cons {p : Tid × Event Op Reply} {new : Object} (h : Stored cfg served ref o new) :
    Stored cfg (p :: served) ref o new := by
  cases h with
  | written hasked hwrite hnew => exact .written hasked.cons hwrite hnew
  | edited hnew => exact .edited hnew
  | created hclean huid => exact .created hclean huid

/-- What a thread knew when it asked is part of what it knows. -/
theorem Asked.subset (h : Asked served t tr ref o) : tr ⊆ ownTrace t served := by
  obtain ⟨_, _, _, rfl, rfl, -⟩ := h
  rw [ownTrace_append, ownTrace_cons_self]
  exact List.subset_append_of_subset_right _ (List.subset_cons_self _ _)

/-- What it knew is a part of its trace that stays. -/
theorem Asked.split (h : Asked served t tr ref o) : ∃ newer r,
    ownTrace t served = newer ++ ⟨.update ref o, r⟩ :: tr ∧ ∀ e, r ≠ .conflict e := by
  obtain ⟨newer, _, r, rfl, rfl, hr⟩ := h
  exact ⟨ownTrace t newer, r, by rw [ownTrace_append, ownTrace_cons_self], hr⟩

theorem Asked.stamped {id : String} {now : Time} (h : Asked served t tr ref o)
    (hs : Stamped tr id now) : Stamped (ownTrace t served) id now := by
  obtain ⟨newer, r, htr, -⟩ := h.split
  have happend := hs.append (newer ++ [⟨.update ref o, r⟩])
  rwa [List.append_assoc, List.singleton_append, ← htr] at happend

/-- A write that fits was made from the stored object. -/
theorem Inv.over (hi : Inv cfg s) (hsub : tr ⊆ ownTrace t s.served) (hw : Write cfg tr ref o)
    (hcur : (s.store ref).current = some cur) (hfits : cur.version = o.version) :
    WriteOver cfg tr cur ref o := by
  have heq : ∀ base, Shown tr ref base → base.version = o.version → base = cur := by
    intro base hbase hversion
    have hmem := hi.shown t ref base (hbase.mono hsub)
    exact ((hi.ordered ref).current_eq hcur hmem (hfits.trans hversion.symm)).symm
  cases hw with
  | relation hsnap hbase huid hchange hmerged =>
    obtain rfl := heq _ hbase rfl
    exact .relation hsnap huid hchange hmerged
  | anchor hbase hchange =>
    obtain rfl := heq _ hbase hchange.framed.version.symm
    exact .anchor hchange

theorem WriteOver.uid (h : WriteOver cfg tr cur ref o) : o.uid = cur.uid := by
  cases h with
  | relation => rfl
  | anchor hchange => exact hchange.framed.uid

theorem IssuedAs.cons {id : String} {issuedAt : Stamp} {op : Op} {r : Reply op} {u : Tid}
    (h : IssuedAs s id issuedAt) : IssuedAs (s.note u op r) id issuedAt := by
  rcases h with hold | ⟨t, now, hstamped, hat⟩
  · exact .inl hold
  · refine .inr ⟨t, now, ?_, hat⟩
    rcases eq_or_ne t u with rfl | hne
    · unfold State.note
      rw [ownTrace_cons_self]
      exact hstamped.append [_]
    · unfold State.note
      rwa [ownTrace_cons_ne hne]

/-- The record grows by an event that tells the truth. -/
theorem Inv.note (hi : Inv cfg s) {u : Tid} {op : Op} {r : Reply op}
    (hshown : ∀ ref o, Shown [⟨op, r⟩] ref o → o ∈ (s.store ref).log)
    (htoken : ∀ id, drawnToken ⟨op, r⟩ = some id → id ∉ s.old ∧ id ∉ drawnTokens s.served)
    (hclock : ∀ now, Clocked [⟨op, r⟩] now → now ≤ s.clock) : Inv cfg (s.note u op r) where
  ordered := hi.ordered
  shown := fun t ref o h => by
    rcases eq_or_ne t u with rfl | hne
    · unfold State.note at h
      rw [ownTrace_cons_self] at h
      have hcases : Shown [⟨op, r⟩] ref o ∨ Shown (ownTrace t s.served) ref o := by
        rcases h with h | ⟨vm, e, href, h⟩ <;> rcases List.mem_cons.1 h with heq | h
        · exact .inl (.inl (List.mem_singleton.2 heq))
        · exact .inr (.inl h)
        · exact .inl (.inr ⟨vm, e, href, List.mem_singleton.2 heq⟩)
        · exact .inr (.inr ⟨vm, e, href, h⟩)
      exact hcases.elim (hshown ref o) (hi.shown t ref o)
    · unfold State.note at h
      rw [ownTrace_cons_ne hne] at h
      exact hi.shown t ref o h
  tokens := by
    unfold State.note drawnTokens
    cases htok : drawnToken (⟨op, r⟩ : Event Op Reply) with
    | none =>
      rw [List.filterMap_cons_none (by exact htok)]
      exact hi.tokens
    | some id =>
      rw [List.filterMap_cons_some (by exact htok)]
      exact List.nodup_cons.2 ⟨(htoken id htok).2, hi.tokens⟩
  notOld := fun id hid => by
    unfold State.note drawnTokens at hid
    cases htok : drawnToken (⟨op, r⟩ : Event Op Reply) with
    | none =>
      rw [List.filterMap_cons_none (by exact htok)] at hid
      exact hi.notOld id hid
    | some =>
      rw [List.filterMap_cons_some (by exact htok)] at hid
      rcases List.mem_cons.1 hid with rfl | hid
      · exact (htoken id htok).1
      · exact hi.notOld id hid
  clocked := fun t now h => by
    unfold Clocked State.note at h
    rcases eq_or_ne t u with rfl | hne
    · rw [ownTrace_cons_self] at h
      rcases List.mem_cons.1 h with heq | h
      · exact hclock now (List.mem_singleton.2 heq)
      · exact hi.clocked t now h
    · rw [ownTrace_cons_ne hne] at h
      exact hi.clocked t now h
  chain := fun ref => (hi.chain ref).imp fun _ _ h => h.cons
  late := fun ref o h => by
    obtain ⟨t, tr, hasked, hw⟩ := hi.late ref o h
    exact ⟨t, tr, hasked.cons, hw⟩
  sound := hi.sound
  sticks := hi.sticks
  fences := fun ref o ho f hf => (hi.fences ref o ho f hf).cons
  receipts := fun ref o ho hne => (hi.receipts ref o ho hne).cons
  first := hi.first

theorem log_put (ref' : Ref) : ((s.put ref o).store ref').log =
    if ref' = ref then s.stamped ref o :: (s.store ref').log else (s.store ref').log := by
  unfold State.put
  dsimp only
  split
  next heq => rw [heq, Function.update_self]; rfl
  next hne => rw [Function.update_of_ne hne]

theorem mem_log_put {ref' : Ref} {o' : Object} : o' ∈ ((s.put ref o).store ref').log ↔
    ref' = ref ∧ o' = s.stamped ref o ∨ o' ∈ (s.store ref').log := by
  rw [log_put]
  split
  next heq => rw [List.mem_cons]; exact or_congr_left (by simp [heq])
  next hne => simp [hne]

/-- An object is stored over the current one, or where there is none. -/
theorem Inv.put (hi : Inv cfg s)
    (hstored : ∀ old, (s.store ref).log.head? = some old →
      Stored cfg s.served ref old (s.stamped ref o))
    (hsound : Sound o.fw)
    (hsticks : ∀ older ∈ (s.store ref).log, older.uid = o.uid →
      older.fw.receipt.pendingOp = .delete → o.fw.receipt.pendingOp = .delete)
    (hfences : ∀ f, o.relation.issued = .fence f → IssuedAs s f.issueID f.issuedAt)
    (hreceipts : o.fw.receipt.issuedAt ≠ .absent →
      IssuedAs s o.fw.receipt.issueID o.fw.receipt.issuedAt)
    (hfirst : (s.store ref).log = [] → o.relation.issued = .none) : Inv cfg (s.put ref o) where
  ordered := fun ref' => by
    unfold State.put
    dsimp only
    by_cases heq : ref' = ref
    · rw [heq, Function.update_self]
      exact (hi.ordered ref).put
    · rw [Function.update_of_ne heq]
      exact hi.ordered ref'
  shown := fun t ref' o' h => mem_log_put.2 (.inr (hi.shown t ref' o' h))
  tokens := hi.tokens
  notOld := hi.notOld
  clocked := hi.clocked
  chain := fun ref' => by
    rw [log_put]
    split
    next heq =>
      subst heq
      exact List.isChain_cons.2 ⟨fun old hold => hstored old hold, hi.chain ref'⟩
    next => exact hi.chain ref'
  late := hi.late
  sound := fun ref' o' ho' => by
    rcases mem_log_put.1 ho' with ⟨-, rfl⟩ | ho'
    · exact hsound
    · exact hi.sound ref' o' ho'
  sticks := fun ref' => by
    rw [log_put]
    split
    next heq =>
      subst heq
      exact List.pairwise_cons.2 ⟨fun older holder => hsticks older holder, hi.sticks ref'⟩
    next => exact hi.sticks ref'
  fences := fun ref' o' ho' f hf => by
    rcases mem_log_put.1 ho' with ⟨-, rfl⟩ | ho'
    · exact hfences f hf
    · exact hi.fences ref' o' ho' f hf
  receipts := fun ref' o' ho' hne => by
    rcases mem_log_put.1 ho' with ⟨-, rfl⟩ | ho'
    · exact hreceipts hne
    · exact hi.receipts ref' o' ho' hne
  first := fun ref' o' ho' f hf => by
    rw [log_put] at ho'
    split at ho'
    next heq =>
      subst heq
      cases hlog : (s.store ref').log with
      | nil =>
        rw [hlog] at ho'
        obtain rfl := Option.some.inj ho'
        cases (hfirst hlog).symm.trans hf
      | cons =>
        rw [hlog, List.getLast?_cons_cons, ← hlog] at ho'
        exact hi.first ref' o' ho' f hf
    next => exact hi.first ref' o' ho' f hf

theorem current_log_ne_nil (hcur : (s.store ref).current = some cur) : (s.store ref).log ≠ [] :=
  List.ne_nil_of_mem (Versioned.current_mem hcur)

/-- A staged delete under the UID of the current object is there still. -/
theorem Inv.delete_current (hi : Inv cfg s) (hcur : (s.store ref).current = some cur) :
    ∀ older ∈ (s.store ref).log, older.uid = cur.uid → older.fw.receipt.pendingOp = .delete →
      cur.fw.receipt.pendingOp = .delete := by
  intro older holder huid hdelete
  have hhead := Versioned.head_of_current hcur
  have hsticks := hi.sticks ref
  cases hlog : (s.store ref).log with
  | nil => rw [hlog] at hhead; cases hhead
  | cons =>
    rw [hlog] at hhead holder hsticks
    obtain rfl := Option.some.inj hhead
    rcases List.mem_cons.1 holder with rfl | holder
    · exact hdelete
    · exact (List.pairwise_cons.1 hsticks).1 older holder huid hdelete

/-- A fence after a change has the id of the one before, or was issued. -/
theorem RelationChange.fences {snapshot : Object} {values new : RelationAnnotations} {f : Fence}
    (h : RelationChange cfg tr ref snapshot values)
    (hm : Merged snapshot.relation values cur.relation new) (hf : new.issued = .fence f) :
    (∃ f', cur.relation.issued = .fence f' ∧ f'.issueID = f.issueID ∧ f'.issuedAt = f.issuedAt) ∨
      ∃ now, Drawn tr f.issueID now ∧ f.issuedAt = .at now := by
  rcases hm.1 with ⟨-, hnew⟩ | ⟨hcur, hnew⟩
  · exact .inl ⟨f, hnew ▸ hf, rfl, rfl⟩
  · rw [hnew] at hf
    cases h with
    | keep hv => exact .inl ⟨f, by rw [hcur, ← hv, hf], rfl, rfl⟩
    | issue _ hdrawn hat _ hv =>
      obtain rfl := FenceText.fence.inj (hv.symm.trans hf)
      exact .inr ⟨_, hdrawn, hat⟩
    | observe hp _ _ _ _ hv =>
      obtain ⟨f', hsnap, rfl⟩ := parseFence_ok hp
      obtain rfl := FenceText.fence.inj (hv.symm.trans hf)
      exact .inl ⟨f', hcur.trans hsnap, rfl, rfl⟩
    | sight hp _ _ hv =>
      obtain ⟨f', hsnap, rfl⟩ := parseFence_ok hp
      obtain rfl := FenceText.fence.inj (hv.symm.trans hf)
      exact .inl ⟨f', hcur.trans hsnap, rfl, rfl⟩
    | attached _ _ _ _ hv => rw [hv] at hf; cases hf
    | detached _ _ _ _ _ _ hv => rw [hv] at hf; cases hf
    | retired _ _ _ _ _ _ hv => rw [hv] at hf; cases hf
    | undispatched _ _ _ hv => rw [hv] at hf; cases hf

/-- A write of the code is stored. -/
theorem Inv.write (hi : Inv cfg s) (hasked : Asked s.served t tr ref o)
    (hw : Write cfg tr ref o) (hfits : Fits s ref o) : Inv cfg (s.put ref o) := by
  obtain ⟨cur, hcur, hversion⟩ := hfits
  have hover := hi.over hasked.subset hw hcur hversion
  have hcurmem := Versioned.current_mem hcur
  have hsound := hi.sound ref cur hcurmem
  refine hi.put (fun old hold => ?_) ?_ (fun older holder huid hdelete => ?_) (fun f hf => ?_)
    (fun hne => ?_) fun hnil => absurd hnil (current_log_ne_nil hcur)
  · obtain rfl : cur = old := Option.some.inj ((Versioned.head_of_current hcur).symm.trans hold)
    exact .written hasked hover rfl
  · cases hover with
    | relation => exact hsound
    | anchor hchange =>
      refine hchange.sound hsound fun anchor hshown huid hdelete => ?_
      exact hi.delete_current hcur anchor (hi.shown t _ _ (hshown.mono hasked.subset)) huid hdelete
  · rw [hover.uid] at huid
    have hdel := hi.delete_current hcur older holder huid hdelete
    cases hover with
    | relation => exact hdel
    | anchor hchange => exact hchange.receiptStep.delete_stays hsound hdel
  · cases hover with
    | relation _ _ hchange hmerged =>
      rcases hchange.fences hmerged hf with ⟨f', hf', hid, hat⟩ | ⟨now, hdrawn, hat⟩
      · rw [← hid, ← hat]
        exact hi.fences ref cur hcurmem f' hf'
      · exact .inr ⟨t, now, hasked.stamped hdrawn.stamped, hat⟩
    | anchor hchange =>
      rw [hchange.framed.relation] at hf
      exact hi.fences _ cur hcurmem f hf
  · cases hover with
    | relation => exact hi.receipts ref cur hcurmem hne
    | anchor hchange =>
      have hstep := hchange.receiptStep
      cases hstep with
      | same heq => rw [heq] at hne ⊢; exact hi.receipts _ cur hcurmem hne
      | staged _ hat => exact absurd hat hne
      | issued _ hdrawn _ heq =>
        rw [heq]
        exact .inr ⟨t, _, hasked.stamped hdrawn.stamped, rfl⟩
      | reset _ heq => rw [heq] at hne; exact absurd rfl hne
      | committed _ heq => rw [heq] at hne; exact absurd rfl hne

theorem Clean.sound (h : Clean o) : Sound o.fw := by
  refine ⟨fun hd => ?_, fun hd => ?_, fun hp => ?_⟩
  · exact (hd.elim (fun hne => hne h.target) fun hne => hne h.deleteIssued).elim
  · rw [h.receipt] at hd
    cases hd
  · rw [h.receipt] at hp
    rcases hp with ⟨l, hl, -⟩ | hne
    · cases hl
    · exact absurd rfl hne

/-- An owner is created. -/
theorem Inv.create (hi : Inv cfg s) (hfresh : FreshUID s ref o.uid) (hclean : Clean o) :
    Inv cfg (s.put ref o) := by
  refine hi.put (fun old hold => ?_) hclean.sound (fun older holder huid _ => ?_) (fun f hf => ?_)
    (fun hne => ?_) fun _ => hclean.issued
  · have hclean' : Clean (s.stamped ref o) := ⟨hclean.1, hclean.2, hclean.3, hclean.4⟩
    exact .created hclean' fun h => hfresh old (List.mem_of_mem_head? hold) h.symm
  · exact absurd huid (hfresh older holder)
  · rw [hclean.issued] at hf
    cases hf
  · rw [hclean.receipt] at hne
    exact absurd rfl hne

/-- An owner is edited by somebody else. -/
theorem Inv.edit (hi : Inv cfg s) (hcur : (s.store ref).current = some cur) {repair : Bool}
    {migration : MigrationText} : Inv cfg (s.put ref
      (cur.annotate fun a => { a with repair := repair, migration := migration })) := by
  have hmem := Versioned.current_mem hcur
  have hdelete := hi.delete_current hcur
  refine hi.put (fun old hold => ?_) ((hi.sound ref cur hmem).congr rfl rfl (.inl rfl)) hdelete
    (hi.fences ref cur hmem) (hi.receipts ref cur hmem)
    fun hnil => absurd hnil (current_log_ne_nil hcur)
  obtain rfl : cur = old := Option.some.inj ((Versioned.head_of_current hcur).symm.trans hold)
  exact .edited rfl

theorem Inv.drop (hi : Inv cfg s) : Inv cfg (s.drop ref) := by
  have hlog : ∀ ref', ((s.drop ref).store ref').log = (s.store ref').log := by
    intro ref'
    unfold State.drop
    dsimp only
    by_cases heq : ref' = ref
    · rw [heq, Function.update_self, Versioned.log_drop]
    · rw [Function.update_of_ne heq]
  refine ⟨fun ref' => ?_, fun t ref' o h => ?_, hi.tokens, hi.notOld, hi.clocked, fun ref' => ?_,
    hi.late, fun ref' => ?_, fun ref' => ?_, fun ref' => ?_, fun ref' => ?_, fun ref' => ?_⟩
  · unfold Versioned.Ordered
    rw [hlog]
    exact hi.ordered ref'
  · rw [hlog]
    exact hi.shown t ref' o h
  · rw [hlog]
    exact hi.chain ref'
  · rw [hlog]
    exact hi.sound ref'
  · rw [hlog]
    exact hi.sticks ref'
  · rw [hlog]
    exact hi.fences ref'
  · rw [hlog]
    exact hi.receipts ref'
  · rw [hlog]
    exact hi.first ref'

/-- Nothing that the invariant speaks of changes. -/
theorem Inv.congr {s' : State} (hi : Inv cfg s) (hstore : s'.store = s.store)
    (hclock : s.clock ≤ s'.clock) (hold : s'.old = s.old) (hlate : s'.late = s.late)
    (hserved : s'.served = s.served) : Inv cfg s' := by
  obtain ⟨_, _, _, _, _, _⟩ := s'
  dsimp only at hstore hold hlate hserved hclock
  subst hstore hold hlate hserved
  exact ⟨hi.ordered, hi.shown, hi.tokens, hi.notOld, fun t now h => (hi.clocked t now h).trans hclock,
    hi.chain, hi.late, hi.sound, hi.sticks, hi.fences, hi.receipts, hi.first⟩

theorem Initial.inv (h : Initial s) : Inv cfg s where
  ordered := fun ref => by
    have hlen := h.single ref
    unfold Versioned.Ordered
    match hlog : (s.store ref).log with
    | [] => exact List.Pairwise.nil
    | [a] => exact List.pairwise_singleton _ _
    | a :: b :: rest => rw [hlog] at hlen; simp at hlen
  shown := fun t ref o hshown => by
    rw [h.served] at hshown
    rcases hshown with hmem | ⟨_, _, _, hmem⟩ <;> cases hmem
  tokens := by rw [h.served]; exact List.nodup_nil
  notOld := fun id hid => by rw [h.served] at hid; cases hid
  clocked := fun t now hnow => by rw [h.served] at hnow; cases hnow
  chain := fun ref => by
    have hlen := h.single ref
    match hlog : (s.store ref).log with
    | [] => exact .nil
    | [a] => exact .singleton a
    | a :: b :: rest => rw [hlog] at hlen; simp at hlen
  late := fun ref o hmem => by rw [h.late] at hmem; cases hmem
  sound := h.sound
  sticks := fun ref => by
    have hlen := h.single ref
    match hlog : (s.store ref).log with
    | [] => exact List.Pairwise.nil
    | [a] => exact List.pairwise_singleton _ _
    | a :: b :: rest => rw [hlog] at hlen; simp at hlen
  fences := fun ref o ho f hf => .inl (h.fences ref o ho f hf).1
  receipts := fun ref o ho hne => .inl (h.receipts ref o ho hne)
  first := fun ref o ho f hf => (h.fences ref o (List.mem_of_getLast? ho) f hf).2

end Stored

/-! ### All reachable states -/

section Reachable

variable {cfg : Config} {s s' : State} {t : Tid}

theorem Inv.env (hi : Inv cfg s) (henv : Env s s') : Inv cfg s' := by
  cases henv with
  | quiet h =>
    cases h with
    | edit _ _ _ _ hcur => exact hi.edit hcur
    | tick _ hle => exact hi.congr rfl hle rfl rfl rfl
    | ended => exact hi.congr rfl le_rfl rfl rfl rfl
  | remove => exact hi.drop
  | create _ _ _ hfresh hclean => exact hi.create hfresh hclean
  | late ref o hlate hfits =>
    obtain ⟨_, _, hasked, hw⟩ := hi.late ref o hlate
    exact hi.write hasked hw hfits

/-- A request that tells nothing of owners, ids or the clock. -/
theorem Inv.noteMute (hi : Inv cfg s) {op : Op} {r : Reply op}
    (hget : ∀ ref, op ≠ .read (.get ref)) (hcreate : ∀ vmUUID o, op ≠ .create vmUUID o)
    (htoken : op ≠ .read .token) (hnow : op ≠ .read .now) : Inv cfg (s.note t op r) := by
  refine hi.note (fun ref o h => ?_) (fun id h => ?_) fun now h => ?_
  · rcases h with h | ⟨vm, e, -, h⟩
    · have heq := List.mem_singleton.1 h
      injection heq with hop _
      exact absurd hop.symm (hget ref)
    · have heq := List.mem_singleton.1 h
      injection heq with hop _
      exact absurd hop.symm (hcreate vm e)
  · have heq := drawnToken_eq_some.1 h
    injection heq with hop _
    exact absurd hop htoken
  · have heq := List.mem_singleton.1 h
    injection heq with hop _
    exact absurd hop.symm hnow

theorem send_store (op : Op) (r : Except Err Unit) : (s.send op r).store = s.store := by
  unfold State.send
  split
  · rfl
  · split <;> rfl

theorem send_congr (hi : Inv cfg s) (op : Op) (r : Except Err Unit) : Inv cfg (s.send op r) := by
  unfold State.send
  split
  · exact hi.congr rfl le_rfl rfl rfl rfl
  · split
    · exact hi
    · exact hi.congr rfl le_rfl rfl rfl rfl

/-- A write that the habit permits. -/
theorem Inv.updates (hi : Inv cfg s) {ref : Ref} {o : Object} {r : Written}
    (hw : Write cfg (ownTrace t s.served) ref o) (h : Updates s ref o r s') :
    Inv cfg (s'.note t (.update ref o) r) := by
  have hnote : Inv cfg (s.note t (.update ref o) r) :=
    hi.noteMute (fun _ h => by cases h) (fun _ _ h => by cases h) (fun h => by cases h)
      nofun
  have hasked : (∀ e, r ≠ .conflict e) →
      Asked (s.note t (.update ref o) r).served t (ownTrace t s.served) ref o :=
    fun hr => ⟨[], s.served, r, rfl, rfl, hr⟩
  cases h with
  | stored hfits => exact hnote.write (hasked nofun) hw hfits
  | lost _ hfits => exact hnote.write (hasked nofun) hw hfits
  | refused => exact hnote
  | failed e =>
    refine ⟨hnote.ordered, hnote.shown, hnote.tokens, hnote.notOld, hnote.clocked, hnote.chain, ?_,
      hnote.sound, hnote.sticks, hnote.fences, hnote.receipts, hnote.first⟩
    intro ref' o' hmem
    rcases List.mem_cons.1 hmem with heq | hmem
    · obtain ⟨rfl, rfl⟩ := Prod.mk.inj heq
      have hr : ∀ e', Written.failed e ≠ .conflict e' := nofun
      exact ⟨t, ownTrace t s.served, hasked hr, hw⟩
    · exact hnote.late ref' o' hmem

theorem emptyAnchor_clean (vmUUID uid : String) : Clean { emptyAnchor vmUUID with uid := uid } :=
  ⟨rfl, rfl, rfl, rfl⟩

theorem Inv.creates (hi : Inv cfg s) {vmUUID : String} {r : Created}
    (h : Creates s vmUUID (emptyAnchor vmUUID) r s') :
    Inv cfg (s'.note t (.create vmUUID (emptyAnchor vmUUID)) r) := by
  have hmute : ∀ {s₁ : State} {r : Created}, Inv cfg s₁ →
      (∀ o, r = .ok o → o ∈ (s₁.store (.anchor vmUUID)).log) →
      Inv cfg (s₁.note t (.create vmUUID (emptyAnchor vmUUID)) r) := by
    intro _ _ hi₁ hr
    refine hi₁.note (fun ref o h => ?_) (fun id h => by cases h) fun now h => ?_
    · rcases h with h | ⟨_, _, rfl, h⟩
      · cases List.mem_singleton.1 h
      · have heq := List.mem_singleton.1 h
        injection heq with hop hreply
        injection hop with hvm ho
        subst hvm ho
        exact hr o hreply.symm
    · cases List.mem_singleton.1 h
  cases h with
  | created uid _ hfresh =>
    refine hmute (hi.create hfresh (emptyAnchor_clean vmUUID uid)) fun o ho => ?_
    cases ho
    exact mem_log_put.2 (.inl ⟨rfl, rfl⟩)
  | lost uid _ _ hfresh =>
    exact hmute (hi.create hfresh (emptyAnchor_clean vmUUID uid)) fun o ho => by cases ho
  | there => exact hmute hi fun o ho => by cases ho
  | failed => exact hmute hi fun o ho => by cases ho

/-- **One request**, if the habit permits it. -/
theorem Inv.exec {renames : Prop} (hi : Inv cfg s) {op : Op} {r : Reply op}
    (hok : (receiptHabit cfg renames).ok (ownTrace t s.served) op) (h : exec t op s r s') :
    Inv cfg s' := by
  obtain ⟨s₁, heffect, rfl⟩ := h
  cases op with
  | read q =>
    cases q with
    | get =>
      obtain ⟨rfl, hread⟩ := heffect
      refine hi.note (fun ref' o h => ?_) (nofun) fun now h => ?_
      · rcases h with h | ⟨_, _, _, h⟩
        · have heq := List.mem_singleton.1 h
          injection heq with hop hreply
          injection hop with hq
          injection hq with href
          subst href
          exact Versioned.current_mem (hread (some o) hreply.symm)
        · cases List.mem_singleton.1 h
      · cases List.mem_singleton.1 h
    | now =>
      obtain ⟨rfl, hr⟩ := heffect
      refine hi.note (fun ref o h => ?_) (nofun) fun now h => ?_
      · rcases h with h | ⟨_, _, _, h⟩ <;> cases List.mem_singleton.1 h
      · have heq := List.mem_singleton.1 h
        injection heq with _ hreply
        exact (hreply.trans hr).le
    | token =>
      obtain ⟨rfl, hfresh⟩ := heffect
      refine hi.note (fun ref o h => ?_) (fun id h => ?_) fun now h => ?_
      · rcases h with h | ⟨_, _, _, h⟩ <;> cases List.mem_singleton.1 h
      · have heq := drawnToken_eq_some.1 h
        injection heq with _ hreply
        refine ⟨(hfresh id hreply).1, fun hmem => ?_⟩
        obtain ⟨u, hu⟩ := mem_drawnTokens.1 hmem
        exact (hfresh id hreply).2 u hu
      · cases List.mem_singleton.1 h
    | _ =>
      obtain rfl := heffect
      exact hi.noteMute (fun _ h => by cases h) (fun _ _ h => by cases h) (nofun)
        nofun
  | update => exact hi.updates hok heffect
  | create vmUUID o =>
    obtain rfl : o = emptyAnchor vmUUID := hok
    exact hi.creates heffect
  | delete =>
    have hcase : Inv cfg s₁ := by
      rcases heffect with rfl | ⟨rfl, -⟩
      · exact hi
      · exact hi.drop
    exact hcase.noteMute (nofun) (fun _ _ h => by cases h) (nofun)
      nofun
  | relate =>
    obtain rfl := heffect
    exact (send_congr hi _ _).noteMute (nofun) (fun _ _ h => by cases h)
      (nofun) nofun
  | put =>
    obtain rfl := heffect
    exact (send_congr hi _ _).noteMute (nofun) (fun _ _ h => by cases h)
      (nofun) nofun
  | _ =>
    obtain rfl := heffect
    exact hi.noteMute (nofun) (fun _ _ h => by cases h) (nofun)
      nofun

/-- The code of every call has the habit. -/
theorem calls_follow {p : Prog Op Reply (Except Err Unit)} (h : Calls cfg t p) :
    (receiptHabit cfg True).Follows p [] fun _ _ => True := by
  obtain ⟨_, _, call, rfl⟩ := h
  exact (Call.run_follows call fun _ => trivial).run (fun _ _ _ => trivial) fun _ _ => trivial

/-- **Every reachable state** has the invariant, and every thread has kept to its
habit; also in a system that serves less. -/
theorem kept_of {sem' : Sem State Op Reply} (hexec : ∀ t op s r s', sem'.exec t op s r s' →
      exec t op s r s') (henv : ∀ s s', sem'.env s s' → Env s s')
    {c : InSpaceKube.Config State Op Reply (Except Err Unit)}
    (h : Reachable sem' (Calls cfg) Initial c) :
    Records.Kept State.served (receiptHabit cfg True) (Inv cfg) c := by
  have hrec : Records sem' State.served :=
    ⟨fun t op s r s' h => records.exec t op s r s' (hexec t op s r s' h),
      fun s s' h => records.env s s' (henv s s' h)⟩
  refine Records.sound hrec (fun s hs => ⟨hs.served, hs.inv⟩)
    (fun s s' hi hmove => hi.env (henv s s' hmove)) (fun t p hp => calls_follow hp)
    (fun t op s r s' hi _ hok hserve => ?_) h
  exact ⟨trivial, hi.exec hok (hexec t op s r s' hserve)⟩

theorem kept {c : InSpaceKube.Config State Op Reply (Except Err Unit)}
    (h : Reachable sem (Calls cfg) Initial c) :
    Records.Kept State.served (receiptHabit cfg True) (Inv cfg) c :=
  kept_of (fun _ _ _ _ _ h => h) (fun _ _ h => h) h

end Reachable

/-! ### Answers by computation -/

/-- What the outside says: the cloud and the authorities when they are read, the
next issue id, and the outcome of a request to the cloud. -/
structure Outside where
  answer : (q : Query) → Answer q
  token : String
  reply : Except Err Unit

instance (s : State) (ref : Ref) (o : Object) : Decidable (Fits s ref o) :=
  decidable_of_iff ((s.store ref).current.any fun cur => cur.version == o.version) <| by
    simp only [Option.any_eq_true, beq_iff_eq, Fits]

namespace Outside

variable (w : Outside)

/-- The API server does what it is asked, if the version fits. -/
def respond : (op : Op) → State → Option (Reply op × State)
  | .read (.get ref), s => some (.ok (s.store ref).current, s)
  | .read .now, s => some (s.clock, s)
  | .read .token, s =>
    if w.token ∉ s.old ∧ w.token ∉ drawnTokens s.served then some (.ok w.token, s) else none
  | .read (.recentFirewallAssignsFor vmUUID now), s =>
    some (w.answer (.recentFirewallAssignsFor vmUUID now), s)
  | .read (.listFirewalls reader), s => some (w.answer (.listFirewalls reader), s)
  | .read (.getVM vmUUID), s => some (w.answer (.getVM vmUUID), s)
  | .read .listVMs, s => some (w.answer .listVMs, s)
  | .read .getNetwork, s => some (w.answer .getNetwork, s)
  | .read (.authorizeOwner ref fence before), s => some (w.answer (.authorizeOwner ref fence before), s)
  | .read (.authorizeNode vmUUID), s => some (w.answer (.authorizeNode vmUUID), s)
  | .read (.authorizeDelta delta anchor fresh), s =>
    some (w.answer (.authorizeDelta delta anchor fresh), s)
  | .update ref o, s =>
    if Fits s ref o then some (.ok (s.stamped ref o), s.put ref o) else none
  | .rememberFirewallAssign _ _ _, s => some ((), s)
  | .forgetFirewallAssign _ _, s => some ((), s)
  | .relate ref fence, s => some (w.reply, s.send (.relate ref fence) w.reply)
  | .put vmUUID receipt change, s => some (w.reply, s.send (.put vmUUID receipt change) w.reply)
  | .deleteFirewall _, s => some (w.reply, s)
  | _, _ => none

theorem respond_effect {op : Op} {s s₁ : State} {r : Reply op}
    (h : w.respond op s = some (r, s₁)) : effect op s r s₁ := by
  unfold respond at h
  split at h
  · obtain ⟨rfl, rfl⟩ := Prod.mk.inj (Option.some.inj h)
    exact ⟨rfl, fun found hfound => Except.ok.inj hfound⟩
  · obtain ⟨rfl, rfl⟩ := Prod.mk.inj (Option.some.inj h)
    exact ⟨rfl, rfl⟩
  · split at h
    next hfresh =>
      obtain ⟨rfl, rfl⟩ := Prod.mk.inj (Option.some.inj h)
      refine ⟨rfl, fun n hn => ?_⟩
      obtain rfl := Except.ok.inj hn
      exact ⟨hfresh.1, fun u hu => hfresh.2 (mem_drawnTokens.2 ⟨u, hu⟩)⟩
    · cases h
  case h_12 =>
    split at h
    next hfits =>
      obtain ⟨rfl, rfl⟩ := Prod.mk.inj (Option.some.inj h)
      exact .stored hfits
    · cases h
  case h_18 => cases h
  all_goals
    obtain ⟨rfl, rfl⟩ := Prod.mk.inj (Option.some.inj h)
    rfl

/-- A thread is served by such an outside. -/
def server (t : Tid) : sem.Driver t where
  answer op s := (w.respond op s).map fun a => (a.1, a.2.note t op a.1)
  sound op s r s' h := by
    obtain ⟨⟨_, s₁⟩, hrespond, heq⟩ := Option.map_eq_some_iff.1 h
    obtain ⟨rfl, rfl⟩ := Prod.mk.inj heq
    exact ⟨s₁, w.respond_effect hrespond, rfl⟩

/-- One controller is served by such an outside. -/
def turn (t : Tid) : oneByOne.Driver t where
  answer op s := if ∀ p ∈ s.served, p.1 ≤ t then (w.server t).answer op s else none
  sound op s r s' h := by
    split at h
    · next hle => exact ⟨hle, (w.server t).sound op s r s' h⟩
    · cases h

end Outside

/-- Time passes, if nothing is under way that would have ended. -/
def State.wait (s : State) (now : Time) : State :=
  if s.clock ≤ now ∧ ∀ f ∈ s.flights, now ≤ f.sentAt + mutationTimeout then { s with clock := now } else s

section Passes

variable {sem' : Sem State Op Reply} (D : Outside → (t : Tid) → sem'.Driver t)
  (p : Prog Op Reply (Except Err Unit))

/-- The same call again and again, each time in its own thread, at its own time and
with its own outside. -/
def passes : Tid → List (Time × Outside) → State → State
  | _, [], s => s
  | t, (now, w) :: rest, s => passes (t + 1) rest ((D w t).drive 40 (s.wait now) p).1

theorem reachable_passes {start : Tid → Prog Op Reply (Except Err Unit) → Prop} {init : State → Prop}
    (hquiet : ∀ s s', Quiet s s' → sem'.env s s') (hstart : ∀ t, start t p) {turns : List (Time × Outside)}
    {t : Tid} {s : State} {threads : Tid → Thread Op Reply (Except Err Unit)}
    (h : Reachable sem' start init ⟨s, threads⟩) (hidle : ∀ u, t ≤ u → threads u = .idle) :
    ∃ threads', Reachable sem' start init ⟨passes D p t turns s, threads'⟩ := by
  induction turns generalizing t s threads with
  | nil => exact ⟨threads, h⟩
  | cons turn _ ih =>
    obtain ⟨now, w⟩ := turn
    have hwait : Reachable sem' start init ⟨s.wait now, threads⟩ := by
      unfold State.wait
      split
      next hpass => exact h.step (.env _ (hquiet _ _ (.tick s now hpass.1 hpass.2)))
      · exact h
    refine ih ((D w t).started hwait (hidle t le_rfl) (hstart t) rfl) fun u hu => ?_
    rw [Function.update_of_ne (Nat.ne_of_gt hu)]
    exact hidle u (Nat.le_of_succ_le hu)

end Passes

/-- A start with one owner. -/
def State.single (ref : Ref) (o : Object) : State where
  store name := if name = ref then ⟨[o], true⟩ else ⟨[], false⟩
  clock := 0
  old := []
  late := []
  flights := []
  served := []

/-- It is one if nothing has been issued. -/
theorem initial_single {ref : Ref} {o : Object} (hsound : Sound o.fw)
    (hissued : o.relation.issued = .none) (hreceipt : o.fw.receipt.issuedAt = .absent) :
    Initial (State.single ref o) := by
  have honly : ∀ name, ∀ o' ∈ ((State.single ref o).store name).log, o' = o := by
    intro _ _ ho
    simp only [State.single] at ho
    split at ho
    · exact List.mem_singleton.1 ho
    · cases ho
  refine ⟨rfl, rfl, rfl, fun name => ?_, fun name o' ho => honly name o' ho ▸ hsound,
    fun name o' ho f hf => ?_, fun name o' ho h => ?_⟩
  · simp only [State.single]
    split
    · exact le_rfl
    · exact Nat.zero_le 1
  · rw [honly name o' ho, hissued] at hf
    cases hf
  · rw [honly name o' ho] at h
    exact absurd hreceipt h

end InSpaceKube.NodeLB.Receipts
