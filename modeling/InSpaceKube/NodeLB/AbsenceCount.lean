/-
InSpaceKube/NodeLB/AbsenceCount.lean

The end of a deleted firewall, by one controller.

`deleteVMFirewall` takes the finalizer off an anchor when the firewall has been
absent from three listings in a row.  It keeps a count on the anchor.  A listing
that shows the firewall should set the count back, and the code does so where the
firewall is ready to be deleted again; where it is attached, or not recognised as
its own, the pass ends before that.  So three absences may be counted with a
listing that shows the firewall among them (`finalized_despite_sighting`).

If every such listing is followed by a reset before the next one (`resets`), the
count is right (`finalized_after_three_absences`).  The ghost is the record of
requests: `sightings` has the listings of `deleteVMFirewall` in it, with their
times.  What the count on an anchor stands for is a series of absences among them
(`Series`), unless the last one shows the firewall (`Dirty`).  A pass adds to the
count it has read before its own listing, and only on an anchor nobody has written
since, so the series it adds to is behind its listing (`AbsentRead.series`).
-/
import InSpaceKube.NodeLB.RetireDelay
import Mathlib.Data.List.Infix

namespace InSpaceKube.NodeLB.Receipts

open Prog

/-! ### Listings -/

/-- Listings, newest first, each with a time. -/
abbrev Sightings := List (List Firewall × Option Time)

/-- A time for the last listing, if it has none. -/
def stampHead (now : Time) : Sightings → Sightings
  | (items, none) :: rest => (items, some now) :: rest
  | seen => seen

/-- What one request adds to the listings of `deleteVMFirewall`: a listing, or the
time of the last one. -/
def noteSighting : (op : Op) → Reply op → Sightings → Sightings
  | .read (.listFirewalls .deleteVMFirewall), .ok items, seen => (items, none) :: seen
  | .read .now, now, seen => stampHead now seen
  | _, _, seen => seen

/-- The listings `deleteVMFirewall` has read, each with the look at the clock that
followed. -/
def sightings : Tr → Sightings
  | [] => []
  | e :: tr => noteSighting e.op e.reply (sightings tr)

/-- The last listing shows the firewall. -/
def Dirty (uuid : String) (seen : Sightings) : Prop :=
  ∃ p ∈ seen.head?, vmFirewallListed p.1 uuid = true

/-- Absences at the given times, newest first and `delay` apart, and no sighting
since the first of them. -/
def Series (delay : Time) (uuid : String) : List Time → Sightings → Prop
  | [], _ => True
  | t :: ts, seen => ∃ newer items older, seen = newer ++ (items, some t) :: older ∧
      vmFirewallListed items uuid = false ∧ (∀ p ∈ newer, vmFirewallListed p.1 uuid = false) ∧
      (∀ t' ∈ ts.head?, t' + delay ≤ t) ∧ Series delay uuid ts older

section Listings

variable {delay now : Time} {uuid : String} {ts : List Time} {seen : Sightings} {op : Op} {r : Reply op}
  {tr : Tr} {items : List Firewall}

theorem Series.take {n : ℕ} (h : Series delay uuid ts seen) : Series delay uuid (ts.take n) seen := by
  induction n generalizing ts seen with
  | zero => trivial
  | succ n ih =>
    cases ts with
    | nil => trivial
    | cons _ ts =>
      obtain ⟨newer, items, older, hseen, habsent, hnewer, hspaced, hrest⟩ := h
      refine ⟨newer, items, older, hseen, habsent, hnewer, fun t' ht' => hspaced t' ?_, ih hrest⟩
      cases n with
      | zero => cases ht'
      | succ => cases ts <;> exact ht'

/-- A listing without the firewall goes on top of a series. -/
theorem Series.cons {p : List Firewall × Option Time} (h : Series delay uuid ts seen)
    (hp : vmFirewallListed p.1 uuid = false) : Series delay uuid ts (p :: seen) := by
  cases ts with
  | nil => trivial
  | cons =>
    obtain ⟨newer, items, older, rfl, habsent, hnewer, hrest⟩ := h
    exact ⟨p :: newer, items, older, rfl, habsent, List.forall_mem_cons.2 ⟨hp, hnewer⟩, hrest⟩

theorem Series.stampHead (h : Series delay uuid ts seen) :
    Series delay uuid ts (stampHead now seen) := by
  cases ts with
  | nil => trivial
  | cons =>
    obtain ⟨newer, items, older, rfl, habsent, hnewer, hrest⟩ := h
    rcases newer with _ | ⟨⟨listing, _ | time⟩, newer⟩
    · exact ⟨[], items, older, rfl, habsent, hnewer, hrest⟩
    · exact ⟨(listing, some now) :: newer, items, older, rfl, habsent,
        List.forall_mem_cons.2 (List.forall_mem_cons.1 hnewer), hrest⟩
    · exact ⟨(listing, some time) :: newer, items, older, rfl, habsent, hnewer, hrest⟩

/-- A series takes as many listings in a row. -/
theorem Series.length_le (h : Series delay uuid ts seen) :
    ts.length ≤ (seen.takeWhile fun p => !vmFirewallListed p.1 uuid).length := by
  induction ts generalizing seen with
  | nil => exact Nat.zero_le _
  | cons t ts ih =>
    obtain ⟨newer, _, _, rfl, habsent, hnewer, -, hrest⟩ := h
    have hall : ∀ p ∈ newer, (!vmFirewallListed p.1 uuid) = true := fun p hp => by rw [hnewer p hp]; rfl
    rw [List.takeWhile_append_of_pos hall, List.takeWhile_cons_of_pos (by rw [habsent]; rfl)]
    have := ih hrest
    simp only [List.length_append, List.length_cons]
    omega

theorem dirty_stampHead : Dirty uuid (stampHead now seen) ↔ Dirty uuid seen := by
  rcases seen with _ | ⟨⟨listing, _ | time⟩, seen⟩ <;> simp [Receipts.stampHead, Dirty]

/-- Only the listings of a delete count. -/
theorem noteSighting_other (hop : op ≠ .read (.listFirewalls .deleteVMFirewall)) :
    noteSighting op r seen = seen ∨ ∃ now, noteSighting op r seen = stampHead now seen := by
  unfold noteSighting
  split
  · exact absurd rfl hop
  · exact .inr ⟨_, rfl⟩
  · exact .inl rfl

theorem Series.note (h : Series delay uuid ts seen)
    (hop : op ≠ .read (.listFirewalls .deleteVMFirewall)) :
    Series delay uuid ts (noteSighting op r seen) := by
  rcases noteSighting_other hop with heq | ⟨now, heq⟩ <;> rw [heq]
  · exact h
  · exact h.stampHead

theorem dirty_note (hop : op ≠ .read (.listFirewalls .deleteVMFirewall)) :
    Dirty uuid (noteSighting op r seen) ↔ Dirty uuid seen := by
  rcases noteSighting_other hop with heq | ⟨now, heq⟩ <;> rw [heq]
  exact dirty_stampHead

/-- What happens between two listings of a delete keeps a series. -/
theorem Series.append {newer : Tr} (h : Series delay uuid ts (sightings tr))
    (hnewer : ∀ e ∈ newer, e.op ≠ .read (.listFirewalls .deleteVMFirewall)) :
    Series delay uuid ts (sightings (newer ++ tr)) := by
  induction newer with
  | nil => exact h
  | cons e _ ih =>
    exact (ih fun e' he' => hnewer e' (List.mem_cons_of_mem _ he')).note (hnewer e List.mem_cons_self)

theorem dirty_append {newer : Tr}
    (hnewer : ∀ e ∈ newer, e.op ≠ .read (.listFirewalls .deleteVMFirewall)) :
    Dirty uuid (sightings (newer ++ tr)) ↔ Dirty uuid (sightings tr) := by
  induction newer with
  | nil => exact Iff.rfl
  | cons e _ ih =>
    exact (dirty_note (hnewer e List.mem_cons_self)).trans
      (ih fun e' he' => hnewer e' (List.mem_cons_of_mem _ he'))

theorem Passive.not_listing {e : Event Op Reply} (h : Passive e) :
    e.op ≠ .read (.listFirewalls .deleteVMFirewall) := by
  rcases h with ⟨⟨⟩⟩ | _ <;> simp

theorem asOps_not_listing {own : Trace Query Answer}
    (h : ∀ q ∈ own, q.op ≠ .listFirewalls .deleteVMFirewall) :
    ∀ e ∈ asOps own, e.op ≠ .read (.listFirewalls .deleteVMFirewall) := by
  intro e he
  obtain ⟨q, hq, rfl⟩ := List.mem_map.1 he
  exact fun heq => h q hq (Op.read.inj heq)

theorem vmFirewallListed_eq_false (h : deleteRow items uuid = .ok none) :
    vmFirewallListed items uuid = false := by
  unfold deleteRow at h
  split at h
  next hrows =>
    unfold vmFirewallListed
    rw [List.any_eq_false]
    intro f hf hlisted
    exact List.ne_nil_of_mem (List.mem_filter.2 ⟨hf, hlisted⟩) hrows
  · split at h <;> cases h
  · cases h

end Listings

/-! ### What a count stands for -/

/-- The count of an anchor whose delete is staged. -/
def Counts (cfg : Config) (seen : Sightings) (o : Object) : Prop :=
  o.fw.receipt.pendingOp = .delete → ∀ n, o.fw.absenceCount = .count n →
    Dirty o.fw.uuid seen ∨ ∃ ts : List Time, (ts.length : ℤ) = n ∧
      (∀ t ∈ ts.head?, o.fw.absenceCheckedAt = .at t) ∧ Series (absenceDelay cfg) o.fw.uuid ts seen

/-- Events that leave every anchor as it is. -/
inductive Still : Event Op Reply → Prop
  | idle {e : Event Op Reply} : Idle e → Still e
  | stamped (r : Except Err Unit) : Still ⟨.stampReverseDone, r⟩

/-- The same anchor, up to what an operator may edit. -/
def Edited (o o' : Object) : Prop :=
  ∃ repair migration, o'.fw = { o.fw with repair := repair, migration := migration }

/-- What the record says, whenever it was: passes follow each other; an anchor was
read with a right count; and it had none when the delete listed after a sighting. -/
structure Recorded (cfg : Config) (vmUUID : String) (served : List (Tid × Event Op Reply)) : Prop where
  order : served.Pairwise fun newer older => older.1 ≤ newer.1
  reads : ∀ newer e older anchor, served.map Prod.snd = newer ++ e :: older →
    Shows e (.anchor vmUUID) anchor → Counts cfg (sightings older) anchor
  listed : ∀ newer r before e older anchor,
    served.map Prod.snd = newer ++ ⟨.read (.listFirewalls .deleteVMFirewall), r⟩ :: (before ++ e :: older) →
    Shows e (.anchor vmUUID) anchor → (∀ x ∈ before, Still x) →
    anchor.fw.receipt.pendingOp = .delete → Dirty anchor.fw.uuid (sightings (before ++ e :: older)) →
    anchor.fw.absenceCount = .none

section Recorded

variable {cfg : Config} {vmUUID : String} {served older : List (Tid × Event Op Reply)} {t : Tid}
  {anchor : Object} {now : Time} {n : ℤ}

theorem Recorded.of_append {newer : List (Tid × Event Op Reply)}
    (h : Recorded cfg vmUUID (newer ++ older)) : Recorded cfg vmUUID older where
  order := (List.pairwise_append.1 h.order).2.1
  reads := fun late e early anchor hsplit => h.reads (newer.map Prod.snd ++ late) e early anchor
    (by rw [List.map_append, hsplit, List.append_assoc])
  listed := fun late r before e early anchor hsplit => h.listed (newer.map Prod.snd ++ late) r before e
    early anchor (by rw [List.map_append, hsplit, List.append_assoc])

theorem absentReads_ok (h : absentReads cfg vmUUID anchor now = .ok n) :
    anchor.fw.absenceCount = .none ∧ n = 0 ∨ anchor.fw.absenceCount = .count n ∧
      ∃ checked, anchor.fw.absenceCheckedAt = .at checked ∧ checked + absenceDelay cfg ≤ now := by
  unfold absentReads at h
  split at h
  next hnone => exact .inl ⟨hnone, (Except.ok.inj h).symm⟩
  · cases h
  next count hcount =>
    obtain ⟨_, -, h⟩ := except_bind_ok h
    split at h
    next checked hchecked =>
      obtain ⟨_, hwait, h⟩ := except_bind_ok h
      obtain rfl := Except.ok.inj h
      refine .inr ⟨hcount, checked, hchecked, ?_⟩
      have hle := failIf_ok hwait
      exact Int.le_of_sub_nonpos (not_lt.1 hle)
    · cases h

/-- An absence that a pass has read makes a series with those it has found counted. -/
theorem AbsentRead.series (hrec : Recorded cfg vmUUID served) (hle : ∀ p ∈ served, p.1 ≤ t)
    (h : AbsentRead cfg (ownTrace t served) vmUUID anchor now n)
    (hop : anchor.fw.receipt.pendingOp = .delete) :
    ∃ ts, (ts.length : ℤ) = n + 1 ∧ ts.head? = some now ∧
      Series (absenceDelay cfg) anchor.fw.uuid ts (sightings (served.map Prod.snd)) := by
  obtain ⟨newer, items, _, htr, hnewer, ⟨mid, e, early, rfl, hshows, hmid⟩, hrow, hn, -⟩ := h
  obtain ⟨rest, hhistory⟩ := ownTrace_newest hrec.order hle
  have hsplit : served.map Prod.snd = (newer ++ [⟨.read .now, now⟩]) ++
      ⟨.read (.listFirewalls .deleteVMFirewall), .ok items⟩ :: (asOps mid ++ e :: (early ++ rest)) := by
    rw [hhistory, htr]
    simp
  have hread : served.map Prod.snd = (newer ++ [⟨.read .now, now⟩] ++
      ⟨.read (.listFirewalls .deleteVMFirewall), .ok items⟩ :: asOps mid) ++ e :: (early ++ rest) := by
    rw [hsplit]
    simp
  have hquiet : ∀ x ∈ asOps mid ++ [e], x.op ≠ .read (.listFirewalls .deleteVMFirewall) := by
    intro x hx
    rcases List.mem_append.1 hx with hx | hx
    · exact asOps_not_listing hmid x hx
    · obtain rfl := List.mem_singleton.1 hx
      rcases hshows with rfl | ⟨_, _, -, rfl⟩ <;> simp
  have hjoin : asOps mid ++ e :: (early ++ rest) = (asOps mid ++ [e]) ++ (early ++ rest) := by simp
  -- the series found on the anchor, behind the listing of this pass
  have hfound : ∃ ts : List Time, (ts.length : ℤ) = n ∧ (∀ t' ∈ ts.head?, t' + absenceDelay cfg ≤ now) ∧
      Series (absenceDelay cfg) anchor.fw.uuid ts (sightings (asOps mid ++ e :: (early ++ rest))) := by
    rcases absentReads_ok hn with ⟨-, rfl⟩ | ⟨hcount, _, hchecked, hspaced⟩
    · exact ⟨[], rfl, nofun, trivial⟩
    · rcases hrec.reads _ e _ anchor hread hshows hop n hcount with hdirty | ⟨ts, hlen, hhead, hseries⟩
      · have hdirty' : Dirty anchor.fw.uuid (sightings (asOps mid ++ e :: (early ++ rest))) := by
          rw [hjoin]
          exact (dirty_append hquiet).2 hdirty
        have hnone := hrec.listed _ _ _ e _ anchor hsplit hshows (fun x hx => .idle (asOps_idle x hx)) hop
          hdirty'
        rw [hcount] at hnone
        cases hnone
      · refine ⟨ts, hlen, fun t' ht' => ?_, ?_⟩
        · obtain rfl := Stamp.at.inj ((hhead t' ht').symm.trans hchecked)
          exact hspaced
        · rw [hjoin]
          exact hseries.append hquiet
  obtain ⟨ts, hlen, hspaced, hseries⟩ := hfound
  refine ⟨now :: ts, by rw [List.length_cons, ← hlen]; push_cast; rfl, rfl, ?_⟩
  have hnew : Series (absenceDelay cfg) anchor.fw.uuid (now :: ts) (sightings (⟨.read .now, now⟩ ::
      ⟨.read (.listFirewalls .deleteVMFirewall), .ok items⟩ :: (asOps mid ++ e :: (early ++ rest)))) :=
    ⟨[], items, _, rfl, vmFirewallListed_eq_false hrow, List.forall_mem_nil _, hspaced, hseries⟩
  have hlist : served.map Prod.snd = newer ++ (⟨.read .now, now⟩ ::
      ⟨.read (.listFirewalls .deleteVMFirewall), .ok items⟩ :: (asOps mid ++ e :: (early ++ rest))) := by
    rw [hsplit]
    simp
  rw [hlist]
  exact hnew.append fun x hx => (hnewer x hx).not_listing

end Recorded

/-! ### The count, step by step -/

section Counted

variable {cfg : Config} {vmUUID : String} {s s' : State} {t : Tid} {tr : Tr} {base o : Object}
  {e : Event Op Reply}

/-- How a change treats the count. -/
inductive CountStep (cfg : Config) (tr : Tr) (vmUUID : String) (base o : Object) : Prop
  | same : o.fw.absenceCount = base.fw.absenceCount → o.fw.absenceCheckedAt = base.fw.absenceCheckedAt →
      o.fw.uuid = base.fw.uuid → o.fw.receipt.pendingOp = base.fw.receipt.pendingOp →
      CountStep cfg tr vmUUID base o
  | cleared : o.fw.absenceCount = .none → CountStep cfg tr vmUUID base o
  /-- It counts the absences of a create. -/
  | ofPut : OfPut o.fw.receipt → CountStep cfg tr vmUUID base o
  | counted {anchor : Object} {n : ℤ} {now : Time} : AbsentRead cfg tr vmUUID anchor now n →
      anchor.fw.receipt.pendingOp = .delete → base.fw.receipt.pendingOp = .delete →
      o = base.annotate (fun a => { a with absenceCount := .count (n + 1), absenceCheckedAt := .at now }) →
      CountStep cfg tr vmUUID base o

theorem AnchorChange.countStep (h : AnchorChange cfg tr vmUUID base o)
    (hnone : base.fw.absenceCount ≠ .none → base.fw.receipt.pendingOp ≠ .none)
    (hdelete : ∀ anchor, Shown tr (.anchor vmUUID) anchor → anchor.uid = base.uid →
      anchor.fw.receipt.pendingOp = .delete → base.fw.receipt.pendingOp = .delete) :
    CountStep cfg tr vmUUID base o := by
  have hstaged : base.fw.hasReceipt = false → base.fw.absenceCount = .none := fun hno =>
    not_not.1 fun hcount => hnone hcount (hasReceipt_eq_false.1 hno).2.1
  cases h with
  | stagePut _ _ _ _ hm =>
    obtain ⟨hno, -, rfl⟩ := stageReceipt_ok hm
    exact .cleared (hstaged hno)
  | stageAdopt _ _ _ hm =>
    obtain ⟨hno, -, rfl⟩ := stageReceipt_ok hm
    exact .cleared (hstaged hno)
  | stageUnadopt _ hm =>
    obtain ⟨hno, -, rfl⟩ := stageReceipt_ok hm
    exact .cleared (hstaged hno)
  | stageDelete _ hm =>
    obtain ⟨hno, -, rfl⟩ := stageReceipt_ok hm
    exact .cleared (hstaged hno)
  | issue _ _ hm => obtain ⟨-, -, rfl⟩ := issueMutation_ok hm; exact .same rfl rfl rfl rfl
  | reset _ hm => obtain ⟨-, rfl⟩ := resetMutation_ok hm; exact .cleared rfl
  | commit _ hm => obtain ⟨-, -, rfl⟩ := commitMutation_ok hm; exact .cleared rfl
  | count hop hm => obtain ⟨rfl, rfl⟩ := countMutation_ok hm; exact .ofPut hop
  | ledger _ _ hm => obtain ⟨-, -, rfl⟩ := ledgerMutation_ok hm; exact .same rfl rfl rfl rfl
  | attachedAt => exact .same rfl rfl rfl rfl
  | target _ _ _ hm => obtain ⟨-, rfl⟩ := targetMutation_ok hm; exact .same rfl rfl rfl rfl
  | @absent _ anchor _ _ hshown huid hop habsent _ hm =>
    obtain ⟨-, -, rfl⟩ := absentMutation_ok hm
    exact .counted habsent hop (hdelete anchor hshown huid hop) rfl
  | issueDelete hm => obtain ⟨-, -, rfl⟩ := issueDeleteMutation_ok hm; exact .cleared rfl
  | clearDelete hm =>
    obtain ⟨_, _, _, -, hcount, rfl⟩ := clearDeleteMutation_ok hm
    rcases hcount with ⟨rfl, -⟩ | ⟨rfl, rfl⟩
    · exact .cleared rfl
    · exact .same rfl rfl rfl rfl
  | plan hm => obtain rfl := planMutation_ok hm; exact .same rfl rfl rfl rfl
  | rebuild _ hm =>
    obtain ⟨hno, -, rfl⟩ := rebuildMutation_ok hm
    exact .cleared (hstaged hno)
  | finalize => exact .same rfl rfl rfl rfl
  | handOver => exact .same rfl rfl rfl rfl

/-- A change that takes the finalizer off. -/
theorem AnchorChange.finalized (h : AnchorChange cfg tr vmUUID base o)
    (hdelete : base.fw.receipt.pendingOp = .delete) (hbase : base.finalizer = true)
    (ho : o.finalizer = false) : ∃ anchor now n, AbsentRead cfg tr vmUUID anchor now n ∧
      anchor.fw.receipt.pendingOp = .delete ∧ absenceConfirmations ≤ n + 1 ∧
      base.fw.deleteTarget = anchor.fw.deleteTarget := by
  have hkept : o.finalizer ≠ base.finalizer := by rw [hbase, ho]; exact Bool.false_ne_true
  cases h with
  | stagePut _ _ _ _ hm => obtain ⟨-, -, rfl⟩ := stageReceipt_ok hm; exact absurd rfl hkept
  | stageAdopt _ _ _ hm => obtain ⟨-, -, rfl⟩ := stageReceipt_ok hm; exact absurd rfl hkept
  | stageUnadopt _ hm => obtain ⟨-, -, rfl⟩ := stageReceipt_ok hm; exact absurd rfl hkept
  | stageDelete _ hm => obtain ⟨-, -, rfl⟩ := stageReceipt_ok hm; exact absurd rfl hkept
  | issue _ _ hm => obtain ⟨-, -, rfl⟩ := issueMutation_ok hm; exact absurd rfl hkept
  | reset _ hm => obtain ⟨-, rfl⟩ := resetMutation_ok hm; exact absurd rfl hkept
  | commit _ hm => obtain ⟨-, -, rfl⟩ := commitMutation_ok hm; exact absurd rfl hkept
  | count _ hm => obtain ⟨-, rfl⟩ := countMutation_ok hm; exact absurd rfl hkept
  | ledger _ _ hm => obtain ⟨-, -, rfl⟩ := ledgerMutation_ok hm; exact absurd rfl hkept
  | attachedAt => exact absurd rfl hkept
  | target _ _ _ hm => obtain ⟨-, rfl⟩ := targetMutation_ok hm; exact absurd rfl hkept
  | absent _ _ _ _ _ hm => obtain ⟨-, -, rfl⟩ := absentMutation_ok hm; exact absurd rfl hkept
  | issueDelete hm => obtain ⟨-, -, rfl⟩ := issueDeleteMutation_ok hm; exact absurd rfl hkept
  | clearDelete hm => obtain ⟨_, _, _, -, -, rfl⟩ := clearDeleteMutation_ok hm; exact absurd rfl hkept
  | plan hm => obtain rfl := planMutation_ok hm; exact absurd rfl hkept
  | rebuild _ hm => obtain ⟨-, -, rfl⟩ := rebuildMutation_ok hm; exact absurd rfl hkept
  | finalize _ _ htarget _ hop habsent hn => exact ⟨_, _, _, habsent, hop, hn, htarget⟩
  | handOver hop => rw [hdelete] at hop; cases hop

/-- What holds of every reachable state. -/
structure Counted (cfg : Config) (vmUUID : String) (s : State) : Prop where
  recorded : Recorded cfg vmUUID s.served
  none : ∀ o ∈ (s.store (.anchor vmUUID)).log, o.fw.absenceCount ≠ .none →
    o.fw.receipt.pendingOp ≠ .none
  current : ∀ cur, (s.store (.anchor vmUUID)).current = some cur →
    Counts cfg (sightings (s.served.map Prod.snd)) cur
  fresh : ∀ newer e older anchor, s.served.map Prod.snd = newer ++ e :: older →
    Shows e (.anchor vmUUID) anchor → (∀ x ∈ newer, Still x) →
    ∃ cur, (s.store (.anchor vmUUID)).current = some cur ∧ Edited anchor cur

/-- Where the delete lists again after a sighting, the count has been reset. -/
def resets (vmUUID : String) (_ : Tid) (op : Op) (s : State) : Prop :=
  op = .read (.listFirewalls .deleteVMFirewall) →
    ∀ cur, (s.store (.anchor vmUUID)).current = some cur → cur.fw.receipt.pendingOp = .delete →
      Dirty cur.fw.uuid (sightings (s.served.map Prod.snd)) → cur.fw.absenceCount = .none

theorem Edited.refl : Edited o o := ⟨_, _, rfl⟩

/-- One request.  What is asked of the caller is about the anchor alone. -/
theorem Counted.step (h : Counted cfg vmUUID s) (hserved : s'.served = (t, e) :: s.served)
    (hle : ∀ p ∈ s.served, p.1 ≤ t) (hresets : resets vmUUID t e.op s)
    (hnone : ∀ o ∈ (s'.store (.anchor vmUUID)).log, o.fw.absenceCount ≠ .none →
      o.fw.receipt.pendingOp ≠ .none)
    (hshows : ∀ anchor, Shows e (.anchor vmUUID) anchor →
      (s'.store (.anchor vmUUID)).current = some anchor ∧
        Counts cfg (sightings (s.served.map Prod.snd)) anchor)
    (hcurrent : ∀ cur, (s'.store (.anchor vmUUID)).current = some cur →
      Counts cfg (sightings (e :: s.served.map Prod.snd)) cur)
    (hstill : Still e → (s'.store (.anchor vmUUID)).current = (s.store (.anchor vmUUID)).current) :
    Counted cfg vmUUID s' := by
  have hhistory : s'.served.map Prod.snd = e :: s.served.map Prod.snd := by rw [hserved]; rfl
  refine ⟨⟨?_, ?_, ?_⟩, hnone, fun cur hcur => by rw [hhistory]; exact hcurrent cur hcur, ?_⟩
  · rw [hserved]
    exact List.pairwise_cons.2 ⟨fun p hp => hle p hp, h.recorded.order⟩
  · intro newer e' older anchor hsplit hshow
    rw [hhistory] at hsplit
    rcases newer with _ | ⟨x, newer⟩
    · obtain ⟨rfl, rfl⟩ := List.cons.inj hsplit
      exact (hshows anchor hshow).2
    · exact h.recorded.reads newer e' older anchor (List.cons.inj hsplit).2 hshow
  · intro newer r before e' older anchor hsplit hshow hbefore hop hdirty
    rw [hhistory] at hsplit
    rcases newer with _ | ⟨x, newer⟩
    · obtain ⟨rfl, hold⟩ := List.cons.inj hsplit
      obtain ⟨cur, hcur, _, _, hedited⟩ := h.fresh before e' older anchor hold hshow hbefore
      have hnone' := hresets rfl cur hcur (by rw [hedited]; exact hop) (by rw [hold, hedited]; exact hdirty)
      rw [hedited] at hnone'
      exact hnone'
    · exact h.recorded.listed newer r before e' older anchor (List.cons.inj hsplit).2 hshow hbefore hop
        hdirty
  · intro newer e' older anchor hsplit hshow hnewer
    rw [hhistory] at hsplit
    rcases newer with _ | ⟨x, newer⟩
    · obtain ⟨rfl, rfl⟩ := List.cons.inj hsplit
      exact ⟨anchor, (hshows anchor hshow).1, .refl⟩
    · obtain ⟨rfl, hold⟩ := List.cons.inj hsplit
      obtain ⟨cur, hcur, hedited⟩ := h.fresh newer e' older anchor hold hshow
        fun x hx => hnewer x (List.mem_cons_of_mem _ hx)
      exact ⟨cur, (hstill (hnewer e List.mem_cons_self)).trans hcur, hedited⟩

theorem Counts.note {op : Op} {r : Reply op} {seen : Sightings}
    (h : Counts cfg seen o) (hop : op ≠ .read (.listFirewalls .deleteVMFirewall)) :
    Counts cfg (noteSighting op r seen) o := by
  intro hdelete n hcount
  rcases h hdelete n hcount with hdirty | ⟨ts, hlen, hhead, hseries⟩
  · exact .inl ((dirty_note hop).2 hdirty)
  · exact .inr ⟨ts, hlen, hhead, hseries.note hop⟩

/-- A request that leaves the anchor alone. -/
theorem Counted.quiet {op : Op} {r : Reply op} (h : Counted cfg vmUUID s)
    (hserved : s'.served = (t, ⟨op, r⟩) :: s.served) (hle : ∀ p ∈ s.served, p.1 ≤ t)
    (hresets : resets vmUUID t op s) (hstore : s'.store (.anchor vmUUID) = s.store (.anchor vmUUID))
    (hread : ∀ anchor, Shows ⟨op, r⟩ (.anchor vmUUID) anchor →
      (s.store (.anchor vmUUID)).current = some anchor) : Counted cfg vmUUID s' := by
  refine h.step hserved hle hresets (by rw [hstore]; exact h.none) (fun anchor hshow => ?_)
    (fun cur hcur => ?_) fun _ => by rw [hstore]
  · have hcur := hread anchor hshow
    exact ⟨by rw [hstore]; exact hcur, h.current anchor hcur⟩
  · rw [hstore] at hcur
    have hcounts := h.current cur hcur
    by_cases hop : op = .read (.listFirewalls .deleteVMFirewall)
    · subst hop
      cases r with
      | error => exact hcounts
      | ok items =>
        -- after a sighting there is no count, so a new listing goes on top of a series
        intro hdelete n hcount
        by_cases hlisted : vmFirewallListed items cur.fw.uuid = true
        · exact .inl ⟨_, rfl, hlisted⟩
        · rcases hcounts hdelete n hcount with hdirty | ⟨ts, hlen, hhead, hseries⟩
          · rw [hresets rfl cur hcur hdelete hdirty] at hcount
            cases hcount
          · exact .inr ⟨ts, hlen, hhead, hseries.cons (Bool.eq_false_iff.2 hlisted)⟩
    · exact hcounts.note hop

/-- A version of the anchor is stored. -/
theorem Counted.stored {op : Op} {r : Reply op} (h : Counted cfg vmUUID s)
    (hserved : s'.served = (t, ⟨op, r⟩) :: s.served) (hle : ∀ p ∈ s.served, p.1 ≤ t)
    (hop : ∀ q, op ≠ .read q) (hstore : s'.store (.anchor vmUUID) =
      (s.store (.anchor vmUUID)).put objectStamp o)
    (hnone : o.fw.absenceCount ≠ .none → o.fw.receipt.pendingOp ≠ .none)
    (hcounts : Counts cfg (sightings (s.served.map Prod.snd)) o)
    (hshow : ∀ anchor, Shows ⟨op, r⟩ (.anchor vmUUID) anchor → anchor = s.stamped (.anchor vmUUID) o)
    (hstill : ¬ Still ⟨op, r⟩) : Counted cfg vmUUID s' := by
  have hcur : (s'.store (.anchor vmUUID)).current = some (s.stamped (.anchor vmUUID) o) := by
    rw [hstore]
    rfl
  have hnew : Counts cfg (sightings (s.served.map Prod.snd)) (s.stamped (.anchor vmUUID) o) := hcounts
  refine h.step hserved hle (fun heq => absurd heq (hop _)) ?_ (fun anchor hshows => ?_)
    (fun cur hcur' => ?_) fun hs => absurd hs hstill
  · rw [hstore, Versioned.log_put]
    exact List.forall_mem_cons.2 ⟨hnone, h.none⟩
  · rw [hshow anchor hshows]
    exact ⟨hcur, hnew⟩
  · obtain rfl := Option.some.inj (hcur.symm.trans hcur')
    exact hnew.note (hop _)

/-- What a pass has found absent is still there as it was read. -/
theorem Counted.absentRead {now : Time} {n : ℤ} {anchor : Object} (h : Counted cfg vmUUID s)
    (hle : ∀ p ∈ s.served, p.1 ≤ t) (habsent : AbsentRead cfg (ownTrace t s.served) vmUUID anchor now n)
    (hbase : (s.store (.anchor vmUUID)).current = some base) : Edited anchor base := by
  obtain ⟨newer, items, _, htr, hnewer, ⟨mid, e, early, rfl, hshows, -⟩, -⟩ := habsent
  obtain ⟨rest, hhistory⟩ := ownTrace_newest h.recorded.order hle
  have hsplit : s.served.map Prod.snd = (newer ++ ⟨.read .now, now⟩ ::
      ⟨.read (.listFirewalls .deleteVMFirewall), .ok items⟩ :: asOps mid) ++ e :: (early ++ rest) := by
    rw [hhistory, htr]
    simp
  obtain ⟨_, hcur, hedited⟩ := h.fresh _ e _ anchor hsplit hshows <|
    List.forall_mem_append.2 ⟨fun x hx => by
      rcases hnewer x hx with ⟨⟨⟩⟩ | r
      · exact .idle (.read _ _)
      · exact .idle (.conflict _ _ _)
      · exact .stamped r, List.forall_mem_cons.2 ⟨.idle (.read _ _), List.forall_mem_cons.2
        ⟨.idle (.read _ _), fun x hx => .idle (asOps_idle x hx)⟩⟩⟩
  obtain rfl := Option.some.inj (hcur.symm.trans hbase)
  exact hedited

/-- The count after a change of the anchor. -/
theorem CountStep.counts (h : CountStep cfg (ownTrace t s.served) vmUUID base o)
    (hs : Counted cfg vmUUID s) (hle : ∀ p ∈ s.served, p.1 ≤ t)
    (hbase : (s.store (.anchor vmUUID)).current = some base) :
    (o.fw.absenceCount ≠ .none → o.fw.receipt.pendingOp ≠ .none) ∧
      Counts cfg (sightings (s.served.map Prod.snd)) o := by
  have hmem := Versioned.current_mem hbase
  cases h with
  | same hcount hchecked huuid hop =>
    refine ⟨fun hne => ?_, ?_⟩
    · rw [hop]
      exact hs.none base hmem (by rwa [hcount] at hne)
    · unfold Counts
      rw [hcount, hchecked, huuid, hop]
      exact hs.current base hbase
  | cleared hcount =>
    refine ⟨fun hne => absurd hcount hne, fun _ n hn => ?_⟩
    rw [hcount] at hn
    cases hn
  | ofPut hop =>
    refine ⟨fun _ hnone => ?_, fun hdelete => absurd hdelete hop.not_delete⟩
    rcases hop with hop | hop | hop | hop <;> rw [hnone] at hop <;> cases hop
  | @counted anchor n _ habsent hanchor hdelete heq =>
    subst heq
    refine ⟨fun _ hnone => (nomatch hdelete.symm.trans hnone), fun _ m hm => .inr ?_⟩
    obtain ⟨ts, hlen, hhead, hseries⟩ := habsent.series hs.recorded hle hanchor
    obtain ⟨_, _, hedited⟩ := hs.absentRead hle habsent hbase
    have hm' : n + 1 = m := CountText.count.inj hm
    refine ⟨ts, hlen.trans hm', fun t' ht' => ?_, ?_⟩
    · rw [hhead] at ht'
      obtain rfl := Option.some.inj ht'
      rfl
    · rw [show (base.annotate _).fw.uuid = anchor.fw.uuid by
        rw [show (base.annotate _).fw.uuid = base.fw.uuid from rfl, hedited]]
      exact hseries

/-- A write of the code that fits. -/
theorem Counted.write {ref : Ref} {r : Written} (h : Counted cfg vmUUID s) (hi : Inv cfg s)
    (hle : ∀ p ∈ s.served, p.1 ≤ t) (hw : Write cfg (ownTrace t s.served) ref o) (hfits : Fits s ref o)
    (hstill : ¬ Still ⟨.update ref o, r⟩) : Counted cfg vmUUID ((s.put ref o).note t (.update ref o) r) := by
  obtain ⟨cur, hcur, hversion⟩ := hfits
  by_cases href : ref = .anchor vmUUID
  · subst href
    have hput : ((s.put (.anchor vmUUID) o).note t (.update (.anchor vmUUID) o) r).store (.anchor vmUUID) =
        (s.store (.anchor vmUUID)).put objectStamp o := Function.update_self _ _ _
    have hkept : (o.fw.absenceCount ≠ .none → o.fw.receipt.pendingOp ≠ .none) ∧
        Counts cfg (sightings (s.served.map Prod.snd)) o := by
      cases hi.over (List.Subset.refl _) hw hcur hversion with
      | relation => exact ⟨h.none cur (Versioned.current_mem hcur), h.current cur hcur⟩
      | anchor hchange =>
        refine (hchange.countStep (h.none cur (Versioned.current_mem hcur))
          fun anchor hshown huid hdelete => ?_).counts h hle hcur
        exact hi.delete_current hcur anchor (hi.shown t _ _ hshown) huid hdelete
    exact h.stored rfl hle (fun _ heq => by cases heq) hput hkept.1 hkept.2
      (fun anchor hshow => by rcases hshow with hshow | ⟨_, _, _, hshow⟩ <;> cases hshow) hstill
  · refine h.quiet rfl hle (fun heq => by cases heq) (Function.update_of_ne (Ne.symm href) _ _)
      fun anchor hshow => ?_
    rcases hshow with hshow | ⟨_, _, _, hshow⟩ <;> cases hshow

/-- An anchor is created without a count. -/
theorem Counted.created {vm uid : String} {r : Created} (h : Counted cfg vmUUID s)
    (hle : ∀ p ∈ s.served, p.1 ≤ t)
    (hr : ∀ anchor, r = .ok anchor → anchor = s.stamped (.anchor vm) { emptyAnchor vm with uid := uid }) :
    Counted cfg vmUUID ((s.put (.anchor vm) { emptyAnchor vm with uid := uid }).note t
      (.create vm (emptyAnchor vm)) r) := by
  have hshow : ∀ anchor, Shows ⟨.create vm (emptyAnchor vm), r⟩ (.anchor vmUUID) anchor →
      vm = vmUUID ∧ r = .ok anchor := by
    intro _ hshow
    rcases hshow with hshow | ⟨_, _, href, hshow⟩
    · cases hshow
    · injection hshow with hop hreply
      injection hop with hvm ho
      subst hvm ho
      exact ⟨(Ref.anchor.inj href).symm, hreply⟩
  by_cases hvm : vm = vmUUID
  · subst hvm
    refine h.stored rfl hle (fun _ heq => by cases heq) (Function.update_self _ _ _)
      (fun hne => absurd rfl hne) (fun _ n hn => by cases hn)
      (fun anchor hs => hr anchor (hshow anchor hs).2) fun hstill => ?_
    rcases hstill with ⟨⟨⟩⟩ | _
  · refine h.quiet rfl hle (nofun)
      (Function.update_of_ne (fun heq => hvm (Ref.anchor.inj heq).symm) _ _)
      fun anchor hs => absurd (hshow anchor hs).1 hvm

/-- **One request** of one controller. -/
theorem Counted.exec {renames : Prop} (h : Counted cfg vmUUID s) (hi : Inv cfg s)
    (hle : ∀ p ∈ s.served, p.1 ≤ t) {op : Op} {r : Reply op} (hresets : resets vmUUID t op s)
    (hok : (receiptHabit cfg renames).ok (ownTrace t s.served) op) (hexec : exec t op s r s') :
    Counted cfg vmUUID s' := by
  have hserved := records.exec t op s r s' hexec
  obtain ⟨s₁, heffect, rfl⟩ := hexec
  -- most requests leave the store alone, and show nothing of it
  have hmute : (s₁.store (.anchor vmUUID) = s.store (.anchor vmUUID)) →
      (∀ ref, op ≠ .read (.get ref)) → (∀ vm o, op ≠ .create vm o) →
      Counted cfg vmUUID (s₁.note t op r) := by
    intro hstore hget hcreate
    refine h.quiet hserved hle hresets hstore fun anchor hshow => ?_
    rcases hshow with hshow | ⟨_, _, -, hshow⟩
    · exact absurd (congrArg Event.op hshow) (hget _)
    · exact absurd (congrArg Event.op hshow) (hcreate _ _)
  cases op with
  | read q =>
    cases q with
    | get =>
      obtain ⟨rfl, hread⟩ := heffect
      refine h.quiet hserved hle hresets rfl fun anchor hshow => ?_
      rcases hshow with hshow | ⟨_, _, -, hshow⟩
      · injection hshow with hop hreply
        injection hop with hq
        injection hq with href
        subst href
        exact hread (some anchor) hreply
      · cases hshow
    | now =>
      obtain ⟨rfl, -⟩ := heffect
      exact hmute rfl (nofun) fun _ _ heq => by cases heq
    | token =>
      obtain ⟨rfl, -⟩ := heffect
      exact hmute rfl (nofun) fun _ _ heq => by cases heq
    | _ =>
      obtain rfl := heffect
      exact hmute rfl (nofun) fun _ _ heq => by cases heq
  | update =>
    cases heffect with
    | stored hfits => exact h.write hi hle hok hfits (fun hstill => by rcases hstill with ⟨⟨⟩⟩ | _)
    | lost _ hfits => exact h.write hi hle hok hfits (fun hstill => by rcases hstill with ⟨⟨⟩⟩ | _)
    | refused => exact hmute rfl (nofun) fun _ _ heq => by cases heq
    | failed => exact hmute rfl (nofun) fun _ _ heq => by cases heq
  | create vm o =>
    obtain rfl : o = emptyAnchor vm := hok
    have hnothing : ∀ anchor, ¬ ∃ e, Shows ⟨.create vm (emptyAnchor vm), e⟩ (.anchor vmUUID) anchor ∧
        ∀ o', e ≠ Created.ok o' := by
      rintro anchor ⟨_, hshow | ⟨_, _, -, hshow⟩, hne⟩
      · cases hshow
      · injection hshow with hop hreply
        injection hop with hvm ho
        subst hvm ho
        exact hne anchor hreply
    cases heffect with
    | created => exact h.created hle fun anchor heq => (Created.ok.inj heq).symm
    | lost => exact h.created hle fun anchor heq => by cases heq
    | there =>
      exact h.quiet hserved hle hresets rfl fun anchor hshow =>
        absurd ⟨_, hshow, fun _ heq => by cases heq⟩ (hnothing anchor)
    | failed =>
      exact h.quiet hserved hle hresets rfl fun anchor hshow =>
        absurd ⟨_, hshow, fun _ heq => by cases heq⟩ (hnothing anchor)
  | delete vm uid =>
    rcases heffect with rfl | ⟨rfl, -⟩
    · exact hmute rfl (nofun) fun _ _ heq => by cases heq
    · by_cases hvm : vm = vmUUID
      · subst hvm
        have hdrop : ((s.drop (.anchor vm)).note t (.delete vm uid) r).store (.anchor vm) =
            (s.store (.anchor vm)).drop := Function.update_self _ _ _
        refine h.step rfl hle (nofun) (by rw [hdrop]; exact h.none)
          (fun anchor hshow => ?_) (fun cur hcur => ?_) fun hstill => ?_
        · rcases hshow with hshow | ⟨_, _, -, hshow⟩ <;> cases hshow
        · rw [hdrop] at hcur
          cases hcur
        · rcases hstill with ⟨⟨⟩⟩ | _
      · exact hmute (Function.update_of_ne (fun heq => hvm (Ref.anchor.inj heq).symm) _ _)
          (nofun) fun _ _ heq => by cases heq
  | relate =>
    obtain rfl := heffect
    exact hmute (by rw [send_store]) (nofun) fun _ _ heq => by cases heq
  | put =>
    obtain rfl := heffect
    exact hmute (by rw [send_store]) (fun _ heq => by cases heq) fun _ _ heq => by cases heq
  | _ =>
    obtain rfl := heffect
    exact hmute rfl (fun _ heq => by cases heq) fun _ _ heq => by cases heq

/-- What happens between requests. -/
theorem Counted.env (h : Counted cfg vmUUID s) (henv : Quiet s s') : Counted cfg vmUUID s' := by
  cases henv with
  | tick => exact ⟨h.recorded, h.none, h.current, h.fresh⟩
  | ended => exact ⟨h.recorded, h.none, h.current, h.fresh⟩
  | edit ref cur repair migration hcur =>
    by_cases href : ref = .anchor vmUUID
    · subst href
      have hput : ∀ o, (s.put (.anchor vmUUID) o).store (.anchor vmUUID) =
          (s.store (.anchor vmUUID)).put objectStamp o := fun o => Function.update_self _ _ _
      refine ⟨h.recorded, ?_, fun new hnew => ?_, fun newer e older anchor hsplit hshow hs => ?_⟩
      · rw [hput, Versioned.log_put]
        exact List.forall_mem_cons.2 ⟨h.none cur (Versioned.current_mem hcur), h.none⟩
      · rw [hput, Versioned.current_put] at hnew
        obtain rfl := Option.some.inj hnew
        exact h.current cur hcur
      · obtain ⟨_, hcur', _, _, hedited⟩ := h.fresh newer e older anchor hsplit hshow hs
        obtain rfl := Option.some.inj (hcur.symm.trans hcur')
        refine ⟨_, by rw [hput, Versioned.current_put], repair, migration, ?_⟩
        rw [show (objectStamp.stamp _ (cur.annotate _)).fw =
          { cur.fw with repair := repair, migration := migration } from rfl, hedited]
    · have hput : ∀ o, (s.put ref o).store (.anchor vmUUID) = s.store (.anchor vmUUID) :=
        fun o => Function.update_of_ne (Ne.symm href) _ _
      refine ⟨h.recorded, ?_, ?_, ?_⟩ <;> rw [hput]
      · exact h.none
      · exact h.current
      · exact h.fresh

/-- Nothing has been counted yet. -/
structure Starts (vmUUID : String) (s : State) : Prop where
  initial : Initial s
  uncounted : ∀ o ∈ (s.store (.anchor vmUUID)).log, o.fw.absenceCount = .none

theorem Starts.counted (h : Starts vmUUID s) : Counted cfg vmUUID s := by
  have hserved := h.initial.served
  refine ⟨⟨?_, fun newer e older anchor hsplit => ?_, fun newer r before e older anchor hsplit => ?_⟩,
    fun o ho hne => absurd (h.uncounted o ho) hne, fun cur hcur _ n hn => ?_,
    fun newer e older anchor hsplit => ?_⟩
  · rw [hserved]
    exact List.Pairwise.nil
  · rw [hserved] at hsplit
    cases newer <;> cases hsplit
  · rw [hserved] at hsplit
    cases newer <;> cases hsplit
  · rw [h.uncounted cur (Versioned.current_mem hcur)] at hn
    cases hn
  · rw [hserved] at hsplit
    cases newer <;> cases hsplit

/-- **Every reachable state** of one controller that resets its counts. -/
theorem counted_reachable {c : InSpaceKube.Config State Op Reply (Except Err Unit)}
    (h : Reachable (oneByOne.restrict (resets vmUUID)) (Calls cfg) (Starts vmUUID) c) :
    Records.Kept State.served (receiptHabit cfg True) (fun s => Inv cfg s ∧ Counted cfg vmUUID s) c := by
  have hrec : Records (oneByOne.restrict (resets vmUUID)) State.served :=
    ⟨fun t op s r s' h => records.exec t op s r s' h.2.2, fun s s' h => records.env s s' (.quiet h)⟩
  refine Records.sound hrec (fun s hs => ⟨hs.initial.served, hs.initial.inv, hs.counted⟩)
    (fun s s' hi hmove => ⟨hi.1.env (.quiet hmove), hi.2.env hmove⟩) (fun t p hp => calls_follow hp)
    (fun t op s r s' hi _ hok hserve => ?_) h
  exact ⟨trivial, hi.1.exec hok hserve.2.2, hi.2.exec hi.1 hserve.2.1 hserve.1 hok hserve.2.2⟩

/-- Before the write that stored `new`, `deleteVMFirewall` has read three listings
without the firewall, a delay apart, and none with it in between. -/
def ThreeAbsences (cfg : Config) (served : List (Tid × Event Op Reply)) (vmUUID : String) (new : Object)
    (uuid : String) : Prop :=
  ∃ later t o r before n t₃ t₂ t₁, served = later ++ (t, ⟨.update (.anchor vmUUID) o, r⟩) :: before ∧
    new = { o with version := n } ∧
    Series (absenceDelay cfg) uuid [t₃, t₂, t₁] (sightings (before.map Prod.snd))

/-- **The end of an anchor, in every run of one controller whose counts are reset
after a sighting.**  The anchor of a staged delete loses its finalizer after three
absences of the firewall, a delay apart, with no sighting in between. -/
theorem finalized_after_three_absences (cfg : Config) (vmUUID : String)
    {c : InSpaceKube.Config State Op Reply (Except Err Unit)}
    (h : Reachable (oneByOne.restrict (resets vmUUID)) (Calls cfg) (Starts vmUUID) c)
    {newer older : List Object} {new old : Object}
    (hlog : (c.shared.store (.anchor vmUUID)).log = newer ++ new :: old :: older)
    (huid : new.uid = old.uid) (hdelete : old.fw.receipt.pendingOp = .delete)
    (hold : old.finalizer = true) (hnew : new.finalizer = false) :
    ThreeAbsences cfg c.shared.served vmUUID new old.fw.deleteTarget := by
  obtain ⟨hi, hcounted⟩ := (counted_reachable h).inv
  cases hi.stored hlog with
  | edited heq => rw [heq] at hnew; exact absurd (hnew.symm.trans hold) Bool.false_ne_true
  | created _ hfresh => exact absurd huid hfresh
  | @written t tr o n hasked hwrite heq =>
    subst heq
    obtain ⟨later, before, r, hserved, rfl, -⟩ := hasked
    cases hwrite with
    | relation => exact absurd (hnew.symm.trans hold) Bool.false_ne_true
    | anchor hchange =>
      obtain ⟨_, _, _, habsent, hop, hcount, htarget⟩ :=
        hchange.finalized hdelete hold hnew
      have hrec := hcounted.recorded
      rw [hserved] at hrec
      have hle := (List.pairwise_cons.1 (List.pairwise_append.1 hrec.order).2.1).1
      rw [← List.singleton_append, ← List.append_assoc] at hrec
      obtain ⟨ts, hlen, -, hseries⟩ := habsent.series hrec.of_append hle hop
      obtain ⟨_, _, _, -, -, -, -, -, htarget'⟩ := habsent
      rw [htarget, htarget']
      match ts, hlen, hseries with
      | t₃ :: t₂ :: t₁ :: rest, _, hseries =>
        exact ⟨later, t, o, r, before, n, t₃, t₂, t₁, hserved, rfl, hseries.take (n := 3)⟩
      | [], hlen, _ | [_], hlen, _ | [_, _], hlen, _ =>
        unfold absenceConfirmations at hcount
        simp at hlen
        omega

end Counted

/-! ### Two runs

A delete is staged on the anchor of a VM, and passes of `deleteVMFirewall` follow
each other half a minute apart.  In the first run the firewall is never listed.
In the second it is listed once with a name that is not its own, between two
absences. -/

section Runs

/-- The anchor with its delete staged. -/
def goneAnchor : Object := webAnchor.annotate fun a =>
  { a with uuid := webFirewall, deleteTarget := webFirewall,
           receipt := { a.receipt with pending := .ledger .empty, pendingOp := .delete, pendingAt := .at 0 } }

def goneStart : State := .single (.anchor webVM) goneAnchor

def vmDelete : Prog Op Reply (Except Err Unit) := (Call.run vmConfig webNetwork 3 (.delete webVM)).run

theorem vmDelete_calls (t : Tid) : Calls vmConfig t vmDelete := ⟨_, _, _, rfl⟩

/-- Nothing is listed. -/
def goneOutside : Outside := (webOutside []).listing []

/-- The firewall is listed under another name. -/
def renamedOutside : Outside := (webOutside []).listing [{ vmFirewall with name := "other" }]

theorem starts_goneStart : Starts webVM goneStart where
  initial := initial_single ⟨fun _ => rfl,
    fun _ => ⟨fun ⟨l, hl, hne⟩ => hne (by cases hl; rfl), rfl⟩, fun h => by
      rcases h with ⟨l, hl, hne⟩ | hne
      · cases hl
        exact absurd rfl hne
      · exact absurd rfl hne⟩ rfl rfl
  uncounted := fun o ho => by
    obtain rfl := List.mem_singleton.1 ho
    rfl

def meetsResets (op : Op) (s : State) : Bool :=
  match op with
  | .read (.listFirewalls .deleteVMFirewall) =>
    match (s.store (.anchor webVM)).current, (sightings (s.served.map Prod.snd)).head? with
    | some cur, some seen => !vmFirewallListed seen.1 cur.fw.uuid || cur.fw.absenceCount == .none
    | _, _ => true
  | _ => true

theorem resets_of_meetsResets (t : Tid) (op : Op) (s : State) (h : meetsResets op s = true) :
    resets webVM t op s := by
  rintro rfl _ hcur - ⟨_, hseen, hlisted⟩
  simp only [meetsResets, hcur, Option.mem_def.1 hseen, hlisted, Bool.not_true, Bool.false_or] at h
  exact beq_iff_eq.1 h

/-- A controller whose counts are reset. -/
def Outside.resetting (w : Outside) (t : Tid) : (oneByOne.restrict (resets webVM)).Driver t :=
  (w.turn t).restrict meetsResets (resets_of_meetsResets t)

/-- Three absences. -/
def goneEnd : State := passes Outside.resetting vmDelete 0
  [(0, goneOutside), (30 * second, goneOutside), (60 * second, goneOutside)] goneStart

/-- Three absences, and a sighting after the first. -/
def renamedEnd : State := passes Outside.turn vmDelete 0
  [(0, goneOutside), (30 * second, renamedOutside), (60 * second, goneOutside),
    (90 * second, goneOutside)] goneStart

/-- The versions of the anchor, as far as its end is concerned. -/
def anchorEnds (s : State) : List (String × PendingOp × String × Bool × CountText) :=
  (s.store (.anchor webVM)).log.map fun o =>
    (o.uid, o.fw.receipt.pendingOp, o.fw.deleteTarget, o.finalizer, o.fw.absenceCount)

theorem goneEnd_log : anchorEnds goneEnd =
    [("anchor-uid", .delete, webFirewall, false, .count 2), ("anchor-uid", .delete, webFirewall, true, .count 2),
      ("anchor-uid", .delete, webFirewall, true, .count 1), ("anchor-uid", .delete, webFirewall, true, .none)] := by
  decide +kernel

/-- At no time were there more than two listings in a row without the firewall. -/
def neverThree (served : List (Tid × Event Op Reply)) : Bool :=
  served.tails.all fun before =>
    ((sightings (before.map Prod.snd)).takeWhile fun p => !vmFirewallListed p.1 webFirewall).length < 3

theorem renamedEnd_facts : anchorEnds renamedEnd =
    [("anchor-uid", .delete, webFirewall, false, .count 2), ("anchor-uid", .delete, webFirewall, true, .count 2),
      ("anchor-uid", .delete, webFirewall, true, .count 1), ("anchor-uid", .delete, webFirewall, true, .none)] ∧
    neverThree renamedEnd.served = true := by
  decide +kernel

/-- The last two versions of such an anchor. -/
theorem anchorEnds_cons {s : State} {uid target : String} {count count' : CountText}
    {rest : List (String × PendingOp × String × Bool × CountText)}
    (h : anchorEnds s = (uid, .delete, target, false, count) :: (uid, .delete, target, true, count') :: rest) :
    ∃ new old older, (s.store (.anchor webVM)).log = new :: old :: older ∧ new.uid = old.uid ∧
      old.fw.receipt.pendingOp = .delete ∧ old.fw.deleteTarget = target ∧ old.finalizer = true ∧
      new.finalizer = false := by
  obtain ⟨new, _, hnew, hfirst, hversions⟩ := List.map_eq_cons_iff.1 h
  obtain ⟨old, older, rfl, hsecond, -⟩ := List.map_eq_cons_iff.1 hversions
  simp only [Prod.mk.injEq] at hfirst hsecond
  exact ⟨new, old, older, hnew, hfirst.1.trans hsecond.1.symm, hsecond.2.1, hsecond.2.2.1, hsecond.2.2.2.1,
    hfirst.2.2.2.1⟩

/-- The anchor of the first run is finalized after three absences. -/
theorem finalized_after_three_absences_gone :
    ∃ c : InSpaceKube.Config State Op Reply (Except Err Unit),
      Reachable (oneByOne.restrict (resets webVM)) (Calls vmConfig) (Starts webVM) c ∧
      ∃ new old older, (c.shared.store (.anchor webVM)).log = new :: old :: older ∧
        old.finalizer = true ∧ new.finalizer = false ∧
        ThreeAbsences vmConfig c.shared.served webVM new old.fw.deleteTarget := by
  obtain ⟨threads, h⟩ : ∃ threads, Reachable (oneByOne.restrict (resets webVM)) (Calls vmConfig)
      (Starts webVM) ⟨goneEnd, threads⟩ :=
    reachable_passes Outside.resetting vmDelete (fun _ _ h => h) vmDelete_calls
      (.init starts_goneStart) fun _ _ => rfl
  obtain ⟨new, old, older, hlog, huid, hdelete, -, hold, hnew⟩ := anchorEnds_cons goneEnd_log
  have hlast : (goneEnd.store (.anchor webVM)).log = [] ++ new :: old :: older := hlog
  exact ⟨_, h, new, old, older, hlog, hold, hnew,
    finalized_after_three_absences vmConfig webVM h hlast huid hdelete hold hnew⟩

/-- The anchor of the second run is finalized without them. -/
theorem finalized_despite_sighting :
    ∃ c : InSpaceKube.Config State Op Reply (Except Err Unit),
      Reachable oneByOne (Calls vmConfig) (Starts webVM) c ∧
      ∃ new old older, (c.shared.store (.anchor webVM)).log = new :: old :: older ∧ new.uid = old.uid ∧
        old.fw.receipt.pendingOp = .delete ∧ old.finalizer = true ∧ new.finalizer = false ∧
        ¬ ThreeAbsences vmConfig c.shared.served webVM new old.fw.deleteTarget := by
  obtain ⟨threads, h⟩ : ∃ threads, Reachable oneByOne (Calls vmConfig) (Starts webVM)
      ⟨renamedEnd, threads⟩ :=
    reachable_passes Outside.turn vmDelete (fun _ _ h => h) vmDelete_calls (.init starts_goneStart)
      fun _ _ => rfl
  obtain ⟨hends, hnever⟩ := renamedEnd_facts
  obtain ⟨new, old, older, hlog, huid, hdelete, htarget, hold, hnew⟩ := anchorEnds_cons hends
  refine ⟨_, h, new, old, older, hlog, huid, hdelete, hold, hnew, ?_⟩
  rintro ⟨later, _, _, _, before, _, _, _, _, hserved, -, hseries⟩
  have hsuffix : before <:+ renamedEnd.served :=
    hserved ▸ (List.suffix_cons _ before).trans (List.suffix_append later _)
  have hfew := List.all_eq_true.1 hnever before ((List.mem_tails _ _).2 hsuffix)
  rw [htarget] at hseries
  exact absurd hseries.length_le (not_le.2 (of_decide_eq_true hfew))

end Runs

end InSpaceKube.NodeLB.Receipts
