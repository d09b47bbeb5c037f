/-
InSpaceKube/NodeLB/AnchorHabit.lean

The code that changes per-VM firewalls keeps to `receiptHabit`.

The walk follows `VMFirewall.lean`, one lemma per function.  Every function is
given an anchor that has been read (`Shown`), and what else its grounds need is
a hypothesis on the trace:

* to commit, the last listing must be the one the decision was made from
  (`lastListing`);
* to count absences, the anchor must have been read right before the listing of
  the delete (`Fresh`, `AbsentRead`);
* to reset what was issued here, that nothing went out since (`PutIssued`);
* to send, that the applied ledger is still the one that was read
  (`AppliedKept`).

`Call.run_follows` is the result: whatever is called, the habit is kept.
-/
import InSpaceKube.NodeLB.ReceiptHabit

namespace InSpaceKube.NodeLB.Receipts

open Prog

variable {cfg : Config} {renames : Prop} {tr tr' : Tr} {networkUUID vmUUID : String}
  {anchor : Object} {items : List Firewall} {now : Time}

/-! ### What reading leaves alone -/

section Quiet

theorem AppliedKept.reads {own : Trace Query Answer} (h : AppliedKept tr) :
    AppliedKept (asOps own ++ tr) := by
  induction own with
  | nil => exact h
  | cons _ _ ih => exact ih

theorem AppliedKept.extend (h : AppliedKept tr) (hext : Extends Retried tr tr') : AppliedKept tr' := by
  obtain ⟨newer, rfl, hnewer⟩ := hext
  induction newer with
  | nil => exact h
  | cons e _ ih =>
    have he := hnewer e (.head _)
    have hrest := ih fun e' he' => hnewer e' (.tail _ he')
    cases he with
    | get => exact hrest
    | conflict => exact hrest

/-- A write that keeps the applied ledger. -/
theorem Updated.appliedKept {mutate : Mutation} {r : Object × Bool}
    (h : Updated vmUUID anchor mutate tr r tr')
    (hmutate : ∀ base o, mutate base = .ok (some o) → o.fw.applied = base.fw.applied)
    (hkept : AppliedKept tr) : AppliedKept tr' := by
  cases hch : r.2 with
  | false => exact hkept.extend (h.unchanged hch).1
  | true =>
    obtain ⟨_, base, o, _, rfl, hext, hbase, -, hm, -⟩ := h.changed hch
    exact ⟨⟨base, hbase, hmutate base o hm⟩, hkept.extend hext⟩

theorem sameAnnotations_fw {o o' : Object} (h : o.sameAnnotations o' = true) : o.fw = o'.fw := by
  unfold Object.sameAnnotations at h
  rw [Bool.and_eq_true] at h
  exact eq_of_beq h.2

theorem requireChanged_ok {what : String} {result : Object × Bool} {o : Object}
    (h : requireChanged what result = .ok o) : result.2 = true ∧ o = result.1 := by
  obtain ⟨_, hch, h⟩ := except_bind_ok h
  cases h
  exact ⟨by simpa using failIf_ok hch, rfl⟩

end Quiet

/-! ### Writes -/

section Writes

/-- A write of an anchor, for a change that keeps its grounds while it is retried. -/
theorem anchorWrite_follows {mutate : Mutation} (hanchor : Shown tr (.anchor vmUUID) anchor)
    (hchange : ∀ mid base o, Extends Retried tr mid → base.uid = anchor.uid →
      mutate base = .ok (some o) → AnchorChange cfg mid vmUUID base o) :
    (receiptHabit cfg renames).FollowsE (updateVMFirewallAnchor cfg vmUUID anchor mutate) tr
      (Updated vmUUID anchor mutate tr) :=
  updateVMFirewallAnchor_follows hanchor fun mid base o hext hbase huid hm =>
    .anchor hbase (hchange mid base o hext huid hm)

/-- A receipt was staged here. -/
structure Staged (vmUUID : String) (raw : LedgerText) (tr : Tr) (staged : Object) (tr' : Tr) :
    Prop where
  shown : Shown tr' (.anchor vmUUID) staged
  pending : staged.fw.receipt.pending = raw
  kept : AppliedKept tr → AppliedKept tr'

/-- What staging does to an anchor, whatever is staged. -/
def Stages (raw : LedgerText) (mutate : Mutation) : Prop :=
  ∀ base o, mutate base = .ok (some o) → o.fw.receipt.pending = raw ∧ o.fw.applied = base.fw.applied

theorem stages_stageReceipt {appliedRaw raw : LedgerText} {more : AnchorAnnotations → Bool}
    {refusal : String} {fill : Receipt → Receipt} (hfill : ∀ r, (fill r).pending = raw) :
    Stages raw (stageReceipt appliedRaw more refusal fill) := by
  intro _ _ hm
  obtain ⟨-, -, rfl⟩ := stageReceipt_ok hm
  exact ⟨hfill _, rfl⟩

theorem stage_follows {raw : LedgerText} {mutate : Mutation} {what : String}
    (hstages : Stages raw mutate) (hanchor : Shown tr (.anchor vmUUID) anchor)
    (hchange : ∀ mid base o, mutate base = .ok (some o) → AnchorChange cfg mid vmUUID base o) :
    (receiptHabit cfg renames).FollowsE (updateVMFirewallAnchor cfg vmUUID anchor mutate >>=
      fun result => check (requireChanged what result)) tr (Staged vmUUID raw tr) := by
  refine (anchorWrite_follows hanchor fun mid base o _ _ hm => hchange mid base o hm).bind
    fun result tr' _ h => .check fun staged hstaged => ?_
  obtain ⟨hch, rfl⟩ := requireChanged_ok hstaged
  refine ⟨h.shown, ?_, h.appliedKept fun base o hm => (hstages base o hm).2⟩
  obtain ⟨_, base, o, _, -, -, -, -, hm, hsame⟩ := h.changed hch
  rw [sameAnnotations_fw hsame]
  exact (hstages base o hm).1

variable {l : VMLedger} {merged : List FirewallRule} {raw : LedgerText} {digest : String}

theorem stageVMFirewallMutation_follows {op : PendingOp} (hop : op = .create ∨ op = .update)
    (hanchor : Shown tr (.anchor vmUUID) anchor) (hmerge : mergeVMFirewallLedger cfg l = .ok merged)
    (hraw : encodeVMFirewallLedger cfg l = .ok raw)
    (hdigest : nodeLoadBalancerVMFirewallSpecHash cfg merged = .ok digest) :
    (receiptHabit cfg renames).FollowsE
      (stageVMFirewallMutation cfg vmUUID anchor op anchor.fw.applied raw digest) tr
      (Staged vmUUID raw tr) := by
  unfold stageVMFirewallMutation
  refine look_bind fun now => ?_
  have hstages : Stages raw (stageMutation op anchor.fw.applied raw digest now) :=
    stages_stageReceipt fun _ => rfl
  refine (stage_follows hstages
    hanchor.cons fun mid base o hm => ?_).mono
      fun _ _ _ h => ⟨h.shown, h.pending, h.kept⟩
  exact .stagePut hop hmerge hraw hdigest hm

theorem stageVMFirewallAdopt_follows {uuid : String} (hanchor : Shown tr (.anchor vmUUID) anchor)
    (hmerge : mergeVMFirewallLedger cfg l = .ok merged)
    (hraw : encodeVMFirewallLedger cfg l = .ok raw)
    (hdigest : nodeLoadBalancerVMFirewallSpecHash cfg merged = .ok digest) :
    (receiptHabit cfg renames).FollowsE (stageVMFirewallAdopt cfg vmUUID anchor uuid raw digest) tr
      (Staged vmUUID raw tr) := by
  unfold stageVMFirewallAdopt
  refine look_bind fun now => ?_
  have hstages : Stages raw (stageAdopt anchor.fw.applied raw digest uuid now) :=
    stages_stageReceipt fun _ => rfl
  refine (stage_follows hstages
    hanchor.cons fun mid base o hm => ?_).mono
      fun _ _ _ h => ⟨h.shown, h.pending, h.kept⟩
  exact .stageAdopt hmerge hraw hdigest hm

theorem stageVMFirewallUnadopt_follows {entry : VMMember} {policy : String}
    (hanchor : Shown tr (.anchor vmUUID) anchor)
    (hraw : encodeVMFirewallLedger cfg ⟨vmFirewallLedgerVersion, [entry]⟩ = .ok raw) :
    (receiptHabit cfg renames).FollowsE (stageVMFirewallUnadopt cfg vmUUID anchor raw policy) tr
      (Staged vmUUID raw tr) := by
  unfold stageVMFirewallUnadopt
  refine look_bind fun now => ?_
  have hstages : Stages raw (stageUnadopt anchor.fw.applied raw policy anchor.fw.uuid now) :=
    stages_stageReceipt fun _ => rfl
  refine (stage_follows hstages
    hanchor.cons fun mid base o hm => ?_).mono
      fun _ _ _ h => ⟨h.shown, h.pending, h.kept⟩
  exact .stageUnadopt hraw hm

/-- A receipt was issued here, and since then the code has only read. -/
structure PutIssued (vmUUID : String) (r : Receipt) (own : Trace Query Answer) (o u : Object)
    (older tr : Tr) (now : Time) : Prop where
  trace : tr = asOps own ++ ⟨.update (.anchor vmUUID) o, .ok u⟩ :: older
  receipt : o.fw.receipt = r
  drawn : Drawn older r.issueID now
  issuedAt : r.issuedAt = .at now
  pending : PendingMembers r

variable {own : Trace Query Answer}

theorem PutIssued.reads {r : Receipt} {own' : Trace Query Answer} {o u : Object} {older : Tr}
    (h : PutIssued vmUUID r own o u older tr now) :
    PutIssued vmUUID r (own' ++ own) o u older (asOps own' ++ tr) now := by
  refine ⟨?_, h.receipt, h.drawn, h.issuedAt, h.pending⟩
  rw [h.trace, asOps_append, List.append_assoc]

/-- What was not sent may be reset. -/
theorem PutIssued.undispatched {r : Receipt} {o u : Object} {older : Tr}
    (h : PutIssued vmUUID r own o u older tr now) : ResetReason tr vmUUID r :=
  .undispatched h.pending h.trace h.receipt h.drawn h.issuedAt asOps_harmless

/-- Also if the call says that it was not sent. -/
theorem PutIssued.unsent {r : Receipt} {o u : Object} {older : Tr} {change : Put} {e : Err}
    (h : PutIssued vmUUID r own o u older tr now) (hpre : mutationKnownPreDispatch e = true) :
    ResetReason (⟨.put vmUUID r change, .error e⟩ :: tr) vmUUID r := by
  have htrace : ⟨.put vmUUID r change, .error e⟩ :: tr = (⟨.put vmUUID r change, .error e⟩ ::
      asOps own) ++ ⟨.update (.anchor vmUUID) o, .ok u⟩ :: older := by
    rw [h.trace, List.cons_append]
  refine .undispatched h.pending htrace h.receipt h.drawn h.issuedAt fun e' he' => ?_
  rcases List.mem_cons.1 he' with rfl | he'
  · exact .put vmUUID r change e hpre
  · exact asOps_harmless e' he'

/-- How `issueVMFirewallMutation` ends. -/
def IssuedFrom (vmUUID : String) (tr : Tr) (issued : Object) (tr' : Tr) : Prop :=
  ∃ own o u older now, PutIssued vmUUID issued.fw.receipt own o u older tr' now ∧ issued.uid = o.uid ∧
    Shown tr' (.anchor vmUUID) issued ∧ tr ⊆ tr' ∧ (AppliedKept tr → AppliedKept tr')

theorem issueVMFirewallMutation_follows {staged : Object}
    (hstaged : Shown tr (.anchor vmUUID) staged) (hpending : PendingMembers staged.fw.receipt) :
    (receiptHabit cfg renames).FollowsE (issueVMFirewallMutation cfg vmUUID staged) tr
      (IssuedFrom vmUUID tr) := by
  unfold issueVMFirewallMutation
  refine look_bind fun r => .check_bind fun token htoken => look_bind fun now => ?_
  subst htoken
  have hsub : tr ⊆ (⟨.read .now, now⟩ :: ⟨.read .token, .ok token⟩ :: tr : Tr) :=
    List.subset_cons_of_subset _ (List.subset_cons_self _ _)
  have hdrawn : Drawn (⟨.read .now, now⟩ :: ⟨.read .token, .ok token⟩ :: tr) token now :=
    ⟨[], tr, rfl, fun e he => by cases he⟩
  refine (anchorWrite_follows (hstaged.mono hsub) fun mid base o hext _ hm => ?_).bind
    fun result tr' hsub' h => .check fun issued hissued => ?_
  · exact .issue hpending (hdrawn.extend hext) hm
  · obtain ⟨hch, rfl⟩ := requireChanged_ok hissued
    have hkept : AppliedKept tr → AppliedKept tr' := h.appliedKept fun base o hm => by
      obtain ⟨-, -, rfl⟩ := issueMutation_ok hm
      rfl
    obtain ⟨mid, _, _, u, rfl, hext, -, hbase, hm, hsame⟩ := h.changed hch
    obtain ⟨hpend, -, rfl⟩ := issueMutation_ok hm
    have hfw := sameAnnotations_fw hsame
    refine ⟨[⟨.get (.anchor vmUUID), .ok (some result.1)⟩], _, u, mid, now, ⟨rfl, ?_, ?_, ?_, ?_⟩, ?_,
      .of_get, List.Subset.trans hsub hsub', hkept⟩
    · rw [hfw]
    · rw [hfw]
      exact hdrawn.extend hext
    · rw [hfw]
      rfl
    · rw [hfw]
      obtain ⟨l, hl, hne⟩ := hpending
      exact ⟨l, hpend.trans hl, hne⟩
    · exact h.uid.trans hbase.symm

theorem resetVMFirewallReceipt_follows (hanchor : Shown tr (.anchor vmUUID) anchor)
    (hreason : ResetReason tr vmUUID anchor.fw.receipt) :
    Keeps cfg renames (resetVMFirewallReceipt cfg vmUUID anchor) tr := by
  unfold resetVMFirewallReceipt
  exact (Habit.FollowsE.withErr (anchorWrite_follows hanchor fun mid base o hext _ hm =>
    .reset (hreason.extend hext) hm) _).done

theorem commitVMFirewallMutation_follows {f : Firewall} (hanchor : Shown tr (.anchor vmUUID) anchor)
    (hreason : CommitReason cfg tr vmUUID anchor.fw.receipt f.uuid) :
    Keeps cfg renames (commitVMFirewallMutation cfg vmUUID anchor f) tr := by
  unfold commitVMFirewallMutation
  refine look_bind fun now => ?_
  have hreason' : CommitReason cfg (⟨.read .now, now⟩ :: tr) vmUUID anchor.fw.receipt f.uuid := hreason
  exact (Habit.FollowsE.withErr (anchorWrite_follows hanchor.cons
    fun mid base o hext _ hm => .commit (hreason'.extend hext) hm) _).bind
      fun _ _ _ _ => .skip <| .pure trivial

end Writes

/-! ### Ledgers without a PUT -/

section Ledgers

theorem vmCloudAuthority_reads {own : Trace Query Answer} :
    Habit.free.FollowsE (vmCloudAuthority cfg networkUUID vmUUID) own fun r own' =>
      r = (false, true) → ∀ tr, VMGone cfg (asOps own' ++ tr) networkUUID vmUUID := by
  unfold vmCloudAuthority
  refine .skip <| .perform_bind trivial fun got _ => .check_bind fun exact_ hexact =>
    .perform_bind trivial fun listed _ => .check_bind fun vms hvms =>
    .perform_bind trivial fun network _ => .check_bind fun found hfound => ?_
  obtain rfl : listed = .ok vms := mapError_iff.1 hvms
  obtain rfl : network = .ok found := mapError_iff.1 hfound
  cases found with
  | none => exact .throw
  | some network =>
    refine .skip <| .check_bind fun members hmembers => .check fun verdict hv => ?_
    rintro rfl _
    unfold vmVerdict at hv
    dsimp only at hv
    split at hv
    · split at hv
      · rename_i hnone
        refine ⟨got, vms, network, members, ?_, hexact, ?_, hnone.1, ?_, mapError_iff.1 hmembers,
          hnone.2⟩ <;> exact List.mem_append_left _ (mem_asOps.2 (by simp))
      · cases hv
    · obtain ⟨_, -, hv⟩ := except_bind_ok hv
      obtain ⟨_, -, hv⟩ := except_bind_ok hv
      cases hv

variable {delta : VMDelta} {f : Option Firewall} {next : VMLedger}

variable (hanchor : Shown tr (.anchor vmUUID) anchor)

include hanchor

theorem stageVMFirewallDelete_follows :
    Keeps cfg renames (stageVMFirewallDelete cfg vmUUID anchor delta f) tr := by
  unfold stageVMFirewallDelete
  refine look_bind fun r => .skip <| .check_bind fun empty hempty =>
    look_bind fun now => ?_
  refine (anchorWrite_follows hanchor.cons.cons fun mid base o _ _ hm => ?_).bind
    fun _ _ _ _ => .skip <| .pure trivial
  exact .stageDelete hempty hm

/-- A ledger is written without a receipt, after an authority that is not a listing. -/
theorem ledgerWrite_follows {raw : LedgerText} {refusal what : String}
    (hreason : LedgerReason cfg tr vmUUID anchor.fw.applied next)
    (hraw : encodeVMFirewallLedger cfg next = .ok raw) : Keeps cfg renames (do
      let result ← updateVMFirewallAnchor cfg vmUUID anchor
        (ledgerMutation anchor.fw.applied raw refusal)
      let _ ← check (requireChanged what result)
      return ()) tr := by
  refine (anchorWrite_follows hanchor fun mid base o hext _ hm => ?_).bind
    fun _ _ _ _ => .skip <| .pure trivial
  exact .ledger (hreason.extend hext) hraw hm

omit hanchor in
theorem LedgerReason.authorized {applied : LedgerText} {seen : Object} {r : Except Err Unit}
    (h : LedgerReason cfg tr vmUUID applied next) :
    LedgerReason cfg (⟨.read (.authorizeDelta delta seen f), r⟩ :: tr) vmUUID applied next := by
  cases h with
  | readBack hm hd hl hf hh => exact .readBack hm hd hl hf hh
  | gone hg hb hw => exact .gone (hg.mono (List.subset_cons_self _ _)) hb hw

theorem removeVMFirewallEntryLedgerOnly_follows {applied : VMLedger} {key : VMMemberKey}
    (happlied : decodeVMFirewallLedger cfg anchor.fw.applied = .ok applied)
    (hnext : applied.without key = (next, true)) :
    Keeps cfg renames (removeVMFirewallEntryLedgerOnly cfg networkUUID vmUUID anchor delta f next)
      tr := by
  unfold removeVMFirewallEntryLedgerOnly
  refine reads_bind vmCloudAuthority_reads fun verdict own hgone => ?_
  obtain ⟨owned, absent⟩ := verdict
  refine .check_bind fun _ hverdict => ?_
  have hno := failIf_ok hverdict
  obtain rfl : owned = false := by simpa using fun h => hno (.inl h)
  obtain rfl : absent = true := by simpa using fun h => hno (.inr h)
  have hshown : Shown (asOps own ++ tr) (.anchor vmUUID) anchor :=
    hanchor.mono (List.subset_append_right _ _)
  split
  · exact stageVMFirewallDelete_follows hshown
  · refine look_bind fun r => .skip <| .check_bind fun raw hraw => ?_
    refine ledgerWrite_follows hshown.cons ?_ hraw
    exact (LedgerReason.gone (hgone rfl tr) happlied hnext).authorized

theorem commitVMFirewallLedgerUnchanged_follows
    (hreason : LedgerReason cfg tr vmUUID anchor.fw.applied next) :
    Keeps cfg renames (commitVMFirewallLedgerUnchanged cfg vmUUID anchor delta next f) tr := by
  unfold commitVMFirewallLedgerUnchanged
  refine look_bind fun r => .skip <| .check_bind fun raw hraw => ?_
  exact ledgerWrite_follows hanchor.cons hreason.authorized hraw

omit hanchor

end Ledgers

/-! ### The delete -/

section Delete

variable (hanchor : Shown tr (.anchor vmUUID) anchor)

include hanchor

theorem clearVMFirewallDeleteIssue_follows {clearAbsence clearIssued : Bool} :
    Keeps cfg renames (clearVMFirewallDeleteIssue cfg vmUUID anchor clearAbsence clearIssued)
      tr := by
  unfold clearVMFirewallDeleteIssue
  exact (anchorWrite_follows hanchor fun mid base o _ _ hm => .clearDelete hm).done

theorem rejectDelete_follows {α : Type} {R : α → Tr → Prop} {cause : Err} :
    (receiptHabit cfg renames).FollowsE (rejectDelete cfg vmUUID anchor cause : M α) tr R := by
  unfold rejectDelete
  refine (Habit.FollowsE.attempt (clearVMFirewallDeleteIssue_follows hanchor)).bind fun r _ _ _ => ?_
  split <;> exact .throw

theorem sendDelete_follows {uuid : String} :
    Keeps cfg renames (sendDelete cfg vmUUID anchor uuid) tr := by
  unfold sendDelete
  refine .perform_bind trivial fun r _ => ?_
  cases r with
  | ok => exact .pure trivial
  | error e =>
    dsimp only
    split
    · refine (Habit.FollowsE.attempt (clearVMFirewallDeleteIssue_follows hanchor.cons)).bind
        fun r _ _ _ => ?_
      split <;> exact .throw
    · exact .throw

theorem issueVMFirewallDelete_follows {f : Firewall} :
    Keeps cfg renames (issueVMFirewallDelete cfg vmUUID anchor f) tr := by
  unfold issueVMFirewallDelete
  refine look_bind fun now => ?_
  refine (anchorWrite_follows hanchor.cons fun mid base o _ _ hm =>
    .issueDelete hm).bind fun result tr' _ h => .check_bind fun issued hissued => ?_
  obtain ⟨-, rfl⟩ := requireChanged_ok hissued
  refine (attempt_reads_follows (Habit.free_followsE _ _)).bind fun r tr'' hsub _ => ?_
  have hshown := h.shown.mono hsub
  split
  · exact rejectDelete_follows hshown
  · exact sendDelete_follows hshown

omit hanchor in
theorem deleteAnchor_follows {fresh : Object} :
    Keeps cfg renames (deleteAnchor vmUUID fresh) tr := by
  unfold deleteAnchor
  refine .perform_bind trivial fun r _ => ?_
  cases r with
  | ok => exact .pure trivial
  | error =>
    dsimp only
    split
    · exact .pure trivial
    · exact .throw

omit hanchor in
theorem dropAnchor_follows {fresh : Object} (hfresh : Shown tr (.anchor vmUUID) fresh)
    (hchange : AnchorChange cfg tr vmUUID fresh { fresh with finalizer := false }) :
    Keeps cfg renames (dropAnchor vmUUID fresh) tr := by
  unfold dropAnchor
  refine .perform_bind (Write.anchor hfresh hchange) fun written _ => ?_
  cases written with
  | conflict => exact .throw
  | failed => exact .throw
  | ok => exact deleteAnchor_follows

omit hanchor in
/-- The stamp on other anchors is all that is asked for. -/
theorem stampIfReverse_follows {fresh : Object} :
    (receiptHabit cfg renames).FollowsE (stampIfReverse fresh) tr fun _ tr' =>
      ∃ late, tr' = late ++ tr ∧ ∀ e ∈ late, Passive e := by
  have hnothing : ∃ late, tr = late ++ tr ∧ ∀ e ∈ late, Passive e := ⟨[], rfl, fun e he => by cases he⟩
  unfold stampIfReverse
  split
  · split
    · refine .perform_bind trivial fun r _ => .check fun _ _ => ⟨[⟨.stampReverseDone, r⟩], rfl, fun e he => ?_⟩
      obtain rfl := List.mem_singleton.1 he
      exact .stamped r
    · exact .pure hnothing
  · exact .pure hnothing

theorem finalizeVMFirewallAnchor_follows {n : ℤ}
    (hdelete : anchor.fw.receipt.pendingOp = .delete)
    (habsent : AbsentRead cfg tr vmUUID anchor now n) (hcount : absenceConfirmations ≤ n + 1) :
    Keeps cfg renames (finalizeVMFirewallAnchor cfg vmUUID anchor) tr := by
  unfold finalizeVMFirewallAnchor
  refine .skip <| look_bind fun r => ?_
  rcases r with e | _ | fresh
  · exact .throw
  · exact .pure trivial
  · refine .check_bind fun _ hsame => stampIfReverse_follows.bind fun _ tr' hsub hstamp => ?_
    have hno := failIf_ok hsame
    have huid : fresh.uid = anchor.uid := not_not.1 fun h => hno (.inl h)
    have htarget : fresh.fw.deleteTarget = anchor.fw.deleteTarget :=
      not_not.1 fun h => hno (.inr (.inl h))
    have hop : fresh.fw.receipt.pendingOp = .delete := not_not.1 fun h => hno (.inr (.inr h))
    have hshown : Shown tr' (.anchor vmUUID) anchor := hanchor.cons.mono hsub
    have habsent' : AbsentRead cfg tr' vmUUID anchor now n := by
      obtain ⟨_, rfl, hlate⟩ := hstamp
      exact (habsent.extend (Extends.refl.cons (.get _ _))).append hlate
    refine dropAnchor_follows (Shown.mono .of_get hsub) ?_
    exact .finalize hshown huid.symm htarget hop hdelete habsent' hcount

omit hanchor in
theorem detachRows_follows {rounds : ℕ} {uuid : String} (rows : List String) :
    Keeps cfg renames (detachRows cfg networkUUID rounds vmUUID uuid rows) tr := by
  induction rows generalizing tr with
  | nil => exact .pure trivial
  | cons _ _ ih =>
    unfold detachRows
    refine (reconcileRelation_follows rounds fun fence h => ?_).bind fun done tr' _ _ => ?_
    · cases h
      rfl
    · split
      · exact ih
      · exact .pure trivial

theorem awaitDelete_follows {uuid : String} :
    Keeps cfg renames (awaitDelete cfg vmUUID anchor uuid now) tr := by
  unfold awaitDelete
  split
  · exact (clearVMFirewallDeleteIssue_follows hanchor).done
  · split
    · dsimp only
      split
      · exact .throw
      · exact (clearVMFirewallDeleteIssue_follows hanchor).done
    · exact .throw

theorem deleteListed_follows {rounds : ℕ} {f : Firewall} :
    Keeps cfg renames (deleteListed cfg networkUUID rounds vmUUID anchor f now) tr := by
  unfold deleteListed
  refine .skip <| .check_bind fun rows _ => ?_
  split
  · exact detachRows_follows rows
  · split
    · exact awaitDelete_follows hanchor
    · exact issueVMFirewallDelete_follows hanchor

omit hanchor

/-- The firewall of a staged delete is not in the last listing. -/
theorem deleteAbsent_follows {before : Tr} (hanchor : Fresh before (.anchor vmUUID) anchor)
    (hrow : deleteRow items anchor.fw.uuid = .ok none) (hop : anchor.fw.receipt.pendingOp = .delete)
    (htarget : anchor.fw.deleteTarget = "" ∨ anchor.fw.deleteTarget = anchor.fw.uuid) :
    Keeps cfg renames (deleteAbsent cfg vmUUID anchor now) (⟨.read .now, now⟩ :: ⟨.read
      (.listFirewalls .deleteVMFirewall), .ok items⟩ :: before) := by
  have hshown := hanchor.shown.mono (List.subset_cons_of_subset ⟨.read .now, now⟩
    (List.subset_cons_self ⟨.read (.listFirewalls .deleteVMFirewall), .ok items⟩ before))
  unfold deleteAbsent
  split
  · refine (anchorWrite_follows hshown fun mid base o hext huid hm => ?_).done
    exact .target (hshown.mono hext.subset) huid.symm hop hm
  · rename_i hne
    refine .check_bind fun n hn => ?_
    have habsent : AbsentRead cfg _ vmUUID anchor now n :=
      ⟨[], items, before, rfl, List.forall_mem_nil _, hanchor, hrow, hn, htarget.resolve_left hne⟩
    split
    · rename_i hcount
      exact (finalizeVMFirewallAnchor_follows hshown hop habsent hcount).done
    · rename_i hcount
      refine (anchorWrite_follows hshown fun mid base o hext huid hm => ?_).bind
        fun _ _ _ _ => .throw
      exact .absent (hshown.mono hext.subset) huid.symm hop (habsent.extend hext)
        (not_le.1 hcount) hm

theorem deleteVMFirewall_follows {rounds : ℕ} (hanchor : Fresh tr (.anchor vmUUID) anchor) :
    Keeps cfg renames (deleteVMFirewall cfg networkUUID rounds vmUUID anchor) tr := by
  unfold deleteVMFirewall
  refine .check_bind fun _ hvalid => ?_
  have hop : anchor.fw.receipt.pendingOp = .delete := not_not.1 fun h => failIf_ok hvalid (.inl h)
  split
  · exact (reconcileRelation_follows rounds fun _ h => by cases h).done
  · refine look_bind fun r => .check_bind fun items hitems => look_bind fun now =>
      .check_bind fun row hrow => .check_bind fun _ htarget => ?_
    obtain rfl : r = .ok items := mapError_iff.1 hitems
    cases row with
    | some =>
      exact deleteListed_follows hanchor.shown.cons.cons
    | none =>
      have htarget' : anchor.fw.deleteTarget = "" ∨ anchor.fw.deleteTarget = anchor.fw.uuid := by
        by_contra hboth
        rw [not_or] at hboth
        exact failIf_ok htarget hboth
      exact deleteAbsent_follows hanchor hrow hop htarget'

end Delete

/-! ### Resolving a receipt -/

section Resolve

variable {issuedAt : Time} {f : Firewall}

variable (hanchor : Shown tr (.anchor vmUUID) anchor)

include hanchor

theorem retireAbsentVMFirewallCreate_follows
    (hop : OfPut anchor.fw.receipt) (hat : anchor.fw.receipt.issuedAt = .at issuedAt)
    (hnow : Clocked tr now) (hdue : issuedAt + retireDelay ≤ now) :
    Keeps cfg renames (retireAbsentVMFirewallCreate cfg vmUUID anchor now) tr := by
  have hrecord : ∀ n, Keeps cfg renames (do
      let _ ← updateVMFirewallAnchor cfg vmUUID anchor (countMutation anchor.fw.receipt (n + 1) now)
      throw (vmFirewallWait (absenceDelay cfg) ("public-node-local: VM firewall create for "
        ++ anchor.fw.vm ++ ": first absent read recorded")) : M Bool) tr :=
    fun n => (anchorWrite_follows hanchor fun mid base o _ _ hm => .count hop hm).bind
      fun _ _ _ _ => .throw
  unfold retireAbsentVMFirewallCreate
  dsimp only
  split
  · exact hrecord 0
  · exact .throw
  · refine .skip ?_
    split
    · refine .skip ?_
      split
      · exact (resetVMFirewallReceipt_follows hanchor (.due hop hat hnow hdue)).done
      · exact hrecord _
    · exact .throw

theorem retireUnchanged_follows {what : String}
    (hop : OfPut anchor.fw.receipt) (hat : anchor.fw.receipt.issuedAt = .at issuedAt)
    (hnow : Clocked tr now) :
    Keeps cfg renames (retireUnchanged cfg vmUUID anchor issuedAt now what) tr := by
  unfold retireUnchanged
  split
  · exact .throw
  · rename_i hdue
    exact (resetVMFirewallReceipt_follows hanchor (.due hop hat hnow (not_lt.1 hdue))).done

/-- The firewall was read back with the pending rules. -/
theorem commit_follows
    (hlast : lastListing tr = some items) (hmem : f ∈ items)
    (hhash : nodeLoadBalancerVMFirewallSpecHash cfg f.rules = .ok anchor.fw.receipt.pendingHash)
    (hop : anchor.fw.receipt.pendingOp = .create ∨ anchor.fw.receipt.pendingOp = .update ∨
      anchor.fw.receipt.pendingOp = .adopt ∧
        nodeLoadBalancerVMFirewallName cfg vmUUID = .ok f.effectiveName) :
    Keeps cfg renames (do
      commitVMFirewallMutation cfg vmUUID anchor f
      return true : M Bool) tr :=
  (commitVMFirewallMutation_follows hanchor ⟨items, f, hlast, hmem, rfl, hhash, hop⟩).done

theorem resolveCreate_follows {byName : Option Firewall}
    (hlast : lastListing tr = some items) (hbyName : ∀ f, byName = some f → f ∈ items)
    (hop : anchor.fw.receipt.pendingOp = .create) (hat : anchor.fw.receipt.issuedAt = .at issuedAt)
    (hnow : Clocked tr now) :
    Keeps cfg renames (resolveCreate cfg vmUUID anchor byName issuedAt now) tr := by
  unfold resolveCreate
  split
  · rename_i f
    split
    · exact .throw
    · rename_i actual hactual
      refine .check_bind fun _ hsame => .skip ?_
      rw [not_not.1 (failIf_ok hsame)] at hactual
      exact commit_follows hanchor hlast (hbyName f rfl) hactual (.inl hop)
  · split
    · exact .throw
    · rename_i hdue
      exact retireAbsentVMFirewallCreate_follows hanchor (.inl hop) hat hnow (not_lt.1 hdue)

theorem resolveUpdate_follows {byName : Option Firewall}
    (hlast : lastListing tr = some items) (hop : anchor.fw.receipt.pendingOp = .update)
    (hat : anchor.fw.receipt.issuedAt = .at issuedAt) (hnow : Clocked tr now) :
    Keeps cfg renames (resolveUpdate cfg vmUUID anchor items byName issuedAt now) tr := by
  unfold resolveUpdate
  refine .check_bind fun f hf => .skip <| .check_bind fun actual hactual => ?_
  obtain ⟨hmem, -⟩ := exactNodeLoadBalancerFirewallFromItems_ok (mapError_iff.1 hf)
  have hretire : ∀ what,
      Keeps cfg renames (retireUnchanged cfg vmUUID anchor issuedAt now what) tr :=
    fun what => retireUnchanged_follows hanchor (.inr (.inl hop)) hat hnow
  split
  · rename_i hpending
    exact commit_follows hanchor hlast hmem (hpending ▸ mapError_iff.1 hactual) (.inr (.inl hop))
  · split
    · exact hretire _
    · split
      · exact hretire _
      · exact .throw

omit hanchor in
theorem issueTime_ok {t : Time} (h : issueTime vmUUID anchor = .ok t) :
    anchor.fw.receipt.issuedAt = .at t := by
  unfold issueTime at h
  split at h
  · rename_i hat
    cases h
    exact hat
  · cases h

theorem resolvePut_follows {create : Bool}
    (hlast : lastListing tr = some items)
    (hop : anchor.fw.receipt.pendingOp = if create then .create else .update) :
    Keeps cfg renames (resolvePut cfg vmUUID anchor items create) tr := by
  unfold resolvePut
  have hput : OfPut anchor.fw.receipt := by
    cases create with
    | true => exact .inl hop
    | false => exact .inr (.inl hop)
  split
  · rename_i hstaged
    exact (resetVMFirewallReceipt_follows hanchor (.staged hput hstaged)).done
  · refine .check_bind fun issuedAt hat => look_bind fun now => .check_bind fun name _ =>
      .check_bind fun byName hbyName => ?_
    have hat' := issueTime_ok hat
    have hshown := hanchor.mono (List.subset_cons_self ⟨.read .now, now⟩ tr)
    have hnow : Clocked (⟨.read .now, now⟩ :: tr) now := List.mem_cons_self
    cases create with
    | true =>
      refine resolveCreate_follows hshown hlast (fun f hf => ?_) hop hat' hnow
      subst hf
      exact (vmFirewallByNameFromItems_ok (mapError_iff.1 hbyName)).1
    | false => exact resolveUpdate_follows hshown hlast hop hat' hnow

theorem resolveAdopted_follows {name : String} {source : MigrationSource} (hlast : lastListing tr = some items)
    (hmem : f ∈ items) (hname : nodeLoadBalancerVMFirewallName cfg vmUUID = .ok name)
    (hop : anchor.fw.receipt.pendingOp = .adopt) (hat : anchor.fw.receipt.issuedAt = .at issuedAt)
    (hnow : Clocked tr now) :
    Keeps cfg renames (resolveAdopted cfg vmUUID name anchor source f issuedAt now) tr := by
  unfold resolveAdopted
  dsimp only
  split
  · rename_i hrenamed
    refine .skip <| .skip ?_
    refine commit_follows hanchor hlast hmem hrenamed.2 (.inr (.inr ⟨hop, ?_⟩))
    rw [hname, of_decide_eq_true hrenamed.1]
  · split
    · exact retireUnchanged_follows hanchor (.inr (.inr (.inl hop))) hat hnow
    · split <;> exact .throw

theorem resolveVMFirewallAdoptReceipt_follows
    (hlast : lastListing tr = some items) (hop : anchor.fw.receipt.pendingOp = .adopt) :
    Keeps cfg renames (resolveVMFirewallAdoptReceipt cfg vmUUID anchor items) tr := by
  unfold resolveVMFirewallAdoptReceipt
  refine .skip ?_
  split
  · rename_i hstaged
    exact (resetVMFirewallReceipt_follows hanchor (.staged (.inr (.inr (.inl hop))) hstaged)).done
  · refine .check_bind fun issuedAt hat => .check_bind fun source _ => .check_bind fun name hname =>
      .check_bind fun f hf => .check_bind fun byName _ => .skip <|
      look_bind fun now => ?_
    obtain ⟨hmem, -⟩ := exactNodeLoadBalancerFirewallFromItems_ok (mapError_iff.1 hf)
    exact resolveAdopted_follows hanchor.cons hlast hmem hname hop
      (issueTime_ok hat) List.mem_cons_self

omit hanchor in
theorem deleteVMFirewallAnchorAfterUnadopt_follows :
    Keeps cfg renames (deleteVMFirewallAnchorAfterUnadopt cfg vmUUID anchor) tr := by
  unfold deleteVMFirewallAnchorAfterUnadopt
  refine .skip <| look_bind fun r => ?_
  rcases r with e | _ | fresh
  · exact .throw
  · exact .pure trivial
  · refine .check_bind fun _ hsame => .perform_bind trivial fun r _ => .skip fun {_} => ?_
    have hop : fresh.fw.receipt.pendingOp = .unadopt := not_not.1 fun h => failIf_ok hsame (.inr h)
    split
    · exact dropAnchor_follows Shown.of_get.cons (.handOver hop)
    · exact deleteAnchor_follows

omit hanchor in
theorem finishVMFirewallUnadopt_follows {uid policy : String} :
    Keeps cfg renames (finishVMFirewallUnadopt cfg vmUUID anchor f uid policy) tr := by
  unfold finishVMFirewallUnadopt
  exact .perform_bind trivial fun r _ => .skip <|
    deleteVMFirewallAnchorAfterUnadopt_follows

theorem resolveRenamed_follows {perVMName ownName : String} {entry : VMMember} (hop : anchor.fw.receipt.pendingOp = .unadopt)
    (hat : anchor.fw.receipt.issuedAt = .at issuedAt) (hnow : Clocked tr now) :
    Keeps cfg renames (resolveRenamed cfg vmUUID perVMName ownName anchor entry f issuedAt now)
      tr := by
  unfold resolveRenamed
  dsimp only
  split
  · exact .skip <| .skip <|
      finishVMFirewallUnadopt_follows.done
  · split
    · exact retireUnchanged_follows hanchor (.inr (.inr (.inr hop))) hat hnow
    · split <;> exact .throw

theorem resolveVMFirewallUnadoptReceipt_follows
    (hop : anchor.fw.receipt.pendingOp = .unadopt) :
    Keeps cfg renames (resolveVMFirewallUnadoptReceipt cfg vmUUID anchor items) tr := by
  unfold resolveVMFirewallUnadoptReceipt
  refine .skip ?_
  split
  · rename_i hstaged
    exact (resetVMFirewallReceipt_follows hanchor (.staged (.inr (.inr (.inr hop))) hstaged)).done
  · refine .check_bind fun issuedAt hat => .check_bind fun entry _ => .check_bind fun perVMName _ =>
      .check_bind fun f _ => .check_bind fun byOwnName _ => .skip <|
      look_bind fun now => ?_
    exact resolveRenamed_follows hanchor.cons hop (issueTime_ok hat)
      List.mem_cons_self

omit hanchor

theorem resolveVMFirewallReceipt_follows {rounds : ℕ} (hfresh : Fresh tr (.anchor vmUUID) anchor)
    (hlast : lastListing tr = some items) :
    Keeps cfg renames (resolveVMFirewallReceipt cfg networkUUID rounds vmUUID anchor items) tr := by
  have hanchor := hfresh.shown
  unfold resolveVMFirewallReceipt
  split
  · rename_i hop
    exact resolvePut_follows hanchor hlast hop
  · rename_i hop
    exact resolvePut_follows hanchor hlast hop
  · exact deleteVMFirewall_follows hfresh
  · rename_i hop
    exact resolveVMFirewallAdoptReceipt_follows hanchor hlast hop
  · rename_i hop
    exact resolveVMFirewallUnadoptReceipt_follows hanchor hop
  · exact .throw

end Resolve

/-! ### Issuing a change -/

section Put

variable {issued : Object}

/-- The last look at the anchor still shows the receipt. -/
def StillIssuedPut (vmUUID : String) (issued : Object) (own : Trace Query Answer) : Prop :=
  ∃ cur early, own = ⟨.get (.anchor vmUUID), .ok (some cur)⟩ :: early ∧ cur.uid = issued.uid ∧
    cur.fw.receipt = issued.fw.receipt

variable {own : Trace Query Answer} {authority : Authority}

theorem sameReceipt_reads : Habit.free.FollowsE (sameReceipt cfg vmUUID issued) own fun cur own' =>
      own' = ⟨.get (.anchor vmUUID), .ok (some cur)⟩ :: own ∧ cur.uid = issued.uid ∧
        cur.fw.receipt = issued.fw.receipt := by
  unfold sameReceipt
  refine getVMFirewallAnchor_reads.bind fun r own' _ h => ?_
  cases r with
  | none => exact .throw
  | some cur =>
    refine .check_bind fun _ hsame => .pure ⟨h cur rfl, ?_, ?_⟩
    · exact not_not.1 fun hne => failIf_ok hsame (.inl hne)
    · exact not_not.1 fun hne => failIf_ok hsame (.inr hne)

theorem stillIssued_reads :
    Habit.free.FollowsE (sameReceipt cfg vmUUID issued >>= fun _ => pure ()) own fun _ own' =>
      StillIssuedPut vmUUID issued own' := by
  refine sameReceipt_reads.bind fun cur own' _ h => .pure ?_
  exact ⟨cur, own, h.1, h.2.1, h.2.2⟩

/-- The authority of a step was asked and agreed. -/
def Authority.Passed (own : Trace Query Answer) : Authority → Prop
  | .delta d => ∃ seen fresh, (⟨.authorizeDelta d seen fresh, .ok ()⟩ : Event Query Answer) ∈ own
  | .stillRequested => True

theorem Authority.authorize_reads {seen : Object} {fresh : Option Firewall} :
    Habit.free.FollowsE (authority.authorize seen fresh) own fun _ own' => authority.Passed own' := by
  cases authority with
  | delta =>
    refine .perform_bind trivial fun r _ => .check fun _ hr => ⟨seen, fresh, ?_⟩
    cases hr
    exact List.mem_cons_self
  | stillRequested => exact .check fun _ _ => trivial

theorem Authority.Passed.mono {own' : Trace Query Answer}
    (h : authority.Passed own) (hsub : own ⊆ own') : authority.Passed own' := by
  cases authority with
  | delta =>
    obtain ⟨seen, fresh, h⟩ := h
    exact ⟨seen, fresh, hsub h⟩
  | stillRequested => trivial

theorem authorizeVMFirewallMutation_reads {target : Target} :
    Habit.free.FollowsE (authorizeVMFirewallMutation cfg vmUUID issued target authority) []
      fun _ own => StillIssuedPut vmUUID issued own ∧ authority.Passed own := by
  unfold authorizeVMFirewallMutation
  refine (Habit.free_followsE _ _).bind fun _ _ _ _ => (Habit.free_followsE _ _).bind fun fresh _ _ _ =>
    (Habit.free_followsE _ _).bind fun seen _ _ _ =>
    Authority.authorize_reads.bind fun _ own _ hpassed => ?_
  exact stillIssued_reads.mono fun _ own' hsub h => ⟨h, hpassed.mono hsub⟩

theorem authorizeVMFirewallAdopt_reads {plan : MigrationPlan} {before : Firewall} :
    Habit.free.FollowsE (authorizeVMFirewallAdopt cfg vmUUID issued plan before) []
      fun _ own => StillIssuedPut vmUUID issued own := by
  unfold authorizeVMFirewallAdopt
  refine (Habit.free_followsE _ _).bind fun seen _ _ _ => .check_bind fun found _ => ?_
  split
  · exact .throw
  · refine .skip <| (Habit.free_followsE _ _).bind fun _ _ _ _ => .skip <|
      .skip <| .skip <| .perform_bind trivial fun _ _ =>
      .skip <| .perform_bind trivial fun _ _ => .skip <|
      .skip ?_
    exact stillIssued_reads

theorem authorizeVMFirewallUnadopt_reads {plan : MigrationPlan} {desired : DesiredFirewall}
    {before : Firewall} :
    Habit.free.FollowsE (authorizeVMFirewallUnadopt cfg vmUUID issued plan desired before) []
      fun _ own => StillIssuedPut vmUUID issued own := by
  unfold authorizeVMFirewallUnadopt
  refine (Habit.free_followsE _ _).bind fun seen _ _ _ => .check_bind fun found _ => ?_
  split
  · exact .throw
  · refine .skip <| .perform_bind trivial fun _ _ => .skip <|
      (Habit.free_followsE _ _).bind fun _ _ _ _ => .skip <|
      .skip <| .skip <| .perform_bind trivial fun _ _ =>
      .skip <| .skip <| .perform_bind trivial fun _ _ =>
      .skip <| .skip <| .skip <| .skip ?_
    exact stillIssued_reads

theorem rejectPut_follows {α : Type} {R : α → Tr → Prop} {what : String} {cause : Err}
    (hissued : Shown tr (.anchor vmUUID) issued) (hreason : ResetReason tr vmUUID issued.fw.receipt) :
    (receiptHabit cfg renames).FollowsE (rejectPut cfg vmUUID what issued cause : M α) tr R := by
  unfold rejectPut
  refine (Habit.FollowsE.attempt (resetVMFirewallReceipt_follows hissued hreason)).bind
    fun r _ _ _ => ?_
  split <;> exact .throw

theorem readBackPut_follows {rounds : ℕ} {texts : PutTexts} {reader : Reader}
    {dispatchErr : Option Err} :
    Keeps cfg renames (readBackPut cfg networkUUID rounds vmUUID texts reader dispatchErr) tr := by
  unfold readBackPut
  refine look_bind fun r => ?_
  cases r with
  | error => exact .throw
  | ok =>
    refine (attempt_reads_follows getVMFirewallAnchor_reads).bind fun r tr' _ h => ?_
    obtain ⟨_, hown, rfl⟩ := h
    rcases r with e | _ | current
    · exact .throw
    · exact .throw
    · obtain rfl := hown _ rfl current rfl
      refine (Habit.FollowsE.attempt (resolveVMFirewallReceipt_follows .of_get rfl)).bind
        fun r _ _ _ => ?_
      split
      · exact .throw
      · exact .pure trivial

theorem sendPut_follows {rounds : ℕ} {texts : PutTexts} {reader : Reader} {change : Put} {o u : Object} {older : Tr}
    (hissued : Shown tr (.anchor vmUUID) issued)
    (hput : PutIssued vmUUID issued.fw.receipt own o u older tr now)
    (hready : PutReady cfg renames tr vmUUID issued.fw.receipt change) :
    Keeps cfg renames (sendPut cfg networkUUID rounds vmUUID texts reader issued change) tr := by
  unfold sendPut
  refine .perform_bind hready fun r _ => ?_
  cases r with
  | ok => exact readBackPut_follows
  | error e =>
    dsimp only
    split
    · rename_i hpre
      -- the text around an error does not change its kind
      have hpre' : mutationKnownPreDispatch e = true := hpre
      refine (Habit.FollowsE.attempt (resetVMFirewallReceipt_follows
        hissued.cons (hput.unsent hpre'))).bind fun r _ _ _ => ?_
      split <;> exact .throw
    · exact readBackPut_follows

/-- The end of every change: the receipt was issued here, the authority looks once
more, and the request goes out or the receipt is taken back. -/
theorem authorizedPut_follows {rounds : ℕ} {what : String} {texts : PutTexts} {reader : Reader}
    {change : Put} {authorize : Q Unit} {P : Trace Query Answer → Prop} {tr₀ : Tr}
    (hissued : IssuedFrom vmUUID tr₀ issued tr)
    (hauth : Habit.free.FollowsE authorize [] fun _ own => StillIssuedPut vmUUID issued own ∧ P own)
    (hreason : ∀ own, P own → PutReason cfg renames (asOps own ++ tr) vmUUID change) :
    Keeps cfg renames (do
      match ← attempt (reads authorize) with
      | .error e => rejectPut cfg vmUUID what issued e
      | .ok _ => sendPut cfg networkUUID rounds vmUUID texts reader issued change) tr := by
  obtain ⟨own, o, u, older, now, hput, huid, hshown, -, -⟩ := hissued
  refine (attempt_reads_follows hauth).bind fun r tr' hsub h => ?_
  obtain ⟨late, hlate, rfl⟩ := h
  have hput' : PutIssued vmUUID issued.fw.receipt (late ++ own) o u older (asOps late ++ tr) now :=
    hput.reads
  cases r with
  | error => exact rejectPut_follows (hshown.mono hsub) hput'.undispatched
  | ok =>
    obtain ⟨⟨cur, early, rfl, hcur, hreceipt⟩, hP⟩ := hlate () rfl
    refine sendPut_follows (hshown.mono hsub) hput' ?_
    refine ⟨early ++ own, cur, o, u, older, now, ?_, hput.receipt, hcur.trans huid, hreceipt,
      hput.pending, hput.drawn, hput.issuedAt, hreason _ hP⟩
    rw [hput'.trace]
    rfl

theorem pendingMembers_of_encode {l : VMLedger} {raw : LedgerText} {r : Receipt}
    (hraw : encodeVMFirewallLedger cfg l = .ok raw) (hne : l.members ≠ []) (hr : r.pending = raw) :
    PendingMembers r := by
  obtain ⟨-, rfl⟩ := encodeVMFirewallLedger_ok hraw
  exact ⟨_, hr, fun h => hne (canonicalVMFirewallLedger_members.1 h)⟩

theorem putOp_cases (target : Target) : putOp target = .create ∨ putOp target = .update := by
  cases target with
  | none => exact .inl rfl
  | some => exact .inr rfl

theorem runVMFirewallMutation_follows {rounds : ℕ} {target : Target} {next : VMLedger}
    {merged : List FirewallRule}
    (hanchor : Shown tr (.anchor vmUUID) anchor)
    (hmerge : mergeVMFirewallLedger cfg next = .ok merged)
    (hreason : ∀ tr' change, tr ⊆ tr' → (AppliedKept tr → AppliedKept tr') →
      (∃ own early, tr' = asOps own ++ early ∧ authority.Passed own) →
      putRequest cfg vmUUID target merged = .ok change → PutReason cfg renames tr' vmUUID change) :
    Keeps cfg renames (runVMFirewallMutation cfg networkUUID rounds vmUUID anchor target next
      merged authority) tr := by
  unfold runVMFirewallMutation
  refine .check_bind fun raw hraw => .check_bind fun digest hdigest => .check_bind fun change hchange =>
    (stageVMFirewallMutation_follows (putOp_cases target) hanchor hmerge hraw hdigest).bind
    fun staged tr₁ hsub₁ hstaged => ?_
  have hpending := pendingMembers_of_encode hraw (mergeVMFirewallLedger_members hmerge) hstaged.pending
  refine (issueVMFirewallMutation_follows hstaged.shown hpending).bind fun issued tr₂ hsub₂ hissued => ?_
  refine authorizedPut_follows hissued authorizeVMFirewallMutation_reads fun own hpassed => ?_
  obtain ⟨-, -, -, -, -, -, -, -, -, hkept⟩ := hissued
  refine hreason _ change ?_ (fun h => (hkept (hstaged.kept h)).reads) ⟨own, tr₂, rfl, hpassed⟩ hchange
  exact List.Subset.trans (List.Subset.trans hsub₁ hsub₂) (List.subset_append_right _ _)

end Put

/-! ### The step -/

section Step

variable {delta : VMDelta} {applied next : VMLedger} {observation : Observation} {rounds : ℕ}

theorem observeVMFirewall_ok {f : Firewall}
    (h : observeVMFirewall cfg vmUUID anchor applied items = .ok observation)
    (hf : observation.firewall = some f) :
    f ∈ items ∧ nodeLoadBalancerVMFirewallSpecHash cfg f.rules = .ok anchor.fw.appliedHash := by
  obtain ⟨_, -, h⟩ := except_bind_ok h
  obtain ⟨_, -, h⟩ := except_bind_ok h
  split at h
  · obtain ⟨_, -, h⟩ := except_bind_ok h
    obtain ⟨_, -, h⟩ := except_bind_ok h
    cases h
    cases hf
  · obtain ⟨_, hrow, h⟩ := except_bind_ok h
    obtain ⟨_, -, h⟩ := except_bind_ok h
    obtain ⟨_, hvalid, h⟩ := except_bind_ok h
    cases h
    cases hf
    exact ⟨(exactNodeLoadBalancerFirewallFromItems_ok (mapError_iff.1 hrow)).1,
      validateNodeLoadBalancerVMFirewall_ok (mapError_iff.1 hvalid)⟩

theorem sameRules_ok {merged : List FirewallRule}
    (h : sameRules cfg anchor applied observation merged = .ok true) : observation.firewall.isSome ∧
      nodeLoadBalancerVMFirewallSpecHash cfg merged = .ok anchor.fw.appliedHash := by
  unfold sameRules at h
  split at h
  · rename_i hsome
    obtain ⟨digest, hdigest, h⟩ := except_bind_ok h
    have heq : digest = anchor.fw.appliedHash := of_decide_eq_true (Except.ok.inj h)
    exact ⟨hsome.1, heq ▸ hdigest⟩
  · cases h

/-- A delta that only drops an entry from the ledger. -/
theorem ledgerOnly_next (hvalid : delta.validate cfg = .ok ()) (honly : delta.ledgerOnly = true)
    (happlied : anchor.fw.appliedLedger cfg = .ok applied)
    (hnext : delta.next cfg applied = .ok (next, true)) :
    decodeVMFirewallLedger cfg anchor.fw.applied = .ok applied ∧
      ∃ key, applied.without key = (next, true) := by
  obtain ⟨_, hone, hvalid⟩ := except_bind_ok hvalid
  obtain ⟨_, hremoval, -⟩ := except_bind_ok hvalid
  obtain ⟨key, hkey⟩ : ∃ key, delta.remove = some key :=
    Option.ne_none_iff_exists'.1 fun hnone => failIf_ok hremoval ⟨honly, hnone⟩
  have hadd : delta.add = none := by
    cases hadd : delta.add with
    | none => rfl
    | some => exact absurd (by rw [hadd, hkey]; rfl) (failIf_ok hone)
  have hwithout : applied.without key = (next, true) := by
    unfold VMDelta.next at hnext
    rw [hadd, hkey] at hnext
    exact Except.ok.inj hnext
  refine ⟨?_, key, hwithout⟩
  unfold AnchorAnnotations.appliedLedger at happlied
  split at happlied
  · -- nothing can be taken off an empty ledger
    cases happlied
    cases hwithout
  · exact happlied

variable (hanchor : Shown tr (.anchor vmUUID) anchor)

include hanchor

theorem stampAttach_follows :
    Keeps cfg renames (stampAttach cfg vmUUID anchor) tr := by
  unfold stampAttach
  split
  · refine look_bind fun now => ?_
    refine (anchorWrite_follows hanchor.cons
      fun mid base o _ _ hm => ?_).done
    unfold stampAttached at hm
    split at hm
    · cases hm
    · cases hm
      exact .attachedAt
  · exact .pure trivial

theorem attachVMFirewall_follows :
    Keeps cfg renames (attachVMFirewall cfg networkUUID rounds vmUUID anchor) tr := by
  have hrest : ∀ tr : Tr, Keeps cfg renames (do
      let _ ← reconcileRelation cfg networkUUID (.anchor vmUUID) rounds
        (some ⟨.assign, anchor.fw.uuid, vmUUID, "", .absent, .absent, .absent⟩)
      return ⟨false, .absent, anchor.fw.uuid⟩ : M StepResult) tr := fun tr =>
    (reconcileRelation_follows rounds fun fence h => by cases h; rfl).done
  unfold attachVMFirewall
  dsimp only
  split
  · refine (anchorWrite_follows hanchor fun mid base o _ _ hm => ?_).bind fun _ tr' _ _ => hrest tr'
    unfold clearAttached at hm
    split at hm
    · cases hm
    · cases hm
      exact .attachedAt
  · exact hrest tr

theorem stepUnchanged_follows :
    Keeps cfg renames (stepUnchanged cfg networkUUID rounds vmUUID anchor delta observation)
      tr := by
  unfold stepUnchanged
  split
  · exact .pure trivial
  · split
    · exact attachVMFirewall_follows hanchor
    · exact (stampAttach_follows hanchor).bind fun _ _ _ _ => .skip <| .pure trivial

theorem stepChanged_follows
    (hlast : lastListing tr = some items) (hkept : AppliedKept tr)
    (hvalid : delta.validate cfg = .ok ()) (happlied : anchor.fw.appliedLedger cfg = .ok applied)
    (hobs : observeVMFirewall cfg vmUUID anchor applied items = .ok observation)
    (hnext : delta.next cfg applied = .ok (next, true)) :
    Keeps cfg renames (stepChanged cfg networkUUID rounds vmUUID anchor delta applied observation
      next) tr := by
  unfold stepChanged
  split
  · rename_i honly
    obtain ⟨hdecode, _, hwithout⟩ := ledgerOnly_next hvalid honly happlied hnext
    exact removeVMFirewallEntryLedgerOnly_follows hanchor hdecode hwithout
  · split
    · exact stageVMFirewallDelete_follows hanchor
    · refine .check_bind fun merged hmerge => .skip <| .check_bind fun same hsame => ?_
      split
      · -- the rules do not change, only whose they are
        rename_i hyes
        subst hyes
        obtain ⟨hsome, hdigest⟩ := sameRules_ok hsame
        obtain ⟨f, hf⟩ := Option.isSome_iff_exists.1 hsome
        obtain ⟨hmem, hhash⟩ := observeVMFirewall_ok hobs hf
        exact commitVMFirewallLedgerUnchanged_follows hanchor
          (.readBack hmerge hdigest hlast hmem hhash)
      · refine runVMFirewallMutation_follows hanchor hmerge fun tr' change hsub hkept' hpassed hreq => ?_
        obtain ⟨_, _, rfl, _, _, hauth⟩ := hpassed
        exact .delta (hanchor.mono hsub) happlied hnext hmerge hreq
          (List.mem_append_left _ (mem_asOps.2 hauth)) (hkept' hkept)

theorem stepDrifted_follows {drift : Err} :
    Keeps cfg renames (stepDrifted cfg networkUUID vmUUID anchor delta items drift) tr := by
  unfold stepDrifted
  split
  · refine (attempt_reads_follows (Habit.free_followsE _ _)).bind fun r tr' hsub _ => ?_
    split
    · exact (stageVMFirewallDelete_follows (hanchor.mono hsub)).done
    · exact .throw
  · exact .throw

theorem stepOver_follows
    (hlast : lastListing tr = some items) (hkept : AppliedKept tr)
    (hvalid : delta.validate cfg = .ok ()) :
    Keeps cfg renames (stepOver cfg networkUUID rounds vmUUID anchor delta items) tr := by
  unfold stepOver
  refine .check_bind fun applied happlied => ?_
  split
  · exact stepDrifted_follows hanchor
  · rename_i observation hobs
    refine .check_bind fun result hresult => ?_
    obtain ⟨_, _⟩ := result
    dsimp only
    split
    · rename_i hchanged
      subst hchanged
      exact (stepChanged_follows hanchor hlast hkept hvalid happlied hobs hresult).done
    · exact stepUnchanged_follows hanchor

omit hanchor

theorem stepAnchor_follows (hanchor : Fresh tr (.anchor vmUUID) anchor)
    (hlast : lastListing tr = some items) (hkept : AppliedKept tr)
    (hvalid : delta.validate cfg = .ok ()) :
    Keeps cfg renames (stepAnchor cfg networkUUID rounds vmUUID anchor delta items) tr := by
  unfold stepAnchor
  split
  · exact (resolveVMFirewallReceipt_follows hanchor hlast).done
  · split
    · exact (reconcileRelation_follows rounds fun _ h => by cases h).done
    · exact stepOver_follows hanchor.shown hlast hkept hvalid

theorem firewallVMCapacityFromItems_reads {uuid : String} :
    Habit.free.FollowsE (firewallVMCapacityFromItems cfg items uuid vmUUID) [] fun _ own =>
      ∀ e ∈ own, ∀ reader, e.op ≠ .listFirewalls reader := by
  unfold firewallVMCapacityFromItems
  split
  · exact .pure fun e he => by cases he
  · refine .perform_bind trivial fun now _ => .perform_bind trivial fun recent _ =>
      .check fun _ _ e he reader => ?_
    simp only [List.mem_cons, List.not_mem_nil, or_false] at he
    rcases he with rfl | rfl <;> simp

/-- An anchor that is created, or found to be there already. -/
theorem createVMFirewallAnchor_follows :
    (receiptHabit cfg renames).FollowsE (createVMFirewallAnchor cfg vmUUID) tr fun o tr' =>
      Fresh tr' (.anchor vmUUID) o ∧ lastListing tr' = lastListing tr ∧
        (AppliedKept tr → AppliedKept tr') := by
  unfold createVMFirewallAnchor
  refine .skip <| .skip <| .perform_bind rfl fun r _ => ?_
  cases r with
  | failed => exact .throw
  | ok =>
    exact .skip <| .pure ⟨.of_create, rfl, id⟩
  | «exists» =>
    refine getVMFirewallAnchor_follows.bind fun r tr' _ h => ?_
    cases r with
    | none => exact .throw
    | some existing =>
      obtain rfl := h.2 existing rfl
      exact .pure ⟨.of_get, rfl, id⟩

theorem firstAnchor_follows {name : String} :
    (receiptHabit cfg renames).FollowsE (firstAnchor cfg vmUUID name items) tr fun o tr' =>
      Fresh tr' (.anchor vmUUID) o ∧ lastListing tr' = lastListing tr ∧
        (AppliedKept tr → AppliedKept tr') := by
  unfold firstAnchor
  refine .skip <| .skip <|
    reads_bind firewallVMCapacityFromItems_reads fun _ own hown => ?_
  refine createVMFirewallAnchor_follows.mono fun o tr' _ h => ⟨h.1, ?_, fun hkept => h.2.2 hkept.reads⟩
  rw [h.2.1, lastListing_reads hown]

/-- A whole step, at the start of a call. -/
theorem vmFirewallStep_follows :
    Keeps cfg renames (vmFirewallStep cfg networkUUID rounds vmUUID delta) [] := by
  unfold vmFirewallStep
  refine .check_bind fun _ hvalid => .check_bind fun name _ =>
    getVMFirewallAnchor_follows.bind fun found tr' _ h => look_bind fun r =>
    .check_bind fun items hitems => ?_
  obtain rfl : r = .ok items := mapError_iff.1 hitems
  obtain ⟨⟨_, hown⟩, hfound⟩ := h
  have hkept : AppliedKept tr' := hown ▸ AppliedKept.reads trivial
  cases found with
  | some anchor =>
    obtain rfl := hfound anchor rfl
    exact stepAnchor_follows (Fresh.of_get.read (by simp)) rfl trivial hvalid
  | none =>
    dsimp only
    split
    · exact .pure trivial
    · refine firstAnchor_follows.bind fun anchor tr'' _ h => ?_
      exact stepAnchor_follows h.1 h.2.1 (h.2.2 hkept) hvalid

end Step

/-! ### Repair, renames and rebuild -/

section Others

variable {rounds : ℕ} {plan : MigrationPlan}

theorem repairVMFirewall_follows (hanchor : Shown tr (.anchor vmUUID) anchor) :
    Keeps cfg renames (repairVMFirewall cfg networkUUID rounds vmUUID anchor) tr := by
  unfold repairVMFirewall
  refine .check_bind fun _ hrepair => .skip <| .check_bind fun applied happlied =>
    .skip <| .check_bind fun merged hmerge => look_bind fun r =>
    .check_bind fun items _ => .check_bind fun f _ => .skip fun {_} => ?_
  have hrequested : anchor.fw.repair = true := by simpa using failIf_ok hrepair
  refine runVMFirewallMutation_follows hanchor.cons hmerge
    fun tr' change hsub _ _ hreq => ?_
  exact .repair (hanchor.cons.mono hsub) hrequested happlied
    hmerge hreq

theorem markVMFirewallMigrationOpened_follows :
    Keeps cfg renames (markVMFirewallMigrationOpened cfg vmUUID plan) tr := by
  unfold markVMFirewallMigrationOpened
  refine (attempt_reads_follows getVMFirewallAnchor_reads).bind fun r tr' _ h => ?_
  obtain ⟨_, hown, rfl⟩ := h
  rcases r with e | _ | anchor
  · exact .throw
  · exact .throw
  · obtain rfl := hown _ rfl anchor rfl
    refine .check_bind fun applied _ => look_bind fun live => .skip <|
      .skip ?_
    exact (anchorWrite_follows Shown.of_get.cons
      fun mid base o _ _ hm => .plan hm).done

theorem adoptFirewall_follows (hrenames : renames) (hanchor : Shown tr (.anchor vmUUID) anchor) :
    Keeps cfg renames (adoptFirewall cfg networkUUID rounds vmUUID anchor plan items) tr := by
  unfold adoptFirewall
  refine .check_bind fun adoptee _ => .check_bind fun next _ => .check_bind fun merged hmerge =>
    .check_bind fun raw hraw => .check_bind fun digest hdigest => .check_bind fun request _ =>
    (stageVMFirewallAdopt_follows hanchor hmerge hraw hdigest).bind fun staged tr₁ _ hstaged => ?_
  have hpending := pendingMembers_of_encode hraw (mergeVMFirewallLedger_members hmerge) hstaged.pending
  refine (issueVMFirewallMutation_follows hstaged.shown hpending).bind fun issued tr₂ _ hissued => ?_
  exact authorizedPut_follows hissued
    (authorizeVMFirewallAdopt_reads.mono fun _ _ _ h => ⟨h, trivial⟩) fun _ _ => .rename hrenames

theorem adoptVMFirewallMigration_follows (hrenames : renames)
    (hanchor : Shown tr (.anchor vmUUID) anchor) {live : List MigrationSource} :
    Keeps cfg renames (adoptVMFirewallMigration cfg networkUUID rounds vmUUID anchor plan items
      live) tr := by
  unfold adoptVMFirewallMigration
  refine .check_bind fun applied _ => ?_
  split
  · exact .skip <| .skip <| .skip <| .skip <|
      markVMFirewallMigrationOpened_follows
  · exact .skip <| adoptFirewall_follows hrenames hanchor

theorem unadoptVMFirewallReverse_follows (hrenames : renames)
    (hanchor : Shown tr (.anchor vmUUID) anchor) {applied : VMLedger} :
    Keeps cfg renames (unadoptVMFirewallReverse cfg networkUUID rounds vmUUID anchor plan applied
      items) tr := by
  unfold unadoptVMFirewallReverse
  refine .check_bind fun found _ => ?_
  obtain ⟨_, _⟩ := found
  refine look_bind fun r => .check_bind fun desired _ => .check_bind fun current _ =>
    .check_bind fun request _ => .check_bind fun raw hraw =>
    (stageVMFirewallUnadopt_follows hanchor.cons hraw).bind
    fun staged tr₁ _ hstaged => ?_
  have hpending := pendingMembers_of_encode hraw (by simp) hstaged.pending
  refine (issueVMFirewallMutation_follows hstaged.shown hpending).bind fun issued tr₂ _ hissued => ?_
  exact authorizedPut_follows hissued
    (authorizeVMFirewallUnadopt_reads.mono fun _ _ _ h => ⟨h, trivial⟩) fun _ _ => .rename hrenames

theorem anchorOrCreate_follows {existing : Option Object}
    (h : ∀ o, existing = some o → Shown tr (.anchor vmUUID) o) :
    (receiptHabit cfg renames).FollowsE (anchorOrCreate cfg vmUUID existing) tr fun o tr' =>
      Shown tr' (.anchor vmUUID) o := by
  cases existing with
  | none => exact createVMFirewallAnchor_follows.mono fun _ _ _ h => h.1.shown
  | some o => exact .pure (h o rfl)

theorem rebuildVMFirewallAnchor_follows {f : Firewall} {ledger : VMLedger} :
    Keeps cfg renames (rebuildVMFirewallAnchor cfg vmUUID f ledger) tr := by
  unfold rebuildVMFirewallAnchor
  refine .skip <| getVMFirewallAnchor_follows.bind fun existing tr' _ h =>
    .skip <| .check_bind fun actual _ => .check_bind fun raw hraw => ?_
  have hshown : ∀ o, existing = some o → Shown tr' (.anchor vmUUID) o := fun o ho => by
    rw [h.2 o ho]
    exact .of_get
  refine (anchorOrCreate_follows hshown).bind fun anchor tr'' _ hanchor => look_bind fun now => ?_
  exact (anchorWrite_follows hanchor.cons
    fun mid base o _ _ hm => .rebuild hraw hm).done

end Others

/-! ### Calls -/

section Calls

variable {rounds : ℕ}

/-- The calls that rename firewalls. -/
def Call.Renames : Call → Prop
  | .adopt _ => True
  | .unadopt _ => True
  | _ => False

theorem onAnchor_follows {work : Object → M Unit}
    (hwork : ∀ anchor tr, Fresh tr (.anchor vmUUID) anchor →
      Keeps cfg renames (work anchor) tr) :
    Keeps cfg renames (onAnchor cfg vmUUID work) tr := by
  unfold onAnchor
  refine getVMFirewallAnchor_follows.bind fun r tr' _ h => ?_
  cases r with
  | none => exact .pure trivial
  | some anchor =>
    obtain rfl := h.2 anchor rfl
    exact hwork anchor _ .of_get

theorem onAnchorListed_follows {reader : Reader} (hreader : reader ≠ .deleteVMFirewall)
    {work : Object → List Firewall → M Unit}
    (hwork : ∀ anchor items tr, Fresh tr (.anchor vmUUID) anchor → lastListing tr = some items →
      Keeps cfg renames (work anchor items) tr) :
    Keeps cfg renames (onAnchorListed cfg vmUUID reader work) tr := by
  unfold onAnchorListed
  refine onAnchor_follows fun anchor tr hanchor => look_bind fun r =>
    .check_bind fun items hitems => ?_
  subst hitems
  exact hwork anchor items _ (hanchor.read fun h => hreader (Query.listFirewalls.inj h)) rfl

theorem withPlan_follows {direction : MigrationDirection} {work : MigrationPlan → M Unit}
    (hwork : ∀ plan, Keeps cfg renames (work plan) tr) :
    Keeps cfg renames (withPlan anchor direction work) tr := by
  unfold withPlan
  refine .check_bind fun found _ => ?_
  split
  · exact .pure trivial
  · split
    · exact hwork _
    · exact .pure trivial

/-- **All code of this part has the habit.** -/
theorem Call.run_follows (call : Call) (hrenames : call.Renames → renames) :
    Keeps cfg renames (call.run cfg networkUUID rounds) [] := by
  cases call with
  | relation =>
    refine (reconcileRelation_follows rounds fun fence h => ?_).done
    cases h
    rfl
  | settle =>
    exact (reconcileRelation_follows rounds fun _ h => by cases h).done
  | step => exact vmFirewallStep_follows.done
  | resolve =>
    exact onAnchorListed_follows (by decide) fun anchor items tr hanchor hlast =>
      (resolveVMFirewallReceipt_follows hanchor hlast).done
  | delete =>
    exact onAnchor_follows fun anchor tr hanchor =>
      (deleteVMFirewall_follows hanchor).done
  | repair =>
    exact onAnchor_follows fun anchor tr hanchor => repairVMFirewall_follows hanchor.shown
  | adopt =>
    refine onAnchorListed_follows (by decide) fun anchor items tr hanchor _ => withPlan_follows fun plan => ?_
    exact look_bind fun r => .check_bind fun live _ =>
      adoptVMFirewallMigration_follows (hrenames trivial)
        hanchor.shown.cons
  | unadopt =>
    refine onAnchorListed_follows (by decide) fun anchor items tr hanchor _ => withPlan_follows fun plan => ?_
    exact .check_bind fun applied _ => unadoptVMFirewallReverse_follows (hrenames trivial) hanchor.shown
  | rebuild => exact rebuildVMFirewallAnchor_follows

end Calls

end InSpaceKube.NodeLB.Receipts
