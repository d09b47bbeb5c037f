/-
InSpaceKube/NodeLB/AnchorOnce.lean

Receipts on the anchor of a VM, by any number of controllers.

Six operations share the annotations of a receipt.  In every run an anchor has
at most one of them open at a time, and none takes the place of another: a
receipt is staged where there is none, issued once, and taken off.  A request
goes out by whoever issued its receipt, after a last look that still showed it.
The pending ledger becomes the applied one only on a listing that shows it.

All of this is about one change of an anchor (`AnchorChange`), and holds of
every two versions that follow each other, since each was made from the one
before it.
-/
import InSpaceKube.NodeLB.RelationOnce

namespace InSpaceKube.NodeLB.Receipts

open Prog

/-! ### What is said of a run -/

/-- The receipts that are open on an anchor.  The target or the issue of a delete
without the staged operation would be a second one. -/
def openReceipts (a : AnchorAnnotations) : List PendingOp :=
  (if a.receipt.pendingOp = .none then [] else [a.receipt.pendingOp]) ++
    if a.receipt.pendingOp ≠ .delete ∧ (a.deleteTarget ≠ "" ∨ a.deleteIssued ≠ .absent) then [.delete]
    else []

/-- How the receipt of an anchor may change from one version to the next. -/
inductive ReceiptMoves (old new : AnchorAnnotations) : Prop
  | same : new.receipt = old.receipt → ReceiptMoves old new
  | staged : old.hasReceipt = false → new.receipt.issuedAt = .absent → ReceiptMoves old new
  | issued {id : String} {now : Time} : old.receipt.issuedAt = .absent →
      new.receipt = { old.receipt with issuedAt := .at now, issueID := id } → ReceiptMoves old new
  | takenOff : new.receipt = .none → ReceiptMoves old new

/-- The request goes out by whoever stored the issue of its receipt, after a look
at the anchor that still showed exactly this receipt. -/
def SentByHolder (tr : Tr) (vmUUID : String) (r : Receipt) : Prop :=
  ∃ own cur o u older,
    tr = ⟨.read (.get (.anchor vmUUID)), .ok (some cur)⟩ :: asOps own ++
      ⟨.update (.anchor vmUUID) o, .ok u⟩ :: older ∧
    o.fw.receipt = r ∧ cur.uid = o.uid ∧ cur.fw.receipt = r ∧
    (⟨.read .token, .ok r.issueID⟩ : Event Op Reply) ∈ older ∧ r.issuedAt ≠ .absent

/-- The ledger, its hash and its time are those of another commit. -/
def AppliedChanged (old new : AnchorAnnotations) : Prop :=
  new.applied ≠ old.applied ∨ new.appliedHash ≠ old.appliedHash ∨ new.appliedAt ≠ old.appliedAt

/-! ### One change -/

section Change

variable {cfg : Config} {tr : Tr} {vmUUID : String} {base o : Object} {a : AnchorAnnotations}

theorem openReceipts_le_one (h : Sound a) : (openReceipts a).length ≤ 1 := by
  unfold openReceipts
  by_cases hdelete : a.receipt.pendingOp ≠ .delete ∧ (a.deleteTarget ≠ "" ∨ a.deleteIssued ≠ .absent)
  · exact absurd (h.delete hdelete.2) hdelete.1
  · rw [if_neg hdelete, List.append_nil]
    split
    · exact Nat.zero_le 1
    · exact le_rfl

theorem ReceiptStep.moves (h : ReceiptStep cfg tr vmUUID base o) : ReceiptMoves base.fw o.fw := by
  cases h with
  | same heq => exact .same heq
  | staged hno hat => exact .staged hno hat
  | issued hat _ _ heq => exact .issued hat heq
  | reset _ heq => exact .takenOff heq
  | committed _ heq => exact .takenOff (by rw [heq]; rfl)

/-- What is applied changes under a pending ledger only in its commit. -/
theorem AnchorChange.applied_of_pending (h : AnchorChange cfg tr vmUUID base o)
    (hpending : base.fw.receipt.pending ≠ .none) (hchanged : AppliedChanged base.fw o.fw) :
    ∃ uuid now, CommitReason cfg tr vmUUID base.fw.receipt uuid ∧
      o = base.annotate fun a => a.commit uuid now := by
  have hsame : ¬ AppliedChanged base.fw base.fw := fun h => by
    rcases h with h | h | h <;> exact h rfl
  have hopen : base.fw.hasReceipt ≠ false := fun hno => hpending (hasReceipt_eq_false.1 hno).1
  cases h with
  | stagePut _ _ _ _ hm => exact absurd (stageReceipt_ok hm).1 hopen
  | stageAdopt _ _ _ hm => exact absurd (stageReceipt_ok hm).1 hopen
  | stageUnadopt _ hm => exact absurd (stageReceipt_ok hm).1 hopen
  | stageDelete _ hm => exact absurd (stageReceipt_ok hm).1 hopen
  | issue _ _ hm =>
    obtain ⟨-, -, rfl⟩ := issueMutation_ok hm
    exact absurd hchanged hsame
  | reset _ hm =>
    obtain ⟨-, rfl⟩ := resetMutation_ok hm
    exact absurd hchanged hsame
  | commit hreason hm =>
    obtain ⟨rfl, -, heq⟩ := commitMutation_ok hm
    exact ⟨_, _, hreason, heq⟩
  | count _ hm =>
    obtain ⟨-, rfl⟩ := countMutation_ok hm
    exact absurd hchanged hsame
  | ledger _ _ hm => exact absurd (ledgerMutation_ok hm).1 hopen
  | attachedAt => exact absurd hchanged hsame
  | target _ _ _ hm =>
    obtain ⟨-, rfl⟩ := targetMutation_ok hm
    exact absurd hchanged hsame
  | absent _ _ _ _ _ hm =>
    obtain ⟨-, -, rfl⟩ := absentMutation_ok hm
    exact absurd hchanged hsame
  | issueDelete hm =>
    obtain ⟨-, -, rfl⟩ := issueDeleteMutation_ok hm
    exact absurd hchanged hsame
  | clearDelete hm =>
    obtain ⟨_, _, _, -, -, rfl⟩ := clearDeleteMutation_ok hm
    exact absurd hchanged hsame
  | plan hm =>
    obtain rfl := planMutation_ok hm
    exact absurd hchanged hsame
  | rebuild _ hm => exact absurd (rebuildMutation_ok hm).1 hopen
  | finalize => exact absurd hchanged hsame
  | handOver => exact absurd hchanged hsame

theorem PutReady.sentByHolder {renames : Prop} {r : Receipt} {change : Put}
    (h : PutReady cfg renames tr vmUUID r change) : SentByHolder tr vmUUID r := by
  obtain ⟨own, cur, o, u, older, _, htr, ho, huid, hcur, -, hdrawn, hat, -⟩ := h
  exact ⟨own, cur, o, u, older, htr, ho, huid, hcur, hdrawn.token, by rw [hat]; exact nofun⟩

end Change

/-! ### Two versions that follow each other -/

section Versions

variable {cfg : Config} {served : List (Tid × Event Op Reply)} {vmUUID : String} {old new : Object}

theorem Stored.moves (h : Stored cfg served (.anchor vmUUID) old new) (huid : new.uid = old.uid) :
    ReceiptMoves old.fw new.fw := by
  cases h with
  | edited hnew => exact .same (by rw [hnew]; rfl)
  | created _ hfresh => exact absurd huid hfresh
  | written _ hwrite hnew =>
    subst hnew
    cases hwrite with
    | relation => exact .same rfl
    | anchor hchange => exact hchange.receiptStep.moves

theorem Stored.applied_of_pending (h : Stored cfg served (.anchor vmUUID) old new)
    (huid : new.uid = old.uid) (hpending : old.fw.receipt.pending ≠ .none)
    (hchanged : AppliedChanged old.fw new.fw) :
    ∃ t tr o n, Asked served t tr (.anchor vmUUID) o ∧ new = { o with version := n } ∧
      new.fw.applied = old.fw.receipt.pending ∧ new.fw.appliedHash = old.fw.receipt.pendingHash ∧
      CommitReason cfg tr vmUUID old.fw.receipt new.fw.uuid := by
  have hsame : ¬ AppliedChanged old.fw old.fw := fun h => by
    rcases h with h | h | h <;> exact h rfl
  cases h with
  | edited hnew =>
    rw [hnew] at hchanged
    exact absurd hchanged hsame
  | created _ hfresh => exact absurd huid hfresh
  | @written t tr _ n hasked hwrite hnew =>
    subst hnew
    cases hwrite with
    | relation => exact absurd hchanged hsame
    | anchor hchange =>
      obtain ⟨_, _, hreason, rfl⟩ := hchange.applied_of_pending hpending hchanged
      exact ⟨t, tr, _, n, hasked, rfl, rfl, rfl, hreason⟩

end Versions

/-! ### Every run -/

/-- **Receipts of an anchor, in every run of any number of controllers.**  At most
one is open, and none takes the place of another; a request goes out by whoever
issued its receipt, after a look that still showed it; and the pending ledger is
applied only by a write after a listing with the pending rules. -/
theorem anchor_receipts (cfg : Config)
    {c : InSpaceKube.Config State Op Reply (Except Err Unit)}
    (h : Reachable sem (Calls cfg) Initial c) :
    (∀ vmUUID, ∀ o ∈ (c.shared.store (.anchor vmUUID)).log, (openReceipts o.fw).length ≤ 1 ∧
      (o.fw.receipt.issuedAt ≠ .absent → OfPut o.fw.receipt)) ∧
    (∀ vmUUID newer new old older,
      (c.shared.store (.anchor vmUUID)).log = newer ++ new :: old :: older → new.uid = old.uid →
      ReceiptMoves old.fw new.fw) ∧
    (∀ newer older t vmUUID r change reply,
      c.shared.served = newer ++ (t, ⟨.put vmUUID r change, reply⟩) :: older →
      SentByHolder (ownTrace t older) vmUUID r) ∧
    (∀ vmUUID newer new old older,
      (c.shared.store (.anchor vmUUID)).log = newer ++ new :: old :: older → new.uid = old.uid →
      old.fw.receipt.pending ≠ .none → AppliedChanged old.fw new.fw →
      ∃ t tr o n, Asked c.shared.served t tr (.anchor vmUUID) o ∧ new = { o with version := n } ∧
        new.fw.applied = old.fw.receipt.pending ∧ new.fw.appliedHash = old.fw.receipt.pendingHash ∧
        CommitReason cfg tr vmUUID old.fw.receipt new.fw.uuid) := by
  have hkept := kept h
  refine ⟨fun vmUUID o ho => ?_, fun vmUUID newer new old older hlog huid => ?_,
    fun newer older t vmUUID r change reply hserved => ?_,
    fun vmUUID newer new old older hlog huid => ?_⟩
  · have hsound := hkept.inv.sound _ o ho
    exact ⟨openReceipts_le_one hsound, fun hat => hsound.ofPut (.inr hat)⟩
  · exact (hkept.inv.stored hlog).moves huid
  · have hobeys := hkept.obeys t
    rw [hserved, ownTrace_append, ownTrace_cons_self] at hobeys
    exact PutReady.sentByHolder hobeys.ok_of_append
  · exact (hkept.inv.stored hlog).applied_of_pending huid

/-! ### A create

The first entry of a VM: the firewall is created and read back. -/

section Create

/-- A digest under which all policies agree. -/
def zeroDigest : String := "0000000000000000000000000000000000000000000000000000000000000000"

def vmConfig : Config := { webConfig with policyHash := fun _ => zeroDigest }

/-- The entry of the Service: one open port. -/
def webMember : VMMember := ⟨"web-uid", "00000000", [⟨"tcp", 80, []⟩]⟩

/-- The anchor of the VM, without a firewall. -/
def webAnchor : Object := { emptyAnchor webVM with version := 1, uid := "anchor-uid" }

def vmStart : State := .single (.anchor webVM) webAnchor

/-- The firewall the VM gets. -/
def vmFirewall : Firewall where
  uuid := webFirewall
  name := vmFirewallNameOf vmConfig webVM
  displayName := ""
  description := vmFirewallDescription
  billingAccountID := 1
  rules := [portRule ("tcp", 80) true []]
  resourcesAssigned := some []

/-- The same outside with another listing. -/
def Outside.listing (w : Outside) (items : List Firewall) : Outside where
  answer q := match q with
    | .listFirewalls _ => .ok items
    | q => w.answer q
  token := w.token
  reply := w.reply

def vmStep : Prog Op Reply (Except Err Unit) :=
  (Call.run vmConfig webNetwork 3 (.step webVM ⟨some webMember, none, false⟩)).run

/-- The create goes out. -/
def vmSent : State × Prog Op Reply (Except Err Unit) :=
  (((webOutside []).listing []).server 0).drive 18 vmStart vmStep

/-- It is read back. -/
def vmDone : State × Prog Op Reply (Except Err Unit) :=
  (((webOutside []).listing [vmFirewall]).server 0).drive 10 vmSent.1 vmSent.2

theorem initial_vmStart : Initial vmStart :=
  initial_single (Clean.sound ⟨rfl, rfl, rfl, rfl⟩) rfl rfl

theorem vmStep_calls : Calls vmConfig 0 vmStep := ⟨_, _, _, rfl⟩

/-- The pending ledger, and the one that is applied, in the versions of the anchor. -/
theorem vmDone_log :
    (vmDone.1.store (.anchor webVM)).log.map (fun o => (o.uid, o.fw.receipt.pending, o.fw.applied)) =
      [("anchor-uid", .none, .ledger ⟨1, [webMember]⟩), ("anchor-uid", .ledger ⟨1, [webMember]⟩, .none),
        ("anchor-uid", .ledger ⟨1, [webMember]⟩, .none), ("anchor-uid", .none, .none)] := by
  decide +kernel

/-- The ledger of the create is applied after it was read back. -/
theorem anchor_receipts_create :
    ∃ c : InSpaceKube.Config State Op Reply (Except Err Unit),
      Reachable sem (Calls vmConfig) Initial c ∧ ∃ newest issued rest tr,
        (c.shared.store (.anchor webVM)).log = newest :: issued :: rest ∧
        newest.fw.applied = .ledger ⟨1, [webMember]⟩ ∧ (openReceipts issued.fw).length ≤ 1 ∧
        CommitReason vmConfig tr webVM issued.fw.receipt newest.fw.uuid := by
  have h := (((webOutside []).listing []).server 0).started (n := 18) (.init initial_vmStart) rfl
    vmStep_calls rfl
  obtain ⟨c, h, hs, -⟩ :=
    ((((webOutside []).listing [vmFirewall]).server 0).resumed (r := vmDone) h rfl rfl).named
  have hlog := vmDone_log
  rw [← hs] at hlog
  obtain ⟨newest, _, hnewest, hfirst, hversions⟩ := List.map_eq_cons_iff.1 hlog
  obtain ⟨issued, rest, rfl, hsecond, -⟩ := List.map_eq_cons_iff.1 hversions
  obtain ⟨huid, -, happlied⟩ := Prod.mk.inj hfirst |>.imp_right Prod.mk.inj
  obtain ⟨huid', hpending, happlied'⟩ := Prod.mk.inj hsecond |>.imp_right Prod.mk.inj
  obtain ⟨hopen, -, -, hcommits⟩ := anchor_receipts vmConfig h
  obtain ⟨-, tr, -, -, -, -, -, -, hcommit⟩ := hcommits webVM [] newest issued rest hnewest
    (huid.trans huid'.symm) (by rw [hpending]; exact nofun)
    (.inl (by rw [happlied, happlied']; exact nofun))
  refine ⟨c, h, newest, issued, rest, tr, hnewest, happlied, ?_, hcommit⟩
  exact (hopen webVM issued (by rw [hnewest]; simp)).1

end Create

end InSpaceKube.NodeLB.Receipts
