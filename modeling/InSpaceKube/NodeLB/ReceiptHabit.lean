/-
InSpaceKube/NodeLB/ReceiptHabit.lean

What the code under receipts asks for, and on what grounds.

A controller changes its owners and the cloud on the grounds of what it has
read, and everything it has read is in its trace.  `receiptHabit` says for each
request what the trace must hold for it:

* a write of an owner starts from an object that was read, and makes one of the
  changes the code knows, with the grounds for it (`RelationChange`,
  `AnchorChange`);
* an attach or a detach goes out right after the fence was stored by this very
  code, and after one more read that still showed it (`RelateReady`);
* a create, a PUT or a rename likewise (`PutReady`), with the rules it was
  planned with (`PutReason`).

The changes are named by the pure functions of the model, so that what a change
does to an object is a fact about those functions, and who makes it is a fact
about traces.

Between a decision and the write it leads to the code may only re-read the owner
and try again (`Retried`).  Grounds are not lost by that, which is what the
`extend` lemmas say.

The second half walks through the code of the relation fence.
-/
import InSpaceKube.NodeLB.VMFirewall
import InSpaceKube.Prog.Habit

namespace InSpaceKube.NodeLB.Receipts

open Prog

/-- What a controller has asked and been told. -/
abbrev Tr := Trace Op Reply

/-- The trace of code that only reads, as a trace of requests. -/
def asOps (own : Trace Query Answer) : Tr := Habit.embedTrace Op.read (fun _ r => r) own

/-! ### Facts about traces -/

variable (tr : Tr) (ref : Ref)

/-- The owner was read. -/
def Got (o : Object) : Prop :=
  (⟨.read (.get ref), .ok (some o)⟩ : Event Op Reply) ∈ tr

/-- The owner was read, or created here. -/
def Shown (o : Object) : Prop :=
  Got tr ref o ∨ ∃ vmUUID e, ref = .anchor vmUUID ∧
    (⟨.create vmUUID e, .ok o⟩ : Event Op Reply) ∈ tr

/-- The event shows the owner as it is stored. -/
def Shows (e : Event Op Reply) (ref : Ref) (o : Object) : Prop :=
  e = ⟨.read (.get ref), .ok (some o)⟩ ∨ ∃ vmUUID o', ref = .anchor vmUUID ∧
    e = ⟨.create vmUUID o', .ok o⟩

/-- The owner was shown, and since then the code has only read, and has not listed
the firewalls for a delete. -/
def Fresh (o : Object) : Prop :=
  ∃ mid e older, tr = asOps mid ++ e :: older ∧ Shows e ref o ∧
    ∀ q ∈ mid, q.op ≠ .listFirewalls .deleteVMFirewall

def Clocked (now : Time) : Prop := (⟨.read .now, now⟩ : Event Op Reply) ∈ tr

/-- The last listing that did not fail. -/
def lastListing : Tr → Option (List Firewall)
  | [] => none
  | ⟨.read (.listFirewalls _), .ok items⟩ :: _ => some items
  | _ :: tr => lastListing tr

/-- The last listing, and a look at the clock after it. -/
def Observed (items : List Firewall) (now : Time) : Prop :=
  lastListing tr = some items ∧
    ∃ newer older, tr = newer ++ ⟨.read .now, now⟩ :: older ∧ lastListing older = some items

/-- Events that change nothing: reads, and writes that were refused. -/
inductive Idle : Event Op Reply → Prop
  | read (q : Query) (r : Answer q) : Idle ⟨.read q, r⟩
  | conflict (ref : Ref) (o : Object) (e : Err) : Idle ⟨.update ref o, .conflict e⟩

/-- The token was drawn and the clock read for it, and nothing has changed since. -/
def Drawn (token : String) (now : Time) : Prop :=
  ∃ newer older, tr = newer ++ ⟨.read .now, now⟩ :: ⟨.read .token, .ok token⟩ :: older ∧
    ∀ e ∈ newer, Idle e

/-- What comes between the attempts of a write. -/
inductive Retried : Event Op Reply → Prop
  | get (ref : Ref) (r : Except Err (Option Object)) : Retried ⟨.read (.get ref), r⟩
  | conflict (ref : Ref) (o : Object) (e : Err) : Retried ⟨.update ref o, .conflict e⟩

/-- What may come between the last listing of a delete and the write it leads to:
also the stamp on the other anchors at the end of a reverse migration. -/
inductive Passive : Event Op Reply → Prop
  | retried {e : Event Op Reply} : Retried e → Passive e
  | stamped (r : Except Err Unit) : Passive ⟨.stampReverseDone, r⟩

/-- Events that change nothing outside, as the controller knows: also a request
that was not sent. -/
inductive Harmless : Event Op Reply → Prop
  | idle {e : Event Op Reply} : Idle e → Harmless e
  | relate (ref : Ref) (fence : Fence) (e : Err) : mutationKnownPreDispatch e = true →
      Harmless ⟨.relate ref fence, .error e⟩
  | put (vmUUID : String) (receipt : Receipt) (change : Put) (e : Err) :
      mutationKnownPreDispatch e = true → Harmless ⟨.put vmUUID receipt change, .error e⟩

/-- The trace has grown by events of one kind only. -/
def Extends (P : Event Op Reply → Prop) (tr tr' : Tr) : Prop :=
  ∃ newer, tr' = newer ++ tr ∧ ∀ e ∈ newer, P e

/-! ### Grounds for a change of the relation annotations -/

/-- The code issued `fence` itself, and has sent nothing since. -/
def UndispatchedFence (fence : Fence) : Prop :=
  ∃ newer o u older now, tr = newer ++ ⟨.update ref o, .ok u⟩ :: older ∧
    o.relation.issued = .fence fence ∧ Drawn older fence.issueID now ∧ fence.issuedAt = .at now ∧
    ∀ e ∈ newer, Harmless e

variable (cfg : Config)

/-- What the code makes of the annotations of an owner it has read. -/
inductive RelationChange (tr : Tr) (ref : Ref) (snapshot : Object) : RelationAnnotations → Prop
  /-- The receipt stays as it is; it may be bound to its owner. -/
  | keep {values : RelationAnnotations} : values.issued = snapshot.relation.issued →
      (values.ownerUID = snapshot.relation.ownerUID ∨ values.ownerUID = snapshot.uid) →
      RelationChange tr ref snapshot values
  /-- A receipt is issued where there is none. -/
  | issue {values : RelationAnnotations} {fence : Fence} {now : Time} :
      snapshot.relation.issued = .none → Drawn tr fence.issueID now →
      fence.issuedAt = .at now → fence.absenceObservedAt = .absent → values.issued = .fence fence →
      values.ownerUID = snapshot.uid → RelationChange tr ref snapshot values
  /-- The first absence is recorded. -/
  | observe {values : RelationAnnotations} {fence : Fence} {items : List Firewall} {now : Time} :
      parseFence snapshot.relation.issued = .ok fence → fence.operation = .unassign →
      fence.absenceObservedAt = .absent → Observed tr items now →
      relationConverged fence items = .ok true →
      values.issued = .fence { fence with absenceObservedAt := .at now } →
      values.ownerUID = snapshot.relation.ownerUID → RelationChange tr ref snapshot values
  /-- The relation is there again: the absence is taken back. -/
  | sight {values : RelationAnnotations} {fence : Fence} {items : List Firewall} :
      parseFence snapshot.relation.issued = .ok fence → lastListing tr = some items →
      relationConverged fence items = .ok false →
      values.issued = .fence { fence with absenceObservedAt := .absent } →
      values.ownerUID = snapshot.relation.ownerUID → RelationChange tr ref snapshot values
  /-- An attach was read back. -/
  | attached {values : RelationAnnotations} {fence : Fence} {items : List Firewall} :
      parseFence snapshot.relation.issued = .ok fence → fence.operation = .assign →
      lastListing tr = some items → relationConverged fence items = .ok true → values.issued = .none →
      values.ownerUID = "" → RelationChange tr ref snapshot values
  /-- A detach was read back for the second time. -/
  | detached {values : RelationAnnotations} {fence : Fence} {items : List Firewall}
      {observedAt now : Time} :
      parseFence snapshot.relation.issued = .ok fence → fence.operation = .unassign →
      fence.absenceObservedAt = .at observedAt → Observed tr items now →
      relationConverged fence items = .ok true → observedAt + absenceDelay cfg ≤ now →
      values.issued = .none → values.ownerUID = "" → RelationChange tr ref snapshot values
  /-- The request can no longer be under way, and the relation is as it was. -/
  | retired {values : RelationAnnotations} {fence : Fence} {items : List Firewall}
      {issuedAt now : Time} :
      parseFence snapshot.relation.issued = .ok fence → lastListing tr = some items →
      relationConverged fence items = .ok false → Clocked tr now → fence.issuedAt = .at issuedAt →
      issuedAt + retireDelay ≤ now → values.issued = .none → values.ownerUID = "" →
      RelationChange tr ref snapshot values
  /-- The request never went out. -/
  | undispatched {values : RelationAnnotations} {fence stored : Fence} :
      UndispatchedFence tr ref fence → parseFence snapshot.relation.issued = .ok stored →
      sameIssue stored fence = true → values.issued = .none → values.ownerUID = "" →
      RelationChange tr ref snapshot values

/-- One annotation changes from `snapshot` to `value` wherever it is meant to, and
only over what was read. -/
def MergedAs {α : Type} (snapshot value base new : α) : Prop :=
  (value = snapshot ∧ new = base) ∨ (base = snapshot ∧ new = value)

/-- A change planned for `snapshot` is made to `base`. -/
def Merged (snapshot values base new : RelationAnnotations) : Prop :=
  MergedAs snapshot.issued values.issued base.issued new.issued ∧
    MergedAs snapshot.ownerUID values.ownerUID base.ownerUID new.ownerUID

/-! ### Grounds for a change of an anchor -/

/-- The receipt is of a create, a PUT or a rename. -/
def OfPut (r : Receipt) : Prop :=
  r.pendingOp = .create ∨ r.pendingOp = .update ∨ r.pendingOp = .adopt ∨ r.pendingOp = .unadopt

/-- The pending ledger has members, so the receipt is not of a delete. -/
def PendingMembers (r : Receipt) : Prop := ∃ l, r.pending = .ledger l ∧ l.members ≠ []

/-- Why a receipt may be taken off without being committed. -/
inductive ResetReason (tr : Tr) (vmUUID : String) (r : Receipt) : Prop
  /-- It was never issued. -/
  | staged : OfPut r → r.issuedAt = .absent → ResetReason tr vmUUID r
  /-- The request can no longer be under way. -/
  | due {issuedAt now : Time} : OfPut r → r.issuedAt = .at issuedAt → Clocked tr now →
      issuedAt + retireDelay ≤ now → ResetReason tr vmUUID r
  /-- This code issued it and has sent nothing since. -/
  | undispatched {newer older : Tr} {o u : Object} {now : Time} : PendingMembers r →
      tr = newer ++ ⟨.update (.anchor vmUUID) o, .ok u⟩ :: older → o.fw.receipt = r →
      Drawn older r.issueID now → r.issuedAt = .at now → (∀ e ∈ newer, Harmless e) →
      ResetReason tr vmUUID r

/-- The last listing shows the firewall with the pending rules and, after an
adopt, under the per-VM name. -/
def CommitReason (tr : Tr) (vmUUID : String) (r : Receipt) (uuid : String) : Prop :=
  ∃ items f, lastListing tr = some items ∧ f ∈ items ∧ f.uuid = uuid ∧
    nodeLoadBalancerVMFirewallSpecHash cfg f.rules = .ok r.pendingHash ∧
    (r.pendingOp = .create ∨ r.pendingOp = .update ∨
      r.pendingOp = .adopt ∧ nodeLoadBalancerVMFirewallName cfg vmUUID = .ok f.effectiveName)

/-- The exact read, the inventory and the network all say that the VM is gone. -/
def VMGone (tr : Tr) (networkUUID vmUUID : String) : Prop :=
  ∃ got items network members,
    (⟨.read (.getVM vmUUID), got⟩ : Event Op Reply) ∈ tr ∧
    exactVMPresence cfg vmUUID networkUUID got = .ok none ∧
    (⟨.read .listVMs, .ok items⟩ : Event Op Reply) ∈ tr ∧
    (items.filter fun vm => equalFold vm.uuid vmUUID) = [] ∧
    (⟨.read .getNetwork, .ok (some network)⟩ : Event Op Reply) ∈ tr ∧
    canonicalConfiguredVPCVMUUIDs network = .ok members ∧
    (members.filter fun m => m.1 == vmUUID) = []

/-- Why the applied ledger may change without a receipt. -/
inductive LedgerReason (tr : Tr) (vmUUID : String) (applied : LedgerText) : VMLedger → Prop
  /-- The last listing shows the firewall with the rules of the next ledger. -/
  | readBack {next : VMLedger} {merged : List FirewallRule} {digest : String}
      {items : List Firewall} {f : Firewall} :
      mergeVMFirewallLedger cfg next = .ok merged →
      nodeLoadBalancerVMFirewallSpecHash cfg merged = .ok digest → lastListing tr = some items →
      f ∈ items → nodeLoadBalancerVMFirewallSpecHash cfg f.rules = .ok digest →
      LedgerReason tr vmUUID applied next
  /-- One entry of a VM that is gone is dropped. -/
  | gone {networkUUID : String} {before : VMLedger} {key : VMMemberKey} {next : VMLedger} :
      VMGone cfg tr networkUUID vmUUID → decodeVMFirewallLedger cfg applied = .ok before →
      before.without key = (next, true) → LedgerReason tr vmUUID applied next

/-- The last listing of a delete does not show the firewall of the anchor, which
was read right before it.  `count` absences had been recorded by then, the last of
them long enough ago. -/
def AbsentRead (tr : Tr) (vmUUID : String) (anchor : Object) (now : Time) (count : ℤ) : Prop :=
  ∃ newer items before,
    tr = newer ++ ⟨.read .now, now⟩ ::
      ⟨.read (.listFirewalls .deleteVMFirewall), .ok items⟩ :: before ∧
    (∀ e ∈ newer, Passive e) ∧ Fresh before (.anchor vmUUID) anchor ∧
    deleteRow items anchor.fw.uuid = .ok none ∧ absentReads cfg vmUUID anchor now = .ok count ∧
    anchor.fw.deleteTarget = anchor.fw.uuid

/-- What the code makes of an anchor it has read. -/
inductive AnchorChange (tr : Tr) (vmUUID : String) (base : Object) : Object → Prop
  | stagePut {o : Object} {op : PendingOp} {l : VMLedger} {merged : List FirewallRule}
      {appliedRaw raw : LedgerText} {digest : String} {now : Time} :
      op = .create ∨ op = .update → mergeVMFirewallLedger cfg l = .ok merged →
      encodeVMFirewallLedger cfg l = .ok raw →
      nodeLoadBalancerVMFirewallSpecHash cfg merged = .ok digest →
      stageMutation op appliedRaw raw digest now base = .ok (some o) →
      AnchorChange tr vmUUID base o
  | stageAdopt {o : Object} {l : VMLedger} {merged : List FirewallRule}
      {appliedRaw raw : LedgerText} {digest uuid : String} {now : Time} :
      mergeVMFirewallLedger cfg l = .ok merged → encodeVMFirewallLedger cfg l = .ok raw →
      nodeLoadBalancerVMFirewallSpecHash cfg merged = .ok digest →
      stageAdopt appliedRaw raw digest uuid now base = .ok (some o) → AnchorChange tr vmUUID base o
  | stageUnadopt {o : Object} {entry : VMMember} {appliedRaw raw : LedgerText}
      {policy uuid : String} {now : Time} :
      encodeVMFirewallLedger cfg ⟨vmFirewallLedgerVersion, [entry]⟩ = .ok raw →
      stageUnadopt appliedRaw raw policy uuid now base = .ok (some o) → AnchorChange tr vmUUID base o
  | stageDelete {o : Object} {appliedRaw raw : LedgerText} {now : Time} :
      encodeVMFirewallLedger cfg .empty = .ok raw →
      stageDelete appliedRaw raw now base = .ok (some o) → AnchorChange tr vmUUID base o
  | issue {o staged : Object} {token : String} {now : Time} : PendingMembers staged.fw.receipt →
      Drawn tr token now → issueMutation staged token now base = .ok (some o) →
      AnchorChange tr vmUUID base o
  | reset {o : Object} {r : Receipt} : ResetReason tr vmUUID r →
      resetMutation r base = .ok (some o) → AnchorChange tr vmUUID base o
  | commit {o : Object} {r : Receipt} {uuid : String} {now : Time} :
      CommitReason cfg tr vmUUID r uuid → commitMutation r uuid now base = .ok (some o) →
      AnchorChange tr vmUUID base o
  | count {o : Object} {r : Receipt} {n : ℤ} {now : Time} : OfPut r →
      countMutation r n now base = .ok (some o) → AnchorChange tr vmUUID base o
  | ledger {o : Object} {appliedRaw raw : LedgerText} {next : VMLedger} {refusal : String} :
      LedgerReason cfg tr vmUUID appliedRaw next → encodeVMFirewallLedger cfg next = .ok raw →
      ledgerMutation appliedRaw raw refusal base = .ok (some o) → AnchorChange tr vmUUID base o
  | attachedAt {stamp : Stamp} :
      AnchorChange tr vmUUID base (base.annotate fun a => { a with attachedAt := stamp })
  | target {o anchor : Object} : Shown tr (.anchor vmUUID) anchor → anchor.uid = base.uid →
      anchor.fw.receipt.pendingOp = .delete → targetMutation anchor.fw.uuid base = .ok (some o) →
      AnchorChange tr vmUUID base o
  | absent {o anchor : Object} {n : ℤ} {now : Time} : Shown tr (.anchor vmUUID) anchor →
      anchor.uid = base.uid → anchor.fw.receipt.pendingOp = .delete →
      AbsentRead cfg tr vmUUID anchor now n → n + 1 < absenceConfirmations →
      absentMutation anchor.fw.uuid anchor.fw.absenceCount (n + 1) now base = .ok (some o) →
      AnchorChange tr vmUUID base o
  | issueDelete {o : Object} {uuid : String} {now : Time} :
      issueDeleteMutation uuid now base = .ok (some o) → AnchorChange tr vmUUID base o
  | clearDelete {o : Object} {clearAbsence clearIssued : Bool} :
      clearDeleteMutation clearAbsence clearIssued base = .ok (some o) → AnchorChange tr vmUUID base o
  | plan {o : Object} {from_ next : MigrationText} : planMutation from_ next base = .ok (some o) →
      AnchorChange tr vmUUID base o
  | rebuild {o : Object} {uuid : String} {l : VMLedger} {raw : LedgerText} {actual : String}
      {now : Time} : encodeVMFirewallLedger cfg l = .ok raw →
      rebuildMutation uuid raw actual now base = .ok (some o) → AnchorChange tr vmUUID base o
  /-- The anchor of a firewall that is gone is finalized. -/
  | finalize {anchor : Object} {n : ℤ} {now : Time} : Shown tr (.anchor vmUUID) anchor →
      anchor.uid = base.uid → base.fw.deleteTarget = anchor.fw.deleteTarget →
      base.fw.receipt.pendingOp = .delete → anchor.fw.receipt.pendingOp = .delete →
      AbsentRead cfg tr vmUUID anchor now n → absenceConfirmations ≤ n + 1 → AnchorChange tr vmUUID base { base with finalizer := false }
  /-- The anchor of a firewall that a Service has taken over is let go. -/
  | handOver : base.fw.receipt.pendingOp = .unadopt →
      AnchorChange tr vmUUID base { base with finalizer := false }

/-! ### Grounds for a request to the cloud -/

/-- Every write so far left the applied ledger as it was read, or was refused. -/
def AppliedKept : Tr → Prop
  | [] => True
  | ⟨.update _ _, .conflict _⟩ :: tr => AppliedKept tr
  | ⟨.update ref o, _⟩ :: tr =>
    (∃ base, Shown tr ref base ∧ o.fw.applied = base.fw.applied) ∧ AppliedKept tr
  | _ :: tr => AppliedKept tr

/-- What the rules of a create or a PUT were derived from.  `renames` says whether
renames of firewalls are part of the picture. -/
inductive PutReason (renames : Prop) (tr : Tr) (vmUUID : String) (change : Put) : Prop
  /-- One entry comes or goes, as the delta that was authorized says. -/
  | delta {delta : VMDelta} {anchor seen : Object} {fresh : Option Firewall} {applied next : VMLedger}
      {target : Target} {merged : List FirewallRule} : Shown tr (.anchor vmUUID) anchor →
      anchor.fw.appliedLedger cfg = .ok applied → delta.next cfg applied = .ok (next, true) →
      mergeVMFirewallLedger cfg next = .ok merged → putRequest cfg vmUUID target merged = .ok change →
      (⟨.read (.authorizeDelta delta seen fresh), .ok ()⟩ : Event Op Reply) ∈ tr → AppliedKept tr →
      PutReason renames tr vmUUID change
  /-- An operator asked for the applied rules to be restored. -/
  | repair {anchor : Object} {applied : VMLedger} {merged : List FirewallRule} {f : Firewall} :
      Shown tr (.anchor vmUUID) anchor → anchor.fw.repair = true →
      anchor.fw.appliedLedger cfg = .ok applied → mergeVMFirewallLedger cfg applied = .ok merged →
      putRequest cfg vmUUID (some f) merged = .ok change → PutReason renames tr vmUUID change
  | rename : renames → PutReason renames tr vmUUID change

/-- The receipt was stored by this code, nothing was changed since, and the last
look at the anchor still showed it. -/
def PutReady (renames : Prop) (tr : Tr) (vmUUID : String) (r : Receipt) (change : Put) : Prop :=
  ∃ own cur o u older now,
    tr = ⟨.read (.get (.anchor vmUUID)), .ok (some cur)⟩ :: asOps own ++
      ⟨.update (.anchor vmUUID) o, .ok u⟩ :: older ∧
    o.fw.receipt = r ∧ cur.uid = o.uid ∧ cur.fw.receipt = r ∧ PendingMembers r ∧
    Drawn older r.issueID now ∧ r.issuedAt = .at now ∧ PutReason cfg renames tr vmUUID change

/-- The last reads say that the VM has the firewall, or has room for one more. -/
def RoomFor (own : Trace Query Answer) (fence : Fence) : Prop :=
  ∃ items, own = [⟨.listFirewalls .capacity, .ok items⟩] ∧
      (attachedFirewalls items fence.vmUUID).contains (toLower fence.firewallUUID) = true ∨
    ∃ now recent, own = [⟨.recentFirewallAssignsFor fence.vmUUID now, recent⟩, ⟨.now, now⟩,
        ⟨.listFirewalls .capacity, .ok items⟩] ∧
      checkCapacity cfg items recent fence.firewallUUID fence.vmUUID = .ok ()

/-- An attach was just acknowledged, and the clock read. -/
def Acknowledged (tr : Tr) (vmUUID firewallUUID : String) (now : Time) : Prop :=
  ∃ ref fence older, tr = ⟨.read .now, now⟩ :: ⟨.relate ref fence, .ok ()⟩ :: older ∧
    fence.operation = .assign ∧ fence.vmUUID = vmUUID ∧ fence.firewallUUID = firewallUUID

/-- The fence was stored by this code, nothing was changed since, and the last
look at the owner still showed it; for an attach there was room after that. -/
def RelateReady (tr : Tr) (ref : Ref) (fence : Fence) : Prop :=
  ∃ late cur early o u older stored now,
    tr = asOps late ++ ⟨.read (.get ref), .ok (some cur)⟩ :: asOps early ++
      ⟨.update ref o, .ok u⟩ :: older ∧
    (∀ e ∈ late, ∀ r, e.op ≠ .get r) ∧
    o.relation.issued = .fence fence ∧ o.relation.ownerUID = o.uid ∧ cur.uid = o.uid ∧
    cur.relation.ownerUID = o.uid ∧ parseFence cur.relation.issued = .ok stored ∧
    sameIssue stored fence = true ∧ Drawn older fence.issueID now ∧ fence.issuedAt = .at now ∧
    (fence.operation = .assign → RoomFor cfg late fence)

/-- A write of an owner. -/
inductive Write (tr : Tr) : Ref → Object → Prop
  | relation {ref : Ref} {snapshot base : Object} {values new : RelationAnnotations} :
      Shown tr ref snapshot → Shown tr ref base → base.uid = snapshot.uid →
      RelationChange cfg tr ref snapshot values →
      Merged snapshot.relation values base.relation new → Write tr ref (base.withRelation new)
  | anchor {vmUUID : String} {base o : Object} : Shown tr (.anchor vmUUID) base →
      AnchorChange cfg tr vmUUID base o → Write tr (.anchor vmUUID) o

/-- What the code asks for, given what it has been told. -/
def receiptHabit (renames : Prop) : Habit Op Reply where
  ok tr op := match op with
    | .update ref o => Write cfg tr ref o
    | .create vmUUID o => o = emptyAnchor vmUUID
    | .rememberFirewallAssign vmUUID firewallUUID now => Acknowledged tr vmUUID firewallUUID now
    | .relate ref fence => RelateReady cfg tr ref fence
    | .put vmUUID r change => PutReady cfg renames tr vmUUID r change
    | _ => True
  rep _ _ := True

/-- Code of which no more is asked. -/
abbrev Keeps {α : Type} (renames : Prop) (x : M α) (tr : Tr) : Prop :=
  (receiptHabit cfg renames).FollowsE x tr fun _ _ => True

/-! ### Grounds are kept -/

section Grounds

variable {cfg} {tr tr' : Tr} {ref : Ref} {o : Object} {items : List Firewall} {now : Time}
  {vmUUID : String} {r : Receipt} {P : Event Op Reply → Prop}

theorem Shown.mono (h : Shown tr ref o) (hsub : tr ⊆ tr') : Shown tr' ref o := by
  rcases h with h | ⟨vm, e, href, h⟩
  · exact .inl (hsub h)
  · exact .inr ⟨vm, e, href, hsub h⟩

theorem Shown.cons {e : Event Op Reply} (h : Shown tr ref o) : Shown (e :: tr) ref o :=
  h.mono (List.subset_cons_self _ _)

theorem Shown.of_get : Shown (⟨.read (.get ref), .ok (some o)⟩ :: tr) ref o :=
  .inl List.mem_cons_self

theorem Clocked.mono (h : Clocked tr now) (hsub : tr ⊆ tr') : Clocked tr' now := hsub h

theorem Extends.refl : Extends P tr tr := ⟨[], rfl, fun _ he => by cases he⟩

theorem Extends.cons {e : Event Op Reply} (h : Extends P tr tr') (he : P e) :
    Extends P tr (e :: tr') := by
  obtain ⟨newer, rfl, hnewer⟩ := h
  exact ⟨e :: newer, rfl, List.forall_mem_cons.2 ⟨he, hnewer⟩⟩

theorem Extends.subset (h : Extends P tr tr') : tr ⊆ tr' := by
  obtain ⟨newer, rfl, -⟩ := h
  exact List.subset_append_right newer tr

theorem Retried.idle {e : Event Op Reply} (h : Retried e) : Idle e := by
  cases h with
  | get => exact .read _ _
  | conflict => exact .conflict _ _ _

theorem Drawn.append {token : String} {late : Tr} (h : Drawn tr token now)
    (hlate : ∀ e ∈ late, Idle e) : Drawn (late ++ tr) token now := by
  obtain ⟨newer, older, rfl, hnewer⟩ := h
  exact ⟨late ++ newer, older, by simp, List.forall_mem_append.2 ⟨hlate, hnewer⟩⟩

theorem Drawn.extend {token : String} (h : Drawn tr token now) (hext : Extends Retried tr tr') :
    Drawn tr' token now := by
  obtain ⟨_, rfl, hlate⟩ := hext
  exact h.append fun e he => (hlate e he).idle

theorem lastListing_extend (hext : Extends Retried tr tr') : lastListing tr' = lastListing tr := by
  obtain ⟨newer, rfl, hnewer⟩ := hext
  induction newer with
  | nil => rfl
  | cons e _ ih =>
    have he := hnewer e (.head _)
    rw [← ih fun e' he' => hnewer e' (.tail _ he')]
    cases he with
    | get => rfl
    | conflict => rfl

theorem Observed.extend (h : Observed tr items now) (hext : Extends Retried tr tr') :
    Observed tr' items now := by
  obtain ⟨hlast, newer, older, rfl, hlisted⟩ := h
  refine ⟨(lastListing_extend hext).trans hlast, ?_⟩
  obtain ⟨late, rfl, -⟩ := hext
  exact ⟨late ++ newer, older, by simp, hlisted⟩

theorem UndispatchedFence.append {fence : Fence} {late : Tr} (h : UndispatchedFence tr ref fence)
    (hlate : ∀ e ∈ late, Harmless e) : UndispatchedFence (late ++ tr) ref fence := by
  obtain ⟨newer, o, u, older, now, rfl, ho, hdrawn, hat, hnewer⟩ := h
  exact ⟨late ++ newer, o, u, older, now, by simp, ho, hdrawn, hat,
    List.forall_mem_append.2 ⟨hlate, hnewer⟩⟩

theorem UndispatchedFence.extend {fence : Fence} (h : UndispatchedFence tr ref fence)
    (hext : Extends Retried tr tr') : UndispatchedFence tr' ref fence := by
  obtain ⟨_, rfl, hlate⟩ := hext
  exact h.append fun e he => .idle (hlate e he).idle

theorem RelationChange.extend {snapshot : Object} {values : RelationAnnotations}
    (h : RelationChange cfg tr ref snapshot values) (hext : Extends Retried tr tr') :
    RelationChange cfg tr' ref snapshot values := by
  have hlast := lastListing_extend hext
  cases h with
  | keep hi ho => exact .keep hi ho
  | issue hn ht hi ha hv ho => exact .issue hn (ht.extend hext) hi ha hv ho
  | observe hp hop ha hobs hc hv ho => exact .observe hp hop ha (hobs.extend hext) hc hv ho
  | sight hp hl hc hv ho => exact .sight hp (hlast.trans hl) hc hv ho
  | attached hp hop hl hc hv ho => exact .attached hp hop (hlast.trans hl) hc hv ho
  | detached hp hop ha hobs hc hd hv ho =>
    exact .detached hp hop ha (hobs.extend hext) hc hd hv ho
  | retired hp hl hc ht hi hd hv ho =>
    exact .retired hp (hlast.trans hl) hc (ht.mono hext.subset) hi hd hv ho
  | undispatched hu hp hs hv ho => exact .undispatched (hu.extend hext) hp hs hv ho

theorem ResetReason.extend (h : ResetReason tr vmUUID r) (hext : Extends Retried tr tr') :
    ResetReason tr' vmUUID r := by
  cases h with
  | staged hop hi => exact .staged hop hi
  | due hop hi hc hd => exact .due hop hi (hc.mono hext.subset) hd
  | @undispatched newer older o u _ hp htr ho hdrawn hat hnewer =>
    obtain ⟨late, rfl, hlate⟩ := hext
    have htr' : late ++ tr = (late ++ newer) ++ ⟨.update (.anchor vmUUID) o, .ok u⟩ :: older := by
      rw [htr, List.append_assoc]
    exact .undispatched hp htr' ho hdrawn hat <|
      List.forall_mem_append.2 ⟨fun e he => .idle (hlate e he).idle, hnewer⟩

theorem CommitReason.extend {uuid : String} (h : CommitReason cfg tr vmUUID r uuid)
    (hext : Extends Retried tr tr') : CommitReason cfg tr' vmUUID r uuid := by
  obtain ⟨items, f, hlast, h⟩ := h
  exact ⟨items, f, (lastListing_extend hext).trans hlast, h⟩

theorem VMGone.mono {networkUUID : String} (h : VMGone cfg tr networkUUID vmUUID)
    (hsub : tr ⊆ tr') : VMGone cfg tr' networkUUID vmUUID := by
  obtain ⟨got, items, network, members, hget, hgone, hlist, hrows, hnet, hmembers⟩ := h
  exact ⟨got, items, network, members, hsub hget, hgone, hsub hlist, hrows, hsub hnet, hmembers⟩

theorem LedgerReason.extend {applied : LedgerText} {next : VMLedger}
    (h : LedgerReason cfg tr vmUUID applied next) (hext : Extends Retried tr tr') :
    LedgerReason cfg tr' vmUUID applied next := by
  cases h with
  | readBack hm hd hl hf hh =>
    exact .readBack hm hd ((lastListing_extend hext).trans hl) hf hh
  | gone hg hb hw => exact .gone (hg.mono hext.subset) hb hw

theorem AbsentRead.append {anchor : Object} {n : ℤ} {late : Tr}
    (h : AbsentRead cfg tr vmUUID anchor now n) (hlate : ∀ e ∈ late, Passive e) :
    AbsentRead cfg (late ++ tr) vmUUID anchor now n := by
  obtain ⟨newer, items, before, rfl, hnewer, h⟩ := h
  exact ⟨late ++ newer, items, before, by simp, List.forall_mem_append.2 ⟨hlate, hnewer⟩, h⟩

theorem AbsentRead.extend {anchor : Object} {n : ℤ} (h : AbsentRead cfg tr vmUUID anchor now n)
    (hext : Extends Retried tr tr') : AbsentRead cfg tr' vmUUID anchor now n := by
  obtain ⟨_, rfl, hlate⟩ := hext
  exact h.append fun e he => .retried (hlate e he)

theorem Fresh.shown (h : Fresh tr ref o) : Shown tr ref o := by
  obtain ⟨_, _, _, rfl, rfl | ⟨vmUUID, o', href, rfl⟩, -⟩ := h
  · exact .inl (List.mem_append_right _ (.head _))
  · exact .inr ⟨vmUUID, o', href, List.mem_append_right _ (.head _)⟩

theorem Fresh.of_get : Fresh (⟨.read (.get ref), .ok (some o)⟩ :: tr) ref o :=
  ⟨[], _, tr, rfl, .inl rfl, fun q hq => by cases hq⟩

theorem Fresh.of_create {o' : Object} : Fresh (⟨.create vmUUID o', .ok o⟩ :: tr) (.anchor vmUUID) o :=
  ⟨[], _, tr, rfl, .inr ⟨vmUUID, o', rfl, rfl⟩, fun q hq => by cases hq⟩

theorem Fresh.read {q : Query} {answer : Answer q} (h : Fresh tr ref o)
    (hq : q ≠ .listFirewalls .deleteVMFirewall) : Fresh (⟨.read q, answer⟩ :: tr) ref o := by
  obtain ⟨mid, e, older, rfl, hshows, hmid⟩ := h
  exact ⟨⟨q, answer⟩ :: mid, e, older, rfl, hshows, List.forall_mem_cons.2 ⟨hq, hmid⟩⟩

end Grounds

/-! ### Reading code -/

section Reading

variable {cfg} {renames : Prop} {tr : Tr} {α β : Type}

variable {P : α → Trace Query Answer → Prop} {own : Trace Query Answer}

/-- Code that only reads leaves its own questions in the trace. -/
theorem reads_follows {x : Q α} (hx : Habit.free.FollowsE x [] P) :
    (receiptHabit cfg renames).FollowsE (reads x) tr fun a tr' =>
      ∃ own, P a own ∧ tr' = asOps own ++ tr :=
  Habit.FollowsE.embed_free (fun _ _ => rfl) (fun _ _ => trivial) hx

/-- Also if it fails. -/
theorem attempt_reads_follows {x : Q α} (hx : Habit.free.FollowsE x [] P) :
    (receiptHabit cfg renames).FollowsE (attempt (reads x)) tr fun r tr' =>
      ∃ own, (∀ a, r = .ok a → P a own) ∧ tr' = asOps own ++ tr :=
  Habit.FollowsE.attempt_embed_free (fun _ _ => rfl) (fun _ _ => trivial) hx

theorem reads_bind {x : Q α} {f : α → M β} {R : β → Tr → Prop} (hx : Habit.free.FollowsE x [] P)
    (hf : ∀ a own, P a own → (receiptHabit cfg renames).FollowsE (f a) (asOps own ++ tr) R) :
    (receiptHabit cfg renames).FollowsE (reads x >>= f) tr R := by
  refine (reads_follows hx).bind fun a tr' _ h => ?_
  obtain ⟨own, hP, rfl⟩ := h
  exact hf a own hP

theorem look_bind {q : Query} {f : Answer q → M β} {R : β → Tr → Prop}
    (hf : ∀ r, (receiptHabit cfg renames).FollowsE (f r) (⟨.read q, r⟩ :: tr) R) :
    (receiptHabit cfg renames).FollowsE (look q >>= f) tr R :=
  .perform_bind trivial fun r _ => hf r

theorem mem_asOps {q : Query} {r : Answer q} :
    (⟨.read q, r⟩ : Event Op Reply) ∈ asOps own ↔ (⟨q, r⟩ : Event Query Answer) ∈ own := by
  constructor
  · intro h
    obtain ⟨⟨_, _⟩, he, heq⟩ := List.mem_map.1 h
    injection heq with hq hr
    injection hq with hq
    subst hq
    obtain rfl := eq_of_heq hr
    exact he
  · intro h
    exact List.mem_map.2 ⟨_, h, rfl⟩

theorem asOps_read {e : Event Op Reply} (h : e ∈ asOps own) : ∃ q r, e = ⟨.read q, r⟩ := by
  obtain ⟨e', -, rfl⟩ := List.mem_map.1 h
  exact ⟨e'.op, e'.reply, rfl⟩

theorem asOps_append (own own' : Trace Query Answer) : asOps (own ++ own') = asOps own ++ asOps own' :=
  List.map_append

/-- Reading changes nothing. -/
theorem asOps_idle : ∀ e ∈ asOps own, Idle e := by
  intro e he
  obtain ⟨q, r, rfl⟩ := asOps_read he
  exact .read q r

theorem asOps_harmless : ∀ e ∈ asOps own, Harmless e :=
  fun e he => .idle (asOps_idle e he)

theorem lastListing_reads (h : ∀ e ∈ own, ∀ reader, e.op ≠ .listFirewalls reader) :
    lastListing (asOps own ++ tr) = lastListing tr := by
  induction own with
  | nil => rfl
  | cons e _ ih =>
    rw [← ih fun e' he' => h e' (.tail _ he')]
    have hne := h e (.head _)
    obtain ⟨op, r⟩ := e
    cases op with
    | listFirewalls reader => exact absurd rfl (hne reader)
    | _ => rfl

end Reading

/-! ### Writing an owner -/

section Writing

variable {cfg} {renames : Prop} {tr : Tr} {vmUUID : String}

variable {own : Trace Query Answer}

theorem getVMFirewallAnchor_reads :
    Habit.free.FollowsE (getVMFirewallAnchor cfg vmUUID) own fun r own' =>
      ∀ o, r = some o → own' = ⟨.get (.anchor vmUUID), .ok (some o)⟩ :: own := by
  unfold getVMFirewallAnchor
  refine .skip <| .skip <| .perform_bind trivial fun r _ => ?_
  rcases r with e | _ | o
  · exact .throw
  · exact .pure fun o h => by cases h
  · exact .skip <| .pure fun o' h => by cases h; rfl

theorem readOwner_reads {ref : Ref} : Habit.free.FollowsE (readOwner cfg ref) own fun o own' =>
      own' = ⟨.get ref, .ok (some o)⟩ :: own := by
  unfold readOwner
  split
  · refine getVMFirewallAnchor_reads.bind fun r own' _ h => ?_
    split
    · exact .throw
    · exact .pure (h _ rfl)
  · refine .perform_bind trivial fun r _ => ?_
    rcases r with e | _ | o
    · exact .throw
    · exact .throw
    · exact .pure rfl

theorem readOwner_follows {ref : Ref} :
    (receiptHabit cfg renames).FollowsE (reads (readOwner cfg ref)) tr fun o tr' =>
      tr' = ⟨.read (.get ref), .ok (some o)⟩ :: tr := by
  refine (reads_follows readOwner_reads).mono fun o tr' _ h => ?_
  obtain ⟨_, rfl, rfl⟩ := h
  rfl

theorem getVMFirewallAnchor_follows :
    (receiptHabit cfg renames).FollowsE (reads (getVMFirewallAnchor cfg vmUUID)) tr fun r tr' =>
      (∃ own, tr' = asOps own ++ tr) ∧
        ∀ o, r = some o → tr' = ⟨.read (.get (.anchor vmUUID)), .ok (some o)⟩ :: tr := by
  refine (reads_follows getVMFirewallAnchor_reads).mono fun r tr' _ h => ?_
  obtain ⟨own, hown, rfl⟩ := h
  refine ⟨⟨own, rfl⟩, fun o ho => ?_⟩
  rw [hown o ho]
  rfl

theorem readBackAnchor_reads {anchor next updated : Object} :
    Habit.free.FollowsE (readBackAnchor vmUUID anchor next updated) own fun r own' =>
      own' = ⟨.get (.anchor vmUUID), .ok (some r.1)⟩ :: own ∧ r.2 = true ∧ r.1.uid = anchor.uid ∧
        r.1.sameAnnotations next = true := by
  unfold readBackAnchor
  refine .perform_bind trivial fun r _ => ?_
  rcases r with _ | _ | _
  · exact .throw
  · exact .throw
  · refine .check_bind fun _ huid => .check_bind fun _ hsame => .pure ⟨rfl, rfl, ?_, ?_⟩
    · by_contra hne
      exact failIf_ok huid (.inl hne)
    · by_contra hne
      exact failIf_ok hsame (.inr hne)

/-- How a write of an anchor ends: with nothing to change, or with one update that
was acknowledged and read back. -/
structure Updated (vmUUID : String) (anchor : Object) (mutate : Mutation) (tr : Tr)
    (r : Object × Bool) (tr' : Tr) : Prop where
  shown : Shown tr' (.anchor vmUUID) r.1
  uid : r.1.uid = anchor.uid
  unchanged : r.2 = false → Extends Retried tr tr' ∧ mutate r.1 = .ok none
  changed : r.2 = true → ∃ mid base o u,
    tr' = ⟨.read (.get (.anchor vmUUID)), .ok (some r.1)⟩ :: ⟨.update (.anchor vmUUID) o, .ok u⟩ :: mid ∧
    Extends Retried tr mid ∧ Shown mid (.anchor vmUUID) base ∧ base.uid = anchor.uid ∧
    mutate base = .ok (some o) ∧ r.1.sameAnnotations o = true

/-- The end of a write whose update was acknowledged. -/
theorem readBack_follows {anchor base next updated : Object} {mutate : Mutation} {mid : Tr}
    (hext : Extends Retried tr mid) (hbase : Shown mid (.anchor vmUUID) base)
    (huid : base.uid = anchor.uid) (hm : mutate base = .ok (some next)) :
    (receiptHabit cfg renames).FollowsE (reads (readBackAnchor vmUUID anchor next updated))
      (⟨.update (.anchor vmUUID) next, .ok updated⟩ :: mid) (Updated vmUUID anchor mutate tr) := by
  refine (reads_follows readBackAnchor_reads).mono fun r tr' _ h => ?_
  obtain ⟨_, ⟨rfl, hch, hu, hsame⟩, rfl⟩ := h
  refine ⟨.of_get, hu, fun hno => ?_, fun _ => ?_⟩
  · rw [hch] at hno
    cases hno
  · exact ⟨mid, base, next, updated, rfl, hext, hbase, huid, hm, hsame⟩

/-- A write of an anchor, for every change the code may make of what it finds. -/
theorem updateVMFirewallAnchor_follows {anchor : Object} {mutate : Mutation}
    (hanchor : Shown tr (.anchor vmUUID) anchor)
    (hwrite : ∀ mid base o, Extends Retried tr mid → Shown mid (.anchor vmUUID) base →
      base.uid = anchor.uid → mutate base = .ok (some o) → Write cfg mid (.anchor vmUUID) o) :
    (receiptHabit cfg renames).FollowsE (updateVMFirewallAnchor cfg vmUUID anchor mutate) tr
      (Updated vmUUID anchor mutate tr) := by
  unfold updateVMFirewallAnchor
  refine .skip <| .check_bind fun result hm => ?_
  split
  · exact .pure ⟨hanchor, rfl, fun _ => ⟨.refl, hm⟩, nofun⟩
  · rename_i next
    refine .perform_bind (hwrite tr anchor next .refl hanchor rfl hm) fun written _ => ?_
    cases written with
    | failed => exact .throw
    | ok => exact readBack_follows .refl hanchor rfl hm
    | conflict e =>
      -- the owner is read again, and the change derived once more
      have hext : Extends Retried tr (⟨.update (.anchor vmUUID) next, .conflict e⟩ :: tr) :=
        Extends.refl.cons (.conflict _ _ _)
      unfold retryVMFirewallAnchor
      refine look_bind fun r => ?_
      rcases r with e | _ | fresh
      · exact .throw
      · exact .throw
      · have hext' := hext.cons (.get (.anchor vmUUID) (.ok (some fresh)))
        refine .check_bind fun _ huid => .check_bind fun result hm' => ?_
        have huid' : fresh.uid = anchor.uid := not_not.1 (failIf_ok huid)
        split
        · exact .pure ⟨.of_get, huid', fun _ => ⟨hext', hm'⟩, fun h => by cases h⟩
        · rename_i next'
          refine .perform_bind (hwrite _ fresh next' hext' .of_get huid' hm') fun written _ => ?_
          cases written with
          | failed => exact .throw
          | conflict => exact .throw
          | ok => exact readBack_follows hext' .of_get huid' hm'

end Writing

/-! ### The relation fence -/

/-- The annotations a detach goes on with. -/
def Ready.values : Ready → RelationAnnotations
  | .issue values _ _ => values
  | .wait values _ _ _ => values

section Relation

variable {cfg} {renames : Prop} {tr : Tr} {ref : Ref} {snapshot : Object}
  {values values' : RelationAnnotations} {items : List Firewall} {now : Time}

theorem mergedAs_of_ok {α : Type} [DecidableEq α] {key : String} {old want current new : α}
    (h : mergeAnnotation key old want current = .ok new) : MergedAs old want current new := by
  unfold mergeAnnotation at h
  split at h
  · rename_i hkeep
    cases h
    exact .inl ⟨hkeep, rfl⟩
  · split at h
    · rename_i hcur
      cases h
      exact .inr ⟨hcur, rfl⟩
    · cases h

variable {uid networkUUID : String} {own : Trace Query Answer} {desired issued : Fence}

theorem relationDiff_ok {cm o : Object}
    (h : relationDiff uid snapshot.relation values cm = .ok (some o)) :
    cm.uid = uid ∧ ∃ new, o = cm.withRelation new ∧
      Merged snapshot.relation values cm.relation new := by
  unfold relationDiff at h
  obtain ⟨_, huid, h⟩ := except_bind_ok h
  obtain ⟨_, hissued, h⟩ := except_bind_ok h
  obtain ⟨_, howner, h⟩ := except_bind_ok h
  obtain ⟨_, -, h⟩ := except_bind_ok h
  obtain ⟨_, -, h⟩ := except_bind_ok h
  split at h
  · cases h
  · cases h
    exact ⟨not_not.1 (failIf_ok huid), _, rfl, mergedAs_of_ok hissued, mergedAs_of_ok howner⟩

theorem relationDiff_none {cm : Object}
    (h : relationDiff uid snapshot.relation values cm = .ok none) : values = snapshot.relation := by
  unfold relationDiff at h
  obtain ⟨_, -, h⟩ := except_bind_ok h
  obtain ⟨_, -, h⟩ := except_bind_ok h
  obtain ⟨_, -, h⟩ := except_bind_ok h
  obtain ⟨_, -, h⟩ := except_bind_ok h
  obtain ⟨_, -, h⟩ := except_bind_ok h
  split at h
  · assumption
  · cases h

/-- What a commit leaves in the trace if it has changed the receipt. -/
def Committed (ref : Ref) (snapshot : Object) (values : RelationAnnotations) (tr tr' : Tr) : Prop :=
  values.issued ≠ snapshot.relation.issued → ∃ own o u mid,
    tr' = asOps own ++ ⟨.update ref o, .ok u⟩ :: mid ∧ Extends Retried tr mid ∧ o.uid = snapshot.uid ∧
    o.relation.issued = values.issued ∧
    (values.ownerUID ≠ snapshot.relation.ownerUID → o.relation.ownerUID = values.ownerUID)

theorem commitOwner_follows {kind : OwnerKind} {name : String}
    (hsnap : Shown tr (.owner kind name) snapshot)
    (hchange : RelationChange cfg tr (.owner kind name) snapshot values) :
    (receiptHabit cfg renames).FollowsE (commitOwner kind name snapshot values) tr fun _ tr' =>
      Committed (.owner kind name) snapshot values tr tr' := by
  unfold commitOwner
  have hwrite : Write cfg tr (.owner kind name) (snapshot.withRelation values) :=
    .relation hsnap hsnap rfl hchange ⟨.inr ⟨rfl, rfl⟩, .inr ⟨rfl, rfl⟩⟩
  refine .perform_bind hwrite fun written _ => ?_
  cases written with
  | conflict => exact .throw
  | failed => exact .throw
  | ok updated =>
    refine .skip <| look_bind fun r => ?_
    rcases r with e | _ | verified
    · exact .throw
    · exact .throw
    · refine .check fun _ _ _ => ?_
      exact ⟨[⟨.get (.owner kind name), .ok (some verified)⟩], snapshot.withRelation values, updated,
        tr, rfl, .refl, rfl, rfl, fun _ => rfl⟩

/-- A change with grounds is committed. -/
theorem commitRelation_follows (hsnap : Shown tr ref snapshot)
    (hchange : RelationChange cfg tr ref snapshot values) :
    (receiptHabit cfg renames).FollowsE (commitRelation cfg ref snapshot values) tr fun _ tr' =>
      Committed ref snapshot values tr tr' := by
  unfold commitRelation
  split
  · rename_i vmUUID
    refine (updateVMFirewallAnchor_follows hsnap fun mid base o hext hbase _ hm => ?_).bind
      fun r tr' _ h => .pure fun hne => ?_
    · obtain ⟨huid, _, rfl, hmerged⟩ := relationDiff_ok hm
      exact .relation (hsnap.mono hext.subset) hbase huid (hchange.extend hext) hmerged
    · cases hch : r.2 with
      | false =>
        have hsame := relationDiff_none (h.unchanged hch).2
        exact absurd (congrArg RelationAnnotations.issued hsame) hne
      | true =>
        obtain ⟨mid, _, _, u, rfl, hext, -, -, hm, -⟩ := h.changed hch
        obtain ⟨huid, _, rfl, ⟨hissued, howner⟩⟩ := relationDiff_ok hm
        refine ⟨[⟨.get (.anchor vmUUID), .ok (some r.1)⟩], _, u, mid, rfl, hext, huid, ?_, ?_⟩
        · rcases hissued with ⟨h, -⟩ | ⟨-, h⟩
          · exact absurd h hne
          · exact h
        · intro hne'
          rcases howner with ⟨h, -⟩ | ⟨-, h⟩
          · exact absurd h hne'
          · exact h
  · exact commitOwner_follows hsnap hchange

/-- The grounds are about the receipt only. -/
theorem RelationChange.congr (h : RelationChange cfg tr ref snapshot values)
    (hi : values'.issued = values.issued) (ho : values'.ownerUID = values.ownerUID) :
    RelationChange cfg tr ref snapshot values' := by
  cases h with
  | keep hv hown => exact .keep (hi.trans hv) (ho ▸ hown)
  | issue hn ht hat ha hv hown => exact .issue hn ht hat ha (hi.trans hv) (ho.trans hown)
  | observe hp hop ha hobs hc hv hown =>
    exact .observe hp hop ha hobs hc (hi.trans hv) (ho.trans hown)
  | sight hp hl hc hv hown => exact .sight hp hl hc (hi.trans hv) (ho.trans hown)
  | attached hp hop hl hc hv hown => exact .attached hp hop hl hc (hi.trans hv) (ho.trans hown)
  | detached hp hop ha hobs hc hd hv hown =>
    exact .detached hp hop ha hobs hc hd (hi.trans hv) (ho.trans hown)
  | retired hp hl hc ht hat hd hv hown =>
    exact .retired hp hl hc ht hat hd (hi.trans hv) (ho.trans hown)
  | undispatched hu hp hs hv hown => exact .undispatched hu hp hs (hi.trans hv) (ho.trans hown)

theorem storeRetirements_receipt (values : RelationAnnotations)
    (records : List (String × Retirement)) (now : Time) :
    (storeRetirements values records now).issued = values.issued ∧
      (storeRetirements values records now).ownerUID = values.ownerUID := by
  dsimp only [storeRetirements]
  split <;> exact ⟨rfl, rfl⟩

theorem recordRetirement_receipt (values : RelationAnnotations) (fence : Fence) (now : Time) :
    (recordRetirement values fence now).issued = values.issued ∧
      (recordRetirement values fence now).ownerUID = values.ownerUID :=
  storeRetirements_receipt _ _ _

theorem clearRetirement_receipt (values : RelationAnnotations) (key : String) (now : Time) :
    (clearRetirement values key now).1.issued = values.issued ∧
      (clearRetirement values key now).1.ownerUID = values.ownerUID := by
  dsimp only [clearRetirement]
  split
  · exact storeRetirements_receipt _ _ _
  · exact ⟨rfl, rfl⟩

/-- What an observation makes of the receipt has grounds. -/
theorem advance_change {fence : Fence} {converged : Bool} {advance : Advance}
    (hp : parseFence snapshot.relation.issued = .ok fence) (hobs : Observed tr items now)
    (hc : relationConverged fence items = .ok converged)
    (h : advanceObservation snapshot.relation fence converged now (absenceDelay cfg) = .ok advance)
    (hch : advance.changed = true) : RelationChange cfg tr ref snapshot advance.values := by
  have hlisted := hobs.1
  unfold advanceObservation at h
  split at h
  · -- an attach: the receipt goes once the relation is read back
    rename_i hop
    obtain ⟨_, -, h⟩ := except_bind_ok h
    split at h
    · rename_i hconv
      cases h
      subst hconv
      exact .attached hp hop hlisted hc rfl rfl
    · cases h
      cases hch
  · rename_i hop
    split at h
    · rename_i hconv
      subst hconv
      split at h
      · rename_i habs
        cases h
        exact .observe hp hop habs hobs hc rfl rfl
      · cases h
      · rename_i observedAt habs
        split at h
        · cases h
          cases hch
        · rename_i hdue
          cases h
          exact .detached hp hop habs hobs hc (not_lt.1 hdue) rfl rfl
    · rename_i hconv
      rw [Bool.not_eq_true] at hconv
      subst hconv
      split at h
      · cases h
        cases hch
      · cases h
        exact .sight hp hlisted hc rfl rfl

/-- What a pass has decided, with the grounds. -/
structure Decided (cfg : Config) (ref : Ref) (snapshot : Object) (items : List Firewall) (pass : Pass)
    (own : Trace Query Answer) : Prop where
  change : pass.changed = true → ∀ tr, lastListing tr = some items →
    RelationChange cfg (asOps own ++ tr) ref snapshot pass.values
  issued : ∀ fence, pass.outcome = .issued fence → pass.changed = true ∧
    pass.values.issued = .fence fence ∧ pass.values.ownerUID = snapshot.uid ∧
    snapshot.relation.issued = .none ∧ snapshot.relation.ownerUID = "" ∧
    ∃ now, (∀ tr, Drawn (asOps own ++ tr) fence.issueID now) ∧ fence.issuedAt = .at now

/-- Looks at the clock, nothing else. -/
def OnlyClock (own : Trace Query Answer) : Prop := ∀ e ∈ own, e.op = .now

theorem OnlyClock.cons (h : OnlyClock own) : OnlyClock (⟨.now, now⟩ :: own) :=
  List.forall_mem_cons.2 ⟨rfl, h⟩

theorem OnlyClock.lastListing_eq (h : OnlyClock own) :
    lastListing (asOps own ++ tr) = lastListing tr := by
  refine lastListing_reads fun e he reader hop => ?_
  rw [h e he] at hop
  cases hop

/-- The clock is read after the listing. -/
theorem OnlyClock.observed (h : OnlyClock own) (hnow : (⟨.now, now⟩ : Event Query Answer) ∈ own)
    (hl : lastListing tr = some items) : Observed (asOps own ++ tr) items now := by
  refine ⟨h.lastListing_eq.trans hl, ?_⟩
  obtain ⟨newer, older, rfl⟩ := List.append_of_mem hnow
  have hold : OnlyClock older := fun e he =>
    h e (List.mem_append_right _ (List.mem_cons_of_mem _ he))
  refine ⟨asOps newer, asOps older ++ tr, ?_, hold.lastListing_eq.trans hl⟩
  rw [asOps_append, List.append_assoc]
  rfl

theorem retireExisting_reads {fence : Fence} {issuedAt : Time}
    (hown : OnlyClock own) (hp : parseFence snapshot.relation.issued = .ok fence)
    (hc : relationConverged fence items = .ok false)
    (hnow : (⟨.now, now⟩ : Event Query Answer) ∈ own) (hat : fence.issuedAt = .at issuedAt)
    (hdue : issuedAt + retireDelay ≤ now) :
    Habit.free.FollowsE (retireExisting ref snapshot.relation fence) own
      (Decided cfg ref snapshot items) := by
  have hretired : ∀ own', OnlyClock own' → own ⊆ own' → ∀ tr, lastListing tr = some items →
      RelationChange cfg (asOps own' ++ tr) ref snapshot snapshot.relation.withoutReceipt :=
    fun own' hown' hsub tr hl => .retired hp (hown'.lastListing_eq.trans hl) hc
      (List.mem_append_left _ (mem_asOps.2 (hsub hnow))) hat hdue rfl rfl
  unfold retireExisting
  split
  · refine .perform_bind trivial fun later _ => .pure ⟨fun _ tr hl => ?_, nofun⟩
    have hkept := recordRetirement_receipt snapshot.relation.withoutReceipt fence later
    exact (hretired _ hown.cons (List.subset_cons_self _ _) tr hl).congr hkept.1 hkept.2
  · exact .pure ⟨fun _ tr hl => hretired own hown (List.Subset.refl _) tr hl, nofun⟩

theorem observeExisting_reads {fence : Fence} {converged : Bool}
    (hown : OnlyClock own) (hp : parseFence snapshot.relation.issued = .ok fence)
    (hc : relationConverged fence items = .ok converged) :
    Habit.free.FollowsE (observeExisting cfg snapshot.relation fence converged) own
      (Decided cfg ref snapshot items) := by
  unfold observeExisting
  refine .perform_bind trivial fun now _ => .check_bind fun advance ha => ?_
  have hchange : ∀ later, advance.changed = true → ∀ tr, lastListing tr = some items →
      RelationChange cfg (asOps (⟨.now, later⟩ :: ⟨.now, now⟩ :: own) ++ tr) ref snapshot
        advance.values := fun later hch tr hl =>
    advance_change hp (hown.cons.cons.observed (.tail _ (.head _)) hl) hc ha hch
  split
  · refine .perform_bind trivial fun later _ => .pure ⟨fun hch tr hl => ?_, nofun⟩
    have hkept := clearRetirement_receipt advance.values (relationKey fence) later
    exact (hchange later hch tr hl).congr hkept.1 hkept.2
  · exact .perform_bind trivial fun later _ => .pure ⟨hchange later, nofun⟩

theorem resolveExisting_reads : Habit.free.FollowsE (resolveExisting cfg ref snapshot items) []
      (Decided cfg ref snapshot items) := by
  have hnil : OnlyClock [] := fun e he => by cases he
  unfold resolveExisting
  refine .skip <| .check_bind fun fence hp => .check_bind fun converged hc => ?_
  split
  · rename_i hconv
    subst hconv
    exact observeExisting_reads hnil hp hc
  · rename_i hconv
    rw [Bool.not_eq_true] at hconv
    subst hconv
    refine .perform_bind trivial fun now _ => .check_bind fun due hdue => ?_
    split
    · rename_i hyes
      unfold retireDue at hdue
      split at hdue
      · rename_i issuedAt hat
        cases hdue
        exact retireExisting_reads hnil.cons hp hc (.head _) hat (of_decide_eq_true hyes)
      · cases hdue
    · exact observeExisting_reads hnil.cons hp hc

/-- A pass that leaves the receipt alone. -/
theorem Decided.keep {pass : Pass} (hi : pass.values.issued = snapshot.relation.issued)
    (ho : pass.values.ownerUID = snapshot.relation.ownerUID)
    (hout : ∀ fence, pass.outcome ≠ .issued fence) : Decided cfg ref snapshot items pass own :=
  ⟨fun _ _ _ => .keep hi (.inl ho), fun fence h => absurd h (hout fence)⟩

theorem settleConverged_reads : Habit.free.FollowsE (settleConverged snapshot.relation desired) own
      (Decided cfg ref snapshot items) := by
  unfold settleConverged
  refine .perform_bind trivial fun now _ => ?_
  have hkept := clearRetirement_receipt snapshot.relation.withoutAbsence (relationKey desired) now
  dsimp only
  split
  · exact .pure (.keep hkept.1 hkept.2 nofun)
  · exact .pure (.keep rfl rfl fun _ h => by cases h)

theorem checkParked_reads : Habit.free.FollowsE (checkParked ref values desired) own fun r _ =>
      r.1.issued = values.issued ∧ r.1.ownerUID = values.ownerUID := by
  unfold checkParked
  split
  · refine .perform_bind trivial fun now _ => ?_
    split
    · exact .pure ⟨rfl, rfl⟩
    · split
      · exact .pure ⟨rfl, rfl⟩
      · split
        · exact .throw
        · exact .pure (clearRetirement_receipt _ _ _)
  · exact .pure ⟨rfl, rfl⟩

theorem readyToUnassign_reads {changed : Bool} :
    Habit.free.FollowsE (readyToUnassign cfg networkUUID values changed desired) own fun r _ =>
      r.values.issued = values.issued ∧ r.values.ownerUID = values.ownerUID := by
  unfold readyToUnassign
  refine (Habit.free_followsE _ _).bind fun verdict _ _ _ => ?_
  dsimp only
  split
  · exact .pure ⟨rfl, rfl⟩
  · refine .skip <| .check_bind fun found _ => .perform_bind trivial fun now _ => ?_
    split
    · exact .pure ⟨rfl, rfl⟩
    · split <;> exact .pure ⟨rfl, rfl⟩

theorem issueRelation_reads {targetAbsentAt : Stamp} (hnone : snapshot.relation.issued = .none)
    (howner : snapshot.relation.ownerUID = "") (habs : desired.absenceObservedAt = .absent) :
    Habit.free.FollowsE (issueRelation snapshot.uid values desired targetAbsentAt) own
      (Decided cfg ref snapshot items) := by
  unfold issueRelation
  refine .perform_bind trivial fun token _ => .check_bind fun issueID htoken =>
    .perform_bind trivial fun now _ => .pure ?_
  subst htoken
  have hdrawn : ∀ tr, Drawn (asOps (⟨.now, now⟩ :: ⟨.token, .ok issueID⟩ :: own) ++ tr) issueID now :=
    fun tr => ⟨[], asOps own ++ tr, rfl, fun e he => by cases he⟩
  refine ⟨fun _ tr _ => ?_, fun fence hf => ?_⟩
  · exact @RelationChange.issue cfg _ ref snapshot _ { desired with
      issueID := issueID, issuedAt := .at now, targetAbsentAt := targetAbsentAt } now hnone (hdrawn tr)
      rfl habs rfl rfl
  · obtain rfl := Outcome.issued.inj hf
    exact ⟨rfl, rfl, rfl, hnone, howner, now, hdrawn, rfl⟩

theorem issueDesired_reads (hnone : snapshot.relation.issued = .none)
    (howner : snapshot.relation.ownerUID = "") (habs : desired.absenceObservedAt = .absent) :
    Habit.free.FollowsE (issueDesired cfg networkUUID ref snapshot items desired) own
      (Decided cfg ref snapshot items) := by
  unfold issueDesired
  split
  · refine (Habit.free_followsE _ _).bind fun _ _ _ _ => ?_
    refine checkParked_reads.bind fun parked _ _ _ => ?_
    exact issueRelation_reads hnone howner habs
  · refine checkParked_reads.bind fun parked _ _ hparked => ?_
    dsimp only
    refine readyToUnassign_reads.bind fun ready _ _ hready => ?_
    split
    · exact .pure (.keep (hready.1.trans hparked.1) (hready.2.trans hparked.2) nofun)
    · exact issueRelation_reads hnone howner habs

theorem planDesired_reads {desired : Option Fence} (hnone : snapshot.relation.issued = .none)
    (habs : ∀ fence, desired = some fence → fence.absenceObservedAt = .absent) :
    Habit.free.FollowsE (planDesired cfg networkUUID ref snapshot items desired) own
      (Decided cfg ref snapshot items) := by
  unfold planDesired
  refine .check_bind fun _ howner => ?_
  split
  · exact .pure (.keep rfl rfl fun _ h => by cases h)
  · refine .check_bind fun converged _ => ?_
    split
    · exact settleConverged_reads
    · exact issueDesired_reads hnone (not_not.1 (failIf_ok howner)) (habs _ rfl)

theorem decidePass_reads {desired : Option Fence}
    (habs : ∀ fence, desired = some fence → fence.absenceObservedAt = .absent) :
    Habit.free.FollowsE (decidePass cfg networkUUID ref snapshot items desired) []
      (Decided cfg ref snapshot items) := by
  unfold decidePass
  split
  · exact resolveExisting_reads
  · rename_i hnone
    exact planDesired_reads (not_not.1 hnone) habs

/-! ### From the stored fence to the call -/

/-- The last look at the owner still shows the receipt. -/
def StillIssued (cur : Object) (uid : String) (fence : Fence) : Prop :=
  cur.uid = uid ∧ cur.relation.ownerUID = uid ∧
    ∃ stored, parseFence cur.relation.issued = .ok stored ∧ sameIssue stored fence = true

theorem requireIssuedReceipt_reads :
    Habit.free.FollowsE (requireIssuedReceipt cfg ref uid issued) own fun _ own' =>
      ∃ cur, own' = ⟨.get ref, .ok (some cur)⟩ :: own ∧ StillIssued cur uid issued := by
  unfold requireIssuedReceipt
  refine (readOwner_reads.withErr _).bind fun owner own' _ h => .check_bind fun _ huid => ?_
  split
  · exact .throw
  · rename_i fence hfence
    refine .check fun _ hsame => ⟨owner, h, ?_⟩
    have hne := failIf_ok huid
    exact ⟨not_not.1 fun h => hne (.inl h), not_not.1 fun h => hne (.inr h), fence, hfence,
      not_not.1 (failIf_ok hsame)⟩

theorem requireFirewallVMCapacity_reads :
    Habit.free.FollowsE (requireFirewallVMCapacity cfg issued.firewallUUID issued.vmUUID) own
      fun _ own' => ∃ late, own' = late ++ own ∧ (∀ e ∈ late, ∀ r, e.op ≠ .get r) ∧
        RoomFor cfg late issued := by
  unfold requireFirewallVMCapacity
  refine .perform_bind trivial fun r _ => ?_
  cases r with
  | error => exact .throw
  | ok items =>
    dsimp only [firewallVMCapacityFromItems]
    split
    · rename_i hattached
      refine .pure ⟨[⟨.listFirewalls .capacity, .ok items⟩], rfl, ?_, items, .inl ⟨rfl, hattached⟩⟩
      rintro e he r
      obtain rfl := List.mem_singleton.1 he
      simp
    · refine .perform_bind trivial fun now _ => .perform_bind trivial fun recent _ =>
        .check fun _ hcap => ?_
      refine ⟨[⟨.recentFirewallAssignsFor issued.vmUUID now, recent⟩, ⟨.now, now⟩,
        ⟨.listFirewalls .capacity, .ok items⟩], rfl, ?_, items, .inr ⟨now, recent, rfl, hcap⟩⟩
      intro e he r
      simp only [List.mem_cons, List.not_mem_nil, or_false] at he
      rcases he with rfl | rfl | rfl <;> simp

theorem requireAttachCapacity_reads :
    Habit.free.FollowsE (requireAttachCapacity cfg issued) own fun _ own' =>
      ∃ late, own' = late ++ own ∧ (∀ e ∈ late, ∀ r, e.op ≠ .get r) ∧
        (issued.operation = .assign → RoomFor cfg late issued) := by
  unfold requireAttachCapacity
  split
  · refine requireFirewallVMCapacity_reads.mono fun _ own' _ h => ?_
    obtain ⟨late, hown, hlate, hroom⟩ := h
    exact ⟨late, hown, hlate, fun _ => hroom⟩
  · rename_i hop
    refine .pure ⟨[], rfl, ?_, fun h => ?_⟩
    · intro e he
      cases he
    · rw [hop] at h
      cases h

theorem authorizeIssued_reads :
    Habit.free.FollowsE (authorizeIssued cfg networkUUID ref uid items issued) [] fun _ own =>
      ∃ late cur early, own = late ++ ⟨.get ref, .ok (some cur)⟩ :: early ∧
        (∀ e ∈ late, ∀ r, e.op ≠ .get r) ∧ StillIssued cur uid issued ∧
        (issued.operation = .assign → RoomFor cfg late issued) := by
  unfold authorizeIssued
  refine .check_bind fun before _ => (Habit.free_followsE _ _).bind fun _ early _ _ => ?_
  refine requireIssuedReceipt_reads.bind fun _ own' _ h => ?_
  obtain ⟨cur, rfl, hcur⟩ := h
  refine requireAttachCapacity_reads.mono fun _ own'' _ h => ?_
  obtain ⟨late, rfl, hlate, hroom⟩ := h
  exact ⟨late, cur, early, rfl, hlate, hcur, hroom⟩

/-- A fence that was stored here and never sent may be cleared. -/
theorem clearFence_follows (hu : UndispatchedFence tr ref issued) :
    Keeps cfg renames (clearFence cfg ref uid issued) tr := by
  unfold clearFence
  refine readOwner_follows.bind fun current tr' _ h => .skip fun {_} => ?_
  subst h
  have hu' := hu.extend (Extends.refl.cons (.get ref (.ok (some current))))
  split
  · exact .throw
  · rename_i stored hstored
    refine .check_bind fun _ hsame => ?_
    refine (commitRelation_follows .of_get ?_).mono fun _ _ _ _ => trivial
    exact .undispatched hu' hstored (not_not.1 (failIf_ok hsame)) rfl rfl

theorem observeIssue_follows {expected : Fence} (hobs : Observed tr items now) :
    Keeps cfg renames (observeIssue cfg ref uid expected items now) tr := by
  unfold observeIssue
  refine (Habit.FollowsE.withErr readOwner_follows _).bind fun current tr' _ h => ?_
  subst h
  have hobs' := hobs.extend (Extends.refl.cons (.get ref (.ok (some current))))
  refine .skip <| .check_bind fun stored hp => .skip <|
    .check_bind fun converged hc => .check_bind fun advance ha => ?_
  split
  · rename_i hch
    refine (Habit.FollowsE.withErr (commitRelation_follows .of_get ?_) _).done
    exact advance_change hp hobs' hc ha hch
  · exact .pure trivial

theorem rejectUndispatched_follows {α : Type} {R : α → Tr → Prop}
    {cause : Err} (hu : UndispatchedFence tr ref issued) :
    (receiptHabit cfg renames).FollowsE (rejectUndispatched cfg ref uid issued cause : M α) tr R := by
  unfold rejectUndispatched
  refine (Habit.FollowsE.attempt (clearFence_follows hu)).bind fun r _ _ _ => ?_
  split
  · exact .throw
  · split <;> exact .throw

theorem orReject_follows {α : Type} {x : Q α} {P : α → Trace Query Answer → Prop} (hu : UndispatchedFence tr ref issued) (hx : Habit.free.FollowsE x [] P) :
    (receiptHabit cfg renames).FollowsE (orReject cfg ref uid issued x) tr fun a tr' =>
      ∃ own, P a own ∧ tr' = asOps own ++ tr := by
  unfold orReject
  refine (attempt_reads_follows hx).bind fun r tr' _ h => ?_
  obtain ⟨own, hown, rfl⟩ := h
  cases r with
  | ok a => exact .pure ⟨own, hown a rfl, rfl⟩
  | error => exact rejectUndispatched_follows (hu.append asOps_harmless)

theorem observeFailedCall_follows {mutationErr : Err}
    (hu : mutationKnownPreDispatch mutationErr = true → UndispatchedFence tr ref issued) :
    Keeps cfg renames (observeFailedCall cfg ref uid issued mutationErr) tr := by
  unfold observeFailedCall
  split
  · rename_i hpre
    refine (Habit.FollowsE.attempt (clearFence_follows (hu hpre))).bind fun r _ _ _ => ?_
    split <;> exact .throw
  · refine look_bind fun r => ?_
    cases r with
    | error => exact .throw
    | ok items =>
      refine look_bind fun now => ?_
      have hobs : Observed (⟨.read .now, now⟩ ::
          ⟨.read (.listFirewalls .relationReadback), .ok items⟩ :: tr) items now :=
        ⟨rfl, [], _, rfl, rfl⟩
      refine (Habit.FollowsE.attempt (observeIssue_follows hobs)).bind fun r _ _ _ => ?_
      split
      · exact .throw
      · exact .pure trivial
      · exact .throw

/-- The trace right after a fence was stored here. -/
structure JustIssued (tr : Tr) (ref : Ref) (uid : String) (fence : Fence) (own : Trace Query Answer)
    (o u : Object) (older : Tr) (now : Time) : Prop where
  trace : tr = asOps own ++ ⟨.update ref o, .ok u⟩ :: older
  holds : o.relation.issued = .fence fence
  uid_eq : o.uid = uid
  owner_eq : o.relation.ownerUID = uid
  drawn : Drawn older fence.issueID now
  issuedAt : fence.issuedAt = .at now

theorem JustIssued.undispatched {fence : Fence} {o u : Object} {older : Tr}
    (h : JustIssued tr ref uid fence own o u older now) : UndispatchedFence tr ref fence :=
  ⟨asOps own, o, u, older, now, h.trace, h.holds, h.drawn, h.issuedAt, asOps_harmless⟩

theorem noteAcknowledged_follows :
    Keeps cfg renames (noteAcknowledged issued) (⟨.relate ref issued, .ok ()⟩ :: tr) := by
  unfold noteAcknowledged
  split
  next hop =>
    exact look_bind fun now => Habit.FollowsE.mono
      (.perform ⟨ref, issued, tr, rfl, hop, rfl, rfl⟩) fun _ _ _ _ => trivial
  · exact Habit.FollowsE.mono (.perform trivial) fun _ _ _ _ => trivial

/-- A fence that was just stored here is sent after all checks, and only then. -/
theorem dispatchIssued_follows {readback : M Bool} {o u : Object} {older : Tr}
    (hj : JustIssued tr ref uid issued own o u older now)
    (hreadback : ∀ tr, Keeps cfg renames readback tr) :
    Keeps cfg renames (dispatchIssued cfg networkUUID ref uid items issued readback) tr := by
  unfold dispatchIssued
  refine (orReject_follows hj.undispatched authorizeIssued_reads).bind fun _ tr' _ h => ?_
  obtain ⟨_, ⟨late, cur, early, rfl, hlate, ⟨hcur, howner, stored, hstored, hsame⟩, hroom⟩, rfl⟩ := h
  have hready : RelateReady cfg (asOps (late ++ ⟨.get ref, .ok (some cur)⟩ :: early) ++ tr) ref issued := by
    refine ⟨late, cur, early ++ own, o, u, older, stored, now, ?_, hlate, hj.holds, ?_, ?_, ?_,
      hstored, hsame, hj.drawn, hj.issuedAt, hroom⟩
    · rw [hj.trace, asOps_append, asOps_append, List.append_assoc]
      simp [asOps, Habit.embedTrace]
    · rw [hj.owner_eq, hj.uid_eq]
    · rw [hcur, hj.uid_eq]
    · rw [howner, hj.uid_eq]
  refine .perform_bind hready fun r _ => ?_
  cases r with
  | error e =>
    refine observeFailedCall_follows fun hpre => ?_
    have hone : ∀ e' ∈ ([⟨.relate ref issued, .error e⟩] : Tr), Harmless e' := fun e' he' => by
      obtain rfl := List.mem_singleton.1 he'
      exact .relate ref issued e hpre
    exact (hj.undispatched.append asOps_harmless).append hone
  | ok =>
    refine noteAcknowledged_follows.bind fun _ tr' _ _ => ?_
    exact (hreadback tr').done

theorem bindLegacyReceipt_follows (hsnap : Shown tr ref snapshot) :
    Keeps cfg renames (bindLegacyReceipt cfg ref snapshot) tr := by
  unfold bindLegacyReceipt
  have hchange : RelationChange cfg tr ref snapshot { snapshot.relation with ownerUID := snapshot.uid } :=
    .keep rfl (.inr rfl)
  refine .skip ?_
  exact (Habit.FollowsE.withErr (commitRelation_follows hsnap hchange) _).done

theorem commitPass_follows {pass : Pass} (hsnap : Shown tr ref snapshot)
    (hchange : pass.changed = true → RelationChange cfg tr ref snapshot pass.values) :
    (receiptHabit cfg renames).FollowsE (commitPass cfg ref snapshot pass) tr fun _ tr' =>
      pass.changed = true → Committed ref snapshot pass.values tr tr' := by
  unfold commitPass
  split
  · rename_i hch
    exact (Habit.FollowsE.withErr (commitRelation_follows hsnap (hchange hch)) _).mono
      fun _ _ _ h _ => h
  · rename_i hch
    exact .pure fun h => absurd h hch

/-- The whole pass, by induction on how often it may call itself. -/
theorem reconcileRelation_follows {desired : Option Fence} (rounds : ℕ)
    (habs : ∀ fence, desired = some fence → fence.absenceObservedAt = .absent) :
    Keeps cfg renames (reconcileRelation cfg networkUUID ref rounds desired) tr := by
  induction rounds generalizing tr desired with
  | zero => exact .outOfRounds
  | succ rounds ih =>
    have hnone : ∀ tr, Keeps cfg renames (reconcileRelation cfg networkUUID ref rounds none) tr :=
      fun tr => ih nofun
    unfold reconcileRelation
    refine (Habit.FollowsE.withErr readOwner_follows _).bind fun snap tr' _ h => ?_
    subst h
    refine .check_bind fun _ huid => ?_
    split
    · exact bindLegacyReceipt_follows .of_get
    · refine look_bind fun r => .check_bind fun items hitems => ?_
      obtain rfl : r = .ok items := by
        cases r with
        | ok => cases hitems; rfl
        | error => cases hitems
      refine reads_bind (decidePass_reads habs) fun pass own hdec => ?_
      have hsnap : Shown (asOps own ++ (⟨.read (.listFirewalls .relation), .ok items⟩ ::
          ⟨.read (.get ref), .ok (some snap)⟩ :: tr)) ref snap :=
        Shown.mono .of_get (List.subset_append_of_subset_right _ (List.subset_cons_self _ _))
      refine (commitPass_follows hsnap fun hch => hdec.change hch _ rfl).bind
        fun _ tr' _ hcommit => ?_
      split
      · exact hnone tr'
      · split
        · exact ih habs
        · unfold endPass
          split
          · exact (reads_follows (Habit.free_followsE _ _)).mono fun _ _ _ _ => trivial
          · exact .throw
          · exact .throw
          · exact .pure trivial
          · rename_i fence hout
            obtain ⟨hch, hvals, howner, hno, hnoOwner, _, hdrawn, hat⟩ := hdec.issued fence hout
            have hne : pass.values.issued ≠ snap.relation.issued := by
              rw [hvals, hno]
              exact nofun
            have hne' : pass.values.ownerUID ≠ snap.relation.ownerUID := by
              rw [howner, hnoOwner]
              exact failIf_ok huid
            obtain ⟨_, _, _, _, htr', hext, hu, hissued, hown⟩ := hcommit hch hne
            exact dispatchIssued_follows ⟨htr', hissued.trans hvals, hu,
              (hown hne').trans howner, (hdrawn _).extend hext, hat⟩ hnone

end Relation

end InSpaceKube.NodeLB.Receipts
