/-
InSpaceKube/NodeLB/RelationOnce.lean

Attach and detach under a relation fence, by any number of controllers.

Four things hold of every run.  A request goes out by whoever stored its fence,
after one more look at the owner that still showed it.  An issue id goes out at
most once.  Nobody changes a fence they have not read.  And a detach is taken
for done only after two absences, far enough apart, the first of them stored on
the owner and never taken back since.

The first two are about traces (`RelateReady`, `not_sent_before`).  The others
are about the versions of an owner: each was made from the one before it, so what
a change starts from is what it replaces.  The history of an absence is read off
the versions, by induction from the newest back to the one that stored it
(`absence_history`).
-/
import InSpaceKube.NodeLB.ReceiptSystem

namespace InSpaceKube.NodeLB.Receipts

open Prog

/-! ### What is said of a run -/

/-- The request goes out by whoever stored its fence, after one more look at the
owner that still showed the id, under the UID of the owner. -/
def SentByIssuer (tr : Tr) (ref : Ref) (fence : Fence) : Prop :=
  ∃ late cur mid o u early stored,
    tr = late ++ ⟨.read (.get ref), .ok (some cur)⟩ :: mid ++ ⟨.update ref o, .ok u⟩ :: early ∧
    o.relation.issued = .fence fence ∧ cur.uid = o.uid ∧ cur.relation.ownerUID = o.uid ∧
    cur.relation.issued = .fence stored ∧ stored.issueID = fence.issueID

/-- The last listing is as the fence asks for, which for a detach means that the
relation is not there; the clock was read after it. -/
def SawDone (tr : Tr) (f : Fence) (now : Time) : Prop :=
  ∃ items, Observed tr items now ∧ relationConverged f items = .ok true

/-- In the versions of an owner, newest first: the absence that the fence records
was stored by somebody who had seen it, and has stood there since. -/
def AbsenceStored (served : List (Tid × Event Op Reply)) (ref : Ref) (f : Fence) (observedAt : Time)
    (versions : List Object) : Prop :=
  ∃ since first before rest t tr o n, versions = since ++ first :: before :: rest ∧
    (∀ x ∈ since, x.relation.issued = .fence f) ∧ first.relation.issued = .fence f ∧
    before.relation.issued ≠ .fence f ∧ Asked served t tr ref o ∧ first = { o with version := n } ∧
    SawDone tr f observedAt

/-- Why a detach ends, for whoever takes the fence off knowing `tr`. -/
inductive DetachEnds (cfg : Config) (served : List (Tid × Event Op Reply)) (ref : Ref) (tr : Tr)
    (f : Fence) (versions : List Object) : Prop
  /-- It is done: seen twice. -/
  | completed {observedAt now : Time} : f.absenceObservedAt = .at observedAt →
      AbsenceStored served ref f observedAt versions → SawDone tr f now →
      observedAt + absenceDelay cfg ≤ now → DetachEnds cfg served ref tr f versions
  /-- The relation is still there, and the request is past its time. -/
  | retired {g : Fence} {items : List Firewall} {issuedAt now : Time} :
      parseFence (.fence f) = .ok g → lastListing tr = some items →
      relationConverged g items = .ok false → f.issuedAt = .at issuedAt → Clocked tr now →
      issuedAt + retireDelay ≤ now → DetachEnds cfg served ref tr f versions
  /-- The request never went out. -/
  | undispatched {fence : Fence} : UndispatchedFence tr ref fence → fence.issueID = f.issueID →
      DetachEnds cfg served ref tr f versions

/-! ### Requests -/

section Requests

variable {cfg : Config} {renames : Prop} {tr : Tr} {ref : Ref} {fence stored : Fence}
  {served : List (Tid × Event Op Reply)}

theorem sameIssue_id (h : sameIssue stored fence = true) : stored.issueID = fence.issueID := by
  simp only [sameIssue, Bool.and_eq_true, beq_iff_eq] at h
  exact h.1.1.2

theorem RelateReady.sentByIssuer (h : RelateReady cfg tr ref fence) : SentByIssuer tr ref fence := by
  obtain ⟨late, cur, early, o, u, older, stored, now, htr, -, hholds, -, huid, howner, hparsed, hsame,
    -, -, -⟩ := h
  obtain ⟨f, hissued, hstored⟩ := parseFence_ok hparsed
  have hid : f.issueID = fence.issueID := by
    have hsame := sameIssue_id hsame
    rwa [hstored] at hsame
  exact ⟨asOps late, cur, asOps early, o, u, older, f, htr, hholds, huid, howner, hissued, hid⟩

/-- Every id goes out at most once, by induction on the record. -/
theorem sent_once (hnodup : (drawnTokens served).Nodup)
    (hobeys : ∀ t, (receiptHabit cfg renames).Obeys (ownTrace t served)) (id : String) :
    (served.filter fun p => decide (issueOf p.2.op = some id)).length ≤ 1 := by
  induction served with
  | nil => exact Nat.zero_le 1
  | cons p rest ih =>
    obtain ⟨t, e⟩ := p
    have hrest : ∀ u, (receiptHabit cfg renames).Obeys (ownTrace u rest) := by
      intro u
      have hu := hobeys u
      rcases eq_or_ne u t with rfl | hne
      · rw [ownTrace_cons_self] at hu
        exact hu.2.2
      · rwa [ownTrace_cons_ne hne] at hu
    have hrestTokens : (drawnTokens rest).Nodup :=
      hnodup.sublist ((List.sublist_cons_self _ rest).filterMap _)
    by_cases hid : issueOf e.op = some id
    · -- the rest has none: whoever sent under this id has drawn it, so it was this thread
      have hnone : (rest.filter fun p => decide (issueOf p.2.op = some id)) = [] := by
        refine List.filter_eq_nil_iff.2 fun q hq hsent => ?_
        obtain ⟨u, e'⟩ := q
        have hsent' : issueOf e'.op = some id := of_decide_eq_true hsent
        have hmem : e' ∈ ownTrace u rest := mem_ownTrace.2 hq
        obtain ⟨_, _, hsplit, hok'⟩ := (hrest u).ok_of_mem hmem
        have htoken' : (⟨.read .token, .ok id⟩ : Event Op Reply) ∈ ownTrace u rest := by
          rw [hsplit]
          exact List.mem_append_right _ (.tail _ (token_of_ok hok' hsent'))
        have hself : ownTrace t ((t, e) :: rest) = [] ++ e :: ownTrace t rest := ownTrace_cons_self
        have hok : (receiptHabit cfg renames).ok (ownTrace t rest) e.op := by
          have ht := hobeys t
          rw [ownTrace_cons_self] at ht
          exact ht.1
        obtain rfl := token_owner hrestTokens (token_of_ok hok hid) htoken'
        exact not_sent_before hnodup (hobeys t) hself hid e' hmem hsent'
      rw [List.filter_cons_of_pos (by simpa using hid), hnone]
      exact le_rfl
    · rw [List.filter_cons_of_neg (by simpa using hid)]
      exact ih hrestTokens hrest

end Requests

/-! ### The versions of an owner -/

section Versions

variable {cfg : Config} {s : State} {ref : Ref} {old new : Object} {newer older : List Object}
  {f : Fence}

theorem Inv.stored (hi : Inv cfg s) (hlog : (s.store ref).log = newer ++ new :: old :: older) :
    Stored cfg s.served ref old new := by
  have hchain := hi.chain ref
  rw [hlog] at hchain
  exact (List.isChain_cons_cons.1 hchain.right_of_append).1

/-- How a version with another fence text comes about. -/
structure FenceChanged (cfg : Config) (served : List (Tid × Event Op Reply)) (ref : Ref)
    (old new : Object) (t : Tid) (tr : Tr) (o : Object) (n : ℕ) (snapshot : Object)
    (values : RelationAnnotations) : Prop where
  asked : Asked served t tr ref o
  stored : new = { o with version := n }
  shown : Shown tr ref snapshot
  uid : old.uid = snapshot.uid
  change : RelationChange cfg tr ref snapshot values
  before : old.relation.issued = snapshot.relation.issued
  after : new.relation.issued = values.issued

theorem Stored.fenceChanged (h : Stored cfg s.served ref old new) (huid : new.uid = old.uid)
    (hne : new.relation.issued ≠ old.relation.issued) :
    ∃ t tr o n snapshot values, FenceChanged cfg s.served ref old new t tr o n snapshot values := by
  cases h with
  | edited hnew => exact absurd (by rw [hnew]; rfl) hne
  | created _ hfresh => exact absurd huid hfresh
  | @written t tr _ n hasked hwrite hnew =>
    cases hwrite with
    | @relation _ snapshot values _ hshown hsame hchange hmerged =>
      refine ⟨t, tr, _, n, snapshot, values, hasked, hnew, hshown, hsame, hchange, ?_, ?_⟩
      all_goals rcases hmerged.1 with ⟨-, heq⟩ | ⟨hbefore, heq⟩
      · exact absurd (by rw [hnew]; exact heq) hne
      · exact hbefore
      · exact absurd (by rw [hnew]; exact heq) hne
      · rw [hnew]
        exact heq
    | anchor hchange => exact absurd (by rw [hnew]; exact congrArg _ hchange.framed.relation) hne

/-- An absence on a fence has a history, back to whoever has seen it; and the
fence was stored with its UUIDs in lower case. -/
theorem absence_history {observedAt : Time} (hi : Inv cfg s) (hf : old.relation.issued = .fence f)
    (hat : f.absenceObservedAt = .at observedAt) (hlog : (s.store ref).log = newer ++ old :: older) :
    AbsenceStored s.served ref f observedAt (old :: older) ∧ toLower f.firewallUUID = f.firewallUUID ∧
      toLower f.vmUUID = f.vmUUID := by
  induction older generalizing old newer with
  | nil =>
    -- the oldest version has no absence
    have hlast : (s.store ref).log.getLast? = some old := by rw [hlog]; simp
    rw [hi.first ref old hlast f hf] at hat
    cases hat
  | cons before rest ih =>
    have hlog' : (s.store ref).log = (newer ++ [old]) ++ before :: rest := by rw [hlog]; simp
    by_cases hsame : before.relation.issued = .fence f
    · obtain ⟨⟨since, first, before', rest', t, tr, o, n, hversions, hsince, hfirst⟩, hlower⟩ :=
        ih hsame hlog'
      exact ⟨⟨old :: since, first, before', rest', t, tr, o, n, by rw [hversions]; rfl,
        List.forall_mem_cons.2 ⟨hf, hsince⟩, hfirst⟩, hlower⟩
    · have hstored := hi.stored hlog
      have huid : old.uid = before.uid := by
        cases hstored with
        | written _ hwrite hnew => rw [hnew]; exact hwrite.uid
        | edited hnew => rw [hnew]; rfl
        | created hclean => rw [hclean.issued] at hf; cases hf
      have hne : old.relation.issued ≠ before.relation.issued := by
        rw [hf]
        exact fun h => hsame h.symm
      obtain ⟨t, tr, o, n, _, values, hc⟩ := hstored.fenceChanged huid hne
      have hvalues : values.issued = .fence f := hc.after.symm.trans hf
      obtain ⟨hasked, hnew, -, -, hchange, hbefore, hafter⟩ := hc
      cases hchange with
      | keep hv => exact absurd (hafter.trans (hv.trans hbefore.symm)) hne
      | issue _ _ _ habs hv =>
        obtain rfl := FenceText.fence.inj (hv.symm.trans hvalues)
        rw [habs] at hat
        cases hat
      | sight _ _ _ hv =>
        obtain rfl := FenceText.fence.inj (hv.symm.trans hvalues)
        cases hat
      | observe hp _ _ hobs hconv hv =>
        obtain ⟨g, -, rfl⟩ := parseFence_ok hp
        obtain rfl := FenceText.fence.inj (hv.symm.trans hvalues)
        obtain rfl := Stamp.at.inj hat
        exact ⟨⟨[], old, before, rest, t, tr, o, n, rfl, List.forall_mem_nil _, hf, hsame, hasked,
          hnew, _, hobs, hconv⟩, toLower_toLower _, toLower_toLower _⟩
      | attached _ _ _ _ hv => rw [hv] at hvalues; cases hvalues
      | detached _ _ _ _ _ _ hv => rw [hv] at hvalues; cases hvalues
      | retired _ _ _ _ _ _ hv => rw [hv] at hvalues; cases hvalues
      | undispatched _ _ _ hv => rw [hv] at hvalues; cases hvalues

/-- What becomes of a fence: it keeps its id, or it is taken off, and a detach
only for one of the three reasons. -/
theorem fence_changes (hi : Inv cfg s) (hlog : (s.store ref).log = newer ++ new :: old :: older)
    (huid : new.uid = old.uid) (hf : old.relation.issued = .fence f)
    (hne : new.relation.issued ≠ .fence f) :
    ∃ t tr o n snapshot, Asked s.served t tr ref o ∧ new = { o with version := n } ∧
      Shown tr ref snapshot ∧ snapshot.uid = old.uid ∧ snapshot.relation.issued = .fence f ∧
      ((∃ f', new.relation.issued = .fence f' ∧ f'.issueID = f.issueID) ∨
        new.relation.issued = .none ∧
          (f.operation = .unassign → DetachEnds cfg s.served ref tr f (old :: older))) := by
  obtain ⟨t, tr, o, n, snapshot, _, hc⟩ :=
    (hi.stored hlog).fenceChanged huid (by rw [hf]; exact hne)
  have hsnap : snapshot.relation.issued = .fence f := hc.before.symm.trans hf
  refine ⟨t, tr, o, n, snapshot, hc.asked, hc.stored, hc.shown, hc.uid.symm, hsnap, ?_⟩
  obtain ⟨-, -, -, -, hchange, -, hafter⟩ := hc
  have hparsed : ∀ g, parseFence snapshot.relation.issued = .ok g →
      g = { f with firewallUUID := toLower f.firewallUUID, vmUUID := toLower f.vmUUID } := by
    intro g hp
    obtain ⟨_, hf', rfl⟩ := parseFence_ok hp
    obtain rfl := FenceText.fence.inj (hf'.symm.trans hsnap)
    rfl
  cases hchange with
  | keep hv => exact absurd (hafter.trans (hv.trans hsnap)) hne
  | issue hnone => rw [hsnap] at hnone; cases hnone
  | observe hp _ _ _ _ hv =>
    obtain rfl := hparsed _ hp
    exact .inl ⟨_, hafter.trans hv, rfl⟩
  | sight hp _ _ hv =>
    obtain rfl := hparsed _ hp
    exact .inl ⟨_, hafter.trans hv, rfl⟩
  | attached hp hop _ _ hv =>
    obtain rfl := hparsed _ hp
    refine .inr ⟨hafter.trans hv, fun hunassign => ?_⟩
    rw [show f.operation = .assign from hop] at hunassign
    cases hunassign
  | detached hp _ habs hobs hconv hdue hv =>
    obtain rfl := hparsed _ hp
    refine .inr ⟨hafter.trans hv, fun _ => ?_⟩
    have hlog' : (s.store ref).log = (newer ++ [new]) ++ old :: older := by rw [hlog]; simp
    obtain ⟨hstored, hlower, hlower'⟩ := absence_history hi hf habs hlog'
    rw [hlower, hlower'] at hconv
    exact .completed habs hstored ⟨_, hobs, hconv⟩ hdue
  | retired hp hlast hconv hnow hat hdue hv =>
    refine .inr ⟨hafter.trans hv, fun _ => ?_⟩
    have hat' := hat
    rw [hparsed _ hp] at hat'
    rw [hsnap] at hp
    exact .retired hp hlast hconv hat' hnow hdue
  | undispatched hundispatched hp hsame hv =>
    refine .inr ⟨hafter.trans hv, fun _ => ?_⟩
    rw [hparsed _ hp] at hsame
    exact .undispatched hundispatched (sameIssue_id hsame).symm

end Versions

/-! ### Every run -/

/-- **Relation fences, in every run of any number of controllers.**  A request
goes out by whoever stored its fence, after one more look; an id goes out at most
once; a fence is changed only by somebody who has read it, and stays under its
id until it is taken off; and a detach is taken off as done only after two
absences. -/
theorem relation_receipts (cfg : Config)
    {c : InSpaceKube.Config State Op Reply (Except Err Unit)}
    (h : Reachable sem (Calls cfg) Initial c) :
    (∀ newer older t ref fence r,
      c.shared.served = newer ++ (t, ⟨.relate ref fence, r⟩) :: older →
      SentByIssuer (ownTrace t older) ref fence) ∧
    (∀ id, (c.shared.served.filter fun p => decide (issueOf p.2.op = some id)).length ≤ 1) ∧
    (∀ ref newer new old older f, (c.shared.store ref).log = newer ++ new :: old :: older →
      new.uid = old.uid → old.relation.issued = .fence f → new.relation.issued ≠ .fence f →
      ∃ t tr o n snapshot, Asked c.shared.served t tr ref o ∧ new = { o with version := n } ∧
        Shown tr ref snapshot ∧ snapshot.uid = old.uid ∧ snapshot.relation.issued = .fence f ∧
        ((∃ f', new.relation.issued = .fence f' ∧ f'.issueID = f.issueID) ∨
          new.relation.issued = .none ∧
            (f.operation = .unassign → DetachEnds cfg c.shared.served ref tr f (old :: older)))) := by
  have hkept := kept h
  refine ⟨fun newer older t ref fence r hserved => ?_, sent_once hkept.inv.tokens hkept.obeys,
    fun ref newer new old older f => fence_changes hkept.inv⟩
  have hobeys := hkept.obeys t
  rw [hserved, ownTrace_append, ownTrace_cons_self] at hobeys
  exact RelateReady.sentByIssuer hobeys.ok_of_append

/-! ### A detach

The Service `web` detaches its firewall from a VM.  One pass issues the request
and sends it, the next finds the relation absent, and a third, half a minute
later, takes the receipt off. -/

section Detach

def webConfig : Config where
  location := "bkk"
  perVMMode := true
  clusterID := "prod"
  billingAccountID := 1
  controllerNamespace := "kube-system"
  vmFirewallSettle := 0
  firewallRelationAbsentDelay := -1
  maxFirewallsPerVM := 3
  shortHash _ := ""
  policyHash _ := ""

def webFirewall : String := "f0000000-0000-4000-8000-000000000001"

def webVM : String := "a0000000-0000-4000-8000-000000000001"

def webNetwork : String := "b0000000-0000-4000-8000-000000000001"

def webToken : String := "00000000000000000000000000000001"

def webService : Ref := .owner .service "web"

/-- The Service, without a receipt. -/
def webObject : Object := { emptyAnchor "" with version := 1, uid := "web-uid", finalizer := false }

def webStart : State := .single webService webObject

/-- The cloud lists the firewall, attached to the given VMs; everybody agrees. -/
def webOutside (vms : List String) : Outside where
  answer q := match q with
    | .listFirewalls _ =>
      .ok [⟨webFirewall, "web", "", "", 1, [], some (vms.map fun vm => ⟨"vm", vm⟩)⟩]
    | .getVM vmUUID => .ok (some ⟨vmUUID, "running", 1, webNetwork⟩)
    | .listVMs => .ok [⟨webVM, "running", 1, webNetwork⟩]
    | .getNetwork => .ok (some ⟨webNetwork, some [webVM]⟩)
    | .get _ => .ok none
    | .token => .ok webToken
    | .recentFirewallAssignsFor _ _ => []
    | .liveSources _ => .ok []
    | .authorizeOwner _ _ _ | .authorizeNode _ | .authorizeDelta _ _ _ | .authorizeSources _ _
    | .authorizeMembers _ _ _ => .ok ()
    | .steadyService _ => .error (.new "")
    | .now | .reverseSettleRemaining _ => (0 : Time)
  token := webToken
  reply := .ok ()

/-- The pass that wants the relation gone. -/
def webDetach : Prog Op Reply (Except Err Unit) :=
  (Call.run webConfig webNetwork 3 (.relation webService .unassign webFirewall webVM)).run

/-- A pass that only resolves what is there. -/
def webSettle : Prog Op Reply (Except Err Unit) :=
  (Call.run webConfig webNetwork 3 (.settle webService)).run

def webSent : State × Prog Op Reply (Except Err Unit) :=
  ((webOutside [webVM]).server 0).drive 30 webStart webDetach

def webAbsent : State × Prog Op Reply (Except Err Unit) :=
  ((webOutside []).server 1).drive 30 webSent.1 webSettle

/-- Half a minute passes. -/
def webLater : State := { webAbsent.1 with clock := 30 * second }

def webDone : State × Prog Op Reply (Except Err Unit) :=
  ((webOutside []).server 2).drive 30 webLater webSettle

/-- The receipt of the detach, with the time of its first absence. -/
def webFence (absence : Stamp) : Fence :=
  ⟨.unassign, webFirewall, webVM, webToken, .at 0, .absent, absence⟩

theorem initial_webStart : Initial webStart :=
  initial_single (Clean.sound ⟨rfl, rfl, rfl, rfl⟩) rfl rfl

theorem webDetach_calls : Calls webConfig 0 webDetach := ⟨_, _, _, rfl⟩

theorem webSettle_calls (t : Tid) : Calls webConfig t webSettle := ⟨_, _, _, rfl⟩

theorem webDone_log : (webDone.1.store webService).log.map (fun o => (o.uid, o.relation.issued)) =
    [("web-uid", .none), ("web-uid", .fence (webFence (.at 0))), ("web-uid", .fence (webFence .absent)),
      ("web-uid", .none)] := by decide +kernel

theorem webAbsent_times : webAbsent.1.clock ≤ 30 * second ∧
    ∀ f ∈ webAbsent.1.flights, 30 * second ≤ f.sentAt + mutationTimeout := by decide +kernel

/-- The receipt goes for the first of the three reasons or the others; here with
its two absences. -/
theorem relation_receipts_detach :
    ∃ c : InSpaceKube.Config State Op Reply (Except Err Unit),
      Reachable sem (Calls webConfig) Initial c ∧ ∃ newest seen rest tr,
        (c.shared.store webService).log = newest :: seen :: rest ∧ newest.relation.issued = .none ∧
        seen.relation.issued = .fence (webFence (.at 0)) ∧
        DetachEnds webConfig c.shared.served webService tr (webFence (.at 0)) (seen :: rest) := by
  have h := ((webOutside [webVM]).server 0).started (n := 30) (.init initial_webStart) rfl
    webDetach_calls rfl
  have h := ((webOutside []).server 1).started (r := webAbsent) h rfl (webSettle_calls 1) rfl
  have htick : Env webAbsent.1 webLater := .quiet (.tick _ _ webAbsent_times.1 webAbsent_times.2)
  obtain ⟨c, h, hs, -⟩ :=
    (((webOutside []).server 2).started (r := webDone) (h.moved htick) rfl (webSettle_calls 2) rfl).named
  have hlog := webDone_log
  rw [← hs] at hlog
  obtain ⟨newest, _, hnewest, hfirst, hversions⟩ := List.map_eq_cons_iff.1 hlog
  obtain ⟨seen, rest, rfl, hsecond, -⟩ := List.map_eq_cons_iff.1 hversions
  obtain ⟨huid, hnone⟩ := Prod.mk.inj hfirst
  obtain ⟨huid', hissued⟩ := Prod.mk.inj hsecond
  obtain ⟨-, tr, -, -, -, -, -, -, -, -, hends⟩ := (relation_receipts webConfig h).2.2 webService []
    newest seen rest _ hnewest (huid.trans huid'.symm) hissued (by rw [hnone]; exact nofun)
  refine ⟨c, h, newest, seen, rest, tr, hnewest, hnone, hissued, ?_⟩
  rcases hends with ⟨_, hf', -⟩ | ⟨-, hends⟩
  · rw [hnone] at hf'
    cases hf'
  · exact hends rfl

end Detach

end InSpaceKube.NodeLB.Receipts
