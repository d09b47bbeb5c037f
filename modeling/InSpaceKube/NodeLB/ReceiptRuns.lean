/-
InSpaceKube/NodeLB/ReceiptRuns.lean

What does not happen in any run of any number of controllers: a staged delete is
not taken back, and no attach goes out to a VM that was last seen full.
-/
import InSpaceKube.NodeLB.AbsenceCount

namespace InSpaceKube.NodeLB.Receipts

/-- The last reads say that the VM has the firewall, or fewer than it may have; the
attachments this process remembers count too. -/
def SeenRoom (cfg : Config) (tr : Tr) (fence : Fence) : Prop :=
  ∃ items before, tr = ⟨.read (.listFirewalls .capacity), .ok items⟩ :: before ∧
      toLower fence.firewallUUID ∈ attachedFirewalls items fence.vmUUID ∨
    ∃ now recent, tr = ⟨.read (.recentFirewallAssignsFor fence.vmUUID now), recent⟩ ::
        ⟨.read .now, now⟩ :: ⟨.read (.listFirewalls .capacity), .ok items⟩ :: before ∧
      (toLower fence.firewallUUID ∈ attachedFirewalls items fence.vmUUID ++ recent ∨
        (attachedFirewalls items fence.vmUUID ++ recent).dedup.length < maxFirewallsPerVM cfg)

theorem RelateReady.seenRoom {cfg : Config} {tr : Tr} {ref : Ref} {fence : Fence}
    (h : RelateReady cfg tr ref fence) (hop : fence.operation = .assign) : SeenRoom cfg tr fence := by
  obtain ⟨_, _, _, _, _, _, _, _, rfl, -, -, -, -, -, -, -, -, -, hroom⟩ := h
  obtain ⟨items, ⟨rfl, hin⟩ | ⟨now, recent, rfl, hcapacity⟩⟩ := hroom hop
  · exact ⟨items, _, .inl ⟨rfl, List.contains_iff_mem.1 hin⟩⟩
  · refine ⟨items, _, .inr ⟨now, recent, rfl, ?_⟩⟩
    have hfits := failIf_ok hcapacity
    simp only [List.contains_iff_mem, List.mem_dedup] at hfits
    rw [← Nat.succ_le_iff, ← not_lt]
    exact (not_and_or.1 hfits).imp_left not_not.1

variable {cfg : Config} {c : InSpaceKube.Config State Op Reply (Except Err Unit)}

/-- **No attach beyond the limit.**  Every attach that is sent, in any run, is for
a VM that its sender last saw with the firewall or with room for it. -/
theorem attach_seen_room (h : Reachable sem (Calls cfg) Initial c)
    (newer : List (Tid × Event Op Reply)) {older : List (Tid × Event Op Reply)} {t : Tid} {ref : Ref}
    {fence : Fence} {r : Reply (.relate ref fence)}
    (hserved : c.shared.served = newer ++ (t, ⟨.relate ref fence, r⟩) :: older)
    (hop : fence.operation = .assign) : SeenRoom cfg (ownTrace t older) fence := by
  have hobeys := (kept h).obeys t
  rw [hserved, ownTrace_append, ownTrace_cons_self] at hobeys
  exact RelateReady.seenRoom hobeys.ok_of_append hop

/-- The attach of the Service `web`, to a VM without firewalls. -/
theorem attach_seen_room_web : ∃ c, Reachable sem (Calls webConfig) Initial c ∧ ∃ r older,
      c.shared.served = (0, ⟨.relate webService webAttachFence, r⟩) :: older ∧
      SeenRoom webConfig (ownTrace 0 older) webAttachFence := by
  have h := ((webOutside []).server 0).started (n := 14) (.init initial_webStart) rfl webAttach_calls rfl
  exact ⟨_, h, _, _, rfl, attach_seen_room h [] rfl rfl⟩

/-- **A delete is final.**  Every later version of the anchor under its UID has the
delete as its only receipt, with nothing issued and no entries to come. -/
theorem delete_final (h : Reachable sem (Calls cfg) Initial c) {vmUUID : String}
    (newer : List Object) {older : List Object} {new old : Object}
    (hlog : (c.shared.store (.anchor vmUUID)).log = newer ++ old :: older) (hnew : new ∈ newer)
    (huid : new.uid = old.uid) (hdelete : old.fw.receipt.pendingOp = .delete) :
    openReceipts new.fw = [.delete] ∧ new.fw.receipt.issuedAt = .absent ∧
      ¬ PendingMembers new.fw.receipt := by
  have hi := (kept h).inv
  have hsound := hi.sound (.anchor vmUUID) new (by rw [hlog]; exact List.mem_append_left _ hnew)
  have hsticks := hi.sticks (.anchor vmUUID)
  rw [hlog] at hsticks
  have hstill := (List.pairwise_append.1 hsticks).2.2 new hnew old List.mem_cons_self huid.symm hdelete
  obtain ⟨hmembers, hat⟩ := hsound.empty hstill
  exact ⟨by simp [openReceipts, hstill], hat, hmembers⟩

/-- The first absence of a deleted firewall is counted. -/
theorem delete_final_gone : ∃ c, Reachable sem (Calls vmConfig) Initial c ∧ ∃ new old,
      (c.shared.store (.anchor webVM)).log = [new, old] ∧ old.fw.receipt.pendingOp = .delete ∧
      openReceipts new.fw = [.delete] := by
  have h := (goneOutside.server 0).started (n := 30) (.init starts_goneStart.initial) rfl
    (vmDelete_calls 0) rfl
  obtain ⟨new, old, hlog, huid, hdelete⟩ : ∃ new old, (((goneOutside.server 0).drive 30 goneStart
      vmDelete).1.store (.anchor webVM)).log = [new, old] ∧ new.uid = old.uid ∧
      old.fw.receipt.pendingOp = .delete := ⟨_, _, rfl, rfl, rfl⟩
  exact ⟨_, h, new, old, hlog, hdelete,
    (delete_final h [new] hlog List.mem_cons_self huid hdelete).1⟩

end InSpaceKube.NodeLB.Receipts
