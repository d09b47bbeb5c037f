/-
InSpaceKube/Karpenter/SlotHabit.lean

What the code of the firewall-mutation slots does: the habit of the store
(`FenceHabit`), and what is written to the ledger.

A slot is installed under an acquisition ID that the code has drawn, for an
assignment that it has read on the fence of its NodeClaim.  The slot it
replaces belongs to another mutation, and is `Checked`: its ledger says that
it has ended, or its owner has been read after it and is terminal, replaced or
gone.  A slot is ended only after the assignment has been read as ended on the
fence.

What `AuthorizeBaseFirewall` grants it has read in the ledger, with an
acquisition ID of its own (`Granted`).
-/
import InSpaceKube.Karpenter.FenceHabit

namespace InSpaceKube.Karpenter.Fencing

open Prog

/-! ### What a trace says of the ledger -/

variable (sha256 : String → String) (slot : FirewallMutationSlot) (r : CreateFenceRecord)
  (tr : Trace FenceOp FenceReply)

/-- The requests to the store in a trace. -/
def seen : Trace Op Reply :=
  tr.filterMap fun e => match e with
    | ⟨.store op, r⟩ => some ⟨op, r⟩
    | _ => none

/-- The issue ID of the fence's assignment, empty if there is none. -/
def issueOf : String := (r.baseFirewallAssignment.map (·.issueID)).getD ""

/-- The assignment is observed or rejected. -/
def Ended : Prop :=
  ∃ a, r.baseFirewallAssignment = some a ∧ a.phase.terminal = true

/-- The key of a slot. -/
def keyOf : String :=
  Store.slotName ⟨sha256⟩ slot.location slot.firewallUUID

/-- The Lease has the slot under its key. -/
def Holds (lease : LedgerLease) (slot : FirewallMutationSlot) : Prop :=
  ∃ ledger, lease.ledger = .record ledger ∧ ledger.slot (keyOf sha256 slot) = some slot

/-- The Lease is one the code has been shown. -/
def LedgerRead (lease : LedgerLease) (tr : Trace FenceOp FenceReply) : Prop :=
  ⟨.getLedger, .ok lease⟩ ∈ tr

/-- The slot has been read in the ledger. -/
def SlotRead : Prop :=
  ∃ lease, LedgerRead lease tr ∧ Holds sha256 lease slot

/-- What was read under the name of the slot's owner says that the assignment
is over. -/
def OwnerOver : Except Err NodeClaim → Prop
  | .error e => e.is .notFound = true
  | .ok o => o.uid ≠ slot.nodeClaimUID ∨
      ∃ r, decodeCreateFence sha256 o.createFence = .ok r ∧ issueOf r = slot.issueID ∧ Ended r

/-- The slot has been read, and found to be over. -/
inductive Checked (sha256 : String → String) (slot : FirewallMutationSlot) :
    Trace FenceOp FenceReply → Prop
  | ended {tr : Trace FenceOp FenceReply} : SlotRead sha256 slot tr →
      slot.phase.terminal = true → Checked sha256 slot tr
  | owner {tr : Trace FenceOp FenceReply} {r : Except Err NodeClaim} : SlotRead sha256 slot tr →
      OwnerOver sha256 slot r →
      Checked sha256 slot (⟨.store (.get slot.nodeClaimName), r⟩ :: tr)
  | later {tr : Trace FenceOp FenceReply} {e : Event FenceOp FenceReply} :
      Checked sha256 slot tr → Checked sha256 slot (e :: tr)

/-- A NodeClaim of the slot's owner has been read, with this fence. -/
def OwnerRead : Prop :=
  ∃ o, Read o (seen tr) ∧ o.name = slot.nodeClaimName ∧ o.uid = slot.nodeClaimUID ∧
    decodeCreateFence sha256 o.createFence = .ok r

/-- The slot may be installed: it has an acquisition ID of this code, and if it
is for an assignment, the fence of its owner was seen with the assignment. -/
structure Installable (sha256 : String → String) (slot : FirewallMutationSlot)
    (tr : Trace FenceOp FenceReply) : Prop where
  phase : slot.phase = .issued
  issueID : hex32Pattern slot.issueID = true
  vmUUID : uuidPatternFold slot.vmUUID = true
  drew : Drew slot.acquisitionID (seen tr)
  home : slot.operation = .assign → ∃ r, OwnerRead sha256 slot r tr ∧
    r.cleanup.location = slot.location ∧ toLower r.cleanup.firewallUUID = slot.firewallUUID
  issue : slot.operation = .assign → ∃ r, OwnerRead sha256 slot r tr ∧
    issueOf r = slot.issueID ∧ r.createdVMUUID = slot.vmUUID

/-- What an update makes of the ledger. -/
inductive LedgerWrite (sha256 : String → String) (tr : Trace FenceOp FenceReply) :
    LedgerLease → Prop
  /-- The slot is installed, in the place of one that is over. -/
  | install {lease : LedgerLease} {ledger : FirewallMutationLedger}
      {slot : FirewallMutationSlot} : LedgerRead lease tr → lease.ledger = .record ledger →
      Installable sha256 slot tr →
      (∀ old, ledger.slot (keyOf sha256 slot) = some old →
        Checked sha256 old tr ∧ sameMutation old slot = false) →
      LedgerWrite sha256 tr { lease with
        ledger := .record (ledger.set (keyOf sha256 slot) slot) }
  /-- The slot is ended. -/
  | finish {lease : LedgerLease} {ledger : FirewallMutationLedger} {slot : FirewallMutationSlot}
      {phase : FirewallAssignmentPhase} : LedgerRead lease tr → lease.ledger = .record ledger →
      ledger.slot (keyOf sha256 slot) = some slot → phase.terminal = true →
      (slot.operation = .assign → ∃ r, OwnerRead sha256 slot r tr ∧ issueOf r = slot.issueID ∧
        Ended r) →
      LedgerWrite sha256 tr { lease with
        ledger := .record (ledger.set (keyOf sha256 slot) { slot with phase := phase }) }

/-- The habit of code with the larger set of requests. -/
def fenceHabit (patches : Prop) : Habit FenceOp FenceReply where
  ok tr op := match op with
    | .store op => (habit sha256 patches).ok (seen tr) op
    | .createLedger lease => ∃ slot, Installable sha256 slot tr ∧ lease.ledger =
        .record ⟨firewallMutationLedgerSchema, [(keyOf sha256 slot, slot)]⟩
    | .updateLedger lease => LedgerWrite sha256 tr lease
    | _ => True
  rep op r := match op, r with
    | .store op, r => (habit sha256 patches).rep op r
    | _, _ => True

/-- An authorization that allows a POST has been read in the ledger. -/
def Granted (claim : NodeClaim)
    (authorization : FirewallAssignmentAuthorization) (tr : Trace FenceOp FenceReply) : Prop :=
  authorization.allowPOST = true → ∃ slot, SlotRead sha256 slot tr ∧
    Drew slot.acquisitionID (seen tr) ∧ slot.operation = .assign ∧
    slot.nodeClaimName = claim.name ∧ slot.nodeClaimUID = claim.uid ∧
    slot.issueID = authorization.fence.issueID

section Traces

variable {sha256 : String → String} {patches : Prop} {tr tr' : Trace FenceOp FenceReply}
  {slot : FirewallMutationSlot} {r : CreateFenceRecord}

theorem seen_mono (h : tr ⊆ tr') : seen tr ⊆ seen tr' := List.filterMap_subset _ h

theorem OwnerRead.mono (h : OwnerRead sha256 slot r tr) (hsub : tr ⊆ tr') :
    OwnerRead sha256 slot r tr' := by
  obtain ⟨o, ho, hrest⟩ := h
  exact ⟨o, ho.mono (seen_mono hsub), hrest⟩

theorem Installable.mono (h : Installable sha256 slot tr) (hsub : tr ⊆ tr') :
    Installable sha256 slot tr' where
  phase := h.phase
  issueID := h.issueID
  vmUUID := h.vmUUID
  drew := seen_mono hsub h.drew
  home := fun hassign => by
    obtain ⟨r, hr, hhome⟩ := h.home hassign
    exact ⟨r, hr.mono hsub, hhome⟩
  issue := fun hassign => by
    obtain ⟨r, hr, hissue⟩ := h.issue hassign
    exact ⟨r, hr.mono hsub, hissue⟩

variable {α : Type}

/-- The code of the store keeps its habit. -/
theorem lift_follows {x : Code α} {Q : α → Trace Op Reply → Prop}
    (h : (habit sha256 patches).FollowsE x (seen tr) Q) :
    (fenceHabit sha256 patches).FollowsE (lift x) tr fun a tr' => Q a (seen tr') := by
  have hok : ∀ tr op, (habit sha256 patches).ok (seen tr) op →
      (fenceHabit sha256 patches).ok tr (.store op) := fun _ _ h => h
  have hrep : ∀ op r, (fenceHabit sha256 patches).rep (.store op) r →
      (habit sha256 patches).rep op r := fun _ _ h => h
  have hseen : ∀ tr op (r : FenceReply (.store op)),
      seen (⟨.store op, r⟩ :: tr) = ⟨op, r⟩ :: seen tr := fun _ _ _ => rfl
  exact Habit.FollowsE.embed hok hrep hseen h

end Traces

/-! ### The ledger -/

section Code

variable {patches : Prop} {tr : Trace FenceOp FenceReply} {s : SlotStore}

variable {claim : NodeClaim} {binding : CreateFenceBinding} {token : String}
  {slot : FirewallMutationSlot} {current : NodeClaim} {vmUUID issueID : String}
  {record : CreateFenceRecord} {assignment : BaseFirewallAssignment}

/-- Every slot of a ledger that has been decoded is under its own key. -/
theorem validateSlots_key {s : Store} {slots : List (String × FirewallMutationSlot)} {u : Unit}
    (h : s.validateSlots slots = .ok u) {key : String}
    (hslot : slots.lookup key = some slot) : key = s.slotName slot.location slot.firewallUUID := by
  induction slots with
  | nil => cases hslot
  | cons entry _ ih =>
    obtain ⟨_, _⟩ := entry
    obtain ⟨_, -, h⟩ := except_bind_ok h
    obtain ⟨_, hkey, h⟩ := except_bind_ok h
    rw [List.lookup_cons] at hslot
    split at hslot
    next heq =>
      obtain rfl := Option.some.inj hslot
      rw [beq_iff_eq.1 heq]
      exact not_not.1 (failIf_ok hkey)
    · exact ih h hslot

theorem decodeLedger_ok {s : Store} {lease : LedgerLease} {ledger : FirewallMutationLedger}
    (h : s.decodeLedger lease = .ok ledger) : lease.ledger = .record ledger ∧
      ∀ key slot, ledger.slot key = some slot → key = keyOf s.sha256 slot := by
  unfold Store.decodeLedger at h
  split at h
  · cases h
  obtain ⟨_, -, h⟩ := except_bind_ok h
  split at h
  · cases h
  · cases h
  next value hvalue =>
    obtain ⟨_, hvalid, h⟩ := except_bind_ok h
    obtain rfl := Except.ok.inj h
    obtain ⟨_, -, hslots⟩ := except_bind_ok hvalid
    exact ⟨hvalue, fun key slot hslot => validateSlots_key hslots hslot⟩

theorem getLedger_follows : (fenceHabit s.sha256 patches).FollowsE s.getLedger tr fun found tr' =>
      LedgerRead found.1 tr' ∧ found.1.ledger = .record found.2 ∧
        ∀ key slot, found.2.slot key = some slot → key = keyOf s.sha256 slot := by
  refine .perform_bind trivial fun r _ => ?_
  refine .check_bind fun lease hlease => ?_
  refine .check_bind fun value hvalue => ?_
  obtain rfl := hlease
  exact .pure ⟨List.mem_cons_self, decodeLedger_ok hvalue⟩

theorem readbackOwnSlot_follows {desired : FirewallMutationSlot} :
    (fenceHabit s.sha256 patches).FollowsE (s.readbackOwnSlot desired) tr fun own tr' =>
      own = true → SlotRead s.sha256 desired tr' := by
  refine .bind getLedger_follows fun found tr₁ _ hfound => .pure fun hown => ?_
  obtain ⟨hread, hledger, -⟩ := hfound
  exact ⟨found.1, hread, found.2, hledger, beq_iff_eq.1 hown⟩

theorem slotOwnerTerminal_ok {s : Store} {value : FirewallMutationSlot}
    {owner : Except Err NodeClaim} (h : s.slotOwnerTerminal value owner = .ok true) : OwnerOver s.sha256 value owner := by
  unfold Store.slotOwnerTerminal at h
  cases owner with
  | error =>
    dsimp only at h
    split at h
    next hgone => exact hgone
    · cases h
  | ok =>
    dsimp only at h
    split at h
    next huid => exact .inl huid
    split at h
    · cases h
    obtain ⟨record, hrecord, h⟩ := except_bind_ok h
    split at h
    · cases h
    next assignment hassignment =>
      obtain ⟨_, hsame, h⟩ := except_bind_ok h
      have hsame := failIf_ok hsame
      simp only [not_or, not_not] at hsame
      refine .inr ⟨record, mapError_iff.1 hrecord, ?_, assignment, hassignment, Except.ok.inj h⟩
      rw [issueOf, hassignment]
      exact hsame.2.2.2.2.2

theorem slotTerminal_follows (hslot : SlotRead s.sha256 slot tr) :
    (fenceHabit s.sha256 patches).FollowsE (s.slotTerminal slot) tr fun terminal tr' =>
      terminal = true → Checked s.sha256 slot tr' := by
  unfold SlotStore.slotTerminal
  split
  next hended => exact .pure fun _ => .ended hslot hended
  · refine .perform_bind trivial fun owner _ => ?_
    refine .check fun terminal hterminal htrue => ?_
    rw [htrue] at hterminal
    exact .owner hslot (slotOwnerTerminal_ok hterminal)

theorem supersede_follows {desired : FirewallMutationSlot} {current : Option FirewallMutationSlot}
    (hcurrent : ∀ slot, current = some slot → SlotRead s.sha256 slot tr) :
    (fenceHabit s.sha256 patches).FollowsE (s.supersede desired current) tr fun _ tr' =>
      ∀ slot, current = some slot → Checked s.sha256 slot tr' := by
  cases current with
  | none => exact .pure nofun
  | some current =>
    refine .bind (.attempt (slotTerminal_follows (hcurrent current rfl))) fun r tr₁ _ hr => ?_
    cases r with
    | error => exact .throw
    | ok terminal =>
      refine .check fun _ hterminal slot hslot => ?_
      obtain rfl := Option.some.inj hslot
      exact hr terminal rfl (by simpa using failIf_ok hterminal)

/-- What `acquireFirewallMutationSlot` says it has, it has read. -/
theorem acquireLoop_follows {desired : FirewallMutationSlot} {attempts : ℕ}
    (hdesired : Installable s.sha256 desired tr) :
    (fenceHabit s.sha256 patches).FollowsE (s.acquireLoop desired attempts) tr fun own tr' =>
      own = true → SlotRead s.sha256 desired tr' := by
  induction attempts generalizing tr with
  | zero => exact .throw
  | succ attempts ih =>
    have haudit : (fenceHabit s.sha256 patches).FollowsE (s.auditLegacy desired) tr
        fun _ _ => True := by
      refine .perform_bind trivial fun r _ => ?_
      refine .skip ?_
      exact .check fun _ _ => trivial
    refine .bind haudit fun _ tr₁ hsub₁ _ => ?_
    refine .bind (.attempt getLedger_follows) fun r tr₂ hsub₂ hr => ?_
    have hdesired₂ := hdesired.mono (List.Subset.trans hsub₁ hsub₂)
    cases r with
    | error =>
      dsimp only
      split
      · refine .skip ?_
        refine .perform_bind ⟨desired, hdesired₂, rfl⟩ fun writeErr _ => ?_
        refine .bind (.attempt readbackOwnSlot_follows) fun r tr₃ hsub₃ hr => ?_
        have hdesired₃ := hdesired₂.mono (List.Subset.trans (List.subset_cons_self _ _) hsub₃)
        split
        · exact .pure (hr true rfl)
        · exact ih hdesired₃
        · split
          · exact ih hdesired₃
          · exact .throw
      · exact .throw
    | ok found =>
      obtain ⟨lease, ledger⟩ := found
      obtain ⟨hread, hledger, hkeys⟩ := hr _ rfl
      have hslot : ∀ slot, ledger.slot (keyOf s.sha256 desired) = some slot →
          SlotRead s.sha256 slot tr₂ := fun slot hslot => by
        refine ⟨lease, hread, ledger, hledger, ?_⟩
        rw [← hkeys _ _ hslot]
        exact hslot
      dsimp only
      split
      next hown => exact .pure fun _ => hslot desired hown
      split
      · exact .pure fun h => by cases h
      next hother =>
      refine .bind (supersede_follows hslot) fun _ tr₃ hsub₃ hover => ?_
      refine .skip fun {_} => ?_
      have hdesired₃ := hdesired₂.mono hsub₃
      have hwrite : LedgerWrite s.sha256 tr₃
          { lease with ledger := .record (ledger.set (keyOf s.sha256 desired) desired) } := by
        refine .install (hsub₃ hread) hledger hdesired₃ fun old hold => ?_
        refine ⟨hover old hold, ?_⟩
        have hdiffers : ¬ (some old).any (fun value => sameMutation value desired) = true := by
          rw [← hold]
          exact hother
        simpa using hdiffers
      refine .perform_bind hwrite fun writeErr _ => ?_
      refine .bind (.attempt readbackOwnSlot_follows) fun r tr₄ hsub₄ hr => ?_
      split
      · exact .pure (hr true rfl)
      · exact ih (hdesired₃.mono (List.Subset.trans (List.subset_cons_self _ _) hsub₄))
      · exact .throw

/-- A slot is ended for an assignment that has been read as ended. -/
theorem finishSlot_follows {record : CreateFenceRecord}
    {operation : FirewallMutation} {vmUUID : String}
    {terminal : FirewallAssignmentPhase}
    (hended : operation = .assign → ∃ r, Read current (seen tr) ∧
      decodeCreateFence s.sha256 current.createFence = .ok r ∧ issueOf r = issueID ∧ Ended r) :
    (fenceHabit s.sha256 patches).FollowsE
      (s.finishSlot current record operation vmUUID issueID terminal) tr fun _ _ => True := by
  refine .check_bind fun _ hterminal => ?_
  have hterminal : terminal.terminal = true := by simpa using failIf_ok hterminal
  suffices h : ∀ attempts (tr : Trace FenceOp FenceReply),
      (operation = .assign → ∃ r, Read current (seen tr) ∧
        decodeCreateFence s.sha256 current.createFence = .ok r ∧ issueOf r = issueID ∧ Ended r) →
      (fenceHabit s.sha256 patches).FollowsE
        (s.finishSlotLoop current record operation vmUUID issueID terminal attempts) tr
        fun _ _ => True from h 4 tr hended
  intro attempts
  induction attempts with
  | zero => exact fun _ _ => .throw
  | succ _ ih =>
    intro tr hended
    have hmono : ∀ {tr' : Trace FenceOp FenceReply}, tr ⊆ tr' → operation = .assign →
        ∃ r, Read current (seen tr') ∧ decodeCreateFence s.sha256 current.createFence = .ok r ∧
          issueOf r = issueID ∧ Ended r := fun hsub hassign => by
      obtain ⟨r, hread, hr⟩ := hended hassign
      exact ⟨r, hread.mono (seen_mono hsub), hr⟩
    refine .bind (.attempt getLedger_follows) fun r tr₁ hsub₁ hr => ?_
    split
    · split
      · exact .pure trivial
      · exact .throw
    next lease ledger =>
    obtain ⟨hread, hledger, hkeys⟩ := hr _ rfl
    split
    · exact .pure trivial
    next value hvalue =>
    have hkey := hkeys _ _ hvalue
    split
    · exact .pure trivial
    next hsame =>
    simp only [not_or, not_not] at hsame
    obtain ⟨huid, hname, rfl, -, rfl⟩ := hsame
    split
    · exact .pure trivial
    split
    · exact .throw
    refine .skip fun {_} => ?_
    rw [hkey] at hvalue ⊢
    have hwrite : LedgerWrite s.sha256 tr₁ { lease with
        ledger := .record (ledger.set (keyOf s.sha256 value) { value with phase := terminal }) } := by
      refine .finish hread hledger hvalue hterminal fun hassign => ?_
      obtain ⟨r, hcurrent, hdecode, hissue, hend⟩ := hmono hsub₁ hassign
      exact ⟨r, ⟨current, hcurrent, hname.symm, huid.symm, hdecode⟩, hissue, hend⟩
    refine .perform_bind hwrite fun writeErr _ => ?_
    refine .bind (.attempt getLedger_follows) fun r tr₂ hsub₂ _ => ?_
    split
    · exact .throw
    split
    · exact .pure trivial
    · refine ih _ fun hassign => hmono ?_ hassign
      exact List.Subset.trans hsub₁ (List.Subset.trans (List.subset_cons_self _ _) hsub₂)

/-! ### The assignment of the base firewall -/

theorem newFirewallMutationSlot_ok {acquisitionID : String} {operation : FirewallMutation}
    (h : newFirewallMutationSlot current record vmUUID operation issueID acquisitionID = .ok slot) :
    slot = ⟨firewallMutationSlotSchema, record.cleanup.location,
      toLower record.cleanup.firewallUUID, toLower vmUUID, current.name, current.uid, operation,
      .issued, issueID, acquisitionID⟩ ∧ hex32Pattern issueID = true ∧
      uuidPatternFold (toLower vmUUID) = true := by
  obtain ⟨_, hvalid, h⟩ := except_bind_ok h
  obtain rfl := Except.ok.inj h
  refine ⟨rfl, ?_⟩
  unfold validateFirewallMutationSlot at hvalid
  split at hvalid
  · cases hvalid
  next hidentity =>
    simp only [not_or, Bool.not_eq_false] at hidentity
    exact ⟨hidentity.2.2.2.2.2.2.1, hidentity.2.2.2.1⟩

variable (s) in
/-- The fence a slot is taken for: `current` has been read, with the record's
cleanup identity and its assignment. -/
structure Anchored (current : NodeClaim) (record : CreateFenceRecord) (vmUUID : String)
    (tr : Trace FenceOp FenceReply) : Prop where
  home : ∃ o r, Read o (seen tr) ∧ o.name = current.name ∧ o.uid = current.uid ∧
    decodeCreateFence s.sha256 o.createFence = .ok r ∧ r.cleanup = record.cleanup
  issue : ∃ r, Read current (seen tr) ∧ decodeCreateFence s.sha256 current.createFence = .ok r ∧
    issueOf r = issueOf record ∧ r.createdVMUUID = vmUUID

theorem authorizeAssignmentSlot_follows (hlower : toLower vmUUID = vmUUID)
    (hanchored : Anchored s current record vmUUID tr) :
    (fenceHabit s.sha256 patches).FollowsE (s.authorizeAssignmentSlot current record vmUUID) tr
      fun r tr' => Granted s.sha256 current r.1 tr' := by
  have hdenied : ∀ {authorization : FirewallAssignmentAuthorization} {tr'},
      authorization.allowPOST = false → Granted s.sha256 current authorization tr' :=
    fun hfalse htrue => by rw [hfalse] at htrue; cases htrue
  unfold SlotStore.authorizeAssignmentSlot
  dsimp only
  split
  · exact .pure (hdenied rfl)
  next assignment hassignment =>
  have hissueOf : issueOf record = assignment.issueID := by rw [issueOf, hassignment]; rfl
  split
  · exact .pure (hdenied rfl)
  refine .perform_bind trivial fun nonce _ => ?_
  split
  · exact .pure (hdenied rfl)
  next acquisitionID _ =>
  split
  · exact .pure (hdenied rfl)
  next desired hdesired =>
    obtain ⟨hslot, hhex, huuid⟩ := newFirewallMutationSlot_ok hdesired
    have hinstallable : Installable s.sha256 desired
        (⟨.store .nonce, .ok acquisitionID⟩ :: tr) := by
      rw [hslot]
      refine ⟨rfl, hhex, huuid, List.mem_cons_self, fun _ => ?_, fun _ => ?_⟩
      · obtain ⟨o, r, ho, hname, huid, hdecode, hcleanup⟩ := hanchored.home
        refine ⟨r, ⟨o, ho.cons, hname, huid, hdecode⟩, ?_, ?_⟩ <;> rw [hcleanup]
      · obtain ⟨r, hread, hdecode, hissue, hcreated⟩ := hanchored.issue
        exact ⟨r, ⟨current, hread.cons, rfl, rfl, hdecode⟩, hissue.trans hissueOf,
          hcreated.trans hlower.symm⟩
    refine .bind (.attempt (acquireLoop_follows hinstallable)) fun r tr₁ hsub hr => ?_
    split
    · exact .pure (hdenied rfl)
    next allow =>
    split
    · exact .pure (hdenied rfl)
    · refine .pure fun hallow => ⟨desired, hr allow rfl hallow, ?_, ?_⟩
      · exact (hinstallable.mono hsub).drew
      · rw [hslot]
        refine ⟨rfl, rfl, rfl, ?_⟩
        simp [firewallAssignmentFenceFromRecord, hassignment]

/-- The assignment of a valid fence is for the VM the fence is anchored to. -/
theorem assignment_vm {r : CreateFenceRecord} {a : BaseFirewallAssignment} (h : ValidFence r)
    (ha : r.baseFirewallAssignment = some a) : a.vmUUID = r.createdVMUUID := by
  have hb := h.assignment
  simp only [validBaseFirewallAssignment, ha] at hb
  split at hb <;> simp_all

theorem assignable_ok {s : Store} {claim : NodeClaim} {binding : CreateFenceBinding}
    {token : String} (h : s.assignable claim current binding token vmUUID = .ok record) :
    decodeCreateFence s.sha256 current.createFence = .ok record ∧ record.phase = .issued ∧
      record.createdVMUUID = vmUUID := by
  obtain ⟨_, hrecord, h⟩ := except_bind_ok h
  obtain ⟨_, hanchored, h⟩ := except_bind_ok h
  obtain rfl := Except.ok.inj h
  have hanchored := failIf_ok hanchored
  simp only [not_or, not_not] at hanchored
  exact ⟨decode_of_parse hrecord, hanchored.2.2.1, hanchored.2.2.2.2.1⟩

theorem competingIssue_read {s : Store} {latest : NodeClaim} {binding : CreateFenceBinding} {read : Except Err NodeClaim}
    {authorization : FirewallAssignmentAuthorization}
    (h : s.competingIssue current binding issueID read = some (latest, authorization)) :
    read = .ok latest ∧ authorization.allowPOST = false := by
  unfold Store.competingIssue at h
  cases read with
  | error => cases h
  | ok =>
    dsimp only at h
    split at h
    · cases h
    split at h
    · obtain ⟨rfl, rfl⟩ := Prod.mk.inj (Option.some.inj h)
      exact ⟨rfl, rfl⟩
    · cases h

/-- What `AuthorizeBaseFirewall` returns: an object it has read, and an
authorization that allows a POST only with a slot that is its own. -/
def Authorized (sha256 : String → String)
    (r : NodeClaim × FirewallAssignmentAuthorization × Option Err)
    (tr : Trace FenceOp FenceReply) : Prop :=
  Read r.1 (seen tr) ∧ Granted sha256 r.1 r.2.1 tr

theorem granted_of_denied {sha256 : String → String} {claim : NodeClaim}
    {authorization : FirewallAssignmentAuthorization} (h : authorization.allowPOST = false) :
    Granted sha256 claim authorization tr := fun hallow => by
  rw [h] at hallow
  cases hallow

theorem slot_follows (hlower : toLower vmUUID = vmUUID) {o : NodeClaim}
    {r : CreateFenceRecord} (ho : Read o (seen tr)) (hanchored : Anchored s o r vmUUID tr) :
    (fenceHabit s.sha256 patches).FollowsE (do
      let (authorization, err) ← s.authorizeAssignmentSlot o r vmUUID
      pure (o, authorization, err)) tr (Authorized s.sha256) :=
  .bind (authorizeAssignmentSlot_follows hlower hanchored) fun _ _ hsub hgranted =>
    .pure ⟨ho.mono (seen_mono hsub), hgranted⟩

theorem retireRejected_follows {vmUUID : String} (hcurrent : Read current (seen tr))
    (hdecode : decodeCreateFence s.sha256 current.createFence = .ok record)
    (hassignment : record.baseFirewallAssignment = some assignment) :
    (fenceHabit s.sha256 patches).FollowsE
      (s.retireRejected current record assignment vmUUID) tr fun _ _ => True := by
  unfold SlotStore.retireRejected
  split
  next hrejected =>
    have hended : Ended record := ⟨assignment, hassignment, by rw [hrejected]; rfl⟩
    have hissue : issueOf record = assignment.issueID := by rw [issueOf, hassignment]; rfl
    exact (Habit.FollowsE.attempt (finishSlot_follows fun _ =>
      ⟨record, hcurrent, hdecode, hissue, hended⟩)).mono fun _ _ _ _ => trivial
  · exact .pure trivial

/-- What is read back after an issue has that issue, on the anchored VM. -/
theorem assignmentIssued_ok {sha256 : String → String} {written : NodeClaim}
    {stored : CreateFenceRecord} {now : ℤ}
    (hdecode : decodeCreateFence sha256 written.createFence = .ok stored)
    (h : assignmentIssued vmUUID issueID now stored = true) :
    issueOf stored = issueID ∧ stored.createdVMUUID = toLower vmUUID := by
  simp only [assignmentIssued, baseFirewallAssignmentMatches, Bool.and_eq_true,
    Option.any_eq_true, beq_iff_eq] at h
  obtain ⟨⟨_, ha, hvm, -⟩, _, ha', ⟨-, hissue⟩, -⟩ := h
  obtain rfl := Option.some.inj (ha.symm.trans ha')
  refine ⟨?_, (assignment_vm (decodeCreateFence_valid hdecode) ha).symm.trans hvm⟩
  rw [issueOf, ha]
  exact hissue

variable (claim binding) in
theorem issueAndAcquire_follows (hlower : toLower vmUUID = vmUUID)
    {again : Err → FenceCode (NodeClaim × FirewallAssignmentAuthorization × Option Err)}
    (hcurrent : Read current (seen tr))
    (hdecode : decodeCreateFence s.sha256 current.createFence = .ok record)
    (hphase : record.phase = .issued)
    (hassignment : record.baseFirewallAssignment = some assignment)
    (hagain : ∀ e tr', (fenceHabit s.sha256 patches).FollowsE (again e) tr' (Authorized s.sha256)) :
    (fenceHabit s.sha256 patches).FollowsE
      (s.issueAndAcquire binding vmUUID claim current record assignment again) tr
      (Authorized s.sha256) := by
  refine .bind (retireRejected_follows hcurrent hdecode hassignment)
    fun retired tr₂ hsub _ => ?_
  have hcurrent₂ := hcurrent.mono (seen_mono hsub)
  split
  · exact .pure ⟨hcurrent₂, granted_of_denied rfl⟩
  refine .perform_bind trivial fun nonce hnonce => ?_
  refine .check_bind fun issueID hissueID => ?_
  obtain ⟨rfl, hhex⟩ := nonce_ok hnonce hissueID
  refine .perform_bind trivial fun now hnow => ?_
  -- the issue ID is the last thing drawn, with only the clock read after it
  have hfresh : Fresh issueID (seen (⟨.store .now, now⟩ :: ⟨.store .nonce, .ok issueID⟩ :: tr₂)) :=
    .later (fun _ h => by cases h) (.drawn _ hhex)
  refine .bind (.attempt (lift_follows (persistAssignment_follows
    hcurrent₂.cons.cons ⟨record, hdecode, .reissue hphase hassignment hnow hfresh⟩)))
    fun r tr₃ hsub₃ hr => ?_
  have hcurrent₃ := hcurrent₂.cons.cons.mono (seen_mono hsub₃)
  cases r with
  | ok written =>
    obtain ⟨hread, hname, huid, stored, hstored, haccept⟩ := hr written rfl
    obtain ⟨hissue, hcreated⟩ := assignmentIssued_ok hstored haccept
    refine slot_follows hlower hread ⟨?_, ?_⟩
    · exact ⟨current, record, hcurrent₃, hname.symm, huid.symm, hdecode, rfl⟩
    · exact ⟨stored, hread, hstored, hissue, hcreated.trans hlower⟩
  | error =>
    refine .perform_bind trivial fun read _ => ?_
    split
    next latest authorization hlatest =>
      obtain ⟨rfl, hdenied⟩ := competingIssue_read hlatest
      exact .pure ⟨read_cons, granted_of_denied hdenied⟩
    · exact hagain _ _

theorem authorizeBaseFirewall_follows {vmUUID : String} :
    (fenceHabit s.sha256 patches).FollowsE (s.authorizeBaseFirewall claim binding token vmUUID) tr
      (Authorized s.sha256) := by
  refine .skip fun {_} => ?_
  have hlower : toLower (toLower vmUUID) = toLower vmUUID := toLower_toLower _
  generalize toLower vmUUID = vmUUID at hlower
  suffices h : ∀ attempts claim lastErr (tr : Trace FenceOp FenceReply),
      (fenceHabit s.sha256 patches).FollowsE
        (s.authorizeBaseFirewallLoop binding token vmUUID attempts claim lastErr) tr
        (Authorized s.sha256) from h 4 claim none tr
  intro attempts
  induction attempts with
  | zero => exact fun _ _ _ => .throw
  | succ _ ih =>
    intro claim _ _
    refine .bind (lift_follows getProtectedExact_follows) fun current tr₁ _ hcurrent => ?_
    refine .check_bind fun record hrecord => ?_
    obtain ⟨hdecode, hphase, hcreated⟩ := assignable_ok hrecord
    split
    next hnone => exact absurd hnone (decodeCreateFence_valid hdecode).assigned
    next assignment hassignment =>
    refine .skip fun {_} => ?_
    have hissue := issueAndAcquire_follows claim binding hlower hcurrent hdecode hphase
      hassignment fun e tr' => ih claim (some e) tr'
    split
    · exact slot_follows hlower hcurrent
        ⟨⟨current, record, hcurrent, rfl, rfl, hdecode, rfl⟩,
          ⟨record, hcurrent, hdecode, rfl, hcreated⟩⟩
    · exact .pure ⟨hcurrent, granted_of_denied rfl⟩
    · exact hissue
    · exact hissue
    · exact .throw

theorem ownAssignment_ok {s : Store} {claim : NodeClaim} {binding : CreateFenceBinding}
    {token : String}
    (h : s.ownAssignment claim current binding token vmUUID = .ok (record, assignment)) :
    decodeCreateFence s.sha256 current.createFence = .ok record ∧
      record.baseFirewallAssignment = some assignment ∧ assignment.vmUUID = toLower vmUUID := by
  obtain ⟨_, hrecord, h⟩ := except_bind_ok h
  split at h
  · cases h
  next assignment' hassignment =>
    obtain ⟨_, hown, h⟩ := except_bind_ok h
    obtain ⟨rfl, rfl⟩ := Prod.mk.inj (Except.ok.inj h)
    have hown := failIf_ok hown
    simp only [not_or, not_not, Bool.not_eq_false, baseFirewallAssignmentMatches, Option.any_some,
      Bool.and_eq_true, beq_iff_eq] at hown
    exact ⟨decode_of_parse hrecord, hassignment, hown.2.2.1⟩

theorem finishBaseFirewall_follows {vmUUID issueID : String} {terminal : FirewallAssignmentPhase} :
    (fenceHabit s.sha256 patches).FollowsE
      (s.finishBaseFirewall claim binding token vmUUID issueID terminal) tr
      fun r tr' => Read r.1 (seen tr') := by
  refine .check_bind fun _ hidentity => ?_
  have hidentity := failIf_ok hidentity
  simp only [not_or, Bool.not_eq_false] at hidentity
  obtain ⟨huuid, -, hterminal⟩ := hidentity
  suffices h : ∀ attempts lastErr (tr : Trace FenceOp FenceReply),
      (fenceHabit s.sha256 patches).FollowsE
        (s.finishBaseFirewallLoop claim binding token (toLower vmUUID) issueID terminal attempts
          lastErr) tr fun r tr' => Read r.1 (seen tr') from h 3 none tr
  intro attempts
  induction attempts with
  | zero => exact fun _ _ => .throw
  | succ _ ih =>
    intro _ _
    refine .bind (lift_follows getProtectedExact_follows) fun current tr₁ _ hcurrent => ?_
    refine .check_bind fun found hfound => ?_
    obtain ⟨record, assignment⟩ := found
    obtain ⟨hdecode, hassignment, hvm⟩ := ownAssignment_ok hfound
    dsimp only
    split
    next hdone =>
      have hended : Ended record := ⟨assignment, hassignment, by rw [hdone.1]; exact hterminal⟩
      have hissue : issueOf record = issueID := by rw [issueOf, hassignment]; exact hdone.2
      refine .bind (.attempt (finishSlot_follows fun _ =>
        ⟨record, hcurrent, hdecode, hissue, hended⟩)) fun r tr₂ hsub _ => ?_
      split <;> exact .pure (hcurrent.mono (seen_mono hsub))
    refine .check_bind fun _ hissued => ?_
    refine .perform_bind trivial fun now hnow => ?_
    have hne : assignment.vmUUID ≠ "" := by
      rw [hvm, toLower_toLower]
      intro hempty
      rw [hempty] at huuid
      exact absurd huuid (by decide)
    have hplanned : Planned s.sha256 current (endAssignment record assignment terminal now)
        (seen (⟨.store .now, now⟩ :: tr₁)) :=
      ⟨record, hdecode, .endAssignment hassignment (not_not.1 (not_or.1 (failIf_ok hissued)).1)
        hne hterminal hnow⟩
    refine .bind (.attempt (lift_follows (persistAssignment_follows
      hcurrent.cons hplanned))) fun r tr₂ _ hr => ?_
    split
    · exact ih _ _
    next written =>
      obtain ⟨hread, -, -, stored, hstored, haccept⟩ := hr written rfl
      simp only [Bool.and_eq_true, Option.any_eq_true, beq_iff_eq] at haccept
      obtain ⟨-, a, ha, haphase, haissue⟩ := haccept
      have hended : Ended stored := ⟨a, ha, by rw [haphase]; exact hterminal⟩
      have hissue : issueOf stored = issueID := by rw [issueOf, ha]; exact haissue
      split
      · exact .pure hread
      refine .bind (.attempt (finishSlot_follows fun _ =>
        ⟨stored, hread, hstored, hissue, hended⟩)) fun r tr₃ hsub _ => ?_
      split <;> exact .pure (hread.mono (seen_mono hsub))

/-! ### Detachments -/

theorem authorizeBaseFirewallDetach_follows {vmUUID : String} :
    (fenceHabit s.sha256 patches).FollowsE
      (s.authorizeBaseFirewallDetach claim binding token vmUUID) tr fun _ _ => True := by
  refine .skip ?_
  refine .bind (lift_follows getProtectedExact_follows) fun current _ _ _ => ?_
  refine .check_bind fun record _ => ?_
  refine .bind (.attempt getLedger_follows) fun read _ _ _ => ?_
  refine .skip fun {_} => ?_
  dsimp only
  generalize existingDetach current _ _ _ = existing
  cases existing with
  | some => exact .pure trivial
  | none =>
  refine .perform_bind trivial fun nonce _ => ?_
  refine .check_bind fun issueID _ => ?_
  refine .perform_bind trivial fun nonce hnonce => ?_
  refine .check_bind fun acquisitionID hacquisitionID => ?_
  obtain ⟨rfl, -⟩ := nonce_ok hnonce hacquisitionID
  refine .check_bind fun desired hdesired => ?_
  obtain ⟨hslot, hhex, huuid⟩ := newFirewallMutationSlot_ok hdesired
  refine .bind (.attempt (acquireLoop_follows ?_)) fun r _ _ _ => ?_
  · rw [hslot]
    exact ⟨rfl, hhex, huuid, List.mem_cons_self, (nofun), nofun⟩
  · split <;> exact .pure trivial

theorem finishBaseFirewallDetach_follows {fence : FirewallDetachmentFence} {terminal : FirewallAssignmentPhase} :
    (fenceHabit s.sha256 patches).FollowsE
      (s.finishBaseFirewallDetach claim binding token fence terminal) tr fun _ _ => True := by
  refine .bind (lift_follows getProtectedExact_follows) fun current _ _ _ => ?_
  refine .check_bind fun record _ => ?_
  refine .skip ?_
  exact finishSlot_follows nofun

end Code

end InSpaceKube.Karpenter.Fencing
