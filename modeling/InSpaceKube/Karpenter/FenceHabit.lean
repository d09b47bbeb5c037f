/-
InSpaceKube/Karpenter/FenceHabit.lean

What the code of the create-fence store does to the NodeClaims it is shown.

Every update that it asks for is made from an object that it has read, and
each writer makes one kind of change to the record on it, under the checks it
has made (`FenceWrite`).  Where the change brings a new issue ID into the
fence, the ID has been drawn after whatever the code wrote before (`Fresh`).
All this is read off the code once, as a habit; what it means for the stored
fences is left to the systems that run the code.

The controller is let in by `patches`: it also writes a record that is older
than the object under it, and releases the fence.
-/
import InSpaceKube.Karpenter.JournalWrites
import InSpaceKube.Karpenter.ValidFence
import InSpaceKube.Karpenter.System

namespace InSpaceKube.Karpenter.Fencing

open Prog

/-! ### What a trace says -/

/-- The object is one the code has been shown. -/
def Read (o : NodeClaim) (tr : Trace Op Reply) : Prop := ∃ name, ⟨.get name, .ok o⟩ ∈ tr

/-- The nonce has been drawn. -/
def Drew (nonce : String) (tr : Trace Op Reply) : Prop := ⟨.nonce, .ok nonce⟩ ∈ tr

/-- The nonce has been drawn, and nothing has been written since. -/
inductive Fresh (nonce : String) : Trace Op Reply → Prop
  | drawn (tr : Trace Op Reply) : hex32Pattern nonce = true → Fresh nonce (⟨.nonce, .ok nonce⟩ :: tr)
  | later {op : Op} {r : Reply op} {tr : Trace Op Reply} : (∀ copy, op ≠ .update copy) →
      Fresh nonce tr → Fresh nonce (⟨op, r⟩ :: tr)

theorem Fresh.drew {nonce : String} {tr : Trace Op Reply} (h : Fresh nonce tr) : Drew nonce tr := by
  induction h with
  | drawn => exact List.mem_cons_self
  | later _ _ ih => exact .tail _ ih

theorem Fresh.hex {nonce : String} {tr : Trace Op Reply} (h : Fresh nonce tr) :
    hex32Pattern nonce = true := by
  induction h with
  | drawn _ hhex => exact hhex
  | later _ _ ih => exact ih

/-! ### What is written -/

/-- What the writers of the store make of a record. -/
inductive FenceWrite (tr : Trace Op Reply) (r : CreateFenceRecord) : CreateFenceRecord → Prop
  /-- `Authorize`. -/
  | issue {a : BaseFirewallAssignment} {intent : CreateAuthorizationKind} {now : ℤ}
      {issueID assignmentIssueID : String} : r.phase = .reserved →
      r.baseFirewallAssignment = some a → intent = .post ∨ intent = .adoption → now ≠ 0 →
      hex32Pattern issueID = true → Fresh assignmentIssueID tr →
      FenceWrite tr r (issueRecord r a intent now issueID assignmentIssueID)
  /-- `RecordCreatedVM`. -/
  | anchor {a : BaseFirewallAssignment} {now : ℤ} {vmUUID : String} : r.phase = .issued →
      r.createdVMUUID = "" → r.rollbackAt = none → preIssuedAssignment r = some a → now ≠ 0 →
      uuidPatternFold vmUUID = true → toLower vmUUID = vmUUID →
      FenceWrite tr r { r with
        createdVMUUID := vmUUID, launchObservedAt := some now,
        baseFirewallAssignment := some { a with vmUUID := vmUUID } }
  /-- `ChooseRollback` without a receipt. -/
  | rollbackUnresolved {now : ℤ} : r.phase = .issued → r.createdVMUUID ≠ "" →
      r.rollbackAt = none → now ≠ 0 →
      FenceWrite tr r { r with
        rollbackAt := some now, protectionFailureAt := none, dependentsResolvedAt := none,
        dependentUnresolved := true }
  /-- `ChooseRollback` with the receipt of the VM. -/
  | rollbackResolved {r' : CreateFenceRecord} {x : FencedCreateCleanupResolution}
      {rollbackAt now : ℤ} : r.phase = .issued → r.createdVMUUID ≠ "" → rollbackAt ≠ 0 →
      now ≠ 0 → Canonical x → x.vmUUID = r.createdVMUUID →
      applyCleanupResolution { r with
        rollbackAt := some rollbackAt, protectionFailureAt := none,
        dependentsResolvedAt := none } x now = .ok r' →
      FenceWrite tr r { r' with dependentUnresolved := false }
  /-- `MarkRejected`. -/
  | reject {a : BaseFirewallAssignment} {now : ℤ} : r.phase = .issued → r.createdVMUUID = "" →
      r.rollbackAt = none →
      (r.baseFirewallAssignment.filter fun a => a.phase == .issued && a.vmUUID == "") = some a →
      now ≠ 0 →
      FenceWrite tr r { r with
        phase := .rejected,
        baseFirewallAssignment := some { a with phase := .rejected, rejectedAt := some now } }
  /-- `RecordProtectionFailure` and `ClearProtectionFailure`. -/
  | mark {at' : Option ℤ} : r.phase = .issued → r.createdVMUUID ≠ "" → r.rollbackAt = none →
      at' ≠ some 0 → FenceWrite tr r { r with protectionFailureAt := at' }
  /-- `RecordTerminalCleanup`. -/
  | terminal {marker : Option TerminalCleanupRecord} :
      FenceWrite tr r { r with terminalCleanup := marker }
  /-- `MarkMaterialized`. -/
  | materialize {floatingIPName publicIPv4 : String} {now : ℤ} : r.phase = .issued →
      r.createdVMUUID ≠ "" → r.rollbackAt = none → r.assignmentPhase = some .observed →
      Canonical ⟨r.createdVMUUID, floatingIPName, publicIPv4⟩ → now ≠ 0 →
      FenceWrite tr r { r with
        phase := .materialized, protectionFailureAt := none, observedAt := some now,
        observedVMUUID := r.createdVMUUID, floatingIPName := floatingIPName,
        publicIPv4 := publicIPv4 }
  /-- `AuthorizeBaseFirewall`. -/
  | reissue {a : BaseFirewallAssignment} {issueID : String} {now : ℤ} : r.phase = .issued →
      r.baseFirewallAssignment = some a → now ≠ 0 → Fresh issueID tr →
      FenceWrite tr r (issueAssignment r a issueID now)
  /-- `ObserveBaseFirewall` and `RejectBaseFirewall`. -/
  | endAssignment {a : BaseFirewallAssignment} {phase : FirewallAssignmentPhase} {now : ℤ} :
      r.baseFirewallAssignment = some a → a.phase = .issued → a.vmUUID ≠ "" →
      phase.terminal = true → now ≠ 0 → FenceWrite tr r (endAssignment r a phase now)

/-- What the controller makes of one. -/
inductive FencePatch (r : CreateFenceRecord) : CreateFenceRecord → Prop
  /-- `persistDependentResolution`. -/
  | resolveDependents {now : ℤ} : r.dependentUnresolved = true → r.rollbackAt ≠ none → now ≠ 0 →
      FencePatch r { r with dependentUnresolved := false, dependentsResolvedAt := some now }
  /-- `persistCleanupResolution`. -/
  | resolved {nodeClaim : NodeClaim} {x : FencedCreateCleanupResolution} {now : ℤ}
      {r' : CreateFenceRecord} : resolvedRecord nodeClaim r x now = .ok r' → now ≠ 0 →
      FencePatch r r'

/-- What an update makes of the object `o`. -/
inductive Update (sha256 : String → String) (patches : Prop) (tr : Trace Op Reply)
    (o : NodeClaim) : NodeClaim → Prop
  /-- The fence is left alone. -/
  | keep {copy : NodeClaim} : copy.name = o.name → copy.uid = o.uid →
      copy.resourceVersion = o.resourceVersion → copy.createFence = o.createFence →
      copy.deleting = o.deleting → Update sha256 patches tr o copy
  | write {r r' : CreateFenceRecord} : decodeCreateFence sha256 o.createFence = .ok r →
      FenceWrite tr r r' → Update sha256 patches tr o (o.withRecord r')
  /-- `Ensure`. -/
  | reserve {binding : CreateFenceBinding} {cleanup : CreateFenceCleanupIdentity}
      {baseline : CreateInventory} {now : ℤ} {token : String} : o.createFence = .absent →
      o.deleting = false →
      Update sha256 patches tr o
        (o.withFence binding (newCreateFenceRecord binding cleanup baseline now token))
  /-- The record comes from an object that was read earlier. -/
  | patch {o' : NodeClaim} {r r' : CreateFenceRecord} : patches → Read o' tr →
      decodeCreateFence sha256 o'.createFence = .ok r → FencePatch r r' →
      Update sha256 patches tr o (o.withRecord r')
  | release {finalizers : List String} : patches → o.deleting = true →
      Update sha256 patches tr o { o with finalizers := finalizers, createFence := .absent }

variable {s : Store} {claim : NodeClaim} {binding : CreateFenceBinding}
  {token issueID vmUUID : String} {o current : NodeClaim} {record : CreateFenceRecord}

/-- An update names the version of the object it is made from. -/
theorem Update.version {sha256 : String → String} {patches : Prop} {tr : Trace Op Reply}
    {copy : NodeClaim} (h : Update sha256 patches tr o copy) :
    copy.resourceVersion = o.resourceVersion := by
  cases h with
  | keep _ _ hversion => exact hversion
  | write => rfl
  | reserve => rfl
  | patch => rfl
  | release => rfl

/-- An update is made from an object that was read.  A read shows the object of
the name that was asked for, the clock never shows the zero time, and a nonce
is a text of 32 digits. -/
def habit (sha256 : String → String) (patches : Prop) : Habit Op Reply where
  ok tr op := match op with
    | .update copy => ∃ o, Read o tr ∧ Update sha256 patches tr o copy
    | _ => True
  rep op r := match op, r with
    | .get name, r => ∀ o, r = .ok o → o.name = name
    | .update _, _ => True
    | .now, r => r ≠ 0
    | .nonce, r => ∀ n, r = .ok n → hex32Pattern n = true

/-! ### The code of the store -/

variable {sha256 : String → String} {patches : Prop} {tr tr' : Trace Op Reply}

theorem Read.mono (h : Read o tr) (hsub : tr ⊆ tr') : Read o tr' := by
  obtain ⟨name, hmem⟩ := h
  exact ⟨name, hsub hmem⟩

theorem Read.cons {e : Event Op Reply} (h : Read o tr) : Read o (e :: tr) :=
  h.mono (List.subset_cons_self _ _)

theorem read_cons {name : String} : Read o (⟨.get name, .ok o⟩ :: tr) :=
  ⟨name, List.mem_cons_self⟩

/-- The record may be written on the object. -/
def Planned (sha256 : String → String) (o : NodeClaim) (r' : CreateFenceRecord)
    (tr : Trace Op Reply) : Prop :=
  ∃ r, decodeCreateFence sha256 o.createFence = .ok r ∧ FenceWrite tr r r'

theorem ok_write {r : CreateFenceRecord} (ho : Read o tr)
    (hr : Planned sha256 o r tr) : (habit sha256 patches).ok tr (.update (o.withRecord r)) := by
  obtain ⟨_, hdecode, hwrite⟩ := hr
  exact ⟨o, ho, .write hdecode hwrite⟩

theorem Store.parse_valid {s : Store} {binding : CreateFenceBinding}
    {r : CreateFenceRecord} (h : s.parse o binding = .ok r) : ValidFence r :=
  decodeCreateFence_valid (decode_of_parse h)

theorem getExact_follows : (habit sha256 patches).FollowsE (getExact claim) tr fun o tr' =>
      Read o tr' ∧ o.deleting = false := by
  refine .skip ?_
  refine .perform_bind trivial fun r _ => ?_
  cases r with
  | error => exact .throw
  | ok o =>
    refine .check_bind fun o' ho' => ?_
    obtain rfl : o = o' := Except.ok.inj ho'
    refine .check_bind fun _ hsame => ?_
    refine .skip ?_
    exact .pure ⟨read_cons, by simpa using (not_or.1 (failIf_ok hsame)).2⟩

theorem getProtectedExact_follows {action : String} :
    (habit sha256 patches).FollowsE (getProtectedExact claim action) tr Read := by
  refine .skip ?_
  refine .perform_bind trivial fun r _ => ?_
  cases r with
  | error => exact .throw
  | ok o =>
    refine .check_bind fun o' ho' => ?_
    obtain rfl : o = o' := Except.ok.inj ho'
    refine .skip ?_
    exact .pure read_cons

theorem get_follows {cleanup : CreateFenceCleanupIdentity} :
    (habit s.sha256 patches).FollowsE (s.get claim binding cleanup) tr fun _ _ => True := by
  refine .bind getExact_follows fun current tr₁ _ _ => ?_
  split
  · exact .pure trivial
  · refine .skip ?_
    exact .pure trivial

theorem ensure_follows {cleanup : CreateFenceCleanupIdentity} {baseline : CreateInventory} :
    (habit s.sha256 patches).FollowsE (s.ensure claim binding cleanup baseline) tr
      fun _ _ => True := by
  refine .bind getExact_follows fun current tr₁ _ hcurrent => ?_
  obtain ⟨hread, hdeleting⟩ := hcurrent
  split
  next habsent =>
    refine .skip ?_
    refine .skip ?_
    refine .perform_bind trivial fun now _ => ?_
    refine .perform_bind trivial fun nonce _ => ?_
    refine .check_bind fun token _ => ?_
    refine .perform_bind ⟨current, hread.cons.cons, .reserve habsent hdeleting⟩ fun r _ => ?_
    cases r with
    | some =>
      dsimp only
      split <;> exact .throw
    | none =>
      refine .perform_bind trivial fun r _ => ?_
      refine .check_bind fun readback _ => ?_
      refine .check_bind fun fence _ => ?_
      exact .pure trivial
  · refine .skip ?_
    exact .pure trivial

theorem preVMAssignment_ok {claim : NodeClaim} {a : BaseFirewallAssignment}
    (h : preVMAssignment record claim = .ok a) : record.baseFirewallAssignment = some a := by
  unfold preVMAssignment at h
  split at h
  next a' ha' =>
    split at h
    · cases h
    · rw [ha', Except.ok.inj h]
  · cases h

theorem authorizable_ok {s : Store} {claim : NodeClaim} {binding : CreateFenceBinding}
    {token : String} {intent : CreateAuthorizationKind}
    (h : s.authorizable current claim binding token intent = .ok record) :
    decodeCreateFence s.sha256 current.createFence = .ok record ∧ record.phase = .reserved ∧ (intent = .post ∨ intent = .adoption) := by
  obtain ⟨_, -, h⟩ := except_bind_ok h
  obtain ⟨_, hrecord, h⟩ := except_bind_ok h
  obtain ⟨_, -, h⟩ := except_bind_ok h
  obtain ⟨_, hintent, h⟩ := except_bind_ok h
  obtain ⟨_, hphase, h⟩ := except_bind_ok h
  obtain rfl := Except.ok.inj h
  refine ⟨decode_of_parse hrecord, not_not.1 (not_or.1 (failIf_ok hphase)).1, ?_⟩
  by_contra hneither
  exact failIf_ok hintent (not_or.1 hneither)

/-- A nonce, with its error rewritten. -/
theorem nonce_ok {nonce : Except Err String} {n : String} {f : Err → Err}
    (hrep : ∀ n, nonce = .ok n → hex32Pattern n = true) (h : nonce.mapError f = .ok n) :
    nonce = .ok n ∧ hex32Pattern n = true :=
  ⟨mapError_iff.1 h, hrep n (mapError_iff.1 h)⟩

theorem authorize_follows {intent : CreateAuthorizationKind} :
    (habit s.sha256 patches).FollowsE (s.authorize claim binding token intent) tr fun _ _ => True := by
  refine .bind getExact_follows fun current tr₁ _ hcurrent => ?_
  refine .check_bind fun record hrecord => ?_
  obtain ⟨hdecode, hphase, hintent⟩ := authorizable_ok hrecord
  refine .perform_bind trivial fun now hnow => ?_
  refine .perform_bind trivial fun nonce hnonce => ?_
  refine .check_bind fun issueID hissueID => ?_
  refine .perform_bind trivial fun nonce' hnonce' => ?_
  refine .check_bind fun assignmentIssueID hassignmentIssueID => ?_
  refine .check_bind fun assignment hassignment => ?_
  obtain ⟨rfl, hhex⟩ := nonce_ok hnonce' hassignmentIssueID
  refine .perform_bind (ok_write hcurrent.1.cons.cons.cons ⟨record, hdecode,
    .issue hphase (preVMAssignment_ok hassignment) hintent hnow (nonce_ok hnonce hissueID).2
      (.drawn _ hhex)⟩) fun r _ => ?_
  cases r with
  | some =>
    refine .perform_bind trivial fun readback _ => ?_
    exact .check fun _ _ => trivial
  | none =>
    refine .perform_bind trivial fun readback _ => ?_
    exact .check fun _ _ => trivial

/-! #### The loops of the terminal writes -/

theorem casLoop_follows
    {action lost notConverged : String} {plan : NodeClaim → Code (Option CreateFenceRecord)}
    {verdict : CreateFenceRecord → Verdict} {attempts : ℕ} {lastErr : Option Err}
    (hplan : ∀ current tr, (habit s.sha256 patches).FollowsE (plan current) tr fun r tr' =>
      ∀ record, r = some record → Planned s.sha256 current record tr') :
    (habit s.sha256 patches).FollowsE
      (s.casLoop claim binding action lost notConverged plan verdict attempts lastErr) tr
      Read := by
  induction attempts generalizing lastErr tr with
  | zero => exact .throw
  | succ _ ih =>
    refine .bind getProtectedExact_follows fun current tr₁ _ hcurrent => ?_
    refine .bind (hplan current tr₁) fun planned tr₂ hsub hplanned => ?_
    cases planned with
    | none => exact .pure (hcurrent.mono hsub)
    | some record =>
      refine .perform_bind (ok_write (hcurrent.mono hsub) (hplanned record rfl))
        fun writeErr _ => ?_
      refine .perform_bind trivial fun r _ => ?_
      cases r with
      | error => exact ih
      | ok =>
        dsimp only
        split
        · exact .throw
        split
        · exact ih
        split
        · exact .pure read_cons
        · exact .throw
        · exact ih

theorem protectionLoop_follows
    {action lost notConverged remained : String}
    {plan : NodeClaim → Code (CreateFenceRecord ⊕ CreateFenceRecord)}
    {verdict : CreateFenceRecord → Verdict} {attempts : ℕ} {lastErr : Option Err}
    (hplan : ∀ current tr, (habit s.sha256 patches).FollowsE (plan current) tr fun r tr' =>
      ∀ record, r = .inr record → Planned s.sha256 current record tr') :
    (habit s.sha256 patches).FollowsE
      (s.protectionLoop claim binding action lost notConverged remained plan verdict attempts
        lastErr) tr fun r tr' => Read r.1 tr' := by
  induction attempts generalizing lastErr tr with
  | zero => exact .throw
  | succ _ ih =>
    refine .bind getProtectedExact_follows fun current tr₁ _ hcurrent => ?_
    refine .bind (hplan current tr₁) fun planned tr₂ hsub hplanned => ?_
    cases planned with
    | inl => exact .pure (hcurrent.mono hsub)
    | inr record =>
      refine .perform_bind (ok_write (hcurrent.mono hsub) (hplanned record rfl))
        fun writeErr _ => ?_
      refine .perform_bind trivial fun r _ => ?_
      cases r with
      | error => exact ih
      | ok =>
        dsimp only
        split
        · exact .throw
        split
        · exact ih
        split
        · exact .pure read_cons
        · exact .throw
        · exact ih

/-! #### What they write -/

theorem anchorPlan_follows {vmUUID : String} (huuid : uuidPatternFold vmUUID = true)
    (hlower : toLower vmUUID = vmUUID) {current : NodeClaim} :
    (habit s.sha256 patches).FollowsE (s.anchorPlan claim binding token issueID vmUUID current) tr
      fun r tr' => ∀ record, r = some record → Planned s.sha256 current record tr' := by
  refine .check_bind fun record hrecord => ?_
  refine .skip ?_
  split
  · split
    · split
      · exact .pure fun _ h => by cases h
      · exact .throw
    · exact .throw
  next hcreated =>
    split
    · exact .throw
    next hlive =>
      split
      · exact .throw
      next assignment hassignment =>
        refine .perform_bind trivial fun now hnow => ?_
        refine .pure fun _ h => ?_
        cases h
        obtain ⟨hphase, hrollback⟩ := not_or.1 hlive
        exact ⟨record, decode_of_parse hrecord, .anchor (not_not.1 hphase) (not_not.1 hcreated)
          (not_not.1 hrollback) hassignment hnow huuid hlower⟩

theorem chooseRollbackAt_follows (hvalid : ValidFence record) :
    (habit sha256 patches).FollowsE (chooseRollbackAt record) tr fun t _ => t ≠ 0 := by
  unfold chooseRollbackAt
  split
  next t ht =>
    have htime := (hvalid.unobserved (by rw [ht]; simp)).2.2.1
    rw [ht] at htime
    exact .pure (by simpa [timeSet] using htime)
  · exact (Habit.FollowsE.perform trivial).mono fun _ _ _ h => h.1

theorem rollbackPlan_follows {vmUUID : String} (huuid : uuidPatternFold vmUUID = true)
    {canonical : Option FencedCreateCleanupResolution}
    (hcanonical : ∀ x ∈ canonical, Canonical x ∧ x.vmUUID = vmUUID) {current : NodeClaim} :
    (habit s.sha256 patches).FollowsE
      (s.rollbackPlan claim binding token issueID vmUUID canonical current) tr
      fun r tr' => ∀ record, r = some record → Planned s.sha256 current record tr' := by
  refine .check_bind fun record hrecord => ?_
  refine .check_bind fun _ hown => ?_
  refine .skip ?_
  refine .check_bind fun _ hissued => ?_
  have hvalid := Store.parse_valid hrecord
  have hphase : record.phase = .issued := not_not.1 (failIf_ok hissued)
  have hvm : record.createdVMUUID = vmUUID := by
    have hown := failIf_ok hown
    simp only [not_or, not_not] at hown
    exact hown.2.2.2.2.1
  have hcreated : record.createdVMUUID ≠ "" := by
    rw [hvm]
    rintro rfl
    exact absurd huuid (by decide)
  split
  · exact .pure fun _ h => by cases h
  next hopen =>
    refine .bind (chooseRollbackAt_follows hvalid) fun rollbackAt tr₁ _ hat => ?_
    split
    · -- without a receipt the fence has no rollback yet
      have hrollback : record.rollbackAt = none := by
        by_contra hsome
        exact hopen ⟨hsome, rfl⟩
      refine .pure fun _ h => ?_
      cases h
      exact ⟨record, decode_of_parse hrecord, .rollbackUnresolved hphase hcreated hrollback hat⟩
    next resolution =>
      obtain ⟨hx, hxvm⟩ := hcanonical resolution rfl
      refine .perform_bind trivial fun now hnow => ?_
      refine .check_bind fun applied happlied => ?_
      refine .pure fun _ h => ?_
      cases h
      exact ⟨record, decode_of_parse hrecord, .rollbackResolved hphase hcreated hat hnow hx
        (hxvm.trans hvm.symm) happlied⟩

theorem rejectPlan_follows {current : NodeClaim} :
    (habit s.sha256 patches).FollowsE (s.rejectPlan claim binding token issueID current) tr
      fun r tr' => ∀ record, r = some record → Planned s.sha256 current record tr' := by
  refine .check_bind fun record hrecord => ?_
  refine .skip ?_
  split
  · exact .pure fun _ h => by cases h
  split
  · exact .throw
  next haccepted =>
  split
  · exact .throw
  next hphase =>
  split
  · exact .throw
  next assignment hassignment =>
    refine .perform_bind trivial fun now hnow => ?_
    refine .pure fun _ h => ?_
    cases h
    simp only [not_or, not_not] at haccepted
    exact ⟨record, decode_of_parse hrecord, .reject (not_not.1 hphase) haccepted.1 haccepted.2.1
      hassignment hnow⟩

theorem liveAnchored_ok {s : Store} {claim : NodeClaim} {binding : CreateFenceBinding}
    {token issueID vmUUID mismatch : String} (huuid : uuidPatternFold vmUUID = true)
    (h : s.liveAnchored claim current binding token issueID vmUUID mismatch = .ok record) :
    decodeCreateFence s.sha256 current.createFence = .ok record ∧ record.phase = .issued ∧
      record.createdVMUUID ≠ "" ∧ record.rollbackAt = none := by
  obtain ⟨_, hrecord, h⟩ := except_bind_ok h
  obtain ⟨_, hlive, h⟩ := except_bind_ok h
  obtain rfl := Except.ok.inj h
  have hlive := failIf_ok hlive
  simp only [not_or, not_not] at hlive
  obtain ⟨-, -, -, hphase, -, hvm, -, hrollback⟩ := hlive
  refine ⟨decode_of_parse hrecord, hphase, ?_, hrollback⟩
  rw [hvm]
  rintro rfl
  exact absurd huuid (by decide)

theorem failurePlan_follows {vmUUID : String} (huuid : uuidPatternFold vmUUID = true)
    {current : NodeClaim} :
    (habit s.sha256 patches).FollowsE (s.failurePlan claim binding token issueID vmUUID current) tr
      fun r tr' => ∀ record, r = .inr record → Planned s.sha256 current record tr' := by
  refine .check_bind fun record hrecord => ?_
  obtain ⟨hdecode, hphase, hcreated, hrollback⟩ := liveAnchored_ok huuid hrecord
  split
  · exact .pure fun _ h => by cases h
  · refine .perform_bind trivial fun now hnow => ?_
    refine .pure fun _ h => ?_
    obtain rfl := Sum.inr.inj h
    exact ⟨record, hdecode, .mark hphase hcreated hrollback fun h => hnow (Option.some.inj h)⟩

theorem recoveryPlan_follows {vmUUID : String} (huuid : uuidPatternFold vmUUID = true)
    {current : NodeClaim} :
    (habit s.sha256 patches).FollowsE (s.recoveryPlan claim binding token issueID vmUUID current) tr
      fun r tr' => ∀ record, r = .inr record → Planned s.sha256 current record tr' := by
  refine .check_bind fun record hrecord => ?_
  obtain ⟨hdecode, hphase, hcreated, hrollback⟩ := liveAnchored_ok huuid hrecord
  split
  · exact .pure fun _ h => by cases h
  · refine .pure fun _ h => ?_
    obtain rfl := Sum.inr.inj h
    exact ⟨record, hdecode, .mark hphase hcreated hrollback (by simp)⟩

theorem terminalCleanupPlan_follows {current : NodeClaim} :
    (habit s.sha256 patches).FollowsE (s.terminalCleanupPlan claim binding token vmUUID current) tr
      fun r tr' => ∀ record, r = some record → Planned s.sha256 current record tr' := by
  refine .check_bind fun record hrecord => ?_
  refine .skip ?_
  split
  · exact .pure fun _ h => by cases h
  · refine .perform_bind trivial fun now _ => ?_
    refine .pure fun _ h => ?_
    cases h
    exact ⟨record, decode_of_parse hrecord, .terminal⟩

theorem decodeFloatingIPUpdateRecord_name {value : AnnotationValue FloatingIPUpdateRecord}
    {binding : CreateFenceBinding} {token : String} {update : FloatingIPUpdateRecord}
    (h : decodeFloatingIPUpdateRecord value binding token = .ok update) :
    byteLength update.name ≤ 128 := by
  cases value with
  | absent => cases h
  | malformed => cases h
  | record =>
    unfold decodeFloatingIPUpdateRecord at h
    dsimp only at h
    split_ifs at h with hbad
    cases h
    simp only [not_or, Bool.not_eq_false, validFloatingIPUpdateFence, Bool.and_eq_true,
      decide_eq_true_eq] at hbad
    exact hbad.2.2.2.2.2.2.1.1.1.1.1.2

/-- The VM that is materialized has a canonical identity. -/
theorem materialized_canonical {name : String} {binding : CreateFenceBinding} {token : String}
    {vm : Option VM} {vm' : VM} (hvm : validateMaterializedVM record vm = .ok vm')
    (hreceipt : validateUpdateReceipt name current binding token record vm' = .ok ())
    (hphase : record.phase ≠ .materialized) (hcreated : record.createdVMUUID = toLower vm'.uuid) :
    record.assignmentPhase = some .observed ∧
      Canonical ⟨record.createdVMUUID, vm'.floatingIPName, vm'.publicIPv4⟩ := by
  unfold validateUpdateReceipt at hreceipt
  rw [if_neg fun h => hphase h.2] at hreceipt
  obtain ⟨_, hupdate, hsame⟩ := except_bind_ok hreceipt
  have hlength := decodeFloatingIPUpdateRecord_name (mapError_iff.1 hupdate)
  have hsame := failIf_ok hsame
  simp only [not_or, not_not] at hsame
  unfold validateMaterializedVM at hvm
  cases vm with
  | none => cases hvm
  | some vm =>
    dsimp only at hvm
    split_ifs at hvm with hidentity hempty hassigned haddress hchanged
    obtain rfl := Except.ok.inj hvm
    simp only [not_or, not_not] at hidentity hempty hassigned
    rw [hsame.2.2.2.1] at hlength
    have huuid : uuidPatternFold (toLower vm.uuid) = true := by
      simpa [uuidPatternFold, toLower_toLower] using hidentity.1
    rw [hcreated]
    exact ⟨hassigned.1, canonical_mk huuid (toLower_toLower _) hempty.1 (by omega)
      (by simpa using haddress)⟩

theorem materializePlan_follows {vm : Option VM} {current : NodeClaim} :
    (habit s.sha256 patches).FollowsE (s.materializePlan claim binding token vm current) tr
      fun r tr' => ∀ record, r = some record → Planned s.sha256 current record tr' := by
  refine .skip ?_
  refine .check_bind fun record hrecord => ?_
  refine .skip ?_
  refine .check_bind fun vm' hvm => ?_
  refine .check_bind fun _ hreceipt => ?_
  refine .check_bind fun _ hanchored => ?_
  have hcreated : record.createdVMUUID = toLower vm'.uuid :=
    not_not.1 (not_or.1 (failIf_ok hanchored)).1
  split
  · exact .pure fun _ h => by cases h
  next hopen =>
  split
  · exact .throw
  next hissued =>
  split
  · exact .throw
  next hrollback =>
    obtain ⟨hassigned, hcanonical⟩ := materialized_canonical hvm hreceipt hopen hcreated
    refine .perform_bind trivial fun now hnow => ?_
    refine .pure fun _ h => ?_
    cases h
    have hne : record.createdVMUUID ≠ "" := by
      intro hempty
      rw [hempty] at hcanonical
      have huuid : uuidPatternFold "" = true := (normalizeCleanupResolution_ok hcanonical).2.2.1
      exact absurd huuid (by decide)
    rw [← hcreated]
    exact ⟨record, decode_of_parse hrecord, .materialize (not_not.1 (not_or.1 hissued).1) hne
      (not_not.1 (not_or.1 hrollback).1) hassigned hcanonical hnow⟩

/-! #### The operations -/

theorem recordCreatedVM_follows :
    (habit s.sha256 patches).FollowsE (s.recordCreatedVM claim binding token issueID vmUUID) tr
      Read := by
  refine .check_bind fun _ hidentity => ?_
  have huuid := (not_or.1 (failIf_ok hidentity)).1
  exact casLoop_follows fun current _ =>
    anchorPlan_follows (by simpa using huuid) (toLower_toLower _)

theorem canonicalRollbackReceipt_ok {resolution canonical : Option FencedCreateCleanupResolution}
    {vmUUID : String} (h : canonicalRollbackReceipt resolution vmUUID = .ok canonical) :
    ∀ x ∈ canonical, Canonical x ∧ x.vmUUID = vmUUID := by
  rintro x hx
  cases resolution with
  | none =>
    rw [← Except.ok.inj h] at hx
    cases hx
  | some =>
    obtain ⟨_, hvalue, h⟩ := except_bind_ok h
    obtain ⟨_, hsame, h⟩ := except_bind_ok h
    rw [← Except.ok.inj h] at hx
    obtain rfl := Option.some.inj hx
    exact ⟨(normalizeCleanupResolution_ok hvalue).1, not_not.1 (failIf_ok hsame)⟩

theorem chooseRollback_follows {resolution : Option FencedCreateCleanupResolution} :
    (habit s.sha256 patches).FollowsE (s.chooseRollback claim binding token issueID vmUUID resolution) tr
      Read := by
  refine .check_bind fun _ hidentity => ?_
  have huuid := (not_or.1 (failIf_ok hidentity)).1
  refine .check_bind fun canonical hcanonical => ?_
  exact casLoop_follows fun current _ =>
    rollbackPlan_follows (by simpa using huuid) (canonicalRollbackReceipt_ok hcanonical)

theorem markRejected_follows :
    (habit s.sha256 patches).FollowsE (s.markRejected claim binding token issueID) tr Read :=
  casLoop_follows fun current _ =>
    rejectPlan_follows

theorem markMaterialized_follows {vm : Option VM} :
    (habit s.sha256 patches).FollowsE (s.markMaterialized claim binding token vm) tr Read :=
  casLoop_follows fun current _ =>
    materializePlan_follows

theorem recordTerminalCleanup_follows :
    (habit s.sha256 patches).FollowsE (s.recordTerminalCleanup claim binding token vmUUID) tr
      Read :=
  casLoop_follows fun current _ =>
    terminalCleanupPlan_follows

theorem recordProtectionFailure_follows :
    (habit s.sha256 patches).FollowsE (s.recordProtectionFailure claim binding token issueID vmUUID) tr
      fun r tr' => Read r.1 tr' := by
  refine .check_bind fun _ hidentity => ?_
  have huuid := (not_or.1 (failIf_ok hidentity)).1
  refine .bind (protectionLoop_follows fun current _ =>
    failurePlan_follows (by simpa using huuid))
    fun r _ _ hr => ?_
  exact .pure hr

theorem clearProtectionFailure_follows :
    (habit s.sha256 patches).FollowsE (s.clearProtectionFailure claim binding token issueID vmUUID) tr
      Read := by
  refine .check_bind fun _ hidentity => ?_
  have huuid := (not_or.1 (failIf_ok hidentity)).1
  refine .bind (protectionLoop_follows fun current _ =>
    recoveryPlan_follows (by simpa using huuid))
    fun r _ _ hr => ?_
  exact .pure hr

/-! #### Receipts beside the fence -/

theorem persistFloatingIPUpdate_follows {record : FloatingIPUpdateRecord}
    {accept : FloatingIPUpdateRecord → Bool} (hcurrent : Read current tr) :
    (habit sha256 patches).FollowsE (persistFloatingIPUpdate current record accept) tr Read := by
  refine .perform_bind ⟨current, hcurrent, .keep rfl rfl rfl rfl rfl⟩ fun updateErr _ => ?_
  refine .perform_bind trivial fun r _ => ?_
  refine .check fun written hwritten => ?_
  unfold persistedFloatingIPUpdate at hwritten
  cases r with
  | error => cases hwritten
  | ok =>
    dsimp only at hwritten
    split at hwritten
    · cases hwritten
    split at hwritten
    · cases hwritten
    split at hwritten
    · cases hwritten
      exact read_cons
    · split at hwritten <;> cases hwritten

theorem authorizeFloatingIPUpdate_follows {address name : String} {billingAccountID : ℤ} :
    (habit s.sha256 patches).FollowsE
      (s.authorizeFloatingIPUpdate claim binding token vmUUID address name billingAccountID) tr
      fun r tr' => Read r.1 tr' := by
  refine .check_bind fun desired _ => ?_
  suffices h : ∀ attempts claim lastErr (tr : Trace Op Reply), (habit s.sha256 patches).FollowsE
      (s.authorizeFloatingIPUpdateLoop binding token desired attempts claim lastErr) tr
      fun r tr' => Read r.1 tr' from h 4 claim none tr
  intro attempts
  induction attempts with
  | zero => exact fun _ _ _ => .throw
  | succ _ ih =>
    intro claim _ _
    refine .bind getProtectedExact_follows fun current tr₁ _ hcurrent => ?_
    refine .check_bind fun found _ => ?_
    obtain ⟨_, receipt⟩ := found
    cases receipt with
    | some => exact .pure hcurrent
    | none =>
      refine .perform_bind trivial fun nonce _ => ?_
      refine .check_bind fun issueID _ => ?_
      refine .perform_bind trivial fun now _ => ?_
      refine .bind (.attempt (persistFloatingIPUpdate_follows hcurrent.cons.cons))
        fun r tr₂ _ hr => ?_
      cases r with
      | ok written => exact .pure (hr written rfl)
      | error => exact ih current _ _

theorem finishFloatingIPUpdatePlan_follows {current : NodeClaim}
    {binding : CreateFenceBinding} {token : String} {fence : FloatingIPUpdateFence}
    {terminal : FloatingIPUpdatePhase} :
    (habit sha256 patches).FollowsE (finishFloatingIPUpdatePlan claim current binding token fence terminal)
      tr fun _ _ => True := by
  refine .check_bind fun record _ => ?_
  refine .skip ?_
  split
  · exact .pure trivial
  · refine .skip ?_
    refine .perform_bind trivial fun now _ => ?_
    split <;> exact .pure trivial

theorem finishFloatingIPUpdate_follows {fence : FloatingIPUpdateFence} {terminal : FloatingIPUpdatePhase} :
    (habit sha256 patches).FollowsE (finishFloatingIPUpdate claim binding token fence terminal) tr
      Read := by
  refine .skip ?_
  refine .skip fun {_} => ?_
  suffices h : ∀ attempts claim lastErr (tr : Trace Op Reply), (habit sha256 patches).FollowsE
      (finishFloatingIPUpdateLoop binding token fence terminal attempts claim lastErr) tr
      Read from h 3 claim none tr
  intro attempts
  induction attempts with
  | zero => exact fun _ _ _ => .throw
  | succ _ ih =>
    intro claim _ _
    refine .bind getProtectedExact_follows fun current tr₁ _ hcurrent => ?_
    refine .bind finishFloatingIPUpdatePlan_follows
      fun planned tr₂ hsub _ => ?_
    cases planned with
    | none => exact .pure (hcurrent.mono hsub)
    | some =>
      refine .bind (.attempt (persistFloatingIPUpdate_follows (hcurrent.mono hsub)))
        fun r tr₃ _ hr => ?_
      cases r with
      | ok written => exact .pure (hr written rfl)
      | error => exact ih current _ _

/-- The journal is written on an object that was read, beside its fence. -/
theorem ok_of_writing {call : Journal.Call} {op : Op} (h : (Journal.writing call).ok tr op) :
    (habit sha256 patches).ok tr op := by
  cases op with
  | update =>
    obtain ⟨current, _, hread, rfl, -⟩ := h
    exact ⟨current, hread, .keep rfl rfl rfl rfl rfl⟩
  | get => trivial
  | now => trivial
  | nonce => trivial

/-- So what is known of the journal's operations holds here. -/
theorem journal_follows {α : Type} {call : Journal.Call} {x : Code α}
    {Q : α → Trace Op Reply → Prop} (hx : (Journal.writing call).FollowsE x tr Q) :
    (habit sha256 patches).FollowsE x tr Q :=
  hx.weaken (fun _ _ => ok_of_writing) fun _ _ _ => trivial

/-! #### The assignment of the base firewall -/

theorem persistedAssignment_ok {s : Store} {written : NodeClaim} {binding : CreateFenceBinding}
    {accept : CreateFenceRecord → Bool} {updateErr : Option Err} {readback : Except Err NodeClaim}
    (h : s.persistedAssignment current binding accept updateErr readback = .ok written) :
    readback = .ok written ∧ written.uid = current.uid ∧
      ∃ stored, s.parse written binding = .ok stored ∧ accept stored = true := by
  unfold Store.persistedAssignment at h
  cases readback with
  | error => cases h
  | ok =>
    dsimp only at h
    split at h
    · cases h
    next hsame =>
    split at h
    · cases h
    next stored hstored =>
    split at h
    next haccept =>
      cases h
      exact ⟨rfl, not_not.1 (not_or.1 hsame).1, stored, hstored, haccept⟩
    · split at h <;> cases h

/-- What was read back is the object of the same name. -/
theorem persistAssignment_follows {accept : CreateFenceRecord → Bool} (hcurrent : Read current tr)
    (hrecord : Planned s.sha256 current record tr) :
    (habit s.sha256 patches).FollowsE (s.persistAssignment current binding record accept) tr
      fun written tr' => Read written tr' ∧ written.name = current.name ∧
        written.uid = current.uid ∧ ∃ stored,
          decodeCreateFence s.sha256 written.createFence = .ok stored ∧ accept stored = true := by
  refine .perform_bind (ok_write hcurrent hrecord) fun updateErr _ => ?_
  refine .perform_bind trivial fun r hr => ?_
  refine .check fun written hwritten => ?_
  obtain ⟨rfl, huid, stored, hstored, haccept⟩ := persistedAssignment_ok hwritten
  exact ⟨read_cons, hr written rfl, huid, stored, decode_of_parse hstored, haccept⟩

end InSpaceKube.Karpenter.Fencing
