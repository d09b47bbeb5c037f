/-
InSpaceKube/Karpenter/ValidFence.lean

What `decodeCreateFence` accepts, and that the writers of the store and of the
controller keep to it.

`ValidFence r` has one field for each check, and `validateCreateFence_iff`
says that the checks ask for nothing else.  For each writer there is a lemma:
from a valid record, under what the writer has checked, it makes a valid one.

There is one exception.  ChooseRollback without a receipt marks the
dependents as unresolved, and the record is valid only if the history has no
receipt of the VM yet (`ValidFence.rollback`).
-/
import InSpaceKube.Karpenter.Controller

namespace InSpaceKube.Karpenter

/-! ### The checks -/

/-- The history has the receipt of the anchored VM. -/
def createdReceipt (r : CreateFenceRecord) : Bool :=
  r.cleanupResolutions.any fun resolution => resolution.vmUUID == r.createdVMUUID

/-- How many dispositions of the dependents the record has. -/
def dispositions (r : CreateFenceRecord) : ℕ :=
  (createdReceipt r).toNat + r.dependentUnresolved.toNat + r.dependentsResolvedAt.isSome.toNat

/-- The receipt is in its canonical form. -/
def Canonical (resolution : FencedCreateCleanupResolution) : Prop :=
  normalizeCleanupResolution resolution = .ok resolution

/-- What `decodeCreateFence` accepts, once a record of the first schema has
been migrated. -/
structure ValidFence (r : CreateFenceRecord) : Prop where
  schema : r.schema = .createFence
  phase : validPhase r = true
  intent : validIntent r = true
  created : validCreatedIdentity r = true
  assignment : validBaseFirewallAssignment r = true
  rollback : validRollback r = true
  failure : validProtectionFailure r = true
  resolution : validCleanupResolution r = true
  identity : launchIdentityComplete r = true
  profile : validateProfileBinding r = .ok ()
  baseline : validateCreateInventory r.baseline = .ok ()
  materialized : r.phase = .materialized → r.createdVMUUID ≠ "" ∧
    r.createdVMUUID = r.observedVMUUID ∧ r.rollbackAt = none ∧
    r.assignmentPhase = some .observed ∧ Canonical ⟨r.observedVMUUID, r.floatingIPName, r.publicIPv4⟩
  issued : r.phase = .issued → r.assignmentPhase ≠ some .intent
  bound : r.cleanupResolutions.length ≤ 64
  active : r.cleanupResolutions ≠ [] → r.cleanupVMUUID ≠ ""
  reserved : r.phase = .reserved → r.createdVMUUID = "" ∧ r.rollbackAt = none ∧
    r.assignmentPhase = some .intent
  rejected : r.phase = .rejected → r.createdVMUUID = "" ∧ r.rollbackAt = none ∧
    r.assignmentPhase = some .rejected
  canonical : ∀ resolution ∈ r.cleanupResolutions, Canonical resolution
  sorted : r.cleanupResolutions.Pairwise fun a b => a.vmUUID < b.vmUUID
  current : r.cleanupVMUUID ≠ "" →
    ⟨r.cleanupVMUUID, r.cleanupFloatingIPName, r.cleanupPublicIPv4⟩ ∈ r.cleanupResolutions
  undecided : r.rollbackAt = none → r.dependentUnresolved = false ∧ r.dependentsResolvedAt = none
  resolvedAt : r.dependentsResolvedAt ≠ some 0
  disposed : r.rollbackAt ≠ none → dispositions r = 1

section Checks

variable {r : CreateFenceRecord}

theorem cleanupHistoryCanonical_cons {previous : Option String}
    {resolution : FencedCreateCleanupResolution} {rest : List FencedCreateCleanupResolution} :
    cleanupHistoryCanonical previous (resolution :: rest) = true ↔
      Canonical resolution ∧ (∀ p ∈ previous, p < resolution.vmUUID) ∧
      cleanupHistoryCanonical (some resolution.vmUUID) rest = true := by
  rw [cleanupHistoryCanonical]
  unfold Canonical
  cases normalizeCleanupResolution resolution <;> cases previous <;> simp [and_assoc]

/-- The loop over the history: canonical receipts, sorted by their VM. -/
theorem cleanupHistoryCanonical_iff {previous : Option String}
    {resolutions : List FencedCreateCleanupResolution} :
    cleanupHistoryCanonical previous resolutions = true ↔
      (∀ resolution ∈ resolutions, Canonical resolution) ∧
      resolutions.Pairwise (fun a b => a.vmUUID < b.vmUUID) ∧
      ∀ p ∈ previous, ∀ resolution ∈ resolutions, p < resolution.vmUUID := by
  induction resolutions generalizing previous with
  | nil => simp [cleanupHistoryCanonical]
  | cons _ _ ih =>
    rw [cleanupHistoryCanonical_cons, ih]
    simp only [List.forall_mem_cons, List.pairwise_cons, Option.mem_def, Option.some.injEq,
      forall_eq']
    constructor
    · rintro ⟨hcanonical, hprevious, hrest, hsorted, hafter⟩
      refine ⟨⟨hcanonical, hrest⟩, ⟨hafter, hsorted⟩, fun p hp => ⟨hprevious p hp, ?_⟩⟩
      exact fun later hlater => String.lt_trans (hprevious p hp) (hafter later hlater)
    · rintro ⟨⟨hcanonical, hrest⟩, ⟨hafter, hsorted⟩, hprevious⟩
      exact ⟨hcanonical, fun p hp => (hprevious p hp).1, hrest, hsorted, hafter⟩

theorem validateMaterializedIdentity_iff {u : Unit} : validateMaterializedIdentity r = .ok u ↔
    (r.phase = .materialized → r.createdVMUUID ≠ "" ∧ r.createdVMUUID = r.observedVMUUID ∧
      r.rollbackAt = none ∧ r.assignmentPhase = some .observed ∧
      Canonical ⟨r.observedVMUUID, r.floatingIPName, r.publicIPv4⟩) := by
  unfold validateMaterializedIdentity Canonical normalizeCleanupResolution
  by_cases hphase : r.phase = .materialized
  · by_cases hbad : r.createdVMUUID = "" ∨ r.createdVMUUID ≠ r.observedVMUUID ∨
        r.rollbackAt ≠ none ∨ r.assignmentPhase ≠ some .observed
    · rw [if_neg (not_not.2 hphase), if_pos hbad]
      simp only [reduceCtorEq, false_iff]
      intro h
      obtain ⟨h₁, h₂, h₃, h₄, -⟩ := h hphase
      exact hbad.elim h₁ fun h => h.elim (· h₂) fun h => h.elim (· h₃) (· h₄)
    · rw [if_neg (not_not.2 hphase), if_neg hbad]
      simp only [not_or, not_not] at hbad
      obtain ⟨_, _, _, _⟩ := hbad
      dsimp only
      split_ifs <;> simp_all
  · simp [hphase]

theorem validateCleanupHistory_iff {u : Unit} : validateCleanupHistory r = .ok u ↔
    (∀ resolution ∈ r.cleanupResolutions, Canonical resolution) ∧
    r.cleanupResolutions.Pairwise (fun a b => a.vmUUID < b.vmUUID) ∧
    (r.cleanupVMUUID ≠ "" →
      ⟨r.cleanupVMUUID, r.cleanupFloatingIPName, r.cleanupPublicIPv4⟩ ∈ r.cleanupResolutions) := by
  have hcanonical : cleanupHistoryCanonical none r.cleanupResolutions = true ↔ _ :=
    cleanupHistoryCanonical_iff
  unfold validateCleanupHistory
  split_ifs <;> simp_all

theorem validateDependents_iff {u : Unit} : validateDependents r = .ok u ↔
    (r.rollbackAt = none → r.dependentUnresolved = false ∧ r.dependentsResolvedAt = none) ∧
    r.dependentsResolvedAt ≠ some 0 ∧ (r.rollbackAt ≠ none → dispositions r = 1) := by
  unfold validateDependents dispositions createdReceipt
  dsimp only
  split_ifs <;> grind

theorem validateCreateFence_iff {u : Unit} : validateCreateFence r = .ok u ↔ ValidFence r := by
  simp only [validateCreateFence, except_bind_iff, failIf_iff, mapError_iff,
    validateMaterializedIdentity_iff, validateCleanupHistory_iff, validateDependents_iff]
  constructor
  · rintro ⟨_, hchecks, _, hprofile, _, hbaseline, _, hmaterialized, _, hissued, _, hbound, _,
      hactive, _, hreserved, _, hrejected, _, ⟨hcanonical, hsorted, hcurrent⟩, hundecided, htime,
      hdisposed⟩
    simp only [not_or, not_and, not_not, Bool.not_eq_false, not_lt] at *
    obtain ⟨h₁, h₂, h₃, h₄, h₅, h₆, h₇, h₈, h₉⟩ := hchecks
    exact ⟨h₁, h₂, h₃, h₄, h₅, h₆, h₇, h₈, h₉, hprofile, hbaseline, hmaterialized, hissued, hbound,
      hactive, hreserved, hrejected, hcanonical, hsorted, hcurrent, hundecided, htime, hdisposed⟩
  · intro h
    refine ⟨(), ?_, (), h.profile, (), h.baseline, (), h.materialized, (), ?_, (), ?_, (), ?_,
      (), ?_, (), ?_, (), ⟨h.canonical, h.sorted, h.current⟩, h.undecided, h.resolvedAt, h.disposed⟩
    · simp [h.schema, h.phase, h.intent, h.created, h.assignment, h.rollback, h.failure,
        h.resolution, h.identity]
    · exact fun hbad => h.issued hbad.1 hbad.2
    · exact not_lt.2 h.bound
    · exact fun hbad => h.active hbad.1 hbad.2
    · rintro ⟨hphase, hbad⟩
      obtain ⟨h₁, h₂, h₃⟩ := h.reserved hphase
      exact hbad.elim (· h₁) fun hbad => hbad.elim (· h₂) (· h₃)
    · rintro ⟨hphase, hbad⟩
      obtain ⟨h₁, h₂, h₃⟩ := h.rejected hphase
      exact hbad.elim (· h₁) fun hbad => hbad.elim (· h₂) (· h₃)

end Checks

/-! ### Reading a fence -/

section Decode

variable {sha256 : String → String} {r : CreateFenceRecord}
  {value : AnnotationValue CreateFenceRecord}

theorem decodeCreateFence_valid (h : decodeCreateFence sha256 value = .ok r) : ValidFence r := by
  cases value with
  | absent => cases h
  | malformed => cases h
  | record =>
    obtain ⟨_, hvalid, h⟩ := except_bind_ok h
    cases h
    exact validateCreateFence_iff.1 hvalid

/-- A valid record is read back as it was written. -/
theorem ValidFence.decode (h : ValidFence r) : decodeCreateFence sha256 (.record r) = .ok r := by
  have hupgrade : upgradeCreateFence sha256 r = r := by
    rw [upgradeCreateFence, h.schema, if_neg (by decide)]
  have hvalid : validateCreateFence r = .ok () := validateCreateFence_iff.2 h
  simp only [decodeCreateFence, hupgrade, hvalid]
  rfl

theorem decode_of_parse {binding : CreateFenceBinding}
    (h : parseCreateFence sha256 value binding = .ok r) : decodeCreateFence sha256 value = .ok r := by
  obtain ⟨_, _, h⟩ := except_bind_ok h
  obtain ⟨_, -, h⟩ := except_bind_ok h
  rwa [← Except.ok.inj h]

/-- Migration keeps what a rollback is about. -/
theorem decodeCreateFence_raw (h : decodeCreateFence sha256 value = .ok r) :
    ∃ raw, value = .record raw ∧ r.rollbackAt = raw.rollbackAt ∧
      r.createdVMUUID = raw.createdVMUUID ∧ r.cleanupResolutions = raw.cleanupResolutions := by
  cases value with
  | absent => cases h
  | malformed => cases h
  | record raw =>
    obtain ⟨_, -, h⟩ := except_bind_ok h
    cases h
    refine ⟨raw, rfl, ?_⟩
    unfold upgradeCreateFence
    split <;> exact ⟨rfl, rfl, rfl⟩

end Decode

/-! ### Cleanup receipts -/

theorem normalizeCleanupResolution_ok {x x' : FencedCreateCleanupResolution}
    (h : normalizeCleanupResolution x = .ok x') :
    Canonical x' ∧ x' = { x with vmUUID := toLower x.vmUUID } ∧ uuidPatternFold x'.vmUUID = true ∧
      x'.floatingIPName ≠ "" ∧ x'.publicIPv4 ≠ "" := by
  unfold normalizeCleanupResolution at h
  dsimp only at h
  split_ifs at h with hid hip
  cases h
  obtain ⟨huuid, hname, _⟩ := not_or.1 hid |>.imp id not_or.1
  refine ⟨?_, rfl, by simpa using huuid, hname, ?_⟩
  · unfold Canonical normalizeCleanupResolution
    simp only [toLower_toLower]
    rw [if_neg hid, if_neg hip]
  · rintro hempty
    dsimp only at hempty
    rw [hempty] at hip
    exact hip (by decide)

theorem canonical_mk {vmUUID name address : String} (huuid : uuidPatternFold vmUUID = true)
    (hlower : toLower vmUUID = vmUUID) (hname : name ≠ "") (hlength : byteLength name ≤ 255)
    (haddress : publicIPv4 address = true) : Canonical ⟨vmUUID, name, address⟩ := by
  unfold Canonical normalizeCleanupResolution
  dsimp only
  rw [hlower, if_neg, if_neg]
  · simp [haddress]
  · simp [huuid, hname, hlength]

/-- A cleanup history `decodeCreateFence` accepts. -/
structure History (resolutions : List FencedCreateCleanupResolution) : Prop where
  bound : resolutions.length ≤ 64
  canonical : ∀ resolution ∈ resolutions, Canonical resolution
  sorted : resolutions.Pairwise fun a b => a.vmUUID < b.vmUUID

theorem ValidFence.history {r : CreateFenceRecord} (h : ValidFence r) :
    History r.cleanupResolutions :=
  ⟨h.bound, h.canonical, h.sorted⟩

/-- Sorting a history with a new VM puts its receipt between the others. -/
theorem History.insert {l : List FencedCreateCleanupResolution} {x : FencedCreateCleanupResolution}
    (h : History l) (hlength : l.length < 64) (hx : Canonical x)
    (hnew : ∀ y ∈ l, y.vmUUID ≠ x.vmUUID) :
    History ((l ++ [x]).insertionSort fun a b => a.vmUUID ≤ b.vmUUID) := by
  have hperm := List.perm_insertionSort (fun a b : FencedCreateCleanupResolution =>
    a.vmUUID ≤ b.vmUUID) (l ++ [x])
  have hdistinct : (l ++ [x]).Pairwise fun a b => a.vmUUID ≠ b.vmUUID := by
    refine List.pairwise_append.2 ⟨h.sorted.imp fun hlt heq => ?_, List.pairwise_singleton _ _, ?_⟩
    · rw [heq] at hlt
      exact String.lt_irrefl _ hlt
    · intro a ha b hb
      rw [List.mem_singleton.1 hb]
      exact hnew a ha
  refine ⟨?_, fun y hy => ?_, ?_⟩
  · rw [hperm.length_eq, List.length_append, List.length_singleton]
    omega
  · rcases List.mem_append.1 (hperm.mem_iff.1 hy) with hy | hy
    · exact h.canonical y hy
    · rwa [List.mem_singleton.1 hy]
  · have : Std.Total fun a b : FencedCreateCleanupResolution => a.vmUUID ≤ b.vmUUID :=
      ⟨fun a b => String.le_total a.vmUUID b.vmUUID⟩
    have : IsTrans FencedCreateCleanupResolution fun a b => a.vmUUID ≤ b.vmUUID :=
      ⟨fun _ _ _ => String.le_trans⟩
    have hsorted := List.pairwise_insertionSort (fun a b : FencedCreateCleanupResolution =>
      a.vmUUID ≤ b.vmUUID) (l ++ [x])
    have hdistinct' := (hperm.pairwise_iff fun hne heq => hne heq.symm).2 hdistinct
    refine (hsorted.and hdistinct').imp fun ⟨hle, hne⟩ => ?_
    exact String.not_le.1 fun hge => hne (String.le_antisymm hle hge)

theorem appendCleanupResolution_ok {l l' : List FencedCreateCleanupResolution}
    {x : FencedCreateCleanupResolution} (h : appendCleanupResolution l x = .ok l')
    (hl : History l) : ∃ x', normalizeCleanupResolution x = .ok x' ∧ History l' ∧ x' ∈ l' ∧
      ∀ y, y ∈ l' ↔ y ∈ l ∨ y = x' := by
  obtain ⟨x', hx', h⟩ := except_bind_ok h
  refine ⟨x', hx', ?_⟩
  split at h
  next existing hexisting =>
    split at h
    · cases h
    next hsame =>
    cases h
    obtain rfl : existing = x' := not_not.1 hsame
    have hmem := List.mem_of_find?_eq_some hexisting
    refine ⟨hl, hmem, fun y => ⟨.inl, ?_⟩⟩
    rintro (hy | rfl)
    · exact hy
    · exact hmem
  next hnone =>
    split at h
    · cases h
    next hlength =>
    cases h
    have hperm := List.perm_insertionSort (fun a b : FencedCreateCleanupResolution =>
      a.vmUUID ≤ b.vmUUID) (l ++ [x'])
    have hnew : ∀ y ∈ l, y.vmUUID ≠ x'.vmUUID := fun y hy heq => by
      simpa [heq] using List.find?_eq_none.1 hnone y hy
    have hmem : ∀ y, y ∈ (l ++ [x']).insertionSort (fun a b => a.vmUUID ≤ b.vmUUID) ↔
        y ∈ l ∨ y = x' := fun y => by
      rw [hperm.mem_iff, List.mem_append, List.mem_singleton]
    exact ⟨hl.insert (not_le.1 hlength) (normalizeCleanupResolution_ok hx').1 hnew,
      (hmem x').2 (.inr rfl), hmem⟩

/-! ### The writers -/

section Writers

variable {r : CreateFenceRecord} {a : BaseFirewallAssignment} {now : ℤ}

variable (h : ValidFence r)

include h

/-- `Authorize` issues a reserved fence. -/
theorem ValidFence.issue (hphase : r.phase = .reserved)
    (ha : r.baseFirewallAssignment = some a) {intent : CreateAuthorizationKind}
    (hintent : intent = .post ∨ intent = .adoption) (hnow : now ≠ 0)
    {issueID assignmentIssueID : String} (hissueID : hex32Pattern issueID = true)
    (hassignment : hex32Pattern assignmentIssueID = true) :
    ValidFence (issueRecord r a intent now issueID assignmentIssueID) := by
  obtain ⟨_, hrollback, hintentPhase⟩ := h.reserved hphase
  have haphase : a.phase = .intent := by simpa [CreateFenceRecord.assignmentPhase, ha] using hintentPhase
  have hp := h.phase
  have hf := h.failure
  have hb := h.assignment
  simp only [validPhase, hphase, validProtectionFailure, validBaseFirewallAssignment, ha, haphase,
    Bool.and_eq_true, Bool.or_eq_true, beq_iff_eq] at hp hf hb
  exact { h with
    phase := by simp_all [validPhase, issueRecord, timeSet]
    intent := by simpa [validIntent, issueRecord] using hintent
    assignment := by simp_all [validBaseFirewallAssignment, issueRecord, timeSet]
    rollback := by simp [validRollback, issueRecord, hrollback]
    failure := by simp_all [validProtectionFailure, issueRecord]
    materialized := nofun
    issued := fun _ => by simp [CreateFenceRecord.assignmentPhase, issueRecord]
    reserved := nofun
    rejected := fun h => by cases h }

/-- `RecordCreatedVM` anchors the VM. -/
theorem ValidFence.anchor (hphase : r.phase = .issued)
    (hcreated : r.createdVMUUID = "") (hrollback : r.rollbackAt = none)
    (ha : preIssuedAssignment r = some a) (hnow : now ≠ 0) {vmUUID : String}
    (huuid : uuidPatternFold vmUUID = true) (hlower : toLower vmUUID = vmUUID) :
    ValidFence { r with
      createdVMUUID := vmUUID, launchObservedAt := some now,
      baseFirewallAssignment := some { a with vmUUID := vmUUID } } := by
  obtain ⟨ha, hpre⟩ := Option.filter_eq_some_iff.1 ha
  have hf := h.failure
  have hb := h.assignment
  simp only [Bool.and_eq_true, beq_iff_eq] at hpre
  simp only [validProtectionFailure, validBaseFirewallAssignment, ha, hpre, hcreated,
    Bool.and_eq_true, Bool.or_eq_true, beq_iff_eq] at hf hb
  exact { h with
    created := by simp [validCreatedIdentity, timeSet, hnow, huuid, hlower]
    assignment := by simp_all [validBaseFirewallAssignment, timeSet]
    rollback := by simp [validRollback, hrollback]
    failure := by simp_all [validProtectionFailure]
    materialized := fun h => by rw [hphase] at h; cases h
    issued := fun _ => by simp [CreateFenceRecord.assignmentPhase, hpre]
    reserved := fun h => by rw [hphase] at h; cases h
    rejected := fun h => by rw [hphase] at h; cases h
    disposed := fun h => absurd hrollback h }

/-- `MarkRejected`. -/
theorem ValidFence.reject (hphase : r.phase = .issued)
    (hcreated : r.createdVMUUID = "") (hrollback : r.rollbackAt = none)
    (ha : (r.baseFirewallAssignment.filter fun a => a.phase == .issued && a.vmUUID == "") = some a)
    (hnow : now ≠ 0) :
    ValidFence { r with
      phase := .rejected,
      baseFirewallAssignment := some { a with phase := .rejected, rejectedAt := some now } } := by
  obtain ⟨ha, hpre⟩ := Option.filter_eq_some_iff.1 ha
  have hp := h.phase
  have hi := h.intent
  have hf := h.failure
  have hb := h.assignment
  simp only [Bool.and_eq_true, beq_iff_eq] at hpre
  simp only [validPhase, hphase, validIntent, validProtectionFailure, validBaseFirewallAssignment, ha,
    hpre, Bool.and_eq_true, Bool.or_eq_true, beq_iff_eq] at hp hi hf hb
  exact { h with
    phase := by simp_all [validPhase]
    intent := by simpa [validIntent] using hi
    assignment := by simp_all [validBaseFirewallAssignment, timeSet]
    rollback := by simp [validRollback, hrollback]
    failure := by simp_all [validProtectionFailure]
    materialized := nofun
    issued := nofun
    reserved := nofun
    rejected := fun _ => ⟨hcreated, hrollback, rfl⟩ }

/-- `RecordProtectionFailure` and `ClearProtectionFailure`. -/
theorem ValidFence.mark (hphase : r.phase = .issued)
    (hcreated : r.createdVMUUID ≠ "") (hrollback : r.rollbackAt = none) {at' : Option ℤ}
    (hat : at' ≠ some 0) : ValidFence { r with protectionFailureAt := at' } :=
  { h with
    failure := by
      cases at' with
      | none => rfl
      | some t => simp_all [validProtectionFailure, timeSet] }

/-- `RecordTerminalCleanup` leaves a marker that is not looked at. -/
theorem ValidFence.terminal (marker : Option TerminalCleanupRecord) :
    ValidFence { r with terminalCleanup := marker } :=
  { h with }

/-- A rollback without a receipt: the history must have none of the VM. -/
theorem ValidFence.rollbackUnresolved (hphase : r.phase = .issued)
    (hcreated : r.createdVMUUID ≠ "") (hnow : now ≠ 0) (hnone : createdReceipt r = false) :
    ValidFence { r with
      rollbackAt := some now, protectionFailureAt := none, dependentsResolvedAt := none,
      dependentUnresolved := true } :=
  { h with
    rollback := by simp [validRollback, timeSet, hnow, hphase, hcreated]
    failure := rfl
    materialized := fun h => by rw [hphase] at h; cases h
    reserved := fun h => by rw [hphase] at h; cases h
    rejected := fun h => by rw [hphase] at h; cases h
    undecided := nofun
    resolvedAt := by simp
    disposed := fun _ => by
      simp only [dispositions]
      exact congrArg (fun b => Bool.toNat b + 1 + 0) hnone }

/-- `MarkMaterialized`. -/
theorem ValidFence.materialize (hphase : r.phase = .issued)
    (hcreated : r.createdVMUUID ≠ "") (hrollback : r.rollbackAt = none)
    (hassigned : r.assignmentPhase = some .observed) {floatingIPName publicIPv4 : String}
    (hcanonical : Canonical ⟨r.createdVMUUID, floatingIPName, publicIPv4⟩) (hnow : now ≠ 0) :
    ValidFence { r with
      phase := .materialized, protectionFailureAt := none, observedAt := some now,
      observedVMUUID := r.createdVMUUID, floatingIPName := floatingIPName,
      publicIPv4 := publicIPv4 } := by
  obtain ⟨-, -, _, _, _⟩ := normalizeCleanupResolution_ok hcanonical
  have hp := h.phase
  have hi := h.intent
  simp only [validPhase, hphase, validIntent, Bool.and_eq_true] at hp hi
  exact { h with
    phase := by simp_all [validPhase, timeSet]
    intent := by simpa [validIntent] using hi
    rollback := by simp [validRollback, hrollback]
    failure := rfl
    materialized := fun _ => ⟨hcreated, rfl, hrollback, hassigned, hcanonical⟩
    issued := nofun
    reserved := nofun
    rejected := fun h => by cases h }

/-- A valid fence has an assignment. -/
theorem ValidFence.assigned : r.baseFirewallAssignment ≠ none := by
  intro hnone
  have hassignment := h.assignment
  simp [validBaseFirewallAssignment, hnone] at hassignment

/-- An assignment that is under way belongs to an issued fence. -/
theorem ValidFence.phase_issued (ha : r.assignmentPhase = some .issued) :
    r.phase = .issued := by
  have hp := h.phase
  cases hphase : r.phase with
  | issued => rfl
  | reserved => rw [(h.reserved hphase).2.2] at ha; cases ha
  | rejected => rw [(h.rejected hphase).2.2] at ha; cases ha
  | materialized => rw [(h.materialized hphase).2.2.2.1] at ha; cases ha
  | other => simp [validPhase, hphase] at hp

/-- `AuthorizeBaseFirewall` issues the assignment. -/
theorem ValidFence.reissue (hphase : r.phase = .issued)
    (ha : r.baseFirewallAssignment = some a) (hnow : now ≠ 0) {issueID : String}
    (hissueID : hex32Pattern issueID = true) : ValidFence (issueAssignment r a issueID now) := by
  have hb := h.assignment
  have hidentity : a.firewallUUID = r.cleanup.firewallUUID ∧ a.intentAt ≠ 0 ∧
      a.vmUUID = r.createdVMUUID := by
    simp only [validBaseFirewallAssignment, ha] at hb
    split at hb <;> simp_all
  exact { h with
    assignment := by simp [validBaseFirewallAssignment, issueAssignment, timeSet, hidentity,
      hissueID, hnow]
    materialized := fun h => by simp only [issueAssignment, hphase] at h; cases h
    issued := fun _ => by simp [CreateFenceRecord.assignmentPhase, issueAssignment]
    reserved := fun h => by simp only [issueAssignment, hphase] at h; cases h
    rejected := fun h => by simp only [issueAssignment, hphase] at h; cases h }

/-- `ObserveBaseFirewall` and `RejectBaseFirewall`. -/
theorem ValidFence.endAssignment (ha : r.baseFirewallAssignment = some a)
    (hissued : a.phase = .issued) (hvm : a.vmUUID ≠ "") {terminal : FirewallAssignmentPhase}
    (hterminal : terminal.terminal = true) (hnow : now ≠ 0) :
    ValidFence (endAssignment r a terminal now) := by
  have hphase : r.phase = .issued :=
    h.phase_issued (by simp [CreateFenceRecord.assignmentPhase, ha, hissued])
  have hb := h.assignment
  simp only [validBaseFirewallAssignment, ha, hissued, Bool.and_eq_true] at hb
  have hkind : terminal = .observed ∨ terminal = .rejected := by
    simpa [FirewallAssignmentPhase.terminal] using hterminal
  rcases hkind with rfl | rfl
  all_goals
    exact { h with
      assignment := by
        simp_all [validBaseFirewallAssignment, Karpenter.endAssignment, timeSet]
      materialized := fun h => by simp only [Karpenter.endAssignment, hphase] at h; cases h
      issued := fun _ => by simp [CreateFenceRecord.assignmentPhase, Karpenter.endAssignment]
      reserved := fun h => by simp only [Karpenter.endAssignment, hphase] at h; cases h
      rejected := fun h => by simp only [Karpenter.endAssignment, hphase] at h; cases h }

/-- `persistDependentResolution`. -/
theorem ValidFence.resolveDependents (hunresolved : r.dependentUnresolved = true)
    (hrollback : r.rollbackAt ≠ none) (hnow : now ≠ 0) :
    ValidFence { r with dependentUnresolved := false, dependentsResolvedAt := some now } := by
  have hone := h.disposed hrollback
  have hreceipt : (createdReceipt r).toNat = 0 := by
    simp only [dispositions, hunresolved, Bool.toNat_true] at hone
    omega
  exact { h with
    undecided := fun hnone => absurd hnone hrollback
    resolvedAt := by simpa using hnow
    disposed := fun _ => by
      have hsame : createdReceipt
          { r with dependentUnresolved := false, dependentsResolvedAt := some now } =
          createdReceipt r := rfl
      simp [dispositions, hsame, hreceipt] }

/-- A receipt is added to the history, or one of it becomes the active one, and
the dependents are disposed of accordingly. -/
theorem ValidFence.receipt {l : List FencedCreateCleanupResolution}
    {x : FencedCreateCleanupResolution} (hl : History l) (hx : x ∈ l) (hnow : now ≠ 0)
    {rollbackAt failureAt resolvedAt : Option ℤ} {unresolved : Bool}
    (hrollback : rollbackAt = none ∨
      (timeSet rollbackAt = true ∧ r.phase = .issued ∧ r.createdVMUUID ≠ ""))
    (hfailure : failureAt = none ∨ (failureAt = r.protectionFailureAt ∧ rollbackAt = r.rollbackAt))
    (hundecided : rollbackAt = none → unresolved = false ∧ resolvedAt = none)
    (hresolved : resolvedAt ≠ some 0)
    (hdisposed : rollbackAt ≠ none → (l.any fun y => y.vmUUID == r.createdVMUUID).toNat +
      unresolved.toNat + resolvedAt.isSome.toNat = 1) :
    ValidFence { r with
      rollbackAt := rollbackAt, protectionFailureAt := failureAt,
      dependentUnresolved := unresolved, dependentsResolvedAt := resolvedAt,
      cleanupResolvedAt := some now, cleanupVMUUID := x.vmUUID,
      cleanupFloatingIPName := x.floatingIPName, cleanupPublicIPv4 := x.publicIPv4,
      cleanupResolutions := l } := by
  obtain ⟨-, -, huuid, hname, haddress⟩ := normalizeCleanupResolution_ok (hl.canonical x hx)
  have hphase : r.phase ≠ .issued → rollbackAt = none := fun hne =>
    hrollback.resolve_right fun hr => hne hr.2.1
  have hne : x.vmUUID ≠ "" := fun hempty => by rw [hempty] at huuid; exact absurd huuid (by decide)
  exact { h with
    rollback := by rcases hrollback with hr | hr <;> simp [validRollback, hr]
    failure := by
      rcases hfailure with rfl | ⟨rfl, rfl⟩
      · rfl
      · exact h.failure
    resolution := by simp [validCleanupResolution, timeSet, hnow, huuid, hname, haddress]
    materialized := fun hm => by
      obtain ⟨h₁, h₂, -, h₄⟩ := h.materialized hm
      exact ⟨h₁, h₂, hphase (by rw [hm]; decide), h₄⟩
    bound := hl.bound
    active := fun _ => hne
    reserved := fun hr => ⟨(h.reserved hr).1, hphase (by rw [hr]; decide), (h.reserved hr).2.2⟩
    rejected := fun hr => ⟨(h.rejected hr).1, hphase (by rw [hr]; decide), (h.rejected hr).2.2⟩
    canonical := hl.canonical
    sorted := hl.sorted
    current := fun _ => hx
    undecided := hundecided
    resolvedAt := hresolved
    disposed := hdisposed }

omit h in
theorem applyCleanupResolution_ok {r' : CreateFenceRecord} {x : FencedCreateCleanupResolution}
    (h : applyCleanupResolution r x now = .ok r') (hl : History r.cleanupResolutions) :
    ∃ x' l, normalizeCleanupResolution x = .ok x' ∧ History l ∧
      (∀ y, y ∈ l ↔ y ∈ r.cleanupResolutions ∨ y = x') ∧
      r' = { r with
        cleanupResolvedAt := some now, cleanupVMUUID := x'.vmUUID,
        cleanupFloatingIPName := x'.floatingIPName, cleanupPublicIPv4 := x'.publicIPv4,
        cleanupResolutions := l } := by
  obtain ⟨x', hx', h⟩ := except_bind_ok h
  obtain ⟨l, hl', h⟩ := except_bind_ok h
  obtain ⟨x'', hx'', hhistory, -, hmem⟩ := appendCleanupResolution_ok hl' hl
  obtain rfl : x' = x'' := Except.ok.inj ((normalizeCleanupResolution_ok hx').1.symm.trans hx'')
  exact ⟨x', l, hx', hhistory, hmem, (Except.ok.inj h).symm⟩

/-- `ChooseRollback` with the receipt of the VM. -/
theorem ValidFence.rollbackResolved (hphase : r.phase = .issued)
    (hcreated : r.createdVMUUID ≠ "") {rollbackAt : ℤ} (hrollback : rollbackAt ≠ 0) (hnow : now ≠ 0)
    {x : FencedCreateCleanupResolution} (hx : Canonical x) (hvm : x.vmUUID = r.createdVMUUID)
    {r' : CreateFenceRecord} (happly : applyCleanupResolution { r with
      rollbackAt := some rollbackAt, protectionFailureAt := none,
      dependentsResolvedAt := none } x now = .ok r') :
    ValidFence { r' with dependentUnresolved := false } := by
  obtain ⟨x', l, hx', hl, hmem, rfl⟩ := applyCleanupResolution_ok happly h.history
  obtain rfl : x = x' := Except.ok.inj (hx.symm.trans hx')
  have hin : x ∈ l := (hmem x).2 (.inr rfl)
  have hreceipt : (l.any fun y => y.vmUUID == r.createdVMUUID) = true :=
    List.any_eq_true.2 ⟨x, hin, beq_iff_eq.2 hvm⟩
  refine h.receipt hl hin hnow (.inr ⟨by simp [timeSet, hrollback], hphase, hcreated⟩) (.inl rfl)
    (nofun) (by simp) fun _ => ?_
  rw [hreceipt]
  rfl

omit h in
theorem withObservedReceipt_ok {l : List FencedCreateCleanupResolution}
    (h : withObservedReceipt r = .ok l) (hl : History r.cleanupResolutions) :
    History l ∧ (r.observedVMUUID = "" → l = r.cleanupResolutions) := by
  unfold withObservedReceipt at h
  split at h
  · cases h
    exact ⟨hl, fun _ => rfl⟩
  next hne =>
    obtain ⟨_, -, hhistory, -, -⟩ := appendCleanupResolution_ok h hl
    exact ⟨hhistory, fun hempty => absurd hempty hne⟩

/-- A fence with a rollback has no observed VM. -/
theorem ValidFence.unobserved (hrollback : r.rollbackAt ≠ none) :
    r.phase = .issued ∧ r.createdVMUUID ≠ "" ∧ timeSet r.rollbackAt = true ∧
      r.observedVMUUID = "" := by
  have hr := h.rollback
  have hp := h.phase
  simp only [validRollback, Option.isNone_iff_eq_none, hrollback, Bool.or_eq_true,
    Bool.and_eq_true, beq_iff_eq, bne_iff_ne, false_or] at hr
  obtain ⟨⟨htime, hphase⟩, hcreated⟩ := hr
  simp only [validPhase, hphase, Bool.and_eq_true, beq_iff_eq] at hp
  exact ⟨hphase, hcreated, htime, hp.2.2⟩

/-- `persistCleanupResolution` writes a valid record. -/
theorem ValidFence.resolved {nodeClaim : NodeClaim}
    {x : FencedCreateCleanupResolution} {r' : CreateFenceRecord}
    (hresolved : resolvedRecord nodeClaim r x now = .ok r') (hnow : now ≠ 0) : ValidFence r' := by
  obtain ⟨_, -, hresolved⟩ := except_bind_ok hresolved
  obtain ⟨_, -, hresolved⟩ := except_bind_ok hresolved
  obtain ⟨_, -, hresolved⟩ := except_bind_ok hresolved
  obtain ⟨_, hl₀, hresolved⟩ := except_bind_ok hresolved
  obtain ⟨_, happlied, hresolved⟩ := except_bind_ok hresolved
  obtain ⟨hhistory₀, hsame⟩ := withObservedReceipt_ok (mapError_iff.1 hl₀) h.history
  obtain ⟨x', l, hx', hl, hmem, rfl⟩ :=
    applyCleanupResolution_ok (mapError_iff.1 happlied) hhistory₀
  have hin : x' ∈ l := (hmem x').2 (.inr rfl)
  have hvm : x'.vmUUID = toLower x.vmUUID := by rw [(normalizeCleanupResolution_ok hx').2.1]
  have hrollback : r.rollbackAt = none ∨
      (timeSet r.rollbackAt = true ∧ r.phase = .issued ∧ r.createdVMUUID ≠ "") := by
    by_cases hr : r.rollbackAt = none
    · exact .inl hr
    · obtain ⟨hphase, hcreated, htime, -⟩ := h.unobserved hr
      exact .inr ⟨htime, hphase, hcreated⟩
  -- the anchored VM has its UUID in lower case, so folding the case changes nothing
  have hlower : r.createdVMUUID ≠ "" → toLower r.createdVMUUID = r.createdVMUUID := by
    have hc := h.created
    simp only [validCreatedIdentity, Bool.or_eq_true, Bool.and_eq_true, beq_iff_eq] at hc
    exact fun hne => (hc.resolve_left fun hc => hne hc.2).2.symm
  split at hresolved
  next heq =>
    cases hresolved
    have hreceipt : (l.any fun y => y.vmUUID == r.createdVMUUID) = true := by
      refine List.any_eq_true.2 ⟨x', hin, beq_iff_eq.2 ?_⟩
      rw [hvm, ← hlower heq.1]
      exact (beq_iff_eq.1 heq.2).symm
    refine h.receipt hl hin hnow hrollback (.inr ⟨rfl, rfl⟩) (fun _ => ⟨rfl, rfl⟩) (by simp)
      fun _ => ?_
    rw [hreceipt]
    rfl
  next hother =>
    cases hresolved
    refine h.receipt hl hin hnow hrollback (.inr ⟨rfl, rfl⟩) h.undecided h.resolvedAt fun hr => ?_
    -- another VM: the history says of the anchored one what it said before
    obtain ⟨-, hcreated, -, hobserved⟩ := h.unobserved hr
    have hne : x'.vmUUID ≠ r.createdVMUUID := fun heq => hother ⟨hcreated, by
      rw [equalFold, beq_iff_eq, hlower hcreated, ← hvm, heq]⟩
    have hany : (l.any fun y => y.vmUUID == r.createdVMUUID) = createdReceipt r := by
      rw [Bool.eq_iff_iff, createdReceipt, List.any_eq_true, List.any_eq_true]
      rw [hsame hobserved] at hmem
      constructor
      · rintro ⟨y, hy, heq⟩
        rcases (hmem y).1 hy with hy | rfl
        · exact ⟨y, hy, heq⟩
        · exact absurd (beq_iff_eq.1 heq) hne
      · rintro ⟨y, hy, heq⟩
        exact ⟨y, (hmem y).2 (.inl hy), heq⟩
    rw [hany]
    exact h.disposed hr

omit h

end Writers

end InSpaceKube.Karpenter
