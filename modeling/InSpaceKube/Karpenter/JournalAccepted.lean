/-
InSpaceKube/Karpenter/JournalAccepted.lean

The journals that the operations write are accepted by the decoder again, as
long as a mutation is not observed by a clock that is behind the one it was
issued by.

The decoder cross-checks what different replicas have written: a receipt is not
observed before it was issued, and the receipts of the history differ in their
mutations and in their issue IDs.

* Nothing makes the observing replica compare its clock with the issue time of
  the journal.  The first check needs that in every invocation that observes,
  the clock is not behind the issue time of the fence it is given.
* The second check holds because issue IDs are drawn.  The invariant of the
  stored journals is that an issue ID of the history is not the current one,
  unless its mutation is, and that all of them have been drawn; so a nonce that
  is drawn after the journal was read does not occur in it.
-/
import InSpaceKube.Karpenter.JournalOnce

namespace InSpaceKube.Karpenter.Journal

open Prog

/-! ### What the decoder accepts -/

/-- Two receipts of the history differ in the mutation and in the issue ID. -/
def Differ (e e' : ObservedFloatingIPDelete) : Prop :=
  (observedFloatingIPDeleteFence e).mutation ≠ (observedFloatingIPDeleteFence e').mutation ∧
    e.issueID ≠ e'.issueID

/-- A history the decoder accepts. -/
structure ValidHistory (history : List ObservedFloatingIPDelete) : Prop where
  few : history.length ≤ 64
  valid : ∀ e ∈ history, validateRemovalMutationFence (observedFloatingIPDeleteFence e) = .ok ()
  differ : history.Pairwise Differ

theorem validateObservedDeletes_cons {i : ℕ} {seen : List RemovalMutationFence}
    {e : ObservedFloatingIPDelete} {history : List ObservedFloatingIPDelete} :
    validateObservedDeletes i seen (e :: history) = .ok () ↔
      validateRemovalMutationFence (observedFloatingIPDeleteFence e) = .ok () ∧
      (∀ other ∈ seen, other.mutation ≠ (observedFloatingIPDeleteFence e).mutation ∧
        other.issueID ≠ e.issueID) ∧
      validateObservedDeletes (i + 1) (observedFloatingIPDeleteFence e :: seen) history =
        .ok () := by
  rw [validateObservedDeletes]
  split
  next herror => simp [herror]
  next hvalid =>
  split
  next hmutation =>
    obtain ⟨other, hother, heq⟩ := List.any_eq_true.1 hmutation
    exact ⟨nofun, fun h => absurd (beq_iff_eq.1 heq) (h.2.1 other hother).1⟩
  next hmutation =>
  split
  next hissue =>
    obtain ⟨other, hother, heq⟩ := List.any_eq_true.1 hissue
    exact ⟨nofun, fun h => absurd (beq_iff_eq.1 heq) (h.2.1 other hother).2⟩
  next hissue =>
    refine ⟨fun h => ⟨hvalid, fun other hother => ⟨fun heq => hmutation ?_, fun heq => hissue ?_⟩, h⟩,
      fun h => h.2.2⟩
    · exact List.any_eq_true.2 ⟨other, hother, beq_iff_eq.2 heq⟩
    · exact List.any_eq_true.2 ⟨other, hother, beq_iff_eq.2 heq⟩

theorem validateObservedDeletes_iff {i : ℕ} {seen : List RemovalMutationFence}
    {history : List ObservedFloatingIPDelete} : validateObservedDeletes i seen history = .ok () ↔
      (∀ e ∈ history, validateRemovalMutationFence (observedFloatingIPDeleteFence e) = .ok ()) ∧
      (∀ e ∈ history, ∀ other ∈ seen,
        other.mutation ≠ (observedFloatingIPDeleteFence e).mutation ∧ other.issueID ≠ e.issueID) ∧
      history.Pairwise Differ := by
  induction history generalizing i seen with
  | nil => simp [validateObservedDeletes]
  | cons _ _ ih =>
    rw [validateObservedDeletes_cons, ih, List.pairwise_cons]
    simp only [List.forall_mem_cons]
    constructor
    · rintro ⟨hvalid, hseen, hrest, hall, hdiffer⟩
      exact ⟨⟨hvalid, hrest⟩, ⟨hseen, fun e' he' => (hall e' he').2⟩,
        fun e' he' => (hall e' he').1, hdiffer⟩
    · rintro ⟨⟨hvalid, hrest⟩, ⟨hseen, hall⟩, hfirst, hdiffer⟩
      exact ⟨hvalid, hseen, hrest, fun e' he' => ⟨hfirst e' he', hall e' he'⟩, hdiffer⟩

/-- What a phase asks for. -/
inductive ValidPhase (r : RemovalMutationRecord) : Prop
  | ready (phase : r.phase = .ready) (mutation : r.mutation = {}) (issueID : r.issueID = "")
      (issuedAt : r.issuedAt = none) (rejectedAt : r.rejectedAt = none)
      (observedAt : r.observedAt = none) (history : r.observedFloatingIPDeletes = [])
  | begun (phase : r.phase ≠ .ready)
      (fence : validateRemovalMutationFence (removalMutationFenceFromRecord r) = .ok ())
      (issuedAt : timeSet r.issuedAt = true)
      (times : (r.phase = .issued ∧ r.rejectedAt = none ∧ r.observedAt = none) ∨
        (r.phase = .rejected ∧ timeSet r.rejectedAt ∧ r.observedAt = none) ∨
        (r.phase = .observed ∧ timeSet r.observedAt ∧ r.rejectedAt = none))

/-- The journals the decoder accepts under a binding and a token. -/
structure Valid (binding : CreateFenceBinding) (token : String) (r : RemovalMutationRecord) :
    Prop where
  schema : r.schema = removalMutationFenceSchema
  binding : r.binding = binding
  token_ne : token ≠ ""
  token : r.attemptToken = token
  readyAt : r.readyAt ≠ 0
  history : ValidHistory r.observedFloatingIPDeletes
  phase : ValidPhase r

theorem decodeRemovalMutationRecord_iff {binding : CreateFenceBinding} {token : String}
    {r : RemovalMutationRecord} :
    decodeRemovalMutationRecord (.record r) binding token = .ok r ↔ Valid binding token r := by
  simp only [decodeRemovalMutationRecord, except_bind_iff, failIf_iff]
  constructor
  · rintro ⟨_, hidentity, _, hfew, _, hhistory, h⟩
    simp only [not_or, not_not] at hidentity
    obtain ⟨hschema, hbinding, htoken, hattempt, hready⟩ := hidentity
    obtain ⟨hvalid, -, hdiffer⟩ := validateObservedDeletes_iff.1 hhistory
    refine ⟨hschema, hbinding, htoken, hattempt, hready, ⟨not_lt.1 hfew, hvalid, hdiffer⟩, ?_⟩
    split at h
    next hphase =>
      obtain ⟨_, hempty, -⟩ := except_bind_iff.1 h
      have hempty := failIf_iff.1 hempty
      simp only [not_or, not_not] at hempty
      obtain ⟨h₁, h₂, h₃, h₄, h₅, h₆⟩ := hempty
      exact .ready hphase h₁ h₂ h₃ h₄ h₅ h₆
    next hphase =>
      obtain ⟨_, hfence, h⟩ := except_bind_iff.1 h
      obtain ⟨_, hissued, h⟩ := except_bind_iff.1 h
      obtain ⟨_, htimes, -⟩ := except_bind_iff.1 h
      exact .begun hphase (mapError_iff.1 hfence) (Bool.of_not_eq_false (failIf_iff.1 hissued))
        (not_not.1 (failIf_iff.1 htimes))
  · intro h
    refine ⟨(), ?_, (), not_lt.2 h.history.few, (), ?_, ?_⟩
    · simp only [not_or, not_not]
      exact ⟨h.schema, h.binding, h.token_ne, h.token, h.readyAt⟩
    · exact validateObservedDeletes_iff.2
        ⟨h.history.valid, fun _ _ _ hmem => absurd hmem List.not_mem_nil, h.history.differ⟩
    · cases h.phase with
      | ready phase mutation issueID issuedAt rejectedAt observedAt history =>
        rw [if_pos phase]
        refine except_bind_iff.2 ⟨(), failIf_iff.2 ?_, rfl⟩
        simp [mutation, issueID, issuedAt, rejectedAt, observedAt, history]
      | begun phase fence issuedAt times =>
        rw [if_neg phase]
        refine except_bind_iff.2 ⟨(), mapError_iff.2 fence, ?_⟩
        refine except_bind_iff.2 ⟨(), failIf_iff.2 (by rw [issuedAt]; exact Bool.noConfusion), ?_⟩
        exact except_bind_iff.2 ⟨(), failIf_iff.2 (not_not.2 times), rfl⟩

/-! ### Fences -/

/-- Normalizing twice is normalizing once. -/
theorem normalizeRemovalMutation_idem {mutation desired : RemovalMutation}
    (h : normalizeRemovalMutation mutation = .ok desired) :
    normalizeRemovalMutation desired = .ok desired := by
  -- the checks are those of the normalized mutation
  have hdesired : desired = { mutation with
      location := trimSpace mutation.location, vmUUID := toLower (trimSpace mutation.vmUUID) } := by
    unfold normalizeRemovalMutation at h
    dsimp only at h
    split at h
    · cases h
    split at h
    all_goals
      repeat' split at h
      all_goals first
        | exact (Except.ok.inj h).symm
        | cases h
  have hsame : ({ desired with
      location := trimSpace desired.location, vmUUID := toLower (trimSpace desired.vmUUID) } :
      RemovalMutation) = desired := by
    rw [hdesired]
    simp only [trimSpace_trimSpace, trimSpace_toLower, toLower_toLower]
  unfold normalizeRemovalMutation at h ⊢
  rw [hsame]
  rwa [← hdesired] at h

/-- What the validator asks of a fence. -/
structure ValidFence (fence : RemovalMutationFence) : Prop where
  normal : normalizeRemovalMutation fence.mutation = .ok fence.mutation
  issueID : hex32Pattern fence.issueID = true
  issuedAt : fence.issuedAt ≠ 0
  observedAt : ((fence.phase = .issued ∨ fence.phase = .rejected) ∧ fence.observedAt = 0) ∨
    (fence.phase = .observed ∧ fence.observedAt ≠ 0 ∧ fence.issuedAt ≤ fence.observedAt)

theorem validateRemovalMutationFence_iff {fence : RemovalMutationFence} :
    validateRemovalMutationFence fence = .ok () ↔ ValidFence fence := by
  simp only [validateRemovalMutationFence, except_bind_iff, failIf_iff]
  constructor
  · rintro ⟨_, hnormal, _, hidentity, _, hissued, h⟩
    simp only [not_or, not_not, Bool.not_eq_false] at hidentity
    obtain ⟨rfl, hhex⟩ := hidentity
    refine ⟨hnormal, hhex, hissued, ?_⟩
    split at h
    next hphase =>
      split at h
      · cases h
      next hzero => exact .inl ⟨.inl hphase, not_not.1 hzero⟩
    next hphase =>
      split at h
      · cases h
      next hzero => exact .inl ⟨.inr hphase, not_not.1 hzero⟩
    next hphase =>
      split at h
      · cases h
      next htimes =>
        rw [not_or, not_lt] at htimes
        exact .inr ⟨hphase, htimes⟩
    · cases h
  · rintro ⟨hnormal, hhex, hissued, htimes⟩
    refine ⟨_, hnormal, (), by simp [hhex], (), hissued, ?_⟩
    rcases htimes with ⟨hphase | hphase, hzero⟩ | ⟨hphase, hset, hle⟩
    · rw [hphase]
      exact if_neg (not_not.2 hzero)
    · rw [hphase]
      exact if_neg (not_not.2 hzero)
    · rw [hphase]
      exact if_neg (not_or.2 ⟨hset, not_lt.2 hle⟩)

/-! ### The history -/

/-- A receipt of the history with the current issue ID is one of the current
mutation. -/
def Clean (r : RemovalMutationRecord) : Prop :=
  ∀ e ∈ r.observedFloatingIPDeletes, e.issueID = r.issueID →
    (observedFloatingIPDeleteFence e).mutation = r.mutation

/-- The issue IDs of a journal. -/
def issueIDs (r : RemovalMutationRecord) : List String :=
  r.issueID :: r.observedFloatingIPDeletes.map (·.issueID)

/-- Adding the receipt of `fence` keeps the history valid, unless its issue ID
has been used for another mutation. -/
theorem appendObserved_valid {r r' : RemovalMutationRecord} {fence : RemovalMutationFence}
    {now : ℤ} (h : appendObservedFloatingIPDelete r fence now = .ok r')
    (hhistory : ValidHistory r.observedFloatingIPDeletes)
    (hclean : ∀ e ∈ r.observedFloatingIPDeletes, e.issueID = fence.issueID →
      (observedFloatingIPDeleteFence e).mutation = fence.mutation)
    (hfence : ValidFence { fence with phase := .observed, observedAt := now }) :
    ValidHistory r'.observedFloatingIPDeletes ∧
      ∀ e ∈ r'.observedFloatingIPDeletes, e ∈ r.observedFloatingIPDeletes ∨
        ((observedFloatingIPDeleteFence e).mutation = fence.mutation ∧
          e.issueID = fence.issueID) := by
  unfold appendObservedFloatingIPDelete at h
  split at h
  · cases h
    exact ⟨hhistory, fun e he => .inl he⟩
  next hop =>
  have hop := not_not.1 hop
  split at h
  · split at h
    · cases h
    cases h
    exact ⟨hhistory, fun e he => .inl he⟩
  next hnone =>
  split at h
  · cases h
  next hfew =>
  cases h
  have hmutation : (observedFloatingIPDeleteFence (observedDelete fence now)).mutation =
      fence.mutation := observedDelete_mutation hop
  have hnew : observedFloatingIPDeleteFence (observedDelete fence now) =
      { fence with phase := .observed, observedAt := now } :=
    congrArg (fun m => RemovalMutationFence.mk m .observed fence.issueID fence.issuedAt now) hmutation
  refine ⟨⟨?_, ?_, ?_⟩, ?_⟩
  · rw [List.length_append, List.length_singleton]
    exact Nat.succ_le_of_lt (not_le.1 hfew)
  · refine List.forall_mem_append.2 ⟨hhistory.valid, List.forall_mem_singleton.2 ?_⟩
    rw [hnew]
    exact validateRemovalMutationFence_iff.2 hfence
  · refine List.pairwise_append.2 ⟨hhistory.differ, List.pairwise_singleton _ _, ?_⟩
    rintro e he _ hlast
    rw [List.mem_singleton.1 hlast]
    -- the mutation is not in the history, and so neither is its issue ID
    have hother : (observedFloatingIPDeleteFence e).mutation ≠ fence.mutation :=
      receipt_none hnone he
    exact ⟨fun heq => hother (heq.trans hmutation), fun heq => hother (hclean e he heq)⟩
  · exact List.forall_mem_append.2 ⟨fun _ => .inl, List.forall_mem_singleton.2 (.inr ⟨hmutation, rfl⟩)⟩

/-! ### The writes -/

/-- The clock is not behind the issue time of the fence that is observed. -/
def Call.NotBefore (now : ℤ) : Call → Prop
  | .observe _ _ _ fence => fence.issuedAt ≤ now
  | _ => True

/-- What an invocation may count on: its clock is set and not behind, and its
nonces are 32 hexadecimal digits. -/
def Timely (call : Call) : (op : Op) → Reply op → Prop
  | .now, now => now ≠ 0 ∧ call.NotBefore now
  | .nonce, r => ∀ n, r = .ok n → hex32Pattern n = true
  | .get _, _ => True
  | .update _, _ => True

/-- A journal that may be written on `current`: the decoder accepts it, it is
clean, and its issue IDs are not new, unless they have been drawn. -/
structure Sound (tr : Trace Op Reply) (current : NodeClaim) (call : Call)
    (record : RemovalMutationRecord) : Prop where
  valid : Valid call.binding call.token record
  clean : Clean record
  known : ∀ i ∈ issueIDs record, i = "" ∨ Drew i tr ∨
    ∃ r, current.removalMutation = .record r ∧ i ∈ issueIDs r

section Writes

variable {tr : Trace Op Reply} {current : NodeClaim} {call : Call}
  {record written : RemovalMutationRecord}

variable {binding : CreateFenceBinding} {token : String}

theorem Valid.fence (h : Valid binding token record)
    (hphase : record.phase ≠ .ready) : ValidFence (removalMutationFenceFromRecord record) := by
  cases h.phase with
  | ready phase => exact absurd phase hphase
  | begun _ fence => exact validateRemovalMutationFence_iff.1 fence

/-- A receipt of the current mutation has an issue time. -/
theorem Valid.issuedAt (h : Valid binding token record) (hphase : record.phase ≠ .ready) :
    timeSet record.issuedAt = true := by
  cases h.phase with
  | ready phase => exact absurd phase hphase
  | begun _ _ issuedAt => exact issuedAt

/-- An observed receipt has its time, not before its issue time. -/
theorem Valid.observed (h : Valid binding token record) (hphase : record.phase = .observed) :
    ∃ now, record = { record with
        phase := .observed, observedAt := some now, rejectedAt := none } ∧
      now ≠ 0 ∧ record.issuedAt.getD 0 ≤ now := by
  have hfence := h.fence (by rw [hphase]; exact nofun)
  rcases hfence.observedAt with ⟨hother | hother, -⟩ | ⟨-, hset, hle⟩
  · exact absurd (hphase.symm.trans hother) nofun
  · exact absurd (hphase.symm.trans hother) nofun
  cases h.phase with
  | ready phase => exact absurd (hphase.symm.trans phase) nofun
  | begun _ _ _ times =>
    rcases times with ⟨hother, -⟩ | ⟨hother, -⟩ | ⟨-, htime, _⟩
    · exact absurd (hphase.symm.trans hother) nofun
    · exact absurd (hphase.symm.trans hother) nofun
    · refine ⟨record.observedAt.getD 0, ?_, hset, hle⟩
      cases hobserved : record.observedAt with
      | none =>
        rw [hobserved] at htime
        cases htime
      | some now =>
        cases record
        simp_all

/-- The history is valid after the current receipt has been archived, and has no
issue ID that the journal did not have. -/
theorem archive_valid (hvalid : Valid binding token record) (hclean : Clean record)
    (h : archiveCurrentObservedFloatingIPDelete record = .ok written) :
    ValidHistory written.observedFloatingIPDeletes ∧ written.readyAt = record.readyAt ∧
      ∀ e ∈ written.observedFloatingIPDeletes, e.issueID ∈ issueIDs record := by
  have hkept : ∀ e ∈ record.observedFloatingIPDeletes, e.issueID ∈ issueIDs record := fun e he =>
    List.mem_cons_of_mem _ (List.mem_map_of_mem he)
  unfold archiveCurrentObservedFloatingIPDelete at h
  split at h
  · cases h
    exact ⟨hvalid.history, rfl, hkept⟩
  next hobserved =>
    have hphase : record.phase = .observed := not_not.1 (not_or.1 hobserved).1
    have hfence := hvalid.fence (by rw [hphase]; exact nofun)
    have hsame : { removalMutationFenceFromRecord record with
        phase := .observed, observedAt := (removalMutationFenceFromRecord record).observedAt } =
        removalMutationFenceFromRecord record := by
      rw [← hphase]
      rfl
    obtain ⟨hhistory, hmem⟩ := appendObserved_valid h hvalid.history hclean (hsame ▸ hfence)
    obtain ⟨heq, -, -⟩ := appendObserved_ok h
    refine ⟨hhistory, by rw [heq], fun e he => ?_⟩
    rcases hmem e he with he | ⟨-, hissue⟩
    · exact hkept e he
    · rw [hissue]
      exact .head _

/-- A receipt that is observed at `now`, not before its issue time. -/
theorem observed_valid {now : ℤ}
    (hvalid : Valid binding token record) (hphase : record.phase ≠ .ready) (hclean : Clean record)
    (hnow : now ≠ 0) (hle : record.issuedAt.getD 0 ≤ now)
    (h : appendObservedFloatingIPDelete
      { record with phase := .observed, observedAt := some now, rejectedAt := none }
      (removalMutationFenceFromRecord record) now = .ok written) :
    Valid binding token written ∧ Clean written ∧ ∀ i ∈ issueIDs written, i ∈ issueIDs record := by
  have hfence := hvalid.fence hphase
  have hobserved : ValidFence { removalMutationFenceFromRecord record with
      phase := .observed, observedAt := now } :=
    ⟨hfence.normal, hfence.issueID, hfence.issuedAt, .inr ⟨rfl, hnow, hle⟩⟩
  obtain ⟨hhistory, hmem⟩ := appendObserved_valid h hvalid.history hclean hobserved
  obtain ⟨heq, -, -⟩ := appendObserved_ok h
  have hissued := hvalid.issuedAt hphase
  have hissueID : written.issueID = record.issueID := by rw [heq]
  have hmutation : written.mutation = record.mutation := by rw [heq]
  refine ⟨⟨?_, ?_, hvalid.token_ne, ?_, ?_, hhistory, ?_⟩, fun e he hissue => ?_, fun i hi => ?_⟩
  · rw [heq]
    exact hvalid.schema
  · rw [heq]
    exact hvalid.binding
  · rw [heq]
    exact hvalid.token
  · rw [heq]
    exact hvalid.readyAt
  · rw [heq]
    refine .begun nofun (validateRemovalMutationFence_iff.2 hobserved) hissued (.inr (.inr ?_))
    exact ⟨rfl, bne_iff_ne.2 hnow, rfl⟩
  · rw [hmutation]
    rcases hmem e he with he | ⟨hsame, -⟩
    · exact hclean e he (hissue.trans hissueID)
    · exact hsame
  · rw [issueIDs, List.mem_cons, List.mem_map] at hi
    rcases hi with rfl | ⟨e, he, rfl⟩
    · rw [hissueID]
      exact .head _
    · rcases hmem e he with he | ⟨-, hsame⟩
      · exact .tail _ (List.mem_map_of_mem he)
      · rw [hsame]
        exact .head _

/-- A receipt that is rejected. -/
theorem rejected_valid {now : ℤ} (hvalid : Valid binding token record)
    (hphase : record.phase ≠ .ready) (hclean : Clean record) (hnow : now ≠ 0) : Valid binding token
        { record with phase := .rejected, rejectedAt := some now, observedAt := none } ∧
      Clean { record with phase := .rejected, rejectedAt := some now, observedAt := none } := by
  have hfence := hvalid.fence hphase
  have hissued := hvalid.issuedAt hphase
  refine ⟨⟨hvalid.schema, hvalid.binding, hvalid.token_ne, hvalid.token, hvalid.readyAt,
    hvalid.history, ?_⟩, hclean⟩
  refine .begun nofun (validateRemovalMutationFence_iff.2
    ⟨hfence.normal, hfence.issueID, hfence.issuedAt, .inl ⟨.inr rfl, rfl⟩⟩) hissued ?_
  exact .inr (.inl ⟨rfl, bne_iff_ne.2 hnow, rfl⟩)

/-- What an operation writes is sound, if the journal it has read is clean and
its nonces are new to that journal. -/
theorem Writes.sound (h : Writes tr current call record)
    (hclean : ∀ r, current.removalMutation = .record r → Clean r)
    (hnew : ∀ n, DrewAfter n current tr → ∀ r, current.removalMutation = .record r → n ∉ issueIDs r)
    (htimely : ∀ e ∈ tr, Timely call e.op e.reply) : Sound tr current call record := by
  cases h with
  | opened _ token_ne clock =>
    have hnow := (htimely _ clock).1
    refine ⟨⟨rfl, rfl, token_ne, rfl, hnow, ⟨Nat.zero_le _, List.forall_mem_nil _, .nil⟩, ?_⟩,
      List.forall_mem_nil _, fun i hi => .inl (List.mem_singleton.1 hi)⟩
    exact .ready rfl rfl rfl rfl rfl rfl rfl
  | @issued _ _ _ _ issueID _ _ _ _ _ _ normal journal _ archive nonce clock =>
    have heq := decodeRemovalMutationRecord_eq journal
    rw [heq] at journal
    have hvalid := decodeRemovalMutationRecord_iff.1 journal
    obtain ⟨hhistory, hready, hids⟩ := archive_valid hvalid (hclean _ heq) archive
    have hnow := (htimely _ clock).1
    have hhex : hex32Pattern issueID = true := htimely _ nonce.drew issueID rfl
    refine ⟨⟨rfl, rfl, hvalid.token_ne, rfl, ?_, hhistory, ?_⟩, fun e he hissue => ?_,
      fun i hi => ?_⟩
    · exact hready.trans_ne hvalid.readyAt
    · refine .begun nofun (validateRemovalMutationFence_iff.2
        ⟨normalizeRemovalMutation_idem normal, hhex, hnow, .inl ⟨.inl rfl, rfl⟩⟩)
        (bne_iff_ne.2 hnow) (.inl ⟨rfl, rfl, rfl⟩)
    · have hold := hids e he
      rw [show e.issueID = issueID from hissue] at hold
      exact absurd hold (hnew issueID nonce _ heq)
    · rw [issueIDs, List.mem_cons, List.mem_map] at hi
      rcases hi with rfl | ⟨e, he, rfl⟩
      · exact .inr (.inl nonce.drew)
      · exact .inr (.inr ⟨_, heq, hids e he⟩)
  | @archived _ _ _ _ before _ _ journal phase plan =>
    have heq := decodeRemovalMutationRecord_eq journal
    rw [heq] at journal
    have hvalid := decodeRemovalMutationRecord_iff.1 journal
    obtain ⟨rfl, happend⟩ := finishedRemoval_ok plan
    have hphase : before.phase ≠ .ready := by
      rw [phase]
      exact nofun
    obtain ⟨now, hsame, hnow, hle⟩ := hvalid.observed phase
    have hread : before.observedAt.getD 0 = now := by
      rw [hsame]
      rfl
    have hagain : appendObservedFloatingIPDelete
        { before with phase := .observed, observedAt := some now, rejectedAt := none }
        (removalMutationFenceFromRecord before) now = .ok record := by
      rw [← hsame, ← hread]
      exact happend
    obtain ⟨hwritten, hcleanWritten, hids⟩ :=
      observed_valid hvalid hphase (hclean _ heq) hnow hle hagain
    exact ⟨hwritten, hcleanWritten, fun i hi => .inr (.inr ⟨_, heq, hids i hi⟩)⟩
  | @ended _ _ _ _ before _ _ ends journal since due clock plan =>
    have heq := decodeRemovalMutationRecord_eq journal
    rw [heq] at journal
    have hvalid := decodeRemovalMutationRecord_iff.1 journal
    obtain ⟨hrejected, hobserved⟩ := finishable_ok due
    obtain ⟨hnow, hbefore⟩ := htimely _ clock
    unfold terminalRemoval at plan
    cases ends with
    | observe =>
      have hphase : before.phase ≠ .ready := by
        rcases hobserved rfl with h | h <;> rw [h] <;> exact nofun
      rw [if_pos rfl] at plan
      obtain ⟨hwritten, hcleanWritten, hids⟩ :=
        observed_valid hvalid hphase (hclean _ heq) hnow (since.trans_le hbefore) plan
      exact ⟨hwritten, hcleanWritten, fun i hi => .inr (.inr ⟨_, heq, hids i hi⟩)⟩
    | reject =>
      have hphase : before.phase ≠ .ready := by
        rw [hrejected rfl]
        exact nofun
      rw [if_neg (by decide)] at plan
      cases plan
      obtain ⟨hwritten, hcleanWritten⟩ := rejected_valid hvalid hphase (hclean _ heq) hnow
      exact ⟨hwritten, hcleanWritten, fun i hi => .inr (.inr ⟨_, heq, hi⟩)⟩

end Writes

/-! ### The system -/

section System

variable (plan : Tid → JournalStore × Call)

/-- Thread `t` runs the operation `plan t`. -/
def Runs (t : Tid) (p : Prog Op Reply (Except Err Outcome)) : Prop :=
  p = ((plan t).2.code (plan t).1).run

/-- The system of replicas whose clocks and nonces are as they may count on. -/
def timely : Sem State Op Reply :=
  ⟨fun t op s r s' => exec t op s r s' ∧ Timely (plan t).2 op r, Env⟩

/-- The journal of the object is clean, and its issue IDs have been drawn. -/
def Known (drawn : List (String × Tid)) (o : NodeClaim) : Prop :=
  ∀ r, o.removalMutation = .record r → Clean r ∧ ∀ i ∈ issueIDs r, i = "" ∨ ∃ t, (i, t) ∈ drawn

/-- One NodeClaim with a journal like that, or none, and no update under way. -/
def Begun (s : State) : Prop :=
  (∃ o, s.claim = ⟨[o], true⟩ ∧ Known s.drawn o) ∧ s.pending = []

/-- All journals stored or under way are like that. -/
structure AllKnown (s : State) : Prop where
  log : ∀ o ∈ s.claim.log, Known s.drawn o
  pending : ∀ copy ∈ s.pending, Known s.drawn copy

/-- What an invocation knows after the trace `tr`. -/
structure Knows (t : Tid) (tr : Trace Op Reply) (s : State) : Prop where
  read : ∀ o, Read o tr → Known s.drawn o
  drew : ∀ n, Drew n tr → ∃ u, (n, u) ∈ s.drawn
  timely : ∀ e ∈ tr, Timely (plan t).2 e.op e.reply
  fresh : ∀ n o, DrewAfter n o tr → ∀ r, o.removalMutation = .record r → n ∉ issueIDs r

variable {plan}

theorem Known.mono {drawn drawn' : List (String × Tid)} {o : NodeClaim} (h : Known drawn o)
    (hsub : drawn ⊆ drawn') : Known drawn' o := by
  intro r hr
  obtain ⟨hclean, hids⟩ := h r hr
  exact ⟨hclean, fun i hi => (hids i hi).imp_right fun ⟨u, hu⟩ => ⟨u, hsub hu⟩⟩

variable {tr : Trace Op Reply} {s : State}

theorem Knows.mono {t : Tid} {s' : State} (h : Knows plan t tr s)
    (hsub : s.drawn ⊆ s'.drawn) : Knows plan t tr s' :=
  ⟨fun o ho => (h.read o ho).mono hsub, fun n hn => (h.drew n hn).imp fun _ hu => hsub hu,
    h.timely, h.fresh⟩

theorem AllKnown.store {o : NodeClaim} (h : AllKnown s) (ho : Known s.drawn o) :
    AllKnown (s.store o) :=
  ⟨List.forall_mem_cons.2 ⟨ho, h.log⟩, h.pending⟩

/-- A sound write is known. -/
theorem Knows.written {t : Tid} {current : NodeClaim} {call : Call}
    {record : RemovalMutationRecord} (hknows : Knows plan t tr s) (hread : Read current tr)
    (h : Sound tr current call record) : Known s.drawn (current.withJournal record) := by
  intro r hr
  obtain rfl : record = r := AnnotationValue.record.inj hr
  refine ⟨h.clean, fun i hi => ?_⟩
  rcases h.known i hi with hempty | hdrew | ⟨r', hr', hi'⟩
  · exact .inl hempty
  · exact .inr (hknows.drew i hdrew)
  · exact (hknows.read current hread r' hr').2 i hi'

/-- What an invocation writes, from what it knows. -/
theorem Knows.sound {t : Tid} {current : NodeClaim}
    {record : RemovalMutationRecord} (h : Knows plan t tr s) (hread : Read current tr)
    (hwrites : Writes tr current (plan t).2 record) : Sound tr current (plan t).2 record :=
  hwrites.sound (fun r hr => (h.read current hread r hr).1) (fun n hn => h.fresh n current hn)
    h.timely

theorem read_cons {e : Event Op Reply} {o : NodeClaim}
    (h : Read o (e :: tr)) : (∃ name, e = ⟨.get name, .ok o⟩) ∨ Read o tr := by
  obtain ⟨name, hmem⟩ := h
  rcases List.mem_cons.1 hmem with heq | hmem
  · exact .inl ⟨name, heq.symm⟩
  · exact .inr ⟨name, hmem⟩

theorem drewAfter_cons {e : Event Op Reply} {n : String} {o : NodeClaim}
    (h : DrewAfter n o (e :: tr)) : (e = ⟨.nonce, .ok n⟩ ∧ Read o tr) ∨ DrewAfter n o tr := by
  obtain ⟨newer, older, heq, hread⟩ := h
  cases newer with
  | nil =>
    obtain ⟨rfl, rfl⟩ := List.cons.inj heq
    exact .inl ⟨rfl, hread⟩
  | cons _ newer =>
    obtain ⟨-, rfl⟩ := List.cons.inj heq
    exact .inr ⟨newer, older, rfl, hread⟩

/-- A request whose reply is neither an object nor a nonce. -/
theorem Knows.plain {t : Tid} {s' : State} {e : Event Op Reply}
    (h : Knows plan t tr s) (hsub : s.drawn ⊆ s'.drawn) (htimely : Timely (plan t).2 e.op e.reply)
    (hget : ∀ name, e.op ≠ .get name) (hnonce : ∀ n, e ≠ ⟨.nonce, .ok n⟩) :
    Knows plan t (e :: tr) s' := by
  refine ⟨fun o ho => ?_, fun n hn => ?_, List.forall_mem_cons.2 ⟨htimely, h.timely⟩,
    fun n o hn => ?_⟩
  · rcases read_cons ho with ⟨name, heq⟩ | ho
    · exact absurd (congrArg Event.op heq) (hget name)
    · exact (h.read o ho).mono hsub
  · rcases List.mem_cons.1 hn with heq | hn
    · exact absurd heq.symm (hnonce n)
    · exact (h.drew n hn).imp fun _ hu => hsub hu
  · rcases drewAfter_cons hn with ⟨heq, -⟩ | hn
    · exact absurd heq (hnonce n)
    · exact h.fresh n o hn

/-- An object is read. -/
theorem Knows.get {t : Tid} {name : String} {r : Except Err NodeClaim} (h : Knows plan t tr s)
    (hr : ∀ o, r = .ok o → Known s.drawn o) : Knows plan t (⟨.get name, r⟩ :: tr) s := by
  refine ⟨fun o ho => ?_, fun n hn => ?_, List.forall_mem_cons.2 ⟨trivial, h.timely⟩,
    fun n o hn => ?_⟩
  · rcases read_cons ho with ⟨_, heq⟩ | ho
    · cases heq
      exact hr o rfl
    · exact h.read o ho
  · rcases List.mem_cons.1 hn with heq | hn
    · exact nomatch congrArg Event.op heq
    · exact h.drew n hn
  · rcases drewAfter_cons hn with ⟨heq, -⟩ | hn
    · exact nomatch congrArg Event.op heq
    · exact h.fresh n o hn

/-- A hexadecimal text of 32 digits is not empty. -/
theorem ne_empty_of_hex32 {n : String} (h : hex32Pattern n = true) : n ≠ "" := by
  rintro rfl
  exact absurd h (by decide)

/-- A nonce is drawn: it is new to every journal that has been read. -/
theorem Knows.nonce {t : Tid} {n : String}
    (h : Knows plan t tr s) (hfresh : ∀ u, (n, u) ∉ s.drawn) (hhex : hex32Pattern n = true) :
    Knows plan t (⟨.nonce, .ok n⟩ :: tr) { s with drawn := (n, t) :: s.drawn } := by
  have hsub : s.drawn ⊆ (n, t) :: s.drawn := List.subset_cons_self _ _
  refine ⟨fun o ho => ?_, fun n' hn' => ?_, List.forall_mem_cons.2 ⟨?_, h.timely⟩,
    fun n' o hn' => ?_⟩
  · rcases read_cons ho with ⟨_, heq⟩ | ho
    · exact nomatch congrArg Event.op heq
    · exact (h.read o ho).mono hsub
  · rcases List.mem_cons.1 hn' with heq | hn'
    · cases heq
      exact ⟨t, .head _⟩
    · exact (h.drew n' hn').imp fun _ hu => hsub hu
  · rintro _ heq
    rw [← Except.ok.inj heq]
    exact hhex
  · rcases drewAfter_cons hn' with ⟨heq, hread⟩ | hn'
    · cases heq
      intro r hr hmem
      rcases (h.read o hread r hr).2 n hmem with hempty | ⟨u, hu⟩
      · exact ne_empty_of_hex32 hhex hempty
      · exact hfresh u hu
    · exact h.fresh n' o hn'

theorem timely_tracks : Tracks (timely plan) (fun t => writing (plan t).2) AllKnown (Knows plan)
    (Runs plan) Begun where
  init := by
    rintro s ⟨⟨o, ho, hknown⟩, hpending⟩
    refine ⟨fun o' ho' => ?_, fun copy hcopy => ?_⟩
    · rw [ho] at ho'
      rw [List.mem_singleton.1 ho']
      exact hknown
    · rw [hpending] at hcopy
      cases hcopy
  start := by
    rintro t p s rfl
    refine ⟨⟨fun o ho => ?_, fun n hn => ?_, List.forall_mem_nil _, fun n o hn => ?_⟩, ?_⟩
    · obtain ⟨_, hmem⟩ := ho
      cases hmem
    · cases hn
    · obtain ⟨_, _, heq, -⟩ := hn
      exact absurd heq.symm (by simp)
    · exact call_follows.run (fun _ _ _ => trivial) fun _ _ => trivial
  env := by
    intro _ _ h he
    cases he with
    | deliver copy hcopy =>
      exact ⟨h.store (h.pending copy hcopy), fun t tr hk => hk.mono (List.Subset.refl _)⟩
    | edit current _ hcur hjournal =>
      refine ⟨h.store ?_, fun t tr hk => hk.mono (List.Subset.refl _)⟩
      rcases hjournal with heq | ⟨-, _, _, _, hopened⟩
      · intro r hr
        exact h.log current (Versioned.current_mem hcur) r (heq.symm.trans hr)
      · intro r hr
        obtain rfl := AnnotationValue.record.inj (hopened.symm.trans hr)
        exact ⟨List.forall_mem_nil _, fun i hi => .inl (List.mem_singleton.1 hi)⟩
    | remove => exact ⟨⟨h.log, h.pending⟩, fun t tr hk => hk.mono (List.Subset.refl _)⟩
  step := by
    rintro t tr op s r s' hok h hknows ⟨hexec, htimely⟩
    cases op with
    | get =>
      obtain ⟨rfl, hread⟩ := hexec
      exact ⟨h, trivial, hknows.get (fun o ho => h.log o (Versioned.current_mem (hread o ho).1)),
        fun u tr' hk => hk⟩
    | update =>
      obtain ⟨current, record, hread, rfl, hwrites⟩ := hok
      have hknown := hknows.written hread (hknows.sound hread hwrites)
      have hplain : ∀ s', s.drawn ⊆ s'.drawn →
          Knows plan t (⟨.update (current.withJournal record), r⟩ :: tr) s' := fun s' hsub =>
        hknows.plain hsub htimely (fun _ => nofun) fun n heq => nomatch congrArg Event.op heq
      rcases hexec with ⟨-, rfl⟩ | ⟨-, rfl | rfl⟩
      · exact ⟨h.store hknown, trivial, hplain _ (List.Subset.refl _),
          fun u tr' hk => hk.mono (List.Subset.refl _)⟩
      · exact ⟨h, trivial, hplain _ (List.Subset.refl _), fun u tr' hk => hk⟩
      · exact ⟨⟨h.log, List.forall_mem_cons.2 ⟨hknown, h.pending⟩⟩, trivial,
          hplain _ (List.Subset.refl _), fun u tr' hk => hk.mono (List.Subset.refl _)⟩
    | now =>
      obtain rfl := hexec
      exact ⟨h, trivial, hknows.plain (List.Subset.refl _) htimely (fun _ => nofun) (fun _ => nofun),
        fun u tr' hk => hk⟩
    | nonce =>
      cases r with
      | error =>
        obtain rfl := hexec
        exact ⟨h, trivial, hknows.plain (List.Subset.refl _) htimely (fun _ => nofun)
          (fun _ => nofun), fun u tr' hk => hk⟩
      | ok n =>
        obtain ⟨hfresh, rfl⟩ := hexec
        have hsub : s.drawn ⊆ (n, t) :: s.drawn := List.subset_cons_self _ _
        refine ⟨⟨fun o ho => (h.log o ho).mono hsub, fun o ho => (h.pending o ho).mono hsub⟩,
          trivial, hknows.nonce hfresh (htimely n rfl), fun u tr' hk => hk.mono hsub⟩

/-- **Every journal that is written is accepted again.**  In every run of any
number of replicas in which nonces are 32 hexadecimal digits and no clock reads
zero or, where a mutation is observed, is behind the issue time of its fence,
each journal that an operation is about to write is accepted by the decoder
under the binding and the token the operation was called with. -/
theorem written_journal_accepted {c : Config State Op Reply (Except Err Outcome)}
    (h : Reachable (timely plan) (Runs plan) Begun c) {t : Tid} {copy : NodeClaim}
    {next : Reply (.update copy) → Prog Op Reply (Except Err Outcome)}
    (ht : c.threads t = .running (.call (.update copy) next)) :
    ∃ r, decodeRemovalMutationRecord copy.removalMutation (plan t).2.binding (plan t).2.token =
      .ok r := by
  obtain ⟨_, hknows, _, record, hread, rfl, hwrites⟩ := (timely_tracks.sound h).ok ht
  exact ⟨record, decodeRemovalMutationRecord_iff.2 (hknows.sound hread hwrites).valid⟩

end System

/-! ### Two runs

One replica issues the floating-IP DELETE at time 5, another one observes it. -/

/-- The fence the first replica is given. -/
def workerFence : RemovalMutationFence :=
  { mutation := workerDelete, phase := .issued, issueID := workerIssue, issuedAt := 5,
    observedAt := 0 }

/-- Thread 0 is authorized; every other thread observes. -/
def workerPlan (t : Tid) : JournalStore × Call :=
  (workerStore, if t = 0 then .authorize fencedWorker workerBinding "token" workerDelete true
    else .observe fencedWorker workerBinding "token" workerFence)

theorem workerIssue_hex : hex32Pattern workerIssue = true := by decide +kernel

/-- Replies as a thread may count on them. -/
def timelyServer (t : Tid) (now : ℤ) (hnow : Timely (workerPlan t).2 .now now) :
    (timely workerPlan).Driver t where
  answer := answer t now workerIssue
  sound op s r s' h := by
    refine ⟨answer_sound t now workerIssue op s r s' h, ?_⟩
    cases op with
    | get => trivial
    | update => trivial
    | now =>
      obtain ⟨rfl, -⟩ := Prod.mk.inj (Option.some.inj h)
      exact hnow
    | nonce =>
      simp only [answer] at h
      split at h
      · obtain ⟨rfl, -⟩ := Prod.mk.inj (Option.some.inj h)
        intro n hn
        rw [← Except.ok.inj hn]
        exact workerIssue_hex
      · cases h

theorem timelyServer_drive (t : Tid) (now : ℤ) (hnow : Timely (workerPlan t).2 .now now) (n : ℕ)
    (s : State) (p : Prog Op Reply (Except Err Outcome)) :
    (timelyServer t now hnow).drive n s p = (server t now workerIssue).drive n s p :=
  (timelyServer t now hnow).drive_congr (server t now workerIssue) (fun _ _ => rfl) n s p

theorem begun_workerState : Begun workerState := by
  refine ⟨⟨fencedWorker, rfl, ?_⟩, rfl⟩
  intro r hr
  obtain rfl := AnnotationValue.record.inj hr
  exact ⟨List.forall_mem_nil _, fun i hi => .inl (List.mem_singleton.1 hi)⟩

/-- The replica that observes the DELETE. -/
def observeDelete : Prog Op Reply (Except Err Outcome) :=
  ((Call.observe fencedWorker workerBinding "token" workerFence).code workerStore).run

theorem authorizeDelete_runs : Runs workerPlan 0 authorizeDelete := rfl

theorem observeDelete_runs : Runs workerPlan 1 observeDelete := rfl

/-- The journal an update is about to write. -/
def written : Prog Op Reply (Except Err Outcome) → Option Stored
  | .call (.update copy) _ => some copy.removalMutation
  | _ => none

theorem written_some {p : Prog Op Reply (Except Err Outcome)} {j : Stored}
    (h : written p = some j) :
    ∃ copy next, p = .call (.update copy) next ∧ copy.removalMutation = j := by
  unfold written at h
  split at h
  next copy next => exact ⟨copy, next, rfl, Option.some.inj h⟩
  · cases h

/-- The second replica reads the journal and its clock, and is about to write. -/
def observingRun (now : ℤ) : State × Prog Op Reply (Except Err Outcome) :=
  (server 1 now workerIssue).drive 2 grantedRun.1 observeDelete

/-- A DELETE observed at time 7: the journal that is about to be written is
accepted. -/
theorem written_journal_accepted_observed :
    ∃ c copy next, Reachable (timely workerPlan) (Runs workerPlan) Begun c ∧
      c.threads 1 = .running (.call (.update copy) next) ∧
      ∃ r, decodeRemovalMutationRecord copy.removalMutation workerBinding "token" = .ok r := by
  have htimely : Timely (workerPlan 1).2 .now 7 := ⟨by decide, show (5 : ℤ) ≤ 7 by decide⟩
  have h := (timelyServer 0 5 ⟨by decide, trivial⟩).started (.init begun_workerState) rfl
    authorizeDelete_runs (timelyServer_drive 0 5 _ 5 workerState authorizeDelete)
  have h := (timelyServer 1 7 htimely).started (r := observingRun 7) h rfl observeDelete_runs
    (timelyServer_drive 1 7 htimely 2 grantedRun.1 observeDelete)
  have hwrites : (written (observingRun 7).2).isSome = true := by decide +kernel
  obtain ⟨j, hj⟩ := Option.isSome_iff_exists.1 hwrites
  obtain ⟨copy, next, hcall, -⟩ := written_some hj
  have hrun := congrArg Thread.running hcall
  exact ⟨_, copy, next, h, hrun, written_journal_accepted (t := 1) h hrun⟩

/-- The error with which a receipt is rejected that was observed too early. -/
def observedTooEarly : Err :=
  .new ("durable removal mutation fence has invalid observed floating-IP DELETE receipt 0: " ++
    "observed removal receipt has an invalid observation time")

/-- The journal that is about to be written is rejected with it. -/
def rejectedAsEarly (p : Prog Op Reply (Except Err Outcome)) : Bool :=
  (written p).any fun j => match decodeRemovalMutationRecord j workerBinding "token" with
    | .error e => e == observedTooEarly
    | .ok _ => false

/-- The clock of the second replica reads 3: it writes a journal that nobody can
read any more. -/
theorem written_journal_rejected : ∃ c copy next, Reachable sem (Runs workerPlan) Begun c ∧
      c.threads 1 = .running (.call (.update copy) next) ∧
      decodeRemovalMutationRecord copy.removalMutation workerBinding "token" =
        .error observedTooEarly := by
  have h := (server 0 5 workerIssue).started (r := grantedRun) (.init begun_workerState) rfl
    authorizeDelete_runs rfl
  have h := (server 1 3 workerIssue).started (r := observingRun 3) h rfl observeDelete_runs rfl
  have hrejected : rejectedAsEarly (observingRun 3).2 = true := by decide +kernel
  obtain ⟨j, hj, hdecode⟩ := (Option.any_eq_true ..).1 hrejected
  obtain ⟨copy, next, hcall, rfl⟩ := written_some hj
  refine ⟨_, copy, next, h, congrArg Thread.running hcall, ?_⟩
  split at hdecode
  next e he => rw [he, beq_iff_eq.1 hdecode]
  · cases hdecode

end InSpaceKube.Karpenter.Journal
