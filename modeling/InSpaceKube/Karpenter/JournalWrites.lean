/-
InSpaceKube/Karpenter/JournalWrites.lean

What the operations on the removal journal write, read off their code once.

`Writes` lists the journals an invocation may write on the object it has read
and says what it has checked, drawn and read off the clock by then; there is
one way for each kind of write in `removal_mutation_fence.go`.  `call_follows`
is the walk through the code: every update of an operation is such a write,
and whoever is given an authority has drawn the issue ID and has read the
mutation back as issued.
-/
import InSpaceKube.Karpenter.Journal
import InSpaceKube.Prog.Habit

namespace InSpaceKube.Karpenter.Journal

open Prog

/-- The journal of a NodeClaim, as it is stored. -/
abbrev Stored := AnnotationValue RemovalMutationRecord

/-- The journal has the mutation in this phase, under this issue ID. -/
def At (phase : RemovalPhase) (mutation : RemovalMutation) (issueID : String) : Stored → Prop
  | .record r => r.phase = phase ∧ r.mutation = mutation ∧ r.issueID = issueID
  | _ => False

/-! ### Invocations -/

/-- One operation on the journal. -/
inductive Call
  | ensure (claim : NodeClaim) (binding : CreateFenceBinding) (token : String)
  | authorize (claim : NodeClaim) (binding : CreateFenceBinding) (token : String)
      (mutation : RemovalMutation) (present : Bool)
  | observe (claim : NodeClaim) (binding : CreateFenceBinding) (token : String)
      (fence : RemovalMutationFence)
  | reject (claim : NodeClaim) (binding : CreateFenceBinding) (token : String)
      (fence : RemovalMutationFence)

/-- What it returns when it does not fail. -/
inductive Outcome
  | stored (claim : NodeClaim)
  | authorized (claim : NodeClaim) (authorization : RemovalMutationAuthorization)

/-- Its code. -/
def Call.code (s : JournalStore) : Call → Code Outcome
  | .ensure claim binding token => do
    let current ← s.ensureRemovalFence claim binding token
    pure (.stored current)
  | .authorize claim binding token mutation present => do
    let (current, authorization) ← s.authorizeRemovalMutation claim binding token mutation present
    pure (.authorized current authorization)
  | .observe claim binding token fence => do
    let current ← s.observeRemovalMutation claim binding token fence
    pure (.stored current)
  | .reject claim binding token fence => do
    let current ← s.rejectRemovalMutation claim binding token fence
    pure (.stored current)

/-- The binding it is called with. -/
def Call.binding : Call → CreateFenceBinding
  | .ensure _ binding _ | .authorize _ binding _ _ _ | .observe _ binding _ _
  | .reject _ binding _ _ => binding

/-- The token it is called with. -/
def Call.token : Call → String
  | .ensure _ _ token | .authorize _ _ token _ _ | .observe _ _ token _ | .reject _ _ token _ =>
    token

/-- It is to end the mutation of `fence`, in the phase `terminal`. -/
inductive Call.Ends : Call → RemovalMutationFence → RemovalPhase → Prop
  | observe (claim : NodeClaim) (binding : CreateFenceBinding) (token : String)
      (fence : RemovalMutationFence) : Ends (.observe claim binding token fence) fence .observed
  | reject (claim : NodeClaim) (binding : CreateFenceBinding) (token : String)
      (fence : RemovalMutationFence) : Ends (.reject claim binding token fence) fence .rejected

theorem Call.Ends.terminal {call : Call} {fence : RemovalMutationFence} {terminal : RemovalPhase}
    (h : call.Ends fence terminal) : terminal = .observed ∨ terminal = .rejected := by
  cases h with
  | observe => exact .inl rfl
  | reject => exact .inr rfl

variable {s : JournalStore} {fence : RemovalMutationFence} {terminal : RemovalPhase}
  {current : NodeClaim} {binding : CreateFenceBinding} {record : RemovalMutationRecord}

/-! ### What an invocation has learnt -/

/-- The object is one the invocation has been shown. -/
def Read (o : NodeClaim) (tr : Trace Op Reply) : Prop := ∃ name, ⟨.get name, .ok o⟩ ∈ tr

/-- The nonce is one the invocation has drawn. -/
def Drew (n : String) (tr : Trace Op Reply) : Prop := ⟨.nonce, .ok n⟩ ∈ tr

/-- The nonce was drawn when the object had been read. -/
def DrewAfter (n : String) (o : NodeClaim) (tr : Trace Op Reply) : Prop :=
  ∃ newer older, tr = newer ++ ⟨.nonce, .ok n⟩ :: older ∧ Read o older

variable {tr tr' : Trace Op Reply}

theorem Read.mono {o : NodeClaim} (h : Read o tr) (hsub : tr ⊆ tr') : Read o tr' := by
  obtain ⟨name, hmem⟩ := h
  exact ⟨name, hsub hmem⟩

theorem DrewAfter.drew {n : String} {o : NodeClaim} (h : DrewAfter n o tr) : Drew n tr := by
  obtain ⟨_, _, rfl, -⟩ := h
  exact List.mem_append_right _ (.head _)

/-! ### The writes -/

/-- The journals an invocation writes on the object `current`, and what it
knows by then. -/
inductive Writes (tr : Trace Op Reply) (current : NodeClaim) : Call → RemovalMutationRecord → Prop
  /-- The journal is opened. -/
  | opened {claim : NodeClaim} {binding : CreateFenceBinding} {token : String} {now : ℤ}
      (absent : current.removalMutation = .absent) (token_ne : token ≠ "")
      (clock : ⟨.now, now⟩ ∈ tr) :
      Writes tr current (.ensure claim binding token) (newRemovalMutationReadyRecord binding token now)
  /-- A mutation is issued. -/
  | issued {claim : NodeClaim} {binding : CreateFenceBinding} {token name issueID : String}
      {mutation desired : RemovalMutation} {present : Bool}
      {record archived : RemovalMutationRecord} {now : ℤ}
      (normal : normalizeRemovalMutation mutation = .ok desired)
      (journal : decodeRemovalMutationRecord current.removalMutation binding token = .ok record)
      (answer : removalAnswer name record desired present = .ok none)
      (archive : archiveCurrentObservedFloatingIPDelete record = .ok archived)
      (nonce : DrewAfter issueID current tr) (clock : ⟨.now, now⟩ ∈ tr) :
      Writes tr current (.authorize claim binding token mutation present)
        (issuedRemoval binding token desired archived issueID now)
  /-- The receipt of an observed mutation is added to the history. -/
  | archived {call : Call} {name : String} {fence : RemovalMutationFence} {terminal : RemovalPhase}
      {record written : RemovalMutationRecord} (ends : call.Ends fence terminal)
      (journal : decodeRemovalMutationRecord current.removalMutation call.binding call.token =
        .ok record)
      (phase : record.phase = terminal)
      (plan : finishedRemoval name record fence terminal = .ok (some written)) :
      Writes tr current call written
  /-- The mutation is observed or rejected. -/
  | ended {call : Call} {name : String} {fence : RemovalMutationFence} {terminal : RemovalPhase}
      {record written : RemovalMutationRecord} {now : ℤ} (ends : call.Ends fence terminal)
      (journal : decodeRemovalMutationRecord current.removalMutation call.binding call.token =
        .ok record)
      (since : record.issuedAt.getD 0 = fence.issuedAt)
      (due : finishable name record fence terminal = .ok ())
      (clock : ⟨.now, now⟩ ∈ tr) (plan : terminalRemoval record terminal now = .ok written) :
      Writes tr current call written

/-- An update writes such a journal on an object that was read. -/
def writing (call : Call) : Habit Op Reply where
  ok tr op := match op with
    | .update copy => ∃ current record, Read current tr ∧ copy = current.withJournal record ∧
        Writes tr current call record
    | _ => True
  rep _ _ := True

/-! ### The code -/

section Code

variable {call : Call}

theorem getProtectedExact_follows {claim : NodeClaim} {action : String} :
    (writing call).FollowsE (getProtectedExact claim action) tr fun o tr' => Read o tr' := by
  refine .skip ?_
  refine .perform_bind trivial fun r _ => ?_
  cases r with
  | error => exact .throw
  | ok o =>
    refine .check_bind fun o' ho' => ?_
    obtain rfl : o = o' := Except.ok.inj ho'
    refine .skip ?_
    exact .pure ⟨_, .head _⟩

variable {record : RemovalMutationRecord}

theorem decodeRemovalMutationRecord_eq {value : Stored} {binding : CreateFenceBinding}
    {token : String} (h : decodeRemovalMutationRecord value binding token = .ok record) :
    value = .record record := by
  cases value with
  | absent => cases h
  | malformed => cases h
  | record =>
    obtain ⟨_, -, h⟩ := except_bind_ok h
    obtain ⟨_, -, h⟩ := except_bind_ok h
    obtain ⟨_, -, h⟩ := except_bind_ok h
    split at h
    · obtain ⟨_, -, h⟩ := except_bind_ok h
      rw [Except.ok.inj h]
    · obtain ⟨_, -, h⟩ := except_bind_ok h
      obtain ⟨_, -, h⟩ := except_bind_ok h
      obtain ⟨_, -, h⟩ := except_bind_ok h
      rw [Except.ok.inj h]

/-- What `persistRemovalMutation` returns has been accepted. -/
theorem persistedRemoval_ok {current written : NodeClaim} {accept : RemovalMutationRecord → Bool}
    {updateErr : Option Err} {readback : Except Err NodeClaim}
    (h : persistedRemoval current record accept updateErr readback = .ok written) :
    readback = .ok written ∧
      ∃ stored, written.removalMutation = .record stored ∧ accept stored = true := by
  unfold persistedRemoval at h
  cases readback with
  | error => cases h
  | ok =>
    dsimp only at h
    split at h
    · cases h
    split at h
    · cases h
    next stored hstored =>
    split at h
    next haccept =>
      cases h
      exact ⟨rfl, stored, decodeRemovalMutationRecord_eq hstored, haccept⟩
    · split at h <;> cases h

theorem persistRemovalMutation_follows {s : JournalStore} {current : NodeClaim} {accept : RemovalMutationRecord → Bool}
    (hread : Read current tr) (hwrites : Writes tr current call record) :
    (writing call).FollowsE (s.persistRemovalMutation current record accept) tr
      fun written tr' => Read written tr' ∧
        ∃ stored, written.removalMutation = .record stored ∧ accept stored = true := by
  refine .skip ?_
  refine .perform_bind ⟨current, record, hread, rfl, hwrites⟩ fun updateErr _ => ?_
  refine .perform_bind trivial fun r _ => ?_
  refine .check fun written hwritten => ?_
  obtain ⟨rfl, hstored⟩ := persistedRemoval_ok hwritten
  exact ⟨⟨_, .head _⟩, hstored⟩

end Code

/-! #### EnsureRemovalFence -/

theorem removalFenceDue_absent {s : JournalStore} {claim : NodeClaim} {token : String}
    (h : s.removalFenceDue current claim binding token = .ok true) :
    current.removalMutation = .absent ∧ token ≠ "" := by
  obtain ⟨_, -, h⟩ := except_bind_ok h
  obtain ⟨_, htoken, h⟩ := except_bind_ok h
  split at h
  · obtain ⟨_, -, h⟩ := except_bind_ok h
    cases h
  next habsent => exact ⟨not_not.1 habsent, (not_or.1 (failIf_ok htoken)).1⟩

theorem ensureRemovalLoop_follows {binding : CreateFenceBinding} {token : String} {attempts : ℕ}
    {original claim : NodeClaim} : (writing (.ensure original binding token)).FollowsE
      (s.ensureRemovalLoop binding token attempts claim) tr Read := by
  induction attempts generalizing claim tr with
  | zero => exact .throw
  | succ _ ih =>
    refine .bind getProtectedExact_follows fun current tr₁ _ hread => ?_
    refine .check_bind fun due hdue => ?_
    split
    next hdue' =>
      subst hdue'
      obtain ⟨habsent, htoken⟩ := removalFenceDue_absent hdue
      refine .perform_bind trivial fun now _ => ?_
      refine .bind (.attempt (persistRemovalMutation_follows
        (hread.mono (List.subset_cons_self _ _))
        (.opened habsent htoken (.head _)))) fun r tr₂ _ hr => ?_
      cases r with
      | ok written => exact .pure (hr written rfl).1
      | error => exact ih
    · exact .pure hread

theorem ensureRemovalFence_follows {claim : NodeClaim} {binding : CreateFenceBinding}
    {token : String} : (writing (.ensure claim binding token)).FollowsE
      (s.ensureRemovalFence claim binding token) tr Read :=
  ensureRemovalLoop_follows

/-! #### AuthorizeRemovalMutation -/

/-- An answer without an issue is no authority. -/
theorem removalAnswer_some {name : String}
    {desired : RemovalMutation} {present : Bool} {authorization : RemovalMutationAuthorization}
    (h : removalAnswer name record desired present = .ok (some authorization)) :
    authorization.allowMutation = false := by
  unfold removalAnswer at h
  repeat' split at h
  all_goals first
    | cases h; rfl
    | cases h

theorem journalOf_ok {s : JournalStore} {claim : NodeClaim} {token : String}
    (h : s.journalOf current claim binding token = .ok record) :
    decodeRemovalMutationRecord current.removalMutation binding token = .ok record := by
  obtain ⟨_, -, h⟩ := except_bind_ok h
  obtain ⟨_, -, h⟩ := except_bind_ok h
  exact h

/-- What an invocation that is given an authority knows. -/
def Authorized (authorization : RemovalMutationAuthorization) (tr : Trace Op Reply) : Prop :=
  authorization.allowMutation = true → Drew authorization.fence.issueID tr ∧
    ∃ o, Read o tr ∧
      At .issued authorization.fence.mutation authorization.fence.issueID o.removalMutation

theorem authorizeRemovalLoop_follows {binding : CreateFenceBinding}
    {token : String} {mutation desired : RemovalMutation} {present : Bool}
    (hnormal : normalizeRemovalMutation mutation = .ok desired) {attempts : ℕ}
    {original claim : NodeClaim} {lastErr : Option Err} :
    (writing (.authorize original binding token mutation present)).FollowsE
      (s.authorizeRemovalLoop binding token desired present attempts claim lastErr) tr
      fun r tr' => Read r.1 tr' ∧ Authorized r.2 tr' := by
  induction attempts generalizing claim lastErr tr with
  | zero => exact .throw
  | succ _ ih =>
    refine .bind getProtectedExact_follows fun current tr₁ _ hread => ?_
    refine .check_bind fun record hrecord => ?_
    refine .check_bind fun answer hanswer => ?_
    cases answer with
    | some =>
      refine .pure ⟨hread, fun hallow => ?_⟩
      rw [removalAnswer_some hanswer] at hallow
      cases hallow
    | none =>
      refine .perform_bind trivial fun nonce _ => ?_
      refine .check_bind fun issueID hissueID => ?_
      refine .check_bind fun archived harchived => ?_
      refine .perform_bind trivial fun now _ => ?_
      -- the issue ID is the nonce drawn in this round
      obtain rfl : nonce = .ok issueID := by
        cases nonce with
        | error => cases hissueID
        | ok => exact congrArg _ (Except.ok.inj hissueID)
      have hnonce : DrewAfter issueID current
          (⟨.now, now⟩ :: ⟨.nonce, .ok issueID⟩ :: tr₁) := ⟨[⟨.now, now⟩], tr₁, rfl, hread⟩
      refine .bind (.attempt (persistRemovalMutation_follows
        (hread.mono (fun _ h => .tail _ (.tail _ h)))
        (.issued hnormal (journalOf_ok hrecord) hanswer harchived hnonce (.head _))))
        fun r tr₂ hsub hpersisted => ?_
      cases r with
      | error => exact ih
      | ok written =>
        obtain ⟨hreadback, _, hwritten, haccept⟩ := hpersisted written rfl
        refine .pure ⟨hreadback, fun _ =>
          ⟨hsub (.tail _ (.head _)), written, hreadback, ?_⟩⟩
        rw [hwritten]
        simp only [Bool.and_eq_true, beq_iff_eq] at haccept
        exact ⟨haccept.1.1, haccept.2, haccept.1.2⟩

theorem authorizeRemovalMutation_follows {claim : NodeClaim} {binding : CreateFenceBinding}
    {token : String} {mutation : RemovalMutation} {present : Bool} :
    (writing (.authorize claim binding token mutation present)).FollowsE
      (s.authorizeRemovalMutation claim binding token mutation present) tr
      fun r tr' => Read r.1 tr' ∧ Authorized r.2 tr' :=
  .check_bind fun _ hnormal =>
    authorizeRemovalLoop_follows hnormal

/-! #### ObserveRemovalMutation and RejectRemovalMutation -/

theorem ownJournal_ok {s : JournalStore} {claim : NodeClaim} {token : String}
    (h : s.ownJournal current claim binding token fence = .ok record) :
    decodeRemovalMutationRecord current.removalMutation binding token = .ok record ∧
      record.issuedAt.getD 0 = fence.issuedAt := by
  obtain ⟨_, -, h⟩ := except_bind_ok h
  obtain ⟨decoded, hdecoded, h⟩ := except_bind_ok h
  obtain ⟨_, -, h⟩ := except_bind_ok h
  obtain ⟨_, hsince, h⟩ := except_bind_ok h
  obtain rfl : decoded = record := Except.ok.inj h
  exact ⟨hdecoded, not_not.1 (failIf_ok hsince)⟩

theorem finishPlan_follows {name : String} {call : Call}
    (hends : call.Ends fence terminal)
    (hjournal : decodeRemovalMutationRecord current.removalMutation call.binding call.token =
      .ok record) (hsince : record.issuedAt.getD 0 = fence.issuedAt) :
    (writing call).FollowsE (finishPlan name record fence terminal) tr fun r tr' =>
      ∀ written, r = some written → Writes tr' current call written := by
  unfold finishPlan
  split
  next hphase =>
    refine .check fun r hr written hwritten => ?_
    rw [hwritten] at hr
    exact .archived hends hjournal hphase hr
  · refine .check_bind fun _ hdue => ?_
    refine .perform_bind trivial fun now _ => ?_
    refine .check_bind fun written hwritten => ?_
    refine .pure fun written' heq => ?_
    cases heq
    exact .ended hends hjournal hsince hdue (.head _) hwritten

theorem finishRemovalLoop_follows {call : Call} (hends : call.Ends fence terminal) {attempts : ℕ}
    {claim : NodeClaim} {lastErr : Option Err} : (writing call).FollowsE
      (s.finishRemovalLoop call.binding call.token fence terminal attempts claim lastErr) tr
      Read := by
  induction attempts generalizing claim lastErr tr with
  | zero => exact .throw
  | succ _ ih =>
    refine .bind getProtectedExact_follows fun current tr₁ _ hread => ?_
    refine .check_bind fun record hrecord => ?_
    obtain ⟨hjournal, hsince⟩ := ownJournal_ok hrecord
    refine .bind (finishPlan_follows hends hjournal hsince) fun r tr₂ hsub hplan => ?_
    cases r with
    | none => exact .pure (hread.mono hsub)
    | some written =>
      refine .bind (.attempt (persistRemovalMutation_follows (hread.mono hsub)
        (hplan written rfl))) fun r _ _ hr => ?_
      cases r with
      | ok readback => exact .pure (hr readback rfl).1
      | error => exact ih

theorem finishRemovalMutation_follows {claim : NodeClaim} {call : Call} (hends : call.Ends fence terminal) :
    (writing call).FollowsE
      (s.finishRemovalMutation claim call.binding call.token fence terminal) tr Read := by
  refine .skip ?_
  refine .skip ?_
  exact finishRemovalLoop_follows hends

theorem observeRemovalMutation_follows {claim : NodeClaim} {binding : CreateFenceBinding}
    {token : String} : (writing (.observe claim binding token fence)).FollowsE
      (s.observeRemovalMutation claim binding token fence) tr Read :=
  finishRemovalMutation_follows (.observe claim binding token fence)

theorem rejectRemovalMutation_follows {claim : NodeClaim} {binding : CreateFenceBinding}
    {token : String} : (writing (.reject claim binding token fence)).FollowsE
      (s.rejectRemovalMutation claim binding token fence) tr Read :=
  finishRemovalMutation_follows (.reject claim binding token fence)

/-! #### All of them -/

/-- What an invocation has learnt that has returned. -/
def Learnt (r : Except Err Outcome) (tr : Trace Op Reply) : Prop :=
  ∀ claim authorization, r = .ok (.authorized claim authorization) → Authorized authorization tr

theorem call_follows {call : Call} :
    (writing call).FollowsE (call.code s) tr fun outcome tr' => Learnt (.ok outcome) tr' := by
  cases call with
  | ensure claim binding token =>
    refine .bind ensureRemovalFence_follows fun current _ _ _ => ?_
    exact .pure fun claim authorization h => by cases h
  | authorize claim binding token _ present =>
    refine .bind authorizeRemovalMutation_follows
      fun r tr' _ hr => ?_
    refine .pure fun claim authorization h => ?_
    obtain ⟨-, rfl⟩ := Outcome.authorized.inj (Except.ok.inj h)
    exact hr.2
  | observe claim binding token =>
    refine .bind observeRemovalMutation_follows fun current _ _ _ => ?_
    exact .pure fun claim authorization h => by cases h
  | reject claim binding token =>
    refine .bind rejectRemovalMutation_follows fun current _ _ _ => ?_
    exact .pure fun claim authorization h => by cases h

end InSpaceKube.Karpenter.Journal
