/-
InSpaceKube/Karpenter/Journal.lean

The operations on the journal of destructive mutations
(`removal_mutation_fence.go`): EnsureRemovalFence, AuthorizeRemovalMutation,
ObserveRemovalMutation and RejectRemovalMutation, as programs over the API
server, the clock and the nonce.

The journal is one record on the NodeClaim.  It carries the mutation that was
authorized last, how far that one has got, and the receipts of the floating-IP
DELETEs that have been observed.  All four operations write it through
`persistRemovalMutation`, which reads back what is stored and asks `accept`
about it, whether or not the update came back with an error.

`encodedBytes` is the length of a record's JSON text, which a write bounds.
-/
import InSpaceKube.Karpenter.CreateFence

namespace InSpaceKube.Karpenter

open Prog

/-! ### The journal -/

/-- The store, and how long a record of the journal is. -/
structure JournalStore extends Store where
  encodedBytes : RemovalMutationRecord → ℕ

def maxRemovalMutationEncodedBytes : ℕ := 64 * 1024

def maxCreateCleanupResolutions : ℕ := 64

/-- The fence of an authorization that carries none. -/
def RemovalMutationFence.zero : RemovalMutationFence :=
  { mutation := {}, phase := .other "", issueID := "", issuedAt := 0, observedAt := 0 }

structure RemovalMutationAuthorization where
  fence : RemovalMutationFence := .zero
  active : Bool := false
  allowMutation : Bool := false
deriving DecidableEq, Repr

/-- The receipt of the history for a mutation. -/
def RemovalMutationRecord.receipt (record : RemovalMutationRecord) (mutation : RemovalMutation) :
    Option RemovalMutationFence :=
  (record.observedFloatingIPDeletes.map observedFloatingIPDeleteFence).find? fun fence =>
    fence.mutation == mutation

def historicalObservedFloatingIPDelete (record : RemovalMutationRecord)
    (desired : RemovalMutation) : Option RemovalMutationFence :=
  if desired.operation ≠ .floatingIPDelete then none else record.receipt desired

/-- The receipt `appendObservedFloatingIPDelete` adds. -/
def observedDelete (fence : RemovalMutationFence) (observedAt : ℤ) : ObservedFloatingIPDelete :=
  { location := fence.mutation.location, vmUUID := fence.mutation.vmUUID,
    address := fence.mutation.address, name := fence.mutation.name,
    billingID := fence.mutation.billingAccountID, issueID := fence.issueID,
    issuedAt := fence.issuedAt, observedAt := observedAt }

def appendObservedFloatingIPDelete (record : RemovalMutationRecord) (fence : RemovalMutationFence)
    (observedAt : ℤ) : Except Err RemovalMutationRecord :=
  if fence.mutation.operation ≠ .floatingIPDelete then .ok record
  else
    match record.receipt fence.mutation with
    | some current =>
      if current.issueID ≠ fence.issueID ∨ current.issuedAt ≠ fence.issuedAt ∨
          current.observedAt ≠ observedAt then
        .error (.new ("observed floating-IP DELETE history changed for " ++ fence.mutation.address))
      else .ok record
    | none =>
      if maxCreateCleanupResolutions ≤ record.observedFloatingIPDeletes.length then
        .error (.new ("observed floating-IP DELETE history exceeds " ++
          toString maxCreateCleanupResolutions ++ " entries"))
      else
        .ok { record with observedFloatingIPDeletes :=
          record.observedFloatingIPDeletes ++ [observedDelete fence observedAt] }

def archiveCurrentObservedFloatingIPDelete (record : RemovalMutationRecord) :
    Except Err RemovalMutationRecord :=
  if record.phase ≠ .observed ∨ record.mutation.operation ≠ .floatingIPDelete then .ok record
  else
    let fence := removalMutationFenceFromRecord record
    appendObservedFloatingIPDelete record fence fence.observedAt

/-- `copy.Annotations[AnnotationRemovalMutationFence]` set to a record. -/
def NodeClaim.withJournal (claim : NodeClaim) (record : RemovalMutationRecord) : NodeClaim :=
  { claim with removalMutation := .record record }

/-! ### Writing it -/

variable (s : JournalStore) (name : String) (current claim : NodeClaim)
  (binding : CreateFenceBinding) (token : String) (record : RemovalMutationRecord)
  (desired : RemovalMutation) (fence : RemovalMutationFence) (terminal : RemovalPhase)

/-- What `persistRemovalMutation` makes of its read-back. -/
def persistedRemoval (accept : RemovalMutationRecord → Bool) (updateErr : Option Err)
    (readback : Except Err NodeClaim) : Except Err NodeClaim :=
  let name := "NodeClaim " ++ quote current.name
  match readback with
  | .error e =>
    .error ((GoError.joinOpt updateErr e).within
      ("writing and reading back " ++ name ++ " removal mutation fence"))
  | .ok readback =>
    if readback.uid ≠ current.uid ∨ readback.protectedBy createFenceFinalizer = false then
      .error (.new (name ++ " changed identity or lost protection during removal mutation fencing"))
    else
      match decodeRemovalMutationRecord readback.removalMutation record.binding
          record.attemptToken with
      | .error e => .error (GoError.joinOpt updateErr e)
      | .ok stored =>
        if accept stored then .ok readback
        else
          match updateErr with
          | some e => .error e
          | none => .error (.new (name ++ " removal mutation fence changed during readback"))

def JournalStore.persistRemovalMutation (accept : RemovalMutationRecord → Bool) : Code NodeClaim := do
  check (failIf (maxRemovalMutationEncodedBytes < s.encodedBytes record)
      (.new ("encoding NodeClaim " ++ quote current.name ++ " removal mutation fence exceeds " ++
        toString maxRemovalMutationEncodedBytes ++ " bytes")))
  let updateErr ← call (.update (current.withJournal record))
  check (persistedRemoval current record accept updateErr (← call (.get current.name)))

/-! ### EnsureRemovalFence -/

/-- What `EnsureRemovalFence` finds on the object it has read: a journal, or
that it may open one. -/
def JournalStore.removalFenceDue : Except Err Bool := do
  let name := "NodeClaim " ++ quote claim.name
  let createRecord ← s.parse current binding
  failIf (token = "" ∨ createRecord.token ≠ token) (.new (name ++ " removal fence token changed"))
  if current.removalMutation ≠ .absent then
    let _ ← decodeRemovalMutationRecord current.removalMutation binding token
    pure false
  else
    failIf (current.deleting ∨ createRecord.rollbackAt ≠ none)
        (.new (name ++ " lacks a pre-removal fence after deletion or rollback began"))
    pure true

/-- The loop of `EnsureRemovalFence`. -/
def JournalStore.ensureRemovalLoop : ℕ → NodeClaim → Code NodeClaim
  | 0, claim =>
    throw (.new ("NodeClaim " ++ quote claim.name ++
      " initial removal mutation fence did not converge"))
  | attempts + 1, claim => do
    let current ← getProtectedExact claim "initialize removal mutation fence"
    let due ← check (s.removalFenceDue current claim binding token)
    if due then
      let now ← call .now
      let record := newRemovalMutationReadyRecord binding token now
      match ← attempt (s.persistRemovalMutation current record fun stored =>
          stored.phase == .ready && stored.readyAt == record.readyAt) with
      | .ok written => pure written
      | .error _ => JournalStore.ensureRemovalLoop attempts current
    else pure current

def JournalStore.ensureRemovalFence : Code NodeClaim :=
  s.ensureRemovalLoop binding token 4 claim

/-! ### AuthorizeRemovalMutation -/

/-- The switch of `AuthorizeRemovalMutation`: its answer on the record read, or
`none` where the mutation is to be issued. -/
def removalAnswer (present : Bool) : Except Err (Option RemovalMutationAuthorization) :=
  match historicalObservedFloatingIPDelete record desired with
  | some historical =>
    if present then .error (.new (name ++ " observed removal resource reappeared"))
    else .ok (some { fence := historical, active := true })
  | none =>
    let current := removalMutationFenceFromRecord record
    match record.phase with
    | .ready => if present then .ok none else .ok (some {})
    | .issued =>
      if record.mutation = desired then .ok (some { fence := current, active := true })
      else if present then
        .error (.new (name ++ " has an unresolved different removal mutation"))
      else .ok (some {})
    | .rejected =>
      if record.mutation = desired then
        if present then .ok none else .ok (some { fence := current, active := true })
      else if present then
        .error (.new (name ++ " has an unresolved rejected removal mutation"))
      else .ok (some {})
    | .observed =>
      if record.mutation = desired then
        if present then .error (.new (name ++ " observed removal resource reappeared"))
        else .ok (some { fence := current, active := true })
      else if present then .ok none
      else .ok (some {})
    | .other text =>
      .error (.new (name ++ " has invalid removal mutation phase " ++ quote text))

/-- The record `AuthorizeRemovalMutation` issues, on the archived one. -/
def issuedRemoval
    (record : RemovalMutationRecord) (issueID : String) (now : ℤ) : RemovalMutationRecord :=
  { schema := removalMutationFenceSchema, binding := binding, attemptToken := token,
    readyAt := record.readyAt, mutation := desired, phase := .issued, issueID := issueID,
    issuedAt := some now, observedFloatingIPDeletes := record.observedFloatingIPDeletes }

/-- What `AuthorizeRemovalMutation` reads of the object: the journal of the
attempt with this token. -/
def JournalStore.journalOf : Except Err RemovalMutationRecord := do
  let createRecord ← s.parse current binding
  failIf (token = "" ∨ createRecord.token ≠ token)
      (.new ("NodeClaim " ++ quote claim.name ++ " removal mutation token changed"))
  decodeRemovalMutationRecord current.removalMutation binding token

/-- The loop of `AuthorizeRemovalMutation`, for a normalized mutation. -/
def JournalStore.authorizeRemovalLoop (present : Bool) :
    ℕ → NodeClaim → Option Err → Code (NodeClaim × RemovalMutationAuthorization)
  | 0, claim, lastErr =>
    throw (exhausted ("persisting issued removal mutation for NodeClaim " ++ quote claim.name ++
      " did not converge") lastErr)
  | attempts + 1, claim, _ => do
    let current ← getProtectedExact claim "authorize removal mutation"
    let record ← check (s.journalOf current claim binding token)
    match ← check (removalAnswer ("NodeClaim " ++ quote claim.name) record desired present) with
    | some authorization => pure (current, authorization)
    | none =>
      let issueID ← check (Except.mapError
        (.within "generating removal mutation issue identity") (← call .nonce))
      let archived ← check (archiveCurrentObservedFloatingIPDelete record)
      let now ← call .now
      let issued := issuedRemoval binding token desired archived issueID now
      match ← attempt (s.persistRemovalMutation current issued fun stored =>
          stored.phase == .issued && stored.issueID == issueID && stored.mutation == desired) with
      | .ok written =>
        pure (written, { fence := removalMutationFenceFromRecord issued, active := true,
                         allowMutation := true })
      | .error e => JournalStore.authorizeRemovalLoop present attempts current (some e)

def JournalStore.authorizeRemovalMutation (mutation : RemovalMutation) (present : Bool) :
    Code (NodeClaim × RemovalMutationAuthorization) := do
  let desired ← check (normalizeRemovalMutation mutation)
  s.authorizeRemovalLoop binding token desired present 4 claim none

/-! ### ObserveRemovalMutation and RejectRemovalMutation -/

/-- The checks of `finishRemovalMutation` that the fence is the journal's. -/
def JournalStore.ownJournal : Except Err RemovalMutationRecord := do
  let name := "NodeClaim " ++ quote claim.name
  let _ ← s.parse current binding
  let record ← decodeRemovalMutationRecord current.removalMutation binding token
  failIf (record.mutation ≠ fence.mutation ∨ record.issueID ≠ fence.issueID)
      (.new (name ++ " removal mutation identity changed"))
  failIf ((removalMutationFenceFromRecord record).issuedAt ≠ fence.issuedAt)
      (.new (name ++ " removal mutation issue time changed"))
  pure record

/-- What there is to write when the journal is already in the terminal phase:
at most a receipt that is missing from the history. -/
def finishedRemoval : Except Err (Option RemovalMutationRecord) :=
  if terminal ≠ .observed ∨ fence.mutation.operation ≠ .floatingIPDelete then .ok none
  else
    match historicalObservedFloatingIPDelete record fence.mutation with
    | some _ => .ok none
    | none =>
      if timeSet record.observedAt = false then
        .error (.new (name ++ " observed floating-IP DELETE has no observation time"))
      else
        (appendObservedFloatingIPDelete record (removalMutationFenceFromRecord record)
          (record.observedAt.getD 0)).map some

/-- The checks of `finishRemovalMutation` before it moves the phase. -/
def finishable : Except Err Unit := do
  failIf (terminal = .rejected ∧ record.phase ≠ .issued)
      (.new (name ++ " removal mutation is not issued"))
  failIf (terminal = .observed ∧ record.phase ≠ .issued ∧ record.phase ≠ .rejected)
      (.new (name ++ " removal mutation has no observable receipt"))
  failIf (fence.phase ≠ record.phase) (.new (name ++ " removal mutation phase changed"))

/-- The record `finishRemovalMutation` writes at the time `now`. -/
def terminalRemoval (now : ℤ) : Except Err RemovalMutationRecord :=
  if terminal = .observed then
    appendObservedFloatingIPDelete
      { record with phase := terminal, observedAt := some now, rejectedAt := none }
      (removalMutationFenceFromRecord record) now
  else .ok { record with phase := terminal, rejectedAt := some now, observedAt := none }

/-- What `finishRemovalMutation` accepts as stored: its own receipt in the
terminal phase, with a floating-IP DELETE in the history as well. -/
def finishAccepts (stored : RemovalMutationRecord) : Bool :=
  stored.phase == terminal && stored.issueID == fence.issueID &&
  stored.mutation == fence.mutation &&
  (!(terminal == .observed && fence.mutation.operation == .floatingIPDelete) ||
    (historicalObservedFloatingIPDelete stored fence.mutation).isSome)

/-- What `finishRemovalMutation` writes on the record it has read, if anything. -/
def finishPlan : Code (Option RemovalMutationRecord) := do
  if record.phase = terminal then check (finishedRemoval name record fence terminal)
  else
    check (finishable name record fence terminal)
    let now ← call .now
    let written ← check (terminalRemoval record terminal now)
    pure (some written)

/-- The loop of `finishRemovalMutation`. -/
def JournalStore.finishRemovalLoop : ℕ → NodeClaim → Option Err → Code NodeClaim
  | 0, claim, lastErr =>
    throw (exhausted ("persisting terminal removal mutation for NodeClaim " ++ quote claim.name ++
      " did not converge") lastErr)
  | attempts + 1, claim, _ => do
    let current ← getProtectedExact claim "finish removal mutation"
    let record ← check (s.ownJournal current claim binding token fence)
    match ← finishPlan ("NodeClaim " ++ quote claim.name) record fence terminal with
    | none => pure current
    | some written =>
      match ← attempt (s.persistRemovalMutation current written (finishAccepts fence terminal)) with
      | .ok readback => pure readback
      | .error e => JournalStore.finishRemovalLoop attempts current (some e)

def JournalStore.finishRemovalMutation : Code NodeClaim := do
  check (validateRemovalMutationFence fence)
  check (failIf (terminal ≠ .observed ∧ terminal ≠ .rejected)
      (.new ("invalid removal terminal phase " ++ quote terminal.text)))
  s.finishRemovalLoop binding token fence terminal 3 claim none

def JournalStore.observeRemovalMutation : Code NodeClaim :=
  s.finishRemovalMutation claim binding token fence .observed

def JournalStore.rejectRemovalMutation : Code NodeClaim :=
  s.finishRemovalMutation claim binding token fence .rejected

end InSpaceKube.Karpenter
