/-
InSpaceKube/Karpenter/Receipts.lean

The two receipts that stand beside the create fence on a NodeClaim: that of
the floating-IP update (`create_fence.go`), which materialization asks for,
and the journal of destructive mutations (`removal_mutation_fence.go`), which
is opened together with the fence.
-/
import InSpaceKube.Karpenter.Record

namespace InSpaceKube.Karpenter

/-! ### The floating-IP update -/

inductive FloatingIPUpdatePhase
  | issued | rejected | observed
  | other (text : String)
deriving DecidableEq, Repr

structure FloatingIPUpdateRecord where
  schema : String
  binding : CreateFenceBinding
  attemptToken : String
  vmUUID : String
  address : String
  name : String
  billingAccountID : ℤ
  phase : FloatingIPUpdatePhase
  issueID : String
  issuedAt : ℤ
  rejectedAt : Option ℤ := none
  observedAt : Option ℤ := none
deriving DecidableEq, Repr

def floatingIPUpdateFenceSchema : String := "karpenter.inspace.cloud/floating-ip-update-fence-v1"

/-- `validateFloatingIPUpdateFence` of the fence of a record. -/
def validFloatingIPUpdateFence (r : FloatingIPUpdateRecord) : Bool :=
  uuidPatternFold (toLower r.vmUUID) && r.name != "" && byteLength r.name ≤ 128 &&
  0 < r.billingAccountID && publicIPv4 r.address && hex32Pattern r.issueID &&
  (r.phase == .issued || r.phase == .rejected || r.phase == .observed) &&
  toLower r.vmUUID == r.vmUUID

/-- `validTerminal` of `decodeFloatingIPUpdateRecord`. -/
def FloatingIPUpdateRecord.validTerminal (r : FloatingIPUpdateRecord) : Bool :=
  match r.phase with
  | .issued => r.rejectedAt.isNone && r.observedAt.isNone
  | .rejected => timeSet r.rejectedAt && r.observedAt.isNone
  | .observed => timeSet r.observedAt && r.rejectedAt.isNone
  | .other _ => false

def decodeFloatingIPUpdateRecord (value : AnnotationValue FloatingIPUpdateRecord)
    (binding : CreateFenceBinding) (token : String) : Except Err FloatingIPUpdateRecord :=
  match value with
  | .record r =>
    if r.schema ≠ floatingIPUpdateFenceSchema ∨ r.binding ≠ binding ∨ token = "" ∨
        r.attemptToken ≠ token ∨ r.issuedAt = 0 ∨ r.validTerminal = false ∨
        validFloatingIPUpdateFence r = false then
      .error (.new "durable floating-IP update fence has incomplete or changed identity")
    else .ok r
  | _ => .error (.new "durable floating-IP update fence is missing or malformed")

/-! ### The removal journal -/

/-- `RemovalMutationOperation`. -/
inductive RemovalOperation
  | unset | vmDelete | floatingIPUnassign | floatingIPDelete
  | other (text : String)
deriving DecidableEq, Repr

def RemovalOperation.text : RemovalOperation → String
  | .unset => ""
  | .vmDelete => "vm-delete"
  | .floatingIPUnassign => "floating-ip-unassign"
  | .floatingIPDelete => "floating-ip-delete"
  | .other text => text

/-- `RemovalMutationPhase`. -/
inductive RemovalPhase
  | ready | issued | rejected | observed
  | other (text : String)
deriving DecidableEq, Repr

def RemovalPhase.text : RemovalPhase → String
  | .ready => "ready"
  | .issued => "issued"
  | .rejected => "rejected"
  | .observed => "observed"
  | .other text => text

structure RemovalMutation where
  operation : RemovalOperation := .unset
  location : String := ""
  vmUUID : String := ""
  address : String := ""
  name : String := ""
  billingAccountID : ℤ := 0
deriving DecidableEq, Repr

/-- `RemovalMutationFence`; a nil time of the record is the zero time here. -/
structure RemovalMutationFence where
  mutation : RemovalMutation
  phase : RemovalPhase
  issueID : String
  issuedAt : ℤ
  observedAt : ℤ
deriving DecidableEq, Repr

/-- `observedFloatingIPDeleteRecord`. -/
structure ObservedFloatingIPDelete where
  location : String
  vmUUID : String
  address : String
  name : String
  billingID : ℤ
  issueID : String
  issuedAt : ℤ
  observedAt : ℤ
deriving DecidableEq, Repr

structure RemovalMutationRecord where
  schema : String
  binding : CreateFenceBinding
  attemptToken : String
  readyAt : ℤ
  mutation : RemovalMutation := {}
  phase : RemovalPhase
  issueID : String := ""
  issuedAt : Option ℤ := none
  rejectedAt : Option ℤ := none
  observedAt : Option ℤ := none
  observedFloatingIPDeletes : List ObservedFloatingIPDelete := []
deriving DecidableEq, Repr

def removalMutationFenceSchema : String := "karpenter.inspace.cloud/removal-mutation-fence-v1"

def newRemovalMutationReadyRecord (binding : CreateFenceBinding) (token : String) (now : ℤ) :
    RemovalMutationRecord :=
  { schema := removalMutationFenceSchema, binding := binding, attemptToken := token,
    readyAt := now, phase := .ready }

def observedFloatingIPDeleteFence (r : ObservedFloatingIPDelete) : RemovalMutationFence :=
  { mutation := ⟨.floatingIPDelete, r.location, r.vmUUID, r.address, r.name, r.billingID⟩,
    phase := .observed, issueID := r.issueID, issuedAt := r.issuedAt, observedAt := r.observedAt }

def removalMutationFenceFromRecord (r : RemovalMutationRecord) : RemovalMutationFence :=
  { mutation := r.mutation, phase := r.phase, issueID := r.issueID,
    issuedAt := r.issuedAt.getD 0, observedAt := r.observedAt.getD 0 }

def normalizeRemovalMutation (value : RemovalMutation) : Except Err RemovalMutation :=
  let value := { value with
    location := trimSpace value.location, vmUUID := toLower (trimSpace value.vmUUID) }
  if value.location = "" ∨ 128 < byteLength value.location ∨
      uuidPatternFold value.vmUUID = false then
    .error (.new "removal mutation requires a location and canonical VM UUID")
  else
    match value.operation with
    | .vmDelete =>
      if value.address ≠ "" ∨ value.name ≠ "" ∨ value.billingAccountID ≠ 0 then
        .error (.new "VM delete receipt cannot contain floating-IP identity")
      else .ok value
    | .floatingIPUnassign | .floatingIPDelete =>
      if value.name = "" ∨ 255 < byteLength value.name ∨ value.billingAccountID ≤ 0 then
        .error (.new "floating-IP removal receipt requires exact name and billing identity")
      else if publicIPv4 value.address = false then
        .error (.new "floating-IP removal receipt requires canonical public IPv4")
      else .ok value
    | operation => .error (.new ("unsupported removal operation " ++ quote operation.text))

def validateRemovalMutationFence (fence : RemovalMutationFence) : Except Err Unit := do
  let desired ← normalizeRemovalMutation fence.mutation
  failIf (desired ≠ fence.mutation ∨ hex32Pattern fence.issueID = false)
      (.new "removal receipt identity or issue ID is not canonical")
  failIf (fence.issuedAt = 0) (.new "removal receipt has no issue time")
  match fence.phase with
  | .issued | .rejected =>
    if fence.observedAt ≠ 0 then
      throw (.new "non-observed removal receipt contains an observation time")
    else pure ()
  | .observed =>
    if fence.observedAt = 0 ∨ fence.observedAt < fence.issuedAt then
      throw (.new "observed removal receipt has an invalid observation time")
    else pure ()
  | phase => throw (.new ("removal receipt has invalid phase " ++ quote phase.text))

/-- The loop of `decodeRemovalMutationRecord` over the history; `seen` are the
fences before the `i`-th. -/
def validateObservedDeletes :
    ℕ → List RemovalMutationFence → List ObservedFloatingIPDelete → Except Err Unit
  | _, _, [] => .ok ()
  | i, seen, entry :: rest =>
    let fence := observedFloatingIPDeleteFence entry
    match validateRemovalMutationFence fence with
    | .error e =>
      .error (e.within ("durable removal mutation fence has invalid observed floating-IP DELETE receipt "
        ++ toString i))
    | .ok () =>
      if seen.any fun other => other.mutation == fence.mutation then
        .error (.new "durable removal mutation fence repeats an observed floating-IP DELETE identity")
      else if seen.any fun other => other.issueID == fence.issueID then
        .error (.new "durable removal mutation fence repeats an observed floating-IP DELETE issue")
      else validateObservedDeletes (i + 1) (fence :: seen) rest

/-- `decodeRemovalMutationRecord`.  A text of more than 64 KiB is malformed. -/
def decodeRemovalMutationRecord (value : AnnotationValue RemovalMutationRecord)
    (binding : CreateFenceBinding) (token : String) : Except Err RemovalMutationRecord :=
  match value with
  | .record r => do
    failIf (r.schema ≠ removalMutationFenceSchema ∨ r.binding ≠ binding ∨ token = "" ∨
        r.attemptToken ≠ token ∨ r.readyAt = 0)
        (.new "durable removal mutation fence has incomplete or changed NodeClaim identity")
    failIf (64 < r.observedFloatingIPDeletes.length)
        (.new "durable removal mutation fence has too many observed floating-IP DELETE receipts")
    validateObservedDeletes 0 [] r.observedFloatingIPDeletes
    if r.phase = .ready then
      failIf (r.mutation ≠ {} ∨ r.issueID ≠ "" ∨ r.issuedAt ≠ none ∨ r.rejectedAt ≠ none ∨
          r.observedAt ≠ none ∨ r.observedFloatingIPDeletes ≠ [])
        (.new "durable removal mutation ready fence contains mutation state")
      pure r
    else
      let incomplete : Err := .new "durable removal mutation fence has incomplete mutation identity"
      Except.mapError (fun _ => incomplete)
        (validateRemovalMutationFence (removalMutationFenceFromRecord r))
      failIf (timeSet r.issuedAt = false) incomplete
      failIf (¬ ((r.phase = .issued ∧ r.rejectedAt = none ∧ r.observedAt = none) ∨
          (r.phase = .rejected ∧ timeSet r.rejectedAt ∧ r.observedAt = none) ∨
          (r.phase = .observed ∧ timeSet r.observedAt ∧ r.rejectedAt = none)))
        (.new "durable removal mutation fence has contradictory phase timestamps")
      pure r
  | _ => .error (.new "durable removal mutation fence is missing or malformed")

end InSpaceKube.Karpenter
