/-
InSpaceKube/Karpenter/Record.lean

The create fence of the Karpenter provider (`create_fence.go`): the record it
keeps in an annotation of the NodeClaim, and what reading it back accepts.

An annotation is JSON text; here it is what `json.Unmarshal` makes of it.
Times are nanoseconds, `0` the zero time; a nil `*time.Time` is `none`.  The
enumerations of the source are strings, so each has a constructor `other` for
a text that is none of its values.

Reading the record does not look at the marker of a terminal cleanup.
-/
import InSpaceKube.Go
import Mathlib.Data.List.Sort

namespace InSpaceKube.Karpenter

/-! ### Errors -/

/-- The sentinels of package `cloudapi` that the store and its controller look
at, and the API server's conflict and absence. -/
inductive Sentinel
  | createAttemptPending | createAttemptRejected | createAttemptUnresolved | cloudNotFound
  | conflict | notFound
deriving DecidableEq, Repr

abbrev Err := GoError Sentinel

/-! ### The record -/

/-- The phases of a create fence. -/
inductive Phase
  | reserved | issued | rejected | materialized
  | other (text : String)
deriving DecidableEq, Repr

/-- The text of a phase. -/
def Phase.text : Phase → String
  | .reserved => "reserved"
  | .issued => "issued"
  | .rejected => "rejected"
  | .materialized => "materialized"
  | .other text => text

inductive CreateAuthorizationKind
  | unset | post | adoption
  | other (text : String)
deriving DecidableEq, Repr

def CreateAuthorizationKind.text : CreateAuthorizationKind → String
  | .unset => ""
  | .post => "post"
  | .adoption => "adoption"
  | .other text => text

inductive FirewallAssignmentPhase
  | unset | intent | issued | rejected | observed
  | other (text : String)
deriving DecidableEq, Repr

inductive FirewallProfile
  | unset | privateWorker | publicNodeLoadBalancer | publicNodeLocal
  | other (text : String)
deriving DecidableEq, Repr

def effectiveFirewallProfile : FirewallProfile → FirewallProfile
  | .unset => .privateWorker
  | profile => profile

/-- The two schemas, and any other text. -/
inductive Schema
  | createFence | legacyCreateFence
  | other (text : String)
deriving DecidableEq, Repr

structure CreateFenceBinding where
  nodeClaimUID : String
  idempotencyKeyHash : String
  requestHash : String
  specHash : String
  bootstrapHash : String
deriving DecidableEq, Repr

structure CreateFenceCleanupIdentity where
  clusterName : String
  location : String
  networkUUID : String
  nodePoolName : String
  controlPlaneVIP : String
  privateLoadBalancerPoolStart : String
  privateLoadBalancerPoolStop : String
  firewallUUID : String
  firewallProfile : FirewallProfile
  nodeClaimName : String
  vmName : String
  billingAccountID : ℤ
  ownershipKeyHash : String
deriving DecidableEq, Repr

structure CreateFloatingIPAssignment where
  identity : String
  vmUUID : String
  address : String
  name : String
  billingAccountID : ℤ
deriving DecidableEq, Repr

structure CreateInventory where
  vms : List String := []
  potentialVMs : List String := []
  targetVMs : List String := []
  floatingIPs : List String := []
  targetFloatingIPs : List CreateFloatingIPAssignment := []
deriving DecidableEq, Repr

structure FencedCreateCleanupResolution where
  vmUUID : String
  floatingIPName : String
  publicIPv4 : String
deriving DecidableEq, Repr

structure BaseFirewallAssignment where
  vmUUID : String := ""
  firewallUUID : String
  phase : FirewallAssignmentPhase
  issueID : String := ""
  intentAt : ℤ
  issuedAt : Option ℤ := none
  rejectedAt : Option ℤ := none
  observedAt : Option ℤ := none
deriving DecidableEq, Repr

structure TerminalCleanupRecord where
  observedAt : ℤ
  vmUUID : String
  floatingIPName : String
  publicIPv4 : String
  firewallUUID : String
deriving DecidableEq, Repr

structure CreateFenceRecord where
  schema : Schema
  binding : CreateFenceBinding
  cleanup : CreateFenceCleanupIdentity
  baseline : CreateInventory
  token : String
  phase : Phase
  intent : CreateAuthorizationKind := .unset
  issueID : String := ""
  startedAt : ℤ
  issuedAt : Option ℤ := none
  launchObservedAt : Option ℤ := none
  createdVMUUID : String := ""
  protectionFailureAt : Option ℤ := none
  rollbackAt : Option ℤ := none
  dependentUnresolved : Bool := false
  dependentsResolvedAt : Option ℤ := none
  observedAt : Option ℤ := none
  observedVMUUID : String := ""
  floatingIPName : String := ""
  publicIPv4 : String := ""
  cleanupResolvedAt : Option ℤ := none
  cleanupVMUUID : String := ""
  cleanupFloatingIPName : String := ""
  cleanupPublicIPv4 : String := ""
  cleanupResolutions : List FencedCreateCleanupResolution := []
  baseFirewallAssignment : Option BaseFirewallAssignment := none
  terminalCleanup : Option TerminalCleanupRecord := none
  legacyV2 : Bool := false
  legacyV2BaseFirewallMayBeIssued : Bool := false
  legacyV2FloatingIPMayBeIssued : Bool := false
deriving DecidableEq, Repr

/-- An annotation that holds a record: absent or empty, a text that is no such
JSON object, or a record. -/
inductive AnnotationValue (ρ : Type)
  | absent
  | malformed
  | record (r : ρ)
deriving DecidableEq, Repr

/-- A `*time.Time` that is set and not the zero time. -/
def timeSet (t : Option ℤ) : Bool :=
  match t with
  | some t => t != 0
  | none => false

/-! ### The pre-POST inventory -/

/-- The length of the inventory as `json.Marshal` writes it; empty lists and an
empty name are omitted. -/
def CreateInventory.encodedBytes (inventory : CreateInventory) : ℕ :=
  let strings (key : String) (entries : List String) : List ℕ :=
    if entries.isEmpty then [] else [jsonMemberBytes key (jsonListBytes (entries.map jsonStringBytes))]
  let assignment (a : CreateFloatingIPAssignment) : ℕ :=
    jsonListBytes ([jsonMemberBytes "identity" (jsonStringBytes a.identity),
        jsonMemberBytes "vmUUID" (jsonStringBytes a.vmUUID),
        jsonMemberBytes "address" (jsonStringBytes a.address)] ++
      (if a.name = "" then [] else [jsonMemberBytes "name" (jsonStringBytes a.name)]) ++
      [jsonMemberBytes "billingAccountID" (jsonIntBytes a.billingAccountID)])
  jsonListBytes (strings "vms" inventory.vms ++ strings "potentialVMs" inventory.potentialVMs ++
    strings "targetVMs" inventory.targetVMs ++ strings "floatingIPs" inventory.floatingIPs ++
    if inventory.targetFloatingIPs.isEmpty then []
    else [jsonMemberBytes "targetFloatingIPs" (jsonListBytes (inventory.targetFloatingIPs.map assignment))])

/-- The checks of `validateCreateInventory` on one of its four lists. -/
def validateInventoryEntries (name : String) (entries : List String) : Except Err Unit :=
  if 1024 < entries.length then
    .error (.new (name ++ " inventory has " ++ toString entries.length ++ " entries; maximum is 1024"))
  else if stringsAreSorted entries = false then
    .error (.new (name ++ " inventory is not sorted"))
  else if ¬ (entries.all (fun value => value ≠ "" ∧ byteLength value ≤ 128) ∧ entries.Nodup) then
    .error (.new (name ++ " inventory contains an empty, oversized, or duplicate identity"))
  else .ok ()

/-- The first of `entries` that is not in `all`. -/
def firstOutside (entries all : List String) : Option String :=
  entries.find? fun value => !all.contains value

/-- The checks of `validateCreateInventory` on one target floating IP. -/
def validateTargetFloatingIP (inventory : CreateInventory)
    (assignment : CreateFloatingIPAssignment) : Except Err Unit :=
  if assignment.identity = "" ∨ 128 < byteLength assignment.identity ∨
      uuidPatternFold assignment.vmUUID = false ∨ assignment.vmUUID ≠ toLower assignment.vmUUID ∨
      publicIPv4 assignment.address = false ∨ assignment.billingAccountID ≤ 0 ∨
      128 < byteLength assignment.name then
    .error (.new "target floating-IP inventory contains a malformed assignment")
  else if assignment.vmUUID ∉ inventory.targetVMs then
    .error (.new ("target floating-IP assignment references non-target VM " ++
      quote assignment.vmUUID))
  else if assignment.identity ∉ inventory.floatingIPs then
    .error (.new ("target floating-IP assignment " ++ quote assignment.identity ++
      " is absent from the complete floating-IP baseline"))
  else .ok ()

/-- The loop of `validateCreateInventory` over the target floating IPs. -/
def validateTargetFloatingIPs (inventory : CreateInventory) :
    Option CreateFloatingIPAssignment → List CreateFloatingIPAssignment → Except Err Unit
  | _, [] => .ok ()
  | previous, assignment :: rest => do
    validateTargetFloatingIP inventory assignment
    match previous with
    | some p =>
      if assignment.vmUUID < p.vmUUID ∨
          (p.vmUUID = assignment.vmUUID ∧ assignment.identity ≤ p.identity) then
        throw (.new "target floating-IP inventory is unsorted or contains a duplicate assignment")
      else validateTargetFloatingIPs inventory (some assignment) rest
    | none => validateTargetFloatingIPs inventory (some assignment) rest

/-- `validateCreateInventory`.  The source takes the four lists in the order a
Go map gives them, so with more than one of them bad any of the errors may be
returned; here it is that of the first. -/
def validateCreateInventory (inventory : CreateInventory) : Except Err Unit := do
  failIf (96 * 1024 < inventory.encodedBytes)
      (.new "create inventory exceeds the safe encoded bound of 98304 bytes")
  validateInventoryEntries "VM" inventory.vms
  validateInventoryEntries "potential VM" inventory.potentialVMs
  validateInventoryEntries "target VM" inventory.targetVMs
  validateInventoryEntries "floating IP" inventory.floatingIPs
  match firstOutside inventory.potentialVMs inventory.vms with
  | some value =>
    throw (.new ("potential VM identity " ++ quote value ++
      " is absent from the complete VM baseline"))
  | none =>
  match firstOutside inventory.targetVMs inventory.potentialVMs with
  | some value =>
    throw (.new ("target VM identity " ++ quote value ++
      " is absent from the potential VM baseline"))
  | none =>
  failIf (64 < inventory.targetFloatingIPs.length)
      (.new "target floating-IP inventory exceeds 64 entries")
  validateTargetFloatingIPs inventory none inventory.targetFloatingIPs

/-! ### Cleanup receipts -/

def normalizeCleanupResolution (resolution : FencedCreateCleanupResolution) :
    Except Err FencedCreateCleanupResolution :=
  let vmUUID := toLower resolution.vmUUID
  if uuidPatternFold vmUUID = false ∨ resolution.floatingIPName = "" ∨
      255 < byteLength resolution.floatingIPName then
    .error (.new "cleanup resolution is missing a canonical VM UUID or floating-IP name")
  else if publicIPv4 resolution.publicIPv4 = false then
    .error (.new ("cleanup resolution has invalid public IPv4 " ++ quote resolution.publicIPv4))
  else .ok { resolution with vmUUID := vmUUID }

def cleanupResolutionStored (record : CreateFenceRecord)
    (resolution : FencedCreateCleanupResolution) : Bool :=
  record.cleanupResolutions.contains resolution

def appendCleanupResolution (resolutions : List FencedCreateCleanupResolution)
    (resolution : FencedCreateCleanupResolution) :
    Except Err (List FencedCreateCleanupResolution) := do
  let resolution ← normalizeCleanupResolution resolution
  match resolutions.find? fun existing => existing.vmUUID == resolution.vmUUID with
  | some existing =>
    if existing ≠ resolution then
      throw (.new ("cleanup receipt for VM " ++ resolution.vmUUID ++ " changed dependent identity"))
    else pure resolutions
  | none =>
    if 64 ≤ resolutions.length then
      throw (.new "internal rollback cleanup history exceeds its safe bound")
    else pure ((resolutions ++ [resolution]).insertionSort fun a b => a.vmUUID ≤ b.vmUUID)

/-- `applyCleanupResolution`, at the time `now`. -/
def applyCleanupResolution (record : CreateFenceRecord)
    (resolution : FencedCreateCleanupResolution) (now : ℤ) : Except Err CreateFenceRecord := do
  let resolution ← normalizeCleanupResolution resolution
  let resolutions ← appendCleanupResolution record.cleanupResolutions resolution
  pure { record with
    cleanupResolvedAt := some now, cleanupVMUUID := resolution.vmUUID,
    cleanupFloatingIPName := resolution.floatingIPName,
    cleanupPublicIPv4 := resolution.publicIPv4, cleanupResolutions := resolutions }

/-! ### Reading the record -/

/-- `legacyBaseFirewallIssueID`; `sha256` is the hexadecimal digest of a text. -/
def legacyBaseFirewallIssueID (sha256 : String → String) (record : CreateFenceRecord) : String :=
  let text := "legacy-base-firewall\x00" ++ record.token ++ "\x00" ++ record.createdVMUUID ++
    "\x00" ++ record.cleanup.firewallUUID
  String.ofList ((sha256 text).toList.take 32)

/-- `copyTime` of `migrateLegacyCreateFence`. -/
def copyTime (value : Option ℤ) (fallback : ℤ) : Option ℤ :=
  match value with
  | some t => if t = 0 then some fallback else some t
  | none => some fallback

/-- The assignment `migrateLegacyCreateFence` gives a record of the first schema. -/
def legacyBaseFirewallAssignment (sha256 : String → String) (record : CreateFenceRecord) :
    Option BaseFirewallAssignment :=
  let intentAt := record.startedAt
  let issueID := legacyBaseFirewallIssueID sha256 record
  let issuedAt := copyTime record.issuedAt intentAt
  match record.phase with
  | .reserved =>
    some { firewallUUID := record.cleanup.firewallUUID, phase := .intent, intentAt := intentAt }
  | .issued =>
    some { vmUUID := record.createdVMUUID, firewallUUID := record.cleanup.firewallUUID,
           phase := .issued, issueID := issueID, intentAt := intentAt, issuedAt := issuedAt }
  | .rejected =>
    some { firewallUUID := record.cleanup.firewallUUID, phase := .rejected, issueID := issueID,
           intentAt := intentAt, issuedAt := issuedAt, rejectedAt := issuedAt }
  | .materialized =>
    some { vmUUID := record.createdVMUUID, firewallUUID := record.cleanup.firewallUUID,
           phase := .observed, issueID := issueID, intentAt := intentAt, issuedAt := issuedAt,
           observedAt := copyTime record.observedAt intentAt }
  | .other _ => record.baseFirewallAssignment

def migrateLegacyCreateFence (sha256 : String → String) (record : CreateFenceRecord) :
    CreateFenceRecord :=
  { record with
    schema := .createFence, legacyV2 := true,
    legacyV2BaseFirewallMayBeIssued := record.phase == .issued,
    legacyV2FloatingIPMayBeIssued := record.phase == .issued && record.createdVMUUID != "",
    baseFirewallAssignment := legacyBaseFirewallAssignment sha256 record }

/-- The record as `decodeCreateFence` goes on with it. -/
def upgradeCreateFence (sha256 : String → String) (record : CreateFenceRecord) :
    CreateFenceRecord :=
  if record.schema = .legacyCreateFence then migrateLegacyCreateFence sha256 record else record

def validPhase (r : CreateFenceRecord) : Bool :=
  let issued := hex32Pattern r.issueID && timeSet r.issuedAt
  let unobserved := r.observedAt.isNone && r.observedVMUUID == ""
  match r.phase with
  | .reserved => r.issueID == "" && r.issuedAt.isNone && unobserved
  | .issued => issued && unobserved
  | .rejected => issued && unobserved
  | .materialized =>
    issued && timeSet r.observedAt && uuidPatternFold r.observedVMUUID &&
      r.floatingIPName != "" && r.publicIPv4 != ""
  | .other _ => false

def validIntent (r : CreateFenceRecord) : Bool :=
  match r.phase with
  | .reserved => r.intent == .unset
  | _ => r.intent == .post || r.intent == .adoption

def validCreatedIdentity (r : CreateFenceRecord) : Bool :=
  (r.launchObservedAt.isNone && r.createdVMUUID == "") ||
  (timeSet r.launchObservedAt && uuidPatternFold r.createdVMUUID &&
    r.createdVMUUID == toLower r.createdVMUUID)

def validBaseFirewallAssignment (r : CreateFenceRecord) : Bool :=
  match r.baseFirewallAssignment with
  | none => false
  | some a =>
    let identity := a.firewallUUID == r.cleanup.firewallUUID && a.intentAt != 0 &&
      a.vmUUID == r.createdVMUUID
    let issued := hex32Pattern a.issueID && timeSet a.issuedAt
    match a.phase with
    | .intent =>
      identity && a.issueID == "" && a.issuedAt.isNone && a.rejectedAt.isNone && a.observedAt.isNone
    | .issued => identity && issued && a.rejectedAt.isNone && a.observedAt.isNone
    | .rejected => identity && issued && timeSet a.rejectedAt && a.observedAt.isNone
    | .observed =>
      identity && a.vmUUID != "" && issued && a.rejectedAt.isNone && timeSet a.observedAt
    | _ => false

def validRollback (r : CreateFenceRecord) : Bool :=
  r.rollbackAt.isNone || (timeSet r.rollbackAt && r.phase == .issued && r.createdVMUUID != "")

def validProtectionFailure (r : CreateFenceRecord) : Bool :=
  r.protectionFailureAt.isNone || (timeSet r.protectionFailureAt && r.phase == .issued &&
    r.createdVMUUID != "" && r.rollbackAt.isNone)

def validCleanupResolution (r : CreateFenceRecord) : Bool :=
  (r.cleanupResolvedAt.isNone && r.cleanupVMUUID == "" && r.cleanupFloatingIPName == "" &&
    r.cleanupPublicIPv4 == "") ||
  (timeSet r.cleanupResolvedAt && uuidPatternFold r.cleanupVMUUID &&
    r.cleanupFloatingIPName != "" && r.cleanupPublicIPv4 != "")

/-- The identity fields `decodeCreateFence` wants to be there. -/
def launchIdentityComplete (r : CreateFenceRecord) : Bool :=
  r.binding.nodeClaimUID != "" && r.binding.idempotencyKeyHash != "" &&
  r.binding.requestHash != "" && r.binding.specHash != "" && r.binding.bootstrapHash != "" &&
  r.cleanup.clusterName != "" && r.cleanup.location != "" && r.cleanup.networkUUID != "" &&
  r.cleanup.controlPlaneVIP != "" && r.cleanup.privateLoadBalancerPoolStart != "" &&
  r.cleanup.privateLoadBalancerPoolStop != "" && r.cleanup.firewallUUID != "" &&
  r.cleanup.firewallProfile == effectiveFirewallProfile r.cleanup.firewallProfile &&
  r.cleanup.nodeClaimName != "" && r.cleanup.vmName != "" && 0 < r.cleanup.billingAccountID &&
  hex32Pattern r.cleanup.ownershipKeyHash && r.token != "" && r.startedAt != 0

/-- `validateNodePoolClaimIdentity`; the label validator's own messages are left out. -/
def validateNodePoolClaimIdentity (nodePoolName nodeClaimName : String) : Except Err Unit :=
  let nodePoolPrefix := nodePoolName ++ "-"
  if isDNS1123Label nodePoolName = false then
    .error (.new ("NodePool name " ++ quote nodePoolName ++ " is not a DNS-1123 hostname label"))
  else if isDNS1123Label nodeClaimName = false then
    .error (.new ("NodeClaim name " ++ quote nodeClaimName ++ " is not a DNS-1123 hostname label"))
  else if hasPrefix nodeClaimName nodePoolPrefix = false ∨
      byteLength nodeClaimName = byteLength nodePoolPrefix then
    .error (.new ("NodeClaim name " ++ quote nodeClaimName ++
      " must use the NodePool-generated prefix " ++ quote nodePoolPrefix ++
      " followed by a nonempty random suffix"))
  else .ok ()

/-- The profiles whose nodes are public. -/
def FirewallProfile.isPublic (profile : FirewallProfile) : Bool :=
  profile == .publicNodeLoadBalancer || profile == .publicNodeLocal

/-- The checks of `decodeCreateFence` on the profile and its NodePool. -/
def validateProfileBinding (r : CreateFenceRecord) : Except Err Unit :=
  if (r.cleanup.firewallProfile = .privateWorker ∧ r.cleanup.nodePoolName ≠ "") ∨
      (r.cleanup.firewallProfile.isPublic ∧ r.cleanup.nodePoolName = "") then
    .error (.new "durable VM create fence has invalid firewall-profile/NodePool binding")
  else if r.cleanup.firewallProfile.isPublic then
    match validateNodePoolClaimIdentity r.cleanup.nodePoolName r.cleanup.nodeClaimName with
    | .error e =>
      .error (e.within "durable VM create fence has invalid NodePool/NodeClaim binding")
    | .ok () => .ok ()
  else .ok ()

/-- The phase of the assignment, if there is one. -/
def CreateFenceRecord.assignmentPhase (r : CreateFenceRecord) : Option FirewallAssignmentPhase :=
  r.baseFirewallAssignment.map BaseFirewallAssignment.phase

/-- The checks of `decodeCreateFence` on a materialized record. -/
def validateMaterializedIdentity (r : CreateFenceRecord) : Except Err Unit :=
  if r.phase ≠ .materialized then .ok ()
  else if r.createdVMUUID = "" ∨ r.createdVMUUID ≠ r.observedVMUUID ∨ r.rollbackAt ≠ none ∨
      r.assignmentPhase ≠ some .observed then
    .error (.new "materialized VM create fence does not match its launch anchor")
  else
    match normalizeCleanupResolution ⟨r.observedVMUUID, r.floatingIPName, r.publicIPv4⟩ with
    | .ok canonical =>
      if canonical.vmUUID ≠ r.observedVMUUID ∨ canonical.publicIPv4 ≠ r.publicIPv4 then
        .error (.new "durable VM create fence has non-canonical materialized identity")
      else .ok ()
    | .error _ => .error (.new "durable VM create fence has non-canonical materialized identity")

/-- The loop of `decodeCreateFence` over the cleanup history. -/
def cleanupHistoryCanonical : Option String → List FencedCreateCleanupResolution → Bool
  | _, [] => true
  | previous, resolution :: rest =>
    (match normalizeCleanupResolution resolution with
      | .ok canonical => canonical == resolution
      | .error _ => false) &&
    previous.all (· < resolution.vmUUID) &&
    cleanupHistoryCanonical (some resolution.vmUUID) rest

/-- The checks of `decodeCreateFence` on the cleanup history. -/
def validateCleanupHistory (r : CreateFenceRecord) : Except Err Unit :=
  if cleanupHistoryCanonical none r.cleanupResolutions = false then
    .error (.new "durable VM create fence cleanup history contains a malformed, non-canonical, unsorted, or duplicate receipt")
  else if r.cleanupVMUUID ≠ "" ∧
      (⟨r.cleanupVMUUID, r.cleanupFloatingIPName, r.cleanupPublicIPv4⟩ :
        FencedCreateCleanupResolution) ∉ r.cleanupResolutions then
    .error (.new "durable VM create fence active cleanup identity is absent from exact receipt history")
  else .ok ()

/-- The checks of `decodeCreateFence` on the disposition of the dependents. -/
def validateDependents (r : CreateFenceRecord) : Except Err Unit :=
  let createdReceipt := r.cleanupResolutions.any fun resolution =>
    resolution.vmUUID == r.createdVMUUID
  let states := createdReceipt.toNat + r.dependentUnresolved.toNat +
    r.dependentsResolvedAt.isSome.toNat
  if r.rollbackAt = none ∧ (r.dependentUnresolved ∨ r.dependentsResolvedAt ≠ none) then
    .error (.new "durable VM create fence has dependent disposition without a rollback decision")
  else if r.dependentsResolvedAt = some 0 then
    .error (.new "durable VM create fence has an invalid dependent absence time")
  else if r.rollbackAt ≠ none ∧ states ≠ 1 then
    .error (.new "durable VM create fence rollback dependent state does not have exactly one durable disposition")
  else .ok ()

/-- The checks of `decodeCreateFence`, in its order. -/
def validateCreateFence (r : CreateFenceRecord) : Except Err Unit := do
  failIf (r.schema ≠ .createFence ∨ validPhase r = false ∨ validIntent r = false ∨
      validCreatedIdentity r = false ∨ validBaseFirewallAssignment r = false ∨
      validRollback r = false ∨ validProtectionFailure r = false ∨
      validCleanupResolution r = false ∨ launchIdentityComplete r = false)
      (.new "durable VM create fence has incomplete launch identity")
  validateProfileBinding r
  Except.mapError (.within "durable VM create fence baseline") (validateCreateInventory r.baseline)
  validateMaterializedIdentity r
  failIf (r.phase = .issued ∧ r.assignmentPhase = some .intent)
      (.new "issued VM create fence retains an unissued base-firewall intent")
  failIf (64 < r.cleanupResolutions.length)
      (.new "durable VM create fence cleanup history exceeds 64 exact receipts")
  failIf (r.cleanupResolutions ≠ [] ∧ r.cleanupVMUUID = "")
      (.new "durable VM create fence cleanup history lacks an active exact receipt")
  failIf (r.phase = .reserved ∧ (r.createdVMUUID ≠ "" ∨ r.rollbackAt ≠ none ∨
      r.assignmentPhase ≠ some .intent))
      (.new "reserved VM create fence cannot contain accepted-launch identities")
  failIf (r.phase = .rejected ∧ (r.createdVMUUID ≠ "" ∨ r.rollbackAt ≠ none ∨
      r.assignmentPhase ≠ some .rejected))
      (.new "rejected VM create fence cannot contain an accepted-launch identity")
  validateCleanupHistory r
  validateDependents r

def decodeCreateFence (sha256 : String → String) (value : AnnotationValue CreateFenceRecord) :
    Except Err CreateFenceRecord :=
  match value with
  | .record raw => do
    let record := upgradeCreateFence sha256 raw
    validateCreateFence record
    pure record
  | _ => .error (.new "durable VM create fence is missing or malformed")

def parseCreateFence (sha256 : String → String) (value : AnnotationValue CreateFenceRecord)
    (expected : CreateFenceBinding) : Except Err CreateFenceRecord := do
  let record ← decodeCreateFence sha256 value
  failIf (record.binding ≠ expected)
      (.new "durable VM create fence does not match the exact NodeClaim launch identity")
  pure record

end InSpaceKube.Karpenter
