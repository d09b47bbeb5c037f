/-
InSpaceKube/CloudProvider/InstanceExists.lean

Whether the VM of a Node is gone (`InstanceExists` of `cloud.go`, with
`resolveVM`, `corroborateExactVMAbsence` and `guardMassAbsence`).

The node lifecycle controller deletes a Node on one answer "false", so the
answer is guarded: the exact read of the VM must say that it is gone, the
inventory and the members of the VPC must not have it, an empty inventory or
VPC must be seen twice with some time in between, and no more than half of
the Nodes may be declared gone within `absenceVerdictWindow`.

A call makes every request at most once; what they return, and what the clock
shows, is a record (`Reads`).  The provider remembers two maps between calls
(`Memory`).  Times are nanoseconds.
-/
import InSpaceKube.NodeLB.Objects
import Mathlib.Data.List.AList

namespace InSpaceKube.Instances

open NodeLB (ProviderID parseProviderID locationPattern)

/-! ### What a call reads and remembers -/

/-- The part of a Node a call reads. -/
structure Node where
  name : String
  providerID : String
deriving DecidableEq, Repr

/-- The part of a VM a call reads. -/
structure VM where
  uuid : String
  name : String
  hostname : String
  status : String
  networkUUID : String
  billingAccountID : ℤ
deriving DecidableEq, Repr

/-- A VPC; its list of members may be missing. -/
structure Network where
  uuid : String
  vmUUIDs : Option (List String)
deriving DecidableEq, Repr

/-- An error of the API; `notFound` is `inspace.IsNotFound`. -/
structure ApiError where
  notFound : Bool
  text : String
deriving DecidableEq, Repr

structure Config where
  location : String
  networkUUID : String
  billingAccountID : ℤ
  /-- The provider has a client of the Kubernetes API. -/
  kubeClient : Bool

/-- What the requests of one call return; a response may be empty.  The Nodes
are counted only. -/
structure Reads where
  getVM : Except ApiError (Option VM)
  listVMs : Except ApiError (Option (List VM))
  getNetwork : Except ApiError (Option Network)
  listNodes : Except ApiError ℕ
  /-- The clock in `requireSpacedAbsence`. -/
  spacedNow : ℤ
  /-- The clock in `guardMassAbsence`. -/
  guardNow : ℤ

/-- What the provider remembers.  The verdicts are the entries of a map. -/
structure Memory where
  emptyEvidenceSince : AList fun _ : String => ℤ
  absenceVerdicts : List (String × ℤ)

/-- An error of a call, as far as `InstanceExists` tells them apart. -/
inductive Fault
  | exactAbsence (location uuid cause : String) (tombstone : Bool)
  | instanceNotFound
  | other (text : String)
deriving DecidableEq, Repr

/-- Code that may fail and keeps what it has remembered then. -/
abbrev M := ExceptT Fault (StateM Memory)

def fail {α : Type} (text : String) : M α := throw (.other ("cloudprovider: " ++ text))

def second : ℤ := 1000000000
def standardNLBRemovalAbsenceDelay : ℤ := 30 * second
def absenceVerdictWindow : ℤ := 300 * second

/-! ### Provider IDs and members -/

/-- `providerid.New`, which only fails on an ID that is not valid. -/
def newProviderID (location uuid : String) : Except String String :=
  let id : ProviderID := ⟨location, toLower uuid⟩
  if ¬ locationPattern id.location then .error ("providerid: invalid location " ++ quote id.location)
  else if ¬ uuidPatternFold id.uuid then .error ("providerid: invalid UUID " ++ quote id.uuid)
  else .ok id.text

/-- The loop of `canonicalConfiguredVPCVMUUIDs`. -/
def canonicalMembers (location : String) : (index : ℕ) → List String → List (String × String) →
    Except String (List (String × String))
  | _, [], members => .ok members
  | index, member :: rest, members =>
    match newProviderID location member with
    | .error e => .error ("configured VPC member " ++ toString index ++ " has invalid VM UUID "
        ++ quote member ++ ": " ++ e)
    | .ok _ =>
      let canonical := toLower member
      if members.any (·.1 == canonical) then
        .error ("configured VPC contains duplicate VM UUID " ++ canonical)
      else canonicalMembers location (index + 1) rest ((canonical, member) :: members)

def canonicalConfiguredVPCVMUUIDs (location : String) (network : Network) :
    Except String (List (String × String)) :=
  match network.vmUUIDs with
  | none => .error "configured VPC omitted VM membership"
  | some vmUUIDs => canonicalMembers location 0 vmUUIDs []

def VM.deleted (vm : VM) : Bool := equalFold (trimSpace vm.status) "deleted"

/-! ### The VM of a Node -/

variable (cfg : Config) (reads : Reads)

def validateResolvedVMIdentity (vm : Option VM) (expectedUUID : String) : Except String VM :=
  match vm with
  | none => .error "cloudprovider: exact VM read returned an empty response"
  | some vm => do
    match newProviderID cfg.location vm.uuid with
    | .error e => .error ("cloudprovider: VM response has invalid UUID " ++ quote vm.uuid ++ ": " ++ e)
    | .ok _ => do
      failIf (expectedUUID ≠ "" ∧ ¬ equalFold vm.uuid expectedUUID)
        ("cloudprovider: exact VM response UUID " ++ quote vm.uuid ++ " does not match requested UUID "
          ++ quote expectedUUID)
      failIf (trimSpace vm.status = "") ("cloudprovider: VM " ++ vm.uuid ++ " response omitted status")
      failIf (cfg.billingAccountID ≤ 0 ∨ vm.billingAccountID ≠ cfg.billingAccountID)
        ("cloudprovider: VM " ++ vm.uuid ++ " belongs to billing account " ++ toString vm.billingAccountID
          ++ ", expected " ++ toString cfg.billingAccountID)
      failIf (vm.networkUUID ≠ "" ∧ ¬ equalFold vm.networkUUID cfg.networkUUID)
        ("cloudprovider: VM " ++ vm.uuid ++ " belongs to network " ++ quote vm.networkUUID ++ ", expected "
          ++ quote cfg.networkUUID)
      return vm

def validateResolvedVM (vm : Option VM) (expectedUUID : String) : Except String VM := do
  let vm ← validateResolvedVMIdentity cfg vm expectedUUID
  if vm.deleted then return vm
  else
    match reads.getNetwork with
    | .error e => .error ("cloudprovider: read configured VPC for VM " ++ vm.uuid ++ ": " ++ e.text)
    | .ok none => .error ("cloudprovider: configured VPC read for VM " ++ vm.uuid ++ " returned an empty response")
    | .ok (some network) => do
      failIf (network.uuid ≠ cfg.networkUUID)
        ("cloudprovider: configured VPC read for VM " ++ vm.uuid ++ " returned identity " ++ quote network.uuid
          ++ ", expected " ++ quote cfg.networkUUID)
      let members ← (canonicalConfiguredVPCVMUUIDs cfg.location network).mapError
        (("cloudprovider: configured VPC membership for VM " ++ vm.uuid ++ " is invalid: ") ++ ·)
      failIf ((toLower vm.uuid, toLower vm.uuid) ∉ members)
        ("cloudprovider: VM " ++ vm.uuid ++ " lacks one exact canonical configured-VPC membership")
      return vm

/-- An error of a check, with a text in front. -/
def checked {α : Type} (head : String) (r : Except String α) : M α :=
  match r with
  | .error e => throw (.other (head ++ e))
  | .ok a => pure a

def clearSpacedAbsence (vmUUID : String) : M Unit :=
  modify fun m => { m with emptyEvidenceSince := m.emptyEvidenceSince.erase vmUUID }

/-- `resolveVM` by the provider ID. -/
def resolveByProviderID (node : Node) : M VM :=
  match parseProviderID node.providerID with
  | none => fail "parse provider ID"
  | some id =>
    if id.text ≠ node.providerID ∨ id.location ≠ cfg.location then
      fail ("provider ID " ++ quote node.providerID ++ " is not canonical for configured location "
        ++ quote cfg.location)
    else
      match reads.getVM with
      | .error e =>
        if e.notFound then throw (.exactAbsence id.location id.uuid e.text false)
        else throw (.other e.text)
      | .ok vm => do
        let vm ← checked "" (validateResolvedVM cfg reads vm id.uuid)
        if vm.deleted then
          throw (.exactAbsence id.location id.uuid "HTTP-200 VM detail is a deleted tombstone" true)
        else do
          clearSpacedAbsence id.uuid
          return vm

/-- The loop over the inventory in `resolveVM`. -/
def matchingVMs (node : Node) : List VM → Except String (List VM)
  | [] => .ok []
  | vm :: rest =>
    if vm.name ≠ node.name ∧ vm.hostname ≠ node.name then matchingVMs node rest
    else do
      let vm ← (validateResolvedVMIdentity cfg (some vm) "").mapError
        (("cloudprovider: validate VM inventory row matching node name " ++ quote node.name ++ ": ") ++ ·)
      let others ← matchingVMs node rest
      return vm :: others

/-- `resolveVM` by the name. -/
def resolveByName (node : Node) : M VM :=
  match reads.listVMs with
  | .error e => throw (.other e.text)
  | .ok vms => do
    let found ← checked "" (matchingVMs cfg node (vms.getD []))
    match found with
    | [] => throw .instanceNotFound
    | [discovered] =>
      match reads.getVM with
      | .error e => fail ("read exact VM discovered for node name " ++ quote node.name ++ ": "
          ++ e.text)
      | .ok vm => do
        let vm ← checked
          ("cloudprovider: validate exact VM discovered for node name " ++ quote node.name ++ ": ")
          (validateResolvedVM cfg reads vm discovered.uuid)
        if vm.name ≠ node.name ∧ vm.hostname ≠ node.name then
          fail ("exact VM " ++ vm.uuid ++ " no longer matches discovered node name "
            ++ quote node.name)
        else if vm.deleted then throw .instanceNotFound
        else return vm
    | _ => fail ("node name " ++ quote node.name ++ " matches " ++ toString found.length ++ " VMs")

def resolveVM (node : Option Node) : M VM :=
  match node with
  | none => throw .instanceNotFound
  | some node =>
    if node.providerID ≠ "" then resolveByProviderID cfg reads node
    else resolveByName cfg reads node

/-! ### The proof that it is gone -/

def requireSpacedAbsence (vmUUID : String) : M Unit := do
  let m ← get
  match m.emptyEvidenceSince.lookup vmUUID with
  | none => do
    set { m with emptyEvidenceSince := m.emptyEvidenceSince.insert vmUUID reads.spacedNow }
    fail ("exact VM " ++ vmUUID ++ " read is absent but the VM inventory or VPC membership is "
      ++ "empty; need a second spaced read before declaring it gone")
  | some first =>
    if reads.spacedNow < first + standardNLBRemovalAbsenceDelay then
      fail ("exact VM " ++ vmUUID ++ " absence is not yet confirmed by a spaced second read")
    else return ()

/-- The loop over the inventory in `corroborateExactVMAbsence`. -/
def listedUUIDs (location : String) : (index : ℕ) → List VM → List String →
    Except String (List String)
  | _, [], listed => .ok listed
  | index, vm :: rest, listed =>
    match newProviderID location vm.uuid with
    | .error e => .error ("VM inventory row " ++ toString index ++ " has invalid UUID "
        ++ quote vm.uuid ++ ": " ++ e)
    | .ok _ =>
      let canonical := toLower vm.uuid
      if canonical ∈ listed then .error ("VM inventory duplicates UUID " ++ canonical)
      else listedUUIDs location (index + 1) rest (canonical :: listed)

def corroborateExactVMAbsence (location vmUUID : String) (tombstone : Bool) : M Unit := do
  let head := "corroborate exact VM " ++ vmUUID ++ " absence"
  match reads.listVMs with
  | .error e => fail (head ++ " with VM inventory: " ++ e.text)
  | .ok none => fail (head ++ ": VM inventory returned an empty response")
  | .ok (some vms) => do
    let listed ← checked ("cloudprovider: " ++ head ++ ": ") (listedUUIDs location 0 vms [])
    if toLower vmUUID ∈ listed then
      fail ("exact VM " ++ vmUUID ++ " read is absent but VM inventory still contains it")
    else
      match reads.getNetwork with
      | .error e => fail (head ++ " with configured VPC: " ++ e.text)
      | .ok none => fail (head ++ ": configured VPC returned an empty response")
      | .ok (some network) => do
        checked ("cloudprovider: " ++ head ++ ": ") (failIf (network.uuid ≠ cfg.networkUUID)
          ("configured VPC identity is " ++ quote network.uuid ++ ", expected "
            ++ quote cfg.networkUUID))
        let members ← checked
          ("cloudprovider: " ++ head ++ ": configured VPC membership is invalid: ")
          (canonicalConfiguredVPCVMUUIDs location network)
        if members.any (·.1 == toLower vmUUID) then
          fail ("exact VM " ++ vmUUID ++ " read is absent but configured VPC still contains it")
        else if ¬ tombstone ∧ (vms = [] ∨ members = []) then requireSpacedAbsence reads vmUUID
        else clearSpacedAbsence vmUUID

/-- The verdicts that still count at a time. -/
def unexpired (now : ℤ) (verdicts : List (String × ℤ)) : List (String × ℤ) :=
  verdicts.filter fun verdict => now - verdict.2 ≤ absenceVerdictWindow

/-- What `guardMassAbsence` finds out, and the verdicts it leaves. -/
structure Count where
  gone : ℕ
  refuse : Bool
  verdicts : List (String × ℤ)

/-- The body of `guardMassAbsence` between lock and unlock. -/
def countVerdict (total : ℕ) (now : ℤ) (vmUUID : String) (verdicts : List (String × ℤ)) : Count :=
  let verdicts := unexpired now verdicts
  let counted := verdicts.any (·.1 == vmUUID)
  let gone := if counted then verdicts.length else verdicts.length + 1
  let refuse := decide (2 ≤ total ∧ total < gone * 2)
  ⟨gone, refuse, if refuse || counted then verdicts else (vmUUID, now) :: verdicts⟩

def guardMassAbsence (vmUUID : String) : M Unit := do
  if ¬ cfg.kubeClient then return ()
  else
    match reads.listNodes with
    | .error e => fail ("count Nodes before declaring VM " ++ vmUUID ++ " gone: " ++ e.text)
    | .ok total => do
      let m ← get
      let r := countVerdict total reads.guardNow vmUUID m.absenceVerdicts
      set { m with absenceVerdicts := r.verdicts }
      if r.refuse then
        fail ("refusing to declare VM " ++ vmUUID ++ " gone: more than half of the nodes ("
          ++ toString r.gone ++ " of " ++ toString total ++ ") would be gone within 5m0s")
      else return ()

/-- The result of code, an error included. -/
def outcome {α : Type} (x : M α) : M (Except Fault α) :=
  ExceptT.lift x.run

def instanceExists (node : Option Node) : M Bool := do
  match ← outcome (resolveVM cfg reads node) with
  | .error (.exactAbsence location uuid _ tombstone) => do
    corroborateExactVMAbsence cfg reads location uuid tombstone
    guardMassAbsence cfg reads uuid
    return false
  | .error .instanceNotFound =>
    if node.all (·.providerID = "") then
      fail "cannot establish VM absence for a Node without providerID"
    else return false
  | .error (.other text) => throw (.other text)
  | .ok _ => return true

end InSpaceKube.Instances
