/-
InSpaceKube/Csi/LeaseStore.lean

The mutation fence store of a CSI controller in a cluster
(`kubernetes_fence.go`): one Lease per fence, named by a digest of the fence's
key, and four methods that read and write it through the Kubernetes API.

* `Lease.fence` are the annotations.  The managed label and the holder
  identity never change after `mutationFenceLease` has set them and are left
  out, with the two refusals that look at them.
* An answer is a status outside 2xx, a decoded body, or nothing at all
  (`Answer.failed`, for which the source has status 0).
* `leaseName` is `mutationFenceLeaseName`.  Nothing is assumed of the digest:
  two keys may share a Lease.

A Go function that returns `nil, err` returns `nil, nil` when `err` happens to
be nil.  `returnErr` is that: it fails with the error, if there is one.
-/
import InSpaceKube.Csi.DeleteVolume

namespace InSpaceKube.Csi

open Prog

/-- `kubernetesLease`. -/
structure Lease where
  uid : ℕ
  resourceVersion : ℕ
  fence : MutationFence
deriving DecidableEq, Repr

/-- The answer to an API request. -/
inductive Answer (α : Type)
  | failed (err : Err)
  | status (code : ℕ)
  | ok (body : α)

/-- The API requests of the store. -/
inductive LeaseOp
  | post (name : String) (fence : MutationFence)
  | get (name : String)
  | put (name : String) (lease : Lease)
  | delete (name : String) (uid resourceVersion : ℕ)

abbrev LeaseReply : LeaseOp → Type
  | .post _ _ => Answer Lease
  | .get _ => Answer Lease
  | .put _ _ => Answer Lease
  | .delete _ _ _ => Answer Unit

abbrev LeaseCode (α : Type) := ExceptT Err (Prog LeaseOp LeaseReply) α

namespace LeaseStore

variable {α : Type}

abbrev request (op : LeaseOp) : LeaseCode (LeaseReply op) := perform op

/-- `return a, err`. -/
def returnErr (err : Option Err) (a : α) : LeaseCode α :=
  match err with
  | none => pure a
  | some e => throw e

/-! ### Statuses -/

def ambiguousKubernetesMutationStatus (status : ℕ) : Bool :=
  status == 408 || status == 429 || 500 ≤ status || status == 0

def kubernetesFenceStatusError (operation : String) (status : ℕ) : Option Err :=
  if status = 0 ∨ status = 404 ∨ 200 ≤ status ∧ status < 300 then none
  else
    let text := "Kubernetes mutation Lease " ++ operation ++ " returned HTTP " ++ toString status
    if ambiguousKubernetesMutationStatus status then some (.wrap .unavailable text)
    else some (.new text)

/-! ### Fences in Leases -/

/-- `validateMutationFence`; intent and attempt are well-formed by their types. -/
def validateMutationFence (fence : MutationFence) : Except Err Unit := do
  failIf (fence.key = "") (.new "CSI mutation fence is incomplete")
  failIf (fence.receipt ≠ "" ∧ uuidPattern (toLower fence.receipt) = false)
    (.new "CSI mutation fence receipt is invalid")
  match fence.observation with
  | none => .ok ()
  | some observation => FenceStore.validateMutationObservation observation

/-- A fence as it is read back: receipts come in lower case. -/
def lowered (fence : MutationFence) : MutationFence :=
  { fence with receipt := toLower fence.receipt }

def mutationFenceFromLease (lease : Lease) : Except Err MutationFence := do
  validateMutationFence (lowered lease.fence)
  .ok (lowered lease.fence)

/-- `getMutationLease`: the Lease, or the status. -/
def getMutationLease (name : String) : LeaseCode (Except ℕ Lease) := do
  match ← request (.get name) with
  | .failed e => throw e
  | .status code => pure (.error code)
  | .ok lease => pure (.ok lease)

variable (leaseName : String → String)

/-! ### The methods -/

def get (key : String) : LeaseCode (Option MutationFence) := do
  check (failIf (key = "") (.new "CSI mutation fence key is required"))
  match ← getMutationLease (leaseName key) with
  | .error status =>
    if status = 404 then pure none
    else returnErr (kubernetesFenceStatusError "get" status) none
  | .ok lease => do
    let fence ← check (mutationFenceFromLease lease)
    check (failIf (fence.key ≠ key)
      (.new "CSI mutation Lease hash collision or foreign fence identity"))
    pure (some fence)

/-- The end of `Create`: a POST that may have been applied is read back. -/
def createReadback (candidate : MutationFence) (requestErr : Option Err) (status : ℕ) :
    LeaseCode (Option MutationFence × Bool) := do
  let err := joinErrs requestErr (kubernetesFenceStatusError "create" status)
  match ← attempt (get leaseName candidate.key) with
  | .error getErr => returnErr (joinErrs err (some getErr)) (none, false)
  | .ok none =>
    returnErr (joinErrs err (some (.new "CSI mutation Lease create outcome is not visible")))
      (none, false)
  | .ok (some current) =>
    pure (some current, current.intent == candidate.intent &&
      current.attempt == candidate.attempt && current.receipt == candidate.receipt)

/-- `Create`: the stored fence and whether it was acquired. -/
def create (candidate : MutationFence) : LeaseCode (Option MutationFence × Bool) := do
  check (validateMutationFence candidate)
  match ← request (.post (leaseName candidate.key) candidate) with
  | .ok stored => do
    let fence ← check (mutationFenceFromLease stored)
    check (failIf (fence ≠ candidate)
      (.new "Kubernetes API changed the CSI mutation fence during creation"))
    pure (some fence, true)
  | .status code =>
    if code ≠ 409 ∧ ambiguousKubernetesMutationStatus code = false then
      returnErr (kubernetesFenceStatusError "create" code) (none, false)
    else createReadback leaseName candidate none code
  | .failed e => createReadback leaseName candidate (some e) 0

variable (fence : MutationFence)

/-- The end of `SetReceipt`: a PUT that may have been applied is read back. -/
def setReceiptReadback (receipt : String) (requestErr : Option Err)
    (status : ℕ) : LeaseCode (Option MutationFence) := do
  let err := joinErrs requestErr (kubernetesFenceStatusError "persist receipt" status)
  match ← attempt (get leaseName fence.key) with
  | .error getErr => returnErr (joinErrs err (some getErr)) none
  | .ok none => returnErr err none
  | .ok (some readback) =>
    if readback.intent = fence.intent ∧ readback.attempt = fence.attempt ∧
        readback.observation = fence.observation ∧ equalFold readback.receipt receipt then
      pure (some readback)
    else returnErr err none

def setReceipt (receipt : String) : LeaseCode (Option MutationFence) := do
  check (validateMutationFence fence)
  check (failIf (uuidPattern (toLower receipt) = false)
    (.new "CSI mutation receipt is not a valid UUID"))
  match ← getMutationLease (leaseName fence.key) with
  | .error status =>
    if status = 404 then
      throw (.new "CSI mutation Lease disappeared before receipt persistence")
    else returnErr (kubernetesFenceStatusError "get before receipt update" status) none
  | .ok lease => do
    let current ← check (mutationFenceFromLease lease)
    check (failIf (sameMutationFenceState current fence = false)
      (.new "CSI mutation Lease changed before receipt persistence"))
    if current.receipt ≠ "" ∧ equalFold current.receipt receipt then pure (some current)
    else
      let update := { lease with fence := { lease.fence with receipt := toLower receipt } }
      match ← request (.put (leaseName fence.key) update) with
      | .ok storedLease => do
        let stored ← check (mutationFenceFromLease storedLease)
        check (failIf (¬ (stored.key = fence.key ∧ stored.intent = fence.intent ∧
            stored.attempt = fence.attempt ∧ stored.observation = fence.observation ∧
            equalFold stored.receipt receipt))
          (.new "Kubernetes API returned a mismatched CSI mutation receipt"))
        pure (some stored)
      | .status code =>
        if ambiguousKubernetesMutationStatus code = false ∧ code ≠ 409 then
          returnErr (kubernetesFenceStatusError "persist receipt" code) none
        else setReceiptReadback leaseName fence receipt none code
      | .failed e => setReceiptReadback leaseName fence receipt (some e) 0

/-- The end of `SetObservation`. -/
def setObservationReadback (observation : Option MutationObservation)
    (requestErr : Option Err) (status : ℕ) : LeaseCode (Option MutationFence) := do
  let err := joinErrs requestErr (kubernetesFenceStatusError "persist observation" status)
  match ← attempt (get leaseName fence.key) with
  | .error getErr => returnErr (joinErrs err (some getErr)) none
  | .ok none => returnErr err none
  | .ok (some readback) =>
    if sameMutationFenceAuthority readback fence ∧ readback.observation = observation then
      pure (some readback)
    else if sameMutationFenceAuthority readback fence then
      throw (.wrap .mutationFenceChanged "during observation persistence")
    else returnErr err none

def setObservation (observation : Option MutationObservation) :
    LeaseCode (Option MutationFence) := do
  check (validateMutationFence fence)
  check (observation.elim (.ok ()) FenceStore.validateMutationObservation)
  match ← getMutationLease (leaseName fence.key) with
  | .error status =>
    if status = 404 then
      throw (.wrap .mutationFenceChanged
        "CSI mutation Lease disappeared before observation persistence")
    else returnErr (kubernetesFenceStatusError "get before observation update" status) none
  | .ok lease => do
    let current ← check (mutationFenceFromLease lease)
    if current.observation = observation ∧ sameMutationFenceAuthority current fence then
      pure (some current)
    else do
      check (failIf (sameMutationFenceState current fence = false)
        (.wrap .mutationFenceChanged "before observation persistence"))
      let update := { lease with fence := { lease.fence with observation := observation } }
      match ← request (.put (leaseName fence.key) update) with
      | .ok storedLease => do
        let stored ← check (mutationFenceFromLease storedLease)
        check (failIf (¬ (sameMutationFenceAuthority stored fence ∧
            stored.observation = observation))
          (.new "Kubernetes API returned a mismatched CSI mutation observation"))
        pure (some stored)
      | .status code =>
        if ambiguousKubernetesMutationStatus code = false ∧ code ≠ 409 then
          returnErr (kubernetesFenceStatusError "persist observation" code) none
        else setObservationReadback leaseName fence observation none code
      | .failed e => setObservationReadback leaseName fence observation (some e) 0

/-- The end of `Delete`. -/
def deleteReadback (deleteErr : Option Err) (status : ℕ) : LeaseCode Unit := do
  let err := joinErrs deleteErr (kubernetesFenceStatusError "complete" status)
  let invisible := .new "CSI mutation Lease completion is not yet visible"
  match ← attempt (get leaseName fence.key) with
  | .ok none => pure ()
  | .ok (some _) => returnErr (joinErrs err (some invisible)) ()
  | .error getErr => returnErr (joinErrs (joinErrs err (some getErr)) (some invisible)) ()

def delete : LeaseCode Unit := do
  check (validateMutationFence fence)
  match ← getMutationLease (leaseName fence.key) with
  | .error status =>
    if status = 404 then pure ()
    else returnErr (kubernetesFenceStatusError "get before completion" status) ()
  | .ok lease => do
    let current ← check (mutationFenceFromLease lease)
    check (failIf (sameMutationFenceState current fence = false)
      (.new "CSI mutation Lease changed before completion"))
    match ← request (.delete (leaseName fence.key) lease.uid lease.resourceVersion) with
    | .ok () => deleteReadback leaseName fence none 200
    | .status code =>
      if code ≠ 404 ∧ ambiguousKubernetesMutationStatus code = false then
        returnErr (kubernetesFenceStatusError "complete" code) ()
      else deleteReadback leaseName fence none code
    | .failed e => deleteReadback leaseName fence (some e) 0

/-! ### Calls -/

/-- A call of the store by a client. -/
inductive Call
  | create (candidate : MutationFence)
  | setReceipt (fence : MutationFence) (receipt : String)
  | setObservation (fence : MutationFence) (observation : Option MutationObservation)
  | delete (fence : MutationFence)

/-- What a call returns besides its error. -/
inductive Result
  | created (fence : Option MutationFence) (acquired : Bool)
  | fence (fence : Option MutationFence)
  | done
deriving DecidableEq

namespace Call

/-- The code a call runs. -/
def code : Call → LeaseCode Result
  | .create candidate => do
    let (fence, acquired) ← LeaseStore.create leaseName candidate
    pure (.created fence acquired)
  | .setReceipt fence receipt => do pure (.fence (← LeaseStore.setReceipt leaseName fence receipt))
  | .setObservation fence observation => do
    pure (.fence (← LeaseStore.setObservation leaseName fence observation))
  | .delete fence => do
    LeaseStore.delete leaseName fence
    pure .done

/-- The same call of the memory store, on receipts in lower case. -/
def memory (s : FenceStore) : Call → Except Err Result × FenceStore
  | .create candidate =>
    let (fence, acquired, s') := s.create (lowered candidate)
    (.ok (.created (some fence) acquired), s')
  | .setReceipt fence receipt =>
    let (r, s') := s.setReceipt fence (toLower receipt)
    (r.map fun f => .fence (some f), s')
  | .setObservation fence observation =>
    let (r, s') := s.setObservation fence observation
    (r.map fun f => .fence (some f), s')
  | .delete fence =>
    let (r, s') := s.delete fence
    (r.map fun _ => .done, s')

/-- What the caller asks for: its fence acquired, the fence it passed with the
receipt or the observation, the fence gone. -/
def aim : Call → Result
  | .create candidate => .created (some (lowered candidate)) true
  | .setReceipt fence receipt => .fence (some { fence with receipt := toLower receipt })
  | .setObservation fence observation => .fence (some { fence with observation := observation })
  | .delete _ => .done

end Call

end LeaseStore

end InSpaceKube.Csi
