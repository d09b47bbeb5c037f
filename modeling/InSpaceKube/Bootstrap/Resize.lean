/-
InSpaceKube/Bootstrap/Resize.lean

`ControlPlaneResizer.Resize`: a control-plane VM is stopped, given its new size
and started again.

A VM that the run has stopped is started by nobody else, so a run that has seen it
stopped must send a StartVM before it returns, or see that it is up after all.  The
start begins with a read of the status, though, and that read may fail: under a
cancelled context, or with an error that is not transient.  Then the run returns
without a StartVM, which `answered` rules out.

Every request may be answered in any way, so a context may end anywhere: `sleep`
says whether the wait goes on, and `ctxErr` is `ctx.Err()`.  Loops run for `rounds`
polls.  The location is left out, reads show a VM, and timeouts are texts.
-/
import InSpaceKube.Prog.Habit
import InSpaceKube.Go

namespace InSpaceKube.Bootstrap

open Prog Rules

/-! ### The code -/

structure VM where
  uuid : String
  name : String
  description : String
  billingAccountID : ℤ
  privateIPv4 : String
  vcpu : ℤ
  memoryMiB : ℤ
  status : String

/-- What `errors.Is` and `errors.As` find. -/
inductive Kind
  | notDispatched
  | api (statusCode : ℕ) (retryable : Bool)
  | deadlineExceeded
  | timeout
deriving DecidableEq

abbrev Err := GoError Kind

inductive Op
  | listVMs
  | getVM (uuid : String)
  | stopVM (uuid : String)
  | startVM (uuid : String)
  | updateVMCompute (uuid : String) (vcpu memoryMiB : ℤ)
  | sleep
  | now
  | ctxErr

def Reply : Op → Type
  | .listVMs => Except Err (List VM)
  | .getVM _ => Except Err VM
  | .stopVM _ | .startVM _ => Option Err
  | .updateVMCompute _ _ _ => Except Err (Option VM)
  | .sleep => Bool
  | .now => ℤ
  | .ctxErr => Option Err

abbrev M := ExceptT Err (Prog Op Reply)

def getVM (uuid : String) : M (Except Err VM) := perform (Op.getVM uuid)

def listVMs : M (Except Err (List VM)) := perform Op.listVMs

def updateVMCompute (uuid : String) (vcpu memoryMiB : ℤ) : M (Except Err (Option VM)) :=
  perform (Op.updateVMCompute uuid vcpu memoryMiB)

def sleep : M Bool := perform Op.sleep

def clock : M ℤ := perform Op.now

def ctxErr : M (Option Err) := perform Op.ctxErr

structure Resizer where
  stopTimeout : String
  startTimeout : String
  ipTimeout : String
  resendInterval : ℤ
  /-- `net.ParseIP` reads the text. -/
  parsesIP : String → Bool
  rounds : ℕ

structure Cluster where
  name : String
  /-- What `ValidatePersisted` reports. -/
  invalid : Option String
  replicas : ℤ
  billingAccountID : ℤ
  ownerKey : String

structure Request where
  slot : ℤ
  vcpu : ℤ
  memoryMiB : ℤ
  expectedUUID : String
  expectedPrivateIPv4 : String

structure Result where
  vm : VM
  action : String
  message : String

def transientResizeError (e : Err) : Bool :=
  if e.is .notDispatched then false
  else match e.kinds.findSome? fun | .api _ retryable => some retryable | _ => none with
    | some retryable => retryable
    | none => e.is .deadlineExceeded || e.is .timeout

def resizeConflict (e : Err) : Bool :=
  match e.kinds.findSome? fun | .api code _ => some code | _ => none with
  | some code => code == 409 || code == 422
  | none => false

def resizeStatus (vm : VM) : String :=
  let status := toLower (trimSpace vm.status)
  if status ∈ ["stopped", "shutoff", "shutdown", "off"] then "stopped" else status

variable (r : Resizer) (cluster : Cluster) (request : Request) (vm : VM) (uuid : String)

def resizeAtTarget : Bool := vm.vcpu == request.vcpu && vm.memoryMiB == request.memoryMiB

def hasControlPlaneOwnershipRecord (description owner : String) (slot : ℤ) : Bool :=
  [9, 8, 7, 6, 5, 4, 3, 2].any fun version =>
    let start := "inspace-rke2-cp/v" ++ toString version ++ " owner=" ++ owner ++ " slot="
      ++ toString slot ++ " spec="
    hasPrefix description start &&
      matchHexGroups [64] (toLower (trimPrefix description start)).toList

def checkAddress : Except Err Unit :=
  failIf (¬ (vm.privateIPv4 = request.expectedPrivateIPv4 ∨
      vm.privateIPv4 = "" ∧ resizeStatus vm = "stopped"))
    (.new ("bootstrap: control-plane VM " ++ quote vm.name ++ " private IPv4 is "
      ++ quote vm.privateIPv4 ++ ", journaled " ++ quote request.expectedPrivateIPv4))

/-- The checks of `inspect` before its first read. -/
def checkRequest : Except Err Unit := do
  cluster.invalid.elim (.ok ()) fun errs => .error (.new ("bootstrap: invalid cluster: " ++ errs))
  failIf (request.slot < 0 ∨ cluster.replicas ≤ request.slot)
    (.new ("bootstrap: control-plane slot " ++ toString request.slot
      ++ " is outside this cluster's " ++ toString cluster.replicas ++ " slots"))
  failIf (request.vcpu ≤ 0 ∨ request.memoryMiB ≤ 0)
    (.new "bootstrap: target vCPU and memory must be positive")
  failIf (r.parsesIP request.expectedPrivateIPv4 = false)
    (.new "bootstrap: the journaled private IPv4 of the control-plane VM is required")
  failIf (uuidPatternFold request.expectedUUID = false)
    (.new "bootstrap: the journaled UUID of the control-plane VM is required")

def controlPlaneName : String := cluster.name ++ "-cp" ++ toString request.slot

def inspectListed (vms : List VM) : Except Err VM :=
  let name := controlPlaneName cluster request
  match vms.filter fun vm => vm.name == name with
  | _ :: _ :: _ => .error (.new ("bootstrap: duplicate VM name " ++ quote name))
  | [listed] => do
    failIf (uuidPatternFold listed.uuid = false)
      (.new ("bootstrap: control-plane VM " ++ quote name ++ " was not found"))
    failIf (equalFold listed.uuid request.expectedUUID = false)
      (.new ("bootstrap: control-plane VM " ++ quote name ++ " has UUID " ++ listed.uuid
        ++ ", journaled " ++ request.expectedUUID))
    return listed
  | [] => .error (.new ("bootstrap: control-plane VM " ++ quote name ++ " was not found"))

def sizeText (vcpu memoryMiB : ℤ) : String :=
  toString vcpu ++ " vCPU and " ++ toString memoryMiB ++ " MiB"

def inspectDetail (listed : VM) : Except Err Unit := do
  let name := controlPlaneName cluster request
  failIf (equalFold vm.uuid listed.uuid = false ∨ vm.name ≠ name)
    (.new ("bootstrap: control-plane VM " ++ quote name ++ " detail does not match its inventory row"))
  failIf (resizeStatus vm = "deleted")
    (.new ("bootstrap: control-plane VM " ++ quote name ++ " is a deleted tombstone"))
  failIf (hasControlPlaneOwnershipRecord vm.description cluster.ownerKey request.slot = false)
    (.new ("bootstrap: refusing to resize VM " ++ quote name ++ " without this cluster's slot "
      ++ toString request.slot ++ " ownership record"))
  failIf (cluster.billingAccountID ≤ 0 ∨ vm.billingAccountID ≠ cluster.billingAccountID)
    (.new ("bootstrap: refusing to resize VM " ++ quote name
      ++ " without exact billing-account ownership"))
  checkAddress request vm
  failIf (request.vcpu < vm.vcpu ∨ request.memoryMiB < vm.memoryMiB)
    (.new ("bootstrap: refusing to shrink control-plane VM " ++ quote name ++ " from "
      ++ sizeText vm.vcpu vm.memoryMiB ++ " to " ++ sizeText request.vcpu request.memoryMiB))

def inspect : M VM := do
  check (checkRequest r cluster request)
  let vms ← listVMs
  let listed ← check (vms >>= inspectListed cluster request)
  let vm ← getVM listed.uuid
  check do
    let vm ← vm
    inspectDetail cluster request vm listed
    return vm

/-- A read of a loop: a transient failure shows nothing. -/
def pollVM : M (Option VM) := do
  let got ← getVM uuid
  check (match got with
    | .ok vm => .ok (some vm)
    | .error e => if transientResizeError e then .ok none else .error e)

/-- A loop of polls.  A step ends it with the VM, or goes on with the time the power
request was last sent at. -/
def poll (step : Option ℤ → M (VM ⊕ Option ℤ)) (waitError : M VM) : ℕ → Option ℤ → M VM
  | 0, _ => outOfRounds
  | rounds + 1, sentAt => do
    match ← step sentAt with
    | .inl vm => return vm
    | .inr sentAt => do
      if ← sleep then poll step waitError rounds sentAt else waitError

def resizeWaitError (verb want timeout : String) : M VM := do
  let err ← ctxErr
  throw (err.getD (.new ("bootstrap: control-plane VM " ++ uuid ++ if verb = "stop" then
      " did not stop within " ++ timeout
        ++ "; it was not forced, so resize nothing and retry once the guest is down"
    else " did not reach " ++ quote want ++ " within " ++ timeout)))

def waitStatus (want timeout verb : String) : M VM :=
  poll (fun _ => do
    let vm ← pollVM uuid
    return (vm.filter fun vm => resizeStatus vm = want).elim (.inr none) .inl)
    (resizeWaitError uuid verb want timeout) r.rounds none

inductive Power
  | stop
  | start

def Power.source : Power → String
  | .stop => "running"
  | .start => "stopped"

def Power.want : Power → String
  | .stop => "stopped"
  | .start => "running"

def Power.verb : Power → String
  | .stop => "stop"
  | .start => "start"

def Power.timeout : Power → String
  | .stop => r.stopTimeout
  | .start => r.startTimeout

def Power.send : Power → M (Option Err)
  | .stop => perform (Op.stopVM uuid)
  | .start => perform (Op.startVM uuid)

def sendPower (p : Power) : M (Option ℤ) := do
  let sentAt ← clock
  let err ← p.send uuid
  check (match err.filter fun e => !transientResizeError e && !resizeConflict e with
    | none => .ok (some sentAt)
    | some e => .error (e.within ("bootstrap: " ++ p.verb ++ " control-plane VM " ++ uuid)))

/-- One poll of `powerAndWait`. -/
def powerStep (p : Power) (sentAt : Option ℤ) : M (VM ⊕ Option ℤ) := do
  match ← pollVM uuid with
  | none => return .inr sentAt
  | some vm =>
    if resizeStatus vm = p.want then return .inl vm
    else if resizeStatus vm = p.source then
      match sentAt with
      | none => return .inr (← sendPower uuid p)
      | some at_ => do
        let now ← clock
        if at_ + r.resendInterval ≤ now then return .inr (← sendPower uuid p) else return .inr sentAt
    else return .inr sentAt

def powerAndWait (p : Power) : M VM :=
  poll (powerStep r uuid p) (resizeWaitError uuid p.verb p.want (p.timeout r)) r.rounds none

def applyCompute : M VM := do
  let echo ← updateVMCompute vm.uuid request.vcpu request.memoryMiB
  let readback ← getVM vm.uuid
  match readback, echo with
  | .ok readback, echo => do
    check (failIf (resizeAtTarget request readback = false) (match echo with
      | .error e => e.within ("bootstrap: resize control-plane VM " ++ quote vm.name)
      | .ok _ => .new ("bootstrap: control-plane VM " ++ quote vm.name ++ " read back "
          ++ sizeText readback.vcpu readback.memoryMiB ++ " after the resize, want "
          ++ sizeText request.vcpu request.memoryMiB)))
    return readback
  | .error readErr, .ok echo =>
    match echo.filter fun vm => resizeAtTarget request vm with
    | some echo => return echo
    | none => throw (readErr.within
        ("bootstrap: read back resized control-plane VM " ++ quote vm.name))
  | .error readErr, .error patchErr => throw ((patchErr.join readErr).within
      ("bootstrap: resize control-plane VM " ++ quote vm.name))

/-- The VM after `applyCompute`; when it fails the VM is started again. -/
def applyOrRestart : M VM := do
  match ← attempt (applyCompute request vm) with
  | .ok vm => return vm
  | .error err => do
    match ← attempt (powerAndWait r vm.uuid .start) with
    | .ok _ => throw err
    | .error e => throw (err.join (e.within ("bootstrap: starting control-plane VM " ++ vm.uuid
        ++ " again after the failed resize")))

def addressLoop : ℕ → M VM
  | 0 => outOfRounds
  | rounds + 1 => do
    if ← sleep then do
      match (← pollVM vm.uuid).filter fun vm => vm.privateIPv4 ≠ "" with
      | some current => return current
      | none => addressLoop rounds
    else do
      let err ← ctxErr
      throw (err.getD (.new ("bootstrap: control-plane VM " ++ quote vm.name
        ++ " reported no private IPv4 within " ++ r.ipTimeout ++ " of starting")))

def waitForAddress : M VM :=
  if vm.privateIPv4 ≠ "" then return vm else addressLoop r vm r.rounds

/-- The end of `Resize`, from the stopped VM. -/
def startResized (changed : Bool) : M Result := do
  let vm ← powerAndWait r vm.uuid .start
  let vm ← waitForAddress r vm
  check (checkAddress request vm)
  check (failIf (resizeAtTarget request vm = false) (.new ("bootstrap: control-plane VM "
    ++ quote vm.name ++ " came back with " ++ sizeText vm.vcpu vm.memoryMiB ++ ", want "
    ++ sizeText request.vcpu request.memoryMiB)))
  return if changed then ⟨vm, "resized", "the VM was stopped gracefully, resized, and started"⟩
    else ⟨vm, "unchanged", "the VM already runs at the target size"⟩

/-- `Resize` once the VM was stopped, where it had to be. -/
def resizeStopped (changed : Bool) : M Result := do
  check (failIf (resizeStatus vm ≠ "stopped") (.new ("bootstrap: control-plane VM "
    ++ quote vm.name ++ " is " ++ quote vm.status ++ "; refusing to resize it")))
  if resizeAtTarget request vm then startResized r request vm changed
  else do
    let vm ← applyOrRestart r request vm
    startResized r request vm true

/-- `Resize` once the VM is not starting. -/
def resizeFrom : M Result := do
  let running := resizeStatus vm = "running"
  if resizeAtTarget request vm ∧ running then do
    check (checkAddress request vm)
    return ⟨vm, "unchanged", "the VM already runs at the target size"⟩
  else if (resizeAtTarget request vm = false ∧ running) ∨ resizeStatus vm = "stopping" then do
    let vm ← powerAndWait r vm.uuid .stop
    resizeStopped r request vm true
  else resizeStopped r request vm false

def resize : M Result := do
  let vm ← inspect r cluster request
  if resizeStatus vm = "starting" then do
    let vm ← waitStatus r vm.uuid "running" r.startTimeout "start"
    resizeFrom r request vm
  else resizeFrom r request vm

/-! ### What a run has done -/

/-- What the run knows of the VM: it has not stopped it, has asked it to stop, or has
seen it stopped since; then it may have sent the UpdateVMCompute just now. -/
inductive Phase
  | up
  | stopping
  | down
  | updating
deriving DecidableEq

/-- A StartVM, or a read that shows the VM up, ends what a StopVM began. -/
@[simp] def Phase.after (q : Phase) : Event Op Reply → Phase
  | ⟨.stopVM _, _⟩ => if q = .up ∨ q = .stopping then .stopping else .down
  | ⟨.startVM _, _⟩ => .up
  | ⟨.updateVMCompute _ _ _, _⟩ => if q = .down then .updating else q
  | ⟨.getVM _, .ok vm⟩ =>
    if resizeStatus vm = "stopped" then if q = .up then .up else .down
    else if q = .stopping then .stopping else .up
  | ⟨.getVM _, .error _⟩ => if q = .updating then .down else q
  | _ => q

def phase (tr : Trace Op Reply) : Phase := tr.foldr (fun e q => q.after e) .up

/-- A read has shown the VM stopped, and no StartVM was sent since. -/
def stoppedSeen : Trace Op Reply → Prop
  | [] => False
  | ⟨.startVM _, _⟩ :: _ => False
  | ⟨.getVM _, .ok vm⟩ :: tr => resizeStatus vm = "stopped" ∨ stoppedSeen tr
  | _ :: tr => stoppedSeen tr

/-- Every UpdateVMCompute was sent to a VM seen stopped. -/
def ComputeStopped : Trace Op Reply → Prop
  | [] => True
  | ⟨.updateVMCompute _ _ _, _⟩ :: tr => stoppedSeen tr ∧ ComputeStopped tr
  | _ :: tr => ComputeStopped tr

/-- While the VM is down by the run, its status can be read; the read-back of an
UpdateVMCompute may fail. -/
def answered (tr : Trace Op Reply) : (op : Op) → Reply op → Prop
  | .getVM _, r => phase tr = .down → ∃ vm, r = Except.ok vm
  | _, _ => True

/-- A run, as the trace of its requests and their replies. -/
def session (cond : Trace Op Reply → (op : Op) → Reply op → Prop) :
    Sem (Trace Op Reply) Op Reply where
  exec _ op tr r tr' := tr' = ⟨op, r⟩ :: tr ∧ cond tr op r
  env _ _ := False

def Runs (t : Tid) (p : Prog Op Reply (Except Err Result)) : Prop :=
  t = 0 ∧ p = (resize r cluster request).run

def rules : Rules (Trace Op Reply) where
  inv := ComputeStopped
  guar t _ _ := t = 0
  fresh t tr := t = 0 → tr = []

section

variable (cond : Trace Op Reply → (op : Op) → Reply op → Prop)

/-- As far as the condition holds, the run is in one of the phases. -/
def Is (phases : List Phase) (tr : Trace Op Reply) : Prop :=
  (∀ tr op r, cond tr op r → answered tr op r) → phase tr ∈ phases

/-- The VM is not down by the run. -/
abbrev Calm : Trace Op Reply → Prop := Is cond [.up, .stopping]

/-- A part of the run: when it fails, the VM is not left down. -/
abbrev Ends {α : Type} (P : Trace Op Reply → Prop) (x : M α)
    (Q : α → Trace Op Reply → Prop) : Prop :=
  rules.TripleE (session cond) 0 P x Q fun _ => Calm cond

end

variable {cond : Trace Op Reply → (op : Op) → Reply op → Prop} {r cluster request vm uuid}
  {P : Trace Op Reply → Prop} {phases phases' : List Phase} {tr : Trace Op Reply}

theorem Is.mono (h : Is cond phases tr) (hsub : ∀ p ∈ phases, p ∈ phases') : Is cond phases' tr :=
  fun hcond => hsub _ (h hcond)

theorem stable_any : rules.Stable (session cond) 0 P := by
  rintro _ _ _ ⟨-, -, henv | ⟨_, hu, hguar⟩⟩
  · exact henv.elim
  · exact absurd hguar hu

/-- A request other than UpdateVMCompute. -/
theorem asks {op : Op} {Q : Reply op → Trace Op Reply → Prop}
    (hop : ∀ {uuid vcpu memoryMiB}, op ≠ .updateVMCompute uuid vcpu memoryMiB)
    (h : ∀ tr r, P tr → cond tr op r → Q r (⟨op, r⟩ :: tr)) : Ends cond P (perform op) Q := by
  refine .perform stable_any fun tr r tr' hinv hP hexec => ?_
  obtain ⟨rfl, hcond⟩ := hexec
  refine ⟨?_, rfl, h tr r hP hcond⟩
  cases op with
  | updateVMCompute => exact absurd rfl hop
  | _ => exact hinv

theorem asks_same {op : Op}
    (hop : ∀ {uuid vcpu memoryMiB}, op ≠ .updateVMCompute uuid vcpu memoryMiB)
    (h : ∀ tr r, P tr → P (⟨op, r⟩ :: tr)) : Ends cond P (perform op) fun _ => P :=
  asks hop fun tr r hP _ => h tr r hP

theorem Is.up_calm (h : Is cond [.up] tr) : Calm cond tr :=
  h.mono (by simp)

theorem Is.step {e : Event Op Reply} (h : Is cond phases tr)
    (hsub : ∀ q ∈ phases, q.after e ∈ phases') : Is cond phases' (e :: tr) :=
  fun hcond => hsub _ (h hcond)

/-- A read may fail, if the condition allows it. -/
theorem getVM_ends {Q : Except Err VM → Trace Op Reply → Prop}
    (herr : ∀ tr e, P tr → cond tr (.getVM uuid) (.error e) →
      Q (.error e) (⟨.getVM uuid, .error e⟩ :: tr))
    (hok : ∀ tr vm, P tr → Q (.ok vm) (⟨.getVM uuid, .ok vm⟩ :: tr)) :
    Ends cond P (getVM uuid) Q := by
  refine asks (by simp) fun tr r hP hcond => ?_
  cases r with
  | error e => exact herr tr e hP hcond
  | ok vm => exact hok tr vm hP

theorem pollVM_ends {Q : Option VM → Trace Op Reply → Prop}
    (herr : ∀ tr e, P tr → cond tr (.getVM uuid) (.error e) →
      Q none (⟨.getVM uuid, .error e⟩ :: tr) ∧ Calm cond (⟨.getVM uuid, .error e⟩ :: tr))
    (hok : ∀ tr vm, P tr → Q (some vm) (⟨.getVM uuid, .ok vm⟩ :: tr)) :
    Ends cond P (pollVM uuid) Q := by
  refine .bind (M := fun got tr => match got with
    | .ok vm => Q (some vm) tr
    | .error _ => Q none tr ∧ Calm cond tr) (getVM_ends herr hok) fun got => ?_
  cases got with
  | ok => exact .pure fun _ _ h => h
  | error =>
    dsimp only
    split
    · exact .pure fun _ _ h => h.1
    · exact .throw fun _ _ h => h.2

theorem pollVM_up : Ends cond (Is cond [.up]) (pollVM uuid) fun _ => Is cond [.up] :=
  pollVM_ends (fun _ _ h _ => ⟨h.step (by simp), h.step (by simp)⟩) fun _ _ h => h.step (by simp)

theorem inspect_ends : Ends cond (Is cond [.up]) (inspect r cluster request) fun vm tr =>
    Is cond [.up] tr ∧ (resizeStatus vm = "stopped" → stoppedSeen tr) := by
  refine .check_bind (fun _ _ => ?_) fun _ _ _ h => h.up_calm
  refine .bind (asks_same (by simp) fun _ _ h => h) fun vms => ?_
  refine .check_bind (fun listed _ => ?_) fun _ _ _ h => h.up_calm
  refine .bind (M := fun got tr => Is cond [.up] tr ∧ ∀ vm, got = .ok vm →
    resizeStatus vm = "stopped" → stoppedSeen tr) (getVM_ends
      (fun _ _ h _ => ⟨h.step (by simp), nofun⟩) fun _ vm h => ⟨h.step (by simp), ?_⟩) fun got => ?_
  · rintro _ ⟨⟩ hstopped
    exact .inl hstopped
  refine .check (fun vm hvm tr _ h => ⟨h.1, ?_⟩) fun _ _ _ _ h => h.1.up_calm
  obtain ⟨_, rfl, hdetail⟩ := except_bind_ok hvm
  obtain ⟨_, -, ⟨⟩⟩ := except_bind_ok hdetail
  exact h.2 _ rfl

/-- The polls: a step that goes on does not leave the VM down. -/
theorem poll_ends {I : Option ℤ → Trace Op Reply → Prop} {Q : VM → Trace Op Reply → Prop}
    {step : Option ℤ → M (VM ⊕ Option ℤ)} {verb want timeout : String}
    (hstep : ∀ sentAt, Ends cond (I sentAt) (step sentAt) fun
      | .inl vm, tr => Q vm tr
      | .inr sentAt, tr => I sentAt tr ∧ Calm cond tr)
    (hsleep : ∀ {sentAt tr b}, I sentAt tr → I sentAt (⟨.sleep, b⟩ :: tr)) (rounds : ℕ)
    (sentAt : Option ℤ) : Ends cond (I sentAt)
      (poll step (resizeWaitError uuid verb want timeout) rounds sentAt) Q := by
  induction rounds generalizing sentAt with
  | zero => exact .outOfRounds
  | succ _ ih =>
    refine .bind (hstep sentAt) fun a => ?_
    cases a with
    | inl => exact .pure fun _ _ h => h
    | inr sentAt =>
      refine .bind (asks_same (by simp) fun _ _ h => ⟨hsleep h.1, h.2⟩) fun b => ?_
      cases b with
      | true => exact (ih sentAt).pre fun _ _ h => h.1
      | false =>
        refine .bind (M := fun _ => Calm cond) ?_ fun _ => .throw fun _ _ h => h
        exact (asks_same (by simp) fun _ _ h => h).pre fun _ _ h => h.2

theorem waitStatus_ends {want timeout verb : String} :
    Ends cond (Is cond [.up]) (waitStatus r uuid want timeout verb) fun vm tr =>
      Is cond [.up] tr ∧ resizeStatus vm = want := by
  refine poll_ends (I := fun _ => Is cond [.up]) (fun _ => ?_) (fun h => h) r.rounds none
  refine .bind pollVM_up fun got => .pure fun _ _ h => ?_
  cases hgot : got.filter fun vm => decide (resizeStatus vm = want) with
  | none => exact ⟨h, h.up_calm⟩
  | some vm => exact ⟨h, by simpa using (Option.filter_eq_some_iff.1 hgot).2⟩

section

variable {p : Power} {I : Option ℤ → Trace Op Reply → Prop} {Q : VM → Trace Op Reply → Prop}
  (hsent : ∀ {sentAt tr}, I (some sentAt) tr → Calm cond tr)
  (hsend : ∀ {sentAt}, Ends cond (I sentAt) (p.send uuid) fun _ tr => ∀ sentAt, I (some sentAt) tr)
  (hclock : ∀ {sentAt tr now}, I sentAt tr → I sentAt (⟨.now, now⟩ :: tr))

include hsent hsend hclock

theorem sendPower_ends {sentAt : Option ℤ} :
    Ends cond (I sentAt) (do return .inr (← sendPower uuid p) : M (VM ⊕ Option ℤ)) fun
      | .inl vm, tr => Q vm tr
      | .inr sentAt, tr => I sentAt tr ∧ Calm cond tr := by
  refine .bind (M := fun sentAt tr => I sentAt tr ∧ Calm cond tr) ?_ fun _ => .pure fun _ _ h => h
  refine .bind (asks_same (by simp) fun _ _ h => hclock h) fun sentAt => .bind hsend fun err => ?_
  refine .check (fun a ha _ _ h => ?_) fun _ _ _ _ h => hsent (h sentAt)
  split at ha <;> cases ha
  exact ⟨h sentAt, hsent (h sentAt)⟩

/-- A power request and its polls: what a read shows, and what sending the request does. -/
theorem powerAndWait_ends
    (herr : ∀ {sentAt tr e}, I sentAt tr → cond tr (.getVM uuid) (.error e) →
      I sentAt (⟨.getVM uuid, .error e⟩ :: tr) ∧ Calm cond (⟨.getVM uuid, .error e⟩ :: tr))
    (hwant : ∀ {sentAt tr vm}, I sentAt tr → resizeStatus vm = p.want →
      Q vm (⟨.getVM uuid, .ok vm⟩ :: tr))
    (hother : ∀ {sentAt tr vm}, I sentAt tr → resizeStatus vm ≠ p.want →
      I sentAt (⟨.getVM uuid, .ok vm⟩ :: tr) ∧
        (resizeStatus vm ≠ p.source → Calm cond (⟨.getVM uuid, .ok vm⟩ :: tr)))
    (hsleep : ∀ {sentAt tr b}, I sentAt tr → I sentAt (⟨.sleep, b⟩ :: tr)) :
    Ends cond (I none) (powerAndWait r uuid p) Q := by
  refine poll_ends (fun sentAt => ?_) hsleep r.rounds none
  refine .bind (M := fun got tr => match got with
    | none => I sentAt tr ∧ Calm cond tr
    | some vm => (resizeStatus vm = p.want → Q vm tr) ∧ (resizeStatus vm ≠ p.want → I sentAt tr ∧
        (resizeStatus vm ≠ p.source → Calm cond tr)))
    (pollVM_ends (fun _ _ h hcond => ⟨herr h hcond, (herr h hcond).2⟩)
      fun _ _ h => ⟨hwant h, hother h⟩) fun got => ?_
  cases got with
  | none => exact .pure fun _ _ h => h
  | some vm =>
    dsimp only
    split
    · exact .pure fun _ _ h => h.1 ‹_›
    have hne : resizeStatus vm ≠ p.want := ‹_›
    split
    · cases sentAt with
      | none => exact (sendPower_ends hsent hsend hclock).pre fun _ _ h => (h.2 hne).1
      | some sentAt =>
        refine .bind ((asks_same (P := I (some sentAt)) (by simp) fun _ _ h => hclock h).pre
          fun _ _ h => (h.2 hne).1) fun now => ?_
        split
        · exact sendPower_ends hsent hsend hclock
        · exact .pure fun _ _ h => ⟨h, hsent h⟩
    · exact .pure fun _ _ h => ⟨(h.2 hne).1, (h.2 hne).2 ‹_›⟩

end

/-- The stop ends with a VM that was just seen stopped. -/
theorem stopAndWait_ends : Ends cond (Is cond [.up]) (powerAndWait r uuid .stop) fun vm tr =>
    resizeStatus vm = "stopped" ∧ Is cond [.up, .down] tr ∧ stoppedSeen tr := by
  refine (powerAndWait_ends (I := fun _ => Calm cond) id ?_ id
    (fun h _ => ⟨h.step (by simp), h.step (by simp)⟩)
    (fun h hwant => ⟨hwant, h.step (by simp [hwant, Power.want]), .inl hwant⟩)
    (fun {_ tr vm} h hne => ?_) id).pre fun _ _ h => h.up_calm
  · exact asks (by simp) fun _ _ h _ _ => h.step (by simp)
  · have hne : resizeStatus vm ≠ "stopped" := hne
    exact ⟨h.step (by simp [hne]), fun _ => h.step (by simp [hne])⟩

/-- The start leaves a VM that this run stopped only with a StartVM, or after it was seen up. -/
theorem startAndWait_ends :
    Ends cond (Is cond [.up, .down]) (powerAndWait r uuid .start) fun _ => Is cond [.up] := by
  -- until the StartVM was sent the VM may be down, and then a read shows something
  let phases (sentAt : Option ℤ) : List Phase := if sentAt = none then [.up, .down] else [.up]
  have hphases : ∀ {sentAt tr}, Is cond (phases sentAt) tr → Is cond [.up, .down] tr :=
    fun {sentAt tr} h => h.mono (by cases sentAt <;> simp [phases])
  have hup : ∀ {sentAt tr}, Is cond [.up] tr → Is cond (phases sentAt) tr :=
    fun {sentAt tr} h => h.mono (by cases sentAt <;> simp [phases])
  refine powerAndWait_ends (I := fun sentAt => Is cond (phases sentAt)) Is.up_calm ?_ id
    (fun {sentAt tr e} h hread => ?_) (fun {sentAt tr vm} h hwant => ?_)
    (fun {sentAt tr vm} h hne => ?_) id
  · exact asks (by simp) fun tr _ h _ sentAt _ => by simp [phases, phase]
  · have hseen : Is cond [.up] (⟨.getVM uuid, .error e⟩ :: tr) := fun hcond => by
      have hphase := hphases h hcond
      have hanswer := hcond _ _ _ hread
      simp_all [answered, phase]
    exact ⟨hup hseen, hseen.up_calm⟩
  · exact (hphases h).step (by simp [hwant, Power.want])
  · refine ⟨?_, fun hsource => ?_⟩
    · by_cases hvm : resizeStatus vm = "stopped"
      · exact h.step (by cases sentAt <;> simp [phases, hvm])
      · exact hup ((hphases h).step (by simp [hvm]))
    · have hsource : resizeStatus vm ≠ "stopped" := hsource
      exact ((hphases h).step (by simp [hsource]) : Is cond [.up] _).up_calm

/-- The update is sent to a VM seen stopped; after it, and its read-back, the VM may be down. -/
theorem applyCompute_ends : rules.TripleE (session cond) 0
    (fun tr => Is cond [.up, .down] tr ∧ stoppedSeen tr) (applyCompute request vm)
    (fun _ => Is cond [.up, .down]) fun _ => Is cond [.up, .down] := by
  refine .bind (M := fun _ => Is cond [.up, .updating]) (.perform stable_any ?_) fun echo => ?_
  · rintro _ _ _ hinv ⟨hphase, hseen⟩ ⟨rfl, -⟩
    exact ⟨⟨hseen, hinv⟩, rfl, hphase.step (by simp)⟩
  refine .bind (M := fun _ => Is cond [.up, .down]) ?_ fun readback => ?_
  · refine .perform stable_any ?_
    rintro _ r _ hinv hphase ⟨rfl, -⟩
    refine ⟨hinv, rfl, hphase.step ?_⟩
    cases r with
    | error => simp
    | ok vm => simpa using (Classical.em _).symm
  cases readback with
  | ok => exact .check_bind (fun _ _ => .pure fun _ _ h => h) fun _ _ _ h => h
  | error =>
    cases echo with
    | error => exact .throw fun _ _ h => h
    | ok =>
      dsimp only
      split
      · exact .pure fun _ _ h => h
      · exact .throw fun _ _ h => h

theorem applyOrRestart_ends : Ends cond (fun tr => Is cond [.up, .down] tr ∧ stoppedSeen tr)
    (applyOrRestart r request vm) fun _ => Is cond [.up, .down] := by
  refine .bind applyCompute_ends.attempt fun applied => ?_
  cases applied with
  | ok => exact .pure fun _ _ h => h
  | error =>
    refine .bind startAndWait_ends.attempt fun restarted => ?_
    cases restarted with
    | ok => exact .throw fun _ _ h => h.up_calm
    | error => exact .throw fun _ _ h => h

theorem addressLoop_ends (rounds : ℕ) :
    Ends cond (Is cond [.up]) (addressLoop r vm rounds) fun _ => Is cond [.up] := by
  induction rounds with
  | zero => exact .outOfRounds
  | succ _ ih =>
    refine .bind (asks_same (by simp) fun _ _ h => h) fun b => ?_
    cases b with
    | true =>
      refine .bind pollVM_up fun got => ?_
      split
      · exact .pure fun _ _ h => h
      · exact ih
    | false => exact .bind (asks_same (by simp) fun _ _ h => h) fun _ => .throw fun _ _ h => h.up_calm

theorem startResized_ends {changed : Bool} :
    Ends cond (Is cond [.up, .down]) (startResized r request vm changed) fun _ => Is cond [.up] := by
  refine .bind startAndWait_ends fun vm => .bind (M := fun _ => Is cond [.up]) ?_ fun vm => ?_
  · unfold waitForAddress
    split
    · exact .pure fun _ _ h => h
    · exact addressLoop_ends _
  refine .check_bind (fun _ _ => ?_) fun _ _ _ h => h.up_calm
  exact .check_bind (fun _ _ => .pure fun _ _ h => h) fun _ _ _ h => h.up_calm

theorem resizeStopped_ends {changed : Bool} : Ends cond
    (fun tr => (Is cond [.up] tr ∨ resizeStatus vm = "stopped" ∧ Is cond [.up, .down] tr) ∧
      (resizeStatus vm = "stopped" → stoppedSeen tr))
    (resizeStopped r request vm changed) fun _ => Is cond [.up] := by
  have hdown : ∀ {tr}, Is cond [.up] tr ∨ resizeStatus vm = "stopped" ∧ Is cond [.up, .down] tr →
      Is cond [.up, .down] tr :=
    fun h => h.elim (fun h => h.mono (by simp)) fun h => h.2
  refine .bind (M := fun _ tr => Is cond [.up, .down] tr ∧ stoppedSeen tr)
    (.check (fun _ hok _ _ h => ⟨hdown h.1, h.2 ?_⟩) fun _ herr _ _ h => ?_) fun _ => ?_
  · simpa using failIf_ok hok
  · obtain h | ⟨hvm, -⟩ := h.1
    · exact h.up_calm
    · simp [failIf, hvm] at herr
  split
  · exact startResized_ends.pre fun _ _ h => h.1
  · exact .bind applyOrRestart_ends fun _ => startResized_ends

theorem resizeFrom_ends : Ends cond
    (fun tr => Is cond [.up] tr ∧ (resizeStatus vm = "stopped" → stoppedSeen tr))
    (resizeFrom r request vm) fun _ => Is cond [.up] := by
  unfold resizeFrom
  dsimp only
  split
  · exact .check_bind (fun _ _ => .pure fun _ _ h => h.1) fun _ _ _ h => h.1.up_calm
  split
  · refine .bind (stopAndWait_ends.pre fun _ _ h => h.1) fun vm => ?_
    exact resizeStopped_ends.pre fun _ _ h => ⟨.inr ⟨h.1, h.2.1⟩, fun _ => h.2.2⟩
  · exact resizeStopped_ends.pre fun _ _ h => ⟨.inl h.1, h.2⟩

theorem resize_ends :
    Ends cond (Is cond [.up]) (resize r cluster request) fun _ => Is cond [.up] := by
  refine .bind inspect_ends fun vm => ?_
  split
  · refine .bind (waitStatus_ends.pre fun _ _ h => h.1) fun vm => ?_
    exact resizeFrom_ends.pre fun _ _ h => ⟨h.1, fun hstopped => by simp [h.2] at hstopped⟩
  · exact resizeFrom_ends

theorem resize_verified : rules.Verified (session cond) (Runs r cluster request) (· = [])
    fun t _ tr => t = 0 → Calm cond tr where
  init tr h := ⟨h ▸ trivial, fun _ _ => h⟩
  env _ _ _ henv := henv.elim
  fresh t tr tr' h hstep := by
    rintro rfl
    exact stable_any (P := (· = [])) tr tr' (h rfl) hstep
  stable t r tr tr' h hstep := by
    rintro rfl
    exact stable_any tr tr' (h rfl) hstep
  start t p tr hstart hinv hfresh := by
    obtain ⟨rfl, rfl⟩ := hstart
    have hup : Is cond [.up] tr := by
      rw [hfresh rfl]
      exact fun _ => List.mem_singleton.2 rfl
    exact resize_ends.wp hinv hup (fun _ _ h _ => h.up_calm) fun _ _ h _ => h

/-- A cloud that does as it is told; the context may be cancelled after the read-back. -/
def cloud (cancelled : Bool) : (op : Op) → Trace Op Reply → Reply op
  | .listVMs, _ => Except.ok [⟨"00000000-0000-4000-8000-000000000001", "c-cp0", "", 1, "", 2, 4, ""⟩]
  | .getVM uuid, tr =>
    if cancelled = true ∧ tr.length = 9 then Except.error (.new "context canceled")
    else Except.ok ⟨uuid, "c-cp0", "inspace-rke2-cp/v9 owner=o slot=0 spec="
      ++ "0123456789abcdef0123456789abcdef0123456789abcdef0123456789abcdef", 1, "10.0.0.2",
      if tr.length < 8 then 2 else 4, 4, if phase tr = .up then "running" else "stopped"⟩
  | .stopVM _, _ | .startVM _, _ | .ctxErr, _ => none
  | .updateVMCompute _ _ _, _ => Except.ok none
  | .sleep, _ => true
  | .now, _ => (0 : ℤ)

def exampleResizer : Resizer := ⟨"5m", "5m", "5m", 60, fun _ => true, 3⟩

def exampleCluster : Cluster := ⟨"c", none, 1, 1, "o"⟩

def exampleRequest : Request := ⟨0, 4, 4, "00000000-0000-4000-8000-000000000001", "10.0.0.2"⟩

section

variable (cond) (cancelled : Bool) (h : ∀ op tr, cond tr op (cloud cancelled op tr))

def cloud.driver : (session cond).Driver 0 where
  answer op tr := some (cloud cancelled op tr, ⟨op, cloud cancelled op tr⟩ :: tr)
  sound op tr r tr' hanswer := by
    cases hanswer
    exact ⟨rfl, h op tr⟩

def cloud.run : Trace Op Reply × Prog Op Reply (Except Err Result) :=
  (cloud.driver cond cancelled h).drive 20 [] (resize exampleResizer exampleCluster exampleRequest).run

theorem cloud.run_reachable :
    ∃ c, Reachable (session cond) (Runs exampleResizer exampleCluster exampleRequest) (· = []) c ∧
      c.shared = (run cond cancelled h).1 ∧ c.threads 0 = .running (run cond cancelled h).2 := by
  have hinit : Reachable (session cond) (Runs exampleResizer exampleCluster exampleRequest)
    (· = []) _ := Reachable.init rfl
  have hrun := (driver cond cancelled h).started (r := run cond cancelled h) hinit rfl ⟨rfl, rfl⟩ rfl
  obtain ⟨c, hc, hshared, hthreads⟩ := hrun.named
  exact ⟨c, hc, hshared, hthreads ▸ rfl⟩

end

theorem cloud_answered (op : Op) (tr : Trace Op Reply) : answered tr op (cloud false op tr) := by
  cases op with
  | getVM => exact fun _ => ⟨_, rfl⟩
  | _ => trivial

end InSpaceKube.Bootstrap
