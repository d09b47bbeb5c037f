/-
InSpaceKube/Csi/LeaseResults.lean

What the methods of the Lease store return without an error, whatever the
Kubernetes API answers.

`kubernetesFenceStatusError` has no error for 404, since for a GET that is an
answer like any other.  The writes and the listing use it too: a POST, a PUT or
a listing that is answered with 404 makes `Create`, `SetReceipt`,
`SetObservation` and `List` return nothing and no error.  With no such answer
every result is what the caller takes it for.
-/
import InSpaceKube.Csi.LeaseRefines
import InSpaceKube.Prog.Habit

namespace InSpaceKube.Csi.LeaseStore

open Prog Habit

/-! ### The listing -/

/-- The loop of `List` over the items; `seen` are the keys so far. -/
def listedFences : List Lease → List String → Except Err (List MutationFence)
  | [], _ => .ok []
  | lease :: leases, seen => do
    let fence ← mutationFenceFromLease lease
    failIf (fence.key ∈ seen)
      (.new ("CSI mutation Lease list contains duplicate key " ++ quote fence.key))
    return fence :: (← listedFences leases (fence.key :: seen))

/-- `List`: what it makes of the answer to its one request; nothing is a nil
slice. -/
def list (keyPrefix : String) (answer : Answer (List Lease)) :
    Except Err (Option (List MutationFence)) :=
  match answer with
  | .failed e => .error e
  | .status code =>
    match kubernetesFenceStatusError "list" code with
    | none => .ok none
    | some e => .error e
  | .ok leases => do
    let fences ← listedFences leases []
    return some ((fences.filter fun f => hasPrefix f.key keyPrefix).insertionSort (·.key ≤ ·.key))

/-! ### Answers -/

/-- A status is a final one outside 2xx. -/
def Final {α : Type} : Answer α → Prop
  | .status code => 300 ≤ code
  | _ => True

/-- What the API can answer to a request.  A body that does not decode ends a
method as one with an invalid fence does. -/
def Possible (e : Event LeaseOp LeaseReply) : Prop :=
  match e with
  | ⟨.post _ _, r⟩ => Final r
  | ⟨.get _, r⟩ => Final r
  | ⟨.put _ _, r⟩ => Final r
  | ⟨.delete _ _ _, r⟩ => Final r

/-- No write is answered with 404. -/
def WriteFound (e : Event LeaseOp LeaseReply) : Prop :=
  match e with
  | ⟨.post _ _, r⟩ => r ≠ .status 404
  | ⟨.put _ _, r⟩ => r ≠ .status 404
  | _ => True

/-- Such answers may be counted on. -/
def answers : Habit LeaseOp LeaseReply :=
  ⟨fun _ _ => True, fun op r => Possible ⟨op, r⟩ ∧ WriteFound ⟨op, r⟩⟩

variable {leaseName : String → String} {tr : Trace LeaseOp LeaseReply}

/-! ### The methods -/

section Methods

variable {α : Type} {Q : α → Trace LeaseOp LeaseReply → Prop} {err : Option Err} {status : ℕ}
  {fence : MutationFence}

theorem returnErr_follows {a : α} (h : err.isSome = true) :
    answers.FollowsE (returnErr err a) tr Q := by
  cases err with
  | none => cases h
  | some => exact .throw

/-- A status that does not stand for "not found" comes with an error. -/
theorem statusErr_follows {operation : String} {a : α} (h : 300 ≤ status) (hne : status ≠ 404) :
    answers.FollowsE (returnErr (kubernetesFenceStatusError operation status) a) tr Q :=
  returnErr_follows (kubernetesFenceStatusError_isSome h hne)

/-- A status that is read comes from the GET. -/
theorem getMutationLease_follows (name : String) :
    answers.FollowsE (getMutationLease name) tr fun r tr' =>
      ∀ code, r = .error code → 300 ≤ code ∧ ⟨.get name, .status code⟩ ∈ tr' := by
  refine .perform_bind trivial fun r hr => ?_
  cases r with
  | failed => exact .throw
  | ok => exact .pure nofun
  | status =>
    refine .pure fun code hcode => ?_
    cases hcode
    exact ⟨hr.1, .head _⟩

theorem get_follows {key : String} :
    answers.FollowsE (get leaseName key) tr fun r tr' =>
      r = none → ⟨.get (leaseName key), .status 404⟩ ∈ tr' := by
  refine .skip ?_
  refine .bind (getMutationLease_follows _) fun r tr' _ hr => ?_
  cases r with
  | error code =>
    obtain ⟨hcode, hmem⟩ := hr code rfl
    dsimp only
    split
    · next h404 => exact .pure fun _ => h404 ▸ hmem
    · next hne => exact statusErr_follows hcode hne
  | ok lease =>
    refine .skip ?_
    refine .skip ?_
    exact .pure nofun

/-- A write that is read back has an error of its own: that of the request, or
that of a status which is not 404. -/
theorem writeErr_isSome {operation : String} {requestErr : Option Err}
    (h : requestErr.isSome = true ∨ 300 ≤ status ∧ status ≠ 404) :
    (joinErrs requestErr (kubernetesFenceStatusError operation status)).isSome = true :=
  joinErrs_isSome (h.imp_right fun ⟨h, hne⟩ => kubernetesFenceStatusError_isSome h hne)

theorem createReadback_follows {requestErr : Option Err} :
    answers.FollowsE (createReadback leaseName fence requestErr status) tr
      fun r _ => r.1 ≠ none := by
  refine .bind (.attempt get_follows) fun r _ _ _ => ?_
  match r with
  | .error _ => exact returnErr_follows (joinErrs_isSome (.inr rfl))
  | .ok none => exact returnErr_follows (joinErrs_isSome (.inr rfl))
  | .ok (some _) => exact .pure nofun

theorem create_follows : answers.FollowsE (create leaseName fence) tr fun r _ => r.1 ≠ none := by
  refine .skip ?_
  refine .perform_bind trivial fun r hr => ?_
  match r with
  | .ok _ =>
    refine .skip ?_
    refine .skip ?_
    exact .pure nofun
  | .failed _ => exact createReadback_follows
  | .status code =>
    dsimp only
    split
    · exact statusErr_follows hr.1 fun h => hr.2 (h ▸ rfl)
    · exact createReadback_follows

theorem setReceiptReadback_follows {receipt : String} {requestErr : Option Err}
    (h : requestErr.isSome = true ∨ 300 ≤ status ∧ status ≠ 404) :
    answers.FollowsE (setReceiptReadback leaseName fence receipt requestErr status) tr
      fun r _ => r ≠ none := by
  refine .bind (.attempt get_follows) fun r _ _ _ => ?_
  match r with
  | .error _ => exact returnErr_follows (joinErrs_isSome (.inr rfl))
  | .ok none => exact returnErr_follows (writeErr_isSome h)
  | .ok (some _) =>
    dsimp only
    split
    · exact .pure nofun
    · exact returnErr_follows (writeErr_isSome h)

theorem setReceipt_follows (receipt : String) :
    answers.FollowsE (setReceipt leaseName fence receipt) tr fun r _ => r ≠ none := by
  refine .skip ?_
  refine .skip ?_
  refine .bind (getMutationLease_follows _) fun r tr' _ hr => ?_
  cases r with
  | error code =>
    dsimp only
    split
    · exact .throw
    · next hne => exact statusErr_follows (hr code rfl).1 hne
  | ok lease =>
    refine .skip ?_
    refine .skip ?_
    split
    · exact .pure nofun
    refine .perform_bind trivial fun r hr => ?_
    match r with
    | .ok _ =>
      refine .skip ?_
      refine .skip ?_
      exact .pure nofun
    | .failed _ => exact setReceiptReadback_follows (.inl rfl)
    | .status code =>
      have hne : code ≠ 404 := fun h => hr.2 (h ▸ rfl)
      dsimp only
      split
      · exact statusErr_follows hr.1 hne
      · exact setReceiptReadback_follows (.inr ⟨hr.1, hne⟩)

theorem setObservationReadback_follows {observation : Option MutationObservation}
    {requestErr : Option Err} (h : requestErr.isSome = true ∨ 300 ≤ status ∧ status ≠ 404) :
    answers.FollowsE (setObservationReadback leaseName fence observation requestErr status) tr
      fun r _ => r ≠ none := by
  refine .bind (.attempt get_follows) fun r _ _ _ => ?_
  match r with
  | .error _ => exact returnErr_follows (joinErrs_isSome (.inr rfl))
  | .ok none => exact returnErr_follows (writeErr_isSome h)
  | .ok (some _) =>
    dsimp only
    split
    · exact .pure nofun
    split
    · exact .throw
    · exact returnErr_follows (writeErr_isSome h)

theorem setObservation_follows (observation : Option MutationObservation) :
    answers.FollowsE (setObservation leaseName fence observation) tr fun r _ => r ≠ none := by
  refine .skip ?_
  refine .skip ?_
  refine .bind (getMutationLease_follows _) fun r tr' _ hr => ?_
  cases r with
  | error code =>
    dsimp only
    split
    · exact .throw
    · next hne => exact statusErr_follows (hr code rfl).1 hne
  | ok lease =>
    refine .skip ?_
    intro _
    split
    · exact .pure nofun
    refine .skip ?_
    refine .perform_bind trivial fun r hr => ?_
    match r with
    | .ok _ =>
      refine .skip ?_
      refine .skip ?_
      exact .pure nofun
    | .failed _ => exact setObservationReadback_follows (.inl rfl)
    | .status code =>
      have hne : code ≠ 404 := fun h => hr.2 (h ▸ rfl)
      dsimp only
      split
      · exact statusErr_follows hr.1 hne
      · exact setObservationReadback_follows (.inr ⟨hr.1, hne⟩)

end Methods

/-- On all answers among which no write and no listing is answered with 404, a
method returns without an error only what its caller takes it for: a fence for
`Create`, `SetReceipt` and `SetObservation`, no fence from `Get` only after a 404
on its Lease, and a list only from the body of one. -/
theorem lease_results_authoritative (hpossible : ∀ e ∈ tr, Possible e)
    (hfound : ∀ e ∈ tr, WriteFound e) (leaseName : String → String) :
    (∀ key, Ends (.ok none) tr (get leaseName key).run [] →
      ⟨.get (leaseName key), .status 404⟩ ∈ tr) ∧
    (∀ candidate r, Ends (.ok r) tr (create leaseName candidate).run [] → r.1 ≠ none) ∧
    (∀ fence receipt r, Ends (.ok r) tr (setReceipt leaseName fence receipt).run [] → r ≠ none) ∧
    (∀ fence observation r,
      Ends (.ok r) tr (setObservation leaseName fence observation).run [] → r ≠ none) ∧
    ∀ keyPrefix answer r, Final answer → answer ≠ .status 404 → list keyPrefix answer = .ok r →
      r ≠ none ∧ ∃ leases, answer = .ok leases := by
  have hrep : ∀ e ∈ tr, answers.rep e.op e.reply := fun e he => ⟨hpossible e he, hfound e he⟩
  refine ⟨fun key h => get_follows.ends h hrep rfl, fun _ _ h => create_follows.ends h hrep,
    fun _ receipt _ h => (setReceipt_follows receipt).ends h hrep,
    fun _ observation _ h => (setObservation_follows observation).ends h hrep, ?_⟩
  intro keyPrefix answer r hfinal hne h
  match answer with
  | .failed _ => cases h
  | .ok leases =>
    obtain ⟨fences, -, h⟩ := except_bind_ok h
    cases h
    exact ⟨nofun, leases, rfl⟩
  | .status code =>
    have hsome : (kubernetesFenceStatusError "list" code).isSome = true :=
      kubernetesFenceStatusError_isSome hfinal fun h => hne (h ▸ rfl)
    obtain ⟨e, he⟩ := Option.isSome_iff_exists.1 hsome
    simp only [list, he] at h
    cases h

/-- The fence is read, and the PUT of its receipt is answered. -/
def receiptTrace (put : Answer Lease) : Trace LeaseOp LeaseReply :=
  [⟨.put "disk" ⟨1, 1, { diskFence with receipt := diskUUID }⟩, put⟩,
    ⟨.get "disk", .ok ⟨1, 1, diskFence⟩⟩]

/-- A receipt is stored. -/
theorem lease_results_authoritative_stored :
    ∃ r, Ends (.ok r) (receiptTrace (.ok ⟨1, 2, { diskFence with receipt := diskUUID }⟩))
      (setReceipt id diskFence diskUUID).run [] ∧ r ≠ none := by
  have hends : Ends (.ok (some { diskFence with receipt := diskUUID })) (receiptTrace _)
      (setReceipt id diskFence diskUUID).run [] :=
    .call (.ok ⟨1, 1, diskFence⟩) (.call (.ok ⟨1, 2, { diskFence with receipt := diskUUID }⟩) .ret)
  refine ⟨_, hends, (lease_results_authoritative ?_ ?_ id).2.2.1 _ _ _ hends⟩ <;>
    simp [receiptTrace, Possible, Final, WriteFound]

/-- The Lease is gone by the time of the PUT: no fence, and no error.  A POST and
a listing that find nothing end the same way. -/
theorem lease_results_missing :
    Ends (.ok none) (receiptTrace (.status 404)) (setReceipt id diskFence diskUUID).run [] ∧
    Ends (.ok (none, false)) [⟨.post "disk" diskFence, .status 404⟩] (create id diskFence).run [] ∧
    list "" (.status 404) = .ok none :=
  ⟨.call (.ok ⟨1, 1, diskFence⟩) (.call (.status 404) .ret), .call (.status 404) .ret, rfl⟩

end InSpaceKube.Csi.LeaseStore
