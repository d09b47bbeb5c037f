/-
InSpaceKube/CloudProvider/SpacedAbsence.lean

What an answer "false" of `InstanceExists` rests on.

A call answers "false" for a Node with a provider ID only if its exact read
says that the VM is gone and neither the inventory nor the members of the VPC
have it (`instanceExists_gone`).  When one of the two is empty, an earlier call
must have seen the same; `emptyEvidenceSince` remembers the first of these.
What a call can do to that map is `instanceExists_evidence`: an entry stays,
is new with the time of this call, or is dropped.

Only a VM that is resolved by its provider ID is dropped when it is seen
("Seen alive: any earlier empty-evidence absence no longer counts").  An
inventory or a VPC that has the VM fails the call and keeps the entry, so the
first sighting counts although the VM was seen since
(`gone_although_listed_since`).  When every call that sees a remembered VM
resolves it, nothing is seen in between (`gone_after_spaced_absence`).

A request that a call does not make is an error in its `Reads`.
-/
import InSpaceKube.CloudProvider.MassAbsence

namespace InSpaceKube.Instances

open NodeLB (parseProviderID)

/-! ### What the reads show -/

/-- A read shows the VM: the exact one as a VM that is not deleted, the inventory
or the VPC by having it. -/
inductive Shows (reads : Reads) (uuid : String) : Prop
  | exact (vm : VM) : reads.getVM = .ok (some vm) → toLower vm.uuid = toLower uuid →
      vm.deleted = false → Shows reads uuid
  | listed (vms : List VM) (vm : VM) : reads.listVMs = .ok (some vms) → vm ∈ vms →
      toLower vm.uuid = toLower uuid → Shows reads uuid
  | member (network : Network) (members : List String) (uuid' : String) :
      reads.getNetwork = .ok (some network) → network.vmUUIDs = some members → uuid' ∈ members →
      toLower uuid' = toLower uuid → Shows reads uuid

/-- The exact read is a deleted tombstone of the VM. -/
def Tombstone (reads : Reads) (uuid : String) : Prop :=
  ∃ vm, reads.getVM = .ok (some vm) ∧ toLower vm.uuid = toLower uuid ∧ vm.deleted = true

/-- The exact read reports the VM missing. -/
def Missing (reads : Reads) : Prop := ∃ e, reads.getVM = .error e ∧ e.notFound = true

/-- The inventory and the members of the VPC, which do not have the VM. -/
structure Unlisted (cfg : Config) (reads : Reads) (uuid : String) (vms : List VM)
    (members : List String) : Prop where
  inventory : reads.listVMs = .ok (some vms)
  network : reads.getNetwork = .ok (some ⟨cfg.networkUUID, some members⟩)
  listed : ∀ vm ∈ vms, toLower vm.uuid ≠ toLower uuid
  member : ∀ uuid' ∈ members, toLower uuid' ≠ toLower uuid

/-- The exact read shows the VM alive, and it passes the checks of `resolveVM`. -/
def Alive (cfg : Config) (reads : Reads) (uuid : String) : Prop :=
  ∃ vm, validateResolvedVM cfg reads (some vm) uuid = .ok vm ∧ reads.getVM = .ok (some vm) ∧
    vm.deleted = false

section

variable {cfg : Config} {reads : Reads} {node : Node}

theorem canonicalMembers_keys {location : String} {vmUUIDs : List String} :
    ∀ {index : ℕ} {before after : List (String × String)},
      canonicalMembers location index vmUUIDs before = .ok after →
      after.map (·.1) = (vmUUIDs.map toLower).reverse ++ before.map (·.1) := by
  induction vmUUIDs with
  | nil =>
    intro _ _ _ h
    cases h
    rfl
  | cons _ _ ih =>
    intro _ _ _ h
    rw [canonicalMembers] at h
    split at h
    · cases h
    · dsimp only at h
      split at h
      · cases h
      · simp [ih h]

theorem listedUUIDs_eq {location : String} {vms : List VM} :
    ∀ {index : ℕ} {before after : List String}, listedUUIDs location index vms before = .ok after →
      after = (vms.map (toLower ·.uuid)).reverse ++ before := by
  induction vms with
  | nil =>
    intro _ _ _ h
    cases h
    rfl
  | cons _ _ ih =>
    intro _ _ _ h
    rw [listedUUIDs] at h
    split at h
    · cases h
    · dsimp only at h
      split at h
      · cases h
      · simp [ih h]

/-! ### One call -/

/-- The memory without the evidence about a VM. -/
def Memory.clear (m : Memory) (uuid : String) : Memory :=
  { m with emptyEvidenceSince := m.emptyEvidenceSince.erase uuid }

theorem run_checked {α : Type} (head : String) (r : Except String α) (m : Memory) :
    run (checked head r) m = (r.mapError fun e => .other (head ++ e), m) := by
  cases r <;> rfl

/-- The VM that passes the checks is the one that was read. -/
theorem validateResolvedVM_eq {vm : Option VM} {uuid : String} {vm' : VM}
    (h : validateResolvedVM cfg reads vm uuid = .ok vm') :
    vm = some vm' ∧ (uuid ≠ "" → toLower vm'.uuid = toLower uuid) := by
  obtain ⟨v, hv, hrest⟩ := except_bind_ok h
  have hsame : v = vm' := by
    split at hrest
    · exact Except.ok.inj hrest
    · split at hrest
      · cases hrest
      · cases hrest
      · obtain ⟨_, -, hnetwork⟩ := except_bind_ok hrest
        obtain ⟨_, -, hmembers⟩ := except_bind_ok hnetwork
        obtain ⟨_, -, hown⟩ := except_bind_ok hmembers
        exact Except.ok.inj hown
  subst hsame
  unfold validateResolvedVMIdentity at hv
  split at hv
  · cases hv
  · split at hv
    · cases hv
    · obtain ⟨_, huuid, hstatus⟩ := except_bind_ok hv
      obtain ⟨_, -, hbilling⟩ := except_bind_ok hstatus
      obtain ⟨_, -, hnetwork⟩ := except_bind_ok hbilling
      obtain ⟨_, -, hok⟩ := except_bind_ok hnetwork
      cases hok
      refine ⟨rfl, fun hne => ?_⟩
      have hfold := failIf_ok huuid
      rw [not_and, not_not] at hfold
      exact eq_of_beq (hfold hne)

theorem parseProviderID_uuid {text : String} {id : NodeLB.ProviderID}
    (h : parseProviderID text = some id) : id.uuid ≠ "" := by
  unfold parseProviderID at h
  dsimp only at h
  split at h
  · split at h
    · split at h
      · rename_i hpattern
        cases h
        intro hempty
        dsimp only at hempty hpattern
        rw [hempty] at hpattern
        have hno : uuidPatternFold "" = false := by decide
        simp [hno] at hpattern
      · cases h
    · cases h
  · cases h

/-- What the exact read says when `resolveVM` reports an absence. -/
def Absence (reads : Reads) (uuid : String) (tombstone : Bool) : Prop :=
  if tombstone then Tombstone reads uuid else Missing reads

/-- `resolveVM` drops the evidence about a VM that is alive, or fails and
remembers what it did. -/
theorem resolveByProviderID_run (cfg : Config) (reads : Reads) (node : Node) (m : Memory) :
    (∃ uuid vm, vmUUID cfg node = some uuid ∧
      run (resolveByProviderID cfg reads node) m = (.ok vm, m.clear uuid)) ∨
    (∀ uuid, vmUUID cfg node = some uuid → ¬ Alive cfg reads uuid) ∧
      ∃ e, run (resolveByProviderID cfg reads node) m = (.error e, m) ∧
        ∀ location uuid cause tombstone, e = .exactAbsence location uuid cause tombstone →
          Absence reads uuid tombstone := by
  unfold resolveByProviderID
  split
  · rename_i hparse
    refine .inr ⟨fun uuid huuid => ?_, _, rfl, fun _ _ _ _ h => by cases h⟩
    rw [vmUUID, hparse] at huuid
    cases huuid
  · rename_i id hparse
    split
    · rename_i hbad
      refine .inr ⟨fun uuid huuid => ?_, _, rfl, fun _ _ _ _ h => by cases h⟩
      rw [vmUUID, hparse, Option.bind_some, if_neg (by tauto)] at huuid
      cases huuid
    · rename_i hcanonical
      have hvm : vmUUID cfg node = some id.uuid := by
        rw [not_or, not_ne_iff, not_ne_iff] at hcanonical
        rw [vmUUID, hparse, Option.bind_some, if_pos hcanonical]
      split
      · rename_i e hread
        refine .inr ⟨?_, ?_⟩
        · rintro _ - ⟨_, -, hget, -⟩
          rw [hread] at hget
          cases hget
        · split
          · rename_i hmissing
            refine ⟨_, rfl, ?_⟩
            rintro _ _ _ _ heq
            cases heq
            exact ⟨e, hread, hmissing⟩
          · exact ⟨_, rfl, fun _ _ _ _ h => by cases h⟩
      · rename_i vm hread
        rw [run_bind, run_checked]
        cases hvalid : validateResolvedVM cfg reads vm id.uuid with
        | error =>
          refine .inr ⟨?_, _, rfl, fun _ _ _ _ h => by cases h⟩
          rintro _ huuid ⟨_, hok, hget, -⟩
          rw [hvm] at huuid
          cases huuid
          rw [hread] at hget
          cases hget
          rw [hvalid] at hok
          cases hok
        | ok vm' =>
          obtain ⟨rfl, hsame⟩ := validateResolvedVM_eq hvalid
          dsimp only [Except.mapError]
          split
          · rename_i hdeleted
            refine .inr ⟨?_, _, rfl, ?_⟩
            · rintro _ - ⟨_, -, hget, halive⟩
              rw [hread] at hget
              cases hget
              rw [hdeleted] at halive
              cases halive
            · rintro _ _ _ _ heq
              cases heq
              exact ⟨vm', hread, hsame (parseProviderID_uuid hparse), hdeleted⟩
          · exact .inl ⟨id.uuid, vm', hvm, rfl⟩

theorem vmUUID_empty (h : node.providerID = "") : vmUUID cfg node = none := by
  have hnone : parseProviderID "" = none := by decide
  rw [vmUUID, h, hnone]
  rfl

theorem resolveByName_run (cfg : Config) (reads : Reads) (node : Node) (m : Memory) : (run (resolveByName cfg reads node) m).2 = m := by
  unfold resolveByName
  split
  · rfl
  · rw [run_bind, run_checked]
    cases matchingVMs cfg node _ with
    | error => rfl
    | ok =>
      dsimp only [Except.mapError]
      split
      · rfl
      · split
        · rfl
        · rw [run_bind, run_checked]
          cases validateResolvedVM cfg reads _ _ with
          | error => rfl
          | ok =>
            dsimp only [Except.mapError]
            split
            · rfl
            · split <;> rfl
      · rfl

/-- An absence is corroborated by an inventory and a VPC without the VM. -/
theorem corroborate_run (cfg : Config) (reads : Reads) (location uuid : String) (tombstone : Bool) (m : Memory) :
    (∃ e, run (corroborateExactVMAbsence cfg reads location uuid tombstone) m = (.error e, m)) ∨
    ∃ vms members, Unlisted cfg reads uuid vms members ∧
      run (corroborateExactVMAbsence cfg reads location uuid tombstone) m =
        if tombstone = false ∧ (vms = [] ∨ members = []) then run (requireSpacedAbsence reads uuid) m
        else (.ok (), m.clear uuid) := by
  unfold corroborateExactVMAbsence
  split
  · exact .inl ⟨_, rfl⟩
  · exact .inl ⟨_, rfl⟩
  rename_i vms hvms
  rw [run_bind, run_checked]
  cases hlisted : listedUUIDs location 0 vms [] with
  | error => exact .inl ⟨_, rfl⟩
  | ok listed =>
    dsimp only [Except.mapError]
    split
    · exact .inl ⟨_, rfl⟩
    rename_i hnot
    split
    · exact .inl ⟨_, rfl⟩
    · exact .inl ⟨_, rfl⟩
    rename_i network hnetwork
    rw [run_bind, run_checked]
    cases hown : failIf (network.uuid ≠ cfg.networkUUID) _ with
    | error => exact .inl ⟨_, rfl⟩
    | ok _ =>
      dsimp only [Except.mapError]
      rw [run_bind, run_checked]
      cases hmembers : canonicalConfiguredVPCVMUUIDs location network with
      | error => exact .inl ⟨_, rfl⟩
      | ok members =>
        dsimp only [Except.mapError]
        split
        · exact .inl ⟨_, rfl⟩
        rename_i hmember
        -- the canonical forms are those of the rows, one for each
        obtain ⟨networkUUID, _ | vmUUIDs⟩ := network
        · cases hmembers
        have hkeys := canonicalMembers_keys hmembers
        have hrows := listedUUIDs_eq hlisted
        have hempty : members = [] ↔ vmUUIDs = [] := by
          rw [← List.map_eq_nil_iff (f := Prod.fst), hkeys]
          simp
        have hsame : networkUUID = cfg.networkUUID := not_ne_iff.1 (failIf_ok hown)
        subst hsame
        refine .inr ⟨vms, vmUUIDs, ⟨hvms, hnetwork, ?_, ?_⟩, ?_⟩
        · intro vm hvm heq
          apply hnot
          rw [hrows, ← heq]
          simp only [List.append_nil, List.mem_reverse, List.mem_map]
          exact ⟨vm, hvm, rfl⟩
        · intro uuid' huuid heq
          apply hmember
          have hin : toLower uuid ∈ members.map (·.1) := by
            rw [hkeys, ← heq]
            simp only [List.map_nil, List.append_nil, List.mem_reverse, List.mem_map]
            exact ⟨uuid', huuid, rfl⟩
          simpa using hin
        · simp only [hempty, Bool.not_eq_true]
          split
          · rfl
          · rfl

/-- The guard, and the answer after it, leave the evidence alone. -/
theorem guard_run (uuid : String) (m : Memory) :
    (run (guardMassAbsence cfg reads uuid >>= fun _ => pure false) m).2.emptyEvidenceSince =
      m.emptyEvidenceSince := by
  unfold guardMassAbsence
  split
  · rfl
  · split
    · rfl
    · rename_i total _
      rw [run_bind, run_get_bind, run_set_bind]
      cases (countVerdict total reads.guardNow uuid m.absenceVerdicts).refuse with
      | true => rfl
      | false => rfl

/-- What a call answers and does to the remembered evidence. -/
inductive Effect (cfg : Config) (reads : Reads) (node : Node) (since : AList fun _ : String => ℤ) :
    Except Fault Bool → (AList fun _ : String => ℤ) → Prop
  | alive (uuid : String) : vmUUID cfg node = some uuid →
      Effect cfg reads node since (.ok true) (since.erase uuid)
  | kept (answer : Except Fault Bool) : answer ≠ .ok false →
      (∀ uuid, vmUUID cfg node = some uuid → ¬ Alive cfg reads uuid) →
      Effect cfg reads node since answer since
  | corroborated (uuid : String) (tombstone : Bool) (vms : List VM) (members : List String)
      (answer : Except Fault Bool) : vmUUID cfg node = some uuid → Absence reads uuid tombstone →
      Unlisted cfg reads uuid vms members → (tombstone = false → vms ≠ [] ∧ members ≠ []) →
      Effect cfg reads node since answer (since.erase uuid)
  | first (uuid : String) (vms : List VM) (members : List String) (answer : Except Fault Bool) :
      vmUUID cfg node = some uuid → Missing reads → Unlisted cfg reads uuid vms members →
      answer ≠ .ok false → Effect cfg reads node since answer (since.insert uuid reads.spacedNow)
  | spaced (uuid : String) (vms : List VM) (members : List String) (answer : Except Fault Bool)
      (time : ℤ) : vmUUID cfg node = some uuid → Missing reads →
      Unlisted cfg reads uuid vms members → since.lookup uuid = some time →
      (answer = .ok false → time + standardNLBRemovalAbsenceDelay ≤ reads.spacedNow) →
      Effect cfg reads node since answer since

theorem Missing.not_alive (h : Missing reads) (uuid : String) : ¬ Alive cfg reads uuid := by
  obtain ⟨e, hread, -⟩ := h
  rintro ⟨_, -, hget, -⟩
  rw [hread] at hget
  cases hget

/-- What is done with an absence that the exact read reports. -/
theorem corroborated_effect {uuid : String} {tombstone : Bool} (location : String)
    (hvm : vmUUID cfg node = some uuid) (habsence : Absence reads uuid tombstone)
    (hdead : ∀ uuid, vmUUID cfg node = some uuid → ¬ Alive cfg reads uuid) (m : Memory) :
    let r := run (do
      corroborateExactVMAbsence cfg reads location uuid tombstone
      guardMassAbsence cfg reads uuid
      return false) m
    Effect cfg reads node m.emptyEvidenceSince r.1 r.2.emptyEvidenceSince := by
  rw [run_bind]
  rcases corroborate_run cfg reads location uuid tombstone m with
    ⟨e, hrun⟩ | ⟨vms, members, hunlisted, hrun⟩
  · rw [hrun]
    exact .kept _ nofun hdead
  rw [hrun]
  by_cases hspaced : tombstone = false ∧ (vms = [] ∨ members = [])
  · rw [if_pos hspaced]
    obtain ⟨rfl, -⟩ := hspaced
    unfold requireSpacedAbsence
    rw [run_get_bind]
    cases hlookup : m.emptyEvidenceSince.lookup uuid with
    | none => exact .first uuid vms members _ hvm habsence hunlisted nofun
    | some time =>
      dsimp only
      by_cases hearly : reads.spacedNow < time + standardNLBRemovalAbsenceDelay
      · rw [if_pos hearly, run_fail]
        exact .spaced uuid vms members _ time hvm habsence hunlisted hlookup nofun
      · rw [if_neg hearly, run_pure]
        rw [guard_run]
        exact .spaced uuid vms members _ time hvm habsence hunlisted hlookup
          fun _ => Int.not_lt.1 hearly
  · rw [if_neg hspaced]
    dsimp only
    rw [guard_run]
    exact .corroborated uuid tombstone vms members _ hvm habsence hunlisted (by tauto)

theorem instanceExists_effect (cfg : Config) (reads : Reads) (node : Node) (m : Memory) :
    Effect cfg reads node m.emptyEvidenceSince (run (instanceExists cfg reads (some node)) m).1
      (run (instanceExists cfg reads (some node)) m).2.emptyEvidenceSince := by
  have htells := (resolveVM_safe cfg reads node m).2
  rw [instanceExists, run_bind, run_outcome]
  rw [resolveVM] at htells ⊢
  dsimp only at htells ⊢
  by_cases hid : node.providerID = ""
  · -- a Node without a provider ID is never declared gone
    have hnone : ∀ uuid, vmUUID cfg node = some uuid → ¬ Alive cfg reads uuid := by
      intro _ huuid
      rw [vmUUID_empty hid] at huuid
      cases huuid
    have hkeep := resolveByName_run cfg reads node m
    rw [if_neg (not_not.2 hid)] at htells ⊢
    generalize run (resolveByName cfg reads node) m = r at htells hkeep ⊢
    obtain ⟨r, m₁⟩ := r
    obtain rfl : m₁ = m := hkeep
    obtain (⟨_, uuid, _, _⟩ | - | _) | _ := r
    · have hvm : vmUUID cfg node = some uuid := htells _ rfl
      rw [vmUUID_empty hid] at hvm
      cases hvm
    · simp only [Option.all_some, hid, decide_true, if_true, run_fail]
      exact .kept _ (fun h => by cases h) hnone
    · exact .kept _ (fun h => by cases h) hnone
    · exact .kept _ (fun h => by cases h) hnone
  · rw [if_pos hid] at htells ⊢
    rcases resolveByProviderID_run cfg reads node m with
      ⟨uuid, vm, hvm, hrun⟩ | ⟨hdead, e, hrun, habsence⟩
    · rw [hrun]
      exact .alive uuid hvm
    · rw [hrun] at htells ⊢
      obtain ⟨location, _, _, _⟩ | - | _ := e
      · exact corroborated_effect location (htells _ rfl) (habsence _ _ _ _ rfl) hdead m
      · exact absurd (htells _ rfl) hid
      · exact .kept _ (fun h => by cases h) hdead

end

/-! ### Sequences of calls -/

/-- Whenever a read of a call shows a VM with remembered evidence, the call is for
this VM and resolves it. -/
def SeenAlive (cfg : Config) (calls : List Call) : Prop :=
  ∀ before c after, calls = before ++ c :: after →
    ∀ uuid ∈ (trace cfg before).memory.emptyEvidenceSince, Shows c.reads uuid →
      vmUUID cfg c.node = some uuid ∧ Alive cfg c.reads uuid

/-- An earlier call found the VM absent, and no read showed it since. -/
def AbsentSince (cfg : Config) (calls : List Call) (uuid : String) (time : ℤ) : Prop :=
  ∃ before c after, calls = before ++ c :: after ∧ c.reads.spacedNow = time ∧
    vmUUID cfg c.node = some uuid ∧ Missing c.reads ∧
    (∃ vms members, Unlisted cfg c.reads uuid vms members) ∧ ∀ d ∈ after, ¬ Shows d.reads uuid

section

variable {cfg : Config} {calls : List Call} {c : Call}

theorem trace_append (cfg : Config) (calls : List Call) (c : Call) :
    (trace cfg (calls ++ [c])).memory =
      (run (instanceExists cfg c.reads (some c.node)) (trace cfg calls).memory).2 := by
  simp [trace, Trace.step]

theorem SeenAlive.init (h : SeenAlive cfg (calls ++ [c])) : SeenAlive cfg calls := by
  rintro before d after rfl
  exact h before d (after ++ [c]) (by simp)

/-- A VM with evidence that was not alive in the last call was not seen in it. -/
theorem AbsentSince.append {uuid : String} {time : ℤ} (h : AbsentSince cfg calls uuid time)
    (hnot : ¬ Shows c.reads uuid) : AbsentSince cfg (calls ++ [c]) uuid time := by
  obtain ⟨before, d, after, rfl, htime, hvm, hmissing, hunlisted, hsince⟩ := h
  exact ⟨before, d, after ++ [c], by simp, htime, hvm, hmissing, hunlisted,
    List.forall_mem_append.2 ⟨hsince, List.forall_mem_singleton.2 hnot⟩⟩

/-- Remembered evidence is an absence that stood since. -/
theorem evidence_absentSince (h : SeenAlive cfg calls) {uuid : String} {time : ℤ}
    (hlookup : (trace cfg calls).memory.emptyEvidenceSince.lookup uuid = some time) :
    AbsentSince cfg calls uuid time := by
  induction calls using List.reverseRecOn generalizing uuid time with
  | nil => cases hlookup
  | append_singleton calls c ih =>
    have hlast := h calls c [] rfl
    rw [trace_append] at hlookup
    have heffect := instanceExists_effect cfg c.reads c.node (trace cfg calls).memory
    -- an entry that is left by a call that does not resolve the VM
    have hkept : ∀ {u t}, (trace cfg calls).memory.emptyEvidenceSince.lookup u = some t →
        ¬ (vmUUID cfg c.node = some u ∧ Alive cfg c.reads u) →
        AbsentSince cfg (calls ++ [c]) u t := by
      intro u t hu hdead
      have hin : u ∈ (trace cfg calls).memory.emptyEvidenceSince := by
        rw [← AList.lookup_isSome, hu]
        rfl
      exact (ih h.init hu).append fun hshows => hdead (hlast u hin hshows)
    -- an entry that is left when that of the VM of this call is dropped
    have herased : ∀ {u v t}, vmUUID cfg c.node = some v →
        ((trace cfg calls).memory.emptyEvidenceSince.erase v).lookup u = some t →
        AbsentSince cfg (calls ++ [c]) u t := by
      intro u v t hv hu
      by_cases hne : u = v
      · rw [hne, AList.lookup_erase] at hu
        cases hu
      · rw [AList.lookup_erase_ne hne] at hu
        refine hkept hu fun halive => hne ?_
        rw [hv] at halive
        exact (Option.some.inj halive.1).symm
    generalize (run (instanceExists cfg c.reads (some c.node)) (trace cfg calls).memory).1 = r,
      (run (instanceExists cfg c.reads (some c.node))
        (trace cfg calls).memory).2.emptyEvidenceSince = since at heffect hlookup
    cases heffect with
    | alive _ hv => exact herased hv hlookup
    | kept _ _ hdead => exact hkept hlookup fun halive => hdead _ halive.1 halive.2
    | corroborated _ _ _ _ _ hv => exact herased hv hlookup
    | first v vms members _ hv hmissing hunlisted =>
      by_cases hne : uuid = v
      · subst hne
        rw [AList.lookup_insert] at hlookup
        exact ⟨calls, c, [], rfl, Option.some.inj hlookup, hv, hmissing, ⟨vms, members, hunlisted⟩,
          nofun⟩
      · rw [AList.lookup_insert_ne hne] at hlookup
        exact hkept hlookup fun halive => hmissing.not_alive _ halive.2
    | spaced _ _ _ _ _ _ hmissing =>
      exact hkept hlookup fun halive => hmissing.not_alive _ halive.2

end

/-- A Node with a provider ID is declared gone only when the exact read of the call
says so and neither the inventory nor the VPC has the VM.  With an empty
inventory or VPC and no tombstone, an earlier call found the VM absent, and,
when every call that sees a remembered VM resolves it, no read of a call in
between showed it. -/
theorem gone_after_spaced_absence (cfg : Config) (calls : List Call) (c : Call)
    (hgone : (run (instanceExists cfg c.reads (some c.node)) (trace cfg calls).memory).1 = .ok false) :
    ∃ uuid vms members, vmUUID cfg c.node = some uuid ∧
      (Missing c.reads ∨ Tombstone c.reads uuid) ∧ Unlisted cfg c.reads uuid vms members ∧
      (SeenAlive cfg calls → (vms = [] ∨ members = []) → ¬ Tombstone c.reads uuid →
        ∃ time, AbsentSince cfg calls uuid time ∧
          time + standardNLBRemovalAbsenceDelay ≤ c.reads.spacedNow) := by
  have heffect := instanceExists_effect cfg c.reads c.node (trace cfg calls).memory
  rw [hgone] at heffect
  generalize (run (instanceExists cfg c.reads (some c.node))
    (trace cfg calls).memory).2.emptyEvidenceSince = since at heffect
  generalize hanswer : (Except.ok false : Except Fault Bool) = answer at heffect
  cases heffect with
  | alive => cases hanswer
  | kept _ hne => exact absurd hanswer.symm hne
  | corroborated uuid tombstone vms members answer hvm habsence hunlisted hfull =>
    cases tombstone with
    | true => exact ⟨uuid, vms, members, hvm, .inr habsence, hunlisted, fun _ _ h => absurd habsence h⟩
    | false =>
      obtain ⟨_, _⟩ := hfull rfl
      exact ⟨uuid, vms, members, hvm, .inl habsence, hunlisted, fun _ h => by tauto⟩
  | first _ _ _ _ _ _ _ hne => exact absurd hanswer.symm hne
  | spaced uuid vms members _ time hvm hmissing hunlisted hlookup hlater =>
    exact ⟨uuid, vms, members, hvm, .inl hmissing, hunlisted,
      fun hseen _ _ => ⟨time, evidence_absentSince hseen hlookup, hlater hanswer.symm⟩⟩

/-! ### An API without VMs -/

def firstVM : String := "0a000000-0000-4000-8000-000000000001"

/-- The reads when the API has lost every VM, or only the exact one. -/
def lostReads (vms : List VM) (now : ℤ) : Reads where
  getVM := .error ⟨true, "404"⟩
  listVMs := .ok (some vms)
  getNetwork := .ok (some ⟨"0a000000-0000-4000-8000-00000000000e", some []⟩)
  listNodes := .ok 2
  spacedNow := now
  guardNow := now

/-- The call after the calls, about the first Node. -/
def lostCall (vms : List VM) (now : ℤ) : Call := ⟨worker "1", lostReads vms now⟩

theorem lostReads_not_tombstone (vms : List VM) (now : ℤ) (uuid : String) :
    ¬ Tombstone (lostReads vms now) uuid := by
  rintro ⟨_, hget, -⟩
  cases hget

/-- The second empty read, after the delay. -/
theorem gone_after_spaced_absence_twice :
    (run (instanceExists bkkConfig (lostReads [] (30 * second)) (some (worker "1")))
      (trace bkkConfig [lostCall [] 0]).memory).1 = .ok false ∧
    ∃ uuid time, AbsentSince bkkConfig [lostCall [] 0] uuid time ∧ time ≤ 0 := by
  have hgone : (run (instanceExists bkkConfig (lostReads [] (30 * second)) (some (worker "1")))
      (trace bkkConfig [lostCall [] 0]).memory).1 = .ok false := by decide +kernel
  have hseen : SeenAlive bkkConfig [lostCall [] 0] := by
    intro before _ _ hsplit uuid hin
    obtain rfl : before = [] := by
      rcases before with - | ⟨_, _⟩
      · rfl
      · simp at hsplit
    exact absurd hin (AList.notMem_empty uuid)
  obtain ⟨uuid, vms, _, -, -, hunlisted, hspaced⟩ :=
    gone_after_spaced_absence bkkConfig [lostCall [] 0] (lostCall [] (30 * second)) hgone
  have hvms : vms = [] := by
    have h := hunlisted.inventory
    cases h
    rfl
  obtain ⟨time, habsent, _⟩ := hspaced hseen (.inl hvms) (lostReads_not_tombstone _ _ _)
  refine ⟨hgone, uuid, time, habsent, ?_⟩
  have hdelay : (lostCall [] (30 * second)).reads.spacedNow = standardNLBRemovalAbsenceDelay := rfl
  omega

/-- The inventory had the VM between the two empty reads, and the Node is declared
gone all the same: no absence stood since. -/
theorem gone_although_listed_since :
    let calls := [lostCall [] 0, lostCall [⟨firstVM, "worker-1", "worker-1", "running", "", 1⟩] (10 * second)]
    let reads := lostReads [] (30 * second)
    ((calls ++ [(⟨worker "1", reads⟩ : Call)]).map fun c => c.reads.spacedNow).Pairwise (· ≤ ·) ∧
    (run (instanceExists bkkConfig reads (some (worker "1"))) (trace bkkConfig calls).memory).1 =
      .ok false ∧
    vmUUID bkkConfig (worker "1") = some firstVM ∧ Unlisted bkkConfig reads firstVM [] [] ∧
    ¬ Tombstone reads firstVM ∧ ∀ time, ¬ AbsentSince bkkConfig calls firstVM time := by
  refine ⟨by decide +kernel, by decide +kernel, by decide +kernel, ⟨rfl, rfl, nofun, nofun⟩,
    lostReads_not_tombstone _ _ _, ?_⟩
  rintro _ ⟨before, _, _, hsplit, -, -, -, ⟨_, _, hunlisted⟩, hsince⟩
  rcases before with - | ⟨_, - | ⟨_, _⟩⟩
  · -- the first call, which is followed by the one that shows the VM
    cases hsplit
    exact hsince _ (.head _) (.listed _ _ rfl (.head _) rfl)
  · -- the second call, which lists the VM itself
    cases hsplit
    have hinventory := hunlisted.inventory
    cases hinventory
    exact hunlisted.listed _ (.head _) rfl
  · simp at hsplit

end InSpaceKube.Instances
