/-
InSpaceKube/NodeLB/ShardPacking.lean

What a plan of the shard planner looks like, and that planning is stable.

A `Placement` says which intent sits on which shard, in the order they were
put there.  It `Fits` when Services on one shard agree in everything but their
ports, have no port in common and are alone on a dedicated shard, and when no
port is reserved there for somebody else.  The shards the planner holds are
read against it: `Packed` says that they show exactly the placement.  One
lemma says what an attempt can do (`tryAssign_cases`), one that a placement
which fits still fits after it (`Packed.took`, `Packed.refused`); both passes
are inductions over these.

An attempt that fails can leave behind a shard without any claim.  This
happens when a persisted shard is not in the map yet and one of the ports is
reserved there for another Service: the shard is created, the attempt is
refused, and the only branch that deletes what it created is the one of a
profile that does not match, which a shard just created never takes
(`plan_keeps_refused_shard`).  Without such a reservation every attempt that
creates a shard succeeds.

Planning again from the assignments of a plan keeps all of them, since the
placement fits and nothing else is in the way.  An intent without a persisted
shard has no part in the first pass, and one that is refused there can never
come back to its shard in the second (`Blocked`), so what persists does not
depend on newcomers.
-/
import InSpaceKube.NodeLB.ShardPlan
import Mathlib.Data.Int.Order.Basic
import Mathlib.Data.Prod.Lex
import Mathlib.Data.String.Basic

namespace InSpaceKube.NodeLB.Shards

/-! ### Sorting by a key -/

section Sorting

variable {α κ : Type} [LinearOrder κ] {r : α → α → Prop} [DecidableRel r] {k : α → κ}

theorem pairwise_insertionSort_key (hr : ∀ a b, r a b ↔ k a ≤ k b) (l : List α) :
    (l.insertionSort r).Pairwise r := by
  have htotal : Std.Total r := ⟨fun a b => by simpa only [hr] using le_total (k a) (k b)⟩
  have htrans : IsTrans α r := ⟨fun a b c => by simpa only [hr] using le_trans⟩
  exact List.pairwise_insertionSort r l

/-- Sorting forgets the order of a list whose keys differ. -/
theorem insertionSort_eq_of_perm (hr : ∀ a b, r a b ↔ k a ≤ k b) {l l' : List α}
    (hp : l.Perm l') (hinj : ∀ a ∈ l, ∀ b ∈ l, k a = k b → a = b) :
    l.insertionSort r = l'.insertionSort r := by
  have hp' : (l.insertionSort r).Perm (l'.insertionSort r) :=
    ((List.perm_insertionSort r l).trans hp).trans (List.perm_insertionSort r l').symm
  refine List.Perm.eq_of_pairwise ?_ (pairwise_insertionSort_key hr l)
    (pairwise_insertionSort_key hr l') hp'
  intro a b ha hb hab hba
  refine hinj a ((List.mem_insertionSort r).1 ha) b ?_ (le_antisymm ((hr a b).1 hab) ((hr b a).1 hba))
  exact hp.mem_iff.2 ((List.mem_insertionSort r).1 hb)

end Sorting

theorem MapOrder.mem_visit (order : MapOrder) {α : Type} {l : List α} {x : α} :
    x ∈ order.visit l ↔ x ∈ l :=
  (order.perm l).mem_iff

/-! ### One attempt -/

/-- The shard an attempt looks at. -/
def hosting (shards : ShardMap) (name : String) (intent : Intent) : MutableShard :=
  (shards.lookup name).getD (newShard name intent)

/-- The shards after an attempt that was refused. -/
def touch (shards : ShardMap) (name : String) (intent : Intent) : ShardMap :=
  if (shards.lookup name).isSome then shards else shards.insert name (newShard name intent)

/-- The shard takes the intent. -/
structure Accepts (shard : MutableShard) (reservations : Reservations) (name : String)
    (intent : Intent) : Prop where
  profile : shard.plan.toProfile = intent.toProfile
  alone : intent.mode = .dedicated → shard.plan.claims = []
  reserved : ∀ p ∈ intent.ports, ∀ owner, reservations.owner name p = some owner →
    owner = intent.serviceID
  held : ∀ p ∈ intent.ports, ∀ owner, shard.ports.lookup p = some owner → owner = intent.serviceID

theorem profileMatches_iff {shard : ShardPlan} {intent : Intent} :
    nodeLoadBalancerShardProfileMatches shard intent = true ↔
      shard.toProfile = intent.toProfile := by
  cases hs : shard.toProfile
  cases hi : intent.toProfile
  simp [nodeLoadBalancerShardProfileMatches, hs, hi, and_assoc]

theorem foreign_eq_false {owner : Option String} {intent : Intent} :
    foreign owner intent = false ↔ ∀ o, owner = some o → o = intent.serviceID := by
  cases owner <;> simp [foreign]

theorem accepts_newShard {reservations : Reservations} {name : String} {intent : Intent}
    (h : ∀ p ∈ intent.ports, ∀ owner, reservations.owner name p = some owner →
      owner = intent.serviceID) :
    Accepts (newShard name intent) reservations name intent where
  profile := rfl
  alone := fun _ => rfl
  reserved := h
  held := by simp [newShard]

/-- What an attempt can do. -/
theorem tryAssign_cases (shards : ShardMap) (reservations : Reservations) (name : String)
    (intent : Intent) :
    (Accepts (hosting shards name intent) reservations name intent ∧
      tryAssignNodeLoadBalancerShard shards reservations name intent =
        (true, shards.insert name ((hosting shards name intent).claim intent))) ∨
    (¬ Accepts (hosting shards name intent) reservations name intent ∧
      tryAssignNodeLoadBalancerShard shards reservations name intent =
        (false, touch shards name intent)) := by
  have hnew : (if (shards.lookup name).isSome then shards
      else shards.insert name (hosting shards name intent)) = touch shards name intent := by
    unfold touch hosting
    cases shards.lookup name <;> rfl
  unfold tryAssignNodeLoadBalancerShard
  simp only [← hosting.eq_def, hnew]
  by_cases hp : (hosting shards name intent).plan.toProfile = intent.toProfile
  case neg =>
    -- A shard just created has the profile of the intent, so nothing is deleted.
    have hfound : (shards.lookup name).isSome := by
      by_contra hnone
      rw [Bool.not_eq_true, Option.isSome_eq_false_iff, Option.isNone_iff_eq_none] at hnone
      exact hp (by rw [hosting, hnone]; rfl)
    right
    exact ⟨fun h => hp h.profile, by simp [profileMatches_iff, hp, hfound]⟩
  rw [if_neg (by simpa [profileMatches_iff] using hp)]
  by_cases hd : intent.mode = .dedicated ∧ (hosting shards name intent).plan.claims ≠ []
  · rw [if_pos hd]
    exact .inr ⟨fun h => hd.2 (h.alone hd.1), rfl⟩
  rw [if_neg hd]
  by_cases hports : (intent.ports.any fun port => foreign (reservations.owner name port) intent ||
      foreign ((hosting shards name intent).ports.lookup port) intent) = true
  · rw [if_pos hports]
    refine .inr ⟨fun h => ?_, rfl⟩
    obtain ⟨port, hport, hor⟩ := List.any_eq_true.1 hports
    rw [foreign_eq_false.2 (h.reserved port hport), foreign_eq_false.2 (h.held port hport)] at hor
    cases hor
  · rw [if_neg hports]
    rw [Bool.not_eq_true, List.any_eq_false] at hports
    simp only [Bool.or_eq_true, not_or, Bool.not_eq_true] at hports
    refine .inl ⟨⟨hp, fun hmode => ?_, fun p hmem => foreign_eq_false.1 (hports p hmem).1,
      fun p hmem => foreign_eq_false.1 (hports p hmem).2⟩, ?_⟩
    · by_contra hne
      exact hd ⟨hmode, hne⟩
    · unfold touch
      split
      · rfl
      · rw [AList.insert_insert]

theorem lookup_touch (shards : ShardMap) (name n : String) (intent : Intent) :
    (touch shards name intent).lookup n =
      if n = name then some (hosting shards name intent) else shards.lookup n := by
  unfold touch hosting
  by_cases hn : n = name
  · subst hn
    cases h : shards.lookup n <;> simp [h]
  · rw [if_neg hn]
    split
    · rfl
    · exact AList.lookup_insert_ne hn

theorem lookup_insert_ite {β : Type} (m : AList fun _ : String => β) (name n : String) (x : β) :
    (m.insert name x).lookup n = if n = name then some x else m.lookup n := by
  by_cases hn : n = name
  · subst hn
    simp
  · simp [hn, AList.lookup_insert_ne]

/-- The ports of an intent are its own afterwards, the others are as before. -/
theorem lookup_claim_ports (shard : MutableShard) (intent : Intent) (p : PortClaim) :
    (shard.claim intent).ports.lookup p =
      if p ∈ intent.ports then some intent.serviceID else shard.ports.lookup p := by
  have key : ∀ (l : List PortClaim) (m : PortMap),
      (l.foldl (fun ports port => ports.insert port intent.serviceID) m).lookup p =
        if p ∈ l then some intent.serviceID else m.lookup p := by
    intro l
    induction l with
    | nil => simp
    | cons q _ ih =>
      intro m
      rw [List.foldl_cons, ih]
      by_cases hq : p = q
      · subst hq
        simp
      · simp [hq, AList.lookup_insert_ne]
  exact key intent.ports shard.ports

/-! ### Placements -/

/-- Which intent sits on which shard. -/
abbrev Placement := List (Intent × String)

def Placement.ids (l : Placement) : List String := l.map (·.1.serviceID)

/-- A placement that shards can hold. -/
structure Fits (reservations : Reservations) (l : Placement) : Prop where
  profile : ∀ i j n, (i, n) ∈ l → (j, n) ∈ l → i.toProfile = j.toProfile
  alone : ∀ i j n, (i, n) ∈ l → (j, n) ∈ l → i.mode = .dedicated → i.serviceID = j.serviceID
  ports : ∀ i j n p, (i, n) ∈ l → (j, n) ∈ l → p ∈ i.ports → p ∈ j.ports → i.serviceID = j.serviceID
  reserved : ∀ i n p owner, (i, n) ∈ l → p ∈ i.ports → reservations.owner n p = some owner →
    owner = i.serviceID

/-- The shard shows what a placement puts on it. -/
structure Shown (l : Placement) (name : String) (shard : MutableShard) : Prop where
  named : shard.plan.name = name
  claims : shard.plan.claims = Placement.ids (l.filter (·.2 = name))
  profile : ∀ i, (i, name) ∈ l → i.toProfile = shard.plan.toProfile
  ports : ∀ p owner, shard.ports.lookup p = some owner ↔
    ∃ i, (i, name) ∈ l ∧ i.serviceID = owner ∧ p ∈ i.ports

/-- The shards and the assignments show a placement that fits. -/
structure Packed (reservations : Reservations) (l : Placement) (s : Packing) : Prop where
  fits : Fits reservations l
  ids : l.ids.Nodup
  unnamed : s.shards.lookup "" = none
  shown : ∀ n shard, s.shards.lookup n = some shard → Shown l n shard
  hosted : ∀ i n, (i, n) ∈ l → s.shards.lookup n ≠ none
  assigned : ∀ id n, s.assignments.lookup id = some n ↔ ∃ i, (i, n) ∈ l ∧ i.serviceID = id

theorem packed_nil (reservations : Reservations) : Packed reservations [] ⟨∅, ∅⟩ where
  fits := by constructor <;> simp
  ids := List.nodup_nil
  unnamed := AList.lookup_empty _
  shown := by simp
  hosted := by simp
  assigned := by simp

section

variable {reservations : Reservations} {l : Placement} {s : Packing} {i j : Intent}
  {name n : String} {shard : MutableShard}

theorem Packed.name_ne_empty (h : Packed reservations l s) (hi : (i, n) ∈ l) : n ≠ "" := by
  rintro rfl
  exact h.hosted i _ hi h.unnamed

theorem Packed.eq_of_serviceID (h : Packed reservations l s) {m : String} (hi : (i, n) ∈ l)
    (hj : (j, m) ∈ l) (hid : i.serviceID = j.serviceID) : i = j ∧ n = m :=
  Prod.mk.inj (List.inj_on_of_nodup_map h.ids hi hj hid)

theorem Packed.shown_hosting (h : Packed reservations l s) :
    Shown l name (hosting s.shards name i) := by
  unfold hosting
  cases hfound : s.shards.lookup name with
  | some shard => exact h.shown name shard hfound
  | none =>
    have hfree : ∀ j, (j, name) ∉ l := fun j hj => h.hosted j name hj hfound
    have hfilter : l.filter (·.2 = name) = [] := by
      rw [List.filter_eq_nil_iff]
      rintro ⟨j, m⟩ hj hm
      exact hfree j (of_decide_eq_true hm ▸ hj)
    exact ⟨rfl, by rw [hfilter]; rfl, fun j hj => absurd hj (hfree j), by simp [newShard, hfree]⟩

/-- A refused attempt leaves the placement as it is. -/
theorem Packed.refused (h : Packed reservations l s) (hname : name ≠ "") :
    Packed reservations l { s with shards := touch s.shards name i } where
  fits := h.fits
  ids := h.ids
  unnamed := by
    rw [lookup_touch, if_neg hname.symm]
    exact h.unnamed
  shown := by
    intro n shard hn
    rw [lookup_touch] at hn
    split at hn
    · rename_i heq
      subst heq
      cases hn
      exact h.shown_hosting
    · exact h.shown n shard hn
  hosted := by
    intro j n hj
    rw [lookup_touch]
    split
    · exact Option.some_ne_none _
    · exact h.hosted j n hj
  assigned := h.assigned

theorem Shown.append_other (h : Shown l n shard) (hn : n ≠ name) :
    Shown (l ++ [(i, name)]) n shard where
  named := h.named
  claims := by simp [h.claims, List.filter_append, hn.symm]
  profile := by simpa [hn] using h.profile
  ports := by simpa [hn] using h.ports

theorem Shown.claim (h : Shown l name shard) (ha : Accepts shard reservations name i) :
    Shown (l ++ [(i, name)]) name (shard.claim i) where
  named := h.named
  claims := by simp [MutableShard.claim, h.claims, Placement.ids, List.filter_append]
  profile := by
    intro j hj
    rcases List.mem_append.1 hj with hj | hj
    · exact h.profile j hj
    · cases List.mem_singleton.1 hj
      exact ha.profile.symm
  ports := by
    intro p _
    rw [lookup_claim_ports]
    split
    case isTrue hp =>
      constructor
      · intro heq
        exact ⟨i, by simp, Option.some.inj heq, hp⟩
      · rintro ⟨j, hj, rfl, hpj⟩
        rcases List.mem_append.1 hj with hj | hj
        · rw [ha.held p hp _ ((h.ports p _).2 ⟨j, hj, rfl, hpj⟩)]
        · cases List.mem_singleton.1 hj
          rfl
    case isFalse hp =>
      rw [h.ports]
      constructor
      · rintro ⟨j, hj, hrest⟩
        exact ⟨j, List.mem_append_left _ hj, hrest⟩
      · rintro ⟨j, hj, rfl, hpj⟩
        rcases List.mem_append.1 hj with hj | hj
        · exact ⟨j, hj, rfl, hpj⟩
        · cases List.mem_singleton.1 hj
          exact absurd hpj hp

/-- The placement still fits with an intent its shard accepts. -/
theorem Fits.append (h : Fits reservations l) (hs : Shown l name shard)
    (ha : Accepts shard reservations name i) : Fits reservations (l ++ [(i, name)]) := by
  -- Every fact about two intents of a shard is symmetric in them but for the mode.
  have hprofile : ∀ j, (j, name) ∈ l → j.toProfile = i.toProfile := fun j hj =>
    (hs.profile j hj).trans ha.profile
  have hmode : ∀ j, (j, name) ∈ l → i.mode ≠ .dedicated := by
    intro j hj hd
    have hclaims := hs.claims.symm.trans (ha.alone hd)
    rw [Placement.ids, List.map_eq_nil_iff, List.filter_eq_nil_iff] at hclaims
    exact hclaims _ hj (decide_eq_true rfl)
  have hports : ∀ j p, (j, name) ∈ l → p ∈ j.ports → p ∈ i.ports → j.serviceID = i.serviceID :=
    fun j p hj hpj hpi => ha.held p hpi _ ((hs.ports p _).2 ⟨j, hj, rfl, hpj⟩)
  have hcases : ∀ {j n}, (j, n) ∈ l ++ [(i, name)] → (j, n) ∈ l ∨ j = i ∧ n = name := by
    intro j n hj
    simpa using hj
  constructor
  · intro a b n ha' hb'
    rcases hcases ha' with h₁ | ⟨rfl, rfl⟩ <;> rcases hcases hb' with h₂ | ⟨rfl, hn⟩
    · exact h.profile a b n h₁ h₂
    · exact hprofile a (hn ▸ h₁)
    · exact (hprofile b h₂).symm
    · rfl
  · intro a b n ha' hb' hd
    rcases hcases ha' with h₁ | ⟨rfl, rfl⟩ <;> rcases hcases hb' with h₂ | ⟨rfl, hn⟩
    · exact h.alone a b n h₁ h₂ hd
    · have heq := congrArg Profile.mode (hprofile a (hn ▸ h₁))
      exact absurd (heq.symm.trans hd) (hmode a (hn ▸ h₁))
    · exact absurd hd (hmode b h₂)
    · rfl
  · intro a b n p ha' hb' hpa hpb
    rcases hcases ha' with h₁ | ⟨rfl, rfl⟩ <;> rcases hcases hb' with h₂ | ⟨rfl, hn⟩
    · exact h.ports a b n p h₁ h₂ hpa hpb
    · exact hports a p (hn ▸ h₁) hpa hpb
    · exact (hports b p h₂ hpb hpa).symm
    · rfl
  · intro a n p owner ha' hp hr
    rcases hcases ha' with h₁ | ⟨rfl, rfl⟩
    · exact h.reserved a n p owner h₁ hp hr
    · exact ha.reserved p hp owner hr

/-- What an attempt that succeeds writes. -/
def Packing.took (s : Packing) (name : String) (intent : Intent) : Packing :=
  ⟨s.assignments.insert intent.serviceID name,
    s.shards.insert name ((hosting s.shards name intent).claim intent)⟩

/-- An attempt that succeeds adds to the placement. -/
theorem Packed.took (h : Packed reservations l s) (hname : name ≠ "")
    (ha : Accepts (hosting s.shards name i) reservations name i) (hnew : i.serviceID ∉ l.ids) :
    Packed reservations (l ++ [(i, name)]) (s.took name i) where
  fits := h.fits.append h.shown_hosting ha
  ids := by
    have : l.ids.Nodup := h.ids
    simp only [Placement.ids, List.map_append, List.map_cons, List.map_nil]
    exact List.nodup_append.2 ⟨this, List.nodup_singleton _, by
      rintro x hx y hy rfl
      exact hnew (List.mem_singleton.1 hy ▸ hx)⟩
  unnamed := by
    rw [Packing.took, lookup_insert_ite, if_neg hname.symm]
    exact h.unnamed
  shown := by
    intro n shard hn
    rw [Packing.took, lookup_insert_ite] at hn
    split at hn
    · rename_i heq
      subst heq
      cases hn
      exact h.shown_hosting.claim ha
    · rename_i hne
      exact (h.shown n shard hn).append_other hne
  hosted := by
    intro j n hj
    rw [Packing.took, lookup_insert_ite]
    split
    · exact Option.some_ne_none _
    · rename_i hne
      refine h.hosted j n ?_
      simpa [hne] using hj
  assigned := by
    intro _ _
    rw [Packing.took, lookup_insert_ite]
    split
    case isTrue hid =>
      subst hid
      constructor
      · intro heq
        exact ⟨i, by simp [Option.some.inj heq], rfl⟩
      · rintro ⟨j, hj, hid⟩
        rcases List.mem_append.1 hj with hj | hj
        · exact absurd (List.mem_map.2 ⟨_, hj, hid⟩) hnew
        · cases List.mem_singleton.1 hj
          rfl
    case isFalse hid =>
      rw [h.assigned]
      constructor
      · rintro ⟨j, hj, rfl⟩
        exact ⟨j, List.mem_append_left _ hj, rfl⟩
      · rintro ⟨j, hj, rfl⟩
        rcases List.mem_append.1 hj with hj | hj
        · exact ⟨j, hj, rfl⟩
        · cases List.mem_singleton.1 hj
          exact absurd rfl hid

/-! ### Who cannot come back -/

/-- The persisted shard of the intent is there and does not take it. -/
def Blocked (reservations : Reservations) (shards : ShardMap) (intent : Intent) : Prop :=
  ∃ shard, shards.lookup intent.existingShard = some shard ∧
    ¬ Accepts shard reservations intent.existingShard intent

theorem hosting_of_lookup {shards : ShardMap} (h : shards.lookup name = some shard) :
    hosting shards name i = shard := by
  rw [hosting, h]
  rfl

theorem blocked_of_refused {shards : ShardMap}
    (h : ¬ Accepts (hosting shards i.existingShard i) reservations i.existingShard i) :
    Blocked reservations (touch shards i.existingShard i) i :=
  ⟨_, by rw [lookup_touch, if_pos rfl], h⟩

theorem Blocked.touch {shards : ShardMap} (h : Blocked reservations shards i) :
    Blocked reservations (touch shards name j) i := by
  obtain ⟨shard, hfound, hno⟩ := h
  refine ⟨shard, ?_, hno⟩
  rw [lookup_touch]
  split
  · rename_i heq
    rw [hosting_of_lookup (heq ▸ hfound)]
  · exact hfound

/-- A shard that takes somebody more took it before. -/
theorem Accepts.of_claim (h : Accepts (shard.claim j) reservations name i)
    (hj : Accepts shard reservations name j) : Accepts shard reservations name i where
  profile := h.profile
  alone := fun hd => absurd (h.alone hd) (by simp [MutableShard.claim])
  reserved := h.reserved
  held := by
    intro p hp owner hfound
    have hclaim := lookup_claim_ports shard j p
    by_cases hpj : p ∈ j.ports
    · rw [if_pos hpj] at hclaim
      rw [hj.held p hpj owner hfound, h.held p hp _ hclaim]
    · rw [if_neg hpj, hfound] at hclaim
      exact h.held p hp owner hclaim

theorem Blocked.took (h : Blocked reservations s.shards i)
    (ha : Accepts (hosting s.shards name j) reservations name j) :
    Blocked reservations (s.took name j).shards i := by
  obtain ⟨shard, hfound, hno⟩ := h
  unfold Packing.took
  by_cases hname : i.existingShard = name
  · subst hname
    rw [hosting_of_lookup hfound] at ha
    refine ⟨shard.claim j, ?_, fun hyes => hno (hyes.of_claim ha)⟩
    rw [lookup_insert_ite, if_pos rfl, hosting_of_lookup hfound]
  · exact ⟨shard, by rw [lookup_insert_ite, if_neg hname, hfound], hno⟩

/-! ### The first pass -/

/-- The three ways of the first pass. -/
theorem persist_cons (reservations : Reservations) (i : Intent) (rest : List Intent)
    (s : Packing) :
    (i.existingShard = "" ∧ persist reservations (i :: rest) s =
      ((persist reservations rest s).1, i :: (persist reservations rest s).2)) ∨
    (i.existingShard ≠ "" ∧
      Accepts (hosting s.shards i.existingShard i) reservations i.existingShard i ∧
      persist reservations (i :: rest) s = persist reservations rest (s.took i.existingShard i)) ∨
    (i.existingShard ≠ "" ∧
      ¬ Accepts (hosting s.shards i.existingShard i) reservations i.existingShard i ∧
      persist reservations (i :: rest) s =
        ((persist reservations rest { s with shards := touch s.shards i.existingShard i }).1, i ::
          (persist reservations rest { s with shards := touch s.shards i.existingShard i }).2)) := by
  rw [persist]
  by_cases hnone : i.existingShard = ""
  · exact .inl ⟨hnone, by rw [if_pos hnone]⟩
  · rw [if_neg hnone]
    right
    rcases tryAssign_cases s.shards reservations i.existingShard i with ⟨ha, heq⟩ | ⟨ha, heq⟩
    · exact .inl ⟨hnone, ha, by rw [heq]; rfl⟩
    · exact .inr ⟨hnone, ha, by rw [heq]⟩

theorem Blocked.persist {intents : List Intent} (h : Blocked reservations s.shards i) :
    Blocked reservations (persist reservations intents s).1.shards i := by
  induction intents generalizing s with
  | nil => exact h
  | cons x rest ih =>
    rcases persist_cons reservations x rest s with ⟨-, heq⟩ | ⟨-, ha, heq⟩ | ⟨-, -, heq⟩
    · rw [heq]
      exact ih h
    · rw [heq]
      exact ih (h.took ha)
    · rw [heq]
      exact ih h.touch

/-- Who is pending has no persisted shard or cannot come back to it. -/
theorem persist_pending {intents : List Intent} (h : i ∈ (persist reservations intents s).2) :
    i.existingShard = "" ∨ Blocked reservations (persist reservations intents s).1.shards i := by
  induction intents generalizing s with
  | nil => cases h
  | cons x rest ih =>
    rcases persist_cons reservations x rest s with ⟨hx, heq⟩ | ⟨-, -, heq⟩ | ⟨-, ha, heq⟩
    · rw [heq] at h ⊢
      rcases List.mem_cons.1 h with rfl | h
      · exact .inl hx
      · exact ih h
    · rw [heq] at h ⊢
      exact ih h
    · rw [heq] at h ⊢
      rcases List.mem_cons.1 h with rfl | h
      · exact .inr (blocked_of_refused ha).persist
      · exact ih h

/-- Identities that differ still do after an intent has been placed. -/
theorem nodup_step {x : Intent} {rest : List Intent} (name : String)
    (h : (l.ids ++ (x :: rest).map (·.serviceID)).Nodup) : x.serviceID ∉ l.ids ∧
      (Placement.ids (l ++ [(x, name)]) ++ rest.map (·.serviceID)).Nodup :=
  ⟨fun hmem => (List.nodup_append.1 h).2.2 _ hmem _ (.head _) rfl,
    by simpa [Placement.ids] using h⟩

/-- The first pass puts intents on their persisted shards and leaves the others
pending. -/
theorem Packed.persist (h : Packed reservations l s) {intents : List Intent}
    (hids : (l.ids ++ intents.map (·.serviceID)).Nodup) :
    ∃ k : Placement, Packed reservations (l ++ k) (persist reservations intents s).1 ∧
      (k.map (·.1) ++ (Shards.persist reservations intents s).2).Perm intents := by
  induction intents generalizing l s with
  | nil => exact ⟨[], by simpa [Shards.persist] using h, .refl _⟩
  | cons x rest ih =>
    have hrest : (l.ids ++ rest.map (·.serviceID)).Nodup :=
      hids.sublist ((List.sublist_cons_self _ _).append_left _)
    rcases persist_cons reservations x rest s with ⟨-, heq⟩ | ⟨hx, ha, heq⟩ | ⟨hx, -, heq⟩
    · obtain ⟨k, hk, hperm⟩ := ih h hrest
      rw [heq]
      exact ⟨k, hk, List.perm_middle.trans (hperm.cons x)⟩
    · obtain ⟨hnew, hids'⟩ := nodup_step x.existingShard hids
      obtain ⟨k, hk, hperm⟩ := ih (h.took hx ha hnew) hids'
      rw [heq]
      exact ⟨(x, x.existingShard) :: k, by simpa using hk, hperm.cons x⟩
    · obtain ⟨k, hk, hperm⟩ := ih (h.refused hx) hrest
      rw [heq]
      exact ⟨k, hk, List.perm_middle.trans (hperm.cons x)⟩

/-! ### The second pass -/

theorem exceptT_bind_ok {ε α β : Type} {x : ExceptT ε Option α} {f : α → ExceptT ε Option β} {b : β}
    (h : (x >>= f) = some (.ok b)) : ∃ a, x = some (.ok a) ∧ f a = some (.ok b) := by
  rcases x with _ | (e | a)
  · cases h
  · cases h
  · exact ⟨a, rfl, h⟩

theorem Packing.assign_ok {s' : Packing} {e : Err}
    (h : s.assign reservations name i e = .ok s') :
    Accepts (hosting s.shards name i) reservations name i ∧ s' = s.took name i := by
  unfold Packing.assign at h
  rcases tryAssign_cases s.shards reservations name i with ⟨ha, heq⟩ | ⟨ha, heq⟩
  · rw [heq] at h
    exact ⟨ha, (Except.ok.inj h).symm⟩
  · rw [heq] at h
    cases h

theorem uniqueName_ne_empty {hash : String → String} {shards : ShardMap} {seed : String}
    {rounds attempt : ℕ}
    (h : uniqueNodeLoadBalancerShardName hash shards reservations "inlb-" seed rounds attempt =
      some name) : name ≠ "" := by
  induction rounds generalizing attempt with
  | zero => cases h
  | succ _ ih =>
    rw [uniqueNodeLoadBalancerShardName] at h
    generalize hash (if attempt ≠ 0 then seed ++ "#" ++ toString attempt else seed) = digest at h
    split at h
    · cases h
      simp
    · exact ih h

theorem mem_compatible {order : MapOrder} {shards : ShardMap}
    (h : shard ∈ compatibleNodeLoadBalancerShards order shards reservations i) :
    ∃ n, shards.lookup n = some shard := by
  unfold compatibleNodeLoadBalancerShards at h
  rw [List.mem_insertionSort, List.mem_filter] at h
  obtain ⟨⟨n, x⟩, hmem, rfl⟩ := List.mem_map.1 h.1
  exact ⟨n, AList.mem_lookup_iff.2 (order.mem_visit.1 hmem)⟩

variable {hash : String → String} {rounds : ℕ} {order : MapOrder}

/-- A pending Service goes to a shard that takes it. -/
theorem place_ok {s' : Packing} (h : Packed reservations l s)
    (hplace : place hash rounds order reservations s i = some (.ok s')) :
    ∃ name, name ≠ "" ∧ Accepts (hosting s.shards name i) reservations name i ∧
      s' = s.took name i := by
  have hunique : ∀ {seed e}, (uniqueNodeLoadBalancerShardName hash s.shards reservations "inlb-" seed
      rounds 0).map (fun name => s.assign reservations name i e) = some (.ok s') →
      ∃ name, name ≠ "" ∧ Accepts (hosting s.shards name i) reservations name i ∧
        s' = s.took name i := by
    intro _ _ heq
    obtain ⟨name, hname, hassign⟩ := Option.map_eq_some_iff.1 heq
    exact ⟨name, uniqueName_ne_empty hname, Packing.assign_ok hassign⟩
  unfold place at hplace
  split at hplace
  · exact hunique hplace
  · split at hplace
    · rename_i shard tail hcandidates
      obtain ⟨n, hn⟩ := mem_compatible (hcandidates ▸ List.mem_cons_self)
      refine ⟨shard.plan.name, ?_, Packing.assign_ok (Option.some.inj hplace)⟩
      rw [(h.shown n shard hn).named]
      rintro rfl
      cases h.unnamed.symm.trans hn
    · exact hunique hplace

/-- The second pass puts every pending intent on a shard, and none on the one
it was refused on. -/
theorem Packed.place {s' : Packing} {pending : List Intent} (h : Packed reservations l s)
    (hids : (l.ids ++ pending.map (·.serviceID)).Nodup)
    (hpending : ∀ i ∈ pending, i.existingShard = "" ∨ Blocked reservations s.shards i)
    (hrun : pending.foldlM (place hash rounds order reservations) s = some (.ok s')) :
    ∃ k : Placement, Packed reservations (l ++ k) s' ∧ k.map (·.1) = pending ∧
      s' = k.foldl (fun s x => s.took x.2 x.1) s ∧ ∀ i n, (i, n) ∈ k → n ≠ i.existingShard := by
  induction pending generalizing l s with
  | nil =>
    cases hrun
    exact ⟨[], by simpa using h, rfl, rfl, by simp⟩
  | cons x rest ih =>
    obtain ⟨_, hfirst, hrest⟩ := exceptT_bind_ok hrun
    obtain ⟨name, hname, ha, rfl⟩ := place_ok h hfirst
    obtain ⟨hnew, hids'⟩ := nodup_step name hids
    have hpending' : ∀ i ∈ rest, i.existingShard = "" ∨
        Blocked reservations (s.took name x).shards i := fun i hi =>
      (hpending i (.tail _ hi)).imp_right fun hb => hb.took ha
    obtain ⟨k, hk, hmap, htook, hk'⟩ := ih (h.took hname ha hnew) hids' hpending' hrest
    refine ⟨(x, name) :: k, by simpa using hk, by rw [List.map_cons, hmap], htook, ?_⟩
    intro i n hmem
    rcases List.mem_cons.1 hmem with heq | hmem
    · cases heq
      rcases hpending x (.head _) with hempty | ⟨_, hfound, hno⟩
      · rw [hempty]
        exact hname
      · rintro rfl
        rw [hosting_of_lookup hfound] at ha
        exact hno ha
    · exact hk' i n hmem

/-! ### The order of a map does not show -/

theorem fuller_iff (a b : MutableShard) : fuller a b ↔
    toLex (OrderDual.toDual a.ports.keys.length, a.plan.name) ≤
      toLex (OrderDual.toDual b.ports.keys.length, b.plan.name) := by
  rw [Prod.Lex.toLex_le_toLex, fuller]
  by_cases hlen : a.ports.keys.length = b.ports.keys.length
  · simp [hlen]
  · simp [hlen]

def portKey (p : PortClaim) : String ×ₗ String ×ₗ ℤ :=
  toLex (p.family.text, toLex (protocolText p.protocol, p.port))

theorem IPFamily.text_inj {a b : IPFamily} : a.text = b.text ↔ a = b := by
  cases a <;> cases b <;> simp [IPFamily.text]

theorem protocolText_inj {a b : Protocol} : protocolText a = protocolText b ↔ a = b := by
  cases a <;> cases b <;> simp [protocolText]

theorem portKey_injective : Function.Injective portKey := by
  rintro ⟨_, _, _⟩ ⟨_, _, _⟩ h
  simp only [portKey, EmbeddingLike.apply_eq_iff_eq, Prod.mk.injEq, IPFamily.text_inj,
    protocolText_inj] at h
  obtain ⟨rfl, rfl, rfl⟩ := h
  rfl

theorem portLE_iff (a b : PortClaim) : portLE a b ↔ portKey a ≤ portKey b := by
  simp only [portKey, Prod.Lex.toLex_le_toLex, portLE, IPFamily.text_inj, protocolText_inj]
  by_cases hf : a.family = b.family
  · by_cases hq : a.protocol = b.protocol
    · simp [hf, hq]
    · simp [hf, hq]
  · simp [hf]

theorem Packed.compatible_order (h : Packed reservations l s) (order order' : MapOrder) :
    compatibleNodeLoadBalancerShards order s.shards reservations i =
      compatibleNodeLoadBalancerShards order' s.shards reservations i := by
  refine insertionSort_eq_of_perm (k := fun shard : MutableShard => toLex
    (OrderDual.toDual shard.ports.keys.length, shard.plan.name)) fuller_iff (List.Perm.filter _ (List.Perm.map _
    ((order.perm _).trans (order'.perm _).symm))) ?_
  intro a ha b hb hkey
  obtain ⟨⟨n, a⟩, hn, rfl⟩ := List.mem_map.1 (List.mem_filter.1 ha).1
  obtain ⟨⟨m, b⟩, hm, rfl⟩ := List.mem_map.1 (List.mem_filter.1 hb).1
  have hn' := AList.mem_lookup_iff.2 (order.mem_visit.1 hn)
  have hm' := AList.mem_lookup_iff.2 (order.mem_visit.1 hm)
  have hname : a.plan.name = b.plan.name := congrArg (fun k => (ofLex k).2) hkey
  rw [(h.shown n a hn').named, (h.shown m b hm').named] at hname
  subst hname
  exact Option.some.inj (hn'.symm.trans hm')

theorem Packed.place_order (h : Packed reservations l s) (order order' : MapOrder) :
    Shards.place hash rounds order reservations s i =
      Shards.place hash rounds order' reservations s i := by
  unfold Shards.place
  rw [h.compatible_order order order']

theorem Packed.foldlM_order {s' : Packing} {pending : List Intent} (h : Packed reservations l s)
    (order' : MapOrder) (hids : (l.ids ++ pending.map (·.serviceID)).Nodup)
    (hrun : pending.foldlM (Shards.place hash rounds order reservations) s = some (.ok s')) :
    pending.foldlM (Shards.place hash rounds order' reservations) s = some (.ok s') := by
  induction pending generalizing l s with
  | nil => exact hrun
  | cons x rest ih =>
    obtain ⟨_, hfirst, hrest⟩ := exceptT_bind_ok hrun
    obtain ⟨name, hname, ha, rfl⟩ := place_ok h hfirst
    obtain ⟨hnew, hids'⟩ := nodup_step name hids
    have hrest' := ih (h.took hname ha hnew) hids' hrest
    rw [List.foldlM_cons, ← h.place_order order order', hfirst]
    exact hrest'

theorem MutableShard.final_order (shard : MutableShard) (order order' : MapOrder) :
    shard.final order = shard.final order' := by
  unfold MutableShard.final
  rw [insertionSort_eq_of_perm portLE_iff
    ((order.perm shard.ports.keys).trans (order'.perm shard.ports.keys).symm)
    fun a _ b _ hkey => portKey_injective hkey]

theorem Packed.result_order (h : Packed reservations l s) (order order' : MapOrder) :
    s.result order = s.result order' := by
  unfold Packing.result
  congr 1
  refine insertionSort_eq_of_perm (k := ShardPlan.name) (fun _ _ => Iff.rfl) ?_ ?_
  · simp only [fun shard : MutableShard => shard.final_order order order']
    exact List.Perm.map _ ((order.perm _).trans (order'.perm _).symm)
  · intro a ha b hb hkey
    obtain ⟨⟨n, a⟩, hn, rfl⟩ := List.mem_map.1 ha
    obtain ⟨⟨m, b⟩, hm, rfl⟩ := List.mem_map.1 hb
    have hn' := AList.mem_lookup_iff.2 (order.mem_visit.1 hn)
    have hm' := AList.mem_lookup_iff.2 (order.mem_visit.1 hm)
    have hname : a.plan.name = b.plan.name := hkey
    rw [(h.shown n a hn').named, (h.shown m b hm').named] at hname
    subst hname
    rw [Option.some.inj (hn'.symm.trans hm')]

/-! ### The plan -/

theorem checkIntents_nodup {intents : List Intent} {seen : List String}
    (h : checkIntents intents seen = .ok ()) :
    (intents.map (·.serviceID)).Nodup ∧ ∀ i ∈ intents, i.serviceID ∉ seen := by
  induction intents generalizing seen with
  | nil => simp
  | cons x _ ih =>
    obtain ⟨_, hx, hrest⟩ := except_bind_ok h
    obtain ⟨hnodup, hseen⟩ := ih hrest
    have hx' : x.serviceID ∉ seen := by
      unfold checkIntent at hx
      obtain ⟨_, -, hx⟩ := except_bind_ok hx
      obtain ⟨_, hnew, -⟩ := except_bind_ok hx
      exact failIf_ok hnew
    refine ⟨List.nodup_cons.2 ⟨?_, hnodup⟩, ?_⟩
    · intro hmem
      obtain ⟨i, hi, hid⟩ := List.mem_map.1 hmem
      exact hseen i hi (hid ▸ (.head _))
    · exact List.forall_mem_cons.2 ⟨hx', fun i hi hmem => hseen i hi (.tail _ hmem)⟩

/-- A plan comes from a placement of all intents, in two parts. -/
structure Planned (hash : String → String) (rounds : ℕ) (order : MapOrder) (intents : List Intent)
    (reservations : Reservations) (plan : Plan) (k₁ k₂ : Placement) (s : Packing) : Prop where
  checked : checkIntents (ordered intents) [] = .ok ()
  first : Packed reservations k₁ (persist reservations (ordered intents) ⟨∅, ∅⟩).1
  run : (persist reservations (ordered intents) ⟨∅, ∅⟩).2.foldlM
    (Shards.place hash rounds order reservations)
    (persist reservations (ordered intents) ⟨∅, ∅⟩).1 = some (.ok s)
  second : k₂.map (·.1) = (persist reservations (ordered intents) ⟨∅, ∅⟩).2
  took : s = k₂.foldl (fun s x => s.took x.2 x.1) (persist reservations (ordered intents) ⟨∅, ∅⟩).1
  packed : Packed reservations (k₁ ++ k₂) s
  all : ((k₁ ++ k₂).map (·.1)).Perm intents
  moved : ∀ i n, (i, n) ∈ k₂ → n ≠ i.existingShard
  plan_eq : plan = s.result order

theorem ordered_perm {intents : List Intent} : (ordered intents).Perm intents :=
  List.perm_insertionSort _ _

theorem plan_planned {intents : List Intent} {plan : Plan}
    (h : planNodeLoadBalancerShardsWithReservations hash rounds order intents reservations =
      some (.ok plan)) :
    ∃ k₁ k₂ s, Planned hash rounds order intents reservations plan k₁ k₂ s := by
  obtain ⟨_, hchecked, h⟩ := exceptT_bind_ok h
  obtain ⟨s, hrun, h⟩ := exceptT_bind_ok h
  have hchecked : checkIntents (ordered intents) [] = .ok () := Option.some.inj hchecked
  have hids := (checkIntents_nodup hchecked).1
  have hids₀ : (Placement.ids [] ++ (ordered intents).map (·.serviceID)).Nodup := by
    simpa [Placement.ids] using hids
  obtain ⟨k₁, hk₁, hperm⟩ := (packed_nil reservations).persist hids₀
  rw [List.nil_append] at hk₁
  have hids' : (k₁.ids ++ (persist reservations (ordered intents) ⟨∅, ∅⟩).2.map
      (·.serviceID)).Nodup := by
    have := (hperm.map (·.serviceID)).nodup_iff.2 hids
    simpa [Placement.ids, Function.comp_def] using this
  obtain ⟨k₂, hk₂, hmap, htook, hmoved⟩ := hk₁.place hids' (fun i hi => persist_pending hi) hrun
  refine ⟨k₁, k₂, s, hchecked, hk₁, hrun, hmap, htook, hk₂, ?_, hmoved, ?_⟩
  · rw [List.map_append, hmap]
    exact hperm.trans ordered_perm
  · exact (Except.ok.inj (Option.some.inj h)).symm

theorem plan_of_run {intents : List Intent}
    (hchecked : checkIntents (ordered intents) [] = .ok ())
    (hrun : (persist reservations (ordered intents) ⟨∅, ∅⟩).2.foldlM
      (Shards.place hash rounds order reservations)
      (persist reservations (ordered intents) ⟨∅, ∅⟩).1 = some (.ok s)) :
    planNodeLoadBalancerShardsWithReservations hash rounds order intents reservations =
      some (.ok (s.result order)) := by
  unfold planNodeLoadBalancerShardsWithReservations
  simp only [hchecked]
  exact congrArg (fun r : ExceptT Err Option Packing =>
    r >>= fun s => pure (s.result order)) hrun

theorem ordered_eq_of_perm {intents intents' : List Intent} (hp : intents'.Perm intents)
    (hids : (intents.map (·.serviceID)).Nodup) : ordered intents' = ordered intents :=
  insertionSort_eq_of_perm (k := Intent.serviceID) (fun _ _ => Iff.rfl) hp fun _ ha _ hb hid =>
    List.inj_on_of_nodup_map hids (hp.mem_iff.1 ha) (hp.mem_iff.1 hb) hid

variable {intents : List Intent} {plan : Plan} {k₁ k₂ : Placement}

theorem Planned.ids (h : Planned hash rounds order intents reservations plan k₁ k₂ s) :
    (intents.map (·.serviceID)).Nodup :=
  (ordered_perm.map _).nodup_iff.1 (checkIntents_nodup h.checked).1

/-- The plan shows neither the order of the intents nor that of a map. -/
theorem Planned.perm (h : Planned hash rounds order intents reservations plan k₁ k₂ s)
    {intents' : List Intent} (hp : intents'.Perm intents) (order' : MapOrder) :
    planNodeLoadBalancerShardsWithReservations hash rounds order' intents' reservations =
      some (.ok plan) := by
  have hordered := ordered_eq_of_perm hp h.ids
  have hids : (k₁.ids ++ (persist reservations (ordered intents) ⟨∅, ∅⟩).2.map
      (·.serviceID)).Nodup := by
    simpa [← h.second, Placement.ids, Function.comp_def] using h.packed.ids
  have hrun := h.first.foldlM_order order' hids h.run
  rw [← hordered] at hrun
  rw [plan_of_run (hordered ▸ h.checked) hrun, h.plan_eq, h.packed.result_order order order']

/-! ### What a plan looks like -/

/-- Every shard has a claim. -/
def Busy (shards : ShardMap) : Prop :=
  ∀ n shard, shards.lookup n = some shard → shard.plan.claims ≠ []

theorem Busy.took (h : Busy s.shards) : Busy (s.took name i).shards := by
  intro n shard hn
  rw [Packing.took, lookup_insert_ite] at hn
  split at hn
  · cases hn
    simp [MutableShard.claim]
  · exact h n shard hn

/-- No port of the intent is reserved for somebody else on its persisted shard. -/
def Unreserved (reservations : Reservations) (intent : Intent) : Prop :=
  ∀ p ∈ intent.ports, ∀ owner, reservations.owner intent.existingShard p = some owner →
    owner = intent.serviceID

theorem touch_of_refused {shards : ShardMap} (hi : Unreserved reservations i)
    (ha : ¬ Accepts (hosting shards i.existingShard i) reservations i.existingShard i) :
    touch shards i.existingShard i = shards := by
  unfold touch
  split
  · rfl
  · rename_i hnone
    rw [Bool.not_eq_true, Option.isSome_eq_false_iff, Option.isNone_iff_eq_none] at hnone
    exact absurd (accepts_newShard hi) (by rwa [hosting, hnone] at ha)

theorem Busy.persist (h : Busy s.shards) (hintents : ∀ i ∈ intents, Unreserved reservations i) :
    Busy (Shards.persist reservations intents s).1.shards := by
  induction intents generalizing s with
  | nil => exact h
  | cons x rest ih =>
    have hrest : ∀ i ∈ rest, Unreserved reservations i := fun i hi =>
      hintents i (.tail _ hi)
    rcases persist_cons reservations x rest s with ⟨-, heq⟩ | ⟨-, -, heq⟩ | ⟨-, ha, heq⟩
    · rw [heq]
      exact ih h hrest
    · rw [heq]
      exact ih h.took hrest
    · rw [heq]
      refine ih ?_ hrest
      rwa [touch_of_refused (hintents x (.head _)) ha]

theorem Busy.foldl_took {k : Placement} (h : Busy s.shards) :
    Busy (k.foldl (fun s x => s.took x.2 x.1) s).shards := by
  induction k generalizing s with
  | nil => exact h
  | cons _ _ ih => exact ih h.took

theorem Planned.busy (h : Planned hash rounds order intents reservations plan k₁ k₂ s)
    (hintents : ∀ i ∈ intents, Unreserved reservations i) : Busy s.shards := by
  have hempty : Busy (⟨∅, ∅⟩ : Packing).shards := by simp [Busy]
  rw [h.took]
  exact (hempty.persist fun i hi => hintents i (ordered_perm.mem_iff.1 hi)).foldl_took

/-- A plan that packs the intents as it should. -/
structure WellPacked (intents : List Intent) (reservations : Reservations) (plan : Plan) :
    Prop where
  names : (plan.shards.map (·.name)).Nodup
  assigned : ∀ i ∈ intents, ∃ shard ∈ plan.shards,
    plan.assignments.lookup i.serviceID = some shard.name ∧
    ∀ other ∈ plan.shards, i.serviceID ∈ other.claims ↔ other = shard
  known : ∀ id, plan.assignments.lookup id ≠ none → ∃ i ∈ intents, i.serviceID = id
  claimed : ∀ shard ∈ plan.shards, shard.claims ≠ []
  once : ∀ shard ∈ plan.shards, shard.claims.Nodup
  profile : ∀ shard ∈ plan.shards, ∀ id ∈ shard.claims, ∃ i ∈ intents,
    i.serviceID = id ∧ i.toProfile = shard.toProfile
  disjoint : ∀ shard ∈ plan.shards, ∀ i ∈ intents, ∀ j ∈ intents, i ≠ j →
    i.serviceID ∈ shard.claims → j.serviceID ∈ shard.claims → List.Disjoint i.ports j.ports
  ports : ∀ shard ∈ plan.shards, shard.ports.Nodup ∧
    ∀ p, p ∈ shard.ports ↔ ∃ i ∈ intents, i.serviceID ∈ shard.claims ∧ p ∈ i.ports
  dedicated : ∀ shard ∈ plan.shards, shard.mode = .dedicated → shard.claims.length = 1
  reserved : ∀ shard ∈ plan.shards, ∀ i ∈ intents, i.serviceID ∈ shard.claims →
    ∀ p ∈ i.ports, ∀ owner, reservations.owner shard.name p = some owner → owner = i.serviceID

theorem mem_result_shards {shard : ShardPlan} : shard ∈ (s.result order).shards ↔
    ∃ n m, s.shards.lookup n = some m ∧ m.final order = shard := by
  simp only [Packing.result, List.mem_insertionSort, List.mem_map, order.mem_visit]
  constructor
  · rintro ⟨⟨n, m⟩, hmem, rfl⟩
    exact ⟨n, m, AList.mem_lookup_iff.2 hmem, rfl⟩
  · rintro ⟨n, m, hn, rfl⟩
    exact ⟨⟨n, m⟩, AList.mem_lookup_iff.1 hn, rfl⟩

theorem Shown.mem_claims (h : Shown l n shard) {id : String} :
    id ∈ (shard.final order).claims ↔ ∃ i, (i, n) ∈ l ∧ i.serviceID = id := by
  simp only [MutableShard.final, List.mem_insertionSort, h.claims, Placement.ids, List.mem_map,
    List.mem_filter, decide_eq_true_eq]
  constructor
  · rintro ⟨⟨i, m⟩, ⟨hmem, rfl⟩, rfl⟩
    exact ⟨i, hmem, rfl⟩
  · rintro ⟨i, hmem, rfl⟩
    exact ⟨(i, n), ⟨hmem, rfl⟩, rfl⟩

theorem Shown.mem_ports (h : Shown l n shard) {p : PortClaim} :
    p ∈ (shard.final order).ports ↔ ∃ i, (i, n) ∈ l ∧ p ∈ i.ports := by
  have hkey : p ∈ (shard.final order).ports ↔ ∃ owner, shard.ports.lookup p = some owner := by
    simp only [MutableShard.final, List.mem_insertionSort, order.mem_visit, ← AList.mem_keys,
      ← AList.lookup_isSome, Option.isSome_iff_exists]
  rw [hkey]
  constructor
  · rintro ⟨owner, hp⟩
    obtain ⟨i, hi, -, hpi⟩ := (h.ports p owner).1 hp
    exact ⟨i, hi, hpi⟩
  · rintro ⟨i, hi, hpi⟩
    exact ⟨i.serviceID, (h.ports p _).2 ⟨i, hi, rfl, hpi⟩⟩

theorem Shown.nodup_claims (h : Shown l n shard) (hids : l.ids.Nodup) :
    (shard.final order).claims.Nodup := by
  have hsub : (Placement.ids (l.filter (·.2 = n))).Sublist l.ids := List.filter_sublist.map _
  refine (List.perm_insertionSort _ _).nodup_iff.2 ?_
  rw [h.claims]
  exact hids.sublist hsub

theorem Packed.wellPacked (h : Packed reservations l s) (hb : Busy s.shards)
    (hall : (l.map (·.1)).Perm intents) :
    WellPacked intents reservations (s.result order) := by
  -- An intent sits on one shard, and only there its identity is among the claims.
  have hplaced : ∀ i ∈ intents, ∃ n, (i, n) ∈ l := by
    intro i hi
    obtain ⟨⟨_, n⟩, hmem, rfl⟩ := List.mem_map.1 (hall.mem_iff.2 hi)
    exact ⟨n, hmem⟩
  have hintent : ∀ i n, (i, n) ∈ l → i ∈ intents := fun i n hi =>
    hall.mem_iff.1 (List.mem_map.2 ⟨(i, n), hi, rfl⟩)
  have hclaim : ∀ n m i, s.shards.lookup n = some m → i ∈ intents →
      (i.serviceID ∈ (m.final order).claims ↔ (i, n) ∈ l) := by
    intro n m i hn hi
    rw [(h.shown n m hn).mem_claims]
    constructor
    · rintro ⟨j, hj, hid⟩
      obtain ⟨_, hi'⟩ := hplaced i hi
      obtain ⟨rfl, -⟩ := h.eq_of_serviceID hj hi' hid
      exact hj
    · intro hi'
      exact ⟨i, hi', rfl⟩
  have hname : ∀ n m, s.shards.lookup n = some m → (m.final order).name = n := fun n m hn =>
    (h.shown n m hn).named
  constructor
  case names =>
    have hperm : ((s.result order).shards.map (·.name)).Perm s.shards.keys := by
      refine ((List.perm_insertionSort _ _).map _).trans ?_
      rw [List.map_map]
      refine List.Perm.trans (.of_eq ?_) ((order.perm s.shards.entries).map Sigma.fst)
      refine List.map_congr_left ?_
      rintro ⟨n, m⟩ hmem
      exact hname n m (AList.mem_lookup_iff.2 (order.mem_visit.1 hmem))
    exact hperm.nodup_iff.2 s.shards.keys_nodup
  case assigned =>
    intro i hi
    obtain ⟨n, hmem⟩ := hplaced i hi
    obtain ⟨m, hm⟩ := Option.ne_none_iff_exists'.1 (h.hosted i n hmem)
    refine ⟨m.final order, mem_result_shards.2 ⟨n, m, hm, rfl⟩, ?_, ?_⟩
    · rw [hname n m hm]
      exact (h.assigned _ _).2 ⟨i, hmem, rfl⟩
    · intro _ hother
      obtain ⟨n', m', hm', rfl⟩ := mem_result_shards.1 hother
      constructor
      · intro hid
        obtain ⟨-, rfl⟩ := h.eq_of_serviceID ((hclaim n' m' i hm' hi).1 hid) hmem rfl
        rw [Option.some.inj (hm'.symm.trans hm)]
      · intro heq
        rw [heq]
        exact (hclaim n m i hm hi).2 hmem
  case known =>
    intro id hid
    obtain ⟨n, hn⟩ := Option.ne_none_iff_exists'.1 hid
    obtain ⟨i, hi, rfl⟩ := (h.assigned id n).1 hn
    exact ⟨i, hintent i n hi, rfl⟩
  case claimed =>
    intro _ hshard hnil
    obtain ⟨n, m, hm, rfl⟩ := mem_result_shards.1 hshard
    refine hb n m hm ?_
    rw [← List.length_eq_zero_iff] at hnil ⊢
    rwa [MutableShard.final, List.length_insertionSort] at hnil
  case once =>
    intro _ hshard
    obtain ⟨n, m, hm, rfl⟩ := mem_result_shards.1 hshard
    exact (h.shown n m hm).nodup_claims h.ids
  case profile =>
    intro _ hshard _ hid
    obtain ⟨n, m, hm, rfl⟩ := mem_result_shards.1 hshard
    obtain ⟨i, hi, rfl⟩ := (h.shown n m hm).mem_claims.1 hid
    exact ⟨i, hintent i n hi, rfl, (h.shown n m hm).profile i hi⟩
  case disjoint =>
    intro _ hshard i hi j hj hne hci hcj p hpi hpj
    obtain ⟨n, m, hm, rfl⟩ := mem_result_shards.1 hshard
    have hi' := (hclaim n m i hm hi).1 hci
    have hj' := (hclaim n m j hm hj).1 hcj
    exact hne (h.eq_of_serviceID hi' hj' (h.fits.ports i j n p hi' hj' hpi hpj)).1
  case ports =>
    intro _ hshard
    obtain ⟨n, m, hm, rfl⟩ := mem_result_shards.1 hshard
    constructor
    · have hkeys := (order.perm m.ports.keys).nodup_iff.2 m.ports.keys_nodup
      exact (List.perm_insertionSort _ _).nodup_iff.2 hkeys
    · intro p
      rw [(h.shown n m hm).mem_ports]
      constructor
      · rintro ⟨i, hi, hp⟩
        exact ⟨i, hintent i n hi, (hclaim n m i hm (hintent i n hi)).2 hi, hp⟩
      · rintro ⟨i, hi, hci, hp⟩
        exact ⟨i, (hclaim n m i hm hi).1 hci, hp⟩
  case dedicated =>
    intro shard hshard hmode
    obtain ⟨n, m, hm, rfl⟩ := mem_result_shards.1 hshard
    have hshown := h.shown n m hm
    -- Two claims of a dedicated shard are the same Service.
    have hsame : ∀ a ∈ (m.final order).claims, ∀ b ∈ (m.final order).claims, a = b := by
      intro a ha b hb
      obtain ⟨i, hi, rfl⟩ := hshown.mem_claims.1 ha
      obtain ⟨j, hj, rfl⟩ := hshown.mem_claims.1 hb
      exact h.fits.alone i j n hi hj ((congrArg Profile.mode (hshown.profile i hi)).trans hmode)
    have hle : (m.final order).claims.length ≤ 1 := by
      by_contra hlt
      have h₀ := List.getElem_mem (l := (m.final order).claims) (n := 0) (by omega)
      have h₁ := List.getElem_mem (l := (m.final order).claims) (n := 1) (by omega)
      have heq := (hshown.nodup_claims h.ids).getElem_inj_iff.1 (hsame _ h₀ _ h₁)
      cases heq
    have hpos : (m.final order).claims.length ≠ 0 := by
      rw [MutableShard.final, List.length_insertionSort]
      exact fun hnil => hb n m hm (List.length_eq_zero_iff.1 hnil)
    omega
  case reserved =>
    intro _ hshard i hi hci p hp owner howner
    obtain ⟨n, m, hm, rfl⟩ := mem_result_shards.1 hshard
    rw [hname n m hm] at howner
    exact h.fits.reserved i n p owner ((hclaim n m i hm hi).1 hci) hp howner

end

/-- The plan of a run that succeeds, when it passes a test. -/
theorem exists_plan (r : ExceptT Err Option Plan) (test : Plan → Bool)
    (h : (match r with
      | some (.ok plan) => test plan
      | _ => false) = true) : ∃ plan, r = some (.ok plan) ∧ test plan = true := by
  rcases r with _ | (e | plan)
  · cases h
  · cases h
  · exact ⟨plan, rfl, h⟩

/-- A digest for small runs. -/
def reversedText (text : String) : String := String.ofList text.toList.reverse

def tcp (port : ℤ) : PortClaim := ⟨.ipv4, .tcp, port⟩

def edgeProfile (mode : Mode) : Profile := ⟨mode, "edge", 2, 2, 4096⟩

def webIntent : Intent :=
  { edgeProfile .shared with
    serviceID := "ns/web", ports := [tcp 80, tcp 443], existingShard := "inlb-web" }

def apiIntent : Intent :=
  { edgeProfile .shared with serviceID := "ns/api", ports := [tcp 443], existingShard := "" }

def mailIntent : Intent :=
  { edgeProfile .dedicated with serviceID := "ns/mail", ports := [tcp 25], existingShard := "" }

/-- Port 80 of the shard `inlb-web` belongs to a Service. -/
def reservedWeb (owner : String) : Reservations :=
  [⟨"inlb-web", [⟨tcp 80, owner⟩].toAList⟩].toAList

section

variable {reservations : Reservations} {l : Placement} {s : Packing} {i : Intent} {name : String}

/-- A shard with a claim takes whoever the placement puts on it. -/
theorem Packed.accepts (h : Packed reservations l s) (hb : Busy s.shards)
    (hfits : Fits reservations (l ++ [(i, name)])) (hnew : i.serviceID ∉ l.ids) :
    Accepts (hosting s.shards name i) reservations name i := by
  have hi : (i, name) ∈ l ++ [(i, name)] := List.mem_append_right _ (List.mem_singleton.2 rfl)
  have hreserved : ∀ p ∈ i.ports, ∀ owner, reservations.owner name p = some owner →
      owner = i.serviceID := fun p hp owner ho => hfits.reserved i name p owner hi hp ho
  unfold hosting
  cases hfound : s.shards.lookup name with
  | none => exact accepts_newShard hreserved
  | some shard =>
    have hshown := h.shown name shard hfound
    obtain ⟨j, hj⟩ : ∃ j, (j, name) ∈ l := by
      have hne := hb name shard hfound
      rw [hshown.claims, Placement.ids, Ne, List.map_eq_nil_iff] at hne
      obtain ⟨⟨j, m⟩, hmem⟩ := List.exists_mem_of_ne_nil _ hne
      obtain ⟨hmem, hm⟩ := List.mem_filter.1 hmem
      exact ⟨j, of_decide_eq_true hm ▸ hmem⟩
    have hj' := List.mem_append_left [(i, name)] hj
    refine ⟨?_, ?_, hreserved, ?_⟩
    · exact (hshown.profile j hj).symm.trans (hfits.profile j i name hj' hi)
    · intro hd
      have hid := hfits.alone i j name hi hj' hd
      exact absurd (List.mem_map.2 ⟨(j, name), hj, hid.symm⟩) hnew
    · intro p hp owner ho
      obtain ⟨k, hk, rfl, hpk⟩ := (hshown.ports p owner).1 ho
      exact hfits.ports k i name p (List.mem_append_left _ hk) hi hpk hp

theorem Fits.sublist {k : Placement} (h : Fits reservations l) (hk : k.Sublist l) :
    Fits reservations k where
  profile := fun i j n hi hj => h.profile i j n (hk.subset hi) (hk.subset hj)
  alone := fun i j n hi hj => h.alone i j n (hk.subset hi) (hk.subset hj)
  ports := fun i j n p hi hj => h.ports i j n p (hk.subset hi) (hk.subset hj)
  reserved := fun i n p owner hi => h.reserved i n p owner (hk.subset hi)

/-- The first pass puts back a whole placement that fits. -/
theorem Packed.persist_all (h : Packed reservations l s) (hb : Busy s.shards) {k : Placement}
    (hfits : Fits reservations (l ++ k)) (hids : (Placement.ids (l ++ k)).Nodup)
    (hk : ∀ i n, (i, n) ∈ k → n = i.existingShard ∧ n ≠ "") :
    (Shards.persist reservations (k.map (·.1)) s).2 = [] ∧
      Packed reservations (l ++ k) (Shards.persist reservations (k.map (·.1)) s).1 := by
  induction k generalizing l s with
  | nil => exact ⟨rfl, by simpa [Shards.persist] using h⟩
  | cons x k ih =>
    obtain ⟨x, n⟩ := x
    obtain ⟨rfl, hn⟩ := hk x n (.head _)
    have happend : l ++ (x, x.existingShard) :: k = l ++ [(x, x.existingShard)] ++ k := by simp
    have hnew : x.serviceID ∉ l.ids := by
      intro hmem
      rw [Placement.ids, List.map_append] at hids
      exact (List.nodup_append.1 hids).2.2 _ hmem _ (.head _) rfl
    rw [happend] at hfits hids ⊢
    have ha := h.accepts hb (hfits.sublist (List.sublist_append_left _ _)) hnew
    rcases persist_cons reservations x (k.map (·.1)) s with ⟨hx, -⟩ | ⟨-, -, heq⟩ | ⟨-, hno, -⟩
    · exact absurd hx hn
    · rw [List.map_cons, heq]
      exact ih (h.took hn ha hnew) hb.took hfits hids
        fun i n hi => hk i n (.tail _ hi)
    · exact absurd ha hno

/-- An intent without a persisted shard has no part in the first pass. -/
theorem persist_filter (intents : List Intent) (s : Packing) :
    (persist reservations intents s).1 =
      (persist reservations (intents.filter (·.existingShard ≠ "")) s).1 := by
  induction intents generalizing s with
  | nil => rfl
  | cons x rest ih =>
    by_cases hx : x.existingShard = ""
    · rw [List.filter_cons_of_neg (by simpa using hx), persist, if_pos hx]
      exact ih s
    · rw [List.filter_cons_of_pos (by simpa using hx), persist, persist, if_neg hx, if_neg hx]
      obtain ⟨took, _⟩ :=
        tryAssignNodeLoadBalancerShard s.shards reservations x.existingShard x
      cases took with
      | true => exact ih _
      | false => exact ih _

end

section

variable {hash : String → String} {rounds : ℕ} {order : MapOrder} {reservations : Reservations}
  {intents : List Intent} {plan : Plan} {k₁ k₂ : Placement} {s : Packing}

/-- An intent with the shard of a plan written back. -/
def Intent.persisted (plan : Plan) (intent : Intent) : Intent :=
  { intent with existingShard := (plan.assignments.lookup intent.serviceID).getD "" }

theorem checkIntents_persisted (plan : Plan) (intents : List Intent) (seen : List String) :
    checkIntents (intents.map (·.persisted plan)) seen = checkIntents intents seen := by
  induction intents generalizing seen with
  | nil => rfl
  | cons x _ ih =>
    rw [List.map_cons, checkIntents, checkIntents]
    simp only [show (x.persisted plan).serviceID = x.serviceID from rfl, ih]
    rfl

theorem ordered_persisted (plan : Plan) (intents : List Intent) :
    ordered (intents.map (·.persisted plan)) = (ordered intents).map (·.persisted plan) := by
  unfold ordered
  exact (List.map_insertionSort _ _ (Intent.persisted plan) intents fun _ _ _ _ => Iff.rfl).symm

/-- The placement of a plan, as the next planning finds it. -/
def Plan.placement (plan : Plan) (intents : List Intent) : Placement :=
  (ordered intents).map fun i => (i.persisted plan, (i.persisted plan).existingShard)

variable (h : Planned hash rounds order intents reservations plan k₁ k₂ s)

include h

theorem Planned.assigned (id n : String) : plan.assignments.lookup id = some n ↔
      ∃ i, (i, n) ∈ k₁ ++ k₂ ∧ i.serviceID = id := by
  rw [h.plan_eq]
  exact h.packed.assigned id n

theorem Planned.lookup {i : Intent} (hi : i ∈ intents) {n : String} :
    plan.assignments.lookup i.serviceID = some n ↔ (i, n) ∈ k₁ ++ k₂ := by
  rw [h.assigned]
  constructor
  · rintro ⟨j, hj, hid⟩
    obtain ⟨⟨_, _⟩, hi', rfl⟩ := List.mem_map.1 (h.all.mem_iff.2 hi)
    obtain ⟨rfl, -⟩ := h.packed.eq_of_serviceID hj hi' hid
    exact hj
  · intro hmem
    exact ⟨i, hmem, rfl⟩

theorem Planned.mem_placement {x : Intent} {n : String} : (x, n) ∈ plan.placement intents ↔
      ∃ i, (i, n) ∈ k₁ ++ k₂ ∧ x = { i with existingShard := n } := by
  have hintent : ∀ {i}, i ∈ intents ↔ ∃ m, (i, m) ∈ k₁ ++ k₂ := by
    intro i
    rw [← h.all.mem_iff, List.mem_map]
    exact ⟨fun ⟨x, hx, hi⟩ => ⟨x.2, hi ▸ hx⟩, fun ⟨m, hm⟩ => ⟨_, hm, rfl⟩⟩
  simp only [Plan.placement, List.mem_map, ordered_perm.mem_iff]
  constructor
  · rintro ⟨i, hi, heq⟩
    obtain ⟨m, hm⟩ := hintent.1 hi
    have hlookup := (h.lookup hi).2 hm
    simp only [Intent.persisted, hlookup, Option.getD_some] at heq
    cases heq
    exact ⟨i, hm, rfl⟩
  · rintro ⟨i, hi, rfl⟩
    have hlookup := (h.lookup (hintent.2 ⟨n, hi⟩)).2 hi
    exact ⟨i, hintent.2 ⟨n, hi⟩, by simp [Intent.persisted, hlookup]⟩

theorem Planned.placement_fits : Fits reservations (plan.placement intents) := by
  have hfits := h.packed.fits
  constructor
  · intro x y n hx hy
    obtain ⟨i, hi, rfl⟩ := h.mem_placement.1 hx
    obtain ⟨j, hj, rfl⟩ := h.mem_placement.1 hy
    exact hfits.profile i j n hi hj
  · intro x y n hx hy
    obtain ⟨i, hi, rfl⟩ := h.mem_placement.1 hx
    obtain ⟨j, hj, rfl⟩ := h.mem_placement.1 hy
    exact hfits.alone i j n hi hj
  · intro x y n p hx hy
    obtain ⟨i, hi, rfl⟩ := h.mem_placement.1 hx
    obtain ⟨j, hj, rfl⟩ := h.mem_placement.1 hy
    exact hfits.ports i j n p hi hj
  · intro x n p owner hx
    obtain ⟨i, hi, rfl⟩ := h.mem_placement.1 hx
    exact hfits.reserved i n p owner hi

/-- Planning from the assignments of a plan keeps them. -/
theorem Planned.again (rounds' : ℕ) (order' : MapOrder) :
    ∃ plan', planNodeLoadBalancerShardsWithReservations hash rounds' order'
        (intents.map (·.persisted plan)) reservations = some (.ok plan') ∧
      ∀ id, plan'.assignments.lookup id = plan.assignments.lookup id := by
  have hids : (plan.placement intents).ids.Nodup := by
    have hids := (checkIntents_nodup h.checked).1
    simpa [Plan.placement, Placement.ids, Function.comp_def, Intent.persisted] using hids
  have hnamed : ∀ i n, (i, n) ∈ plan.placement intents → n = i.existingShard ∧ n ≠ "" := by
    intro x n hx
    obtain ⟨i, hi, rfl⟩ := h.mem_placement.1 hx
    exact ⟨rfl, h.packed.name_ne_empty hi⟩
  have hbusy : Busy (⟨∅, ∅⟩ : Packing).shards := by simp [Busy]
  have hall := (packed_nil reservations).persist_all hbusy (k := plan.placement intents)
    h.placement_fits hids hnamed
  have hlist : (plan.placement intents).map (·.1) = ordered (intents.map (·.persisted plan)) := by
    rw [ordered_persisted, Plan.placement, List.map_map]
    rfl
  rw [hlist, List.nil_append] at hall
  obtain ⟨hpending, hpacked⟩ := hall
  have hchecked : checkIntents (ordered (intents.map (·.persisted plan))) [] = .ok () := by
    rw [ordered_persisted, checkIntents_persisted]
    exact h.checked
  refine ⟨_, plan_of_run hchecked (by rw [hpending]; rfl), ?_⟩
  intro id
  refine Option.ext fun n => ?_
  rw [h.assigned]
  refine (hpacked.assigned id n).trans ⟨?_, ?_⟩
  · rintro ⟨x, hx, rfl⟩
    obtain ⟨i, hi, rfl⟩ := h.mem_placement.1 hx
    exact ⟨i, hi, rfl⟩
  · rintro ⟨i, hi, rfl⟩
    exact ⟨_, h.mem_placement.2 ⟨i, hi, rfl⟩, rfl⟩

omit h

/-- The first pass is the same with one more intent that has no persisted shard. -/
theorem persist_more {new : Intent} {more : List Intent} (hperm : more.Perm (new :: intents))
    (hnew : new.existingShard = "") (hids : (more.map (·.serviceID)).Nodup) :
    (persist reservations (ordered more) s).1 = (persist reservations (ordered intents) s).1 := by
  have hsorted : ∀ l : List Intent,
      ((ordered l).filter (·.existingShard ≠ "")).Pairwise fun a b => a.serviceID ≤ b.serviceID :=
    fun l => (pairwise_insertionSort_key (k := Intent.serviceID) (fun _ _ => Iff.rfl) l).filter _
  have hfilter : (ordered more).filter (·.existingShard ≠ "") =
      (ordered intents).filter (·.existingShard ≠ "") := by
    refine List.Perm.eq_of_pairwise ?_ (hsorted more) (hsorted intents) ?_
    · intro a b ha hb hab hba
      have ha' := ordered_perm.mem_iff.1 (List.mem_filter.1 ha).1
      have hb' := ordered_perm.mem_iff.1 (List.mem_filter.1 hb).1
      exact List.inj_on_of_nodup_map hids ha' (hperm.mem_iff.2 (.tail _ hb'))
        (le_antisymm hab hba)
    · have hdrop : (new :: intents).filter (·.existingShard ≠ "") =
          intents.filter (·.existingShard ≠ "") :=
        List.filter_cons_of_neg (by simpa using hnew)
      calc ((ordered more).filter (·.existingShard ≠ "")).Perm
            ((new :: intents).filter (·.existingShard ≠ "")) :=
              (ordered_perm.trans hperm).filter _
        _ = intents.filter (·.existingShard ≠ "") := hdrop
        _ |>.Perm ((ordered intents).filter (·.existingShard ≠ "")) :=
              (ordered_perm.filter _).symm
  rw [persist_filter (ordered more), persist_filter (ordered intents), hfilter]

end

/-- Planning is stable.  Planning again from the assignments of a plan gives the
same assignments, and one more intent without a shard takes nobody away from
the shard it keeps. -/
theorem planning_stable (hash : String → String) (rounds : ℕ) (order : MapOrder)
    (intents : List Intent) (reservations : Reservations) (plan : Plan)
    (h : planNodeLoadBalancerShardsWithReservations hash rounds order intents reservations =
      some (.ok plan)) (rounds' : ℕ) (order' : MapOrder) :
    (∃ plan', planNodeLoadBalancerShardsWithReservations hash rounds' order'
        (intents.map (·.persisted plan)) reservations = some (.ok plan') ∧
      ∀ id, plan'.assignments.lookup id = plan.assignments.lookup id) ∧
    ∀ (new : Intent) (more : List Intent) (plan' : Plan), more.Perm (new :: intents) →
      new.existingShard = "" →
      planNodeLoadBalancerShardsWithReservations hash rounds' order' more reservations =
        some (.ok plan') →
      ∀ i ∈ intents, plan.assignments.lookup i.serviceID = some i.existingShard →
        plan'.assignments.lookup i.serviceID = some i.existingShard := by
  obtain ⟨k₁, _, _, hplanned⟩ := plan_planned h
  refine ⟨hplanned.again rounds' order', ?_⟩
  intro _ _ _ hperm hnew hmore i hi hkept
  obtain ⟨_, _, _, hplanned'⟩ := plan_planned hmore
  -- Nobody comes back to the persisted shard in the second pass.
  have hfirst : (i, i.existingShard) ∈ k₁ := by
    rcases List.mem_append.1 ((hplanned.lookup hi).1 hkept) with hmem | hmem
    · exact hmem
    · exact absurd rfl (hplanned.moved i _ hmem)
  have hassigned := (hplanned.first.assigned _ _).2 ⟨i, hfirst, rfl⟩
  rw [← persist_more hperm hnew hplanned'.ids] at hassigned
  obtain ⟨j, hj, hid⟩ := (hplanned'.first.assigned _ _).1 hassigned
  rw [hplanned'.plan_eq, ← hid]
  exact (hplanned'.packed.assigned _ _).2 ⟨j, List.mem_append_left _ hj, rfl⟩

/-- A Service on its shard stays there when another one is created. -/
theorem planning_stable_web : ∃ plan plan',
    planNodeLoadBalancerShardsWithReservations reversedText 1 .listed [webIntent, apiIntent]
      (reservedWeb "ns/web") = some (.ok plan) ∧
    planNodeLoadBalancerShardsWithReservations reversedText 1 .listed
      [mailIntent, webIntent, apiIntent] (reservedWeb "ns/web") = some (.ok plan') ∧
    plan'.assignments.lookup "ns/web" = some "inlb-web" ∧
    ∃ plan'', planNodeLoadBalancerShardsWithReservations reversedText 1 .listed
        ([webIntent, apiIntent].map (·.persisted plan)) (reservedWeb "ns/web") = some (.ok plan'') ∧
      ∀ id, plan''.assignments.lookup id = plan.assignments.lookup id := by
  obtain ⟨plan, hplan, hkept⟩ := exists_plan
    (planNodeLoadBalancerShardsWithReservations reversedText 1 .listed [webIntent, apiIntent]
      (reservedWeb "ns/web"))
    (fun plan => plan.assignments.lookup "ns/web" == some "inlb-web") (by decide +kernel)
  obtain ⟨plan', hplan', -⟩ := exists_plan
    (planNodeLoadBalancerShardsWithReservations reversedText 1 .listed
      [mailIntent, webIntent, apiIntent] (reservedWeb "ns/web"))
    (fun _ => true) (by decide +kernel)
  obtain ⟨hagain, hmore⟩ := planning_stable _ _ _ _ _ plan hplan 1 .listed
  have hweb := hmore mailIntent _ plan' (.refl _) rfl hplan' webIntent (.head _)
    (eq_of_beq hkept)
  exact ⟨plan, plan', hplan, hplan', hweb, hagain⟩

/-- **No conflict on a shard**, whatever is reserved where.  A plan puts every
Service on a shard where its ports are reserved for nobody else, with Services of
the same profile that share no port with it, and a dedicated one alone. -/
theorem plan_conflict_free {hash : String → String} {rounds : ℕ} {order : MapOrder}
    {intents : List Intent} {reservations : Reservations} {plan : Plan}
    (h : planNodeLoadBalancerShardsWithReservations hash rounds order intents reservations =
      some (.ok plan)) :
    ∀ i ∈ intents, ∃ n, plan.assignments.lookup i.serviceID = some n ∧
      (∀ p ∈ i.ports, ∀ owner, reservations.owner n p = some owner → owner = i.serviceID) ∧
      ∀ j ∈ intents, j ≠ i → plan.assignments.lookup j.serviceID = some n →
        i.toProfile = j.toProfile ∧ i.mode ≠ .dedicated ∧ List.Disjoint i.ports j.ports := by
  obtain ⟨_, _, _, hplanned⟩ := plan_planned h
  have hfits := hplanned.packed.fits
  intro i hi
  obtain ⟨⟨_, n⟩, hin, rfl⟩ := List.mem_map.1 (hplanned.all.mem_iff.2 hi)
  refine ⟨n, (hplanned.lookup hi).2 hin, fun p hp owner => hfits.reserved _ n p owner hin hp, ?_⟩
  intro j hj hne hjn
  have hjn := (hplanned.lookup hj).1 hjn
  have hids := fun hid => hne (hplanned.packed.eq_of_serviceID hin hjn hid).1.symm
  exact ⟨hfits.profile _ j n hin hjn, fun hmode => hids (hfits.alone _ j n hin hjn hmode),
    fun p hp hp' => hids (hfits.ports _ j n p hin hjn hp hp')⟩

/-- The port of `web` on its shard is reserved for somebody else. -/
theorem plan_conflict_free_moved : ∃ plan n,
    planNodeLoadBalancerShardsWithReservations reversedText 1 .listed [webIntent]
      (reservedWeb "ns/other") = some (.ok plan) ∧
    plan.assignments.lookup "ns/web" = some n ∧ n ≠ "inlb-web" := by
  obtain ⟨plan, hplan, -⟩ := exists_plan (planNodeLoadBalancerShardsWithReservations reversedText 1
    .listed [webIntent] (reservedWeb "ns/other")) (fun _ => true) (by decide +kernel)
  obtain ⟨n, hn, hfree, -⟩ := plan_conflict_free hplan webIntent (.head _)
  refine ⟨plan, n, hplan, hn, ?_⟩
  rintro rfl
  exact absurd (hfree (tcp 80) (.head _) "ns/other" (by decide +kernel)) (by decide)

end InSpaceKube.NodeLB.Shards
