/-
InSpaceKube/ProviderIDs.lean

The provider ID of a VM, as Karpenter publishes it and as the three parsers of
the repository read it: `providerid.Parse` of Karpenter, `providerid.Parse` of
the cloud provider and `parseProviderID` of the CSI driver.

What is published is made of the location and the UUID of a VM that
`MarkMaterialized` has accepted.  That check asks for hexadecimal digits in
either case and for nothing more, and it takes the location as the fence has
it.  `published_readable_iff` says for which of these VMs the three parsers
agree: Karpenter itself wants a UUID of versions 1 to 5 in lower case, the
cloud provider a location of at most 63 characters.
-/
import InSpaceKube.Csi.AttachVolume
import InSpaceKube.Karpenter.System
import InSpaceKube.NodeLB.Objects
import InSpaceKube.Prog.Uses

namespace InSpaceKube.Karpenter

open Prog

namespace ProviderID

/-! ### Karpenter's provider IDs -/

def scheme : String := "inspace"

structure ID where
  location : String
  vmUUID : String
deriving DecidableEq, Repr

/-- `^[a-z0-9](?:[a-z0-9-]*[a-z0-9])?$`. -/
def locationPattern (s : String) : Bool :=
  let inner c := ('a' ≤ c && c ≤ 'z') || ('0' ≤ c && c ≤ '9')
  s.toList.all (fun c => inner c || c == '-') && s.toList.head?.any inner &&
    s.toList.getLast?.any inner

/-- The groups of a UUID in either case, with `[1-5]` in front of the third and
`[89abAB]` in front of the fourth. -/
def uuidPattern (s : String) : Bool :=
  uuidPatternFold s && s.toList[14]?.any (fun c => '1' ≤ c && c ≤ '5') &&
    s.toList[19]?.any fun c => "89abAB".toList.contains c

def new (location vmUUID : String) : String := scheme ++ "://" ++ location ++ "/" ++ vmUUID

def parse (value : String) : Except Err ID :=
  match Url.parse value.toList with
  | none => .error (.new "parse provider ID")
  | some u =>
    let vmUUID := trimPrefix (String.ofList u.pathText) "/"
    if u.scheme ≠ scheme.toList ∨ locationPattern (String.ofList u.host) = false ∨
        uuidPattern vmUUID = false ∨ '/' ∈ vmUUID.toList ∨ u.rawQuery ≠ [] ∨ u.fragment ≠ [] then
      .error (.new ("invalid provider ID " ++ quote value ++
        ", expected inspace://<location>/<vm-uuid>"))
    else .ok ⟨String.ofList u.host, vmUUID⟩

end ProviderID

/-! ### The characters of a UUID and of a location -/

theorem matchHexGroups_chars {groups : List ℕ} {cs : List Char}
    (h : matchHexGroups groups cs = true) : ∀ c ∈ cs, isLowerHex c = true ∨ c = '-' := by
  induction groups generalizing cs with
  | nil =>
    rw [matchHexGroups, List.isEmpty_iff] at h
    subst h
    exact List.forall_mem_nil _
  | cons n _ ih =>
    rw [matchHexGroups.eq_def, Bool.and_eq_true, Bool.and_eq_true, List.all_eq_true] at h
    obtain ⟨⟨-, hgroup⟩, hrest⟩ := h
    intro c hc
    rw [← List.take_append_drop n cs, List.mem_append] at hc
    rcases hc with hc | hc
    · exact .inl (hgroup c hc)
    · split at hrest
      · rw [List.isEmpty_iff.1 hrest] at hc
        cases hc
      next rest hdrop =>
        rw [hdrop, List.mem_cons] at hc
        exact hc.elim .inr fun hc => ih hrest c hc
      · cases hrest

variable {c : Char} {uuid location : String}

theorem isAlphanum_of_inner
    (h : (('a' ≤ c && c ≤ 'z') || ('0' ≤ c && c ≤ '9')) = true) : c.isAlphanum = true := by
  simp only [Bool.or_eq_true, Bool.and_eq_true, decide_eq_true_eq, Char.le_def] at h
  simp only [Char.isAlphanum, Char.isAlpha, Char.isLower, Char.isDigit, Bool.or_eq_true,
    Bool.and_eq_true, decide_eq_true_eq]
  exact h.elim (fun h => .inl (.inr h)) .inr

/-- The letters and digits of a location have no other lower case. -/
theorem toLower_of_inner
    (h : (('a' ≤ c && c ≤ 'z') || ('0' ≤ c && c ≤ '9')) = true) : c.toLower = c := by
  simp only [Bool.or_eq_true, Bool.and_eq_true, decide_eq_true_eq, Char.le_def,
    UInt32.le_iff_toNat_le] at h
  change (97 ≤ c.toNat ∧ c.toNat ≤ 122) ∨ (48 ≤ c.toNat ∧ c.toNat ≤ 57) at h
  unfold Char.toLower
  refine dif_neg fun hupper => ?_
  simp only [UInt32.le_iff_toNat_le, ge_iff_le] at hupper
  change 65 ≤ c.toNat ∧ c.toNat ≤ 90 at hupper
  omega

theorem unreserved_of_isAlphanum (h : c.isAlphanum = true) : Url.unreserved c = true := by
  simp [Url.unreserved, h]

theorem unreserved_of_isLowerHex (h : isLowerHex c = true) : Url.unreserved c = true := by
  refine unreserved_of_isAlphanum (isAlphanum_of_inner ?_)
  simp only [isLowerHex, Bool.or_eq_true, Bool.and_eq_true, decide_eq_true_eq] at h ⊢
  exact h.symm.imp_left fun h => ⟨h.1, Char.le_trans h.2 (by decide)⟩

theorem unreserved_of_lower (h : Url.unreserved c.toLower = true) : Url.unreserved c = true := by
  by_cases hsame : c.toLower = c
  · rwa [hsame] at h
  · -- only a letter has another lower case
    unfold Char.toLower at hsame
    split at hsame
    next hupper =>
      refine unreserved_of_isAlphanum ?_
      simp only [Char.isAlphanum, Char.isAlpha, Char.isUpper, Bool.or_eq_true, decide_eq_true_eq]
      exact .inl (.inl hupper)
    · exact absurd rfl hsame

theorem uuid_unreserved (h : uuidPatternFold uuid = true) :
    ∀ c ∈ uuid.toList, Url.unreserved c = true := by
  intro c hc
  have hlower : c.toLower ∈ (toLower uuid).toList := by
    rw [toLower, String.toList_ofList]
    exact List.mem_map_of_mem hc
  refine unreserved_of_lower ?_
  rcases matchHexGroups_chars h _ hlower with hhex | hdash
  · exact unreserved_of_isLowerHex hhex
  · rw [hdash]
    rfl

/-- A label is a location for Karpenter too, which sets no limit to its length. -/
theorem locationPattern_of_label (h : isDNS1123Label location = true) :
    ProviderID.locationPattern location = true :=
  (Bool.and_eq_true_iff.1 h).1

theorem location_chars (h : isDNS1123Label location = true) :
    ∀ c ∈ location.toList, Url.unreserved c = true ∧ c.toLower = c := by
  intro c hc
  have hall := (Bool.and_eq_true_iff.1 (Bool.and_eq_true_iff.1 (locationPattern_of_label h)).1).1
  rcases Bool.or_eq_true_iff.1 (List.all_eq_true.1 hall c hc) with hinner | hdash
  · exact ⟨unreserved_of_isAlphanum (isAlphanum_of_inner hinner), toLower_of_inner hinner⟩
  · rw [beq_iff_eq.1 hdash]
    exact ⟨rfl, rfl⟩

/-! ### What the parsers read -/

theorem new_toList (location uuid : String) : (ProviderID.new location uuid).toList =
      "inspace".toList ++ ':' :: ("//".toList ++ location.toList ++ '/' :: uuid.toList) := by
  simp [ProviderID.new, ProviderID.scheme]

/-- What `url.Parse` makes of a published ID. -/
theorem parse_published (hlocation : isDNS1123Label location = true)
    (huuid : uuidPatternFold uuid = true) : Url.parse (ProviderID.new location uuid).toList =
      some { scheme := "inspace".toList, host := location.toList,
             path := Url.bytes ('/' :: uuid.toList), rawPath := '/' :: uuid.toList } := by
  rw [new_toList]
  exact Url.parse_hierarchical rfl (List.all_eq_true.1 (by decide)) (List.all_eq_true.1 (by decide))
    (fun c hc => (location_chars hlocation c hc).1) (uuid_unreserved huuid)

theorem trimPrefix_slash (text : List Char) :
    trimPrefix (String.ofList ('/' :: text)) "/" = String.ofList text := by
  simp [trimPrefix, hasPrefix]

theorem slash_not_mem_of_unreserved {text : List Char}
    (h : ∀ c ∈ text, Url.unreserved c = true) : '/' ∉ text :=
  fun hmem => (Url.plain_of_unreserved (h _ hmem)).ne_slash rfl

/-- The IDs Karpenter accepts, by the parts of their URL. -/
theorem parse_of_url {value : String} {u : Url} {vmUUID : List Char}
    (hu : Url.parse value.toList = some u) (hscheme : u.scheme = ProviderID.scheme.toList)
    (hhost : ProviderID.locationPattern (String.ofList u.host) = true) (hquery : u.rawQuery = [])
    (hfragment : u.fragment = []) (hpath : u.pathText = '/' :: vmUUID) (hslash : '/' ∉ vmUUID)
    (id : ProviderID.ID) : ProviderID.parse value = .ok id ↔
      ProviderID.uuidPattern (String.ofList vmUUID) = true ∧
        id = ⟨String.ofList u.host, String.ofList vmUUID⟩ := by
  rw [ProviderID.parse, hu]
  dsimp only
  rw [hpath, trimPrefix_slash]
  simp only [hscheme, hhost, hquery, hfragment, hslash, ne_eq, not_true_eq_false,
    Bool.true_eq_false, String.toList_ofList, or_false, false_or]
  split
  next hpattern =>
    rw [hpattern]
    exact ⟨nofun, fun h => absurd h.1 Bool.false_ne_true⟩
  next hpattern =>
    rw [Bool.not_eq_false] at hpattern
    rw [Except.ok.injEq, eq_comm]
    exact ⟨fun h => ⟨hpattern, h⟩, And.right⟩

/-- Karpenter reads its own ID if the version and the variant of the UUID are
among those it knows. -/
theorem parse_new (hlocation : isDNS1123Label location = true) (huuid : uuidPatternFold uuid = true)
    (id : ProviderID.ID) : ProviderID.parse (ProviderID.new location uuid) = .ok id ↔
      ProviderID.uuidPattern uuid = true ∧ id = ⟨location, uuid⟩ := by
  have hplain : ∀ c ∈ uuid.toList, Url.Plain c := fun c hc =>
    Url.plain_of_unreserved (uuid_unreserved huuid c hc)
  have hpath : (Url.bytes ('/' :: uuid.toList)).map Url.byteChar = '/' :: uuid.toList := by
    change _ :: (Url.bytes uuid.toList).map Url.byteChar = _
    rw [Url.map_byteChar_bytes hplain]
    rfl
  have hhost : ProviderID.locationPattern (String.ofList location.toList) = true := by
    rw [String.ofList_toList]
    exact locationPattern_of_label hlocation
  have h := parse_of_url (parse_published hlocation huuid) rfl hhost rfl rfl hpath
    (slash_not_mem_of_unreserved (uuid_unreserved huuid)) id
  rwa [String.ofList_toList, String.ofList_toList] at h

/-- The cloud provider reads every UUID, in lower case. -/
theorem cloud_parse_new (hlocation : isDNS1123Label location = true)
    (huuid : uuidPatternFold uuid = true) :
    NodeLB.parseProviderID (ProviderID.new location uuid) = some ⟨location, toLower uuid⟩ := by
  have hhead : hasPrefix (ProviderID.new location uuid) "inspace://" = true := by
    rw [hasPrefix, new_toList, List.isPrefixOf_iff_prefix]
    exact List.prefix_append "inspace://".toList _
  have hparts : ((ProviderID.new location uuid).toList.drop "inspace://".toList.length).splitOn '/' =
      [location.toList, uuid.toList] := by
    have hjoin : location.toList ++ '/' :: uuid.toList =
        ['/'].intercalate [location.toList, uuid.toList] := by simp [List.intercalate]
    rw [new_toList]
    change (location.toList ++ '/' :: uuid.toList).splitOn '/' = _
    rw [hjoin]
    refine List.splitOn_intercalate '/' (List.forall_mem_cons.2 ⟨?_, List.forall_mem_singleton.2 ?_⟩)
      (List.cons_ne_nil _ _)
    · exact slash_not_mem_of_unreserved fun c hc => (location_chars hlocation c hc).1
    · exact slash_not_mem_of_unreserved (uuid_unreserved huuid)
  have hpattern : (NodeLB.locationPattern location && uuidPatternFold (toLower uuid)) = true := by
    rw [Bool.and_eq_true, uuidPatternFold, toLower_toLower]
    exact ⟨hlocation, huuid⟩
  rw [NodeLB.parseProviderID]
  dsimp only
  rw [if_pos hhead, hparts]
  dsimp only
  rw [String.ofList_toList, String.ofList_toList, if_pos hpattern]

theorem cloud_parse_location {value : String} {id : NodeLB.ProviderID}
    (h : NodeLB.parseProviderID value = some id) : isDNS1123Label id.location = true := by
  rw [NodeLB.parseProviderID] at h
  split at h
  · split at h
    · dsimp only at h
      split at h
      next hpattern =>
        rw [← Option.some.inj h]
        exact (Bool.and_eq_true_iff.1 hpattern).1
      · cases h
    · cases h
  · cases h

/-- A text that neither starts nor ends with a space. -/
theorem trimSpace_of_ends {s : String} {first last : Char} {middle : List Char}
    (hs : s.toList = first :: (middle ++ [last])) (hfirst : isSpace first = false)
    (hlast : isSpace last = false) : trimSpace s = s := by
  have hleft : s.toList.dropWhile isSpace = s.toList := by
    rw [hs, List.dropWhile_cons_of_neg (by rw [hfirst]; exact Bool.false_ne_true)]
  have hright : s.toList.reverse.dropWhile isSpace = s.toList.reverse := by
    rw [hs, ← List.cons_append, List.reverse_append, List.reverse_singleton, List.singleton_append,
      List.dropWhile_cons_of_neg (by rw [hlast]; exact Bool.false_ne_true)]
  rw [trimSpace, hleft, hright, List.reverse_reverse, String.ofList_toList]

theorem isSpace_of_unreserved (h : Url.unreserved c = true) : isSpace c = false := by
  refine isSpace_eq_false ?_
  simp only [Url.unreserved, Bool.or_eq_true, beq_iff_eq] at h
  rcases h with (((h | rfl) | rfl) | rfl) | rfl
  · have hrange := Url.isAlphanum_cases h
    omega
  all_goals decide

theorem trimSpace_new (huuid : uuidPatternFold uuid = true) :
    trimSpace (ProviderID.new location uuid) = ProviderID.new location uuid := by
  -- the last character is one of the UUID
  have hne : uuid.toList ≠ [] := by
    intro h
    rw [uuidPatternFold, toLower, h] at huuid
    cases huuid
  have hends : (ProviderID.new location uuid).toList =
      'i' :: ("nspace://".toList ++ location.toList ++ '/' :: uuid.toList.dropLast ++
        [uuid.toList.getLast hne]) := by
    rw [new_toList]
    conv_lhs => rw [← List.dropLast_append_getLast hne]
    simp
  exact trimSpace_of_ends hends (by decide)
    (isSpace_of_unreserved (uuid_unreserved huuid _ (List.getLast_mem hne)))

theorem map_toLower_location (hlocation : isDNS1123Label location = true) :
    location.toList.map Char.toLower = location.toList :=
  (List.map_congr_left fun c hc => (location_chars hlocation c hc).2).trans (List.map_id _)

theorem toLower_new (hlocation : isDNS1123Label location = true) :
    toLower (ProviderID.new location uuid) = ProviderID.new location (toLower uuid) := by
  refine String.toList_injective ?_
  rw [toLower, String.toList_ofList, new_toList, new_toList, toLower, String.toList_ofList]
  simp [map_toLower_location hlocation]

/-- An ID the CSI driver accepts, by the parts of its URL. -/
theorem csi_parse_of_url {value : String} {u : Url} {vmUUID : List Char}
    (hu : Url.parse (toLower (trimSpace value)).toList = some u)
    (hscheme : u.scheme = "inspace".toList) (hhost : u.host ≠ []) (huser : u.user = false)
    (hquery : u.rawQuery = []) (hfragment : u.fragment = []) (hpath : u.escapedPath = '/' :: vmUUID)
    (hslash : '/' ∉ (toLower (String.ofList vmUUID)).toList)
    (huuid : uuidPatternFold (String.ofList vmUUID) = true) : Csi.parseProviderID value =
      .ok (toLower (String.ofList u.host), toLower (String.ofList vmUUID)) := by
  have hurl : ¬ (u.scheme ≠ "inspace".toList ∨ u.host = [] ∨ u.user = true ∨ u.rawQuery ≠ [] ∨
      u.fragment ≠ []) := by
    rw [huser]
    simp only [hscheme, hhost, hquery, hfragment, ne_eq, not_true_eq_false, Bool.false_eq_true,
      or_self, not_false_eq_true]
  delta Csi.parseProviderID
  dsimp only
  rw [hu]
  dsimp only
  rw [if_neg hurl, hpath, trimPrefix_slash, if_neg]
  rw [not_or, Bool.not_eq_false]
  exact ⟨hslash, huuid⟩

/-- The CSI driver reads every UUID, in lower case. -/
theorem csi_parse_new (hlocation : isDNS1123Label location = true)
    (huuid : uuidPatternFold uuid = true) :
    Csi.parseProviderID (ProviderID.new location uuid) = .ok (location, toLower uuid) := by
  have hlower : uuidPatternFold (toLower uuid) = true := by
    rw [uuidPatternFold, toLower_toLower]
    exact huuid
  have hunreserved := uuid_unreserved hlower
  have hencoded : ('/' :: (toLower uuid).toList).all Url.encodedChar = true := by
    rw [List.all_cons, Bool.and_eq_true, List.all_eq_true]
    refine ⟨by decide, fun c hc => ?_⟩
    simp [Url.encodedChar, Url.pathChar, hunreserved c hc]
  have hhost : toLower location = location := by
    refine String.toList_injective ?_
    rw [toLower, String.toList_ofList]
    exact map_toLower_location hlocation
  have hnonempty : location.toList ≠ [] := by
    intro h
    rw [isDNS1123Label, h] at hlocation
    cases hlocation
  have htext : toLower (trimSpace (ProviderID.new location uuid)) =
      ProviderID.new location (toLower uuid) := by
    rw [trimSpace_new huuid, toLower_new hlocation]
  have hparse := parse_published hlocation hlower
  rw [← htext] at hparse
  have h := csi_parse_of_url hparse rfl hnonempty rfl rfl rfl (if_pos hencoded)
  rw [String.ofList_toList, String.ofList_toList, toLower_toLower, hhost] at h
  exact h (slash_not_mem_of_unreserved hunreserved) hlower

/-! ### The VMs that are published -/

/-- `MarkMaterialized` can succeed for this VM: some replies to its requests
let it return the NodeClaim. -/
def Materializes (s : Store) (claim : NodeClaim) (binding : CreateFenceBinding) (token : String)
    (vm : VM) : Prop :=
  ∃ current, (s.markMaterialized claim binding token (some vm)).run.Yields (.ok current)

theorem validateMaterializedVM_uuid {record : CreateFenceRecord} {vm vm' : VM}
    (h : validateMaterializedVM record (some vm) = .ok vm') : uuidPatternFold vm.uuid = true := by
  rw [validateMaterializedVM] at h
  split at h
  · cases h
  next hidentity => exact Bool.of_not_eq_false (not_or.1 hidentity).1

/-- A result of the loop comes after a round whose plan was made. -/
theorem casLoop_planned {P : Prop} (s : Store) (claim : NodeClaim) (binding : CreateFenceBinding)
    (action lost notConverged : String) {plan : NodeClaim → Code (Option CreateFenceRecord)}
    (verdict : CreateFenceRecord → Verdict) (attempts : ℕ) (lastErr : Option Err)
    (hplan : ∀ current, Contract.free.UsesE (plan current) fun _ => P) : Contract.free.UsesE
      (s.casLoop claim binding action lost notConverged plan verdict attempts lastErr)
      fun _ => P := by
  induction attempts generalizing lastErr with
  | zero => exact Contract.UsesE.throw
  | succ _ ih =>
    refine .bind .any fun current _ => .bind (hplan current) fun planned hP => ?_
    cases planned with
    | none => exact .pure hP
    | some =>
      refine .bind .any fun writeErr _ => .bind .any fun r _ => ?_
      cases r with
      | error => exact ih _
      | ok =>
        dsimp only
        split
        · exact .throw
        split
        · exact ih _
        split
        · exact .pure hP
        · exact .throw
        · exact ih _

theorem materializePlan_uuid (s : Store) (claim : NodeClaim) (binding : CreateFenceBinding)
    (token : String) (vm : VM) (current : NodeClaim) :
    Contract.free.UsesE (s.materializePlan claim binding token (some vm) current)
      fun _ => uuidPatternFold vm.uuid = true := by
  refine .bind .any fun _ _ => .bind .any fun record _ => .bind .any fun _ _ => ?_
  refine .bind (.check fun vm' h => validateMaterializedVM_uuid h) fun vm' huuid => ?_
  refine .mono .any fun _ _ => huuid

theorem materializes_uuid {s : Store} {claim : NodeClaim} {binding : CreateFenceBinding}
    {token : String} {vm : VM} (h : Materializes s claim binding token vm) :
    uuidPatternFold vm.uuid = true := by
  obtain ⟨_, h⟩ := h
  have huses : Contract.free.UsesE (s.markMaterialized claim binding token (some vm))
      fun _ => uuidPatternFold vm.uuid = true :=
    casLoop_planned s claim binding _ _ _ _ 3 none (materializePlan_uuid s claim binding token vm)
  exact huses.of_yields h

/-- For a VM that was accepted, each parser reads the published ID as its
location and its UUID in lower case exactly if the location is a label and the
UUID is in lower case, of versions 1 to 5 and of the usual variant. -/
theorem published_readable_iff {s : Store} {claim : NodeClaim} {binding : CreateFenceBinding}
    {token : String} {vm : VM} (h : Materializes s claim binding token vm) :
    (ProviderID.parse (ProviderID.new vm.location vm.uuid) = .ok ⟨vm.location, toLower vm.uuid⟩ ∧
      NodeLB.parseProviderID (ProviderID.new vm.location vm.uuid) =
        some ⟨vm.location, toLower vm.uuid⟩ ∧
      Csi.parseProviderID (ProviderID.new vm.location vm.uuid) =
        .ok (vm.location, toLower vm.uuid)) ↔
    isDNS1123Label vm.location = true ∧ toLower vm.uuid = vm.uuid ∧
      ProviderID.uuidPattern vm.uuid = true := by
  have huuid := materializes_uuid h
  constructor
  · rintro ⟨hkarpenter, hcloud, -⟩
    have hlocation := cloud_parse_location hcloud
    obtain ⟨hpattern, hid⟩ := (parse_new hlocation huuid _).1 hkarpenter
    exact ⟨hlocation, (ProviderID.ID.mk.inj hid).2, hpattern⟩
  · rintro ⟨hlocation, hlower, hpattern⟩
    refine ⟨(parse_new hlocation huuid _).2 ⟨hpattern, ?_⟩, cloud_parse_new hlocation huuid,
      csi_parse_new hlocation huuid⟩
    rw [hlower]

/-! ### Two VMs -/

/-- The fence of the worker once a VM of this UUID has been launched for it and
its base firewall has been seen. -/
def launchedRecord (uuid : String) : CreateFenceRecord :=
  { issuedWorkerRecord with
    createdVMUUID := uuid, launchObservedAt := some 3,
    baseFirewallAssignment := some
      { vmUUID := uuid, firewallUUID := workerCleanup.firewallUUID, phase := .observed,
        issueID := "fedcba9876543210fedcba9876543210", intentAt := 1, issuedAt := some 2,
        observedAt := some 4 } }

/-- The receipt of its floating IP. -/
def updateReceipt (uuid : String) : FloatingIPUpdateRecord :=
  { schema := floatingIPUpdateFenceSchema, binding := workerBinding, attemptToken := "token",
    vmUUID := uuid, address := "203.0.113.7", name := "worker-ip", billingAccountID := 1,
    phase := .observed, issueID := "0123456789abcdef0123456789abcdef", issuedAt := 4,
    observedAt := some 5 }

def launchedWorker (uuid : String) : NodeClaim :=
  { fencedWorker.withRecord (launchedRecord uuid) with
    floatingIPUpdate := .record (updateReceipt uuid) }

def launchedVM (uuid : String) : VM :=
  { uuid := uuid, name := "worker-vm", clusterName := "prod", nodeClaimName := "worker",
    location := "bkk01", billingAccountID := 1, floatingIPName := "worker-ip",
    publicIPv4 := "203.0.113.7" }

/-- Requests succeed. -/
def serve : (op : Op) → NodeClaim → Reply op × NodeClaim
  | .get _, o => (.ok o, o)
  | .update copy, _ => (none, copy)
  | .now, o => (6, o)
  | .nonce, o => (.error (.new "no nonce"), o)

/-- A digest for the runs; no fence of the first schema occurs in them. -/
def plainStore : Store := ⟨fun _ => ""⟩

def materializes (uuid : String) : Bool :=
  match replay serve 4 (launchedWorker uuid)
    (plainStore.markMaterialized fencedWorker workerBinding "token" (some (launchedVM uuid))).run with
  | some (.ok _) => true
  | _ => false

theorem materializes_of_run (h : materializes uuid = true) :
    Materializes plainStore fencedWorker workerBinding "token" (launchedVM uuid) := by
  unfold materializes at h
  split at h
  next current hrun => exact ⟨current, yields_of_replay hrun⟩
  · cases h

def version4 : String := "0a1b2c3d-0000-4000-8000-000000000001"

def version7 : String := "0a1b2c3d-0000-7000-8000-000000000001"

/-- A UUID of version 4 is read as it was published. -/
theorem published_readable_version4 :
    ProviderID.parse (ProviderID.new "bkk01" version4) = .ok ⟨"bkk01", toLower version4⟩ ∧
      NodeLB.parseProviderID (ProviderID.new "bkk01" version4) = some ⟨"bkk01", toLower version4⟩ ∧
      Csi.parseProviderID (ProviderID.new "bkk01" version4) = .ok ("bkk01", toLower version4) := by
  have hrun : materializes version4 = true := by decide +kernel
  exact (published_readable_iff (materializes_of_run hrun)).2 (by decide +kernel)

/-- A UUID of version 7 is accepted and published; Karpenter does not read its
own ID. -/
theorem published_unreadable_version7 :
    Materializes plainStore fencedWorker workerBinding "token" (launchedVM version7) ∧
      ProviderID.parse (ProviderID.new "bkk01" version7) =
        .error (.new ("invalid provider ID " ++ quote (ProviderID.new "bkk01" version7) ++
          ", expected inspace://<location>/<vm-uuid>")) :=
  ⟨materializes_of_run (by decide +kernel), by decide +kernel⟩

end InSpaceKube.Karpenter
