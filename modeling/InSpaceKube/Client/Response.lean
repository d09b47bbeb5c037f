/-
InSpaceKube/Client/Response.lean

How the API client reads the body of a successful response
(`modules/client/client.go`, `doBody` from the status on) and the response
types of `modules/client/types.go`.

Before a body reaches the decoder, `validateJSONNoDuplicateObjectKeys` refuses
one in which an object has a key twice, so that a later member cannot replace
an identity or a relation an earlier one gave.  It compares keys exactly,
while the decoder matches a field up to case; only `FloatingIP`, which has a
decoding method of its own, refuses the other spellings of its fields.
`decoded_value_order_free` says when a reordering leaves the decoded value
alone, `listed_uuid_of_last_member` what happens otherwise.
-/
import InSpaceKube.Json

namespace InSpaceKube.Client

open Json

/-! ### The success contract -/

inductive SuccessBodyContract
  | successJSON
  | successEmpty
  | successEmptyOrJSON
  | successExactEmpty
  | successJSONTrue
deriving DecidableEq

/-- What the route of a request allows; the lookup by method and path does not
see the response. -/
structure EndpointContract where
  statuses : List ℕ
  body : SuccessBodyContract

structure APIError where
  statusCode : ℕ
  method : String
  path : String
  message : String
  responseBodyMalformed : Bool

/-- A failed call: the response was refused, or what it holds was. -/
inductive CallError
  | api (e : APIError)
  | other (text : String)

structure Request where
  method : String
  path : String
  contract : Option EndpointContract

/-- The body of a response: blank, not one complete JSON value, or one. -/
inductive Body
  | blank
  | invalid (reason : String)
  | value (j : Json)

def refuse {α : Type} (req : Request) (status : ℕ) (malformed : Bool) (message : String) :
    Except CallError α :=
  .error (.api ⟨status, req.method, req.path, message, malformed⟩)

/-- `validateSuccessResponse`, for a call that decodes the body. -/
def validateSuccessResponse (req : Request) (status : ℕ) : Except CallError Unit :=
  match req.contract with
  | none => refuse req status false "successful response has no registered SDK endpoint contract"
  | some contract =>
    if status ∉ contract.statuses then
      refuse req status false ("unexpected successful HTTP status " ++ toString status ++
        " for this endpoint; allowed statuses are [" ++
        " ".intercalate (contract.statuses.map toString) ++ "]")
    else if contract.body ≠ .successJSON then
      refuse req status false "internal response contract mismatch: JSON output=true"
    else .ok ()

/-! ### The duplicate-key scanner -/

mutual

def validateJSONValue : Json → Except String Unit
  | .obj ms => validateMembers [] ms
  | .arr xs => validateItems xs
  | _ => .ok ()

def validateItems : List Json → Except String Unit
  | [] => .ok ()
  | x :: xs => do
    validateJSONValue x
    validateItems xs

/-- The loop over the members; `seen` are the keys before this one. -/
def validateMembers (seen : List String) : List (String × Json) → Except String Unit
  | [] => .ok ()
  | m :: ms => do
    failIf (m.1 ∈ seen) ("duplicate JSON object key " ++ quote m.1)
    validateMember m
    validateMembers (m.1 :: seen) ms

def validateMember : String × Json → Except String Unit
  | (_, x) => validateJSONValue x

end

mutual

/-- The scanner accepts the values in which no object has a key twice. -/
theorem validateJSONValue_iff (t : Option Ty) : ∀ j, validateJSONValue j = .ok () ↔ UniqueKeys t j
  | .null => ⟨fun _ _ _ hat => (nomatch hat), fun _ => rfl⟩
  | .bool _ => ⟨fun _ _ _ hat => (nomatch hat), fun _ => rfl⟩
  | .num .. => ⟨fun _ _ _ hat => (nomatch hat), fun _ => rfl⟩
  | .str _ => ⟨fun _ _ _ hat => (nomatch hat), fun _ => rfl⟩
  | .arr xs => by rw [validateJSONValue, validateItems_iff t xs, uniqueKeys_arr_iff]
  | .obj ms => by simp [validateJSONValue, validateMembers_iff t [] ms, uniqueKeys_obj_iff]

theorem validateItems_iff (t : Option Ty) :
    ∀ xs, validateItems xs = .ok () ↔ ∀ x ∈ xs, UniqueKeys (itemTy t) x
  | [] => by simp [validateItems]
  | x :: xs => by
    simp [validateItems, except_bind_iff, validateJSONValue_iff (itemTy t) x,
      validateItems_iff t xs]

theorem validateMembers_iff (t : Option Ty) :
    ∀ seen ms, validateMembers seen ms = .ok () ↔
      ((ms.map Prod.fst).Nodup ∧ ∀ m ∈ ms, m.1 ∉ seen) ∧ ∀ m ∈ ms, UniqueKeys (memberTy m.1 t) m.2
  | _, [] => by simp [validateMembers]
  | seen, m :: ms => by
    have htail : (∀ m' ∈ ms, m'.1 ∉ m.1 :: seen) ↔
        m.1 ∉ ms.map Prod.fst ∧ ∀ m' ∈ ms, m'.1 ∉ seen := by
      simp only [List.mem_cons, not_or, List.mem_map, not_exists, not_and]
      exact ⟨fun h => ⟨fun m' hm' => (h m' hm').1, fun m' hm' => (h m' hm').2⟩,
        fun h m' hm' => ⟨h.1 m' hm', h.2 m' hm'⟩⟩
    simp only [validateMembers, except_bind_iff, failIf_iff, validateMember_iff t m,
      validateMembers_iff t (m.1 :: seen) ms, htail, List.map_cons, List.nodup_cons,
      List.forall_mem_cons, exists_const]
    tauto

theorem validateMember_iff (t : Option Ty) :
    ∀ m, validateMember m = .ok () ↔ UniqueKeys (memberTy m.1 t) m.2
  | (key, x) => by rw [validateMember, validateJSONValue_iff (memberTy key t) x]

end

def isEmptyObject : Json → Bool
  | .obj [] => true
  | _ => false

/-- `newMalformedResponseAPIError`. -/
def malformed (req : Request) (status : ℕ) (message : String) : CallError :=
  .api ⟨status, req.method, req.path, message, true⟩

/-- `doBody` on a response with a 2xx status, decoding into a variable of the
type `out`. -/
def readSuccess (req : Request) (status : ℕ) (out : Ty) (body : Body) : Except CallError Val := do
  validateSuccessResponse req status
  match body with
  | .blank => .error (malformed req status "expected a non-empty JSON value")
  -- `validateJSONNoDuplicateObjectKeys` wants one complete value and scans it
  | .invalid reason => .error (malformed req status reason)
  | .value j => do
    failIf j.isNull (malformed req status "expected a non-null JSON value")
    (validateJSONValue j).mapError (malformed req status)
    failIf (isEmptyObject j) (malformed req status "expected a non-empty JSON object")
    (decode out out.zero j).mapError (malformed req status)

/-- What an accepted value went through. -/
theorem readSuccess_iff {req : Request} {status : ℕ} {out : Ty} {j : Json} {v : Val} :
    readSuccess req status out (.value j) = .ok v ↔
      validateSuccessResponse req status = .ok () ∧ ¬ j.isNull ∧ validateJSONValue j = .ok () ∧
        ¬ isEmptyObject j ∧ decode out out.zero j = .ok v := by
  simp only [readSuccess, except_bind_iff, failIf_iff, mapError_iff]
  constructor
  · rintro ⟨⟨⟩, hok, ⟨⟩, hnull, ⟨⟩, hscan, ⟨⟩, hempty, h⟩
    exact ⟨hok, hnull, hscan, hempty, h⟩
  · rintro ⟨hok, hnull, hscan, hempty, h⟩
    exact ⟨(), hok, (), hnull, (), hscan, (), hempty, h⟩

/-! ### The response types -/

def text : Ty := .scalar .string
def int : Ty := .scalar (.int 64)
def int32 : Ty := .scalar (.int 32)
def flag : Ty := .scalar .bool

def VMStorage : Ty := .record
  [("uuid", text), ("id", int), ("user_id", int), ("name", text), ("pool", text), ("type", text),
    ("size", int), ("primary", flag), ("shared", flag), ("created_at", text),
    ("updated_at", text)] none

def VM : Ty := .record
  [("uuid", text), ("id", int), ("user_id", int), ("name", text), ("description", text),
    ("hostname", text), ("status", text), ("vcpu", int), ("memory", int), ("os_name", text),
    ("os_version", text), ("username", text), ("mac", text), ("license_type", text),
    ("private_ipv4", text), ("public_ipv4", text), ("public_ipv6", text),
    ("network_uuid", text), ("billing_account", int), ("designated_pool_name", text),
    ("designated_pool_uuid", text), ("backup", flag), ("created_at", text),
    ("updated_at", text), ("tags", .raw), ("storage", .slice VMStorage)] none

def DiskSnapshot : Ty := .record
  [("uuid", text), ("disk_uuid", text), ("display_name", text), ("size_gb", int),
    ("created_at", text)] none

def Disk : Ty := .record
  [("uuid", text), ("display_name", text), ("status", text), ("size_gb", int),
    ("billing_account_id", int), ("storage_pool_uuid", text), ("source_image_type", text),
    ("source_image", text), ("read_only_bootable", flag), ("created_at", text),
    ("updated_at", text), ("snapshots", .slice DiskSnapshot)] none

def LoadBalancerRule : Ty := .record
  [("uuid", text), ("protocol", text), ("source_port", int32), ("target_port", int32),
    ("created_at", text)] none

def LoadBalancerTarget : Ty := .record
  [("target_uuid", text), ("target_type", text), ("target_ip_address", text),
    ("created_at", text)] none

def LoadBalancer : Ty := .record
  [("uuid", text), ("display_name", text), ("network_uuid", text), ("billing_account_id", int),
    ("private_address", text), ("public_address", text), ("public_ipv4", text),
    ("is_deleted", flag), ("created_at", text), ("updated_at", text),
    ("forwarding_rules", .slice LoadBalancerRule), ("targets", .slice LoadBalancerTarget)] none

def FirewallRule : Ty := .record
  [("uuid", text), ("protocol", text), ("direction", text), ("port_start", .pointer (.int 32)),
    ("port_end", .pointer (.int 32)), ("endpoint_spec_type", text),
    ("endpoint_spec", .slice text)] none

def FirewallResource : Ty := .record [("resource_type", text), ("resource_uuid", text)] none

def Firewall : Ty := .record
  [("uuid", text), ("name", text), ("display_name", text), ("description", text),
    ("billing_account_id", int), ("rules", .slice FirewallRule),
    ("resources_assigned", .slice FirewallResource), ("created_at", text)] none

/-! ### `FloatingIP` and its `UnmarshalJSON` -/

def floatingIPWithoutMethods : List (String × Ty) :=
  [("uuid", text), ("id", int), ("address", text), ("user_id", int), ("billing_account_id", int),
    ("type", text), ("name", text), ("enabled", flag), ("is_deleted", flag), ("is_ipv6", flag),
    ("is_virtual", flag), ("assigned_to", text), ("assigned_to_resource_type", text),
    ("assigned_to_private_ip", text), ("created_at", text), ("updated_at", text),
    ("unassigned_at", text)]

def canonicalFloatingIPResponseFields : List String :=
  ["uuid", "id", "address", "user_id", "billing_account_id", "type", "name", "enabled",
    "is_deleted", "is_ipv6", "is_virtual", "assigned_to", "assigned_to_resource_type",
    "assigned_to_private_ip", "created_at", "updated_at", "unassigned_at"]

def requiredFloatingIPFields : List String :=
  ["uuid", "id", "address", "user_id", "billing_account_id", "type", "name", "enabled",
    "is_deleted", "is_ipv6", "created_at", "updated_at"]

/-- The canonical field a key is another spelling of. -/
def misspelt (canonical : List String) (key : String) : Option String :=
  canonical.find? fun c => key ≠ c ∧ foldName key = foldName c

/-- `fields[key]` of the map the members are decoded into once more: whether
the value is `null`. -/
def fieldsMap (ms : List (String × Json)) (key : String) : Option Bool :=
  (ms.map shape).reverse.lookup key

/-- The part of `UnmarshalJSON` after the struct was decoded. -/
def unmarshalFloatingIP (ms : List (String × Json)) (decoded : Val) : Except String Val :=
  match ms.findSome? fun m =>
      (misspelt canonicalFloatingIPResponseFields m.1).map fun c => (m.1, c) with
  | some (key, canonical) =>
    .error ("inspace: non-canonical floating IP response field " ++ quote key ++ "; want " ++
      quote canonical)
  | none =>
    .ok (.record (decoded.fields ++
      [("assignedToPresent", .bool (fieldsMap ms "assigned_to").isSome),
        ("assignedTypePresent", .bool (fieldsMap ms "assigned_to_resource_type").isSome),
        ("assignedPrivatePresent", .bool (fieldsMap ms "assigned_to_private_ip").isSome),
        ("isIPv6Present", .bool (fieldsMap ms "is_ipv6").isSome),
        ("isVirtualPresent", .bool (fieldsMap ms "is_virtual").isSome),
        ("stableIdentityPresent",
          .bool (requiredFloatingIPFields.all fun key => fieldsMap ms key = some false))]))

/-- What the method accepts has no other spelling of a field. -/
theorem unmarshalFloatingIP_canonical {ms : List (String × Json)} {v w : Val}
    (h : unmarshalFloatingIP ms v = .ok w) :
    ∀ m ∈ ms, misspelt canonicalFloatingIPResponseFields m.1 = none := by
  unfold unmarshalFloatingIP at h
  split at h
  · cases h
  · next hnone =>
      intro m hm
      simpa using List.findSome?_eq_none_iff.1 hnone m hm

theorem unmarshalFloatingIP_perm {ms ms' : List (String × Json)} {v w : Val}
    (hkeys : (ms.map Prod.fst).Nodup) (hperm : (ms.map shape).Perm (ms'.map shape))
    (h : unmarshalFloatingIP ms v = .ok w) : unmarshalFloatingIP ms' v = .ok w := by
  have hcanonical := unmarshalFloatingIP_canonical h
  have hmap : fieldsMap ms' = fieldsMap ms := by
    funext key
    refine (lookup_eq_of_perm ((List.reverse_perm _).trans (hperm.trans
      (List.reverse_perm _).symm)) ?_ key).symm
    rw [List.map_reverse, List.nodup_reverse, List.map_map]
    exact hkeys
  have hnone : (ms'.findSome? fun m =>
      (misspelt canonicalFloatingIPResponseFields m.1).map fun c => (m.1, c)) = none := by
    refine List.findSome?_eq_none_iff.2 fun m' hm' => ?_
    obtain ⟨m, hm, heq⟩ := List.mem_map.1 (hperm.mem_iff.2 (List.mem_map_of_mem hm'))
    have hkey : m'.1 = m.1 := (congrArg Prod.fst heq).symm
    rw [hkey, hcanonical m hm]
    rfl
  unfold unmarshalFloatingIP at h ⊢
  rw [hnone, hmap]
  split at h
  · cases h
  · exact h

def FloatingIP : Ty :=
  .record floatingIPWithoutMethods (some ⟨unmarshalFloatingIP, unmarshalFloatingIP_perm⟩)

/-! ### What the order of the members decides -/

inductive Resource
  | vm
  | disk
  | firewall
  | loadBalancer
  | floatingIP

def Resource.ty : Resource → Ty
  | .vm => VM
  | .disk => Disk
  | .firewall => Firewall
  | .loadBalancer => LoadBalancer
  | .floatingIP => FloatingIP

/-- What a call decodes: one resource, or a list of them. -/
inductive Out
  | one (r : Resource)
  | list (r : Resource)

def Out.resource : Out → Resource
  | .one r => r
  | .list r => r

def Out.ty : Out → Ty
  | .one r => r.ty
  | .list r => .slice r.ty

theorem isEmptyObject_moved {t : Option Ty} {j j' : Json} (h : Moved t j j')
    (hj : ¬ isEmptyObject j) : ¬ isEmptyObject j' := by
  cases h with
  | @members _ _ ms' _ hperm =>
    cases ms' with
    | nil =>
      rw [hperm.eq_nil] at hj
      exact hj
    | cons => simp [isEmptyObject]
  | item => simp [isEmptyObject]
  | member ms => cases ms <;> simp [isEmptyObject]

/-- The fields of a floating IP have no objects inside. -/
theorem at_floatingIP {j : Json} {fields : List (String × Ty)} {m : Option Method}
    {ms : List (String × Json)} (h : At (some FloatingIP) j (some (.record fields m)) ms) :
    fields = floatingIPWithoutMethods ∧ j = .obj ms := by
  cases h with
  | here => exact ⟨rfl, rfl⟩
  | item _ hat => exact absurd hat not_at_none
  | @member _ _ key _ _ _ _ hat =>
    have hscalar : ∀ f ∈ floatingIPWithoutMethods, ∃ s, f.2 = .scalar s := by
      simp [floatingIPWithoutMethods, text, int, flag]
    rw [FloatingIP, memberTy] at hat
    cases hf : fieldFor floatingIPWithoutMethods key with
    | none =>
      rw [hf] at hat
      exact absurd hat not_at_none
    | some f =>
      obtain ⟨s, hs⟩ := hscalar f (fieldFor_mem hf).1
      rw [hf, Option.map_some, hs] at hat
      exact absurd hat not_at_scalar

/-- The method of `FloatingIP` lets no two members through that go to one
field. -/
theorem apart_of_unmarshalFloatingIP {ms : List (String × Json)} {v w : Val}
    (hkeys : (ms.map Prod.fst).Nodup) (h : unmarshalFloatingIP ms v = .ok w) :
    Apart floatingIPWithoutMethods ms := by
  have hcanonical := unmarshalFloatingIP_canonical h
  -- each member goes to the field of its own key, so the fields are some of the keys
  have hown : ∀ m ∈ ms, ∀ f, fieldFor floatingIPWithoutMethods m.1 = some f → f.1 = m.1 := by
    intro m hm f hf
    obtain ⟨hmem, hfold⟩ := fieldFor_mem hf
    have hname : f.1 ∈ canonicalFloatingIPResponseFields := by
      have hnames : floatingIPWithoutMethods.map Prod.fst = canonicalFloatingIPResponseFields := rfl
      rw [← hnames]
      exact List.mem_map_of_mem hmem
    have hno := List.find?_eq_none.1 (hcanonical m hm) f.1 hname
    by_contra hne
    exact hno (decide_eq_true ⟨fun heq => hne heq.symm, hfold.symm⟩)
  have hsub : (ms.filterMap fun m => (fieldFor floatingIPWithoutMethods m.1).map Prod.fst).Sublist
      (ms.map Prod.fst) := by
    clear hkeys h hcanonical
    induction ms with
    | nil => exact .slnil
    | cons m _ ih =>
      have ih := ih fun m' hm' => hown m' (.tail _ hm')
      rw [List.filterMap_cons, List.map_cons]
      cases hf : fieldFor floatingIPWithoutMethods m.1 with
      | none => exact ih.cons _
      | some f =>
        rw [Option.map_some, hown m (.head _) f hf]
        exact ih.cons_cons _
  exact hkeys.sublist hsub

theorem unambiguous_floatingIP {j : Json} {old v : Val} (hkeys : UniqueKeys (some FloatingIP) j)
    (h : decode FloatingIP old j = .ok v) : Unambiguous (some FloatingIP) j := by
  intro _ _ _ hat
  obtain ⟨rfl, rfl⟩ := at_floatingIP hat
  rw [FloatingIP, decode, except_bind_iff] at h
  obtain ⟨r, -, h⟩ := h
  exact apart_of_unmarshalFloatingIP (hkeys _ _ (.here _ _)) h

theorem unambiguous_floatingIPs {j : Json} {old v : Val}
    (hkeys : UniqueKeys (some (.slice FloatingIP)) j)
    (h : decode (.slice FloatingIP) old j = .ok v) : Unambiguous (some (.slice FloatingIP)) j := by
  intro fields m ms hat
  cases hat with
  | member _ hat => exact absurd hat not_at_none
  | item hx hat =>
    rw [decode, except_bind_iff] at h
    obtain ⟨_, hvs, -⟩ := h
    obtain ⟨_, _, hv'⟩ := decode_of_mem hvs hx
    exact unambiguous_floatingIP (hkeys.item hx) hv' fields m ms hat

/-- `GET /v1/{location}/user-resource/vm/list`, in the location `bkk`. -/
def vmList : Request :=
  ⟨"GET", "/v1/bkk/user-resource/vm/list", some ⟨[200], .successJSON⟩⟩

def textOf (v : Val) (name : String) : String :=
  match v.get name with
  | some (.str s) => s
  | _ => ""

def validateUUID (kind value : String) : Except String Unit :=
  failIf (¬ uuidPatternFold value) ("inspace: invalid " ++ kind ++ " UUID " ++ quote value)

def validatedUUIDListIdentity (kind value : String) : Except String String := do
  validateUUID kind value
  return toLower value

/-- The loop of `validatedListResponse`; `seen` has the identities of the rows
before this one and their places. -/
def validatedRows (context : String) (identity : Val → Except String String)
    (seen : List (String × ℕ)) : List Val → Except CallError Unit
  | [] => .ok ()
  | row :: rows => do
    let key ← (identity row).mapError fun reason => .other (context ++
      "invalid list element " ++ toString seen.length ++ " identity: " ++ reason)
    failIf (key = "") (.other (context ++ "invalid list element " ++ toString seen.length ++
      " identity: empty canonical key"))
    match seen.lookup key with
    | some previous => .error (.other (context ++ "duplicate canonical identity " ++ quote key ++
        " at list elements " ++ toString previous ++ " and " ++ toString seen.length))
    | none => validatedRows context identity ((key, seen.length) :: seen) rows

def validatedListResponse (req : Request) (identity : Val → Except String String) (result : Val) :
    Except CallError (List Val) := do
  let context := "inspace: decode " ++ req.method ++ " " ++ req.path ++ " response: "
  match result with
  | .list rows _ =>
    validatedRows context identity [] rows
    return rows
  | _ => .error (.other (context ++ "expected a JSON array, got an empty or null body"))

/-- `ListVMs`, once the response is there. -/
def listVMs (req : Request) (status : ℕ) (body : Body) : Except CallError (List Val) := do
  let result ← readSuccess req status (.slice VM) body
  validatedListResponse req (fun vm => do
    failIf (trimSpace (textOf vm "name") = "") "inspace: VM list row has an empty name"
    failIf (trimSpace (textOf vm "status") = "") "inspace: VM list row has an empty status"
    validatedUUIDListIdentity "VM" (textOf vm "uuid")) result

end InSpaceKube.Client
