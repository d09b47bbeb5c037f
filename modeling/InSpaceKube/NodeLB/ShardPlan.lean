/-
InSpaceKube/NodeLB/ShardPlan.lean

The planner that packs the Services of the shared and dedicated modes into
shards of Nodes (`planNodeLoadBalancerShardsWithReservations` and what it calls,
of `node_loadbalancer_controller.go`).

The planner goes over the Services in the order of their identities, twice.  A
Service with a persisted shard is put back there when the shard still takes it;
everybody else is pending.  A pending Service of the dedicated mode gets a
shard of its own, one of the shared mode the fullest shard that has room for
all its ports, or a new one.  An attempt that fails does not undo everything:
the shard it looked up stays in the map even when the attempt created it.

A map is Mathlib's `AList`.  Go visits the entries of a map in no order of its
own; the planner takes that order as a parameter (`MapOrder`).  The name of a
new shard is cut from a digest, which is a parameter too, and the search for a
free name is followed for a number of rounds only; a plan that needs more is
`none`.
-/
import InSpaceKube.NodeLB.Objects
import Mathlib.Data.List.AList

namespace InSpaceKube.NodeLB.Shards

/-! ### Intents and plans -/

inductive IPFamily
  | ipv4 | ipv6
deriving DecidableEq, Repr

def IPFamily.text : IPFamily → String
  | .ipv4 => "IPv4"
  | .ipv6 => "IPv6"

def protocolText : Protocol → String
  | .tcp => "TCP"
  | .udp => "UDP"
  | .sctp => "SCTP"

/-- `nodeLoadBalancerPortClaim`. -/
structure PortClaim where
  family : IPFamily
  protocol : Protocol
  port : ℤ
deriving DecidableEq, Repr

/-- What all Services of a shard have in common.  The planner refuses every mode
but two, so `Mode.local` stands for any other text. -/
structure Profile where
  mode : Mode
  pool : String
  nodesPerShard : ℤ
  cpu : ℤ
  memoryMiB : ℤ
deriving DecidableEq, Repr

/-- `nodeLoadBalancerIntent`. -/
structure Intent extends Profile where
  serviceID : String
  ports : List PortClaim
  existingShard : String
deriving DecidableEq, Repr

/-- `nodeLoadBalancerShardPlan`. -/
structure ShardPlan extends Profile where
  name : String
  claims : List String
  ports : List PortClaim
deriving DecidableEq, Repr

/-- A map from ports to the Service they belong to. -/
abbrev PortMap := AList fun _ : PortClaim => String

/-- `nodeLoadBalancerPlan`. -/
structure Plan where
  assignments : AList fun _ : String => String
  shards : List ShardPlan

/-- `nodeLoadBalancerPortReservations`. -/
abbrev Reservations := AList fun _ : String => PortMap

/-- `reservations[name][port]`. -/
def Reservations.owner (reservations : Reservations) (name : String) (port : PortClaim) :
    Option String :=
  (reservations.lookup name).bind fun ports => ports.lookup port

/-- `mutableNodeLoadBalancerShard`. -/
structure MutableShard where
  plan : ShardPlan
  ports : PortMap

abbrev ShardMap := AList fun _ : String => MutableShard

/-- The order in which one run of the program visits the entries of a map. -/
structure MapOrder where
  visit : {α : Type} → List α → List α
  perm : ∀ {α : Type} (l : List α), (visit l).Perm l

/-- The order in which the model lists a map. -/
def MapOrder.listed : MapOrder := ⟨id, fun l => .refl l⟩

/-! ### The checks of an intent -/

def nodeLoadBalancerMinimumCPU : ℤ := 1
def nodeLoadBalancerMinimumMemoryMiB : ℤ := 2048

/-- The shapes of the catalog: compute, general, memory and extra memory. -/
def catalogShape (cpu memoryMiB : ℤ) : Bool :=
  let memoryGiB := memoryMiB / 1024
  let isEvenCatalogCPU := decide (2 ≤ cpu ∧ cpu ≤ 16 ∧ cpu % 2 = 0)
  memoryMiB % 1024 == 0 &&
    (isEvenCatalogCPU && memoryGiB == cpu ||
      (cpu == 1 || isEvenCatalogCPU) && memoryGiB == cpu * 2 ||
      (cpu == 1 || isEvenCatalogCPU) && memoryGiB == cpu * 4 ||
      (cpu == 1 || cpu == 2 || cpu == 4 || cpu == 6 || cpu == 8) && memoryGiB == cpu * 8)

def validateNodeLoadBalancerShape (cpu memoryMiB : ℤ) : Except Err Unit := do
  failIf (cpu < nodeLoadBalancerMinimumCPU ∨ memoryMiB < nodeLoadBalancerMinimumMemoryMiB)
    (.new ("node load balancer: requires at least " ++ formatInt nodeLoadBalancerMinimumCPU
      ++ " CPU and " ++ formatInt nodeLoadBalancerMinimumMemoryMiB ++ "Mi memory; got "
      ++ formatInt cpu ++ " CPU and " ++ formatInt memoryMiB ++ "Mi memory"))
  failIf (¬ catalogShape cpu memoryMiB)
    (.new ("node load balancer: " ++ formatInt cpu ++ " CPU and " ++ formatInt memoryMiB
      ++ "Mi memory is not an InSpace catalog shape"))

/-- The text of a mode that is not one of the planner's. -/
def Intent.modeText (intent : Intent) : String :=
  match intent.mode with
  | .shared => "public-node-shared"
  | .dedicated => "public-node-dedicated"
  | .local => "public-node-local"

/-- The body of the loop that checks the intents. -/
def checkIntent (seenServices : List String) (intent : Intent) : Except Err Unit := do
  failIf (intent.serviceID = "") (.new "node load balancer: Service identity is required")
  failIf (intent.serviceID ∈ seenServices)
    (.new ("node load balancer: duplicate Service identity " ++ quote intent.serviceID))
  failIf (intent.nodesPerShard < 1)
    (.new ("node load balancer: Service " ++ quote intent.serviceID
      ++ " has non-positive nodes per shard"))
  (validateNodeLoadBalancerShape intent.cpu intent.memoryMiB).mapError
    (.within ("Service " ++ quote intent.serviceID))
  failIf (intent.mode ≠ .shared ∧ intent.mode ≠ .dedicated)
    (.new ("node load balancer: Service " ++ quote intent.serviceID ++ " has invalid mode "
      ++ quote intent.modeText))

/-- The loop that checks the intents. -/
def checkIntents : List Intent → (seenServices : List String) → Except Err Unit
  | [], _ => .ok ()
  | intent :: rest, seen => do
    checkIntent seen intent
    checkIntents rest (intent.serviceID :: seen)

/-! ### One attempt -/

def nodeLoadBalancerShardProfileMatches (shard : ShardPlan) (intent : Intent) : Bool :=
  shard.mode == intent.mode && shard.pool == intent.pool &&
    shard.nodesPerShard == intent.nodesPerShard && shard.cpu == intent.cpu &&
    shard.memoryMiB == intent.memoryMiB

/-- A shard created for an intent. -/
def newShard (name : String) (intent : Intent) : MutableShard where
  plan := { intent.toProfile with name := name, claims := [], ports := [] }
  ports := ∅

/-- The port has an owner, and it is another Service. -/
def foreign (owner : Option String) (intent : Intent) : Bool :=
  owner.any (· != intent.serviceID)

/-- The writes of an attempt that succeeds. -/
def MutableShard.claim (shard : MutableShard) (intent : Intent) : MutableShard where
  plan := { shard.plan with claims := shard.plan.claims ++ [intent.serviceID] }
  ports := intent.ports.foldl (fun ports port => ports.insert port intent.serviceID) shard.ports

/-- `tryAssignNodeLoadBalancerShard`: whether the shard took the intent, and the
shards afterwards. -/
def tryAssignNodeLoadBalancerShard (shards : ShardMap) (reservations : Reservations)
    (name : String) (intent : Intent) : Bool × ShardMap :=
  let found := (shards.lookup name).isSome
  let shard := (shards.lookup name).getD (newShard name intent)
  let shards := if found then shards else shards.insert name shard
  if ¬ nodeLoadBalancerShardProfileMatches shard.plan intent then
    (false, if found then shards else shards.erase name)
  else if intent.mode = .dedicated ∧ shard.plan.claims ≠ [] then (false, shards)
  else if intent.ports.any fun port =>
      foreign (reservations.owner name port) intent || foreign (shard.ports.lookup port) intent then
    (false, shards)
  else (true, shards.insert name (shard.claim intent))

/-! ### Where a pending Service goes -/

/-- The order of `compatibleNodeLoadBalancerShards`: more ports first, then the name. -/
def fuller (a b : MutableShard) : Prop :=
  if a.ports.keys.length ≠ b.ports.keys.length then b.ports.keys.length < a.ports.keys.length
  else a.plan.name ≤ b.plan.name

instance (a b : MutableShard) : Decidable (fuller a b) :=
  inferInstanceAs (Decidable (if a.ports.keys.length ≠ b.ports.keys.length then
    b.ports.keys.length < a.ports.keys.length else a.plan.name ≤ b.plan.name))

/-- The test of `compatibleNodeLoadBalancerShards`. -/
def compatible (reservations : Reservations) (intent : Intent) (shard : MutableShard) : Bool :=
  shard.plan.mode == .shared && nodeLoadBalancerShardProfileMatches shard.plan intent &&
    intent.ports.all fun port =>
      !foreign (reservations.owner shard.plan.name port) intent && (shard.ports.lookup port).isNone

def compatibleNodeLoadBalancerShards (order : MapOrder) (shards : ShardMap)
    (reservations : Reservations) (intent : Intent) : List MutableShard :=
  (((order.visit shards.entries).map (·.2)).filter (compatible reservations intent)).insertionSort
    fuller

/-- `uniqueNodeLoadBalancerShardName`, from an attempt on, for a number of rounds. -/
def uniqueNodeLoadBalancerShardName (hash : String → String) (shards : ShardMap)
    (reservations : Reservations) (head seed : String) : (rounds attempt : ℕ) → Option String
  | 0, _ => none
  | rounds + 1, attempt =>
    let candidateSeed := if attempt ≠ 0 then seed ++ "#" ++ toString attempt else seed
    let name := head ++ String.ofList ((hash candidateSeed).toList.take 8)
    if (shards.lookup name).isNone ∧ (reservations.lookup name).isNone then some name
    else uniqueNodeLoadBalancerShardName hash shards reservations head seed rounds (attempt + 1)

/-! ### The two passes -/

/-- What both passes write. -/
structure Packing where
  assignments : AList fun _ : String => String
  shards : ShardMap

/-- `tryAssignNodeLoadBalancerShard`, with the assignment or the error that follows. -/
def Packing.assign (s : Packing) (reservations : Reservations) (name : String) (intent : Intent)
    (refused : Err) : Except Err Packing :=
  match tryAssignNodeLoadBalancerShard s.shards reservations name intent with
  | (true, shards) => .ok ⟨s.assignments.insert intent.serviceID name, shards⟩
  | (false, _) => .error refused

/-- The first pass: the assignments that persist, and who is pending. -/
def persist (reservations : Reservations) : List Intent → Packing → Packing × List Intent
  | [], s => (s, [])
  | intent :: rest, s =>
    if intent.existingShard = "" then
      let r := persist reservations rest s
      (r.1, intent :: r.2)
    else
      match tryAssignNodeLoadBalancerShard s.shards reservations intent.existingShard intent with
      | (true, shards) => persist reservations rest
          ⟨s.assignments.insert intent.serviceID intent.existingShard, shards⟩
      | (false, shards) =>
        let r := persist reservations rest { s with shards := shards }
        (r.1, intent :: r.2)

/-- The body of the second pass. -/
def place (hash : String → String) (rounds : ℕ) (order : MapOrder) (reservations : Reservations)
    (s : Packing) (intent : Intent) : ExceptT Err Option Packing :=
  if intent.mode = .dedicated then
    (uniqueNodeLoadBalancerShardName hash s.shards reservations "inlb-"
        ("dedicated/" ++ intent.serviceID) rounds 0).map fun name =>
      s.assign reservations name intent
        (.new ("node load balancer: failed to allocate dedicated shard for "
          ++ quote intent.serviceID))
  else
    match compatibleNodeLoadBalancerShards order s.shards reservations intent with
    | shard :: _ => some (s.assign reservations shard.plan.name intent
        (.new ("node load balancer: compatible shard " ++ quote shard.plan.name
          ++ " rejected Service " ++ quote intent.serviceID)))
    | [] =>
      (uniqueNodeLoadBalancerShardName hash s.shards reservations "inlb-"
          ("shared/" ++ intent.pool ++ "/" ++ intent.serviceID) rounds 0).map fun name =>
        s.assign reservations name intent
          (.new ("node load balancer: failed to allocate shared shard for "
            ++ quote intent.serviceID))

/-! ### The plan -/

/-- The order of `sortNodeLoadBalancerPorts`. -/
def portLE (a b : PortClaim) : Prop :=
  if a.family ≠ b.family then a.family.text < b.family.text
  else if a.protocol ≠ b.protocol then protocolText a.protocol < protocolText b.protocol
  else a.port ≤ b.port

instance (a b : PortClaim) : Decidable (portLE a b) :=
  inferInstanceAs (Decidable (if a.family ≠ b.family then a.family.text < b.family.text
    else if a.protocol ≠ b.protocol then protocolText a.protocol < protocolText b.protocol
    else a.port ≤ b.port))

/-- The plan of one shard as it is returned. -/
def MutableShard.final (order : MapOrder) (shard : MutableShard) : ShardPlan :=
  { shard.plan with
    claims := shard.plan.claims.insertionSort (· ≤ ·)
    ports := (order.visit shard.ports.keys).insertionSort portLE }

/-- The last loop of the planner. -/
def Packing.result (order : MapOrder) (s : Packing) : Plan where
  assignments := s.assignments
  shards := ((order.visit s.shards.entries).map fun entry => entry.2.final order).insertionSort
    fun a b => a.name ≤ b.name

/-- The intents in the order both passes take. -/
def ordered (intents : List Intent) : List Intent :=
  intents.insertionSort fun a b => a.serviceID ≤ b.serviceID

def planNodeLoadBalancerShardsWithReservations (hash : String → String) (rounds : ℕ)
    (order : MapOrder) (intents : List Intent) (reservations : Reservations) :
    ExceptT Err Option Plan := do
  ExceptT.mk (some (checkIntents (ordered intents) []))
  let kept := persist reservations (ordered intents) ⟨∅, ∅⟩
  let s ← kept.2.foldlM (place hash rounds order reservations) kept.1
  return s.result order

end InSpaceKube.NodeLB.Shards
