/-
InSpaceKube/NodeLB/Objects.lean

What the node load balancer reads off Kubernetes objects: time stamps in
annotations, the provider IDs of Nodes, the source ranges and the mode of a
Service, with the pure functions of `node_loadbalancer_controller.go` on them.
-/
import InSpaceKube.NodeLB.Firewall
import Mathlib.Data.List.Dedup

namespace InSpaceKube.NodeLB

/-- A time stamp as an annotation holds it. -/
inductive Stamp
  | absent | malformed | at (t : Time)
deriving DecidableEq, Repr

/-- A location of a provider ID. -/
def locationPattern (s : String) : Bool := isDNS1123Label s

structure ProviderID where
  location : String
  uuid : String
deriving DecidableEq, Repr

def ProviderID.text (id : ProviderID) : String :=
  "inspace://" ++ id.location ++ "/" ++ toLower id.uuid

/-- `providerid.Parse`. -/
def parseProviderID (value : String) : Option ProviderID :=
  let head := "inspace://"
  if hasPrefix value head then
    match (value.toList.drop head.toList.length).splitOn '/' with
    | [location, uuid] =>
      let id : ProviderID := ⟨String.ofList location, toLower (String.ofList uuid)⟩
      if locationPattern id.location && uuidPatternFold id.uuid then some id else none
    | _ => none
  else none

inductive Protocol
  | tcp | udp | sctp
deriving DecidableEq, Repr

inductive Mode
  | shared | dedicated | «local»
deriving DecidableEq, Repr

def canonicalNodeLoadBalancerSourceRanges (values : List String) : Except Err (List String) := do
  failIf (¬ values.all fun value => (parsePrefix4 (trimSpace value)).isSome)
    (.new "node load balancer: loadBalancerSourceRange must be an IPv4 CIDR")
  return sortStrings ((values.filterMap fun value =>
    (parsePrefix4 (trimSpace value)).map fun (addr, bits) => maskedText addr bits).dedup)

/-- `desiredNodeLoadBalancerFirewall`. -/
structure DesiredFirewall where
  request : CreateFirewallRequest
  hash : String
deriving DecidableEq, Repr

end InSpaceKube.NodeLB
