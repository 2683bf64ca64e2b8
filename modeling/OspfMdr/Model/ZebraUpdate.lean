import OspfMdr.Model.AddressFamily
import OspfMdr.Model.HelloPacket

/-!
# Route messages to zebra (`ospf6_zebra.c`, `zserv.c`)

The part of a message behind its prefix. The outcome `none` stands for a failed assertion.
-/

namespace OspfMdr.Ospf6

variable (o : Ospf6Instance) (p : Prefix) (nexthop : Nexthop)

/-- Empty if there is no address, and `none` if it is not one of the family. -/
def nexthopAddr : Option (List UInt8) :=
  if isUnspecified nexthop.address then some []
  else if ospf6AfIsIpv4 o then (ospf6AfAddressConvert6to4 o nexthop.address).map addr4Octets
  else some nexthop.address

/-- The first 32 bits with `af_interop`, and all bits otherwise. -/
def nexthopBits : List Bool :=
  (addrBits nexthop.address).take (if o.afInterop then 32 else 128)

def ospf6RouteDirectlyConnected : Bool :=
  if p.bits = [] ∧ p.host.all (! ·) then false
  else if nexthop.ifindex ≠ 0 ∧ isUnspecified nexthop.address then true
  else p.bits.isPrefixOf (nexthopBits o nexthop)

def putNexthop (addr : List UInt8) : Option (List UInt8) :=
  let ifindex := htonl nexthop.ifindex.toNat
  if ospf6AfIsIpv4 o ∧ ospf6RouteDirectlyConnected o p nexthop ∨ addr = [] then
    if nexthop.ifindex = 0 then none else some (1 :: ifindex)
  else if nexthop.ifindex ≠ 0 then some ((if ospf6AfIsIpv4 o then 4 else 7) :: addr ++ ifindex)
  else some ((if ospf6AfIsIpv4 o then 3 else 6) :: addr)

def putNexthops : List Nexthop → Option (List (List UInt8))
  | [] => some []
  | nexthop :: l =>
    match nexthopAddr o nexthop with
    | none => putNexthops l
    | some addr => do return (← putNexthop o p nexthop addr) :: (← putNexthops l)

structure RouteUpdate where
  nhcount : Nat
  nexthops : List (List UInt8)
  metric : UInt32

def RouteUpdate.bytes (m : RouteUpdate) : List UInt8 :=
  UInt8.ofNat m.nhcount :: (m.nexthops.flatten ++ htonl m.metric.toNat)

/-- The message for a route to a prefix, if one is sent. -/
def ospf6ZebraRouteUpdate (addr : List UInt8) (prefixlen : Nat) (nexthops : List Nexthop) (path : Path) :
    Option (Option RouteUpdate) :=
  let set := setNexthops (nexthops.take multiPathLimit)
  if ospf6AfIsIpv4 o ∧ ospf6AfPrefixConvert6to4 o addr prefixlen = none ∨ set = [] then some none
  else (putNexthops o (addrPrefix addr prefixlen) set).map fun l =>
    some ⟨set.length, l, if path.metricType = 2 then path.costE2 else path.cost⟩

def nexthopSize (v4 : Bool) (s : List UInt8) : UInt8 → Nat
  | 1 => 4
  | 2 => if v4 then 1 + (s.headD 0).toNat else 0
  | 3 => if v4 then 4 else 0
  | 4 => if v4 then 8 else 0
  | 6 => 16
  | 7 => if v4 then 0 else 20
  | _ => 0

/-- Where a reader comes to behind the next hops of an IPv4 or IPv6 route. -/
def zreadNexthops (v4 : Bool) : Nat → List UInt8 → Option (List UInt8)
  | 0, s => some s
  | _ + 1, [] => none
  | n + 1, type :: s =>
    if nexthopSize v4 s type ≤ s.length then zreadNexthops v4 n (s.drop (nexthopSize v4 s type)) else none

def zreadRoute (v4 : Bool) : List UInt8 → Option (List UInt8)
  | [] => none
  | nexthopNum :: s => zreadNexthops v4 nexthopNum.toNat s

end OspfMdr.Ospf6
