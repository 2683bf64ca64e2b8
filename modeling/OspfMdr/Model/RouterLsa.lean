import OspfMdr.Model.Spf

/-!
# Origination of router-LSAs (`ospf6_intra.c`)

The links of the interfaces are written one after the other into a buffer. When the next
link would exceed the size limit of the area, what the buffer holds becomes an LSA of its
own and the next one gets the next link-state id. The outcome `none` stands for a link
that is written behind the end of the buffer.
-/

namespace OspfMdr.Ospf6

structure LsdescNeighbor where
  routerId : UInt32
  ifindex : UInt32
  state : NeighborState
  adv : Bool
  cost : UInt32
  deriving DecidableEq, Repr

structure LsdescInterface where
  ifindex : UInt32
  state : InterfaceState
  type : IfType
  adjConnectivity : AdjConnectivity
  cost : UInt32
  drouter : UInt32
  neighborList : List LsdescNeighbor
  deriving DecidableEq, Repr

structure LsdescArea where
  routerId : UInt32
  abr : Bool
  asbr : Bool
  routerLsaSizeLimit : UInt32
  ifList : List LsdescInterface
  deriving DecidableEq, Repr

/-- `struct ospf6_router_lsdesc`; identifiers are kept in host byte order. -/
structure RouterLsdesc where
  type : Nat
  metric : Nat
  interfaceId : UInt32
  neighborInterfaceId : UInt32
  neighborRouterId : UInt32
  deriving DecidableEq, Repr

def RouterLsdesc.words (d : RouterLsdesc) : List UInt32 :=
  [UInt32.ofNat (d.type * 2 ^ 24 + d.metric), d.interfaceId, d.neighborInterfaceId,
    d.neighborRouterId]

variable (oi : LsdescInterface) (oa : LsdescArea)

/-- Left out are interfaces that are down or loopback and, unless MDR with reduction, those without a full
adjacency. -/
def LsdescInterface.described : Bool :=
  if oi.state = .down ∨ oi.state = .loopback then false
  else if ¬(oi.type = .mdr ∧ oi.adjConnectivity ≠ .fullyConnected) then
    oi.neighborList.any fun on => on.state = .full
  else true

def LsdescInterface.neighborLsdescs : List RouterLsdesc :=
  (oi.neighborList.filter fun on => if oi.type = .mdr then on.adv else on.state = .full).map
    fun on => ⟨pointToPoint, on.cost.toNat % 2 ^ 16, oi.ifindex, on.ifindex, on.routerId⟩

def LsdescInterface.transitLsdesc (nbrIfid nbrRouterid : UInt32) : RouterLsdesc :=
  ⟨transitNetwork, oi.cost.toNat % 2 ^ 16, oi.ifindex, nbrIfid, nbrRouterid⟩

def LsdescInterface.lsdescs (routerId : UInt32) : List RouterLsdesc :=
  match oi.type with
  | .pointToPoint | .mdr | .pointToMultipoint => oi.neighborLsdescs
  | .broadcast | .nbma =>
    if oi.state = .dr then [oi.transitLsdesc oi.ifindex routerId]
    else
      match oi.neighborList.find? fun on => on.routerId = oi.drouter with
      | some drouter =>
        if drouter.state = .full then [oi.transitLsdesc drouter.ifindex drouter.routerId] else []
      | none => []
  | .none | .virtualLink | .loopback => []

def maxLsasize : Nat := 4096

def routerLsaSize (n : Nat) : Nat := 20 + 4 + 16 * n

def LsdescArea.exceeds (n : Nat) : Bool :=
  oa.routerLsaSizeLimit ≠ 0 ∧ routerLsaSize (n + 1) > oa.routerLsaSizeLimit.toNat

/-- `done` are the LSAs originated, `current` is the buffer. A limit too short for one link ends the loop. -/
def routerLsaFragments (oa : LsdescArea) :
    List LsdescInterface → List (List RouterLsdesc) → List RouterLsdesc →
      Option (List (List RouterLsdesc))
  | [], done, current => some (if current = [] then done else done ++ [current])
  | oi :: rest, done, current =>
    if ¬oi.described then routerLsaFragments oa rest done current
    else if oa.exceeds current.length then
      if current = [] then some done
      else if routerLsaSize (oi.lsdescs oa.routerId).length > maxLsasize then none
      else routerLsaFragments oa rest (done ++ [current]) (oi.lsdescs oa.routerId)
    else if routerLsaSize (current ++ oi.lsdescs oa.routerId).length > maxLsasize then none
    else routerLsaFragments oa rest done (current ++ oi.lsdescs oa.routerId)

/-- The bits E and B of the router and the options V6, E, R and AF. -/
def LsdescArea.options : UInt32 :=
  (if oa.asbr then 0x02000000 else 0) + (if oa.abr then 0x01000000 else 0) + 0x00000113

def LsdescArea.routerLsa (linkStateId : Nat) (lsdescs : List RouterLsdesc) : SpfLsa :=
  let words := lsdescs.flatMap RouterLsdesc.words
  ⟨.router, UInt32.ofNat linkStateId, oa.routerId, false, oa.options, fun i => words.getD i 0,
    words.length⟩

def LsdescArea.routerLsas (fragments : List (List RouterLsdesc)) : List SpfLsa :=
  fragments.mapIdx oa.routerLsa

/-- The router-LSAs that are originated. -/
def ospf6RouterLsaOriginate : Option (List SpfLsa) :=
  (routerLsaFragments oa oa.ifList [] []).map oa.routerLsas

end OspfMdr.Ospf6
