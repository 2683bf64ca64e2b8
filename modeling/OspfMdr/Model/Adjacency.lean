import OspfMdr.Model.Mdr

/-!
# Neighbors of an interface (`ospf6_mdr_neighbor.c`, `ospf6_mdr.c`, `ospf6_neighbor.c`)

The fields of an interface and of its neighbors that decide which adjacencies are formed and
which neighbors go into the router-LSA. Router IDs are in host order. Retransmission and request
lists, timers and the callbacks of other modules are left out.
-/

namespace OspfMdr.Ospf6
open NeighborState

structure AdjConfig where
  priority : Nat
  helloInterval : Nat
  allowImmediateHello : Bool
  twoHopRefresh : Nat
  adjConnectivity : AdjConnectivity
  lsaFullness : LsaFullness
  mdrConstraint : Int
  consecHelloThreshold : Nat
  adjacencyFormationLimit : Nat
  deriving DecidableEq, Repr

/-- `handle` tells apart the neighbor structures that were allocated for one router ID. -/
structure AdjNeighbor extends MdrNeighbor where
  handle : Nat
  drouter : Nat
  bdrouter : Nat
  consecHellos : Nat
  aBit : Bool
  reverse2way : Bool
  dnl : List Nat
  sanl : List Nat
  dependentSelector : Bool
  child : Bool
  routable : Bool
  adv : Bool
  selAdv : Bool
  deriving DecidableEq, Repr

/-- A pointer to a neighbor, with the router ID behind it. -/
structure NeighborRef where
  handle : Nat
  routerId : Nat
  deriving DecidableEq, Repr

def AdjNeighbor.ref (on : AdjNeighbor) : NeighborRef := ⟨on.handle, on.routerId⟩

/-- A neighbor as an update of the LSA leaves it; `required` is that it is to be advertised. -/
structure LsaEntry where
  state : NeighborState
  routable : Bool
  adv : Bool
  required : Bool
  deriving DecidableEq, Repr

structure LsaRecord where
  adjConnectivity : AdjConnectivity
  lsaFullness : LsaFullness
  mdrLevel : MdrLevel
  entries : List LsaEntry
  deriving DecidableEq, Repr

/-- `created` counts the neighbors created; no function reads `lsaLog`, what each update of the LSA left. -/
structure AdjInterface where
  routerId : Nat
  type : IfType
  state : InterfaceState
  drouter : Nat
  bdrouter : Nat
  config : AdjConfig
  mdrLevel : MdrLevel
  nonfloodingMdr : Bool
  parent : Option NeighborRef
  bparent : Option NeighborRef
  neighborList : List AdjNeighbor
  created : Nat
  lsaLog : List LsaRecord
  deriving DecidableEq, Repr

def AdjInterface.toMdr (oi : AdjInterface) : MdrInterface where
  routerId := oi.routerId
  priority := oi.config.priority
  helloInterval := oi.config.helloInterval
  allowImmediateHello := oi.config.allowImmediateHello
  twoHopRefresh := oi.config.twoHopRefresh
  adjConnectivity := oi.config.adjConnectivity
  mdrConstraint := oi.config.mdrConstraint
  mdrLevel := oi.mdrLevel
  nonfloodingMdr := oi.nonfloodingMdr
  parent := oi.parent.map (·.routerId)
  bparent := oi.bparent.map (·.routerId)
  neighborList := oi.neighborList.map (·.toMdrNeighbor)

def AdjInterface.lookup (oi : AdjInterface) (routerId : Nat) : Option AdjNeighbor :=
  oi.neighborList.find? fun on => on.routerId = routerId

/-- `ospf6_calculate_mdr`, with the parents as pointers to neighbors. -/
def AdjInterface.calculateMdr (elapsed : Nat) (oi : AdjInterface) : AdjInterface :=
  if startupWait elapsed oi.toMdr then oi
  else
    let r := Ospf6.calculateMdr oi.toMdr.neighborList.get oi.toMdr
    { oi with
      mdrLevel := r.mdrLevel
      nonfloodingMdr := r.nonfloodingMdr
      parent := (r.parent.bind oi.lookup).map AdjNeighbor.ref
      bparent := (r.bparent.bind oi.lookup).map AdjNeighbor.ref
      neighborList := List.zipWith (fun on m => { on with dependent := m.dependent })
        oi.neighborList r.neighborList }

/-! ### Adjacencies -/

/-- Whether an adjacency must be formed. -/
def ospf6MdrNeighborNeedAdjacency (oi : AdjInterface) (on : AdjNeighbor) : Bool :=
  if oi.config.adjConnectivity = .fullyConnected then true
  else if on.aBit then true
  else if oi.mdrLevel.toNat ≥ MdrLevel.bmdr.toNat ∧ on.mdrLevel.toNat ≥ MdrLevel.bmdr.toNat ∧
      (on.dependent ∨ on.dependentSelector) then true
  else if oi.mdrLevel.toNat ≥ MdrLevel.bmdr.toNat ∧ on.child then true
  else if on.mdrLevel.toNat ≥ MdrLevel.bmdr.toNat then
    let pRid := (oi.parent.map (·.routerId)).getD 0
    let bpRid := (oi.bparent.map (·.routerId)).getD 0
    on.routerId = pRid ∨ on.routerId = bpRid
  else false

def needAdjacency (oi : AdjInterface) (on : AdjNeighbor) : Bool :=
  if oi.type = .mdr then ospf6MdrNeighborNeedAdjacency oi on
  else if oi.state = .pointToPoint ∨ oi.state = .dr ∨ oi.state = .bdr then true
  else oi.drouter = on.routerId ∨ oi.bdrouter = on.routerId

/-- Whether an adjacency is kept. -/
def keepAdjacency (oi : AdjInterface) (on : AdjNeighbor) : Bool :=
  if oi.config.adjConnectivity = .fullyConnected then true
  else if oi.type = .mdr then
    on.aBit ∨ oi.mdrLevel = .mdr ∨ oi.mdrLevel = .bmdr ∨ on.mdrLevel = .mdr ∨ on.mdrLevel = .bmdr
  else true

/-- The new neighbor, and whether its level changed. -/
def ospf6MdrSetMdrLevel (own id1 id2 : Nat) (on : AdjNeighbor) : AdjNeighbor × Bool :=
  let level : MdrLevel := if on.routerId = id1 then .mdr else if on.routerId = id2 then .bmdr else .other
  ({ on with
      mdrLevel := level
      child := own = id1 ∨ own = id2
      dependent := if level = .other then false else on.dependent }, on.mdrLevel ≠ level)

def helloDrouter (oi : AdjInterface) : Nat :=
  if oi.mdrLevel = .mdr then oi.routerId else (oi.parent.map (·.routerId)).getD 0

def helloBdrouter (oi : AdjInterface) : Nat :=
  if oi.mdrLevel = .bmdr then oi.routerId else (oi.bparent.map (·.routerId)).getD 0

/-- The dependent neighbors of a full Hello, the third list of `ospf6_mdr_create_neighbor_lists`. -/
def helloDnl (oi : AdjInterface) : List Nat :=
  (oi.neighborList.filter fun on => on.state ≠ .down ∧ on.state ≠ .init ∧ on.dependent).map (·.routerId)

/-! ### Neighbors in the router-LSA -/

def ospf6MdrBackbone (oi : AdjInterface) (on : AdjNeighbor) : Bool :=
  if oi.config.adjConnectivity = .fullyConnected then !on.aBit else needAdjacency oi on

/-- `route` is that the area's SPF table has a route to the router. -/
def updateRoutable (route : Nat → Bool) (on : AdjNeighbor) : AdjNeighbor :=
  if ¬on.routable then
    if route on.routerId ∧ on.state.toNat ≥ twoway.toNat ∧ on.reverse2way then
      { on with routable := true }
    else on
  else if on.state.toNat < twoway.toNat then { on with routable := false }
  else on

/-- The interface, and whether a mark changed. -/
def ospf6MdrUpdateRoutableNeighbors (route : Nat → Bool) (oi : AdjInterface) : AdjInterface × Bool :=
  if oi.config.adjConnectivity = .fullyConnected then (oi, false)
  else ({ oi with neighborList := oi.neighborList.map (updateRoutable route) },
    oi.neighborList.any fun on => (updateRoutable route on).routable ≠ on.routable)

section Lsa
variable {n : Nat} (nbr : Fin n → AdjNeighbor)

/-- A router-LSA is originated for a new neighbor, and when an advertised one is lost. -/
def mustOriginate (newAdv : Fin n → Bool) (j : Fin n) : Bool :=
  if !(nbr j).adv && newAdv j then true
  else (nbr j).adv && decide ((nbr j).state.toNat < twoway.toNat)

def finishLsa (oi : AdjInterface) (selAdv newAdv : Fin n → Bool) : AdjInterface × Bool :=
  let orig := (List.finRange n).any (mustOriginate nbr newAdv)
  ({ oi with neighborList := List.ofFn fun j =>
      { nbr j with selAdv := selAdv j, adv := if orig then newAdv j else (nbr j).adv } }, orig)

def ospf6MdrUpdateLsaFull (oi : AdjInterface) : AdjInterface × Bool :=
  finishLsa nbr oi
    (fun j => decide ((nbr j).state.toNat ≥ twoway.toNat) && !ospf6MdrBackbone oi (nbr j))
    (fun j => (nbr j).routable || decide ((nbr j).state = .full))

def selectedBy (oi : AdjInterface) (j : Fin n) : Bool := decide (oi.routerId ∈ (nbr j).sanl)

/-- The neighbors advertised in a minimal LSA. -/
def ospf6MdrUpdateLsaMinimal (oi : AdjInterface) : AdjInterface × Bool :=
  finishLsa nbr oi (fun _ => false)
    (fun j => decide ((nbr j).state = .full) ||
      ((nbr j).routable && (selectedBy nbr oi j || ospf6MdrBackbone oi (nbr j))))

/-- The condition for an adjacency between two neighbors, as `j` reports it. -/
def reportsAdjacency (j k : Fin n) : Bool :=
  (decide ((nbr j).mdrLevel.toNat ≥ MdrLevel.bmdr.toNat) &&
    decide ((nbr k).mdrLevel.toNat ≥ MdrLevel.bmdr.toNat) && decide ((nbr k).routerId ∈ (nbr j).dnl)) ||
  (decide ((nbr k).mdrLevel.toNat ≥ MdrLevel.bmdr.toNat) &&
    (decide ((nbr j).drouter = (nbr k).routerId) || decide ((nbr j).bdrouter = (nbr k).routerId)))

abbrev BitMatrix (n : Nat) := Fin n → Fin n → Bool

def BitMatrix.set {n : Nat} (m : BitMatrix n) (j k : Fin n) : BitMatrix n :=
  fun a b => if a = j ∧ b = k then true else m a b

structure AdjSan (n : Nat) where
  adj : BitMatrix n
  san : BitMatrix n

-- one turn of the loops that fill both matrices
def adjSanStep (cost : CostMatrix n) (s : AdjSan n) (p : Fin n × Fin n) : AdjSan n :=
  let j := p.1
  let k := p.2
  if cost j k = 0 then s
  else
    let san := if (nbr k).routerId ∈ (nbr j).sanl then s.san.set j k else s.san
    if s.adj j k then ⟨s.adj, san⟩
    else if reportsAdjacency nbr j k then ⟨(s.adj.set j k).set k j, san⟩
    else ⟨s.adj, san⟩

def ospf6MdrCreateAdjSanMatrices (cost : CostMatrix n) : AdjSan n :=
  (matrixPairs n).foldl (adjSanStep nbr cost) ⟨fun _ _ => false, fun _ _ => false⟩

/-- Relay `u` is preferred to the router itself for the path from `k` to `j`. -/
def betterRelay (oi : AdjInterface) (cost : CostMatrix n) (m : AdjSan n) (j k u : Fin n) : Bool :=
  !decide (u = k) && !decide (u = j) && !decide ((nbr u).state.toNat < twoway.toNat) &&
  cost u k == 1 && cost u j == 1 &&
  (m.adj u j || ospf6SidcdsLexicographic (m.san j u).toNat (selectedBy nbr oi j).toNat
    (m.san u j).toNat (nbr j).selAdv.toNat (nbr u).routerId oi.routerId)

def newSelAdv (oi : AdjInterface) (cost : CostMatrix n) (m : AdjSan n) (j : Fin n) : Bool :=
  if (nbr j).state.toNat < twoway.toNat || ospf6MdrBackbone oi (nbr j) then false
  else (List.finRange n).any fun k => !decide (k = j) &&
    !decide ((nbr k).state.toNat < twoway.toNat) && !(cost j k == 1) &&
    !(List.finRange n).any (betterRelay nbr oi cost m j k)

/-- The neighbors advertised in a min-cost LSA. -/
def ospf6MdrUpdateLsaMincost (oi : AdjInterface) : AdjInterface × Bool :=
  let cost := ospf6MdrCreateCostMatrix fun j => (nbr j).toMdrNeighbor
  let selAdv := newSelAdv nbr oi cost (ospf6MdrCreateAdjSanMatrices nbr cost)
  finishLsa nbr oi selAdv fun j =>
    ((decide ((nbr j).state = .full) || (nbr j).routable) &&
      (selAdv j || selectedBy nbr oi j || ospf6MdrBackbone oi (nbr j))) ||
    (oi.config.adjConnectivity != .fullyConnected && decide ((nbr j).state = .full))

end Lsa

/-- The interface, and whether a router-LSA is to be originated. -/
def ospf6MdrUpdateLsa (route : Nat → Bool) (oi : AdjInterface) : AdjInterface × Bool :=
  let oi := (ospf6MdrUpdateRoutableNeighbors route oi).1
  let nbr := oi.neighborList.get
  match oi.config.lsaFullness with
  | .minCost | .minCost2Paths => ospf6MdrUpdateLsaMincost nbr oi
  | .min => ospf6MdrUpdateLsaMinimal nbr oi
  | .full => ospf6MdrUpdateLsaFull nbr oi
  | .mdrFull =>
    if oi.mdrLevel = .mdr then ospf6MdrUpdateLsaFull nbr oi else ospf6MdrUpdateLsaMinimal nbr oi

end OspfMdr.Ospf6
