import OspfMdr.Model.Basic
import OspfMdr.Model.Pqueue
import OspfMdr.Model.Route

/-!
# Shortest-path calculation (`ospf6_spf.c`)

Vertices are records at addresses; the candidate list holds their addresses. The outcome
`none` stands for a failed assertion. The result table is a list of the routes in the
order of their installation, and at most one has a given vertex id.
-/

namespace OspfMdr.Ospf6

inductive VertexType
  | router
  | network
  deriving DecidableEq, Repr

/-- A router- or network-LSA with its words behind the options; behind `length` is whatever stands in memory. -/
structure SpfLsa where
  type : VertexType
  id : UInt32
  advRouter : UInt32
  maxAge : Bool
  options : UInt32
  words : Nat → UInt32
  length : Nat

variable (l : SpfLsa)

namespace SpfLsa

def lsdescType (p : Nat) : Nat := (l.words p).toNat / 2 ^ 24
def lsdescMetric (p : Nat) : Nat := (l.words p).toNat % 2 ^ 16
def lsdescIfid (p : Nat) : UInt32 := l.words (p + 1)
def lsdescNbrIfid (p : Nat) : UInt32 := l.words (p + 2)
def lsdescNbrRouterid (p : Nat) : UInt32 := l.words (p + 3)
def networkLsdescNbrRouterid (p : Nat) : UInt32 := l.words p

def lsdescSize : Nat :=
  match l.type with
  | .router => 4
  | .network => 1

def lsdescs : List Nat :=
  (List.range (l.length / l.lsdescSize)).map (· * l.lsdescSize)

def vertexId : UInt32 × UInt32 := (l.advRouter, l.id)

end SpfLsa

def pointToPoint : Nat := 1
def transitNetwork : Nat := 2

structure LinkLsa where
  id : UInt32
  advRouter : UInt32
  linklocalAddr : List UInt8
  deriving DecidableEq, Repr

structure SpfNeighbor where
  routerId : UInt32
  ifindex : UInt32
  state : NeighborState
  routable : Bool
  cost : UInt32
  linklocalAddr : List UInt8
  deriving DecidableEq, Repr

structure SpfInterface where
  ifindex : UInt32
  down : Bool
  type : IfType
  adjConnectivity : AdjConnectivity
  lsaFullness : LsaFullness
  neighborList : List SpfNeighbor
  linkLsas : List LinkLsa
  deriving DecidableEq, Repr

/-- What the calculation reads of the area; `interfaces` are all interfaces of the router. -/
structure SpfArea where
  routerId : UInt32
  ipv6 : Bool
  lsdb : List SpfLsa
  ifList : List SpfInterface
  interfaces : List SpfInterface

structure Vertex where
  lsa : SpfLsa
  cost : UInt32
  hops : UInt8
  nexthop : List Nexthop
  parent : Option Nat

structure SpfRoute where
  vertexId : UInt32 × UInt32
  cost : UInt32
  hops : UInt8
  options : UInt32
  nexthop : List Nexthop
  vertex : Nat

structure SpfState where
  vertices : Nat → Vertex
  created : Nat
  candidateList : Pqueue Nat
  routes : List SpfRoute

def uint32Cmp (a b : Nat) : Int := if a < b then -1 else if a > b then 1 else 0

def ospf6VertexCmp (vertices : Nat → Vertex) (a b : Nat) : Int :=
  let c := uint32Cmp (vertices a).cost.toNat (vertices b).cost.toNat
  if c = 0 then uint32Cmp (vertices a).hops.toNat (vertices b).hops.toNat else c

def ospf6SpfLsdbLookup (lsdb : List SpfLsa) (type : VertexType) (id advRouter : UInt32) :
    Option SpfLsa :=
  (lsdb.find? fun l => l.type = type ∧ l.id = id ∧ l.advRouter = advRouter).filter (! ·.maxAge)

def ospf6LsdescLsa (lsdb : List SpfLsa) (v : SpfLsa) (p : Nat) : Option SpfLsa :=
  match v.type with
  | .network => ospf6SpfLsdbLookup lsdb .router 0 (v.networkLsdescNbrRouterid p)
  | .router =>
    if v.lsdescType p = pointToPoint then ospf6SpfLsdbLookup lsdb .router 0 (v.lsdescNbrRouterid p)
    else if v.lsdescType p = transitNetwork then
      ospf6SpfLsdbLookup lsdb .network (v.lsdescNbrIfid p) (v.lsdescNbrRouterid p)
    else none

/-- The link description at `b` of `lsa` points back to that at `p` of `v`; the last case reads both as of a
router. -/
def backlinkAt (lsa : SpfLsa) (p : Nat) (v : SpfLsa) (b : Nat) : Bool :=
  if lsa.type = .network ∧ lsa.networkLsdescNbrRouterid b = v.advRouter then true
  else if v.type = .network ∧ lsa.lsdescType b = transitNetwork ∧
      lsa.lsdescNbrRouterid b = v.advRouter ∧ lsa.lsdescNbrIfid b = v.id then true
  else
    lsa.lsdescType b = pointToPoint ∧ v.lsdescType p = pointToPoint ∧
      lsa.lsdescNbrIfid b = v.lsdescIfid p ∧ v.lsdescNbrIfid p = lsa.lsdescIfid b ∧
      lsa.lsdescNbrRouterid b = v.advRouter ∧ v.lsdescNbrRouterid p = lsa.advRouter

def ospf6LsdescBacklink (lsa : SpfLsa) (p : Nat) (v : SpfLsa) : Bool :=
  lsa.lsdescs.any (backlinkAt lsa p v)

def multiPathLimit : Nat := 4

def nexthopZero : Nexthop := ⟨0, List.replicate 16 0⟩

def ospf6NexthopIsSet (x : Nexthop) : Bool := x.ifindex ≠ 0 ∨ ¬x.address.all (· = 0)

def ospf6NexthopIsSame (a b : Nexthop) : Bool := a.ifindex = b.ifindex ∧ a.address = b.address

def memcmp : List UInt8 → List UInt8 → Int
  | a :: l, b :: m => if a = b then memcmp l m else (a.toNat : Int) - b.toNat
  | _, _ => 0

/-- The order of next hops. -/
def ospf6NexthopCmp (x y : Nexthop) : Int :=
  if ospf6NexthopIsSet x ∧ ¬ospf6NexthopIsSet y then -1
  else if ospf6NexthopIsSet y ∧ ¬ospf6NexthopIsSet x then 1
  else if x.ifindex < y.ifindex then -1
  else if x.ifindex > y.ifindex then 1
  else memcmp x.address y.address

def sortNexthops (l : List Nexthop) : List Nexthop :=
  l.insertionSort fun x y => ospf6NexthopCmp x y ≤ 0

def ospf6SpfAddNexthop (existing : List Nexthop) (new : Nexthop) : List Nexthop × Bool :=
  if ¬ospf6NexthopIsSet new then (existing, true)
  else if existing.any fun x => ospf6NexthopIsSame x new then (existing, true)
  else
    match existing.findIdx? fun x => ¬ospf6NexthopIsSet x with
    | some i => (sortNexthops (existing.set i new), true)
    | none => (existing, false)

def nexthopArray (l : List Nexthop) : List Nexthop :=
  (l ++ List.replicate multiPathLimit nexthopZero).take multiPathLimit

def isLinklocal (a : List UInt8) : Bool :=
  match a with
  | a :: b :: _ => a = 0xfe ∧ b.toNat / 64 = 2
  | _ => false

/-- The interface to the routers next to `v` and the router behind the link description at `p`. -/
def calcIfindex (v : Vertex) (p : Nat) : UInt32 :=
  match v.lsa.type with
  | .network => (v.nexthop.headD nexthopZero).ifindex
  | .router => v.lsa.lsdescIfid p

def calcAdvRouter (v : SpfLsa) (p : Nat) : UInt32 :=
  match v.type with
  | .network => v.networkLsdescNbrRouterid p
  | .router => v.lsdescNbrRouterid p

variable (st : SpfState) (area : SpfArea) (oi : SpfInterface) (routerIsRoot : Bool)

/-- The next hops with an address on the interface `oi`. -/
def calcNexthops (v : Vertex) (p : Nat) : List Nexthop :=
  let lsas := oi.linkLsas.filter fun l => l.advRouter = calcAdvRouter v.lsa p
  if lsas.isEmpty then
    match oi.neighborList.find? fun on => on.routerId = calcAdvRouter v.lsa p with
    | some on =>
      if area.ipv6 ∧ isLinklocal on.linklocalAddr then [⟨calcIfindex v p, on.linklocalAddr⟩] else []
    | none => []
  else
    ((lsas.filter fun l => v.lsa.type = .network ∨ v.lsa.lsdescNbrIfid p = l.id).map
      fun l => ⟨calcIfindex v p, l.linklocalAddr⟩).take multiPathLimit

/-- The next hops of a vertex behind `v`; `none` when there is none. -/
def ospf6NexthopCalc (v : Vertex) (p : Nat) : Option (List Nexthop) :=
  match area.interfaces.find? fun oi => oi.ifindex = calcIfindex v p with
  | none => none
  | some oi =>
    let found := calcNexthops area oi v p
    if found = [] then
      if oi.type = .pointToPoint then some (nexthopArray [⟨calcIfindex v p, nexthopZero.address⟩])
      else none
    else some (nexthopArray found)

def SpfState.setNexthop (v : Nat) (l : List Nexthop) : SpfState :=
  { st with vertices := Function.update st.vertices v { st.vertices v with nexthop := l } }

def setNexthops (l : List Nexthop) : List Nexthop := l.takeWhile ospf6NexthopIsSet

def mergeNexthops : List Nexthop → List Nexthop → List Nexthop
  | existing, [] => existing
  | existing, new :: l =>
    let r := ospf6SpfAddNexthop existing new
    if r.2 then mergeNexthops r.1 l else r.1

def addNexthops (existing : List Nexthop) (l : List Nexthop) : List Nexthop :=
  l.foldl (fun e n => if ospf6NexthopIsSet n then (ospf6SpfAddNexthop e n).1 else e) existing

def SpfState.childList (v : Nat) : List Nat :=
  (List.range st.created).filter fun w => (st.vertices w).parent = some v

def ospf6VertexDelete (v : Nat) : SpfState :=
  { st with vertices := fun w =>
      if w = v ∨ (st.vertices w).parent = some v then { st.vertices w with parent := none }
      else st.vertices w }

def SpfState.route (x : UInt32 × UInt32) : Option SpfRoute :=
  st.routes.find? fun r => r.vertexId = x

def mergedNexthops (v : Nat) (route : SpfRoute) : List Nexthop :=
  mergeNexthops route.nexthop (setNexthops (st.vertices v).nexthop)

def SpfState.setRouteNexthop (route : SpfRoute) (nexthop : List Nexthop) : SpfState :=
  let routes := st.routes.map fun r : SpfRoute =>
    if r.vertexId = route.vertexId then { r with nexthop := nexthop } else r
  ({ st with routes := routes }).setNexthop route.vertex nexthop

/-- Another path of the same cost: its next hops go into the route, its vertex and that vertex' children. -/
def mergePath (v : Nat) (route : SpfRoute) : SpfState :=
  let nexthop := mergedNexthops st v route
  let st := st.setRouteNexthop route nexthop
  (st.childList route.vertex).foldl
    (fun st w => st.setNexthop w (addNexthops (st.vertices w).nexthop nexthop)) st

/-- Installs a vertex, or merges its next hops. -/
def ospf6SpfInstall (st : SpfState) (v : Nat) : Option (SpfState × Bool) :=
  let vertex := st.vertices v
  match st.route vertex.lsa.vertexId with
  | some route =>
    if route.cost < vertex.cost then some (ospf6VertexDelete st v, false)
    else if route.cost = vertex.cost then
      if (st.vertices route.vertex).hops ≤ vertex.hops then
        let st := if routerIsRoot then mergePath st v route else st
        some (ospf6VertexDelete st v, false)
      else none
    else none
  | none =>
    let nexthop := if routerIsRoot then setNexthops vertex.nexthop else []
    if routerIsRoot ∧ nexthop = [] ∧ vertex.lsa.advRouter ≠ area.routerId then none
    else some ({ st with routes := st.routes ++ [{
      vertexId := vertex.lsa.vertexId, cost := vertex.cost, hops := vertex.hops
      options := vertex.lsa.options, nexthop := nexthopArray nexthop, vertex := v }] }, true)

def enqueueVertex (vertex : Vertex) : SpfState :=
  let vertices := Function.update st.vertices st.created vertex
  { st with
    vertices := vertices, created := st.created + 1
    candidateList := pqueueEnqueue (ospf6VertexCmp vertices) st.created st.candidateList }

/-- The next hops of the candidate `w` behind `v`; `none` when it is not enqueued. -/
def candidateNexthops (v : Vertex) (p : Nat) (hops : UInt8) : Option (List Nexthop) :=
  if ¬routerIsRoot then some (nexthopArray [])
  else if hops = 0 then some (nexthopArray [⟨v.lsa.lsdescIfid p, nexthopZero.address⟩])
  else if hops = 1 ∧ v.hops = 0 then ospf6NexthopCalc area v p
  else some (nexthopArray (setNexthops v.nexthop))

def candidateCost (v : Vertex) (p : Nat) : UInt32 :=
  match v.lsa.type with
  | .router => v.cost + UInt32.ofNat (v.lsa.lsdescMetric p)
  | .network => v.cost

def candidateHops (v : Vertex) (lsa : SpfLsa) : UInt8 :=
  match v.lsa.type, lsa.type with
  | .router, .network => v.hops
  | _, _ => v.hops + 1

def spfCandidate (v : Nat) (vertex : Vertex) (p : Nat) : Option Vertex :=
  match ospf6LsdescLsa area.lsdb vertex.lsa p with
  | none => none
  | some lsa =>
    if ospf6LsdescBacklink lsa p vertex.lsa then
      (candidateNexthops area routerIsRoot vertex p (candidateHops vertex lsa)).map fun nexthop =>
        ⟨lsa, candidateCost vertex p, candidateHops vertex lsa, nexthop, some v⟩
    else none

def expandVertex (st : SpfState) (v : Nat) : SpfState :=
  let vertex := st.vertices v
  vertex.lsa.lsdescs.foldl (fun st p =>
    match spfCandidate area routerIsRoot v vertex p with
    | some w => enqueueVertex st w
    | none => st) st

/-- An MDR interface whose neighbors become candidates directly. -/
def SpfInterface.direct : Bool :=
  oi.type = .mdr ∧ ¬(oi.adjConnectivity = .fullyConnected ∧ oi.lsaFullness = .full)

def allRootNeighborsAdded : Bool :=
  area.ifList.all fun oi => oi.down ∨ oi.direct ∨ oi.type = .loopback

def neighborAddress (on : SpfNeighbor) : Option (List UInt8) :=
  match oi.linkLsas.find? fun l => l.id = on.ifindex ∧ l.advRouter = on.routerId with
  | some l => some l.linklocalAddr
  | none => if area.ipv6 ∧ isLinklocal on.linklocalAddr then some on.linklocalAddr else none

def neighborCandidate (on : SpfNeighbor) : Option Vertex := do
  if on.routable ∨ on.state = .full then
    let lsa ← ospf6SpfLsdbLookup area.lsdb .router 0 on.routerId
    let address ← neighborAddress area oi on
    some ⟨lsa, on.cost, 1, nexthopArray [⟨oi.ifindex, address⟩], some 0⟩
  else none

def rootNeighbors : List Vertex :=
  (area.ifList.filter fun oi => ¬oi.down ∧ oi.direct).flatMap fun oi =>
    oi.neighborList.filterMap (neighborCandidate area oi)

/-- One turn of the main loop. -/
def spfStep (st : SpfState) : Option SpfState :=
  let (v, candidateList) := pqueueDequeue (ospf6VertexCmp st.vertices) st.candidateList
  match ospf6SpfInstall area routerIsRoot { st with candidateList } v with
  | none => none
  | some (st, false) => some st
  | some (st, true) =>
    if v = 0 ∧ routerIsRoot ∧ allRootNeighborsAdded area then some st
    else some (expandVertex area routerIsRoot st v)

def spfLoop (area : SpfArea) (routerIsRoot : Bool) : Nat → SpfState → Option SpfState
  | 0, st => some st
  | fuel + 1, st =>
    if st.candidateList.size = 0 then some st
    else (spfStep area routerIsRoot st).bind (spfLoop area routerIsRoot fuel)

def spfFuel : Nat :=
  1 + (rootNeighbors area).length + (area.lsdb.map fun l => l.lsdescs.length).sum

def emptyVertex : Vertex := ⟨⟨.router, 0, 0, false, 0, fun _ => 0, 0⟩, 0, 0, [], none⟩

def spfInit : SpfState := ⟨fun _ => emptyVertex, 0, ⟨fun _ => 0, 0⟩, []⟩

def rootVertex (lsa : SpfLsa) : Vertex := ⟨lsa, 0, 0, nexthopArray [], none⟩

def spfStart (lsa : SpfLsa) : SpfState :=
  (if routerIsRoot then rootNeighbors area else []).foldl enqueueVertex
    (enqueueVertex spfInit (rootVertex lsa))

/-- The routes to the vertices of an area. -/
def ospf6SpfCalculation (routerId : UInt32) : Option SpfState :=
  match ospf6SpfLsdbLookup area.lsdb .router 0 routerId with
  | none => some spfInit
  | some lsa =>
    let routerIsRoot := decide (routerId = area.routerId)
    spfLoop area routerIsRoot (spfFuel area) (spfStart area routerIsRoot lsa)

end OspfMdr.Ospf6
