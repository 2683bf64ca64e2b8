import OspfMdr.Model.Adjacency

/-!
# Neighbor events of an interface (`ospf6_neighbor.c`, `ospf6_message.c`, `ospf6_mdr_message.c`)

The neighbor state machine for all neighbors of an interface together. The router ID names the
neighbor of an event: a neighbor is created only if `ospf6_neighbor_lookup` finds none.
-/

namespace OspfMdr.Ospf6
open NeighborState

/-- The time since the process started, and the routers with a route in the SPF table. -/
structure AdjEnv where
  elapsed : Nat
  route : Nat → Bool

def NeighborState.isForming (state : NeighborState) : Bool :=
  state.toNat > twoway.toNat ∧ state.toNat < full.toNat

variable (env : AdjEnv) (oi : AdjInterface) (on : AdjNeighbor) (routerId : Nat)

def ospf6InterfaceAdjacencyFormationCount : Nat :=
  (oi.neighborList.filter (·.state.isForming)).length

def AdjInterface.modify (f : AdjNeighbor → AdjNeighbor) : AdjInterface :=
  { oi with neighborList := oi.neighborList.map fun on => if on.routerId = routerId then f on else on }

def AdjInterface.setState (next : NeighborState) : AdjInterface :=
  oi.modify routerId fun on => { on with state := next }

def fullLsaRequires : Bool := on.routable || decide (on.state = .full)

def selectedAdvertised : Bool :=
  on.selAdv || decide (oi.routerId ∈ on.sanl) || ospf6MdrBackbone oi on

def minimalLsaRequires : Bool :=
  decide (on.state = .full) || (on.routable && selectedAdvertised oi on)

def mincostLsaRequires : Bool :=
  (fullLsaRequires on && selectedAdvertised oi on) ||
    (oi.config.adjConnectivity != .fullyConnected && decide (on.state = .full))

/-- The neighbors to advertise by `ospf6_LSAFullness`: MDRs and BMDRs originate full LSAs with
`OSPF6_LSA_FULLNESS_MDRFULL`. -/
def lsaRequires : Bool :=
  match oi.config.lsaFullness with
  | .min => minimalLsaRequires oi on
  | .minCost | .minCost2Paths => mincostLsaRequires oi on
  | .mdrFull => if oi.mdrLevel = .other then minimalLsaRequires oi on else fullLsaRequires on
  | .full => fullLsaRequires on

def AdjInterface.lsaRecord : LsaRecord :=
  ⟨oi.config.adjConnectivity, oi.config.lsaFullness, oi.mdrLevel,
    oi.neighborList.map fun on => ⟨on.state, on.routable, on.adv, lsaRequires oi on⟩⟩

def AdjInterface.updateLsa : AdjInterface :=
  let oi := (ospf6MdrUpdateLsa env.route oi).1
  { oi with lsaLog := oi.lsaLog ++ [oi.lsaRecord] }

/-- `ospf6_neighbor_state_change` to TwoWay or ExStart, after which at most the LSA is to be updated. -/
def AdjInterface.raise (next : NeighborState) : AdjInterface :=
  let oi := oi.setState on.routerId next
  if oi.type = .mdr ∧ on.state.toNat < twoway.toNat then
    oi.updateLsa env
  else oi

def exstartDeferred : Bool :=
  oi.config.adjacencyFormationLimit > 0 ∧
    ospf6InterfaceAdjacencyFormationCount oi ≥ oi.config.adjacencyFormationLimit

def AdjInterface.exstart (env : AdjEnv) (oi : AdjInterface) (on : AdjNeighbor) : AdjInterface :=
  if exstartDeferred oi then oi else oi.raise env on .exstart

def formAdjacencies (ids : List Nat) : AdjInterface :=
  ids.foldl (fun oi id => match oi.lookup id with
    | some on => if on.state = .twoway ∧ needAdjacency oi on then oi.exstart env on else oi
    | none => oi) oi

def dropAdjacencies (ids : List Nat) : AdjInterface :=
  ids.foldl (fun oi id => match oi.lookup id with
    | some on =>
      if on.state.toNat > twoway.toNat ∧ ¬keepAdjacency oi on then oi.raise env on .twoway
      else oi
    | none => oi) oi

def AdjInterface.ids : List Nat := oi.neighborList.map (·.routerId)

def AdjInterface.updateAdjacencies : AdjInterface :=
  let oi := formAdjacencies env oi oi.ids
  dropAdjacencies env oi oi.ids

/-- The calculation, the adjacencies and the LSA, as after the loss of a neighbor. -/
def AdjInterface.recalculate : AdjInterface :=
  ((oi.calculateMdr env.elapsed).updateAdjacencies env).updateLsa env

def ospf6MdrNeighborStateChange (prev next : NeighborState) : AdjInterface :=
  if prev.toNat ≥ twoway.toNat ∧ next.toNat < twoway.toNat then
    oi.recalculate env
  else if (prev.toNat < twoway.toNat ∧ next.toNat ≥ twoway.toNat) ∨
      next = .full then
    oi.updateLsa env
  else oi

def AdjInterface.startNext : AdjInterface :=
  match oi.neighborList.find? fun on => on.state = .twoway ∧ needAdjacency oi on with
  | some on => oi.exstart env on
  | none => oi

def AdjInterface.stateChanged (prev next : NeighborState) : AdjInterface :=
  if prev = next then oi
  else
    let oi := if oi.type = .mdr then ospf6MdrNeighborStateChange env oi prev next else oi
    if oi.config.adjacencyFormationLimit > 0 ∧ next = .full ∧
        ospf6InterfaceAdjacencyFormationCount oi < oi.config.adjacencyFormationLimit then
      oi.startNext env
    else oi

/-- A neighbor's change of state, with all it causes. -/
def ospf6NeighborStateChange (next : NeighborState) : AdjInterface :=
  (oi.setState on.routerId next).stateChanged env on.state next

def newAdjNeighbor (routerId handle priority drouter bdrouter : Nat) : AdjNeighbor where
  routerId := routerId
  priority := priority
  state := .down
  mdrLevel := .other
  report2Hop := false
  rnl := []
  dependent := false
  handle := handle
  drouter := drouter
  bdrouter := bdrouter
  consecHellos := 0
  aBit := false
  reverse2way := false
  dnl := []
  sanl := []
  dependentSelector := false
  child := false
  routable := false
  adv := false
  selAdv := false

/-- What a Hello brings: the fields of the packet, and what is left in the lists of the neighbor
after it. -/
structure HelloInfo where
  priority : Nat
  drouter : Nat
  bdrouter : Nat
  twoway : Bool
  aBit : Bool
  report2Hop : Bool
  reverse2way : Bool
  consecHellos : Nat
  rnl : List Nat
  dnl : List Nat
  sanl : List Nat
  deriving DecidableEq, Repr

/-- `ospf6_mdr_hello_recv` before the neighbor events. -/
def readMdrHello (own : Nat) (h : HelloInfo) (on : AdjNeighbor) : AdjNeighbor :=
  (ospf6MdrSetMdrLevel own h.drouter h.bdrouter { on with
    aBit := h.aBit
    report2Hop := h.report2Hop
    reverse2way := h.reverse2way
    consecHellos := h.consecHellos
    rnl := h.rnl
    dnl := h.dnl
    sanl := h.sanl
    dependentSelector := own ∈ h.dnl
    priority := h.priority
    drouter := h.drouter
    bdrouter := h.bdrouter }).1

/-- `ospf6_hello_recv` before the neighbor events, on other interfaces. -/
def readHello (h : HelloInfo) (on : AdjNeighbor) : AdjNeighbor :=
  { on with priority := h.priority, drouter := h.drouter, bdrouter := h.bdrouter }

def readDdTlv (own : Nat) (tlv : Nat × Nat) (on : AdjNeighbor) : AdjNeighbor :=
  let on := (ospf6MdrSetMdrLevel own tlv.1 tlv.2 on).1
  if on.mdrLevel = .mdr ∨ on.mdrLevel = .bmdr then { on with dependentSelector := true } else on

namespace AdjInterface

def withNeighbor (f : AdjNeighbor → AdjInterface) : AdjInterface :=
  match oi.lookup routerId with
  | some on => f on
  | none => oi

def helloReceived : AdjInterface :=
  oi.withNeighbor routerId fun on =>
    if on.state.toNat ≤ down.toNat ∧
        (oi.type ≠ .mdr ∨ on.consecHellos ≥ oi.config.consecHelloThreshold) then
      ospf6NeighborStateChange env oi on .init
    else oi

def twowayReceived : AdjInterface :=
  oi.withNeighbor routerId fun on =>
    if on.state.toNat > init.toNat then oi
    else if oi.type = .mdr then
      if on.state = .init then oi.raise env on .twoway else oi
    else if ¬needAdjacency oi on then oi.raise env on .twoway
    else oi.exstart env on

def onewayReceived : AdjInterface :=
  oi.withNeighbor routerId fun on =>
    if on.state.toNat < twoway.toNat then oi
    else ospf6NeighborStateChange env oi on .init

def tryExstart : AdjInterface :=
  oi.withNeighbor routerId fun on =>
    if on.state = .twoway ∧ needAdjacency oi on then oi.exstart env on else oi

def helloRecv (h : HelloInfo) : AdjInterface :=
  let read := if oi.type = .mdr then readMdrHello oi.routerId h else readHello h
  let oi := (oi.modify routerId read).helloReceived env routerId
  let oi := if h.twoway then oi.twowayReceived env routerId else oi.onewayReceived env routerId
  if oi.type = .mdr then oi.tryExstart env routerId else oi

def negotiationDone : AdjInterface :=
  oi.withNeighbor routerId fun on =>
    if on.state ≠ .exstart then oi else ospf6NeighborStateChange env oi on .exchange

/-- A Database Description packet; `negotiated` is that it ends the negotiation. -/
def dbdescRecv (tlv : Option (Nat × Nat)) (negotiated : Bool) : AdjInterface :=
  let oi :=
    if oi.type = .mdr then
      let oi := match tlv with
        | some tlv => oi.modify routerId (readDdTlv oi.routerId tlv)
        | none => oi
      let oi := oi.withNeighbor routerId fun on =>
        if on.state = .init then oi.raise env on .twoway else oi
      oi.tryExstart env routerId
    else oi.withNeighbor routerId fun on =>
      if on.state = .init then oi.twowayReceived env routerId else oi
  if negotiated then oi.negotiationDone env routerId else oi

/-- `requests` is that the request list is not empty. -/
def exchangeDone (requests : Bool) : AdjInterface :=
  oi.withNeighbor routerId fun on =>
    if on.state ≠ .exchange then oi
    else ospf6NeighborStateChange env oi on (if requests then .loading else .full)

def loadingDone : AdjInterface :=
  oi.withNeighbor routerId fun on =>
    if on.state ≠ .loading then oi else ospf6NeighborStateChange env oi on .full

def adjOk : AdjInterface :=
  oi.withNeighbor routerId fun on =>
    if on.state = .twoway ∧ needAdjacency oi on then oi.exstart env on
    else if on.state.toNat ≥ NeighborState.exstart.toNat ∧ ¬needAdjacency oi on then
      oi.raise env on .twoway
    else oi

/-- SeqNumberMismatch and BadLSReq go back to ExStart through `__ospf6_neighbor_exstart`. -/
def restart : AdjInterface :=
  oi.withNeighbor routerId fun on =>
    if on.state.toNat < exchange.toNat then oi else oi.raise env on .exstart

def remove : AdjInterface :=
  { oi with neighborList := oi.neighborList.filter fun on => on.routerId ≠ routerId }

def inactivityTimer : AdjInterface :=
  oi.withNeighbor routerId fun on =>
    (ospf6NeighborStateChange env oi on .down).remove routerId

/-- One turn of `ospf6_interface_delete_neighbors`: the neighbor leaves the list first. -/
def deleteFirst : AdjInterface :=
  match oi.neighborList with
  | [] => oi
  | on :: l => ({ oi with neighborList := l }).stateChanged env on.state .down

def create (routerId priority drouter bdrouter : Nat) : AdjInterface :=
  match oi.lookup routerId with
  | some _ => oi
  | none =>
    { oi with
      neighborList := List.orderedInsert (fun a b => a.routerId < b.routerId)
        (newAdjNeighbor routerId oi.created priority drouter bdrouter) oi.neighborList
      created := oi.created + 1 }

end AdjInterface

inductive AdjEvent
  | create (routerId priority drouter bdrouter : Nat)
  | hello (routerId : Nat) (h : HelloInfo)
  | dbdesc (routerId : Nat) (tlv : Option (Nat × Nat)) (negotiated : Bool)
  | exchangeDone (routerId : Nat) (requests : Bool)
  | loadingDone (routerId : Nat)
  | adjOk (routerId : Nat)
  | seqnumberMismatch (routerId : Nat)
  | badLsreq (routerId : Nat)
  | inactivityTimer (routerId : Nat)
  | deleteFirst
  | helloSend
  | spf
  | setType (type : IfType)
  | elected (state : InterfaceState) (drouter bdrouter : Nat)
  | configure (config : AdjConfig)
  deriving DecidableEq, Repr

/-- One event of the interface. -/
def adjStep (e : AdjEnv × AdjEvent) : AdjInterface :=
  let env := e.1
  match e.2 with
  | .create routerId priority drouter bdrouter => oi.create routerId priority drouter bdrouter
  | .hello routerId h => oi.helloRecv env routerId h
  | .dbdesc routerId tlv negotiated => oi.dbdescRecv env routerId tlv negotiated
  | .exchangeDone routerId requests => oi.exchangeDone env routerId requests
  | .loadingDone routerId => oi.loadingDone env routerId
  | .adjOk routerId => oi.adjOk env routerId
  | .seqnumberMismatch routerId => oi.restart env routerId
  | .badLsreq routerId => oi.restart env routerId
  | .inactivityTimer routerId => oi.inactivityTimer env routerId
  | .deleteFirst => oi.deleteFirst env
  | .helloSend => if oi.type = .mdr then oi.recalculate env else oi
  | .spf => if oi.type = .mdr then (ospf6MdrUpdateRoutableNeighbors env.route oi).1 else oi
  | .setType type => { oi with type }
  | .elected state drouter bdrouter => { oi with state, drouter, bdrouter }
  | .configure config => { oi with config }

def adjRun (events : List (AdjEnv × AdjEvent)) : AdjInterface :=
  events.foldl adjStep oi

def newAdjInterface (config : AdjConfig) : AdjInterface where
  routerId := routerId
  type := .none
  state := .down
  drouter := 0
  bdrouter := 0
  config := config
  mdrLevel := .other
  nonfloodingMdr := false
  parent := none
  bparent := none
  neighborList := []
  created := 0
  lsaLog := []

end OspfMdr.Ospf6
