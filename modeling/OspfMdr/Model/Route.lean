import OspfMdr.Lib.LinkedSegment

/-!
# Route tables (`ospf6_route.c`)

A route table is a doubly linked list of the routes of all prefixes, in the order of the
trie nodes, and a pointer from each trie node to the first route of its prefix. Routes
live at addresses; `none` stands for a failed assertion.
-/

namespace OspfMdr.Ospf6
open Lib

inductive DestType
  | none
  | router
  | network
  | discard
  | linkstate
  | range
  deriving DecidableEq, Repr

def DestType.toNat : DestType → Nat
  | .none => 0
  | .router => 1
  | .network => 2
  | .discard => 3
  | .linkstate => 4
  | .range => 5

inductive PathType
  | none
  | link
  | intra
  | inter
  | external1
  | external2
  | redistribute
  deriving DecidableEq, Repr

def PathType.toNat : PathType → Nat
  | .none => 0
  | .link => 1
  | .intra => 2
  | .inter => 3
  | .external1 => 4
  | .external2 => 5
  | .redistribute => 6

/-- The first `prefixlen` bits of the address, and the bits behind them. -/
structure Prefix where
  bits : List Bool
  host : List Bool
  deriving DecidableEq, Repr

structure LsOrigin where
  type : UInt16
  id : UInt32
  advRouter : UInt32
  deriving DecidableEq, Repr

/-- `area_id` is kept in host byte order. -/
structure Path where
  origin : LsOrigin
  routerBits : UInt8
  options : List UInt8
  prefixOptions : UInt8
  areaId : UInt32
  type : PathType
  subtype : UInt8
  metricType : UInt8
  cost : UInt32
  costE2 : UInt32
  deriving DecidableEq, Repr

structure Nexthop where
  ifindex : UInt32
  address : List UInt8
  deriving DecidableEq, Repr

structure RouteFlag where
  change : Bool
  add : Bool
  remove : Bool
  best : Bool
  activeSummary : Bool
  doNotAdvertise : Bool
  wasRemoved : Bool
  deriving DecidableEq, Repr

/-- `struct ospf6_route`; `rnode` is the trie node of the route and `table` says whether the
table pointer is set. -/
structure Route where
  rnode : Option (List Bool)
  table : Bool
  prev : Option Nat
  next : Option Nat
  lock : Nat
  type : DestType
  routePrefix : Prefix
  installed : Nat
  changed : Nat
  flag : RouteFlag
  path : Path
  nexthop : List Nexthop
  deriving DecidableEq, Repr

def ospf6RouteIsSame (ra rb : Route) : Bool := ra.routePrefix.bits = rb.routePrefix.bits

/-- Whether area and link-state origin are the same. -/
def ospf6RouteIsSameOrigin (ra rb : Route) : Bool :=
  ra.path.areaId = rb.path.areaId ∧ ra.path.origin = rb.path.origin

def ospf6RouteIsIdentical (ra rb : Route) : Bool :=
  ra.type = rb.type ∧ ra.routePrefix = rb.routePrefix ∧ ra.path = rb.path ∧
    ra.nexthop = rb.nexthop

/-- A difference of two unsigned 32-bit numbers that is returned as an `int`. -/
def unsignedCmp (a b : UInt32) : Int := (a - b).toBitVec.toInt

/-- Negative when `ra` is more preferred, positive when `rb` is. -/
def ospf6RouteCmp (ra rb : Route) : Option Int :=
  if ¬ospf6RouteIsSame ra rb then none
  else if ra.path.type = .none ∨ rb.path.type = .none then none
  else if ra.type ≠ rb.type then some (ra.type.toNat - rb.type.toNat)
  else if ra.path.areaId ≠ rb.path.areaId then some (unsignedCmp ra.path.areaId rb.path.areaId)
  else if ra.path.type ≠ rb.path.type then some (ra.path.type.toNat - rb.path.type.toNat)
  else if ra.path.type = .external2 then
    if ra.path.costE2 ≠ rb.path.costE2 then some (unsignedCmp ra.path.costE2 rb.path.costE2)
    else some 0
  else if ra.path.cost ≠ rb.path.cost then some (unsignedCmp ra.path.cost rb.path.cost)
  else some 0

/-- `nodes` are the trie nodes in the order of `route_next`, and `info` is the pointer of a
node to its first route. -/
structure RouteTable where
  routes : Nat → Route
  nodes : List (List Bool)
  info : List Bool → Option Nat
  count : Nat

variable (t : RouteTable) (now : Nat) (id : Nat)

namespace RouteTable

def modify (f : Route → Route) : RouteTable :=
  { t with routes := Function.update t.routes id (f (t.routes id)) }

def modifyAt (id : Option Nat) (f : Route → Route) : RouteTable :=
  match id with
  | none => t
  | some id => t.modify id f

def setInfo (node : List Bool) (id : Option Nat) : RouteTable :=
  { t with info := Function.update t.info node id }

def key : List Bool := (t.routes id).routePrefix.bits

end RouteTable

/-- The order of the trie is the lexicographic order of the prefix bits. -/
def insertNode (p : List Bool) : List (List Bool) → List (List Bool)
  | [] => [p]
  | node :: nodes =>
    if p = node then node :: nodes
    else if p < node then p :: node :: nodes
    else node :: insertNode p nodes

def routeNodeGet (p : List Bool) : RouteTable :=
  { t with nodes := insertNode p t.nodes }

def nextNode (node : List Bool) : Option (List Bool) :=
  ((t.nodes.dropWhile (· ≠ node)).drop 1).find? fun n => (t.info n).isSome

def prevNode (node : List Bool) : Option (List Bool) :=
  (t.nodes.takeWhile (· ≠ node)).reverse.find? fun n => (t.info n).isSome

def ospf6RouteHead : Option Nat :=
  (t.nodes.find? fun n => (t.info n).isSome).bind t.info

/-- The routes of a prefix, as one reads them from its trie node on. -/
def RouteTable.chain (p : List Bool) : List Nat :=
  follow (fun r => (t.routes r).next) (fun r => t.key r = p) (t.count + 1) (t.info p)

/-- `route_table_assert`: the backward links and the number of routes. -/
def ospf6RouteTableAssert : Bool :=
  let l := follow (fun r => (t.routes r).next) (fun _ => true) (t.count + 1) (ospf6RouteHead t)
  (l.zip (none :: l.map some)).all (fun x => (t.routes x.1).prev = x.2) && l.length == t.count

def ospf6RouteLock : RouteTable :=
  t.modify id fun r => { r with lock := r.lock + 1 }

/-- The last unlock detaches the route from its table and frees it. -/
def ospf6RouteUnlock : Option RouteTable :=
  if (t.routes id).lock > 0 then
    some (t.modify id fun r =>
      if r.lock - 1 = 0 then { r with lock := 0, table := false } else { r with lock := r.lock - 1 })
  else none

structure Place where
  prev : Option Nat
  old : Option Nat
  next : Option Nat

/-- Where a route goes in the chain of its prefix. -/
def findPlace (t : RouteTable) (route : Route) : Nat → Option Nat → Option Nat → Option Place
  | 0, _, prev => some ⟨prev, none, none⟩
  | _ + 1, none, prev => some ⟨prev, none, none⟩
  | fuel + 1, some current, prev =>
    if ¬ospf6RouteIsSame (t.routes current) route then some ⟨prev, none, some current⟩
    else if (t.routes current).type ≠ route.type then
      findPlace t route fuel (t.routes current).next (some current)
    else if ospf6RouteIsSameOrigin (t.routes current) route then some ⟨prev, some current, none⟩
    else
      match ospf6RouteCmp (t.routes current) route with
      | none => none
      | some c =>
        if c > 0 then some ⟨prev, none, some current⟩
        else findPlace t route fuel (t.routes current).next (some current)

def linkRoute (prev : Option Nat) (id : Nat) (next : Option Nat) : RouteTable :=
  let t := t.modifyAt prev fun r => { r with next := some id }
  let t := t.modify id fun r => { r with prev := prev }
  let t := t.modifyAt next fun r => { r with prev := some id }
  t.modify id fun r => { r with next := next }

def setBest (best : Bool) (r : Route) : Route := { r with flag := { r.flag with best := best } }

def checked : Option (RouteTable × Nat) :=
  if ospf6RouteTableAssert t then some (t, id) else none

def takeHead (id old : Nat) : RouteTable :=
  if t.info (t.key id) = some old then
    (t.setInfo (t.key id) (some id)).modify id (setBest true)
  else t

def replaceOld (id old : Nat) : Option (RouteTable × Nat) := do
  if ospf6RouteIsIdentical (t.routes old) (t.routes id) then
    checked (t.modify old fun r => { r with flag := { r.flag with add := true } }) old
  else
    let t := takeHead t id old
    let t := linkRoute t (t.routes old).prev id (t.routes old).next
    let installed := (t.routes old).installed
    if (t.routes id).table then none
    else
      let t := t.modify id fun r => { r with installed := installed, changed := now, table := true }
      let t ← ospf6RouteUnlock t old
      let t := ospf6RouteLock t id
      checked (t.modify id fun r => { r with flag := { r.flag with change := true } }) id

def installRoute : Option (RouteTable × Nat) :=
  if (t.routes id).table then none
  else
    let t := t.modify id fun r =>
      { r with installed := now, changed := now, table := true, lock := r.lock + 1,
               flag := { r.flag with add := true } }
    checked { t with count := t.count + 1 } id

def insertBetween (prev next : Option Nat) : Option (RouteTable × Nat) :=
  let node := t.key id
  let prev' := prev.or (next.bind fun n => (t.routes n).prev)
  let next' := next.or (prev'.bind fun p => (t.routes p).next)
  let t := linkRoute t prev' id next'
  match next' with
  | none => if t.info node = none then none else installRoute t now id
  | some n =>
    if t.info node = some n then
      if (t.routes n).rnode ≠ some node then none
      else installRoute
        (((t.setInfo node (some id)).modify n (setBest false)).modify id (setBest true)) now id
    else installRoute t now id

def lastOfChain (t : RouteTable) : Nat → Nat → Nat
  | 0, prev => prev
  | fuel + 1, prev =>
    match (t.routes prev).next with
    | none => prev
    | some n =>
      if ospf6RouteIsSame (t.routes prev) (t.routes n) then lastOfChain t fuel n else prev

def insertNew : Option (RouteTable × Nat) :=
  let node := t.key id
  if (t.info node).isSome then none
  else
    let t := (t.setInfo node (some id)).modify id (setBest true)
    let next := (nextNode t node).bind t.info
    let prev := ((prevNode t node).bind t.info).map (lastOfChain t t.count)
    installRoute (linkRoute t prev id next) now id

/-- Adds a route, or replaces the one it finds. -/
def ospf6RouteAdd : Option (RouteTable × Nat) := do
  let route := t.routes id
  if route.rnode.isSome ∨ route.lock ≠ 0 ∨ route.next.isSome ∨ route.prev.isSome then none
  else
    let node := route.routePrefix.bits
    let t := (routeNodeGet t node).modify id fun r => { r with rnode := some node }
    let place ← findPlace t route (t.count + 1) (t.info node) none
    match place.old with
    | some old => replaceOld t now id old
    | none =>
      if place.prev.isSome ∨ place.next.isSome then insertBetween t now id place.prev place.next
      else insertNew t now id

/-- The node of a removed route goes to the next route of the prefix. -/
def moveHead : RouteTable :=
  if t.info (t.key id) = some id then
    match (t.routes id).next with
    | some n =>
      if ospf6RouteIsSame (t.routes n) (t.routes id) then
        (t.setInfo (t.key id) (some n)).modify n (setBest true)
      else t.setInfo (t.key id) none
    | none => t.setInfo (t.key id) none
  else t

def unlinkRoute : RouteTable :=
  let route := t.routes id
  let t := t.modifyAt route.prev fun r => { r with next := route.next }
  t.modifyAt route.next fun r => { r with prev := route.prev }

/-- Removes a route. -/
def ospf6RouteRemove : Option RouteTable :=
  if (t.routes id).flag.wasRemoved then none
  else if (t.info (t.key id)).isNone then none
  else if id ∉ t.chain (t.key id) then none
  else
    let t := t.modify id fun r => { r with flag := { r.flag with wasRemoved := true } }
    let t := unlinkRoute (moveHead t id) id
    let t := { t with count := t.count - 1 }
    if ospf6RouteTableAssert t then ospf6RouteUnlock t id else none

def ospf6RouteCreate : Route where
  rnode := none
  table := false
  prev := none
  next := none
  lock := 0
  type := .none
  routePrefix := ⟨[], []⟩
  installed := 0
  changed := 0
  flag := ⟨false, false, false, false, false, false, false⟩
  path := ⟨⟨0, 0, 0⟩, 0, [], 0, 0, .none, 0, 0, 0, 0⟩
  nexthop := []

/-- A route as `ospf6_route_create` or `ospf6_route_copy` made it and the callers filled it in. -/
def newRoute (r : Route) : Route :=
  { ospf6RouteCreate with
    type := r.type, routePrefix := r.routePrefix, path := r.path, nexthop := r.nexthop
    flag := { ospf6RouteCreate.flag with
      activeSummary := r.flag.activeSummary, doNotAdvertise := r.flag.doNotAdvertise } }

def ospf6RouteTableCreate : RouteTable := ⟨fun _ => ospf6RouteCreate, [], fun _ => none, 0⟩

inductive RouteOp
  | add (now id : Nat) (route : Route)
  | remove (id : Nat)

/-- One call. A new route gets memory that no route of the table uses. -/
def routeStep : RouteOp → Option RouteTable
  | .add now id route =>
    if (t.routes id).lock = 0 then
      (ospf6RouteAdd (t.modify id fun _ => newRoute route) now id).map Prod.fst
    else none
  | .remove id => ospf6RouteRemove t id

def routeRun (t : RouteTable) : List RouteOp → Option RouteTable
  | [] => some t
  | op :: ops => (routeStep t op).bind fun t => routeRun t ops

/-! ## Area ranges (`ospf6_abr.c`, `ospf6_area.c`), without the summary-LSAs -/

variable (t : RouteTable) (p : List Bool) (range : Route)

/-- The walk down the trie ends behind the proper prefixes of `p`. -/
def ospf6RouteMatchHead : Option Nat :=
  match t.nodes.find? fun n => (t.info n).isSome ∧ p ≤ n with
  | none => none
  | some n => if p.isPrefixOf n then t.info n else none

/-- The routes that `ospf6_route_match_head` and `ospf6_route_match_next` go through. -/
def ospf6RouteMatches : List Nat :=
  follow (fun r => (t.routes r).next) (fun r => p.isPrefixOf (t.key r)) (t.count + 1)
    (ospf6RouteMatchHead t p)

structure AreaRange where
  areaId : UInt32
  range : Route
  active : range.flag.activeSummary = decide (range.path.cost ≠ 0)

/-- The command `area_range`, which leaves `path.area_id` 0. -/
def areaRange (areaId : UInt32) (routePrefix : Prefix) : AreaRange where
  areaId := areaId
  range := { ospf6RouteCreate with type := .range, routePrefix := routePrefix }
  active := rfl

def rangeCounts (ro : Nat) : Bool :=
  (t.routes ro).path.areaId = range.path.areaId ∧ ¬(t.routes ro).flag.wasRemoved

def rangeCost : UInt32 :=
  (((ospf6RouteMatches t range.routePrefix.bits).filter (rangeCounts t range)).map fun ro =>
    (t.routes ro).path.cost).foldl (fun cost c => if cost < c then c else cost) 0

/-- The range's cost and whether it is active. -/
def ospf6AbrRangeUpdate (a : AreaRange) : AreaRange :=
  let cost := rangeCost t a.range
  if a.range.path.cost ≠ cost then
    { a with
      range := { a.range with
        path := { a.range.path with cost := cost }
        flag := { a.range.flag with activeSummary := cost ≠ 0 } }
      active := rfl }
  else a

end OspfMdr.Ospf6
