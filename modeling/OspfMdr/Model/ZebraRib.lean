import Mathlib.Tactic

/-!
# The RIB of zebra: entries, selection and the queue (`zebra_rib.c`, `redistribute.c`)

An entry has an address, which stands for the pointer to it. The queue status of a node is kept in
its first entry. What the kernel and the route maps decide is an input of a queue run. The order of
next hops is the one without `rib sort-nexthops`. Messages are those to one client.
-/

namespace OspfMdr.Zebra
open Function

inductive RouteType
  | system
  | kernel
  | connect
  | static
  | rip
  | ripng
  | ospf
  | ospf6
  | isis
  | bgp
  | hsls
  | olsr
  | babel
  deriving DecidableEq, Repr

inductive Afi
  | ip
  | ip6
  deriving DecidableEq, Repr

inductive Safi
  | unicast
  | multicast
  deriving DecidableEq, Repr

def Afi.maxPrefixlen : Afi → Nat
  | .ip => 32
  | .ip6 => 128

structure RoutePrefix where
  afi : Afi
  addr : Nat
  prefixlen : Nat
  deriving DecidableEq, Repr

def applyMask (p : RoutePrefix) : RoutePrefix :=
  { p with addr := p.addr - p.addr % 2 ^ (p.afi.maxPrefixlen - p.prefixlen) }

/-- A node of one of the four tables of the default VRF. -/
structure NodeKey where
  safi : Safi
  p : RoutePrefix
  deriving DecidableEq, Repr

inductive NexthopType
  | ifindex
  | ifname
  | ipv4
  | ipv4Ifindex
  | ipv6
  | ipv6Ifindex
  | ipv6Ifname
  | blackhole
  deriving DecidableEq, Repr

/-- `struct nexthop`; `active`, `fib` and `recursive` are its flags. -/
structure Nexthop where
  type : NexthopType
  ifindex : Nat := 0
  ifname : String := ""
  gate : Nat := 0
  rgate : Nat := 0
  active : Bool := false
  fib : Bool := false
  recursive : Bool := false
  deriving DecidableEq, Repr

/-- The bits `ZEBRA_FLAG_INTERNAL` to `ZEBRA_FLAG_REJECT`. -/
structure RibFlags where
  internal : Bool := false
  selfroute : Bool := false
  blackhole : Bool := false
  ibgp : Bool := false
  selected : Bool := false
  changed : Bool := false
  static : Bool := false
  reject : Bool := false
  deriving DecidableEq, Repr

def RibFlags.ofByte (b : BitVec 8) : RibFlags where
  internal := b.getLsbD 0
  selfroute := b.getLsbD 1
  blackhole := b.getLsbD 2
  ibgp := b.getLsbD 3
  selected := b.getLsbD 4
  changed := b.getLsbD 5
  static := b.getLsbD 6
  reject := b.getLsbD 7

/-- `struct rib`; `removed` is `RIB_ENTRY_REMOVED`. -/
structure Rib where
  addr : Nat
  type : RouteType
  distance : Nat
  metric : Nat
  table : Nat
  flags : RibFlags
  nexthop : List Nexthop
  removed : Bool := false
  refcnt : Nat := 0
  rnStatus : Fin 5 → Bool := fun _ => false

def distanceInfinity : Nat := 255

variable (env : Surroundings) (st : Rtable) (rn : NodeKey) (rib : Rib)

def Rib.isSystemRoute : Bool := rib.type == .kernel || rib.type == .connect

structure Interface where
  ifindex : Nat
  name : String
  operative : Bool
  deriving DecidableEq, Repr

/-- What `zsend_route_multipath` writes, and the entry it is called for. -/
structure RouteMessage where
  add : Bool
  p : RoutePrefix
  rib : Nat
  type : RouteType
  nexthop : Option (Nat × Nat)
  distance : Nat
  metric : Nat
  deriving DecidableEq, Repr

structure Client where
  redist : RouteType → Bool
  redistDefault : Bool

structure StaticRoute where
  type : NexthopType
  gate : Nat
  ifname : String
  distance : Nat
  flags : RibFlags
  deriving DecidableEq, Repr

/-- The tables, the queue and what was sent. -/
structure Rtable where
  nodes : NodeKey → List Rib
  known : List NodeKey
  subq : Fin 5 → List NodeKey
  stable : RoutePrefix → List StaticRoute
  interfaces : List Interface
  rtmTableDefault : Nat
  client : Client
  sent : List RouteMessage
  fresh : Nat

/-- The decisions taken outside of the RIB during a queue run. -/
structure Surroundings where
  denied : Afi → RoutePrefix → RouteType → Nexthop → Bool
  installed : RoutePrefix → Rib → Nexthop → Bool

namespace Rtable

def setNode (k : NodeKey) (info : List Rib) : Rtable :=
  { st with nodes := update st.nodes k info }

/-! ### Next hops -/

def isOperative (p : Interface → Bool) : Option Interface :=
  (st.interfaces.find? p).filter (·.operative)

/-- The nodes with entries on the way up from the longest match in the unicast table. -/
def routeNodeMatch (afi : Afi) (addr : Nat) : List (NodeKey × List Rib) :=
  ((List.range (afi.maxPrefixlen + 1)).reverse.map fun len =>
    let k : NodeKey := ⟨.unicast, applyMask ⟨afi, addr, len⟩⟩
    (k, st.nodes k)).filter fun n => !n.2.isEmpty

def pickSelected (info : List Rib) : Option Rib := info.find? fun m => !m.removed && m.flags.selected

/-- The loop of `nexthop_active_ipv4` and `_ipv6`; `floating` takes the interface of the match, `copies` its
gateway. -/
def activeWalk (rib : Rib) (set floating : Bool) (copies : NexthopType → Bool) (top : NodeKey)
    (nexthop : Nexthop) : List (NodeKey × List Rib) → Nexthop × Bool
  | [] => (nexthop, false)
  | (k, info) :: up =>
    if k = top then (nexthop, false)
    else match pickSelected info with
      | none => activeWalk rib set floating copies top nexthop up
      | some m =>
        if m.type = .bgp then activeWalk rib set floating copies top nexthop up
        else if m.type = .connect then
          match m.nexthop with
          | newhop :: _ => (if floating then { nexthop with ifindex := newhop.ifindex } else nexthop, true)
          | [] => (nexthop, true)
        else if !rib.flags.internal then
          match m.nexthop.find? fun newhop =>
              newhop.fib && !newhop.recursive && (floating || nexthop.ifindex == newhop.ifindex) with
          | some newhop => (if floating then { nexthop with ifindex := newhop.ifindex } else nexthop, true)
          | none => (nexthop, false)
        else match m.nexthop.find? fun newhop => newhop.fib && !newhop.recursive with
          | some newhop =>
            (if set then
              { nexthop with recursive := true, rgate := if copies newhop.type then newhop.gate else nexthop.rgate }
            else nexthop, true)
          | none => (nexthop, false)

def activeLookup (afi : Afi) (copies : NexthopType → Bool) (rib : Rib) (set : Bool)
    (top : NodeKey) (floating : Bool) (nexthop : Nexthop) : Nexthop × Bool :=
  let nexthop := if floating then { nexthop with ifindex := 0 } else nexthop
  let nexthop := if set then { nexthop with recursive := false } else nexthop
  activeWalk rib set floating copies top nexthop (st.routeNodeMatch afi nexthop.gate)

def nexthopActiveIpv4 (nexthop : Nexthop) (set : Bool) (top : NodeKey) : Nexthop × Bool :=
  st.activeLookup .ip (fun t => t == .ipv4 || t == .ipv4Ifindex) rib set top (nexthop.type == .ipv4) nexthop

def nexthopActiveIpv6 (nexthop : Nexthop) (set : Bool) (top : NodeKey) : Nexthop × Bool :=
  st.activeLookup .ip6 (fun t => t == .ipv6 || t == .ipv6Ifindex || t == .ipv6Ifname) rib set top
    (nexthop.type == .ipv6) nexthop

def isLinklocal (addr : Nat) : Bool := addr / 2 ^ 118 == 0x3fa

/-- The switch of `nexthop_active_check`, with the address family. -/
def nexthopReachable (nexthop : Nexthop) (set : Bool) : Nexthop × Bool × Option Afi :=
  let byIfindex := (st.isOperative fun ifp => ifp.ifindex == nexthop.ifindex).isSome
  let byName : Nexthop × Bool := match st.isOperative fun ifp => ifp.name == nexthop.ifname with
    | some ifp => (if set then { nexthop with ifindex := ifp.ifindex } else nexthop, true)
    | none => (if set then { nexthop with ifindex := 0 } else nexthop, false)
  match nexthop.type with
  | .ifindex => (nexthop, byIfindex, none)
  | .ifname => (byName.1, byName.2, none)
  | .ipv6Ifname => (byName.1, byName.2, some .ip6)
  | .ipv4 | .ipv4Ifindex =>
    let r := st.nexthopActiveIpv4 rib nexthop set rn
    (r.1, r.2, some .ip)
  | .ipv6 =>
    let r := st.nexthopActiveIpv6 rib nexthop set rn
    (r.1, r.2, some .ip6)
  | .ipv6Ifindex =>
    if isLinklocal nexthop.gate then (nexthop, byIfindex, some .ip6)
    else
      let r := st.nexthopActiveIpv6 rib nexthop set rn
      (r.1, r.2, some .ip6)
  | .blackhole => (nexthop, true, none)

def nexthopActiveCheck (nexthop : Nexthop) (set : Bool) : Nexthop :=
  let (nexthop, active, family) := st.nexthopReachable rn rib nexthop set
  if !active then { nexthop with active := false }
  else if rib.isSystemRoute || family.any (· ≠ rn.p.afi) then { nexthop with active := true }
  else { nexthop with active := !family.any fun afi => env.denied afi rn.p rib.type nexthop }

def nexthopActiveUpdate (set : Bool) : Rib :=
  let nexthop := rib.nexthop.map fun n => st.nexthopActiveCheck env rn rib n set
  let changed := (rib.nexthop.zip nexthop).any fun n =>
    n.1.active != n.2.active || n.1.ifindex != n.2.ifindex
  { rib with nexthop := nexthop, flags := { rib.flags with changed := changed } }

def nexthopActiveNum : Nat := rib.nexthop.countP (·.active) % 256

def ribInstallKernel (p : RoutePrefix) (rib : Rib) : Rib :=
  { rib with nexthop := rib.nexthop.map fun n => { n with fib := env.installed p rib n } }

def ribUninstallKernel : Rib :=
  { rib with nexthop := rib.nexthop.map fun n => { n with fib := false } }

/-! ### Redistribution -/

def isDefault (p : RoutePrefix) : Bool := p.afi == .ip && p.addr == 0 && p.prefixlen == 0

def wanted (p : RoutePrefix) (rib : Rib) : Bool :=
  (isDefault p && st.client.redistDefault) || st.client.redist rib.type

def zsendRouteMultipath (add : Bool) (p : RoutePrefix) (rib : Rib) : Rtable :=
  { st with sent := ⟨add, p, rib.addr, rib.type,
      (rib.nexthop.find? (·.fib)).map fun n => (n.gate, n.ifindex), rib.distance, rib.metric⟩ :: st.sent }

def redistributeAdd (p : RoutePrefix) (rib : Rib) : Rtable :=
  if st.wanted p rib then st.zsendRouteMultipath true p rib else st

def redistributeDelete (p : RoutePrefix) (rib : Rib) : Rtable :=
  if rib.distance = distanceInfinity then st
  else if st.wanted p rib then st.zsendRouteMultipath false p rib else st

/-! ### Entries of a node -/

def setRib : Rtable :=
  st.setNode rn ((st.nodes rn).map fun r => if r.addr = rib.addr then { rib with rnStatus := r.rnStatus } else r)

def headStatus (info : List Rib) (qindex : Fin 5) : Bool := (info.head?.map (·.rnStatus qindex)).getD false

def setHeadStatus (qindex : Fin 5) (queued : Bool) : List Rib → List Rib
  | [] => []
  | head :: info => { head with rnStatus := update head.rnStatus qindex queued } :: info

/-- Removes the entry at the address; the status moves on from a removed first entry. -/
def unlinkFrom (addr : Nat) : List Rib → List Rib
  | [] => []
  | head :: info =>
    if head.addr = addr then
      match info with
      | [] => []
      | next :: rest => { next with rnStatus := head.rnStatus } :: rest
    else head :: info.filter fun r => r.addr ≠ addr

/-- Takes an entry out of its node. -/
def ribUnlink (addr : Nat) : Rtable :=
  st.setNode rn (unlinkFrom addr (st.nodes rn))

def metaQueueMap : RouteType → Fin 5
  | .system => 4
  | .kernel => 0
  | .connect => 0
  | .static => 1
  | .rip => 2
  | .ripng => 2
  | .ospf => 2
  | .ospf6 => 2
  | .isis => 2
  | .bgp => 3
  | .hsls => 4
  | .olsr => 0
  | .babel => 2

def metaQueueAddOne (st : Rtable) (rib : Rib) : Rtable :=
  let qindex := metaQueueMap rib.type
  if headStatus (st.nodes rn) qindex then st
  else
    let st := st.setNode rn (setHeadStatus qindex true (st.nodes rn))
    { st with subq := update st.subq qindex (st.subq qindex ++ [rn]) }

def ribMetaQueueAdd : Rtable :=
  (st.nodes rn).foldl (metaQueueAddOne rn) st

def ribQueueAdd : Rtable :=
  if (st.nodes rn).isEmpty then st else st.ribMetaQueueAdd rn

def withStatusOf : List Rib → Rib
  | head :: _ => { rib with rnStatus := head.rnStatus }
  | [] => rib

def ribLink : Rtable :=
  (st.setNode rn (withStatusOf rib (st.nodes rn) :: st.nodes rn)).ribQueueAdd rn

def ribAddnode : Rtable :=
  if rib.removed then st.setRib rn { rib with removed := false } else st.ribLink rn rib

def ribDelnode : Rtable :=
  (st.setRib rn { rib with removed := true }).ribQueueAdd rn

def ribUninstall : Rtable :=
  if rib.flags.selected then
    let st := st.redistributeDelete rn.p rib
    let rib := if rib.isSystemRoute then rib else ribUninstallKernel rib
    st.setRib rn { rib with flags := { rib.flags with selected := false } }
  else st

/-! ### Selection -/

/-- Whether an entry is preferred to the one selected so far. -/
def beats (rib select : Rib) : Bool :=
  if rib.type = .connect then select.type != .connect || decide (rib.metric ≤ select.metric)
  else if select.type = .connect then false
  else if rib.distance > select.distance then false
  else if rib.distance < select.distance then true
  else decide (rib.metric ≤ select.metric)

structure ProcessScan where
  st : Rtable
  fib : Option Nat
  select : Option Rib
  del : Bool

/-- The loop of `rib_process`; `none` is its failed assertion. -/
def processStep (s : ProcessScan) (rib : Rib) : Option ProcessScan :=
  if rib.flags.selected && s.fib.isSome then none
  else
    let fib := if rib.flags.selected then some rib.addr else s.fib
    if rib.removed then
      if fib = some rib.addr then some { s with fib := fib, del := true }
      else some { s with st := s.st.ribUnlink rn rib.addr, fib := fib }
    else
      let rib := s.st.nexthopActiveUpdate env rn rib false
      let s := { s with st := s.st.setRib rn rib, fib := fib }
      if nexthopActiveNum rib = 0 then some s
      else if rib.distance = distanceInfinity then some s
      else match s.select with
        | none => some { s with select := some rib }
        | some select => some (if beats rib select then { s with select := some rib } else s)

def ribAt (addr : Nat) : Option Rib :=
  (st.nodes rn).find? fun r => r.addr == addr

def processSame (st : Rtable) (select : Rib) : Rtable :=
  if select.flags.changed then
    let st := st.redistributeDelete rn.p select
    let select := if select.isSystemRoute then select else ribUninstallKernel select
    let select := st.nexthopActiveUpdate env rn select true
    let select := if select.isSystemRoute then select else ribInstallKernel env rn.p select
    (st.setRib rn select).redistributeAdd rn.p select
  else if !select.isSystemRoute && !select.nexthop.any (·.fib) then
    st.setRib rn (ribInstallKernel env rn.p select)
  else st

def withdrawFib (st : Rtable) (fib : Rib) : Rtable :=
  let st := st.redistributeDelete rn.p fib
  let fib := if fib.isSystemRoute then fib else ribUninstallKernel fib
  let fib := { fib with flags := { fib.flags with selected := false } }
  st.setRib rn (st.nexthopActiveUpdate env rn fib true)

def installSelect (st : Rtable) (select : Rib) : Rtable :=
  let select := st.nexthopActiveUpdate env rn select true
  let select := if select.isSystemRoute then select else ribInstallKernel env rn.p select
  let select := { select with flags := { select.flags with selected := true } }
  (st.setRib rn select).redistributeAdd rn.p select

def withdrawOld (s : ProcessScan) : Rtable :=
  match s.fib.bind (s.st.ribAt rn) with
  | some fib => withdrawFib env rn s.st fib
  | none => s.st

def installNew (st : Rtable) : Option Rib → Rtable
  | some select => installSelect env rn st select
  | none => st

/-- The entry of the FIB may have been removed. -/
def unlinkDel (s : ProcessScan) (st : Rtable) : Rtable :=
  match s.del, s.fib with
  | true, some fib => st.ribUnlink rn fib
  | _, _ => st

def processEnd (s : ProcessScan) : Rtable :=
  match s.select with
  | some select =>
    if s.fib = some select.addr then processSame env rn s.st select
    else unlinkDel rn s (installNew env rn (withdrawOld env rn s) (some select))
  | none => unlinkDel rn s (installNew env rn (withdrawOld env rn s) none)

/-- Selects the entry of a node. -/
def ribProcess : Option Rtable :=
  ((st.nodes rn).foldlM (processStep env rn) ⟨st, none, none, false⟩).map (processEnd env rn)

def processSubq (qindex : Fin 5) (rn : NodeKey) (rest : List NodeKey) : Option Rtable :=
  (st.ribProcess env rn).map fun st =>
    { st.setNode rn (setHeadStatus qindex false (st.nodes rn)) with
      subq := update st.subq qindex rest }

/-- One turn of the queue. -/
def metaQueueProcess : Option Rtable :=
  match (List.finRange 5).find? fun i => !(st.subq i).isEmpty with
  | none => some st
  | some i =>
    match st.subq i with
    | [] => some st
    | rn :: rest => st.processSubq env i rn rest

end Rtable

end OspfMdr.Zebra
