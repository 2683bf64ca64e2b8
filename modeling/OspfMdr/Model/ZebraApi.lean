import OspfMdr.Model.ZebraRib

/-!
# Changes of the RIB of zebra (`zebra_rib.c`, `zserv.c`, `connected.c`)

The messages of clients, the static configuration, the notifications of the kernel and the changes
of interfaces. `none` stands for a failed assertion or an access outside of an array.
-/

namespace OspfMdr.Zebra

/-- The array index of a type; there is no entry for other bytes. -/
def RouteType.ofByte (b : BitVec 8) : Option RouteType :=
  [RouteType.system, .kernel, .connect, .static, .rip, .ripng, .ospf, .ospf6, .isis, .bgp, .hsls, .olsr,
    .babel][b.toNat]?

/-- `vrf_table`: the table of a SAFI, which may be missing, or an access behind `SAFI_MAX`. -/
def vrfTable (safi : BitVec 16) : Option (Option Safi) :=
  [none, some Safi.unicast, some .multicast, none, none][safi.toNat]?

def routeInfoDistance : RouteType → Nat
  | .system => 0
  | .kernel => 0
  | .connect => 0
  | .static => 1
  | .rip => 120
  | .ripng => 120
  | .ospf => 110
  | .ospf6 => 110
  | .isis => 115
  | .bgp => 20
  | .hsls => 0
  | .olsr => 0
  | .babel => 95

inductive ZapiNexthop
  | ifindex (ifindex : Nat)
  | ifname
  | ipv4 (addr : Nat)
  | ipv4Ifindex (addr ifindex : Nat)
  | ipv6 (addr : Nat)
  | ipv6Ifindex (addr ifindex : Nat)
  | blackhole
  deriving DecidableEq, Repr

/-- The fields of a route message; a missing distance or metric is 0. -/
structure ZapiRoute where
  type : BitVec 8
  flags : BitVec 8
  safi : BitVec 16
  prefixlen : Nat
  addr : Nat
  nexthop : List ZapiNexthop
  distance : Nat
  metric : Nat
  deriving DecidableEq, Repr

namespace Rtable

variable (st : Rtable) (type : Option RouteType) (p : RoutePrefix) (si : StaticRoute)

/-- `route_node_get`: the node is known, in the order of `route_next`. -/
def routeNodeGet (rn : NodeKey) : Rtable :=
  let before := fun k : NodeKey => k.p.addr < rn.p.addr ∨ k.p.addr = rn.p.addr ∧ k.p.prefixlen < rn.p.prefixlen
  if rn ∈ st.known then st
  else { st with known := st.known.takeWhile (before ·) ++ rn :: st.known.dropWhile (before ·) }

/-! ### Routes of a protocol -/

/-- The entry that a new one replaces, or (with `true`) the connected route that it duplicates. -/
def findSame (type : RouteType) (ifindex : Nat) : List Rib → Option (Bool × Rib)
  | [] => none
  | rib :: info =>
    if rib.removed || rib.type != type then findSame type ifindex info
    else if rib.type != .connect then some (false, rib)
    else match rib.nexthop with
      | n :: _ =>
        if n.type == .ifindex && n.ifindex == ifindex then some (true, rib) else findSame type ifindex info
      | [] => findSame type ifindex info

def fibOfKernel (rib : Rib) : Rib :=
  if rib.isSystemRoute then { rib with nexthop := rib.nexthop.map fun n => { n with fib := true } } else rib

def linkNew (rn : NodeKey) (rib : Rib) (same : Option Rib) : Rtable :=
  let st := { st with fresh := st.fresh + 1 }.ribAddnode rn (fibOfKernel rib)
  match same with
  | some same => st.ribDelnode rn same
  | none => st

def ribAdd (rn : NodeKey) (rib : Rib) (ifindex : Nat) : Rtable :=
  let st := st.routeNodeGet rn
  match findSame rib.type ifindex (st.nodes rn) with
  | some (true, dup) => st.setRib rn { dup with refcnt := dup.refcnt + 1 }
  | some (false, same) => st.linkNew rn rib (some same)
  | none => st.linkNew rn rib none

def addNexthop (gateType gateIfindexType : NexthopType) (gate : Option Nat) (ifindex : Nat) : Nexthop :=
  match gate with
  | some gate =>
    if ifindex ≠ 0 then { type := gateIfindexType, gate := gate, ifindex := ifindex }
    else { type := gateType, gate := gate }
  | none => { type := .ifindex, ifindex := ifindex }

def ribAddIpv4 (type : RouteType) (flags : RibFlags) (p : RoutePrefix) (gate : Option Nat)
    (ifindex table metric distance : Nat) (safi : Safi) : Rtable :=
  let distance :=
    if distance = 0 then if type = .bgp ∧ flags.ibgp then 200 else routeInfoDistance type else distance
  st.ribAdd ⟨safi, applyMask p⟩
    { addr := st.fresh, type := type, distance := distance, metric := metric, table := table, flags := flags
      nexthop := [addNexthop .ipv4 .ipv4Ifindex gate ifindex] } ifindex

def ribBogusIpv6 (type : RouteType) (p : RoutePrefix) (gate : Option Nat) : Bool :=
  if type = .connect ∧ p.addr = 0 then true
  else decide (type = .kernel ∧ p.addr = 0 ∧ p.prefixlen = 96 ∧ gate = some 0)

def ribAddIpv6 (type : RouteType) (flags : RibFlags) (p : RoutePrefix) (gate : Option Nat)
    (ifindex table metric distance : Nat) (safi : Safi) : Rtable :=
  let distance := if distance = 0 then routeInfoDistance type else distance
  let distance := if type = .bgp ∧ flags.ibgp then 200 else distance
  if ribBogusIpv6 type (applyMask p) gate then st
  else st.ribAdd ⟨safi, applyMask p⟩
    { addr := st.fresh, type := type, distance := distance, metric := metric, table := table, flags := flags
      nexthop := [addNexthop .ipv6 .ipv6Ifindex gate ifindex] } ifindex

def ribAddIpv4Multipath (rib : Rib) (safi : Safi) : Rtable :=
  let distance :=
    if rib.distance = 0 then if rib.type = .bgp ∧ rib.flags.ibgp then 200 else routeInfoDistance rib.type
    else rib.distance
  let rn : NodeKey := ⟨safi, applyMask p⟩
  let st := st.routeNodeGet rn
  st.linkNew rn { rib with distance := distance } ((st.nodes rn).find? fun same =>
    !same.removed && same.type == rib.type && same.table == rib.table && same.type != .connect)

inductive DeleteFound
  | missing
  | release (rib : Rib)
  | same (rib : Rib)

/-- The loop of `rib_delete_ipv4` and `rib_delete_ipv6`, with the selected entry seen so far. -/
def deleteScan (type : Option RouteType) (gate : Option Nat) (ifindex : Nat) :
    Option Rib → List Rib → Option Rib × DeleteFound
  | fib, [] => (fib, .missing)
  | fib, rib :: info =>
    if rib.removed then deleteScan type gate ifindex fib info
    else
      let fib := if rib.flags.selected then some rib else fib
      if some rib.type ≠ type then deleteScan type gate ifindex fib info
      else
        let connected := if rib.type = .connect then rib.nexthop.head?.filter (·.type == .ifindex) else none
        match connected, gate with
        | some n, _ =>
          if n.ifindex ≠ ifindex then deleteScan type gate ifindex fib info
          else if rib.refcnt ≠ 0 then (fib, .release rib)
          else (fib, .same rib)
        | none, none => (fib, .same rib)
        | none, some gate' =>
          if rib.nexthop.any fun n => n.gate == gate' || n.rgate == gate' then (fib, .same rib)
          else deleteScan type gate ifindex fib info

def kernelLost (rib : Rib) : Rib :=
  { ribUninstallKernel rib with flags := { rib.flags with selected := false } }

/-- Deletes a route of one type. -/
def ribDelete (rn : NodeKey) (gate : Option Nat) (ifindex : Nat) : Rtable :=
  match deleteScan type gate ifindex none (st.nodes rn) with
  | (_, .release rib) => st.setRib rn { rib with refcnt := rib.refcnt - 1 }
  | (_, .same rib) => st.ribDelnode rn rib
  | (some fib, .missing) => if type = some .kernel then st.setRib rn (kernelLost fib) else st
  | (none, .missing) => st

def ribDeleteIpv4 (gate : Option Nat) (ifindex : Nat) (safi : Safi) : Rtable :=
  st.ribDelete type ⟨safi, applyMask p⟩ gate ifindex

def ribDeleteIpv6 (gate : Option Nat) (ifindex : Nat) (safi : Safi) : Rtable :=
  st.ribDelete type ⟨safi, applyMask p⟩ gate ifindex

/-! ### Messages of clients -/

def zapiNexthopIpv4 (rib : Rib) : ZapiNexthop → Rib
  | .ifindex ifindex => { rib with nexthop := rib.nexthop ++ [{ type := .ifindex, ifindex := ifindex }] }
  | .ipv4 addr => { rib with nexthop := rib.nexthop ++ [{ type := .ipv4, gate := addr }] }
  | .ipv4Ifindex addr ifindex =>
    { rib with nexthop := rib.nexthop ++ [{ type := .ipv4Ifindex, gate := addr, ifindex := ifindex }] }
  | .blackhole =>
    { rib with nexthop := rib.nexthop ++ [{ type := .blackhole }], flags := { rib.flags with blackhole := true } }
  | _ => rib

/-- The message of a client that adds an IPv4 route. -/
def zreadIpv4Add (m : ZapiRoute) : Option Rtable :=
  if m.prefixlen > Afi.ip.maxPrefixlen then some st
  else match vrfTable m.safi with
    | none => none
    | some none => some st
    | some (some safi) => (RouteType.ofByte m.type).map fun type =>
      let rib := m.nexthop.foldl zapiNexthopIpv4
        { addr := st.fresh, type := type, distance := m.distance, metric := m.metric, table := st.rtmTableDefault
          flags := RibFlags.ofByte m.flags, nexthop := [] }
      st.ribAddIpv4Multipath ⟨.ip, m.addr, m.prefixlen⟩ rib safi

def zapiGateIpv4 (s : Nat × Bool × Nat) : ZapiNexthop → Nat × Bool × Nat
  | .ifindex ifindex => (s.1, s.2.1, ifindex)
  | .ipv4 addr => (addr, true, s.2.2)
  | .ipv4Ifindex addr ifindex => (addr, s.2.1, ifindex)
  | _ => s

def zreadIpv4Delete (m : ZapiRoute) : Option Rtable :=
  if m.prefixlen > Afi.ip.maxPrefixlen then some st
  else match vrfTable m.safi with
    | none => none
    | some none => some st
    | some (some safi) =>
      let (gate, used, ifindex) := m.nexthop.foldl zapiGateIpv4 (0, false, 0)
      some (st.ribDeleteIpv4 (RouteType.ofByte m.type) ⟨.ip, m.addr, m.prefixlen⟩
        (if used then some gate else none) ifindex safi)

def zapiGateIpv6 (s : Nat × Nat) : ZapiNexthop → Nat × Nat
  | .ifindex ifindex => (s.1, ifindex)
  | .ipv6 addr => (addr, s.2)
  | .ipv6Ifindex addr ifindex => (addr, ifindex)
  | _ => s

def zreadIpv6Add (m : ZapiRoute) : Option Rtable :=
  if m.prefixlen > Afi.ip6.maxPrefixlen then some st
  else match vrfTable m.safi with
    | none => none
    | some none => some st
    | some (some safi) => (RouteType.ofByte m.type).map fun type =>
      let (gate, ifindex) := m.nexthop.foldl zapiGateIpv6 (0, 0)
      st.ribAddIpv6 type (RibFlags.ofByte m.flags) ⟨.ip6, m.addr, m.prefixlen⟩
        (if gate = 0 then none else some gate) ifindex st.rtmTableDefault m.metric m.distance safi

def zreadIpv6Delete (m : ZapiRoute) : Option Rtable :=
  if m.prefixlen > Afi.ip6.maxPrefixlen then some st
  else match vrfTable m.safi with
    | none => none
    | some none => some st
    | some (some safi) =>
      let (gate, ifindex) := m.nexthop.foldl zapiGateIpv6 (0, 0)
      some (st.ribDeleteIpv6 (RouteType.ofByte m.type) ⟨.ip6, m.addr, m.prefixlen⟩
        (if gate = 0 then none else some gate) ifindex safi)

/-! ### Static routes -/

inductive StaticFlag
  | plain
  | reject
  | blackhole
  deriving DecidableEq, Repr

def StaticFlag.flags : StaticFlag → RibFlags
  | .plain => {}
  | .reject => { reject := true }
  | .blackhole => { blackhole := true }

def staticNexthop : Nexthop := { type := si.type, gate := si.gate, ifname := si.ifname }

def isStaticOf (rib : Rib) : Bool :=
  !rib.removed && rib.type == .static && rib.distance == si.distance

def staticInstall : Rtable :=
  let rn : NodeKey := ⟨.unicast, p⟩
  let st := st.routeNodeGet rn
  match (st.nodes rn).find? (isStaticOf si) with
  | some rib =>
    let flags := if si.type = .blackhole then { rib.flags with blackhole := true } else rib.flags
    (st.setRib rn { rib with nexthop := rib.nexthop ++ [staticNexthop si], flags := flags }).ribQueueAdd rn
  | none =>
    { st with fresh := st.fresh + 1 }.ribAddnode rn
      { addr := st.fresh, type := .static, distance := si.distance, metric := 0, table := 0, flags := si.flags
        nexthop := [staticNexthop si] }

def staticNexthopSame (n : Nexthop) : Bool :=
  n.type == si.type && match si.type with
    | .ipv4 | .ipv6 => n.gate == si.gate
    | .ifname => n.ifname == si.ifname
    | .ipv6Ifname => n.gate == si.gate && n.ifname == si.ifname
    | .blackhole => true
    | _ => false

def staticUninstall : Rtable :=
  let rn : NodeKey := ⟨.unicast, p⟩
  match (st.nodes rn).find? (isStaticOf si) with
  | none => st
  | some rib =>
    match rib.nexthop.find? (staticNexthopSame si) with
    | none => st
    | some n =>
      if rib.nexthop.length % 256 = 1 then st.ribDelnode rn rib
      else
        let st := if n.fib then st.ribUninstall rn rib else st
        match st.ribAt rn rib.addr with
        | none => st
        | some rib => (st.setRib rn { rib with nexthop := rib.nexthop.eraseP (staticNexthopSame si) }).ribQueueAdd rn

def staticTarget (si cp : StaticRoute) : Bool := cp.type == si.type && cp.gate == si.gate && cp.ifname == si.ifname

/-- `static_delete_ipv6` also compares the distances. -/
def staticFound (si cp : StaticRoute) : Bool :=
  staticTarget si cp && (p.afi == .ip || cp.distance == si.distance)

def staticDelete : Rtable :=
  match (st.stable p).find? (staticFound p si) with
  | none => st
  | some found =>
    let st := st.staticUninstall p found
    { st with stable := Function.update st.stable p ((st.stable p).eraseP (staticFound p si)) }

def staticStops (si cp : StaticRoute) : Bool :=
  si.distance < cp.distance ||
    (p.afi == .ip && cp.distance == si.distance && si.type == .ipv4 && cp.type == .ipv4 && decide (si.gate < cp.gate))

def staticInsert (l : List StaticRoute) : List StaticRoute :=
  l.takeWhile (!staticStops p si ·) ++ si :: l.dropWhile (!staticStops p si ·)

def staticAdd : Rtable :=
  let same := (st.stable p).filter (staticTarget si)
  if same.any fun cp => cp.distance == si.distance then st
  else
    let st := match same.getLast? with
      | some update => st.staticDelete p { si with distance := update.distance }
      | none => st
    let st := { st with stable := Function.update st.stable p (staticInsert p si (st.stable p)) }
    st.staticInstall p si

/-! ### The whole table -/

def tableNodes : List NodeKey :=
  st.known.filter (fun k => k.safi == .unicast && k.p.afi == .ip) ++
    st.known.filter (fun k => k.safi == .unicast && k.p.afi == .ip6)

def ribUpdate : Rtable := st.tableNodes.foldl ribQueueAdd st

/-- Every entry of the tables that is not removed yet. -/
def eachRib (f : Rtable → NodeKey → Rib → Rtable) (st : Rtable) : Rtable :=
  st.tableNodes.foldl (fun st rn =>
    (st.nodes rn).foldl (fun st rib => if rib.removed then st else f st rn rib) st) st

def rtTableMain : Nat := 254

def ribWeedTables : Rtable :=
  st.eachRib fun st rn rib =>
    if rib.table ≠ st.rtmTableDefault ∧ rib.table ≠ rtTableMain then st.ribDelnode rn rib else st

/-- `ok` tells whether the kernel has removed the route. -/
def ribSweepRoute (ok : NodeKey → Rib → Bool) (st : Rtable) : Rtable :=
  st.eachRib fun st rn rib =>
    if rib.type = .kernel ∧ rib.flags.selfroute then
      let st := st.setRib rn (ribUninstallKernel rib)
      if ok rn rib then st.ribDelnode rn (ribUninstallKernel rib) else st
    else st

def ribScoreProto (proto : RouteType) (st : Rtable) : Rtable :=
  st.eachRib fun st rn rib => if rib.type = proto then st.ribDelnode rn rib else st

def ribLookupAndPushup : Rtable :=
  let rn : NodeKey := ⟨.unicast, p⟩
  let found := (st.nodes rn).filter fun rib => rib.flags.selected && !rib.isSystemRoute
  let st := found.foldl (fun st rib => st.ribUninstall rn rib) st
  if found.isEmpty then st else st.ribQueueAdd rn

/-! ### Interfaces -/

def connectedUpIpv4 (ifindex metric : Nat) : Rtable :=
  if (applyMask p).addr = 0 ∧ p.prefixlen = 0 then st
  else (st.ribAddIpv4 .connect {} p none ifindex rtTableMain metric 0 .unicast).ribUpdate

def connectedDownIpv4 (ifindex : Nat) : Rtable :=
  if (applyMask p).addr = 0 ∧ p.prefixlen = 0 then st
  else (st.ribDeleteIpv4 (some .connect) p none ifindex .unicast).ribUpdate

def connectedUpIpv6 (ifindex metric : Nat) : Rtable :=
  if (applyMask p).addr = 0 then st
  else (st.ribAddIpv6 .connect {} p none ifindex rtTableMain metric 0 .unicast).ribUpdate

def connectedDownIpv6 (ifindex : Nat) : Rtable :=
  if (applyMask p).addr = 0 then st
  else (st.ribDeleteIpv6 (some .connect) p none ifindex .unicast).ribUpdate

/-! ### Runs -/

structure KernelFlags where
  selfroute : Bool
  static : Bool
  reject : Bool
  blackhole : Bool
  deriving DecidableEq, Repr

def KernelFlags.flags (f : KernelFlags) : RibFlags :=
  { selfroute := f.selfroute, static := f.static, reject := f.reject, blackhole := f.blackhole }

inductive Event
  | zreadIpv4Add (m : ZapiRoute)
  | zreadIpv4Delete (m : ZapiRoute)
  | zreadIpv6Add (m : ZapiRoute)
  | zreadIpv6Delete (m : ZapiRoute)
  | clientClose (proto : RouteType)
  | staticAdd (p : RoutePrefix) (type : NexthopType) (gate : Nat) (ifname : String) (distance : Nat)
      (flag : StaticFlag)
  | staticDelete (p : RoutePrefix) (type : NexthopType) (gate : Nat) (ifname : String) (distance : Nat)
  | kernelAdd (p : RoutePrefix) (flags : KernelFlags) (gate : Option Nat) (ifindex table metric : Nat)
  | kernelAddMultipath (addr prefixlen : Nat) (flags : KernelFlags) (nexthop : List (Option Nat × Nat))
      (table metric : Nat)
  | kernelDelete (p : RoutePrefix) (gate : Option Nat) (ifindex : Nat)
  | connectedUp (p : RoutePrefix) (ifindex metric : Nat)
  | connectedDown (p : RoutePrefix) (ifindex : Nat)
  | interfaces (interfaces : List Interface)
  | ribUpdate
  | ribWeedTables
  | ribSweepRoute (ok : NodeKey → Rib → Bool)
  | pushup (addr prefixlen : Nat)
  | queueRun (env : Surroundings)

/-- One event of the daemon. -/
def step : Event → Option Rtable
  | .zreadIpv4Add m => st.zreadIpv4Add m
  | .zreadIpv4Delete m => st.zreadIpv4Delete m
  | .zreadIpv6Add m => st.zreadIpv6Add m
  | .zreadIpv6Delete m => st.zreadIpv6Delete m
  | .clientClose proto => some (st.ribScoreProto proto)
  | .staticAdd p type gate ifname distance flag =>
    some (st.staticAdd (applyMask p) ⟨type, gate, ifname, distance, flag.flags⟩)
  | .staticDelete p type gate ifname distance =>
    some (st.staticDelete (applyMask p) ⟨type, gate, ifname, distance, {}⟩)
  | .kernelAdd p flags gate ifindex table metric => some <| match p.afi with
    | .ip => st.ribAddIpv4 .kernel flags.flags p gate ifindex table metric 0 .unicast
    | .ip6 => st.ribAddIpv6 .kernel flags.flags p gate ifindex table metric 0 .unicast
  | .kernelAddMultipath addr prefixlen flags nexthop table metric =>
    some <| if nexthop.isEmpty then st
      else st.ribAddIpv4Multipath ⟨.ip, addr, prefixlen⟩
        { addr := st.fresh, type := .kernel, distance := 0, metric := metric, table := table, flags := flags.flags
          nexthop := nexthop.map fun n => addNexthop .ipv4 .ipv4Ifindex n.1 n.2 } .unicast
  | .kernelDelete p gate ifindex => some <| match p.afi with
    | .ip => st.ribDeleteIpv4 (some .kernel) p gate ifindex .unicast
    | .ip6 => st.ribDeleteIpv6 (some .kernel) p gate ifindex .unicast
  | .connectedUp p ifindex metric => some <| match p.afi with
    | .ip => st.connectedUpIpv4 p ifindex metric
    | .ip6 => st.connectedUpIpv6 p ifindex metric
  | .connectedDown p ifindex => some <| match p.afi with
    | .ip => st.connectedDownIpv4 p ifindex
    | .ip6 => st.connectedDownIpv6 p ifindex
  | .interfaces interfaces => some { st with interfaces := interfaces }
  | .ribUpdate => some st.ribUpdate
  | .ribWeedTables => some st.ribWeedTables
  | .ribSweepRoute ok => some (st.ribSweepRoute ok)
  | .pushup addr prefixlen => some (st.ribLookupAndPushup ⟨.ip, addr, prefixlen⟩)
  | .queueRun env => st.metaQueueProcess env

def ribInit (rtmTableDefault : Nat) (client : Client) : Rtable where
  nodes := fun _ => []
  known := []
  subq := fun _ => []
  stable := fun _ => []
  interfaces := []
  rtmTableDefault := rtmTableDefault
  client := client
  sent := []
  fresh := 0

end Rtable

end OspfMdr.Zebra
