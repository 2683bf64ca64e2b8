import Mathlib.Tactic

/-!
# The selection of the best path (`bgp_route.c`, `bgp_aspath.c`)

A path of a prefix has an address. The lists of multipaths, which do not bear on the selection, are
left out.
-/

namespace OspfMdr.Bgp

inductive SegmentType
  | set
  | sequence
  | confedSequence
  | confedSet
  deriving DecidableEq, Repr

/-- `struct assegment`; a segment has at least one AS. -/
structure AsSegment where
  type : SegmentType
  first : UInt32
  rest : List UInt32
  deriving DecidableEq, Repr

def AsSegment.length (s : AsSegment) : Nat := s.rest.length + 1

abbrev AsPath := List AsSegment

def aspathCountConfeds (p : AsPath) : Nat :=
  p.foldl (fun count seg =>
    match seg.type with
    | .confedSequence => count + seg.length
    | .confedSet => count + 1
    | _ => count) 0

def aspathCountHops (p : AsPath) : Nat :=
  p.foldl (fun count seg =>
    match seg.type with
    | .sequence => count + seg.length
    | .set => count + 1
    | _ => count) 0

def AsSegment.isConfed (s : AsSegment) : Bool := s.type = .confedSequence ∨ s.type = .confedSet

def aspathCmpLeft (p q : AsPath) : Bool :=
  match p.dropWhile AsSegment.isConfed, q.dropWhile AsSegment.isConfed with
  | seg₁ :: _, seg₂ :: _ => seg₁.type = .sequence ∧ seg₂.type = .sequence ∧ seg₁.first = seg₂.first
  | _, _ => false

def aspathCmpLeftConfed (p q : AsPath) : Bool :=
  match p, q with
  | seg₁ :: _, seg₂ :: _ =>
    seg₁.type = .confedSequence ∧ seg₂.type = .confedSequence ∧ seg₁.first = seg₂.first
  | _, _ => false

def aspathCmp (p q : AsPath) : Bool := p = q

/-- `union sockunion` of a peer, with the address in network byte order. -/
inductive SockUnion
  | inet (addr : UInt32)
  | inet6 (addr : Vector UInt8 16)
  deriving DecidableEq, Repr

def SockUnion.family : SockUnion → Nat
  | .inet _ => 2
  | .inet6 _ => 10

def in6addrCmp : List UInt8 → List UInt8 → Int
  | a :: p, b :: q => if a > b then 1 else if a < b then -1 else in6addrCmp p q
  | _, _ => 0

def sockunionCmp (su1 su2 : SockUnion) : Int :=
  if su1.family > su2.family then 1
  else if su1.family < su2.family then -1
  else
    match su1, su2 with
    | .inet a, .inet b => if a = b then 0 else if a > b then 1 else -1
    | .inet6 a, .inet6 b => in6addrCmp a.toList b.toList
    | _, _ => 0

inductive PeerSort
  | ibgp
  | ebgp
  | internal
  | confed
  deriving DecidableEq, Repr

structure Peer where
  sort : PeerSort
  as : UInt32
  remoteId : UInt32
  suRemote : SockUnion
  deriving DecidableEq, Repr

/-- The fields of `struct attr` that the comparison reads; an attribute that is not flagged is
`none`. -/
structure Attr where
  aspath : AsPath
  origin : UInt8
  med : Option UInt32
  localPref : Option UInt32
  originatorId : Option UInt32
  clusterLength : Option Nat
  weight : Option UInt32
  deriving DecidableEq, Repr

inductive SubType
  | normal
  | static
  | aggregate
  | redistribute
  deriving DecidableEq, Repr

/-- `struct bgp_info`; `igpmetric` is that of the extra information, if any. -/
structure BgpInfo where
  addr : Nat
  peer : Peer
  attr : Attr
  igpmetric : Option UInt32
  subType : SubType
  valid : Bool
  damped : Bool
  history : Bool
  removed : Bool
  selected : Bool
  deriving DecidableEq, Repr

variable (bgp : BgpOptions) (new exist : BgpInfo) (ri : BgpInfo)

def BgpInfo.holddown : Bool := ¬ri.valid ∨ ri.history ∨ ri.damped ∨ ri.removed

structure BgpOptions where
  defaultLocalPref : UInt32
  alwaysCompareMed : Bool
  deterministicMed : Bool
  medMissingAsWorst : Bool
  medConfed : Bool
  compareRouterId : Bool
  aspathIgnore : Bool
  aspathConfed : Bool
  deriving DecidableEq, Repr

def bgpMedValue (attr : Attr) (bgp : BgpOptions) : UInt32 :=
  match attr.med with
  | some med => med
  | none => if bgp.medMissingAsWorst then 0xffffffff else 0

/-- One step of the comparison: the new path wins, loses, or the next step decides. -/
def cmpStep (wins loses : Prop) [Decidable wins] [Decidable loses] (rest : Bool × Bool) : Bool × Bool :=
  if wins then (true, false) else if loses then (false, false) else rest

def BgpInfo.weight (ri : BgpInfo) : UInt32 := ri.attr.weight.getD 0

def BgpInfo.pref : UInt32 := ri.attr.localPref.getD bgp.defaultLocalPref

def BgpInfo.hops : Nat := aspathCountHops ri.attr.aspath

def BgpInfo.confeds : Nat := aspathCountConfeds ri.attr.aspath

def BgpInfo.pathLength : Nat :=
  if bgp.aspathConfed then ri.hops + ri.confeds else ri.hops

def BgpInfo.metric : UInt32 := ri.igpmetric.getD 0

/-- Whether the MEDs of two paths are compared in step 6. -/
def medCompared : Bool :=
  let internalAsRoute := new.hops = 0 ∧ exist.hops = 0
  let confedAsRoute := new.confeds > 0 ∧ exist.confeds > 0 ∧ new.hops = 0 ∧ exist.hops = 0
  bgp.alwaysCompareMed ∨ (bgp.medConfed ∧ confedAsRoute) ∨ aspathCmpLeft new.attr.aspath exist.attr.aspath ∨
    aspathCmpLeftConfed new.attr.aspath exist.attr.aspath ∨ internalAsRoute

/-- The equality of paths for multipath in step 9. -/
def pathsEq : Bool :=
  if new.peer.sort = .ibgp then aspathCmp new.attr.aspath exist.attr.aspath else new.peer.as = exist.peer.as

def BgpInfo.routerId : UInt32 := ri.attr.originatorId.getD ri.peer.remoteId

def BgpInfo.cluster : Nat := ri.attr.clusterLength.getD 0

/-- Steps 10 to 13, of paths with equal metrics. -/
def cmpTies : Bool × Bool :=
  let eq := pathsEq new exist
  let external := ¬bgp.compareRouterId ∧ new.peer.sort = .ebgp ∧ exist.peer.sort = .ebgp
  if external ∧ new.selected then (true, eq)
  else if external ∧ exist.selected then (false, eq)
  else if new.routerId < exist.routerId then (true, eq)
  else if new.routerId > exist.routerId then (false, eq)
  else if new.cluster < exist.cluster then (true, eq)
  else if new.cluster > exist.cluster then (false, eq)
  else if sockunionCmp new.peer.suRemote exist.peer.suRemote = 1 then (false, eq)
  else (true, eq)

/-- Compares two paths, and says if they are equal for multipath. -/
def bgpInfoCmp : Bool × Bool :=
  cmpStep (new.weight > exist.weight) (new.weight < exist.weight) <|
  cmpStep (new.pref bgp > exist.pref bgp) (new.pref bgp < exist.pref bgp) <|
  cmpStep (new.subType = .static) (exist.subType = .static) <|
  cmpStep (new.subType = .redistribute) (exist.subType = .redistribute) <|
  cmpStep (new.subType = .aggregate) (exist.subType = .aggregate) <|
  cmpStep (¬bgp.aspathIgnore ∧ new.pathLength bgp < exist.pathLength bgp)
    (¬bgp.aspathIgnore ∧ new.pathLength bgp > exist.pathLength bgp) <|
  cmpStep (new.attr.origin < exist.attr.origin) (new.attr.origin > exist.attr.origin) <|
  cmpStep (medCompared bgp new exist ∧ bgpMedValue new.attr bgp < bgpMedValue exist.attr bgp)
    (medCompared bgp new exist ∧ bgpMedValue new.attr bgp > bgpMedValue exist.attr bgp) <|
  cmpStep (new.peer.sort = .ebgp ∧ (exist.peer.sort = .ibgp ∨ exist.peer.sort = .confed))
    ((new.peer.sort = .ibgp ∨ new.peer.sort = .confed) ∧ exist.peer.sort = .ebgp) <|
  cmpStep (new.metric < exist.metric) (new.metric > exist.metric) <|
  cmpTies bgp new exist

def bgpInfoCmp? (bgp : BgpOptions) (new : BgpInfo) : Option BgpInfo → Bool
  | none => true
  | some exist => (bgpInfoCmp bgp new exist).1

/-- The flags of the paths for deterministic MED, by their addresses. -/
structure DmedFlags where
  check : Nat → Bool
  selected : Nat → Bool

namespace DmedFlags

def setCheck (f : DmedFlags) (ri : BgpInfo) (b : Bool) : DmedFlags :=
  { f with check := Function.update f.check ri.addr b }

def setSelected (f : DmedFlags) (ri : BgpInfo) (b : Bool) : DmedFlags :=
  { f with selected := Function.update f.selected ri.addr b }

end DmedFlags

def sameLeft (ri1 ri2 : BgpInfo) : Bool :=
  aspathCmpLeft ri1.attr.aspath ri2.attr.aspath ∨ aspathCmpLeftConfed ri1.attr.aspath ri2.attr.aspath

def dmedInner (ri1 : BgpInfo) (s : DmedFlags × BgpInfo) (ri2 : BgpInfo) : DmedFlags × BgpInfo :=
  let (f, newSelect) := s
  if f.check ri2.addr then s
  else if ri2.holddown then s
  else if sameLeft ri1 ri2 then
    let (f, newSelect) :=
      if (bgpInfoCmp bgp ri2 newSelect).1 then (f.setSelected newSelect false, ri2) else (f, newSelect)
    (f.setCheck ri2 true, newSelect)
  else s

def dmedOuter (bgp : BgpOptions) : List BgpInfo → DmedFlags → DmedFlags
  | [], f => f
  | ri1 :: rest, f =>
    if f.check ri1.addr then dmedOuter bgp rest f
    else if ri1.holddown then dmedOuter bgp rest f
    else
      let (f, newSelect) := rest.foldl (dmedInner bgp ri1) (f, ri1)
      dmedOuter bgp rest ((f.setCheck newSelect true).setSelected newSelect true)

/-- What the second loop has found; `reaped` are the paths that were freed. -/
structure Selection where
  flags : DmedFlags
  old : Option BgpInfo
  new : Option BgpInfo
  reaped : List BgpInfo

def selectStep (s : Selection) (ri : BgpInfo) : Selection :=
  let s := if ri.selected then { s with old := some ri } else s
  if ri.holddown then
    if ri.removed ∧ ¬ri.selected then { s with reaped := s.reaped ++ [ri] } else s
  else if bgp.deterministicMed ∧ ¬s.flags.selected ri.addr then { s with flags := s.flags.setCheck ri false }
  else
    let s := { s with flags := (s.flags.setCheck ri false).setSelected ri false }
    if bgpInfoCmp? bgp ri s.new then { s with new := some ri } else s

/-- The best path of a prefix. -/
def bgpBestSelection (paths : List BgpInfo) (f : DmedFlags) : Selection :=
  let f := if bgp.deterministicMed then dmedOuter bgp paths f else f
  paths.foldl (selectStep bgp) ⟨f, none, none, []⟩

end OspfMdr.Bgp
