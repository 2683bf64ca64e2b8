import OspfMdr.Model.Basic

/-!
# MDR Hellos (`ospf6_mdr_message.c`, `ospf6_mdr_neighbor.c`)

The neighbor lists of an MDR interface as it sends them in full and differential Hellos, and
what a neighbor makes of them. Router ids are in host byte order.
-/

namespace OspfMdr.Ospf6

structure HelloNeighbor where
  routerId : UInt32
  state : NeighborState
  dependent : Bool
  selAdv : Bool
  reverse2way : Bool
  listType : Nat
  changedHsn : UInt16
  deriving DecidableEq, Repr

structure LnlElement where
  id : UInt32
  hsn : UInt16
  deriving DecidableEq, Repr

structure HelloInterface where
  adjConnectivity : AdjConnectivity
  twoHopRefresh : UInt16
  helloRepeatCount : UInt16
  lnl : List LnlElement
  hsn : UInt16
  fullHelloCount : Nat
  neighborList : List HelloNeighbor
  deriving DecidableEq, Repr

def addNeighborSort (on : HelloNeighbor) : List HelloNeighbor → List HelloNeighbor
  | [] => [on]
  | n :: l => if on.routerId < n.routerId then on :: n :: l else n :: addNeighborSort on l

variable (own : UInt32) (helloRepeatCount : UInt16) (on : HelloPeer) (oi : HelloInterface)

def ospf6MdrNeighborCreate (routerId : UInt32) : HelloInterface :=
  { oi with
    lnl := oi.lnl.eraseP fun e => e.id = routerId
    neighborList := addNeighborSort ⟨routerId, .down, false, false, false, 0, 0⟩ oi.neighborList }

def ospf6MdrAddLnlElement (routerId : UInt32) : List LnlElement :=
  if oi.lnl.any fun e => e.id = routerId then
    oi.lnl.map fun e => if e.id = routerId then { e with hsn := oi.hsn } else e
  else oi.lnl ++ [⟨routerId, oi.hsn⟩]

def ospf6MdrNeighborDelete (routerId : UInt32) : HelloInterface :=
  { oi with
    lnl := ospf6MdrAddLnlElement oi routerId
    neighborList := oi.neighborList.filter fun on => on.routerId ≠ routerId }

def ospf6MdrHelloListType (on : HelloNeighbor) : Nat :=
  if on.state = .down then 1
  else if on.state = .init then 2
  else if on.dependent then 3
  else if on.selAdv then 4
  else 5

def updateListType (hsn : UInt16) (on : HelloNeighbor) : HelloNeighbor :=
  { on with
    changedHsn := if ospf6MdrHelloListType on ≠ on.listType then hsn else on.changedHsn
    listType := ospf6MdrHelloListType on }

def inHello (diff : Bool) (on : HelloNeighbor) : Bool :=
  ¬(diff ∧ oi.hsn.toNat ≥ on.changedHsn.toNat + oi.helloRepeatCount.toNat ∧
    ¬(on.state.toNat ≥ NeighborState.twoway.toNat ∧ ¬on.reverse2way))

/-- The lists of a Hello. -/
structure HelloLists where
  lnl : List UInt32
  hnl : List UInt32
  dnl : List UInt32
  sanl : List UInt32
  rnl : List UInt32
  deriving DecidableEq, Repr

def HelloLists.rids (l : HelloLists) : List UInt32 := l.lnl ++ l.hnl ++ l.dnl ++ l.sanl ++ l.rnl

def helloList (diff : Bool) (type : Nat) : List UInt32 :=
  (oi.neighborList.filter fun on => inHello oi diff on ∧ on.listType = type).map (·.routerId)

def lnlExpired (e : LnlElement) : Bool :=
  e.hsn.toNat + oi.helloRepeatCount.toNat ≤ oi.hsn.toNat

/-- The lists of the next Hello. -/
def ospf6MdrCreateNeighborLists (diff : Bool) : HelloInterface × HelloLists :=
  let oi := { oi with
    neighborList := oi.neighborList.map (updateListType oi.hsn)
    lnl := if diff then oi.lnl.filter fun e => ¬lnlExpired oi e else oi.lnl }
  (oi, ⟨if diff then oi.lnl.map (·.id) else [], helloList oi diff 2, helloList oi diff 3,
    helloList oi diff 4, helloList oi diff 5⟩)

/-- The part of a Hello packet and of its Hello TLV with the neighbor lists. -/
structure MdrHello where
  rids : List UInt32
  hsn : UInt16
  aBit : Bool
  diff : Bool
  n1 : UInt8
  n2 : UInt8
  n3 : UInt8
  n4 : UInt8
  deriving DecidableEq, Repr

/-- `ospf6_mdr_append_hello_tlv` behind the lists. -/
def encodeHello (diff : Bool) (lists : HelloLists) : MdrHello where
  rids := lists.rids
  hsn := oi.hsn
  aBit := oi.adjConnectivity = .fullyConnected
  diff := diff
  n1 := UInt8.ofNat lists.lnl.length
  n2 := UInt8.ofNat lists.hnl.length
  n3 := UInt8.ofNat lists.dnl.length
  n4 := UInt8.ofNat lists.sanl.length

def isDiffHello : Bool := oi.fullHelloCount > 1

def ospf6MdrHelloSend : HelloInterface × MdrHello :=
  let diff := isDiffHello oi
  let fullHelloCount := if diff then oi.fullHelloCount - 1 else oi.twoHopRefresh.toNat
  let (oi, lists) := ospf6MdrCreateNeighborLists { oi with fullHelloCount } diff
  ({ oi with hsn := oi.hsn + 1 }, encodeHello oi diff lists)

structure HelloPeer where
  state : NeighborState
  hsn : UInt16
  consecHellos : Nat
  aBit : Bool
  report2Hop : Bool
  reverse2way : Bool
  rnl : List UInt32
  dnl : List UInt32
  sanl : List UInt32
  deriving DecidableEq, Repr

def ospf6MdrDeleteNeighbor (l : List UInt32) (id : UInt32) : List UInt32 := l.filter (· ≠ id)

/-- `ospf6_mdr_add_neighbor` unless `ospf6_mdr_lookup_neighbor` finds the id. -/
def addAbsent (l : List UInt32) (id : UInt32) : List UInt32 := if id ∈ l then l else l ++ [id]

structure DiffScan where
  on : HelloPeer
  twoway : Bool
  found : Bool
  deriving DecidableEq, Repr

def DiffScan.self (s : DiffScan) (own id : UInt32) (twoway reverse2way : Bool) : DiffScan :=
  if id = own then
    { on := { s.on with reverse2way := reverse2way }, twoway := twoway, found := true }
  else s

def HelloPeer.deleteNeighbor (id : UInt32) : HelloPeer :=
  { on with
    rnl := ospf6MdrDeleteNeighbor on.rnl id
    dnl := ospf6MdrDeleteNeighbor on.dnl id
    sanl := ospf6MdrDeleteNeighbor on.sanl id }

def HelloPeer.addDependent (id : UInt32) : HelloPeer :=
  { on with
    dnl := addAbsent on.dnl id
    rnl := addAbsent on.rnl id
    sanl := ospf6MdrDeleteNeighbor on.sanl id }

def HelloPeer.addSelAdv (id : UInt32) : HelloPeer :=
  { on with
    sanl := addAbsent on.sanl id
    rnl := addAbsent on.rnl id
    dnl := ospf6MdrDeleteNeighbor on.dnl id }

def HelloPeer.addReported (id : UInt32) : HelloPeer :=
  { on with
    rnl := addAbsent on.rnl id
    dnl := ospf6MdrDeleteNeighbor on.dnl id
    sanl := ospf6MdrDeleteNeighbor on.sanl id }

def diffLoop (twoway reverse2way : Bool) (f : HelloPeer → UInt32 → HelloPeer)
    (l : List UInt32) (s : DiffScan) : DiffScan :=
  l.foldl (fun s id =>
    let s := s.self own id twoway reverse2way
    { s with on := f s.on id }) s

def processDiffLists (lists : HelloLists) (on : HelloPeer) : DiffScan :=
  diffLoop own true true HelloPeer.addReported lists.rnl
    (diffLoop own true true HelloPeer.addSelAdv lists.sanl
      (diffLoop own true true HelloPeer.addDependent lists.dnl
        (diffLoop own true false HelloPeer.deleteNeighbor lists.hnl
          (diffLoop own false false HelloPeer.deleteNeighbor lists.lnl ⟨on, false, false⟩))))

def processFullLists (lists : HelloLists) (on : HelloPeer) : HelloPeer × Bool :=
  let reverse2way := own ∉ lists.hnl ∧ (own ∈ lists.dnl ∨ own ∈ lists.sanl ∨ own ∈ lists.rnl)
  ({ on with
    report2Hop := true
    reverse2way := reverse2way
    dnl := lists.dnl.foldl addAbsent []
    sanl := lists.sanl.foldl addAbsent []
    rnl := lists.rnl.foldl addAbsent (lists.sanl.foldl addAbsent (lists.dnl.foldl addAbsent [])) },
    own ∈ lists.hnl ∨ reverse2way)

def ospf6MdrProcessNeighborLists
    (lists : HelloLists) (diff : Bool) (hsn : UInt16) : HelloPeer × Bool :=
  let prevSeq := on.hsn
  let on := { on with
    hsn := hsn
    consecHellos := if hsn.toNat = (prevSeq.toNat + 1) % 2 ^ 16 then on.consecHellos + 1 else 1 }
  if diff then
    let insufficient := on.state.toNat > NeighborState.down.toNat ∧
      hsn.toNat > prevSeq.toNat + helloRepeatCount.toNat
    let s := processDiffLists own lists on
    (s.on, s.twoway ∨ (¬s.found ∧ s.on.state.toNat ≥ NeighborState.twoway.toNat ∧ ¬insufficient))
  else processFullLists own lists on

/-- The five lists of a Hello that fits into its buffer; `none` when the counts exceed the list. -/
def decodeHello (hello : MdrHello) : Option HelloLists :=
  let n1 := hello.n1.toNat
  let n2 := hello.n2.toNat
  let n3 := hello.n3.toNat
  let n4 := hello.n4.toNat
  if hello.rids.length < n1 + n2 + n3 + n4 then none
  else
    let hnl := hello.rids.drop n1
    let dnl := hnl.drop n2
    let sanl := dnl.drop n3
    some ⟨hello.rids.take n1, hnl.take n2, dnl.take n3, sanl.take n4, sanl.drop n4⟩

/-- Reads the lists of a neighbor's Hello. -/
def ospf6MdrHelloRecv (hello : MdrHello) : HelloPeer × Option Bool :=
  let on := { on with aBit := hello.aBit }
  match decodeHello hello with
  | none => (on, none)
  | some lists =>
    let (on, twoway) := ospf6MdrProcessNeighborLists own helloRepeatCount on lists hello.diff hello.hsn
    (on, some twoway)

/-- What the sender said last of a router in its lists; 0 for no neighbor. -/
def listTypeOf (l : List HelloNeighbor) (x : UInt32) : Nat :=
  match l.find? fun on => on.routerId = x with
  | some on => on.listType
  | none => 0

/-- A sender and one receiver of its Hellos, with the list types each Hello was sent with, the Hellos lost in a
row, and whether a full Hello was delivered. -/
structure HelloSys where
  oi : HelloInterface
  on : HelloPeer
  synced : Bool
  lost : Nat
  sent : Nat → UInt32 → Nat

inductive HelloEvent
  | create (routerId : UInt32)
  | delete (routerId : UInt32)
  | change (routerId : UInt32) (state : NeighborState) (dependent selAdv reverse2way : Bool)
  | peerState (state : NeighborState)
  | hello (delivered : Bool)
  deriving DecidableEq, Repr

def HelloInterface.hasNeighbor (routerId : UInt32) : Bool :=
  oi.neighborList.any fun on => on.routerId = routerId

def changeNeighbor (routerId : UInt32) (state : NeighborState)
    (dependent selAdv reverse2way : Bool) : HelloInterface :=
  { oi with neighborList := oi.neighborList.map fun on =>
      if on.routerId = routerId then { on with state, dependent, selAdv, reverse2way } else on }

/-- The receiver has the router id `own` and its own `helloRepeatCount`. -/
def sendHello (s : HelloSys) (delivered : Bool) : HelloSys :=
  let (oi, hello) := ospf6MdrHelloSend s.oi
  let sent := Function.update s.sent s.oi.hsn.toNat (listTypeOf oi.neighborList)
  if delivered then
    { oi, on := (ospf6MdrHelloRecv own helloRepeatCount s.on hello).1
      synced := s.synced ∨ ¬hello.diff, lost := 0, sent }
  else { oi, on := s.on, synced := s.synced, lost := s.lost + 1, sent }

/-- One event of a sender and a receiver. -/
def helloStep (s : HelloSys) : HelloEvent → HelloSys
  | .create routerId =>
    if s.oi.hasNeighbor routerId then s else { s with oi := ospf6MdrNeighborCreate s.oi routerId }
  | .delete routerId =>
    if s.oi.hasNeighbor routerId then { s with oi := ospf6MdrNeighborDelete s.oi routerId } else s
  | .change routerId state dependent selAdv reverse2way =>
    { s with oi := changeNeighbor s.oi routerId state dependent selAdv reverse2way }
  | .peerState state => { s with on := { s.on with state } }
  | .hello delivered => sendHello own helloRepeatCount s delivered

def helloRun (s : HelloSys) (events : List HelloEvent) : HelloSys :=
  events.foldl (helloStep own helloRepeatCount) s

def helloInit (adjConnectivity : AdjConnectivity) (twoHopRefresh helloRepeatCount : UInt16)
    (on : HelloPeer) : HelloSys :=
  ⟨⟨adjConnectivity, twoHopRefresh, helloRepeatCount, [], 0, 0, []⟩, on, false, 0, fun _ _ => 0⟩

/-! ## Immediate Hellos, in microseconds of the clock and milliseconds of delay -/

def initialImmediateHelloDelay : UInt32 := 2

structure HelloDelay where
  helloInterval : UInt16
  immediateHelloDelay : UInt32
  lastHelloTime : Nat
  deriving DecidableEq, Repr

variable (oi : HelloDelay) (now : Nat)

/-- `timersub_msec (&now, &oi->last_hello_time)`. -/
def HelloDelay.elapsedMsec : Nat := (now - oi.lastHelloTime) / 1000

def nextImmediateHelloDelay (delay : UInt32) : UInt32 :=
  if delay = 0 then initialImmediateHelloDelay else delay <<< 2

def HelloDelay.maxMsec : UInt32 :=
  let msec := 1000 * oi.helloInterval.toUInt32
  if oi.lastHelloTime ≠ 0 then msec - UInt32.ofNat (oi.elapsedMsec now) else msec

/-- The interface, and the delay that the next Hello is scheduled with. -/
def ospf6ScheduleImmediateHello : HelloDelay × UInt32 :=
  let delay := nextImmediateHelloDelay oi.immediateHelloDelay
  ({ oi with immediateHelloDelay := delay }, if delay < oi.maxMsec now then delay else oi.maxMsec now)

/-- `active` is that the interface is up, not a loopback and not passive. -/
def ospf6HelloSend (active : Bool) : HelloDelay :=
  if ¬active then oi
  else if oi.immediateHelloDelay > 0 ∧ oi.elapsedMsec now ≥ 1000 * oi.helloInterval.toNat then
    { oi with immediateHelloDelay := 0, lastHelloTime := now }
  else { oi with lastHelloTime := now }

inductive HelloDelayEvent
  | request
  | send (active : Bool)
  deriving DecidableEq, Repr

/-- The first component is the time; an event comes with the time since the one before. -/
def helloDelayStep (s : Nat × HelloDelay) (e : Nat × HelloDelayEvent) : Nat × HelloDelay :=
  let now := s.1 + e.1
  match e.2 with
  | .request => (now, (ospf6ScheduleImmediateHello s.2 now).1)
  | .send active => (now, ospf6HelloSend s.2 now active)

def helloDelayRun (helloInterval : UInt16) (events : List (Nat × HelloDelayEvent)) : Nat × HelloDelay :=
  events.foldl helloDelayStep (0, ⟨helloInterval, 0, 0⟩)

end OspfMdr.Ospf6
