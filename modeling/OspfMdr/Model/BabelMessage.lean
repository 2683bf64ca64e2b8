import Mathlib.Tactic

/-!
# Babel packets

`babeld/message.c`: the decoder of prefixes, the walk over the attributes of an update
and `parse_packet`. A packet is the memory from its first byte on: the decoder is not
stopped by the end of what was received, so what lies behind it is part of the input.
A message is decoded into the call that the source makes for it; `perform` carries the
call out. Log output is left out.
-/

namespace OspfMdr.Babel

abbrev Memory := Nat → UInt8

namespace Memory

def shift (m : Memory) (k : Nat) : Memory := fun j => m (k + j)

def bytes (m : Memory) (k n : Nat) : List UInt8 := (List.range n).map fun j => m (k + j)

def ntohs (m : Memory) (k : Nat) : Nat := (m k).toNat * 256 + (m (k + 1)).toNat

end Memory

abbrev Address := List UInt8

def v4PrefixBytes : Address := [0, 0, 0, 0, 0, 0, 0, 0, 0, 0, 0xFF, 0xFF, 0, 0, 0, 0]

def llPrefixBytes : Address := [0xFE, 0x80, 0, 0, 0, 0, 0, 0, 0, 0, 0, 0, 0, 0, 0, 0]

def linklocal (address : Address) : Bool := address.take 8 == llPrefixBytes.take 8

def v4mapped (address : Address) : Bool := address.take 12 == v4PrefixBytes.take 12

/-- An array of `n` zero bytes into whose beginning `l` was copied. -/
def zeroFilled (n : Nat) (l : List UInt8) : List UInt8 := (l ++ List.replicate n 0).take n

def maskPrefix (address : Address) (plen : Nat) : Address :=
  if 128 ≤ plen then address
  else
    zeroFilled 16 (address.take (plen / 8) ++
      if plen % 8 ≠ 0 then [address.getD (plen / 8) 0 &&& UInt8.ofNat (0xFF <<< (8 - plen % 8))] else [])

/-- The bytes taken over from the default prefix `dp`, which has to be of the family. -/
def defaultBytes (dp : Option Address) (mapped : Bool) (n : Nat) : Option (List UInt8) :=
  match dp with
  | none => none
  | some dp => if v4mapped dp = mapped then some (dp.take n) else none

/-- The array `prefix` of `network_prefix` and the value returned; none where it returns -1 before. -/
def networkBytes (ae pb omitted : Nat) (p : Memory) (dp : Option Address) (len : Nat) :
    Option (Int × Address) :=
  match ae with
  | 0 => some (0, zeroFilled 16 [])
  | 1 =>
    if 4 < omitted ∨ 4 < pb ∨ (omitted < pb ∧ len < pb - omitted) then none
    else
      (if omitted = 0 then some (v4PrefixBytes.take 12) else defaultBytes dp true (12 + omitted)).map
        fun start => ((pb : Int) - omitted, zeroFilled 16 (start ++ p.bytes 0 (pb - omitted)))
  | 2 =>
    if 16 < omitted ∨ (omitted < pb ∧ len < pb - omitted) then none
    else
      (if omitted = 0 then some [] else defaultBytes dp false omitted).map
        fun start => ((pb : Int) - omitted, zeroFilled 16 (start ++ p.bytes 0 (pb - omitted)))
  | 3 =>
    if 8 < pb ∧ len < pb - 8 then none
    else some ((pb : Int) - 8, zeroFilled 16 ([0xFE, 0x80, 0, 0, 0, 0, 0, 0] ++ p.bytes 0 (pb - 8)))
  | _ => none

/-- `network_prefix`; a negative `plen` stands for a whole address. -/
def networkPrefix (ae : Nat) (plen : Int) (omitted : Nat) (p : Memory) (dp : Option Address)
    (len : Nat) : Option (Int × Address) :=
  let pb := if 0 ≤ plen then (plen.toNat + 7) / 8 else if ae = 1 then 4 else 16
  if 16 < pb then none
  else
    (networkBytes ae pb omitted p dp len).map fun r =>
      (r.1, maskPrefix r.2 (if plen < 0 then 128 else if ae = 1 then plen.toNat + 96 else plen.toNat))

def networkAddress (ae : Nat) (a : Memory) (len : Nat) : Option (Int × Address) :=
  networkPrefix ae (-1) 0 a none len

/-- The callers go on when `rc` is not negative. -/
def accepted (r : Option (Int × Address)) : Option (Nat × Address) :=
  r.bind fun r => if r.1 < 0 then none else some (r.1.toNat, r.2)

def diversityHops : Nat := 8

def attributeLoop (a : Memory) (alen : Nat) : Nat → Nat → List UInt8 → List UInt8
  | 0, _, channels => channels
  | fuel + 1, i, channels =>
    if i < alen then
      if a i = 0 then attributeLoop a alen fuel (i + 1) channels
      else if i + 1 > alen then channels
      else
        let len := (a (i + 1)).toNat
        if i + len > alen then channels
        else if a i = 1 then attributeLoop a alen fuel (i + len + 2) channels
        else if a i = 2 then
          -- an overlong attribute is cut, and the walk goes on inside it
          let len := min len diversityHops
          if (a.bytes (i + 2) len).contains 0 then channels
          else attributeLoop a alen fuel (i + len + 2) (zeroFilled diversityHops (a.bytes (i + 2) len))
        else attributeLoop a alen fuel (i + len + 2) channels
    else channels

/-- Every round moves on by at least one byte. -/
def parseRouteAttributes (a : Memory) (alen : Nat) (channels : List UInt8) : List UInt8 :=
  attributeLoop a alen alen 0 channels

/-- The part of `channels` that `channels_len` counts. -/
def knownChannels (channels : List UInt8) : List UInt8 := channels.takeWhile (· ≠ 0)

/-- The variables that are kept from message to message. -/
structure ParserState where
  haveRouterId : Bool
  haveV4Prefix : Bool
  haveV6Prefix : Bool
  haveV4Nh : Bool
  haveV6Nh : Bool
  routerId : List UInt8
  v4Prefix : Address
  v6Prefix : Address
  v4Nh : Address
  v6Nh : Address
deriving DecidableEq, Repr

/-- What the stack holds where the arrays of `parse_packet` are placed. -/
structure Stack where
  routerId : List UInt8
  v4Prefix : Address
  v6Prefix : Address
  v4Nh : Address
  v6Nh : Address

def Stack.start (stack : Stack) : ParserState where
  haveRouterId := false
  haveV4Prefix := false
  haveV6Prefix := false
  haveV4Nh := false
  haveV6Nh := false
  routerId := stack.routerId
  v4Prefix := stack.v4Prefix
  v6Prefix := stack.v6Prefix
  v4Nh := stack.v4Nh
  v6Nh := stack.v6Nh

structure RouteUpdate where
  routerId : List UInt8
  net : Address
  plen : Nat
  seqno : Nat
  metric : Nat
  interval : Nat
  nh : Address
  channels : List UInt8
deriving DecidableEq, Repr

inductive Call
  | ackReq (nonce interval : Nat)
  | hello (seqno interval : Nat)
  | ihu (txcost interval : Nat) (ae : UInt8) (address : Address)
  | retract
  | update (route : RouteUpdate)
  | request (target : Option (Address × Nat))
  | mhRequest (net : Address) (plen hopCount seqno : Nat) (routerId : List UInt8)
deriving DecidableEq, Repr

structure Interface where
  ipv4 : Bool
  faraway : Bool

variable (ifp : Interface) (neigh : Address) (st : ParserState) (message : Memory) (len : Nat)

def parseAckReq : Option Call :=
  if len < 6 then none else some (.ackReq (message.ntohs 4) (message.ntohs 6))

def parseHello : Option Call :=
  if len < 6 then none else some (.hello (message.ntohs 4) (message.ntohs 6))

def parseIhu : Option Call :=
  if len < 6 then none
  else
    (accepted (networkAddress (message 2).toNat (message.shift 8) (len - 6))).map fun r =>
      .ihu (message.ntohs 4) (message.ntohs 6) (message 2) r.2

def parseRouterId : ParserState :=
  if len < 10 then { st with haveRouterId := false }
  else { st with routerId := message.bytes 4 8, haveRouterId := true }

def parseNh : ParserState :=
  match (if len < 2 then none else accepted (networkAddress (message 2).toNat (message.shift 4) (len - 2))) with
  | none => { st with haveV4Nh := false, haveV6Nh := false }
  | some (_, nh) =>
    if message 2 = 1 then { st with v4Nh := nh, haveV4Nh := true }
    else { st with v6Nh := nh, haveV6Nh := true }

namespace ParserState

def dropPrefixes : ParserState := { st with haveV4Prefix := false, haveV6Prefix := false }

def keepPrefix (ae : UInt8) (net : Address) : ParserState :=
  if ae = 1 then { st with v4Prefix := net, haveV4Prefix := true }
  else { st with v6Prefix := net, haveV6Prefix := true }

def keepRouterId (ae : UInt8) (net : Address) : ParserState :=
  { st with
    routerId := if ae = 1 then [0, 0, 0, 0] ++ (net.drop 12).take 4 else (net.drop 8).take 8
    haveRouterId := true }

end ParserState

/-- The prefix of an update and its bytes. The test reads the flags where the address encoding is meant. -/
def updatePrefix : Option (Nat × Address) :=
  if message 5 = 0 ∨ (if message 3 = 1 then st.haveV4Prefix else st.haveV6Prefix) = true then
    accepted (networkPrefix (message 2).toNat (message 4).toNat (message 5).toNat (message.shift 12)
      (some (if message 2 = 1 then st.v4Prefix else st.v6Prefix)) (len - 10))
  else none

def updateState (net : Address) : ParserState :=
  let st := if message 3 &&& 0x80 ≠ 0 then st.keepPrefix (message 2) net else st
  if message 3 &&& 0x40 ≠ 0 then st.keepRouterId (message 2) net else st

def updateChannels (len parsedLen metric : Nat) : List UInt8 :=
  if ifp.faraway then [0]
  else
    let channels := if metric < 256 then [0] else [255, 0]
    if parsedLen < len then parseRouteAttributes (message.shift (2 + parsedLen)) (len - parsedLen) channels
    else channels

/-- What an update whose prefix was read asks for, in the state after its flags. -/
def updateCall (len rc : Nat) (net : Address) : Option Call :=
  if st.haveRouterId = false ∧ message 2 ≠ 0 then none
  else if message 2 = 0 then
    if message.ntohs 10 < 0xFFFF then none else some .retract
  else if message 2 = 1 ∧ (st.haveV4Nh = false ∨ ifp.ipv4 = false) then none
  else
    some (.update {
      routerId := st.routerId
      net := net
      plen := ((message 4).toNat + if message 2 = 1 then 96 else 0) % 256
      seqno := message.ntohs 8
      metric := message.ntohs 10
      interval := message.ntohs 6
      nh := if message 2 = 1 then st.v4Nh else if st.haveV6Nh then st.v6Nh else neigh
      channels := knownChannels (updateChannels ifp message len (10 + rc) (message.ntohs 10)) })

def parseUpdate : ParserState × Option Call :=
  if len < 10 then (if len < 2 ∨ message 3 &&& 0x80 ≠ 0 then st.dropPrefixes else st, none)
  else
    match updatePrefix st message len with
    | none => (if message 3 &&& 0x80 ≠ 0 then st.dropPrefixes else st, none)
    | some (rc, net) =>
      (updateState st message net, updateCall ifp neigh (updateState st message net) message len rc net)

def parseRequest : Option Call :=
  if len < 2 then none
  else
    (accepted (networkPrefix (message 2).toNat (message 3).toNat 0 (message.shift 4) none (len - 2))).map fun r =>
      .request (if message 2 = 0 then none
        else some (r.2, ((message 3).toNat + if message 2 = 1 then 96 else 0) % 256))

def parseMhRequest : Option Call :=
  if len < 14 then none
  else
    (accepted (networkPrefix (message 2).toNat (message 3).toNat 0 (message.shift 16) none (len - 14))).map
      fun r => .mhRequest r.2 (((message 3).toNat + if message 2 = 1 then 96 else 0) % 256) (message 6).toNat
        (message.ntohs 4) (message.bytes 8 8)

/-- One message of `parse_packet`, from its type to the label `done`. -/
def parseMessage : ParserState × Option Call :=
  let len := (message 1).toNat
  match (message 0).toNat with
  | 2 => (st, parseAckReq message len)
  | 4 => (st, parseHello message len)
  | 5 => (st, parseIhu message len)
  | 6 => (parseRouterId st message len, none)
  | 7 => (parseNh st message len, none)
  | 8 => parseUpdate ifp neigh st message len
  | 9 => (st, parseRequest message len)
  | 10 => (st, parseMhRequest message len)
  | _ => (st, none)

/-- The functions that `parse_packet` calls, for one sender on one interface; `σ` is the
state of the daemon. -/
structure Callees (σ : Type) where
  /-- Without a result no neighbour could be allocated. -/
  findNeighbour : σ → Option σ
  sendAck (nonce interval : Nat) : σ → σ
  updateNeighbour (seqno interval : Nat) : σ → Bool × σ
  updateNeighbourMetric (changed : Bool) : σ → σ
  scheduleNeighboursCheck (msecs : Nat) : σ → σ
  isInterfaceLlAddress (address : Address) : σ → Bool
  txcost : σ → Nat
  /-- The stores to `txcost`, `ihu_time` and `ihu_interval`. -/
  storeIhu (txcost interval : Nat) : σ → σ
  retractNeighbourRoutes : σ → σ
  updateRoute (route : RouteUpdate) : σ → σ
  sendIhu : σ → σ
  /-- The last full update on the interface is older than a hello interval. -/
  updateDue : σ → Bool
  sendUpdate (target : Option (Address × Nat)) : σ → σ
  handleRequest (net : Address) (plen hopCount seqno : Nat) (routerId : List UInt8) : σ → σ

variable {σ : Type}

def Callees.perform (c : Callees σ) (s : σ) : Call → σ
  | .ackReq nonce interval => c.sendAck nonce interval s
  | .hello seqno interval =>
    let r := c.updateNeighbour seqno interval s
    let s := c.updateNeighbourMetric r.1 r.2
    if interval > 0 then c.scheduleNeighboursCheck (interval * 10) s else s
  | .ihu txcost interval ae address =>
    if ae = 0 ∨ c.isInterfaceLlAddress address s = true then
      let changed := txcost != c.txcost s
      let s := c.updateNeighbourMetric changed (c.storeIhu txcost interval s)
      if interval > 0 then c.scheduleNeighboursCheck (interval * 10 * 3) s else s
    else s
  | .retract => c.retractNeighbourRoutes s
  | .update route => c.updateRoute route s
  | .request none =>
    let s := c.sendIhu s
    if c.updateDue s then c.sendUpdate none s else s
  | .request (some target) => c.sendUpdate (some target) s
  | .mhRequest net plen hopCount seqno routerId => c.handleRequest net plen hopCount seqno routerId s

/-- The message at offset `i` of the body is decoded and carried out. -/
def messageStep (c : Callees σ) (ifp : Interface) (neigh : Address) (packet : Memory)
    (ps : ParserState × σ) (i : Nat) : ParserState × σ :=
  let r := parseMessage ifp neigh ps.1 (packet.shift (4 + i))
  (r.1, r.2.elim ps.2 (c.perform ps.2))

/-- The loop over the messages of a packet. -/
def messageLoop (c : Callees σ) (ifp : Interface) (neigh : Address) (packet : Memory) (bodylen : Nat) :
    Nat → Nat → ParserState × σ → ParserState × σ
  | 0, _, ps => ps
  | fuel + 1, i, ps =>
    if i < bodylen then
      if packet (4 + i) = 0 then messageLoop c ifp neigh packet bodylen fuel (i + 1) ps
      else if i + 1 > bodylen then ps
      else
        let len := (packet (4 + i + 1)).toNat
        if i + len > bodylen then ps
        else messageLoop c ifp neigh packet bodylen fuel (i + len + 2) (messageStep c ifp neigh packet ps i)
    else ps

/-- The length of the body, cut off at what was received. It is negative in the source for less than a header.
-/
def bodyLength (packet : Memory) (packetlen : Nat) : Nat :=
  if packet.ntohs 2 + 4 > packetlen then packetlen - 4 else packet.ntohs 2

/-- Reads a packet and calls what its messages ask for. -/
def parsePacket (c : Callees σ) (neigh : Address) (ifp : Interface) (stack : Stack) (packet : Memory)
    (packetlen : Nat) (s : σ) : σ :=
  if linklocal neigh = false ∨ packet 0 ≠ 42 ∨ packet 1 ≠ 2 then s
  else
    match c.findNeighbour s with
    | none => s
    | some s =>
      (messageLoop c ifp neigh packet (bodyLength packet packetlen) (bodyLength packet packetlen) 0
        (stack.start, s)).2

end OspfMdr.Babel
