import OspfMdr.Lib.KeyedList
import OspfMdr.Model.Hello
import OspfMdr.Model.Lls

/-!
# MDR Hello packets (`ospf6_mdr_message.c`, `ospf6_receive` of `ospf6_message.c`)

The bytes of an MDR Hello with its link-local signaling block, and the way back to the neighbor
lists. The MDR calculation, the adjacencies and the LSA update before the Hello are left out: the
interface is in the state in which they leave it.
-/

namespace OspfMdr.Ospf6

def htons (n : Nat) : List UInt8 := [UInt8.ofNat (n / 256), UInt8.ofNat n]

def htonl (n : Nat) : List UInt8 := htons (n / 65536) ++ htons n

/-- The fields of the interface and of its area and instance that a Hello has beside the lists. -/
structure HelloSender where
  routerId : UInt32
  areaId : UInt32
  instanceId : UInt8
  options0 : UInt8
  options1 : UInt8
  options2 : UInt8
  interfaceId : UInt32
  priority : UInt8
  helloInterval : UInt16
  deadInterval : UInt16
  mdrLevel : MdrLevel
  parent : Option UInt32
  bparent : Option UInt32
  deriving DecidableEq, Repr

variable (interop : Bool) (m : Memory) (c : HelloSender)

def HelloSender.drouter : UInt32 :=
  if c.mdrLevel = .mdr then c.routerId else c.parent.getD 0

def HelloSender.bdrouter : UInt32 :=
  if c.mdrLevel = .bmdr then c.routerId else c.bparent.getD 0

def helloHeaderBytes (length : Nat) : List UInt8 :=
  [3, 1] ++ htons length ++ htonl c.routerId.toNat ++ htonl c.areaId.toNat ++ [0, 0, c.instanceId, 0]

/-- `struct ospf6_hello` with the L-bit set. -/
def helloBodyBytes : List UInt8 :=
  htonl c.interfaceId.toNat ++ [c.priority, c.options0, c.options1 ||| 2, c.options2] ++
    htons c.helloInterval.toNat ++ htons c.deadInterval.toNat ++ htonl c.drouter.toNat ++
    htonl c.bdrouter.toNat

def helloTlvBytes (hello : MdrHello) : List UInt8 :=
  htons (tlvTypes interop).hello ++ htons helloTlvSize ++ htons hello.hsn.toNat ++
    [(if hello.aBit then 2 else 0) ||| (if hello.diff then 1 else 0), 0, hello.n1, hello.n2, hello.n3, hello.n4]

def Memory.ofList (l : List UInt8) : Memory := fun p => l.getD p 0

/-- `ospf6_set_lls_header`; the checksum is stored in the byte order of a little-endian host. -/
def ospf6SetLlsHeader (tlvs : List UInt8) : List UInt8 :=
  let datalen := htons ((4 + tlvs.length) / 4)
  let cksum := inCksum (.ofList ([0, 0] ++ datalen ++ tlvs)) 0 (4 + tlvs.length)
  [UInt8.ofNat cksum, UInt8.ofNat (cksum / 256)] ++ datalen ++ tlvs

def ridBytes (rids : List UInt32) : List UInt8 := rids.flatMap fun id => htonl id.toNat

/-- The bytes of a Hello. -/
def helloPacket (hello : MdrHello) : List UInt8 :=
  helloHeaderBytes c (headerSize + helloMinSize + 4 * hello.rids.length) ++ helloBodyBytes c ++
    ridBytes hello.rids ++ ospf6SetLlsHeader (helloTlvBytes interop hello)

/-- `ospf6_mdr_hello_send` with buffers of `iobuflen` bytes; `none` when it writes behind one of them. -/
def ospf6MdrHelloSendPacket (oi : HelloInterface) (iobuflen : Nat) :
    Option (HelloInterface × List UInt8) :=
  let (oi, hello) := ospf6MdrHelloSend oi
  let packet := helloPacket interop c hello
  if packet.length ≤ iobuflen then some (oi, packet) else none

def llsOptionIsset : Bool := (m (headerSize + 6)).toNat / 2 % 2 == 1

/-- The link-local signaling block that `ospf6_receive` passes on; without it the L-bit is cleared. -/
def receivedLls (len : Nat) : Option Nat :=
  if llsOptionIsset m ∧ packetLength m < len ∧
      ospf6LlsValidateDatablock m (packetLength m) (len - packetLength m) then
    some (packetLength m)
  else none

def readRids : List UInt32 :=
  (List.range ((packetLength m - (headerSize + helloMinSize)) / 4)).map fun i =>
    UInt32.ofNat (m.ntohl (headerSize + helloMinSize + 4 * i))

/-- What `ospf6_mdr_hello_recv` reads before it looks at the counts. -/
def parseHelloPacket (len : Nat) : Option MdrHello := do
  let lls ← receivedLls m len
  let tlv ← ospf6MdrProcessHelloTlv m interop lls
  if packetLength m < headerSize + helloMinSize then none
  else some ⟨readRids m, UInt16.ofNat tlv.hsn, tlv.abit, tlv.diff, UInt8.ofNat tlv.n1, UInt8.ofNat tlv.n2,
    UInt8.ofNat tlv.n3, UInt8.ofNat tlv.n4⟩

structure HelloReading where
  lists : HelloLists
  hsn : UInt16
  diff : Bool
  deriving DecidableEq, Repr

/-- What a receiver reads from memory. -/
def readHelloLists (len : Nat) : Option HelloReading :=
  (parseHelloPacket interop m len).bind fun hello => (decodeHello hello).map fun lists => ⟨lists, hello.hsn, hello.diff⟩

/-- What a rejected Hello leaves: it may have stored the A-bit. None if it is processed or an assertion fails.
-/
def helloRejected (len : Nat) : Option (Option Bool) :=
  match receivedLls m len with
  | none => some none
  | some lls =>
    match (helloTlvScan m interop lls).value with
    | none => none
    | some none => some none
    | some (some p) =>
      let tlv := readHelloTlv m p
      if packetLength m < headerSize + helloMinSize ∨
          (readRids m).length < tlv.n1 + tlv.n2 + tlv.n3 + tlv.n4 then
        some (some tlv.abit)
      else none

/-- The fields of a neighbor that are written before a Hello is rejected, and those read for it. -/
structure HeardNeighbor where
  routerId : Nat
  ifindex : Nat
  linklocalAddr : List UInt8
  priority : UInt8
  drouter : Nat
  bdrouter : Nat
  state : NeighborState
  adv : Bool
  abit : Bool
  inactivityTimer : Bool
  deriving DecidableEq, Repr

/-- An MDR interface; `routerLsaTimer` is `thread_router_lsa` of its area. -/
@[ext] structure HeardInterface where
  neighborList : List HeardNeighbor
  sorted : Lib.KeySorted HeardNeighbor.routerId neighborList
  lnl : List Nat
  routerLsaTimer : Bool

def heardFirst : HeardNeighbor :=
  ⟨m.ntohl 4, 0, List.replicate 16 0, m (headerSize + 4), m.ntohl (headerSize + 12), m.ntohl (headerSize + 16),
    .down, false, false, false⟩

/-- `ospf6_hello_recv` behind its checks, for a Hello that is rejected. -/
def rejectHello (src : List UInt8) (m : Memory) (len : Nat) (oi : HeardInterface) :
    Option HeardInterface :=
  (helloRejected interop m len).map fun abit =>
    let known := Lib.keyLookup HeardNeighbor.routerId (m.ntohl 4) oi.neighborList
    let on := known.getD (heardFirst m)
    let ifindex := m.ntohl headerSize
    ⟨Lib.keyInsert HeardNeighbor.routerId
        { on with ifindex := ifindex, linklocalAddr := src, abit := abit.getD on.abit } oi.neighborList,
      oi.sorted.insert _,
      if known.isSome then oi.lnl else oi.lnl.erase (m.ntohl 4),
      oi.routerLsaTimer || on.ifindex != ifindex && (on.state == .full || on.adv)⟩

end OspfMdr.Ospf6
