import OspfMdr.Lib.Tiling

/-!
# Reception of packets (`ospf6_message.c`)

The receive buffer is a function from offsets to bytes. What lies behind the received
bytes is arbitrary. The packet starts at offset 0. `unsigned` subtraction is modulo 2^32.
-/

namespace OspfMdr.Ospf6
open Lib

abbrev Memory := Nat → UInt8

def Memory.ntohs (m : Memory) (p : Nat) : Nat := (m p).toNat * 256 + (m (p + 1)).toNat

def Memory.ntohl (m : Memory) (p : Nat) : Nat := m.ntohs p * 65536 + m.ntohs (p + 2)

def unsignedSub (a b : Nat) : Nat := (a + 2 ^ 32 - b) % 2 ^ 32

def headerSize : Nat := 16
def helloMinSize : Nat := 20
def dbDescMinSize : Nat := 12
def lsReqMinSize : Nat := 0
def lsreqLsdescFixSize : Nat := 12
def lsUpdMinSize : Nat := 4
def lsAckMinSize : Nat := 0
def lsaHeaderSize : Nat := 20

def messageTypeHello : Nat := 1
def messageTypeDbdesc : Nat := 2
def messageTypeLsreq : Nat := 3
def messageTypeLsupdate : Nat := 4
def messageTypeLsack : Nat := 5

def packetType (m : Memory) : Nat := (m 1).toNat

def packetLength (m : Memory) : Nat := m.ntohs 2

def ospf6PacketMinlen : List Nat :=
  [0, helloMinSize, dbDescMinSize, lsReqMinSize, lsUpdMinSize, lsAckMinSize]

def ospf6LsaMinlen : List Nat := [0, 4, 4, 4, 12, 4, 0, 4, 24, 12]

def ospf6PrefixSpace (prefixLength : Nat) : Nat := (prefixLength + 31) / 32 * 4

/-! ### Validation -/

-- each turn takes at least four bytes, so the length is enough fuel
def ospf6PrefixesExaminLoop (m : Memory) : Nat → Nat → Nat → Nat → Option Nat
  | _, _, 0, num => some num
  | 0, _, _ + 1, _ => none
  | fuel + 1, current, length, num =>
    if length < 4 then none
    else if (m current).toNat > 128 then none
    else
      let requested := 4 + ospf6PrefixSpace (m current).toNat
      if requested > length then none
      else ospf6PrefixesExaminLoop m fuel (current + requested) (length - requested) (num + 1)

def ospf6PrefixesExamin (m : Memory) (current length reqNumPfxs : Nat) : Bool :=
  ospf6PrefixesExaminLoop m length current length 0 == some reqNumPfxs

def ospf6AsExternalExamin (m : Memory) (lsah lsalen : Nat) : Bool :=
  let lsa := lsah + lsaHeaderSize
  if lsaHeaderSize + 4 + 4 > lsalen then false
  else
    let bits := (m lsa).toNat
    let expLength := lsaHeaderSize + 4 + (if bits / 2 % 2 = 1 then 16 else 0) +
      (if bits % 2 = 1 then 4 else 0) + (if m.ntohs (lsa + 6) ≠ 0 then 4 else 0)
    if expLength > lsalen then false
    else ospf6PrefixesExamin m (lsa + 4) (unsignedSub lsalen expLength) 1

-- the function code is cut to the eight bits of `ltindex`
/-- The check of one LSA. -/
def ospf6LsaExamin (m : Memory) (lsah lsalen : Nat) (headeronly : Bool) : Bool :=
  let lsatype := m.ntohs (lsah + 2)
  let ltindex := lsatype % 0x2000 % 256
  let minlen := ospf6LsaMinlen.getD ltindex 0
  if ltindex < 10 ∧ minlen ≠ 0 ∧ lsalen < minlen + lsaHeaderSize then false
  else if lsatype = 0x2001 then
    unsignedSub (unsignedSub lsalen lsaHeaderSize) 4 % 16 == 0
  else if lsatype = 0x2002 then
    unsignedSub (unsignedSub lsalen lsaHeaderSize) 4 % 4 == 0
  else if lsatype = 0x2003 then
    headeronly || ospf6PrefixesExamin m (lsah + lsaHeaderSize + 4)
      (unsignedSub (unsignedSub lsalen lsaHeaderSize) 4) 1
  else if lsatype = 0x2004 then decide (lsalen ≤ lsaHeaderSize + 12)
  else if lsatype = 0x4005 ∨ lsatype = 0x2007 then
    headeronly || ospf6AsExternalExamin m lsah lsalen
  else if lsatype = 0x0008 then
    headeronly || ospf6PrefixesExamin m (lsah + lsaHeaderSize + 24)
      (unsignedSub (unsignedSub lsalen lsaHeaderSize) 24) (m.ntohl (lsah + lsaHeaderSize + 20))
  else if lsatype = 0x2009 then
    headeronly || ospf6PrefixesExamin m (lsah + lsaHeaderSize + 12)
      (unsignedSub (unsignedSub lsalen lsaHeaderSize) 12) (m.ntohs (lsah + lsaHeaderSize))
  else true

def lsaSize (m : Memory) (p : Nat) : Nat := m.ntohs (p + 18)

-- each turn takes at least the twenty bytes of a header
def ospf6LsaseqExaminLoop (m : Memory) (headeronly : Bool) : Nat → Nat → Nat → Nat → Option Nat
  | _, _, 0, num => some num
  | 0, _, _ + 1, _ => none
  | fuel + 1, lsah, length, num =>
    if length < lsaHeaderSize then none
    else
      let lsalen := lsaSize m lsah
      if lsalen < lsaHeaderSize then none
      else if headeronly then
        if ospf6LsaExamin m lsah lsalen true then
          ospf6LsaseqExaminLoop m headeronly fuel (lsah + lsaHeaderSize) (length - lsaHeaderSize)
            (num + 1)
        else none
      else if lsalen > length then none
      else if ospf6LsaExamin m lsah lsalen false then
        ospf6LsaseqExaminLoop m headeronly fuel (lsah + lsalen) (length - lsalen) (num + 1)
      else none

def ospf6LsaseqExamin (m : Memory) (lsah length : Nat) (headeronly : Bool) (declaredNumLsas : Nat) :
    Bool :=
  match ospf6LsaseqExaminLoop m headeronly length lsah length 0 with
  | none => false
  | some counted => !(declaredNumLsas ≠ 0 ∧ counted % 2 ^ 32 ≠ declaredNumLsas)

/-- `true` is `MSG_OK`. -/
def ospf6PacketExamin (m : Memory) (bytesonwire : Nat) : Bool :=
  let type := packetType m
  let length := packetLength m
  let minlen := ospf6PacketMinlen.getD type 0
  if bytesonwire < headerSize then false
  else if bytesonwire < length then false
  else if (m 0).toNat ≠ 3 then false
  else if type < 6 ∧ minlen ≠ 0 ∧ length < headerSize + minlen then false
  else if type = messageTypeHello then
    unsignedSub (unsignedSub length headerSize) helloMinSize % 4 == 0
  else if type = messageTypeDbdesc then
    ospf6LsaseqExamin m (headerSize + dbDescMinSize)
      (unsignedSub (unsignedSub length headerSize) dbDescMinSize) true 0
  else if type = messageTypeLsreq then
    unsignedSub (unsignedSub length headerSize) lsReqMinSize % lsreqLsdescFixSize == 0
  else if type = messageTypeLsupdate then
    ospf6LsaseqExamin m (headerSize + lsUpdMinSize)
      (unsignedSub (unsignedSub length headerSize) lsUpdMinSize) false (m.ntohl headerSize)
  else if type = messageTypeLsack then
    ospf6LsaseqExamin m (headerSize + lsAckMinSize)
      (unsignedSub (unsignedSub length headerSize) lsAckMinSize) true 0
  else false

/-! ### Receive loops

The body of a loop handles one element. It may return from the receive function, as the
Database Description and Link State Request loops do. -/

section Recv
variable {σ : Type} (m : Memory) (body : σ → Nat → Option σ) (s : σ)

/-- A receive loop over entries of one size. -/
def fixedRecvLoop (size start : Nat) : Walk σ :=
  walk (fun p => decide (p + size ≤ packetLength m)) (fun _ => size) body (packetLength m + 1) s start

def ospf6DbdescRecvLoop : Walk σ := fixedRecvLoop m body s lsaHeaderSize (headerSize + dbDescMinSize)

def ospf6LsreqRecvLoop : Walk σ := fixedRecvLoop m body s lsreqLsdescFixSize headerSize

def ospf6LsackRecvLoop : Walk σ := fixedRecvLoop m body s lsaHeaderSize headerSize

def ospf6LsupdateRecvLoop : Walk σ :=
  walk (fun p => decide (p < packetLength m) && decide (p + lsaSize m p ≤ packetLength m)) (lsaSize m)
    body (packetLength m + 1) s (headerSize + lsUpdMinSize)

end Recv

def elementReads {σ : Type} (size : Nat → Nat) (w : Walk σ) : List (Nat × Nat) :=
  w.visited.map fun p => (p, size p)

/-- The loop condition of the Link State Update loop reads the length field of the LSA. -/
def lsupdateReads {σ : Type} (m : Memory) (w : Walk σ) : List (Nat × Nat) :=
  elementReads (lsaSize m) w ++ w.visited.map (fun p => (p + 18, 2)) ++
    if w.cursor < packetLength m then [(w.cursor + 18, 2)] else []

/-- No read beyond the declared length, and the assertion after the loop holds. -/
def LoopSafe {σ : Type} (m : Memory) (reads : List (Nat × Nat)) (w : Walk σ) : Prop :=
  (∀ r ∈ reads, r.1 + r.2 ≤ packetLength m) ∧ (w.state.isSome → w.cursor = packetLength m)

/-- The reception of a packet stays within its declared length and passes its assertions. -/
structure RecvSafe (m : Memory) : Prop where
  header : headerSize ≤ packetLength m
  dbdesc : packetType m = messageTypeDbdesc → ∀ (σ : Type) (body : σ → Nat → Option σ) (s : σ),
    let w := ospf6DbdescRecvLoop m body s
    LoopSafe m ((headerSize, dbDescMinSize) :: elementReads (fun _ => lsaHeaderSize) w) w
  lsreq : packetType m = messageTypeLsreq → ∀ (σ : Type) (body : σ → Nat → Option σ) (s : σ),
    let w := ospf6LsreqRecvLoop m body s
    LoopSafe m (elementReads (fun _ => lsreqLsdescFixSize) w) w
  lsupdate : packetType m = messageTypeLsupdate → ∀ (σ : Type) (body : σ → Nat → Option σ) (s : σ),
    let w := ospf6LsupdateRecvLoop m body s
    LoopSafe m (lsupdateReads m w) w
  lsack : packetType m = messageTypeLsack → ∀ (σ : Type) (body : σ → Nat → Option σ) (s : σ),
    let w := ospf6LsackRecvLoop m body s
    LoopSafe m (elementReads (fun _ => lsaHeaderSize) w) w

end OspfMdr.Ospf6
