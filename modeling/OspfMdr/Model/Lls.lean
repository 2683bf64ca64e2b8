import OspfMdr.Model.Packet

/-!
# Link-local signaling blocks (`ospf6_lls.c`, `ospf6_mdr_message.c`)

The validator of the data block and the two handlers that walk through its TLVs. The
block starts at offset `lls` of the receive buffer.
-/

namespace OspfMdr.Ospf6
open Lib

def wordSum (m : Memory) (p : Nat) : Nat → Nat
  | 0 => 0
  | k + 1 => (m p).toNat + 256 * (m (p + 1)).toNat + wordSum m (p + 2) k

variable (m : Memory) (interop : Bool) (lls : Nat)

/-- `in_cksum`; the words are read in the byte order of a little-endian host. -/
def inCksum (p nbytes : Nat) : Nat :=
  let sum := wordSum m p (nbytes / 2) +
    if nbytes % 2 = 1 then (m (p + (nbytes - 1))).toNat else 0
  let sum := sum / 65536 + sum % 65536
  let sum := sum + sum / 65536
  65535 - sum % 65536

def tlvType (tlv : Nat) : Nat := m.ntohs tlv

def tlvVallen (tlv : Nat) : Nat := m.ntohs (tlv + 2)

def tlvPad (tlv : Nat) : Nat :=
  if tlvVallen m tlv % 4 = 0 then 0 else 4 - tlvVallen m tlv % 4

def paddedTlvSize (tlv : Nat) : Nat := 4 + tlvVallen m tlv + tlvPad m tlv

def llsDatalen : Nat := m.ntohs (lls + 2) * 4

def llsTlvWalk : Walk Unit :=
  walk (fun tlv => decide (tlv < lls + llsDatalen m lls)) (paddedTlvSize m) (fun s _ => some s)
    (llsDatalen m lls) () (lls + 4)

def llsBoundaries : List Nat := (llsTlvWalk m lls).visited

/-- The check of a received LLS block. -/
def ospf6LlsValidateDatablock (lls len : Nat) : Bool :=
  if len < 4 then false
  else if len < llsDatalen m lls then false
  else if inCksum m lls (llsDatalen m lls) ≠ 0 then false
  else decide ((llsTlvWalk m lls).cursor = lls + llsDatalen m lls)

/-- What a TLV handler did: the headers it looked at, and the value it found. The value is
missing when an assertion failed. -/
structure TlvScan where
  visited : List Nat
  value : Option (Option Nat)

/-- The loop of both handlers, for the TLV type and value size of the handler. -/
def tlvScanLoop (m : Memory) (type size : Nat) : Nat → Nat → Int → Option Nat → TlvScan
  | 0, _, _, found => ⟨[], some found⟩
  | fuel + 1, tlv, lengthLls, found =>
    if lengthLls > 4 then
      let tlvlen := 4 + tlvVallen m tlv
      if (tlvlen : Int) > lengthLls then ⟨[tlv], some found⟩
      else if tlvType m tlv = type then
        if found.isSome then ⟨[tlv], none⟩
        else if tlvVallen m tlv ≠ size then ⟨[tlv], none⟩
        else
          let r := tlvScanLoop m type size fuel (tlv + tlvlen) (lengthLls - tlvlen) (some (tlv + 4))
          ⟨tlv :: r.visited, r.value⟩
      else
        let r := tlvScanLoop m type size fuel (tlv + tlvlen) (lengthLls - tlvlen) found
        ⟨tlv :: r.visited, r.value⟩
    else ⟨[], some found⟩

/-- The loop that looks for a TLV in a block. -/
def tlvScan (type size lls : Nat) : TlvScan :=
  tlvScanLoop m type size (llsDatalen m lls) (lls + 4) ((llsDatalen m lls : Int) - 4) none

/-- `ospf6_mdr_tlv_type_hello` and `ospf6_mdr_tlv_type_dd`, which depend on the
interoperability setting. -/
structure TlvTypes where
  hello : Nat
  dd : Nat

def tlvTypes : TlvTypes := if interop then ⟨14, 15⟩ else ⟨0x11, 0x12⟩

def helloTlvSize : Nat := 8
def ddTlvSize : Nat := 8

def helloTlvScan : TlvScan :=
  tlvScan m (tlvTypes interop).hello helloTlvSize lls

def ddTlvScan : TlvScan :=
  tlvScan m (tlvTypes interop).dd ddTlvSize lls

structure MdrHelloTlv where
  hsn : Nat
  diff : Bool
  abit : Bool
  n1 : Nat
  n2 : Nat
  n3 : Nat
  n4 : Nat
  deriving DecidableEq, Repr

def readHelloTlv (p : Nat) : MdrHelloTlv where
  hsn := m.ntohs p
  diff := (m (p + 2)).toNat % 2 == 1
  abit := (m (p + 2)).toNat / 2 % 2 == 1
  n1 := (m (p + 4)).toNat
  n2 := (m (p + 5)).toNat
  n3 := (m (p + 6)).toNat
  n4 := (m (p + 7)).toNat

/-- `none` is the error return, and a failed assertion of the scan. -/
def ospf6MdrProcessHelloTlv : Option MdrHelloTlv :=
  ((helloTlvScan m interop lls).value.bind id).map (readHelloTlv m)

/-- The scan looks at the checked boundaries only, at all of them, and no assertion fails. -/
def TlvScan.Ok (r : TlvScan) (boundaries : List Nat) : Prop :=
  r.visited = boundaries ∧ r.value.isSome

end OspfMdr.Ospf6
