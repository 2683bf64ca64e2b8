import OspfMdr.Lib.Tiling

/-!
# The TLV parser of IS-IS (`isisd/isis_tlv.c`)

Positions are offsets into a memory that may hold anything behind the PDU. Kept of a TLV are the position of
its header and where its list elements start and end.
-/

namespace OspfMdr.IsisTlv
open Lib

/-- The bytes of a prefix that follow a control byte. -/
def teOctets (control : UInt8) : Nat :=
  if control.toNat % 64 = 0 then 0 else (control.toNat % 64 - 1) / 8 + 1

def ipv6Octets (prefixLen : UInt8) : Nat := (prefixLen.toNat + 7) / 8

/-- What `parse_tlvs` does with the value of a TLV that is expected. -/
inductive TlvBody
  /-- A loop over elements that start after `lead` bytes. It returns each of them or, when
  they are joined, the value up to the cursor. -/
  | elements (lead : Nat) (joined : Bool) (size : Nat → Nat)
  | authInfo
  | way3Hello
  | whole

def TlvBody.each (size : Nat → Nat) : TlvBody := elements 0 false size

/-- The number of the `TLVFLAG` and the treatment of a type. -/
def tlvBody (mem : Nat → UInt8) (type : UInt8) : Option (Nat × TlvBody) :=
  match type.toNat with
  | 1 => some (0, .each fun p => (mem p).toNat + 1)
  | 2 => some (1, .elements 1 false fun _ => 11)
  | 3 => some (2, .elements 4 true fun _ => 6)
  | 6 => some (5, .each fun _ => 6)
  | 8 => some (7, .whole)
  | 9 => some (6, .each fun _ => 16)
  | 10 => some (8, .authInfo)
  | 12 => some (20, .whole)
  | 22 => some (16, .each fun p => 11 + (mem (p + 10)).toNat)
  | 128 => some (9, .each fun _ => 12)
  | 129 => some (10, .whole)
  | 130 => some (11, .each fun _ => 12)
  | 132 => some (12, .each fun _ => 4)
  | 134 => some (19, .whole)
  | 135 => some (17, .each fun p => 5 + teOctets (mem (p + 4)))
  | 137 => some (13, .whole)
  | 211 => some (21, .whole)
  | 232 => some (14, .each fun _ => 16)
  | 236 => some (15, .each fun p => 6 + ipv6Octets (mem (p + 5)))
  | 240 => some (18, .way3Hello)
  | _ => none

/-- The treatment of the header at `pos` under the mask of expected kinds. -/
def bodyAt (expected : BitVec 32) (mem : Nat → UInt8) (pos : Nat) : TlvBody :=
  match tlvBody mem (mem pos) with
  | some (flag, body) => if expected.getLsbD flag then body else .whole
  | none => .whole

/-- The elements of a value and the cursor behind it, none when the loop does not end. -/
def parseBody (value length : Nat) : TlvBody → Option (List (Nat × Nat) × Nat)
  | .elements lead joined size =>
    let w := walk (fun q => decide (q < value + length)) size (fun s _ => some s) (length + 1) ()
      (value + lead)
    some (if joined then [(value, w.cursor)] else w.visited.map fun q => (q, q + size q), w.cursor)
  -- `value_len` is not advanced
  | .way3Hello => if length = 0 then some ([], value) else none
  | .authInfo | .whole => some ([], value + length)

/-- An expected authentication without its type makes `parse_tlvs` return at once. -/
def TlvBody.refused (length : Nat) : TlvBody → Bool
  | authInfo => length == 0
  | _ => false

/-- A TLV that was read: where its header is, and the start and end of its list elements. -/
structure TlvRead where
  pos : Nat
  elements : List (Nat × Nat)
deriving DecidableEq

/-- The outer loop: whether the result is `ISIS_OK`, and the TLVs in the order read. It is
none when the loop does not end. -/
def readLoop (expected : BitVec 32) (mem : Nat → UInt8) (size : Nat) :
    Nat → Nat → Option (Bool × List TlvRead)
  | 0, _ => none
  | fuel + 1, pos =>
    if pos + 2 < size then
      let length := (mem (pos + 1)).toNat
      let body := bodyAt expected mem pos
      if size < pos + 2 + length ∨ body.refused length then some (false, [⟨pos, []⟩])
      else do
        let (elements, next) ← parseBody (pos + 2) length body
        let (ok, reads) ← readLoop expected mem size fuel next
        return ((tlvBody mem (mem pos)).isSome && ok, ⟨pos, elements⟩ :: reads)
    else some (true, [])

/-- The loop over the TLVs of a PDU. -/
def parseTlvs (expected : BitVec 32) (mem : Nat → UInt8) (size : Nat) :
    Option (Bool × List TlvRead) :=
  readLoop expected mem size (size + 1) 0

end OspfMdr.IsisTlv
