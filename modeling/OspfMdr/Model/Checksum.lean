import Mathlib.Tactic

/-!
# Checksum of an LSA

`none` stands for a sum that leaves the range of an `int`, and for a failed assertion.
-/

namespace OspfMdr.Ospf6

def cInt (v : Int) : Option Int := if -2 ^ 31 ≤ v ∧ v < 2 ^ 31 then some v else none

def modx : Nat := 4102

def sumByte (c : Int × Int) (p : UInt8) : Option (Int × Int) := do
  let c0 ← cInt (c.1 + p.toNat)
  let c1 ← cInt (c.2 + c0)
  return (c0, c1)

def sumBlock (c : Int × Int) (block : List UInt8) : Option (Int × Int) := do
  let c ← block.foldlM sumByte c
  return (c.1.tmod 255, c.2.tmod 255)

/-- What both functions do with the remainder `x`. -/
def checkBytes (c0 x : Int) : Option (Int × Int) := do
  let x := if x ≤ 0 then x + 255 else x
  let y ← cInt (510 - c0 - x)
  return (x, if y > 255 then y - 255 else y)

def storeTwo (offset : Nat) (x y : UInt8) (l : List UInt8) : List UInt8 :=
  l.take offset ++ [x, y] ++ l.drop (offset + 2)

def lsaLength (lsa : List UInt8) : Nat := (lsa.getD 18 0).toNat * 256 + (lsa.getD 19 0).toNat

def lsaChecksumLoop (bytes : List UInt8) (ep sp : Nat) (c : Int × Int) : Option (Int × Int) :=
  if sp < ep then do
    let q := if sp + modx > ep then ep else sp + modx
    let c ← sumBlock c ((bytes.take q).drop sp)
    lsaChecksumLoop bytes ep q c
  else some c
termination_by ep - sp
decreasing_by
  unfold modx
  split <;> omega

/-- The LSA with the checksum, and the checksum in host byte order. -/
def ospf6LsaChecksum (lsa : List UInt8) : Option (List UInt8 × Nat) := do
  let lsa := storeTwo 16 0 0 lsa
  let length := (lsaLength lsa + 65534) % 65536
  let (c0, c1) ← lsaChecksumLoop (lsa.drop 2) length 0 (0, 0)
  let product ← cInt ((length - 15) * c0)
  let difference ← cInt (product - c1)
  let (x, y) ← checkBytes c0 (difference.tmod 255)
  let sum ← cInt (x * 256 + y)
  let checksum := (sum % 65536).toNat
  return (storeTwo 16 (.ofNat (checksum / 256)) (.ofNat checksum) lsa, checksum)

def fletcherLoop (p : List UInt8) (left : Nat) (c : Int × Int) : Option (Int × Int) :=
  if left = 0 then some c
  else do
    let partialLen := min left modx
    let c ← sumBlock c (p.take partialLen)
    fletcherLoop (p.drop partialLen) (left - partialLen) c
termination_by left
decreasing_by
  unfold modx
  omega

/-- The remainder is computed in a `size_t` and cast to an `int`. -/
def fletcherChecksum (buffer : List UInt8) (offset : Nat) : Option (List UInt8 × Nat) :=
  let len := buffer.length
  if offset < len then do
    let buffer := storeTwo offset 0 0 buffer
    let (c0, c1) ← fletcherLoop buffer len (0, 0)
    let difference := Int.bmod (((len - offset - 1 : Nat) * c0 - c1) % 2 ^ 64) (2 ^ 32)
    let (x, y) ← checkBytes c0 (difference.tmod 255)
    return (storeTwo offset (.ofNat x.toNat) (.ofNat y.toNat) buffer,
      (x.toNat <<< 8 ||| y.toNat &&& 0xff) % 65536)
  else none

end OspfMdr.Ospf6
