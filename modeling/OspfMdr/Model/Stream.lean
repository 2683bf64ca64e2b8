import OspfMdr.Lib.Cursor

/-!
# Streams that are read (`lib/stream.c`)

The bytes of the stream end at its `endp`. Where an assertion of the stream functions fails, the
scanner fails.
-/

namespace OspfMdr.Bgp
open Lib

abbrev Stream := Cursor UInt8

abbrev Parse := Scan UInt8

def word (a b : UInt8) : UInt16 := a.toUInt16 <<< 8 ||| b.toUInt16

def long (a b c d : UInt8) : UInt32 := a.toUInt32 <<< 24 ||| b.toUInt32 <<< 16 ||| c.toUInt32 <<< 8 ||| d.toUInt32

def streamGetc : Parse UInt8 := Scan.next

def streamGetw : Parse UInt16 := do
  let a ← Scan.next
  let b ← Scan.next
  return word a b

def streamGetl : Parse UInt32 := do
  let a ← Scan.next
  let b ← Scan.next
  let c ← Scan.next
  let d ← Scan.next
  return long a b c d

def streamForwardGetp (size : Nat) : Parse Unit := do
  let getp ← Scan.pos
  Scan.seek (getp + size)

structure Notify where
  code : Nat
  subcode : Nat
  data : List UInt8
  deriving DecidableEq, Repr

end OspfMdr.Bgp
