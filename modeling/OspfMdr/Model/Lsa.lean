import OspfMdr.Lib.KeyedList

/-!
# LSAs and their databases (`ospf6_lsa.c`, `ospf6_lsdb.c`)

Times are seconds of the monotonic clock.
-/

namespace OspfMdr.Ospf6

open Lib

def maxAge : Nat := 3600

def maxAgeDiff : Nat := 900

structure LsaHeader where
  age : Nat
  type : UInt16
  id : UInt32
  advRouter : UInt32
  seqnum : Int
  checksum : UInt16
  length : UInt16
  deriving DecidableEq, Repr

structure Lsa where
  header : LsaHeader
  birth : Int
  retransCount : Int
  deriving DecidableEq, Repr

inductive LsaScope
  | linklocal
  | area
  | as
  | reserved
  deriving DecidableEq, Repr

def ospf6LsaScope (type : UInt16) : LsaScope :=
  match type.toNat / 0x2000 % 4 with
  | 0 => .linklocal
  | 1 => .area
  | 2 => .as
  | _ => .reserved

def lstypeAsExternal : UInt16 := 0x4005

/-- The bytes of type, advertising router and id as one number, as `ospf6_lsdb_set_key` puts
them behind each other. -/
def LsaHeader.key (h : LsaHeader) : Nat :=
  h.type.toNat * 2 ^ 64 + h.advRouter.toNat * 2 ^ 32 + h.id.toNat

def Lsa.key (lsa : Lsa) : Nat := lsa.header.key

variable (now : Int) (lsa : Lsa)

/-- The age of an LSA at a time. -/
def ospf6LsaAgeCurrent : Nat :=
  if lsa.header.age ≥ maxAge then maxAge
  else
    let ulage := ((now - lsa.birth) % 2 ^ 32).toNat
    if ulage > maxAge then maxAge else ulage

def isMaxage : Prop := ospf6LsaAgeCurrent now lsa = maxAge
  deriving Decidable

def ospf6LsaAgeUpdateToSend (transdelay : Nat) (lsa : Lsa) : Lsa :=
  let age := ospf6LsaAgeCurrent now lsa + transdelay
  { lsa with header := { lsa.header with age := if age > maxAge then maxAge else age } }

/-- Negative when `a` is more recent, positive when `b` is. -/
def ospf6LsaCompare (a b : Lsa) : Int :=
  if a.header.seqnum > b.header.seqnum then -1
  else if a.header.seqnum < b.header.seqnum then 1
  else if a.header.checksum > b.header.checksum then -1
  else if a.header.checksum < b.header.checksum then 1
  else
    let agea := ospf6LsaAgeCurrent now a
    let ageb := ospf6LsaAgeCurrent now b
    if agea = maxAge ∧ ageb ≠ maxAge then -1
    else if agea ≠ maxAge ∧ ageb = maxAge then 1
    else if agea > ageb ∧ agea - ageb ≥ maxAgeDiff then 1
    else if agea < ageb ∧ ageb - agea ≥ maxAgeDiff then -1
    else 0

def ospf6LsaCreate (header : LsaHeader) : Lsa := ⟨header, now - header.age, 0⟩

def ospf6LsaCopy : Lsa :=
  ⟨{ lsa.header with age := ospf6LsaAgeCurrent now lsa }, lsa.birth, 0⟩

def ospf6LsdbLookup (key : Nat) (lsdb : List Lsa) : Option Lsa := keyLookup Lsa.key key lsdb

/-- The number is cut to 32 bits and read as an `int` when it is compared. -/
def ospf6NewLsSeqnum (key : Nat) (lsdb : List Lsa) : Int :=
  match ospf6LsdbLookup key lsdb with
  | none => (0x80000001 : Int).bmod (2 ^ 32)
  | some lsa => (lsa.header.seqnum + 1).bmod (2 ^ 32)

/-- What the `originate` functions and `ospf6_lsa_refresh` make of the header of an LSA; `cksum` is
`ospf6_lsa_checksum` of its contents. -/
def newInstance (cksum : LsaHeader → UInt16) (header : LsaHeader) (lsdb : List Lsa) : Lsa :=
  let header := { header with age := 0, seqnum := ospf6NewLsSeqnum header.key lsdb }
  ospf6LsaCreate now { header with checksum := cksum header }

/-- Without a copy in the database of the self-originated LSAs the LSA is flushed instead. -/
def ospf6LsaRefresh (cksum : LsaHeader → UInt16) (old : Lsa) (lsdbSelf lsdb : List Lsa) :
    Option Lsa :=
  (ospf6LsdbLookup old.key lsdbSelf).map fun self => newInstance now cksum self.header lsdb

def ospf6LsdbAdd (lsdb : List Lsa) : List Lsa := keyInsert Lsa.key lsa lsdb

def ospf6LsdbRemove (lsdb : List Lsa) : List Lsa := keyRemove Lsa.key lsa.key lsdb

end OspfMdr.Ospf6
