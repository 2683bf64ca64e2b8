import OspfMdr.Model.NodeTable

/-!
# Databases of LSAs (`ospf6_lsdb.c`)

The LSAs have addresses, too. `none` stands for a failed assertion, an access to an LSA that was
freed or a loop that does not end. The hooks, which tell other modules of a change, are left out.
-/

namespace OspfMdr.Ospf6
open Lib

/-- The fields of the header that identify an LSA, in host byte order. -/
structure LsaKey where
  type : UInt16
  advRouter : UInt32
  id : UInt32
  deriving DecidableEq, Repr

def bits (w n : Nat) : List Bool := (List.range w).map fun i => n.testBit (w - 1 - i)

def LsaKey.bits (k : LsaKey) : List Bool :=
  Ospf6.bits 16 k.type.toNat ++ Ospf6.bits 32 k.advRouter.toNat ++ Ospf6.bits 32 k.id.toNat

/-- The fields of `struct ospf6_lsa` that the database reads or writes. -/
structure DbLsa where
  key : LsaKey
  prev : Option Nat
  next : Option Nat
  lock : UInt8
  freed : Bool
  deriving DecidableEq, Repr

structure Lsdb where
  table : NodeTable
  count : UInt32
  lsas : Nat → DbLsa

def ospf6LsdbCreate (lsas : Nat → DbLsa) : Lsdb := ⟨routeTableInit, 0, lsas⟩

variable (l : Lsdb) (lsa : Nat)

namespace Lsdb

def write (f : DbLsa → DbLsa) : Option Lsdb :=
  if (l.lsas lsa).freed then none
  else some { l with lsas := Function.update l.lsas lsa (f (l.lsas lsa)) }

def write? (l : Lsdb) (lsa : Option Nat) (f : DbLsa → DbLsa) : Option Lsdb :=
  match lsa with
  | some lsa => l.write lsa f
  | none => some l

def ospf6LsaLock : Option Lsdb := l.write lsa fun x => { x with lock := x.lock + 1 }

def ospf6LsaUnlock : Option Lsdb :=
  if (l.lsas lsa).lock = 0 then none
  else l.write lsa fun x => { x with lock := x.lock - 1, freed := x.lock - 1 = 0 }

def skipEmpty (step : NodeTable → Nat → Option (NodeTable × Option Nat)) :
    Nat → NodeTable → Nat → Option (NodeTable × Option Nat)
  | 0, _, _ => none
  | fuel + 1, t, node => do
    let (t, next) ← step t node
    match next with
    | none => some (t, none)
    | some n => if (t.nodes n).info.isSome then some (t, some n) else skipEmpty step fuel t n

def neighborLsa (step : NodeTable → Nat → Option (NodeTable × Option Nat)) (t : NodeTable) (node : Nat) :
    Option (NodeTable × Option Nat) := do
  let (t, n) ← skipEmpty step (t.fresh + 1) (t.routeLockNode node) node
  match n with
  | none => some (t, none)
  | some n =>
    let info := (t.nodes n).info
    let t ← t.routeUnlockNode n
    some (t, info)

def firstNode (t : NodeTable) (node : Nat) : Option (NodeTable × Option Nat) :=
  if (t.nodes node).info.isSome then some (t, some node)
  else skipEmpty NodeTable.routeNext (t.fresh + 1) t node

def ospf6LsdbHead : Option (Lsdb × Option Nat) :=
  match l.table.top with
  | none => some (l, none)
  | some top => do
    let (t, node) ← firstNode (l.table.routeLockNode top) top
    match node with
    | none => some ({ l with table := t }, none)
    | some node =>
      let info := (t.nodes node).info
      let t ← t.routeUnlockNode node
      match info with
      | none => some ({ l with table := t }, none)
      | some lsa =>
        let l ← ospf6LsaLock { l with table := t } lsa
        some (l, some lsa)

def ospf6LsdbNext : Option (Lsdb × Option Nat) := do
  let next := (l.lsas lsa).next
  let l ← ospf6LsaUnlock l lsa
  let l ← l.write? next fun x => { x with lock := x.lock + 1 }
  some (l, next)

def countLoop : Nat → Lsdb → Option Nat → UInt32 → Option (Lsdb × UInt32)
  | _, l, none, num => some (l, num)
  | 0, _, some _, _ => none
  | fuel + 1, l, some lsa, num => do
    let (l, next) ← ospf6LsdbNext l lsa
    countLoop fuel l next (num + 1)

def ospf6LsdbCountAssert : Option Lsdb := do
  let (l, head) ← ospf6LsdbHead l
  let (l, num) ← countLoop (l.table.fresh + 1) l head 0
  if num = l.count then some l else none

def replaceLsa (lsa old : Nat) : Option Lsdb := do
  let l ← l.write? (l.lsas old).prev fun x => { x with next := some lsa }
  let l ← l.write? (l.lsas old).next fun x => { x with prev := some lsa }
  let l ← l.write lsa fun x => { x with next := (l.lsas old).next }
  l.write lsa fun x => { x with prev := (l.lsas old).prev }

/-- Link `lsa` between the LSAs at the nodes before and behind its own. -/
def insertLsa (lsa current : Nat) : Option Lsdb := do
  let (t, next) ← neighborLsa NodeTable.routeNext l.table current
  let l := { l with table := t }
  let l ← l.write lsa fun x => { x with next := next }
  let l ← l.write? next fun x => { x with prev := some lsa }
  let (t, prev) ← neighborLsa NodeTable.routePrev l.table current
  let l := { l with table := t }
  let l ← l.write lsa fun x => { x with prev := prev }
  let l ← l.write? prev fun x => { x with next := some lsa }
  some { l with count := l.count + 1 }

/-- Adds an LSA, or replaces the one with its key. -/
def ospf6LsdbAdd : Option Lsdb := do
  let (t, current) ← l.table.routeNodeGet (l.lsas lsa).key.bits
  let old := (t.nodes current).info
  let l := { l with table := t.modify current fun n => { n with info := some lsa } }
  let l ← ospf6LsaLock l lsa
  match old with
  | some old =>
    let l ← replaceLsa l lsa old
    let l ← ospf6LsaUnlock l old
    ospf6LsdbCountAssert l
  | none =>
    let l ← insertLsa l lsa current
    ospf6LsdbCountAssert l

/-- Removes an LSA. -/
def ospf6LsdbRemove : Option Lsdb := do
  let (t, node) ← l.table.routeNodeLookup (l.lsas lsa).key.bits
  let node ← node
  if (t.nodes node).info ≠ some lsa then none
  else
    let l := { l with table := t }
    let l ← l.write? (l.lsas lsa).prev fun x => { x with next := (l.lsas lsa).next }
    let l ← l.write? (l.lsas lsa).next fun x => { x with prev := (l.lsas lsa).prev }
    let l := { l with table := l.table.modify node fun n => { n with info := none }, count := l.count - 1 }
    let l ← ospf6LsaUnlock l lsa
    let t ← l.table.routeUnlockNode node
    ospf6LsdbCountAssert { l with table := t }

def ospf6LsdbLookup (key : LsaKey) : Option (Lsdb × Option Nat) :=
  (l.table.routeNodeLookup key.bits).map fun (t, node) =>
    ({ l with table := t }, node.bind fun n => (t.nodes n).info)

/-- The loop over a database that removes the LSAs for which `remove` says so. -/
def forEachLoop (remove : Nat → Bool) : Nat → Lsdb → Option Nat → List Nat → Option (Lsdb × List Nat)
  | _, l, none, visited => some (l, visited)
  | 0, _, some _, _ => none
  | fuel + 1, l, some lsa, visited => do
    let l ← if remove lsa then ospf6LsdbRemove l lsa else some l
    let (l, next) ← ospf6LsdbNext l lsa
    forEachLoop remove fuel l next (visited ++ [lsa])

def forEachLsa (remove : Nat → Bool) (l : Lsdb) : Option (Lsdb × List Nat) := do
  let (l, head) ← ospf6LsdbHead l
  forEachLoop remove (l.table.fresh + 1) l head []

end Lsdb

inductive LsdbOp
  | add (lsa : Nat)
  | remove (lsa : Nat)
  | lookup (key : LsaKey)
  deriving DecidableEq, Repr

/-- One call on a database. -/
def lsdbStep : LsdbOp → Option Lsdb
  | .add lsa => l.ospf6LsdbAdd lsa
  | .remove lsa => l.ospf6LsdbRemove lsa
  | .lookup key => (l.ospf6LsdbLookup key).map Prod.fst

def lsdbRun (ops : List LsdbOp) : Option Lsdb := ops.foldlM lsdbStep l

end OspfMdr.Ospf6
