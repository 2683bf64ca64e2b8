import OspfMdr.Model.NodeTable

/-!
# Tables of prefixes with host bits (`lib/table.c`, `prefix_match` and `prefix_bit` of `prefix.c`)

A prefix is stored as it was given, with the bits behind its length. The functions that read a
prefix are those of the source over its bytes; the others are the ones of the table of nodes.
-/

namespace OspfMdr.Ospf6
open Lib List

/-- `struct prefix` of a family whose addresses have `w` bytes. -/
structure FamilyPrefix (w : Nat) where
  bytes : List UInt8
  prefixlen : Nat
  size : bytes.length = w
  le : prefixlen ≤ 8 * w

def maskbit (n : Nat) : UInt8 := [0x00, 0x80, 0xc0, 0xe0, 0xf0, 0xf8, 0xfc, 0xfe, 0xff].getD n 0

def prefixBit (bytes : List UInt8) (prefixlen : Nat) : Bool :=
  ((bytes.getD (prefixlen / 8) 0).toNat >>> (7 - prefixlen % 8)) &&& 1 = 1

namespace FamilyPrefix

variable {w : Nat}

instance : Inhabited (FamilyPrefix w) := ⟨⟨List.replicate w 0, 0, length_replicate, Nat.zero_le _⟩⟩

def byte (p : FamilyPrefix w) (i : Nat) : UInt8 := p.bytes.getD i 0

def bit (p : FamilyPrefix w) (i : Nat) : Bool := prefixBit p.bytes i

def masked (p : FamilyPrefix w) : List Bool := (List.range p.prefixlen).map p.bit

end FamilyPrefix

def prefixMatch {w : Nat} (n p : FamilyPrefix w) : Bool :=
  if n.prefixlen > p.prefixlen then false
  else
    let offset := n.prefixlen / 8
    let shift := n.prefixlen % 8
    if shift ≠ 0 ∧ maskbit shift &&& (n.byte offset ^^^ p.byte offset) ≠ 0 then false
    else (List.range offset).all fun i => n.byte i = p.byte i

def commonBits (diff : UInt8) (limit : Nat) : Nat → UInt8 → Nat → Nat
  | 0, _, len => len
  | fuel + 1, mask, len =>
    if len < limit ∧ mask &&& diff = 0 then commonBits diff limit fuel (mask >>> 1) (len + 1) else len

section common

variable {w : Nat} (n p : FamilyPrefix w)

def commonBytes : Nat := ((List.range (p.prefixlen / 8)).takeWhile fun i => n.byte i = p.byte i).length

def commonLength : Nat :=
  let i := commonBytes n p
  if i * 8 ≠ p.prefixlen then commonBits (n.byte i ^^^ p.byte i) p.prefixlen p.prefixlen 0x80 (i * 8) else i * 8

lemma commonBits_le {diff mask : UInt8} {limit fuel len : Nat} (h : len ≤ limit) :
    commonBits diff limit fuel mask len ≤ limit := by
  induction fuel generalizing mask len with
  | zero => exact h
  | succ fuel ih =>
    unfold commonBits
    split_ifs with hlt
    · exact ih hlt.1
    · exact h

lemma commonBytes_le : commonBytes n p ≤ p.prefixlen / 8 := by
  refine (List.takeWhile_prefix _).length_le.trans ?_
  rw [length_range]

lemma commonLength_le : commonLength n p ≤ p.prefixlen := by
  have h := commonBytes_le n p
  unfold commonLength
  dsimp only
  split_ifs
  · exact commonBits_le (by omega)
  · omega

def routeCommon : FamilyPrefix w where
  bytes :=
    let i := commonBytes n p
    let last := if i * 8 ≠ p.prefixlen then [n.byte i &&& maskbit (commonLength n p % 8)] else []
    (n.bytes.take i ++ last ++ List.replicate w 0).take w
  prefixlen := commonLength n p
  size := by
    rw [length_take_of_le]
    simp only [length_append, length_replicate]
    omega
  le := (commonLength_le n p).trans p.le

end common

/-- The nodes of `table` have the bits of the prefixes without host bits; no function below reads
them. -/
structure PrefixTable (w : Nat) where
  table : NodeTable
  p : Nat → FamilyPrefix w

namespace PrefixTable

variable {w : Nat}

def init : PrefixTable w := ⟨routeTableInit, fun _ => default⟩

def descend (t : PrefixTable w) (p : FamilyPrefix w) : Nat → Option Nat → Option Nat → Option (Descent Nat)
  | _, matched, none => some (.ended matched)
  | 0, _, some _ => none
  | fuel + 1, matched, some node =>
    if (t.p node).prefixlen ≤ p.prefixlen ∧ prefixMatch (t.p node) p then
      if (t.p node).prefixlen = p.prefixlen then some (.found node)
      else t.descend p fuel (some node) (t.table.link node (p.bit (t.p node).prefixlen))
    else some (.stopped matched node)

def walk (t : PrefixTable w) (p : FamilyPrefix w) : Option (Descent Nat) :=
  t.descend p (t.table.fresh + 1) none t.table.top

def routeNodeSet (t : PrefixTable w) (p : FamilyPrefix w) : PrefixTable w :=
  ⟨t.table.alloc p.masked, Function.update t.p t.table.fresh p⟩

def setLink (t : PrefixTable w) (node new : Nat) : PrefixTable w :=
  { t with table := t.table.putLink node new ((t.p new).bit (t.p node).prefixlen) }

def routeLockNode (t : PrefixTable w) (node : Nat) : PrefixTable w :=
  { t with table := t.table.routeLockNode node }

def routeUnlockNode (t : PrefixTable w) (node : Nat) : Option (PrefixTable w) :=
  (t.table.routeUnlockNode node).map fun table => { t with table := table }

def linkBelow (t : PrefixTable w) (matched : Option Nat) (new : Nat) : PrefixTable w :=
  match matched with
  | some m => t.setLink m new
  | none => { t with table := { t.table with top := some new } }

def routeNodeGet (t : PrefixTable w) (p : FamilyPrefix w) : Option (PrefixTable w × Nat) :=
  (t.walk p).map fun
    | .found node => (t.routeLockNode node, node)
    | .ended matched =>
      let new := t.table.fresh
      (((t.routeNodeSet p).linkBelow matched new).routeLockNode new, new)
    | .stopped matched node =>
      let new := t.table.fresh
      let t := ((t.routeNodeSet (routeCommon (t.p node) p)).setLink new node).linkBelow matched new
      if (t.p new).prefixlen ≠ p.prefixlen then
        let leaf := t.table.fresh
        (((t.routeNodeSet p).setLink new leaf).routeLockNode leaf, leaf)
      else (t.routeLockNode new, new)

def routeNodeLookup (t : PrefixTable w) (p : FamilyPrefix w) : Option (PrefixTable w × Option Nat) :=
  (t.walk p).map fun
    | .found node =>
      if (t.table.nodes node).info.isSome then (t.routeLockNode node, some node) else (t, none)
    | _ => (t, none)

def matchLoop (t : PrefixTable w) (p : FamilyPrefix w) : Nat → Option Nat → Option Nat → Option (Option Nat)
  | _, matched, none => some matched
  | 0, _, some _ => none
  | fuel + 1, matched, some node =>
    if (t.p node).prefixlen ≤ p.prefixlen ∧ prefixMatch (t.p node) p then
      let matched := if (t.table.nodes node).info.isSome then some node else matched
      if (t.p node).prefixlen = p.prefixlen then some matched
      else t.matchLoop p fuel matched (t.table.link node (p.bit (t.p node).prefixlen))
    else some matched

/-- The node with the longest prefix that matches. -/
def routeNodeMatch (t : PrefixTable w) (p : FamilyPrefix w) : Option (PrefixTable w × Option Nat) :=
  (t.matchLoop p (t.table.fresh + 1) none t.table.top).map fun matched =>
    ({ t with table := t.table.lockNode? matched }, matched)

def visitAll (t : PrefixTable w) : Option (PrefixTable w × List Nat) :=
  t.table.visitAll.map fun (table, visited) => ({ t with table := table }, visited)

end PrefixTable

/-- The calls; `i` stands for the `i`th of the nodes that are not released yet, the last one first. -/
inductive TableOp (w : Nat)
  | get (p : FamilyPrefix w)
  | assign (i : Nat) (info : Option Nat)
  | release (i : Nat)

structure TableUse (w : Nat) where
  t : PrefixTable w
  held : List Nat

/-- One call of a user of the table. -/
def tableStep {w : Nat} (s : TableUse w) : TableOp w → Option (TableUse w)
  | .get p => do
    let (t, node) ← s.t.routeNodeGet p
    some ⟨t, node :: s.held⟩
  | .assign i info => do
    let node ← s.held[i]?
    some { s with t := { s.t with table := s.t.table.modify node fun n => { n with info := info } } }
  | .release i => do
    let node ← s.held[i]?
    let t ← s.t.routeUnlockNode node
    some ⟨t, s.held.eraseIdx i⟩

def tableRun {w : Nat} (ops : List (TableOp w)) : Option (TableUse w) := ops.foldlM tableStep ⟨PrefixTable.init, []⟩

end OspfMdr.Ospf6
