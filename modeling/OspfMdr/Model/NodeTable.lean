import OspfMdr.Lib.PrefixTree

/-!
# Tables of prefixes (`lib/table.c`, `route_prev` of `ospf6d.c`)

The nodes have addresses; `fresh` is the next one. `none` stands for a failed assertion or a loop
that does not end.
-/

namespace OspfMdr.Ospf6
open Lib

/-- `struct route_node`; `p` are the bits of the prefix. -/
structure RouteNode where
  p : List Bool
  parent : Option Nat
  lLeft : Option Nat
  lRight : Option Nat
  lock : UInt32
  info : Option Nat
  deriving DecidableEq, Repr

structure NodeTable where
  nodes : Nat → RouteNode
  top : Option Nat
  fresh : Nat

def routeNodeNew (p : List Bool) : RouteNode := ⟨p, none, none, none, 0, none⟩

def routeTableInit : NodeTable := ⟨fun _ => routeNodeNew [], none, 0⟩

namespace NodeTable

variable (t : NodeTable)

def modify (a : Nat) (f : RouteNode → RouteNode) : NodeTable :=
  { t with nodes := Function.update t.nodes a (f (t.nodes a)) }

def links : Links Nat :=
  ⟨fun a => (t.nodes a).parent, fun a => (t.nodes a).lLeft, fun a => (t.nodes a).lRight⟩

def link (a : Nat) (bit : Bool) : Option Nat :=
  if bit then (t.nodes a).lRight else (t.nodes a).lLeft

def alloc (p : List Bool) : NodeTable :=
  { t with nodes := Function.update t.nodes t.fresh (routeNodeNew p), fresh := t.fresh + 1 }

def walk (p : List Bool) : Option (Descent Nat) :=
  descend (fun a => (t.nodes a).p) t.link p (t.fresh + 1) none t.top

def putLink (node new : Nat) (bit : Bool) : NodeTable :=
  (t.modify node fun n => if bit then { n with lRight := some new } else { n with lLeft := some new }).modify
    new fun n => { n with parent := some node }

def setLink (node new : Nat) : NodeTable :=
  t.putLink node new (bitAt (t.nodes new).p (t.nodes node).p.length)

def routeLockNode (node : Nat) : NodeTable :=
  t.modify node fun n => { n with lock := n.lock + 1 }

def routeNodeDelete : Nat → NodeTable → Nat → Option NodeTable
  | 0, _, _ => none
  | fuel + 1, t, node =>
    let n := t.nodes node
    if n.lock ≠ 0 ∨ n.info.isSome then none
    else if n.lLeft.isSome ∧ n.lRight.isSome then some t
    else
      let child := if n.lLeft.isSome then n.lLeft else n.lRight
      let t :=
        match child with
        | some c => t.modify c fun m => { m with parent := n.parent }
        | none => t
      match n.parent with
      | none => some { t with top := child }
      | some parent =>
        let t := t.modify parent fun m =>
          if m.lLeft = some node then { m with lLeft := child } else { m with lRight := child }
        if (t.nodes parent).lock = 0 then routeNodeDelete fuel t parent else some t

/-- Unlocks a node, and deletes it if nothing needs it. -/
def routeUnlockNode (node : Nat) : Option NodeTable :=
  let t := t.modify node fun n => { n with lock := n.lock - 1 }
  if (t.nodes node).lock = 0 then routeNodeDelete (t.fresh + 1) t node else some t

def routeNodeLookup (p : List Bool) : Option (NodeTable × Option Nat) :=
  (t.walk p).map fun
    | .found node => if (t.nodes node).info.isSome then (routeLockNode t node, some node) else (t, none)
    | _ => (t, none)

def linkBelow (matched : Option Nat) (new : Nat) : NodeTable :=
  match matched with
  | some m => setLink t m new
  | none => { t with top := some new }

/-- The walk stops at a node only if its prefix does not match, so that the common prefix is shorter
than that of the node. -/
def routeNodeGet (p : List Bool) : Option (NodeTable × Nat) :=
  (t.walk p).map fun
    | .found node => (routeLockNode t node, node)
    | .ended matched =>
      let new := t.fresh
      (routeLockNode (linkBelow (t.alloc p) matched new) new, new)
    | .stopped matched node =>
      let new := t.fresh
      let t := linkBelow (setLink (t.alloc (commonPrefix (t.nodes node).p p)) new node) matched new
      if (t.nodes new).p.length ≠ p.length then
        let leaf := t.fresh
        (routeLockNode (setLink (t.alloc p) new leaf) leaf, leaf)
      else (routeLockNode t new, new)

def lockNode? (t : NodeTable) : Option Nat → NodeTable
  | some node => routeLockNode t node
  | none => t

/-- The next node in preorder. -/
def routeNext (node : Nat) : Option (NodeTable × Option Nat) := do
  let next ← t.links.next (t.fresh + 1) node
  let t ← routeUnlockNode (lockNode? t next) node
  some (t, next)

def routeTop : NodeTable × Option Nat := (lockNode? t t.top, t.top)

def visitLoop : Nat → NodeTable → Option Nat → List Nat → Option (NodeTable × List Nat)
  | _, t, none, visited => some (t, visited)
  | 0, _, some _, _ => none
  | fuel + 1, t, some node, visited => do
    let (t, next) ← routeNext t node
    visitLoop fuel t next (visited ++ [node])

def visitAll : Option (NodeTable × List Nat) :=
  visitLoop (t.fresh + 1) (routeTop t).1 (routeTop t).2 []

/-- The loop of `route_prev`: walk until the next node is `stop`. -/
def prevLoop (stop : Nat) : Nat → NodeTable → Option Nat → Option Nat → Option (NodeTable × Option Nat)
  | _, t, prev, none => some (t, prev)
  | 0, _, _, some _ => none
  | fuel + 1, t, _, some node => do
    let (t, next) ← routeNext t node
    if next = some stop then
      let t ← routeUnlockNode t stop
      some (t, some node)
    else prevLoop stop fuel t (some node) next

def routePrev (node : Nat) : Option (NodeTable × Option Nat) := do
  let parent := (t.nodes node).parent
  let (t, prev) ← prevLoop node (t.fresh + 1) (lockNode? t parent) none parent
  let t ← routeUnlockNode t node
  some (lockNode? t prev, prev)

end NodeTable

end OspfMdr.Ospf6
