import Mathlib.Tactic

/-!
# Priority queue (`lib/pqueue.c`)

A binary heap in an array that is indexed from zero. The comparison function is that of
the queue.
-/

namespace OspfMdr.Ospf6
open Function

structure Pqueue (α : Type) where
  array : Nat → α
  size : Nat

section
variable {α : Type} (cmp : α → α → Int)

def pqueueParent (x : Nat) : Nat := (x - 1) / 2
def pqueueLeft (x : Nat) : Nat := 2 * x + 1
def pqueueRight (x : Nat) : Nat := 2 * x + 2

def trickleUpLoop (tmp : α) : Nat → Nat → (Nat → α) → Nat → α
  | 0, index, array => update array index tmp
  | fuel + 1, index, array =>
    if index > 0 ∧ cmp tmp (array (pqueueParent index)) < 0 then
      trickleUpLoop tmp fuel (pqueueParent index)
        (update array index (array (pqueueParent index)))
    else update array index tmp

def trickleUp (index : Nat) (array : Nat → α) : Nat → α :=
  trickleUpLoop cmp (array index) index index array

def which (size : Nat) (array : Nat → α) (index : Nat) : Nat :=
  if pqueueRight index < size ∧ cmp (array (pqueueLeft index)) (array (pqueueRight index)) > 0 then
    pqueueRight index
  else pqueueLeft index

def trickleDownLoop (tmp : α) (size : Nat) : Nat → Nat → (Nat → α) → Nat → α
  | 0, index, array => update array index tmp
  | fuel + 1, index, array =>
    if index < size / 2 then
      let child := which cmp size array index
      if cmp (array child) tmp > 0 then update array index tmp
      else trickleDownLoop tmp size fuel child (update array index (array child))
    else update array index tmp

def trickleDown (index size : Nat) (array : Nat → α) : Nat → α :=
  trickleDownLoop cmp (array index) size size index array

/-- Adds an element. -/
def pqueueEnqueue (data : α) (queue : Pqueue α) : Pqueue α :=
  ⟨trickleUp cmp queue.size (update queue.array queue.size data), queue.size + 1⟩

/-- Takes out the first element. -/
def pqueueDequeue (queue : Pqueue α) : α × Pqueue α :=
  let array := update queue.array 0 (queue.array (queue.size - 1))
  (queue.array 0, ⟨trickleDown cmp 0 (queue.size - 1) array, queue.size - 1⟩)

end

/-- The queue with the number of cells that are allocated for it, an `int` like the size. -/
structure PqueueMem (α : Type) extends Pqueue α where
  arraySize : Nat

inductive PqueueCall (α : Type) where
  | enqueue (data : α)
  | dequeue

section
variable {α : Type} [Inhabited α] (cmp : α → α → Int)

def pqueueCreate : PqueueMem α := ⟨⟨fun _ => default, 0⟩, 32⟩

/-- `none` if `array_size *= 2` overflows. -/
def pqueueExpand (queue : PqueueMem α) : Option (PqueueMem α) :=
  if queue.arraySize * 2 < 2 ^ 31 then
    some ⟨⟨fun i => if i < queue.arraySize then queue.array i else default, queue.size⟩, queue.arraySize * 2⟩
  else none

def pqueueCall (queue : PqueueMem α) : PqueueCall α → Option (List α × PqueueMem α)
  | .enqueue data => do
    let queue ← if queue.size + 2 ≥ queue.arraySize then pqueueExpand queue else some queue
    some ([], ⟨pqueueEnqueue cmp data queue.toPqueue, queue.arraySize⟩)
  | .dequeue =>
    let (data, rest) := pqueueDequeue cmp queue.toPqueue
    some ([data], ⟨rest, queue.arraySize⟩)

/-- What the dequeue calls return, and the queue at the end. -/
def pqueueRun (queue : PqueueMem α) : List (PqueueCall α) → Option (List α × PqueueMem α)
  | [] => some ([], queue)
  | call :: calls => do
    let (out, queue) ← pqueueCall cmp queue call
    let (outs, queue) ← pqueueRun queue calls
    some (out ++ outs, queue)

end

end OspfMdr.Ospf6
