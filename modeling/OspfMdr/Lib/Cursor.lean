import Mathlib.Tactic

/-!
# Scanners over a buffer

A cursor splits a buffer into what was read and what is left, so that its position is never outside
of the buffer. A scanner fails when it reads or seeks past the end.
-/

namespace OspfMdr.Lib
open List

/-- A position in a list: what is before it and what is left. -/
structure Cursor (α : Type) where
  before : List α
  rest : List α
  deriving DecidableEq, Repr

namespace Cursor

variable {α : Type} {c : Cursor α} {m n : Nat}

def ofList (l : List α) : Cursor α := ⟨[], l⟩

def all (c : Cursor α) : List α := c.before ++ c.rest

def pos (c : Cursor α) : Nat := c.before.length

def advance (c : Cursor α) (n : Nat) : Cursor α := ⟨c.before ++ c.rest.take n, c.rest.drop n⟩

/-- The cursor at another position. -/
def seek (c : Cursor α) (p : Nat) : Cursor α := ⟨c.all.take p, c.all.drop p⟩

lemma all_advance : (c.advance n).all = c.all := by
  simp [advance, all]

lemma rest_advance : (c.advance n).rest = c.rest.drop n := rfl

lemma rest_step {a : α} {l : List α} (h : c.rest = a :: l) : (c.advance 1).rest = l := by
  rw [rest_advance, h]
  rfl

lemma advance_zero : c.advance 0 = c := by
  simp [advance]

lemma pos_advance (h : n ≤ c.rest.length) : (c.advance n).pos = c.pos + n := by
  simp [advance, pos, h]

section window

variable {w tail : List α} (h : c.rest = w ++ tail) (hn : n ≤ w.length)
include h hn

lemma rest_window : (c.advance n).rest = w.drop n ++ tail := by
  rw [rest_advance, h, drop_append_of_le_length hn]

lemma end_window : c.pos + w.length = (c.advance n).pos + (w.drop n).length := by
  rw [pos_advance (by rw [h, length_append]; omega), length_drop]
  omega

end window

lemma advance_advance : (c.advance m).advance n = c.advance (m + n) := by
  simp only [advance, append_assoc, drop_drop, mk.injEq, and_true]
  rw [take_add]

lemma seek_pos : c.seek (c.pos + n) = c.advance n := by
  simp [seek, advance, all, pos, take_append, drop_append]

lemma exists_cons_cons (h : 2 ≤ c.rest.length) : ∃ a b l, c.rest = a :: b :: l := by
  match hc : c.rest, h with
  | a :: b :: l, _ => exact ⟨a, b, l, rfl⟩

lemma seek_self : c.seek c.pos = c := by
  simp [seek, all, pos]

lemma seek_congr {c' : Cursor α} (h : c'.all = c.all) (p : Nat) : c'.seek p = c.seek p := by
  rw [seek, seek, h]

lemma pos_add_rest : c.pos + c.rest.length = c.all.length := by
  simp [pos, all]

end Cursor

/-- A reader that moves a cursor, or fails. -/
abbrev Scan (α β : Type) := StateT (Cursor α) Option β

namespace Scan

variable {α β γ : Type} {c : Cursor α} {n : Nat}

def fail : Scan α β := fun _ => none

def next : Scan α α := fun c =>
  match c.rest with
  | a :: _ => some (a, c.advance 1)
  | [] => none

def take (n : Nat) : Scan α (List α) := fun c =>
  if n ≤ c.rest.length then some (c.rest.take n, c.advance n) else none

def seek (p : Nat) : Scan α Unit := fun c => if p ≤ c.all.length then some ((), c.seek p) else none

def pos : Scan α Nat := fun c => some (c.pos, c)

def readable : Scan α Nat := fun c => some (c.rest.length, c)

/-- Whether `n` elements are left. -/
def enough (n : Nat) : Scan α Bool := fun c => some (decide (n ≤ c.rest.length), c)

/-- `n` elements from the position `p` on, wherever the cursor stands. -/
def slice (p n : Nat) : Scan α (List α) := fun c =>
  if p + n ≤ c.all.length then some ((c.all.drop p).take n, c) else none

lemma next_run {a : α} {l : List α} (h : c.rest = a :: l) :
    (next : Scan α α).run c = some (a, c.advance 1) := by
  simp only [StateT.run, next, h]

lemma take_run (h : n ≤ c.rest.length) :
    (take n : Scan α (List α)).run c = some (c.rest.take n, c.advance n) :=
  if_pos h

lemma seek_run {p : Nat} (h : p ≤ c.all.length) : (seek p : Scan α Unit).run c = some ((), c.seek p) := if_pos h

lemma pos_run : (pos : Scan α Nat).run c = some (c.pos, c) := rfl

lemma readable_run : (readable : Scan α Nat).run c = some (c.rest.length, c) := rfl

lemma slice_run {p : Nat} (h : p + n ≤ c.all.length) :
    (slice p n : Scan α (List α)).run c = some ((c.all.drop p).take n, c) := if_pos h

variable {p : Scan α β} {q : β → Scan α γ}

lemma bind_run {b : β} {c' : Cursor α} (h : p.run c = some (b, c')) :
    (p >>= q).run c = (q b).run c' := by
  rw [StateT.run_bind, h]
  rfl

lemma bind_none (h : p.run c = none) : (p >>= q).run c = none := by
  rw [StateT.run_bind, h]
  rfl

end Scan

end OspfMdr.Lib
