import Mathlib.Tactic

/-!
# Binary trees in a heap

A binary tree whose nodes are linked to their children and to their parents, and the walk over its
nodes in preorder that needs no stack: the next node is the left child, the right child or the
right child of the nearest ancestor that has one to the right of the path.
-/

namespace OspfMdr.Lib
open List Option

/-- Binary trees, as what linked nodes stand for. -/
inductive BinTree (α : Type)
  | nil
  | node (a : α) (l r : BinTree α)

/-- The pointers of linked nodes. -/
structure Links (α : Type) where
  parent : α → Option α
  left : α → Option α
  right : α → Option α

variable {α : Type} {b : α}

def BinTree.root : BinTree α → Option α
  | nil => none
  | node a _ _ => some a

/-- The nodes in preorder. -/
def BinTree.pre : BinTree α → List α
  | nil => []
  | node a l r => a :: (l.pre ++ r.pre)

/-- The links are those of the tree below the node `up`. -/
def BinTree.Linked (k : Links α) : Option α → BinTree α → Prop
  | _, nil => True
  | up, node a l r =>
    k.parent a = up ∧ k.left a = l.root ∧ k.right a = r.root ∧ l.Linked k (some a) ∧ r.Linked k (some a)

/-- The right child of the nearest ancestor whose left subtree the node is in. -/
def Links.climb [DecidableEq α] (k : Links α) : Nat → α → Option (Option α)
  | 0, _ => none
  | fuel + 1, a =>
    match k.parent a with
    | none => some none
    | some q => if k.left q = some a ∧ (k.right q).isSome then some (k.right q) else k.climb fuel q

def Links.next [DecidableEq α] (k : Links α) (fuel : Nat) (a : α) : Option (Option α) :=
  if (k.left a).isSome then some (k.left a)
  else if (k.right a).isSome then some (k.right a)
  else k.climb fuel a

lemma append_eq_append_cons {l r l1 l2 : List α} {x : α} (h : l ++ r = l1 ++ x :: l2) :
    (∃ l', l1 = l ++ l' ∧ r = l' ++ x :: l2) ∨ ∃ l', l = l1 ++ x :: l' ∧ l2 = l' ++ r := by
  rcases append_eq_append_iff.mp h with ⟨l', hl', hr'⟩ | ⟨l', hl', hr'⟩
  · exact .inl ⟨l', hl', hr'⟩
  rcases l' with _ | ⟨d, l'⟩
  · exact .inl ⟨[], by simpa using hl'.symm, hr'.symm⟩
  · obtain ⟨rfl, rfl⟩ := List.cons.inj hr'
    exact .inr ⟨l', hl', rfl⟩

namespace BinTree
section linked

variable {k k' : Links α} {up : Option α} {T l r : BinTree α} {a : α}

lemma Linked.congr (h : T.Linked k up) (hparent : ∀ a ∈ T.pre, k'.parent a = k.parent a)
    (hleft : ∀ a ∈ T.pre, k'.left a = k.left a) (hright : ∀ a ∈ T.pre, k'.right a = k.right a) :
    T.Linked k' up := by
  induction T generalizing up with
  | nil => trivial
  | node a l r ihl ihr =>
    obtain ⟨hp, hl, hr, hlinkl, hlinkr⟩ := h
    have hmem : a ∈ (node a l r).pre := mem_cons_self
    have hmeml : ∀ b ∈ l.pre, b ∈ (node a l r).pre :=
      fun b hb => mem_cons_of_mem _ (mem_append_left _ hb)
    have hmemr : ∀ b ∈ r.pre, b ∈ (node a l r).pre :=
      fun b hb => mem_cons_of_mem _ (mem_append_right _ hb)
    refine ⟨(hparent a hmem).trans hp, (hleft a hmem).trans hl, (hright a hmem).trans hr, ?_, ?_⟩
    · exact ihl hlinkl (fun b hb => hparent b (hmeml b hb)) (fun b hb => hleft b (hmeml b hb))
        fun b hb => hright b (hmeml b hb)
    · exact ihr hlinkr (fun b hb => hparent b (hmemr b hb)) (fun b hb => hleft b (hmemr b hb))
        fun b hb => hright b (hmemr b hb)

lemma Linked.move {up' : Option α} (h : T.Linked k up) (hnodup : T.pre.Nodup)
    (hroot : ∀ a, T.root = some a → k'.parent a = up')
    (hparent : ∀ a ∈ T.pre, T.root ≠ some a → k'.parent a = k.parent a)
    (hleft : ∀ a ∈ T.pre, k'.left a = k.left a) (hright : ∀ a ∈ T.pre, k'.right a = k.right a) :
    T.Linked k' up' := by
  cases T with
  | nil => trivial
  | node a l r =>
    obtain ⟨-, hl, hr, hlinkl, hlinkr⟩ := h
    have hnot := (nodup_cons.mp hnodup).1
    have hbelow : ∀ x ∈ l.pre ++ r.pre, k'.parent x = k.parent x := by
      intro x hx
      refine hparent x (mem_cons_of_mem _ hx) fun he => hnot ?_
      rwa [some.inj he]
    refine ⟨hroot a rfl, (hleft a mem_cons_self).trans hl, (hright a mem_cons_self).trans hr, ?_, ?_⟩
    · exact hlinkl.congr (fun x hx => hbelow x (mem_append_left _ hx))
        (fun x hx => hleft x (mem_cons_of_mem _ (mem_append_left _ hx)))
        fun x hx => hright x (mem_cons_of_mem _ (mem_append_left _ hx))
    · exact hlinkr.congr (fun x hx => hbelow x (mem_append_right _ hx))
        (fun x hx => hleft x (mem_cons_of_mem _ (mem_append_right _ hx)))
        fun x hx => hright x (mem_cons_of_mem _ (mem_append_right _ hx))

lemma root_mem (h : T.root = some a) : a ∈ T.pre := by
  cases T with
  | nil => cases h
  | node b l r =>
    cases h
    exact mem_cons_self

lemma root_eq_head? : T.root = T.pre.head? := by
  cases T <;> rfl

section
variable (h : (node a l r).pre.Nodup)
include h

lemma nodup_left : l.pre.Nodup :=
  (nodup_append.mp (nodup_cons.mp h).2).1

lemma nodup_right : r.pre.Nodup :=
  (nodup_append.mp (nodup_cons.mp h).2).2.1

lemma root_ne (hr : r.root = some b) : l.root ≠ some b := by
  intro hl
  exact (nodup_append.mp (nodup_cons.mp h).2).2.2 b (root_mem hl) b (root_mem hr) rfl

end

lemma Linked.parent_before (h : T.Linked k up) {l1 l2 : List α} {x : α}
    (hT : T.pre = l1 ++ x :: l2) : (l1 = [] ∧ k.parent x = up) ∨ ∃ q ∈ l1, k.parent x = some q := by
  induction T generalizing up l1 l2 with
  | nil => simp [pre] at hT
  | node a l r ihl ihr =>
    rcases l1 with _ | ⟨c, l1⟩
    · obtain ⟨rfl, -⟩ := List.cons.inj hT
      exact .inl ⟨rfl, h.1⟩
    obtain ⟨rfl, hrest⟩ := List.cons.inj hT
    right
    rcases append_eq_append_cons hrest with ⟨l', rfl, hr'⟩ | ⟨l', hl', -⟩
    · rcases ihr h.2.2.2.2 hr' with ⟨-, hp⟩ | ⟨q, hq, hp⟩
      · exact ⟨a, mem_cons_self, hp⟩
      · exact ⟨q, mem_cons_of_mem _ (mem_append_right _ hq), hp⟩
    · rcases ihl h.2.2.2.1 hl' with ⟨-, hp⟩ | ⟨q, hq, hp⟩
      · exact ⟨a, mem_cons_self, hp⟩
      · exact ⟨q, mem_cons_of_mem _ hq, hp⟩

end linked
end BinTree

section walk

variable [DecidableEq α] {k : Links α} {up : Option α} {T : BinTree α} {a x : α} {n m : Nat}
  {res : Option α}

lemma Links.climb_mono (h : k.climb n a = some res) (hn : n ≤ m) : k.climb m a = some res := by
  induction n generalizing a m with
  | zero => cases h
  | succ n ih =>
    obtain ⟨m, rfl⟩ : ∃ m', m = m' + 1 := ⟨m - 1, by omega⟩
    unfold Links.climb at h ⊢
    split at h
    · exact h
    · split_ifs at h ⊢ with hc
      · exact h
      · exact ih h (by omega)

lemma Links.next_mono (h : k.next n a = some res) (hn : n ≤ m) : k.next m a = some res := by
  unfold Links.next at h ⊢
  split_ifs at h ⊢
  · exact h
  · exact h
  · exact k.climb_mono h hn

namespace BinTree

variable {l r : BinTree α} {l1 l2 : List α}

lemma Linked.climb_left (h : (node a l r).Linked k up) (hb : l.root = some b)
    (hclimb : k.climb n a = some res) : k.climb (n + 1) b = some (r.root.or res) := by
  obtain ⟨-, hl, hr, hlinkl, -⟩ := h
  have hparent : k.parent b = some a := by
    cases l with
    | nil => cases hb
    | node c l1 l2 =>
      cases hb
      exact hlinkl.1
  rw [Links.climb, hparent]
  dsimp only
  rw [hl, hr]
  cases hroot : r.root with
  | none => simpa using hclimb
  | some c => simp [hb]

lemma Linked.climb_right (h : (node a l r).Linked k up)
    (hnodup : (node a l r).pre.Nodup) (hb : r.root = some b) (hclimb : k.climb n a = some res) :
    k.climb (n + 1) b = some res := by
  obtain ⟨-, hl, -, -, hlinkr⟩ := h
  have hparent : k.parent b = some a := by
    cases r with
    | nil => cases hb
    | node c l1 l2 =>
      cases hb
      exact hlinkr.1
  rw [Links.climb, hparent]
  dsimp only
  rw [if_neg, hclimb]
  rw [hl]
  exact fun hc => root_ne hnodup hb hc.1

lemma Linked.next_in (h : T.Linked k up) (hnodup : T.pre.Nodup) (hT : T.pre = l1 ++ x :: l2)
    (hroot : T.root = some a) (hclimb : k.climb n a = some res) :
    k.next (n + T.pre.length) x = some (l2.head?.or res) := by
  induction T generalizing up l1 l2 res a n with
  | nil => cases hroot
  | node b l r ihl ihr =>
    cases hroot
    have hlen : (node b l r).pre.length = l.pre.length + r.pre.length + 1 := by simp [pre]
    rcases l1 with _ | ⟨c, l1⟩
    · -- the root: its children first
      obtain ⟨rfl, rfl⟩ := List.cons.inj hT
      obtain ⟨-, hl, hr, -, -⟩ := h
      rw [List.head?_append, ← root_eq_head?, ← root_eq_head?]
      cases hlroot : l.root with
      | some c => simp [Links.next, hl, hlroot]
      | none =>
        cases hrroot : r.root with
        | some c => simp [Links.next, hl, hr, hlroot, hrroot]
        | none =>
          simp only [Links.next, hl, hr, hlroot, hrroot, Option.isSome_none, Bool.false_eq_true, if_false,
            Option.none_or]
          exact k.climb_mono hclimb (by omega)
    · obtain ⟨rfl, hrest⟩ := List.cons.inj hT
      rcases append_eq_append_cons hrest with ⟨l', -, hr'⟩ | ⟨l', hl', rfl⟩
      · obtain ⟨d, hd⟩ : ∃ d, r.root = some d := by
          rw [root_eq_head?, hr']
          cases l' <;> exact ⟨_, rfl⟩
        have hclimb' := h.climb_right hnodup hd hclimb
        exact k.next_mono (ihr h.2.2.2.2 (nodup_right hnodup) hr' hd hclimb') (by omega)
      obtain ⟨d, hd⟩ : ∃ d, l.root = some d := by
        rw [root_eq_head?, hl']
        cases l1 <;> exact ⟨_, rfl⟩
      have hnext := ihl h.2.2.2.1 (nodup_left hnodup) hl' hd (h.climb_left hd hclimb)
      rw [root_eq_head?, ← Option.or_assoc, ← List.head?_append] at hnext
      exact k.next_mono hnext (by omega)

lemma Linked.next_eq (h : T.Linked k none) (hnodup : T.pre.Nodup) (hT : T.pre = l1 ++ x :: l2)
    (hn : T.pre.length < n) : k.next n x = some l2.head? := by
  obtain ⟨a, ha⟩ : ∃ a, T.root = some a := by
    rw [root_eq_head?, hT]
    cases l1 <;> exact ⟨_, rfl⟩
  have hclimb : k.climb 1 a = some none := by
    cases T with
    | nil => cases ha
    | node b l r =>
      cases ha
      rw [Links.climb, h.1]
  have hnext := h.next_in hnodup hT ha hclimb
  rw [or_none] at hnext
  exact k.next_mono hnext (by omega)

end BinTree
end walk

end OspfMdr.Lib
