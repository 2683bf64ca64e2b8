import OspfMdr.Lib.HeapTree

/-!
# Path-compressed binary tries

Each node `a` of a tree has a string of bits `p a`; the strings of its left and right subtree
continue it with the bit 0 and 1. The nodes in preorder are then in the order of their strings. A
key is found by a descent along its bits.
-/

namespace OspfMdr.Lib
open List BinTree

variable {α : Type} {p : α → List Bool}

def bitAt (q : List Bool) (n : Nat) : Bool := q.getD n false

def commonPrefix : List Bool → List Bool → List Bool
  | a :: u, b :: v => if a = b then a :: commonPrefix u v else []
  | _, _ => []

/-- Where the descent to a key ends: at its node, below a node without a child there, or at a node off the key.
-/
inductive Descent (α : Type)
  | found (a : α)
  | ended (up : Option α)
  | stopped (up : Option α) (a : α)

def descend (p : α → List Bool) (link : α → Bool → Option α) (key : List Bool) :
    Nat → Option α → Option α → Option (Descent α)
  | _, up, none => some (.ended up)
  | 0, _, some _ => none
  | fuel + 1, up, some a =>
    if (p a).isPrefixOf key then
      if (p a).length = key.length then some (.found a)
      else descend p link key fuel (some a) (link a (bitAt key (p a).length))
    else some (.stopped up a)

/-- Each node's prefix is extended by those below it, on the side of its next bit. -/
def BinTree.Prefixed (p : α → List Bool) : BinTree α → Prop
  | nil => True
  | node a l r => (∀ x ∈ l.pre, p a ++ [false] <+: p x) ∧ (∀ x ∈ r.pre, p a ++ [true] <+: p x) ∧
      l.Prefixed p ∧ r.Prefixed p

/-- The way down the tree along a key. -/
def BinTree.descent (p : α → List Bool) (key : List Bool) : Option α → BinTree α → Descent α
  | up, nil => .ended up
  | up, node a l r =>
    if (p a).isPrefixOf key then
      if (p a).length = key.length then .found a
      else if bitAt key (p a).length then r.descent p key (some a) else l.descent p key (some a)
    else .stopped up a

section bits

variable {q u v : List Bool} {b : Bool} {n : Nat}

lemma bitAt_of_isPrefix (h : q ++ [b] <+: u) : bitAt u q.length = b := by
  obtain ⟨t, rfl⟩ := h
  simp [bitAt]

lemma length_lt_of_isPrefix (h : q ++ [b] <+: u) : q.length < u.length := by
  have hlen := h.length_le
  rwa [length_append, length_singleton] at hlen

lemma isPrefix_bitAt (h : q <+: u) (hlen : q.length < u.length) : q ++ [bitAt u q.length] <+: u := by
  obtain ⟨t, rfl⟩ := h
  cases t with
  | nil => simp at hlen
  | cons b t => exact ⟨t, by simp [bitAt]⟩

lemma commonPrefix_left : commonPrefix u v <+: u := by
  induction u generalizing v with
  | nil => exact prefix_refl _
  | cons a u ih =>
    cases v with
    | nil => exact nil_prefix
    | cons b v =>
      unfold commonPrefix
      split_ifs with h
      · exact cons_prefix_cons.mpr ⟨rfl, ih⟩
      · exact nil_prefix

lemma commonPrefix_right : commonPrefix u v <+: v := by
  induction u generalizing v with
  | nil => exact nil_prefix
  | cons a u ih =>
    cases v with
    | nil => exact nil_prefix
    | cons b v =>
      unfold commonPrefix
      split_ifs with h
      · exact cons_prefix_cons.mpr ⟨h, ih⟩
      · exact nil_prefix

lemma isPrefix_commonPrefix (hu : q <+: u) (hv : q <+: v) : q <+: commonPrefix u v := by
  induction q generalizing u v with
  | nil => exact nil_prefix
  | cons c q ih =>
    obtain ⟨s, rfl⟩ := hu
    obtain ⟨t, rfl⟩ := hv
    have hrest := ih (prefix_append q s) (prefix_append q t)
    simpa [commonPrefix] using hrest

lemma commonPrefix_eq (hu : q <+: u) (hv : q <+: v) (hend : q.length = v.length ∨ q.length <
      u.length ∧ q.length < v.length ∧ bitAt u q.length ≠ bitAt v q.length) :
    commonPrefix u v = q := by
  induction q generalizing u v with
  | nil =>
    rcases hend with hend | ⟨hlu, hlv, hne⟩
    · obtain rfl := length_eq_zero_iff.mp hend.symm
      cases u <;> rfl
    cases u with
    | nil => simp at hlu
    | cons a u =>
      cases v with
      | nil => simp at hlv
      | cons b v =>
        have hab : a ≠ b := by simpa [bitAt] using hne
        simp [commonPrefix, hab]
  | cons c q ih =>
    obtain ⟨s, rfl⟩ := hu
    obtain ⟨t, rfl⟩ := hv
    have hend' : q.length = (q ++ t).length ∨ q.length < (q ++ s).length ∧ q.length < (q ++ t).length ∧
        bitAt (q ++ s) q.length ≠ bitAt (q ++ t) q.length := by
      rcases hend with hend | ⟨hlu, hlv, hne⟩
      · exact .inl (Nat.succ.inj hend)
      · exact .inr ⟨Nat.lt_of_succ_lt_succ hlu, Nat.lt_of_succ_lt_succ hlv, by simpa [bitAt] using hne⟩
    have hrest := ih (prefix_append q s) (prefix_append q t) hend'
    simpa [commonPrefix] using hrest

lemma commonPrefix_split (huv : ¬u <+: v) (hvu : ¬v <+: u) :
    ∃ b, commonPrefix u v ++ [b] <+: u ∧ commonPrefix u v ++ [!b] <+: v := by
  induction u generalizing v with
  | nil => exact absurd nil_prefix huv
  | cons a u ih =>
    cases v with
    | nil => exact absurd nil_prefix hvu
    | cons b v =>
      by_cases hab : a = b
      · subst hab
        rw [cons_prefix_cons] at huv hvu
        obtain ⟨c, hc, hc'⟩ := ih (fun h => huv ⟨rfl, h⟩) fun h => hvu ⟨rfl, h⟩
        refine ⟨c, ?_⟩
        simp only [commonPrefix, if_true, cons_append, cons_prefix_cons, true_and]
        exact ⟨hc, hc'⟩
      refine ⟨a, ?_⟩
      have hb : b = !a := by
        cases a <;> cases b <;> simp_all
      simp [commonPrefix, hb, cons_prefix_cons]

lemma lt_of_isPrefix (h : q ++ [b] <+: u) : q < u := by
  obtain ⟨t, rfl⟩ := h
  have hlex : List.Lex (· < ·) (q ++ []) (q ++ b :: t) := List.Lex.append_left _ List.Lex.nil q
  simpa using hlex

lemma lt_of_bits (hu : q ++ [false] <+: u) (hv : q ++ [true] <+: v) : u < v := by
  obtain ⟨s, rfl⟩ := hu
  obtain ⟨t, rfl⟩ := hv
  have hlex : List.Lex (· < ·) (q ++ false :: s) (q ++ true :: t) :=
    List.Lex.append_left _ (List.Lex.rel (by decide)) q
  simpa using hlex

end bits

section trie

variable {T l r : BinTree α} {a x : α} {key : List Bool} {up : Option α}

lemma BinTree.Prefixed.pairwise (h : T.Prefixed p) : T.pre.Pairwise fun x y => p x < p y := by
  induction T with
  | nil => exact List.Pairwise.nil
  | node a l r ihl ihr =>
    obtain ⟨hl, hr, hpl, hpr⟩ := h
    refine pairwise_cons.mpr ⟨fun x hx => ?_, pairwise_append.mpr ⟨ihl hpl, ihr hpr, fun x hx y hy => ?_⟩⟩
    · rcases mem_append.mp hx with hx | hx
      · exact lt_of_isPrefix (hl x hx)
      · exact lt_of_isPrefix (hr x hx)
    · exact lt_of_bits (hl x hx) (hr y hy)

lemma BinTree.Prefixed.congr {p' : α → List Bool} (h : T.Prefixed p) (hp' : ∀ x ∈ T.pre, p' x = p x) :
    T.Prefixed p' := by
  induction T with
  | nil => trivial
  | node a l r ihl ihr =>
    have hpl : ∀ x ∈ l.pre, p' x = p x := fun x hx => hp' x (mem_cons_of_mem _ (mem_append_left _ hx))
    have hpr : ∀ x ∈ r.pre, p' x = p x := fun x hx => hp' x (mem_cons_of_mem _ (mem_append_right _ hx))
    refine ⟨fun x hx => ?_, fun x hx => ?_, ihl h.2.2.1 hpl, ihr h.2.2.2 hpr⟩
    · rw [hp' a mem_cons_self, hpl x hx]
      exact h.1 x hx
    · rw [hp' a mem_cons_self, hpr x hx]
      exact h.2.1 x hx

lemma BinTree.Prefixed.isPrefix_of_mem (h : (node a l r).Prefixed p)
    (hx : x ∈ (node a l r).pre) : p a <+: p x := by
  rcases mem_cons.mp hx with rfl | hx
  · exact prefix_refl _
  · rcases mem_append.mp hx with hx | hx
    · exact (prefix_append _ _).trans (h.1 x hx)
    · exact (prefix_append _ _).trans (h.2.1 x hx)

lemma BinTree.Linked.descend_eq {k : Links α} (h : T.Linked k up) {link : α → Bool → Option α}
    (hlink : ∀ a b, link a b = if b then k.right a else k.left a) {fuel : Nat}
    (hfuel : T.pre.length ≤ fuel) :
    descend p link key fuel up T.root = some (T.descent p key up) := by
  induction T generalizing up fuel with
  | nil => cases fuel <;> rfl
  | node a l r ihl ihr =>
    obtain ⟨-, hl, hr, hlinkl, hlinkr⟩ := h
    have hlen : (node a l r).pre.length = l.pre.length + r.pre.length + 1 := by simp [pre]
    obtain ⟨fuel, rfl⟩ : ∃ n, fuel = n + 1 := ⟨fuel - 1, by omega⟩
    simp only [root, descend, descent, hlink]
    split_ifs with hprefix hlength hbit
    · rfl
    · rw [hr]
      exact ihr hlinkr (by omega)
    · rw [hl]
      exact ihl hlinkl (by omega)
    · rfl

lemma BinTree.descent_found (h : T.descent p key up = .found a) : a ∈ T.pre ∧ p a = key := by
  induction T generalizing up with
  | nil => cases h
  | node b l r ihl ihr =>
    unfold descent at h
    split_ifs at h with hpre hlength hbit
    · obtain rfl := Descent.found.inj h
      exact ⟨mem_cons_self, (List.isPrefixOf_iff_prefix.mp hpre).eq_of_length hlength⟩
    · obtain ⟨hmem, hkey⟩ := ihr h
      exact ⟨mem_cons_of_mem _ (mem_append_right _ hmem), hkey⟩
    · obtain ⟨hmem, hkey⟩ := ihl h
      exact ⟨mem_cons_of_mem _ (mem_append_left _ hmem), hkey⟩

lemma BinTree.Prefixed.descent_of_mem (h : T.Prefixed p) (up : Option α) (ha : a ∈ T.pre)
    (hkey : p a = key) : ∃ b, T.descent p key up = .found b := by
  induction T generalizing up with
  | nil => cases ha
  | node b l r ihl ihr =>
    have hpre := h.isPrefix_of_mem ha
    rw [hkey] at hpre
    unfold descent
    rw [if_pos (List.isPrefixOf_iff_prefix.mpr hpre)]
    split_ifs with hlength hbit
    · exact ⟨b, rfl⟩
    · refine ihr h.2.2.2 _ ?_
      rcases mem_cons.mp ha with rfl | ha
      · exact absurd (congrArg List.length hkey) hlength
      refine (mem_append.mp ha).resolve_left fun ha => ?_
      have hfalse := bitAt_of_isPrefix (h.1 a ha)
      rw [hkey, hbit] at hfalse
      cases hfalse
    · refine ihl h.2.2.1 _ ?_
      rcases mem_cons.mp ha with rfl | ha
      · exact absurd (congrArg List.length hkey) hlength
      refine (mem_append.mp ha).resolve_right fun ha => ?_
      have htrue := bitAt_of_isPrefix (h.2.1 a ha)
      rw [hkey] at htrue
      exact hbit htrue

end trie

end OspfMdr.Lib
