import Mathlib.Tactic

/-!
# Tables as lists in the order of a key

Inserting an element replaces the one with the same key.
-/

namespace OspfMdr.Lib
open List

variable {α κ : Type} [LinearOrder κ] (key : α → κ)

/-- The first element with the key. -/
def keyLookup (k : κ) (l : List α) : Option α := l.find? fun a => key a = k

/-- The element put in its place, instead of one with its key. -/
def keyInsert (x : α) : List α → List α
  | [] => [x]
  | a :: l =>
    if key x < key a then x :: a :: l
    else if key x = key a then x :: l
    else a :: keyInsert x l

def keyRemove (k : κ) (l : List α) : List α := l.filter fun a => key a ≠ k

variable {key} {x a : α} {k : κ} {l : List α}

lemma keyLookup_cons : keyLookup key k (a :: l) = if key a = k then some a else keyLookup key k l := by
  unfold keyLookup
  rw [List.find?_cons]
  split_ifs with h <;> simp [h]

lemma keyLookup_some (h : keyLookup key k l = some a) : a ∈ l ∧ key a = k :=
  ⟨mem_of_find?_eq_some h, by simpa using List.find?_some h⟩

lemma keyLookup_insert_self : keyLookup key (key x) (keyInsert key x l) = some x := by
  induction l with
  | nil => simp [keyInsert, keyLookup]
  | cons a l ih =>
    unfold keyInsert
    split_ifs with hlt heq
    · simp [keyLookup_cons]
    · simp [keyLookup_cons]
    · rw [keyLookup_cons, if_neg (Ne.symm heq), ih]

lemma keyLookup_insert_of_eq (hk : key x = k) : keyLookup key k (keyInsert key x l) = some x :=
  hk ▸ keyLookup_insert_self

lemma keyLookup_insert_of_ne (hk : k ≠ key x) :
    keyLookup key k (keyInsert key x l) = keyLookup key k l := by
  induction l with
  | nil => simp [keyInsert, keyLookup, hk.symm]
  | cons a l ih =>
    unfold keyInsert
    split_ifs with hlt heq
    · rw [keyLookup_cons, if_neg hk.symm]
    · rw [keyLookup_cons, if_neg hk.symm, keyLookup_cons, if_neg (heq ▸ hk.symm)]
    · rw [keyLookup_cons, keyLookup_cons, ih]

lemma mem_of_mem_keyInsert (h : a ∈ keyInsert key x l) : a = x ∨ a ∈ l := by
  induction l with
  | nil => exact .inl (mem_singleton.mp h)
  | cons b l ih =>
    unfold keyInsert at h
    split_ifs at h
    · exact (mem_cons.mp h)
    · exact (mem_cons.mp h).imp_right (mem_cons_of_mem b)
    · rcases mem_cons.mp h with rfl | hl
      · exact .inr mem_cons_self
      · exact (ih hl).imp_right (mem_cons_of_mem b)

lemma mem_keyInsert_iff (h : ∀ b ∈ l, key b ≠ key x) : a ∈ keyInsert key x l ↔ a = x ∨ a ∈ l := by
  refine ⟨mem_of_mem_keyInsert, fun ha => ?_⟩
  induction l with
  | nil => simpa [keyInsert] using ha
  | cons b l ih =>
    have hne := h b mem_cons_self
    unfold keyInsert
    rw [if_neg hne.symm]
    split_ifs
    · exact mem_cons.mpr ha
    obtain rfl | ha := ha
    · exact mem_cons_of_mem b (ih (fun c hc => h c (mem_cons_of_mem b hc)) (.inl rfl))
    · obtain rfl | ha := mem_cons.mp ha
      · exact mem_cons_self
      · exact mem_cons_of_mem b (ih (fun c hc => h c (mem_cons_of_mem b hc)) (.inr ha))

variable (key) in
/-- The keys increase. -/
def KeySorted (l : List α) : Prop := l.Pairwise fun a b => key a < key b

lemma KeySorted.insert (h : KeySorted key l) (x : α) : KeySorted key (keyInsert key x l) := by
  induction l with
  | nil => exact pairwise_singleton _ x
  | cons a l ih =>
    obtain ⟨hhead, htail⟩ := pairwise_cons.mp h
    unfold keyInsert
    split_ifs with hlt heq
    · refine pairwise_cons.mpr ⟨fun b hb => ?_, h⟩
      rcases mem_cons.mp hb with rfl | hb
      · exact hlt
      · exact lt_trans hlt (hhead b hb)
    · exact pairwise_cons.mpr ⟨fun b hb => heq ▸ hhead b hb, htail⟩
    · refine pairwise_cons.mpr ⟨fun b hb => ?_, ih htail⟩
      rcases mem_of_mem_keyInsert hb with rfl | hb
      · exact lt_of_le_of_ne (not_lt.mp hlt) (Ne.symm heq)
      · exact hhead b hb

lemma KeySorted.lookup (h : KeySorted key l) (ha : a ∈ l) : keyLookup key (key a) l = some a := by
  induction l with
  | nil => exact absurd ha not_mem_nil
  | cons b l ih =>
    obtain ⟨hhead, htail⟩ := pairwise_cons.mp h
    rw [keyLookup_cons]
    rcases mem_cons.mp ha with rfl | ha
    · rw [if_pos rfl]
    · rw [if_neg (ne_of_lt (hhead a ha)), ih htail ha]

lemma KeySorted.insert_self (h : KeySorted key l) (hx : keyLookup key (key x) l = some x) :
    keyInsert key x l = l := by
  induction l with
  | nil => simp [keyLookup] at hx
  | cons a l ih =>
    obtain ⟨hhead, htail⟩ := pairwise_cons.mp h
    rw [keyLookup_cons] at hx
    unfold keyInsert
    split_ifs at hx with heq
    · cases hx
      rw [if_neg (lt_irrefl _), if_pos rfl]
    · rw [if_neg (lt_asymm (hhead x (keyLookup_some hx).1)), if_neg (Ne.symm heq), ih htail hx]

end OspfMdr.Lib
