import Mathlib.Tactic

/-!
# Lists in a memory

What a memory holds from an offset on.
-/

namespace OspfMdr.Lib

variable {β : Type*} {m : Nat → β} {p : Nat} {b : β} {l l1 l2 : List β}

def ImageAt (m : Nat → β) : Nat → List β → Prop
  | _, [] => True
  | p, b :: l => m p = b ∧ ImageAt m (p + 1) l

lemma imageAt_append : ImageAt m p (l1 ++ l2) ↔ ImageAt m p l1 ∧ ImageAt m (p + l1.length) l2 := by
  induction l1 generalizing p with
  | nil => simp [ImageAt]
  | cons b l ih =>
    have hp : p + 1 + l.length = p + (b :: l).length := by
      rw [List.length_cons]
      omega
    rw [List.cons_append, ImageAt, ImageAt, ih, hp, and_assoc]

lemma imageAt_getD (l : List β) (d : β) : ImageAt (fun i => l.getD i d) 0 l := by
  suffices h : ∀ k, ImageAt (fun i => l.getD i d) k (l.drop k) by simpa using h 0
  intro k
  induction hl : l.drop k generalizing k with
  | nil => trivial
  | cons b rest ih =>
    have hk : k < l.length := by
      by_contra hk
      rw [List.drop_eq_nil_of_le (by omega)] at hl
      cases hl
    rw [List.drop_eq_getElem_cons hk] at hl
    obtain ⟨rfl, hrest⟩ := List.cons.inj hl
    exact ⟨by simp [hk], ih (k + 1) hrest⟩

end OspfMdr.Lib
