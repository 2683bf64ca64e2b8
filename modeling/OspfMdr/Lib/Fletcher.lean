import Mathlib.Tactic

/-!
# Fletcher sums

The first sum of a list is that of its values, and the second one that of the first sums of all its
beginnings.
-/

namespace OspfMdr.Lib

section
variable {α : Type} (f : α → Int)

def total : List α → Int
  | [] => 0
  | a :: l => f a + total l

/-- A value is in as many beginnings as there are values from it on. -/
def weighted : List α → Int
  | [] => 0
  | a :: l => (l.length + 1) * f a + weighted l

@[simp] lemma total_append (l1 l2 : List α) : total f (l1 ++ l2) = total f l1 + total f l2 := by
  induction l1 with
  | nil => simp [total]
  | cons a l ih =>
    rw [List.cons_append, total, total, ih]
    ring

@[simp] lemma weighted_append (l1 l2 : List α) :
    weighted f (l1 ++ l2) = weighted f l1 + l2.length * total f l1 + weighted f l2 := by
  induction l1 with
  | nil => simp [weighted, total]
  | cons a l ih =>
    rw [List.cons_append, weighted, weighted, total, ih, List.length_append]
    push_cast
    ring

/-- Two values put in at a distance of `k` before the end make both sums zero. -/
lemma dvd_sums_of_check {modulus s0 s1 c0 c1 x y k : Int} (h0 : modulus ∣ s0 - c0)
    (h1 : modulus ∣ s1 - c1) (hx : modulus ∣ x - (k * c0 - c1)) (hxy : modulus ∣ c0 + x + y) :
    modulus ∣ s0 + x + y ∧ modulus ∣ s1 + (k + 1) * x + k * y := by
  obtain ⟨a, ha⟩ := h0
  obtain ⟨b, hb⟩ := h1
  obtain ⟨u, hu⟩ := hx
  obtain ⟨w, hw⟩ := hxy
  constructor
  · exact ⟨a + w, by linear_combination ha + hw⟩
  · exact ⟨b + u + k * w, by linear_combination hb + hu + k * hw⟩

end

end OspfMdr.Lib
