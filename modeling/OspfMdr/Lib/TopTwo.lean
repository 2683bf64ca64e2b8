import Mathlib.Tactic

/-!
# The two largest of a list

One pass keeps the largest and the second largest element so far. Elements that do not rank above
the floor, which stands for missing ones, are never kept.
-/

namespace OspfMdr.Lib
open List

variable {ι α : Type} [LinearOrder α] (rank : ι → α) (floor : α)

def height : Option ι → α
  | none => floor
  | some i => rank i

def topTwoStep (c : Option ι × Option ι) (j : ι) : Option ι × Option ι :=
  if height rank floor c.1 < rank j then (some j, c.1)
  else if height rank floor c.2 < rank j then (c.1, some j)
  else c

/-- The two indices of the highest rank above a floor. -/
def topTwo (l : List ι) : Option ι × Option ι := l.foldl (topTwoStep rank floor) (none, none)

def topStep (o : Option ι) (j : ι) : Option ι := if height rank floor o < rank j then some j else o

lemma topTwo_fst (l : List ι) : (topTwo rank floor l).1 = l.foldl (topStep rank floor) none := by
  refine (foldl_hom Prod.fst fun c j => ?_).symm
  unfold topTwoStep topStep
  split_ifs <;> rfl

/-- The pair is that of the two highest so far. -/
structure TopInv (l : List ι) (c : Option ι × Option ι) : Prop where
  first_mem : ∀ i, c.1 = some i → i ∈ l ∧ floor < rank i
  second_mem : ∀ i, c.2 = some i → i ∈ l ∧ floor < rank i ∧ rank i < height rank floor c.1
  first_le : ∀ j ∈ l, floor < rank j → rank j ≤ height rank floor c.1
  second_le : ∀ j ∈ l, floor < rank j → rank j < height rank floor c.1 → rank j ≤ height rank floor c.2

variable {rank floor} {l : List ι} {c : Option ι × Option ι} {j : ι} {S : ι → Prop}

section
variable (h : TopInv rank floor l c)
include h

lemma TopInv.floor_le :
    floor ≤ height rank floor c.1 ∧ floor ≤ height rank floor c.2 := by
  constructor
  · cases hc : c.1 with
    | none => exact le_refl _
    | some i => exact (h.first_mem i hc).2.le
  · cases hc : c.2 with
    | none => exact le_refl _
    | some i => exact (h.second_mem i hc).2.1.le

lemma TopInv.keep (h1 : rank j ≤ height rank floor c.1)
    (h2 : rank j ≤ height rank floor c.2) : TopInv rank floor (l ++ [j]) c := by
  refine ⟨fun i hi => ?_, fun i hi => ?_, fun i hi hfloor => ?_, fun i hi hfloor hlt => ?_⟩
  · exact ⟨mem_append_left _ (h.first_mem i hi).1, (h.first_mem i hi).2⟩
  · exact ⟨mem_append_left _ (h.second_mem i hi).1, (h.second_mem i hi).2⟩
  · rcases mem_append.mp hi with hi | hi
    · exact h.first_le i hi hfloor
    · rwa [mem_singleton.mp hi]
  · rcases mem_append.mp hi with hi | hi
    · exact h.second_le i hi hfloor hlt
    · rwa [mem_singleton.mp hi]

lemma TopInv.step (hnew : ∀ i ∈ l, rank i ≠ rank j) :
    TopInv rank floor (l ++ [j]) (topTwoStep rank floor c j) := by
  have hj : j ∈ l ++ [j] := by simp
  unfold topTwoStep
  split_ifs with h1 h2
  · refine ⟨?_, fun i hi => ?_, fun i hi hfloor => ?_, fun i hi hfloor hlt => ?_⟩
    · rintro i ⟨⟩
      exact ⟨hj, h.floor_le.1.trans_lt h1⟩
    · obtain ⟨hmem, hfloor⟩ := h.first_mem i hi
      rw [show c.1 = some i from hi] at h1
      exact ⟨mem_append_left _ hmem, hfloor, h1⟩
    · rcases mem_append.mp hi with hi | hi
      · exact (h.first_le i hi hfloor).trans h1.le
      · rw [mem_singleton.mp hi]
        exact le_refl _
    · rcases mem_append.mp hi with hi | hi
      · exact h.first_le i hi hfloor
      · rw [mem_singleton.mp hi] at hlt
        exact absurd hlt (lt_irrefl _)
  · have hle := not_lt.mp h1
    have hfloor := h.floor_le.2.trans_lt h2
    have hlt : rank j < height rank floor c.1 := by
      cases hc : c.1 with
      | none =>
        rw [hc] at hle
        exact absurd hfloor (not_lt.mpr hle)
      | some i =>
        rw [hc] at hle
        exact lt_of_le_of_ne hle (hnew i (h.first_mem i hc).1).symm
    refine ⟨fun i hi => ?_, ?_, fun i hi hfloor => ?_, fun i hi hfloor hlt => ?_⟩
    · exact ⟨mem_append_left _ (h.first_mem i hi).1, (h.first_mem i hi).2⟩
    · rintro i ⟨⟩
      exact ⟨hj, hfloor, hlt⟩
    · rcases mem_append.mp hi with hi | hi
      · exact h.first_le i hi hfloor
      · rwa [mem_singleton.mp hi]
    · rcases mem_append.mp hi with hi | hi
      · exact (h.second_le i hi hfloor hlt).trans h2.le
      · rw [mem_singleton.mp hi]
        exact le_refl _
  · exact h.keep (not_lt.mp h1) (not_lt.mp h2)

end

lemma topTwo_inv (hnodup : (l.map rank).Nodup) : TopInv rank floor l (topTwo rank floor l) := by
  induction l using reverseRecOn with
  | nil => exact ⟨nofun, nofun, by simp, by simp⟩
  | append_singleton l j ih =>
    rw [map_append, nodup_append] at hnodup
    rw [topTwo, foldl_append]
    exact (ih hnodup.1).step fun i hi => hnodup.2.2 _ (mem_map_of_mem hi) _ (mem_map_of_mem mem_cons_self)

section spec

variable {S : ι → Prop}

/-- Every other index of the set has a lower rank. -/
def IsLargest (rank : ι → α) (S : ι → Prop) (j : ι) : Prop := S j ∧ ∀ k, S k → k ≠ j → rank k < rank j

/-- Only one index of the set has a higher rank. -/
def IsSecondLargest (rank : ι → α) (S : ι → Prop) (j : ι) : Prop :=
  S j ∧ ∃ i, i ≠ j ∧ IsLargest rank S i ∧ ∀ k, S k → k ≠ i → k ≠ j → rank k < rank j

variable (h : TopInv rank floor l c) (hS : ∀ i, i ∈ l ↔ S i) (hinj : ∀ i j, S i → S j → rank i = rank j → i = j)
include h hS hinj

lemma TopInv.isLargest (hc : c.1 = some j) : IsLargest rank S j := by
  obtain ⟨hmem, hfloor⟩ := h.first_mem j hc
  refine ⟨(hS j).mp hmem, fun k hk hne => ?_⟩
  by_cases hkfloor : floor < rank k
  · have hle := h.first_le k ((hS k).mpr hk) hkfloor
    rw [hc] at hle
    exact lt_of_le_of_ne hle fun heq => hne (hinj k j hk ((hS j).mp hmem) heq)
  · exact (not_lt.mp hkfloor).trans_lt hfloor

omit hinj in
lemma TopInv.first_eq (hj : IsLargest rank S j) (hfloor : floor < rank j) : c.1 = some j := by
  have hle := h.first_le j ((hS j).mpr hj.1) hfloor
  cases hc : c.1 with
  | none =>
    rw [hc] at hle
    exact absurd hfloor (not_lt.mpr hle)
  | some i =>
    rw [hc] at hle
    by_contra hne
    have hlt := hj.2 i ((hS i).mp (h.first_mem i hc).1) fun heq => hne (by rw [heq])
    exact absurd hlt (not_lt.mpr hle)

lemma TopInv.isSecondLargest (hc : c.2 = some j) : IsSecondLargest rank S j := by
  obtain ⟨hmem, hfloor, hlt⟩ := h.second_mem j hc
  cases hc1 : c.1 with
  | none =>
    rw [hc1] at hlt
    exact absurd hlt (lt_asymm hfloor)
  | some i =>
    rw [hc1] at hlt
    have hi := h.isLargest hS hinj hc1
    refine ⟨(hS j).mp hmem, i, fun heq => ?_, hi, fun k hk hki hkj => ?_⟩
    · rw [heq] at hlt
      exact absurd hlt (lt_irrefl _)
    · by_cases hkfloor : floor < rank k
      · have hle := h.second_le k ((hS k).mpr hk) hkfloor (by rw [hc1]; exact hi.2 k hk hki)
        rw [hc] at hle
        exact lt_of_le_of_ne hle fun heq => hkj (hinj k j hk ((hS j).mp hmem) heq)
      · exact (not_lt.mp hkfloor).trans_lt hfloor

omit hinj in
lemma TopInv.second_eq (hj : IsSecondLargest rank S j) (hfloor : floor < rank j) : c.2 = some j := by
  obtain ⟨hSj, i, hij, hi, hrest⟩ := hj
  have hlt := hi.2 j hSj hij.symm
  have hc1 := h.first_eq hS hi (hfloor.trans hlt)
  have hle := h.second_le j ((hS j).mpr hSj) hfloor (by rw [hc1]; exact hlt)
  cases hc : c.2 with
  | none =>
    rw [hc] at hle
    exact absurd hfloor (not_lt.mpr hle)
  | some k =>
    obtain ⟨hmem, -, hki⟩ := h.second_mem k hc
    rw [hc] at hle
    rw [hc1] at hki
    by_contra hne
    have hkj := hrest k ((hS k).mp hmem) (fun heq => lt_irrefl _ (heq ▸ hki)) fun heq => hne (by rw [heq])
    exact absurd hkj (not_lt.mpr hle)

end spec

lemma IsLargest.unique {i : ι} (hi : IsLargest rank S i) (hj : IsLargest rank S j) :
    i = j := by
  by_contra hne
  exact lt_asymm (hi.2 j hj.1 (Ne.symm hne)) (hj.2 i hi.1 hne)

lemma exists_isLargest [Fintype ι] (hinj : ∀ i j, S i → S j → rank i = rank j → i = j)
    (hS : ∃ i, S i) : ∃ j, IsLargest rank S j := by
  classical
  obtain ⟨i, hi⟩ := hS
  obtain ⟨j, hj, hmax⟩ := Finset.exists_max_image (Finset.univ.filter S) rank ⟨i, by simpa using hi⟩
  have hSj : S j := by simpa using hj
  refine ⟨j, hSj, fun k hk hne => ?_⟩
  exact lt_of_le_of_ne (hmax k (by simpa using hk)) fun heq => hne (hinj k j hk hSj heq)

end OspfMdr.Lib
