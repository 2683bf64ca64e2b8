import Mathlib.Tactic

/-!
# Registers that keep the most recent value

A value is more recent than another one by its rank, and among values of one rank if it was born
`gap` or more after the other. Within one rank the relation is no weak order: of three values the
first and the second, and the second and the third may be equally recent, but not the first and the
third. A register that takes only more recent values still ends with the greatest rank, and with a
value that none it was offered is more recent than.
-/

namespace OspfMdr.Lib
open List

variable {α ρ : Type*} [LinearOrder ρ] {rank : α → ρ} {birth : α → Int} {gap : Int} {x y z : α}

/-- The first is higher in rank, or equal and younger by the gap at least. -/
def MoreRecent (rank : α → ρ) (birth : α → Int) (gap : Int) (x y : α) : Prop :=
  rank y < rank x ∨ rank x = rank y ∧ birth y + gap ≤ birth x

/-- What is not more recent than a value is not more recent than one that takes its place. -/
lemma MoreRecent.not_of_not (hgap : 0 ≤ gap) (hz : MoreRecent rank birth gap z x)
    (hy : ¬MoreRecent rank birth gap y x) : ¬MoreRecent rank birth gap y z := by
  rintro (hrank | ⟨hrank, hbirth⟩)
  · refine hy (.inl (lt_of_le_of_lt ?_ hrank))
    rcases hz with hz | ⟨hz, -⟩
    · exact hz.le
    · exact hz.ge
  · rcases hz with hz | ⟨hz, hzb⟩
    · exact hy (.inl (hrank ▸ hz))
    · exact hy (.inr ⟨hrank.trans hz, by omega⟩)

lemma rank_le_of_not (h : ¬MoreRecent rank birth gap y x) : rank y ≤ rank x := by
  by_contra hlt
  exact h (.inl (not_le.mp hlt))

/-- The value of a register after values were offered to it: one of them, and none of them is more
recent. -/
structure Latest (rank : α → ρ) (birth : α → Int) (gap : Int) (offered : List α) (x : α) : Prop where
  mem : x ∈ offered
  newest : ∀ y ∈ offered, ¬MoreRecent rank birth gap y x

variable {offered offered' : List α}

lemma not_moreRecent_self (hgap : 0 < gap) : ¬MoreRecent rank birth gap x x := by
  rintro (h | ⟨-, h⟩)
  · exact lt_irrefl _ h
  · omega

lemma latest_singleton (hgap : 0 < gap) : Latest rank birth gap [x] x := by
  refine ⟨mem_singleton_self x, fun y hy => ?_⟩
  rw [mem_singleton.mp hy]
  exact not_moreRecent_self hgap

lemma Latest.take (hgap : 0 < gap) (h : Latest rank birth gap offered x)
    (hz : MoreRecent rank birth gap z x) : Latest rank birth gap (offered ++ [z]) z := by
  refine ⟨mem_append_right _ (mem_singleton_self z), fun y hy => ?_⟩
  rcases mem_append.mp hy with hy | hy
  · exact hz.not_of_not (Int.le_of_lt hgap) (h.newest y hy)
  · rw [mem_singleton.mp hy]
    exact not_moreRecent_self hgap

lemma Latest.refuse (h : Latest rank birth gap offered x) (hz : ¬MoreRecent rank birth gap z x) :
    Latest rank birth gap (offered ++ [z]) x := by
  refine ⟨mem_append_left _ h.mem, fun y hy => ?_⟩
  rcases mem_append.mp hy with hy | hy
  · exact h.newest y hy
  · rwa [mem_singleton.mp hy]

lemma Latest.rank_eq (h : Latest rank birth gap offered x) (h' : Latest rank birth gap offered' y)
    (hranks : ∀ r, r ∈ offered.map rank ↔ r ∈ offered'.map rank) : rank x = rank y := by
  refine le_antisymm ?_ ?_
  · obtain ⟨z, hz, hrank⟩ := mem_map.mp ((hranks (rank x)).mp (mem_map_of_mem h.mem))
    rw [← hrank]
    exact rank_le_of_not (h'.newest z hz)
  · obtain ⟨z, hz, hrank⟩ := mem_map.mp ((hranks (rank y)).mpr (mem_map_of_mem h'.mem))
    rw [← hrank]
    exact rank_le_of_not (h.newest z hz)

end OspfMdr.Lib
