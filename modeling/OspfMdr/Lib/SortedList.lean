import Mathlib.Tactic

/-!
# Lists sorted by a key

The elements of one key are contiguous in a sorted list, and a search in a sorted list
stops at the least element that passes.
-/

namespace OspfMdr.Lib
open List

variable {α κ : Type}

/-- The part before the key, the elements of the key, and the part behind it. -/
structure GroupSplit [LT κ] (key : α → κ) (k : κ) (l l1 c l2 : List α) : Prop where
  eq : l = l1 ++ c ++ l2
  before : ∀ a ∈ l1, key a < k
  group : ∀ a ∈ c, key a = k
  after : ∀ a ∈ l2, k < key a

variable {l : List α} {p : α → Bool} {key : α → κ}

lemma exists_groupSplit [LinearOrder κ] (key : α → κ) (k : κ)
    (h : l.Pairwise fun a b => key a ≤ key b) : ∃ l1 c l2, GroupSplit key k l l1 c l2 := by
  induction l with
  | nil => exact ⟨[], [], [], by simp, by simp, by simp, by simp⟩
  | cons a l ih =>
    obtain ⟨hhead, htail⟩ := pairwise_cons.mp h
    rcases lt_trichotomy (key a) k with hlt | heq | hgt
    · obtain ⟨l1, c, l2, rfl, h1, hc, h2⟩ := ih htail
      exact ⟨a :: l1, c, l2, rfl, forall_mem_cons.mpr ⟨hlt, h1⟩, hc, h2⟩
    · obtain ⟨l1, c, l2, rfl, h1, hc, h2⟩ := ih htail
      have hnil : l1 = [] := by
        refine eq_nil_iff_forall_not_mem.mpr fun b hb => ?_
        exact absurd (h1 b hb) (not_lt.mpr (heq ▸ hhead b (by simp [hb])))
      subst hnil
      exact ⟨[], a :: c, l2, rfl, by simp, forall_mem_cons.mpr ⟨heq, hc⟩, h2⟩
    · refine ⟨[], [], a :: l, rfl, by simp, by simp, forall_mem_cons.mpr ⟨hgt, ?_⟩⟩
      exact fun b hb => lt_of_lt_of_le hgt (hhead b hb)

lemma GroupSplit.filter_eq [LinearOrder κ] {k : κ} {l1 c l2 : List α}
    (h : GroupSplit key k l l1 c l2) (hp : ∀ a, p a ↔ key a = k) : l.filter p = c := by
  have h1 : l1.filter p = [] :=
    filter_eq_nil_iff.mpr fun a ha => by
      rw [hp]
      exact ne_of_lt (h.before a ha)
  have hc : c.filter p = c :=
    filter_eq_self.mpr fun a ha => (hp a).mpr (h.group a ha)
  have h2 : l2.filter p = [] :=
    filter_eq_nil_iff.mpr fun a ha => by
      rw [hp]
      exact ne_of_gt (h.after a ha)
  rw [h.eq, filter_append, filter_append, h1, hc, h2, nil_append, append_nil]

section
variable [LinearOrder κ] {key : α → κ} {k : κ} {l1 c l2 : List α} {a : α} (h : GroupSplit key k l l1 c l2)
include h

lemma GroupSplit.mem_after : a ∈ l2 ↔ a ∈ l ∧ k < key a := by
  rw [h.eq, mem_append, mem_append]
  constructor
  · exact fun ha => ⟨.inr ha, h.after a ha⟩
  · rintro ⟨(ha | ha) | ha, hlt⟩
    · exact absurd (h.before a ha) (lt_asymm hlt)
    · exact absurd (h.group a ha) (ne_of_gt hlt)
    · exact ha

lemma GroupSplit.mem_before : a ∈ l1 ↔ a ∈ l ∧ key a < k := by
  rw [h.eq, mem_append, mem_append]
  constructor
  · exact fun ha => ⟨.inl (.inl ha), h.before a ha⟩
  · rintro ⟨(ha | ha) | ha, hlt⟩
    · exact ha
    · exact absurd (h.group a ha) (ne_of_lt hlt)
    · exact absurd (h.after a ha) (lt_asymm hlt)

end

lemma find?_of_pairwise {R : α → α → Prop} {x : α} (hl : l.Pairwise R) (hx : x ∈ l) (hp : p x)
    (hlt : ∀ y ∈ l, R y x → p y = false) : l.find? p = some x := by
  obtain ⟨l1, l2, rfl⟩ := append_of_mem hx
  refine List.find?_eq_some_iff_append.mpr ⟨hp, l1, l2, rfl, fun y hy => ?_⟩
  have hR := (pairwise_append.mp hl).2.2 y hy x mem_cons_self
  simp [hlt y (mem_append_left _ hy) hR]

/-- The first key with an element is that of the first element. -/
lemma find?_eq_head? {R : κ → κ → Prop} {n : List κ} {p : κ → Bool} (hn : n.Pairwise R)
    (hl : l.Pairwise fun a b => ¬ R (key b) (key a)) (hirr : ∀ k, ¬ R k k)
    (hp : ∀ k ∈ n, p k ↔ ∃ a ∈ l, key a = k) (hmem : ∀ a ∈ l, key a ∈ n) :
    n.find? p = l.head?.map key := by
  cases l with
  | nil =>
    refine List.find?_eq_none.mpr fun k hk hpk => ?_
    obtain ⟨a, ha, -⟩ := (hp k hk).mp hpk
    cases ha
  | cons a l =>
    refine find?_of_pairwise hn (hmem a mem_cons_self) ((hp _ (hmem a mem_cons_self)).mpr ⟨a, mem_cons_self, rfl⟩) ?_
    intro k hk hlt
    by_contra hpk
    obtain ⟨b, hb, rfl⟩ := (hp k hk).mp (Bool.not_eq_false _ ▸ hpk)
    rcases mem_cons.mp hb with rfl | hb
    · exact hirr _ hlt
    · exact (pairwise_cons.mp hl).1 b hb hlt

end OspfMdr.Lib
