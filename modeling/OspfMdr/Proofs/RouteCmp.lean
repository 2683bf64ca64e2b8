import OspfMdr.Model.Route

namespace OspfMdr.Ospf6

/-- The cost that `ospf6_route_cmp` subtracts. -/
def Path.comparedCost (p : Path) : UInt32 := if p.type = .external2 then p.costE2 else p.cost

/-- The order of the comparison: type, area, type of path, cost. -/
def Route.rank (r : Route) : Nat ×ₗ Nat ×ₗ Nat ×ₗ Nat :=
  toLex (r.type.toNat, toLex (r.path.areaId.toNat, toLex (r.path.type.toNat,
    r.path.comparedCost.toNat)))

/-- The difference fits into an `int`. -/
def Close (a b : UInt32) : Prop := a.toNat < b.toNat + 2 ^ 31 ∧ b.toNat < a.toNat + 2 ^ 31

lemma Close.symm {a b : UInt32} (h : Close a b) : Close b a := ⟨h.2, h.1⟩

/-- Both routes have a path, and the numbers that a comparison subtracts are close. -/
structure Near (x y : Route) : Prop where
  left : x.path.type ≠ .none
  right : y.path.type ≠ .none
  area : Close x.path.areaId y.path.areaId
  cost : x.path.areaId = y.path.areaId → x.path.type = y.path.type →
    Close x.path.comparedCost y.path.comparedCost

variable {x y : Route} {a b : UInt32}

lemma Near.symm (h : Near x y) : Near y x :=
  ⟨h.right, h.left, ⟨h.area.2, h.area.1⟩, fun ha ht =>
    ⟨(h.cost ha.symm ht.symm).2, (h.cost ha.symm ht.symm).1⟩⟩

lemma unsignedCmp_eq (h : Close a b) : unsignedCmp a b = (a.toNat : Int) - b.toNat := by
  have hb := b.toNat_lt
  obtain ⟨h1, h2⟩ := h
  unfold unsignedCmp
  rw [BitVec.toInt_eq_toNat_cond]
  have hsub : (a - b).toBitVec.toNat = (2 ^ 32 - b.toNat + a.toNat) % 2 ^ 32 := by
    rfl
  rw [hsub]
  split_ifs <;> omega

lemma DestType.toNat_injective : ∀ a b : DestType, a.toNat = b.toNat → a = b := by
  intro a b
  cases a <;> cases b <;> simp [DestType.toNat]

lemma PathType.toNat_injective : ∀ a b : PathType, a.toNat = b.toNat → a = b := by
  intro a b
  cases a <;> cases b <;> simp [PathType.toNat]

/-- The result is negative exactly if `a` is smaller, and positive exactly if `b` is. -/
def Signed {α : Type*} [LT α] (o : Option Int) (a b : α) : Prop :=
  ∃ v, o = some v ∧ (v < 0 ↔ a < b) ∧ (0 < v ↔ b < a)

lemma Signed.step {α : Type*} [LT α] {p : Prop} [Decidable p] {o : Option Int} {v : Int} {a b : Nat}
    {x y : α} (hp : p ↔ a ≠ b) (hv : v = (a : Int) - b) (ho : a = b → Signed o x y) :
    Signed (if p then some v else o) (toLex (a, x)) (toLex (b, y)) := by
  simp only [Signed, Prod.Lex.toLex_lt_toLex]
  split_ifs with h
  · have hne := hp.mp h
    refine ⟨v, rfl, ?_, ?_⟩ <;> omega
  have heq : a = b := not_not.mp (mt hp.mpr h)
  obtain ⟨w, hw, hlt, hgt⟩ := ho heq
  refine ⟨w, hw, ?_, ?_⟩
  · simp [heq, hlt]
  · simp [heq, hgt]

lemma signed_unsignedCmp (h : Close a b) :
    Signed (if a ≠ b then some (unsignedCmp a b) else some 0) a.toNat b.toNat := by
  split_ifs with hne
  · refine ⟨_, rfl, ?_, ?_⟩ <;> rw [unsignedCmp_eq h] <;> omega
  · rw [not_not.mp hne]
    exact ⟨0, rfl, by simp, by simp⟩

lemma ospf6RouteCmp_signed (hsame : ospf6RouteIsSame x y) (h : Near x y) :
    Signed (ospf6RouteCmp x y) x.rank y.rank := by
  unfold ospf6RouteCmp Route.rank
  rw [if_neg (by simp [hsame]), if_neg (by simp [h.left, h.right])]
  apply Signed.step
  · exact ⟨fun hne he => hne (DestType.toNat_injective _ _ he), fun hne he => hne (congrArg _ he)⟩
  · rfl
  intro _
  apply Signed.step
  · exact UInt32.toNat_inj.not.symm
  · exact unsignedCmp_eq h.area
  intro harea
  apply Signed.step
  · exact ⟨fun hne he => hne (PathType.toNat_injective _ _ he), fun hne he => hne (congrArg _ he)⟩
  · rfl
  intro htype
  have ht := PathType.toNat_injective _ _ htype
  have hcost := h.cost (UInt32.toNat_inj.mp harea) ht
  unfold Path.comparedCost at hcost ⊢
  rw [← ht] at hcost ⊢
  by_cases h2 : x.path.type = .external2
  · simp only [if_pos h2] at hcost ⊢
    exact signed_unsignedCmp hcost
  · simp only [if_neg h2] at hcost ⊢
    exact signed_unsignedCmp hcost

lemma ospf6RouteCmp_near (hsame : ospf6RouteIsSame x y) (h : Near x y) :
    ∃ v, ospf6RouteCmp x y = some v ∧ (v ≤ 0 ↔ x.rank ≤ y.rank) := by
  obtain ⟨v, hv, -, hgt⟩ := ospf6RouteCmp_signed hsame h
  exact ⟨v, hv, by rw [← not_lt, ← not_lt, hgt]⟩

/-- The comparison does not fail, is antisymmetric in sign and transitive. -/
structure CmpPreorder (S : Set Route) : Prop where
  total : ∀ x ∈ S, ∀ y ∈ S, ∃ v w, ospf6RouteCmp x y = some v ∧ ospf6RouteCmp y x = some w ∧
    (v < 0 ↔ 0 < w) ∧ (v = 0 ↔ w = 0)
  trans : ∀ x ∈ S, ∀ y ∈ S, ∀ z ∈ S, (∃ v ≤ 0, ospf6RouteCmp x y = some v) →
    (∃ v ≤ 0, ospf6RouteCmp y z = some v) → ∃ v ≤ 0, ospf6RouteCmp x z = some v

/-- Path type first, then the cost; for type-2 externals the type-2 cost and then the cost. -/
def Path.preference (p : Path) : Nat ×ₗ Nat ×ₗ Nat :=
  toLex (p.type.toNat, toLex (p.comparedCost.toNat, if p.type = .external2 then p.cost.toNat else 0))

/-- Type-2 externals of one type-2 cost have the same cost. -/
def SameTie (p q : Path) : Prop :=
  p.type = .external2 → q.type = .external2 → p.costE2 = q.costE2 → p.cost = q.cost

lemma preference_lt_iff {p q : Path} (htie : SameTie p q) : p.preference < q.preference ↔
    p.type.toNat < q.type.toNat ∨ p.type.toNat = q.type.toNat ∧
      p.comparedCost.toNat < q.comparedCost.toNat := by
  simp only [Path.preference, Prod.Lex.toLex_lt_toLex]
  have hlast : p.type.toNat = q.type.toNat → p.comparedCost.toNat = q.comparedCost.toNat →
      ¬(if p.type = .external2 then p.cost.toNat else 0) <
        if q.type = .external2 then q.cost.toNat else 0 := by
    intro ht hc
    have ht := PathType.toNat_injective _ _ ht
    unfold Path.comparedCost at hc
    rw [← ht] at hc ⊢
    split_ifs at hc ⊢ with h2
    · rw [htie h2 (ht ▸ h2) (UInt32.toNat_inj.mp hc)]
      exact lt_irrefl _
    · exact lt_irrefl _
  tauto

/-- Counted up modulo 2^32, `b` comes less than 2^31 after `a`. -/
def Ahead (a b : UInt32) : Prop := a ≠ b ∧ (b - a).toNat < 2 ^ 31

lemma unsignedCmp_cases (hne : a ≠ b) :
    (a - b).toNat + (b - a).toNat = 2 ^ 32 ∧
      unsignedCmp a b = if (a - b).toNat < 2 ^ 31 then ((a - b).toNat : Int) else (a - b).toNat - 2 ^ 32 := by
  have ha := a.toNat_lt
  have hb := b.toNat_lt
  have hne' : a.toNat ≠ b.toNat := UInt32.toNat_inj.not.mpr hne
  refine ⟨?_, ?_⟩
  · rw [UInt32.toNat_sub, UInt32.toNat_sub]
    omega
  · unfold unsignedCmp
    rw [BitVec.toInt_eq_toNat_cond, UInt32.toNat_toBitVec]
    split_ifs <;> omega

lemma unsignedCmp_pos_iff (hne : a ≠ b) : 0 < unsignedCmp a b ↔ Ahead b a := by
  obtain ⟨hsum, hcmp⟩ := unsignedCmp_cases hne
  have hb := (b - a).toNat_lt
  rw [hcmp, Ahead, and_iff_right hne.symm]
  split_ifs <;> omega

lemma unsignedCmp_neg_iff (hne : a ≠ b) : unsignedCmp a b < 0 ↔ ¬Ahead b a := by
  rw [← unsignedCmp_pos_iff hne, not_lt]
  obtain ⟨hsum, hcmp⟩ := unsignedCmp_cases hne
  have ha := (a - b).toNat_lt
  have hb := (b - a).toNat_lt
  rw [hcmp]
  split_ifs <;> omega

lemma Ahead.asymm (h : Ahead a b) : ¬Ahead b a := by
  have hsum := (unsignedCmp_cases h.1).1
  intro h'
  have h1 := h.2
  have h2 := h'.2
  omega

lemma Ahead.close (h : Ahead a b) (hlt : a.toNat < b.toNat) : Close a b := by
  have hd := h.2
  have hb := b.toNat_lt
  rw [UInt32.toNat_sub] at hd
  unfold Close
  omega

/-- What the comparison of two routes of one destination needs. In one area and path type the costs it
subtracts are close, and equal type-2 costs come with equal costs. Other areas are not 2^31 apart, and the area
of the better path comes first. -/
structure Comparable (x y : Route) : Prop where
  cost : x.path.areaId = y.path.areaId → x.path.type = y.path.type →
    Close x.path.comparedCost y.path.comparedCost ∧ SameTie x.path y.path
  area : x.path.areaId ≠ y.path.areaId →
    (Ahead x.path.areaId y.path.areaId ∨ Ahead y.path.areaId x.path.areaId) ∧
      (x.path.preference < y.path.preference → Ahead x.path.areaId y.path.areaId)

/-- Routes of one destination are pairwise comparable, and no three areas go round in a circle. -/
def Rankable (S : Set Route) : Prop :=
  ∀ x ∈ S, ∀ y ∈ S, x.type = y.type → Comparable x y ∧
    ∀ z ∈ S, y.type = z.type → ¬(Ahead x.path.areaId y.path.areaId ∧
      Ahead y.path.areaId z.path.areaId ∧ Ahead z.path.areaId x.path.areaId)

/-- The better path type first, then the smaller cost. -/
def RanksPaths (S : Set Route) : Prop :=
  ∀ x ∈ S, ∀ y ∈ S, x.type = y.type → x.path.preference < y.path.preference →
    ∃ v < 0, ospf6RouteCmp x y = some v

section cmp
variable (hsame : ospf6RouteIsSame x y) (hx : x.path.type ≠ .none) (hy : y.path.type ≠ .none)
include hsame hx hy

lemma ospf6RouteCmp_of_type (htype : x.type ≠ y.type) :
    ospf6RouteCmp x y = some ((x.type.toNat : Int) - y.type.toNat) := by
  simp [ospf6RouteCmp, hsame, hx, hy, htype]

lemma ospf6RouteCmp_of_area (htype : x.type = y.type) (harea : x.path.areaId ≠ y.path.areaId) :
    ospf6RouteCmp x y = some (unsignedCmp x.path.areaId y.path.areaId) := by
  simp [ospf6RouteCmp, hsame, hx, hy, htype, harea]

lemma ospf6RouteCmp_of_cost (htype : x.type = y.type) (harea : x.path.areaId = y.path.areaId)
    (hpath : x.path.type = y.path.type) :
    ospf6RouteCmp x y = if x.path.comparedCost ≠ y.path.comparedCost then
      some (unsignedCmp x.path.comparedCost y.path.comparedCost) else some 0 := by
  unfold ospf6RouteCmp Path.comparedCost
  rw [if_neg (by simp [hsame]), if_neg (by simp [hx, hy]), if_neg (not_not.mpr htype), if_neg (not_not.mpr harea),
    if_neg (not_not.mpr hpath), ← hpath]
  split_ifs <;> rfl

lemma ospf6RouteCmp_preference (htype : x.type = y.type) (harea : x.path.areaId = y.path.areaId)
    (hxy : Comparable x y) (hyx : Comparable y x) :
    Signed (ospf6RouteCmp x y) x.path.preference y.path.preference := by
  have hnear : Near x y :=
    ⟨hx, hy, by rw [harea]; unfold Close; omega, fun _ ht => (hxy.cost harea ht).1⟩
  obtain ⟨v, hv, hlt, hgt⟩ := ospf6RouteCmp_signed hsame hnear
  refine ⟨v, hv, hlt.trans ?_, hgt.trans ?_⟩
  · rw [preference_lt_iff fun h h' => (hxy.cost harea (h.trans h'.symm)).2 h h']
    simp [Route.rank, Prod.Lex.toLex_lt_toLex, htype, harea]
  · rw [preference_lt_iff fun h h' => (hyx.cost harea.symm (h.trans h'.symm)).2 h h']
    simp [Route.rank, Prod.Lex.toLex_lt_toLex, htype, harea]

end cmp

section exact
variable {S : Set Route} (hsame : ∀ x ∈ S, ∀ y ∈ S, ospf6RouteIsSame x y)
  (hpath : ∀ x ∈ S, x.path.type ≠ .none)
include hsame hpath

/-- The sign of a comparison of comparable routes: destination type, area, preference. -/
lemma Rankable.sign (h : Rankable S) (hx : x ∈ S) (hy : y ∈ S) :
    ∃ v, ospf6RouteCmp x y = some v ∧
      (v < 0 ↔ x.type.toNat < y.type.toNat ∨ x.type = y.type ∧
        (Ahead x.path.areaId y.path.areaId ∨
          x.path.areaId = y.path.areaId ∧ x.path.preference < y.path.preference)) ∧
      (0 < v ↔ y.type.toNat < x.type.toNat ∨ y.type = x.type ∧
        (Ahead y.path.areaId x.path.areaId ∨
          y.path.areaId = x.path.areaId ∧ y.path.preference < x.path.preference)) := by
  by_cases htype : x.type = y.type
  · by_cases harea : x.path.areaId = y.path.areaId
    · obtain ⟨v, hv, hlt, hgt⟩ := ospf6RouteCmp_preference (hsame x hx y hy) (hpath x hx) (hpath y hy) htype
        harea (h x hx y hy htype).1 (h y hy x hx htype.symm).1
      refine ⟨v, hv, ?_, ?_⟩
      · simp [hlt, htype, harea, Ahead]
      · simp [hgt, htype, harea, Ahead]
    · refine ⟨_, ospf6RouteCmp_of_area (hsame x hx y hy) (hpath x hx) (hpath y hy) htype harea, ?_, ?_⟩
      · rw [unsignedCmp_neg_iff harea]
        have hcases := ((h x hx y hy htype).1.area harea).1
        simp only [htype, lt_irrefl, harea, false_and, or_false, false_or, true_and]
        exact ⟨hcases.resolve_right, Ahead.asymm⟩
      · rw [unsignedCmp_pos_iff harea]
        simp [htype, Ne.symm harea]
  · refine ⟨_, ospf6RouteCmp_of_type (hsame x hx y hy) (hpath x hx) (hpath y hy) htype, ?_, ?_⟩
    · simp only [htype, false_and, or_false]
      omega
    · simp only [Ne.symm htype, false_and, or_false]
      omega

lemma Rankable.preorder (h : Rankable S) : CmpPreorder S := by
  constructor
  · intro x hx y hy
    obtain ⟨v, hv, hlt, hgt⟩ := h.sign hsame hpath hx hy
    obtain ⟨w, hw, hlt', hgt'⟩ := h.sign hsame hpath hy hx
    have hneg := hlt.trans hgt'.symm
    have hpos := hgt.trans hlt'.symm
    exact ⟨v, w, hv, hw, hneg, by omega⟩
  · rintro x hx y hy z hz ⟨v, hv0, hv⟩ ⟨w, hw0, hw⟩
    obtain ⟨v', hv', -, hxy⟩ := h.sign hsame hpath hx hy
    obtain ⟨w', hw', -, hyz⟩ := h.sign hsame hpath hy hz
    obtain ⟨u, hu, -, hxz⟩ := h.sign hsame hpath hx hz
    obtain rfl : v = v' := Option.some.inj (hv.symm.trans hv')
    obtain rfl : w = w' := Option.some.inj (hw.symm.trans hw')
    refine ⟨u, ?_, hu⟩
    rw [← not_lt, hxz]
    rw [← not_lt, hxy] at hv0
    rw [← not_lt, hyz] at hw0
    rintro (hlt | ⟨htype, hworse⟩)
    · omega
    have hle : x.type.toNat ≤ y.type.toNat := not_lt.mp fun hlt => hv0 (.inl hlt)
    have hle' : y.type.toNat ≤ x.type.toNat := htype ▸ not_lt.mp fun hlt => hw0 (.inl hlt)
    have hxy : x.type = y.type := DestType.toNat_injective _ _ (le_antisymm hle hle')
    have hyz : y.type = z.type := hxy.symm.trans htype.symm
    have hcircle := (h x hx y hy hxy).2 z hz hyz
    have hareas := fun hne => ((h x hx y hy hxy).1.area hne).1
    have hareas' := fun hne => ((h y hy z hz hyz).1.area hne).1
    simp only [hxy, hyz, lt_irrefl, true_and, false_or, not_or, not_and, not_lt] at hv0 hw0
    rcases hworse with hahead | ⟨harea, hlt⟩
    · grind
    · rw [harea] at hareas' hw0
      by_cases hxy' : x.path.areaId = y.path.areaId
      · exact absurd ((hv0.2 hxy'.symm).trans (hw0.2 hxy')) (not_le.mpr hlt)
      · grind

lemma Rankable.ranksPaths (h : Rankable S) : RanksPaths S := by
  intro x hx y hy htype hlt
  obtain ⟨v, hv, hneg, -⟩ := h.sign hsame hpath hx hy
  refine ⟨v, hneg.mpr (.inr ⟨htype, ?_⟩), hv⟩
  by_cases harea : x.path.areaId = y.path.areaId
  · exact .inr ⟨harea, hlt⟩
  · exact .inl (((h x hx y hy htype).1.area harea).2 hlt)

omit hsame hpath in
lemma preference_lt_of_cost {p q : Path} (htype : p.type = q.type)
    (hlt : p.comparedCost.toNat < q.comparedCost.toNat) : p.preference < q.preference := by
  simp only [Path.preference, Prod.Lex.toLex_lt_toLex, htype, lt_irrefl, true_and, false_or]
  exact .inl hlt

lemma CmpPreorder.close (hpre : CmpPreorder S) (hranks : RanksPaths S) (hx : x ∈ S) (hy : y ∈ S)
    (htype : x.type = y.type) (harea : x.path.areaId = y.path.areaId) (hp : x.path.type = y.path.type)
    (hlt : x.path.comparedCost.toNat < y.path.comparedCost.toNat) :
    Close x.path.comparedCost y.path.comparedCost := by
  have hne : x.path.comparedCost ≠ y.path.comparedCost := UInt32.toNat_inj.not.mp hlt.ne
  obtain ⟨v, w, hv, hw, hneg, -⟩ := hpre.total x hx y hy
  obtain ⟨v', hv0, hv'⟩ := hranks x hx y hy htype (preference_lt_of_cost hp hlt)
  obtain rfl : v = v' := Option.some.inj (hv.symm.trans hv')
  rw [ospf6RouteCmp_of_cost (hsame y hy x hx) (hpath y hy) (hpath x hx) htype.symm harea.symm hp.symm,
    if_pos hne.symm, Option.some.injEq] at hw
  have hpos := hneg.mp hv0
  rw [← hw, unsignedCmp_pos_iff hne.symm] at hpos
  exact hpos.close hlt

lemma RanksPaths.not_lt_of_tie (hranks : RanksPaths S) (hx : x ∈ S) (hy : y ∈ S) (htype : x.type = y.type)
    (harea : x.path.areaId = y.path.areaId) (hp : x.path.type = y.path.type)
    (hcost : x.path.comparedCost = y.path.comparedCost) (h2 : x.path.type = .external2) :
    ¬x.path.cost.toNat < y.path.cost.toNat := by
  intro hlt
  have hpref : x.path.preference < y.path.preference := by
    simp [Path.preference, Prod.Lex.toLex_lt_toLex, ← hp, hcost, h2, hlt]
  obtain ⟨v, hv0, hv⟩ := hranks x hx y hy htype hpref
  rw [ospf6RouteCmp_of_cost (hsame x hx y hy) (hpath x hx) (hpath y hy) htype harea hp, if_neg (by simp [hcost]),
    Option.some.injEq] at hv
  omega

lemma CmpPreorder.comparable (hpre : CmpPreorder S) (hranks : RanksPaths S) (hx : x ∈ S) (hy : y ∈ S)
    (htype : x.type = y.type) : Comparable x y := by
  constructor
  · intro harea hp
    constructor
    · rcases lt_trichotomy x.path.comparedCost.toNat y.path.comparedCost.toNat with hlt | heq | hgt
      · exact hpre.close hsame hpath hranks hx hy htype harea hp hlt
      · rw [UInt32.toNat_inj.mp heq]
        unfold Close
        omega
      · exact (hpre.close hsame hpath hranks hy hx htype.symm harea.symm hp.symm hgt).symm
    · intro h2 h2' hE2
      have hcost : x.path.comparedCost = y.path.comparedCost := by simp [Path.comparedCost, h2, h2', hE2]
      rcases lt_trichotomy x.path.cost.toNat y.path.cost.toNat with hlt | heq | hgt
      · exact absurd hlt (hranks.not_lt_of_tie hsame hpath hx hy htype harea hp hcost h2)
      · exact UInt32.toNat_inj.mp heq
      · exact absurd hgt
          (hranks.not_lt_of_tie hsame hpath hy hx htype.symm harea.symm hp.symm hcost.symm h2')
  · intro harea
    obtain ⟨v, w, hv, hw, hneg, -⟩ := hpre.total x hx y hy
    rw [ospf6RouteCmp_of_area (hsame x hx y hy) (hpath x hx) (hpath y hy) htype harea, Option.some.injEq] at hv
    rw [ospf6RouteCmp_of_area (hsame y hy x hx) (hpath y hy) (hpath x hx) htype.symm (Ne.symm harea),
      Option.some.injEq] at hw
    rw [← hv, ← hw, unsignedCmp_neg_iff harea, unsignedCmp_pos_iff (Ne.symm harea)] at hneg
    refine ⟨or_iff_not_imp_right.mpr hneg.mp, fun hlt => ?_⟩
    obtain ⟨v', hv0, hv'⟩ := hranks x hx y hy htype hlt
    rw [ospf6RouteCmp_of_area (hsame x hx y hy) (hpath x hx) (hpath y hy) htype harea, Option.some.injEq] at hv'
    exact hneg.mp ((unsignedCmp_neg_iff harea).mp (hv' ▸ hv0))

/-- The comparison is a total preorder on the routes of a prefix and ranks them by path type and cost exactly if
the routes of each destination are rankable. -/
theorem ospf6RouteCmp_preorder_iff : CmpPreorder S ∧ RanksPaths S ↔ Rankable S := by
  constructor
  · rintro ⟨hpre, hranks⟩ x hx y hy htype
    refine ⟨hpre.comparable hsame hpath hranks hx hy htype, ?_⟩
    rintro z hz htype' ⟨hxy, hyz, hzx⟩
    have hle : ∀ {x y : Route}, x ∈ S → y ∈ S → x.type = y.type → Ahead x.path.areaId y.path.areaId →
        ∃ v < 0, ospf6RouteCmp x y = some v := fun hx hy htype h =>
      ⟨_, (unsignedCmp_neg_iff h.1).mpr h.asymm,
        ospf6RouteCmp_of_area (hsame _ hx _ hy) (hpath _ hx) (hpath _ hy) htype h.1⟩
    obtain ⟨v, hv0, hv⟩ := hle hx hy htype hxy
    obtain ⟨w, hw0, hw⟩ := hle hy hz htype' hyz
    obtain ⟨u, hu0, hu⟩ := hle hz hx (htype.trans htype').symm hzx
    obtain ⟨u', hu0', hu'⟩ := hpre.trans x hx y hy z hz ⟨v, hv0.le, hv⟩ ⟨w, hw0.le, hw⟩
    obtain ⟨a, b, ha, hb, hneg, -⟩ := hpre.total z hz x hx
    grind
  · exact fun h => ⟨h.preorder hsame hpath, h.ranksPaths hsame hpath⟩

end exact
def pathRoute (areaId : UInt32) (type : PathType) (cost costE2 : UInt32) : Route :=
  { ospf6RouteCreate with type := .network, path := ⟨⟨0, 0, 0⟩, 0, [], 0, areaId, type, 0, 0, cost, costE2⟩ }

theorem ospf6RouteCmp_preorder_intra_external :
    let S : Set Route := {pathRoute 0 .intra 30 0, pathRoute 0 .external2 5 20}
    CmpPreorder S ∧ RanksPaths S := by
  refine (ospf6RouteCmp_preorder_iff ?_ ?_).mpr ?_
  · rintro x (rfl | rfl) y (rfl | rfl) <;> rfl
  · rintro x (rfl | rfl) <;> decide
  · rintro x (rfl | rfl) y (rfl | rfl) - <;>
      exact ⟨⟨fun _ _ => ⟨by unfold Close; decide, by unfold SameTie; decide⟩, fun h => absurd rfl h⟩,
        fun _ _ _ h => h.1.1 rfl⟩

/-- Three costs in a circle, and a type-2 external of area 0 that is preferred to an intra-area path of area 1.
-/
theorem ospf6RouteCmp_not_preorder :
    ¬CmpPreorder {pathRoute 0 .intra 0 0, pathRoute 0 .intra 0x60000000 0, pathRoute 0 .intra 0xc0000000 0} ∧
      ¬RanksPaths {pathRoute 0 .external2 10 20, pathRoute 1 .intra 10 0} := by
  constructor
  · intro h
    obtain ⟨v, hv0, hv⟩ := h.trans (pathRoute 0 .intra 0 0) (by simp) (pathRoute 0 .intra 0x60000000 0) (by simp)
      (pathRoute 0 .intra 0xc0000000 0) (by simp) ⟨-0x60000000, by decide, by decide⟩
      ⟨-0x60000000, by decide, by decide⟩
    rw [show ospf6RouteCmp (pathRoute 0 .intra 0 0) (pathRoute 0 .intra 0xc0000000 0) = some 0x40000000 by decide,
      Option.some.injEq] at hv
    omega
  · intro h
    obtain ⟨v, hv0, hv⟩ := h (pathRoute 1 .intra 10 0) (by simp) (pathRoute 0 .external2 10 20) (by simp) rfl
      (by decide)
    rw [show ospf6RouteCmp (pathRoute 1 .intra 10 0) (pathRoute 0 .external2 10 20) = some 1 by decide,
      Option.some.injEq] at hv
    omega

end OspfMdr.Ospf6
