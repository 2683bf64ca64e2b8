import Mathlib.Data.List.TakeWhile
import OspfMdr.Lib.PrefixTree
import OspfMdr.Proofs.RouteOrigin

namespace OspfMdr.Ospf6
open Lib List Option

variable {t : RouteTable} {l : List Nat} {p : List Bool} {range : Route} {r : Nat} {u v : List Bool}

lemma le_of_isPrefix (h : u <+: v) : u ≤ v := by
  obtain ⟨s, rfl⟩ := h
  cases s with
  | nil => rw [append_nil]
  | cons b s => exact le_of_lt (lt_of_isPrefix ⟨s, append_assoc u [b] s⟩)

/-- The extensions of a prefix are an interval of the order of the trie. -/
lemma isPrefix_of_between (hpu : p ≤ u) (huv : u ≤ v) (hv : p <+: v) : p <+: u := by
  by_contra hu
  have hup : ¬u <+: p := fun hup => hu (le_antisymm hpu (le_of_isPrefix hup) ▸ prefix_rfl)
  obtain ⟨b, hbp, hbu⟩ := commonPrefix_split hu hup
  cases b with
  | false => exact absurd (lt_of_bits (hbp.trans hv) hbu) (not_lt.mpr huv)
  | true => exact absurd (lt_of_bits hbu hbp) (not_lt.mpr hpu)

lemma matchHead_eq {l1 l2 : List Nat} (h : TableInv t (l1 ++ l2)) (h1 : ∀ r ∈ l1, t.key r < p)
    (h2 : ∀ r ∈ l2, p ≤ t.key r) :
    ospf6RouteMatchHead t p = l2.head?.filter fun r => p.isPrefixOf (t.key r) := by
  have hfind : t.nodes.find? (fun n => (t.info n).isSome ∧ p ≤ n) = l2.head?.map t.key := by
    refine find?_eq_head? h.nodes ((pairwise_append.mp h.ordered).2.1.imp not_lt.mpr) lt_irrefl (fun n _ => ?_)
      fun r hr => h.mem_nodes r (mem_append_right _ hr)
    rw [decide_eq_true_iff, h.isSome_info]
    constructor
    · rintro ⟨⟨r, hr, rfl⟩, hle⟩
      exact ⟨r, (mem_append.mp hr).resolve_left fun hr => not_lt.mpr hle (h1 r hr), rfl⟩
    · rintro ⟨r, hr, rfl⟩
      exact ⟨⟨r, mem_append_right _ hr, rfl⟩, h2 r hr⟩
  unfold ospf6RouteMatchHead
  rw [hfind]
  cases l2 with
  | nil => rfl
  | cons a l2 =>
    have hinfo := h.info_head fun r hr => lt_of_lt_of_le (h1 r hr) (h2 a mem_cons_self)
    simp [hinfo, Option.filter]

lemma mem_takeWhile_isPrefix (hordered : l.Pairwise fun a b => t.key a ≤ t.key b)
    (hle : ∀ r ∈ l, p ≤ t.key r) :
    r ∈ l.takeWhile (fun r => p.isPrefixOf (t.key r)) ↔ r ∈ l ∧ p <+: t.key r := by
  induction l with
  | nil => simp
  | cons a m ih =>
    obtain ⟨ha, hm⟩ := pairwise_cons.mp hordered
    rw [takeWhile_cons]
    split_ifs with hp
    · rw [mem_cons, mem_cons, ih hm fun r hr => hle r (mem_cons_of_mem a hr)]
      rw [List.isPrefixOf_iff_prefix] at hp
      constructor
      · rintro (rfl | hr)
        · exact ⟨.inl rfl, hp⟩
        · exact ⟨.inr hr.1, hr.2⟩
      · exact fun hr => hr.1.imp_right fun hm => ⟨hm, hr.2⟩
    rw [List.isPrefixOf_iff_prefix] at hp
    refine iff_of_false not_mem_nil fun ⟨hr, hpr⟩ => ?_
    rcases mem_cons.mp hr with rfl | hr
    · exact hp hpr
    · exact hp (isPrefix_of_between (hle a mem_cons_self) (ha r hr) hpr)

lemma mem_routeMatches (h : TableInv t l) : r ∈ ospf6RouteMatches t p ↔ r ∈ l ∧ p <+: t.key r := by
  obtain ⟨l1, c, l2, rfl, h1, hc, h2⟩ := exists_groupSplit t.key p h.ordered
  rw [append_assoc] at h ⊢
  have hle : ∀ r ∈ c ++ l2, p ≤ t.key r := by
    intro r hr
    rcases mem_append.mp hr with hr | hr
    · exact le_of_eq (hc r hr).symm
    · exact le_of_lt (h2 r hr)
  have hwalk : ospf6RouteMatches t p = (c ++ l2).takeWhile fun r => p.isPrefixOf (t.key r) := by
    have hfollow := (segment_append.mp h.linked).2.follow_eq (fun r => p.isPrefixOf (t.key r)) (t.count + 1)
      (by simp only [h.count, length_append]; omega)
    rw [ospf6RouteMatches, matchHead_eq h h1 hle, ← hfollow]
    cases c ++ l2 with
    | nil => rfl
    | cons a m => by_cases ha : p.isPrefixOf (t.key a) = true <;> simp [Option.filter, follow, ha]
  rw [hwalk, mem_takeWhile_isPrefix (pairwise_append.mp h.ordered).2.1 hle]
  have hbefore : r ∈ l1 → ¬p <+: t.key r := fun hr hp => absurd (h1 r hr) (not_lt.mpr (le_of_isPrefix hp))
  simp only [mem_append]
  tauto

namespace AreaRange

variable (a : AreaRange) (t : RouteTable) (r : Nat)

/-- The route is in the table, at a prefix inside the range. -/
def Inside : Prop := (t.routes r).table ∧ a.range.routePrefix.bits <+: t.key r

/-- The route is one that the loop over the range counts. -/
def Counted : Prop := a.Inside t r ∧ rangeCounts t a.range r

/-- The range should cover the route: an intra-area route of its area that is not marked as removed. -/
def Covers : Prop :=
  a.Inside t r ∧ (t.routes r).path.areaId = a.areaId ∧ (t.routes r).path.type = .intra ∧
    (t.routes r).flag.wasRemoved = false

/-- The range is active exactly if it covers a route, with the largest cost of those it covers. -/
structure Exact : Prop where
  active : a.range.flag.activeSummary ↔ ∃ r, a.Covers t r
  le : ∀ r, a.Covers t r → (t.routes r).path.cost ≤ a.range.path.cost
  attained : (∃ r, a.Covers t r) → ∃ r, a.Covers t r ∧ (t.routes r).path.cost = a.range.path.cost

end AreaRange

lemma maxLoop_spec (costs : List UInt32) (c : UInt32) :
    costs.foldl (fun a b => if a < b then b else a) c ∈ c :: costs ∧
      ∀ b ∈ c :: costs, b ≤ costs.foldl (fun a b => if a < b then b else a) c := by
  induction costs generalizing c with
  | nil => simp
  | cons a costs ih =>
    obtain ⟨hmem, hmax⟩ := ih (if c < a then a else c)
    rw [foldl_cons]
    split_ifs at hmem hmax ⊢ with hlt
    · refine ⟨mem_cons_of_mem c hmem, forall_mem_cons.mpr ⟨?_, hmax⟩⟩
      exact UInt32.le_trans (UInt32.le_of_lt hlt) (hmax a mem_cons_self)
    · obtain ⟨hc, hcosts⟩ := forall_mem_cons.mp hmax
      refine ⟨by grind, forall_mem_cons.mpr ⟨hc, forall_mem_cons.mpr ⟨?_, hcosts⟩⟩⟩
      exact UInt32.le_trans (UInt32.not_lt.mp hlt) hc

lemma rangeCost_spec (h : TableInv t l) (a : AreaRange) :
    (∀ r, a.Counted t r → (t.routes r).path.cost ≤ rangeCost t a.range) ∧
      (rangeCost t a.range ≠ 0 → ∃ r, a.Counted t r ∧ (t.routes r).path.cost = rangeCost t a.range) := by
  have hcosts (c : UInt32) : c ∈ ((ospf6RouteMatches t a.range.routePrefix.bits).filter
      (rangeCounts t a.range)).map (fun ro => (t.routes ro).path.cost) ↔
      ∃ r, a.Counted t r ∧ (t.routes r).path.cost = c := by
    simp only [List.mem_map, mem_filter, mem_routeMatches h, h.mem_iff]
    rfl
  obtain ⟨hmem, hmax⟩ := maxLoop_spec (((ospf6RouteMatches t a.range.routePrefix.bits).filter
      (rangeCounts t a.range)).map fun ro => (t.routes ro).path.cost) 0
  refine ⟨fun r hr => hmax _ (mem_cons_of_mem 0 ((hcosts _).mpr ⟨r, hr, rfl⟩)), fun hne => ?_⟩
  exact (hcosts _).mp ((mem_cons.mp hmem).resolve_left hne)

lemma rangeUpdate_fields (t : RouteTable) (a : AreaRange) :
    (ospf6AbrRangeUpdate t a).range.path.cost = rangeCost t a.range ∧
      (∀ r, (ospf6AbrRangeUpdate t a).Covers t r ↔ a.Covers t r) := by
  dsimp only [ospf6AbrRangeUpdate]
  split_ifs with hne
  · exact ⟨rfl, fun _ => Iff.rfl⟩
  · exact ⟨not_not.mp hne, fun _ => Iff.rfl⟩

/-- A range is exact if and only if the routes that the code counts have the costs of the live ones, except for
zeros. -/
theorem abrRangeUpdate_exact_iff {ops : List RouteOp} (hrun : routeRun ospf6RouteTableCreate ops = some t)
    (a : AreaRange) : (ospf6AbrRangeUpdate t a).Exact t ↔
      (∀ r, a.Counted t r → (t.routes r).path.cost ≠ 0 →
        ∃ s, a.Covers t s ∧ (t.routes r).path.cost ≤ (t.routes s).path.cost) ∧
      ∀ s, a.Covers t s → ∃ r, a.Counted t r ∧ (t.routes r).path.cost ≠ 0 ∧
        (t.routes s).path.cost ≤ (t.routes r).path.cost := by
  obtain ⟨l, h, -⟩ := routeRun_inv tableInv_create hrun
  obtain ⟨hmax, hsome⟩ := rangeCost_spec h a
  obtain ⟨hcost, hcovers⟩ := rangeUpdate_fields t a
  have hactive : (ospf6AbrRangeUpdate t a).range.flag.activeSummary ↔ rangeCost t a.range ≠ 0 := by
    rw [(ospf6AbrRangeUpdate t a).active, hcost, decide_eq_true_eq]
  constructor
  · intro hexact
    have hle := hexact.le
    have hatt := hexact.attained
    have hact := hexact.active
    simp only [hcovers, hcost] at hle hatt hact
    rw [hactive] at hact
    constructor
    · intro r hr hne
      have hpos : rangeCost t a.range ≠ 0 := fun hzero => hne (UInt32.le_zero_iff.mp (hzero ▸ hmax r hr))
      obtain ⟨s, hs, heq⟩ := hatt (hact.mp hpos)
      exact ⟨s, hs, heq ▸ hmax r hr⟩
    · intro s hs
      have hpos := hact.mpr ⟨s, hs⟩
      obtain ⟨r, hr, heq⟩ := hsome hpos
      exact ⟨r, hr, heq ▸ hpos, heq ▸ hle s hs⟩
  · rintro ⟨hcounted, hcovered⟩
    have hle : ∀ s, a.Covers t s → (t.routes s).path.cost ≤ rangeCost t a.range := by
      intro s hs
      obtain ⟨r, hr, -, hsr⟩ := hcovered s hs
      exact UInt32.le_trans hsr (hmax r hr)
    have hatt : rangeCost t a.range ≠ 0 → ∃ s, a.Covers t s ∧ (t.routes s).path.cost = rangeCost t a.range := by
      intro hpos
      obtain ⟨r, hr, heq⟩ := hsome hpos
      obtain ⟨s, hs, hrs⟩ := hcounted r hr (heq ▸ hpos)
      exact ⟨s, hs, UInt32.le_antisymm (hle s hs) (heq ▸ hrs)⟩
    have hpos : (∃ s, a.Covers t s) → rangeCost t a.range ≠ 0 := by
      rintro ⟨s, hs⟩ hzero
      obtain ⟨r, hr, hne, -⟩ := hcovered s hs
      exact hne (UInt32.le_zero_iff.mp (hzero ▸ hmax r hr))
    refine ⟨?_, ?_, ?_⟩ <;> simp only [hcovers, hcost]
    · rw [hactive]
      exact ⟨fun hne => (hatt hne).imp fun _ hs => hs.1, hpos⟩
    · exact hle
    · exact fun hs => hatt (hpos hs)

theorem abrRangeUpdate_exact_betterSecond :
    ∃ t, routeRun ospf6RouteTableCreate betterSecond = some t ∧ t.chain [true] = [1, 0] ∧
      ∀ a : AreaRange, (ospf6AbrRangeUpdate t a).Exact t ↔
        (∀ r, a.Counted t r → (t.routes r).path.cost ≠ 0 →
          ∃ s, a.Covers t s ∧ (t.routes r).path.cost ≤ (t.routes s).path.cost) ∧
        ∀ s, a.Covers t s → ∃ r, a.Counted t r ∧ (t.routes r).path.cost ≠ 0 ∧
          (t.routes s).path.cost ≤ (t.routes r).path.cost := by
  have hchain : (routeRun ospf6RouteTableCreate betterSecond).map (fun t => t.chain [true]) =
    some [1, 0] := by decide
  obtain ⟨t, ht, hc⟩ := map_eq_some_iff.mp hchain
  exact ⟨t, ht, hc, abrRangeUpdate_exact_iff ht⟩

def areaOneRoute : Route :=
  { networkRoute 1 10 with path := { (networkRoute 1 10).path with areaId := 1 } }

/-- A range of area 1 stays inactive with an intra-area route of area 1 inside it. -/
theorem abrRangeUpdate_not_exact :
    ∃ t, routeRun ospf6RouteTableCreate [.add 0 0 areaOneRoute] = some t ∧
      (areaRange 1 ⟨[], []⟩).Covers t 0 ∧ ¬(ospf6AbrRangeUpdate t (areaRange 1 ⟨[], []⟩)).Exact t := by
  have hrun : (routeRun ospf6RouteTableCreate [.add 0 0 areaOneRoute]).map (fun t =>
      ((t.routes 0).table, (t.routes 0).path.areaId, (t.routes 0).path.type, (t.routes 0).flag.wasRemoved,
        (ospf6AbrRangeUpdate t (areaRange 1 ⟨[], []⟩)).range.flag.activeSummary)) =
      some (true, 1, .intra, false, false) := by decide
  obtain ⟨t, ht, heq⟩ := map_eq_some_iff.mp hrun
  simp only [Prod.mk.injEq] at heq
  obtain ⟨htable, harea, htype, hlive, hflag⟩ := heq
  have hcovers : (areaRange 1 ⟨[], []⟩).Covers t 0 := ⟨⟨htable, nil_prefix⟩, harea, htype, hlive⟩
  refine ⟨t, ht, hcovers, fun hexact => ?_⟩
  rw [hexact.active.mpr ⟨0, ((rangeUpdate_fields t _).2 0).mpr hcovers⟩] at hflag
  cases hflag

end OspfMdr.Ospf6
