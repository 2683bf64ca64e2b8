import OspfMdr.Proofs.AdjacencySymmetry

/-!
# Two-hop paths in min-cost LSAs

Every router updates its min-cost LSA on one snapshot of the network. A router leaves out a neighbor if
another relay is better, by an order that all relays see alike, or adjacent to the neighbor; with adjacency
reduction the neighbor is then a backbone neighbor of the other relay. Without it the other relay may leave
out the neighbor as well.
-/

namespace OspfMdr.Ospf6
open List

section matrices

variable {n : Nat} {nbr : Fin n → AdjNeighbor} {cost : CostMatrix n}

variable {s m : AdjSan n} {j k : Fin n} {oi : AdjInterface}

/-- One turn sets the bits of both directions if the pair reports an adjacency. -/
lemma adjSanStep_adj (hsymm : ∀ a b, s.adj a b = s.adj b a) (p : Fin n × Fin n) (a b : Fin n) :
    (adjSanStep nbr cost s p).adj a b ↔ s.adj a b ∨
      ((a, b) = p ∨ (b, a) = p) ∧ cost p.1 p.2 ≠ 0 ∧ reportsAdjacency nbr p.1 p.2 := by
  obtain ⟨j, k⟩ := p
  by_cases hcost : cost j k = 0
  · simp [adjSanStep, hcost]
  by_cases hset : s.adj j k
  · simp only [adjSanStep, hcost, if_false, hset, if_true]
    refine (or_iff_left_of_imp ?_).symm
    rintro ⟨hab | hab, -⟩
    · obtain ⟨rfl, rfl⟩ := Prod.mk.inj hab
      exact hset
    · obtain ⟨rfl, rfl⟩ := Prod.mk.inj hab
      rwa [hsymm]
  by_cases hreports : reportsAdjacency nbr j k
  · have hbits : (adjSanStep nbr cost s (j, k)).adj = (s.adj.set j k).set k j := by
      simp [adjSanStep, hcost, hset, hreports]
    rw [hbits]
    simp only [hreports, BitMatrix.set, Prod.mk.injEq]
    split_ifs <;> grind
  · simp [adjSanStep, hcost, hset, hreports]

lemma adjSanStep_san (p : Fin n × Fin n) (a b : Fin n) : (adjSanStep nbr cost s p).san a b ↔
    s.san a b ∨ (a, b) = p ∧ cost p.1 p.2 ≠ 0 ∧ (nbr p.2).routerId ∈ (nbr p.1).sanl := by
  obtain ⟨j, k⟩ := p
  have hstep : (adjSanStep nbr cost s (j, k)).san =
      if cost j k = 0 then s.san
      else if (nbr k).routerId ∈ (nbr j).sanl then s.san.set j k else s.san := by
    unfold adjSanStep
    dsimp only
    split_ifs <;> rfl
  rw [hstep]
  by_cases hcost : cost j k = 0
  · simp [hcost]
  by_cases hsan : (nbr k).routerId ∈ (nbr j).sanl
  · simp only [hcost, hsan, if_true, if_false, BitMatrix.set, Prod.mk.injEq]
    split_ifs <;> simp_all
  · simp [hcost, hsan]

lemma adjSan_foldl (l : List (Fin n × Fin n)) (hsymm : ∀ a b, s.adj a b = s.adj b a) (a b : Fin n) :
    ((l.foldl (adjSanStep nbr cost) s).adj a b ↔ s.adj a b ∨
      ∃ p ∈ l, ((a, b) = p ∨ (b, a) = p) ∧ cost p.1 p.2 ≠ 0 ∧ reportsAdjacency nbr p.1 p.2) ∧
    ((l.foldl (adjSanStep nbr cost) s).san a b ↔ s.san a b ∨
      ∃ p ∈ l, (a, b) = p ∧ cost p.1 p.2 ≠ 0 ∧ (nbr p.2).routerId ∈ (nbr p.1).sanl) := by
  induction l generalizing s with
  | nil => simp
  | cons p l ih =>
    have hnext (a b : Fin n) : (adjSanStep nbr cost s p).adj a b = (adjSanStep nbr cost s p).adj b a := by
      rw [Bool.eq_iff_iff, adjSanStep_adj hsymm, adjSanStep_adj hsymm, hsymm, or_comm]
      tauto
    simp only [foldl_cons, ih hnext, adjSanStep_adj hsymm, adjSanStep_san, exists_mem_cons_iff, or_assoc]
    exact ⟨trivial, trivial⟩

theorem ospf6MdrCreateAdjSanMatrices_adj (hcost : cost j k = cost k j) :
    (ospf6MdrCreateAdjSanMatrices nbr cost).adj j k ↔
      cost j k ≠ 0 ∧ (reportsAdjacency nbr j k ∨ reportsAdjacency nbr k j) := by
  unfold ospf6MdrCreateAdjSanMatrices
  rw [(adjSan_foldl (matrixPairs n) (fun _ _ => rfl) j k).1]
  have hmem (p : Fin n × Fin n) : p ∈ matrixPairs n := by simp [matrixPairs]
  simp only [Bool.false_eq_true, false_or, hmem, true_and]
  constructor
  · rintro ⟨_, rfl | rfl, hne, hreports⟩
    · exact ⟨hne, .inl hreports⟩
    · exact ⟨hcost ▸ hne, .inr hreports⟩
  · rintro ⟨hne, hreports | hreports⟩
    · exact ⟨_, .inl rfl, hne, hreports⟩
    · exact ⟨_, .inr rfl, hcost ▸ hne, hreports⟩

theorem ospf6MdrCreateAdjSanMatrices_san : (ospf6MdrCreateAdjSanMatrices nbr cost).san j k ↔
    cost j k ≠ 0 ∧ (nbr k).routerId ∈ (nbr j).sanl := by
  unfold ospf6MdrCreateAdjSanMatrices
  rw [(adjSan_foldl (matrixPairs n) (fun _ _ => rfl) j k).2]
  simp [matrixPairs]

lemma newSelAdv_iff : newSelAdv nbr oi cost m j ↔
    (nbr j).state.IsTwoway ∧ ¬ ospf6MdrBackbone oi (nbr j) ∧
      ∃ k, k ≠ j ∧ (nbr k).state.IsTwoway ∧ cost j k ≠ 1 ∧ ∀ x, ¬ betterRelay nbr oi cost m j k x := by
  unfold newSelAdv
  split_ifs with h
  · simp only [Bool.or_eq_true, decide_eq_true_eq] at h
    simp only [false_iff]
    rintro ⟨hj, hback, -⟩
    exact h.elim (not_lt.mpr hj) hback
  · simp only [Bool.or_eq_true, decide_eq_true_eq, not_or, not_lt] at h
    simp [h.1, h.2, NeighborState.IsTwoway, and_assoc]

lemma betterRelay_iff {x : Fin n} :
    betterRelay nbr oi cost m j k x ↔
      x ≠ k ∧ x ≠ j ∧ (nbr x).state.IsTwoway ∧ cost x k = 1 ∧ cost x j = 1 ∧
      (m.adj x j ∨
        ospf6SidcdsLexicographic (m.san j x).toNat (selectedBy nbr oi j).toNat (m.san x j).toNat
          (nbr j).selAdv.toNat (nbr x).routerId oi.routerId) := by
  unfold betterRelay
  simp only [Bool.and_eq_true, Bool.or_eq_true, Bool.not_eq_true', decide_eq_false_iff_not, not_lt,
    beq_iff_eq, and_assoc, ne_eq]

end matrices

/-- Every router knows the state of its neighbors: `entry v w` is the structure of router `v` for `w`. -/
structure LsaSnapshot (V : Type) where
  graph : SimpleGraph V
  routerId : V → Nat
  setting : AdjConnectivity
  oi : V → AdjInterface
  entry : V → V → AdjNeighbor
  routerId_injective : Function.Injective routerId
  routerId_pos : ∀ v, 0 < routerId v
  own : ∀ v, (oi v).routerId = routerId v ∧ (oi v).type = .mdr ∧
    (oi v).config.adjConnectivity = setting
  nodup : ∀ v, (oi v).neighborList.Nodup
  listed : ∀ v w, graph.Adj v w → entry v w ∈ (oi v).neighborList ∧
    NeighborState.twoway.toNat ≤ (entry v w).state.toNat ∧ (entry v w).routerId = routerId w
  only : ∀ v, ∀ on ∈ (oi v).neighborList, NeighborState.twoway.toNat ≤ on.state.toNat →
    ∃ w, graph.Adj v w ∧ on = entry v w
  mdrLevel : ∀ v w, graph.Adj v w → (entry v w).mdrLevel = (oi w).mdrLevel
  aBit : ∀ v w, graph.Adj v w → (entry v w).aBit = decide (setting = .fullyConnected)
  rnl : ∀ v w, graph.Adj v w → ∀ x, routerId x ∈ (entry v w).rnl ↔ graph.Adj w x
  dnl : ∀ v w, graph.Adj v w → ∀ x, graph.Adj w x →
    (routerId x ∈ (entry v w).dnl ↔ (entry w x).dependent)
  sanl : ∀ v w, graph.Adj v w → ∀ x, graph.Adj w x →
    (routerId x ∈ (entry v w).sanl ↔ (entry w x).selAdv)
  parents : ∀ v w, graph.Adj v w →
    (entry v w).drouter = helloDrouter (oi w) ∧ (entry v w).bdrouter = helloBdrouter (oi w)
  dependentSelector : ∀ v w, graph.Adj v w →
    (entry v w).dependentSelector = (entry w v).dependent
  child : ∀ v w, graph.Adj v w → ((entry v w).child ↔
    routerId v = helloDrouter (oi w) ∨ routerId v = helloBdrouter (oi w))

namespace LsaSnapshot

variable {V : Type} (net : LsaSnapshot V)

/-- The interface after the update of the advertised neighbors. -/
def updated (v : V) : AdjInterface :=
  (ospf6MdrUpdateLsaMincost (net.oi v).neighborList.get (net.oi v)).1

/-- Router `u` selects its neighbor `j` for advertising or has it as a backbone neighbor. -/
def Relays (u j : V) : Prop :=
  ∃ on ∈ (net.updated u).neighborList, on.routerId = net.routerId j ∧
    NeighborState.twoway.toNat ≤ on.state.toNat ∧
    (on.selAdv ∨ ospf6MdrBackbone (net.updated u) on)

/-- For every two routers that are not neighbors and have a common neighbor, a common neighbor `u` of them has
the property of `u` and the first. -/
def EachPair (P : V → V → Prop) : Prop :=
  ∀ j k, j ≠ k → ¬net.graph.Adj j k → (∃ u, net.graph.Adj u j ∧ net.graph.Adj u k) →
    ∃ u, net.graph.Adj u j ∧ net.graph.Adj u k ∧ P u j

/-- No two-hop path is lost at all of its relays. -/
def Covered : Prop := net.EachPair net.Relays

/-- The order of the relays for router `j`: whom `j` selects, who selects `j`, and the router ID. -/
def relayRank (j u : V) : Nat ×ₗ Nat ×ₗ Nat :=
  lexRank (net.entry j u).selAdv.toNat (net.entry u j).selAdv.toNat (net.routerId u)

/-- The link between two of its neighbors is known to router `u`, from one that reports its neighbors. -/
def Seen (u a b : V) : Prop :=
  net.graph.Adj a b ∧ ((net.entry u a).report2Hop ∨ (net.entry u b).report2Hop)

/-- Router `a` reports its adjacency with `b`: as one of two (backup) MDRs that depends on the other, or as
a child of `b`. -/
def Joins (a b : V) : Prop :=
  MdrLevel.bmdr.toNat ≤ (net.oi a).mdrLevel.toNat ∧ MdrLevel.bmdr.toNat ≤ (net.oi b).mdrLevel.toNat ∧
      (net.entry a b).dependent ∨
    MdrLevel.bmdr.toNat ≤ (net.oi b).mdrLevel.toNat ∧
      (helloDrouter (net.oi a) = net.routerId b ∨ helloBdrouter (net.oi a) = net.routerId b)

/-- To a neighbor `k` of router `u` that `u` does not know as a neighbor of `j`, no relay that `u` knows is
joined with `j` or comes after `u` in the order of the relays. -/
def LastRelay (u j : V) : Prop :=
  ∃ k, k ≠ j ∧ net.graph.Adj u k ∧ ¬net.Seen u j k ∧
    ∀ w, net.graph.Adj u w → net.Seen u w k → net.Seen u w j →
      ¬(net.Joins w j ∨ net.Joins j w ∨ net.relayRank j u < net.relayRank j w)

abbrev nbr (u : V) : Fin (net.oi u).neighborList.length → AdjNeighbor := (net.oi u).neighborList.get

abbrev cost (u : V) : CostMatrix (net.oi u).neighborList.length :=
  ospf6MdrCreateCostMatrix fun i => (net.nbr u i).toMdrNeighbor

abbrev matrices (u : V) : AdjSan (net.oi u).neighborList.length :=
  ospf6MdrCreateAdjSanMatrices (net.nbr u) (net.cost u)

variable {net}

section relay

variable {u w j k : V} {x i l : Fin (net.oi u).neighborList.length}

lemma exists_index (h : net.graph.Adj u j) : ∃ i, net.nbr u i = net.entry u j :=
  mem_iff_get.mp (net.listed u j h).1

lemma cost_iff (hw : net.graph.Adj u w) (hj : net.graph.Adj u j)
    (hx : net.nbr u x = net.entry u w) (hi : net.nbr u i = net.entry u j) :
    net.cost u x i = 1 ↔ net.Seen u w j := by
  obtain ⟨-, hstatew, hidw⟩ := net.listed u w hw
  obtain ⟨-, hstatej, hidj⟩ := net.listed u j hj
  have hne (h : net.graph.Adj w j) : x ≠ i := by
    rintro rfl
    apply h.ne
    apply net.routerId_injective
    rw [← hidw, ← hidj, ← hx, hi]
  rw [costMatrix_eq_one_iff]
  change x ≠ i ∧ (net.nbr u x).state.IsTwoway ∧ (net.nbr u i).state.IsTwoway ∧
    ((net.nbr u x).report2Hop ∨ (net.nbr u i).report2Hop) ∧
    ((net.nbr u x).report2Hop → (net.nbr u i).routerId ∈ (net.nbr u x).rnl) ∧
    ((net.nbr u i).report2Hop → (net.nbr u x).routerId ∈ (net.nbr u i).rnl) ↔ _
  rw [hx, hi, hidw, hidj, net.rnl u w hw, net.rnl u j hj, net.graph.adj_comm j w, Seen]
  constructor
  · rintro ⟨-, -, -, hrep, hwj, hjw⟩
    exact ⟨hrep.elim hwj hjw, hrep⟩
  · rintro ⟨hadj, hrep⟩
    exact ⟨hne hadj, hstatew, hstatej, hrep, fun _ => hadj, fun _ => hadj⟩

lemma reports_iff (hw : net.graph.Adj u w) (hj : net.graph.Adj u j) (hwj : net.graph.Adj w j)
    (hx : net.nbr u x = net.entry u w) (hi : net.nbr u i = net.entry u j) :
    reportsAdjacency (net.nbr u) x i ↔ net.Joins w j := by
  unfold reportsAdjacency Joins
  rw [hx, hi, net.mdrLevel u w hw, net.mdrLevel u j hj, (net.listed u j hj).2.2, (net.parents u w hw).1,
    (net.parents u w hw).2, ← net.dnl u w hw j hwj]
  simp only [Bool.or_eq_true, Bool.and_eq_true, decide_eq_true_eq, and_assoc]

/-- With adjacency reduction the ends of a reported adjacency have each other as backbone neighbors. -/
lemma backbone_of_joins (hs : net.setting ≠ .fullyConnected) (hwj : net.graph.Adj w j)
    (h : net.Joins w j ∨ net.Joins j w) : ospf6MdrBackbone (net.oi w) (net.entry w j) := by
  obtain ⟨hown, htype, hsetting⟩ := net.own w
  have hneed : ospf6MdrBackbone (net.oi w) (net.entry w j) =
      ospf6MdrNeighborNeedAdjacency (net.oi w) (net.entry w j) := by
    unfold ospf6MdrBackbone needAdjacency
    rw [hsetting, if_neg hs, if_pos htype]
  have hne : net.routerId w ≠ net.routerId j := fun he => hwj.ne (net.routerId_injective he)
  rw [hneed, needAdjacency_iff, net.mdrLevel w j hwj, net.child w j hwj,
    net.dependentSelector w j hwj, (net.listed w j hwj).2.2]
  right; right
  rcases h with (⟨hlw, hlj, hdep⟩ | ⟨hlj, hparent⟩) | (⟨hlj, hlw, hdep⟩ | ⟨hlw, hparent⟩)
  · exact .inl ⟨hlw, hlj, .inl hdep⟩
  · refine .inr (.inr ⟨hlj, ?_⟩)
    -- the field has the router's own ID or a parent's
    rcases hparent with hparent | hparent
    · unfold helloDrouter at hparent
      rw [hown] at hparent
      split_ifs at hparent
      · exact absurd hparent hne
      · exact .inl hparent.symm
    unfold helloBdrouter at hparent
    rw [hown] at hparent
    split_ifs at hparent
    · exact absurd hparent hne
    · exact .inr hparent.symm
  · exact .inl ⟨hlw, hlj, .inr hdep⟩
  · exact .inr (.inl ⟨hlw, hparent.imp Eq.symm Eq.symm⟩)

lemma lexicographic_iff_rank (hw : net.graph.Adj u w) (hj : net.graph.Adj u j) (hseen : net.Seen u w j)
    (hx : net.nbr u x = net.entry u w) (hi : net.nbr u i = net.entry u j) :
    ospf6SidcdsLexicographic ((net.matrices u).san i x).toNat (selectedBy (net.nbr u) (net.oi u) i).toNat
      ((net.matrices u).san x i).toNat (net.nbr u i).selAdv.toNat (net.nbr u x).routerId (net.oi u).routerId ↔
      net.relayRank j u < net.relayRank j w := by
  have hxi : net.cost u x i = 1 := (cost_iff hw hj hx hi).mpr hseen
  have hix : net.cost u i x = 1 := (costMatrix_comm _ _ _).trans hxi
  have hiw : (net.matrices u).san i x = (net.entry j w).selAdv := by
    rw [Bool.eq_iff_iff, ospf6MdrCreateAdjSanMatrices_san, hix, hx, hi, (net.listed u w hw).2.2,
      net.sanl u j hj w hseen.1.symm]
    simp
  have hwi : (net.matrices u).san x i = (net.entry w j).selAdv := by
    rw [Bool.eq_iff_iff, ospf6MdrCreateAdjSanMatrices_san, hxi, hx, hi, (net.listed u j hj).2.2,
      net.sanl u w hw j hseen.1]
    simp
  have hself : selectedBy (net.nbr u) (net.oi u) i = (net.entry j u).selAdv := by
    unfold selectedBy
    rw [hi, (net.own u).1, Bool.eq_iff_iff, decide_eq_true_iff]
    exact net.sanl u j hj u hj.symm
  rw [hiw, hwi, hself, hi, hx, (net.listed u w hw).2.2, (net.own u).1]
  exact lexicographic_iff ..

lemma betterRelay_iff_rank (hj : net.graph.Adj u j) (hk : net.graph.Adj u k)
    (hw : net.graph.Adj u w) (hi : net.nbr u i = net.entry u j) (hl : net.nbr u l = net.entry u k)
    (hx : net.nbr u x = net.entry u w) :
    betterRelay (net.nbr u) (net.oi u) (net.cost u) (net.matrices u) i l x ↔
    net.Seen u w k ∧ net.Seen u w j ∧
      (net.Joins w j ∨ net.Joins j w ∨ net.relayRank j u < net.relayRank j w) := by
  rw [betterRelay_iff, cost_iff hw hk hx hl, cost_iff hw hj hx hi]
  have hstate : (net.nbr u x).state.IsTwoway := hx ▸ (net.listed u w hw).2.1
  have hcomm : net.cost u x i = net.cost u i x := costMatrix_comm ..
  have hindex {v : V} {y : Fin (net.oi u).neighborList.length} (hv : net.graph.Adj u v)
      (hy : net.nbr u y = net.entry u v) (hseen : net.Seen u w v) : x ≠ y := by
    rintro rfl
    apply hseen.1.ne
    apply net.routerId_injective
    rw [← (net.listed u w hw).2.2, ← (net.listed u v hv).2.2, ← hx, hy]
  have hbits (hseen : net.Seen u w j) :
      (net.matrices u).adj x i ↔ net.Joins w j ∨ net.Joins j w := by
    rw [ospf6MdrCreateAdjSanMatrices_adj hcomm, (cost_iff hw hj hx hi).mpr hseen,
      reports_iff hw hj hseen.1 hx hi, reports_iff hj hw hseen.1.symm hi hx]
    simp
  constructor
  · rintro ⟨-, -, -, hwk, hwj, hbetter⟩
    rw [hbits hwj, lexicographic_iff_rank hw hj hwj hx hi, or_assoc] at hbetter
    exact ⟨hwk, hwj, hbetter⟩
  · rintro ⟨hwk, hwj, hbetter⟩
    refine ⟨hindex hk hl hwk, hindex hj hi hwj, hstate, hwk, hwj, ?_⟩
    rwa [hbits hwj, lexicographic_iff_rank hw hj hwj hx hi, or_assoc]

lemma newSelAdv_iff_lastRelay (hj : net.graph.Adj u j) (hi : net.nbr u i = net.entry u j) :
    newSelAdv (net.nbr u) (net.oi u) (net.cost u) (net.matrices u) i ↔
    ¬ospf6MdrBackbone (net.oi u) (net.entry u j) ∧ net.LastRelay u j := by
  rw [newSelAdv_iff, hi, and_iff_right (net.listed u j hj).2.1]
  refine and_congr_right fun _ => ?_
  constructor
  · rintro ⟨l, hli, hl, hcost, hnone⟩
    obtain ⟨k, hk, hget⟩ := net.only u _ (get_mem _ l) hl
    refine ⟨k, ?_, hk, fun hseen => hcost ((cost_iff hj hk hi hget).mpr hseen), fun w hw hwk hwj hbetter => ?_⟩
    · rintro rfl
      exact hli ((net.nodup u).get_inj_iff.mp (hget.trans hi.symm))
    · obtain ⟨x, hx⟩ := exists_index hw
      exact hnone x ((betterRelay_iff_rank hj hk hw hi hget hx).mpr ⟨hwk, hwj, hbetter⟩)
  · rintro ⟨k, hkj, hk, hseen, hnone⟩
    obtain ⟨l, hl⟩ := exists_index hk
    refine ⟨l, ?_, hl ▸ (net.listed u k hk).2.1, fun hcost => hseen ((cost_iff hj hk hi hl).mp hcost),
      fun x hx => ?_⟩
    · rintro rfl
      apply hkj
      apply net.routerId_injective
      rw [← (net.listed u k hk).2.2, ← (net.listed u j hj).2.2, ← hi, hl]
    · obtain ⟨w, hw, hget⟩ := net.only u _ (get_mem _ x) (betterRelay_iff.mp hx).2.2.1
      obtain ⟨hwk, hwj, hbetter⟩ := (betterRelay_iff_rank hj hk hw hi hl hget).mp hx
      exact hnone w hw hwk hwj hbetter

end relay

/-- A router relays its backbone neighbors and those for which it is the last relay to some router. -/
lemma relays_iff {u j : V} (hj : net.graph.Adj u j) :
    net.Relays u j ↔ ospf6MdrBackbone (net.oi u) (net.entry u j) ∨ net.LastRelay u j := by
  obtain ⟨-, hstate, hid⟩ := net.listed u j hj
  constructor
  · rintro ⟨on, hon, honid, honstate, hmark⟩
    obtain ⟨i, rfl⟩ := (mem_ofFn' _ _).mp hon
    obtain ⟨w, hw, hi⟩ := net.only u _ (get_mem _ i) honstate
    obtain rfl : w = j := by
      apply net.routerId_injective
      rw [← honid, ← (net.listed u w hw).2.2, ← hi]
    rcases hmark with hsel | hback
    · exact .inr ((newSelAdv_iff_lastRelay hw hi).mp hsel).2
    · exact .inl (hi ▸ hback)
  · intro hmark
    obtain ⟨i, hi⟩ := exists_index hj
    have hsel := newSelAdv_iff_lastRelay hj hi
    rw [← hi] at hid hstate hmark hsel
    refine ⟨_, (mem_ofFn' _ _).mpr ⟨i, rfl⟩, hid, hstate, ?_⟩
    by_cases hback : ospf6MdrBackbone (net.oi u) (net.nbr u i)
    · exact .inr hback
    · exact .inl (hsel.mpr ⟨hback, hmark.resolve_left hback⟩)

/-- A common neighbor that does not relay leaves the path to one that does or that comes after it. -/
lemma next_relay {u j k : V} (hs : net.setting ≠ .fullyConnected) (hj : net.graph.Adj u j)
    (hk : net.graph.Adj u k) (hne : j ≠ k) (hjk : ¬net.graph.Adj j k) (hno : ¬net.Relays u j) :
    ∃ w, net.graph.Adj w j ∧ net.graph.Adj w k ∧
      (net.Relays w j ∨ net.relayRank j u < net.relayRank j w) := by
  have hlast : ¬net.LastRelay u j := fun h => hno ((relays_iff hj).mpr (.inr h))
  by_contra hnone
  refine hlast ⟨k, hne.symm, hk, fun hseen => hjk hseen.1, fun w hw hwk hwj hbetter => hnone ?_⟩
  refine ⟨w, hwj.1, hwk.1, ?_⟩
  rcases or_assoc.mpr hbetter with hjoin | hlt
  · exact .inl ((relays_iff hwj.1).mpr (.inl (backbone_of_joins hs hwj.1 hjoin)))
  · exact .inr hlt

/-- With adjacency reduction no two-hop path is lost: the last relay in the order is not left out. -/
theorem covered_of_reduction [Finite V] (net : LsaSnapshot V) (hs : net.setting ≠ .fullyConnected) :
    net.Covered := by
  intro j k hne hjk ⟨u, huj, huk⟩
  have : Nonempty { u // net.graph.Adj u j ∧ net.graph.Adj u k } := ⟨⟨u, huj, huk⟩⟩
  obtain ⟨⟨v, hvj, hvk⟩, hmax⟩ :=
    Finite.exists_max fun u : { u // net.graph.Adj u j ∧ net.graph.Adj u k } => net.relayRank j u
  by_contra hnone
  have hno : ∀ u, net.graph.Adj u j → net.graph.Adj u k → ¬net.Relays u j :=
    fun u huj huk h => hnone ⟨u, huj, huk, h⟩
  obtain ⟨w, hwj, hwk, hrelays | hlt⟩ := next_relay hs hvj hvk hne hjk (hno v hvj hvk)
  · exact hno w hwj hwk hrelays
  · exact absurd (hmax ⟨w, hwj, hwk⟩) (not_le.mpr hlt)

/-- A network loses no two-hop path exactly if it uses adjacency reduction or has a last relay for each
pair: one that no relay it knows of is joined with or comes after. -/
theorem covered_iff {V : Type} [Finite V] (net : LsaSnapshot V) :
    net.Covered ↔ net.setting ≠ .fullyConnected ∨ net.EachPair net.LastRelay := by
  by_cases hs : net.setting = .fullyConnected
  swap
  · exact iff_of_true (net.covered_of_reduction hs) (.inl hs)
  have hrelays (u j : V) (hj : net.graph.Adj u j) : net.Relays u j ↔ net.LastRelay u j := by
    rw [relays_iff hj, or_iff_right]
    unfold ospf6MdrBackbone
    rw [(net.own u).2.2, if_pos hs, net.aBit u j hj, hs]
    decide
  rw [or_iff_right (not_not.mpr hs), Covered, EachPair, EachPair]
  constructor
  · intro h j k hne hjk hu
    obtain ⟨u, huj, huk, hrelay⟩ := h j k hne hjk hu
    exact ⟨u, huj, huk, (hrelays u j huj).mp hrelay⟩
  · intro h j k hne hjk hu
    obtain ⟨u, huj, huk, hlast⟩ := h j k hne hjk hu
    exact ⟨u, huj, huk, (hrelays u j huj).mpr hlast⟩

end LsaSnapshot

def diamondId (v : Fin 4) : Nat := if v = 3 then 9 else v.val + 1

def diamondLink (v w : Fin 4) : Bool := v ≠ w ∧ (v.val ≥ 2 ∨ w.val ≥ 2)

def diamondLevel (v : Fin 4) : MdrLevel := if v = 2 then .mdr else .other

def diamondEntry (setting : AdjConnectivity) (v w : Fin 4) : AdjNeighbor where
  routerId := diamondId w
  priority := 1
  state := .full
  mdrLevel := diamondLevel w
  report2Hop := true
  rnl := ((List.finRange 4).filter (diamondLink w)).map diamondId
  dependent := false
  handle := 0
  drouter := 3
  bdrouter := 0
  consecHellos := 1
  aBit := setting = .fullyConnected
  reverse2way := true
  dnl := []
  sanl := []
  dependentSelector := false
  child := v = 2
  routable := false
  adv := false
  selAdv := false

def diamondInterface (setting : AdjConnectivity) (v : Fin 4) : AdjInterface where
  routerId := diamondId v
  type := .mdr
  state := .dr
  drouter := 0
  bdrouter := 0
  config := ⟨1, 10, false, 1, setting, .minCost, 3, 1, 0⟩
  mdrLevel := diamondLevel v
  nonfloodingMdr := false
  parent := if v = 2 then none else some ⟨0, 3⟩
  bparent := none
  neighborList := ((List.finRange 4).filter (diamondLink v)).map (diamondEntry setting v)
  created := 0
  lsaLog := []

def diamondGraph : SimpleGraph (Fin 4) where
  Adj v w := diamondLink v w
  symm := ⟨by decide⟩
  loopless := ⟨by decide⟩

instance : DecidableRel diamondGraph.Adj := fun _ _ => inferInstanceAs (Decidable (_ = true))

def diamond (setting : AdjConnectivity) : LsaSnapshot (Fin 4) where
  graph := diamondGraph
  routerId := diamondId
  setting := setting
  oi := diamondInterface setting
  entry := diamondEntry setting
  routerId_injective := by decide
  routerId_pos := by decide
  own := fun _ => ⟨rfl, rfl, rfl⟩
  nodup := by cases setting <;> decide +kernel
  listed := by cases setting <;> decide +kernel
  only := by cases setting <;> decide +kernel
  mdrLevel := fun _ _ _ => rfl
  aBit := fun _ _ _ => rfl
  rnl := by cases setting <;> decide +kernel
  dnl := by cases setting <;> decide +kernel
  sanl := by cases setting <;> decide +kernel
  parents := by cases setting <;> decide +kernel
  dependentSelector := fun _ _ _ => rfl
  child := by cases setting <;> decide +kernel

theorem diamond_covered : (diamond .uniConnected).Covered :=
  (diamond .uniConnected).covered_iff.mpr (.inl nofun)

/-- With fully connected adjacencies the MDR leaves out a child to the router with the larger ID, and that one
leaves it to the parent. -/
theorem diamond_not_covered :
    (diamond .fullyConnected).setting = .fullyConnected ∧ ¬(diamond .fullyConnected).Covered := by
  refine ⟨rfl, fun h => ?_⟩
  have hlost : ∀ u : Fin 4, diamondGraph.Adj u 0 → diamondGraph.Adj u 1 →
      ∀ on ∈ ((diamond .fullyConnected).updated u).neighborList, on.routerId = 1 →
        ¬(on.selAdv = true ∨ ospf6MdrBackbone ((diamond .fullyConnected).updated u) on = true) := by
    decide +kernel
  have hrelay : ∃ u, diamondGraph.Adj u 0 ∧ diamondGraph.Adj u 1 := by decide
  have hapart : ¬diamondGraph.Adj 0 1 := by decide
  obtain ⟨u, hu0, hu1, on, hmem, hid, -, hmark⟩ := h 0 1 (by decide) hapart hrelay
  exact hlost u hu0 hu1 on hmem hid hmark

end OspfMdr.Ospf6
