import OspfMdr.Proofs.MdrScan

/-!
# The hop counts of the MDR calculation

The search from Rmax may visit a neighbor more than once, each time with fewer hops. When its queue is empty,
no link is left that would shorten a path, so the counts are the least numbers of hops.
-/

namespace OspfMdr.Ospf6
open List Function

section search

variable {n : Nat} (link : Fin n → Fin n → Bool) (transit : Fin n → Bool) (maxOn : Fin n)

/-- `maxOn` reaches the neighbor in the number of hops, through transit neighbors only. -/
inductive HopsTo : Nat → Fin n → Prop
  | start : HopsTo 0 maxOn
  | hop {d : Nat} {k u : Fin n} : HopsTo d k → k = maxOn ∨ transit k → link k u → HopsTo (d + 1) u

/-- A link that would shorten a path is `pending` or starts in the queue. -/
structure HopsInv (pending : Fin n → Fin n → Prop) (s : Search n) : Prop where
  root : s.hops maxOn = 0
  hopsTo : ∀ u, s.hops u < infty → HopsTo link transit maxOn (s.hops u) u
  queued : ∀ u ∈ s.queue, HopsTo link transit maxOn (s.hops u) u ∧ (u = maxOn ∨ transit u)
  relaxed : ∀ j u, j = maxOn ∨ transit j → link j u →
    pending j u ∨ j ∈ s.queue ∨ s.hops u ≤ s.hops j + 1

variable {k v : Fin n} {s : Search n}

lemma searchVisit_of_link (hc : link k v && decide (s.hops k + 1 < s.hops v)) (u : Fin n) :
    (searchVisit link transit k s v).hops u = (if u = v then s.hops k + 1 else s.hops u) ∧
    (u ∈ (searchVisit link transit k s v).queue ↔ u ∈ s.queue ∨ u = v ∧ transit v) := by
  unfold searchVisit
  rw [if_pos hc]
  by_cases ht : transit v <;> simp [ht, update_apply]

variable {link transit maxOn} {l : List (Fin n)}

lemma searchVisit_hopsInv (h : HopsInv link transit maxOn (fun j u => j = k ∧ u ∈ v :: l) s)
    (hk : HopsTo link transit maxOn (s.hops k) k) (hexpands : k = maxOn ∨ transit k) :
    HopsInv link transit maxOn (fun j u => j = k ∧ u ∈ l) (searchVisit link transit k s v) ∧
      HopsTo link transit maxOn ((searchVisit link transit k s v).hops k) k := by
  obtain ⟨hroot, hto, hqueued, hrelaxed⟩ := h
  by_cases hc : link k v && decide (s.hops k + 1 < s.hops v)
  · have hvisit := searchVisit_of_link link transit hc
    rw [Bool.and_eq_true, decide_eq_true_eq] at hc
    have hv := hk.hop hexpands hc.1
    have hne : maxOn ≠ v := by
      rintro rfl
      omega
    refine ⟨⟨by grind, by grind, by grind, fun j u hj hlink => ?_⟩, by grind⟩
    have hold := hrelaxed j u hj hlink
    grind
  · have hsame : searchVisit link transit k s v = s := if_neg hc
    rw [hsame]
    refine ⟨⟨hroot, hto, hqueued, fun j u hj hlink => ?_⟩, hk⟩
    have hold := hrelaxed j u hj hlink
    grind

lemma searchVisits_hopsInv (h : HopsInv link transit maxOn (fun j u => j = k ∧ u ∈ l) s)
    (hk : HopsTo link transit maxOn (s.hops k) k) (hexpands : k = maxOn ∨ transit k) :
    HopsInv link transit maxOn (fun _ _ => False) (l.foldl (searchVisit link transit k) s) := by
  induction l generalizing s with
  | nil => simpa using h
  | cons v l ih =>
    obtain ⟨h', hk'⟩ := searchVisit_hopsInv h hk hexpands
    exact ih h' hk'

lemma searchLoop_hopsInv (fuel : Nat) (h : HopsInv link transit maxOn (fun _ _ => False) s) :
    HopsInv link transit maxOn (fun _ _ => False) (searchLoop link transit fuel s) := by
  induction fuel generalizing s with
  | zero => exact h
  | succ fuel ih =>
    unfold searchLoop
    split
    · exact h
    · next k q hq =>
      obtain ⟨hk, hexpands⟩ := h.queued k (hq ▸ mem_cons_self)
      have hpop : HopsInv link transit maxOn (fun j u => j = k ∧ u ∈ finRange n) { s with queue := q } := by
        refine ⟨h.root, h.hopsTo, fun u hu => h.queued u (hq ▸ mem_cons_of_mem k hu), fun j u hj hlink => ?_⟩
        have hold := h.relaxed j u hj hlink
        rw [hq, mem_cons] at hold
        have hu := mem_finRange u
        tauto
      exact ih (searchVisits_hopsInv hpop hk hexpands)

lemma search_hopsInv (link : Fin n → Fin n → Bool) (transit : Fin n → Bool) (maxOn : Fin n) :
    HopsInv link transit maxOn (fun _ _ => False) (search link transit maxOn) := by
  apply searchLoop_hopsInv
  have hroot : (searchStart maxOn).hops maxOn = 0 := by simp [searchStart]
  refine ⟨hroot, ?_, ?_, ?_⟩
  · exact (forall_update_iff _ fun u x => x < infty → HopsTo link transit maxOn x u).mpr
      ⟨fun _ => .start, fun u _ hu => absurd hu (lt_irrefl _)⟩
  · intro u hu
    rw [mem_singleton.mp hu, hroot]
    exact ⟨.start, .inl rfl⟩
  · intro j u _ _
    simp only [searchStart, mem_singleton]
    grind

/-- Links that agree where `P` holds, which holds of all that is reached. -/
lemma HopsTo.mono {link' : Fin n → Fin n → Bool} {P : Fin n → Prop} {d : Nat} {u : Fin n} (hroot : P maxOn)
    (hlink : ∀ k u, P k → link k u → link' k u ∧ P u) (h : HopsTo link transit maxOn d u) :
    HopsTo link' transit maxOn d u ∧ P u := by
  induction h with
  | start => exact ⟨.start, hroot⟩
  | @hop d k u _ hexpands hku ih =>
    obtain ⟨hpath, hk⟩ := ih
    obtain ⟨hku', hu⟩ := hlink k u hk hku
    exact ⟨.hop hpath hexpands hku', hu⟩

lemma hops_le_of_hopsTo {d : Nat} {u : Fin n} (hpath : HopsTo link transit maxOn d u) :
    (search link transit maxOn).hops u ≤ d := by
  have h := search_hopsInv link transit maxOn
  induction hpath with
  | start => exact h.root.le
  | @hop d k u _ hexpands hlink ih =>
    have hrelaxed := h.relaxed k u hexpands hlink
    rw [search_queue, false_or] at hrelaxed
    exact (hrelaxed.resolve_left not_mem_nil).trans (Nat.succ_le_succ ih)

end search

section level

variable {n : Nat} {nbr : Fin n → MdrNeighbor} {oi : MdrInterface} {j : Fin n}

lemma exceedsConstraint_iff {m : CostMatrix n} {link : Fin n → Fin n → Bool} {transit : Fin n → Bool}
    (hc : oi.mdrConstraint < infty) (k : Fin n) :
    exceedsConstraint nbr oi m (search link transit j) k ↔
      (nbr k).TwoWay ∧ ∀ d, HopsTo link transit j d k → oi.mdrConstraint < d := by
  unfold exceedsConstraint
  rw [Bool.and_eq_true, isTwoWay_iff, decide_eq_true_eq]
  apply and_congr_right'
  constructor
  · intro hlt d hpath
    exact hlt.trans_le (by exact_mod_cast hops_le_of_hopsTo hpath)
  · intro hfar
    by_cases hfin : (search link transit j).hops k < infty
    · exact hfar _ ((search_hopsInv link transit j).hopsTo k hfin)
    · exact hc.trans_le (by exact_mod_cast not_lt.mp hfin)

instance (a : MdrNeighbor) : Decidable a.TwoWay := inferInstanceAs (Decidable (_ ≤ _))

/-- A link of the cost matrix to a two-way neighbor, from a neighbor that is not smaller than the router. -/
def largerLink (nbr : Fin n → MdrNeighbor) (oi : MdrInterface) (k u : Fin n) : Bool :=
  decide ((nbr u).TwoWay ∧ ¬(nbr k).rank < lexRank oi.priority oi.mdrLevel.toNat oi.routerId ∧
    ospf6MdrCreateCostMatrix nbr k u = 1)

lemma hopsTo_mdrLink_iff (hj : (nbr j).TwoWay) {transit : Fin n → Bool} {d : Nat} {u : Fin n} :
    HopsTo (mdrLink nbr oi (ospf6MdrCreateCostMatrix nbr)) transit j d u ↔ HopsTo (largerLink nbr oi) transit j d u := by
  have hiff (k u : Fin n) (hk : (nbr k).TwoWay) :
      mdrLink nbr oi (ospf6MdrCreateCostMatrix nbr) k u ↔ largerLink nbr oi k u :=
    (mdrLink_iff k u hk).trans decide_eq_true_iff.symm
  have hends (k u : Fin n) (h : largerLink nbr oi k u) : (nbr u).TwoWay := (of_decide_eq_true h).1
  constructor
  · exact fun h => (h.mono hj fun k u hk hku => ⟨(hiff k u hk).mp hku, hends k u ((hiff k u hk).mp hku)⟩).1
  · exact fun h => (h.mono hj fun k u hk hku => ⟨(hiff k u hk).mpr hku, hends k u hku⟩).1

/-- A router is an MDR exactly if it is larger than Rmax, or Rmax does not reach each of its two-way neighbors
within `MDRConstraint` hops through larger routers. -/
theorem calculateMdr_mdr_iff (hid : Injective fun j => (nbr j).routerId) (hj : IsRmax nbr j)
    (hpriority : 1 ≤ (nbr j).priority) (hzero : (nbr j).routerId ≠ 0) (hc : oi.mdrConstraint < infty) :
    (calculateMdr nbr oi).mdrLevel = .mdr ↔
      (nbr j).rank < lexRank oi.priority oi.mdrLevel.toNat oi.routerId ∨ ∃ k, (nbr k).TwoWay ∧ ∀ d,
        HopsTo (largerLink nbr oi) (fun _ => true) j d k → oi.mdrConstraint < d := by
  have hmax : (mdrScan nbr oi).1 = .ofNeighbor nbr j :=
    selectMax_of_isRmax hid hj ((start_lt_rank_iff j).mpr ⟨hpriority, fun _ _ => hzero⟩)
  rw [calculateMdr_of_max hzero hmax]
  simp only [exceedsConstraint_iff hc, hopsTo_mdrLink_iff hj.1]

end level

/-- Two neighbors that do not hear each other. -/
def apartNeighbors : Fin 2 → MdrNeighbor := ![fullNeighbor 2 1 .mdr [], fullNeighbor 3 1 .other []]

theorem calculateMdr_mdr_apart : ∃ k, (apartNeighbors k).TwoWay ∧ ∀ d,
    HopsTo (largerLink apartNeighbors exampleInterface) (fun _ => true) 0 d k → exampleInterface.mdrConstraint < d := by
  have hid : Injective fun j => (apartNeighbors j).routerId := by decide
  have hj := (selectMax_isRmax hid (by decide : (mdrScan apartNeighbors exampleInterface).1.on = some 0)).1
  have h := (calculateMdr_mdr_iff hid hj (by decide) (by decide) (by decide)).mp
    (by decide : (calculateMdr apartNeighbors exampleInterface).mdrLevel = .mdr)
  exact h.resolve_left (by decide)

end OspfMdr.Ospf6
