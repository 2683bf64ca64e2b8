import OspfMdr.Model.Mdr

/-!
# Local steps of the MDR calculation

What the neighbor scan, the cost matrix and the breadth-first search of one router
compute, for arbitrary neighbor lists.
-/

namespace OspfMdr.Ospf6
open Relation List

/-- The order in which routers are compared: priority, level, router ID. -/
def lexRank (priority level id : Nat) : Nat ×ₗ Nat ×ₗ Nat := toLex (priority, toLex (level, id))

lemma lexicographic_iff (pa pb la lb ra rb : Nat) :
    ospf6SidcdsLexicographic pa pb la lb ra rb ↔ lexRank pb lb rb < lexRank pa la ra := by
  unfold ospf6SidcdsLexicographic lexRank
  rw [Prod.Lex.toLex_lt_toLex, Prod.Lex.toLex_lt_toLex]
  split_ifs <;> simp <;> omega

def MdrNeighbor.rank (on : MdrNeighbor) : Nat ×ₗ Nat ×ₗ Nat :=
  lexRank on.priority on.mdrLevel.toNat on.routerId

def MaxCandidate.rank {n : Nat} (c : MaxCandidate n) : Nat ×ₗ Nat ×ₗ Nat :=
  lexRank c.priority c.level c.id

section Scan
variable {n : Nat} (nbr : Fin n → MdrNeighbor)

lemma exceeds_iff (j : Fin n) (c : MaxCandidate n) :
    exceeds nbr j c ↔ c.rank < (nbr j).rank := lexicographic_iff ..

/-- After the neighbors of `l` the candidate is the largest one so far. -/
structure ScanInv (twoWay : Fin n → Bool) (l : List (Fin n)) (c : MaxCandidate n) : Prop where
  init_le : (maxCandidateInit n).rank ≤ c.rank
  le : ∀ j ∈ l, twoWay j → (nbr j).rank ≤ c.rank
  attained : c = maxCandidateInit n ∨ ∃ j ∈ l, twoWay j ∧ c = MaxCandidate.ofNeighbor nbr j

lemma selectMaxStep_inv (twoWay : Fin n → Bool) (l : List (Fin n))
    (s : MaxCandidate n × MaxCandidate n) (j : Fin n) (h : ScanInv nbr twoWay l s.1) :
    ScanInv nbr twoWay (l ++ [j]) (selectMaxStep nbr twoWay s j).1 := by
  have hkeep : (twoWay j → (nbr j).rank ≤ s.1.rank) → ScanInv nbr twoWay (l ++ [j]) s.1 := by
    intro hj
    refine ⟨h.init_le, ?_, ?_⟩
    · intro i hi hw
      rcases mem_append.mp hi with hi | hi
      · exact h.le i hi hw
      · rw [mem_singleton] at hi
        subst hi
        exact hj hw
    · rcases h.attained with h0 | ⟨i, hi, hw, hc⟩
      · exact .inl h0
      · exact .inr ⟨i, mem_append_left _ hi, hw, hc⟩
  unfold selectMaxStep
  by_cases hw : twoWay j
  · by_cases h1 : exceeds nbr j s.1
    · have hlt := (exceeds_iff nbr j s.1).mp h1
      simp only [hw, h1, Bool.not_true, Bool.false_eq_true, ite_false, ite_true]
      refine ⟨h.init_le.trans hlt.le, ?_, .inr ⟨j, by simp, hw, rfl⟩⟩
      intro i hi hwi
      rcases mem_append.mp hi with hi | hi
      · exact (h.le i hi hwi).trans hlt.le
      · rw [mem_singleton] at hi
        subst hi
        exact le_refl _
    · have hle : (nbr j).rank ≤ s.1.rank := not_lt.mp fun hlt => h1 ((exceeds_iff nbr j s.1).mpr hlt)
      have hs := hkeep fun _ => hle
      by_cases h2 : exceeds nbr j s.2 = true <;> simpa [hw, h1, h2] using hs
  · have hs := hkeep fun h => absurd h hw
    simpa [hw] using hs

lemma selectMax_inv (twoWay : Fin n → Bool) :
    ScanInv nbr twoWay (List.finRange n) (selectMax nbr twoWay).1 := by
  unfold selectMax
  induction List.finRange n using reverseRecOn with
  | nil => exact ⟨le_refl _, by simp, .inl rfl⟩
  | append_singleton l j ih =>
    rw [foldl_append]
    exact selectMaxStep_inv nbr twoWay l _ j ih

end Scan

/-! ### Cost matrix -/

section Matrix
variable {n : Nat} (nbr : Fin n → MdrNeighbor)

lemma skipPair_comm (j k : Fin n) : skipPair nbr j k = skipPair nbr k j := by
  unfold skipPair
  rw [decide_eq_decide.mpr (eq_comm (a := j) (b := k)), Bool.or_comm (decide ((nbr j).state.toNat < _)),
    Bool.and_comm]

/-- The cost between two neighbors: both must report the link, if both report. -/
def symmetricCost (j k : Fin n) : Int :=
  if skipPair nbr j k then 0
  else if (nbr j).report2Hop && (nbr k).report2Hop then reportedMatrix nbr j k * reportedMatrix nbr k j
  else if (nbr j).report2Hop then reportedMatrix nbr j k
  else reportedMatrix nbr k j

lemma reportedMatrix_bit (j k : Fin n) : reportedMatrix nbr j k = 0 ∨ reportedMatrix nbr j k = 1 := by
  unfold reportedMatrix
  split_ifs <;> simp

lemma symmetricCost_bit (j k : Fin n) : symmetricCost nbr j k = 0 ∨ symmetricCost nbr j k = 1 := by
  unfold symmetricCost
  rcases reportedMatrix_bit nbr j k with h1 | h1 <;>
    rcases reportedMatrix_bit nbr k j with h2 | h2 <;> rw [h1, h2] <;> split_ifs <;> simp

lemma not_skipPair_iff (j k : Fin n) : ¬skipPair nbr j k ↔ j ≠ k ∧ (nbr j).state.IsTwoway ∧ (nbr k).state.IsTwoway ∧
    ((nbr j).report2Hop ∨ (nbr k).report2Hop) := by
  simp [skipPair, or_iff_not_imp_left]

lemma symmetricCost_comm (j k : Fin n) : symmetricCost nbr j k = symmetricCost nbr k j := by
  unfold symmetricCost
  rw [skipPair_comm nbr k j]
  by_cases hs : skipPair nbr j k
  · simp [hs]
  · have hr := ((not_skipPair_iff nbr j k).mp hs).2.2.2
    rcases hj : (nbr j).report2Hop <;> rcases hk : (nbr k).report2Hop <;>
      simp_all [mul_comm]

/-- The pairs handled so far have their final entries, the others the reported ones. -/
structure MatrixInv (done : List (Fin n × Fin n)) (m : CostMatrix n) : Prop where
  final : ∀ j k, (j, k) ∈ done ∨ (k, j) ∈ done → m j k = symmetricCost nbr j k
  reported : ∀ j k, (j, k) ∉ done → (k, j) ∉ done → m j k = reportedMatrix nbr j k

variable {done : List (Fin n × Fin n)} {m : CostMatrix n}

section
variable (h : MatrixInv nbr done m)
include h

lemma matrixInv_entry (j k : Fin n) :
    (m j k = symmetricCost nbr j k ∧ m k j = symmetricCost nbr j k) ∨
      (m j k = reportedMatrix nbr j k ∧ m k j = reportedMatrix nbr k j) := by
  by_cases hd : (j, k) ∈ done ∨ (k, j) ∈ done
  · left
    exact ⟨h.final j k hd, by rw [h.final k j hd.symm, symmetricCost_comm]⟩
  · rw [not_or] at hd
    right
    exact ⟨h.reported j k hd.1 hd.2, h.reported k j hd.2 hd.1⟩

lemma symmetrizeStep_entry (j k a b : Fin n) :
    symmetrizeStep nbr m (j, k) a b =
      if (a = j ∧ b = k) ∨ (a = k ∧ b = j) then symmetricCost nbr a b else m a b := by
  have hcomm := symmetricCost_comm nbr j k
  have hentry := matrixInv_entry nbr h j k
  by_cases hs : skipPair nbr j k
  · have hzero : symmetricCost nbr j k = 0 := by simp [symmetricCost, hs]
    have hjk : m j k = 0 ∧ m k j = 0 := by
      rcases hentry with he | he
      · rw [hzero] at he; exact he
      · simpa [reportedMatrix, hs, skipPair_comm nbr k j] using he
    simp only [symmetrizeStep, hs, ite_true]
    split_ifs with hc
    · rcases hc with ⟨rfl, rfl⟩ | ⟨rfl, rfl⟩
      · rw [hjk.1, hzero]
      · rw [hjk.2, ← hcomm, hzero]
    · rfl
  · have hne : j ≠ k := by
      rintro rfl
      simp [skipPair] at hs
    -- the value written is the final one, whether the pair is new or already handled
    have hwrite : (if (nbr j).report2Hop && (nbr k).report2Hop then m j k * m k j
        else if (nbr j).report2Hop then m j k else m k j) = symmetricCost nbr j k := by
      rcases hentry with ⟨h1, h2⟩ | ⟨h1, h2⟩
      · rw [h1, h2]
        rcases symmetricCost_bit nbr j k with h | h <;> simp [h]
      · rw [h1, h2]
        simp [symmetricCost, hs]
    by_cases h1 : a = j ∧ b = k
    · obtain ⟨rfl, rfl⟩ := h1
      rcases hj : (nbr a).report2Hop <;> rcases hk : (nbr b).report2Hop <;>
        simp_all [symmetrizeStep, CostMatrix.set]
    by_cases h2 : a = k ∧ b = j
    · obtain ⟨rfl, rfl⟩ := h2
      rcases hj : (nbr b).report2Hop <;> rcases hk : (nbr a).report2Hop <;>
        simp_all [symmetrizeStep, CostMatrix.set]
    · rcases hj : (nbr j).report2Hop <;> rcases hk : (nbr k).report2Hop <;>
        simp [symmetrizeStep, CostMatrix.set, hs, hj, hk, h1, h2]

lemma symmetrizeStep_inv (p : Fin n × Fin n) :
    MatrixInv nbr (done ++ [p]) (symmetrizeStep nbr m p) := by
  obtain ⟨j, k⟩ := p
  constructor
  · intro a b hab
    rw [symmetrizeStep_entry nbr h]
    split_ifs with hc
    · rfl
    · apply h.final
      simp only [mem_append, mem_singleton, Prod.mk.injEq] at hab
      tauto
  · intro a b hab hba
    rw [symmetrizeStep_entry nbr h]
    simp only [mem_append, mem_singleton, Prod.mk.injEq, not_or] at hab hba
    rw [if_neg (by tauto)]
    exact h.reported a b hab.1 hba.1

end

theorem ospf6MdrCreateCostMatrix_eq (j k : Fin n) :
    ospf6MdrCreateCostMatrix nbr j k = symmetricCost nbr j k := by
  have hall : MatrixInv nbr (matrixPairs n) (ospf6MdrCreateCostMatrix nbr) := by
    unfold ospf6MdrCreateCostMatrix
    induction matrixPairs n using reverseRecOn with
    | nil => exact ⟨by simp, fun _ _ _ _ => rfl⟩
    | append_singleton done p ih =>
      rw [foldl_append]
      exact symmetrizeStep_inv nbr ih p
  apply hall.final
  left
  simp [matrixPairs]

lemma costMatrix_eq_one_iff {j k : Fin n} : ospf6MdrCreateCostMatrix nbr j k = 1 ↔
    j ≠ k ∧ (nbr j).state.IsTwoway ∧ (nbr k).state.IsTwoway ∧ ((nbr j).report2Hop ∨ (nbr k).report2Hop) ∧
    ((nbr j).report2Hop → (nbr k).routerId ∈ (nbr j).rnl) ∧
    ((nbr k).report2Hop → (nbr j).routerId ∈ (nbr k).rnl) := by
  rw [ospf6MdrCreateCostMatrix_eq, symmetricCost]
  by_cases hs : skipPair nbr j k
  · have := mt (not_skipPair_iff nbr j k).mpr (not_not.mpr hs)
    simp only [hs]
    simp
    tauto
  · have := (not_skipPair_iff nbr j k).mp hs
    rw [if_neg hs, reportedMatrix, reportedMatrix, skipPair_comm nbr k j, if_neg hs, if_neg hs]
    rcases hj : (nbr j).report2Hop <;> rcases hk : (nbr k).report2Hop <;> simp_all
    split_ifs <;> simp_all

lemma costMatrix_comm (nbr : Fin n → MdrNeighbor) (j k : Fin n) :
    ospf6MdrCreateCostMatrix nbr j k = ospf6MdrCreateCostMatrix nbr k j := by
  rw [ospf6MdrCreateCostMatrix_eq, ospf6MdrCreateCostMatrix_eq, symmetricCost_comm]

/-- The matrix is symmetric, has the links that both ends report, and does not depend on the order. -/
theorem ospf6MdrCreateCostMatrix_spec :
    (∀ j k, ospf6MdrCreateCostMatrix nbr j k = ospf6MdrCreateCostMatrix nbr k j) ∧
    (∀ j, ospf6MdrCreateCostMatrix nbr j j = 0) ∧
    (∀ j k, ospf6MdrCreateCostMatrix nbr j k = 1 ↔
      j ≠ k ∧ (nbr j).state.IsTwoway ∧ (nbr k).state.IsTwoway ∧ ((nbr j).report2Hop ∨ (nbr k).report2Hop) ∧
      ((nbr j).report2Hop → (nbr k).routerId ∈ (nbr j).rnl) ∧
      ((nbr k).report2Hop → (nbr j).routerId ∈ (nbr k).rnl)) ∧
    ∀ (σ : Equiv.Perm (Fin n)) (j k),
      ospf6MdrCreateCostMatrix (nbr ∘ σ) j k = ospf6MdrCreateCostMatrix nbr (σ j) (σ k) := by
  refine ⟨costMatrix_comm nbr, fun j => ?_, fun j k => costMatrix_eq_one_iff nbr, fun σ j k => ?_⟩
  · rw [ospf6MdrCreateCostMatrix_eq]
    simp [symmetricCost, skipPair]
  · rw [ospf6MdrCreateCostMatrix_eq, ospf6MdrCreateCostMatrix_eq]
    simp [symmetricCost, reportedMatrix, skipPair, σ.injective.eq_iff]

end Matrix

/-! ### Breadth-first search -/

section SearchLoop
variable {n : Nat} (link : Fin n → Fin n → Bool) (transit : Fin n → Bool)

/-- Every neighbor with a finite hop count is reached from `maxOn` over links. -/
structure SearchInv (maxOn : Fin n) (s : Search n) : Prop where
  reached : ∀ u, s.hops u < infty → ReflTransGen (fun a b => link a b) maxOn u
  queued : ∀ u ∈ s.queue, s.hops u < infty
  bounded : ∀ u, s.hops u ≤ infty

variable {maxOn k : Fin n} {s : Search n}

lemma searchVisit_inv (h : SearchInv link maxOn s) (hk : s.hops k < infty) (u : Fin n) :
    SearchInv link maxOn (searchVisit link transit k s u) ∧
      (searchVisit link transit k s u).hops k < infty := by
  unfold searchVisit
  by_cases hc : (link k u && decide (s.hops k + 1 < s.hops u))
  · simp only [hc, ite_true]
    rw [Bool.and_eq_true, decide_eq_true_eq] at hc
    have hu : s.hops k + 1 < infty := lt_of_lt_of_le hc.2 (h.bounded u)
    have hlt : ∀ v, s.hops v < infty → Function.update s.hops u (s.hops k + 1) v < infty :=
      (Function.forall_update_iff s.hops fun v x => s.hops v < infty → x < infty).mpr
        ⟨fun _ => hu, fun _ _ => id⟩
    refine ⟨⟨?_, ?_, ?_⟩, hlt k hk⟩
    · exact (Function.forall_update_iff s.hops fun v x => x < infty → ReflTransGen _ maxOn v).mpr
        ⟨fun _ => (h.reached k hk).tail hc.1, fun v _ => h.reached v⟩
    · intro v hv
      have hcase : v ∈ s.queue ∨ v = u := by
        by_cases ht : transit u = true <;> simp_all
      rcases hcase with hv | rfl
      · exact hlt v (h.queued v hv)
      · simpa using hu
    · exact (Function.forall_update_iff s.hops fun _ x => x ≤ infty).mpr ⟨hu.le, fun v _ => h.bounded v⟩
  · simp only [hc, Bool.false_eq_true, ite_false]
    exact ⟨h, hk⟩

lemma searchVisits_inv (l : List (Fin n)) (h : SearchInv link maxOn s) (hk : s.hops k < infty) :
    SearchInv link maxOn (l.foldl (searchVisit link transit k) s) := by
  exact (foldlRecOn (motive := fun s => SearchInv link maxOn s ∧ s.hops k < infty) l _ ⟨h, hk⟩
    fun _ hs u _ => searchVisit_inv link transit hs.1 hs.2 u).1

lemma searchLoop_inv (fuel : Nat) (h : SearchInv link maxOn s) :
    SearchInv link maxOn (searchLoop link transit fuel s) := by
  induction fuel generalizing s with
  | zero => exact h
  | succ fuel ih =>
    unfold searchLoop
    split
    · exact h
    · next k q hq =>
      apply ih
      apply searchVisits_inv
      · exact ⟨h.reached, fun u hu => h.queued u (by simp [hq, hu]), h.bounded⟩
      · exact h.queued k (by simp [hq])

lemma search_inv (maxOn : Fin n) : SearchInv link maxOn (search link transit maxOn) := by
  apply searchLoop_inv
  refine ⟨?_, ?_, ?_⟩
  · exact (Function.forall_update_iff _ fun u x => x < infty → ReflTransGen _ maxOn u).mpr
      ⟨fun _ => .refl, fun u _ hu => absurd hu (lt_irrefl _)⟩
  · intro u hu
    have : u = maxOn := by simpa [searchStart] using hu
    subst this
    simp [searchStart, infty]
  · exact (Function.forall_update_iff _ fun _ x => x ≤ infty).mpr ⟨Nat.zero_le _, fun _ _ => le_rfl⟩

/-- What each step of the search makes smaller. -/
def searchMeasure (s : Search n) : Nat := (∑ u, s.hops u) + s.queue.length

lemma searchVisit_measure (k u : Fin n) (s : Search n) :
    searchMeasure (searchVisit link transit k s u) ≤ searchMeasure s := by
  unfold searchVisit
  by_cases hc : (link k u && decide (s.hops k + 1 < s.hops u))
  · simp only [hc, ite_true, searchMeasure]
    rw [Bool.and_eq_true, decide_eq_true_eq] at hc
    have hsum : (∑ v, Function.update s.hops u (s.hops k + 1) v) + 1 ≤ ∑ v, s.hops v := by
      apply Nat.succ_le_of_lt
      apply Finset.sum_lt_sum
      · intro v _
        by_cases he : v = u
        · subst he; simpa using hc.2.le
        · simp [Function.update_of_ne he]
      · exact ⟨u, Finset.mem_univ u, by simpa using hc.2⟩
    have hlen : (if transit u = true then s.queue ++ [u] else s.queue).length ≤ s.queue.length + 1 := by
      split_ifs <;> simp
    omega
  · simp only [hc, Bool.false_eq_true, ite_false, le_refl]

lemma searchVisits_measure (k : Fin n) (l : List (Fin n)) (s : Search n) :
    searchMeasure (l.foldl (searchVisit link transit k) s) ≤ searchMeasure s :=
  foldlRecOn (motive := fun s' => searchMeasure s' ≤ searchMeasure s) l _ le_rfl
    fun s' hs u _ => (searchVisit_measure link transit k u s').trans hs

lemma searchLoop_queue (fuel : Nat) (s : Search n) (h : searchMeasure s ≤ fuel) :
    (searchLoop link transit fuel s).queue = [] := by
  induction fuel generalizing s with
  | zero =>
    have hlen : s.queue.length = 0 := by unfold searchMeasure at h; omega
    exact length_eq_zero_iff.mp hlen
  | succ fuel ih =>
    unfold searchLoop
    split
    · next hq => exact hq
    · next k q hq =>
      apply ih
      have hstep := searchVisits_measure link transit k (List.finRange n) { s with queue := q }
      have hdrop : searchMeasure { s with queue := q } + 1 = searchMeasure s := by
        simp [searchMeasure, hq, add_assoc]
      omega

theorem search_queue (maxOn : Fin n) : (search link transit maxOn).queue = [] := by
  apply searchLoop_queue
  have hsum : (∑ u, (searchStart maxOn).hops u) ≤ ∑ _u : Fin n, infty := by
    apply Finset.sum_le_sum
    intro u _
    by_cases he : u = maxOn
    · subst he; simp [searchStart]
    · simp [searchStart, Function.update_of_ne he]
  simp only [Finset.sum_const, Finset.card_univ, Fintype.card_fin, smul_eq_mul] at hsum
  simp only [searchMeasure, searchFuel, searchStart, length_singleton] at hsum ⊢
  omega

end SearchLoop

end OspfMdr.Ospf6
