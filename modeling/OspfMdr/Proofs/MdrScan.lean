import OspfMdr.Lib.TopTwo
import OspfMdr.Proofs.MdrParents

/-!
# The scan for Rmax and for the second maximum

The scan starts with the key of a neighbor of priority 1 and router ID 0, and an Rmax is told from no
Rmax by its router ID.
-/

namespace OspfMdr.Ospf6
open Lib MaxCandidate

/-- The neighbor is in state 2-Way or higher. -/
def MdrNeighbor.TwoWay (on : MdrNeighbor) : Prop := NeighborState.twoway.toNat ≤ on.state.toNat

section scan

variable {n : Nat} (nbr : Fin n → MdrNeighbor)

/-- The candidate for a neighbor, or the one at the start. -/
def scanned (start : MaxCandidate n) : Option (Fin n) → MaxCandidate n
  | none => start
  | some j => ofNeighbor nbr j

lemma scanned_on {start : MaxCandidate n} (hstart : start.on = none) (o : Option (Fin n)) :
    (scanned nbr start o).on = o := by
  cases o with
  | none => exact hstart
  | some j => rfl

lemma exceeds_scanned (start : MaxCandidate n) (o : Option (Fin n)) (j : Fin n) :
    (exceeds nbr j (scanned nbr start o)) =
      (height (fun j => (nbr j).rank) start.rank o < (nbr j).rank) := by
  rw [exceeds_iff]
  cases o <;> rfl

lemma selectMax_eq (twoWay : Fin n → Bool) :
    selectMax nbr twoWay =
      Prod.map (scanned nbr (maxCandidateInit n)) (scanned nbr (maxCandidateInit n))
        (topTwo (fun j => (nbr j).rank) (maxCandidateInit n).rank ((List.finRange n).filter twoWay)) :=
    by
  have hstep : ∀ (c : Option (Fin n) × Option (Fin n)) (j : Fin n),
      selectMaxStep nbr twoWay (Prod.map (scanned nbr (maxCandidateInit n)) (scanned nbr (maxCandidateInit n)) c) j =
        Prod.map (scanned nbr (maxCandidateInit n)) (scanned nbr (maxCandidateInit n))
          (if twoWay j then topTwoStep (fun j => (nbr j).rank) (maxCandidateInit n).rank c j else c) := by
    intro c j
    unfold selectMaxStep topTwoStep
    simp only [Prod.map_fst, Prod.map_snd, exceeds_scanned]
    cases twoWay j
    · simp
    · simp only [Bool.not_true, Bool.false_eq_true, if_false, if_true]
      split_ifs <;> rfl
  unfold topTwo selectMax
  rw [List.foldl_filter, ← List.foldl_hom _ hstep]
  rfl

variable {nbr} {oi : MdrInterface}

lemma rank_inj (hid : Function.Injective fun j => (nbr j).routerId) :
    Function.Injective fun j => (nbr j).rank := by
  intro i j h
  have h2 : (nbr i).priority = (nbr j).priority ∧
      (nbr i).mdrLevel.toNat = (nbr j).mdrLevel.toNat ∧ (nbr i).routerId = (nbr j).routerId := by
    simpa [MdrNeighbor.rank, lexRank] using h
  exact hid h2.2.2

/-- The largest and the second largest two-way neighbor that the calculation finds. -/
abbrev mdrScan (nbr : Fin n → MdrNeighbor) (oi : MdrInterface) : MaxCandidate n × MaxCandidate n :=
  selectMax nbr (isTwoWay nbr oi (ospf6MdrCreateCostMatrix nbr))

/-- The neighbor is the largest of the two-way ones. -/
def IsRmax (nbr : Fin n → MdrNeighbor) : Fin n → Prop :=
  IsLargest (fun j => (nbr j).rank) fun j => (nbr j).TwoWay

/-- The neighbor is the second largest of the two-way ones. -/
def IsSecondMax (nbr : Fin n → MdrNeighbor) : Fin n → Prop :=
  IsSecondLargest (fun j => (nbr j).rank) fun j => (nbr j).TwoWay

section found

variable (hid : Function.Injective fun j => (nbr j).routerId) {j : Fin n}
include hid

lemma selectMax_topInv (oi : MdrInterface) :
    ∃ c : Option (Fin n) × Option (Fin n), TopInv (fun j => (nbr j).rank) (maxCandidateInit n).rank
        ((List.finRange n).filter (isTwoWay nbr oi (ospf6MdrCreateCostMatrix nbr))) c ∧
      (mdrScan nbr oi).1 = scanned nbr (maxCandidateInit n) c.1 ∧
      (mdrScan nbr oi).2 = scanned nbr (maxCandidateInit n) c.2 := by
  refine ⟨_, topTwo_inv ?_, congrArg Prod.fst (selectMax_eq nbr _), congrArg Prod.snd (selectMax_eq nbr _)⟩
  exact ((List.nodup_finRange n).filter _).map (rank_inj hid)

omit hid in
lemma mem_twoWay (j : Fin n) :
    j ∈ (List.finRange n).filter (isTwoWay nbr oi (ospf6MdrCreateCostMatrix nbr)) ↔ (nbr j).TwoWay := by
  simp [isTwoWay_iff, MdrNeighbor.TwoWay]

lemma selectMax_isRmax (hj : (mdrScan nbr oi).1.on = some j) :
    IsRmax nbr j ∧ (maxCandidateInit n).rank < (nbr j).rank := by
  obtain ⟨c, hc, hfst, -⟩ := selectMax_topInv hid oi
  rw [hfst, scanned_on nbr rfl] at hj
  exact ⟨hc.isLargest mem_twoWay (fun i j _ _ h => rank_inj hid h) hj, (hc.first_mem j hj).2⟩

lemma selectMax_of_isRmax (hj : IsRmax nbr j) (hlt : (maxCandidateInit n).rank < (nbr j).rank) :
    (mdrScan nbr oi).1 = ofNeighbor nbr j := by
  obtain ⟨c, hc, hfst, -⟩ := selectMax_topInv hid oi
  rw [hfst, hc.first_eq mem_twoWay hj hlt]
  rfl

lemma selectMax_isSecondMax (hj : (mdrScan nbr oi).2.on = some j) :
    IsSecondMax nbr j ∧ (maxCandidateInit n).rank < (nbr j).rank := by
  obtain ⟨c, hc, -, hsnd⟩ := selectMax_topInv hid oi
  rw [hsnd, scanned_on nbr rfl] at hj
  exact ⟨hc.isSecondLargest mem_twoWay (fun i j _ _ h => rank_inj hid h) hj, (hc.second_mem j hj).2.1⟩

lemma selectMax_of_isSecondMax (hj : IsSecondMax nbr j)
    (hlt : (maxCandidateInit n).rank < (nbr j).rank) : (mdrScan nbr oi).2.on = some j := by
  obtain ⟨c, hc, -, hsnd⟩ := selectMax_topInv hid oi
  rw [hsnd, scanned_on nbr rfl, hc.second_eq mem_twoWay hj hlt]

lemma exists_isRmax (hj : (nbr j).TwoWay) : ∃ i, IsRmax nbr i :=
  exists_isLargest (fun _ _ _ _ h => rank_inj hid h) ⟨j, hj⟩

end found

lemma start_lt_rank_iff (j : Fin n) : (maxCandidateInit n).rank < (nbr j).rank ↔ 1 ≤
    (nbr j).priority ∧ ((nbr j).priority = 1 → (nbr j).mdrLevel = .other → (nbr j).routerId ≠ 0) :=
    by
  unfold rank MdrNeighbor.rank lexRank maxCandidateInit
  rw [Prod.Lex.toLex_lt_toLex, Prod.Lex.toLex_lt_toLex]
  cases (nbr j).mdrLevel <;> simp [MdrLevel.toNat] <;> omega

lemma calculateMdr_exit (hzero : (mdrScan nbr oi).1.id = 0) :
    (calculateMdr nbr oi).mdrLevel ≠ .mdr ∧ (calculateMdr nbr oi).parent = none := by
  unfold calculateMdr
  rw [if_pos hzero]
  exact ⟨nofun, rfl⟩

/-- The result where the router is no MDR. -/
structure NotMdr (nbr : Fin n → MdrNeighbor) (oi r : MdrInterface) (maxOn : Fin n) (maxOn2 : Option (Fin n))
    (bdr : Bool) : Prop where
  level : r.mdrLevel = if bdr then .bmdr else .other
  parent : r.parent = (selectParent nbr false (nbr maxOn).priority maxOn).map fun j => (nbr j).routerId
  bparent : r.bparent = (selectBparent nbr oi false bdr (nbr maxOn).priority maxOn maxOn2
    (selectParent nbr false (nbr maxOn).priority maxOn)).map fun j => (nbr j).routerId

lemma finishSmaller_notMdr {m : CostMatrix n} {maxOn : Fin n} {maxOn2 : Option (Fin n)}
    (hlevel : (finishSmaller nbr oi m (nbr maxOn).priority maxOn maxOn2).mdrLevel ≠ .mdr) : ∃ bdr,
    NotMdr nbr oi (finishSmaller nbr oi m (nbr maxOn).priority maxOn maxOn2) maxOn maxOn2 bdr := by
  have hdr : (List.finRange n).any
      (exceedsConstraint nbr oi m (search (mdrLink nbr oi m) (fun _ => true) maxOn)) = false := by
    rw [Ne, finishSmaller_mdrLevel, not_exists] at hlevel
    exact List.any_eq_false.mpr fun k _ => hlevel k
  -- the flag of the backup MDRs is read off the level
  refine ⟨!decide ((finishSmaller nbr oi m (nbr maxOn).priority maxOn maxOn2).mdrLevel = .other), ?_⟩
  unfold finishSmaller finishMdr
  simp only [hdr, Bool.not_false, Bool.true_and, Bool.false_eq_true, if_false]
  cases (List.finRange n).any _ <;> exact ⟨rfl, rfl, rfl⟩

lemma calculateMdr_notMdr {j : Fin n} (hid : (nbr j).routerId ≠ 0)
    (hmax : (mdrScan nbr oi).1 = ofNeighbor nbr j)
    (hlevel : (calculateMdr nbr oi).mdrLevel ≠ .mdr) :
    ∃ bdr, NotMdr nbr oi (calculateMdr nbr oi) j (mdrScan nbr oi).2.on bdr := by
  have hexit : ¬(ofNeighbor nbr j).id = 0 := hid
  by_cases hlex : ospf6SidcdsLexicographic oi.priority (nbr j).priority oi.mdrLevel.toNat
      (nbr j).mdrLevel.toNat oi.routerId (nbr j).routerId
  · have hlargest : calculateMdr nbr oi = finishLargest nbr oi (ospf6MdrCreateCostMatrix nbr) := by
      unfold calculateMdr
      dsimp only
      rw [hmax, if_neg hexit]
      exact if_pos hlex
    rw [hlargest] at hlevel
    exact absurd rfl hlevel
  have hsmaller : calculateMdr nbr oi = finishSmaller nbr oi (ospf6MdrCreateCostMatrix nbr) (nbr j).priority j
      (mdrScan nbr oi).2.on := by
    unfold calculateMdr
    dsimp only
    rw [hmax, if_neg hexit]
    exact if_neg hlex
  rw [hsmaller] at hlevel ⊢
  exact finishSmaller_notMdr hlevel

lemma selectParent_isSome (maxPriority : Nat) (maxOn : Fin n) :
    selectParent nbr false maxPriority maxOn ≠ none := by
  unfold selectParent
  dsimp only
  rw [if_neg Bool.false_ne_true]
  split_ifs with h
  · obtain ⟨j, -, hj⟩ := (selectAdjacent_from maxPriority (parentEligible nbr)).resolve_left fun hnone => h hnone.1
    rw [hj]
    exact nofun
  · exact nofun

/-- What the scan is for, and that the exit for a router without neighbors is only taken by one. -/
structure ScanCorrect (nbr : Fin n → MdrNeighbor) (oi : MdrInterface) (c : MaxCandidate n × MaxCandidate n) :
    Prop where
  first : ∀ j, c.1.on = some j ↔ IsRmax nbr j
  second : ∀ j, c.2.on = some j ↔ IsSecondMax nbr j
  exit : (calculateMdr nbr oi).mdrLevel ≠ .mdr → (calculateMdr nbr oi).parent = none → ∀ j, ¬(nbr j).TwoWay

/-- The scan finds the two largest neighbors exactly if these have a priority and an ID above the start. -/
theorem selectMax_correct_iff (nbr : Fin n → MdrNeighbor) (oi : MdrInterface)
    (hid : Function.Injective fun j => (nbr j).routerId) :
    ScanCorrect nbr oi (selectMax nbr (isTwoWay nbr oi (ospf6MdrCreateCostMatrix nbr))) ↔
      (∀ j, IsRmax nbr j → 1 ≤ (nbr j).priority ∧ (nbr j).routerId ≠ 0) ∧
      (∀ j, IsSecondMax nbr j →
          1 ≤ (nbr j).priority ∧
          ((nbr j).priority = 1 → (nbr j).mdrLevel = .other → (nbr j).routerId ≠ 0)) := by
  constructor
  · rintro ⟨hfirst, hsecond, hexit⟩
    refine ⟨fun j hj => ?_, fun j hj => ?_⟩
    · have hlt := (selectMax_isRmax hid ((hfirst j).mpr hj)).2
      refine ⟨((start_lt_rank_iff j).mp hlt).1, fun hzero => ?_⟩
      have hmax : (mdrScan nbr oi).1.id = 0 := by
        rw [selectMax_of_isRmax hid hj hlt]
        exact hzero
      exact hexit (calculateMdr_exit hmax).1 (calculateMdr_exit hmax).2 j hj.1
    · exact (start_lt_rank_iff j).mp (selectMax_isSecondMax hid ((hsecond j).mpr hj)).2
  · rintro ⟨hfirst, hsecond⟩
    have hmax : ∀ j, IsRmax nbr j → (mdrScan nbr oi).1 =
        ofNeighbor nbr j := fun j hj =>
      selectMax_of_isRmax hid hj ((start_lt_rank_iff j).mpr ⟨(hfirst j hj).1, fun _ _ => (hfirst j hj).2⟩)
    refine ⟨fun j => ⟨fun hj => (selectMax_isRmax hid hj).1, fun hj => ?_⟩,
      fun j => ⟨fun hj => (selectMax_isSecondMax hid hj).1, fun hj => ?_⟩, fun hlevel hparent j hj => ?_⟩
    · rw [hmax j hj]
      rfl
    · exact selectMax_of_isSecondMax hid hj ((start_lt_rank_iff j).mpr (hsecond j hj))
    · obtain ⟨i, hi⟩ := exists_isRmax hid hj
      obtain ⟨bdr, hresult⟩ := calculateMdr_notMdr (hfirst i hi).2 (hmax i hi) hlevel
      rw [hresult.parent, Option.map_eq_none_iff] at hparent
      exact selectParent_isSome _ _ hparent

end scan

def fullNeighbor (routerId priority : Nat) (level : MdrLevel) (rnl : List Nat) : MdrNeighbor :=
  ⟨routerId, priority, .full, level, true, rnl, false⟩

def exampleInterface : MdrInterface where
  routerId := 1
  priority := 0
  helloInterval := 2
  allowImmediateHello := false
  twoHopRefresh := 1
  adjConnectivity := .biConnected
  mdrConstraint := 3
  mdrLevel := .other
  nonfloodingMdr := false
  parent := none
  bparent := none
  neighborList := []

theorem selectMax_correct_two :
    ScanCorrect ![fullNeighbor 2 1 .mdr [], fullNeighbor 3 1 .other []] exampleInterface
      (selectMax ![fullNeighbor 2 1 .mdr [], fullNeighbor 3 1 .other []]
        (isTwoWay ![fullNeighbor 2 1 .mdr [], fullNeighbor 3 1 .other []] exampleInterface
          (ospf6MdrCreateCostMatrix ![fullNeighbor 2 1 .mdr [], fullNeighbor 3 1 .other []]))) := by
  refine (selectMax_correct_iff _ _ ?_).mpr ⟨fun j _ => ?_, fun j _ => ?_⟩
  · intro i j h
    fin_cases i <;> fin_cases j <;> simp_all [fullNeighbor]
  · fin_cases j <;> decide
  · fin_cases j <;> decide

/-- A neighbor with priority 0, and one with router ID 0. -/
theorem selectMax_skips :
    (∀ routerId priority, IsRmax ![fullNeighbor routerId priority .mdr []] 0) ∧
    (selectMax ![fullNeighbor 2 0 .mdr []] fun _ => true).1.on = none ∧
    (calculateMdr ![fullNeighbor 2 0 .mdr []] exampleInterface).mdrLevel = .other ∧
    (calculateMdr ![fullNeighbor 2 0 .mdr []] exampleInterface).parent = none ∧
    (selectMax ![fullNeighbor 0 5 .mdr []] fun _ => true).1.on = some 0 ∧
    (calculateMdr ![fullNeighbor 0 5 .mdr []] exampleInterface).mdrLevel = .other ∧
    (calculateMdr ![fullNeighbor 0 5 .mdr []] exampleInterface).parent = none := by
  refine ⟨fun routerId priority => ⟨?_, fun k _ hk => absurd (Subsingleton.elim k 0) hk⟩, ?_⟩
  · simp [MdrNeighbor.TwoWay, fullNeighbor, NeighborState.toNat]
  · decide

end OspfMdr.Ospf6
