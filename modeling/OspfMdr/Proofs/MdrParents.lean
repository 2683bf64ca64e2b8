import OspfMdr.Proofs.MdrNetwork

namespace OspfMdr.Ospf6
open Option

variable {dr bdr : Bool} {maxPriority : Nat}

section Parents
variable {n : Nat} {nbr : Fin n → MdrNeighbor} {oi : MdrInterface}

/-- The candidate is none, or an eligible neighbor. -/
def MaxCandidate.From (nbr : Fin n → MdrNeighbor) (eligible : Fin n → Bool) (c : MaxCandidate n) :
    Prop :=
  (c.id = 0 ∧ c.on = none) ∨ ∃ j, eligible j ∧ c = MaxCandidate.ofNeighbor nbr j

variable {j maxOn : Fin n} {maxOn2 : Option (Fin n)}

lemma MaxCandidate.From.on {eligible : Fin n → Bool} {c : MaxCandidate n} (h : c.From nbr eligible)
    (hj : c.on = some j) : eligible j := by
  rcases h with ⟨-, hnone⟩ | ⟨i, hi, rfl⟩
  · rw [hnone] at hj
    exact absurd hj (by simp)
  · obtain rfl : i = j := some.inj hj
    exact hi

lemma selectMax_from (twoWay : Fin n → Bool) :
    (selectMax nbr twoWay).1.From nbr twoWay ∧ (selectMax nbr twoWay).2.From nbr twoWay := by
  refine List.foldlRecOn _ (selectMaxStep nbr twoWay)
    (motive := fun s => s.1.From nbr twoWay ∧ s.2.From nbr twoWay)
    ⟨.inl ⟨rfl, rfl⟩, .inl ⟨rfl, rfl⟩⟩ fun s ⟨h1, h2⟩ j _ => ?_
  unfold selectMaxStep
  split_ifs with hj
  · exact ⟨h1, h2⟩
  · exact ⟨.inr ⟨j, by simpa using hj, rfl⟩, h1⟩
  · exact ⟨h1, .inr ⟨j, by simpa using hj, rfl⟩⟩
  · exact ⟨h1, h2⟩

lemma selectAdjacent_from (maxPriority : Nat) (eligible : Fin n → Bool) :
    (selectAdjacent nbr maxPriority eligible).From nbr eligible := by
  refine List.foldlRecOn _ _ (.inl ⟨rfl, rfl⟩) fun c h j _ => ?_
  unfold selectAdjacentStep
  split_ifs with hj
  · exact h
  · exact .inr ⟨j, by simpa using hj, rfl⟩
  · exact h

lemma twoway_of_exchange {state : NeighborState} (h : ¬state.toNat < NeighborState.exchange.toNat) :
    state.IsTwoway :=
  le_trans (by decide) (not_lt.mp h)

lemma selectParent_twoway (hmax : (nbr maxOn).state.IsTwoway)
    (hj : selectParent nbr dr maxPriority maxOn = some j) : (nbr j).state.IsTwoway := by
  unfold selectParent at hj
  dsimp only at hj
  split_ifs at hj
  · have heligible := (selectAdjacent_from maxPriority (parentEligible nbr)).on hj
    simp only [parentEligible, Bool.and_eq_true, Bool.not_eq_true', decide_eq_false_iff_not] at heligible
    exact twoway_of_exchange heligible.1
  · rw [← some.inj hj]
    exact hmax

lemma selectBparent_twoway {parent : Option (Fin n)} (hmax : (nbr maxOn).state.IsTwoway)
    (hmax2 : ∀ i, maxOn2 = some i → (nbr i).state.IsTwoway)
    (hj : selectBparent nbr oi dr bdr maxPriority maxOn maxOn2 parent = some j) :
    (nbr j).state.IsTwoway := by
  unfold selectBparent at hj
  dsimp only at hj
  split_ifs at hj
  · rw [← some.inj hj]
    exact hmax
  · have heligible := (selectAdjacent_from maxPriority (bparentEligible nbr parent)).on hj
    simp only [bparentEligible, Bool.and_eq_true, Bool.not_eq_true', decide_eq_false_iff_not] at heligible
    exact twoway_of_exchange heligible.1.1
  · rw [← some.inj hj]
    exact hmax
  · exact hmax2 j hj

/-- What the parents chosen for a level satisfy. -/
structure ParentChoice (nbr : Fin n → MdrNeighbor) (level : MdrLevel) (parent bparent : Option (Fin n)) :
    Prop where
  twoway : ∀ j, parent = some j ∨ bparent = some j → NeighborState.twoway.toNat ≤ (nbr j).state.toNat
  mdr : level = .mdr → parent = none
  bmdr : level = .bmdr → bparent = none

lemma parentChoice_of (hbdr : (dr && bdr) = false) (low : MdrLevel) (maxPriority : Nat)
    (hmax : (nbr maxOn).state.IsTwoway) (hmax2 : ∀ i, maxOn2 = some i → (nbr i).state.IsTwoway) :
    ParentChoice nbr (if bdr then .bmdr else if dr then (if dr then .mdr else low) else .other)
      (selectParent nbr dr maxPriority maxOn)
      (selectBparent nbr oi dr bdr maxPriority maxOn maxOn2 (selectParent nbr dr maxPriority maxOn)) := by
  refine ⟨fun j hj => ?_, fun hlevel => ?_, fun hlevel => ?_⟩
  · rcases hj with hj | hj
    · exact selectParent_twoway hmax hj
    · exact selectBparent_twoway hmax hmax2 hj
  · cases dr with
    | true => rfl
    | false => cases bdr <;> simp at hlevel
  · cases dr with
    | true =>
      rw [Bool.true_and] at hbdr
      simp [hbdr] at hlevel
    | false =>
      cases bdr with
      | true => rfl
      | false => simp at hlevel

lemma calculateMdr_choice (nbr : Fin n → MdrNeighbor) (oi : MdrInterface) :
    ∃ level nonflooding parent bparent dependent,
      calculateMdr nbr oi = finishMdr nbr oi level nonflooding parent bparent dependent ∧
      ParentChoice nbr level parent bparent := by
  obtain ⟨h1, h2⟩ := selectMax_from (isTwoWay nbr oi (ospf6MdrCreateCostMatrix nbr))
  have hnone : ∀ level, ParentChoice nbr level none none := fun level =>
    ⟨fun j hj => by simp at hj, fun _ => rfl, fun _ => rfl⟩
  unfold calculateMdr
  by_cases hid : (selectMax nbr (isTwoWay nbr oi (ospf6MdrCreateCostMatrix nbr))).1.id = 0
  · rw [if_pos hid]
    exact ⟨_, _, _, _, _, rfl, hnone _⟩
  rw [if_neg hid]
  obtain ⟨j, hj, hc⟩ := h1.resolve_left fun h => hid h.1
  have hon : (selectMax nbr (isTwoWay nbr oi (ospf6MdrCreateCostMatrix nbr))).1.on = some j := by
    rw [hc]
    rfl
  rw [hon]
  split_ifs
  · exact ⟨_, _, _, _, _, rfl, hnone _⟩
  · have hbdr : ∀ dr b : Bool, (dr && (!dr && b)) = false := by decide
    exact ⟨_, _, _, _, _, rfl, parentChoice_of (hbdr _ _) _ _ ((isTwoWay_iff j).mp hj)
      fun i hi => (isTwoWay_iff i).mp (h2.on hi)⟩

end Parents

end OspfMdr.Ospf6
