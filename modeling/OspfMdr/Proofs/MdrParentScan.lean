import OspfMdr.Proofs.MdrScan

/-!
# The scans for the parent and the backup parent

Both scans compare with the priority of Rmax, which is left over from the scan for Rmax, so that they
only see neighbors of that priority. They also take the router ID 0 for "nobody found".
-/

namespace OspfMdr.Ospf6
open Lib List Option

variable {maxPriority : Nat}

section parents

variable {n : Nat} {nbr : Fin n → MdrNeighbor} {oi : MdrInterface}

def adjacentStart (n maxPriority : Nat) : MaxCandidate n := ⟨maxPriority, 0, 0, none⟩

lemma scanned_priority {o : Option (Fin n)} (ho : ∀ j, o = some j → (nbr j).priority = maxPriority) :
    { scanned nbr (adjacentStart n maxPriority) o with priority := maxPriority } =
      scanned nbr (adjacentStart n maxPriority) o := by
  cases o with
  | none => rfl
  | some j =>
    have hj := ho j rfl
    subst hj
    rfl

variable {j maxOn : Fin n} {eligible : Fin n → Bool} {S : Fin n → Prop} {level : MdrLevel}

lemma start_lt_iff (hle : (nbr j).priority ≤ maxPriority) (hlevel : 0 < (nbr j).mdrLevel.toNat) :
    (adjacentStart n maxPriority).rank < (nbr j).rank ↔ (nbr j).priority = maxPriority := by
  unfold MaxCandidate.rank MdrNeighbor.rank lexRank adjacentStart
  rw [Prod.Lex.toLex_lt_toLex, Prod.Lex.toLex_lt_toLex]
  dsimp only
  omega

lemma le_priority {priority level id : Nat} {on : MdrNeighbor}
    (h : lexRank priority level id < on.rank) : priority ≤ on.priority := by
  unfold MdrNeighbor.rank lexRank at h
  rw [Prod.Lex.toLex_lt_toLex] at h
  omega

lemma selectAdjacent_eq (hle : ∀ j, eligible j → (nbr j).priority ≤ maxPriority) :
    selectAdjacent nbr maxPriority eligible =
      scanned nbr (adjacentStart n maxPriority) (topTwo (fun j => (nbr j).rank)
        (adjacentStart n maxPriority).rank ((List.finRange n).filter eligible)).1 := by
  -- everybody found so far has the priority of Rmax
  have hfold : ∀ (l : List (Fin n)) (o : Option (Fin n)), (∀ j, o = some j → (nbr j).priority = maxPriority) →
      l.foldl (selectAdjacentStep nbr maxPriority eligible) (scanned nbr (adjacentStart n maxPriority) o) =
        scanned nbr (adjacentStart n maxPriority)
          ((l.filter eligible).foldl (topStep (fun j => (nbr j).rank) (adjacentStart n maxPriority).rank) o) := by
    intro l
    induction l with
    | nil => exact fun _ _ => rfl
    | cons j l ih =>
      intro o ho
      rw [foldl_cons, selectAdjacentStep, scanned_priority ho]
      cases hj : eligible j with
      | false =>
        rw [filter_cons_of_neg (by simp [hj])]
        exact ih o ho
      | true =>
        rw [filter_cons_of_pos hj, foldl_cons, topStep]
        simp only [Bool.not_true, Bool.false_eq_true, if_false, exceeds_scanned]
        split_ifs with hlt
        · refine ih (some j) ?_
          rintro i ⟨⟩
          refine le_antisymm (hle _ hj) ?_
          cases o with
          | none => exact le_priority hlt
          | some i =>
            rw [← ho i rfl]
            exact le_priority hlt
        · exact ih o ho
  rw [topTwo_fst]
  exact hfold _ none nofun

lemma selectAdjacent_cases (hid : Function.Injective fun j => (nbr j).routerId) (hS : ∀ j, eligible j ↔ S j)
    (hle : ∀ j, S j → (nbr j).priority ≤ maxPriority) (hlevel : ∀ j, S j → 0 < (nbr j).mdrLevel.toNat) :
    (∃ e, selectAdjacent nbr maxPriority eligible = MaxCandidate.ofNeighbor nbr e ∧
        IsLargest (fun j => (nbr j).rank) S e ∧ (nbr e).priority = maxPriority) ∨
    (selectAdjacent nbr maxPriority eligible = adjacentStart n maxPriority ∧
      ∀ e, IsLargest (fun j => (nbr j).rank) S e → (nbr e).priority ≠ maxPriority) := by
  have hinv : TopInv (fun j => (nbr j).rank) (adjacentStart n maxPriority).rank
      ((List.finRange n).filter eligible) _ :=
    topTwo_inv (((nodup_finRange n).filter _).map (rank_inj hid))
  have hmem : ∀ j, j ∈ (List.finRange n).filter eligible ↔ S j := fun j => by simp [hS]
  rw [selectAdjacent_eq fun j hj => hle j ((hS j).mp hj)]
  cases hc : (topTwo (fun j => (nbr j).rank) (adjacentStart n maxPriority).rank
      ((List.finRange n).filter eligible)).1 with
  | none =>
    refine .inr ⟨rfl, fun e he hpriority => ?_⟩
    have hlt := (start_lt_iff (hle e he.1) (hlevel e he.1)).mpr hpriority
    rw [hinv.first_eq hmem he hlt] at hc
    exact absurd hc nofun
  | some e =>
    have he := hinv.isLargest hmem (fun i j _ _ h => rank_inj hid h) hc
    exact .inl ⟨e, rfl, he, (start_lt_iff (hle e he.1) (hlevel e he.1)).mp (hinv.first_mem e hc).2⟩

/-- The neighbor is adjacent and has the level at least. -/
def AdjacentOf (nbr : Fin n → MdrNeighbor) (level : MdrLevel) (j : Fin n) : Prop :=
  NeighborState.exchange.toNat ≤ (nbr j).state.toNat ∧ level.toNat ≤ (nbr j).mdrLevel.toNat

lemma AdjacentOf.twoWay (h : AdjacentOf nbr level j) : (nbr j).TwoWay :=
  le_trans (by decide) h.1

lemma bparentEligible_iff (parent : Option (Fin n)) (j : Fin n) :
    bparentEligible nbr parent j ↔ AdjacentOf nbr .bmdr j ∧ parent ≠ some j := by
  simp only [bparentEligible, AdjacentOf, Bool.and_eq_true, Bool.not_eq_true', decide_eq_false_iff_not, not_lt]
  tauto

lemma priority_le_of_isLargest (hmax : IsRmax nbr maxOn) (hj : (nbr j).TwoWay) :
    (nbr j).priority ≤ (nbr maxOn).priority := by
  by_cases hne : j = maxOn
  · rw [hne]
  · exact le_priority (hmax.2 j hj hne)

/-- What a scan that starts with the priority of Rmax can tell from its start value. -/
def Seen (nbr : Fin n → MdrNeighbor) (maxPriority : Nat) (e : Fin n) : Prop :=
  (nbr e).priority = maxPriority ∧ (nbr e).routerId ≠ 0

/-- The largest neighbor of `S` is chosen if the scan sees it. -/
def Chosen (nbr : Fin n → MdrNeighbor) (S : Fin n → Prop) (maxPriority : Nat)
    (fallback o : Option (Fin n)) : Prop :=
  (∃ e, o = some e ∧ IsLargest (fun j => (nbr j).rank) S e ∧ Seen nbr maxPriority e) ∨
    (o = fallback ∧ ∀ e, IsLargest (fun j => (nbr j).rank) S e → ¬Seen nbr maxPriority e)

section
variable (hid : Function.Injective fun j => (nbr j).routerId) (hmax : IsRmax nbr maxOn)
include hid hmax

lemma chosen_of_eligible (fallback : Option (Fin n))
    (hS : ∀ j, eligible j ↔ S j) (hadjacent : ∀ j, S j → AdjacentOf nbr level j)
    (hlevel : 0 < level.toNat) : Chosen nbr S (nbr maxOn).priority fallback (if
      (selectAdjacent nbr (nbr maxOn).priority eligible).id ≠ 0 then
      (selectAdjacent nbr (nbr maxOn).priority eligible).on else fallback) := by
  rcases selectAdjacent_cases hid hS (fun j hj => priority_le_of_isLargest hmax (hadjacent j hj).twoWay)
      (fun j hj => hlevel.trans_le (hadjacent j hj).2) with ⟨e, hscan, he, hpriority⟩ | ⟨hscan, hnone⟩
  · rw [hscan]
    by_cases hzero : (nbr e).routerId = 0
    · refine .inr ⟨if_neg fun h => h hzero, fun i hi hseen => hseen.2 ?_⟩
      rw [hi.unique he, hzero]
    · exact .inl ⟨e, if_pos hzero, he, hpriority, hzero⟩
  · rw [hscan]
    exact .inr ⟨if_neg fun h => h rfl, fun e he hseen => hnone e he hseen.1⟩

lemma selectParent_chosen : Chosen nbr (AdjacentOf nbr .mdr) (nbr maxOn).priority (some maxOn)
    (selectParent nbr false (nbr maxOn).priority maxOn) := by
  unfold selectParent
  rw [if_neg Bool.false_ne_true]
  exact chosen_of_eligible hid hmax _ (by simp [parentEligible, AdjacentOf]) (fun _ => id) (by decide)

lemma selectBparent_chosen (maxOn2 parent : Option (Fin n)) (hconn : oi.adjConnectivity = .biConnected) :
    Chosen nbr (fun j => AdjacentOf nbr .bmdr j ∧ parent ≠ some j) (nbr maxOn).priority
      (if parent ≠ some maxOn then some maxOn else maxOn2)
      (selectBparent nbr oi false false (nbr maxOn).priority maxOn maxOn2 parent) := by
  unfold selectBparent
  rw [if_neg Bool.false_ne_true, if_pos (show (!false && oi.adjConnectivity == .biConnected) = true by simp [hconn])]
  exact chosen_of_eligible hid hmax _ (bparentEligible_iff parent) (fun _ => And.left) (by decide)

end

/-- The parent and the backup parent of a router that is not an MDR, as the comment over phase 4 has them. -/
structure ParentsCorrect (nbr : Fin n → MdrNeighbor) (oi r : MdrInterface) : Prop where
  parent : ∀ e, IsLargest (fun j => (nbr j).rank) (AdjacentOf nbr .mdr) e → r.parent = some (nbr e).routerId
  parent_max : (∀ e, ¬AdjacentOf nbr .mdr e) → ∀ x, IsRmax nbr x → r.parent = some (nbr x).routerId
  bparent : r.mdrLevel = .other → oi.adjConnectivity = .biConnected →
    ∀ e, IsLargest (fun j => (nbr j).rank)
      (fun j => AdjacentOf nbr .bmdr j ∧ r.parent ≠ some (nbr j).routerId) e → r.bparent = some (nbr e).routerId
  bparent_max : r.mdrLevel = .other → oi.adjConnectivity = .biConnected →
    (∀ e, ¬(AdjacentOf nbr .bmdr e ∧ r.parent ≠ some (nbr e).routerId)) → ∀ x, IsRmax nbr x →
    (r.parent ≠ some (nbr x).routerId → r.bparent = some (nbr x).routerId) ∧
    (r.parent = some (nbr x).routerId →
      ∀ id, r.bparent = some id ↔ ∃ y, IsSecondMax nbr y ∧ (nbr y).routerId = id)
  ne_parent : ∀ id, r.bparent = some id → r.parent ≠ some id

/-- The largest adjacent MDR neighbor, or Rmax `x` if there is none. -/
def RightParent (nbr : Fin n → MdrNeighbor) (x p : Fin n) : Prop :=
  IsLargest (fun j => (nbr j).rank) (AdjacentOf nbr .mdr) p ∨ (∀ e, ¬AdjacentOf nbr .mdr e) ∧ p = x

lemma RightParent.unique {x p q : Fin n} (hp : RightParent nbr x p) (hq : RightParent nbr x q) : p = q := by
  rcases hp with hp | ⟨hnone, rfl⟩
  · rcases hq with hq | ⟨hnone, -⟩
    · exact hp.unique hq
    · exact absurd hp.1 (hnone p)
  · rcases hq with hq | ⟨-, rfl⟩
    · exact absurd hq.1 (hnone q)
    · rfl

/-- The scan for Rmax starts at priority 1, level 0 and router ID 0. -/
def AboveStart (on : MdrNeighbor) : Prop :=
  on.priority = 1 → on.mdrLevel = .other → on.routerId ≠ 0

/-- The neighbors for which the scans of phase 4 find whom they look for. Rmax is `x`, and `other` says that
the router has to look for a backup parent. -/
structure ParentsVisible (nbr : Fin n → MdrNeighbor) (other : Prop) (x : Fin n) : Prop where
  rmax : (nbr x).routerId ≠ 0
  parent : ∀ e, IsLargest (fun j => (nbr j).rank) (AdjacentOf nbr .mdr) e → Seen nbr (nbr x).priority e
  bparent : other → ∀ p, RightParent nbr x p → ∀ e, IsLargest (fun j => (nbr j).rank)
    (fun j => AdjacentOf nbr .bmdr j ∧ p ≠ j) e → Seen nbr (nbr x).priority e ∨ p = x ∧ IsSecondMax nbr e
  second : other → RightParent nbr x x → (∀ e, ¬(AdjacentOf nbr .bmdr e ∧ x ≠ e)) →
    ∀ y, IsSecondMax nbr y → AboveStart (nbr y)

/-- A choice of a parent and a backup parent given by the neighbors themselves. -/
structure ParentScans (nbr : Fin n → MdrNeighbor) (oi r : MdrInterface) (x p : Fin n)
    (bparent : Option (Fin n)) : Prop where
  parent_id : r.parent = some (nbr p).routerId
  bparent_id : r.bparent = bparent.map fun j => (nbr j).routerId
  rmax : IsRmax nbr x
  parent_cases : Chosen nbr (AdjacentOf nbr .mdr) (nbr x).priority (some x) (some p)
  bparent_cases : r.mdrLevel = .other ∧ oi.adjConnectivity = .biConnected →
    ∃ fallback, Chosen nbr (fun j => AdjacentOf nbr .bmdr j ∧ p ≠ j) (nbr x).priority fallback bparent ∧
      (p ≠ x → fallback = some x) ∧
      (p = x → ∀ y, fallback = some y ↔ IsSecondMax nbr y ∧ AboveStart (nbr y))
  bparent_none : ¬(r.mdrLevel = .other ∧ oi.adjConnectivity = .biConnected) → bparent = none

section iff

variable (hid : Function.Injective fun j => (nbr j).routerId) {r : MdrInterface} {x p : Fin n}
  {bparent : Option (Fin n)}
include hid

lemma map_routerId_eq (o : Option (Fin n)) (j : Fin n) :
    (o.map fun j => (nbr j).routerId) = some (nbr j).routerId ↔ o = some j := by
  rw [← map_some (f := fun j => (nbr j).routerId)]
  exact (map_injective hid).eq_iff

lemma ParentsCorrect.exists_parent (hc : ParentsCorrect nbr oi r) (hx : IsRmax nbr x) :
    ∃ e, r.parent = some (nbr e).routerId := by
  by_cases hex : ∃ e, AdjacentOf nbr .mdr e
  · obtain ⟨e, he⟩ := exists_isLargest (fun _ _ _ _ h => rank_inj hid h) hex
    exact ⟨e, hc.parent e he⟩
  · exact ⟨x, hc.parent_max (not_exists.mp hex) x hx⟩

lemma mdrScan_id_eq_zero (hx : IsRmax nbr x) (hzero : (nbr x).routerId = 0) : (mdrScan nbr oi).1.id = 0 := by
  obtain ⟨c, hc, hfst, -⟩ := selectMax_topInv hid oi
  rw [hfst]
  cases hc1 : c.1 with
  | none => rfl
  | some j =>
    have hj := hc.isLargest mem_twoWay (fun i j _ _ h => rank_inj hid h) hc1
    rw [hj.unique hx]
    exact hzero

lemma exists_parentScans (hpos : ∀ j, 0 < (nbr j).priority) (hzero : (nbr x).routerId ≠ 0)
    (hx : IsRmax nbr x) (hlevel : (calculateMdr nbr oi).mdrLevel ≠ .mdr) :
    ∃ p bparent, ParentScans nbr oi (calculateMdr nbr oi) x p bparent := by
  have hlt : (maxCandidateInit n).rank < (nbr x).rank :=
    (start_lt_rank_iff x).mpr ⟨hpos x, fun _ _ => hzero⟩
  obtain ⟨bdr, hresult⟩ := calculateMdr_notMdr hzero (selectMax_of_isRmax hid hx hlt) hlevel
  obtain ⟨p, hp⟩ : ∃ p, selectParent nbr false (nbr x).priority x = some p :=
    Option.ne_none_iff_exists'.mp (selectParent_isSome (nbr x).priority x)
  have hparent := selectParent_chosen hid hx
  rw [hp] at hparent
  refine ⟨p, _, by rw [hresult.parent, hp]; rfl, hresult.bparent, hx, hparent, fun hscan => ?_, fun hnone => ?_⟩
  · have hbdr : bdr = false := by
      have hother := hresult.level.symm.trans hscan.1
      cases bdr with
      | false => rfl
      | true => exact absurd hother nofun
    subst hbdr
    have hchosen := selectBparent_chosen hid hx (mdrScan nbr oi).2.on (some p) hscan.2
    simp only [ne_eq, Option.some.injEq] at hchosen
    refine ⟨_, by rw [hp]; exact hchosen, fun hne => if_pos hne, fun heq y => ?_⟩
    · rw [if_neg (not_not.mpr heq)]
      constructor
      · intro hy
        obtain ⟨hsecond, hstart⟩ := selectMax_isSecondMax hid hy
        exact ⟨hsecond, ((start_lt_rank_iff y).mp hstart).2⟩
      · rintro ⟨hsecond, hstart⟩
        exact selectMax_of_isSecondMax hid hsecond ((start_lt_rank_iff y).mpr ⟨hpos y, hstart⟩)
  · unfold selectBparent
    rw [if_neg Bool.false_ne_true, if_neg]
    intro h
    rw [Bool.and_eq_true, beq_iff_eq, Bool.not_eq_true'] at h
    exact hnone ⟨by rw [hresult.level, h.1]; rfl, h.2⟩

section correct

variable (h : ParentScans nbr oi r x p bparent) {e : Fin n}
include h

lemma ParentScans.parent_eq (j : Fin n) : r.parent = some (nbr j).routerId ↔ p = j := by
  rw [h.parent_id, Option.some.injEq]
  exact hid.eq_iff

lemma ParentScans.bparent_eq (j : Fin n) : r.bparent = some (nbr j).routerId ↔ bparent = some j := by
  rw [h.bparent_id, map_routerId_eq hid]

lemma ParentScans.ne_parent (id : Nat) (hb : r.bparent = some id) : r.parent ≠ some id := by
  rw [h.bparent_id, map_eq_some_iff] at hb
  obtain ⟨b, hb, rfl⟩ := hb
  rw [Ne, h.parent_eq hid]
  by_cases hscan : r.mdrLevel = .other ∧ oi.adjConnectivity = .biConnected
  · obtain ⟨fallback, ⟨e, he, hlargest, -⟩ | ⟨hfallback, -⟩, hmax, hsecond⟩ := h.bparent_cases hscan
    · obtain rfl : e = b := some.inj (he.symm.trans hb)
      exact hlargest.1.2
    · rw [hfallback] at hb
      by_cases hpx : p = x
      · obtain ⟨-, i, hne, hi, -⟩ := ((hsecond hpx b).mp hb).1
        rw [hpx, h.rmax.unique hi]
        exact hne
      · obtain rfl : x = b := some.inj ((hmax hpx).symm.trans hb)
        exact hpx
  · rw [h.bparent_none hscan] at hb
    exact absurd hb nofun

/-- A parent that is as it should be is one that the scan for it has seen, if it scanned anybody. -/
lemma ParentScans.parent_iff (hzero : (nbr x).routerId ≠ 0) : RightParent nbr x p ↔
    ∀ e, IsLargest (fun j => (nbr j).rank) (AdjacentOf nbr .mdr) e → Seen nbr (nbr x).priority e := by
  rcases h.parent_cases with ⟨i, hi, hlargest, hseen⟩ | ⟨hpx, hnone⟩
  · obtain rfl : p = i := some.inj hi
    exact iff_of_true (.inl hlargest) fun e he => by rw [he.unique hlargest]; exact hseen
  · obtain rfl : p = x := some.inj hpx
    constructor
    · rintro (hlargest | ⟨hempty, -⟩) e he
      · rw [he.unique hlargest]
        exact ⟨rfl, hzero⟩
      · exact absurd he.1 (hempty e)
    · intro hseen
      refine .inr ⟨fun e he => ?_, rfl⟩
      obtain ⟨i, hi⟩ := exists_isLargest (fun _ _ _ _ h => rank_inj hid h) ⟨e, he⟩
      exact hnone i hi (hseen i hi)

lemma ParentScans.rightParent_of_correct (hc : ParentsCorrect nbr oi r) : RightParent nbr x p := by
  by_cases hex : ∃ e, AdjacentOf nbr .mdr e
  · obtain ⟨e, he⟩ := hex
    obtain ⟨i, hi⟩ := exists_isLargest (fun _ _ _ _ h => rank_inj hid h) ⟨e, he⟩
    obtain rfl := (h.parent_eq hid i).mp (hc.parent i hi)
    exact .inl hi
  · have hnone := not_exists.mp hex
    exact .inr ⟨hnone, (h.parent_eq hid x).mp (hc.parent_max hnone x h.rmax)⟩

lemma ParentScans.visible_of_correct (hzero : (nbr x).routerId ≠ 0) (hc : ParentsCorrect nbr oi r) :
    ParentsVisible nbr (r.mdrLevel = .other ∧ oi.adjConnectivity = .biConnected) x := by
  have hright := h.rightParent_of_correct hid hc
  refine ⟨hzero, (h.parent_iff hid hzero).mp hright, fun hscan q hq e he => ?_, fun hscan hq hnone y hy => ?_⟩
  · obtain rfl := hq.unique hright
    have hb : bparent = some e := (h.bparent_eq hid e).mp
      (hc.bparent hscan.1 hscan.2 e (by simpa only [Ne, h.parent_eq hid] using he))
    obtain ⟨fallback, ⟨i, hi, -, hseen⟩ | ⟨hfallback, -⟩, hmax, hsecond⟩ := h.bparent_cases hscan
    · rw [some.inj (hb.symm.trans hi)]
      exact .inl hseen
    · rw [hfallback] at hb
      by_cases hqx : q = x
      · exact .inr ⟨hqx, ((hsecond hqx e).mp hb).1⟩
      · obtain rfl : x = e := some.inj ((hmax hqx).symm.trans hb)
        exact .inl ⟨rfl, hzero⟩
  · obtain rfl := hq.unique hright
    have hb : bparent = some y := by
      refine (h.bparent_eq hid y).mp (((hc.bparent_max hscan.1 hscan.2 ?_ x h.rmax).2 h.parent_id _).mpr ⟨y, hy, rfl⟩)
      simpa only [Ne, h.parent_eq hid] using hnone
    obtain ⟨fallback, ⟨i, -, hi, -⟩ | ⟨hfallback, -⟩, -, hsecond⟩ := h.bparent_cases hscan
    · exact absurd hi.1 (hnone i)
    · rw [hfallback] at hb
      exact ((hsecond rfl y).mp hb).2

lemma ParentScans.correct
    (hv : ParentsVisible nbr (r.mdrLevel = .other ∧ oi.adjConnectivity = .biConnected) x) :
    ParentsCorrect nbr oi r := by
  have hright := (h.parent_iff hid hv.rmax).mpr hv.parent
  refine ⟨fun e he => ?_, fun hnone y hy => ?_, fun hother hconn e he => ?_, fun hother hconn hnone y hy => ?_,
    h.ne_parent hid⟩
  · rw [h.parent_eq hid]
    exact hright.unique (.inl he)
  · rw [h.parent_eq hid, hy.unique h.rmax]
    exact hright.unique (.inr ⟨hnone, rfl⟩)
  · simp only [Ne, h.parent_eq hid] at he
    rw [h.bparent_eq hid]
    obtain ⟨fallback, ⟨i, hb, hi, -⟩ | ⟨hfallback, hne⟩, -, hsecond⟩ := h.bparent_cases ⟨hother, hconn⟩
    · rw [he.unique hi]
      exact hb
    · obtain ⟨hpx, hmax⟩ := (hv.bparent ⟨hother, hconn⟩ p hright e he).resolve_left (hne e he)
      -- a BMDR is above the start value of the scan for Rmax
      refine hfallback.trans ((hsecond hpx e).mpr ⟨hmax, fun _ hlevel => ?_⟩)
      have hbmdr := he.1.1.2
      rw [hlevel] at hbmdr
      exact absurd hbmdr (by decide)
  · simp only [Ne, h.parent_eq hid] at hnone
    rw [hy.unique h.rmax, Ne, h.parent_eq hid, h.bparent_eq hid]
    obtain ⟨fallback, ⟨i, -, hi, -⟩ | ⟨hfallback, -⟩, hmax, hsecond⟩ := h.bparent_cases ⟨hother, hconn⟩
    · exact absurd hi.1 (hnone i)
    refine ⟨fun hpx => hfallback.trans (hmax hpx), fun hpx id => ?_⟩
    subst hpx
    rw [h.bparent_id, map_eq_some_iff, hfallback]
    refine exists_congr fun y => and_congr_left fun _ => (hsecond rfl y).trans (and_iff_left_of_imp fun hy => ?_)
    exact hv.second ⟨hother, hconn⟩ hright hnone y hy

end correct

end iff

/-- Phase 4 chooses the parent and the backup parent as it should exactly if its scans can see them. -/
theorem calculateMdr_parents_iff (nbr : Fin n → MdrNeighbor) (oi : MdrInterface)
    (hpos : ∀ j, 0 < (nbr j).priority) (hid : Function.Injective fun j => (nbr j).routerId)
    (hlevel : (calculateMdr nbr oi).mdrLevel ≠ .mdr) :
    ParentsCorrect nbr oi (calculateMdr nbr oi) ↔
      ∀ x, IsRmax nbr x →
        ParentsVisible nbr ((calculateMdr nbr oi).mdrLevel = .other ∧ oi.adjConnectivity = .biConnected) x := by
  by_cases hex : ∃ j, (nbr j).TwoWay
  · obtain ⟨j, hj⟩ := hex
    obtain ⟨x, hx⟩ := exists_isRmax hid hj
    by_cases hzero : (nbr x).routerId = 0
    · -- Rmax is taken for "no neighbors" and there is no parent
      refine iff_of_false (fun hc => ?_) fun hcond => (hcond x hx).rmax hzero
      obtain ⟨p, hp⟩ := hc.exists_parent hid hx
      rw [(calculateMdr_exit (mdrScan_id_eq_zero hid hx hzero)).2] at hp
      exact absurd hp nofun
    · obtain ⟨p, bparent, h⟩ := exists_parentScans hid hpos hzero hx hlevel
      constructor
      · intro hc y hy
        rw [hy.unique hx]
        exact h.visible_of_correct hid hzero hc
      · intro hcond
        exact h.correct hid (hcond x hx)
  · have hnone : ∀ j, ¬(nbr j).TwoWay := not_exists.mp hex
    refine iff_of_true ?_ fun x hx => absurd hx.1 (hnone x)
    refine ⟨fun e he => absurd he.1.twoWay (hnone e), fun _ x hx => absurd hx.1 (hnone x),
      fun _ _ e he => absurd he.1.1.twoWay (hnone e), fun _ _ _ x hx => absurd hx.1 (hnone x), fun id hb => ?_⟩
    obtain ⟨level, nonflooding, parent, bparent, dependent, hresult, hchoice⟩ := calculateMdr_choice nbr oi
    rw [hresult, finishMdr, map_eq_some_iff] at hb
    obtain ⟨b, hb, -⟩ := hb
    exact absurd (hchoice.twoway b (.inr hb)) (hnone b)

end parents

def threeNeighbors (p1 p2 p3 : Nat) (l1 l2 l3 : MdrLevel) : Fin 3 → MdrNeighbor :=
  ![fullNeighbor 4 p1 l1 [2, 3], fullNeighbor 3 p2 l2 [2, 4], fullNeighbor 2 p3 l3 [3, 4]]

theorem calculateMdr_parents_equal :
    ParentsCorrect (threeNeighbors 2 2 2 .mdr .mdr .other) exampleInterface
      (calculateMdr (threeNeighbors 2 2 2 .mdr .mdr .other) exampleInterface) := by
  have hseen : ∀ x e, Seen (threeNeighbors 2 2 2 .mdr .mdr .other)
      (threeNeighbors 2 2 2 .mdr .mdr .other x).priority e := by
    intro x e
    fin_cases x <;> fin_cases e <;> exact ⟨rfl, by decide⟩
  refine (calculateMdr_parents_iff _ _ (by decide) ?_ (by decide +kernel)).mpr
    fun x _ => ⟨(hseen x x).2, fun e _ => hseen x e, fun _ _ _ e _ => .inl (hseen x e), fun _ _ _ y _ _ _ => (hseen y y).2⟩
  intro i j h
  fin_cases i <;> fin_cases j <;> simp_all [threeNeighbors, fullNeighbor]

/-- An adjacent MDR, or an adjacent BMDR, of a lower priority than Rmax. -/
theorem calculateMdr_parents_low :
    ((calculateMdr (threeNeighbors 2 1 1 .other .mdr .other) exampleInterface).parent = some 4 ∧
      IsLargest (fun j => (threeNeighbors 2 1 1 .other .mdr .other j).rank)
      (AdjacentOf (threeNeighbors 2 1 1 .other .mdr .other) .mdr) 1) ∧
    ((calculateMdr (threeNeighbors 3 2 1 .other .other .bmdr) exampleInterface).mdrLevel = .other ∧
      (calculateMdr (threeNeighbors 3 2 1 .other .other .bmdr) exampleInterface).parent = some 4 ∧
      (calculateMdr (threeNeighbors 3 2 1 .other .other .bmdr) exampleInterface).bparent = some 3 ∧
      IsLargest (fun j => (threeNeighbors 3 2 1 .other .other .bmdr j).rank)
      (AdjacentOf (threeNeighbors 3 2 1 .other .other .bmdr) .bmdr) 2) := by
  refine ⟨⟨by decide +kernel, ⟨by decide, by decide⟩, fun k hk hne => ?_⟩, by decide +kernel, by decide +kernel,
    by decide +kernel, ⟨by decide, by decide⟩, fun k hk hne => ?_⟩
  all_goals fin_cases k <;> simp_all [AdjacentOf, threeNeighbors, fullNeighbor, MdrLevel.toNat]

end OspfMdr.Ospf6
