import Mathlib.Tactic

/-!
# The best of a list

The winner of the matches of each element with the best one so far, and of such rounds within the
classes of an equivalence relation. The order of the list has no influence exactly if one element wins
against all others.
-/

namespace OspfMdr.Lib
open List

variable {α κ : Type}

/-- The winner against all of the list, one after the other. -/
def champion (beats : α → α → Bool) (a : α) (l : List α) : α :=
  l.foldl (fun best x => if beats x best then x else best) a

def classWinners (beats same : α → α → Bool) : Nat → List α → List α
  | 0, _ => []
  | _ + 1, [] => []
  | n + 1, a :: l => champion beats a (l.filter (same a)) :: classWinners beats same n (l.filter fun x => !same a x)

section champion

variable [LinearOrder κ] {beats : α → α → Bool} {key : α → κ} {a b : α} {l : List α} {S : α → Prop}

/-- The matches between elements of the list are decided by their keys, which differ. -/
structure DecidedBy (beats : α → α → Bool) (key : α → κ) (S : α → Prop) : Prop where
  inj : ∀ x y, S x → S y → key x = key y → x = y
  beats : ∀ x y, S x → S y → x ≠ y → (beats x y ↔ key x < key y)

lemma champion_mem : champion beats a l ∈ a :: l := by
  induction l generalizing a with
  | nil => exact mem_cons_self
  | cons x l ih =>
    rw [champion, foldl_cons]
    rcases mem_cons.mp (ih (a := if beats x a then x else a)) with h | h
    · change champion beats _ l ∈ _
      rw [h]
      split_ifs <;> simp
    · exact mem_cons_of_mem _ (mem_cons_of_mem _ h)

lemma champion_least (h : DecidedBy beats key S) (hS : ∀ x ∈ a :: l, S x) :
    ∀ x ∈ a :: l, key (champion beats a l) ≤ key x := by
  induction l generalizing a with
  | nil => simp [champion]
  | cons y l ih =>
    obtain ⟨ha, hy, hl⟩ : S a ∧ S y ∧ ∀ x ∈ l, S x := by simpa using hS
    -- the better one of the first two goes on
    obtain ⟨b, hb, hSb, hba, hby⟩ :
        ∃ b, (if beats y a then y else a) = b ∧ S b ∧ key b ≤ key a ∧ key b ≤ key y := by
      by_cases hya : y = a
      · exact ⟨a, by simp [hya], ha, le_refl _, by rw [hya]⟩
      · split_ifs with hb
        · exact ⟨y, rfl, hy, ((h.beats y a hy ha hya).mp hb).le, le_refl _⟩
        · exact ⟨a, rfl, ha, le_refl _, not_lt.mp fun hlt => hb ((h.beats y a hy ha hya).mpr hlt)⟩
    have hrest := ih (a := b) (forall_mem_cons.mpr ⟨hSb, hl⟩)
    have hhead := hrest b mem_cons_self
    rw [champion, foldl_cons, hb]
    refine forall_mem_cons.mpr ⟨hhead.trans hba, forall_mem_cons.mpr ⟨hhead.trans hby, fun x hx => ?_⟩⟩
    exact hrest x (mem_cons_of_mem _ hx)

end champion

section best

variable {beats : α → α → Bool} {b : α} {l : List α}

/-- The winner of a list, if it has an element. -/
def bestOf (beats : α → α → Bool) (l : List α) : Option α :=
  l.foldl (fun best x => best.elim (some x) fun b => if beats x b then some x else some b) none

/-- It wins against all others of the list, and none of them against it. -/
def Dominates (beats : α → α → Bool) (b : α) (l : List α) : Prop :=
  ∀ x ∈ l, x ≠ b → beats b x ∧ ¬beats x b

lemma Dominates.champion_eq {a : α} (h : Dominates beats b (a :: l)) (hb : b ∈ a :: l) :
    champion beats a l = b := by
  induction l generalizing a with
  | nil => exact (mem_singleton.mp hb).symm
  | cons x l ih =>
    rw [champion, foldl_cons]
    have hmem : (if beats x a then x else a) ∈ a :: x :: l := by split_ifs <;> simp
    refine ih (forall_mem_cons.mpr ⟨h _ hmem, fun y hy => h y (by simp [hy])⟩) ?_
    rw [mem_cons]
    by_cases hl : b ∈ l
    · exact .inr hl
    left
    rcases mem_cons.mp hb with rfl | hb
    · split_ifs with hx
      · by_contra hne
        exact (h x (by simp) (Ne.symm hne)).2 hx
      · rfl
    · obtain rfl := (mem_cons.mp hb).resolve_right hl
      by_cases ha : a = b
      · simp [ha]
      · rw [if_pos (h a (by simp) ha).1]

lemma bestOf_append_singleton (l : List α) (x : α) :
    bestOf beats (l ++ [x]) = (bestOf beats l).elim (some x) fun b => if beats x b then some x else some b := by
  simp [bestOf]

lemma bestOf_cons (a : α) (l : List α) : bestOf beats (a :: l) = some (champion beats a l) := by
  induction l using List.reverseRecOn with
  | nil => rfl
  | append_singleton l x ih =>
    rw [← cons_append, bestOf_append_singleton, ih]
    simp only [Option.elim_some, champion, foldl_append, foldl_cons, foldl_nil]
    split_ifs <;> rfl

lemma Dominates.bestOf_eq (h : Dominates beats b l) (hb : b ∈ l) : bestOf beats l = some b := by
  cases l with
  | nil => exact absurd hb not_mem_nil
  | cons a l => rw [bestOf_cons, h.champion_eq hb]

/-- If the order of the list has no influence, the winner wins against all others: else one that does not
lose against it could come last. -/
lemma dominates_of_bestOf_perm (hnodup : l.Nodup)
    (htotal : ∀ x ∈ l, ∀ y ∈ l, x ≠ y → (beats x y ↔ ¬beats y x))
    (hperm : ∀ l', l.Perm l' → bestOf beats l' = some b) : b ∈ l ∧ Dominates beats b l := by
  have hb : b ∈ l := by
    cases l with
    | nil => exact absurd (hperm [] (.refl _)) (by simp [bestOf])
    | cons a l =>
      have hbest := hperm _ (.refl _)
      rw [bestOf_cons, Option.some.injEq] at hbest
      exact hbest ▸ champion_mem
  refine ⟨hb, fun x hx hne => ?_⟩
  classical
  have hlast := hperm (l.erase x ++ [x])
    ((perm_cons_erase hx).trans (perm_append_singleton x _).symm)
  rw [bestOf_append_singleton] at hlast
  have hlose : ¬beats x b := by
    intro hwins
    cases hrest : bestOf beats (l.erase x) with
    | none =>
      rw [hrest] at hlast
      exact hne (Option.some.inj hlast)
    | some c =>
      rw [hrest, Option.elim_some] at hlast
      split_ifs at hlast with hc
      · exact hne (Option.some.inj hlast)
      · exact hc (Option.some.inj hlast ▸ hwins)
  exact ⟨(htotal b hb x hx hne.symm).mpr hlose, hlose⟩

end best


section classes

variable [LinearOrder κ] {beats same : α → α → Bool} {key : α → κ} {L : List α}

/-- The classes of `same` in a list; an element need not be related to itself. -/
structure Classes (same : α → α → Bool) (L : List α) : Prop where
  symm : ∀ x ∈ L, ∀ y ∈ L, same x y → same y x
  trans : ∀ x ∈ L, ∀ y ∈ L, ∀ z ∈ L, same x y → same y z → same x z

lemma Classes.sub {L' : List α} (h : Classes same L) (hL : ∀ x ∈ L', x ∈ L) : Classes same L' :=
  ⟨fun x hx y hy => h.symm x (hL x hx) y (hL y hy),
    fun x hx y hy z hz => h.trans x (hL x hx) y (hL y hy) z (hL z hz)⟩

lemma mem_classWinners {n : Nat} (hn : L.length ≤ n) (hnodup : L.Nodup) (hsame : Classes same L)
    (hkey : ∀ a ∈ L, DecidedBy beats key fun x => x ∈ L ∧ (x = a ∨ same a x)) (x : α) :
    x ∈ classWinners beats same n L ↔ x ∈ L ∧ ∀ y ∈ L, same x y → key x ≤ key y := by
  induction n generalizing L with
  | zero =>
    obtain rfl := length_eq_zero_iff.mp (Nat.le_zero.mp hn)
    simp [classWinners]
  | succ n ih =>
    cases L with
    | nil => simp [classWinners]
    | cons a l =>
      have ha : a ∈ a :: l := mem_cons_self
      have hgroup : ∀ y, y ∈ a :: l.filter (same a) ↔ y ∈ a :: l ∧ (y = a ∨ same a y) := by
        intro y
        simp only [mem_cons, mem_filter]
        tauto
      have hrest : ∀ y, y ∈ l.filter (fun y => !same a y) → y ∈ a :: l ∧ same a y = false := by
        intro y hy
        obtain ⟨hyl, hay⟩ := mem_filter.mp hy
        exact ⟨mem_cons_of_mem _ hyl, by simpa using hay⟩
      have hw : champion beats a (l.filter (same a)) ∈ a :: l.filter (same a) := champion_mem
      have hleast := champion_least (hkey a ha) fun y hy => (hgroup y).mp hy
      have hlen : (l.filter fun y => !same a y).length ≤ n :=
        le_trans (length_filter_le _ _) (Nat.le_of_succ_le_succ hn)
      have hIH := ih hlen ((nodup_cons.mp hnodup).2.filter _) (hsame.sub fun y hy => (hrest y hy).1) fun b hb =>
        { inj := fun y z hy hz => (hkey b (hrest b hb).1).inj y z ⟨(hrest y hy.1).1, hy.2⟩ ⟨(hrest z hz.1).1, hz.2⟩
          beats := fun y z hy hz =>
            (hkey b (hrest b hb).1).beats y z ⟨(hrest y hy.1).1, hy.2⟩ ⟨(hrest z hz.1).1, hz.2⟩ }
      rw [classWinners, mem_cons, hIH]
      set w := champion beats a (l.filter (same a))
      -- what is related to an element of the first class is in it
      have hclosed : ∀ y z, y ∈ a :: l.filter (same a) → z ∈ a :: l → same y z →
          z ∈ a :: l.filter (same a) := by
        intro y z hy hz hyz
        obtain ⟨hyl, hay⟩ := (hgroup y).mp hy
        refine (hgroup z).mpr ⟨hz, .inr ?_⟩
        rcases hay with rfl | hay
        · exact hyz
        · exact hsame.trans a ha y hyl z hz hay hyz
      have hapart : ∀ y ∈ a :: l, y ∉ a :: l.filter (same a) ↔ y ∈ l.filter fun y => !same a y := by
        intro y hy
        rw [hgroup, mem_filter]
        rcases mem_cons.mp hy with rfl | hyl
        · exact iff_of_false (by simp) fun h => (nodup_cons.mp hnodup).1 h.1
        · have hya : y ≠ a := fun he => (nodup_cons.mp hnodup).1 (he ▸ hyl)
          simp [hyl, hya]
      constructor
      · rintro (rfl | ⟨hx, hmin⟩)
        · exact ⟨((hgroup w).mp hw).1, fun y hy hwy => hleast y (hclosed w y hw hy hwy)⟩
        · have hxl := (hrest x hx).1
          refine ⟨hxl, fun y hy hxy => hmin y ((hapart y hy).mp fun hyg => ?_) hxy⟩
          exact (hapart x hxl).mpr hx (hclosed y x hyg hxl (hsame.symm x hxl y hy hxy))
      · rintro ⟨hx, hmin⟩
        by_cases hxg : x ∈ a :: l.filter (same a)
        · left
          by_contra hne
          have hwl := ((hgroup w).mp hw).1
          have hxw : same x w := by
            rcases ((hgroup x).mp hxg).2 with rfl | hax
            · exact ((hgroup w).mp hw).2.resolve_left (Ne.symm hne)
            have hxa := hsame.symm a ha x hx hax
            rcases ((hgroup w).mp hw).2 with hwa | haw
            · rwa [hwa]
            · exact hsame.trans x hx a ha w hwl hxa haw
          exact hne ((hkey a ha).inj x w ((hgroup x).mp hxg) ((hgroup w).mp hw)
            (le_antisymm (hmin w hwl hxw) (hleast x hxg)))
        · right
          exact ⟨(hapart x hx).mp hxg, fun y hy hxy => hmin y (hrest y hy).1 hxy⟩

lemma classWinners_subset {n : Nat} {L : List α} : classWinners beats same n L ⊆ L := by
  induction n generalizing L with
  | zero => exact nil_subset L
  | succ n ih =>
    cases L with
    | nil => exact nil_subset _
    | cons a l =>
      have hfirst : champion beats a (l.filter (same a)) ∈ a :: l :=
        cons_subset_cons a (filter_sublist.subset) champion_mem
      exact cons_subset.mpr ⟨hfirst, fun x hx => mem_cons_of_mem a (mem_of_mem_filter (ih hx))⟩

lemma mem_classWinners_of_dominates {b : α} {n : Nat} (hn : L.length ≤ n) (hb : b ∈ L)
    (h : Dominates beats b L) : b ∈ classWinners beats same n L := by
  induction n generalizing L with
  | zero =>
    obtain rfl := length_eq_zero_iff.mp (Nat.le_zero.mp hn)
    exact absurd hb not_mem_nil
  | succ n ih =>
    cases L with
    | nil => exact absurd hb not_mem_nil
    | cons a l =>
      rw [classWinners, mem_cons]
      by_cases hgroup : b ∈ a :: l.filter (same a)
      · have hsub : Dominates beats b (a :: l.filter (same a)) := fun x hx =>
          h x (cons_subset_cons a (filter_sublist.subset) hx)
        exact .inl (hsub.champion_eq hgroup).symm
      · rw [mem_cons, mem_filter, not_or, not_and] at hgroup
        have hbl := (mem_cons.mp hb).resolve_left hgroup.1
        refine .inr (ih ?_ (mem_filter.mpr ⟨hbl, by simpa using hgroup.2 hbl⟩) fun x hx => ?_)
        · exact (length_filter_le _ _).trans (Nat.le_of_succ_le_succ hn)
        · exact h x (mem_cons_of_mem a (mem_of_mem_filter hx))

end classes

end OspfMdr.Lib
