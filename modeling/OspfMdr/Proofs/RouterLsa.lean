import OspfMdr.Model.RouterLsa

/-!
# Router-LSAs that are split

The limit is checked once for an interface, with room for one link. So an LSA keeps to it only if the
interfaces happen to fill it, and how many LSAs there are follows from where it is reached.
-/

namespace OspfMdr.Ospf6
open List Option

/-- The links that should be described, in the order of the interfaces. -/
def LsdescArea.links (oa : LsdescArea) (l : List LsdescInterface) : List RouterLsdesc :=
  (l.filter LsdescInterface.described).flatMap fun oi => oi.lsdescs oa.routerId

/-- The limit is too short for any link, or no link follows the interface at which it is reached. -/
def LsdescArea.FitsOne (oa : LsdescArea) : Prop :=
  oa.exceeds 0 ∨ ∀ before oi after, oa.ifList = before ++ oi :: after → oi.described →
    oa.exceeds (oa.links before).length → oa.links before = [] ∨ oa.links (oi :: after) = []

section fragments

variable {oa : LsdescArea} {l : List LsdescInterface} {done f : List (List RouterLsdesc)}
  {current : List RouterLsdesc}

open LsdescArea

lemma links_cons_of_described {oi : LsdescInterface} (h : oi.described) :
    oa.links (oi :: l) = oi.lsdescs oa.routerId ++ oa.links l := by
  simp [links, h]

lemma links_cons_of_not_described {oi : LsdescInterface} (h : ¬oi.described) :
    oa.links (oi :: l) = oa.links l := by
  simp [links, h]

lemma links_append (l' : List LsdescInterface) : oa.links (l ++ l') = oa.links l ++ oa.links l' := by
  simp [links]

lemma routerLsaFragments_length (hfits : oa.exceeds 0 = false)
    (h : routerLsaFragments oa l done current = some f) :
    (f.length ≤ done.length ↔ current ++ oa.links l = []) ∧ done.length ≤ f.length := by
  induction l generalizing done current with
  | nil =>
    cases h
    by_cases hc : current = []
    · simp [hc, links]
    · simp [hc]
  | cons oi rest ih =>
    unfold routerLsaFragments at h
    split_ifs at h with hd he hc hsize hsize
    · rw [hc] at he
      exact absurd he (by simp [hfits])
    · obtain ⟨-, hle⟩ := ih h
      rw [length_append, length_singleton] at hle
      refine ⟨iff_of_false (by omega) fun hnil => ?_, by omega⟩
      exact hc (append_eq_nil_iff.mp hnil).1
    · rw [links_cons_of_described hd, ← append_assoc]
      exact ih h
    · rw [links_cons_of_not_described hd]
      exact ih h

lemma routerLsaFragments_single (hfits : oa.exceeds 0 = false)
    (h : routerLsaFragments oa l [] current = some f) :
    f.length ≤ 1 ↔
      ∀ before oi after, l = before ++ oi :: after → oi.described = true →
        oa.exceeds (current ++ oa.links before).length →
        current ++ oa.links before = [] ∨ oa.links (oi :: after) = [] := by
  induction l generalizing current with
  | nil =>
    cases h
    refine iff_of_true ?_ fun before oi after hl => absurd hl (by simp)
    by_cases hc : current = [] <;> simp [hc]
  | cons oi rest ih =>
    -- the places behind `oi` are those of `rest`
    have hcons : ∀ P : List LsdescInterface → LsdescInterface → List LsdescInterface → Prop,
        (∀ before o after, oi :: rest = before ++ o :: after → P before o after) ↔
          P [] oi rest ∧ ∀ before o after, rest = before ++ o :: after → P (oi :: before) o after := by
      intro P
      refine ⟨fun hall => ⟨hall [] oi rest rfl, fun before o after hr => hall _ o after (by rw [hr]; rfl)⟩, ?_⟩
      rintro ⟨hhead, htail⟩ before o after hl
      obtain ⟨rfl, ⟨⟩⟩ | ⟨before, rfl, hr⟩ := cons_eq_append_iff.mp hl
      · exact hhead
      · exact htail before o after hr
    rw [hcons]
    unfold routerLsaFragments at h
    split_ifs at h with hd he hc hsize hsize
    · rw [hc] at he
      exact absurd he (by simp [hfits])
    · have hlen := (routerLsaFragments_length hfits h).1
      rw [nil_append, length_singleton, ← links_cons_of_described hd] at hlen
      rw [hlen]
      constructor
      · intro hnil
        refine ⟨fun _ _ => .inr hnil, fun before o after hr _ _ => .inr ?_⟩
        rw [hr, ← cons_append, links_append] at hnil
        exact (append_eq_nil_iff.mp hnil).2
      · rintro ⟨hhead, -⟩
        have hor := hhead hd (by simpa [links] using he)
        exact hor.resolve_left fun hnil => hc (append_eq_nil_iff.mp hnil).1
    · rw [ih h]
      simp only [links_cons_of_described hd, append_assoc]
      refine ⟨fun hall => ⟨fun _ hex => absurd hex ?_, hall⟩, fun hall => hall.2⟩
      simpa [links] using he
    · rw [ih h]
      simp only [links_cons_of_not_described hd]
      exact ⟨fun hall => ⟨fun hdesc => absurd hdesc hd, hall⟩, fun hall => hall.2⟩

/-- With a limit that is too short for one link nothing is described. -/
lemma routerLsaFragments_short (hshort : oa.exceeds 0) (l : List LsdescInterface) :
    routerLsaFragments oa l [] [] = some [] := by
  induction l with
  | nil => rfl
  | cons oi rest ih =>
    unfold routerLsaFragments
    rw [length_nil, if_pos hshort, if_pos rfl, ih, ite_self]

lemma fitsOne_iff (h : routerLsaFragments oa oa.ifList [] [] = some f) :
    oa.FitsOne ↔ f.length ≤ 1 := by
  cases hex : oa.exceeds 0 with
  | true =>
    obtain rfl := some.inj (h.symm.trans (routerLsaFragments_short hex _))
    exact iff_of_true (.inl hex) (Nat.zero_le 1)
  | false =>
    have hor : oa.FitsOne ↔ _ := or_iff_right (by simp [hex])
    rw [hor, routerLsaFragments_single hex h]
    rfl

end fragments

/-! ### The size of the LSAs -/

section size

variable {oa : LsdescArea} {n : Nat}

/-- An LSA with `n` links fits into the buffer and into the limit. -/
def LsdescArea.Fits (oa : LsdescArea) (n : Nat) : Prop :=
  routerLsaSize n ≤ maxLsasize ∧ (oa.routerLsaSizeLimit ≠ 0 → routerLsaSize n ≤ oa.routerLsaSizeLimit.toNat)
  deriving Decidable

/-- The number of links up to which the limit has room for one more. -/
def LsdescArea.capacity (oa : LsdescArea) : Nat := (oa.routerLsaSizeLimit.toNat - routerLsaSize 0) / 16

/-- The links of `l` can be cut into LSAs of exactly `capacity` links at interfaces, `n` links before them. -/
def LsdescArea.Cuts (oa : LsdescArea) (n : Nat) (l : List LsdescInterface) : Prop :=
  ∀ m, 0 < m → m * oa.capacity < n + (oa.links l).length →
    ∃ before after, l = before ++ after ∧ n + (oa.links before).length = m * oa.capacity

/-- There is no link, or all fit into one LSA, or the LSAs are full exactly at the end of an interface. -/
def LsdescArea.Splits (oa : LsdescArea) : Prop :=
  oa.links oa.ifList = [] ∨ oa.Fits (oa.links oa.ifList).length ∨
    oa.routerLsaSizeLimit ≠ 0 ∧ 0 < oa.capacity ∧ routerLsaSize oa.capacity ≤ maxLsasize ∧ oa.Cuts 0 oa.ifList

/-- The LSAs that follow one of `n` links keep to both sizes. -/
def LsdescArea.Packed (oa : LsdescArea) : Nat → List LsdescInterface → Prop
  | _, [] => True
  | n, oi :: rest =>
    if ¬oi.described then oa.Packed n rest
    else if oa.exceeds n then
      oa.Fits (oi.lsdescs oa.routerId).length ∧ oa.Packed (oi.lsdescs oa.routerId).length rest
    else oa.Fits (n + (oi.lsdescs oa.routerId).length) ∧ oa.Packed (n + (oi.lsdescs oa.routerId).length) rest

lemma LsdescArea.Fits.mono {k : Nat} (h : oa.Fits n) (hk : k ≤ n) : oa.Fits k := by
  unfold Fits routerLsaSize at *
  exact ⟨by omega, fun hne => by have := h.2 hne; omega⟩

lemma fits_zero (hlimit : oa.exceeds 0 = false) : oa.Fits 0 := by
  refine ⟨by decide, fun hne => ?_⟩
  simp only [LsdescArea.exceeds, hne, ne_eq, not_false_eq_true, true_and, decide_eq_false_iff_not] at hlimit
  unfold routerLsaSize at *
  omega

section fragments

variable {l : List LsdescInterface} {done f : List (List RouterLsdesc)} {current : List RouterLsdesc}

lemma routerLsaFragments_flatten (hlimit : oa.exceeds 0 = false)
    (h : routerLsaFragments oa l done current = some f) : f.flatten = done.flatten ++ current ++ oa.links l := by
  induction l generalizing done current with
  | nil =>
    cases h
    split_ifs with hc <;> simp [hc, LsdescArea.links]
  | cons oi rest ih =>
    unfold routerLsaFragments at h
    split_ifs at h with hd he hc
    · rw [hc, length_nil, hlimit] at he
      cases he
    · rw [ih h, links_cons_of_described hd]
      simp
    · rw [ih h, links_cons_of_described hd]
      simp
    · rw [ih h, links_cons_of_not_described hd]

lemma subset_routerLsaFragments (h : routerLsaFragments oa l done current = some f) : done ⊆ f := by
  induction l generalizing done current with
  | nil =>
    cases h
    split_ifs <;> simp
  | cons oi rest ih =>
    unfold routerLsaFragments at h
    split_ifs at h
    · exact some.inj h ▸ Subset.refl _
    · exact Subset.trans (by simp) (ih h)
    · exact ih h
    · exact ih h

lemma routerLsaFragments_ne_nil (h : routerLsaFragments oa l done current = some f)
    (hdone : ∀ d ∈ done, d ≠ []) : ∀ d ∈ f, d ≠ [] := by
  have hpush : current ≠ [] → ∀ d ∈ done ++ [current], d ≠ [] := fun hc => by
    simpa [or_imp, forall_and, hc] using hdone
  induction l generalizing done current with
  | nil =>
    cases h
    split_ifs with hc
    · exact hdone
    · exact hpush hc
  | cons oi rest ih =>
    unfold routerLsaFragments at h
    split_ifs at h with hd he hc
    · exact some.inj h ▸ hdone
    · exact ih h (hpush hc) fun hnew => by simpa [or_imp, forall_and, hnew, hc] using hdone
    · exact ih h hdone fun hnew => by simpa [or_imp, forall_and, hnew] using hdone
    · exact ih h hdone hpush

/-- The links in the buffer end up in one LSA. -/
lemma packed_of_fits (hlimit : oa.exceeds 0 = false) (h : routerLsaFragments oa l done current = some f)
    (hfits : ∀ d ∈ f, oa.Fits d.length) : oa.Fits current.length ∧ oa.Packed current.length l := by
  induction l generalizing done current with
  | nil =>
    cases h
    refine ⟨?_, trivial⟩
    by_cases hc : current = []
    · rw [hc]
      exact fits_zero hlimit
    · exact hfits current (by simp [hc])
  | cons oi rest ih =>
    unfold routerLsaFragments at h
    unfold LsdescArea.Packed
    split_ifs at h ⊢ with hd he hc
    · rw [hc, length_nil, hlimit] at he
      cases he
    · exact ⟨hfits _ (subset_routerLsaFragments h (by simp)), ih h⟩
    · obtain ⟨hk, hrest⟩ := ih h
      rw [length_append] at hk hrest
      exact ⟨hk.mono (Nat.le_add_right _ _), hk, hrest⟩
    · exact ih h

lemma fits_of_packed (hlimit : oa.exceeds 0 = false) (hpacked : oa.Packed current.length l)
    (hcurrent : oa.Fits current.length) (hdone : ∀ d ∈ done, oa.Fits d.length) :
    ∃ f, routerLsaFragments oa l done current = some f ∧ ∀ d ∈ f, oa.Fits d.length := by
  have hpush : ∀ d ∈ done ++ [current], oa.Fits d.length := by
    simpa [or_imp, forall_and, hcurrent] using hdone
  induction l generalizing done current with
  | nil =>
    refine ⟨_, rfl, ?_⟩
    split_ifs
    · exact hdone
    · exact hpush
  | cons oi rest ih =>
    unfold LsdescArea.Packed at hpacked
    unfold routerLsaFragments
    split_ifs at hpacked ⊢ with hd he hc hsize hsize
    · rw [hc, length_nil, hlimit] at he
      cases he
    · exact absurd hpacked.1.1 (not_le.mpr hsize)
    · have hnext : ∀ d ∈ done ++ [current] ++ [oi.lsdescs oa.routerId], oa.Fits d.length := by
        simpa only [mem_append, mem_singleton, or_imp, forall_and, forall_eq, hpacked.1, and_true] using hpush
      exact ih hpacked.2 hpacked.1 hpush hnext
    · rw [length_append] at hsize
      exact absurd hpacked.1.1 (not_le.mpr hsize)
    · rw [← length_append] at hpacked
      have hnext : ∀ d ∈ done ++ [current ++ oi.lsdescs oa.routerId], oa.Fits d.length := by
        simpa only [mem_append, mem_singleton, or_imp, forall_and, forall_eq, hpacked.1, and_true] using hdone
      exact ih hpacked.2 hpacked.1 hdone hnext
    · exact ih hpacked hcurrent hdone hpush

end fragments

lemma packed_iff_fits (hroom : ∀ k, oa.Fits k → oa.exceeds k = false) {l : List LsdescInterface}
    (hn : oa.Fits n) : oa.Packed n l ↔ oa.Fits (n + (oa.links l).length) := by
  induction l generalizing n with
  | nil => exact iff_of_true trivial hn
  | cons oi rest ih =>
    unfold LsdescArea.Packed
    split_ifs with hd he
    · rw [hroom n hn] at he
      cases he
    · rw [links_cons_of_described hd, length_append, ← add_assoc]
      constructor
      · rintro ⟨hk, hrest⟩
        exact (ih hk).mp hrest
      · intro hall
        have hk := hall.mono (Nat.le_add_right _ _)
        exact ⟨hk, (ih hk).mpr hall⟩
    · rw [links_cons_of_not_described hd]
      exact ih hn

/-- Behind a described interface the first full LSA ends where it does behind the interface itself. -/
lemma cuts_cons (hpos : 0 < oa.capacity) {oi : LsdescInterface} {rest : List LsdescInterface} (hd : oi.described)
    (hn : n ≤ oa.capacity) : oa.Cuts n (oi :: rest) ↔
      oa.Cuts ((if n = oa.capacity then 0 else n) + (oi.lsdescs oa.routerId).length) rest := by
  have hlen : ∀ l, (oa.links (oi :: l)).length = (oi.lsdescs oa.routerId).length + (oa.links l).length :=
    fun l => by rw [links_cons_of_described hd, length_append]
  unfold LsdescArea.Cuts
  split_ifs with hfull
  · subst hfull
    constructor
    · intro h m hm hlt
      obtain ⟨before, after, heq, hsum⟩ := h (m + 1) (Nat.succ_pos m) (by rw [hlen, Nat.succ_mul]; omega)
      rcases before with _ | ⟨o, before⟩
      · have hnil : oa.capacity = (m + 1) * oa.capacity := by simpa [LsdescArea.links] using hsum
        have := Nat.mul_pos hm hpos
        rw [Nat.succ_mul] at hnil
        omega
      · obtain ⟨rfl, rfl⟩ := cons_eq_cons.mp heq
        rw [hlen, Nat.succ_mul] at hsum
        exact ⟨before, after, rfl, by omega⟩
    · intro h m hm hlt
      obtain _ | _ | m := m
      · exact absurd hm (lt_irrefl 0)
      · exact ⟨[], oi :: rest, rfl, by simp [LsdescArea.links]⟩
      · rw [hlen, Nat.succ_mul] at hlt
        obtain ⟨before, after, rfl, hsum⟩ := h (m + 1) (Nat.succ_pos m) (by omega)
        exact ⟨oi :: before, after, rfl, by rw [hlen, Nat.succ_mul]; omega⟩
  · refine forall_congr' fun m => forall_congr' fun hm => ?_
    have hle : oa.capacity ≤ m * oa.capacity := Nat.le_mul_of_pos_left _ hm
    rw [hlen, add_assoc]
    refine imp_congr_right fun hlt => ⟨?_, ?_⟩
    · rintro ⟨_ | ⟨o, before⟩, after, heq, hsum⟩
      · have hnil : n = m * oa.capacity := by simpa [LsdescArea.links] using hsum
        omega
      · obtain ⟨rfl, rfl⟩ := cons_eq_cons.mp heq
        rw [hlen] at hsum
        exact ⟨before, after, rfl, by omega⟩
    · rintro ⟨before, after, rfl, hsum⟩
      exact ⟨oi :: before, after, rfl, by rw [hlen]; omega⟩

lemma cuts_le_capacity {l : List LsdescInterface} (h : oa.Cuts n l) : n ≤ oa.capacity := by
  by_contra hlt
  obtain ⟨before, after, -, hsum⟩ := h 1 one_pos (by omega)
  omega

lemma packed_iff_cuts (hne : oa.routerLsaSizeLimit ≠ 0) (hpos : 0 < oa.capacity)
    (hbuffer : routerLsaSize oa.capacity ≤ maxLsasize) {l : List LsdescInterface} (hn : n ≤ oa.capacity) :
    oa.Packed n l ↔ oa.Cuts n l := by
  have hexceeds : ∀ k ≤ oa.capacity, oa.exceeds k ↔ k = oa.capacity := by
    intro k hk
    simp only [LsdescArea.exceeds, LsdescArea.capacity, routerLsaSize] at hk hpos ⊢
    simp only [hne, ne_eq, not_false_eq_true, true_and, decide_eq_true_eq]
    omega
  have hfits : ∀ k, oa.Fits k ↔ k ≤ oa.capacity := by
    intro k
    simp only [LsdescArea.Fits, LsdescArea.capacity, routerLsaSize, maxLsasize] at hbuffer hpos ⊢
    simp only [hne, ne_eq, not_false_eq_true, true_imp_iff]
    omega
  induction l generalizing n with
  | nil =>
    refine iff_of_true trivial fun m hm hlt => ?_
    have hle : oa.capacity ≤ m * oa.capacity := Nat.le_mul_of_pos_left _ hm
    simp only [LsdescArea.links, filter_nil, flatMap_nil, length_nil] at hlt
    omega
  | cons oi rest ih =>
    unfold LsdescArea.Packed
    split_ifs with hd he
    · rw [cuts_cons hpos hd hn, if_pos ((hexceeds n hn).mp he), zero_add, hfits]
      exact ⟨fun h => (ih h.1).mp h.2, fun h => ⟨cuts_le_capacity h, (ih (cuts_le_capacity h)).mpr h⟩⟩
    · rw [cuts_cons hpos hd hn, if_neg fun h => he ((hexceeds n hn).mpr h), hfits]
      exact ⟨fun h => (ih h.1).mp h.2, fun h => ⟨cuts_le_capacity h, (ih (cuts_le_capacity h)).mpr h⟩⟩
    · refine (ih hn).trans ?_
      -- an interface that is not described moves no cut
      have hlen : ∀ l, oa.links (oi :: l) = oa.links l := fun l => links_cons_of_not_described hd
      unfold LsdescArea.Cuts
      rw [hlen]
      refine forall_congr' fun m => imp_congr_right fun hm => imp_congr_right fun hlt => ⟨?_, ?_⟩
      · rintro ⟨before, after, rfl, hsum⟩
        exact ⟨oi :: before, after, rfl, by rw [hlen]; exact hsum⟩
      · rintro ⟨_ | ⟨o, before⟩, after, heq, hsum⟩
        · exact ⟨[], rest, rfl, by simpa [LsdescArea.links] using hsum⟩
        · obtain ⟨rfl, rfl⟩ := cons_eq_cons.mp heq
          exact ⟨before, after, rfl, by rw [hlen] at hsum; exact hsum⟩

lemma splits_iff_packed (hlimit : oa.exceeds 0 = false) : oa.Splits ↔ oa.Packed 0 oa.ifList := by
  have hzero := fits_zero hlimit
  have hnil : oa.links oa.ifList = [] → oa.Fits (oa.links oa.ifList).length := by
    intro hnil
    rw [hnil]
    exact hzero
  by_cases hcap : oa.routerLsaSizeLimit ≠ 0 ∧ routerLsaSize oa.capacity ≤ maxLsasize
  · have hpos : 0 < oa.capacity := by
      simp only [LsdescArea.exceeds, LsdescArea.capacity, routerLsaSize] at hlimit ⊢
      simp only [hcap.1, ne_eq, not_false_eq_true, true_and, decide_eq_false_iff_not] at hlimit
      omega
    rw [packed_iff_cuts hcap.1 hpos hcap.2 (Nat.zero_le _)]
    constructor
    · have hone : oa.Fits (oa.links oa.ifList).length → oa.Cuts 0 oa.ifList := by
        intro hfits m hm hlt
        have hle : oa.capacity ≤ m * oa.capacity := Nat.le_mul_of_pos_left _ hm
        have hsize := hfits.2 hcap.1
        simp only [LsdescArea.capacity, routerLsaSize] at hle hsize hlt hpos
        omega
      rintro (h | h | ⟨-, -, -, h⟩)
      · exact hone (hnil h)
      · exact hone h
      · exact h
    · exact fun h => .inr (.inr ⟨hcap.1, hpos, hcap.2, h⟩)
  · have hroom : ∀ k, oa.Fits k → oa.exceeds k = false := by
      intro k hk
      have hbuffer := hk.1
      simp only [LsdescArea.exceeds, decide_eq_false_iff_not]
      rintro ⟨hne, hlt⟩
      refine hcap ⟨hne, ?_⟩
      simp only [LsdescArea.capacity, routerLsaSize, maxLsasize] at hbuffer hlt ⊢
      omega
    rw [packed_iff_fits hroom hzero, zero_add]
    constructor
    · rintro (h | h | ⟨hne, -, hbuffer, -⟩)
      · exact hnil h
      · exact h
      · exact absurd ⟨hne, hbuffer⟩ hcap
    · exact fun h => .inr (.inl h)

lemma routerLsa_size (linkStateId : Nat) (d : List RouterLsdesc) :
    20 + 4 + 4 * (oa.routerLsa linkStateId d).length = routerLsaSize d.length := by
  have hwords : (d.flatMap RouterLsdesc.words).length = 4 * d.length := by
    induction d with
    | nil => rfl
    | cons x d ih =>
      rw [flatMap_cons, length_append, ih, length_cons, RouterLsdesc.words]
      simp
      omega
  unfold LsdescArea.routerLsa routerLsaSize
  dsimp only
  omega

lemma routerLsas_sizes (f : List (List RouterLsdesc)) : (∀ l ∈ oa.routerLsas f,
      20 + 4 + 4 * l.length ≤ maxLsasize ∧
        (oa.routerLsaSizeLimit ≠ 0 → 20 + 4 + 4 * l.length ≤ oa.routerLsaSizeLimit.toNat)) ↔
    ∀ d ∈ f, oa.Fits d.length := by
  constructor
  · intro h d hd
    obtain ⟨i, hi, rfl⟩ := getElem_of_mem hd
    have hl := h (oa.routerLsa i f[i]) (mem_mapIdx.mpr ⟨i, hi, rfl⟩)
    rwa [routerLsa_size] at hl
  · intro h l hl
    obtain ⟨i, hi, rfl⟩ := mem_mapIdx.mp hl
    rw [routerLsa_size]
    exact h _ (getElem_mem hi)

lemma splits_short (hshort : oa.exceeds 0) : oa.Splits ↔ oa.links oa.ifList = [] := by
  refine ⟨?_, .inl⟩
  simp only [LsdescArea.exceeds, decide_eq_true_eq] at hshort
  rintro (h | h | ⟨-, hpos, -⟩)
  · exact h
  · have hsize := h.2 hshort.1
    have hlt := hshort.2
    unfold routerLsaSize at hsize hlt
    exact length_eq_zero_iff.mp (by omega)
  · have hlt := hshort.2
    simp only [LsdescArea.capacity, routerLsaSize] at hpos hlt
    omega

end size

def hub (n : Nat) (routerLsaSizeLimit : UInt32) : LsdescArea where
  routerId := 1
  abr := false
  asbr := false
  routerLsaSizeLimit := routerLsaSizeLimit
  ifList := [⟨1, .pointToPoint, .pointToMultipoint, .fullyConnected, 10, 0,
    List.replicate n ⟨2, 1, .full, false, 10⟩⟩]

end OspfMdr.Ospf6
