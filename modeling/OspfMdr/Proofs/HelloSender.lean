import OspfMdr.Proofs.HelloLists
import OspfMdr.Lib.SortedList

/-!
# The sender of differential Hellos

A neighbor is in each of the `HelloRepeatCount` Hellos after a change of its list, and a deleted
one is in as many lists of lost neighbors. A neighbor in state Down is in no list at all.
-/

namespace OspfMdr.Ospf6
open List

/-- The types of list in which a router reports its neighbors. -/
def Reported (t : Nat) : Prop := t = 3 ∨ t = 4 ∨ t = 5
  deriving Decidable

lemma HelloPeer.Reports.of_not_reported {on : HelloPeer} {x : UInt32} {t t' : Nat}
    (h : on.Reports x t) (ht : ¬Reported t) (ht' : ¬Reported t') : on.Reports x t' := by
  unfold Reported at ht ht'
  obtain ⟨h1, h2, h3⟩ := h
  refine ⟨h1.trans ?_, h2.trans ?_, h3.trans ?_⟩ <;> omega

variable {on : HelloNeighbor} {l : List HelloNeighbor} {e : LnlElement}

section lists

variable {oi : HelloInterface} {diff : Bool} {x : UInt32} {t : Nat}

lemma ospf6MdrHelloListType_pos (on : HelloNeighbor) : 0 < ospf6MdrHelloListType on := by
  unfold ospf6MdrHelloListType
  split_ifs <;> omega

lemma ospf6MdrHelloListType_le (on : HelloNeighbor) : ospf6MdrHelloListType on ≤ 5 := by
  unfold ospf6MdrHelloListType
  split_ifs <;> omega

lemma ospf6MdrHelloListType_eq_one (h : ospf6MdrHelloListType on = 1) : on.state = .down := by
  by_contra hs
  unfold ospf6MdrHelloListType at h
  split_ifs at h <;> omega

lemma listTypeOf_of_mem (hids : (l.map (·.routerId)).Nodup) (hon : on ∈ l) :
    listTypeOf l on.routerId = on.listType := by
  rw [listTypeOf, Lib.find?_of_pairwise (pairwise_map.mp hids) hon (by simp) (by simp)]

lemma listTypeOf_of_not_mem (h : ∀ on ∈ l, on.routerId ≠ x) : listTypeOf l x = 0 := by
  have hnone : l.find? (fun on => on.routerId = x) = none := by
    simpa using h
  simp [listTypeOf, hnone]

lemma mem_helloList : x ∈ helloList oi diff t ↔
    ∃ on ∈ oi.neighborList, inHello oi diff on ∧ on.listType = t ∧ on.routerId = x := by
  simp only [helloList, mem_map, mem_filter, decide_eq_true_eq]
  constructor
  · rintro ⟨on, ⟨hon, hin, ht⟩, hx⟩
    exact ⟨on, hon, hin, ht, hx⟩
  · rintro ⟨on, hon, hin, ht, hx⟩
    exact ⟨on, ⟨hon, hin, ht⟩, hx⟩

lemma listTypeOf_of_mem_helloList (hids : (oi.neighborList.map (·.routerId)).Nodup)
    (h : x ∈ helloList oi diff t) : listTypeOf oi.neighborList x = t := by
  obtain ⟨on, hon, -, ht, rfl⟩ := mem_helloList.mp h
  rw [listTypeOf_of_mem hids hon, ht]

lemma mem_helloList_full (hids : (oi.neighborList.map (·.routerId)).Nodup) (ht : t ≠ 0) :
    x ∈ helloList oi false t ↔ listTypeOf oi.neighborList x = t := by
  refine ⟨listTypeOf_of_mem_helloList hids, fun hx => ?_⟩
  by_cases hmem : ∃ on ∈ oi.neighborList, on.routerId = x
  · obtain ⟨on, hon, rfl⟩ := hmem
    rw [listTypeOf_of_mem hids hon] at hx
    exact mem_helloList.mpr ⟨on, hon, by simp [inHello], hx, rfl⟩
  · push Not at hmem
    exact absurd ((listTypeOf_of_not_mem hmem).symm.trans hx).symm ht

lemma map_updateListType_routerId (hsn : UInt16) (l : List HelloNeighbor) :
    (l.map (updateListType hsn)).map (·.routerId) = l.map (·.routerId) := by
  rw [map_map]
  rfl

lemma listTypeOf_map_updateListType (hids : (l.map (·.routerId)).Nodup) (hon : on ∈ l) (hsn : UInt16) :
    listTypeOf (l.map (updateListType hsn)) on.routerId = ospf6MdrHelloListType on :=
  listTypeOf_of_mem ((map_updateListType_routerId hsn l).symm ▸ hids) (mem_map_of_mem hon)

lemma listTypeOf_map_updateListType_absent (h : ∀ on ∈ l, on.routerId ≠ x) (hsn : UInt16) :
    listTypeOf (l.map (updateListType hsn)) x = 0 := by
  apply listTypeOf_of_not_mem
  intro on hon
  obtain ⟨n, hn, rfl⟩ := mem_map.mp hon
  exact h n hn

lemma listTypeOf_map_updateListType_iff (hids : (l.map (·.routerId)).Nodup) (hsn : UInt16)
    (ht : t ≠ 0) : listTypeOf (l.map (updateListType hsn)) x = t ↔ ∃ n ∈ l, n.routerId = x ∧
    ospf6MdrHelloListType n = t := by
  constructor
  · intro h
    by_contra hnone
    push Not at hnone
    by_cases hmem : ∃ n ∈ l, n.routerId = x
    · obtain ⟨n, hn, rfl⟩ := hmem
      exact hnone n hn rfl ((listTypeOf_map_updateListType hids hn hsn).symm.trans h)
    · push Not at hmem
      exact ht ((listTypeOf_map_updateListType_absent hmem hsn).symm.trans h).symm
  · rintro ⟨n, hn, rfl, rfl⟩
    exact listTypeOf_map_updateListType hids hn hsn

end lists

/-- How the lists of the interface go with what was sent under each sequence number. -/
structure SenderInv (oi : HelloInterface) (sent : Nat → UInt32 → Nat) : Prop where
  ids : (oi.neighborList.map (·.routerId)).Nodup
  lnl_ids : (oi.lnl.map (·.id)).Nodup
  disjoint : ∀ on ∈ oi.neighborList, ∀ e ∈ oi.lnl, e.id ≠ on.routerId
  present : ∀ on ∈ oi.neighborList, on.listType ≠ 0 → ∀ k, on.changedHsn.toNat ≤ k →
    k < oi.hsn.toNat → sent k on.routerId = on.listType
  lnl : ∀ e ∈ oi.lnl, ∀ k, e.hsn.toNat ≤ k → k < oi.hsn.toNat → ¬Reported (sent k e.id)
  absent : ∀ x, (∀ on ∈ oi.neighborList, on.routerId ≠ x) → (∀ e ∈ oi.lnl, e.id ≠ x) →
    ∀ k < oi.hsn.toNat, oi.hsn.toNat ≤ k + oi.helloRepeatCount.toNat → ¬Reported (sent k x)

namespace SenderInv

variable {oi : HelloInterface} {sent : Nat → UInt32 → Nat} {x : UInt32}

lemma addNeighborSort_perm : (addNeighborSort on l).Perm (on :: l) := by
  induction l with
  | nil => exact .refl _
  | cons a l ih =>
    unfold addNeighborSort
    split_ifs
    · exact .refl _
    · exact (ih.cons a).trans (.swap on a l)

lemma mem_addNeighborSort {n : HelloNeighbor} : n ∈ addNeighborSort on l ↔ n = on ∨ n ∈ l :=
  addNeighborSort_perm.mem_iff.trans mem_cons

lemma addNeighborSort_ids (hon : ∀ n ∈ l, n.routerId ≠ on.routerId) (hl : (l.map (·.routerId)).Nodup) :
    ((addNeighborSort on l).map (·.routerId)).Nodup := by
  rw [(addNeighborSort_perm.map _).nodup_iff, map_cons, nodup_cons]
  exact ⟨by simpa using hon, hl⟩

lemma hasNeighbor_eq_false (h : oi.hasNeighbor x = false) :
    ∀ on ∈ oi.neighborList, on.routerId ≠ x := by
  simpa [HelloInterface.hasNeighbor] using h

section
variable (h : SenderInv oi sent)
include h

lemma eraseP_id_ne (he : e ∈ oi.lnl.eraseP fun e => e.id = x) : e.id ≠ x := by
  intro hx
  obtain ⟨a, l1, l2, hl1, ha, hl, herase⟩ :=
    exists_of_eraseP (p := fun e : LnlElement => decide (e.id = x)) (mem_of_mem_eraseP he)
      (by simpa using hx)
  have hids := h.lnl_ids
  rw [herase] at he
  rw [hl, map_append, map_cons] at hids
  have ha : a.id = x := by simpa using ha
  obtain ⟨-, hcons, hdisj⟩ := nodup_append.mp hids
  rcases mem_append.mp he with h₁ | h₂
  · exact absurd hx (by simpa using hl1 e h₁)
  · exact (nodup_cons.mp hcons).1 (mem_map.mpr ⟨e, h₂, hx.trans ha.symm⟩)

lemma create (hx : oi.hasNeighbor x = false) : SenderInv (ospf6MdrNeighborCreate oi x) sent := by
  have hnew := hasNeighbor_eq_false hx
  have hsub : (oi.lnl.eraseP fun e => e.id = x).Sublist oi.lnl := eraseP_sublist
  constructor
  · exact addNeighborSort_ids hnew h.ids
  · exact (hsub.map _).nodup h.lnl_ids
  · intro on hon e he
    rcases mem_addNeighborSort.mp hon with rfl | hon
    · exact h.eraseP_id_ne he
    · exact h.disjoint on hon e (hsub.subset he)
  · intro on hon hne
    rcases mem_addNeighborSort.mp hon with rfl | hon
    · exact absurd rfl hne
    · exact h.present on hon hne
  · intro e he
    exact h.lnl e (hsub.subset he)
  · intro y hy hlnl
    refine h.absent y (fun on hon => hy on (mem_addNeighborSort.mpr (.inr hon))) fun e he heq => ?_
    have hyx : x ≠ y := hy _ (mem_addNeighborSort.mpr (.inl rfl))
    have hkeep : e ∈ oi.lnl.eraseP fun e => e.id = x :=
      (mem_eraseP_of_neg (by simp [heq, hyx.symm])).mpr he
    exact hlnl e hkeep heq

/-- The lost neighbors never hold a neighbor, so deleting one appends an element. -/
lemma ospf6MdrAddLnlElement_eq (hon : on ∈ oi.neighborList) :
    ospf6MdrAddLnlElement oi on.routerId = oi.lnl ++ [⟨on.routerId, oi.hsn⟩] := by
  unfold ospf6MdrAddLnlElement
  rw [if_neg]
  simpa using h.disjoint on hon

lemma delete (hx : oi.hasNeighbor x) : SenderInv (ospf6MdrNeighborDelete oi x) sent := by
  obtain ⟨n, hn, rfl⟩ : ∃ n ∈ oi.neighborList, n.routerId = x := by
    simpa [HelloInterface.hasNeighbor] using hx
  have hlnl : (ospf6MdrNeighborDelete oi n.routerId).lnl = oi.lnl ++ [⟨n.routerId, oi.hsn⟩] :=
    h.ospf6MdrAddLnlElement_eq hn
  have hmem : ∀ on, on ∈ (ospf6MdrNeighborDelete oi n.routerId).neighborList ↔
      on ∈ oi.neighborList ∧ on.routerId ≠ n.routerId := by
    simp [ospf6MdrNeighborDelete]
  constructor
  · exact (filter_sublist.map _).nodup h.ids
  · rw [hlnl, map_append]
    refine nodup_append.mpr ⟨h.lnl_ids, by simp, ?_⟩
    intro a ha b hb
    obtain ⟨e, he, rfl⟩ := mem_map.mp ha
    obtain rfl : b = n.routerId := by simpa using hb
    exact h.disjoint n hn e he
  · intro on hon e he
    obtain ⟨hon, hne⟩ := (hmem on).mp hon
    rw [hlnl, mem_append, mem_singleton] at he
    rcases he with he | rfl
    · exact h.disjoint on hon e he
    · exact hne.symm
  · intro on hon
    exact h.present on ((hmem on).mp hon).1
  · intro e he k hk hlt
    rw [hlnl, mem_append, mem_singleton] at he
    rcases he with he | rfl
    · exact h.lnl e he k hk hlt
    · exact absurd hlt (not_lt.mpr hk)
  · intro y hy hylnl
    rw [hlnl] at hylnl
    have hyn : n.routerId ≠ y := hylnl _ (mem_append_right _ mem_cons_self)
    refine h.absent y (fun on hon heq => ?_) fun e he => hylnl e (mem_append_left _ he)
    exact hy on ((hmem on).mpr ⟨hon, fun he => hyn (he.symm.trans heq)⟩) heq

lemma change (state : NeighborState) (dependent selAdv reverse2way : Bool) :
    SenderInv (changeNeighbor oi x state dependent selAdv reverse2way) sent := by
  have hmem : ∀ on' ∈ (changeNeighbor oi x state dependent selAdv reverse2way).neighborList,
      ∃ on ∈ oi.neighborList, on'.routerId = on.routerId ∧ on'.listType = on.listType ∧
        on'.changedHsn = on.changedHsn := by
    intro on' hon'
    obtain ⟨on, hon, rfl⟩ := mem_map.mp hon'
    refine ⟨on, hon, ?_⟩
    split_ifs <;> exact ⟨rfl, rfl, rfl⟩
  have hids : (changeNeighbor oi x state dependent selAdv reverse2way).neighborList.map (·.routerId) =
      oi.neighborList.map (·.routerId) := by
    unfold changeNeighbor
    rw [map_map]
    apply map_congr_left
    intro on _
    simp only [Function.comp_apply]
    split_ifs <;> rfl
  constructor
  · exact hids ▸ h.ids
  · exact h.lnl_ids
  · intro on' hon' e he
    obtain ⟨on, hon, hid, -, -⟩ := hmem on' hon'
    exact hid ▸ h.disjoint on hon e he
  · intro on' hon'
    obtain ⟨on, hon, hid, htype, hchanged⟩ := hmem on' hon'
    rw [hid, htype, hchanged]
    exact h.present on hon
  · exact h.lnl
  · intro y hy
    refine h.absent y fun on hon heq => ?_
    have hy' : y ∈ (changeNeighbor oi x state dependent selAdv reverse2way).neighborList.map
        (·.routerId) := by
      rw [hids]
      exact mem_map.mpr ⟨on, hon, heq⟩
    obtain ⟨on', hon', heq'⟩ := mem_map.mp hy'
    exact hy on' hon' heq'

end

/-- An element that is left out of a differential Hello was lost `HelloRepeatCount` Hellos ago. -/
lemma lnl_sublist (oi : HelloInterface) (diff : Bool) :
    (ospf6MdrCreateNeighborLists oi diff).1.lnl.Sublist oi.lnl := by
  cases diff
  · exact List.Sublist.refl _
  · exact filter_sublist

lemma lnlExpired_of_not_mem (diff : Bool) (he : e ∈ oi.lnl)
    (hnot : e ∉ (ospf6MdrCreateNeighborLists oi diff).1.lnl) :
    e.hsn.toNat + oi.helloRepeatCount.toNat ≤ oi.hsn.toNat := by
  cases diff
  · exact absurd he hnot
  · by_contra hexp
    refine hnot (mem_filter.mpr ⟨he, ?_⟩)
    simpa [lnlExpired] using hexp

section
variable (h : SenderInv oi sent)
include h

lemma not_reported_of_absent (diff : Bool) (hx : ∀ on ∈ oi.neighborList, on.routerId ≠ x)
    (hlnl : ∀ e ∈ (ospf6MdrCreateNeighborLists oi diff).1.lnl, e.id ≠ x) {k : Nat}
    (hk : k < oi.hsn.toNat) (hrepeat : oi.hsn.toNat ≤ k + oi.helloRepeatCount.toNat) :
    ¬Reported (sent k x) := by
  by_cases hlost : ∃ e ∈ oi.lnl, e.id = x
  · obtain ⟨e, he, rfl⟩ := hlost
    have hexp := lnlExpired_of_not_mem diff he fun hmem => hlnl e hmem rfl
    exact h.lnl e he k (by omega) hk
  · push Not at hlost
    exact h.absent x hx hlost k hk hrepeat

lemma send {oi' : HelloInterface} {sent' : Nat → UInt32 → Nat} (diff : Bool)
    (hnbrs : oi'.neighborList = oi.neighborList.map (updateListType oi.hsn))
    (hlnl : oi'.lnl = (ospf6MdrCreateNeighborLists oi diff).1.lnl)
    (hrc : oi'.helloRepeatCount = oi.helloRepeatCount) (hsucc : oi'.hsn.toNat = oi.hsn.toNat + 1)
    (hold : ∀ k < oi.hsn.toNat, sent' k = sent k)
    (hnow : sent' oi.hsn.toNat = listTypeOf (oi.neighborList.map (updateListType oi.hsn))) :
    SenderInv oi' sent' := by
  have hsub : oi'.lnl.Sublist oi.lnl := hlnl ▸ lnl_sublist oi diff
  constructor
  · rw [hnbrs, map_updateListType_routerId]
    exact h.ids
  · exact (hsub.map _).nodup h.lnl_ids
  · intro on' hon' e he
    rw [hnbrs] at hon'
    obtain ⟨on, hon, rfl⟩ := mem_map.mp hon'
    exact h.disjoint on hon e (hsub.subset he)
  · intro on' hon' _ k hk hlt
    rw [hnbrs] at hon'
    obtain ⟨on, hon, rfl⟩ := mem_map.mp hon'
    rw [hsucc] at hlt
    rcases Nat.lt_or_eq_of_le (Nat.le_of_lt_succ hlt) with hlt | rfl
    · simp only [updateListType] at hk ⊢
      split_ifs at hk with htype
      · omega
      push Not at htype
      have hpos := ospf6MdrHelloListType_pos on
      rw [htype] at hpos ⊢
      rw [hold k hlt]
      exact h.present on hon (by omega) k hk hlt
    · rw [hnow]
      exact listTypeOf_map_updateListType h.ids hon oi.hsn
  · intro e he k hk hlt
    rw [hsucc] at hlt
    rcases Nat.lt_or_eq_of_le (Nat.le_of_lt_succ hlt) with hlt | rfl
    · rw [hold k hlt]
      exact h.lnl e (hsub.subset he) k hk hlt
    · rw [hnow, listTypeOf_map_updateListType_absent fun on hon =>
        (h.disjoint on hon e (hsub.subset he)).symm]
      decide
  · intro y hy hylnl k hlt hrepeat
    have hy' : ∀ on ∈ oi.neighborList, on.routerId ≠ y := by
      intro on hon
      apply hy (updateListType oi.hsn on)
      rw [hnbrs]
      exact mem_map_of_mem hon
    rw [hsucc] at hlt
    rw [hsucc, hrc] at hrepeat
    rcases Nat.lt_or_eq_of_le (Nat.le_of_lt_succ hlt) with hlt | rfl
    · rw [hold k hlt]
      exact h.not_reported_of_absent diff hy' (hlnl ▸ hylnl) hlt (by omega)
    · rw [hnow, listTypeOf_map_updateListType_absent hy']
      decide

lemma ids_lists (diff : Bool) :
    ((ospf6MdrCreateNeighborLists oi diff).1.neighborList.map (·.routerId)).Nodup :=
  (map_updateListType_routerId oi.hsn oi.neighborList).symm ▸ h.ids

lemma reports_of_full (own : UInt32) (on : HelloPeer) :
    (processFullLists own (ospf6MdrCreateNeighborLists oi false).2 on).1.Reports x
      (listTypeOf (oi.neighborList.map (updateListType oi.hsn)) x) := by
  have hlist : ∀ t, t ≠ 0 → (x ∈ helloList (ospf6MdrCreateNeighborLists oi false).1 false t ↔
      listTypeOf (oi.neighborList.map (updateListType oi.hsn)) x = t) :=
    fun t ht => mem_helloList_full (h.ids_lists false) ht
  refine ⟨Iff.trans ?_ (or_congr (hlist 3 (by omega)) (or_congr (hlist 4 (by omega)) (hlist 5 (by omega)))),
    Iff.trans ?_ (hlist 3 (by omega)), Iff.trans ?_ (hlist 4 (by omega))⟩
  all_goals simp [processFullLists, mem_foldl_addAbsent, or_assoc, ospf6MdrCreateNeighborLists]

lemma reports_of_mem (own : UInt32) (on : HelloPeer) (hx : x ∈ (ospf6MdrCreateNeighborLists oi true).2.rids) :
    (processDiffLists own (ospf6MdrCreateNeighborLists oi true).2 on).on.Reports x
      (listTypeOf (oi.neighborList.map (updateListType oi.hsn)) x) := by
  have hlist : ∀ t, x ∈ helloList (ospf6MdrCreateNeighborLists oi true).1 true t →
      listTypeOf (oi.neighborList.map (updateListType oi.hsn)) x = t :=
    fun t ht => listTypeOf_of_mem_helloList (h.ids_lists true) ht
  obtain ⟨h5, h4, h3, h0, -⟩ := processDiffLists_spec x own (ospf6MdrCreateNeighborLists oi true).2 on
  by_cases m5 : x ∈ (ospf6MdrCreateNeighborLists oi true).2.rnl
  · rw [hlist 5 m5]
    exact h5 m5
  by_cases m4 : x ∈ (ospf6MdrCreateNeighborLists oi true).2.sanl
  · rw [hlist 4 m4]
    exact h4 m5 m4
  by_cases m3 : x ∈ (ospf6MdrCreateNeighborLists oi true).2.dnl
  · rw [hlist 3 m3]
    exact h3 m5 m4 m3
  have hrest : x ∈ (ospf6MdrCreateNeighborLists oi true).2.hnl ∨
      x ∈ (ospf6MdrCreateNeighborLists oi true).2.lnl := by
    simp only [HelloLists.rids, mem_append, m3, m4, m5, or_false] at hx
    exact hx.symm
  refine (h0 m5 m4 m3 hrest).of_not_reported (by decide) ?_
  rcases hrest with hhnl | hlnl
  · rw [hlist 2 hhnl]
    decide
  obtain ⟨e, he, rfl⟩ := mem_map.mp hlnl
  have hlost := (lnl_sublist oi true).subset he
  rw [listTypeOf_map_updateListType_absent fun on hon => (h.disjoint on hon e hlost).symm]
  decide

/-- A router that a differential Hello leaves out is in the same lists as in each of the last
`HelloRepeatCount` Hellos. -/
lemma reports_of_not_mem (hrc : 0 < oi.helloRepeatCount.toNat)
    (hdown : ∀ on ∈ oi.neighborList, on.state = .down → ∀ k < oi.hsn.toNat, oi.hsn.toNat ≤ k +
      oi.helloRepeatCount.toNat → ¬Reported (sent k on.routerId))
    (hx : x ∉ (ospf6MdrCreateNeighborLists oi true).2.rids) {k : Nat} (hk : k < oi.hsn.toNat)
    (hrepeat : oi.hsn.toNat ≤ k + oi.helloRepeatCount.toNat) {on : HelloPeer}
    (hon : on.Reports x (sent k x)) :
    on.Reports x (listTypeOf (oi.neighborList.map (updateListType oi.hsn)) x) := by
  simp only [HelloLists.rids, mem_append, not_or] at hx
  obtain ⟨⟨⟨⟨n1, n2⟩, n3⟩, n4⟩, n5⟩ := hx
  by_cases hmem : ∃ n ∈ oi.neighborList, n.routerId = x
  · obtain ⟨n, hn, rfl⟩ := hmem
    rw [listTypeOf_map_updateListType h.ids hn]
    by_cases hone : ospf6MdrHelloListType n = 1
    · exact hon.of_not_reported (hdown n hn (ospf6MdrHelloListType_eq_one hone) k hk hrepeat)
        (hone ▸ by decide)
    have hin : ¬inHello (ospf6MdrCreateNeighborLists oi true).1 true
        (updateListType oi.hsn n) := by
      intro hin
      have hlist : n.routerId ∈ helloList (ospf6MdrCreateNeighborLists oi true).1 true
          (ospf6MdrHelloListType n) :=
        mem_helloList.mpr ⟨_, mem_map_of_mem hn, hin, rfl, rfl⟩
      have hpos := ospf6MdrHelloListType_pos n
      have hle := ospf6MdrHelloListType_le n
      interval_cases htype : ospf6MdrHelloListType n
      · exact hone rfl
      · exact n2 hlist
      · exact n3 hlist
      · exact n4 hlist
      · exact n5 hlist
    have hold : (updateListType oi.hsn n).changedHsn.toNat + oi.helloRepeatCount.toNat ≤
        oi.hsn.toNat := by
      by_contra hlt
      exact hin (by simp [inHello, ospf6MdrCreateNeighborLists, hlt])
    have htype : ospf6MdrHelloListType n = n.listType := by
      by_contra hne
      simp only [updateListType, ne_eq, hne, not_false_eq_true, if_true] at hold
      omega
    have hpos := ospf6MdrHelloListType_pos n
    simp only [updateListType, ne_eq, htype, not_true_eq_false, if_false] at hold
    rw [htype, ← h.present n hn (by omega) k (by omega) hk]
    exact hon
  · push Not at hmem
    rw [listTypeOf_map_updateListType_absent hmem]
    refine hon.of_not_reported (h.not_reported_of_absent true hmem ?_ hk hrepeat) (by decide)
    exact fun e he heq => n1 (mem_map.mpr ⟨e, he, heq⟩)

end

end SenderInv

end OspfMdr.Ospf6
