import OspfMdr.Proofs.HelloSync

namespace OspfMdr.Ospf6
open List

/-- The number `k` Hellos after `c` is compared with `c + b`. -/
lemma hsn_compare_iff (c : UInt16) {k b : Nat} (hk : k ≤ 2 ^ 16) (hb : b ≤ 2 ^ 16)
    (hpos : 0 < b ∨ k < 2 ^ 16) :
    (c.toNat + b ≤ (c + UInt16.ofNat k).toNat ↔ b ≤ k) ↔ c.toNat + k < 2 ^ 16 ∨ k < b := by
  rw [UInt16.toNat_add, UInt16.toNat_ofNat']
  omega

section receiver
variable {own : UInt32} {lists : HelloLists}

/-- What the scan has found out about the router itself. -/
def DiffScan.outcome (s : DiffScan) : Bool × Bool × NeighborState := (s.twoway, s.found, s.on.state)

lemma diffLoop_unlisted {f : HelloPeer → UInt32 → HelloPeer} (hf : ∀ on id, (f on id).state = on.state)
    {l : List UInt32} (hown : own ∉ l) (twoway reverse2way : Bool) (s : DiffScan) :
    (diffLoop own twoway reverse2way f l s).outcome = s.outcome := by
  induction l generalizing s with
  | nil => rfl
  | cons id l ih =>
    rw [mem_cons, not_or] at hown
    have hself : s.self own id twoway reverse2way = s := if_neg (Ne.symm hown.1)
    have hrest := ih hown.2 { s with on := f s.on id }
    simp only [diffLoop, foldl_cons, hself, DiffScan.outcome, hf] at hrest ⊢
    exact hrest

lemma processDiffLists_unlisted (hown : own ∉ lists.rids) (on : HelloPeer) :
    (processDiffLists own lists on).outcome = (false, false, on.state) := by
  simp only [HelloLists.rids, mem_append, not_or] at hown
  obtain ⟨⟨⟨⟨h1, h2⟩, h3⟩, h4⟩, h5⟩ := hown
  unfold processDiffLists
  rw [diffLoop_unlisted (f := HelloPeer.addReported) (fun _ _ => rfl) h5,
    diffLoop_unlisted (f := HelloPeer.addSelAdv) (fun _ _ => rfl) h4,
    diffLoop_unlisted (f := HelloPeer.addDependent) (fun _ _ => rfl) h3,
    diffLoop_unlisted (f := HelloPeer.deleteNeighbor) (fun _ _ => rfl) h2,
    diffLoop_unlisted (f := HelloPeer.deleteNeighbor) (fun _ _ => rfl) h1]
  rfl

lemma processNeighborLists_unlisted (hown : own ∉ lists.rids) {on : HelloPeer}
    (hstate : on.state.IsTwoway) (helloRepeatCount hsn : UInt16) :
    (ospf6MdrProcessNeighborLists own helloRepeatCount on lists true hsn).2 = false ↔
      on.hsn.toNat + (helloRepeatCount.toNat + 1) ≤ hsn.toNat := by
  have hdown : NeighborState.down.toNat < on.state.toNat := lt_of_lt_of_le (by decide) hstate
  have hscan : ∀ n, (processDiffLists own lists { on with hsn := hsn, consecHellos := n }).outcome =
      (false, false, on.state) := fun n => processDiffLists_unlisted hown _
  simp only [DiffScan.outcome, Prod.mk.injEq] at hscan
  simp [ospf6MdrProcessNeighborLists, hscan, hstate, hdown]
  omega

end receiver

section sender
variable {oi : HelloInterface} {on : HelloNeighbor} {x : UInt32}

/-- The interface after `k` Hellos. -/
def helloSends (oi : HelloInterface) : Nat → HelloInterface
  | 0 => oi
  | k + 1 => (ospf6MdrHelloSend (helloSends oi k)).1

lemma helloSends_hsn (oi : HelloInterface) (k : Nat) : (helloSends oi k).hsn = oi.hsn + UInt16.ofNat k ∧
    (helloSends oi k).helloRepeatCount = oi.helloRepeatCount := by
  induction k with
  | zero => exact ⟨by simp [helloSends], rfl⟩
  | succ k ih =>
    refine ⟨?_, ih.2⟩
    rw [UInt16.ofNat_add, ← UInt16.add_assoc, ← ih.1]
    rfl

lemma updateListType_updateListType (hsn hsn' : UInt16) (on : HelloNeighbor) :
    updateListType hsn' (updateListType hsn on) = updateListType hsn on := by
  have htype : ospf6MdrHelloListType (updateListType hsn on) = (updateListType hsn on).listType := rfl
  unfold updateListType at htype ⊢
  simp only [htype, ne_eq, not_true, if_false]

lemma helloSends_neighborList (oi : HelloInterface) (k : Nat) :
    (helloSends oi k).neighborList.map (updateListType (helloSends oi k).hsn) =
      oi.neighborList.map (updateListType oi.hsn) := by
  induction k with
  | zero => rfl
  | succ k ih =>
    have hsent : (helloSends oi (k + 1)).neighborList = oi.neighborList.map (updateListType oi.hsn) := ih
    rw [hsent, map_map]
    apply map_congr_left
    intro on _
    exact updateListType_updateListType _ _ on

/-- A neighbor whose list has just changed. -/
structure JustChanged (oi : HelloInterface) (on : HelloNeighbor) : Prop where
  mem : on ∈ oi.neighborList
  ids : (oi.neighborList.map (·.routerId)).Nodup
  changed : ospf6MdrHelloListType on ≠ on.listType
  state : on.state ≠ .down

/-- A neighbor that is in every Hello, because it is not known to list this router as two-way. -/
def AlwaysListed (on : HelloNeighbor) : Prop :=
  NeighborState.twoway.toNat ≤ on.state.toNat ∧ on.reverse2way = false

lemma sentLists_diff (hdiff : isDiffHello oi) :
    let oi' := (ospf6MdrCreateNeighborLists oi true).1
    sentLists oi = ⟨oi'.lnl.map (·.id), helloList oi' true 2, helloList oi' true 3, helloList oi' true 4,
      helloList oi' true 5⟩ := by
  rw [sentLists, hdiff]
  rfl

lemma JustChanged.mem_helloList_iff (h : JustChanged oi on) {oi' : HelloInterface} {k t : Nat}
    (hnbrs : oi'.neighborList = oi.neighborList.map (updateListType oi.hsn))
    (hhsn : oi'.hsn = oi.hsn + UInt16.ofNat k) (hrc : oi'.helloRepeatCount = oi.helloRepeatCount) :
    on.routerId ∈ helloList oi' true t ↔ ospf6MdrHelloListType on = t ∧
      (oi.hsn.toNat + oi.helloRepeatCount.toNat ≤ (oi.hsn + UInt16.ofNat k).toNat → AlwaysListed on) := by
  have hin : inHello oi' true (updateListType oi.hsn on) ↔
      (oi.hsn.toNat + oi.helloRepeatCount.toNat ≤ (oi.hsn + UInt16.ofNat k).toNat → AlwaysListed on) := by
    simp only [inHello, updateListType, if_pos h.changed, hhsn, hrc, AlwaysListed]
    simp [or_iff_not_imp_left]
  rw [mem_helloList, hnbrs, ← hin]
  constructor
  · rintro ⟨on', hon', hin', ht, hid⟩
    obtain ⟨n, hn, rfl⟩ := mem_map.mp hon'
    obtain rfl : n = on := inj_on_of_nodup_map h.ids hn h.mem hid
    exact ⟨ht, hin'⟩
  · rintro ⟨ht, hin'⟩
    exact ⟨_, mem_map_of_mem h.mem, hin', ht, rfl⟩

lemma JustChanged.listed_iff (h : JustChanged oi on) {k : Nat} (hdiff : isDiffHello (helloSends oi k)) :
    let l := sentLists (helloSends oi k)
    on.routerId ∈ l.hnl ++ l.dnl ++ l.sanl ++ l.rnl ↔
      (oi.hsn.toNat + oi.helloRepeatCount.toNat ≤ (oi.hsn + UInt16.ofNat k).toNat → AlwaysListed on) := by
  obtain ⟨hhsn, hrc⟩ := helloSends_hsn oi k
  have hlist : ∀ t, on.routerId ∈ helloList (ospf6MdrCreateNeighborLists (helloSends oi k) true).1 true t ↔ _ :=
    fun t => h.mem_helloList_iff (helloSends_neighborList oi k) hhsn hrc
  have htype : ospf6MdrHelloListType on = 2 ∨ ospf6MdrHelloListType on = 3 ∨
      ospf6MdrHelloListType on = 4 ∨ ospf6MdrHelloListType on = 5 := by
    unfold ospf6MdrHelloListType
    rw [if_neg h.state]
    split_ifs <;> simp
  simp only [sentLists_diff hdiff, mem_append, hlist]
  tauto

/-- An element of the list of lost neighbors is there until a differential Hello finds it too old. -/
lemma mem_lnl_helloSends_iff {e : LnlElement} (he : e ∈ oi.lnl) (k : Nat) :
    e ∈ (helloSends oi k).lnl ↔ ∀ j < k, isDiffHello (helloSends oi j) →
      ¬e.hsn.toNat + oi.helloRepeatCount.toNat ≤ (oi.hsn + UInt16.ofNat j).toNat := by
  induction k with
  | zero => exact iff_of_true he fun j hj => absurd hj (Nat.not_lt_zero j)
  | succ k ih =>
    obtain ⟨hhsn, hrc⟩ := helloSends_hsn oi k
    rw [Nat.forall_lt_succ_right, ← ih]
    cases hdiff : isDiffHello (helloSends oi k) <;>
      simp [helloSends, ospf6MdrHelloSend, ospf6MdrCreateNeighborLists, hdiff, lnlExpired, hhsn, hrc]

lemma helloSends_lnl_sublist (oi : HelloInterface) (k : Nat) :
    (helloSends oi k).lnl.Sublist oi.lnl := by
  induction k with
  | zero => exact List.Sublist.refl _
  | succ k ih => exact (SenderInv.lnl_sublist _ (isDiffHello (helloSends oi k))).trans ih

lemma lost_listed_iff (hids : (oi.lnl.map (·.id)).Nodup) {e : LnlElement} (he : e ∈ oi.lnl) {k : Nat}
    (hdiff : isDiffHello (helloSends oi k)) :
    e.id ∈ (sentLists (helloSends oi k)).lnl ↔ ∀ j < k + 1, isDiffHello (helloSends oi j) →
      ¬e.hsn.toNat + oi.helloRepeatCount.toNat ≤ (oi.hsn + UInt16.ofNat j).toNat := by
  obtain ⟨hhsn, hrc⟩ := helloSends_hsn oi k
  have hmem : ∀ e', e' ∈ (ospf6MdrCreateNeighborLists (helloSends oi k) true).1.lnl ↔
      e' ∈ (helloSends oi k).lnl ∧
        ¬e'.hsn.toNat + oi.helloRepeatCount.toNat ≤ (oi.hsn + UInt16.ofNat k).toNat := by
    intro e'
    simp [ospf6MdrCreateNeighborLists, lnlExpired, hhsn, hrc]
  rw [Nat.forall_lt_succ_right, ← mem_lnl_helloSends_iff he, sentLists_diff hdiff, mem_map]
  constructor
  · rintro ⟨e', he', hid⟩
    obtain ⟨he', hlive⟩ := (hmem e').mp he'
    obtain rfl : e' = e := inj_on_of_nodup_map hids ((helloSends_lnl_sublist oi k).subset he') he hid
    exact ⟨he', fun _ => hlive⟩
  · rintro ⟨hin, hlive⟩
    exact ⟨e, (hmem e).mpr ⟨hin, hlive hdiff⟩, rfl⟩

/-- The entry of a neighbor lost at number `hsn` is sent in the right Hellos exactly if one of the
differential Hellos after the first `HelloRepeatCount` ones is sent before the counter comes round. -/
lemma lost_listed_right_iff (hids : (oi.lnl.map (·.id)).Nodup) {e : LnlElement} (he : e ∈ oi.lnl)
    (hnow : e.hsn = oi.hsn) {k : Nat} (hk : k < 2 ^ 16) (hdiff : isDiffHello (helloSends oi k)) :
    (e.id ∈ (sentLists (helloSends oi k)).lnl ↔ k < oi.helloRepeatCount.toNat) ↔
      k < oi.helloRepeatCount.toNat ∨ ∃ j ≤ k, isDiffHello (helloSends oi j) ∧
        oi.helloRepeatCount.toNat ≤ j ∧ oi.hsn.toNat + j < 2 ^ 16 := by
  -- once the counter has come round it is below the number of the entry
  have hexpired : ∀ j < k + 1, (e.hsn.toNat + oi.helloRepeatCount.toNat ≤ (oi.hsn + UInt16.ofNat j).toNat ↔
      oi.helloRepeatCount.toNat ≤ j ∧ oi.hsn.toNat + j < 2 ^ 16) := by
    intro j hj
    rw [hnow, UInt16.toNat_add, UInt16.toNat_ofNat']
    omega
  rw [lost_listed_iff hids he hdiff]
  by_cases hlt : k < oi.helloRepeatCount.toNat
  · refine iff_of_true (iff_of_true (fun j hj _ => ?_) hlt) (.inl hlt)
    rw [hexpired j hj]
    omega
  · simp only [hlt, iff_false, false_or, not_forall, not_not]
    constructor
    · rintro ⟨j, hj, hdiff', hold⟩
      exact ⟨j, Nat.lt_succ_iff.mp hj, hdiff', (hexpired j hj).mp hold⟩
    · rintro ⟨j, hj, hdiff', hold⟩
      exact ⟨j, Nat.lt_succ_iff.mpr hj, hdiff', (hexpired j (Nat.lt_succ_iff.mpr hj)).mpr hold⟩

lemma ospf6MdrAddLnlElement_spec (hids : (oi.lnl.map (·.id)).Nodup) (x : UInt32) :
    ((ospf6MdrAddLnlElement oi x).map (·.id)).Nodup ∧ ⟨x, oi.hsn⟩ ∈ ospf6MdrAddLnlElement oi x := by
  unfold ospf6MdrAddLnlElement
  split_ifs with h
  · obtain ⟨e, he, hid⟩ := any_eq_true.mp h
    have hid : e.id = x := by simpa using hid
    constructor
    · rw [map_map]
      convert hids using 2
      funext e'
      simp only [Function.comp_apply]
      split_ifs <;> rfl
    · exact mem_map.mpr ⟨e, he, by simp [hid]⟩
  · simp only [any_eq_true, decide_eq_true_eq, not_exists, not_and] at h
    constructor
    · rw [map_append, nodup_append]
      refine ⟨hids, by simp, ?_⟩
      rintro a ha b hb rfl
      obtain ⟨e, he, rfl⟩ := mem_map.mp ha
      exact h e he (by simpa using hb)
    · simp

end sender

/-- A missed Hello is noticed, and a change and a lost neighbor are sent, in `HelloRepeatCount` Hellos exactly
if the counter has not come round meanwhile. -/
theorem helloSequence_iff (k : Nat) :
    (∀ own helloRepeatCount lists (on : HelloPeer), own ∉ HelloLists.rids lists →
      NeighborState.twoway.toNat ≤ on.state.toNat → k < 2 ^ 16 →
      (((ospf6MdrProcessNeighborLists own helloRepeatCount on lists true (on.hsn + UInt16.ofNat (k + 1))).2 =
          false ↔ helloRepeatCount.toNat ≤ k) ↔
        on.hsn.toNat + (k + 1) < 2 ^ 16 ∨ k < helloRepeatCount.toNat)) ∧
    (∀ oi on, JustChanged oi on → k < 2 ^ 16 → isDiffHello (helloSends oi k) →
      let l := sentLists (helloSends oi k)
      ((on.routerId ∈ l.hnl ++ l.dnl ++ l.sanl ++ l.rnl ↔ k < oi.helloRepeatCount.toNat) ↔
        (¬AlwaysListed on ∧ oi.hsn.toNat + k < 2 ^ 16) ∨ k < oi.helloRepeatCount.toNat)) ∧
    (∀ oi x, ((HelloInterface.lnl oi).map (·.id)).Nodup → k < 2 ^ 16 →
      isDiffHello (helloSends (ospf6MdrNeighborDelete oi x) k) →
      ((x ∈ (sentLists (helloSends (ospf6MdrNeighborDelete oi x) k)).lnl ↔ k < oi.helloRepeatCount.toNat) ↔
        k < oi.helloRepeatCount.toNat ∨ ∃ j ≤ k, isDiffHello (helloSends (ospf6MdrNeighborDelete oi x) j) ∧
          oi.helloRepeatCount.toNat ≤ j ∧ oi.hsn.toNat + j < 2 ^ 16)) := by
  refine ⟨?_, ?_, ?_⟩
  · intro own helloRepeatCount lists on hown hstate hk
    have hrc := helloRepeatCount.toNat_lt
    have hcmp := hsn_compare_iff on.hsn (k := k + 1) (b := helloRepeatCount.toNat + 1) (by omega) (by omega)
      (by omega)
    rw [processNeighborLists_unlisted hown hstate]
    omega
  · intro oi on h hk hdiff
    have hrc := oi.helloRepeatCount.toNat_lt
    have hcmp := hsn_compare_iff oi.hsn (k := k) (b := oi.helloRepeatCount.toNat) (by omega) (by omega) (.inr hk)
    simp only [h.listed_iff hdiff]
    by_cases halways : AlwaysListed on
    · simp [halways]
    · simp only [halways, imp_false, not_false_eq_true, true_and]
      omega
  · intro oi x hids hk hdiff
    obtain ⟨hids', hmem⟩ := ospf6MdrAddLnlElement_spec hids x
    exact @lost_listed_right_iff (ospf6MdrNeighborDelete oi x) hids' ⟨x, oi.hsn⟩ hmem rfl k hk hdiff

def heardInterface (hsn : UInt16) : HelloInterface :=
  ⟨.biConnected, 20, 3, [], hsn, 20, [⟨2, .init, false, false, false, 0, 0⟩]⟩

def silentPeer (hsn : UInt16) : HelloPeer := ⟨.full, hsn, 1, false, true, true, [], [], []⟩

theorem helloSequence_small_numbers :
    (ospf6MdrProcessNeighborLists 1 3 (silentPeer 7) ⟨[], [], [], [], []⟩ true (7 + UInt16.ofNat (3 + 1))).2 =
      false ∧
    (2 ∈ (sentLists (helloSends (ospf6MdrNeighborDelete (heardInterface 7) 2) 2)).lnl ↔ 2 < 3) := by
  refine ⟨?_, ?_⟩
  · exact (((helloSequence_iff 3).1 1 3 ⟨[], [], [], [], []⟩ (silentPeer 7) (by decide) (by decide)
      (by decide)).mpr (by decide)).mpr (by decide)
  · exact ((helloSequence_iff 2).2.2 (heardInterface 7) 2 (by decide) (by decide) (by decide)).mpr (by decide)

/-- Eight Hellos are missed and not noticed when the counter comes round; a new and a lost neighbor are
still in the Hello after those three. -/
theorem helloSequence_wraps :
    (ospf6MdrProcessNeighborLists 1 3 (silentPeer 65530) ⟨[], [], [], [], []⟩ true 3).2 ∧
    (2 : UInt32) ∈ (sentLists (helloSends (heardInterface 65534) 3)).hnl ∧ (2 : UInt32) ∈
    (sentLists (helloSends (ospf6MdrNeighborDelete (heardInterface 65534) 2) 3)).lnl := by
  decide

end OspfMdr.Ospf6
