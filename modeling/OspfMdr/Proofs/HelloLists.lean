import OspfMdr.Model.Hello

/-!
# The neighbor lists of a Hello

What a receiver makes of the lists of one Hello, full or differential.
-/

namespace OspfMdr.Ospf6
open List

/-- Each of the first four counts fits into its octet. -/
def HelloLists.CountsFit (l : HelloLists) : Prop :=
  l.lnl.length < 2 ^ 8 ∧ l.hnl.length < 2 ^ 8 ∧ l.dnl.length < 2 ^ 8 ∧ l.sanl.length < 2 ^ 8
  deriving Decidable

/-- The counts and the length fit into their fields, and the packet with the LLS block into a buffer of
`iobuflen` bytes. -/
@[mk_iff]
structure HelloLists.Encodable (l : HelloLists) (iobuflen : Nat) : Prop where
  counts : l.CountsFit
  length : 36 + 4 * l.rids.length < 65536
  buffer : 36 + 4 * l.rids.length + 16 ≤ iobuflen

instance (l : HelloLists) (iobuflen : Nat) : Decidable (l.Encodable iobuflen) :=
  decidable_of_iff' _ (l.encodable_iff iobuflen)

/-- The lists of the next Hello. -/
def sentLists (oi : HelloInterface) : HelloLists := (ospf6MdrCreateNeighborLists oi (isDiffHello oi)).2

lemma decodeHello_encodeHello (oi : HelloInterface) (diff : Bool) {lists : HelloLists}
    (h : lists.CountsFit) : decodeHello (encodeHello oi diff lists) = some lists := by
  obtain ⟨h1, h2, h3, h4⟩ := h
  unfold decodeHello encodeHello HelloLists.rids
  simp only [UInt8.toNat_ofNat', Nat.mod_eq_of_lt h1, Nat.mod_eq_of_lt h2, Nat.mod_eq_of_lt h3,
    Nat.mod_eq_of_lt h4]
  rw [if_neg (by simp only [length_append]; omega)]
  simp [append_assoc]

section receiver

variable {x id : UInt32} {l : List UInt32}

lemma mem_ospf6MdrDeleteNeighbor :
    x ∈ ospf6MdrDeleteNeighbor l id ↔ x ∈ l ∧ x ≠ id := by
  simp [ospf6MdrDeleteNeighbor]

lemma mem_addAbsent : x ∈ addAbsent l id ↔ x ∈ l ∨ x = id := by
  unfold addAbsent
  split_ifs with h
  · constructor
    · exact .inl
    · rintro (hx | rfl)
      · exact hx
      · exact h
  · simp

lemma mem_foldl_addAbsent {l init : List UInt32} :
    x ∈ l.foldl addAbsent init ↔ x ∈ init ∨ x ∈ l := by
  induction l generalizing init with
  | nil => simp
  | cons id l ih => rw [foldl_cons, ih, mem_addAbsent, mem_cons, or_assoc]

/-- The lists of a neighbor hold the router `x` as its list type `t` asks. -/
def HelloPeer.Reports (on : HelloPeer) (x : UInt32) (t : Nat) : Prop :=
  (x ∈ on.rnl ↔ t = 3 ∨ t = 4 ∨ t = 5) ∧ (x ∈ on.dnl ↔ t = 3) ∧ (x ∈ on.sanl ↔ t = 4)

/-- The lists agree about the router. -/
def HelloPeer.SameAt (on on' : HelloPeer) (x : UInt32) : Prop :=
  (x ∈ on'.rnl ↔ x ∈ on.rnl) ∧ (x ∈ on'.dnl ↔ x ∈ on.dnl) ∧ (x ∈ on'.sanl ↔ x ∈ on.sanl)

lemma HelloPeer.Reports.of_same {on on' : HelloPeer} {t : Nat} (h : on.Reports x t)
    (hsame : on.SameAt on' x) : on'.Reports x t :=
  ⟨hsame.1.trans h.1, hsame.2.1.trans h.2.1, hsame.2.2.trans h.2.2⟩

lemma HelloPeer.SameAt.trans {on on1 on2 : HelloPeer} (h : on.SameAt on1 x)
    (h' : on1.SameAt on2 x) : on.SameAt on2 x :=
  ⟨h'.1.trans h.1, h'.2.1.trans h.2.1, h'.2.2.trans h.2.2⟩

lemma DiffScan.self_sameAt (s : DiffScan) (own id : UInt32) (twoway reverse2way : Bool) (x : UInt32) :
    s.on.SameAt (s.self own id twoway reverse2way).on x := by
  unfold DiffScan.self
  split_ifs <;> exact ⟨Iff.rfl, Iff.rfl, Iff.rfl⟩

/-- The function puts a router in the list of type `t` and changes nothing else. -/
structure ListChange (f : HelloPeer → UInt32 → HelloPeer) (t : Nat) : Prop where
  reports : ∀ (on : HelloPeer) (id : UInt32), (f on id).Reports id t
  same : ∀ (on : HelloPeer) (id x : UInt32), x ≠ id → on.SameAt (f on id) x

open HelloPeer

lemma deleteNeighbor_change : ListChange deleteNeighbor 0 := by
  constructor
  · intro on id
    simp [HelloPeer.Reports, deleteNeighbor, mem_ospf6MdrDeleteNeighbor]
  · intro on id x hx
    simp [HelloPeer.SameAt, deleteNeighbor, mem_ospf6MdrDeleteNeighbor, hx]

lemma addDependent_change : ListChange addDependent 3 := by
  constructor
  · intro on id
    simp [HelloPeer.Reports, addDependent, mem_ospf6MdrDeleteNeighbor, mem_addAbsent]
  · intro on id x hx
    simp [HelloPeer.SameAt, addDependent, mem_ospf6MdrDeleteNeighbor, mem_addAbsent, hx]

lemma addSelAdv_change : ListChange addSelAdv 4 := by
  constructor
  · intro on id
    simp [HelloPeer.Reports, addSelAdv, mem_ospf6MdrDeleteNeighbor, mem_addAbsent]
  · intro on id x hx
    simp [HelloPeer.SameAt, addSelAdv, mem_ospf6MdrDeleteNeighbor, mem_addAbsent, hx]

lemma addReported_change : ListChange addReported 5 := by
  constructor
  · intro on id
    simp [HelloPeer.Reports, addReported, mem_ospf6MdrDeleteNeighbor, mem_addAbsent]
  · intro on id x hx
    simp [HelloPeer.SameAt, addReported, mem_ospf6MdrDeleteNeighbor, mem_addAbsent, hx]

lemma diffLoop_spec {f : HelloPeer → UInt32 → HelloPeer} {t : Nat} (hf : ListChange f t)
    (x own : UInt32) (twoway reverse2way : Bool) (l : List UInt32) (s : DiffScan) :
    (x ∈ l → (diffLoop own twoway reverse2way f l s).on.Reports x t) ∧
      (x ∉ l → s.on.SameAt (diffLoop own twoway reverse2way f l s).on x) := by
  induction l generalizing s with
  | nil => exact ⟨fun h => absurd h not_mem_nil, fun _ => ⟨Iff.rfl, Iff.rfl, Iff.rfl⟩⟩
  | cons id l ih =>
    let s1 := s.self own id twoway reverse2way
    have hrest := ih { s1 with on := f s1.on id }
    change (x ∈ id :: l → (diffLoop own twoway reverse2way f l { s1 with on := f s1.on id }).on.Reports x t) ∧
      (x ∉ id :: l → s.on.SameAt
        (diffLoop own twoway reverse2way f l { s1 with on := f s1.on id }).on x)
    by_cases hl : x ∈ l
    · exact ⟨fun _ => hrest.1 hl, fun hx => absurd (mem_cons_of_mem id hl) hx⟩
    refine ⟨fun hx => ?_, fun hx => ?_⟩
    · obtain rfl : x = id := (mem_cons.mp hx).resolve_right hl
      exact (hf.reports s1.on x).of_same (hrest.2 hl)
    · have hne : x ≠ id := fun he => hx (he ▸ mem_cons_self)
      exact ((s.self_sameAt own id twoway reverse2way x).trans (hf.same s1.on id x hne)).trans
        (hrest.2 hl)

lemma processDiffLists_spec (x own : UInt32) (lists : HelloLists) (on : HelloPeer) :
    (x ∈ lists.rnl → (processDiffLists own lists on).on.Reports x 5) ∧
    (x ∉ lists.rnl → x ∈ lists.sanl → (processDiffLists own lists on).on.Reports x 4) ∧ (x ∉
      lists.rnl → x ∉ lists.sanl → x ∈ lists.dnl → (processDiffLists own lists on).on.Reports x 3) ∧
    (x ∉ lists.rnl → x ∉ lists.sanl → x ∉ lists.dnl → x ∈ lists.hnl ∨ x ∈ lists.lnl →
      (processDiffLists own lists on).on.Reports x 0) ∧
    (x ∉ lists.rids → on.SameAt (processDiffLists own lists on).on x) := by
  unfold processDiffLists
  obtain ⟨h1, k1⟩ := diffLoop_spec deleteNeighbor_change x own false false lists.lnl ⟨on, false, false⟩
  obtain ⟨h2, k2⟩ := diffLoop_spec deleteNeighbor_change x own true false lists.hnl
    (diffLoop own false false deleteNeighbor lists.lnl ⟨on, false, false⟩)
  generalize diffLoop own true false deleteNeighbor lists.hnl
    (diffLoop own false false deleteNeighbor lists.lnl ⟨on, false, false⟩) = s2 at h2 k2 ⊢
  obtain ⟨h3, k3⟩ := diffLoop_spec addDependent_change x own true true lists.dnl s2
  generalize diffLoop own true true addDependent lists.dnl s2 = s3 at h3 k3 ⊢
  obtain ⟨h4, k4⟩ := diffLoop_spec addSelAdv_change x own true true lists.sanl s3
  generalize diffLoop own true true addSelAdv lists.sanl s3 = s4 at h4 k4 ⊢
  obtain ⟨h5, k5⟩ := diffLoop_spec addReported_change x own true true lists.rnl s4
  refine ⟨h5, fun n5 m4 => (h4 m4).of_same (k5 n5),
    fun n5 n4 m3 => (h3 m3).of_same ((k4 n4).trans (k5 n5)), fun n5 n4 n3 m => ?_, fun hx => ?_⟩
  · have deleteNeighbor_changed : s2.on.Reports x 0 := by
      by_cases m2 : x ∈ lists.hnl
      · exact h2 m2
      · exact (h1 (m.resolve_left m2)).of_same (k2 m2)
    exact deleteNeighbor_changed.of_same (((k3 n3).trans (k4 n4)).trans (k5 n5))
  · simp only [HelloLists.rids, mem_append, not_or] at hx
    obtain ⟨⟨⟨⟨n1, n2⟩, n3⟩, n4⟩, n5⟩ := hx
    exact ((((k1 n1).trans (k2 n2)).trans (k3 n3)).trans (k4 n4)).trans (k5 n5)

end receiver

end OspfMdr.Ospf6
