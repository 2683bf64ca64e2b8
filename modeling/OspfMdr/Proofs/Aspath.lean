import OspfMdr.Model.Aspath

namespace OspfMdr.Bgp
open List AsSegment

/-- What one step of the path is: an AS, or a set of which any may have been passed. -/
inductive AsHop
  | as (type : SegmentType) (as : UInt32)
  | set (type : SegmentType) (ases : Finset UInt32)
  deriving DecidableEq

def AsHop.type : AsHop → SegmentType
  | .as type _ | .set type _ => type

/-- The steps of a segment: one for each AS of a sequence, one for a whole set. -/
def AsSegment.hops (seg : AsSegment) : List AsHop :=
  match seg.type with
  | .sequence | .confedSequence => seg.values.map (.as seg.type)
  | .set | .confedSet => [.set seg.type seg.values.toFinset]

/-- The steps of a path. -/
def pathHops (p : AsPath) : List AsHop := p.flatMap hops

/-- The first hops end inside of no confederation sequence. -/
def CutOutside : AsPath → Nat → Prop
  | [], _ => True
  | seg :: segs, hops => (seg.type = .confedSequence → hops = 0 ∨ seg.length ≤ hops) ∧
    CutOutside segs (hops - seg.hops.length)

variable {p : AsPath} {hops : Int} {l : List UInt32}

lemma mem_insertUnique {a x : UInt32} :
    x ∈ insertUnique (fun a b => decide (a < b)) a l ↔ x = a ∨ x ∈ l := by
  induction l with
  | nil => simp [insertUnique]
  | cons b l ih =>
    unfold insertUnique
    split_ifs <;> grind

lemma mem_sortUnique {x : UInt32} : x ∈ sortUnique (fun a b => decide (a < b)) l ↔ x ∈ l := by
  induction l with
  | nil => rfl
  | cons a l ih =>
    rw [sortUnique, foldr_cons, mem_insertUnique, mem_cons]
    exact or_congr_right ih

lemma sorted_eq (seg : AsSegment) : seg.sorted.type = seg.type ∧
    seg.sorted.values = sortUnique (fun a b => decide (a < b)) seg.values := by
  unfold sorted
  cases hs : sortUnique (fun a b => decide (a < b)) seg.values with
  | nil => exact absurd (hs ▸ mem_sortUnique.mpr mem_cons_self) not_mem_nil
  | cons a l => exact ⟨rfl, rfl⟩

lemma sorted_hops (seg : AsSegment) (hset : seg.type = .set ∨ seg.type = .confedSet) :
    seg.sorted.hops = seg.hops := by
  have hfinset : seg.sorted.values.toFinset = seg.values.toFinset := by
    ext x
    rw [mem_toFinset, mem_toFinset, (sorted_eq seg).2, mem_sortUnique]
  unfold hops
  rw [(sorted_eq seg).1, hfinset]
  rcases hset with h | h <;> rw [h]

lemma pathHops_normalise (p : AsPath) : pathHops (assegmentNormalise p) = pathHops p := by
  induction p with
  | nil => rfl
  | cons seg segs ih =>
    unfold assegmentNormalise
    set pin := if seg.type = .set ∨ seg.type = .confedSet then seg.sorted else seg with hpin
    have hhops : pin.hops = seg.hops := by
      rw [hpin]
      split_ifs with hset
      · exact sorted_hops seg hset
      · rfl
    have hcons : pathHops (seg :: segs) = pin.hops ++ pathHops (assegmentNormalise segs) := by
      rw [ih, hhops]
      rfl
    rw [hcons]
    cases assegmentNormalise segs with
    | nil => rfl
    | cons next rest =>
      dsimp only
      split_ifs with hseq
      · obtain ⟨hpin, hnext⟩ := hseq
        simp [pathHops, hops, values, hpin, hnext]
      · rfl

lemma length_pathHops (p : AsPath) :
    (pathHops p).length = aspathCountHops p + aspathCountConfeds p := by
  induction p using reverseRecOn with
  | nil => rfl
  | append_singleton p seg ih =>
    unfold pathHops aspathCountHops aspathCountConfeds at ih ⊢
    rw [flatMap_append, length_append, ih, foldl_append, foldl_append]
    cases htype : seg.type <;>
      simp [AsSegment.hops, AsSegment.values, AsSegment.length, htype] <;> omega

lemma countConfeds_eq_zero (h : p.any isConfed = false) : aspathCountConfeds p = 0 := by
  induction p using reverseRecOn with
  | nil => rfl
  | append_singleton p seg ih =>
    rw [any_append, Bool.or_eq_false_iff] at h
    unfold aspathCountConfeds at ih ⊢
    rw [foldl_append, ih h.1]
    cases htype : seg.type <;> simp_all [isConfed]

lemma reconcileLoop_cons {seg : AsSegment} (segs : AsPath) (hpos : 0 < hops)
    (hseg : seg.type = .confedSequence → seg.length ≤ hops.toNat) :
    ∃ new, reconcileLoop (seg :: segs) hops = new :: reconcileLoop segs (hops - seg.hops.length) ∧
      new.hops = seg.hops.take hops.toNat := by
  obtain ⟨n, hn⟩ : ∃ n, hops.toNat = n + 1 := ⟨hops.toNat - 1, by omega⟩
  have htake : seg.rest.take (min seg.length (n + 1) - 1) = seg.rest.take n := by
    unfold AsSegment.length
    rw [Nat.add_min_add_right, Nat.add_sub_cancel, take_eq_take_iff]
    omega
  rw [reconcileLoop, if_pos hpos]
  cases htype : seg.type with
  | set | confedSet => exact ⟨seg, by simp [AsSegment.hops, htype], by simp [AsSegment.hops, htype, hn]⟩
  | sequence =>
    refine ⟨seg.copy (min seg.length hops.toNat), ?_, ?_⟩
    · simp [AsSegment.hops, AsSegment.values, AsSegment.length, htype]
    · simp [AsSegment.hops, AsSegment.values, AsSegment.copy, htype, hn, htake]
  | confedSequence =>
    have hle := hseg htype
    refine ⟨seg.copy (min seg.length hops.toNat), ?_, ?_⟩
    · rw [if_neg (by omega)]
      simp [AsSegment.hops, AsSegment.values, AsSegment.length, htype]
    · simp [AsSegment.hops, AsSegment.values, AsSegment.copy, htype, hn, htake]

lemma pathHops_reconcileLoop (hcut : CutOutside p hops.toNat) :
    pathHops (reconcileLoop p hops) = (pathHops p).take hops.toNat := by
  induction p generalizing hops with
  | nil => simp [reconcileLoop, pathHops]
  | cons seg segs ih =>
    obtain ⟨hseg, hrest⟩ := hcut
    by_cases hpos : 0 < hops
    · obtain ⟨new, hloop, hnew⟩ := reconcileLoop_cons segs hpos fun h => by
        rcases hseg h with h | h <;> omega
      have hsub : hops.toNat - seg.hops.length = (hops - seg.hops.length).toNat := by omega
      rw [hsub] at hrest
      have htail := ih hrest
      unfold pathHops at htail ⊢
      rw [hloop, flatMap_cons, flatMap_cons, take_append, hnew, htail, hsub]
    · rw [reconcileLoop, if_neg hpos, Int.toNat_of_nonpos (not_lt.mp hpos)]
      rfl

lemma reconcileLoop_ne_nil {segs : AsPath} (hsegs : segs ≠ []) (hhops : 0 < hops) :
    reconcileLoop segs hops ≠ [] := by
  cases segs with
  | nil => exact absurd rfl hsegs
  | cons seg segs =>
    rw [reconcileLoop, if_pos hhops]
    split <;> simp

section reconcile
variable (aspath as4path : Aspath)

lemma aspathReconcileAs4_some : ∃ (hops : Int) (p : Aspath),
    aspathReconcileAs4 (some aspath) as4path = some p ∧ pathHops p.segments =
      pathHops (reconcileLoop aspath.segments hops) ++ pathHops as4path.segments ∧
    (aspathCountHops as4path.segments ≤ (pathHops aspath.segments).length →
      hops = (pathHops aspath.segments).length - aspathCountHops as4path.segments) := by
  unfold aspathReconcileAs4
  dsimp only
  rw [← length_pathHops]
  set hops : Int := (pathHops aspath.segments).length - aspathCountHops as4path.segments with hhops
  set hops' : Int := if hops < 0 then (aspathCountHops aspath.segments : Int) else hops with hhops'
  have hle : 0 ≤ hops' ∧ hops' ≤ (pathHops aspath.segments).length := by
    rw [hhops', length_pathHops] at *
    split_ifs <;> omega
  refine ⟨hops', ?_⟩
  have hdiff : aspathCountHops as4path.segments ≤ (pathHops aspath.segments).length →
      hops' = hops := fun h => if_neg (by omega)
  by_cases hzero : hops' = 0
  · rw [if_pos hzero, hzero]
    refine ⟨_, rfl, ?_, hzero ▸ hdiff⟩
    cases aspath.segments <;> rfl
  rw [if_neg hzero]
  cases hloop : reconcileLoop aspath.segments hops' with
  | nil =>
    refine absurd hloop (reconcileLoop_ne_nil (fun hnil => ?_) (by omega))
    rw [hnil] at hle
    exact hzero (le_antisymm hle.2 hle.1)
  | cons seg segs =>
    refine ⟨_, rfl, ?_, hdiff⟩
    exact (pathHops_normalise _).trans flatMap_append

end reconcile

def confedPath : Aspath := .ofSegments [⟨.confedSequence, 65001, [65002]⟩, ⟨.sequence, 1, [23456, 23456]⟩]

def widePath : Aspath := .ofSegments [⟨.sequence, 70000, [70001]⟩]

section packet
variable (peer : PacketPeer) (stored : Aspath)

/-- The path of the route is written to a peer without four-byte AS numbers although it has one, and begins with
a confederation. -/
def PathCut : Prop :=
  (peer.sort = .ebgp → peer.asPathUnchanged ∨ peer.rserverClient) ∧ peer.sort ≠ .confed ∧
    peer.as4Rcv = false ∧ aspathHasAs4 stored ∧
      stored.segments.head?.map type = some .confedSequence

lemma aspathDeleteConfedSeq_eq_iff : aspathDeleteConfedSeq stored = stored ↔
    stored.segments.head?.map type ≠ some .confedSequence := by
  obtain ⟨_ | ⟨seg, segs⟩, str⟩ := stored
  · simp [aspathDeleteConfedSeq]
  by_cases htype : seg.type = .confedSequence
  · refine iff_of_false (fun heq => ?_) (by simp [htype])
    have hlen := congrArg (fun p : Aspath => p.segments.length) heq
    have hle := (dropWhile_suffix isConfed (l := segs)).length_le
    simp [aspathDeleteConfedSeq, Aspath.ofSegments, isConfed, htype] at hlen
    omega
  · simp [aspathDeleteConfedSeq, htype]

lemma packetAspath_eq_none_iff (hsegs : stored.segments ≠ []) : packetAspath peer stored = none ↔
    (peer.sort = .ebgp → peer.asPathUnchanged ∨ peer.rserverClient) ∧ peer.sort ≠ .confed := by
  unfold packetAspath
  cases peer.sort <;> cases peer.asPathUnchanged <;> cases peer.rserverClient <;> cases peer.confedId <;> simp [hsegs]

/-- Sending the attributes leaves the stored path as it is, unless the peer gets a cut one. -/
theorem bgpPacketAttribute_stored_iff :
    (bgpPacketAttribute peer stored).stored = stored ↔ ¬PathCut peer stored := by
  have hsegs (hhead : stored.segments.head?.map type = some .confedSequence) : stored.segments ≠ [] :=
    fun hnil => by simp [hnil] at hhead
  constructor
  · rintro hsame ⟨hebgp, hconfed, hrcv, has4, hhead⟩
    have hown := (packetAspath_eq_none_iff peer stored (hsegs hhead)).mpr ⟨hebgp, hconfed⟩
    simp only [bgpPacketAttribute, hown, hrcv, has4, Option.getD_none, and_self, if_true] at hsame
    exact (aspathDeleteConfedSeq_eq_iff stored).mp hsame hhead
  · intro hcut
    unfold bgpPacketAttribute
    cases hown : packetAspath peer stored with
    | some aspath => simp only [Option.isSome_some, if_true, ite_self, apply_ite PacketPaths.stored]
    | none =>
      dsimp only [Option.getD_none]
      split_ifs with hwrite
      · cases ‹_›
      · refine (aspathDeleteConfedSeq_eq_iff stored).mpr fun hhead => hcut ?_
        obtain ⟨hebgp, hconfed⟩ := (packetAspath_eq_none_iff peer stored (hsegs hhead)).mp hown
        exact ⟨hebgp, hconfed, hwrite.1, hwrite.2, hhead⟩
      · rfl

/-- The confederation is taken out of the path of a route that is written to an internal peer. -/
theorem bgpPacketAttribute_cuts :
    (bgpPacketAttribute ⟨.ibgp, false, false, false, 1, 0, none⟩
        (.ofSegments [⟨.confedSequence, 65001, []⟩, ⟨.sequence, 70000, []⟩])).stored =
      .ofSegments [⟨.sequence, 70000, []⟩] := by
  decide

end packet

end OspfMdr.Bgp
