import OspfMdr.Proofs.Aspath

/-!
# Normalised AS paths

A path is normalised if no two AS_SEQUENCE segments follow each other and the sets are sorted. Only
AS_SEQUENCE segments are ever joined, so a path has one representation if also no two
AS_CONFED_SEQUENCE segments follow each other.
-/

namespace OspfMdr.Bgp
open List

/-- No two segments of the type follow each other. -/
def Apart (type : SegmentType) : AsPath → Prop := IsChain fun s t => ¬(s.type = type ∧ t.type = type)

def AsSegment.isSet (seg : AsSegment) : Prop := seg.type = .set ∨ seg.type = .confedSet
  deriving Decidable

/-- The segments are not empty by their type. With `confed` the sequences of confederations do not follow
each other either. -/
@[mk_iff] structure Normalised (confed : Bool) (p : AsPath) : Prop where
  apart : Apart .sequence p
  sorted : ∀ seg ∈ p, seg.isSet → seg.values.Pairwise (· < ·)
  confedApart : confed → Apart .confedSequence p

instance (type : SegmentType) : DecidablePred (Apart type) := fun p => inferInstanceAs (Decidable (IsChain _ p))

instance (confed : Bool) : DecidablePred (Normalised confed) := fun p =>
  decidable_of_iff' _ (normalised_iff confed p)

variable {p q : AsPath} {seg : AsSegment} {type : SegmentType} {confed : Bool}

lemma sortUnique_sorted (l : List UInt32) : (sortUnique (fun a b => decide (a < b)) l).Pairwise (· < ·) := by
  have hinsert (a : UInt32) (l : List UInt32) (h : l.Pairwise (· < ·)) :
      (insertUnique (fun a b => decide (a < b)) a l).Pairwise (· < ·) := by
    induction l with
    | nil => exact pairwise_singleton ..
    | cons b l ih =>
      have hb := pairwise_cons.mp h
      unfold insertUnique
      split_ifs with hab hba
      · rw [decide_eq_true_eq] at hab
        exact pairwise_cons.mpr ⟨forall_mem_cons.mpr ⟨hab, fun x hx => UInt32.lt_trans hab (hb.1 x hx)⟩, h⟩
      · refine pairwise_cons.mpr ⟨fun x hx => ?_, ih hb.2⟩
        rcases mem_insertUnique.mp hx with rfl | hx
        · exact decide_eq_true_eq.mp hba
        · exact hb.1 x hx
      · exact h
  induction l with
  | nil => exact .nil
  | cons a l ih => exact hinsert a _ ih

/-- The type of the first segment. -/
def headType (p : AsPath) : Option SegmentType := p.head?.map AsSegment.type

/-- The type of the last segment. -/
def lastType (p : AsPath) : Option SegmentType := p.getLast?.map AsSegment.type

lemma apart_append : Apart type (p ++ q) ↔ Apart type p ∧ Apart type q ∧
    ¬(lastType p = some type ∧ headType q = some type) := by
  rw [Apart, isChain_append, lastType, headType]
  cases p.getLast? <;> cases q.head? <;> simp

lemma apart_cons : Apart type (seg :: p) ↔ ¬(seg.type = type ∧ headType p = some type) ∧ Apart type p := by
  rw [Apart, isChain_cons, headType]
  cases p.head? <;> simp

lemma apart_iff_types : Apart type p ↔
    (p.map AsSegment.type).IsChain fun s t => ¬(s = type ∧ t = type) := by
  rw [Apart, isChain_map]

lemma Apart.of_types (h : Apart type q) (hp : p.map AsSegment.type <+: q.map AsSegment.type) :
    Apart type p := by
  obtain ⟨rest, hrest⟩ := hp
  rw [apart_iff_types, ← hrest] at h
  exact apart_iff_types.mpr h.left_of_append

open AsSegment

/-- The segment in the form in which sets are sorted. -/
def AsSegment.pinned (seg : AsSegment) : AsSegment := if seg.isSet then seg.sorted else seg

@[simp] lemma pinned_type (seg : AsSegment) : seg.pinned.type = seg.type := by
  unfold pinned
  split_ifs
  · exact (sorted_eq seg).1
  · rfl

lemma pinned_sorted (h : seg.pinned.isSet) : seg.pinned.values.Pairwise (· < ·) := by
  have hset : seg.isSet := by rwa [isSet, pinned_type] at h
  rw [pinned, if_pos hset, (sorted_eq seg).2]
  exact sortUnique_sorted _

/-- A segment is joined with the next one if both are sequences, and put before the others otherwise. -/
lemma normalise_cons (seg : AsSegment) (segs : AsPath) :
    assegmentNormalise (seg :: segs) = seg.pinned :: assegmentNormalise segs ∧
      ¬(seg.type = .sequence ∧ headType (assegmentNormalise segs) = some .sequence) ∨
    ∃ next rest, assegmentNormalise segs = next :: rest ∧ seg.type = .sequence ∧ next.type = .sequence ∧
      assegmentNormalise (seg :: segs) = ⟨.sequence, seg.first, seg.rest ++ next.values⟩ :: rest := by
  have hpin : (if seg.type = .set ∨ seg.type = .confedSet then seg.sorted else seg) = seg.pinned := rfl
  rw [assegmentNormalise, hpin]
  cases hnext : assegmentNormalise segs with
  | nil => exact .inl ⟨rfl, by simp [headType]⟩
  | cons next rest =>
    dsimp only
    rw [pinned_type]
    split_ifs with hseq
    · have hself : seg.pinned = seg := by simp [pinned, isSet, hseq.1]
      exact .inr ⟨next, rest, rfl, hseq.1, hseq.2, by rw [hself]⟩
    · exact .inl ⟨rfl, by simpa [headType] using hseq⟩

lemma headType_normalise (p : AsPath) : headType (assegmentNormalise p) = headType p := by
  cases p with
  | nil => rfl
  | cons seg segs =>
    rcases normalise_cons seg segs with ⟨heq, -⟩ | ⟨next, rest, -, hseg, -, heq⟩
    · simp [headType, heq]
    · simp [headType, heq, hseg]

lemma apart_normalise (p : AsPath) : Apart .sequence (assegmentNormalise p) := by
  induction p with
  | nil => exact .nil
  | cons seg segs ih =>
    rcases normalise_cons seg segs with ⟨heq, hapart⟩ | ⟨next, rest, hnext, -, hseq, heq⟩
    · rw [heq, apart_cons, pinned_type]
      exact ⟨hapart, ih⟩
    · rw [hnext, apart_cons, hseq] at ih
      rw [heq, apart_cons]
      exact ih

lemma confedApart_normalise (p : AsPath) :
    Apart .confedSequence (assegmentNormalise p) ↔ Apart .confedSequence p := by
  induction p with
  | nil => exact Iff.rfl
  | cons seg segs ih =>
    rcases normalise_cons seg segs with ⟨heq, -⟩ | ⟨next, rest, hnext, hseg, hseq, heq⟩
    · rw [heq, apart_cons, pinned_type, apart_cons, ih, headType_normalise]
    · rw [hnext, apart_cons, hseq] at ih
      rw [heq, apart_cons, apart_cons, ← ih, hseg]
      simp

lemma normalise_sorted (p : AsPath) :
    ∀ seg ∈ assegmentNormalise p, seg.isSet → seg.values.Pairwise (· < ·) := by
  induction p with
  | nil => simp [assegmentNormalise]
  | cons seg segs ih =>
    rcases normalise_cons seg segs with ⟨heq, -⟩ | ⟨next, rest, hnext, -, -, heq⟩
    · rw [heq, forall_mem_cons]
      exact ⟨pinned_sorted, ih⟩
    · rw [hnext, forall_mem_cons] at ih
      rw [heq, forall_mem_cons]
      exact ⟨by simp [isSet], ih.2⟩

/-- What is normalised keeps the sequences of confederations apart only if they were. -/
lemma normalised_normalise (p : AsPath) :
    Normalised confed (assegmentNormalise p) ↔ (confed → Apart .confedSequence p) := by
  rw [normalised_iff, confedApart_normalise]
  exact ⟨fun h => h.2.2, fun h => ⟨apart_normalise p, normalise_sorted p, h⟩⟩

lemma Apart.addOneAs {p : Aspath} (h : Apart type p.segments) (as : UInt32) (t : SegmentType) :
    Apart type (aspathAddOneAs p as t).segments := by
  unfold aspathAddOneAs
  cases hp : p.segments with
  | nil => exact isChain_singleton _
  | cons seg segs =>
    rw [hp] at h
    dsimp only
    split_ifs with heq
    · rw [apart_cons] at h ⊢
      exact heq ▸ h
    · rw [apart_cons]
      refine ⟨?_, h⟩
      rintro ⟨rfl, hu⟩
      exact heq (Option.some.inj hu)

lemma Normalised.addOneAs {p : Aspath} (h : Normalised confed p.segments) (as : UInt32)
    (htype : type = .sequence ∨ type = .confedSequence) :
    Normalised confed (aspathAddOneAs p as type).segments := by
  refine ⟨h.apart.addOneAs as type, ?_, fun hc => (h.confedApart hc).addOneAs as type⟩
  have hset (ases : List UInt32) : ¬isSet ⟨type, as, ases⟩ := by
    rcases htype with rfl | rfl <;> simp [isSet]
  have hsorted := h.sorted
  unfold aspathAddOneAs
  cases hp : p.segments with
  | nil => simp [hset]
  | cons seg segs =>
    rw [hp] at hsorted
    dsimp only
    split_ifs
    · exact forall_mem_cons.mpr ⟨fun h => absurd h (hset _), (forall_mem_cons.mp hsorted).2⟩
    · exact forall_mem_cons.mpr ⟨fun h => absurd h (hset _), hsorted⟩

lemma Normalised.of_suffix (h : Normalised confed q) (hp : p <:+ q) : Normalised confed p :=
  ⟨h.apart.suffix hp, fun seg hseg => h.sorted seg (hp.subset hseg), fun hc => (h.confedApart hc).suffix hp⟩

lemma Normalised.deleteConfedSeq {p : Aspath} (h : Normalised confed p.segments) :
    Normalised confed (aspathDeleteConfedSeq p).segments := by
  unfold aspathDeleteConfedSeq
  split
  · exact h
  rename_i seg segs hp
  split_ifs
  · rw [hp] at h
    exact h.of_suffix (dropWhile_suffix _)
  · exact h

/-- The common segments are those of the first path, up to the length of the last one. -/
lemma aggregateLoop_types (p q : AsPath) (n : Nat) :
    (aggregateLoop p q n).1.map AsSegment.type <+: p.map AsSegment.type := by
  fun_induction aggregateLoop p q n with
  | case1 => exact nil_prefix
  | case2 seg1 segs1 seg2 segs2 n0 htype n common hn =>
    simp only [common]
    split_ifs <;> simp [AsSegment.copy]
  | case3 seg1 segs1 seg2 segs2 n0 htype n common hn r ih =>
    have hpos : n ≠ 0 := by
      rw [not_or, not_ne_iff] at hn
      rw [hn.1]
      exact Nat.succ_ne_zero _
    simpa [common, hpos, AsSegment.copy] using ih
  | case4 => exact nil_prefix

lemma normalised_aggregate {p : Aspath} (hp : Normalised confed p.segments) (q : Aspath) :
    Normalised confed (aspathAggregate p q).segments := by
  refine (normalised_normalise _).mpr fun hc => ?_
  have hcommon := (hp.confedApart hc).of_types (aggregateLoop_types p.segments q.segments 0)
  rw [apart_append]
  split
  · exact ⟨hcommon, .nil, by simp [headType]⟩
  · exact ⟨hcommon, isChain_singleton _, by simp [headType]⟩

/-! ## Reconciling with an AS4 path -/

/-- The hops that are kept of the first path. -/
def reconcileHops (p q : Aspath) : Int :=
  let hops : Int := (aspathCountHops p.segments + aspathCountConfeds p.segments : Nat) -
    (aspathCountHops q.segments : Nat)
  if hops < 0 then (aspathCountHops p.segments : Int) else hops

/-- The last hop that is kept of the first path and the first one of the second are of a confederation
sequence each. -/
def JoinedAtCut (p q : Aspath) : Prop :=
  0 < reconcileHops p q ∧
    ((pathHops p.segments)[(reconcileHops p q).toNat - 1]?.map AsHop.type = some .confedSequence) ∧
    headType q.segments = some .confedSequence

lemma hop_type {h : AsHop} (hh : h ∈ seg.hops) : h.type = seg.type := by
  unfold AsSegment.hops at hh
  split at hh
  · obtain ⟨as, -, rfl⟩ := List.mem_map.mp hh
    rfl
  · obtain ⟨as, -, rfl⟩ := List.mem_map.mp hh
    rfl
  · rw [mem_singleton.mp hh]
    rfl
  · rw [mem_singleton.mp hh]
    rfl

lemma hops_length_pos (seg : AsSegment) : 0 < seg.hops.length := by
  unfold AsSegment.hops
  split <;> simp [AsSegment.values]

/-- A round copies a segment of the type, and is the last one if the hops end in it. -/
lemma reconcileLoop_round {hops : Int} (seg : AsSegment) (segs : AsPath) (hpos : 0 < hops) :
    ∃ new rest, reconcileLoop (seg :: segs) hops = new :: reconcileLoop segs rest ∧ new.type = seg.type ∧
      if seg.hops.length < hops then rest = hops - seg.hops.length else rest ≤ 0 := by
  rw [reconcileLoop, if_pos hpos]
  cases htype : seg.type with
  | set | confedSet =>
    refine ⟨_, _, rfl, htype, ?_⟩
    simp only [AsSegment.hops, htype, length_singleton]
    split_ifs
    all_goals omega
  | sequence =>
    refine ⟨_, _, rfl, htype, ?_⟩
    simp only [AsSegment.hops, htype, length_map, AsSegment.values, length_cons, AsSegment.length]
    split_ifs
    all_goals omega
  | confedSequence =>
    refine ⟨_, _, rfl, htype, ?_⟩
    simp only [AsSegment.hops, htype, length_map, AsSegment.values, length_cons, AsSegment.length]
    split_ifs <;> omega

lemma reconcileLoop_types (p : AsPath) (hops : Int) :
    (reconcileLoop p hops).map AsSegment.type <+: p.map AsSegment.type := by
  induction p generalizing hops with
  | nil => exact nil_prefix
  | cons seg segs ih =>
    by_cases hpos : 0 < hops
    · obtain ⟨new, rest, hloop, htype, -⟩ := reconcileLoop_round seg segs hpos
      rw [hloop, map_cons, map_cons, htype]
      exact prefix_cons_inj _ |>.mpr (ih rest)
    · rw [reconcileLoop, if_neg hpos]
      exact nil_prefix

lemma reconcileLoop_nonpos {hops : Int} (h : hops ≤ 0) (p : AsPath) : reconcileLoop p hops = [] := by
  cases p with
  | nil => rfl
  | cons seg segs => rw [reconcileLoop, if_neg (not_lt.mpr h)]

lemma lastType_reconcileLoop {hops : Int} (hpos : 0 < hops) (hle : hops ≤ (pathHops p).length) :
    lastType (reconcileLoop p hops) = (pathHops p)[hops.toNat - 1]?.map AsHop.type := by
  induction p generalizing hops with
  | nil => simp [pathHops] at hle; omega
  | cons seg segs ih =>
    obtain ⟨new, rest, hloop, htype, hrest⟩ := reconcileLoop_round seg segs hpos
    have hcons : pathHops (seg :: segs) = seg.hops ++ pathHops segs := flatMap_cons
    rw [hloop, hcons]
    rw [hcons, length_append] at hle
    split_ifs at hrest with hlt
    · subst hrest
      have hne : reconcileLoop segs (hops - seg.hops.length) ≠ [] := by
        refine reconcileLoop_ne_nil ?_ (by omega)
        rintro rfl
        simp [pathHops] at hle
        omega
      have hindex : hops.toNat - 1 - seg.hops.length = (hops - seg.hops.length).toNat - 1 := by omega
      rw [getElem?_append_right (by omega), hindex, ← ih (by omega) (by omega), lastType, lastType,
        getLast?_cons_of_ne_nil hne]
    · rw [reconcileLoop_nonpos hrest, getElem?_append_left (by omega),
        getElem?_eq_getElem (by omega)]
      rw [Option.map_some, hop_type (getElem_mem _), ← htype]
      rfl

lemma reconcileHops_bounds (p q : Aspath) :
    0 ≤ reconcileHops p q ∧ reconcileHops p q ≤ (pathHops p.segments).length := by
  unfold reconcileHops
  rw [length_pathHops]
  dsimp only
  split_ifs <;> omega

lemma reconcileAs4_of_zero {p q : Aspath} (h : reconcileHops p q = 0) :
    aspathReconcileAs4 (some p) q = some (aspathDup q) := if_pos h

lemma reconcileAs4_of_loop {p q : Aspath} (h : reconcileHops p q ≠ 0)
    (hne : reconcileLoop p.segments (reconcileHops p q) ≠ []) : aspathReconcileAs4 (some p) q =
      some (.ofSegments (assegmentNormalise (reconcileLoop p.segments (reconcileHops p q) ++ q.segments))) := by
  refine (if_neg h).trans ?_
  obtain ⟨seg, segs, hloop⟩ := exists_cons_of_ne_nil hne
  rw [show (if _ < (0 : Int) then _ else _) = reconcileHops p q from rfl, hloop]

lemma normalised_reconcileAs4 {p q : Aspath} (hp : Normalised confed p.segments)
    (hq : Normalised confed q.segments) :
    (∃ r ∈ aspathReconcileAs4 (some p) q, Normalised confed r.segments) ↔
      ¬(confed ∧ JoinedAtCut p q) := by
  obtain ⟨hge, hle⟩ := reconcileHops_bounds p q
  unfold JoinedAtCut
  by_cases hzero : reconcileHops p q = 0
  · rw [reconcileAs4_of_zero hzero]
    exact iff_of_true ⟨_, rfl, hq⟩ fun h => absurd h.2.1 (by omega)
  have hpos : 0 < reconcileHops p q := by omega
  have hne : reconcileLoop p.segments (reconcileHops p q) ≠ [] := by
    refine reconcileLoop_ne_nil (fun hnil => ?_) hpos
    rw [hnil] at hle
    exact absurd hle (not_le.mpr hpos)
  have htypes := reconcileLoop_types p.segments (reconcileHops p q)
  rw [reconcileAs4_of_loop hzero hne, ← lastType_reconcileLoop hpos hle]
  simp only [Option.mem_def, Option.some.injEq, exists_eq_left', Aspath.ofSegments,
    normalised_normalise, apart_append]
  constructor
  · exact fun h hjoin => (h hjoin.1).2.2 hjoin.2.2
  · exact fun h hc => ⟨(hp.confedApart hc).of_types htypes, hq.confedApart hc, fun hjoin => h ⟨hc, hpos, hjoin⟩⟩

/-! ## Prepending -/

/-- A sequence is put before a sequence of a confederation. -/
def FreedRead (p q : Aspath) : Prop :=
  lastType p.segments = some .sequence ∧ headType q.segments = some .confedSequence

/-- A sequence of a confederation is put before another. -/
def ConfedsMeet (p q : Aspath) : Prop :=
  lastType p.segments = some .confedSequence ∧ headType q.segments = some .confedSequence

lemma normalised_append : Normalised confed (p ++ q) ↔ Normalised confed p ∧ Normalised confed q ∧
    ¬(lastType p = some .sequence ∧ headType q = some .sequence) ∧
    (confed → ¬(lastType p = some .confedSequence ∧ headType q = some .confedSequence)) := by
  simp only [normalised_iff, apart_append, forall_mem_append]
  tauto

lemma normalised_cons : Normalised confed (seg :: p) ↔
    (seg.isSet → seg.values.Pairwise (· < ·)) ∧ Normalised confed p ∧
    ¬(seg.type = .sequence ∧ headType p = some .sequence) ∧
    (confed → ¬(seg.type = .confedSequence ∧ headType p = some .confedSequence)) := by
  simp only [normalised_iff, apart_cons, forall_mem_cons]
  tauto

lemma prepend_normalised {p q : Aspath} (hp : Normalised confed p.segments)
    (hq : Normalised confed q.segments) :
    (∃ r ∈ aspathPrepend p q, Normalised confed r.segments) ↔
      ¬FreedRead p q ∧ ¬(confed ∧ ConfedsMeet p q) := by
  unfold aspathPrepend FreedRead ConfedsMeet lastType headType
  cases hseg : q.segments with
  | nil => simp [hp, Aspath.ofSegments]
  | cons seg2 segs =>
    cases hlast : p.segments.getLast? with
    | none => simp [hq]
    | some seg1 =>
      obtain ⟨init, hinit⟩ := getLast?_eq_some_iff.mp hlast
      rw [hseg] at hq
      rw [hinit] at hp ⊢
      simp only [head?_cons, Option.map_some, Option.some.injEq]
      split_ifs with hfreed hboth
      · simp [hfreed]
      · refine iff_of_true ⟨_, rfl, ?_⟩ ⟨hfreed, by simp [hboth.1]⟩
        rw [dropLast_concat]
        rw [normalised_append] at hp
        rw [normalised_cons] at hq
        refine normalised_append.mpr ⟨hp.1, normalised_cons.mpr ⟨by simp [isSet], hq.2.1, ?_, by simp⟩, ?_⟩
        · simpa [hboth.2] using hq.2.2.1
        · simpa [headType, hboth.1] using hp.2.2
      · have hends : lastType (init ++ [seg1]) = some seg1.type := by simp [lastType]
        have hsome : (∃ r ∈ some (Aspath.ofSegments ((init ++ [seg1]) ++ seg2 :: segs)),
            Normalised confed r.segments) ↔ Normalised confed ((init ++ [seg1]) ++ seg2 :: segs) := by
          simp [Aspath.ofSegments]
        rw [hsome, normalised_append, hends]
        simp only [headType, head?_cons, Option.map_some, Option.some.injEq, hp, hq]
        tauto

/-! ## Excluding AS numbers -/

lemma exclude_some {list : AsPath} {new : AsSegment} (h : seg.exclude list = some new) :
    new.type = seg.type ∧ new.values <+ seg.values := by
  unfold exclude at h
  split at h
  · cases h
  · rename_i as ases hvalues
    cases h
    exact ⟨rfl, (hvalues ▸ filter_sublist : as :: ases <+ seg.values)⟩

/-- No two segments of the type follow each other among those that keep an AS. -/
def KeptApart (type : SegmentType) (source list : Aspath) : Prop :=
  Apart type (source.segments.filter fun seg => (seg.exclude list.segments).isSome)

lemma exclude_apart (type : SegmentType) (source list : Aspath) :
    Apart type (aspathFilterExclude source list).segments ↔ KeptApart type source list := by
  have htypes (p : AsPath) : (p.filterMap (exclude list.segments)).map AsSegment.type =
      (p.filter fun seg => (seg.exclude list.segments).isSome).map AsSegment.type := by
    induction p with
    | nil => rfl
    | cons seg p ih =>
      cases hseg : seg.exclude list.segments with
      | none => simp [hseg, ih]
      | some new => simp [hseg, ih, (exclude_some hseg).1]
  rw [KeptApart, apart_iff_types, apart_iff_types, ← htypes]
  rfl

lemma exclude_normalised {source list : Aspath} (h : Normalised confed source.segments) :
    Normalised confed (aspathFilterExclude source list).segments ↔
      KeptApart .sequence source list ∧ (confed → KeptApart .confedSequence source list) := by
  have hsorted : ∀ new ∈ (aspathFilterExclude source list).segments, new.isSet → new.values.Pairwise (· < ·) := by
    intro new hnew hset
    obtain ⟨seg, hseg, hnew⟩ := mem_filterMap.mp hnew
    obtain ⟨htype, hsub⟩ := exclude_some hnew
    rw [isSet, htype] at hset
    exact (h.sorted seg hseg hset).sublist hsub
  rw [normalised_iff, exclude_apart, exclude_apart]
  exact and_congr_right fun _ => and_iff_right hsorted

/-! ## One representation for each meaning -/

lemma segment_eq {s t : AsSegment} (htype : s.type = t.type) (hvalues : s.values = t.values) : s = t := by
  obtain ⟨_, _, _⟩ := s
  obtain ⟨_, _, _⟩ := t
  simp_all [AsSegment.values]

lemma segment_eq_of_hops {s t : AsSegment} (htype : s.type = t.type) (hhops : s.hops = t.hops)
    (hs : s.isSet → s.values.Pairwise (· < ·)) (ht : t.isSet → t.values.Pairwise (· < ·)) : s = t := by
  refine segment_eq htype ?_
  by_cases hset : s.isSet
  · have hsort := hs hset
    have hsort' := ht (by rwa [isSet, ← htype])
    have hfinset : s.values.toFinset = t.values.toFinset := by
      rcases hset with h | h <;> simpa [AsSegment.hops, ← htype, h] using hhops
    refine (perm_of_nodup_nodup_toFinset_eq (hsort.imp UInt32.ne_of_lt)
      (hsort'.imp UInt32.ne_of_lt) hfinset).eq_of_pairwise ?_ hsort hsort'
    exact fun a b _ _ hab hba => absurd hab (UInt32.lt_asymm hba)
  · have hmap : s.hops = s.values.map (.as s.type) ∧ t.hops = t.values.map (.as s.type) := by
      unfold isSet at hset
      unfold AsSegment.hops
      rw [← htype]
      cases h : s.type <;> simp_all
    rw [hmap.1, hmap.2] at hhops
    exact map_injective_iff.mpr (fun a b h => (AsHop.as.inj h).2) hhops

lemma headType_pathHops (p : AsPath) : (pathHops p).head?.map AsHop.type = headType p := by
  cases p with
  | nil => rfl
  | cons seg p =>
    have hcons : pathHops (seg :: p) = seg.hops ++ pathHops p := flatMap_cons
    obtain ⟨h, hs, heq⟩ := exists_cons_of_ne_nil (length_pos_iff.mp (hops_length_pos seg))
    rw [hcons, heq]
    have hmem : h ∈ seg.hops := by simp [heq]
    simp [headType, hop_type hmem]

-- the hops of the first segment are the longest beginning of one type, or one set
lemma head_hops (h : Normalised true (seg :: p)) : seg.hops =
    if seg.isSet then (pathHops (seg :: p)).take 1
    else (pathHops (seg :: p)).takeWhile fun hop => hop.type = seg.type := by
  have hcons : pathHops (seg :: p) = seg.hops ++ pathHops p := flatMap_cons
  rw [hcons]
  split_ifs with hset
  · rcases hset with hset | hset <;> simp [AsSegment.hops, hset]
  · have hnext : headType p ≠ some seg.type := by
      obtain ⟨-, -, hseq, hconfed⟩ := normalised_cons.mp h
      unfold isSet at hset
      cases htype : seg.type <;> simp_all
    rw [takeWhile_append_of_pos fun hop hhop => by simpa using hop_type hhop]
    rw [← headType_pathHops] at hnext
    cases hp : pathHops p with
    | nil => simp
    | cons hop hops =>
      have hstop : hop.type ≠ seg.type := by simpa [hp] using hnext
      simp [hstop]

/-- Two paths with the same hops are the same. -/
lemma segments_eq_of_pathHops (hp : Normalised true p) (hq : Normalised true q)
    (h : pathHops p = pathHops q) : p = q := by
  induction p generalizing q with
  | nil =>
    have hhead := headType_pathHops q
    rw [← h] at hhead
    cases q with
    | nil => rfl
    | cons t q => simp [pathHops, headType] at hhead
  | cons s p ih =>
    have hhead := headType_pathHops (s :: p)
    rw [h, headType_pathHops] at hhead
    cases q with
    | nil => simp [headType] at hhead
    | cons t q =>
      have htype : s.type = t.type := by simpa [headType] using hhead.symm
      have hset : s.isSet ↔ t.isSet := by rw [isSet, isSet, htype]
      have hhops : s.hops = t.hops := by
        rw [head_hops hp, head_hops hq, h, htype]
        simp only [hset]
      have hcons (seg : AsSegment) (segs : AsPath) : pathHops (seg :: segs) = seg.hops ++ pathHops segs :=
        flatMap_cons
      rw [hcons, hcons, hhops, append_cancel_left_eq] at h
      obtain ⟨hs, hp, -⟩ := normalised_cons.mp hp
      obtain ⟨ht, hq, -⟩ := normalised_cons.mp hq
      rw [segment_eq_of_hops htype hhops hs ht, ih hp hq h]

def setBetween : Aspath := .ofSegments [⟨.sequence, 1, []⟩, ⟨.set, 2, []⟩, ⟨.sequence, 3, []⟩]

/-- A confederation of one member. -/
def confedOf (as : UInt32) : Aspath := .ofSegments [⟨.confedSequence, as, []⟩]

end OspfMdr.Bgp
