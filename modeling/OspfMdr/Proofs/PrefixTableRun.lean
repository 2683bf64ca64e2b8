import OspfMdr.Proofs.PrefixTable

namespace OspfMdr.Ospf6
open Lib List Function Option PrefixTable

/-- What the calls are for: a map from masked prefixes to infos, and the prefixes whose nodes were
not released yet. -/
structure PrefixMap where
  map : List Bool → Option Nat
  held : List (List Bool)

namespace PrefixMap

def empty : PrefixMap := ⟨fun _ => none, []⟩

/-- What the call does to the map and to the prefixes held. -/
def step {w : Nat} (m : PrefixMap) : TableOp w → Option PrefixMap
  | .get p => some { m with held := p.masked :: m.held }
  | .assign i info => m.held[i]?.map fun q => { m with map := update m.map q info }
  | .release i =>
    m.held[i]?.bind fun q =>
      if m.held.count q = 1 ∧ (m.map q).isSome then none else some { m with held := m.held.eraseIdx i }

end PrefixMap

/-- No node is held so often that one more lock comes round to 0. -/
def FewHeld (m : PrefixMap) : Prop := ∀ q, m.held.count q + 1 < 2 ^ 32

namespace PrefixTable

variable {w : Nat} {t : PrefixTable w} {p : FamilyPrefix w} {T : BinTree Nat} {m m' : PrefixMap}
  {s : TableUse w} {op : TableOp w} {a : Nat}

/-- The result is the node with exactly the prefix, if that has data. -/
structure IsLookup (t : PrefixTable w) (map : List Bool → Option Nat) (p : FamilyPrefix w) (res : Option Nat) : Prop where
  node : ∀ a, res = some a → (t.p a).masked = p.masked ∧ (t.table.nodes a).info = map p.masked ∧
    (map p.masked).isSome
  none : res = none → map p.masked = none

/-- The result is the node with the longest prefix of the address that has data. -/
structure IsMatch (t : PrefixTable w) (map : List Bool → Option Nat) (p : FamilyPrefix w) (res : Option Nat) : Prop where
  node : ∀ a, res = some a → (t.p a).masked <+: p.masked ∧
    (t.table.nodes a).info = map (t.p a).masked ∧ (map (t.p a).masked).isSome ∧
    ∀ q, (map q).isSome → q <+: p.masked → q.length ≤ (t.p a).prefixlen
  none : res = none → ∀ q, q <+: p.masked → map q = none

/-- The table is the map; the loop over it visits the nodes of its tree in preorder. -/
structure IsPrefixMap (t : PrefixTable w) (map : List Bool → Option Nat) : Prop where
  lookup : ∀ p : FamilyPrefix w, ∃ res,
    t.routeNodeLookup p = some ({ t with table := t.table.lockNode? res }, res) ∧ t.IsLookup map p res
  longest : ∀ p : FamilyPrefix w, ∃ res,
    t.routeNodeMatch p = some ({ t with table := t.table.lockNode? res }, res) ∧ t.IsMatch map p res
  visit : ∃ T : BinTree Nat, T.root = t.table.top ∧ T.Linked t.table.links none ∧ T.pre.Nodup ∧
    t.visitAll = some (t, T.pre) ∧ (∀ a ∈ T.pre, (t.table.nodes a).info = map (t.p a).masked) ∧
    ∀ q, (map q).isSome → ∃ a ∈ T.pre, (t.p a).masked = q

/-- The table holds what the map says, and the callers hold the nodes of its prefixes. -/
structure Refines (s : TableUse w) (T : BinTree Nat) (m : PrefixMap) : Prop where
  masked : s.t.Masked
  held : s.t.table.Held T s.held []
  keys : m.held = s.held.map fun a => (s.t.table.nodes a).p
  info : ∀ a ∈ T.pre, (s.t.table.nodes a).info = m.map (s.t.table.nodes a).p
  map : ∀ q, (m.map q).isSome → ∃ a ∈ T.pre, (s.t.table.nodes a).p = q

section
variable (h : Refines s T m) {q : List Bool}
include h

lemma Refines.count_eq (ha : a ∈ T.pre) : m.held.count (s.t.table.nodes a).p = s.held.count a := by
  rw [h.keys, count, countP_map, count]
  refine countP_congr fun x hx => ?_
  have hp : (s.t.table.nodes x).p = (s.t.table.nodes a).p ↔ x = a :=
    ⟨h.held.shaped.eq_of_p (h.held.mem x hx) ha, fun hxa => hxa ▸ rfl⟩
  simpa using hp

lemma Refines.few (hfew : FewHeld m) (x : Nat) : s.held.count x + 1 < 2 ^ 32 := by
  by_cases hx : x ∈ s.held
  · rw [← h.count_eq (h.held.mem x hx)]
    exact hfew _
  · rw [count_eq_zero.mpr hx]
    decide

lemma Refines.lookup (p : FamilyPrefix w) :
    ∃ res, s.t.routeNodeLookup p = some ({ s.t with table := s.t.table.lockNode? res }, res) ∧
      s.t.IsLookup m.map p res := by
  have hmiss : (∀ a, T.descent (fun a => (s.t.table.nodes a).p) p.masked none ≠ .found a) →
      m.map p.masked = none := by
    intro hd
    by_contra hsome
    obtain ⟨a, ha, hkey⟩ := h.map _ (isSome_iff_ne_none.mpr hsome)
    obtain ⟨b, hb⟩ := h.held.shaped.prefixed.descent_of_mem none ha hkey
    exact hd b hb
  unfold routeNodeLookup
  rw [h.masked.walk_eq, h.held.shaped.walk_eq, map_some]
  cases hd : T.descent (fun a => (s.t.table.nodes a).p) p.masked none with
  | found a =>
    obtain ⟨ha, hkey⟩ := BinTree.descent_found hd
    have hinfo : (s.t.table.nodes a).info = m.map p.masked := (h.info a ha).trans (congrArg m.map hkey)
    by_cases hsome : (s.t.table.nodes a).info.isSome
    · refine ⟨some a, by simp only [hsome, if_true]; rfl, fun b hb => ?_, nofun⟩
      cases hb
      exact ⟨(h.masked a).symm.trans hkey, hinfo, hinfo ▸ hsome⟩
    · refine ⟨none, by simp only [hsome]; rfl, nofun, fun _ => ?_⟩
      rw [← hinfo]
      simpa using hsome
  | ended m => exact ⟨none, rfl, nofun, fun _ => hmiss (by simp [hd])⟩
  | stopped m n => exact ⟨none, rfl, nofun, fun _ => hmiss (by simp [hd])⟩

lemma Refines.longest (p : FamilyPrefix w) :
    ∃ res, s.t.routeNodeMatch p = some ({ s.t with table := s.t.table.lockNode? res }, res) ∧
      s.t.IsMatch m.map p res := by
  have hshaped := h.held.shaped
  have hstored : ∀ a ∈ T.pre, s.t.stored a = (m.map (s.t.table.nodes a).p).isSome :=
    fun a ha => congrArg Option.isSome (h.info a ha)
  refine ⟨_, by
    rw [routeNodeMatch, hshaped.top, h.masked.matchLoop_eq hshaped.linked (Nat.le_succ_of_le hshaped.length_le)]
    rfl, ?_⟩
  have hlongest : IsLongest (fun a => (s.t.table.nodes a).p) s.t.stored p.masked T.pre none _ :=
    hshaped.prefixed.isLongest_longest s.t.stored none
  rcases hlongest with ⟨hres, hnone⟩ | ⟨a, ha, hres, hok, hpre, hmax⟩
  · rw [hres]
    refine ⟨nofun, fun _ q hq => ?_⟩
    by_contra hsome
    obtain ⟨x, hx, rfl⟩ := h.map q (isSome_iff_ne_none.mpr hsome)
    have hx' := hnone x hx hq
    rw [hstored x hx, isSome_eq_false_iff, isNone_iff_eq_none] at hx'
    exact hsome hx'
  rw [hres]
  refine ⟨fun b hb => ?_, nofun⟩
  cases hb
  rw [← h.masked a, ← h.masked.length_eq a]
  refine ⟨hpre, h.info a ha, (hstored a ha) ▸ hok, fun q hq hqp => ?_⟩
  obtain ⟨x, hx, rfl⟩ := h.map q hq
  exact hmax x hx hqp ((hstored x hx).trans hq)

lemma Refines.isPrefixMap : s.t.IsPrefixMap m.map := by
  refine ⟨h.lookup, h.longest, T, h.held.shaped.top.symm, h.held.shaped.linked, h.held.shaped.nodup, ?_,
    fun a ha => ?_, fun q hq => ?_⟩
  · rw [visitAll, h.held.visitAll]
    rfl
  · rw [← h.masked a]
    exact h.info a ha
  · obtain ⟨a, ha, hp⟩ := h.map q hq
    exact ⟨a, ha, (h.masked a).symm.trans hp⟩

lemma Refines.get (hfew : FewHeld m) (p : FamilyPrefix w) :
    ∃ s' T', tableStep s (.get p) = some s' ∧ Refines s' T' { m with held := p.masked :: m.held } := by
  obtain ⟨t', c, hget, hbits, hmasked⟩ := h.masked.routeNodeGet h.held.shaped p
  obtain ⟨t1, T', c', hbits', hheld, hgot, -⟩ := h.held.routeNodeGet p.masked fun x _ _ => h.few hfew x
  obtain ⟨rfl, rfl⟩ : t1 = t'.table ∧ c' = c := by simpa [hbits] using hbits'.symm
  refine ⟨⟨t', c' :: s.held⟩, T', ?_, hmasked, hheld, ?_, fun a ha => ?_, fun q hq => ?_⟩
  · rw [tableStep, hget]
    rfl
  · change p.masked :: m.held = (t'.table.nodes c').p :: s.held.map fun a => (t'.table.nodes a).p
    rw [hgot.key, h.keys, map_congr_left fun a ha => (hgot.old a (h.held.mem a ha)).2.1]
  · by_cases hold : a ∈ T.pre
    · obtain ⟨-, hp, hinfo⟩ := hgot.old a hold
      exact hinfo.trans ((h.info a hold).trans (congrArg m.map hp.symm))
    · -- a stored prefix has its node from before
      rw [hgot.new a ha hold]
      by_contra hsome
      obtain ⟨b, hb, hp⟩ := h.map _ (isSome_iff_ne_none.mpr (Ne.symm hsome))
      obtain ⟨hb', hpb, -⟩ := hgot.old b hb
      have hab := hheld.shaped.eq_of_p ha hb' (hp.symm.trans hpb.symm)
      exact hold (hab ▸ hb)
  · obtain ⟨a, ha, hp⟩ := h.map q hq
    obtain ⟨ha', hpa, -⟩ := hgot.old a ha
    exact ⟨a, ha', hpa.trans hp⟩

lemma Refines.assign {i : Nat} {info : Option Nat} (hq : m.held[i]? = some q) :
    ∃ s', tableStep s (.assign i info) = some s' ∧
      Refines s' T { m with map := update m.map q info } := by
  rw [h.keys, getElem?_map] at hq
  obtain ⟨a, ha, rfl⟩ := map_eq_some_iff.mp hq
  have hmem : a ∈ s.held := mem_of_getElem? ha
  have hp : ∀ b, ((s.t.table.modify a fun n => { n with info := info }).nodes b).p = (s.t.table.nodes b).p :=
    NodeTable.modify_field RouteNode.p (by simp)
  refine ⟨{ s with t := { s.t with table := s.t.table.modify a fun n => { n with info := info } } },
    by rw [tableStep, ha]; rfl, h.masked.congr hp, h.held.setInfo hmem info, ?_, fun b hb => ?_, fun q hq => ?_⟩
  · simp only [hp]
    exact h.keys
  · dsimp only
    rw [NodeTable.modify_nodes]
    by_cases hba : b = a
    · simp [hba]
    · have hne : (s.t.table.nodes b).p ≠ (s.t.table.nodes a).p :=
        fun he => hba (h.held.shaped.eq_of_p hb (h.held.mem a hmem) he)
      rw [if_neg hba, update_of_ne hne, h.info b hb]
  · simp only [hp]
    by_cases hqa : q = (s.t.table.nodes a).p
    · exact ⟨a, h.held.mem a hmem, hqa.symm⟩
    · dsimp only at hq
      rw [update_of_ne hqa] at hq
      exact h.map q hq

lemma Refines.release {i : Nat} (hq : m.held[i]? = some q)
    (hlast : ¬(m.held.count q = 1 ∧ (m.map q).isSome)) : ∃ s' T', tableStep s (.release i) =
    some s' ∧ Refines s' T' { m with held := m.held.eraseIdx i } := by
  rw [h.keys, getElem?_map] at hq
  obtain ⟨a, ha, rfl⟩ := map_eq_some_iff.mp hq
  have hmem := h.held.mem a (mem_of_getElem? ha)
  have hinfo : s.held.count a = 1 → (s.t.table.nodes a).info = none := by
    intro hone
    rw [h.count_eq hmem, ← h.info a hmem] at hlast
    simpa using fun hsome => hlast ⟨hone, hsome⟩
  obtain ⟨t', T', hunlock, hheld, hpruned⟩ := h.held.routeUnlockNode ha hinfo
  refine ⟨⟨{ s.t with table := t' }, s.held.eraseIdx i⟩, T', ?_, h.masked.congr hpruned.p, hheld, ?_, fun b hb => ?_, fun q hq => ?_⟩
  · rw [tableStep, ha]
    change ((s.t.table.routeUnlockNode a).map _).bind _ = _
    rw [hunlock]
    rfl
  · simp only [hpruned.p, h.keys, eraseIdx_map]
  · rw [hpruned.info, hpruned.p]
    exact h.info b (hpruned.sub b hb)
  · obtain ⟨b, hb, rfl⟩ := h.map q hq
    refine ⟨b, hheld.mem b ?_, hpruned.p b⟩
    -- a node with an info is held, and not for the last time
    have hsome : (s.t.table.nodes b).info.isSome := by rwa [h.info b hb]
    have hb' : b ∈ s.held := by
      by_contra hnot
      rw [(h.held.glue b hb hnot).1] at hsome
      cases hsome
    by_contra hnot
    obtain ⟨hlt, hget⟩ := List.getElem?_eq_some_iff.mp ha
    have hperm : (a :: s.held.eraseIdx i).Perm s.held := hget ▸ getElem_cons_eraseIdx_perm hlt
    obtain rfl : b = a := (mem_cons.mp (hperm.mem_iff.mpr hb')).resolve_right hnot
    rw [hinfo (by rw [← hperm.count_eq, count_cons_self, count_eq_zero.mpr hnot])] at hsome
    cases hsome

lemma Refines.step (hfew : FewHeld m) (hstep : m.step op = some m') :
    ∃ s' T', tableStep s op = some s' ∧ Refines s' T' m' := by
  cases op with
  | get p =>
    cases hstep
    exact h.get hfew p
  | assign i info =>
    obtain ⟨q, hq, rfl⟩ := map_eq_some_iff.mp hstep
    obtain ⟨s', hs', hrefines⟩ := h.assign hq
    exact ⟨s', T, hs', hrefines⟩
  | release i =>
    obtain ⟨q, hq, hstep⟩ := bind_eq_some_iff.mp hstep
    split_ifs at hstep with hlast
    cases hstep
    exact h.release hq hlast

lemma Refines.run {ops : List (TableOp w)} (hrun : ops.foldlM PrefixMap.step m = some m')
    (hfew : ∀ l, l <+: ops → ∀ m1, l.foldlM PrefixMap.step m = some m1 → FewHeld m1) :
    ∃ s' T', ops.foldlM tableStep s = some s' ∧ Refines s' T' m' := by
  induction ops generalizing s T m with
  | nil =>
    cases hrun
    exact ⟨s, T, rfl, h⟩
  | cons op ops ih =>
    rw [foldlM_cons] at hrun ⊢
    obtain ⟨m1, hm1, hrun⟩ := bind_eq_some_iff.mp hrun
    obtain ⟨s1, T1, hs1, h1⟩ := h.step (hfew [] nil_prefix m rfl) hm1
    rw [hs1]
    refine ih h1 hrun fun l hl m2 hm2 => hfew (op :: l) (cons_prefix_cons.mpr ⟨rfl, hl⟩) m2 ?_
    rw [foldlM_cons, hm1]
    exact hm2

end

lemma refines_init : Refines (⟨init, []⟩ : TableUse w) .nil .empty := by
  refine ⟨fun a => rfl, ⟨⟨rfl, trivial, nodup_nil, nofun, trivial⟩, nofun, nofun, nofun⟩, rfl, nofun, nofun⟩

end PrefixTable

/-- After every run of calls the table is the map from prefixes that the calls describe. -/
theorem tableRun_isPrefixMap {w : Nat} (ops : List (TableOp w)) (m : PrefixMap)
    (hrun : ops.foldlM PrefixMap.step .empty = some m)
    (hfew : ∀ l, l <+: ops → ∀ m', l.foldlM PrefixMap.step .empty = some m' → FewHeld m') :
    ∃ s, tableRun ops = some s ∧ s.t.IsPrefixMap m.map := by
  obtain ⟨s, T, hs, h⟩ := refines_init.run hrun hfew
  exact ⟨s, hs, h.isPrefixMap⟩

lemma held_length_le {w : Nat} {ops : List (TableOp w)} {m m' : PrefixMap}
    (hrun : ops.foldlM PrefixMap.step m = some m') : m'.held.length ≤ m.held.length + ops.length := by
  induction ops generalizing m with
  | nil =>
    cases hrun
    exact le_refl _
  | cons op ops ih =>
    obtain ⟨m1, hm1, hrun⟩ := bind_eq_some_iff.mp hrun
    have hle := ih hrun
    have hone : m1.held.length ≤ m.held.length + 1 := by
      cases op with
      | get p =>
        cases hm1
        exact le_refl _
      | assign i info =>
        obtain ⟨q, -, rfl⟩ := map_eq_some_iff.mp hm1
        exact Nat.le_succ _
      | release i =>
        obtain ⟨q, -, hm1⟩ := bind_eq_some_iff.mp hm1
        split_ifs at hm1
        cases hm1
        exact (eraseIdx_sublist _ _).length_le.trans (Nat.le_succ _)
    rw [length_cons]
    omega

def exampleCalls : List (TableOp 4) :=
  [.get ⟨[10, 1, 2, 3], 8, rfl, by decide⟩, .assign 0 (some 1), .get ⟨[10, 64, 0, 0], 10, rfl, by decide⟩,
    .assign 0 (some 2), .get ⟨[10, 192, 0, 0], 10, rfl, by decide⟩, .release 0]

theorem tableRun_isPrefixMap_example :
    ∃ m, exampleCalls.foldlM PrefixMap.step .empty = some m ∧
      ∃ s, tableRun exampleCalls = some s ∧ s.t.IsPrefixMap m.map := by
  refine ⟨_, rfl, tableRun_isPrefixMap exampleCalls _ rfl fun l hl m' hm' q => ?_⟩
  have hlen : l.length ≤ 6 := hl.length_le
  have hheld : m'.held.length ≤ 0 + l.length := held_length_le hm'
  have hcount := count_le_length (a := q) (l := m'.held)
  omega

def oneNode (lock : UInt32) (info : Option Nat) : PrefixTable 4 :=
  ⟨⟨update (fun _ => routeNodeNew []) 0 ⟨[], none, none, none, lock, info⟩, some 0, 1⟩, fun _ => default⟩

lemma oneNode_lock (lock : UInt32) (info : Option Nat) :
    (oneNode lock info).routeLockNode 0 = oneNode (lock + 1) info := by
  simp [oneNode, routeLockNode, NodeTable.routeLockNode, NodeTable.modify]

lemma init_get :
    (init : PrefixTable 4).routeNodeGet default = some (oneNode 1 none, 0) := by
  have hset : ((init : PrefixTable 4).routeNodeSet default).linkBelow none 0 = oneNode 0 none := by
    have hp : update (fun _ : Nat => (default : FamilyPrefix 4)) 0 default = fun _ => default :=
      update_eq_self 0 _
    simp only [linkBelow, routeNodeSet, init, routeTableInit, NodeTable.alloc, hp]
    rfl
  change some ((((PrefixTable.init : PrefixTable 4).routeNodeSet default).linkBelow none 0).routeLockNode 0, 0) = _
  rw [hset, oneNode_lock]
  rfl

lemma oneNode_get (lock : UInt32) (info : Option Nat) :
    (oneNode lock info).routeNodeGet default = some (oneNode (lock + 1) info, 0) := by
  have hwalk : (oneNode lock info).walk default = some (.found 0) := by
    have hmatch : (default : FamilyPrefix 4).prefixlen ≤ (default : FamilyPrefix 4).prefixlen ∧
        prefixMatch (default : FamilyPrefix 4) default := by decide
    simp [PrefixTable.walk, oneNode, PrefixTable.descend, hmatch]
  rw [PrefixTable.routeNodeGet, hwalk, map_some, ← oneNode_lock]

lemma tableStep_get {t t' : PrefixTable 4} {p : FamilyPrefix 4} {c : Nat} {held : List Nat}
    (h : t.routeNodeGet p = some (t', c)) : tableStep ⟨t, held⟩ (.get p) = some ⟨t', c :: held⟩ := by
  simp [tableStep, h]

lemma gets_eq (n : Nat) :
    (replicate (n + 1) (TableOp.get (default : FamilyPrefix 4))).foldlM tableStep ⟨init, []⟩ =
      some ⟨oneNode (UInt32.ofNat (n + 1)) none, replicate (n + 1) 0⟩ := by
  induction n with
  | zero =>
    simp [tableStep_get init_get]
  | succ n ih =>
    rw [replicate_succ', foldlM_append, ih]
    simp [tableStep_get (oneNode_get _ _), replicate_succ]

lemma gets_legal (n : Nat) :
    (replicate n (TableOp.get (default : FamilyPrefix 4))).foldlM PrefixMap.step .empty =
      some ⟨fun _ => none, replicate n []⟩ := by
  induction n with
  | zero => rfl
  | succ n ih =>
    rw [replicate_succ', foldlM_append, ih]
    rfl

theorem tableRun_gets_fail : ∃ ops : List (TableOp 4),
    (∃ m, ops.foldlM PrefixMap.step .empty = some m) ∧ tableRun ops = none := by
  obtain ⟨n, hn⟩ : ∃ n, 2 ^ 32 = n + 1 := ⟨2 ^ 32 - 1, rfl⟩
  refine ⟨replicate (n + 1) (.get default) ++ [.assign 0 (some 7), .get default, .release 0], ?_, ?_⟩
  · rw [foldlM_append, gets_legal]
    have hcount : ([] :: replicate (n + 1) ([] : List Bool)).count [] ≠ 1 := by
      rw [count_cons_self, count_replicate_self]
      omega
    have hrelease : PrefixMap.step (w := 4) ⟨update (fun _ => none) [] (some 7), [] :: replicate (n + 1) []⟩
        (.release 0) = some ⟨update (fun _ => none) [] (some 7), replicate (n + 1) []⟩ :=
      if_neg fun hc => hcount hc.1
    refine ⟨⟨update (fun _ => none) [] (some 7), replicate (n + 1) []⟩, ?_⟩
    have hassign : PrefixMap.step (w := 4) ⟨fun _ => none, replicate (n + 1) []⟩ (.assign 0 (some 7)) =
        some ⟨update (fun _ => none) [] (some 7), replicate (n + 1) []⟩ := rfl
    have hget : PrefixMap.step ⟨update (fun _ => none) [] (some 7), replicate (n + 1) []⟩
        (.get (default : FamilyPrefix 4)) =
        some ⟨update (fun _ => none) [] (some 7), [] :: replicate (n + 1) []⟩ := rfl
    simp only [bind_eq_bind, bind_some, foldlM_cons, hassign, hget, hrelease]
    rfl
  · have hzero : UInt32.ofNat (n + 1) = 0 := by
      rw [← hn]
      rfl
    have hlast : (oneNode 1 (some 7)).routeUnlockNode 0 = none := by decide
    have hassign : ({ oneNode 0 none with
        table := (oneNode 0 none).table.modify 0 fun n => { n with info := some 7 } } : PrefixTable 4) = oneNode 0 (some 7) := by
      simp [oneNode, NodeTable.modify]
    have hrelease : tableStep ⟨oneNode 1 (some 7), 0 :: replicate (n + 1) 0⟩ (.release 0) = none := by
      simp [tableStep, hlast]
    have hassign' : tableStep ⟨oneNode 0 none, replicate (n + 1) 0⟩ (.assign 0 (some 7)) =
        some ⟨oneNode 0 (some 7), replicate (n + 1) 0⟩ := by
      rw [← hassign]
      rfl
    rw [tableRun, foldlM_append, gets_eq, hzero]
    simp only [bind_eq_bind, bind_some, foldlM_cons, hassign', tableStep_get (oneNode_get _ _)]
    rw [show (0 : UInt32) + 1 = 1 from rfl, hrelease]
    rfl

end OspfMdr.Ospf6
