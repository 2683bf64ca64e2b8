import Mathlib.Algebra.Order.Monoid.Prod
import OspfMdr.Lib.ShortestPath
import OspfMdr.Lib.SortedList
import OspfMdr.Model.Spf

namespace OspfMdr.Ospf6

open Lib List

abbrev VertexId := UInt32 × UInt32

/-- The cost and, where costs are equal, the number of hops. -/
abbrev PathLength := ℕ ×ₗ ℕ

variable {area : SpfArea} {routerId : UInt32}

/-- The database has the LSA, and it has not reached MaxAge. -/
def SpfArea.Live (area : SpfArea) (type : VertexType) (id advRouter : UInt32) (l : SpfLsa) : Prop :=
  l ∈ area.lsdb ∧ l.type = type ∧ l.id = id ∧ l.advRouter = advRouter ∧ l.maxAge = false

/-- The LSA is one that a lookup for a vertex can find. -/
def SpfArea.IsVertex (area : SpfArea) (l : SpfLsa) : Prop :=
  l ∈ area.lsdb ∧ l.maxAge = false ∧ (l.type = .router → l.id = 0)

/-- One LSA for a key; no network-LSA has link-state id 0 or repeats a router three entries later, where the
router id of a point-to-point link would stand. -/
structure SpfArea.LsdbOk (area : SpfArea) : Prop where
  unique : area.lsdb.Pairwise fun a b =>
    ¬(a.type = b.type ∧ a.id = b.id ∧ a.advRouter = b.advRouter)
  network_id : ∀ l ∈ area.lsdb, l.maxAge = false → l.type = .network → l.id ≠ 0
  network_words : ∀ l ∈ area.lsdb, l.maxAge = false → l.type = .network → ∀ p ∈ l.lsdescs,
    l.lsdescType p = pointToPoint → l.words (p + 3) ≠ l.words p

/-- The link description at `p` of `u` and one of `w` confirm each other. -/
inductive Confirmed (area : SpfArea) (u : SpfLsa) (p : Nat) (w : SpfLsa) : Prop
  | pointToPoint (hu : u.type = .router) (hp : u.lsdescType p = Ospf6.pointToPoint)
      (hw : area.Live .router 0 (u.lsdescNbrRouterid p) w) (b : Nat) (hb : b ∈ w.lsdescs)
      (hback : w.lsdescType b = Ospf6.pointToPoint ∧ w.lsdescNbrRouterid b = u.advRouter ∧
        w.lsdescNbrIfid b = u.lsdescIfid p ∧ w.lsdescIfid b = u.lsdescNbrIfid p)
  | toNetwork (hu : u.type = .router) (hp : u.lsdescType p = transitNetwork)
      (hw : area.Live .network (u.lsdescNbrIfid p) (u.lsdescNbrRouterid p) w) (b : Nat)
      (hb : b ∈ w.lsdescs) (hback : w.networkLsdescNbrRouterid b = u.advRouter)
  | fromNetwork (hu : u.type = .network)
      (hw : area.Live .router 0 (u.networkLsdescNbrRouterid p) w) (b : Nat) (hb : b ∈ w.lsdescs)
      (hback : w.lsdescType b = transitNetwork ∧ w.lsdescNbrRouterid b = u.advRouter ∧
        w.lsdescNbrIfid b = u.id)

lemma ospf6SpfLsdbLookup_eq_some_iff (h : area.LsdbOk) {type : VertexType} {id advRouter : UInt32}
    {l : SpfLsa} :
    ospf6SpfLsdbLookup area.lsdb type id advRouter = some l ↔ area.Live type id advRouter l := by
  unfold ospf6SpfLsdbLookup SpfArea.Live
  rw [Option.filter_eq_some_iff]
  constructor
  · rintro ⟨hl, hage⟩
    have hkey := List.find?_some hl
    simp only [decide_eq_true_eq] at hkey
    exact ⟨mem_of_find?_eq_some hl, hkey.1, hkey.2.1, hkey.2.2, by simpa using hage⟩
  · rintro ⟨hmem, rfl, rfl, rfl, hage⟩
    refine ⟨find?_of_pairwise h.unique hmem (by simp) fun m _ hne => ?_, by simpa using hage⟩
    exact decide_eq_false hne

variable {w v u : SpfLsa} {p b : Nat}

lemma backlinkAt_router (hw : w.type = .router) (hv : v.type = .router) :
    backlinkAt w p v b ↔ w.lsdescType b = pointToPoint ∧ v.lsdescType p = pointToPoint ∧
      w.lsdescNbrIfid b = v.lsdescIfid p ∧ v.lsdescNbrIfid p = w.lsdescIfid b ∧
      w.lsdescNbrRouterid b = v.advRouter ∧ v.lsdescNbrRouterid p = w.advRouter := by
  simp [backlinkAt, hw, hv]

lemma backlinkAt_toNetwork (hw : w.type = .network) (hv : v.type = .router)
    (hp : v.lsdescType p = transitNetwork) :
    backlinkAt w p v b ↔ w.networkLsdescNbrRouterid b = v.advRouter := by
  simp [backlinkAt, hw, hv, hp, transitNetwork, pointToPoint]

lemma backlinkAt_fromNetwork (hw : w.type = .router) (hv : v.type = .network) (hadv : w.advRouter = v.words p)
    (hp : v.lsdescType p = pointToPoint → v.words (p + 3) ≠ v.words p) :
    backlinkAt w p v b ↔
      w.lsdescType b = transitNetwork ∧ w.lsdescNbrRouterid b = v.advRouter ∧ w.lsdescNbrIfid b = v.id := by
  have hno : ¬(v.lsdescType p = pointToPoint ∧ v.lsdescNbrRouterid p = w.advRouter) :=
    fun hc => hp hc.1 (hc.2.trans hadv)
  unfold backlinkAt
  simp only [hw, hv, true_and, reduceCtorEq, false_and, if_false]
  split_ifs with hif
  · simp [hif]
  · simp only [hif, decide_eq_true_eq, iff_false]
    exact fun hc => hno ⟨hc.2.1, hc.2.2.2.2.2⟩

lemma confirmed_iff (h : area.LsdbOk) (hu : u ∈ area.lsdb) (hage : u.maxAge = false) (hp : p ∈ u.lsdescs) :
    (ospf6LsdescLsa area.lsdb u p = some w ∧ ospf6LsdescBacklink w p u) ↔ Confirmed area u p w := by
  unfold ospf6LsdescLsa ospf6LsdescBacklink
  rw [any_eq_true]
  constructor
  · rintro ⟨hlsa, b, hb, hback⟩
    cases htype : u.type with
    | router =>
      simp only [htype] at hlsa
      split_ifs at hlsa with h1 h2
      · rw [ospf6SpfLsdbLookup_eq_some_iff h] at hlsa
        obtain ⟨hbt, -, h3, h4, h5, -⟩ := (backlinkAt_router hlsa.2.1 htype).mp hback
        exact .pointToPoint htype h1 hlsa b hb ⟨hbt, h5, h3, h4.symm⟩
      · rw [ospf6SpfLsdbLookup_eq_some_iff h] at hlsa
        exact .toNetwork htype h2 hlsa b hb ((backlinkAt_toNetwork hlsa.2.1 htype h2).mp hback)
    | network =>
      simp only [htype] at hlsa
      rw [ospf6SpfLsdbLookup_eq_some_iff h] at hlsa
      exact .fromNetwork htype hlsa b hb ((backlinkAt_fromNetwork hlsa.2.1 htype hlsa.2.2.2.1
        (h.network_words u hu hage htype p hp)).mp hback)
  · rintro (⟨htype, h1, hw, b, hb, hbt, h5, h3, h4⟩ | ⟨htype, h2, hw, b, hb, hback⟩ |
      ⟨htype, hw, b, hb, hback⟩)
    · simp only [htype, h1, if_true, ospf6SpfLsdbLookup_eq_some_iff h]
      exact ⟨hw, b, hb, (backlinkAt_router hw.2.1 htype).mpr
        ⟨hbt, h1, h3, h4.symm, h5, hw.2.2.2.1.symm⟩⟩
    · have h1 : ¬transitNetwork = pointToPoint := by decide
      simp only [htype, h1, h2, if_true, if_false, ospf6SpfLsdbLookup_eq_some_iff h]
      exact ⟨hw, b, hb, (backlinkAt_toNetwork hw.2.1 htype h2).mpr hback⟩
    · simp only [htype, ospf6SpfLsdbLookup_eq_some_iff h]
      exact ⟨hw, b, hb, (backlinkAt_fromNetwork hw.2.1 htype hw.2.2.2.1
        (h.network_words u hu hage htype p hp)).mpr hback⟩

lemma Confirmed.isVertex (h : Confirmed area u p w) : area.IsVertex w := by
  rcases h with ⟨_, _, hw⟩ | ⟨_, _, hw⟩ | ⟨_, hw⟩
  · exact ⟨hw.1, hw.2.2.2.2, fun _ => hw.2.2.1⟩
  · exact ⟨hw.1, hw.2.2.2.2, fun ht => by rw [hw.2.1] at ht; cases ht⟩
  · exact ⟨hw.1, hw.2.2.2.2, fun _ => hw.2.2.1⟩

/-- There is an interface and, unless it is point-to-point, an address for the first router. -/
def HasFirstHop (area : SpfArea) (ifindex router : UInt32) (nbrIfid : Option UInt32) : Prop :=
  ∃ oi, (area.interfaces.find? fun oi => oi.ifindex = ifindex) = some oi ∧
    (oi.type = .pointToPoint ∨
      (∃ l ∈ oi.linkLsas, l.advRouter = router ∧ ∀ i ∈ nbrIfid, i = l.id) ∨
      area.ipv6 ∧ (∀ l ∈ oi.linkLsas, l.advRouter ≠ router) ∧
        ∃ on, (oi.neighborList.find? fun on => on.routerId = router) = some on ∧
          isLinklocal on.linklocalAddr)

/-- For a link between routers, the interface id at the other end. -/
def calcNbrIfid (u : SpfLsa) (p : Nat) : Option UInt32 :=
  match u.type with
  | .network => none
  | .router => some (u.lsdescNbrIfid p)

lemma calcNexthops_ne_nil_iff (oi : SpfInterface) (v : Vertex) (p : Nat) :
    calcNexthops area oi v p ≠ [] ↔
      (∃ l ∈ oi.linkLsas, l.advRouter = calcAdvRouter v.lsa p ∧ ∀ i ∈ calcNbrIfid v.lsa p, i = l.id) ∨
      area.ipv6 ∧ (∀ l ∈ oi.linkLsas, l.advRouter ≠ calcAdvRouter v.lsa p) ∧
      ∃ on, (oi.neighborList.find? fun on => on.routerId = calcAdvRouter v.lsa p) = some on ∧
        isLinklocal on.linklocalAddr := by
  have hmatch : ∀ l : LinkLsa, (v.lsa.type = .network ∨ v.lsa.lsdescNbrIfid p = l.id) ↔
      ∀ i ∈ calcNbrIfid v.lsa p, i = l.id := by
    intro l
    unfold calcNbrIfid
    cases v.lsa.type <;> simp
  unfold calcNexthops
  simp only [← hmatch]
  split_ifs with hempty
  · have hnone : ∀ l ∈ oi.linkLsas, l.advRouter ≠ calcAdvRouter v.lsa p := by
      simpa [filter_eq_nil_iff] using hempty
    have hno : ¬∃ l ∈ oi.linkLsas, l.advRouter = calcAdvRouter v.lsa p ∧
        (v.lsa.type = .network ∨ v.lsa.lsdescNbrIfid p = l.id) := by
      rintro ⟨l, hl, heq, -⟩
      exact hnone l hl heq
    cases hon : oi.neighborList.find? fun on => decide (on.routerId = calcAdvRouter v.lsa p) with
    | none => simp [hno]
    | some on =>
      simp only [hno, false_or, Option.some.injEq, exists_eq_left']
      split_ifs with hcond
      · simpa using ⟨hcond.1, hnone, hcond.2⟩
      · simp only [ne_eq, not_true_eq_false, false_iff]
        exact fun hc => hcond ⟨hc.1, hc.2.2⟩
  · have hsome : ¬∀ l ∈ oi.linkLsas, l.advRouter ≠ calcAdvRouter v.lsa p := by
      simpa [filter_eq_nil_iff] using hempty
    have hlimit : ¬multiPathLimit = 0 := by decide
    rw [or_iff_left fun hc => hsome hc.2.1, ne_eq, take_eq_nil_iff, map_eq_nil_iff,
      filter_filter, filter_eq_nil_iff]
    simp only [hlimit, false_or, decide_eq_true_eq, Bool.and_eq_true,
      not_forall, not_not, exists_prop]
    exact exists_congr fun l => and_congr_right fun _ => and_comm

lemma ospf6NexthopCalc_isSome_iff (v : Vertex) (p : Nat) :
    (ospf6NexthopCalc area v p).isSome ↔
      HasFirstHop area (calcIfindex v p) (calcAdvRouter v.lsa p) (calcNbrIfid v.lsa p) := by
  unfold HasFirstHop ospf6NexthopCalc
  cases area.interfaces.find? fun oi => decide (oi.ifindex = calcIfindex v p) with
  | none => simp
  | some oi =>
    simp only [Option.some.injEq, exists_eq_left', ← calcNexthops_ne_nil_iff]
    by_cases hfound : calcNexthops area oi v p = []
    · by_cases htype : oi.type = .pointToPoint <;> simp [hfound, htype]
    · simp [hfound]

/-- A router that the calculating router reaches over an MDR interface, whatever the LSAs
say, with its cost and the interface. -/
def RootNeighbor (area : SpfArea) (y : VertexId) (c : Nat) (ifindex : UInt32) : Prop :=
  ∃ oi ∈ area.ifList, oi.down = false ∧ oi.direct ∧ ∃ on ∈ oi.neighborList,
    (on.routable ∨ on.state = .full) ∧ (∃ l, area.Live .router 0 on.routerId l) ∧
    (neighborAddress area oi on).isSome ∧ y = (on.routerId, 0) ∧ c = on.cost.toNat ∧
    ifindex = oi.ifindex

/-- The length of a link: its metric, and a hop unless it leads from a router to a network. -/
def linkLength (u : SpfLsa) (p : Nat) (w : SpfLsa) : PathLength :=
  toLex (match u.type with
    | .router => u.lsdescMetric p
    | .network => 0,
    match u.type, w.type with
    | .router, .network => 0
    | _, _ => 1)

/-- The links of `x` are those to its neighbors on MDR interfaces only. -/
def RootReplaced (area : SpfArea) (routerId : UInt32) (x : VertexId) : Prop :=
  x = (routerId, 0) ∧ routerId = area.routerId ∧ allRootNeighborsAdded area

/-- The links that satisfy `ok`. The root has links to its neighbors on MDR interfaces, and those of its
router-LSA unless it has interfaces of no other kind. -/
def AreaLink (area : SpfArea) (routerId : UInt32) (ok : SpfLsa → Nat → SpfLsa → Prop)
    (x y : VertexId) (k : PathLength) : Prop :=
  (routerId = area.routerId ∧ x = (routerId, 0) ∧
    ∃ c i, RootNeighbor area y c i ∧ k = toLex (c, 1)) ∨
  (¬RootReplaced area routerId x ∧ ∃ u p w, area.IsVertex u ∧ u.vertexId = x ∧ p ∈ u.lsdescs ∧
    Confirmed area u p w ∧ w.vertexId = y ∧ k = linkLength u p w ∧ ok u p w)

/-- Costs stay below 2³² and hops below 256 on every path that repeats no vertex but the last. -/
def SpfArea.Bounded (area : SpfArea) (routerId : UInt32) : Prop :=
  ∀ vs x a y k, PathTo (AreaLink area routerId fun _ _ _ => True) (routerId, 0) vs x a → vs.Nodup →
    AreaLink area routerId (fun _ _ _ => True) x y k →
      (ofLex (a + k)).1 < 2 ^ 32 ∧ (ofLex (a + k)).2 < 2 ^ 8

lemma AreaLink.bound (hcost : ∀ y c i, RootNeighbor area y c i → c < 2 ^ 24) {x y : VertexId}
    {k : PathLength} (h : AreaLink area routerId (fun _ _ _ => True) x y k) :
    y ∈ area.lsdb.map SpfLsa.vertexId ∧ (ofLex k).1 < 2 ^ 24 ∧ (ofLex k).2 ≤ 1 := by
  rcases h with ⟨-, -, c, i, hnbr, rfl⟩ | ⟨-, u, p, w, -, -, -, hconf, rfl, rfl, -⟩
  · refine ⟨?_, hcost y c i hnbr, le_rfl⟩
    obtain ⟨oi, -, -, -, on, -, -, ⟨l, hl⟩, -, rfl, -⟩ := hnbr
    exact mem_map.mpr ⟨l, hl.1, Prod.ext hl.2.2.2.1 hl.2.2.1⟩
  refine ⟨mem_map_of_mem hconf.isVertex.1, ?_, ?_⟩
  · have hmetric : u.lsdescMetric p < 2 ^ 16 := Nat.mod_lt _ (by decide)
    unfold linkLength
    cases u.type <;> simp only [ofLex_toLex] <;> omega
  · unfold linkLength
    cases u.type <;> cases w.type <;> simp

lemma bounded_of_length (hlsdb : area.lsdb.length ≤ 254)
    (hcost : ∀ y c i, RootNeighbor area y c i → c < 2 ^ 24) : area.Bounded routerId := by
  have hpath : ∀ vs x a, PathTo (AreaLink area routerId fun _ _ _ => True) (routerId, 0) vs x a →
      ∃ us, vs = us ++ [(routerId, 0)] ∧ (∀ u ∈ us, u ∈ area.lsdb.map SpfLsa.vertexId) ∧
        (ofLex a).1 ≤ us.length * 2 ^ 24 ∧ (ofLex a).2 ≤ us.length := by
    intro vs x a hp
    induction hp with
    | nil => exact ⟨[], rfl, by simp, le_rfl, le_rfl⟩
    | @cons vs x y a k _ hlink ih =>
      obtain ⟨us, rfl, hmem, h1, h2⟩ := ih
      obtain ⟨hy, hk1, hk2⟩ := hlink.bound hcost
      refine ⟨y :: us, rfl, forall_mem_cons.mpr ⟨hy, hmem⟩, ?_, ?_⟩
      · change (ofLex a).1 + (ofLex k).1 ≤ (us.length + 1) * 2 ^ 24
        omega
      · change (ofLex a).2 + (ofLex k).2 ≤ us.length + 1
        omega
  intro vs x a y k hp hnodup hlink
  obtain ⟨us, rfl, hmem, h1, h2⟩ := hpath vs x a hp
  obtain ⟨-, hk1, hk2⟩ := hlink.bound hcost
  have hlen : us.length ≤ (area.lsdb.map SpfLsa.vertexId).length :=
    (subperm_of_subset (nodup_append.mp hnodup).1 hmem).length_le
  rw [length_map] at hlen
  constructor
  · change (ofLex a).1 + (ofLex k).1 < 2 ^ 32
    omega
  · change (ofLex a).2 + (ofLex k).2 < 2 ^ 8
    omega

/-- A first hop can be determined, where one is asked for: between the root and a router, or behind a network of
the root on the interface `firstHopIf`. -/
def FirstHop (area : SpfArea) (firstHopIf : VertexId → Option UInt32) (u : SpfLsa) (p : Nat)
    (w : SpfLsa) : Prop :=
  match u.type, w.type with
  | .router, .router => u.advRouter = area.routerId →
      HasFirstHop area (u.lsdescIfid p) w.advRouter (some (u.lsdescNbrIfid p))
  | .router, .network => True
  | .network, _ => ∀ i ∈ firstHopIf u.vertexId, HasFirstHop area i w.advRouter none

def SpfLink (area : SpfArea) (routerId : UInt32) (firstHopIf : VertexId → Option UInt32) :
    VertexId → VertexId → PathLength → Prop :=
  AreaLink area routerId fun u p w => routerId = area.routerId → FirstHop area firstHopIf u p w

lemma pathLength_nonneg (k : PathLength) : 0 ≤ k := by
  rw [Prod.Lex.le_iff]
  rcases Nat.eq_zero_or_pos (ofLex k).1 with h0 | hpos
  · exact .inr ⟨h0.symm, Nat.zero_le _⟩
  · exact .inl hpos

lemma isVertex_unique (h : area.LsdbOk) (hu : area.IsVertex u) (hw : area.IsVertex w)
    (hid : u.vertexId = w.vertexId) : u = w := by
  obtain ⟨hadv, hids⟩ : u.advRouter = w.advRouter ∧ u.id = w.id := Prod.mk.inj hid
  have htype : u.type = w.type := by
    cases hut : u.type <;> cases hwt : w.type
    · rfl
    · exact absurd (hids ▸ hu.2.2 hut) (h.network_id w hw.1 hw.2.1 hwt)
    · exact absurd (hids.trans (hw.2.2 hwt)) (h.network_id u hu.1 hu.2.1 hut)
    · rfl
  have hu' := (ospf6SpfLsdbLookup_eq_some_iff h).mpr
    (show area.Live w.type w.id w.advRouter u from ⟨hu.1, htype, hids, hadv, hu.2.1⟩)
  have hw' := (ospf6SpfLsdbLookup_eq_some_iff h).mpr
    (show area.Live w.type w.id w.advRouter w from ⟨hw.1, rfl, rfl, rfl, hw.2.1⟩)
  exact Option.some.inj (hu'.symm.trans hw')

end OspfMdr.Ospf6
