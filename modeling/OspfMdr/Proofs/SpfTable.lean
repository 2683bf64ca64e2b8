import OspfMdr.Proofs.Spf

namespace OspfMdr.Ospf6

open Lib List

variable {area : SpfArea} {routerId : UInt32}

/-- There is a path of cost `c` to `x` over links for which a first hop can be determined. -/
def SpfPath (area : SpfArea) (routerId : UInt32) (firstHopIf : VertexId → Option UInt32)
    (x : VertexId) (c : Nat) : Prop :=
  (∃ l, area.Live .router 0 routerId l) ∧
    ∃ vs hops, PathTo (SpfLink area routerId firstHopIf) (routerId, 0) vs x (toLex (c, hops))

/-- `firstHopIf` gives the interface with which a network was installed if its shortest path is a link of the
calculating router: that of such a link, or of one of cost 0. -/
structure FirstHopIf (area : SpfArea) (routerId : UInt32) (st : SpfState)
    (firstHopIf : VertexId → Option UInt32) : Prop where
  some_of : routerId = area.routerId → ∀ r ∈ st.routes, ∀ i, firstHopIf r.vertexId = some i →
    (∃ j, RootIf area routerId r.vertexId r.cost.toNat j) ∧
      (RootIf area routerId r.vertexId r.cost.toNat i ∨ ZeroIf area routerId i)
  none_of : ∀ r ∈ st.routes, r.vertexId.2 ≠ 0 → firstHopIf r.vertexId = none →
    ∀ c i, RootIf area routerId r.vertexId c i → r.cost.toNat < c

/-- The interface that was recorded for a network next to the root. -/
def recordedIf (settled : VertexId → Option Vertex) (x : VertexId) : Option UInt32 :=
  match settled x with
  | none => none
  | some l =>
    if l.lsa.type = .network ∧ l.hops = 0 then some (l.nexthop.headD nexthopZero).ifindex else none

variable {w : SpfLsa} {x : VertexId} {l : Vertex}

lemma Confirmed.calcAdvRouter_eq {u : SpfLsa} {p : Nat} (h : Confirmed area u p w)
    (hw : w.type = .router) : calcAdvRouter u p = w.advRouter := by
  unfold calcAdvRouter
  rcases h with ⟨hu, -, hlive⟩ | ⟨hu, -, hlive⟩ | ⟨hu, hlive⟩
  · simp only [hu]
    exact hlive.2.2.2.1.symm
  · rw [hlive.2.1] at hw
    cases hw
  · simp only [hu]
    exact hlive.2.2.2.1.symm

section table

variable {st : SpfState} {settled : VertexId → Option Vertex}

lemma SpfInv.firstHop_iff (h : SpfInv area routerId st settled) (hl : settled x = some l) {p : Nat}
    (hconf : Confirmed area l.lsa p w) (hr : routerId = area.routerId) :
    (l.hops = 0 → w.type = .router → (ospf6NexthopCalc area l p).isSome) ↔
      FirstHop area (recordedIf settled) l.lsa p w := by
  obtain ⟨hv, hid, hrouter⟩ := h.label x l hl
  rw [ospf6NexthopCalc_isSome_iff]
  unfold FirstHop calcIfindex calcNbrIfid
  cases hu : l.lsa.type with
  | router =>
    cases hw : w.type with
    | network => simp
    | router =>
      have hadv : l.hops = 0 ↔ l.lsa.advRouter = area.routerId := by
        rw [hrouter hu, ← hid, ← hr]
        unfold SpfLsa.vertexId
        rw [hv.2.2 hu, Prod.mk.injEq]
        simp
      simp only [hadv, hconf.calcAdvRouter_eq hw, true_imp_iff]
  | network =>
    have hw := hconf.type_of_network hu
    rw [hconf.calcAdvRouter_eq hw, hid]
    unfold recordedIf
    simp only [hl, hu, true_and, hw, true_imp_iff]
    by_cases h0 : l.hops = 0 <;> simp [h0]

lemma SpfInv.avail_iff (h : SpfInv area routerId st settled) (hok : area.LsdbOk) {y : VertexId}
    (hl : settled x = some l) {k : PathLength} :
    Avail area routerId x l y k ↔ SpfLink area routerId (recordedIf settled) x y k := by
  obtain ⟨hv, hid, -⟩ := h.label x l hl
  constructor
  · rintro (hnbr | ⟨hrep, p, hp, w, hconf, hy, hk, hfirst⟩)
    · exact .inl hnbr
    · exact .inr ⟨hrep, l.lsa, p, w, hv, hid, hp, hconf, hy, hk,
        fun hr => (h.firstHop_iff hl hconf hr).mp (hfirst hr)⟩
  · rintro (hnbr | ⟨hrep, u, p, w, hu, hux, hp, hconf, hy, hk, hfirst⟩)
    · exact .inl hnbr
    · obtain rfl := isVertex_unique hok hu hv (hux.trans hid.symm)
      exact .inr ⟨hrep, p, hp, w, hconf, hy, hk, fun hr => (h.firstHop_iff hl hconf hr).mpr (hfirst hr)⟩

lemma frontier_eq_empty (hsize : st.candidateList.size = 0) : st.frontier = ∅ := by
  have hcard := Pqueue.card_contents st.candidateList
  rw [hsize, Multiset.card_eq_zero] at hcard
  apply Set.eq_empty_of_forall_notMem
  rintro c ⟨v, hv, -⟩
  unfold SpfState.candidates at hv
  rw [hcard] at hv
  exact Multiset.notMem_zero v hv

variable (h : SpfInv area routerId st settled) (hok : area.LsdbOk) (hsize : st.candidateList.size = 0)
include h hok hsize

lemma SpfInv.path_iff {vs : List VertexId} {a : PathLength} :
    PathTo (LinkOf (Avail area routerId) settled) (routerId, 0) vs x a ↔
      PathTo (SpfLink area routerId (recordedIf settled)) (routerId, 0) vs x a := by
  have hd := h.dijkstra
  rw [frontier_eq_empty hsize] at hd
  constructor
  · exact fun hp => hp.mono fun x y k ⟨l, hl, havail⟩ => (h.avail_iff hok hl).mp havail
  · intro hp
    induction hp with
    | nil => exact .nil
    | cons _ hlink ih =>
      obtain ⟨l, hl, -⟩ := hd.settled_of_path (fun _ _ _ k _ => pathLength_nonneg k) ih
      exact ih.cons ⟨l, hl, (h.avail_iff hok hl).mpr hlink⟩

lemma SpfInv.isLeast_cost (hlive : ∃ u, area.Live .router 0 routerId u) (hl : settled x = some l) :
    IsLeast {c | SpfPath area routerId (recordedIf settled) x c} l.cost.toNat := by
  constructor
  · obtain ⟨vs, hp, -⟩ := h.dijkstra.settled_path x l hl
    exact ⟨hlive, vs, l.hops.toNat, (h.path_iff hok hsize).mp hp⟩
  · rintro c ⟨-, vs, hops, hp⟩
    have hle := h.dijkstra.dist_le (fun _ _ _ k _ => pathLength_nonneg k) hl
      ((h.path_iff hok hsize).mpr hp)
    unfold Vertex.length at hle
    rw [Prod.Lex.toLex_le_toLex] at hle
    omega

lemma SpfInv.settled_of_spfPath {c : Nat} (hp : SpfPath area routerId (recordedIf settled) x c) :
    ∃ l, settled x = some l := by
  obtain ⟨-, vs, hops, hp⟩ := hp
  have hd := h.dijkstra
  rw [frontier_eq_empty hsize] at hd
  obtain ⟨l, hl, -⟩ := hd.settled_of_path (fun _ _ _ k _ => pathLength_nonneg k)
    ((h.path_iff hok hsize).mpr hp)
  exact ⟨l, hl⟩

/-- A network without a recorded interface is closer than any link of the root to it. -/
lemma SpfInv.cost_lt_rootIf (hl : settled x = some l) (hx : x.2 ≠ 0)
    (hnone : recordedIf settled x = none) {c : Nat} {i : UInt32}
    (hroot : RootIf area routerId x c i) : l.cost.toNat < c := by
  obtain ⟨hv, hid, -⟩ := h.label x l hl
  have hlt : l.lsa.type = .network := by
    cases ht : l.lsa.type with
    | router => exact absurd (hid ▸ hv.2.2 ht) hx
    | network => rfl
  rcases hroot with ⟨oi, -, -, -, on, -, -, -, -, rfl, -⟩ | ⟨hr, u, p, w, hu, hp, hconf, hw, rfl, -⟩
  · exact absurd rfl hx
  have hwl : w = l.lsa := isVertex_unique hok hconf.isVertex hv (hw.trans hid.symm)
  have hlength : linkLength u p w = toLex (u.lsdescMetric p, 0) := by
    unfold linkLength
    simp only [hu.2.1, hwl, hlt]
  have hlink : SpfLink area routerId (recordedIf settled) (routerId, 0) x (linkLength u p w) := by
    refine .inr ⟨hr, u, p, w, isVertex_of_live hu, vertexId_of_live hu, hp, hconf, hw, rfl, fun _ => ?_⟩
    unfold FirstHop
    simp only [hu.2.1, hwl, hlt]
  have hle := h.dijkstra.dist_le (fun _ _ _ k _ => pathLength_nonneg k) hl
    ((h.path_iff hok hsize).mpr (PathTo.nil.cons hlink))
  rw [zero_add, hlength] at hle
  unfold Vertex.length at hle
  rw [Prod.Lex.toLex_le_toLex] at hle
  rcases hle with hlt' | ⟨heq, hhops⟩
  · exact hlt'
  · have h0 : l.hops = 0 := UInt8.toNat_inj.mp (Nat.le_zero.mp hhops)
    unfold recordedIf at hnone
    simp [hl, hlt, h0] at hnone

end table

/-- The table holds exactly the vertices with a path from the root, at the least cost. -/
theorem ospf6SpfCalculation_exact (hok : area.LsdbOk) (hb : area.Bounded routerId) :
    (∀ st, ospf6SpfCalculation area routerId = some st → st.candidateList.size = 0 ∧
      ∃ firstHopIf, FirstHopIf area routerId st firstHopIf ∧ ∀ x c,
        (∃ r ∈ st.routes, r.vertexId = x ∧ r.cost.toNat = c) ↔
          IsLeast {c | SpfPath area routerId firstHopIf x c} c) ∧
    (IfindexesSet area routerId → (ospf6SpfCalculation area routerId).isSome) := by
  by_cases hlive : ∃ u, area.Live .router 0 routerId u
  · obtain ⟨u, hu⟩ := hlive
    obtain ⟨hsome, hset⟩ := ospf6SpfCalculation_ok hok hb hu
    refine ⟨fun st hst => ?_, hset⟩
    obtain ⟨hsize, settled, hspf⟩ := hsome st hst
    have h := hspf.inv
    refine ⟨hsize, recordedIf settled, ⟨fun hroot r hr i hi => ?_, fun r hr hx hnone c i hroot => ?_⟩,
      fun x c => ⟨?_, fun hleast => ?_⟩⟩
    · obtain ⟨l, hl, hcost, -⟩ := h.route_settled r hr
      unfold recordedIf at hi
      simp only [hl] at hi
      split_ifs at hi with hcond
      rw [hcost, ← Option.some.inj hi]
      obtain ⟨hv, hid, -⟩ := h.label _ l hl
      have hattached := hspf.nexthop.label hroot _ l hl hcond.2 fun hx =>
        hok.network_id l.lsa hv.1 hv.2.1 hcond.1 (Prod.mk.inj (hid.trans hx)).2
      exact ⟨hattached.link, hattached.via.2⟩
    · obtain ⟨l, hl, hcost, -⟩ := h.route_settled r hr
      rw [hcost]
      exact h.cost_lt_rootIf hok hsize hl hx hnone hroot
    · rintro ⟨r, hr, rfl, rfl⟩
      obtain ⟨l, hl, hcost, -⟩ := h.route_settled r hr
      rw [hcost]
      exact h.isLeast_cost hok hsize ⟨u, hu⟩ hl
    · obtain ⟨l, hl⟩ := h.settled_of_spfPath hok hsize hleast.1
      obtain ⟨r, hr, rfl⟩ := h.settled_route x l hl
      obtain ⟨l', hl', hcost, -⟩ := h.route_settled r hr
      refine ⟨r, hr, rfl, ?_⟩
      rw [hcost]
      exact (h.isLeast_cost hok hsize ⟨u, hu⟩ hl').unique hleast
  · have hcalc : ospf6SpfCalculation area routerId = some spfInit := by
      unfold ospf6SpfCalculation
      cases hlookup : ospf6SpfLsdbLookup area.lsdb .router 0 routerId with
      | none => rfl
      | some u => exact absurd ⟨u, (ospf6SpfLsdbLookup_eq_some_iff hok).mp hlookup⟩ hlive
    rw [hcalc]
    refine ⟨fun st hst => ?_, fun _ => rfl⟩
    rw [← Option.some.inj hst]
    refine ⟨rfl, fun _ => none, ⟨fun _ r hr => absurd hr not_mem_nil,
      fun r hr => absurd hr not_mem_nil⟩, fun x c => ⟨?_, fun hleast => ?_⟩⟩
    · rintro ⟨r, hr, -⟩
      exact absurd hr not_mem_nil
    · exact absurd hleast.1.1 hlive

def pointToPointDesc (metric ifid nbrIfid nbrRouterid : UInt32) : List UInt32 :=
  [0x01000000 + metric, ifid, nbrIfid, nbrRouterid]

def transitDesc (metric ifid nbrIfid nbrRouterid : UInt32) : List UInt32 :=
  [0x02000000 + metric, ifid, nbrIfid, nbrRouterid]

def routerLsa (advRouter : UInt32) (words : List UInt32) : SpfLsa :=
  ⟨.router, 0, advRouter, false, 0, fun i => words.getD i 0, words.length⟩

def networkLsa (id advRouter : UInt32) (words : List UInt32) : SpfLsa :=
  ⟨.network, id, advRouter, false, 0, fun i => words.getD i 0, words.length⟩

def linkAddress : List UInt8 := [0xfe, 0x80] ++ List.replicate 13 0 ++ [1]

def upInterface (ifindex : UInt32) (type : IfType) (linkLsas : List LinkLsa) : SpfInterface :=
  ⟨ifindex, false, type, .uniConnected, .min, [], linkLsas⟩

/-- The vertices with a route, and the costs. -/
def spfTable (area : SpfArea) (routerId : UInt32) : Option (List (VertexId × UInt32)) :=
  (ospf6SpfCalculation area routerId).map fun st => st.routes.map fun r => (r.vertexId, r.cost)

/-- Router 1 reaches the network of router 3 through router 2. -/
def chainArea : SpfArea where
  routerId := 1
  ipv6 := true
  lsdb := [routerLsa 1 (pointToPointDesc 10 1 1 2),
    routerLsa 2 (pointToPointDesc 10 1 1 1 ++ transitDesc 5 2 7 3),
    networkLsa 7 3 [3, 2], routerLsa 3 (transitDesc 5 7 7 3)]
  ifList := [upInterface 1 .pointToPoint []]
  interfaces := [upInterface 1 .pointToPoint []]

lemma chainArea_lsdbOk : chainArea.LsdbOk := by
  constructor <;> decide

lemma chainArea_bounded : chainArea.Bounded 1 := by
  apply bounded_of_length (by decide)
  rintro y c i ⟨oi, hoi, -, hdirect, -⟩
  rw [mem_singleton.mp hoi] at hdirect
  cases hdirect

lemma chainArea_ifindexesSet : IfindexesSet chainArea 1 := by
  refine ⟨by decide, by decide, fun u hu => ?_⟩
  have hall : ∀ u ∈ chainArea.lsdb, u.advRouter = 1 → ∀ p ∈ u.lsdescs, u.lsdescIfid p ≠ 0 := by
    decide
  exact hall u hu.1 hu.2.2.2.1

theorem ospf6SpfCalculation_exact_chainArea :
    spfTable chainArea 1 = some [((1, 0), 0), ((2, 0), 10), ((3, 7), 15), ((3, 0), 15)] ∧
      (∀ st, ospf6SpfCalculation chainArea 1 = some st → st.candidateList.size = 0 ∧
        ∃ firstHopIf, FirstHopIf chainArea 1 st firstHopIf ∧ ∀ x c,
          (∃ r ∈ st.routes, r.vertexId = x ∧ r.cost.toNat = c) ↔
            IsLeast {c | SpfPath chainArea 1 firstHopIf x c} c) ∧
      (ospf6SpfCalculation chainArea 1).isSome := by
  have h := ospf6SpfCalculation_exact chainArea_lsdbOk chainArea_bounded
  exact ⟨by decide +kernel, h.1, h.2 chainArea_ifindexesSet⟩

def mdrInterface : SpfInterface :=
  ⟨1, false, .mdr, .uniConnected, .min, [⟨2, 4, .twoway, false, 3, linkAddress⟩], []⟩

/-- Router 1 has an MDR interface and another one; its LSA lists the neighbor on the former. -/
def mixedArea : SpfArea where
  routerId := 1
  ipv6 := true
  lsdb := [routerLsa 1 (pointToPointDesc 10 1 4 2), routerLsa 2 (pointToPointDesc 10 4 1 1)]
  ifList := [mdrInterface, upInterface 2 .broadcast []]
  interfaces := [mdrInterface, upInterface 2 .broadcast []]

/-- The network of router 2 has link-state id 0. -/
def sharedIdArea : SpfArea where
  routerId := 1
  ipv6 := true
  lsdb := [routerLsa 1 (transitDesc 10 1 0 2), networkLsa 0 2 [2, 1],
    routerLsa 2 (transitDesc 10 0 0 2 ++ pointToPointDesc 1 5 1 3),
    routerLsa 3 (pointToPointDesc 1 1 5 2)]
  ifList := [upInterface 1 .broadcast [⟨0, 2, linkAddress⟩]]
  interfaces := [upInterface 1 .broadcast [⟨0, 2, linkAddress⟩]]

/-- Router 1 has two links to a network; the first hop can be determined on the dearer one. -/
def twoLinkArea : SpfArea where
  routerId := 1
  ipv6 := true
  lsdb := [routerLsa 1 (transitDesc 5 1 7 2 ++ transitDesc 10 2 7 2), networkLsa 7 2 [2, 1],
    routerLsa 2 (transitDesc 5 7 7 2)]
  ifList := [upInterface 1 .broadcast [], upInterface 2 .broadcast [⟨7, 2, linkAddress⟩]]
  interfaces := [upInterface 1 .broadcast [], upInterface 2 .broadcast [⟨7, 2, linkAddress⟩]]

/-- A network-LSA that lists router 1.0.0.3 twice; that router has no link to the network. -/
def repeatedArea : SpfArea where
  routerId := 1
  ipv6 := true
  lsdb := [routerLsa 1 (transitDesc 10 1 7 2), networkLsa 7 2 [0x01000003, 2, 1, 0x01000003],
    routerLsa 2 (transitDesc 10 7 7 2), routerLsa 0x01000003 (pointToPointDesc 1 1 2 2)]
  ifList := [upInterface 1 .broadcast [⟨7, 2, linkAddress⟩, ⟨1, 0x01000003, linkAddress⟩]]
  interfaces := [upInterface 1 .broadcast [⟨7, 2, linkAddress⟩, ⟨1, 0x01000003, linkAddress⟩]]

lemma repeatedArea_not_confirmed : ∀ u ∈ repeatedArea.lsdb, ∀ p ∈ u.lsdescs, ∀ w,
    Confirmed repeatedArea u p w → w.advRouter ≠ 0x01000003 := by
  have hrouter : ∀ u ∈ repeatedArea.lsdb, u.type = .router → ∀ p ∈ u.lsdescs,
      u.lsdescNbrRouterid p ≠ 0x01000003 := by
    decide
  have hback : ∀ w ∈ repeatedArea.lsdb, w.advRouter = 0x01000003 → ∀ b ∈ w.lsdescs,
      w.lsdescType b ≠ transitNetwork := by
    decide
  rintro u hu p hp w (⟨ht, -, hw, -⟩ | ⟨ht, -, hw, -⟩ | ⟨-, hw, b, hb, htransit, -⟩) hadv
  · exact hrouter u hu ht p hp (hw.2.2.2.1.symm.trans hadv)
  · exact hrouter u hu ht p hp (hw.2.2.2.1.symm.trans hadv)
  · exact hback w hw.1 hadv b hb htransit

/-- The root's LSA is followed on MDR interfaces, a router is missed for its network's id or for a dearer first
hop, and one is found over a network that it has no link to. -/
theorem ospf6SpfCalculation_not_exact :
    (spfTable mixedArea 1 = some [((1, 0), 0), ((2, 0), 10)] ∧
      ∀ on ∈ mdrInterface.neighborList, on.routable = false ∧ on.state ≠ .full) ∧
    (spfTable sharedIdArea 1 = some [((1, 0), 0), ((2, 0), 10)] ∧ HasFirstHop sharedIdArea 1 2 none ∧
      ∃ u n v w, sharedIdArea.Live .router 0 1 u ∧ Confirmed sharedIdArea u 0 n ∧ Confirmed sharedIdArea n 0 v ∧
        Confirmed sharedIdArea v 4 w ∧ w.vertexId = (3, 0)) ∧
    (spfTable twoLinkArea 1 = some [((1, 0), 0), ((2, 7), 5)] ∧ HasFirstHop twoLinkArea 2 2 none ∧
      ∃ u n v, twoLinkArea.Live .router 0 1 u ∧ Confirmed twoLinkArea u 4 n ∧ u.lsdescIfid 4 = 2 ∧
        Confirmed twoLinkArea n 0 v ∧ v.vertexId = (2, 0)) ∧
    (spfTable repeatedArea 1 = some [((1, 0), 0), ((2, 7), 10), ((0x01000003, 0), 10), ((2, 0), 10)] ∧
      ∀ u ∈ repeatedArea.lsdb, ∀ p ∈ u.lsdescs, ∀ w, Confirmed repeatedArea u p w →
            w.advRouter ≠ 0x01000003) := by
  refine ⟨⟨by decide +kernel, by decide⟩, ⟨by decide +kernel, ?_, ?_⟩, ⟨by decide +kernel, ?_, ?_⟩,
    by decide +kernel, repeatedArea_not_confirmed⟩
  · exact ⟨_, rfl, .inr (.inl ⟨_, mem_singleton_self _, rfl, by simp⟩)⟩
  · refine ⟨_, _, _, _, ⟨.head _, rfl, rfl, rfl, rfl⟩,
      .toNetwork rfl (by decide) ⟨.tail _ (.head _), rfl, rfl, rfl, rfl⟩ 1 (by decide) rfl,
      .fromNetwork rfl ⟨.tail _ (.tail _ (.head _)), rfl, rfl, rfl, rfl⟩ 0 (by decide) (by decide),
      .pointToPoint rfl (by decide) ⟨.tail _ (.tail _ (.tail _ (.head _))), rfl, rfl, rfl, rfl⟩ 0
        (by decide) (by decide), rfl⟩
  · exact ⟨_, rfl, .inr (.inl ⟨_, mem_singleton_self _, rfl, by simp⟩)⟩
  · refine ⟨_, _, _, ⟨.head _, rfl, rfl, rfl, rfl⟩,
      .toNetwork rfl (by decide) ⟨.tail _ (.head _), rfl, rfl, rfl, rfl⟩ 1 (by decide) rfl, rfl,
      .fromNetwork rfl ⟨.tail _ (.tail _ (.head _)), rfl, rfl, rfl, rfl⟩ 0 (by decide) (by decide), rfl⟩

end OspfMdr.Ospf6
