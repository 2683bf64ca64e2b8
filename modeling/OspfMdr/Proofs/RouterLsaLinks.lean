import OspfMdr.Proofs.RouterLsa
import OspfMdr.Proofs.SpfReads
import OspfMdr.Proofs.SpfTable

/-!
# The links of split router-LSAs

The calculation looks up the router-LSA with link-state id 0 only, so the links of the others are lost to
every router. A link that is in the LSA with id 0 is used by every router: in an area with nothing but the LSA
that answers it and a way from the router to that LSA, the result depends on it.
-/

namespace OspfMdr.Ospf6
open Lib List Option
open Relation (ReflTransGen)

/-- In some area the calculation of the router `r` has another result without the link `d`. -/
def UsedBy (oa : LsdescArea) (fragments : List (List RouterLsdesc)) (d : RouterLsdesc) (r : UInt32) : Prop :=
  ∃ area : SpfArea, spfTable { area with lsdb := oa.routerLsas fragments ++ area.lsdb } r ≠
    spfTable { area with lsdb := oa.routerLsas (fragments.map (·.filter (· ≠ d))) ++ area.lsdb } r

/-- All the links in one LSA. -/
def joinFragments (fragments : List (List RouterLsdesc)) : List (List RouterLsdesc) :=
  if fragments = [] then [] else [fragments.flatten]

/-- The two links lead to the same network or between the same two interfaces. -/
def RouterLsdesc.SameEnds (d e : RouterLsdesc) : Prop :=
  d.type = e.type ∧ d.neighborRouterId = e.neighborRouterId ∧ d.neighborInterfaceId = e.neighborInterfaceId ∧
    (d.type = pointToPoint → d.interfaceId = e.interfaceId)
  deriving Decidable

/-- No interface id is 0, no neighbor has the router's own id, and no two links have the same ends. -/
structure LsdescArea.ProperLinks (oa : LsdescArea) (links : List RouterLsdesc) : Prop where
  nodup : links.Nodup
  ends : ∀ d ∈ links, ∀ e ∈ links, d.SameEnds e → d = e
  ids : ∀ d ∈ links, d.interfaceId ≠ 0 ∧ d.neighborInterfaceId ≠ 0
  neighbor : ∀ d ∈ links, d.type = pointToPoint → d.neighborRouterId ≠ oa.routerId

/-- The router-LSA with link-state id 0 of the router `n`. -/
def LsdescArea.lsaOf (oa : LsdescArea) (n : UInt32) (links : List RouterLsdesc) : SpfLsa :=
  ({ oa with routerId := n }).routerLsa 0 links

/-! ### Reading a link back -/

section reads

variable {oa : LsdescArea} {a : UInt32} {links : List RouterLsdesc} {d : RouterLsdesc} {p : Nat}

/-- The link has a type that the SPF calculation follows, and its metric fits. -/
def RouterLsdesc.Valid (d : RouterLsdesc) : Prop :=
  (d.type = pointToPoint ∨ d.type = transitNetwork) ∧ d.metric < 2 ^ 16

/-- The description at `p` says what `d` says. -/
structure Reads (l : SpfLsa) (p : Nat) (d : RouterLsdesc) : Prop where
  type : l.lsdescType p = d.type
  ifid : l.lsdescIfid p = d.interfaceId
  nbrIfid : l.lsdescNbrIfid p = d.neighborInterfaceId
  nbrRouterid : l.lsdescNbrRouterid p = d.neighborRouterId

lemma flatMap_words_getD {j k : Nat} (hj : j < links.length) (hk : k < 4) :
    (links.flatMap RouterLsdesc.words).getD (j * 4 + k) 0 = (links[j].words).getD k 0 := by
  induction links generalizing j with
  | nil => exact absurd hj (Nat.not_lt_zero j)
  | cons d links ih =>
    have hlen : d.words.length = 4 := rfl
    rw [flatMap_cons]
    cases j with
    | zero =>
      rw [Nat.zero_mul, zero_add, getD_eq_getElem?_getD, getElem?_append_left (by omega)]
      rfl
    | succ j =>
      rw [getD_eq_getElem?_getD, getElem?_append_right (by omega), hlen,
        show (j + 1) * 4 + k - 4 = j * 4 + k by omega]
      exact ih (Nat.lt_of_succ_lt_succ hj)

lemma mem_lsdescs_iff : p ∈ (oa.lsaOf a links).lsdescs ↔ ∃ j < links.length, p = j * 4 := by
  have hlength : (oa.lsaOf a links).length / 4 = links.length := by
    have hsize := @routerLsa_size { oa with routerId := a } 0 links
    unfold routerLsaSize at hsize
    change ({ oa with routerId := a }.routerLsa 0 links).length / 4 = _
    omega
  unfold SpfLsa.lsdescs
  rw [List.mem_map]
  simp only [mem_range]
  constructor
  · rintro ⟨j, hj, rfl⟩
    exact ⟨j, hlength ▸ hj, rfl⟩
  · rintro ⟨j, hj, rfl⟩
    exact ⟨j, hlength.symm ▸ hj, rfl⟩

lemma reads_getElem {j : Nat} (hj : j < links.length) (hvalid : (links[j]).Valid) :
    Reads (oa.lsaOf a links) (j * 4) links[j] := by
  have hwords : ∀ k < 4, (oa.lsaOf a links).words (j * 4 + k) = (links[j].words).getD k 0 := fun k hk =>
    flatMap_words_getD hj hk
  refine ⟨?_, hwords 1 (by decide), hwords 2 (by decide), hwords 3 (by decide)⟩
  unfold SpfLsa.lsdescType
  have hzero : (oa.lsaOf a links).words (j * 4) = _ := hwords 0 (by decide)
  rw [hzero]
  change (UInt32.ofNat (links[j].type * 2 ^ 24 + links[j].metric)).toNat / 2 ^ 24 = links[j].type
  obtain ⟨htype, hmetric⟩ := hvalid
  rw [UInt32.toNat_ofNat']
  unfold pointToPoint transitNetwork at htype
  omega

variable (hvalid : ∀ d ∈ links, d.Valid)
include hvalid

lemma exists_reads (hp : p ∈ (oa.lsaOf a links).lsdescs) :
    ∃ d ∈ links, Reads (oa.lsaOf a links) p d := by
  obtain ⟨j, hj, rfl⟩ := mem_lsdescs_iff.mp hp
  exact ⟨links[j], getElem_mem hj, reads_getElem hj (hvalid _ (getElem_mem hj))⟩

lemma lsdescIfid_ne_zero (h : ∀ d ∈ links, d.interfaceId ≠ 0) (hp : p ∈ (oa.lsaOf a links).lsdescs) :
    (oa.lsaOf a links).lsdescIfid p ≠ 0 := by
  obtain ⟨d, hd, hread⟩ := exists_reads hvalid hp
  rw [hread.ifid]
  exact h d hd

lemma reads_of_mem (oa : LsdescArea) (a : UInt32) (hd : d ∈ links) :
    ∃ p ∈ (oa.lsaOf a links).lsdescs, Reads (oa.lsaOf a links) p d := by
  obtain ⟨j, hj, rfl⟩ := getElem_of_mem hd
  exact ⟨j * 4, mem_lsdescs_iff.mpr ⟨j, hj, rfl⟩, reads_getElem hj (hvalid _ hd)⟩

end reads

lemma links_valid {oa : LsdescArea} {l : List LsdescInterface} {d : RouterLsdesc} (hd : d ∈ oa.links l) :
    d.Valid := by
  obtain ⟨oi, -, hd⟩ := mem_flatMap.mp hd
  have htransit : ∀ a b, (oi.transitLsdesc a b).Valid := fun a b => ⟨.inr rfl, Nat.mod_lt _ (by decide)⟩
  have hneighbor : d ∈ oi.neighborLsdescs → d.Valid := by
    intro hd
    obtain ⟨on, -, rfl⟩ := List.mem_map.mp hd
    exact ⟨.inl rfl, Nat.mod_lt _ (by decide)⟩
  unfold LsdescInterface.lsdescs at hd
  split at hd
  · exact hneighbor hd
  · exact hneighbor hd
  · exact hneighbor hd
  all_goals first
    | exact absurd hd not_mem_nil
    | skip
  all_goals
    split_ifs at hd
    · rw [mem_singleton.mp hd]
      exact htransit _ _
    · split at hd
      · split_ifs at hd
        · rw [mem_singleton.mp hd]
          exact htransit _ _
        · exact absurd hd not_mem_nil
      · exact absurd hd not_mem_nil

/-! ### What a router reaches that does not calculate for itself -/

/-- A link that two LSAs confirm. -/
def Linked (area : SpfArea) (x y : VertexId) : Prop :=
  ∃ u p w, area.IsVertex u ∧ u.vertexId = x ∧ p ∈ u.lsdescs ∧ Confirmed area u p w ∧ w.vertexId = y

section reach

variable {area : SpfArea} {r : UInt32}

lemma linked_iff (hr : r ≠ area.routerId) (firstHopIf : VertexId → Option UInt32) (x y : VertexId) :
    Linked area x y ↔ ∃ k, SpfLink area r firstHopIf x y k := by
  constructor
  · rintro ⟨u, p, w, hu, hx, hp, hconf, hy⟩
    exact ⟨_, .inr ⟨fun h => hr h.2.1, u, p, w, hu, hx, hp, hconf, hy, rfl, fun h => absurd h hr⟩⟩
  · rintro ⟨k, ⟨h, -⟩ | ⟨-, u, p, w, hu, hx, hp, hconf, hy, -⟩⟩
    · exact absurd h hr
    · exact ⟨u, p, w, hu, hx, hp, hconf, hy⟩

lemma reach_iff_path (hr : r ≠ area.routerId) (firstHopIf : VertexId → Option UInt32) (x : VertexId) :
    ReflTransGen (Linked area) (r, 0) x ↔ ∃ vs a, PathTo (SpfLink area r firstHopIf) (r, 0) vs x a := by
  constructor
  · intro h
    induction h with
    | refl => exact ⟨_, _, .nil⟩
    | tail _ hlink ih =>
      obtain ⟨vs, a, hp⟩ := ih
      obtain ⟨k, hk⟩ := (linked_iff hr firstHopIf _ _).mp hlink
      exact ⟨_, _, hp.cons hk⟩
  · rintro ⟨vs, a, hp⟩
    induction hp with
    | nil => exact .refl
    | cons _ hlink ih => exact ih.tail ((linked_iff hr firstHopIf _ _).mpr ⟨_, hlink⟩)

lemma spfTable_reach (hok : area.LsdbOk) (hb : area.Bounded r) (hset : IfindexesSet area r)
    (hr : r ≠ area.routerId) {u : SpfLsa} (hu : area.Live .router 0 r u) :
    ∃ t, spfTable area r = some t ∧ ∀ x, x ∈ t.map Prod.fst ↔ ReflTransGen (Linked area) (r, 0) x := by
  obtain ⟨hsome, hfinish⟩ := ospf6SpfCalculation_ok hok hb hu
  obtain ⟨st, hst⟩ := isSome_iff_exists.mp (hfinish hset)
  obtain ⟨hsize, settled, hspf⟩ := hsome st hst
  have h := hspf.inv
  refine ⟨_, by rw [spfTable, hst]; rfl, fun x => ?_⟩
  rw [reach_iff_path hr (recordedIf settled), List.map_map, List.mem_map]
  constructor
  · rintro ⟨route, hroute, rfl⟩
    obtain ⟨l, hl, -⟩ := h.route_settled route hroute
    obtain ⟨vs, hp, -⟩ := h.dijkstra.settled_path _ l hl
    exact ⟨vs, _, (h.path_iff hok hsize).mp hp⟩
  · rintro ⟨vs, a, hp⟩
    obtain ⟨l, hl⟩ := h.settled_of_spfPath hok hsize ⟨⟨u, hu⟩, vs, (ofLex a).2, hp⟩
    exact h.settled_route x l hl

end reach

/-! ### An area in which the result depends on one link -/

section answers

variable (oa : LsdescArea) (d : RouterLsdesc) (r : UInt32)

/-- The links of the neighbor: back to this router and, if it is none of the two, to `r`. -/
def neighborLinks : List RouterLsdesc :=
  ⟨pointToPoint, 1, d.neighborInterfaceId, d.interfaceId, oa.routerId⟩ ::
    if r ≠ oa.routerId ∧ r ≠ d.neighborRouterId then [⟨pointToPoint, 1, 1, 1, r⟩] else []

/-- The LSAs that answer the link `d` and connect `r` to its other end. -/
def answers : List SpfLsa :=
  if d.type = pointToPoint then
    oa.lsaOf d.neighborRouterId (neighborLinks oa d r) ::
      if r ≠ oa.routerId ∧ r ≠ d.neighborRouterId then
        [oa.lsaOf r [⟨pointToPoint, 1, 1, 1, d.neighborRouterId⟩]]
      else []
  else
    networkLsa d.neighborInterfaceId d.neighborRouterId
        (oa.routerId :: if r ≠ oa.routerId then [r] else []) ::
      if r ≠ oa.routerId then
        [oa.lsaOf r [⟨transitNetwork, 1, 1, d.neighborInterfaceId, d.neighborRouterId⟩]]
      else []

def answeredArea (links : List RouterLsdesc) : SpfArea :=
  ⟨r + 1, true, oa.lsaOf oa.routerId links :: answers oa d r, [], []⟩

/-- The vertex to which the link leads. -/
def farEnd : VertexId := (d.neighborRouterId, if d.type = pointToPoint then 0 else d.neighborInterfaceId)

/-- The link `d` has both ends in the area. -/
structure Answered (links : List RouterLsdesc) : Prop where
  out_iff : (∃ y, Linked (answeredArea oa d r links) (oa.routerId, 0) y) → ∃ e ∈ links, e.SameEnds d
  in_iff : (∃ y, Linked (answeredArea oa d r links) y (oa.routerId, 0)) → ∃ e ∈ links, e.SameEnds d
  far : d ∈ links → Linked (answeredArea oa d r links) (oa.routerId, 0) (farEnd d)
  back : d ∈ links → Linked (answeredArea oa d r links) (farEnd d) (oa.routerId, 0)
  way : r ≠ oa.routerId → ReflTransGen (Linked (answeredArea oa d r links)) (r, 0) (farEnd d)
  ok : (answeredArea oa d r links).LsdbOk
  ids : IfindexesSet (answeredArea oa d r links) r
  root : ∃ u, (answeredArea oa d r links).Live .router 0 r u

variable {oa d r} in
lemma Answered.table {links : List RouterLsdesc} (h : Answered oa d r links) :
    ∃ t, spfTable (answeredArea oa d r links) r = some t ∧
      ∀ x, x ∈ t.map Prod.fst ↔ ReflTransGen (Linked (answeredArea oa d r links)) (r, 0) x := by
  obtain ⟨u, hu⟩ := h.root
  refine spfTable_reach h.ok (bounded_of_length ?_ ?_) h.ids ?_ hu
  · unfold answeredArea answers
    split_ifs <;> simp
  · rintro y c i ⟨oi, hoi, -⟩
    exact absurd hoi not_mem_nil
  · intro heq
    have hnat := congrArg UInt32.toNat heq
    have hlt := r.toNat_lt
    simp only [answeredArea, UInt32.toNat_add, UInt32.toNat_one] at hnat
    omega

end answers

variable {oa : LsdescArea} {d : RouterLsdesc} {r : UInt32} {links : List RouterLsdesc}

lemma mem_neighborLinks {e : RouterLsdesc} : e ∈ neighborLinks oa d r ↔
    e = ⟨pointToPoint, 1, d.neighborInterfaceId, d.interfaceId, oa.routerId⟩ ∨
      (r ≠ oa.routerId ∧ r ≠ d.neighborRouterId) ∧ e = ⟨pointToPoint, 1, 1, 1, r⟩ := by
  unfold neighborLinks
  split_ifs with h <;> simp [h]

lemma valid_of_type {t : Nat} (ht : t = pointToPoint ∨ t = transitNetwork) (a b c : UInt32) :
    RouterLsdesc.Valid ⟨t, 1, a, b, c⟩ :=
  ⟨ht, by norm_num⟩

lemma neighborLinks_valid : ∀ e ∈ neighborLinks oa d r, e.Valid := by
  intro e he
  rcases mem_neighborLinks.mp he with rfl | ⟨-, rfl⟩ <;> exact valid_of_type (.inl rfl) _ _ _

section confirmed

variable {area : SpfArea} {a b : UInt32} {la lb : List RouterLsdesc} {e e' : RouterLsdesc} {p : Nat}

/-- The point-to-point links `e` of the router `a` and `e'` of the router `b` answer each other. -/
def Meets (a : UInt32) (e : RouterLsdesc) (b : UInt32) (e' : RouterLsdesc) : Prop :=
  e.type = pointToPoint ∧ e.neighborRouterId = b ∧ e'.type = pointToPoint ∧ e'.neighborRouterId = a ∧
    e'.neighborInterfaceId = e.interfaceId ∧ e'.interfaceId = e.neighborInterfaceId

lemma live_lsaOf (h : oa.lsaOf a la ∈ area.lsdb) : area.Live .router 0 a (oa.lsaOf a la) :=
  ⟨h, rfl, rfl, rfl, rfl⟩

lemma isVertex_lsaOf (h : oa.lsaOf a la ∈ area.lsdb) : area.IsVertex (oa.lsaOf a la) :=
  ⟨h, rfl, fun _ => rfl⟩

lemma meets_of_confirmed (hla : ∀ e ∈ la, e.Valid) (hlb : ∀ e ∈ lb, e.Valid)
    (hp : p ∈ (oa.lsaOf a la).lsdescs) (h : Confirmed area (oa.lsaOf a la) p (oa.lsaOf b lb)) :
    ∃ e ∈ la, ∃ e' ∈ lb, Meets a e b e' := by
  obtain ⟨e, he, hread⟩ := exists_reads hla hp
  rcases h with ⟨-, hptp, hw, q, hq, htype, hrouter, hnbrIfid, hifid⟩ | ⟨-, -, hw, -⟩ | ⟨hu, -⟩
  · obtain ⟨e', he', hread'⟩ := exists_reads hlb hq
    refine ⟨e, he, e', he', hread.type.symm.trans hptp, ?_, hread'.type.symm.trans htype, ?_, ?_, ?_⟩
    · exact hread.nbrRouterid.symm.trans hw.2.2.2.1.symm
    · exact hread'.nbrRouterid.symm.trans hrouter
    · exact hread'.nbrIfid.symm.trans (hnbrIfid.trans hread.ifid)
    · exact hread'.ifid.symm.trans (hifid.trans hread.nbrIfid)
  · exact absurd hw.2.1 nofun
  · exact absurd hu nofun

lemma linked_of_meets (hla : ∀ e ∈ la, e.Valid) (hlb : ∀ e ∈ lb, e.Valid) (ha : oa.lsaOf a la ∈ area.lsdb)
    (hb : oa.lsaOf b lb ∈ area.lsdb) (he : e ∈ la) (he' : e' ∈ lb) (h : Meets a e b e') :
    Linked area (a, 0) (b, 0) := by
  obtain ⟨p, hp, hread⟩ := reads_of_mem hla oa a he
  obtain ⟨q, hq, hread'⟩ := reads_of_mem hlb oa b he'
  obtain ⟨htype, rfl, htype', rfl, hnbrIfid, hifid⟩ := h
  refine ⟨_, p, _, isVertex_lsaOf ha, rfl, hp, .pointToPoint rfl (hread.type.trans htype) ?_ q hq
    ⟨hread'.type.trans htype', hread'.nbrRouterid, ?_, ?_⟩, rfl⟩
  · rw [hread.nbrRouterid]
    exact live_lsaOf hb
  · exact hread'.nbrIfid.trans (hnbrIfid.trans hread.ifid.symm)
  · exact hread'.ifid.trans (hifid.trans hread.nbrIfid.symm)

variable {id adv : UInt32} {words : List UInt32}

lemma mem_lsdescs_network : p ∈ (networkLsa id adv words).lsdescs ↔ p < words.length := by
  simp [SpfLsa.lsdescs, SpfLsa.lsdescSize, networkLsa]

lemma transit_of_confirmed (hla : ∀ e ∈ la, e.Valid) (hp : p ∈ (oa.lsaOf a la).lsdescs)
    (h : Confirmed area (oa.lsaOf a la) p (networkLsa id adv words)) :
    ∃ e ∈ la, e.type = transitNetwork ∧ e.neighborInterfaceId = id ∧ e.neighborRouterId = adv := by
  obtain ⟨e, he, hread⟩ := exists_reads hla hp
  rcases h with ⟨-, -, hw, -⟩ | ⟨-, htype, hw, -⟩ | ⟨hu, -⟩
  · exact absurd hw.2.1 nofun
  · exact ⟨e, he, hread.type.symm.trans htype, hread.nbrIfid.symm.trans hw.2.2.1.symm,
      hread.nbrRouterid.symm.trans hw.2.2.2.1.symm⟩
  · exact absurd hu nofun

lemma transit_of_confirmed_network (hla : ∀ e ∈ la, e.Valid)
    (h : Confirmed area (networkLsa id adv words) p (oa.lsaOf a la)) :
    ∃ e ∈ la, e.type = transitNetwork ∧ e.neighborInterfaceId = id ∧ e.neighborRouterId = adv := by
  rcases h with ⟨hu, -⟩ | ⟨hu, -⟩ | ⟨-, -, q, hq, htype, hrouter, hid⟩
  · exact absurd hu nofun
  · exact absurd hu nofun
  · obtain ⟨e, he, hread⟩ := exists_reads hla hq
    exact ⟨e, he, hread.type.symm.trans htype, hread.nbrIfid.symm.trans hid, hread.nbrRouterid.symm.trans hrouter⟩

section

variable (hla : ∀ e ∈ la, e.Valid) (ha : oa.lsaOf a la ∈ area.lsdb)
  (hnet : networkLsa id adv words ∈ area.lsdb) (he : e ∈ la) (htype : e.type = transitNetwork)
  (hid : e.neighborInterfaceId = id) (hadv : e.neighborRouterId = adv) (hmem : a ∈ words)
include hla ha hnet he htype hid hadv hmem

lemma linked_network : Linked area (a, 0) (adv, id) := by
  obtain ⟨p, hp, hread⟩ := reads_of_mem hla oa a he
  obtain ⟨q, hq, hword⟩ := getElem_of_mem hmem
  refine ⟨_, p, networkLsa id adv words, isVertex_lsaOf ha, rfl, hp, .toNetwork rfl (hread.type.trans htype) ?_ q
    (mem_lsdescs_network.mpr hq) ?_, rfl⟩
  · rw [hread.nbrIfid, hread.nbrRouterid, hid, hadv]
    exact ⟨hnet, rfl, rfl, rfl, rfl⟩
  · simp [SpfLsa.networkLsdescNbrRouterid, networkLsa, hq, hword, LsdescArea.lsaOf, LsdescArea.routerLsa]

lemma network_linked : Linked area (adv, id) (a, 0) := by
  obtain ⟨p, hp, hread⟩ := reads_of_mem hla oa a he
  obtain ⟨q, hq, hword⟩ := getElem_of_mem hmem
  have hentry : (networkLsa id adv words).networkLsdescNbrRouterid q = a := by
    simp [SpfLsa.networkLsdescNbrRouterid, networkLsa, hq, hword]
  refine ⟨networkLsa id adv words, q, _, ⟨hnet, rfl, nofun⟩, rfl, mem_lsdescs_network.mpr hq,
    .fromNetwork rfl ?_ p hp ⟨hread.type.trans htype, hread.nbrRouterid.trans hadv, hread.nbrIfid.trans hid⟩, rfl⟩
  rw [hentry]
  exact live_lsaOf ha

end

end confirmed

section answered

variable (hproper : oa.ProperLinks links) (hvalid : ∀ e ∈ links, e.Valid)
include hproper

lemma not_meets_self {e e' : RouterLsdesc} (he : e ∈ links) : ¬Meets oa.routerId e oa.routerId e' :=
  fun h => hproper.neighbor e he h.1 h.2.1

include hvalid

section pointToPoint

variable (hd : d.type = pointToPoint) (hne : d.neighborRouterId ≠ oa.routerId)
include hd

omit hvalid hproper in
lemma mem_answered {u : SpfLsa} : u ∈ (answeredArea oa d r links).lsdb ↔ u = oa.lsaOf oa.routerId links ∨
    u = oa.lsaOf d.neighborRouterId (neighborLinks oa d r) ∨
    (r ≠ oa.routerId ∧ r ≠ d.neighborRouterId) ∧ u = oa.lsaOf r [⟨pointToPoint, 1, 1, 1, d.neighborRouterId⟩] := by
  unfold answeredArea answers
  rw [if_pos hd]
  split_ifs with h <;> simp [h]

include hne

lemma sameEnds_of_out {p : Nat} {w : SpfLsa} (hp : p ∈ (oa.lsaOf oa.routerId links).lsdescs)
    (h : Confirmed (answeredArea oa d r links) (oa.lsaOf oa.routerId links) p w) :
    ∃ e ∈ links, e.SameEnds d := by
  rcases (mem_answered hd).mp h.isVertex.1 with rfl | rfl | ⟨hr, rfl⟩
  · obtain ⟨e, he, e', -, hmeets⟩ := meets_of_confirmed hvalid hvalid hp h
    exact absurd hmeets (not_meets_self hproper he)
  · obtain ⟨e, he, e', he', htype, hnbr, -, hback, hnbrIfid, hifid⟩ :=
      meets_of_confirmed hvalid neighborLinks_valid hp h
    rcases mem_neighborLinks.mp he' with rfl | ⟨hr, rfl⟩
    · exact ⟨e, he, htype.trans hd.symm, hnbr, hifid.symm, fun _ => hnbrIfid.symm⟩
    · exact absurd hback hr.1
  · obtain ⟨e, he, e', he', -, -, -, hback, -⟩ :=
      meets_of_confirmed hvalid (by simpa using valid_of_type (.inl rfl) _ _ _) hp h
    rw [mem_singleton.mp he'] at hback
    exact absurd hback hne

lemma sameEnds_of_in {u : SpfLsa} {p : Nat} (hu : u ∈ (answeredArea oa d r links).lsdb) (hp : p ∈ u.lsdescs)
    (h : Confirmed (answeredArea oa d r links) u p (oa.lsaOf oa.routerId links)) :
    ∃ e ∈ links, e.SameEnds d := by
  rcases (mem_answered hd).mp hu with rfl | rfl | ⟨hr, rfl⟩
  · obtain ⟨e, he, e', -, hmeets⟩ := meets_of_confirmed hvalid hvalid hp h
    exact absurd hmeets (not_meets_self hproper he)
  · obtain ⟨e, he, e', he', -, hnbr, htype, hback, hnbrIfid, hifid⟩ :=
      meets_of_confirmed neighborLinks_valid hvalid hp h
    rcases mem_neighborLinks.mp he with rfl | ⟨hr, rfl⟩
    · exact ⟨e', he', htype.trans hd.symm, hback, hnbrIfid, fun _ => hifid⟩
    · exact absurd hnbr hr.1
  · obtain ⟨e, he, e', he', -, hnbr, -⟩ :=
      meets_of_confirmed (by simpa using valid_of_type (.inl rfl) _ _ _) hvalid hp h
    rw [mem_singleton.mp he] at hnbr
    exact absurd hnbr hne

omit hvalid hproper in
lemma answered_lsdbOk : (answeredArea oa d r links).LsdbOk := by
  have hrouter : ∀ u ∈ (answeredArea oa d r links).lsdb, u.type ≠ .network := by
    intro u hu
    rcases (mem_answered hd).mp hu with rfl | rfl | ⟨-, rfl⟩ <;> nofun
  refine ⟨?_, fun u hu _ ht => absurd ht (hrouter u hu), fun u hu _ ht => absurd ht (hrouter u hu)⟩
  unfold answeredArea answers
  rw [if_pos hd]
  split_ifs with hr
  · simp [LsdescArea.lsaOf, LsdescArea.routerLsa, hne.symm, hr.1.symm, hr.2.symm]
  · simp [LsdescArea.lsaOf, LsdescArea.routerLsa, hne.symm]

lemma answered_pointToPoint (hid : d.neighborInterfaceId ≠ 0) : Answered oa d r links := by
  have hmem := fun u => @mem_answered oa d r links hd u
  have hself : oa.lsaOf oa.routerId links ∈ (answeredArea oa d r links).lsdb := (hmem _).mpr (.inl rfl)
  have hnbr : oa.lsaOf d.neighborRouterId (neighborLinks oa d r) ∈ (answeredArea oa d r links).lsdb :=
    (hmem _).mpr (.inr (.inl rfl))
  have hfar : farEnd d = (d.neighborRouterId, 0) := by rw [farEnd, if_pos hd]
  have hback := mem_neighborLinks.mpr (.inl rfl : _ ∨ (r ≠ oa.routerId ∧ r ≠ d.neighborRouterId) ∧ _)
  refine ⟨?_, ?_, fun hlink => ?_, fun hlink => ?_, fun hr => ?_, answered_lsdbOk hd hne,
    ⟨nofun, nofun, fun u hu p hp => ?_⟩, ?_⟩
  · rintro ⟨y, u, p, w, hu, hx, hp, hconf, -⟩
    rcases (hmem u).mp hu.1 with rfl | rfl | ⟨hr, rfl⟩
    · exact sameEnds_of_out hproper hvalid hd hne hp hconf
    · exact absurd (Prod.mk.inj hx).1 hne
    · exact absurd (Prod.mk.inj hx).1 hr.1
  · rintro ⟨y, u, p, w, hu, -, hp, hconf, hy⟩
    rcases (hmem w).mp hconf.isVertex.1 with rfl | rfl | ⟨hr, rfl⟩
    · exact sameEnds_of_in hproper hvalid hd hne hu.1 hp hconf
    · exact absurd (Prod.mk.inj hy).1 hne
    · exact absurd (Prod.mk.inj hy).1 hr.1
  · rw [hfar]
    exact linked_of_meets hvalid neighborLinks_valid hself hnbr hlink hback ⟨hd, rfl, rfl, rfl, rfl, rfl⟩
  · rw [hfar]
    exact linked_of_meets neighborLinks_valid hvalid hnbr hself hback hlink ⟨rfl, rfl, hd, rfl, rfl, rfl⟩
  · rw [hfar]
    by_cases hrn : r = d.neighborRouterId
    · rw [hrn]
    · refine .single (linked_of_meets (by simpa using valid_of_type (.inl rfl) _ _ _) neighborLinks_valid
        ((hmem _).mpr (.inr (.inr ⟨⟨hr, hrn⟩, rfl⟩))) hnbr (mem_singleton_self _)
        (mem_neighborLinks.mpr (.inr ⟨⟨hr, hrn⟩, rfl⟩)) ⟨rfl, rfl, rfl, rfl, rfl, rfl⟩)
  · rcases (hmem u).mp hu.1 with rfl | rfl | ⟨-, rfl⟩
    · exact lsdescIfid_ne_zero hvalid (fun e he => (hproper.ids e he).1) hp
    · refine lsdescIfid_ne_zero neighborLinks_valid (fun e he => ?_) hp
      rcases mem_neighborLinks.mp he with rfl | ⟨-, rfl⟩
      · exact hid
      · exact (by decide : (1 : UInt32) ≠ 0)
    · exact lsdescIfid_ne_zero (by simpa using valid_of_type (.inl rfl) _ _ _) (by simp) hp
  · by_cases hr : r = oa.routerId
    · exact ⟨_, hself, rfl, rfl, hr.symm, rfl⟩
    · by_cases hrn : r = d.neighborRouterId
      · exact ⟨_, hnbr, rfl, rfl, hrn.symm, rfl⟩
      · exact ⟨_, live_lsaOf ((hmem _).mpr (.inr (.inr ⟨⟨hr, hrn⟩, rfl⟩)))⟩

end pointToPoint

section transitNetwork

variable (hd : d.type = transitNetwork)
include hd

omit hvalid hproper in
lemma mem_answered_network {u : SpfLsa} :
    u ∈ (answeredArea oa d r links).lsdb ↔
      u = oa.lsaOf oa.routerId links ∨
      u = networkLsa d.neighborInterfaceId d.neighborRouterId
        (oa.routerId :: if r ≠ oa.routerId then [r] else []) ∨
      r ≠ oa.routerId ∧ u = oa.lsaOf r [⟨transitNetwork, 1, 1, d.neighborInterfaceId, d.neighborRouterId⟩] := by
  unfold answeredArea answers
  rw [if_neg (by rw [hd]; decide)]
  split_ifs with h <;> simp [h]

omit hvalid hproper hd in
lemma not_meets_network {e' : RouterLsdesc} {a b : UInt32} :
    ¬Meets a e' b ⟨transitNetwork, 1, 1, d.neighborInterfaceId, d.neighborRouterId⟩ ∧
    ¬Meets a ⟨transitNetwork, 1, 1, d.neighborInterfaceId, d.neighborRouterId⟩ b e' := by
  have hne : transitNetwork ≠ pointToPoint := by decide
  exact ⟨fun h => hne h.2.2.1, fun h => hne h.1⟩

omit hvalid hproper in
lemma answered_network_lsdbOk (hid : d.neighborInterfaceId ≠ 0) : (answeredArea oa d r links).LsdbOk := by
  have hnet : ∀ u ∈ (answeredArea oa d r links).lsdb, u.type = .network →
      u = networkLsa d.neighborInterfaceId d.neighborRouterId (oa.routerId :: if r ≠ oa.routerId then [r] else []) := by
    intro u hu ht
    rcases (mem_answered_network hd).mp hu with rfl | rfl | ⟨-, rfl⟩
    · exact absurd ht nofun
    · rfl
    · exact absurd ht nofun
  refine ⟨?_, fun u hu _ ht => ?_, fun u hu _ ht p hp htype => ?_⟩
  · unfold answeredArea answers
    rw [if_neg (by rw [hd]; decide)]
    split_ifs with hr
    · simp [LsdescArea.lsaOf, LsdescArea.routerLsa, networkLsa, Ne.symm hr]
    · simp [LsdescArea.lsaOf, LsdescArea.routerLsa, networkLsa]
  · rw [hnet u hu ht]
    exact hid
  · -- there is no entry three places behind
    rw [hnet u hu ht] at htype ⊢
    intro heq
    have hlength : (oa.routerId :: if r ≠ oa.routerId then [r] else []).length ≤ p + 3 := by
      split_ifs <;> simp
    have hzero : (oa.routerId :: if r ≠ oa.routerId then [r] else []).getD (p + 3) 0 = 0 := by
      rw [getD_eq_getElem?_getD, getElem?_eq_none hlength]
      rfl
    unfold SpfLsa.lsdescType at htype
    rw [← heq] at htype
    change ((oa.routerId :: if r ≠ oa.routerId then [r] else []).getD (p + 3) 0).toNat / 2 ^ 24 = 1 at htype
    rw [hzero] at htype
    exact absurd htype (by decide)

lemma answered_transitNetwork (hid : d.neighborInterfaceId ≠ 0) : Answered oa d r links := by
  have hmem := fun u => @mem_answered_network oa d r links hd u
  have hself : oa.lsaOf oa.routerId links ∈ (answeredArea oa d r links).lsdb := (hmem _).mpr (.inl rfl)
  have hnet := (hmem _).mpr (.inr (.inl rfl))
  have hone : ∀ e ∈ [(⟨transitNetwork, 1, 1, d.neighborInterfaceId, d.neighborRouterId⟩ : RouterLsdesc)], e.Valid := by
    simpa using valid_of_type (.inr rfl) _ _ _
  have hfar : farEnd d = (d.neighborRouterId, d.neighborInterfaceId) := by
    rw [farEnd, if_neg (by rw [hd]; decide)]
  have hends : ∀ e : RouterLsdesc, e.type = transitNetwork → e.neighborInterfaceId = d.neighborInterfaceId →
      e.neighborRouterId = d.neighborRouterId → e.SameEnds d := fun e htype hnbrIfid hnbr =>
    ⟨htype.trans hd.symm, hnbr, hnbrIfid, fun hptp => absurd (htype.symm.trans hptp) (by decide)⟩
  refine ⟨?_, ?_, fun hlink => ?_, fun hlink => ?_, fun hr => ?_, answered_network_lsdbOk hd hid,
    ⟨nofun, nofun, fun u hu p hp => ?_⟩, ?_⟩
  · rintro ⟨y, u, p, w, hu, hx, hp, hconf, -⟩
    rcases (hmem u).mp hu.1 with rfl | rfl | ⟨hr, rfl⟩
    · rcases (hmem w).mp hconf.isVertex.1 with rfl | rfl | ⟨hr, rfl⟩
      · obtain ⟨e, he, e', -, hmeets⟩ := meets_of_confirmed hvalid hvalid hp hconf
        exact absurd hmeets (not_meets_self hproper he)
      · obtain ⟨e, he, htype, hnbrIfid, hnbr⟩ := transit_of_confirmed hvalid hp hconf
        exact ⟨e, he, hends e htype hnbrIfid hnbr⟩
      · obtain ⟨e, -, e', he', hmeets⟩ := meets_of_confirmed hvalid hone hp hconf
        rw [mem_singleton.mp he'] at hmeets
        exact absurd hmeets not_meets_network.1
    · exact absurd (Prod.mk.inj hx).2 hid
    · exact absurd (Prod.mk.inj hx).1 hr
  · rintro ⟨y, u, p, w, hu, -, hp, hconf, hy⟩
    rcases (hmem w).mp hconf.isVertex.1 with rfl | rfl | ⟨hr, rfl⟩
    · rcases (hmem u).mp hu.1 with rfl | rfl | ⟨hr, rfl⟩
      · obtain ⟨e, he, e', -, hmeets⟩ := meets_of_confirmed hvalid hvalid hp hconf
        exact absurd hmeets (not_meets_self hproper he)
      · obtain ⟨e, he, htype, hnbrIfid, hnbr⟩ := transit_of_confirmed_network hvalid hconf
        exact ⟨e, he, hends e htype hnbrIfid hnbr⟩
      · obtain ⟨e, he, e', -, hmeets⟩ := meets_of_confirmed hone hvalid hp hconf
        rw [mem_singleton.mp he] at hmeets
        exact absurd hmeets not_meets_network.2
    · exact absurd (Prod.mk.inj hy).2 hid
    · exact absurd (Prod.mk.inj hy).1 hr
  · rw [hfar]
    exact linked_network hvalid hself hnet hlink hd rfl rfl mem_cons_self
  · rw [hfar]
    exact network_linked hvalid hself hnet hlink hd rfl rfl mem_cons_self
  · rw [hfar]
    exact .single (linked_network hone ((hmem _).mpr (.inr (.inr ⟨hr, rfl⟩))) hnet (mem_singleton_self _) rfl rfl rfl
      (by simp [hr]))
  · rcases (hmem u).mp hu.1 with rfl | rfl | ⟨-, rfl⟩
    · exact lsdescIfid_ne_zero hvalid (fun e he => (hproper.ids e he).1) hp
    · exact absurd hu.2.1 nofun
    · exact lsdescIfid_ne_zero hone (by simp) hp
  · by_cases hr : r = oa.routerId
    · exact ⟨_, hself, rfl, rfl, hr.symm, rfl⟩
    · exact ⟨_, live_lsaOf ((hmem _).mpr (.inr (.inr ⟨hr, rfl⟩)))⟩

end transitNetwork

/-- A link of the only LSA is used by every router. -/
lemma usedBy_single (hlink : d ∈ links) (r : UInt32) : UsedBy oa [links] d r := by
  have hrest : oa.ProperLinks (links.filter (· ≠ d)) :=
    ⟨hproper.nodup.filter _, fun a ha b hb => hproper.ends a (mem_of_mem_filter ha) b (mem_of_mem_filter hb),
      fun a ha => hproper.ids a (mem_of_mem_filter ha), fun a ha => hproper.neighbor a (mem_of_mem_filter ha)⟩
  have hanswered : ∀ l, oa.ProperLinks l → (∀ e ∈ l, e.Valid) → Answered oa d r l := by
    intro l hl hv
    rcases (hvalid d hlink).1 with hd | hd
    · exact answered_pointToPoint hl hv hd (hproper.neighbor d hlink hd) (hproper.ids d hlink).2
    · exact answered_transitNetwork hl hv hd (hproper.ids d hlink).2
  have hwith := hanswered links hproper hvalid
  have hwithout := hanswered _ hrest fun e he => hvalid e (mem_of_mem_filter he)
  have hgone : ¬∃ e ∈ links.filter (· ≠ d), e.SameEnds d := by
    rintro ⟨e, he, hends⟩
    obtain ⟨hmem, hne⟩ := mem_filter.mp he
    exact of_decide_eq_true hne (hproper.ends e hmem d hlink hends)
  refine ⟨⟨r + 1, true, answers oa d r, [], []⟩, fun heq => ?_⟩
  obtain ⟨t, ht, hreach⟩ := hwith.table
  obtain ⟨t', ht', hreach'⟩ := hwithout.table
  have htables : t = t' := some.inj (ht.symm.trans (heq.trans ht'))
  subst htables
  have hsame := fun x => (hreach x).symm.trans (hreach' x)
  by_cases hr : r = oa.routerId
  · have hfar : farEnd d ≠ (oa.routerId, 0) := by
      intro hfar
      obtain ⟨hnbr, hid⟩ := Prod.mk.inj hfar
      split_ifs at hid with htype
      · exact hproper.neighbor d hlink htype hnbr
      · exact (hproper.ids d hlink).2 hid
    have hpath := (hsame (farEnd d)).mp (.single (by rw [hr]; exact hr ▸ hwith.far hlink))
    rcases hpath.cases_head with hsource | ⟨y, hy, -⟩
    · exact hfar (hsource.symm.trans (by rw [hr]))
    · exact hgone (hwithout.out_iff ⟨y, by rw [hr] at hy; exact hr ▸ hy⟩)
  · have hpath := (hsame (oa.routerId, 0)).mp ((hwith.way hr).tail (hwith.back hlink))
    rcases hpath.cases_tail with hsource | ⟨y, -, hy⟩
    · exact hr (Prod.mk.inj hsource).1.symm
    · exact hgone (hwithout.in_iff ⟨y, hy⟩)

end answered

/-! ### Only the first LSA is looked up -/

section lookups

variable {oa : LsdescArea} {f f' : List (List RouterLsdesc)} {rest : List SpfLsa}

lemma mem_routerLsas {l : SpfLsa} (h : l ∈ oa.routerLsas f) : l.type = .router ∧ l.advRouter = oa.routerId := by
  obtain ⟨i, hi, rfl⟩ := mem_mapIdx.mp h
  exact ⟨rfl, rfl⟩

lemma lookup_routerLsas {type : VertexType} {id adv : UInt32} (h : type = .router → adv ≠ oa.routerId) :
    ospf6SpfLsdbLookup (oa.routerLsas f ++ rest) type id adv = ospf6SpfLsdbLookup rest type id adv := by
  unfold ospf6SpfLsdbLookup
  rw [find?_append, List.find?_eq_none.mpr, none_or]
  intro l hl hmatch
  obtain ⟨htype, -, hadv⟩ := of_decide_eq_true hmatch
  exact h (htype.symm.trans (mem_routerLsas hl).1) (hadv.symm.trans (mem_routerLsas hl).2)

lemma sameLookups_head (a : List RouterLsdesc) :
    SameLookups (oa.routerLsas (a :: f) ++ rest) (oa.routerLsas (a :: f') ++ rest) := by
  constructor
  · intro adv
    by_cases hadv : adv = oa.routerId
    · have hfirst : ∀ f, ospf6SpfLsdbLookup (oa.routerLsas (a :: f) ++ rest) .router 0 adv = some (oa.routerLsa 0 a) := by
        intro f
        simp [ospf6SpfLsdbLookup, LsdescArea.routerLsas, LsdescArea.routerLsa, mapIdx_cons, hadv]
      rw [hfirst, hfirst]
    · rw [lookup_routerLsas fun _ => hadv, lookup_routerLsas fun _ => hadv]
  · intro id adv
    have hnetwork : VertexType.network = .router → adv ≠ oa.routerId := fun h => absurd h (by decide)
    rw [lookup_routerLsas hnetwork, lookup_routerLsas hnetwork]

lemma not_usedBy (a : List RouterLsdesc) {d : RouterLsdesc} (hd : d ∉ a) (r : UInt32) : ¬UsedBy oa (a :: f) d r := by
  rintro ⟨area, hne⟩
  have hfilter : a.filter (· ≠ d) = a := filter_eq_self.mpr fun e he => decide_eq_true fun heq => hd (heq ▸ he)
  apply hne
  rw [map_cons, hfilter]
  have hsame : SameLookups (oa.routerLsas (a :: f) ++ area.lsdb)
      (oa.routerLsas (a :: f.map (·.filter (· ≠ d))) ++ area.lsdb) := sameLookups_head a
  exact congrArg _ (@SameLookups.ospf6SpfCalculation { area with lsdb := _ } _ hsame r).symm

end lookups

def twoLinks (routerLsaSizeLimit : UInt32) : LsdescArea where
  routerId := 1
  abr := false
  asbr := false
  routerLsaSizeLimit := routerLsaSizeLimit
  ifList := [⟨1, .pointToPoint, .pointToPoint, .fullyConnected, 10, 0, [⟨2, 1, .full, false, 10⟩]⟩,
    ⟨2, .pointToPoint, .pointToPoint, .fullyConnected, 10, 0, [⟨3, 1, .full, false, 10⟩]⟩]

def neighborLsas : List SpfLsa :=
  [Ospf6.routerLsa 2 (pointToPointDesc 10 1 1 1), Ospf6.routerLsa 3 (pointToPointDesc 10 1 2 1)]

def twoLinksArea (lsas : List SpfLsa) : SpfArea where
  routerId := 1
  ipv6 := true
  lsdb := lsas ++ neighborLsas
  ifList := [upInterface 1 .pointToPoint [], upInterface 2 .pointToPoint []]
  interfaces := [upInterface 1 .pointToPoint [], upInterface 2 .pointToPoint []]

end OspfMdr.Ospf6
