import OspfMdr.Proofs.SpfFirstHop

namespace OspfMdr.Ospf6

open Lib List Option
open Function (update update_self update_of_ne)

variable {area : SpfArea} {routerId : UInt32}

/-- How many link descriptions are left to read. -/
def remaining (area : SpfArea) (settled : VertexId → Option Vertex) : Nat :=
  (area.lsdb.map fun l => if (settled l.vertexId).isSome then 0 else l.lsdescs.length).sum

lemma sum_map_add_le {α : Type} {f g : α → Nat} {l : List α} {a : α} {d : Nat} (ha : a ∈ l)
    (hle : ∀ b ∈ l, f b ≤ g b) (hd : f a + d ≤ g a) : (l.map f).sum + d ≤ (l.map g).sum := by
  obtain ⟨l1, l2, rfl⟩ := append_of_mem ha
  have h₁ := sum_le_sum fun b (hb : b ∈ l1) => hle b (by simp [hb])
  have h₂ := sum_le_sum fun b (hb : b ∈ l2) => hle b (by simp [hb])
  simp only [map_append, map_cons, sum_append, sum_cons]
  omega

lemma remaining_update {settled : VertexId → Option Vertex} {u : SpfLsa} (hu : u ∈ area.lsdb)
    (hx : settled u.vertexId = none) (l : Vertex) :
    remaining area (update settled u.vertexId (some l)) + u.lsdescs.length ≤ remaining area settled := by
  apply sum_map_add_le hu
  · intro b _
    by_cases hb : b.vertexId = u.vertexId
    · simp [hb]
    · rw [update_of_ne hb]
  · simp [hx]

/-- The invariant of the search, with that of the next hops. -/
structure SpfOk (area : SpfArea) (routerId : UInt32) (st : SpfState)
    (settled : VertexId → Option Vertex) : Prop where
  inv : SpfInv area routerId st settled
  nexthop : NexthopInv area routerId st settled

variable {x : VertexId} {v : Nat} {route : SpfRoute} {q : Pqueue Nat}

section step

variable {st : SpfState} {settled : VertexId → Option Vertex}

lemma SpfState.route_eq_some {r : SpfRoute} (h : st.route x = some r) :
    r ∈ st.routes ∧ r.vertexId = x := by
  exact ⟨mem_of_find?_eq_some h, by simpa using List.find?_some h⟩

lemma SpfInv.route_eq_none_iff (h : SpfInv area routerId st settled) :
    st.route x = none ↔ settled x = none := by
  unfold SpfState.route
  rw [List.find?_eq_none]
  constructor
  · intro hnone
    cases hx : settled x with
    | none => rfl
    | some l =>
      obtain ⟨r, hr, hid⟩ := h.settled_route x l hx
      exact absurd (decide_eq_true hid) (hnone r hr)
  · intro hx r hr hid
    obtain ⟨l, hl, -⟩ := h.route_settled r hr
    rw [of_decide_eq_true hid, hx] at hl
    cases hl

/-- The route that is installed for a vertex. -/
def installedRoute (area : SpfArea) (routerId : UInt32) (v : Nat) (l : Vertex) : SpfRoute where
  vertexId := l.lsa.vertexId
  cost := l.cost
  hops := l.hops
  options := l.lsa.options
  nexthop := nexthopArray (if routerId = area.routerId then setNexthops l.nexthop else [])
  vertex := v

lemma ospf6SpfInstall_new (area : SpfArea) (routerId : UInt32) (st : SpfState)
    (hr : st.route (st.vertices v).lsa.vertexId = none) :
    ospf6SpfInstall area (area.isRoot routerId) st v =
        some ({ st with routes := st.routes ++ [installedRoute area routerId v (st.vertices v)] }, true) ∨
      ospf6SpfInstall area (area.isRoot routerId) st v = none ∧
        routerId = area.routerId ∧ ¬HeadSet (st.vertices v).nexthop ∧
        (st.vertices v).lsa.advRouter ≠ area.routerId := by
  unfold ospf6SpfInstall installedRoute
  by_cases hroot : routerId = area.routerId
  · by_cases hno : setNexthops (st.vertices v).nexthop = [] ∧
        (st.vertices v).lsa.advRouter ≠ area.routerId
    · refine .inr ⟨by simp [hr, hroot, hno], hroot, ?_, hno.2⟩
      rw [headSet_iff]
      exact not_not.mpr hno.1
    · exact .inl (by simp [hr, hroot, hno])
  · exact .inl (by simp [hr, hroot])

lemma ospf6SpfInstall_known (area : SpfArea) (routerIsRoot : Bool) (st : SpfState)
    (hr : st.route (st.vertices v).lsa.vertexId = some route)
    (hle : route.cost < (st.vertices v).cost ∨
      route.cost = (st.vertices v).cost ∧ (st.vertices route.vertex).hops ≤ (st.vertices v).hops) :
    ∃ st', ospf6SpfInstall area routerIsRoot st v = some (st', false) ∧
      (st' = ospf6VertexDelete st v ∨
        route.cost = (st.vertices v).cost ∧ st' = ospf6VertexDelete (mergePath st v route) v) :=
    by
  unfold ospf6SpfInstall
  rcases hle with hlt | ⟨heq, hhops⟩
  · exact ⟨_, by simp [hr, hlt], .inl rfl⟩
  · cases routerIsRoot
    · exact ⟨_, by simp [hr, heq, hhops], .inl rfl⟩
    · exact ⟨_, by simp [hr, heq, hhops], .inr ⟨heq, rfl⟩⟩

lemma SpfOk.skip (h : SpfOk area routerId st settled) (hcand : st.candidates = v ::ₘ q.contents)
    (hq : QueueOk { st with candidateList := q })
    (hroute : st.route (st.vertices v).lsa.vertexId = some route) :
    ∃ st', ospf6SpfInstall area (area.isRoot routerId) { st with candidateList := q } v =
        some (st', false) ∧ SpfOk area routerId st' settled ∧ st'.candidateList = q := by
  obtain ⟨hmem, hid⟩ := SpfState.route_eq_some hroute
  obtain ⟨l, hl, hcost, -, -, hhops, -⟩ := h.inv.route_settled route hmem
  rw [hid] at hl
  have hle : l.length ≤ (st.vertices v).length :=
    h.inv.dijkstra.settled_le _ l hl _ (SpfInv.mem_frontier hcand)
  have hle' := vertex_length_le hle
  rw [← hcost, ← hhops] at hle'
  obtain ⟨hdelete, hmerge⟩ := h.nexthop.skip h.inv hcand hq hmem
  obtain ⟨st', hinstall, rfl | ⟨heq, rfl⟩⟩ := ospf6SpfInstall_known area
    (area.isRoot routerId) { st with candidateList := q } hroute hle'
  · have hcore := ospf6VertexDelete_sameCore { st with candidateList := q } v
    exact ⟨_, hinstall, ⟨h.inv.skip hcand hq hl hcore, hdelete⟩, hcore.candidateList⟩
  · have hcore := (mergePath_sameCore { st with candidateList := q } v route).trans
      (ospf6VertexDelete_sameCore _ v)
    exact ⟨_, hinstall, ⟨h.inv.skip hcand hq hl hcore, hmerge heq⟩, hcore.candidateList⟩

lemma SpfOk.settle (h : SpfOk area routerId st settled) (hok : area.LsdbOk) (hb : area.Bounded routerId)
    (hcand : st.candidates = v ::ₘ q.contents) (hq : QueueOk { st with candidateList := q })
    (hmin : ∀ w ∈ st.candidates, st.length v ≤ st.length w)
    (hx : settled (st.vertices v).lsa.vertexId = none) :
    let st' := expandVertex area (area.isRoot routerId) { st with
      candidateList := q, routes := st.routes ++ [installedRoute area routerId v (st.vertices v)] } v
    SpfOk area routerId st'
      (update settled (st.vertices v).lsa.vertexId (some (st.vertices v))) ∧
      st'.candidateList.size ≤ q.size + (st.vertices v).lsa.lsdescs.length := by
  intro st'
  have hvmem : v ∈ st.candidates := hcand ▸ Multiset.mem_cons_self v _
  have hvlt := h.inv.queue.lt_created v hvmem
  have hv0 : v ≠ 0 := fun h0 => h.inv.root_not_mem (h0 ▸ hvmem)
  have hq' : QueueOk { st with
      candidateList := q, routes := st.routes ++ [installedRoute area routerId v (st.vertices v)] } :=
    ⟨hq.ordered, hq.nodup, hq.lt_created⟩
  have henq : Enqueued { st with
      candidateList := q, routes := st.routes ++ [installedRoute area routerId v (st.vertices v)] }
      (spfCandidates area routerId v (st.vertices v)) st' := by
    change Enqueued _ _ (expandVertex _ _ _ _)
    rw [expandVertex_eq]
    exact foldl_enqueueVertex hq' _
  have hinstalled := h.nexthop.install hcand hvlt (fun h0 => absurd h0 hv0)
    (r := installedRoute area routerId v (st.vertices v)) rfl rfl rfl
  refine ⟨⟨h.inv.settle hok hb hcand hq hmin hx ⟨rfl, rfl, rfl, rfl⟩ henq, ?_⟩, ?_⟩
  · refine hinstalled.enqueue hq' h.inv.created_pos henq fun c hc => ?_
    obtain ⟨p, hp, hc⟩ := mem_filterMap.mp hc
    obtain ⟨w, hcand⟩ := spfCandidate_sound hok (h.inv.candidate v hvmem).1 (h.inv.fits hb hvmem hx) hp hc
    exact hcand.nexthopOk hinstalled rfl hvlt hv0 (update_self ..) (h.inv.ne_root hx) (h.inv.candidate v hvmem).2
  · rw [henq.size]
    exact Nat.add_le_add_left (length_filterMap_le _ _) _

lemma spfStep_spec (hok : area.LsdbOk) (hb : area.Bounded routerId) (h : SpfOk area routerId st settled)
    (hsize : 0 < st.candidateList.size) :
    (∀ st', spfStep area (area.isRoot routerId) st = some st' →
        ∃ settled', SpfOk area routerId st' settled' ∧
          st'.candidateList.size + remaining area settled' < st.candidateList.size + remaining area settled) ∧
    (IfindexesSet area routerId → (spfStep area (area.isRoot routerId) st).isSome) := by
  rcases heq : pqueueDequeue (ospf6VertexCmp st.vertices) st.candidateList with ⟨v, q⟩
  obtain ⟨hq, hcand, hqsize, hmin⟩ := dequeue_spec h.inv.queue hsize heq
  have hvmem : v ∈ st.candidates := hcand ▸ Multiset.mem_cons_self v _
  have hv0 : v ≠ 0 := fun h0 => h.inv.root_not_mem (h0 ▸ hvmem)
  unfold spfStep
  rw [heq]
  dsimp only
  cases hroute : st.route (st.vertices v).lsa.vertexId with
  | some route =>
    obtain ⟨st', hinstall, hok', hlist⟩ := h.skip hcand hq hroute
    rw [hinstall]
    refine ⟨fun st'' hst'' => ⟨settled, ?_, ?_⟩, fun _ => rfl⟩
    · rw [← some.inj hst'']
      exact hok'
    · rw [← some.inj hst'', hlist]
      omega
  | none =>
    have hx := h.inv.route_eq_none_iff.mp hroute
    rcases ospf6SpfInstall_new area routerId { st with candidateList := q } hroute with
      hinstall | ⟨hinstall, hr, hset, -⟩
    · obtain ⟨hok', hlist⟩ := h.settle hok hb hcand hq hmin hx
      rw [hinstall]
      simp only [hv0, false_and, if_false, some.injEq, isSome_some, implies_true, and_true]
      rintro st' rfl
      have hremaining := remaining_update (h.inv.candidate v hvmem).1.1 hx (st.vertices v)
      refine ⟨_, hok', ?_⟩
      omega
    · rw [hinstall]
      refine ⟨fun st' hst' => absurd hst' (by simp), fun hi => ?_⟩
      exact absurd (h.nexthop.set hr hi v hv0 (h.inv.queue.lt_created v hvmem)) hset

lemma spfLoop_spec (hok : area.LsdbOk) (hb : area.Bounded routerId) (fuel : Nat) : ∀ (st : SpfState)
    (settled : VertexId → Option Vertex), SpfOk area routerId st settled → st.candidateList.size +
    remaining area settled ≤ fuel → (∀ st', spfLoop area (area.isRoot routerId) fuel st = some st' →
      st'.candidateList.size = 0 ∧ ∃ settled', SpfOk area routerId st' settled') ∧
    (IfindexesSet area routerId → (spfLoop area (area.isRoot routerId) fuel st).isSome) := by
  induction fuel with
  | zero =>
    intro st settled h hfuel
    refine ⟨fun st' hst' => ?_, fun _ => rfl⟩
    rw [← some.inj hst']
    exact ⟨by omega, settled, h⟩
  | succ fuel ih =>
    intro st settled h hfuel
    unfold spfLoop
    by_cases hsize : st.candidateList.size = 0
    · simp only [hsize, if_true, some.injEq, isSome_some, implies_true, and_true]
      rintro st' rfl
      exact ⟨hsize, settled, h⟩
    obtain ⟨hsome, hset⟩ := spfStep_spec hok hb h (pos_of_ne_zero hsize)
    simp only [hsize, if_false]
    cases hstep : spfStep area (area.isRoot routerId) st with
    | none =>
      rw [hstep] at hset
      exact ⟨fun st' hst' => absurd hst' (by simp), fun hi => by simpa using hset hi⟩
    | some st1 =>
      obtain ⟨settled1, h₁, hlt⟩ := hsome st1 hstep
      exact ih st1 settled1 h₁ (by omega)

end step

section root

variable {lsa : SpfLsa} {st : SpfState}

lemma vertexId_of_live (hlive : area.Live .router 0 routerId lsa) : lsa.vertexId = (routerId, 0) :=
  Prod.ext hlive.2.2.2.1 hlive.2.2.1

lemma isVertex_of_live (hlive : area.Live .router 0 routerId lsa) : area.IsVertex lsa :=
  ⟨hlive.1, hlive.2.2.2.2, fun _ => hlive.2.2.1⟩

lemma spfInit_queue : QueueOk spfInit := by
  have hnil : spfInit.candidates = 0 := rfl
  refine ⟨fun i _ hi => absurd hi (Nat.not_lt_zero i), ?_, ?_⟩
  · rw [hnil]
    exact Multiset.nodup_zero
  · rw [hnil]
    exact fun v hv => absurd hv (Multiset.notMem_zero v)

def startNeighbors (area : SpfArea) (routerId : UInt32) : List Vertex :=
  if routerId = area.routerId then rootNeighbors area else []

section
variable (hok : area.LsdbOk)
include hok

lemma startNeighbors_vertex : ∀ c ∈ startNeighbors area routerId, c.hops = 1 ∧ area.IsVertex c.lsa := by
  intro c hc
  unfold startNeighbors at hc
  split_ifs at hc
  · obtain ⟨oi, -, -, -, on, -, -, l, hl, a, -, rfl⟩ := (mem_rootNeighbors hok).mp hc
    exact ⟨rfl, isVertex_of_live hl⟩
  · simp at hc

lemma startNeighbors_iff {y : VertexId} {k : PathLength} :
    (∃ c ∈ startNeighbors area routerId, c.lsa.vertexId = y ∧ c.length = k) ↔
      routerId = area.routerId ∧ ∃ c i, RootNeighbor area y c i ∧ k = toLex (c, 1) := by
  unfold startNeighbors
  split_ifs with hr
  · constructor
    · rintro ⟨c, hc, rfl, rfl⟩
      obtain ⟨oi, hoi, hdown, hdirect, on, hon, hfull, l, hl, a, ha, rfl⟩ := (mem_rootNeighbors hok).mp hc
      refine ⟨hr, on.cost.toNat, oi.ifindex, ⟨oi, hoi, hdown, hdirect, on, hon, hfull, ⟨l, hl⟩, ?_, ?_,
        rfl, rfl⟩, rfl⟩
      · rw [ha]
        rfl
      · exact vertexId_of_live hl
    · rintro ⟨-, c, i, ⟨oi, hoi, hdown, hdirect, on, hon, hfull, ⟨l, hl⟩, ha, rfl, rfl, rfl⟩, rfl⟩
      obtain ⟨a, ha⟩ := isSome_iff_exists.mp ha
      exact ⟨_, (mem_rootNeighbors hok).mpr ⟨oi, hoi, hdown, hdirect, on, hon, hfull, l, hl, a, ha, rfl⟩,
        vertexId_of_live hl, rfl⟩
  · simp [hr]

lemma startNeighbors_nexthopOk (hpos : 0 < st.created)
    (hcost : (st.vertices 0).cost = 0) :
    ∀ c ∈ startNeighbors area routerId, NexthopOk area routerId st c := by
  intro c hc
  unfold startNeighbors at hc
  split_ifs at hc with hr
  · obtain ⟨oi, hoi, hdown, hdirect, on, hon, hfull, l, hl, a, ha, rfl⟩ := (mem_rootNeighbors hok).mp hc
    have hroot : RootIf area routerId l.vertexId on.cost.toNat oi.ifindex :=
      .inl ⟨oi, hoi, hdown, hdirect, on, hon, hfull, ⟨l, hl⟩, by rw [ha]; rfl,
        vertexId_of_live hl, rfl, rfl⟩
    have hall : NexthopsIn (RootIf area routerId l.vertexId on.cost.toNat)
        (nexthopArray [⟨oi.ifindex, a⟩]) := by
      refine NexthopsIn.nexthopArray fun n hn _ => ?_
      rw [mem_singleton.mp hn]
      exact hroot
    refine ⟨fun h0 => ?_, fun _ _ => ⟨⟨_, hroot⟩, hall.mono fun i hi => .inl hi, .inl hroot⟩,
      fun u hu => ?_, fun _ hi => ?_⟩
    · have h0' : on.cost = 0 := h0
      rw [h0'] at hall
      exact hall.mono fun i hi => ⟨_, hi⟩
    · rw [← some.inj hu, hcost]
      exact ⟨hpos, UInt32.zero_le, fun _ => rfl⟩
    · exact headSet_of_ifindex (hi.ifList oi hoi)
  · simp at hc

end

/-- The state in which the main loop starts. -/
structure Started (area : SpfArea) (routerId : UInt32) (lsa : SpfLsa) (st : SpfState) : Prop where
  queue : QueueOk st
  root : st.vertices 0 = rootVertex lsa
  created_pos : 0 < st.created
  mem_iff : ∀ v, v ∈ st.candidates ↔ v < st.created
  routes : st.routes = []
  size : st.candidateList.size = 1 + (startNeighbors area routerId).length
  new_mem : ∀ v, v ≠ 0 → v < st.created → st.vertices v ∈ startNeighbors area routerId
  new_exists : ∀ c ∈ startNeighbors area routerId, ∃ v, v ≠ 0 ∧ v < st.created ∧ st.vertices v = c
  nexthop : NexthopInv area routerId st fun _ => none

lemma enqueueVertex_rootVertex (lsa : SpfLsa) :
    (enqueueVertex spfInit (rootVertex lsa)).vertices 0 = rootVertex lsa := by
  change update (fun _ => emptyVertex) 0 (rootVertex lsa) 0 = rootVertex lsa
  rw [update_self]

lemma rootVertex_nexthopInv (lsa : SpfLsa) :
    NexthopInv area routerId (enqueueVertex spfInit (rootVertex lsa)) fun _ => none := by
  have hvertex : ∀ v, v < (enqueueVertex spfInit (rootVertex lsa)).created →
      v = 0 ∧ (enqueueVertex spfInit (rootVertex lsa)).vertices v = rootVertex lsa := by
    intro v hv
    have hv0 : v = 0 := Nat.lt_one_iff.mp hv
    subst hv0
    exact ⟨rfl, enqueueVertex_rootVertex lsa⟩
  have hin : ∀ S, NexthopsIn S (rootVertex lsa).nexthop := fun S =>
    NexthopsIn.nexthopArray fun n hn => absurd hn not_mem_nil
  refine ⟨fun v hv _ => ?_, fun r hr => absurd hr not_mem_nil, fun _ v hv hne => ?_,
    fun w hw u hu => ?_, ?_, fun _ _ v hne hv => absurd (hvertex v hv).1 hne,
    fun _ _ r hr => absurd hr not_mem_nil, fun _ x l hl => by cases hl⟩
  · rw [(hvertex v hv).2]
    exact hin _
  · have hlt := (enqueueVertex_enqueued spfInit_queue (rootVertex lsa)).queue.lt_created v hv
    exact absurd (hvertex v hlt).1 hne
  · rw [(hvertex w hw).2] at hu
    cases hu
  · rw [(hvertex 0 zero_lt_one).2]
    rfl

lemma spfStart_started (hok : area.LsdbOk) (lsa : SpfLsa) :
    Started area routerId lsa (spfStart area (area.isRoot routerId) lsa) := by
  have hroot := enqueueVertex_enqueued spfInit_queue (rootVertex lsa)
  have hvertex := enqueueVertex_rootVertex lsa
  have hcreated : (enqueueVertex spfInit (rootVertex lsa)).created = 1 := rfl
  have hstart : spfStart area (area.isRoot routerId) lsa =
      (startNeighbors area routerId).foldl enqueueVertex (enqueueVertex spfInit (rootVertex lsa)) := by
    unfold spfStart startNeighbors
    simp only [decide_eq_true_eq]
  have henq := foldl_enqueueVertex hroot.queue (startNeighbors area routerId)
  rw [← hstart] at henq
  have hle := henq.le_created
  rw [hcreated] at hle
  refine ⟨henq.queue, ?_, hle, fun v => ?_, henq.routes, ?_, fun v hne hlt => ?_, fun c hc => ?_, ?_⟩
  · rw [henq.old 0 zero_lt_one, hvertex]
  · have hnil : v ∉ spfInit.candidates := Multiset.notMem_zero v
    rw [henq.mem_iff, hroot.mem_iff, or_iff_right hnil, hcreated]
    change (0 ≤ v ∧ v < 1) ∨ _ ↔ _
    omega
  · rw [henq.size, hroot.size]
    rfl
  · exact henq.new_mem v (Nat.one_le_iff_ne_zero.mpr hne) hlt
  · obtain ⟨v, h1, h2, rfl⟩ := henq.new_exists c hc
    exact ⟨v, Nat.one_le_iff_ne_zero.mp h1, h2, rfl⟩
  · refine (rootVertex_nexthopInv lsa).enqueue hroot.queue zero_lt_one henq ?_
    exact startNeighbors_nexthopOk hok zero_lt_one (by rw [hvertex]; rfl)

lemma Started.dequeue_root (hok : area.LsdbOk) (h : Started area routerId lsa st)
    (hv : v ∈ st.candidates) (hmin : ∀ w ∈ st.candidates, st.length v ≤ st.length w) : v = 0 := by
  by_contra hne
  have hle := hmin 0 ((h.mem_iff 0).mpr h.created_pos)
  unfold SpfState.length at hle
  have hhops := (startNeighbors_vertex hok _ (h.new_mem v hne ((h.mem_iff v).mp hv))).1
  rw [h.root] at hle
  rcases vertex_length_le hle with hlt | ⟨-, hle⟩
  · exact absurd hlt (UInt32.not_lt.mpr UInt32.zero_le)
  · rw [hhops] at hle
    change (1 : UInt8) ≤ 0 at hle
    exact absurd hle (by decide)

/-- The vertices that the root's own links add. -/
def rootCandidates (area : SpfArea) (routerId : UInt32) (lsa : SpfLsa) : List Vertex :=
  if routerId = area.routerId ∧ allRootNeighborsAdded area = true then []
  else spfCandidates area routerId 0 (rootVertex lsa)

lemma spfStep_root (hok : area.LsdbOk) (h : Started area routerId lsa st)
    (hlive : area.Live .router 0 routerId lsa) :
    ∃ q st', st.candidates = 0 ::ₘ q.contents ∧ QueueOk { st with candidateList := q } ∧
      q.size = (startNeighbors area routerId).length ∧
      spfStep area (area.isRoot routerId) st = some st' ∧
      Enqueued { st with
          candidateList := q, routes := [installedRoute area routerId 0 (rootVertex lsa)] }
        (rootCandidates area routerId lsa) st' := by
  rcases heq : pqueueDequeue (ospf6VertexCmp st.vertices) st.candidateList with ⟨v, q⟩
  obtain ⟨hq, hcand, hqsize, hmin⟩ := dequeue_spec h.queue (by rw [h.size]; omega) heq
  have hv0 := h.dequeue_root hok (hcand ▸ Multiset.mem_cons_self v _) hmin
  subst hv0
  have hq' : QueueOk { st with
      candidateList := q, routes := [installedRoute area routerId 0 (rootVertex lsa)] } :=
    ⟨hq.ordered, hq.nodup, hq.lt_created⟩
  have hinstall : ospf6SpfInstall area (area.isRoot routerId) { st with candidateList := q } 0 =
      some ({ st with
        candidateList := q, routes := [installedRoute area routerId 0 (rootVertex lsa)] }, true) := by
    have hroute : ({ st with candidateList := q } : SpfState).route
        (st.vertices 0).lsa.vertexId = none := by
      rw [h.routes]
      rfl
    rcases ospf6SpfInstall_new area routerId { st with candidateList := q } hroute with
      hinstall | ⟨-, hr, -, hadv⟩
    · rw [hinstall]
      rw [h.routes, h.root, nil_append]
    · rw [h.root] at hadv
      exact absurd (hlive.2.2.2.1.trans hr) hadv
  have hsize : q.size = (startNeighbors area routerId).length := by
    have := h.size
    omega
  unfold spfStep rootCandidates
  rw [heq]
  dsimp only
  rw [hinstall]
  simp only [true_and, decide_eq_true_eq]
  split_ifs with hadded
  · exact ⟨q, _, hcand, hq, hsize, rfl, enqueued_nil hq'⟩
  refine ⟨q, _, hcand, hq, hsize, rfl, ?_⟩
  rw [expandVertex_eq]
  rw [h.root]
  exact foldl_enqueueVertex hq' _

lemma rootVertex_fits (hb : area.Bounded routerId) (hlive : area.Live .router 0 routerId lsa)
    (hr : ¬RootReplaced area routerId (routerId, 0)) : ∀ p ∈ (rootVertex lsa).lsa.lsdescs, ∀ w,
    Confirmed area (rootVertex lsa).lsa p w → Fits (rootVertex lsa) p w := by
  intro p hp w hconf
  have h := hb _ _ _ w.vertexId (linkLength lsa p w) .nil (by simp) (.inr ⟨hr, lsa, p, w,
    isVertex_of_live hlive, vertexId_of_live hlive, hp, hconf, rfl, rfl, trivial⟩)
  rw [zero_add] at h
  change 0 + _ < _ ∧ 0 + _ < _
  rw [zero_add, zero_add]
  exact h

section
variable (hok : area.LsdbOk) (hb : area.Bounded routerId) (hlive : area.Live .router 0 routerId lsa)
include hok hb hlive

lemma rootCandidates_sound {c : Vertex} (hc : c ∈ rootCandidates area routerId lsa) :
    ¬RootReplaced area routerId (routerId, 0) ∧ ∃ p w, CandidateFor area routerId 0 (rootVertex lsa) p w c := by
  unfold rootCandidates at hc
  split_ifs at hc with hadded
  · simp at hc
  · have hr : ¬RootReplaced area routerId (routerId, 0) := fun hr => hadded hr.2
    obtain ⟨p, hp, hc⟩ := mem_filterMap.mp hc
    exact ⟨hr, p, spfCandidate_sound hok (isVertex_of_live hlive) (rootVertex_fits hb hlive hr) hp hc⟩

lemma rootCandidates_complete (hr : ¬RootReplaced area routerId (routerId, 0)) {p : Nat}
    (hp : p ∈ lsa.lsdescs) {w : SpfLsa} (hconf : Confirmed area lsa p w)
    (hfirst : routerId = area.routerId → w.type = .router →
      (ospf6NexthopCalc area (rootVertex lsa) p).isSome) :
    ∃ c ∈ rootCandidates area routerId lsa, CandidateFor area routerId 0 (rootVertex lsa) p w c :=
    by
  obtain ⟨c, hc, hcand⟩ := spfCandidate_complete hok (v := 0) (l := rootVertex lsa)
    (isVertex_of_live hlive) (rootVertex_fits hb hlive hr) hp hconf fun h _ => hfirst h
  refine ⟨c, ?_, hcand⟩
  unfold rootCandidates
  rw [if_neg fun hadded => hr ⟨rfl, hadded⟩]
  exact mem_filterMap.mpr ⟨p, hp, hc⟩

lemma spfOk_root {st st' : SpfState} (h : Started area routerId lsa st)
    (hcand : st.candidates = 0 ::ₘ q.contents) (hq : QueueOk { st with candidateList := q }) (henq : Enqueued { st with
        candidateList := q, routes := [installedRoute area routerId 0 (rootVertex lsa)] }
      (rootCandidates area routerId lsa) st') :
    SpfOk area routerId st'
      (update (fun _ => none) (routerId, 0) (some (rootVertex lsa))) := by
  have hid := vertexId_of_live hlive
  have hle : st.created ≤ st'.created := henq.le_created
  have hroot0 : 0 ∉ q.contents := (Multiset.nodup_cons.mp (hcand ▸ h.queue.nodup)).1
  have hqmem : ∀ w, w ∈ q.contents ↔ w ≠ 0 ∧ w < st.created := by
    intro w
    rw [← h.mem_iff, hcand, Multiset.mem_cons]
    constructor
    · exact fun hw => ⟨fun h0 => hroot0 (h0 ▸ hw), .inr hw⟩
    · rintro ⟨hne, hw | hw⟩
      · exact absurd hw hne
      · exact hw
  have hmem : ∀ w, w ∈ st'.candidates ↔ w ∈ q.contents ∨ st.created ≤ w ∧ w < st'.created :=
    henq.mem_iff
  have hold : ∀ w, w < st.created → st'.vertices w = st.vertices w := henq.old
  have hnot : 0 ∉ st'.candidates := by
    have hpos := h.created_pos
    rw [hmem]
    rintro (hc | hc)
    · exact hroot0 hc
    · omega
  have hinstalled := h.nexthop.install hcand h.created_pos (fun _ => by rw [h.root]; exact hid)
    (r := installedRoute area routerId 0 (st.vertices 0)) rfl rfl rfl
  rw [h.routes, h.root] at hinstalled
  refine ⟨⟨henq.queue, lt_of_lt_of_le h.created_pos hle, hnot, fun r hr => ?_, fun r hr => ?_,
    fun x l hl => ?_, fun x l hl => ?_, fun w hw => ?_, ?_⟩, ?_⟩
  · rw [henq.routes] at hr
    rw [mem_singleton.mp hr]
    refine ⟨rootVertex lsa, ?_, rfl, rfl, ?_, ?_, lt_of_lt_of_le h.created_pos hle, hnot⟩
    · change update _ _ _ lsa.vertexId = _
      rw [hid, update_self]
    · change (st'.vertices 0).cost = _
      rw [hold 0 h.created_pos, h.root]
    · change (st'.vertices 0).hops = _
      rw [hold 0 h.created_pos, h.root]
  · rw [henq.routes] at hr
    rw [mem_singleton.mp hr]
    exact iff_of_true rfl hid
  · obtain ⟨rfl, -⟩ | ⟨-, ⟨⟩⟩ := update_eq_some hl
    rw [henq.routes]
    exact ⟨_, mem_singleton_self _, hid⟩
  · obtain ⟨rfl, ⟨⟩⟩ | ⟨-, ⟨⟩⟩ := update_eq_some hl
    exact ⟨isVertex_of_live hlive, hid, fun _ => iff_of_true rfl rfl⟩
  · rcases (hmem w).mp hw with hw | ⟨h1, h2⟩
    · obtain ⟨hne, hlt⟩ := (hqmem w).mp hw
      obtain ⟨hhops, hvertex⟩ := startNeighbors_vertex hok _ (h.new_mem w hne hlt)
      rw [hold w hlt]
      refine ⟨hvertex, fun _ => ?_⟩
      rw [hhops]
      decide
    · obtain ⟨-, p, u, hc⟩ := rootCandidates_sound hok hb hlive (henq.new_mem w h1 h2)
      rw [hc.lsa]
      exact ⟨hc.confirmed.isVertex, hc.hops_ne_zero⟩
  · refine DijkstraInv.init (fun _ _ _ k _ => pathLength_nonneg k) rfl (fun c hc => ?_) ?_
    · rcases (henq.mem_frontier hq.lt_created).mp hc with ⟨w, hw, rfl⟩ | ⟨d, hd, rfl⟩
      · obtain ⟨hne, hlt⟩ := (hqmem w).mp hw
        obtain ⟨hr, hnbr⟩ := (startNeighbors_iff hok).mp ⟨_, h.new_mem w hne hlt, rfl, rfl⟩
        exact .inl ⟨hr, rfl, hnbr⟩
      · obtain ⟨hr, p, w, hc⟩ := rootCandidates_sound hok hb hlive hd
        refine .inr ⟨hr, p, hc.mem, w, hc.confirmed, by rw [hc.lsa], ?_, hc.firstHop⟩
        rw [hc.length]
        exact zero_add _
    · rintro y k (⟨hr, -, hnbr⟩ | ⟨hr, p, hp, w, hconf, rfl, rfl, hfirst⟩)
      · obtain ⟨c, hc, rfl, rfl⟩ := (startNeighbors_iff hok).mpr ⟨hr, hnbr⟩
        obtain ⟨v, hne, hlt, rfl⟩ := h.new_exists c hc
        exact (henq.mem_frontier hq.lt_created).mpr (.inl ⟨v, (hqmem v).mpr ⟨hne, hlt⟩, rfl⟩)
      · obtain ⟨c, hc, hcand⟩ := rootCandidates_complete hok hb hlive hr hp hconf
          fun hroot => hfirst hroot rfl
        refine (henq.mem_frontier hq.lt_created).mpr (.inr ⟨c, hc, ?_⟩)
        rw [hcand.lsa, hcand.length]
        exact congrArg _ (zero_add _).symm
  · change NexthopInv area routerId _ (update _ lsa.vertexId _) at hinstalled
    rw [hid] at hinstalled
    refine hinstalled.enqueue ⟨hq.ordered, hq.nodup, hq.lt_created⟩ h.created_pos henq fun c hc => ?_
    obtain ⟨hr, p, w, hc⟩ := rootCandidates_sound hok hb hlive hc
    exact hc.nexthopOk_root h.root h.created_pos hlive rfl rfl hr

lemma ospf6SpfCalculation_ok : (∀ st, ospf6SpfCalculation area routerId = some st →
      st.candidateList.size = 0 ∧ ∃ settled, SpfOk area routerId st settled) ∧
    (IfindexesSet area routerId → (ospf6SpfCalculation area routerId).isSome) := by
  have hstart : Started area routerId lsa _ := spfStart_started hok lsa
  obtain ⟨q, st', hcand, hq, hqsize, hstep, henq⟩ := spfStep_root hok hstart hlive
  have hroot := spfOk_root hok hb hlive hstart hcand hq henq
  have hfuel : st'.candidateList.size + remaining area
      (update (fun _ => none) (routerId, 0) (some (rootVertex lsa))) ≤
        (rootNeighbors area).length + (area.lsdb.map fun l => l.lsdescs.length).sum := by
    have hremaining : remaining area _ + _ ≤ remaining area fun _ => none :=
      remaining_update hlive.1 rfl (rootVertex lsa)
    rw [vertexId_of_live hlive] at hremaining
    have htotal : remaining area (fun _ => none) = (area.lsdb.map fun l => l.lsdescs.length).sum := by
      simp [remaining]
    have hws : (rootCandidates area routerId lsa).length ≤ lsa.lsdescs.length := by
      unfold rootCandidates
      split_ifs
      · exact Nat.zero_le _
      · exact length_filterMap_le _ _
    have hns : (startNeighbors area routerId).length ≤ (rootNeighbors area).length := by
      unfold startNeighbors
      split_ifs
      · exact le_rfl
      · exact Nat.zero_le _
    have hsize : st'.candidateList.size = q.size + (rootCandidates area routerId lsa).length := henq.size
    omega
  have hcalc : ospf6SpfCalculation area routerId = spfLoop area (area.isRoot routerId)
      ((rootNeighbors area).length + (area.lsdb.map fun l => l.lsdescs.length).sum) st' := by
    have hsize : (spfStart area (area.isRoot routerId) lsa).candidateList.size ≠ 0 := by
      rw [hstart.size]
      omega
    have hfuel' : spfFuel area =
        (rootNeighbors area).length + (area.lsdb.map fun l => l.lsdescs.length).sum + 1 := by
      unfold spfFuel
      omega
    unfold ospf6SpfCalculation
    rw [(ospf6SpfLsdbLookup_eq_some_iff hok).mpr hlive]
    dsimp only
    rw [hfuel', spfLoop, if_neg hsize, hstep, bind_some]
  rw [hcalc]
  exact spfLoop_spec hok hb _ st' _ hroot hfuel

end

end root

end OspfMdr.Ospf6
