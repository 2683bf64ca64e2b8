import OspfMdr.Proofs.Spf

namespace OspfMdr.Ospf6
open List

/-- The lookups of the calculation have the same results in both databases. -/
structure SameLookups (lsdb lsdb' : List SpfLsa) : Prop where
  router : ∀ r, ospf6SpfLsdbLookup lsdb' .router 0 r = ospf6SpfLsdbLookup lsdb .router 0 r
  network : ∀ i r, ospf6SpfLsdbLookup lsdb' .network i r = ospf6SpfLsdbLookup lsdb .network i r

section lookups

variable {area : SpfArea} {lsdb' : List SpfLsa}

section
variable (h : SameLookups area.lsdb lsdb')
include h

lemma SameLookups.spfCandidate (b : Bool) (v : Nat) (l : Vertex) (p : Nat) :
    spfCandidate { area with lsdb := lsdb' } b v l p = spfCandidate area b v l p := by
  simp only [Ospf6.spfCandidate, ospf6LsdescLsa, h.router, h.network]
  rfl

lemma SameLookups.expandVertex (b : Bool) (st : SpfState) (v : Nat) :
    expandVertex { area with lsdb := lsdb' } b st v = expandVertex area b st v := by
  simp only [Ospf6.expandVertex, h.spfCandidate]

lemma SameLookups.spfStep (b : Bool) (st : SpfState) :
    spfStep { area with lsdb := lsdb' } b st = spfStep area b st := by
  simp only [Ospf6.spfStep, h.expandVertex]
  rfl

lemma SameLookups.spfLoop (b : Bool) (fuel : Nat) (st : SpfState) :
    spfLoop { area with lsdb := lsdb' } b fuel st = spfLoop area b fuel st := by
  induction fuel generalizing st with
  | zero => rfl
  | succ fuel ih =>
    have hrest : Ospf6.spfLoop { area with lsdb := lsdb' } b fuel = Ospf6.spfLoop area b fuel :=
      funext ih
    simp only [Ospf6.spfLoop, h.spfStep, hrest]

lemma SameLookups.rootNeighbors : rootNeighbors { area with lsdb := lsdb' } = rootNeighbors area := by
  have hcandidate : neighborCandidate { area with lsdb := lsdb' } = neighborCandidate area := by
    funext oi on
    simp only [neighborCandidate, h.router]
    rfl
  simp only [Ospf6.rootNeighbors, hcandidate]

lemma SameLookups.spfStart (b : Bool) (lsa : SpfLsa) :
    spfStart { area with lsdb := lsdb' } b lsa = spfStart area b lsa := by
  simp only [Ospf6.spfStart, h.rootNeighbors]

end

end lookups

variable {lsdb : List SpfLsa} {l : SpfLsa} {w : Vertex}

section turns

variable {area : SpfArea} {b : Bool} {st st' : SpfState}

lemma mem_of_spfLsdbLookup {type : VertexType} {id advRouter : UInt32}
    (h : ospf6SpfLsdbLookup lsdb type id advRouter = some l) : l ∈ lsdb :=
  mem_of_find?_eq_some (Option.filter_eq_some_iff.mp h).1

lemma mem_of_lsdescLsa {v : SpfLsa} {p : Nat} (h : ospf6LsdescLsa lsdb v p = some l) : l ∈ lsdb := by
  unfold ospf6LsdescLsa at h
  split at h
  · exact mem_of_spfLsdbLookup h
  · split_ifs at h
    all_goals exact mem_of_spfLsdbLookup h

lemma spfCandidate_lsa {v : Nat} {l : Vertex} {p : Nat} (h : spfCandidate area b v l p = some w) :
    w.lsa ∈ area.lsdb := by
  unfold spfCandidate at h
  split at h
  · exact absurd h (by simp)
  · next lsa hlsa =>
    split_ifs at h
    obtain ⟨nexthop, -, rfl⟩ := Option.map_eq_some_iff.mp h
    exact mem_of_lsdescLsa hlsa

lemma neighborCandidate_lsa {oi : SpfInterface} {on : SpfNeighbor}
    (h : neighborCandidate area oi on = some w) : w.lsa ∈ area.lsdb := by
  unfold neighborCandidate at h
  split_ifs at h
  obtain ⟨lsa, hlsa, h⟩ := Option.bind_eq_some_iff.mp h
  obtain ⟨address, -, h⟩ := Option.bind_eq_some_iff.mp h
  cases h
  exact mem_of_spfLsdbLookup hlsa

/-- What each turn of the main loop keeps. -/
structure TurnInv (area : SpfArea) (st : SpfState) : Prop where
  queue : QueueOk st
  mem : ∀ v ∈ st.candidates, (st.vertices v).lsa ∈ area.lsdb

lemma TurnInv.enqueue {ws : List Vertex} (h : TurnInv area st) (hws : ∀ w ∈ ws, w.lsa ∈ area.lsdb) :
    TurnInv area (ws.foldl enqueueVertex st) := by
  have hen := foldl_enqueueVertex h.queue ws
  refine ⟨hen.queue, fun v hv => ?_⟩
  rcases (hen.mem_iff v).mp hv with hold | ⟨hge, hlt⟩
  · rw [hen.old v (h.queue.lt_created v hold)]
    exact h.mem v hold
  · exact hws _ (hen.new_mem v hge hlt)

/-- How many link descriptions of vertices without a route there are. -/
def unread (lsdb : List SpfLsa) (st : SpfState) : Nat :=
  (lsdb.map fun l => if (st.route l.vertexId).isSome then 0 else l.lsdescs.length).sum

lemma unread_congr (h : st'.routes.map SpfRoute.vertexId = st.routes.map SpfRoute.vertexId) :
    unread lsdb st' = unread lsdb st := by
  have hroute : ∀ x, (st'.route x).isSome = (st.route x).isSome := by
    intro x
    have hany : ∀ l : List SpfRoute, (l.find? fun r => r.vertexId = x).isSome =
        (l.map SpfRoute.vertexId).any (· = x) := by
      intro l
      rw [isSome_find?, any_map]
      rfl
    unfold SpfState.route
    rw [hany, hany, h]
  simp only [unread, hroute]

lemma unread_install {r : SpfRoute} (hl : l ∈ lsdb) (hnone : st.route l.vertexId = none)
    (hr : r.vertexId = l.vertexId) (hroutes : st'.routes = st.routes ++ [r]) :
    unread lsdb st' + l.lsdescs.length ≤ unread lsdb st := by
  have hroute : ∀ x, (st'.route x).isSome = ((st.route x).isSome || decide (x = l.vertexId)) := by
    intro x
    unfold SpfState.route
    rw [hroutes, List.find?_append, Option.isSome_or, ← hr]
    congr 1
    by_cases hx : r.vertexId = x
    · simp [hx]
    · simp [hx, Ne.symm hx]
  apply sum_map_add_le hl
  · intro k _
    rw [hroute]
    by_cases hk : (st.route k.vertexId).isSome
    · simp [hk]
    · split_ifs <;> omega
  · simp [hroute, hnone]

lemma ospf6SpfInstall_cases {v : Nat} {x : SpfState × Bool}
    (h : ospf6SpfInstall area b st v = some x) :
    ((st.route (st.vertices v).lsa.vertexId).isSome ∧ x.2 = false ∧ SameCore st x.1) ∨
    st.route (st.vertices v).lsa.vertexId = none ∧ x.2 ∧ ∃ r : SpfRoute, r.vertexId =
    (st.vertices v).lsa.vertexId ∧ x.1 = { st with routes := st.routes ++ [r] } := by
  unfold ospf6SpfInstall at h
  cases hroute : st.route (st.vertices v).lsa.vertexId with
  | some route =>
    simp only [hroute] at h
    refine .inl ⟨rfl, ?_⟩
    split_ifs at h
    · cases h
      exact ⟨rfl, ospf6VertexDelete_sameCore st v⟩
    · cases h
      exact ⟨rfl, (mergePath_sameCore st v route).trans (ospf6VertexDelete_sameCore _ v)⟩
    · cases h
      exact ⟨rfl, ospf6VertexDelete_sameCore st v⟩
  | none =>
    simp only [hroute] at h
    refine .inr ⟨rfl, ?_⟩
    by_cases hno : b ∧ (if b = true then setNexthops (st.vertices v).nexthop else []) = [] ∧
        (st.vertices v).lsa.advRouter ≠ area.routerId
    · rw [if_pos hno] at h
      exact absurd h (by simp)
    · rw [if_neg hno] at h
      cases h
      exact ⟨rfl, _, rfl, rfl⟩

lemma spfStep_cases (hq : QueueOk st) (hsize : 0 < st.candidateList.size)
    (h : spfStep area b st = some st') :
    ∃ v q, QueueOk { st with candidateList := q } ∧ st.candidates = v ::ₘ q.contents ∧
      q.size + 1 = st.candidateList.size ∧
      ((st.route (st.vertices v).lsa.vertexId).isSome ∧
          SameCore { st with candidateList := q } st' ∨
        st.route (st.vertices v).lsa.vertexId = none ∧ ∃ r : SpfRoute,
          r.vertexId = (st.vertices v).lsa.vertexId ∧
          (st' = { st with candidateList := q, routes := st.routes ++ [r] } ∨
            st' = expandVertex area b { st with candidateList := q, routes := st.routes ++ [r] } v)) := by
  obtain ⟨v, q, heq⟩ : ∃ v q,
      pqueueDequeue (ospf6VertexCmp st.vertices) st.candidateList = (v, q) := ⟨_, _, rfl⟩
  obtain ⟨hq', hcand, hsize', -⟩ := dequeue_spec hq hsize heq
  refine ⟨v, q, hq', hcand, hsize', ?_⟩
  unfold spfStep at h
  simp only [heq] at h
  cases hinstall : ospf6SpfInstall area b { st with candidateList := q } v with
  | none =>
    rw [hinstall] at h
    exact absurd h (by simp)
  | some x =>
    obtain ⟨st1, installed⟩ := x
    rw [hinstall] at h
    rcases ospf6SpfInstall_cases hinstall with ⟨hsome, rfl, hcore⟩ | ⟨hnone, rfl, r, hr, rfl⟩
    · cases h
      exact .inl ⟨hsome, hcore⟩
    refine .inr ⟨hnone, r, hr, ?_⟩
    split_ifs at h
    · exact .inl (Option.some.inj h).symm
    · exact .inr (Option.some.inj h).symm

lemma TurnInv.step (h : TurnInv area st) (hsize : 0 < st.candidateList.size)
    (hstep : spfStep area b st = some st') :
    TurnInv area st' ∧
    st'.candidateList.size + unread area.lsdb st' < st.candidateList.size + unread area.lsdb st := by
  obtain ⟨v, q, hq, hcand, hsize', hcases⟩ := spfStep_cases h.queue hsize hstep
  have hmem : ∀ w ∈ q.contents, w ∈ st.candidates := fun w hw => by
    rw [hcand]
    exact Multiset.mem_cons_of_mem hw
  have hv : (st.vertices v).lsa ∈ area.lsdb := h.mem v (hcand ▸ Multiset.mem_cons_self v _)
  rcases hcases with ⟨-, hcore⟩ | ⟨hnone, r, hr, hst'⟩
  · refine ⟨⟨hcore.queue hq, fun w hw => ?_⟩, ?_⟩
    · rw [hcore.candidates] at hw
      rw [hcore.lsa]
      exact h.mem w (hmem w hw)
    · have hids : st'.routes.map SpfRoute.vertexId = st.routes.map SpfRoute.vertexId := by
        have hkeys := congrArg (List.map Prod.fst) hcore.routes
        rw [map_map, map_map] at hkeys
        exact hkeys
      rw [unread_congr hids, hcore.candidateList]
      change q.size + _ < _
      omega
  · have hinstalled : TurnInv area { st with candidateList := q, routes := st.routes ++ [r] } :=
      ⟨⟨hq.ordered, hq.nodup, hq.lt_created⟩, fun w hw => h.mem w (hmem w hw)⟩
    have hread : unread area.lsdb { st with candidateList := q, routes := st.routes ++ [r] } +
        (st.vertices v).lsa.lsdescs.length ≤ unread area.lsdb st := unread_install hv hnone hr rfl
    rcases hst' with rfl | rfl
    · refine ⟨hinstalled, ?_⟩
      change q.size + _ < _
      omega
    have hws : ∀ w ∈ (st.vertices v).lsa.lsdescs.filterMap (spfCandidate area b v (st.vertices v)),
        w.lsa ∈ area.lsdb := by
      intro w hw
      obtain ⟨p, -, hp⟩ := mem_filterMap.mp hw
      exact spfCandidate_lsa hp
    have hen := foldl_enqueueVertex hinstalled.queue
      ((st.vertices v).lsa.lsdescs.filterMap (spfCandidate area b v (st.vertices v)))
    have hlen : ((st.vertices v).lsa.lsdescs.filterMap
        (spfCandidate area b v (st.vertices v))).length ≤ (st.vertices v).lsa.lsdescs.length :=
      length_filterMap_le _ _
    rw [expandVertex_eq]
    refine ⟨hinstalled.enqueue hws, ?_⟩
    rw [unread_congr (congrArg _ hen.routes), hen.size]
    change q.size + _ + _ < _
    omega

lemma spfLoop_enough (fuel more : Nat) (h : TurnInv area st)
    (hfuel : st.candidateList.size + unread area.lsdb st ≤ fuel) :
    spfLoop area b (fuel + more) st = spfLoop area b fuel st := by
  induction fuel generalizing st with
  | zero =>
    have hsize : st.candidateList.size = 0 := by omega
    cases more with
    | zero => rfl
    | succ more =>
      simp [spfLoop, hsize]
  | succ fuel ih =>
    rw [Nat.add_right_comm, spfLoop, spfLoop]
    by_cases hsize : st.candidateList.size = 0
    · rw [if_pos hsize, if_pos hsize]
    rw [if_neg hsize, if_neg hsize]
    cases hstep : spfStep area b st with
    | none => rfl
    | some st' =>
      obtain ⟨hinv, hlt⟩ := h.step (pos_of_ne_zero hsize) hstep
      exact ih hinv (by omega)

lemma spfStart_turnInv {lsa : SpfLsa} (hlsa : lsa ∈ area.lsdb) :
    TurnInv area (spfStart area b lsa) ∧
    (spfStart area b lsa).candidateList.size + unread area.lsdb (spfStart area b lsa) ≤ spfFuel area := by
  have hinit : TurnInv area spfInit := by
    refine ⟨spfInit_queue, fun v hv => ?_⟩
    exact absurd (spfInit_queue.lt_created v hv) (Nat.not_lt_zero v)
  obtain ⟨ws, hws⟩ : ∃ ws, ws = rootVertex lsa :: if b then rootNeighbors area else [] := ⟨_, rfl⟩
  have hstart : spfStart area b lsa = ws.foldl enqueueVertex spfInit := by
    rw [hws]
    rfl
  have hmem : ∀ w ∈ ws, w.lsa ∈ area.lsdb := by
    intro w hw
    rw [hws] at hw
    rcases mem_cons.mp hw with rfl | hw
    · exact hlsa
    split_ifs at hw
    · obtain ⟨oi, -, hw⟩ := mem_flatMap.mp hw
      obtain ⟨on, -, hw⟩ := mem_filterMap.mp hw
      exact neighborCandidate_lsa hw
    · exact absurd hw not_mem_nil
  have hen := foldl_enqueueVertex spfInit_queue ws
  have hlen : ws.length ≤ 1 + (rootNeighbors area).length := by
    rw [hws, length_cons]
    split_ifs
    · omega
    · exact Nat.le_add_right 1 _
  have hunread : unread area.lsdb spfInit = (area.lsdb.map fun l => l.lsdescs.length).sum := rfl
  rw [hstart]
  refine ⟨hinit.enqueue hmem, ?_⟩
  rw [unread_congr (congrArg _ hen.routes), hen.size, hunread]
  change 0 + ws.length + _ ≤ _
  unfold spfFuel
  omega

lemma SameLookups.ospf6SpfCalculation {lsdb' : List SpfLsa} (h : SameLookups area.lsdb lsdb')
    (routerId : UInt32) : ospf6SpfCalculation { area with lsdb := lsdb' } routerId =
      ospf6SpfCalculation area routerId := by
  unfold Ospf6.ospf6SpfCalculation
  simp only [h.router]
  cases hlsa : ospf6SpfLsdbLookup area.lsdb .router 0 routerId with
  | none => rfl
  | some lsa =>
    have hmem' : lsa ∈ lsdb' := mem_of_spfLsdbLookup ((h.router routerId).trans hlsa)
    obtain ⟨hinv, hfuel⟩ := @spfStart_turnInv area (decide (routerId = area.routerId)) lsa
      (mem_of_spfLsdbLookup hlsa)
    obtain ⟨hinv', hfuel'⟩ := @spfStart_turnInv { area with lsdb := lsdb' }
      (decide (routerId = area.routerId)) lsa hmem'
    dsimp only
    rw [h.spfStart] at hinv' hfuel' ⊢
    rcases Nat.le_total (spfFuel area) (spfFuel { area with lsdb := lsdb' }) with hle | hle
    · obtain ⟨more, hmore⟩ := Nat.exists_eq_add_of_le hle
      rw [h.spfLoop, hmore, spfLoop_enough _ more hinv hfuel]
    · obtain ⟨more, hmore⟩ := Nat.exists_eq_add_of_le hle
      rw [hmore, ← h.spfLoop, spfLoop_enough _ more hinv' hfuel']

end turns

end OspfMdr.Ospf6
