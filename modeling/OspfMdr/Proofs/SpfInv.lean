import OspfMdr.Proofs.SpfNexthop

/-!
# Invariant of the shortest-path calculation

The vertices of the table are settled with the labels they were installed with, and the candidate list holds
the ends of the links out of them. The links out of a vertex are read from its label.
-/

namespace OspfMdr.Ospf6

open Lib List Function Option

variable {area : SpfArea} {routerId : UInt32}

abbrev SpfArea.isRoot (area : SpfArea) (routerId : UInt32) : Bool := decide (routerId = area.routerId)

/-- A link of the settled vertex that the calculation takes. -/
def Avail (area : SpfArea) (routerId : UInt32) (x : VertexId) (l : Vertex) (y : VertexId)
    (k : PathLength) : Prop :=
  (routerId = area.routerId ∧ x = (routerId, 0) ∧
    ∃ c i, RootNeighbor area y c i ∧ k = toLex (c, 1)) ∨
  (¬RootReplaced area routerId x ∧ ∃ p ∈ l.lsa.lsdescs, ∃ w, Confirmed area l.lsa p w ∧
    w.vertexId = y ∧ k = linkLength l.lsa p w ∧ (routerId = area.routerId → l.hops = 0 →
      w.type = .router → (ospf6NexthopCalc area l p).isSome))

variable {x y : VertexId} {k : PathLength} {u w : SpfLsa} {p : Nat} {c : Vertex}

variable {l : Vertex} {v : Nat} {st : SpfState}

lemma Avail.areaLink (h : Avail area routerId x l y k) (hl : area.IsVertex l.lsa)
    (hx : l.lsa.vertexId = x) : AreaLink area routerId (fun _ _ _ => True) x y k := by
  rcases h with h | ⟨hr, p, hp, w, hc, hy, hk, -⟩
  · exact .inl h
  · exact .inr ⟨hr, l.lsa, p, w, hl, hx, hp, hc, hy, hk, trivial⟩

lemma linkLength_hops_router (hw : w.type = .router) : (ofLex (linkLength u p w)).2 = 1 := by
  unfold linkLength
  cases u.type <;> simp [hw]

lemma Confirmed.type_of_network (h : Confirmed area u p w) (hu : u.type = .network) :
    w.type = .router := by
  rcases h with ⟨ht, _, _⟩ | ⟨ht, _, _⟩ | ⟨_, hw⟩
  · rw [ht] at hu
    cases hu
  · rw [ht] at hu
    cases hu
  · exact hw.2.1

/-- Neither the cost nor the hops overflow. -/
def Fits (l : Vertex) (p : Nat) (w : SpfLsa) : Prop :=
  l.cost.toNat + (ofLex (linkLength l.lsa p w)).1 < 2 ^ 32 ∧
    l.hops.toNat + (ofLex (linkLength l.lsa p w)).2 < 2 ^ 8

lemma candidateCost_toNat (h : Fits l p w) :
    (candidateCost l p).toNat = l.cost.toNat + (ofLex (linkLength l.lsa p w)).1 := by
  have hcost := h.1
  unfold candidateCost
  unfold linkLength at *
  cases hu : l.lsa.type with
  | network => rfl
  | router =>
    simp only [hu, ofLex_toLex] at hcost ⊢
    rw [UInt32.toNat_add, UInt32.toNat_ofNat', Nat.add_mod_mod, Nat.mod_eq_of_lt hcost]

lemma candidateHops_toNat (h : Fits l p w) :
    (candidateHops l w).toNat = l.hops.toNat + (ofLex (linkLength l.lsa p w)).2 := by
  have hhops := h.2
  unfold candidateHops
  unfold linkLength at *
  cases hu : l.lsa.type <;> cases hw : w.type <;>
    simp only [hu, hw, ofLex_toLex, add_zero] at hhops ⊢ <;>
    rw [UInt8.toNat_add, UInt8.toNat_one, Nat.mod_eq_of_lt hhops]

lemma candidateNexthops_isSome_iff (h : Fits l p w) (hw : l.lsa.type = .network → w.type = .router)
    (routerIsRoot : Bool) :
    (candidateNexthops area routerIsRoot l p (candidateHops l w)).isSome = true ↔
      (routerIsRoot → l.hops = 0 → w.type = .router → (ospf6NexthopCalc area l p).isSome ) := by
  have hhops := candidateHops_toNat h
  have hzero : ∀ n : UInt8, n = 0 ↔ n.toNat = 0 := fun n => UInt8.toNat_inj.symm
  have hone : ∀ n : UInt8, n = 1 ↔ n.toNat = 1 := fun n => UInt8.toNat_inj.symm
  have hlink : (ofLex (linkLength l.lsa p w)).2 = if w.type = .router then 1 else 0 := by
    unfold linkLength
    cases hu : l.lsa.type <;> cases ht : w.type <;> simp [hu, ht] at hw ⊢
  unfold candidateNexthops
  cases routerIsRoot
  · simp
  · simp only [not_true_eq_false, if_false, true_imp_iff]
    split_ifs with h0 h1
    · simp only [isSome_some, true_iff]
      intro _ ht
      rw [hzero, hhops, hlink, if_pos ht] at h0
      omega
    · refine ⟨fun hsome _ _ => hsome, fun hsome => hsome h1.2 ?_⟩
      rw [hone, hhops, hlink, (hzero l.hops).mp h1.2] at h1
      by_contra ht
      rw [if_neg ht] at h1
      omega
    · simp only [isSome_some, true_iff]
      intro hl ht
      exact absurd ⟨by rw [hone, hhops, hlink, if_pos ht, (hzero l.hops).mp hl], hl⟩ h1

/-- The candidate `c` was made for the link at `p` of the vertex `l` at `v` to `w`. -/
structure CandidateFor (area : SpfArea) (routerId : UInt32) (v : Nat) (l : Vertex) (p : Nat)
    (w : SpfLsa) (c : Vertex) : Prop where
  mem : p ∈ l.lsa.lsdescs
  confirmed : Confirmed area l.lsa p w
  lsa : c.lsa = w
  cost : c.cost.toNat = l.cost.toNat + (ofLex (linkLength l.lsa p w)).1
  hops : c.hops.toNat = l.hops.toNat + (ofLex (linkLength l.lsa p w)).2
  parent : c.parent = some v
  nexthop : candidateNexthops area (decide (routerId = area.routerId)) l p c.hops = some c.nexthop
  firstHop : routerId = area.routerId → l.hops = 0 → w.type = .router →
    (ospf6NexthopCalc area l p).isSome

lemma CandidateFor.length (h : CandidateFor area routerId v l p w c) :
    c.length = l.length + linkLength l.lsa p w := by
  unfold Vertex.length
  rw [h.cost, h.hops]
  rfl

lemma CandidateFor.hops_ne_zero (h : CandidateFor area routerId v l p w c) (hw : w.type = .router) :
    c.hops ≠ 0 := by
  intro h0
  have hhops := h.hops
  rw [h0, linkLength_hops_router hw, UInt8.toNat_zero] at hhops
  omega

section candidates

variable {v : Nat} {l : Vertex} (hok : area.LsdbOk) (hl : area.IsVertex l.lsa)
  (hfits : ∀ p ∈ l.lsa.lsdescs, ∀ w, Confirmed area l.lsa p w → Fits l p w)
include hok hl hfits

lemma spfCandidate_sound (hp : p ∈ l.lsa.lsdescs)
    (hc : spfCandidate area (decide (routerId = area.routerId)) v l p = some c) :
    ∃ w, CandidateFor area routerId v l p w c := by
  unfold spfCandidate at hc
  cases hw : ospf6LsdescLsa area.lsdb l.lsa p with
  | none => simp [hw] at hc
  | some w =>
    simp only [hw] at hc
    split_ifs at hc with hback
    obtain ⟨nexthop, hn, rfl⟩ := map_eq_some_iff.mp hc
    have hconf := (confirmed_iff hok hl.1 hl.2.1 hp).mp ⟨hw, hback⟩
    have hf := hfits p hp w hconf
    have hfirst := (candidateNexthops_isSome_iff hf hconf.type_of_network _).mp
      (isSome_of_mem hn)
    exact ⟨w, hp, hconf, rfl, candidateCost_toNat hf, candidateHops_toNat hf, rfl, hn,
      fun hr => hfirst (decide_eq_true hr)⟩

lemma spfCandidate_complete (hp : p ∈ l.lsa.lsdescs) (hconf : Confirmed area l.lsa p w)
    (hfirst : routerId = area.routerId → l.hops = 0 → w.type = .router → (ospf6NexthopCalc area l p).isSome) :
    ∃ c, spfCandidate area (decide (routerId = area.routerId)) v l p = some c ∧
      CandidateFor area routerId v l p w c := by
  have hf := hfits p hp w hconf
  obtain ⟨hw, hback⟩ := (confirmed_iff hok hl.1 hl.2.1 hp).mpr hconf
  obtain ⟨nexthop, hn⟩ := isSome_iff_exists.mp
    ((candidateNexthops_isSome_iff hf hconf.type_of_network (decide (routerId = area.routerId))).mpr
      fun hr => hfirst (of_decide_eq_true hr))
  refine ⟨⟨w, candidateCost l p, candidateHops l w, nexthop, some v⟩, ?_, hp, hconf, rfl,
    candidateCost_toNat hf, candidateHops_toNat hf, rfl, hn, hfirst⟩
  unfold spfCandidate
  simp [hw, hback, hn]

end candidates

/-- The candidates with their lengths. -/
def SpfState.frontier (st : SpfState) : Set (VertexId × PathLength) :=
  {c | ∃ v ∈ st.candidates, c = ((st.vertices v).lsa.vertexId, st.length v)}

lemma Enqueued.mem_frontier {st' : SpfState} {ws : List Vertex} (h : Enqueued st ws st')
    (hlt : ∀ v ∈ st.candidates, v < st.created) {c : VertexId × PathLength} :
    c ∈ st'.frontier ↔ c ∈ st.frontier ∨ ∃ w ∈ ws, c = (w.lsa.vertexId, w.length) := by
  have hlength : ∀ v, v < st.created → st'.length v = st.length v := by
    intro v hv
    unfold SpfState.length
    rw [h.old v hv]
  constructor
  · rintro ⟨v, hv, rfl⟩
    rcases (h.mem_iff v).mp hv with hv | ⟨h1, h2⟩
    · rw [h.old v (hlt v hv), hlength v (hlt v hv)]
      exact .inl ⟨v, hv, rfl⟩
    · exact .inr ⟨_, h.new_mem v h1 h2, rfl⟩
  · rintro (⟨v, hv, rfl⟩ | ⟨w, hw, rfl⟩)
    · refine ⟨v, (h.mem_iff v).mpr (.inl hv), ?_⟩
      rw [h.old v (hlt v hv), hlength v (hlt v hv)]
    · obtain ⟨v, h1, h2, rfl⟩ := h.new_exists w hw
      exact ⟨v, (h.mem_iff v).mpr (.inr ⟨h1, h2⟩), rfl⟩

/-- The queue and the routes go with what is settled, under the invariant of the search. -/
structure SpfInv (area : SpfArea) (routerId : UInt32) (st : SpfState)
    (settled : VertexId → Option Vertex) : Prop where
  queue : QueueOk st
  created_pos : 0 < st.created
  root_not_mem : 0 ∉ st.candidates
  route_settled : ∀ r ∈ st.routes, ∃ l, settled r.vertexId = some l ∧ r.cost = l.cost ∧
    r.hops = l.hops ∧ (st.vertices r.vertex).cost = l.cost ∧ (st.vertices r.vertex).hops = l.hops ∧
    r.vertex < st.created ∧ r.vertex ∉ st.candidates
  root_route : ∀ r ∈ st.routes, r.vertex = 0 ↔ r.vertexId = (routerId, 0)
  settled_route : ∀ x l, settled x = some l → ∃ r ∈ st.routes, r.vertexId = x
  label : ∀ x l, settled x = some l → area.IsVertex l.lsa ∧ l.lsa.vertexId = x ∧
    (l.lsa.type = .router → (l.hops = 0 ↔ x = (routerId, 0)))
  candidate : ∀ v ∈ st.candidates, area.IsVertex (st.vertices v).lsa ∧
    ((st.vertices v).lsa.type = .router → (st.vertices v).hops ≠ 0)
  dijkstra : DijkstraInv (Avail area routerId) Vertex.length (routerId, 0) settled st.frontier

lemma vertex_length_le {a b : Vertex} (h : a.length ≤ b.length) :
    a.cost < b.cost ∨ a.cost = b.cost ∧ a.hops ≤ b.hops := by
  unfold Vertex.length at h
  rw [Prod.Lex.toLex_le_toLex] at h
  rcases h with h | ⟨h, h'⟩
  · exact .inl h
  · exact .inr ⟨UInt32.toNat_inj.mp h, h'⟩

lemma dequeue_spec (h : QueueOk st) (hsize : 0 < st.candidateList.size) {q : Pqueue Nat}
    (heq : pqueueDequeue (ospf6VertexCmp st.vertices) st.candidateList = (v, q)) :
    QueueOk { st with candidateList := q } ∧ st.candidates = v ::ₘ q.contents ∧
      q.size + 1 = st.candidateList.size ∧ ∀ w ∈ st.candidates, st.length v ≤ st.length w := by
  obtain ⟨hord, hcont, hmin⟩ :=
    pqueueDequeue_spec (ospf6VertexCmp_key st.vertices) h.ordered hsize
  rw [heq] at hord hcont hmin
  have hcand : st.candidates = v ::ₘ q.contents := hcont
  refine ⟨⟨hord, ?_, fun w hw => h.lt_created w ?_⟩, hcand, ?_, hmin⟩
  · exact (Multiset.nodup_cons.mp (hcand ▸ h.nodup)).2
  · rw [hcand]
    exact Multiset.mem_cons_of_mem hw
  · have hcard := congrArg Multiset.card hcont
    rw [Multiset.card_cons, Pqueue.card_contents, Pqueue.card_contents] at hcard
    exact hcard.symm

section step

variable {st st' : SpfState} {settled : VertexId → Option Vertex} {v : Nat} {q : Pqueue Nat}

lemma SpfInv.mem_frontier (hcand : st.candidates = v ::ₘ q.contents) :
    ((st.vertices v).lsa.vertexId, st.length v) ∈ st.frontier :=
  ⟨v, hcand ▸ Multiset.mem_cons_self v _, rfl⟩

section
variable (h : SpfInv area routerId st settled)
include h

lemma SpfInv.skip (hcand : st.candidates = v ::ₘ q.contents) (hq : QueueOk { st with candidateList := q })
    {l : Vertex} (hl : settled (st.vertices v).lsa.vertexId = some l)
    (hcore : SameCore { st with candidateList := q } st') : SpfInv area routerId st' settled := by
  have hcand' : st'.candidates = q.contents := hcore.candidates
  have hmem : ∀ w, w ∈ st'.candidates → w ∈ st.candidates := by
    intro w hw
    rw [hcand]
    exact Multiset.mem_cons_of_mem (hcand' ▸ hw)
  refine ⟨hcore.queue hq, ?_, fun hc => h.root_not_mem (hmem 0 hc), fun r hr => ?_, fun r hr => ?_,
    fun x l hx => ?_, h.label, fun w hw => ?_, ?_⟩
  · rw [hcore.created]
    exact h.created_pos
  · obtain ⟨r', hr', hid, hcost, hhops, hvertex⟩ := hcore.mem_routes hr
    rw [← hid, ← hcost, ← hhops, ← hvertex, hcore.cost, hcore.hops, hcore.created]
    obtain ⟨l, hl, h1, h2, h3, h4, h5, h6⟩ := h.route_settled r' hr'
    exact ⟨l, hl, h1, h2, h3, h4, h5, fun hc => h6 (hmem _ hc)⟩
  · obtain ⟨r', hr', hid, -, -, hvertex⟩ := hcore.mem_routes hr
    rw [← hid, ← hvertex]
    exact h.root_route r' hr'
  · obtain ⟨r, hr, rfl⟩ := h.settled_route x l hx
    exact hcore.symm_routes hr
  · rw [hcore.lsa, hcore.hops]
    exact h.candidate w (hmem w hw)
  · refine h.dijkstra.drop hl (h.dijkstra.settled_le _ l hl _ (mem_frontier hcand)) ?_ ?_
    · rintro c ⟨w, hw, rfl⟩
      exact ⟨w, hmem w hw, by rw [hcore.lsa, hcore.length]; rfl⟩
    · rintro c ⟨w, hw, rfl⟩
      rw [hcand] at hw
      rcases Multiset.mem_cons.mp hw with rfl | hw
      · exact .inl rfl
      · exact .inr ⟨w, hcand' ▸ hw, by rw [hcore.lsa, hcore.length]; rfl⟩

lemma linkOf_areaLink (hlink : LinkOf (Avail area routerId) settled x y k) :
    AreaLink area routerId (fun _ _ _ => True) x y k := by
  obtain ⟨l, hl, havail⟩ := hlink
  obtain ⟨hv, hid, -⟩ := h.label x l hl
  exact havail.areaLink hv hid

lemma SpfInv.ne_root (hx : settled x = none) : x ≠ (routerId, 0) := by
  rintro rfl
  obtain ⟨l, hl, -⟩ := h.dijkstra.root_settled
  rw [hx] at hl
  cases hl

lemma SpfInv.fits (hb : area.Bounded routerId) (hv : v ∈ st.candidates)
    (hx : settled (st.vertices v).lsa.vertexId = none) : ∀ p ∈ (st.vertices v).lsa.lsdescs, ∀ w,
    Confirmed area (st.vertices v).lsa p w → Fits (st.vertices v) p w := by
  intro p hp w hconf
  obtain ⟨vs, hpath, hnodup, -⟩ := h.dijkstra.cand_path ⟨v, hv, rfl⟩ hx
  exact hb _ _ _ w.vertexId _ (hpath.mono fun _ _ _ => linkOf_areaLink h) hnodup
    (.inr ⟨fun hr => h.ne_root hx hr.1, _, p, w, (h.candidate v hv).1, rfl, hp, hconf, rfl, rfl, trivial⟩)

end

def spfCandidates (area : SpfArea) (routerId : UInt32) (v : Nat) (l : Vertex) : List Vertex :=
  l.lsa.lsdescs.filterMap (spfCandidate area (decide (routerId = area.routerId)) v l)

lemma SpfInv.settle (h : SpfInv area routerId st settled) (hok : area.LsdbOk)
    (hb : area.Bounded routerId) (hcand : st.candidates = v ::ₘ q.contents)
    (hq : QueueOk { st with candidateList := q })
    (hmin : ∀ w ∈ st.candidates, st.length v ≤ st.length w)
    (hx : settled (st.vertices v).lsa.vertexId = none) {r : SpfRoute}
    (hr : r.vertexId = (st.vertices v).lsa.vertexId ∧ r.cost = (st.vertices v).cost ∧
      r.hops = (st.vertices v).hops ∧ r.vertex = v)
    (henq : Enqueued { st with candidateList := q, routes := st.routes ++ [r] }
      (spfCandidates area routerId v (st.vertices v)) st') :
    SpfInv area routerId st'
      (update settled (st.vertices v).lsa.vertexId (some (st.vertices v))) := by
  have hvmem : v ∈ st.candidates := hcand ▸ Multiset.mem_cons_self v _
  have hvlt := h.queue.lt_created v hvmem
  have hlabel := h.candidate v hvmem
  have hne := h.ne_root hx
  have hfits := h.fits hb hvmem hx
  have hsound : ∀ c ∈ spfCandidates area routerId v (st.vertices v),
      ∃ p w, CandidateFor area routerId v (st.vertices v) p w c := by
    intro c hc
    obtain ⟨p, hp, hc⟩ := mem_filterMap.mp hc
    exact ⟨p, spfCandidate_sound hok hlabel.1 hfits hp hc⟩
  have hvq : v ∉ q.contents := (Multiset.nodup_cons.mp (hcand ▸ h.queue.nodup)).1
  have hold : ∀ w, w < st.created → st'.vertices w = st.vertices w := henq.old
  have hmem : ∀ w, w ∈ st'.candidates ↔ w ∈ q.contents ∨ st.created ≤ w ∧ w < st'.created :=
    henq.mem_iff
  have hqmem : ∀ w, w ∈ q.contents → w ∈ st.candidates := by
    intro w hw
    rw [hcand]
    exact Multiset.mem_cons_of_mem hw
  have hle : st.created ≤ st'.created := henq.le_created
  have hnot : ∀ w, w < st.created → w ∉ q.contents → w ∉ st'.candidates := by
    intro w hlt hw hc
    rcases (hmem w).mp hc with hc | hc
    · exact hw hc
    · omega
  have hupdate : ∀ x l, settled x = some l →
      update settled (st.vertices v).lsa.vertexId (some (st.vertices v)) x = some l := by
    intro x l hl
    rw [update_of_ne (fun he => by rw [he, hx] at hl; cases hl), hl]
  refine ⟨henq.queue, lt_of_lt_of_le h.created_pos hle, ?_, fun r' hr' => ?_, fun r' hr' => ?_,
    fun x l hl => ?_, fun x l hl => ?_, fun w hw => ?_, ?_⟩
  · exact hnot 0 h.created_pos fun hc => h.root_not_mem (hqmem 0 hc)
  · rw [henq.routes] at hr'
    rcases mem_append.mp hr' with hr' | hr'
    · obtain ⟨l, hl, h1, h2, h3, h4, h5, h6⟩ := h.route_settled r' hr'
      rw [hold _ h5]
      exact ⟨l, hupdate _ l hl, h1, h2, h3, h4, lt_of_lt_of_le h5 hle,
        hnot _ h5 fun hc => h6 (hqmem _ hc)⟩
    · rw [mem_singleton.mp hr', hr.2.2.2, hold v hvlt]
      refine ⟨st.vertices v, ?_, hr.2.1, hr.2.2.1, rfl, rfl, lt_of_lt_of_le hvlt hle, hnot v hvlt hvq⟩
      rw [hr.1, update_self]
  · rw [henq.routes] at hr'
    rcases mem_append.mp hr' with hr' | hr'
    · exact h.root_route r' hr'
    · rw [mem_singleton.mp hr', hr.1, hr.2.2.2]
      exact iff_of_false (fun h0 => h.root_not_mem (h0 ▸ hvmem)) hne
  · rw [henq.routes]
    obtain ⟨hxv, -⟩ | ⟨-, hl⟩ := update_eq_some hl
    · exact ⟨r, by simp, hr.1.trans hxv.symm⟩
    · obtain ⟨r', hr', hid⟩ := h.settled_route x l hl
      exact ⟨r', mem_append_left _ hr', hid⟩
  · obtain ⟨rfl, ⟨⟩⟩ | ⟨-, hl⟩ := update_eq_some hl
    · exact ⟨hlabel.1, rfl, fun ht => iff_of_false (hlabel.2 ht) hne⟩
    · exact h.label x l hl
  · rcases (hmem w).mp hw with hw | ⟨h1, h2⟩
    · rw [hold w (h.queue.lt_created w (hqmem w hw))]
      exact h.candidate w (hqmem w hw)
    · obtain ⟨p, u, hc⟩ := hsound _ (henq.new_mem w h1 h2)
      rw [hc.lsa]
      exact ⟨hc.confirmed.isVertex, hc.hops_ne_zero⟩
  · refine h.dijkstra.settle (fun _ _ _ k _ => pathLength_nonneg k) hx (mem_frontier hcand) ?_ ?_ ?_ ?_
    · rintro c ⟨w, hw, rfl⟩
      exact hmin w hw
    · intro c hc
      rcases (henq.mem_frontier hq.lt_created).mp hc with ⟨w, hw, rfl⟩ | ⟨d, hd, rfl⟩
      · exact .inl ⟨w, hqmem w hw, rfl⟩
      obtain ⟨p, w, hc⟩ := hsound d hd
      refine .inr ⟨linkLength (st.vertices v).lsa p w, .inr ⟨fun hr => hne hr.1, p, hc.mem, w,
        hc.confirmed, ?_, rfl, hc.firstHop⟩, hc.length⟩
      rw [hc.lsa]
    · rintro c ⟨w, hw, rfl⟩
      rw [hcand] at hw
      rcases Multiset.mem_cons.mp hw with rfl | hw
      · exact .inl rfl
      · exact .inr ((henq.mem_frontier hq.lt_created).mpr (.inl ⟨w, hw, rfl⟩))
    · rintro y k (⟨-, hroot, -⟩ | ⟨-, p, hp, w, hconf, rfl, rfl, hfirst⟩)
      · exact absurd hroot hne
      · obtain ⟨c, hc, hcf⟩ := spfCandidate_complete hok hlabel.1 hfits hp hconf hfirst (v := v)
        refine (henq.mem_frontier hq.lt_created).mpr (.inr ⟨c, mem_filterMap.mpr ⟨p, hp, hc⟩, ?_⟩)
        rw [hcf.lsa, hcf.length]

end step

end OspfMdr.Ospf6
