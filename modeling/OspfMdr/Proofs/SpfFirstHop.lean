import OspfMdr.Proofs.SpfInv

namespace OspfMdr.Ospf6

open Lib List Option

variable {area : SpfArea} {routerId : UInt32}

/-- The interface leads from the root to the vertex at the cost. -/
def RootIf (area : SpfArea) (routerId : UInt32) (y : VertexId) (c : Nat) (ifindex : UInt32) : Prop :=
  RootNeighbor area y c ifindex ∨ ¬RootReplaced area routerId (routerId, 0) ∧
    ∃ u p w, area.Live .router 0 routerId u ∧ p ∈ u.lsdescs ∧ Confirmed area u p w ∧
      w.vertexId = y ∧ c = u.lsdescMetric p ∧ ifindex = u.lsdescIfid p

/-- The interface leads to some vertex at cost 0. -/
def ZeroIf (area : SpfArea) (routerId : UInt32) (ifindex : UInt32) : Prop :=
  ∃ y, RootIf area routerId y 0 ifindex

/-- The root has a link of cost `c` to `x`, and the next hops `l` are on the interface of such a link or of one of
cost 0. -/
structure AttachedVia (area : SpfArea) (routerId : UInt32) (x : VertexId) (c : Nat) (l : List Nexthop) :
    Prop where
  link : ∃ i, RootIf area routerId x c i
  via : NexthopsVia (fun i => RootIf area routerId x c i ∨ ZeroIf area routerId i) l

/-- Interface index 0 is not used, neither by interfaces nor in the root's own router-LSA. -/
structure IfindexesSet (area : SpfArea) (routerId : UInt32) : Prop where
  interfaces : ∀ oi ∈ area.interfaces, oi.ifindex ≠ 0
  ifList : ∀ oi ∈ area.ifList, oi.ifindex ≠ 0
  root : ∀ u, area.Live .router 0 routerId u → ∀ p ∈ u.lsdescs, u.lsdescIfid p ≠ 0

variable {l : List Nexthop} {p : Nat} {c : Vertex} {w : SpfLsa}

lemma headSet_of_ifindex (h : (l.headD nexthopZero).ifindex ≠ 0) : HeadSet l := by
  exact decide_eq_true (.inl h)

lemma calcNexthops_ifindex (oi : SpfInterface) (v : Vertex) (p : Nat) :
    ∀ n ∈ calcNexthops area oi v p, n.ifindex = calcIfindex v p := by
  intro n hn
  unfold calcNexthops at hn
  dsimp only at hn
  split_ifs at hn
  · split at hn
    · split_ifs at hn
      · rw [mem_singleton.mp hn]
      · simp at hn
    · simp at hn
  · obtain ⟨l, -, rfl⟩ := mem_map.mp (mem_of_mem_take hn)
    rfl

lemma ospf6NexthopCalc_spec {v : Vertex} (h : ospf6NexthopCalc area v p = some l) :
    (∃ oi ∈ area.interfaces, oi.ifindex = calcIfindex v p) ∧
      NexthopsIn (· = calcIfindex v p) l ∧ (l.headD nexthopZero).ifindex = calcIfindex v p := by
  have harray : ∀ l' : List Nexthop, l' ≠ [] → (∀ n ∈ l', n.ifindex = calcIfindex v p) →
      NexthopsIn (· = calcIfindex v p) (nexthopArray l') ∧
        ((nexthopArray l').headD nexthopZero).ifindex = calcIfindex v p := by
    intro l' hne hall
    refine ⟨NexthopsIn.nexthopArray fun n hn _ => hall n hn, ?_⟩
    cases l' with
    | nil => exact absurd rfl hne
    | cons n l' => exact hall n mem_cons_self
  unfold ospf6NexthopCalc at h
  cases hoi : area.interfaces.find? fun oi => decide (oi.ifindex = calcIfindex v p) with
  | none => simp [hoi] at h
  | some oi =>
    simp only [hoi] at h
    refine ⟨⟨oi, mem_of_find?_eq_some hoi, by simpa using List.find?_some hoi⟩, ?_⟩
    split_ifs at h with hfound htype
    · rw [← some.inj h]
      exact harray _ (cons_ne_nil _ _) (by simp)
    · rw [← some.inj h]
      exact harray _ hfound (calcNexthops_ifindex oi v p)

lemma CandidateFor.nexthop_cases {v : Nat} {l : Vertex} (h : CandidateFor area routerId v l p w c) :
    (routerId ≠ area.routerId ∧ c.nexthop = nexthopArray []) ∨
      (c.hops = 0 ∧ c.nexthop = nexthopArray [⟨l.lsa.lsdescIfid p, nexthopZero.address⟩]) ∨
      (routerId = area.routerId ∧ c.hops = 1 ∧ l.hops = 0 ∧ ospf6NexthopCalc area l p = some c.nexthop) ∨
      (c.hops ≠ 0 ∧ ¬(c.hops = 1 ∧ l.hops = 0) ∧ c.nexthop = nexthopArray (setNexthops l.nexthop)) := by
  have hn := h.nexthop
  unfold candidateNexthops at hn
  by_cases hr : routerId = area.routerId
  · simp only [hr, decide_true, not_true_eq_false, if_false] at hn
    split_ifs at hn with h0 h1
    · exact .inr (.inl ⟨h0, (some.inj hn).symm⟩)
    · exact .inr (.inr (.inl ⟨hr, h1.1, h1.2, hn⟩))
    · exact .inr (.inr (.inr ⟨h0, h1, (some.inj hn).symm⟩))
  · simp only [hr, decide_false, Bool.false_eq_true, not_false_eq_true, if_true] at hn
    exact .inl ⟨hr, (some.inj hn).symm⟩

/-- Where the next hops of vertices and routes come from. -/
structure NexthopInv (area : SpfArea) (routerId : UInt32) (st : SpfState)
    (settled : VertexId → Option Vertex) : Prop where
  zero : ∀ v, v < st.created → (st.vertices v).cost = 0 →
    NexthopsIn (ZeroIf area routerId) (st.vertices v).nexthop
  zero_route : ∀ r ∈ st.routes, r.cost = 0 → NexthopsIn (ZeroIf area routerId) r.nexthop
  attached : routerId = area.routerId → ∀ v ∈ st.candidates, v ≠ 0 → (st.vertices v).hops = 0 →
    AttachedVia area routerId (st.vertices v).lsa.vertexId (st.vertices v).cost.toNat (st.vertices v).nexthop
  parent : ∀ w, w < st.created → ∀ u, (st.vertices w).parent = some u → u < st.created ∧
    (st.vertices u).cost ≤ (st.vertices w).cost ∧ ((st.vertices w).hops = 0 → u = 0)
  root_cost : (st.vertices 0).cost = 0
  set : routerId = area.routerId → IfindexesSet area routerId → ∀ v, v ≠ 0 → v < st.created →
    HeadSet (st.vertices v).nexthop
  set_route : routerId = area.routerId → IfindexesSet area routerId → ∀ r ∈ st.routes,
    r.vertex ≠ 0 → HeadSet r.nexthop
  label : routerId = area.routerId → ∀ x l, settled x = some l → l.hops = 0 → x ≠ (routerId, 0) →
    AttachedVia area routerId x l.cost.toNat l.nexthop

section step

variable {st st' : SpfState} {settled : VertexId → Option Vertex} {v : Nat} {q : Pqueue Nat}

lemma NexthopInv.merge (h : NexthopInv area routerId st settled)
    (hq : QueueOk { st with candidateList := q }) (hsub : ∀ w ∈ q.contents, w ∈ st.candidates)
    (hcore : SameCore { st with candidateList := q } st')
    {prev : Nat} {m : List Nexthop} (hprev : prev ∉ q.contents)
    (hzero : (st.vertices prev).cost = 0 → NexthopsIn (ZeroIf area routerId) m)
    (hset : routerId = area.routerId → IfindexesSet area routerId → prev ≠ 0 → HeadSet m)
    (hnext : ∀ w, (st'.vertices w).nexthop = (st.vertices w).nexthop ∨
      w = prev ∧ (st'.vertices w).nexthop = m ∨
      (st.vertices w).parent = some prev ∧ ∃ e, (e = (st.vertices w).nexthop ∨ w = prev ∧ e = m) ∧
        (st'.vertices w).nexthop = addNexthops e m)
    (hroutes : ∀ r ∈ st'.routes, ∃ r' ∈ st.routes, r'.cost = r.cost ∧ r'.vertex = r.vertex ∧
      (r.nexthop = r'.nexthop ∨ r.nexthop = m ∧ r.cost = (st.vertices prev).cost ∧
        (r.vertex = 0 ↔ prev = 0))) :
    NexthopInv area routerId st' settled := by
  have hcost : ∀ w, (st'.vertices w).cost = (st.vertices w).cost := hcore.cost
  have hhops : ∀ w, (st'.vertices w).hops = (st.vertices w).hops := hcore.hops
  have hlsa : ∀ w, (st'.vertices w).lsa = (st.vertices w).lsa := hcore.lsa
  have hcreated : st'.created = st.created := hcore.created
  have hcand : st'.candidates = q.contents := hcore.candidates
  -- a child of cost 0 has a parent of cost 0
  have hchild : ∀ w, w < st.created → (st.vertices w).parent = some prev →
      (st.vertices w).cost = 0 → (st.vertices prev).cost = 0 := by
    intro w hw hp h0
    have hle := (h.parent w hw prev hp).2.1
    rw [h0] at hle
    exact UInt32.le_zero_iff.mp hle
  refine ⟨fun w hw h0 => ?_, fun r hr h0 => ?_, fun hr w hw hne h0 => ?_, fun w hw u hu => ?_, ?_,
    fun hr hi w hne hw => ?_, fun hr hi r hmem hne => ?_, h.label⟩
  · rw [hcreated] at hw
    rw [hcost] at h0
    rcases hnext w with heq | ⟨rfl, heq⟩ | ⟨hp, e, he, heq⟩
    · exact heq ▸ h.zero w hw h0
    · exact heq ▸ hzero h0
    · have hm := hzero (hchild w hw hp h0)
      rw [heq]
      rcases he with rfl | ⟨-, rfl⟩
      · exact (h.zero w hw h0).addAll hm
      · exact hm.addAll hm
  · obtain ⟨r', hr', hc, -, hn | ⟨hn, hcp, -⟩⟩ := hroutes r hr
    · exact hn ▸ h.zero_route r' hr' (hc.trans h0)
    · exact hn ▸ hzero (hcp ▸ h0)
  · rw [hcand] at hw
    rw [hhops] at h0
    rw [hlsa, hcost]
    rcases hnext w with heq | ⟨rfl, -⟩ | ⟨hp, e, he, heq⟩
    · exact heq ▸ h.attached hr w (hsub w hw) hne h0
    · exact absurd hw hprev
    · have hlt : w < st.created := hq.lt_created w hw
      have hroot : prev = 0 := (h.parent w hlt prev hp).2.2 h0
      have hm := hzero (hroot ▸ h.root_cost)
      rw [heq]
      rcases he with rfl | ⟨rfl, -⟩
      · have hw' := h.attached hr w (hsub w hw) hne h0
        exact ⟨hw'.link, hw'.via.addAll (hm.mono fun i hi => .inr hi)⟩
      · exact absurd hw hprev
  · rw [hcreated] at hw ⊢
    rw [hcost, hcost, hhops]
    exact h.parent w hw u (hcore.parent w u hu)
  · rw [hcost]
    exact h.root_cost
  · rw [hcreated] at hw
    rcases hnext w with heq | ⟨rfl, heq⟩ | ⟨hp, e, he, heq⟩
    · exact heq ▸ h.set hr hi w hne hw
    · exact heq ▸ hset hr hi hne
    · rw [heq]
      rcases he with rfl | ⟨rfl, rfl⟩
      · exact (h.set hr hi w hne hw).addAll
      · exact (hset hr hi hne).addAll
  · obtain ⟨r', hr', -, hv, hn | ⟨hn, -, hiff⟩⟩ := hroutes r hmem
    · exact hn ▸ h.set_route hr hi r' hr' (hv ▸ hne)
    · exact hn ▸ hset hr hi fun h0 => hne (hiff.mpr h0)

lemma NexthopInv.skip (h : NexthopInv area routerId st settled) (hs : SpfInv area routerId st settled)
    (hcand : st.candidates = v ::ₘ q.contents) (hq : QueueOk { st with candidateList := q })
    {route : SpfRoute} (hroute : route ∈ st.routes) :
    NexthopInv area routerId (ospf6VertexDelete { st with candidateList := q } v) settled ∧
      (route.cost = (st.vertices v).cost → NexthopInv area routerId
        (ospf6VertexDelete (mergePath { st with candidateList := q } v route) v) settled) := by
  obtain ⟨l, hl, hcost, -, hvcost, -, -, hprev⟩ := hs.route_settled route hroute
  have hvmem : v ∈ st.candidates := hcand ▸ Multiset.mem_cons_self v _
  have hsub : ∀ w ∈ q.contents, w ∈ st.candidates := by
    intro w hw
    rw [hcand]
    exact Multiset.mem_cons_of_mem hw
  have hprev' : route.vertex ∉ q.contents := fun hc => hprev (hsub _ hc)
  have hrcost : route.cost = (st.vertices route.vertex).cost := hcost.trans hvcost.symm
  have hzero : (st.vertices route.vertex).cost = 0 →
      NexthopsIn (ZeroIf area routerId) route.nexthop :=
    fun h0 => h.zero_route route hroute (hrcost.trans h0)
  have hset := fun hr hi => h.set_route hr hi route hroute
  constructor
  · exact h.merge hq hsub (ospf6VertexDelete_sameCore _ v) hprev' hzero hset
      (fun w => .inl (ospf6VertexDelete_nexthop _ v w)) fun r hr => ⟨r, hr, rfl, rfl, .inl rfl⟩
  · intro heq
    refine h.merge hq hsub ((mergePath_sameCore _ v route).trans (ospf6VertexDelete_sameCore _ v))
      (m := mergedNexthops { st with candidateList := q } v route) hprev'
      (fun h0 => (hzero h0).merge ?_) (fun hr hi hne => (hset hr hi hne).merge) ?_ ?_
    · exact (h.zero v (hs.queue.lt_created v hvmem) (heq ▸ hrcost.trans h0)).setNexthops
    · intro w
      rw [ospf6VertexDelete_nexthop]
      exact mergePath_nexthop _ v route w
    · intro r hr
      have hr' : r ∈ (mergePath { st with candidateList := q } v route).routes := hr
      rw [mergePath_routes] at hr'
      obtain ⟨r', hmem, rfl⟩ := mem_map.mp hr'
      refine ⟨r', hmem, ?_⟩
      split_ifs with hsame
      · refine ⟨rfl, rfl, .inr ⟨rfl, ?_, ?_⟩⟩
        · obtain ⟨l', hl', hcost', -⟩ := hs.route_settled r' hmem
          rw [hsame, hl] at hl'
          rw [← hrcost, hcost, some.inj hl']
          exact hcost'
        · exact (hs.root_route r' hmem).trans (hsame ▸ (hs.root_route route hroute).symm)
      · exact ⟨rfl, rfl, .inl rfl⟩

/-- Where the next hops of a new candidate come from. -/
structure NexthopOk (area : SpfArea) (routerId : UInt32) (st : SpfState) (c : Vertex) : Prop where
  zero : c.cost = 0 → NexthopsIn (ZeroIf area routerId) c.nexthop
  attached : routerId = area.routerId → c.hops = 0 →
    AttachedVia area routerId c.lsa.vertexId c.cost.toNat c.nexthop
  parent : ∀ u, c.parent = some u → u < st.created ∧ (st.vertices u).cost ≤ c.cost ∧
    (c.hops = 0 → u = 0)
  set : routerId = area.routerId → IfindexesSet area routerId → HeadSet c.nexthop

section
variable (h : NexthopInv area routerId st settled)
include h

lemma NexthopInv.enqueue {ws : List Vertex} (hq : QueueOk st) (hpos : 0 < st.created)
    (henq : Enqueued st ws st') (hws : ∀ c ∈ ws, NexthopOk area routerId st c) :
    NexthopInv area routerId st' settled := by
  have hnew : ∀ w, w < st'.created → w < st.created ∧ st'.vertices w = st.vertices w ∨
      NexthopOk area routerId st (st'.vertices w) := by
    intro w hw
    rcases lt_or_ge w st.created with hlt | hge
    · exact .inl ⟨hlt, henq.old w hlt⟩
    · exact .inr (hws _ (henq.new_mem w hge hw))
  refine ⟨fun w hw => ?_, henq.routes ▸ h.zero_route, fun hr w hw hne => ?_, fun w hw u hu => ?_, ?_,
    fun hr hi w hne hw => ?_, henq.routes ▸ h.set_route, h.label⟩
  · rcases hnew w hw with ⟨hlt, heq⟩ | hok
    · rw [heq]
      exact h.zero w hlt
    · exact hok.zero
  · rcases (henq.mem_iff w).mp hw with hw | ⟨h1, h2⟩
    · rw [henq.old w (hq.lt_created w hw)]
      exact h.attached hr w hw hne
    · exact (hws _ (henq.new_mem w h1 h2)).attached hr
  · have hparent : u < st.created ∧ (st.vertices u).cost ≤ (st'.vertices w).cost ∧
        ((st'.vertices w).hops = 0 → u = 0) := by
      rcases hnew w hw with ⟨hlt, heq⟩ | hok
      · rw [heq] at hu ⊢
        exact h.parent w hlt u hu
      · exact hok.parent u hu
    rw [henq.old u hparent.1]
    exact ⟨lt_of_lt_of_le hparent.1 henq.le_created, hparent.2⟩
  · rw [henq.old 0 hpos]
    exact h.root_cost
  · rcases hnew w hw with ⟨hlt, heq⟩ | hok
    · rw [heq]
      exact h.set hr hi w hne hlt
    · exact hok.set hr hi

lemma NexthopInv.install (hcand : st.candidates = v ::ₘ q.contents) (hlt : v < st.created)
    (hroot : v = 0 → (st.vertices v).lsa.vertexId = (routerId, 0)) {r : SpfRoute}
    (hcost : r.cost = (st.vertices v).cost) (hvertex : r.vertex = v)
    (hnexthop : r.nexthop =
      nexthopArray (if routerId = area.routerId then setNexthops (st.vertices v).nexthop else [])) :
    NexthopInv area routerId { st with candidateList := q, routes := st.routes ++ [r] }
      (Function.update settled (st.vertices v).lsa.vertexId (some (st.vertices v))) := by
  refine ⟨h.zero, fun r' hr' h0 => ?_, fun hr w hw => ?_, h.parent, h.root_cost, h.set,
    fun hr hi r' hr' hne => ?_, fun hr x l hl h0 hx => ?_⟩
  · rcases mem_append.mp hr' with hr' | hr'
    · exact h.zero_route r' hr' h0
    · rw [mem_singleton.mp hr'] at h0 ⊢
      rw [hnexthop]
      split_ifs
      · exact (h.zero v hlt (hcost ▸ h0)).setNexthops.nexthopArray
      · exact NexthopsIn.nexthopArray fun n hn => absurd hn not_mem_nil
  · exact h.attached hr w (hcand ▸ Multiset.mem_cons_of_mem hw)
  · rcases mem_append.mp hr' with hr' | hr'
    · exact h.set_route hr hi r' hr' hne
    · rw [mem_singleton.mp hr'] at hne ⊢
      rw [hnexthop, if_pos hr]
      exact headSet_nexthopArray (headSet_setNexthops (h.set hr hi v (hvertex ▸ hne) hlt))
  · by_cases hxv : x = (st.vertices v).lsa.vertexId
    · subst hxv
      rw [Function.update_self] at hl
      rw [← some.inj hl] at h0 ⊢
      exact h.attached hr v (hcand ▸ Multiset.mem_cons_self v _) (fun hv => hx (hroot hv)) h0
    · rw [Function.update_of_ne hxv] at hl
      exact h.label hr x l hl h0 hx

lemma CandidateFor.nexthopOk {l : Vertex} (hc : CandidateFor area routerId v l p w c)
    (hv : st.vertices v = l) (hlt : v < st.created) (hne : v ≠ 0)
    (hsettled : settled l.lsa.vertexId = some l) (hid : l.lsa.vertexId ≠ (routerId, 0))
    (hrouter : l.lsa.type = .router → l.hops ≠ 0) : NexthopOk area routerId st c := by
  subst hv
  have hhops : c.hops ≠ 0 := by
    cases ht : (st.vertices v).lsa.type with
    | router =>
      intro h0
      have hsum := hc.hops
      rw [h0, UInt8.toNat_zero] at hsum
      apply hrouter ht
      apply UInt8.toNat_inj.mp
      rw [UInt8.toNat_zero]
      omega
    | network => exact hc.hops_ne_zero (hc.lsa ▸ hc.confirmed.type_of_network ht)
  have hcost : (st.vertices v).cost ≤ c.cost := by
    rw [UInt32.le_iff_toNat_le, hc.cost]
    exact Nat.le_add_right _ _
  refine ⟨fun h0 => ?_, fun _ h0 => absurd h0 hhops, fun u hu => ?_, fun hr hi => ?_⟩
  · have hv0 : (st.vertices v).cost = 0 := UInt32.le_zero_iff.mp (h0 ▸ hcost)
    have hzero := h.zero v hlt hv0
    rcases hc.nexthop_cases with ⟨-, hn⟩ | ⟨h0, -⟩ | ⟨hr, -, hl0, hn⟩ | ⟨-, -, hn⟩
    · rw [hn]
      exact NexthopsIn.nexthopArray fun n hn => absurd hn not_mem_nil
    · exact absurd h0 hhops
    · have ht : (st.vertices v).lsa.type = .network := by
        cases ht : (st.vertices v).lsa.type with
        | router => exact absurd hl0 (hrouter ht)
        | network => rfl
      intro n hmem hi
      have heq := (ospf6NexthopCalc_spec hn).2.1 n hmem hi
      unfold calcIfindex at heq
      simp only [ht] at heq
      rw [heq]
      rcases (h.label hr _ _ hsettled hl0 hid).via.2 with hroot | hzero
      · rw [hv0] at hroot
        exact ⟨_, hroot⟩
      · exact hzero
    · rw [hn]
      exact hzero.setNexthops.nexthopArray
  · rw [hc.parent] at hu
    rw [← some.inj hu]
    exact ⟨hlt, hcost, fun h0 => absurd h0 hhops⟩
  · rcases hc.nexthop_cases with ⟨hr', -⟩ | ⟨h0, -⟩ | ⟨-, -, hl0, hn⟩ | ⟨-, -, hn⟩
    · exact absurd hr hr'
    · exact absurd h0 hhops
    · obtain ⟨⟨oi, hoi, heq⟩, -, hhead⟩ := ospf6NexthopCalc_spec hn
      exact headSet_of_ifindex (hhead ▸ heq ▸ hi.interfaces oi hoi)
    · rw [hn]
      exact headSet_nexthopArray (headSet_setNexthops (h.set hr hi v hne hlt))

end

lemma CandidateFor.nexthopOk_root {l : Vertex} (hc : CandidateFor area routerId 0 l p w c)
    (hv : st.vertices 0 = l) (hlt : 0 < st.created) (hlive : area.Live .router 0 routerId l.lsa)
    (hcost : l.cost = 0) (hhops : l.hops = 0) (hr : ¬RootReplaced area routerId (routerId, 0)) :
    NexthopOk area routerId st c := by
  have hle : c.hops.toNat ≤ 1 := by
    have hlink : (ofLex (linkLength l.lsa p w)).2 ≤ 1 := by
      unfold linkLength
      cases l.lsa.type <;> cases w.type <;> simp
    rw [hc.hops, hhops, UInt8.toNat_zero]
    omega
  have hifindex : calcIfindex l p = l.lsa.lsdescIfid p := by
    unfold calcIfindex
    simp only [hlive.2.1]
  have hroot : RootIf area routerId c.lsa.vertexId c.cost.toNat (l.lsa.lsdescIfid p) := by
    refine .inr ⟨hr, l.lsa, p, w, hlive, hc.mem, hc.confirmed, by rw [hc.lsa], ?_, rfl⟩
    rw [hc.cost, hcost, UInt32.toNat_zero, zero_add]
    unfold linkLength
    simp [hlive.2.1]
  have hin : routerId ≠ area.routerId ∧ c.nexthop = nexthopArray [] ∨
      NexthopsIn (· = l.lsa.lsdescIfid p) c.nexthop ∧
        (c.nexthop.headD nexthopZero).ifindex = l.lsa.lsdescIfid p := by
    rcases hc.nexthop_cases with h | ⟨-, hn⟩ | ⟨-, -, -, hn⟩ | ⟨h0, h1, -⟩
    · exact .inl h
    · rw [hn]
      refine .inr ⟨NexthopsIn.nexthopArray fun n hmem _ => ?_, rfl⟩
      rw [mem_singleton.mp hmem]
    · exact .inr (hifindex ▸ (ospf6NexthopCalc_spec hn).2)
    · have hne0 : c.hops.toNat ≠ 0 := fun h => h0 (UInt8.toNat_inj.mp h)
      have hne1 : c.hops.toNat ≠ 1 := fun h => h1 ⟨UInt8.toNat_inj.mp h, hhops⟩
      omega
  have hall : NexthopsIn (RootIf area routerId c.lsa.vertexId c.cost.toNat) c.nexthop := by
    rcases hin with ⟨-, hn⟩ | ⟨hn, -⟩
    · rw [hn]
      exact NexthopsIn.nexthopArray fun n hn => absurd hn not_mem_nil
    · exact hn.mono fun i hi => hi ▸ hroot
  refine ⟨fun h0 => ?_, fun hr _ => ⟨⟨_, hroot⟩, hall.mono fun i hi => .inl hi, .inl ?_⟩, fun u hu => ?_, fun hr hi => ?_⟩
  · rw [h0] at hall
    exact hall.mono fun i hi => ⟨_, hi⟩
  · rcases hin with ⟨hr', -⟩ | ⟨-, hhead⟩
    · exact absurd hr hr'
    · rw [hhead]
      exact hroot
  · rw [hc.parent] at hu
    rw [← some.inj hu, hv, hcost]
    exact ⟨hlt, UInt32.zero_le, fun _ => rfl⟩
  · rcases hin with ⟨hr', -⟩ | ⟨-, hhead⟩
    · exact absurd hr hr'
    · exact headSet_of_ifindex (hhead ▸ hi.root _ hlive p hc.mem)

lemma mem_rootNeighbors (hok : area.LsdbOk) :
    c ∈ rootNeighbors area ↔
      ∃ oi ∈ area.ifList, oi.down = false ∧ oi.direct ∧
        ∃ on ∈ oi.neighborList, (on.routable ∨ on.state = .full) ∧
          ∃ lsa, area.Live .router 0 on.routerId lsa ∧
            ∃ address, neighborAddress area oi on = some address ∧
              c = ⟨lsa, on.cost, 1, nexthopArray [⟨oi.ifindex, address⟩], some 0⟩ := by
  have hcand : ∀ oi on, neighborCandidate area oi on = some c ↔
      (on.routable ∨ on.state = .full) ∧ ∃ lsa, area.Live .router 0 on.routerId lsa ∧
        ∃ address, neighborAddress area oi on = some address ∧
          c = ⟨lsa, on.cost, 1, nexthopArray [⟨oi.ifindex, address⟩], some 0⟩ := by
    intro oi on
    unfold neighborCandidate
    simp only [← ospf6SpfLsdbLookup_eq_some_iff hok]
    split_ifs with hcond
    · simp only [hcond, true_and, bind_eq_bind, bind_eq_some_iff, some.injEq]
      exact exists_congr fun lsa => and_congr_right fun _ => exists_congr fun address =>
        and_congr_right fun _ => eq_comm
    · simp [hcond]
  unfold rootNeighbors
  simp only [mem_flatMap, mem_filter, mem_filterMap, hcand]
  simp [and_assoc]

end step

end OspfMdr.Ospf6
