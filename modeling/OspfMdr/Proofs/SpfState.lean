import OspfMdr.Proofs.Pqueue
import OspfMdr.Proofs.SpfGraph

namespace OspfMdr.Ospf6

open Lib List Function

def Vertex.length (v : Vertex) : PathLength := toLex (v.cost.toNat, v.hops.toNat)

def SpfState.length (st : SpfState) (v : Nat) : PathLength := (st.vertices v).length

def SpfState.candidates (st : SpfState) : Multiset Nat := st.candidateList.contents

lemma uint32Cmp_neg (a b : Nat) : uint32Cmp a b < 0 ↔ a < b := by
  unfold uint32Cmp
  split_ifs <;> omega

lemma uint32Cmp_pos (a b : Nat) : uint32Cmp a b > 0 ↔ b < a := by
  unfold uint32Cmp
  split_ifs <;> omega

lemma uint32Cmp_eq_zero (a b : Nat) : uint32Cmp a b = 0 ↔ a = b := by
  have hneg := uint32Cmp_neg a b
  have hpos := uint32Cmp_pos a b
  omega

lemma ospf6VertexCmp_key (vertices : Nat → Vertex) :
    CmpKey (ospf6VertexCmp vertices) fun v => (vertices v).length := by
  constructor <;> intro a b <;> unfold ospf6VertexCmp Vertex.length <;>
    rw [Prod.Lex.toLex_lt_toLex] <;> dsimp only <;> split_ifs with h
  · rw [uint32Cmp_neg]
    rw [uint32Cmp_eq_zero] at h
    omega
  · rw [uint32Cmp_neg]
    rw [uint32Cmp_eq_zero] at h
    omega
  all_goals
    rw [uint32Cmp_pos]
    rw [uint32Cmp_eq_zero] at h
    omega

/-- The candidate list is a heap of vertices that exist, each once. -/
structure QueueOk (st : SpfState) : Prop where
  ordered : st.candidateList.Ordered st.length
  nodup : st.candidates.Nodup
  lt_created : ∀ v ∈ st.candidates, v < st.created

/-- The vertices `ws` have been created and put in the queue. -/
structure Enqueued (st : SpfState) (ws : List Vertex) (st' : SpfState) : Prop where
  queue : QueueOk st'
  routes : st'.routes = st.routes
  le_created : st.created ≤ st'.created
  size : st'.candidateList.size = st.candidateList.size + ws.length
  old : ∀ v, v < st.created → st'.vertices v = st.vertices v
  mem_iff : ∀ v, v ∈ st'.candidates ↔ v ∈ st.candidates ∨ st.created ≤ v ∧ v < st'.created
  new_mem : ∀ v, st.created ≤ v → v < st'.created → st'.vertices v ∈ ws
  new_exists : ∀ w ∈ ws, ∃ v, st.created ≤ v ∧ v < st'.created ∧ st'.vertices v = w

variable {st : SpfState}

lemma enqueueVertex_enqueued (h : QueueOk st) (w : Vertex) :
    Enqueued st [w] (enqueueVertex st w) := by
  have hold : ∀ v, v < st.created → (enqueueVertex st w).vertices v = st.vertices v := by
    intro v hv
    exact update_of_ne (ne_of_lt hv) w st.vertices
  have hnew : (enqueueVertex st w).vertices st.created = w := update_self ..
  have hordered : st.candidateList.Ordered (enqueueVertex st w).length := by
    apply h.ordered.congr
    intro v hv
    unfold SpfState.length
    rw [hold v (h.lt_created v hv)]
  obtain ⟨hord, hcont⟩ := pqueueEnqueue_spec (ospf6VertexCmp_key (enqueueVertex st w).vertices)
    hordered st.created
  have hcand : (enqueueVertex st w).candidates = st.created ::ₘ st.candidates := hcont
  have hmem : ∀ v, v ∈ (enqueueVertex st w).candidates ↔
      v ∈ st.candidates ∨ st.created ≤ v ∧ v < (enqueueVertex st w).created := by
    intro v
    rw [hcand, Multiset.mem_cons]
    change _ ↔ _ ∨ st.created ≤ v ∧ v < st.created + 1
    have heq : v = st.created ↔ st.created ≤ v ∧ v < st.created + 1 := by omega
    rw [heq, or_comm]
  have hcases : ∀ v, st.created ≤ v → v < (enqueueVertex st w).created → v = st.created := by
    intro v h1 h2
    change v < st.created + 1 at h2
    omega
  refine ⟨⟨hord, ?_, ?_⟩, rfl, Nat.le_succ _, rfl, hold, hmem, ?_, ?_⟩
  · rw [hcand, Multiset.nodup_cons]
    exact ⟨fun hc => lt_irrefl _ (h.lt_created _ hc), h.nodup⟩
  · intro v hv
    rcases (hmem v).mp hv with hv | hv
    · exact Nat.lt_succ_of_lt (h.lt_created v hv)
    · exact hv.2
  · intro v h1 h2
    rw [hcases v h1 h2, hnew]
    exact mem_singleton_self w
  · intro w' hw'
    rw [mem_singleton.mp hw']
    exact ⟨st.created, le_rfl, Nat.lt_succ_self _, hnew⟩

lemma Enqueued.trans {st st1 st2 : SpfState} {ws ws' : List Vertex} (h : Enqueued st ws st1)
    (h' : Enqueued st1 ws' st2) : Enqueued st (ws ++ ws') st2 := by
  have hle := h.le_created
  have hle' := h'.le_created
  refine ⟨h'.queue, h'.routes.trans h.routes, le_trans hle hle', ?_, ?_, ?_, ?_, ?_⟩
  · rw [h'.size, h.size, length_append]
    omega
  · intro v hv
    rw [h'.old v (lt_of_lt_of_le hv hle), h.old v hv]
  · intro v
    rw [h'.mem_iff, h.mem_iff]
    have hsplit : st.created ≤ v ∧ v < st2.created ↔
        (st.created ≤ v ∧ v < st1.created) ∨ st1.created ≤ v ∧ v < st2.created := by omega
    rw [hsplit, or_assoc]
  · intro v h1 h2
    rw [mem_append]
    rcases lt_or_ge v st1.created with hlt | hge
    · rw [h'.old v hlt]
      exact .inl (h.new_mem v h1 hlt)
    · exact .inr (h'.new_mem v hge h2)
  · intro w hw
    rcases mem_append.mp hw with hw | hw
    · obtain ⟨v, h1, h2, rfl⟩ := h.new_exists w hw
      exact ⟨v, h1, lt_of_lt_of_le h2 hle', h'.old v h2⟩
    · obtain ⟨v, h1, h2, rfl⟩ := h'.new_exists w hw
      exact ⟨v, le_trans hle h1, h2, rfl⟩

lemma enqueued_nil (h : QueueOk st) : Enqueued st [] st := by
  refine ⟨h, rfl, le_rfl, rfl, fun v _ => rfl, fun v => ?_, fun v h1 h2 => ?_, by simp⟩
  · have hno : ¬(st.created ≤ v ∧ v < st.created) := by omega
    rw [or_iff_left hno]
  · omega

lemma foldl_enqueueVertex (h : QueueOk st) (ws : List Vertex) :
    Enqueued st ws (ws.foldl enqueueVertex st) := by
  induction ws generalizing st with
  | nil => exact enqueued_nil h
  | cons w ws ih =>
    have hw := enqueueVertex_enqueued h w
    exact hw.trans (ih hw.queue)

lemma expandVertex_eq (area : SpfArea) (routerIsRoot : Bool) (st : SpfState) (v : Nat) :
    expandVertex area routerIsRoot st v =
      ((st.vertices v).lsa.lsdescs.filterMap (spfCandidate area routerIsRoot v (st.vertices v))).foldl
        enqueueVertex st := by
  unfold expandVertex
  rw [foldl_filterMap]
  dsimp only
  congr 1
  funext st' p
  cases spfCandidate area routerIsRoot v (st.vertices v) p <;> rfl

/-- The queue and the vertices' LSAs, costs and hops are the same, and no vertex has a new parent. -/
structure SameCore (st st' : SpfState) : Prop where
  created : st'.created = st.created
  candidateList : st'.candidateList = st.candidateList
  lsa : ∀ v, (st'.vertices v).lsa = (st.vertices v).lsa
  cost : ∀ v, (st'.vertices v).cost = (st.vertices v).cost
  hops : ∀ v, (st'.vertices v).hops = (st.vertices v).hops
  parent : ∀ v u, (st'.vertices v).parent = some u → (st.vertices v).parent = some u
  routes : st'.routes.map (fun r => (r.vertexId, r.cost, r.hops, r.vertex)) =
    st.routes.map fun r => (r.vertexId, r.cost, r.hops, r.vertex)

namespace SameCore

variable {st st1 st2 : SpfState}

lemma refl (st : SpfState) : SameCore st st :=
  ⟨rfl, rfl, fun _ => rfl, fun _ => rfl, fun _ => rfl, fun _ _ h => h, rfl⟩

section
variable (h : SameCore st st1) {r : SpfRoute}
include h

lemma trans (h' : SameCore st1 st2) : SameCore st st2 := by
  refine ⟨h'.created.trans h.created, h'.candidateList.trans h.candidateList, fun v => ?_,
    fun v => ?_, fun v => ?_, fun v u hu => h.parent v u (h'.parent v u hu),
    h'.routes.trans h.routes⟩
  · rw [h'.lsa, h.lsa]
  · rw [h'.cost, h.cost]
  · rw [h'.hops, h.hops]

lemma length (v : Nat) : st1.length v = st.length v := by
  unfold SpfState.length Vertex.length
  rw [h.cost, h.hops]

lemma candidates : st1.candidates = st.candidates := by
  unfold SpfState.candidates
  rw [h.candidateList]

lemma queue (hq : QueueOk st) : QueueOk st1 := by
  refine ⟨?_, h.candidates ▸ hq.nodup, fun v hv => ?_⟩
  · rw [h.candidateList]
    exact hq.ordered.congr fun v _ => (h.length v).symm
  · rw [h.created]
    exact hq.lt_created v (h.candidates ▸ hv)

lemma mem_routes (hr : r ∈ st1.routes) : ∃ r' ∈ st.routes, r'.vertexId = r.vertexId ∧
    r'.cost = r.cost ∧ r'.hops = r.hops ∧ r'.vertex = r.vertex := by
  obtain ⟨r', hr', heq⟩ := mem_map.mp (h.routes ▸ mem_map_of_mem hr)
  simp only [Prod.mk.injEq] at heq
  exact ⟨r', hr', heq⟩

lemma symm_routes (hr : r ∈ st.routes) : ∃ r' ∈ st1.routes, r'.vertexId = r.vertexId := by
  obtain ⟨r', hr', heq⟩ := mem_map.mp (h.routes ▸ mem_map_of_mem hr)
  exact ⟨r', hr', congrArg Prod.fst heq⟩

end

end SameCore

lemma setNexthop_sameCore (st : SpfState) (v : Nat) (l : List Nexthop) :
    SameCore st (st.setNexthop v l) := by
  have hcases : ∀ w, (st.setNexthop v l).vertices w = st.vertices w ∨
      (st.setNexthop v l).vertices w = { st.vertices w with nexthop := l } := by
    intro w
    by_cases hw : w = v
    · subst hw
      exact .inr (update_self ..)
    · exact .inl (update_of_ne hw ..)
  refine ⟨rfl, rfl, fun w => ?_, fun w => ?_, fun w => ?_, fun w u hu => ?_, rfl⟩
  · rcases hcases w with h | h <;> rw [h]
  · rcases hcases w with h | h <;> rw [h]
  · rcases hcases w with h | h <;> rw [h]
  · rcases hcases w with h | h <;> rw [h] at hu <;> exact hu

lemma ospf6VertexDelete_sameCore (st : SpfState) (v : Nat) :
    SameCore st (ospf6VertexDelete st v) := by
  refine ⟨rfl, rfl, fun w => ?_, fun w => ?_, fun w => ?_, fun w u hu => ?_, rfl⟩ <;>
    unfold ospf6VertexDelete at *
  · dsimp only
    split_ifs <;> rfl
  · dsimp only
    split_ifs <;> rfl
  · dsimp only
    split_ifs <;> rfl
  · dsimp only at hu
    split_ifs at hu
    exact hu

lemma ospf6VertexDelete_nexthop (st : SpfState) (v w : Nat) :
    ((ospf6VertexDelete st v).vertices w).nexthop = (st.vertices w).nexthop := by
  unfold ospf6VertexDelete
  dsimp only
  split_ifs <;> rfl

end OspfMdr.Ospf6
