import OspfMdr.Lib.DominatingSet
import OspfMdr.Proofs.MdrSelection

/-!
# The MDRs of a network

A network is a graph of routers with IDs, priorities and MDR levels, each of which runs the calculation on
its own interface. The routers that come out as MDRs are a connected dominating set.
-/

namespace OspfMdr.Ospf6
open Relation Lib List

/-- Routers, links and the state that all routers agree on when they calculate. -/
structure Network (V : Type) where
  graph : SimpleGraph V
  routerId : V → Nat
  priority : V → Nat
  level : V → MdrLevel
  routerId_injective : Function.Injective routerId
  routerId_pos : ∀ v, 0 < routerId v
  priority_pos : ∀ v, 1 ≤ priority v

/-- The order of routers: by priority, then by level, then by ID. -/
def Network.rank {V : Type} (net : Network V) (v : V) : Nat ×ₗ Nat ×ₗ Nat :=
  lexRank (net.priority v) (net.level v).toNat (net.routerId v)

/-- `on` is the entry for router `w`: it reports two hops and lists the neighbors of `w`. -/
structure EntryFor {V : Type} (net : Network V) (w : V) (on : MdrNeighbor) : Prop where
  routerId : on.routerId = net.routerId w
  priority : on.priority = net.priority w
  mdrLevel : on.mdrLevel = net.level w
  report2Hop : on.report2Hop
  rnl : ∀ id, id ∈ on.rnl ↔ ∃ x, net.graph.Adj w x ∧ id = net.routerId x

/-- The interface of router `v`: its two-way neighbors are exactly the graph neighbors. -/
structure InterfaceOf {V : Type} (net : Network V) (v : V) (oi : MdrInterface) : Prop where
  routerId : oi.routerId = net.routerId v
  priority : oi.priority = net.priority v
  mdrLevel : oi.mdrLevel = net.level v
  entry : ∀ on ∈ oi.neighborList, NeighborState.twoway.toNat ≤ on.state.toNat →
    ∃ w, net.graph.Adj v w ∧ EntryFor net w on
  listed : ∀ w, net.graph.Adj v w → ∃ on ∈ oi.neighborList,
    NeighborState.twoway.toNat ≤ on.state.toNat ∧ EntryFor net w on

section Local
variable {n : Nat} {nbr : Fin n → MdrNeighbor} {oi : MdrInterface} {m : CostMatrix n}

lemma isTwoWay_iff (j : Fin n) : isTwoWay nbr oi m j ↔ (nbr j).state.IsTwoway := by
  unfold isTwoWay ospf6MdrCost
  by_cases h : (nbr j).state.toNat < NeighborState.twoway.toNat
  · simp [h]
  · simp [h, not_lt.mp h]

lemma mdrLink_iff (k u : Fin n) (hk : (nbr k).state.IsTwoway) :
    mdrLink nbr oi m k u ↔ (nbr u).state.IsTwoway ∧
      ¬(nbr k).rank < lexRank oi.priority oi.mdrLevel.toNat oi.routerId ∧ m k u = 1 := by
  unfold mdrLink ospf6MdrCost
  rw [Bool.and_eq_true, isTwoWay_iff, if_neg (by omega)]
  have hlex := lexicographic_iff oi.priority (nbr k).priority oi.mdrLevel.toNat
    (nbr k).mdrLevel.toNat oi.routerId (nbr k).routerId
  change _ ↔ (nbr k).rank < _ at hlex
  rw [← hlex]
  split_ifs with h <;> simp [h, infty]

lemma finishSmaller_mdrLevel (maxPriority : Nat) (maxOn : Fin n) (maxOn2 : Option (Fin n)) :
    (finishSmaller nbr oi m maxPriority maxOn maxOn2).mdrLevel = .mdr ↔
      ∃ k, exceedsConstraint nbr oi m (search (mdrLink nbr oi m) (fun _ => true) maxOn) k := by
  unfold finishSmaller finishMdr
  simp only
  cases hdr : (List.finRange n).any
      (exceedsConstraint nbr oi m (search (mdrLink nbr oi m) (fun _ => true) maxOn)) with
  | true =>
    simp only [Bool.not_true, Bool.false_and, Bool.false_eq_true, ite_false, ite_true, true_iff]
    obtain ⟨k, _, hk⟩ := any_eq_true.mp hdr
    exact ⟨k, hk⟩
  | false =>
    have hnone : ¬∃ k, exceedsConstraint nbr oi m
        (search (mdrLink nbr oi m) (fun _ => true) maxOn) k := by
      rintro ⟨k, hk⟩
      have := any_eq_false.mp hdr k (mem_finRange k)
      exact this hk
    simp only [hnone, iff_false, Bool.not_false, Bool.true_and, Bool.false_eq_true, ite_false]
    split_ifs <;> simp

lemma calculateMdr_of_max {j : Fin n} (hid : (nbr j).routerId ≠ 0)
    (hmax :
      (selectMax nbr (isTwoWay nbr oi (ospf6MdrCreateCostMatrix nbr))).1 = MaxCandidate.ofNeighbor nbr j) :
    ((calculateMdr nbr oi).mdrLevel = .mdr) ↔
      (nbr j).rank < lexRank oi.priority oi.mdrLevel.toNat oi.routerId ∨
      ∃ k, exceedsConstraint nbr oi (ospf6MdrCreateCostMatrix nbr)
          (search (mdrLink nbr oi (ospf6MdrCreateCostMatrix nbr)) (fun _ => true) j) k := by
  have hlex := lexicographic_iff oi.priority (nbr j).priority oi.mdrLevel.toNat
    (nbr j).mdrLevel.toNat oi.routerId (nbr j).routerId
  change _ ↔ (nbr j).rank < _ at hlex
  unfold calculateMdr
  dsimp only
  rw [hmax]
  simp only [MaxCandidate.ofNeighbor, hid, ite_false, ← hlex]
  by_cases h : ospf6SidcdsLexicographic oi.priority (nbr j).priority oi.mdrLevel.toNat
      (nbr j).mdrLevel.toNat oi.routerId (nbr j).routerId
  · simp [h, finishLargest, finishMdr]
  · simp only [h, Bool.false_eq_true, ite_false, false_or]
    exact finishSmaller_mdrLevel ..

end Local

section Router
variable {V : Type} {net : Network V}

variable {w v : V} {on : MdrNeighbor} {oi : MdrInterface} {j : Fin oi.neighborList.length}

lemma EntryFor.rank_eq (h : EntryFor net w on) : on.rank = net.rank w := by
  unfold MdrNeighbor.rank Network.rank
  rw [h.priority, h.mdrLevel, h.routerId]

lemma EntryFor.unique {x : V} (h : EntryFor net w on) (h' : EntryFor net x on) :
    w = x := net.routerId_injective (h.routerId.symm.trans h'.routerId)

lemma Network.rank_injective : Function.Injective net.rank := by
  intro v w h
  have h2 := congrArg (fun p => (ofLex (ofLex p).2).2) h
  exact net.routerId_injective h2

lemma Network.init_lt_rank (w : V) (n : Nat) : (maxCandidateInit n).rank < net.rank w := by
  unfold MaxCandidate.rank maxCandidateInit Network.rank lexRank
  rw [Prod.Lex.toLex_lt_toLex, Prod.Lex.toLex_lt_toLex]
  have hp := net.priority_pos w
  have hid := net.routerId_pos w
  simp only [MdrLevel.toNat]
  omega

lemma InterfaceOf.entry_get (hv : InterfaceOf net v oi)
    (hj : (oi.neighborList.get j).state.IsTwoway) :
    ∃ w, net.graph.Adj v w ∧ EntryFor net w (oi.neighborList.get j) :=
  hv.entry _ (get_mem _ j) hj

lemma InterfaceOf.listed_get (hv : InterfaceOf net v oi) (hw : net.graph.Adj v w) :
    ∃ j : Fin oi.neighborList.length,
      (oi.neighborList.get j).state.IsTwoway ∧ EntryFor net w (oi.neighborList.get j) := by
  obtain ⟨on, hmem, hstate, hentry⟩ := hv.listed w hw
  obtain ⟨j, rfl⟩ := get_of_mem hmem
  exact ⟨j, hstate, hentry⟩

lemma adj_of_costMatrix {n : Nat} {nbr : Fin n → MdrNeighbor} {a b : Fin n} {x y : V}
    (hx : EntryFor net x (nbr a)) (hy : EntryFor net y (nbr b))
    (h : ospf6MdrCreateCostMatrix nbr a b = 1) : net.graph.Adj x y := by
  have hmem : (nbr b).routerId ∈ (nbr a).rnl :=
    ((costMatrix_eq_one_iff nbr).mp h).2.2.2.2.1 hx.report2Hop
  obtain ⟨z, hz, hid⟩ := (hx.rnl _).mp hmem
  rw [hy.routerId] at hid
  rwa [net.routerId_injective hid]

lemma localHops_of_links (hv : InterfaceOf net v oi) {k : Fin oi.neighborList.length}
    (hj : (oi.neighborList.get j).state.IsTwoway) (hw : net.graph.Adj v w)
    (hwj : EntryFor net w (oi.neighborList.get j))
    (h : ReflTransGen
        (fun a b => mdrLink oi.neighborList.get oi (ospf6MdrCreateCostMatrix oi.neighborList.get) a b) j k) :
    (oi.neighborList.get k).state.IsTwoway ∧
    ∃ x, net.graph.Adj v x ∧ EntryFor net x (oi.neighborList.get k) ∧
      ReflTransGen (LocalHop net.graph net.rank v) w x := by
  induction h with
  | refl => exact ⟨hj, w, hw, hwj, ReflTransGen.refl⟩
  | @tail a b _ hlink ih =>
    obtain ⟨ha, x, hvx, hx, hpath⟩ := ih
    obtain ⟨hb, hrank, hcost⟩ := (mdrLink_iff a b ha).mp hlink
    obtain ⟨y, hvy, hy⟩ := hv.entry_get hb
    rw [hx.rank_eq, hv.priority, hv.mdrLevel, hv.routerId] at hrank
    have hlt : net.rank v < net.rank x :=
      lt_of_le_of_ne (not_lt.mp hrank) fun h => hvx.ne (net.rank_injective h)
    exact ⟨hb, y, hvy, hy, hpath.tail ⟨hvx, hvy, adj_of_costMatrix hx hy hcost, hlt⟩⟩

lemma covered_of_not_mdr {elapsed : Nat} (hv : InterfaceOf net v oi) (hne : ∃ w, net.graph.Adj v w)
    (hwait : startupWait elapsed oi = false) (hc : oi.mdrConstraint < infty)
    (h : (ospf6CalculateMdr elapsed oi).mdrLevel ≠ .mdr) : Covered net.graph net.rank v := by
  have hscan := selectMax_inv oi.neighborList.get
    (isTwoWay oi.neighborList.get oi (ospf6MdrCreateCostMatrix oi.neighborList.get))
  -- the scan ends at a two-way neighbor, since there is one and it exceeds the initial value
  obtain ⟨w0, hw0⟩ := hne
  obtain ⟨j0, hj0, hentry0⟩ := hv.listed_get hw0
  have hinit := (net.init_lt_rank w0 oi.neighborList.length).trans_le
    (hentry0.rank_eq ▸ hscan.le j0 (mem_finRange j0) ((isTwoWay_iff j0).mpr hj0))
  rcases hscan.attained with hmax | ⟨j, _, hj, hmax⟩
  · rw [hmax] at hinit
    exact absurd hinit (lt_irrefl _)
  rw [isTwoWay_iff] at hj
  obtain ⟨w, hvw, hw⟩ := hv.entry_get hj
  have hid : (oi.neighborList.get j).routerId ≠ 0 := by
    rw [hw.routerId]
    exact (net.routerId_pos w).ne'
  have hmaxRank : (MaxCandidate.ofNeighbor oi.neighborList.get j).rank = net.rank w := hw.rank_eq
  rw [ospf6CalculateMdr, hwait, if_neg Bool.false_ne_true, Ne, calculateMdr_of_max hid hmax,
    not_or, not_exists, hw.rank_eq, hv.priority, hv.mdrLevel, hv.routerId] at h
  obtain ⟨hlex, hhops⟩ := h
  have hreach : ∀ x, net.graph.Adj v x →
      ReflTransGen (LocalHop net.graph net.rank v) w x := by
    intro x hvx
    obtain ⟨k, hk, hx⟩ := hv.listed_get hvx
    have hhops := hhops k
    simp only [exceedsConstraint, (isTwoWay_iff k).mpr hk, Bool.true_and, decide_eq_true_eq,
      not_lt] at hhops
    have hfin := lt_of_le_of_lt hhops hc
    have hpath := (search_inv _ _ j).reached k (by exact_mod_cast hfin)
    obtain ⟨_, y, _, hy, hlocal⟩ := localHops_of_links hv hj hvw hw hpath
    rwa [hx.unique hy]
  refine ⟨w, hvw, ?_, ?_, hreach⟩
  · exact lt_of_le_of_ne (not_lt.mp hlex) fun h => hvw.ne (net.rank_injective h)
  · intro x hvx
    obtain ⟨k, hk, hx⟩ := hv.listed_get hvx
    have := hscan.le k (mem_finRange k) ((isTwoWay_iff k).mpr hk)
    rwa [hx.rank_eq, hmax, hmaxRank] at this

/-- The routers that run the calculation on a common snapshot and come out as MDRs are a
connected dominating set, once they are past the start-up wait. -/
theorem mdrs_connected_dominating [Finite V] [Nontrivial V] (hconn : net.graph.Connected)
    (elapsed : V → Nat) (oi : V → MdrInterface) (hoi : ∀ v, InterfaceOf net v (oi v))
    (hwait : ∀ v, startupWait (elapsed v) (oi v) = false)
    (hc : ∀ v, (oi v).mdrConstraint < infty) :
    IsConnectedDominatingSet net.graph
      {v | (ospf6CalculateMdr (elapsed v) (oi v)).mdrLevel = .mdr} := by
  apply isConnectedDominatingSet_of_covered net.rank hconn
  intro v hv
  have hne : ∃ w, net.graph.Adj v w := hconn.preconnected.exists_adj_of_nontrivial v
  exact covered_of_not_mdr (hoi v) hne (hwait v) (hc v) hv

end Router

/-! ### Concrete networks -/

section Concrete
variable {n : Nat} (net : Network (Fin n)) [DecidableRel net.graph.Adj]

def Network.neighbors (v : Fin n) : List (Fin n) :=
  (List.finRange n).filter fun w => decide (net.graph.Adj v w)

/-- The interface that the router has in the network. -/
def Network.interface (allowImmediateHello : Bool) (mdrConstraint : Int) (v : Fin n) :
    MdrInterface where
  routerId := net.routerId v
  priority := net.priority v
  helloInterval := 2
  allowImmediateHello := allowImmediateHello
  twoHopRefresh := 1
  adjConnectivity := .uniConnected
  mdrConstraint := mdrConstraint
  mdrLevel := net.level v
  nonfloodingMdr := false
  parent := none
  bparent := none
  neighborList := (net.neighbors v).map fun w =>
    { routerId := net.routerId w, priority := net.priority w, state := .full, mdrLevel := net.level w,
      report2Hop := true, rnl := (net.neighbors w).map net.routerId, dependent := false }

lemma Network.interfaceOf_interface (allowImmediateHello : Bool) (mdrConstraint : Int) (v : Fin n) :
    InterfaceOf net v (net.interface allowImmediateHello mdrConstraint v) := by
  have hentry : ∀ w, EntryFor net w
      { routerId := net.routerId w, priority := net.priority w, state := .full,
        mdrLevel := net.level w, report2Hop := true, rnl := (net.neighbors w).map net.routerId,
        dependent := false } := by
    intro w
    refine ⟨rfl, rfl, rfl, rfl, ?_⟩
    intro id
    simp [Network.neighbors, eq_comm]
  refine ⟨rfl, rfl, rfl, ?_, ?_⟩
  · intro on hon _
    obtain ⟨w, hw, rfl⟩ := mem_map.mp hon
    exact ⟨w, by simpa [Network.neighbors] using hw, hentry w⟩
  · intro w hw
    refine ⟨_, mem_map_of_mem (by simpa [Network.neighbors] using hw), ?_, hentry w⟩
    simp [NeighborState.toNat]

end Concrete

def rowNetwork : Network (Fin 3) where
  graph := SimpleGraph.fromRel fun a b => a.val + 1 = b.val
  routerId v := v.val + 1
  priority _ := 1
  level _ := .other
  routerId_injective := by intro a b h; exact Fin.ext (by simpa using h)
  routerId_pos v := Nat.succ_pos _
  priority_pos _ := le_refl 1

instance : DecidableRel rowNetwork.graph.Adj :=
  inferInstanceAs (DecidableRel (SimpleGraph.fromRel fun a b : Fin 3 => a.val + 1 = b.val).Adj)

lemma rowNetwork_connected : rowNetwork.graph.Connected := by
  have h01 : rowNetwork.graph.Adj 0 1 := by decide
  have h12 : rowNetwork.graph.Adj 1 2 := by decide
  have hreach : ∀ v, rowNetwork.graph.Reachable 0 v := by
    intro v
    match v with
    | 0 => exact SimpleGraph.Reachable.refl _
    | 1 => exact h01.reachable
    | 2 => exact h01.reachable.trans h12.reachable
  exact ⟨fun a b => (hreach a).symm.trans (hreach b)⟩

theorem mdrs_connected_dominating_row :
    IsConnectedDominatingSet rowNetwork.graph
      {v | (ospf6CalculateMdr 0 (rowNetwork.interface true 3 v)).mdrLevel = .mdr} :=
  mdrs_connected_dominating rowNetwork_connected (fun _ => 0) (rowNetwork.interface true 3)
    (rowNetwork.interfaceOf_interface true 3) (by decide) (by decide)

/-- During the start-up wait nothing is selected, and a constraint of `INFTY` hides the
neighbors that the search did not reach. -/
theorem mdrs_not_dominating_row :
    (∀ v, InterfaceOf rowNetwork v (rowNetwork.interface false 3 v)) ∧
    ¬IsConnectedDominatingSet rowNetwork.graph
      {v | (ospf6CalculateMdr 0 (rowNetwork.interface false 3 v)).mdrLevel = .mdr} ∧
    (∀ v, InterfaceOf rowNetwork v (rowNetwork.interface true 10000 v)) ∧
    ¬IsConnectedDominatingSet rowNetwork.graph
      {v | (ospf6CalculateMdr 0 (rowNetwork.interface true 10000 v)).mdrLevel = .mdr} := by
  refine ⟨rowNetwork.interfaceOf_interface false 3, ?_, rowNetwork.interfaceOf_interface true 10000, ?_⟩
  all_goals
    intro h
    have h0 := h.dominating 0
    revert h0
    decide

end OspfMdr.Ospf6
