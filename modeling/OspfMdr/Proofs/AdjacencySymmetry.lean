import OspfMdr.Proofs.AdjacencyLimit
import OspfMdr.Proofs.AdjacencyParents

namespace OspfMdr.Ospf6

open Lib List

/-- No Hello of the router itself is received. -/
def ForeignHello (oi : AdjInterface) (e : AdjEnv × AdjEvent) : Prop :=
  match e.2 with
  | .create routerId _ _ _ => routerId ≠ oi.routerId
  | _ => True

instance (oi : AdjInterface) (e : AdjEnv × AdjEvent) : Decidable (ForeignHello oi e) := by
  unfold ForeignHello
  split <;> infer_instance

/-- The parents that a router of its level has; neither they nor the neighbors are the router itself. -/
structure ParentLevels (oi : AdjInterface) : Prop where
  mdr : oi.mdrLevel = .mdr → oi.parent = none
  bmdr : oi.mdrLevel = .bmdr → oi.bparent = none
  records : ∀ r, oi.Records r → r.routerId ≠ oi.routerId
  listed : ∀ id ∈ oi.view.map (·.1.routerId), id ≠ oi.routerId

section levels

variable {env : AdjEnv} {oi oi' : AdjInterface} {on : AdjNeighbor}

lemma SameFrame.parentLevels (hframe : SameFrame oi oi') (hids : oi'.view.map (·.1.routerId) ⊆
    oi.view.map (·.1.routerId)) (h : ParentLevels oi) : ParentLevels oi' := by
  have hrecords := fun r => (hframe.records (r := r)).mp
  constructor
  · rw [hframe]
    exact h.mdr
  · rw [hframe]
    exact h.bmdr
  · intro r hr
    rw [hframe]
    exact h.records r (hrecords r hr)
  · intro id hid
    rw [hframe]
    exact h.listed id (hids hid)

lemma SameRefs.parentLevels (hsame : SameRefs oi oi') (h : ParentLevels oi) : ParentLevels oi' := by
  refine hsame.frame.parentLevels ?_ h
  intro id hid
  obtain ⟨p, hp, rfl⟩ := mem_map.mp hid
  obtain ⟨q, hq, hqp⟩ := hsame.mem.mp ⟨p, hp, rfl⟩
  exact mem_map.mpr ⟨q, hq, congrArg NeighborRef.routerId hqp⟩

namespace ParentLevels

lemma calculate (hdistinct : oi.view.Distinct) (h : ParentLevels oi) (elapsed : Nat) :
    ParentLevels (oi.calculateMdr elapsed) := by
  cases hwait : startupWait elapsed oi.toMdr with
  | true =>
    rw [calculateMdr_waits hwait]
    exact h
  | false =>
    have hrecorded : (oi.calculateMdr elapsed).RecordedIn fun _ => False :=
      calculateMdr_recorded hdistinct hwait
    have hid : (oi.calculateMdr elapsed).routerId = oi.routerId := by
      unfold AdjInterface.calculateMdr
      split_ifs <;> rfl
    have hlisted : ∀ id ∈ (oi.calculateMdr elapsed).view.map (·.1.routerId), id ≠ oi.routerId := by
      rw [view_calculateMdr]
      exact h.listed
    obtain ⟨level, nonflooding, parent, bparent, dependent, heq, hchoice⟩ :=
      calculateMdr_choice oi.toMdr.neighborList.get oi.toMdr
    refine ⟨?_, ?_, fun r hr => ?_, fun id hmem => ?_⟩
    · unfold AdjInterface.calculateMdr
      rw [hwait, heq]
      intro hlevel
      rw [hchoice.mdr hlevel]
      rfl
    · unfold AdjInterface.calculateMdr
      rw [hwait, heq]
      intro hlevel
      rw [hchoice.bmdr hlevel]
      rfl
    · obtain ⟨p, hp, rfl, -⟩ := hrecorded r hr
      rw [hid]
      exact hlisted _ (mem_map_of_mem hp)
    · rw [hid]
      exact hlisted id hmem

lemma act (hact : AdjAct env oi oi') (hdistinct : oi.view.Distinct) (h : ParentLevels oi) :
    ParentLevels oi' := by
  cases hact with
  | read routerId f hf =>
    have hsame : SameRefs oi (oi.modify routerId f) := ⟨rfl, by rw [view_modify routerId fun on => (hf on).1]⟩
    exact hsame.parentLevels h
  | set on next _ _ _ => exact (setState_sameRefs on.routerId next).parentLevels h
  | updateLsa _ => exact updateLsa_sameRefs.parentLevels h
  | routable =>
    have hsame : SameRefs oi (ospf6MdrUpdateRoutableNeighbors env.route oi).1 :=
      ⟨updateRoutableNeighbors_frame env.route, by rw [view_updateRoutableNeighbors]⟩
    exact hsame.parentLevels h
  | calculate _ => exact h.calculate hdistinct env.elapsed
  | elected _ _ _ => exact { h with }

lemma remove (h : ParentLevels oi) (routerId : Nat) : ParentLevels (oi.remove routerId) := by
  have hframe : SameFrame oi (oi.remove routerId) := rfl
  refine hframe.parentLevels (map_subset _ ?_) h
  rw [view_remove]
  exact filter_sublist.subset

lemma tail {l : List AdjNeighbor} (h : ParentLevels oi) (hlist : oi.neighborList = on :: l) :
    ParentLevels { oi with neighborList := l } := by
  have hframe : SameFrame oi { oi with neighborList := l } := rfl
  refine hframe.parentLevels (map_subset _ ?_) h
  rw [view_tail hlist]
  exact subset_cons_self _ _

lemma create (h : ParentLevels oi) {routerId : Nat} (hforeign : routerId ≠ oi.routerId)
    (priority drouter bdrouter : Nat) :
    ParentLevels (oi.create routerId priority drouter bdrouter) := by
  have hview := view_create oi routerId priority drouter bdrouter
  unfold AdjInterface.create at hview ⊢
  split
  · exact h
  rename_i hnone
  rw [hnone] at hview
  refine ⟨h.mdr, h.bmdr, h.records, fun id hid => ?_⟩
  rcases hview with hview | ⟨-, hperm⟩
  · rw [hview] at hid
    exact h.listed id hid
  · rcases mem_cons.mp ((hperm.map _).mem_iff.mp hid) with rfl | hid
    · exact hforeign
    · exact h.listed id hid

lemma step {e : AdjEvent} (hdistinct : oi.view.Distinct) (h : ParentLevels oi)
    (hok : ForeignHello oi (env, e)) : ParentLevels (adjStep oi (env, e)) := by
  refine StepKeeps.step ⟨fun hact hd ha => ha.act hact hd,
    fun routerId _ _ => (setState_sameRefs routerId _).parentLevels, fun routerId ha => ha.remove routerId,
    h.tail, ?_, fun _ _ _ => (raise_sameRefs _ _).parentLevels h, fun _ _ => { h with },
    fun _ _ => { h with }⟩ hdistinct h
  rintro routerId priority drouter bdrouter rfl
  exact h.create hok priority drouter bdrouter

end ParentLevels

/-- Reached by a run without a second router of the same router ID. -/
def AdjInterface.Reachable (oi : AdjInterface) : Prop :=
  ∃ routerId config events, StepsOk adjStep ForeignHello (newAdjInterface routerId config) events ∧
    adjRun (newAdjInterface routerId config) events = oi

lemma AdjInterface.Reachable.parentLevels (h : oi.Reachable) : oi.view.Distinct ∧ ParentLevels oi := by
  obtain ⟨routerId, config, events, hok, rfl⟩ := h
  have hnew : ParentLevels (newAdjInterface routerId config) := by
    refine ⟨fun _ => rfl, fun _ => rfl, ?_, ?_⟩
    · rintro r (hr | hr) <;> exact absurd hr (by simp [newAdjInterface])
    · intro id hid
      exact absurd hid not_mem_nil
  exact adjRun_inv hnew ParentLevels.step hok

end levels

/-- The neighbor's level, its parents and its use of adjacency reduction are as its Hello now has
them. -/
structure AdjNeighbor.Reflects (on : AdjNeighbor) (own : Nat) (oi : AdjInterface) : Prop where
  routerId : on.routerId = oi.routerId
  aBit : on.aBit = decide (oi.config.adjConnectivity = .fullyConnected)
  level : (ospf6MdrSetMdrLevel own (helloDrouter oi) (helloBdrouter oi) on).1 = on

/-- The neighbor's entry says whether the last Hello of `oi` listed `own` as dependent. -/
def AdjNeighbor.ReflectsDependent (on : AdjNeighbor) (own : Nat) (oi : AdjInterface) : Prop :=
  on.dependentSelector = decide (own ∈ helloDnl oi)

/-- The router ID is that of a parent, where a missing parent has the ID 0. -/
def AdjInterface.IsParent (oi : AdjInterface) (routerId : Nat) : Prop :=
  routerId = (oi.parent.map (·.routerId)).getD 0 ∨ routerId = (oi.bparent.map (·.routerId)).getD 0

section symmetry

variable {oi : AdjInterface} {on : AdjNeighbor} {own : Nat}

lemma needAdjacency_iff (oi : AdjInterface) (on : AdjNeighbor) :
    ospf6MdrNeighborNeedAdjacency oi on ↔
      oi.config.adjConnectivity = .fullyConnected ∨ on.aBit ∨
      (MdrLevel.bmdr.toNat ≤ oi.mdrLevel.toNat ∧ MdrLevel.bmdr.toNat ≤ on.mdrLevel.toNat ∧
        (on.dependent ∨ on.dependentSelector)) ∨
      (MdrLevel.bmdr.toNat ≤ oi.mdrLevel.toNat ∧ on.child) ∨
      (MdrLevel.bmdr.toNat ≤ on.mdrLevel.toNat ∧ oi.IsParent on.routerId) := by
  unfold ospf6MdrNeighborNeedAdjacency AdjInterface.IsParent
  grind

lemma parent_ne (h : ParentLevels oi) (h0 : oi.routerId ≠ 0) : oi.routerId ≠
    (oi.parent.map (·.routerId)).getD 0 ∧ oi.routerId ≠ (oi.bparent.map (·.routerId)).getD 0 := by
  constructor
  · cases hp : oi.parent with
    | none => exact h0
    | some r => exact (h.records r (.inl hp)).symm
  · cases hp : oi.bparent with
    | none => exact h0
    | some r => exact (h.records r (.inr hp)).symm

lemma AdjNeighbor.Reflects.mdrLevel (href : on.Reflects own oi) (h : ParentLevels oi)
    (h0 : oi.routerId ≠ 0) : on.mdrLevel = oi.mdrLevel := by
  obtain ⟨hparent, hbparent⟩ := parent_ne h h0
  have hlevel := congrArg (fun on : AdjNeighbor => on.mdrLevel) href.level
  rw [← hlevel]
  unfold ospf6MdrSetMdrLevel helloDrouter helloBdrouter
  rw [href.routerId]
  cases hm : oi.mdrLevel with
  | mdr => simp
  | bmdr => simp [hparent]
  | other => simp [hparent, hbparent]

lemma AdjNeighbor.Reflects.child_iff (href : on.Reflects own oi) (h : ParentLevels oi) (h0 : own ≠ 0)
    (hne : own ≠ oi.routerId) : on.child ↔ oi.IsParent own := by
  have hchild := congrArg (fun on : AdjNeighbor => on.child) href.level
  rw [← hchild]
  unfold ospf6MdrSetMdrLevel helloDrouter helloBdrouter AdjInterface.IsParent
  rw [decide_eq_true_iff]
  cases hm : oi.mdrLevel with
  | mdr => simp [h.mdr hm, hne, h0]
  | bmdr => simp [h.bmdr hm, hne, h0]
  | other => simp

lemma AdjNeighbor.ReflectsDependent.iff (href : on.ReflectsDependent own oi)
    (hdistinct : oi.view.Distinct) {other : AdjNeighbor} (hmem : other ∈ oi.neighborList)
    (hid : other.routerId = own) (hstate : other.state.IsTwoway) :
    on.dependentSelector ↔ other.dependent := by
  have hne : ∀ state : NeighborState, state.toNat < NeighborState.twoway.toNat → other.state ≠ state := by
    rintro state hlt rfl
    omega
  rw [href, decide_eq_true_iff]
  constructor
  · intro hdnl
    obtain ⟨x, hx, hxid⟩ := mem_map.mp hdnl
    obtain ⟨hxmem, hxdep⟩ := mem_filter.mp hx
    obtain rfl : x = other := eq_of_routerId hdistinct hxmem hmem (hxid.trans hid.symm)
    exact (of_decide_eq_true hxdep).2.2
  · intro hdep
    refine mem_map.mpr ⟨other, mem_filter.mpr ⟨hmem, decide_eq_true ?_⟩, hid⟩
    exact ⟨hne .down (by decide), hne .init (by decide), hdep⟩

end symmetry

/-- Two routers that are two-way with each other and know what the other's Hello says of its level,
its parents and its adjacencies. -/
structure MutualNeighbors (a b : AdjInterface) (onb ona : AdjNeighbor) : Prop where
  reachable : a.Reachable ∧ b.Reachable
  routerId : a.routerId ≠ 0 ∧ b.routerId ≠ 0 ∧ a.routerId ≠ b.routerId
  listed : onb ∈ a.neighborList ∧ ona ∈ b.neighborList
  twoway : NeighborState.twoway.toNat ≤ onb.state.toNat ∧ NeighborState.twoway.toNat ≤ ona.state.toNat
  setting : a.config.adjConnectivity = b.config.adjConnectivity
  reflects : onb.Reflects a.routerId b ∧ ona.Reflects b.routerId a

/-- The need for an adjacency is symmetric between neighbors that also know the other's dependent
neighbors. -/
theorem needAdjacency_symm {a b : AdjInterface} {onb ona : AdjNeighbor}
    (h : MutualNeighbors a b onb ona) (hb : onb.ReflectsDependent a.routerId b)
    (ha : ona.ReflectsDependent b.routerId a) :
    ospf6MdrNeighborNeedAdjacency a onb = ospf6MdrNeighborNeedAdjacency b ona := by
  obtain ⟨⟨hreacha, hreachb⟩, ⟨ha0, hb0, hne⟩, ⟨hmemb, hmema⟩, ⟨htwob, htwoa⟩, hset, hrefb, hrefa⟩ := h
  obtain ⟨hdista, hlevela⟩ := hreacha.parentLevels
  obtain ⟨hdistb, hlevelb⟩ := hreachb.parentLevels
  have hdepb := hb.iff hdistb hmema hrefa.routerId htwoa
  have hdepa := ha.iff hdista hmemb hrefb.routerId htwob
  have hchildb := hrefb.child_iff hlevelb ha0 hne
  have hchilda := hrefa.child_iff hlevela hb0 hne.symm
  rw [Bool.eq_iff_iff, needAdjacency_iff, needAdjacency_iff, hrefb.mdrLevel hlevelb hb0,
    hrefa.mdrLevel hlevela ha0, hdepa, hdepb, hchilda, hchildb, hrefa.routerId, hrefb.routerId,
    hrefa.aBit, hrefb.aBit, decide_eq_true_iff, decide_eq_true_iff, hset]
  -- dependent neighbors on either side, and parents on either side
  refine or_congr_right (or_congr_right (or_congr ?_ or_comm))
  rw [and_left_comm, or_comm]

def uniConfig : AdjConfig := ⟨1, 10, false, 1, .uniConnected, .minCost, 3, 1, 0⟩

def fullHello (drouter bdrouter : Nat) (rnl dnl : List Nat) : HelloInfo :=
  ⟨1, drouter, bdrouter, true, false, true, true, 1, rnl, dnl, []⟩

/-- A run long after the start, without routes to the neighbors. -/
def lateRun (routerId : Nat) (events : List AdjEvent) : AdjInterface :=
  adjRun (newAdjInterface routerId uniConfig) (events.map (quietEnv 100, ·))

lemma lateRun_reachable {routerId : Nat} {events : List AdjEvent}
    (h : StepsOk adjStep ForeignHello (newAdjInterface routerId uniConfig)
      (events.map (quietEnv 100, ·))) : (lateRun routerId events).Reachable :=
  ⟨routerId, uniConfig, _, h, rfl⟩

def AdjInterface.entry (oi : AdjInterface) (routerId : Nat) : AdjNeighbor :=
  (oi.lookup routerId).getD (newAdjNeighbor routerId 0 0 0 0)

def childOf2 : AdjInterface :=
  lateRun 1 [.setType .mdr, .create 2 1 0 0, .hello 2 (fullHello 2 0 [1] []), .helloSend]

def parentOf1 : AdjInterface :=
  lateRun 2 [.setType .mdr, .create 1 1 0 0, .hello 1 (fullHello 2 0 [2] []), .helloSend]

lemma childOf2_parentOf1 :
    MutualNeighbors childOf2 parentOf1 (childOf2.entry 2) (parentOf1.entry 1) := by
  refine ⟨⟨?_, ?_⟩, by decide, by decide, by decide, by decide, ?_, ?_⟩
  · exact lateRun_reachable (by decide)
  · exact lateRun_reachable (by decide)
  all_goals exact ⟨by decide, by decide, by decide⟩

theorem needAdjacency_childOf2 : MutualNeighbors childOf2 parentOf1 (childOf2.entry 2)
    (parentOf1.entry 1) ∧ ospf6MdrNeighborNeedAdjacency childOf2 (childOf2.entry 2) =
    ospf6MdrNeighborNeedAdjacency parentOf1 (parentOf1.entry 1) :=
  ⟨childOf2_parentOf1, needAdjacency_symm childOf2_parentOf1 (by decide : _ = _) (by decide : _ = _)⟩

def selector9 : AdjInterface :=
  lateRun 9 [.setType .mdr, .create 2 1 0 0, .hello 2 (fullHello 0 0 [9] []), .helloSend,
    .hello 2 (fullHello 2 10 [9] []), .helloSend]

def selected2 : AdjInterface :=
  lateRun 2 [.setType .mdr, .create 9 1 0 0, .create 10 1 0 0, .create 3 1 0 0,
    .hello 9 (fullHello 9 0 [2, 10] []), .hello 10 (fullHello 10 0 [2, 9] []),
    .hello 3 (fullHello 0 0 [2] []), .helloSend]

/-- Router 9 needs an adjacency with router 2, which has not heard that it is dependent. -/
theorem needAdjacency_not_symm : MutualNeighbors selector9 selected2 (selector9.entry 2)
    (selected2.entry 9) ∧ ospf6MdrNeighborNeedAdjacency selector9 (selector9.entry 2) ∧
    ospf6MdrNeighborNeedAdjacency selected2 (selected2.entry 9) = false := by
  refine ⟨⟨⟨?_, ?_⟩, by decide +kernel, by decide +kernel, by decide +kernel,
    by decide +kernel, ?_, ?_⟩, by decide +kernel, by decide +kernel⟩
  · exact lateRun_reachable (by decide +kernel)
  · exact lateRun_reachable (by decide +kernel)
  all_goals exact ⟨by decide +kernel, by decide +kernel, by decide +kernel⟩

end OspfMdr.Ospf6
