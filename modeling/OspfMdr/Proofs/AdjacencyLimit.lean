import OspfMdr.Proofs.AdjacencySteps

namespace OspfMdr.Ospf6

open Lib List AdjInterface

/-- How many neighbors are between ExStart and Loading. -/
def NeighborView.forming (v : NeighborView) : Nat := v.countP fun p => p.2.isForming

open NeighborView

lemma formationCount_eq (oi : AdjInterface) :
    ospf6InterfaceAdjacencyFormationCount oi = oi.view.forming := by
  unfold ospf6InterfaceAdjacencyFormationCount forming view
  rw [countP_map, countP_eq_length_filter]
  rfl

variable {routerId : Nat} {e : AdjEvent}

section view

variable {v : NeighborView} {p : NeighborRef × NeighborState}

lemma set_of_not_mem (h : routerId ∉ v.map (·.1.routerId)) (next : NeighborState) :
    v.set routerId next = v := by
  unfold NeighborView.set
  rw [map_congr_left fun q hq => if_neg ?_, map_id']
  rintro rfl
  exact h (mem_map_of_mem hq)

lemma forming_set (hv : v.Distinct) (hp : p ∈ v) (next : NeighborState) :
    (v.set p.1.routerId next).forming + p.2.isForming.toNat = v.forming + next.isForming.toNat := by
  induction v with
  | nil => exact absurd hp not_mem_nil
  | cons q v ih =>
    obtain ⟨hq, hv'⟩ := nodup_cons.mp hv
    rcases mem_cons.mp hp with rfl | hp
    · have hset : set (p :: v) p.1.routerId next = (p.1, next) :: v := by
        unfold NeighborView.set
        rw [map_cons, if_pos rfl]
        exact congrArg _ (set_of_not_mem hq next)
      rw [hset]
      unfold forming
      rw [countP_cons, countP_cons]
      cases p.2.isForming <;> cases next.isForming <;> simp
    have hne : q.1.routerId ≠ p.1.routerId := fun he => hq (mem_map.mpr ⟨p, hp, he.symm⟩)
    have hset : set (q :: v) p.1.routerId next =
        q :: set v p.1.routerId next := by
      unfold NeighborView.set
      rw [map_cons, if_neg hne]
    have hrest := ih hv' hp
    unfold forming at hrest ⊢
    rw [hset, countP_cons, countP_cons]
    omega

end view

/-- No more adjacencies are being formed than the limit allows, if there is one. -/
def AdjInterface.WithinLimit (oi : AdjInterface) : Prop :=
  oi.config.adjacencyFormationLimit > 0 →
    ospf6InterfaceAdjacencyFormationCount oi ≤ oi.config.adjacencyFormationLimit

/-- A Full neighbor starts again only below the limit, and no limit is configured below the number
of adjacencies being formed. -/
def LimitOk (oi : AdjInterface) (e : AdjEnv × AdjEvent) : Prop :=
  match e.2 with
  | .seqnumberMismatch routerId | .badLsreq routerId => ∀ on, oi.lookup routerId = some on →
      on.state = .full → oi.config.adjacencyFormationLimit > 0 →
        ospf6InterfaceAdjacencyFormationCount oi < oi.config.adjacencyFormationLimit
  | .configure config => config.adjacencyFormationLimit > 0 →
      ospf6InterfaceAdjacencyFormationCount oi ≤ config.adjacencyFormationLimit
  | _ => True

section limit

variable {env : AdjEnv} {oi oi' : AdjInterface} {on : AdjNeighbor}

lemma AdjInterface.WithinLimit.mono (h : oi.WithinLimit) (hconfig : oi'.config = oi.config)
    (hle : oi'.view.forming ≤ oi.view.forming) : oi'.WithinLimit := by
  intro hpos
  rw [hconfig] at hpos ⊢
  rw [formationCount_eq]
  have hwithin := h hpos
  rw [formationCount_eq] at hwithin
  omega

lemma mem_view (hmem : on ∈ oi.neighborList) : (on.ref, on.state) ∈ oi.view :=
  mem_map_of_mem hmem

lemma AdjInterface.WithinLimit.act (hact : AdjAct env oi oi') (hdistinct : oi.view.Distinct)
    (h : oi.WithinLimit) : oi'.WithinLimit := by
  have hconfig := hact.kept.2
  cases hact with
  | read routerId f hf =>
    exact h.mono hconfig (by rw [view_modify routerId fun on => (hf on).1])
  | set on next hmem hkeep hform =>
    have hcount := forming_set hdistinct (mem_view hmem) next
    intro hpos
    rw [formationCount_eq, view_setState, hconfig]
    rw [hconfig] at hpos
    have hwithin := h hpos
    rw [formationCount_eq] at hwithin
    change (oi.view.set on.routerId next).forming + on.state.isForming.toNat = _ at hcount
    cases hnext : next.isForming with
    | false =>
      rw [hnext, Bool.toNat_false] at hcount
      omega
    | true =>
      rw [hnext, Bool.toNat_true] at hcount
      rcases hform hnext with hon | hlimit
      · rw [hon, Bool.toNat_true] at hcount
        omega
      have hlt : ¬oi.view.forming ≥ oi.config.adjacencyFormationLimit := by
        rw [← formationCount_eq]
        intro hge
        simp [exstartDeferred, hpos, hge] at hlimit
      omega
  | updateLsa _ => exact h.mono hconfig (by rw [view_updateLsa])
  | routable => exact h.mono hconfig (by rw [view_updateRoutableNeighbors])
  | calculate _ => exact h.mono hconfig (by rw [view_calculateMdr])
  | elected _ _ _ => exact h.mono hconfig le_rfl

lemma AdjInterface.WithinLimit.remove (h : oi.WithinLimit) : (oi.remove routerId).WithinLimit := by
  refine h.mono rfl ?_
  rw [view_remove]
  exact List.Sublist.countP_le filter_sublist

lemma forming_set_le {v : NeighborView} (routerId : Nat) {next : NeighborState}
    (hnext : next.isForming = false) : (v.set routerId next).forming ≤ v.forming := by
  unfold NeighborView.forming NeighborView.set
  rw [countP_map]
  apply countP_mono_left
  intro q _ hq
  simp only [Function.comp_apply] at hq
  split_ifs at hq
  · rw [hnext] at hq
    exact absurd hq Bool.false_ne_true
  · exact hq

section
variable (hdistinct : oi.view.Distinct)
include hdistinct

lemma forming_restart (hlookup : oi.lookup routerId = some on) :
    (oi.raise env on .exstart).view.forming + on.state.isForming.toNat = oi.view.forming + 1 := by
  have hcount := forming_set hdistinct (mem_view (mem_of_lookup hlookup).1) .exstart
  rw [view_raise]
  exact hcount

lemma withinLimit_step (h : oi.WithinLimit) (hok : LimitOk oi (env, e)) :
    (adjStep oi (env, e)).WithinLimit := by
  refine StepKeeps.step ⟨fun hact hd ha => ha.act hact hd, fun routerId _ hnext ha => ha.mono rfl ?_,
    fun _ ha => ha.remove, fun hlist => h.mono rfl ?_, fun routerId priority drouter bdrouter _ => ?_,
    fun {routerId on} he hlookup hstate => ?_, fun _ _ => h, ?_⟩ hdistinct h
  · rw [view_setState]
    exact forming_set_le routerId hnext
  · rw [view_tail hlist]
    exact (sublist_cons_self _ _).countP_le
  · refine h.mono (by unfold create; split <;> rfl) ?_
    rcases view_create oi routerId priority drouter bdrouter with hview | ⟨-, hperm⟩
    · rw [hview]
    · unfold forming
      rw [hperm.countP_eq, countP_cons]
      simp [NeighborState.isForming, NeighborState.toNat]
  · have hcount : (oi.raise env on .exstart).view.forming + _ = _ := forming_restart hdistinct hlookup
    have hconfig : (oi.raise env on .exstart).config = oi.config := (raise_frame on .exstart).config
    cases hon : on.state.isForming with
    | true =>
      rw [hon, Bool.toNat_true] at hcount
      exact h.mono hconfig (by omega)
    | false =>
      have hfull : on.state = .full := by
        cases hs : on.state <;> simp_all [NeighborState.isForming, NeighborState.toNat]
      have hlt : oi.config.adjacencyFormationLimit > 0 →
          ospf6InterfaceAdjacencyFormationCount oi < oi.config.adjacencyFormationLimit := by
        rcases he with rfl | rfl
        all_goals exact hok on hlookup hfull
      intro hpos
      rw [hconfig] at hpos ⊢
      have hcur := hlt hpos
      rw [formationCount_eq] at hcur ⊢
      omega
  · rintro config rfl
    exact hok

lemma limitOk_of_step (h : (adjStep oi (env, e)).WithinLimit) :
    LimitOk oi (env, e) := by
  have hrestart : ∀ routerId, (oi.restart env routerId).WithinLimit → ∀ on,
      oi.lookup routerId = some on → on.state = .full → oi.config.adjacencyFormationLimit > 0 →
        ospf6InterfaceAdjacencyFormationCount oi < oi.config.adjacencyFormationLimit := by
    intro routerId hwithin on hlookup hfull hpos
    have hraise : oi.restart env routerId = oi.raise env on .exstart := by
      unfold restart withNeighbor
      rw [hlookup]
      dsimp only
      rw [hfull]
      rfl
    have hcount : (oi.raise env on .exstart).view.forming + _ = _ := forming_restart hdistinct hlookup
    have hconfig : (oi.raise env on .exstart).config = oi.config := (raise_frame on .exstart).config
    rw [hraise] at hwithin
    unfold AdjInterface.WithinLimit at hwithin
    rw [hconfig, formationCount_eq] at hwithin
    have hle := hwithin hpos
    rw [hfull] at hcount
    change _ + 0 = _ at hcount
    rw [formationCount_eq]
    omega
  cases e with
  | seqnumberMismatch routerId => exact hrestart routerId h
  | badLsreq routerId => exact hrestart routerId h
  | configure config => exact h
  | create | hello | dbdesc | exchangeDone | loadingDone | adjOk | inactivityTimer | deleteFirst
  | helloSend | spf | setType | elected => exact trivial

end

end limit

/-- In every state of a run the limit is kept, exactly when each step satisfies `LimitOk`. -/
theorem adjRun_withinLimit_iff (routerId : Nat) (config : AdjConfig) (events : List (AdjEnv × AdjEvent)) :
    EachState adjStep AdjInterface.WithinLimit (newAdjInterface routerId config) events ↔
      StepsOk adjStep LimitOk (newAdjInterface routerId config) events := by
  refine adjRun_iff ?_ fun _ _ hdistinct h => ⟨limitOk_of_step hdistinct, withinLimit_step hdistinct h⟩
  exact fun _ => Nat.zero_le _

def limitedConfig : AdjConfig := ⟨1, 10, false, 1, .uniConnected, .minCost, 3, 1, 1⟩

/-- There is no route to any neighbor. -/
def quietEnv (elapsed : Nat) : AdjEnv := ⟨elapsed, fun _ => false⟩

def plainHello : HelloInfo := ⟨1, 0, 0, true, false, false, false, 1, [], [], []⟩

/-- Router 2 is Full and router 3 in ExStart on a point-to-multipoint interface when the former
sends a packet out of sequence. -/
def mismatchEvents : List (AdjEnv × AdjEvent) :=
  [.setType .pointToMultipoint, .elected .pointToPoint 0 0, .create 2 1 0 0, .hello 2 plainHello,
    .dbdesc 2 none true, .exchangeDone 2 false, .create 3 1 0 0, .hello 3 plainHello,
    .seqnumberMismatch 2].map (quietEnv 100, ·)

/-- Two adjacencies are formed where one is allowed. -/
theorem mismatch_exceeds_limit :
    let oi := adjRun (newAdjInterface 1 limitedConfig) mismatchEvents
    oi.config.adjacencyFormationLimit = 1 ∧ ospf6InterfaceAdjacencyFormationCount oi = 2 := by
  decide

end OspfMdr.Ospf6
