import OspfMdr.Proofs.AdjacencySteps

namespace OspfMdr.Ospf6

open Lib Relation List AdjInterface

/-- The reference is kept as the parent or as the backup parent. -/
def AdjInterface.Records (oi : AdjInterface) (r : NeighborRef) : Prop :=
  oi.parent = some r ∨ oi.bparent = some r
  deriving Decidable

/-- No parent is a neighbor that has been deleted. -/
def AdjInterface.ParentsListed (oi : AdjInterface) : Prop :=
  oi.type = .mdr → ∀ r, oi.Records r → ∃ on ∈ oi.neighborList, on.ref = r

/-- A recorded neighbor is deleted only if two-way and without wait, and a new MDR interface has listed parents.
-/
def ParentOk (oi : AdjInterface) (e : AdjEnv × AdjEvent) : Prop :=
  match e.2 with
  | .inactivityTimer routerId => oi.type = .mdr → ∀ on, oi.lookup routerId = some on →
      oi.Records on.ref → NeighborState.twoway.toNat ≤ on.state.toNat ∧
        startupWait e.1.elapsed (oi.setState routerId .down).toMdr = false
  | .deleteFirst => oi.type = .mdr → ∀ on l, oi.neighborList = on :: l → oi.Records on.ref →
      NeighborState.twoway.toNat ≤ on.state.toNat ∧
        startupWait e.1.elapsed ({ oi with neighborList := l } : AdjInterface).toMdr = false
  | .setType type => type = .mdr → ∀ r, oi.Records r → ∃ on ∈ oi.neighborList, on.ref = r
  | _ => True

/-- The recorded neighbors are listed, those in `S` as two-way neighbors. -/
def AdjInterface.RecordedIn (S : NeighborRef → Prop) (oi : AdjInterface) : Prop :=
  ∀ r, oi.Records r → ∃ p ∈ oi.view, p.1 = r ∧ (S r → NeighborState.twoway.toNat ≤ p.2.toNat)

variable {r : NeighborRef} {elapsed routerId : Nat} {next : NeighborState} {l : List AdjNeighbor}
  {e : AdjEvent}

section parents

variable {env : AdjEnv} {oi oi' : AdjInterface} {on : AdjNeighbor} {S : NeighborRef → Prop}

lemma listed_iff : (∃ on ∈ oi.neighborList, on.ref = r) ↔ ∃ p ∈ oi.view, p.1 = r := by
  constructor
  · rintro ⟨on, hmem, rfl⟩
    exact ⟨on.view, mem_map_of_mem hmem, rfl⟩
  · rintro ⟨p, hp, rfl⟩
    obtain ⟨on, hmem, rfl⟩ := mem_map.mp hp
    exact ⟨on, hmem, rfl⟩

lemma AdjInterface.RecordedIn.listed (h : oi.RecordedIn S) (hr : oi.Records r) :
    ∃ on ∈ oi.neighborList, on.ref = r := by
  obtain ⟨p, hp, hpr, -⟩ := h r hr
  exact listed_iff.mpr ⟨p, hp, hpr⟩

lemma AdjInterface.ParentsListed.recordedIn (h : oi.ParentsListed) (htype : oi.type = .mdr) :
    oi.RecordedIn fun _ => False := by
  intro r hr
  obtain ⟨p, hp, hpr⟩ := listed_iff.mp (h htype r hr)
  exact ⟨p, hp, hpr, False.elim⟩

lemma eq_of_routerId (hdistinct : oi.view.Distinct) {a b : AdjNeighbor} (ha : a ∈ oi.neighborList)
    (hb : b ∈ oi.neighborList) (h : a.routerId = b.routerId) : a = b := by
  unfold NeighborView.Distinct view at hdistinct
  rw [List.map_map] at hdistinct
  exact List.inj_on_of_nodup_map hdistinct ha hb h

lemma SameFrame.records (h : SameFrame oi oi') : oi'.Records r ↔ oi.Records r := by
  rw [h]
  rfl

lemma calculateMdr_recorded (hdistinct : oi.view.Distinct)
    (hwait : startupWait elapsed oi.toMdr = false) : (oi.calculateMdr elapsed).RecordedIn S := by
  obtain ⟨level, nonflooding, parent, bparent, dependent, heq, hchoice⟩ :=
    calculateMdr_choice oi.toMdr.neighborList.get oi.toMdr
  have hfound : ∀ j r, ((some (oi.toMdr.neighborList.get j).routerId).bind oi.lookup).map AdjNeighbor.ref =
      some r → (oi.toMdr.neighborList.get j).state.IsTwoway →
      ∃ p ∈ oi.view, p.1 = r ∧ (S r → p.2.IsTwoway) := by
    intro j r hr hstate
    obtain ⟨on, hlookup, rfl⟩ := Option.map_eq_some_iff.mp hr
    obtain ⟨hmem, hid⟩ := mem_of_lookup hlookup
    obtain ⟨on', hmem', hon'⟩ := mem_map.mp (get_mem oi.toMdr.neighborList j)
    have hsame : on = on' := eq_of_routerId hdistinct hmem hmem' (by rw [hid, ← hon'])
    refine ⟨on.view, mem_map_of_mem hmem, rfl, fun _ => ?_⟩
    rw [← hon'] at hstate
    rw [hsame]
    exact hstate
  intro r hr
  rw [view_calculateMdr]
  unfold AdjInterface.Records AdjInterface.calculateMdr at hr
  rw [hwait, heq] at hr
  rcases hr with hr | hr
  · cases parent with
    | none => exact absurd hr (by simp [finishMdr])
    | some j => exact hfound j r hr (hchoice.twoway j (.inl rfl))
  · cases bparent with
    | none => exact absurd hr (by simp [finishMdr])
    | some j => exact hfound j r hr (hchoice.twoway j (.inr rfl))

lemma calculateMdr_waits (hwait : startupWait elapsed oi.toMdr) :
    oi.calculateMdr elapsed = oi := by
  unfold AdjInterface.calculateMdr
  rw [hwait]
  rfl

namespace AdjInterface.RecordedIn

lemma calculate (hdistinct : oi.view.Distinct) (h : oi.RecordedIn S) (elapsed : Nat) :
    (oi.calculateMdr elapsed).RecordedIn S := by
  cases hwait : startupWait elapsed oi.toMdr with
  | true =>
    rw [calculateMdr_waits hwait]
    exact h
  | false => exact calculateMdr_recorded hdistinct hwait

lemma setState (hdistinct : oi.view.Distinct) (hmem : on ∈ oi.neighborList)
    (hkeep : S on.ref → on.state.IsTwoway → next.IsTwoway) (h : oi.RecordedIn S) :
    (oi.setState on.routerId next).RecordedIn S := by
  intro r hr
  obtain ⟨p, hp, hpr, hpk⟩ := h r hr
  rw [view_setState]
  by_cases hid : p.1.routerId = on.routerId
  · obtain ⟨on', hmem', rfl⟩ := mem_map.mp hp
    obtain rfl : on' = on := eq_of_routerId hdistinct hmem' hmem hid
    refine ⟨(on'.ref, next), mem_map.mpr ⟨_, hp, if_pos hid⟩, hpr, fun hS => ?_⟩
    obtain rfl : on'.ref = r := hpr
    exact hkeep hS (hpk hS)
  · exact ⟨p, mem_map.mpr ⟨p, hp, if_neg hid⟩, hpr, hpk⟩

lemma act (hact : AdjAct env oi oi') (hdistinct : oi.view.Distinct) (h : oi.RecordedIn S) :
    oi'.RecordedIn S := by
  have hsame : ∀ {oi' : AdjInterface}, SameFrame oi oi' → oi'.view = oi.view → oi'.RecordedIn S := by
    intro oi' hframe hview r hr
    rw [hview]
    exact h r (hframe.records.mp hr)
  cases hact with
  | read routerId f hf => exact hsame rfl (view_modify routerId fun on => (hf on).1)
  | set on next hmem hkeep _ => exact h.setState hdistinct hmem fun _ => hkeep
  | updateLsa _ => exact hsame (updateLsa_frame env oi) (view_updateLsa env oi)
  | routable =>
    exact hsame (updateRoutableNeighbors_frame env.route) (view_updateRoutableNeighbors env.route)
  | calculate _ => exact h.calculate hdistinct env.elapsed
  | elected _ _ _ => exact h

lemma acts (hacts : AdjActs env oi oi') (hdistinct : oi.view.Distinct) (h : oi.RecordedIn S) :
    oi'.RecordedIn S :=
  hacts.keeps_distinct (fun hact hd ha => ha.act hact hd) hdistinct h

lemma create (h : oi.RecordedIn S) (routerId priority drouter bdrouter : Nat) :
    (oi.create routerId priority drouter bdrouter).RecordedIn S := by
  intro r hr
  have hrecords : oi.Records r := by
    unfold AdjInterface.create at hr
    split at hr <;> exact hr
  obtain ⟨p, hp, hpr, hpk⟩ := h r hrecords
  refine ⟨p, ?_, hpr, hpk⟩
  rcases view_create oi routerId priority drouter bdrouter with hview | ⟨-, hperm⟩
  · rw [hview]
    exact hp
  · exact hperm.mem_iff.mpr (mem_cons_of_mem _ hp)

lemma remove (h : oi.RecordedIn fun r => r.routerId = routerId) (hlow : oi.Low routerId) :
    (oi.remove routerId).RecordedIn fun _ => False := by
  intro r hr
  obtain ⟨p, hp, hpr, hpk⟩ := h r hr
  refine ⟨p, ?_, hpr, False.elim⟩
  rw [view_remove]
  refine mem_filter.mpr ⟨hp, decide_eq_true fun hid => ?_⟩
  have htwoway := hpk (by rw [← hpr]; exact hid)
  exact absurd (low_iff_view.mp hlow p hp hid) (not_lt.mpr htwoway)

end AdjInterface.RecordedIn

/-- The neighbors are the same, in whatever states. -/
structure SameRefs (oi oi' : AdjInterface) : Prop where
  frame : SameFrame oi oi'
  refs : oi'.view.map (·.1) = oi.view.map (·.1)

lemma SameRefs.refl (oi : AdjInterface) : SameRefs oi oi := ⟨.refl oi, rfl⟩

lemma SameRefs.trans {oi1 oi2 oi3 : AdjInterface} (h : SameRefs oi1 oi2) (h' : SameRefs oi2 oi3) :
    SameRefs oi1 oi3 :=
  ⟨h.frame.trans h'.frame, h'.refs.trans h.refs⟩

lemma SameRefs.mem (h : SameRefs oi oi') : (∃ p ∈ oi'.view, p.1 = r) ↔ ∃ p ∈ oi.view, p.1 = r := by
  rw [← mem_map, ← mem_map, h.refs]

lemma refs_set (v : NeighborView) (routerId : Nat) (next : NeighborState) :
    (v.set routerId next).map (·.1) = v.map (·.1) := by
  unfold NeighborView.set
  rw [List.map_map]
  apply List.map_congr_left
  intro q _
  simp only [Function.comp_apply]
  split_ifs <;> rfl

lemma setState_sameRefs (routerId : Nat) (next : NeighborState) :
    SameRefs oi (oi.setState routerId next) :=
  ⟨rfl, by rw [view_setState, refs_set]⟩

lemma raise_sameRefs (on : AdjNeighbor) (next : NeighborState) :
    SameRefs oi (oi.raise env on next) :=
  ⟨raise_frame on next, by rw [view_raise, refs_set]⟩

lemma updateLsa_sameRefs : SameRefs oi (oi.updateLsa env) :=
  ⟨updateLsa_frame env oi, by rw [view_updateLsa]⟩

lemma exstart_sameRefs (on : AdjNeighbor) : SameRefs oi (oi.exstart env on) := by
  unfold exstart
  split_ifs
  · exact .refl oi
  · exact raise_sameRefs on .exstart

lemma updateAdjacencies_sameRefs : SameRefs oi (oi.updateAdjacencies env) := by
  refine SameRefs.trans (foldl_lookup .refl (fun _ _ _ => .trans) ?_ _ oi)
    (foldl_lookup .refl (fun _ _ _ => .trans) ?_ _ _)
  · exact fun _ on _ _ => exstart_sameRefs on
  · exact fun _ on _ _ => raise_sameRefs on _

/-- The loss of a neighbor leaves the parents if the calculation waits. -/
lemma stateChanged_sameRefs {prev : NeighborState} (hnext : next.toNat < NeighborState.twoway.toNat)
    (hwait : ¬(prev.IsTwoway ∧ startupWait env.elapsed oi.toMdr = false)) :
    SameRefs oi (oi.stateChanged env prev next) := by
  by_cases hprev : prev.IsTwoway
  · rw [stateChanged_lost hprev hnext]
    split_ifs
    · unfold recalculate
      rw [calculateMdr_waits (by simpa [hprev] using hwait)]
      exact updateAdjacencies_sameRefs.trans updateLsa_sameRefs
    · exact .refl oi
  · rw [stateChanged_down (not_le.mp hprev) hnext]
    exact .refl oi

lemma AdjInterface.RecordedIn.sameRefs (hsame : SameRefs oi oi') (h : oi.RecordedIn fun _ => False) :
    oi'.RecordedIn fun _ => False := by
  intro r hr
  obtain ⟨p, hp, hpr, -⟩ := h r (hsame.frame.records.mp hr)
  obtain ⟨q, hq, hqr⟩ := hsame.mem.mpr ⟨p, hp, hpr⟩
  exact ⟨q, hq, hqr, False.elim⟩

lemma AdjInterface.RecordedIn.strengthen (h : oi.RecordedIn fun _ => False)
    (hno : ∀ r, oi.Records r → ¬S r) : oi.RecordedIn S := by
  intro r hr
  obtain ⟨p, hp, hpr, -⟩ := h r hr
  exact ⟨p, hp, hpr, fun hS => absurd hS (hno r hr)⟩

lemma AdjInterface.RecordedIn.tail (h : oi.RecordedIn fun _ => False)
    (hlist : oi.neighborList = on :: l) (hno : ¬oi.Records on.ref) :
    ({ oi with neighborList := l } : AdjInterface).RecordedIn fun _ => False := by
  intro r hr
  obtain ⟨p, hp, hpr, -⟩ := h r hr
  rw [view_tail hlist] at hp
  rcases mem_cons.mp hp with rfl | hp
  · obtain rfl : on.ref = r := hpr
    exact absurd hr hno
  · exact ⟨p, hp, hpr, False.elim⟩

section
variable (hdistinct : oi.view.Distinct)
include hdistinct

lemma not_records_of_routerId (h : oi.RecordedIn fun _ => False)
    (hlookup : oi.lookup routerId = some on) (hno : ¬oi.Records on.ref) :
    ∀ r, oi.Records r → ¬r.routerId = routerId := by
  rintro r hr rfl
  obtain ⟨on', hmem', rfl⟩ := h.listed hr
  obtain ⟨hmem, hid⟩ := mem_of_lookup hlookup
  obtain rfl : on = on' := eq_of_routerId hdistinct hmem hmem' hid
  exact hno hr

lemma recorded_after_loss (htype : oi.type = .mdr)
    (hwait : startupWait env.elapsed oi.toMdr = false) (hrest : AdjActs env (oi.afterLoss env) oi') :
    oi'.RecordedIn S := by
  unfold afterLoss at hrest
  rw [if_pos htype] at hrest
  refine (calculateMdr_recorded hdistinct hwait).acts hrest ?_
  rw [view_calculateMdr]
  exact hdistinct

lemma recordedIn_step (h : oi.RecordedIn fun _ => False)
    (htype : oi.type = .mdr) (he : ∀ type, e ≠ .setType type) (hok : ParentOk oi (env, e)) :
    (adjStep oi (env, e)).RecordedIn fun _ => False := by
  have hkind := adjStep_kind env oi e
  generalize adjStep oi (env, e) = oi' at hkind ⊢
  cases hkind with
  | acts hacts => exact h.acts hacts hdistinct
  | create routerId priority drouter bdrouter => exact h.create routerId priority drouter bdrouter
  | @oneway routerId hello on _ hlookup hstate hrest =>
    have hread : SameRefs oi (oi.helloRead routerId hello) := ⟨rfl, by rw [view_helloRead]⟩
    exact (h.sameRefs (hread.trans (setState_sameRefs routerId .init))).acts hrest.afterLoss
      ((hdistinct.helloRead _ _).setState _ _)
  | @inactivity routerId on oi' hlookup hstate hrest hlow =>
    have hset := hdistinct.setState routerId .down
    have hdown : (oi.setState routerId .down).RecordedIn fun _ => False :=
      h.sameRefs (setState_sameRefs routerId .down)
    refine AdjInterface.RecordedIn.remove ?_ hlow
    by_cases hrec : oi.Records on.ref
    · exact recorded_after_loss hset htype (hok htype on hlookup hrec).2 hrest
    · have hother := not_records_of_routerId hdistinct h hlookup hrec
      exact (hdown.strengthen hother).acts hrest.afterLoss hset
  | @inactivityDown routerId on hlookup hstate =>
    have hno : ¬oi.Records on.ref := fun hrec =>
      absurd (hok htype on hlookup hrec).1 (not_le.mpr hstate)
    have hdown : (oi.setState routerId .down).RecordedIn fun _ => False :=
      h.sameRefs (setState_sameRefs routerId .down)
    have hother := not_records_of_routerId hdistinct h hlookup hno
    exact (hdown.strengthen hother).remove (low_setState (by decide))
  | @deleteFirst on l _ hlist hstate hrest =>
    by_cases hrec : oi.Records on.ref
    · exact recorded_after_loss (hdistinct.tail hlist) htype (hok htype on l hlist hrec).2 hrest
    · exact (h.tail hlist hrec).acts hrest.afterLoss (hdistinct.tail hlist)
  | @deleteDown on l hlist hstate =>
    exact h.tail hlist fun hrec => absurd (hok htype on l hlist hrec).1 (not_le.mpr hstate)
  | restart _ _ _ => exact h.sameRefs (raise_sameRefs _ _)
  | setType type => exact absurd rfl (he type)
  | configure config => exact h

end

lemma type_step (hdistinct : oi.view.Distinct) (he : ∀ type, e ≠ .setType type) :
    (adjStep oi (env, e)).type = oi.type := by
  refine StepKeeps.step (P := (·.type = oi.type)) ⟨fun hact _ => hact.kept.1.trans, fun _ _ _ => id,
    fun _ => id, fun _ => rfl, fun _ _ _ _ _ => ?_, fun _ _ _ => (raise_frame _ _).type,
    fun type heq => absurd heq (he type), fun _ _ => rfl⟩ hdistinct rfl
  unfold create
  split <;> rfl

lemma parentsListed_step (hdistinct : oi.view.Distinct) (h : oi.ParentsListed)
    (hok : ParentOk oi (env, e)) : (adjStep oi (env, e)).ParentsListed := by
  by_cases he : ∃ type, e = .setType type
  · obtain ⟨type, rfl⟩ := he
    exact hok
  have hne : ∀ type, e ≠ .setType type := fun type heq => he ⟨type, heq⟩
  intro hstep r hr
  have htype : oi.type = .mdr := (type_step hdistinct hne).symm.trans hstep
  exact (recordedIn_step hdistinct (h.recordedIn htype) htype hne hok).listed hr

lemma deleted_of_inactivity (htype : oi.type = .mdr)
    (h : (oi.inactivityTimer env routerId).ParentsListed) (hlookup : oi.lookup routerId = some on)
    (hrec : oi.Records on.ref) :
    on.state.IsTwoway ∧ startupWait env.elapsed (oi.setState routerId .down).toMdr = false := by
  by_contra hnot
  have hid := (mem_of_lookup hlookup).2
  have heq : oi.inactivityTimer env routerId =
      ((oi.setState routerId .down).stateChanged env on.state .down).remove routerId := by
    unfold inactivityTimer withNeighbor ospf6NeighborStateChange
    rw [hlookup]
    dsimp only
    rw [hid]
  have hsame : SameRefs oi ((oi.setState routerId .down).stateChanged env on.state .down) :=
    (setState_sameRefs routerId .down).trans (stateChanged_sameRefs (by decide) hnot)
  rw [heq] at h
  obtain ⟨on', hmem', href⟩ := h (hsame.frame.type.trans htype) on.ref (hsame.frame.records.mpr hrec)
  have hne : on'.routerId ≠ routerId := of_decide_eq_true (mem_filter.mp hmem').2
  exact hne ((congrArg NeighborRef.routerId href).trans hid)

lemma deleted_of_deleteFirst (hdistinct : oi.view.Distinct) (htype : oi.type = .mdr)
    (h : (oi.deleteFirst env).ParentsListed) (hlist : oi.neighborList = on :: l) (hrec : oi.Records on.ref) :
    on.state.IsTwoway ∧
    startupWait env.elapsed ({ oi with neighborList := l } : AdjInterface).toMdr = false := by
  by_contra hnot
  have heq : oi.deleteFirst env =
      ({ oi with neighborList := l } : AdjInterface).stateChanged env on.state .down := by
    unfold deleteFirst
    rw [hlist]
  have hsame : SameRefs { oi with neighborList := l }
      (({ oi with neighborList := l } : AdjInterface).stateChanged env on.state .down) :=
    stateChanged_sameRefs (by decide) hnot
  rw [heq] at h
  have hlisted := listed_iff.mp (h (hsame.frame.type.trans htype) on.ref (hsame.frame.records.mpr hrec))
  obtain ⟨p, hp, hpr⟩ := hsame.mem.mp hlisted
  rw [view_tail hlist] at hdistinct
  apply (nodup_cons.mp hdistinct).1
  exact mem_map.mpr ⟨p, hp, congrArg NeighborRef.routerId hpr⟩

lemma parentOk_of_step (hdistinct : oi.view.Distinct) (h : (adjStep oi (env, e)).ParentsListed) :
    ParentOk oi (env, e) := by
  cases e with
  | inactivityTimer routerId =>
    intro htype on hlookup hrec
    exact deleted_of_inactivity htype h hlookup hrec
  | deleteFirst =>
    intro htype on l hlist hrec
    exact deleted_of_deleteFirst hdistinct htype h hlist hrec
  | setType type => exact h
  | create | hello | dbdesc | exchangeDone | loadingDone | adjOk | seqnumberMismatch | badLsreq
  | helloSend | spf | elected | configure => exact trivial

end parents

/-- In every state of a run the parents of an MDR interface are listed, exactly when each step satisfies
`ParentOk`. -/
theorem adjRun_parentsListed_iff (routerId : Nat) (config : AdjConfig) (events : List (AdjEnv × AdjEvent)) :
    EachState adjStep AdjInterface.ParentsListed (newAdjInterface routerId config) events ↔
      StepsOk adjStep ParentOk (newAdjInterface routerId config) events := by
  refine adjRun_iff ?_ fun _ _ hdistinct h => ⟨parentOk_of_step hdistinct, parentsListed_step hdistinct h⟩
  rintro - r (hr | hr) <;> exact absurd hr (by simp [newAdjInterface])

def immediateConfig : AdjConfig := ⟨1, 10, true, 1, .uniConnected, .minCost, 3, 1, 0⟩

def mdrHello (routerId : Nat) : HelloInfo :=
  ⟨1, routerId, 0, true, true, true, false, 1, [1], [], []⟩

/-- Router 2 is heard and becomes the parent, and the interface goes down in the first ten seconds. -/
def startupEvents : List (AdjEnv × AdjEvent) :=
  [.setType .mdr, .create 2 1 0 0, .hello 2 (mdrHello 2), .helloSend, .deleteFirst].map
    (⟨5, fun _ => false⟩, ·)

/-- The parent is a neighbor that was deleted. -/
theorem startup_parent_deleted :
    let oi := adjRun (newAdjInterface 1 immediateConfig) startupEvents
    oi.type = .mdr ∧ oi.parent = some ⟨0, 2⟩ ∧ oi.neighborList = [] := by
  decide

end OspfMdr.Ospf6
