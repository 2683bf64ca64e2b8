import OspfMdr.Lib.Run
import OspfMdr.Proofs.AdjacencyView

/-!
# The events of the neighbor state machine, taken apart

Every event is a sequence of the actions in `AdjAct`, but for a lost two-way neighbor, an exchange that
starts again and a change of the configuration.
-/

namespace OspfMdr.Ospf6

open Relation List NeighborState AdjInterface

variable {prev next : NeighborState} {e : AdjEvent}

section acts

variable {env : AdjEnv} {oi oi' : AdjInterface} {on : AdjNeighbor}

lemma calculateMdr_kept (elapsed : Nat) (oi : AdjInterface) :
    (oi.calculateMdr elapsed).type = oi.type ∧ (oi.calculateMdr elapsed).config = oi.config := by
  unfold AdjInterface.calculateMdr
  split_ifs <;> exact ⟨rfl, rfl⟩

lemma AdjAct.kept (h : AdjAct env oi oi') : oi'.type = oi.type ∧ oi'.config = oi.config := by
  cases h with
  | updateLsa _ => exact ⟨(updateLsa_frame env oi).type, (updateLsa_frame env oi).config⟩
  | routable => exact ⟨(updateRoutableNeighbors_frame _).type, (updateRoutableNeighbors_frame _).config⟩
  | calculate _ => exact calculateMdr_kept env.elapsed oi
  | read | set | elected => exact ⟨rfl, rfl⟩

lemma AdjActs.keeps {P : AdjInterface → Prop} (hP : ∀ oi oi', AdjAct env oi oi' → P oi → P oi')
    (h : AdjActs env oi oi') (hoi : P oi) : P oi' := by
  induction h with
  | refl => exact hoi
  | tail _ hact ih => exact hP _ _ hact ih

lemma AdjActs.type (h : AdjActs env oi oi') : oi'.type = oi.type :=
  h.keeps (P := (·.type = oi.type)) (fun _ _ hact => hact.kept.1.trans) rfl

lemma adjacencies_acts (htype : oi.type = .mdr) :
    AdjActs env oi ((oi.updateAdjacencies env).updateLsa env) :=
  updateAdjacencies_acts.tail (.updateLsa (updateAdjacencies_acts.type.trans htype))

lemma recalculate_acts (htype : oi.type = .mdr) : AdjActs env oi (oi.recalculate env) :=
  (ReflTransGen.single (.calculate htype)).trans
    (adjacencies_acts ((calculateMdr_kept env.elapsed oi).1.trans htype))

lemma startNext_acts : AdjActs env oi (oi.startNext env) := by
  unfold startNext
  split
  · rename_i on hfind
    exact exstart_acts (mem_of_find?_eq_some hfind)
  · exact .refl

lemma stateChanged_acts (hkeep : prev.IsTwoway → next.IsTwoway) :
    AdjActs env oi (oi.stateChanged env prev next) := by
  have hmdr : AdjActs env oi
      (if oi.type = .mdr then ospf6MdrNeighborStateChange env oi prev next else oi) := by
    unfold ospf6MdrNeighborStateChange
    split_ifs with htype hlost
    · exact absurd (hkeep hlost.1) (not_le.mpr hlost.2)
    · exact .single (.updateLsa htype)
    · exact .refl
    · exact .refl
  unfold stateChanged
  dsimp only
  generalize (if oi.type = .mdr then ospf6MdrNeighborStateChange env oi prev next else oi) = oi1
    at hmdr ⊢
  split_ifs
  · exact .refl
  · exact hmdr.trans startNext_acts
  · exact hmdr

lemma stateChange_acts (hmem : on ∈ oi.neighborList) (hkeep : on.state.IsTwoway → next.IsTwoway)
    (hform : next.isForming → on.state.isForming ∨ exstartDeferred oi = false) :
    AdjActs env oi (ospf6NeighborStateChange env oi on next) :=
  (ReflTransGen.single (.set on next hmem hkeep hform)).trans (stateChanged_acts hkeep)

lemma withNeighbor_acts {routerId : Nat} {f : AdjNeighbor → AdjInterface} (h : ∀ on ∈
    oi.neighborList, AdjActs env oi (f on)) : AdjActs env oi (oi.withNeighbor routerId f) := by
  unfold withNeighbor
  split
  · rename_i on hlookup
    exact h on (mem_of_lookup hlookup).1
  · exact .refl

section
variable (routerId : Nat)
include routerId

lemma helloReceived_acts : AdjActs env oi (oi.helloReceived env routerId) := by
  apply withNeighbor_acts
  intro on hmem
  split_ifs with h
  · refine stateChange_acts hmem (fun htwo => ?_) fun hform => absurd hform (by decide)
    exact absurd (le_trans htwo h.1) (by decide)
  · exact .refl

lemma twowayReceived_acts : AdjActs env oi (oi.twowayReceived env routerId) := by
  apply withNeighbor_acts
  intro on hmem
  split_ifs
  · exact .refl
  · exact raise_twoway_acts hmem
  · exact .refl
  · exact exstart_acts hmem
  · exact raise_twoway_acts hmem

lemma tryExstart_acts : AdjActs env oi (oi.tryExstart env routerId) := by
  apply withNeighbor_acts
  intro on hmem
  split_ifs
  · exact exstart_acts hmem
  · exact .refl

lemma negotiationDone_acts : AdjActs env oi (oi.negotiationDone env routerId) := by
  apply withNeighbor_acts
  intro on hmem
  split_ifs with h
  · exact .refl
  · refine stateChange_acts hmem (fun _ => by decide) fun _ => .inl ?_
    rw [not_not.mp h]
    rfl

lemma exchangeDone_acts (requests : Bool) : AdjActs env oi (oi.exchangeDone env routerId requests) := by
  apply withNeighbor_acts
  intro on hmem
  split_ifs with h
  · exact .refl
  all_goals
    refine stateChange_acts hmem (fun _ => by decide) fun _ => .inl ?_
    rw [not_not.mp h]
    rfl

lemma loadingDone_acts : AdjActs env oi (oi.loadingDone env routerId) := by
  apply withNeighbor_acts
  intro on hmem
  split_ifs with h
  · exact .refl
  · exact stateChange_acts hmem (fun _ => by decide) fun hform => absurd hform (by decide)

lemma adjOk_acts : AdjActs env oi (oi.adjOk env routerId) := by
  apply withNeighbor_acts
  intro on hmem
  split_ifs
  · exact exstart_acts hmem
  · exact raise_twoway_acts hmem
  · exact .refl

end

lemma dbdescRecv_acts (routerId : Nat) (tlv : Option (Nat × Nat)) (negotiated : Bool) :
    AdjActs env oi (oi.dbdescRecv env routerId tlv negotiated) := by
  have hdone : ∀ oi1, AdjActs env oi oi1 →
      AdjActs env oi (if negotiated then oi1.negotiationDone env routerId else oi1) := by
    intro oi1 hentered
    split_ifs
    · exact hentered.trans (negotiationDone_acts routerId)
    · exact hentered
  refine hdone _ ?_
  split_ifs with htype
  · refine ReflTransGen.trans ?_ (ReflTransGen.trans (withNeighbor_acts fun on hmem => ?_)
      (tryExstart_acts routerId))
    · cases tlv with
      | none => exact .refl
      | some tlv =>
        refine .single (.read routerId _ fun on => ?_)
        unfold readDdTlv
        dsimp only
        split_ifs <;> exact ⟨rfl, rfl⟩
    · split_ifs
      · exact raise_twoway_acts hmem
      · exact .refl
  · apply withNeighbor_acts
    intro on hmem
    split_ifs
    · exact twowayReceived_acts routerId
    · exact .refl

end acts

/-- The neighbor's entry after its Hello has been read, before any state changes. -/
def AdjInterface.helloRead (oi : AdjInterface) (routerId : Nat) (h : HelloInfo) : AdjInterface :=
  oi.modify routerId (if oi.type = .mdr then readMdrHello oi.routerId h else readHello h)

/-- The calculation that follows the loss of a two-way neighbor. -/
def AdjInterface.afterLoss (env : AdjEnv) (oi : AdjInterface) : AdjInterface :=
  if oi.type = .mdr then oi.calculateMdr env.elapsed else oi

/-- The neighbor is below 2-Way. -/
def AdjInterface.Low (oi : AdjInterface) (routerId : Nat) : Prop :=
  ∀ on ∈ oi.neighborList, on.routerId = routerId → on.state.toNat < twoway.toNat

/-- What an event of the interface comes to, in terms of single acts. -/
inductive StepKind (env : AdjEnv) (oi : AdjInterface) : AdjEvent → AdjInterface → Prop
  | acts {e : AdjEvent} {oi' : AdjInterface} (h : AdjActs env oi oi') : StepKind env oi e oi'
  | create (routerId priority drouter bdrouter : Nat) :
      StepKind env oi (.create routerId priority drouter bdrouter)
        (oi.create routerId priority drouter bdrouter)
  | oneway {routerId : Nat} {h : HelloInfo} {on : AdjNeighbor} {oi' : AdjInterface}
      (hlookup : (oi.helloRead routerId h).lookup routerId = some on)
      (hstate : twoway.toNat ≤ on.state.toNat)
      (hrest : AdjActs env (((oi.helloRead routerId h).setState routerId .init).afterLoss env) oi') :
      StepKind env oi (.hello routerId h) oi'
  | inactivity {routerId : Nat} {on : AdjNeighbor} {oi' : AdjInterface}
      (hlookup : oi.lookup routerId = some on)
      (hstate : twoway.toNat ≤ on.state.toNat)
      (hrest : AdjActs env ((oi.setState routerId .down).afterLoss env) oi') (hlow : oi'.Low routerId) :
      StepKind env oi (.inactivityTimer routerId) (oi'.remove routerId)
  | inactivityDown {routerId : Nat} {on : AdjNeighbor} (hlookup : oi.lookup routerId = some on)
      (hstate : on.state.toNat < twoway.toNat) :
      StepKind env oi (.inactivityTimer routerId) ((oi.setState routerId .down).remove routerId)
  | deleteFirst {on : AdjNeighbor} {l : List AdjNeighbor} {oi' : AdjInterface}
      (hlist : oi.neighborList = on :: l)
      (hstate : twoway.toNat ≤ on.state.toNat)
      (hrest : AdjActs env (({ oi with neighborList := l } : AdjInterface).afterLoss env) oi') :
      StepKind env oi .deleteFirst oi'
  | deleteDown {on : AdjNeighbor} {l : List AdjNeighbor} (hlist : oi.neighborList = on :: l)
      (hstate : on.state.toNat < twoway.toNat) :
      StepKind env oi .deleteFirst { oi with neighborList := l }
  | restart {e : AdjEvent} {routerId : Nat} {on : AdjNeighbor}
      (he : e = .seqnumberMismatch routerId ∨ e = .badLsreq routerId)
      (hlookup : oi.lookup routerId = some on)
      (hstate : exchange.toNat ≤ on.state.toNat) :
      StepKind env oi e (oi.raise env on .exstart)
  | setType (type : IfType) : StepKind env oi (.setType type) { oi with type }
  | configure (config : AdjConfig) : StepKind env oi (.configure config) { oi with config }

section kind

variable {env : AdjEnv} {oi : AdjInterface} {on : AdjNeighbor} {routerId : Nat}

lemma stateChanged_lost (hprev : prev.IsTwoway)
    (hnext : next.toNat < twoway.toNat) :
    oi.stateChanged env prev next = if oi.type = .mdr then oi.recalculate env else oi := by
  have hne : prev ≠ next := by
    rintro rfl
    omega
  have hfull : next ≠ .full := by
    rintro rfl
    exact absurd hnext (by decide)
  have hmdr : ospf6MdrNeighborStateChange env oi prev next = oi.recalculate env := by
    unfold ospf6MdrNeighborStateChange
    rw [if_pos ⟨hprev, hnext⟩]
  unfold stateChanged
  rw [if_neg hne, hmdr]
  exact if_neg fun h => hfull h.2.1

lemma stateChanged_down (hprev : prev.toNat < twoway.toNat)
    (hnext : next.toNat < twoway.toNat) : oi.stateChanged env prev next = oi := by
  have hfull : next ≠ .full := by
    rintro rfl
    exact absurd hnext (by decide)
  have hmdr : ospf6MdrNeighborStateChange env oi prev next = oi := by
    unfold ospf6MdrNeighborStateChange
    split_ifs with hlost hraised
    · exact absurd hlost.1 (not_le.mpr hprev)
    · exact (hraised.resolve_right hfull).2.not_gt hnext |>.elim
    · rfl
  unfold stateChanged
  rw [hmdr, ite_self]
  by_cases heq : prev = next
  · rw [if_pos heq]
  · rw [if_neg heq]
    exact if_neg fun h => hfull h.2.1

lemma afterLoss_acts (hprev : prev.IsTwoway) (hnext : next.toNat < twoway.toNat) :
    AdjActs env (oi.afterLoss env) (oi.stateChanged env prev next) := by
  rw [stateChanged_lost hprev hnext]
  unfold afterLoss
  split_ifs with htype
  · exact adjacencies_acts ((calculateMdr_kept env.elapsed oi).1.trans htype)
  · exact .refl

lemma lookup_setState (next : NeighborState)
    (hlookup : (oi.setState routerId next).lookup routerId = some on) : on.state = next := by
  obtain ⟨hmem, hid⟩ := mem_of_lookup hlookup
  obtain ⟨on0, -, rfl⟩ := mem_map.mp hmem
  split_ifs at hid ⊢ with h
  · rfl
  · exact absurd hid h

lemma helloReceived_eq (hlookup : (oi.helloReceived env routerId).lookup routerId = some on)
    (hstate : on.state.IsTwoway) : oi.helloReceived env routerId = oi := by
  unfold AdjInterface.helloReceived withNeighbor at hlookup ⊢
  split at hlookup
  · rename_i on0 hon0
    dsimp only at hlookup ⊢
    split_ifs at hlookup ⊢ with h
    · have hdown : on0.state.toNat < twoway.toNat := lt_of_le_of_lt h.1 (by decide)
      unfold ospf6NeighborStateChange at hlookup
      rw [stateChanged_down hdown (by decide), (mem_of_lookup hon0).2] at hlookup
      rw [lookup_setState _ hlookup] at hstate
      exact absurd hstate (by decide)
    · rfl
  · rfl

lemma onewayReceived_eq
    (h : ∀ on, oi.lookup routerId = some on → on.state.toNat < twoway.toNat) :
    oi.onewayReceived env routerId = oi := by
  unfold AdjInterface.onewayReceived withNeighbor
  split
  · exact if_pos (h _ ‹_›)
  · rfl

lemma low_iff_view : oi.Low routerId ↔
    ∀ p ∈ oi.view, p.1.routerId = routerId → p.2.toNat < twoway.toNat := by
  unfold AdjInterface.Low view
  rw [forall_mem_map]
  rfl

section
variable (h : oi.Low routerId) (hmem : on ∈ oi.neighborList) (hstate : twoway.toNat ≤ on.state.toNat)
include h hmem hstate

lemma low_raise : (oi.raise env on next).Low routerId := by
  have hne : on.routerId ≠ routerId := fun he => absurd (h on hmem he) (not_lt.mpr hstate)
  rw [low_iff_view, view_raise]
  intro p hp hid
  obtain ⟨q, hq, rfl⟩ := mem_map.mp hp
  split_ifs at hid ⊢ with hq'
  · exact absurd (hq'.symm.trans hid) hne
  · exact low_iff_view.mp h q hq hid

lemma low_exstart : (oi.exstart env on).Low routerId := by
  unfold AdjInterface.exstart
  split_ifs
  · exact h
  · exact low_raise h hmem hstate

end

lemma low_updateAdjacencies (h : oi.Low routerId) : (oi.updateAdjacencies env).Low routerId := by
  have htrans : ∀ oi1 oi2 oi3 : AdjInterface, (oi1.Low routerId → oi2.Low routerId) →
      (oi2.Low routerId → oi3.Low routerId) → oi1.Low routerId → oi3.Low routerId :=
    fun _ _ _ h12 h23 h1 => h23 (h12 h1)
  refine foldl_lookup (fun _ => id) htrans ?_ _ _ (foldl_lookup (fun _ => id) htrans ?_ _ _ h)
  · exact fun oi on hmem hc hlow => low_raise hlow hmem (le_of_lt hc.1)
  · exact fun oi on hmem hc hlow => low_exstart hlow hmem (by rw [hc.1])

lemma low_recalculate (h : oi.Low routerId) : (oi.recalculate env).Low routerId := by
  have hcalc : (oi.calculateMdr env.elapsed).Low routerId := by
    rw [low_iff_view, view_calculateMdr]
    exact low_iff_view.mp h
  unfold recalculate
  rw [low_iff_view, view_updateLsa]
  exact low_iff_view.mp (low_updateAdjacencies hcalc)

lemma readHello_read (type : IfType) (own : Nat) (h : HelloInfo) (on : AdjNeighbor) :
    ((if type = .mdr then readMdrHello own h else readHello h) on).view = on.view ∧
      ((if type = .mdr then readMdrHello own h else readHello h) on).routable = on.routable := by
  split_ifs <;> exact ⟨rfl, rfl⟩

lemma helloRead_acts (h : HelloInfo) : AdjActs env oi (oi.helloRead routerId h) :=
  .single (.read routerId _ (readHello_read oi.type oi.routerId h))

lemma helloRecv_kind (h : HelloInfo) :
    StepKind env oi (.hello routerId h) (oi.helloRecv env routerId h) := by
  have hend : ∀ oi1 : AdjInterface, AdjActs env oi1
      (if oi1.type = .mdr then oi1.tryExstart env routerId else oi1) := by
    intro oi1
    split_ifs
    · exact tryExstart_acts routerId
    · exact .refl
  have hread : AdjActs env oi ((oi.helloRead routerId h).helloReceived env routerId) :=
    (helloRead_acts h).trans (helloReceived_acts routerId)
  change StepKind env oi _
    (let oi1 := (oi.helloRead routerId h).helloReceived env routerId
    let oi2 := if h.twoway then oi1.twowayReceived env routerId else oi1.onewayReceived env routerId
    if oi2.type = .mdr then oi2.tryExstart env routerId else oi2)
  dsimp only
  by_cases htwoway : h.twoway
  · rw [if_pos htwoway]
    exact .acts ((hread.trans (twowayReceived_acts routerId)).trans (hend _))
  rw [if_neg htwoway]
  cases hlookup : ((oi.helloRead routerId h).helloReceived env routerId).lookup routerId with
  | none =>
    rw [onewayReceived_eq (by simp [hlookup])]
    exact .acts (hread.trans (hend _))
  | some on =>
    by_cases hstate : on.state.IsTwoway
    · have hsame := helloReceived_eq hlookup hstate
      rw [hsame] at hlookup ⊢
      have hone : (oi.helloRead routerId h).onewayReceived env routerId =
          ((oi.helloRead routerId h).setState routerId .init).stateChanged env on.state .init := by
        unfold AdjInterface.onewayReceived withNeighbor
        rw [hlookup]
        dsimp only
        rw [if_neg (not_lt.mpr hstate)]
        unfold ospf6NeighborStateChange
        rw [(mem_of_lookup hlookup).2]
      rw [hone]
      exact .oneway hlookup hstate ((afterLoss_acts hstate (by decide)).trans (hend _))
    · rw [onewayReceived_eq (by simpa [hlookup] using not_le.mp hstate)]
      exact .acts (hread.trans (hend _))

lemma low_setState (hnext : next.toNat < twoway.toNat) :
    (oi.setState routerId next).Low routerId := by
  intro on hmem hid
  obtain ⟨on0, -, rfl⟩ := mem_map.mp hmem
  split_ifs at hid ⊢ with h
  · exact hnext
  · exact absurd hid h

lemma inactivityTimer_kind :
    StepKind env oi (.inactivityTimer routerId) (oi.inactivityTimer env routerId) := by
  unfold inactivityTimer withNeighbor
  split
  · rename_i on hlookup
    dsimp only
    unfold ospf6NeighborStateChange
    rw [(mem_of_lookup hlookup).2]
    have hlow : (oi.setState routerId .down).Low routerId := low_setState (by decide)
    by_cases hstate : on.state.IsTwoway
    · refine .inactivity hlookup hstate (afterLoss_acts hstate (by decide)) ?_
      rw [stateChanged_lost hstate (by decide)]
      split_ifs
      · exact low_recalculate hlow
      · exact hlow
    · rw [stateChanged_down (not_le.mp hstate) (by decide)]
      exact .inactivityDown hlookup (not_le.mp hstate)
  · exact .acts .refl

lemma deleteFirst_kind : StepKind env oi .deleteFirst (oi.deleteFirst env) := by
  unfold deleteFirst
  split
  · exact .acts .refl
  rename_i on l hlist
  by_cases hstate : on.state.IsTwoway
  · exact .deleteFirst hlist hstate (afterLoss_acts hstate (by decide))
  · rw [stateChanged_down (not_le.mp hstate) (by decide)]
    exact .deleteDown hlist (not_le.mp hstate)

lemma restart_kind (he : e = .seqnumberMismatch routerId ∨ e = .badLsreq routerId) :
    StepKind env oi e (oi.restart env routerId) := by
  unfold restart withNeighbor
  split
  · rename_i on hlookup
    dsimp only
    split_ifs with hstate
    · exact .acts .refl
    · exact .restart he hlookup (not_lt.mp hstate)
  · exact .acts .refl

theorem adjStep_kind (env : AdjEnv) (oi : AdjInterface) (e : AdjEvent) :
    StepKind env oi e (adjStep oi (env, e)) := by
  cases e with
  | create routerId priority drouter bdrouter => exact .create ..
  | hello routerId h => exact helloRecv_kind h
  | dbdesc routerId tlv negotiated => exact .acts (dbdescRecv_acts routerId tlv negotiated)
  | exchangeDone routerId requests => exact .acts (exchangeDone_acts routerId requests)
  | loadingDone routerId => exact .acts (loadingDone_acts routerId)
  | adjOk routerId => exact .acts (adjOk_acts routerId)
  | seqnumberMismatch routerId => exact restart_kind (.inl rfl)
  | badLsreq routerId => exact restart_kind (.inr rfl)
  | inactivityTimer routerId => exact inactivityTimer_kind
  | deleteFirst => exact deleteFirst_kind
  | helloSend =>
    change StepKind env oi _ (if oi.type = .mdr then oi.recalculate env else oi)
    split_ifs with htype
    · exact .acts (recalculate_acts htype)
    · exact .acts .refl
  | spf =>
    change StepKind env oi _
      (if oi.type = .mdr then (ospf6MdrUpdateRoutableNeighbors env.route oi).1 else oi)
    split_ifs
    · exact .acts (.single .routable)
    · exact .acts .refl
  | setType type => exact .setType type
  | elected state drouter bdrouter => exact .acts (.single (.elected state drouter bdrouter))
  | configure config => exact .configure config

end kind

/-- The router IDs differ. -/
def NeighborView.Distinct (v : NeighborView) : Prop := (v.map (·.1.routerId)).Nodup

section distinct

variable {env : AdjEnv} {oi oi' : AdjInterface} {v : NeighborView} {l : List AdjNeighbor} {on : AdjNeighbor}
  {e : AdjEvent}

lemma ids_set (routerId : Nat) (next : NeighborState) :
    (v.set routerId next).map (·.1.routerId) = v.map (·.1.routerId) := by
  unfold NeighborView.set
  rw [List.map_map]
  apply List.map_congr_left
  intro q _
  simp only [Function.comp_apply]
  split_ifs <;> rfl

lemma NeighborView.Distinct.set (hv : v.Distinct) (routerId : Nat) (next : NeighborState) :
    (v.set routerId next).Distinct := by
  unfold NeighborView.Distinct
  rw [ids_set]
  exact hv

lemma view_remove (oi : AdjInterface) (routerId : Nat) :
    (oi.remove routerId).view = oi.view.filter fun p => p.1.routerId ≠ routerId := by
  unfold remove view
  rw [filter_map]
  rfl

lemma NeighborView.Distinct.remove {routerId : Nat} (h : oi.view.Distinct) :
    (oi.remove routerId).view.Distinct := by
  rw [view_remove]
  exact h.sublist (filter_sublist.map _)

lemma view_create (oi : AdjInterface) (routerId priority drouter bdrouter : Nat) :
    (oi.create routerId priority drouter bdrouter).view = oi.view ∨
    routerId ∉ oi.view.map (·.1.routerId) ∧
    List.Perm (oi.create routerId priority drouter bdrouter).view
      ((⟨oi.created, routerId⟩, .down) :: oi.view) := by
  unfold create
  split
  · exact .inl rfl
  rename_i hnone
  refine .inr ⟨fun hmem => ?_, (perm_orderedInsert _ _ _).map _⟩
  obtain ⟨p, hp, hid⟩ := mem_map.mp hmem
  obtain ⟨on, hon, rfl⟩ := mem_map.mp hp
  exact List.find?_eq_none.mp hnone on hon (decide_eq_true hid)

lemma AdjAct.distinct (hact : AdjAct env oi oi') (h : oi.view.Distinct) : oi'.view.Distinct := by
  cases hact with
  | read routerId f hf =>
    rw [view_modify routerId fun on => (hf on).1]
    exact h
  | set on next _ _ _ =>
    rw [view_setState]
    exact h.set on.routerId next
  | updateLsa _ =>
    rw [view_updateLsa]
    exact h
  | routable =>
    rw [view_updateRoutableNeighbors]
    exact h
  | calculate _ =>
    rw [view_calculateMdr]
    exact h
  | elected _ _ _ => exact h

lemma AdjActs.afterLoss (h : AdjActs env (oi.afterLoss env) oi') : AdjActs env oi oi' := by
  refine ReflTransGen.trans ?_ h
  unfold AdjInterface.afterLoss
  split_ifs with htype
  · exact .single (.calculate htype)
  · exact .refl

lemma view_helloRead (routerId : Nat) (h : HelloInfo) : (oi.helloRead routerId h).view = oi.view :=
  view_modify routerId fun on => (readHello_read oi.type oi.routerId h on).1

lemma view_tail (hlist : oi.neighborList = on :: l) :
    oi.view = on.view :: ({ oi with neighborList := l } : AdjInterface).view := by
  unfold view
  rw [hlist]
  rfl

section
variable (h : oi.view.Distinct)
include h

lemma NeighborView.Distinct.setState (routerId : Nat) (next : NeighborState) :
    (oi.setState routerId next).view.Distinct := by
  rw [view_setState]
  exact h.set routerId next

lemma NeighborView.Distinct.helloRead (routerId : Nat) (hello : HelloInfo) :
    (oi.helloRead routerId hello).view.Distinct := by
  rw [view_helloRead]
  exact h

lemma NeighborView.Distinct.tail
    (hlist : oi.neighborList = on :: l) :
    ({ oi with neighborList := l } : AdjInterface).view.Distinct := by
  rw [view_tail hlist] at h
  exact (nodup_cons.mp h).2

end

/-- What is to be shown for a property to be kept by a step. -/
structure StepKeeps (env : AdjEnv) (oi : AdjInterface) (e : AdjEvent) (P : AdjInterface → Prop) : Prop where
  act {a b : AdjInterface} : AdjAct env a b → a.view.Distinct → P a → P b
  lose {a : AdjInterface} (routerId : Nat) {next : NeighborState} :
    next.isForming = false → P a → P (a.setState routerId next)
  remove {a : AdjInterface} (routerId : Nat) : P a → P (a.remove routerId)
  tail {on : AdjNeighbor} {l : List AdjNeighbor} :
    oi.neighborList = on :: l → P { oi with neighborList := l }
  create (routerId priority drouter bdrouter : Nat) : e = .create routerId priority drouter bdrouter →
    P (oi.create routerId priority drouter bdrouter)
  restart {routerId : Nat} {on : AdjNeighbor} : e = .seqnumberMismatch routerId ∨ e = .badLsreq routerId →
    oi.lookup routerId = some on → exchange.toNat ≤ on.state.toNat →
    P (oi.raise env on .exstart)
  setType (type : IfType) : e = .setType type → P { oi with type }
  configure (config : AdjConfig) : e = .configure config → P { oi with config }

section
variable {P : AdjInterface → Prop}

lemma AdjActs.keeps_distinct (hP : ∀ {a b}, AdjAct env a b → a.view.Distinct → P a → P b)
    (hacts : AdjActs env oi oi') (hdistinct : oi.view.Distinct) (h : P oi) : P oi' :=
  (hacts.keeps (fun _ _ hact hoi => And.intro (hact.distinct hoi.1) (hP hact hoi.1 hoi.2))
    (And.intro hdistinct h)).2

lemma StepKeeps.step (hP : StepKeeps env oi e P) (hdistinct : oi.view.Distinct)
    (h : P oi) : P (adjStep oi (env, e)) := by
  have hacts {a b : AdjInterface} : AdjActs env a b → a.view.Distinct → P a → P b :=
    AdjActs.keeps_distinct hP.act
  have hkind := adjStep_kind env oi e
  generalize adjStep oi (env, e) = oi' at hkind ⊢
  cases hkind with
  | acts h' => exact hacts h' hdistinct h
  | create routerId priority drouter bdrouter => exact hP.create routerId priority drouter bdrouter rfl
  | oneway _ _ hrest =>
    refine hacts hrest.afterLoss ((hdistinct.helloRead _ _).setState _ _) (hP.lose _ rfl ?_)
    exact hacts (helloRead_acts _) hdistinct h
  | inactivity _ _ hrest _ =>
    exact hP.remove _ (hacts hrest.afterLoss (hdistinct.setState _ _) (hP.lose _ rfl h))
  | inactivityDown _ _ => exact hP.remove _ (hP.lose _ rfl h)
  | deleteFirst hlist _ hrest => exact hacts hrest.afterLoss (hdistinct.tail hlist) (hP.tail hlist)
  | deleteDown hlist _ => exact hP.tail hlist
  | restart he hlookup hstate => exact hP.restart he hlookup hstate
  | setType type => exact hP.setType type rfl
  | configure config => exact hP.configure config rfl

end

lemma NeighborView.Distinct.step (h : oi.view.Distinct) :
    (adjStep oi (env, e)).view.Distinct := by
  refine StepKeeps.step ⟨fun hact ha _ => hact.distinct ha, fun _ _ _ ha => ha.setState _ _,
    fun _ ha => ha.remove, h.tail, fun routerId priority drouter bdrouter _ => ?_,
    fun _ _ _ => ?_, fun _ _ => h, fun _ _ => h⟩ h h
  · rcases view_create oi routerId priority drouter bdrouter with hview | ⟨hnew, hperm⟩
    · rw [hview]
      exact h
    · exact (hperm.map _).nodup_iff.mpr (nodup_cons.mpr ⟨hnew, h⟩)
  · rw [view_raise]
    exact h.set _ _

end distinct

lemma distinct_new {routerId : Nat} {config : AdjConfig} :
    (newAdjInterface routerId config).view.Distinct := nodup_nil

section
variable {P : AdjInterface → Prop} {C : AdjInterface → AdjEnv × AdjEvent → Prop} {routerId : Nat}
  {config : AdjConfig} (hnew : P (newAdjInterface routerId config)) {events : List (AdjEnv × AdjEvent)}
include hnew

lemma adjRun_inv (hstep : ∀ {env oi e}, oi.view.Distinct → P oi → C oi (env, e) → P (adjStep oi (env, e)))
    (hok : Lib.StepsOk adjStep C (newAdjInterface routerId config) events) :
    let oi := adjRun (newAdjInterface routerId config) events
    oi.view.Distinct ∧ P oi := by
  let Inv : AdjInterface → Prop := fun oi => oi.view.Distinct ∧ P oi
  have hinv : ∀ oi e, Inv oi → C oi e → Inv (adjStep oi e) := fun _ _ h hoi => ⟨h.1.step, hstep h.1 h.2 hoi⟩
  exact hok.inv hinv ⟨distinct_new, hnew⟩

lemma adjRun_iff (hiff : ∀ oi e, oi.view.Distinct → P oi → (P (adjStep oi e) ↔ C oi e)) :
    Lib.EachState adjStep P (newAdjInterface routerId config) events ↔
      Lib.StepsOk adjStep C (newAdjInterface routerId config) events :=
  Lib.eachState_iff_stepsOk (fun _ _ h => h.step) hiff distinct_new hnew events

end

/-- A router has at most one neighbor structure for another router on an interface. -/
theorem adjRun_routerIds_nodup (routerId : Nat) (config : AdjConfig) (events : List (AdjEnv × AdjEvent)) :
    ((adjRun (newAdjInterface routerId config) events).neighborList.map (·.routerId)).Nodup := by
  have h : (events.foldl adjStep (newAdjInterface routerId config)).view.Distinct :=
    foldlRecOn (motive := (·.view.Distinct)) events adjStep distinct_new fun _ h _ _ => h.step
  rwa [NeighborView.Distinct, AdjInterface.view, List.map_map] at h

end OspfMdr.Ospf6
