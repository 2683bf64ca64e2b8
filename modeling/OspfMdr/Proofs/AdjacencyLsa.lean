import OspfMdr.Proofs.AdjacencySteps

namespace OspfMdr.Ospf6

open Lib List

/-- Advertised and routable neighbors are two-way, required ones are advertised, and with full connectivity none
is routable. -/
def LsaRecord.Holds (r : LsaRecord) : Prop :=
  ∀ e ∈ r.entries,
    (e.adv → NeighborState.twoway.toNat ≤ e.state.toNat) ∧
    (e.required → e.adv) ∧
    (e.routable → NeighborState.twoway.toNat ≤ e.state.toNat) ∧
    (r.adjConnectivity = .fullyConnected → e.routable = false)

/-- The case in which a Backup MDR originates with the MDR-full setting. -/
def LsaRecord.BmdrFull (r : LsaRecord) : Prop := r.lsaFullness = .mdrFull ∧ r.mdrLevel = .bmdr

/-- Fully connected adjacencies are configured only while no neighbor is routable. -/
def RoutableOk (oi : AdjInterface) (e : AdjEnv × AdjEvent) : Prop :=
  match e.2 with
  | .configure config => config.adjConnectivity = .fullyConnected →
      ∀ on ∈ oi.neighborList, on.routable = false
  | _ => True

def AdjInterface.routableMarks (oi : AdjInterface) : List Bool := oi.neighborList.map (·.routable)

/-- With full connectivity no neighbor is marked as routable. -/
def AdjInterface.NoneRoutable (oi : AdjInterface) : Prop :=
  oi.config.adjConnectivity = .fullyConnected → ∀ b ∈ oi.routableMarks, b = false

section update

variable {oi : AdjInterface} {route : Nat → Bool}

lemma routable_updated (hnone : oi.NoneRoutable) {on : AdjNeighbor} (hmem : on ∈
    (ospf6MdrUpdateRoutableNeighbors route oi).1.neighborList) (h : on.routable) :
    on.state.IsTwoway ∧ oi.config.adjConnectivity ≠ .fullyConnected := by
  unfold ospf6MdrUpdateRoutableNeighbors at hmem
  split_ifs at hmem with hfully
  · have hfalse := hnone hfully on.routable (mem_map_of_mem hmem)
    rw [h] at hfalse
    exact absurd hfalse (by decide)
  obtain ⟨on0, -, rfl⟩ := mem_map.mp hmem
  refine ⟨?_, hfully⟩
  unfold updateRoutable at h ⊢
  grind

lemma adv_finished {n : Nat} {nbr : Fin n → AdjNeighbor} {newAdv : Fin n → Bool} {j : Fin n}
    (hmarked : newAdv j → (nbr j).state.IsTwoway) :
    let adv := if (List.finRange n).any (mustOriginate nbr newAdv) then newAdv j else (nbr j).adv
    (newAdv j → adv) ∧
      (adv → (nbr j).state.IsTwoway) := by
  intro adv
  cases horig : (List.finRange n).any (mustOriginate nbr newAdv) with
  | true =>
    have hadv : adv = newAdv j := if_pos horig
    rw [hadv]
    exact ⟨id, hmarked⟩
  | false =>
    have hadv : adv = (nbr j).adv := if_neg (by simp [horig])
    rw [hadv]
    have hj := any_eq_false.mp horig j (mem_finRange j)
    unfold mustOriginate at hj
    grind

theorem ospf6MdrUpdateLsa_holds (hnone : oi.NoneRoutable)
    (hbmdr : ¬(ospf6MdrUpdateLsa route oi).1.lsaRecord.BmdrFull) :
    (ospf6MdrUpdateLsa route oi).1.lsaRecord.Holds := by
  obtain ⟨selAdv, newAdv, hchoice, heq⟩ := ospf6MdrUpdateLsa_eq route oi
  have hroutable := fun on => @routable_updated oi route hnone on
  have hconfig : (ospf6MdrUpdateRoutableNeighbors route oi).1.config = oi.config :=
    (updateRoutableNeighbors_frame route).config
  rw [heq] at hbmdr ⊢
  generalize (ospf6MdrUpdateRoutableNeighbors route oi).1 = oi1 at *
  intro e he
  obtain ⟨on, hon, rfl⟩ := mem_map.mp he
  obtain ⟨j, rfl⟩ := (mem_ofFn' _ _).mp hon
  have hj : oi1.neighborList.get j ∈ oi1.neighborList := get_mem _ _
  have hmarked : newAdv j →
      (oi1.neighborList.get j).state.IsTwoway := by
    intro hnew
    rcases Bool.or_eq_true_iff.mp (hchoice.marked j hnew) with hr | hfull
    · exact (hroutable _ hj hr).1
    · rw [of_decide_eq_true hfull]
      decide
  obtain ⟨hrequired, htwoway⟩ := adv_finished hmarked
  refine ⟨htwoway, fun hreq => hrequired ?_, fun hr => (hroutable _ hj hr).1, fun hfully => ?_⟩
  · rw [← hchoice.required hbmdr j]
    exact hreq
  · change oi1.config.adjConnectivity = .fullyConnected at hfully
    rw [hconfig] at hfully
    exact Bool.eq_false_iff.mpr fun hr => (hroutable _ hj hr).2 hfully

end update

/-- What holds of the interface and of each LSA it has originated. -/
structure LsaInv (oi : AdjInterface) : Prop where
  none : oi.NoneRoutable
  log : ∀ r ∈ oi.lsaLog, ¬r.BmdrFull → r.Holds

section run

variable {env : AdjEnv} {oi oi' : AdjInterface} {on : AdjNeighbor} {f : AdjNeighbor → AdjNeighbor}

lemma LsaInv.of_subset (h : LsaInv oi) (hconfig : oi'.config = oi.config)
    (hlog : oi'.lsaLog = oi.lsaLog) (hmarks : oi'.routableMarks ⊆ oi.routableMarks) : LsaInv oi' where
  none := by
    intro hfully b hb
    rw [hconfig] at hfully
    exact h.none hfully b (hmarks hb)
  log := by
    rw [hlog]
    exact h.log

lemma routableMarks_modify (routerId : Nat)
    (hf : ∀ on, (f on).routable = on.routable) :
    (oi.modify routerId f).routableMarks = oi.routableMarks := by
  unfold AdjInterface.modify AdjInterface.routableMarks
  rw [map_map]
  apply map_congr_left
  intro on _
  simp only [Function.comp_apply]
  split_ifs
  · exact hf on
  · rfl

lemma LsaInv.modify (h : LsaInv oi) (routerId : Nat)
    (hf : ∀ on, (f on).routable = on.routable) : LsaInv (oi.modify routerId f) :=
  h.of_subset rfl rfl fun _ hb => routableMarks_modify routerId hf ▸ hb

lemma LsaInv.setState (h : LsaInv oi) (routerId : Nat) (next : NeighborState) :
    LsaInv (oi.setState routerId next) :=
  h.modify routerId fun _ => rfl

lemma updateRoutableNeighbors_fully (route : Nat → Bool)
    (hfully : oi.config.adjConnectivity = .fullyConnected) :
    (ospf6MdrUpdateRoutableNeighbors route oi).1 = oi := by
  unfold ospf6MdrUpdateRoutableNeighbors
  rw [if_pos hfully]

lemma LsaInv.routable (h : LsaInv oi) (route : Nat → Bool) :
    LsaInv (ospf6MdrUpdateRoutableNeighbors route oi).1 := by
  have hframe : SameFrame oi (ospf6MdrUpdateRoutableNeighbors route oi).1 :=
    updateRoutableNeighbors_frame route
  constructor
  · intro hfully
    rw [hframe.config] at hfully
    rw [updateRoutableNeighbors_fully route hfully]
    exact h.none hfully
  · have hlog : (ospf6MdrUpdateRoutableNeighbors route oi).1.lsaLog = oi.lsaLog := by
      unfold ospf6MdrUpdateRoutableNeighbors
      split_ifs <;> rfl
    rw [hlog]
    exact h.log

lemma LsaInv.updateLsa (h : LsaInv oi) : LsaInv (oi.updateLsa env) := by
  have hinv := h.routable env.route
  obtain ⟨selAdv, newAdv, -, heq⟩ := ospf6MdrUpdateLsa_eq env.route oi
  have hmarks : (oi.updateLsa env).routableMarks =
      (ospf6MdrUpdateRoutableNeighbors env.route oi).1.routableMarks := by
    change (ospf6MdrUpdateLsa env.route oi).1.routableMarks = _
    rw [heq]
    unfold AdjInterface.routableMarks finishLsa
    rw [map_ofFn]
    conv_rhs => rw [← ofFn_get (ospf6MdrUpdateRoutableNeighbors env.route oi).1.neighborList,
      map_ofFn]
    rfl
  have hlog : (oi.updateLsa env).lsaLog =
      (ospf6MdrUpdateRoutableNeighbors env.route oi).1.lsaLog ++
        [(ospf6MdrUpdateLsa env.route oi).1.lsaRecord] := by
    unfold AdjInterface.updateLsa
    rw [heq]
    rfl
  constructor
  · intro hfully b hb
    rw [(updateLsa_frame env oi).config] at hfully
    rw [hmarks, updateRoutableNeighbors_fully env.route hfully] at hb
    exact h.none hfully b hb
  · intro r hr
    rw [hlog] at hr
    rcases mem_append.mp hr with hr | hr
    · exact hinv.log r hr
    · rw [mem_singleton.mp hr]
      exact ospf6MdrUpdateLsa_holds h.none

lemma LsaInv.calculate (h : LsaInv oi) (elapsed : Nat) : LsaInv (oi.calculateMdr elapsed) := by
  have hlog : (oi.calculateMdr elapsed).lsaLog = oi.lsaLog := by
    unfold AdjInterface.calculateMdr
    split_ifs <;> rfl
  have hmarks : (oi.calculateMdr elapsed).routableMarks = oi.routableMarks :=
    map_calculateMdr (fun _ _ => rfl) elapsed oi
  exact h.of_subset (calculateMdr_kept elapsed oi).2 hlog fun _ hb => hmarks ▸ hb

lemma LsaInv.create (h : LsaInv oi) (routerId priority drouter bdrouter : Nat) :
    LsaInv (oi.create routerId priority drouter bdrouter) := by
  unfold AdjInterface.create
  split
  · exact h
  constructor
  · intro hfully b hb
    obtain ⟨on, hmem, rfl⟩ := mem_map.mp hb
    rcases (mem_orderedInsert _).mp hmem with rfl | hmem
    · rfl
    · exact h.none hfully _ (mem_map_of_mem hmem)
  · exact h.log

lemma LsaInv.act (hact : AdjAct env oi oi') (h : LsaInv oi) : LsaInv oi' := by
  cases hact with
  | read routerId f hf => exact h.modify routerId fun on => (hf on).2
  | set on next _ _ _ => exact h.setState on.routerId next
  | updateLsa _ => exact h.updateLsa
  | routable => exact h.routable env.route
  | calculate _ => exact h.calculate env.elapsed
  | elected _ _ _ => exact h.of_subset rfl rfl (List.Subset.refl _)

lemma LsaInv.remove (h : LsaInv oi) (routerId : Nat) : LsaInv (oi.remove routerId) :=
  h.of_subset rfl rfl (map_subset _ filter_sublist.subset)

lemma LsaInv.tail {l : List AdjNeighbor} (h : LsaInv oi) (hlist : oi.neighborList = on :: l) :
    LsaInv { oi with neighborList := l } := by
  refine h.of_subset rfl rfl (map_subset _ ?_)
  rw [hlist]
  exact subset_cons_self on l

lemma LsaInv.raise (h : LsaInv oi) (next : NeighborState) : LsaInv (oi.raise env on next) := by
  unfold AdjInterface.raise
  dsimp only
  split_ifs
  · exact (h.setState on.routerId next).updateLsa
  · exact h.setState on.routerId next

lemma LsaInv.step {e : AdjEvent} (hdistinct : oi.view.Distinct) (h : LsaInv oi)
    (hok : RoutableOk oi (env, e)) : LsaInv (adjStep oi (env, e)) := by
  refine StepKeeps.step ⟨fun hact _ ha => ha.act hact, fun routerId _ _ ha => ha.setState routerId _,
    fun routerId ha => ha.remove routerId, h.tail, fun routerId priority drouter bdrouter _ =>
    h.create routerId priority drouter bdrouter, fun _ _ _ => h.raise .exstart,
    fun _ _ => h.of_subset rfl rfl (List.Subset.refl _), ?_⟩ hdistinct h
  rintro config rfl
  refine ⟨fun hfully b hb => ?_, h.log⟩
  obtain ⟨on, hmem, rfl⟩ := mem_map.mp hb
  exact hok hfully on hmem

end run

/-- Every update of the LSA in a run leaves the marks as the configured rule asks. -/
theorem adjRun_lsaLog_holds (routerId : Nat) (config : AdjConfig) (events : List (AdjEnv × AdjEvent))
    (hok : StepsOk adjStep RoutableOk (newAdjInterface routerId config) events) :
    ∀ r ∈ (adjRun (newAdjInterface routerId config) events).lsaLog, ¬r.BmdrFull → r.Holds := by
  have hnew : LsaInv (newAdjInterface routerId config) :=
    ⟨fun _ b hb => absurd hb not_mem_nil, fun r hr => absurd hr not_mem_nil⟩
  exact (adjRun_inv hnew LsaInv.step hok).2.log

def fullLsaConfig (adjConnectivity : AdjConnectivity) : AdjConfig :=
  ⟨1, 10, false, 1, adjConnectivity, .full, 3, 1, 0⟩

def heardHello (twoway : Bool) : HelloInfo :=
  ⟨1, 0, 0, twoway, false, true, true, 1, [1], [], []⟩

def routableEvents : List (AdjEnv × AdjEvent) :=
  [.setType .mdr, .create 2 1 0 0, .hello 2 (heardHello true)].map (⟨100, fun id => id == 2⟩, ·)

theorem routable_advertised :
    let oi := adjRun (newAdjInterface 1 (fullLsaConfig .uniConnected)) routableEvents
    oi.lsaLog = [⟨.uniConnected, .full, .other, [⟨.twoway, true, true, true⟩]⟩] ∧
      ∀ r ∈ oi.lsaLog, ¬r.BmdrFull → r.Holds :=
  ⟨by decide, adjRun_lsaLog_holds 1 (fullLsaConfig .uniConnected) routableEvents
    ⟨trivial, trivial, trivial, trivial⟩⟩

/-- Fully connected adjacencies are then configured, and router 2 no longer lists this one. -/
def staleEvents : List (AdjEnv × AdjEvent) :=
  routableEvents ++ [.configure (fullLsaConfig .fullyConnected), .hello 2 (heardHello false)].map
    (⟨110, fun id => id == 2⟩, ·)

/-- Routers 2, 3 and 4 in a row around router 1, which becomes a BMDR. -/
def bmdrEvents : List (AdjEnv × AdjEvent) :=
  [.setType .mdr, .create 2 1 0 0, .create 3 1 0 0, .create 4 1 0 0,
    .hello 2 ⟨1, 4, 0, true, false, true, true, 1, [1, 3], [], []⟩,
    .hello 3 ⟨1, 4, 0, true, false, true, true, 1, [1, 2, 4], [], []⟩,
    .hello 4 ⟨1, 4, 0, true, false, true, true, 1, [1, 3], [], []⟩, .helloSend].map
    (⟨100, fun _ => true⟩, ·)

/-- A neighbor in Init is advertised as routable, and a BMDR leaves out a required neighbor. -/
theorem lsaLog_not_holds :
    ⟨.fullyConnected, .full, .other, [⟨.init, true, true, true⟩]⟩ ∈
      (adjRun (newAdjInterface 1 (fullLsaConfig .uniConnected)) staleEvents).lsaLog ∧
    ∃ r ∈ (adjRun (newAdjInterface 1 ⟨1, 10, false, 1, .uniConnected, .mdrFull, 3, 1, 0⟩) bmdrEvents).lsaLog,
      r.mdrLevel = .bmdr ∧ ⟨.twoway, true, false, true⟩ ∈ r.entries := by
  decide

end OspfMdr.Ospf6
