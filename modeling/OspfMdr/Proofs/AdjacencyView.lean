import OspfMdr.Model.AdjacencyRun
import OspfMdr.Proofs.MdrParents

namespace OspfMdr.Ospf6
open List AdjInterface

/-- The part of the neighbor list that the adjacency decisions change. -/
abbrev NeighborView := List (NeighborRef × NeighborState)

def AdjNeighbor.view (on : AdjNeighbor) : NeighborRef × NeighborState := (on.ref, on.state)

def AdjInterface.view (oi : AdjInterface) : NeighborView := oi.neighborList.map (·.view)

/-- The view after the neighbor's state has been set. -/
def NeighborView.set (v : NeighborView) (routerId : Nat) (next : NeighborState) : NeighborView :=
  v.map fun p => if p.1.routerId = routerId then (p.1, next) else p

section view

variable {oi : AdjInterface} {env : AdjEnv} {oi' : AdjInterface}

lemma view_modify (routerId : Nat) {f : AdjNeighbor → AdjNeighbor} (hf : ∀ on, (f on).view = on.view) :
    (oi.modify routerId f).view = oi.view := by
  unfold AdjInterface.modify AdjInterface.view
  rw [map_map]
  apply map_congr_left
  intro on _
  simp only [Function.comp_apply]
  split_ifs
  · exact hf on
  · rfl

lemma view_setState (routerId : Nat) (next : NeighborState) :
    (oi.setState routerId next).view = oi.view.set routerId next := by
  unfold AdjInterface.setState AdjInterface.modify AdjInterface.view NeighborView.set
  rw [map_map, map_map]
  apply map_congr_left
  intro on _
  simp only [Function.comp_apply, AdjNeighbor.view, AdjNeighbor.ref]
  split_ifs <;> rfl

lemma view_ofFn (f : Fin oi.neighborList.length → AdjNeighbor)
    (hf : ∀ j, (f j).view = (oi.neighborList.get j).view) : (List.ofFn f).map (·.view) = oi.view := by
  calc (List.ofFn f).map (·.view) = List.ofFn fun j => (oi.neighborList.get j).view := by
        rw [map_ofFn]
        exact congrArg List.ofFn (funext hf)
    _ = (List.ofFn oi.neighborList.get).map (·.view) := by
        rw [map_ofFn]
        rfl
    _ = oi.view := by
        rw [ofFn_get]
        rfl

/-- Only the neighbors and the log of LSAs may differ. -/
def SameFrame (oi oi' : AdjInterface) : Prop :=
  oi' = { oi with neighborList := oi'.neighborList, lsaLog := oi'.lsaLog }

lemma SameFrame.refl (oi : AdjInterface) : SameFrame oi oi := rfl

lemma SameFrame.trans {oi1 oi2 oi3 : AdjInterface} (h : SameFrame oi1 oi2) (h' : SameFrame oi2 oi3) :
    SameFrame oi1 oi3 := by
  unfold SameFrame at *
  rw [h', h]

lemma SameFrame.config (h : SameFrame oi oi') : oi'.config = oi.config := by
  rw [h]

lemma SameFrame.type (h : SameFrame oi oi') : oi'.type = oi.type := by
  rw [h]

lemma updateRoutableNeighbors_frame (route : Nat → Bool) :
    SameFrame oi (ospf6MdrUpdateRoutableNeighbors route oi).1 := by
  unfold ospf6MdrUpdateRoutableNeighbors
  split_ifs <;> rfl

lemma view_updateRoutableNeighbors (route : Nat → Bool) :
    (ospf6MdrUpdateRoutableNeighbors route oi).1.view = oi.view := by
  unfold ospf6MdrUpdateRoutableNeighbors
  split_ifs
  · rfl
  unfold view
  rw [map_map]
  refine map_congr_left fun on _ => ?_
  rw [Function.comp_apply, updateRoutable]
  split_ifs <;> rfl

/-- Advertised are only routable and Full neighbors and those required, where a BMDR does not follow MDRFULL. -/
structure LsaChoice (oi : AdjInterface) (selAdv newAdv : Fin oi.neighborList.length → Bool) : Prop where
  marked : ∀ j, newAdv j → fullLsaRequires (oi.neighborList.get j)
  required : ¬(oi.config.lsaFullness = .mdrFull ∧ oi.mdrLevel = .bmdr) → ∀ (j) (adv : Bool),
    lsaRequires oi { oi.neighborList.get j with selAdv := selAdv j, adv } = newAdv j

lemma updateLsaFull_choice
    (h : oi.config.lsaFullness = .full ∨ oi.config.lsaFullness = .mdrFull ∧ oi.mdrLevel ≠ .other) :
    ∃ selAdv newAdv, LsaChoice oi selAdv newAdv ∧ ospf6MdrUpdateLsaFull oi.neighborList.get oi =
    finishLsa oi.neighborList.get oi selAdv newAdv := by
  refine ⟨_, _, ⟨fun j hj => hj, fun _ j adv => ?_⟩, rfl⟩
  unfold lsaRequires
  rcases h with h | ⟨h, hlevel⟩
  · rw [h]
    rfl
  · rw [h]
    exact if_neg hlevel

lemma updateLsaMinimal_choice
    (h : oi.config.lsaFullness = .min ∨ oi.config.lsaFullness = .mdrFull ∧ oi.mdrLevel ≠ .mdr) :
    ∃ selAdv newAdv, LsaChoice oi selAdv newAdv ∧
      ospf6MdrUpdateLsaMinimal oi.neighborList.get oi = finishLsa oi.neighborList.get oi selAdv newAdv := by
  refine ⟨_, _, ⟨fun j hj => ?_, fun hbmdr j adv => ?_⟩, rfl⟩
  · unfold fullLsaRequires
    grind
  · unfold lsaRequires
    rcases h with h | ⟨h, hlevel⟩
    · rw [h]
      rfl
    have hother : oi.mdrLevel = .other := by
      cases hm : oi.mdrLevel with
      | other => rfl
      | bmdr => exact absurd ⟨h, hm⟩ hbmdr
      | mdr => exact absurd hm hlevel
    rw [h]
    exact if_pos hother

lemma updateLsaMincost_choice (h : oi.config.lsaFullness = .minCost ∨ oi.config.lsaFullness = .minCost2Paths) :
    ∃ selAdv newAdv, LsaChoice oi selAdv newAdv ∧
      ospf6MdrUpdateLsaMincost oi.neighborList.get oi = finishLsa oi.neighborList.get oi selAdv newAdv := by
  refine ⟨_, _, ⟨fun j hj => ?_, fun _ j adv => ?_⟩, rfl⟩
  · unfold fullLsaRequires
    grind
  · have hrule : lsaRequires oi = mincostLsaRequires oi := by
      unfold lsaRequires
      rcases h with h | h <;> rw [h]
    rw [hrule]
    unfold mincostLsaRequires fullLsaRequires selectedAdvertised
    rw [Bool.or_comm (oi.neighborList.get j).routable]
    rfl

lemma ospf6MdrUpdateLsa_eq (route : Nat → Bool) (oi : AdjInterface) :
    let oi1 := (ospf6MdrUpdateRoutableNeighbors route oi).1
    ∃ selAdv newAdv, LsaChoice oi1 selAdv newAdv ∧
      ospf6MdrUpdateLsa route oi = finishLsa oi1.neighborList.get oi1 selAdv newAdv := by
  intro oi1
  unfold ospf6MdrUpdateLsa
  dsimp only
  split
  · rename_i h
    exact updateLsaMincost_choice (.inl h)
  · rename_i h
    exact updateLsaMincost_choice (.inr h)
  · rename_i h
    exact updateLsaMinimal_choice (.inl h)
  · rename_i h
    exact updateLsaFull_choice (.inl h)
  · rename_i h
    split_ifs with hlevel
    · exact updateLsaFull_choice (.inr ⟨h, by simp [oi1, hlevel]⟩)
    · exact updateLsaMinimal_choice (.inr ⟨h, hlevel⟩)

lemma updateLsa_frame (env : AdjEnv) (oi : AdjInterface) : SameFrame oi (oi.updateLsa env) := by
  obtain ⟨selAdv, newAdv, -, h⟩ := ospf6MdrUpdateLsa_eq env.route oi
  have hframe : SameFrame oi (ospf6MdrUpdateLsa env.route oi).1 := by
    rw [h]
    exact (updateRoutableNeighbors_frame env.route).trans rfl
  exact hframe.trans rfl

lemma view_updateLsa (env : AdjEnv) (oi : AdjInterface) : (oi.updateLsa env).view = oi.view := by
  obtain ⟨selAdv, newAdv, -, h⟩ := ospf6MdrUpdateLsa_eq env.route oi
  change (ospf6MdrUpdateLsa env.route oi).1.view = oi.view
  rw [h]
  refine Eq.trans ?_ (view_updateRoutableNeighbors env.route)
  exact view_ofFn _ fun j => rfl

lemma raise_frame (on : AdjNeighbor) (next : NeighborState) :
    SameFrame oi (oi.raise env on next) := by
  unfold raise
  dsimp only
  split_ifs
  · have hset : SameFrame oi (oi.setState on.routerId next) := rfl
    exact hset.trans (updateLsa_frame env _)
  · rfl

lemma view_raise (on : AdjNeighbor) (next : NeighborState) :
    (oi.raise env on next).view = oi.view.set on.routerId next := by
  unfold raise
  dsimp only
  split_ifs
  · rw [view_updateLsa, view_setState]
  · exact view_setState _ _

lemma length_calculateMdr {n : Nat} (nbr : Fin n → MdrNeighbor) (mdr : MdrInterface) :
    (calculateMdr nbr mdr).neighborList.length = n := by
  obtain ⟨level, nonflooding, parent, bparent, dependent, h, -⟩ := calculateMdr_choice nbr mdr
  rw [h]
  exact length_ofFn

lemma map_calculateMdr {γ : Type*} {g : AdjNeighbor → γ}
    (hg : ∀ (on : AdjNeighbor) b, g { on with dependent := b } = g on) (elapsed : Nat)
    (oi : AdjInterface) : (oi.calculateMdr elapsed).neighborList.map g = oi.neighborList.map g := by
  unfold AdjInterface.calculateMdr
  split_ifs
  · rfl
  have hlen := (length_calculateMdr oi.toMdr.neighborList.get oi.toMdr).trans (length_map _)
  apply ext_getElem
  · simp [hlen]
  · simp [hg]

lemma view_calculateMdr (elapsed : Nat) (oi : AdjInterface) :
    (oi.calculateMdr elapsed).view = oi.view :=
  map_calculateMdr (fun _ _ => rfl) elapsed oi

end view

/-- The actions that keep two-way neighbors two-way and the limit on adjacencies. -/
inductive AdjAct (env : AdjEnv) (oi : AdjInterface) : AdjInterface → Prop
  | read (routerId : Nat) (f : AdjNeighbor → AdjNeighbor)
      (hf : ∀ on, (f on).view = on.view ∧ (f on).routable = on.routable) :
      AdjAct env oi (oi.modify routerId f)
  | set (on : AdjNeighbor) (next : NeighborState) (hmem : on ∈ oi.neighborList)
      (hkeep : NeighborState.twoway.toNat ≤ on.state.toNat →
        NeighborState.twoway.toNat ≤ next.toNat)
      (hform : next.isForming → on.state.isForming ∨ exstartDeferred oi = false) :
      AdjAct env oi (oi.setState on.routerId next)
  | updateLsa (htype : oi.type = .mdr) : AdjAct env oi (oi.updateLsa env)
  | routable : AdjAct env oi (ospf6MdrUpdateRoutableNeighbors env.route oi).1
  | calculate (htype : oi.type = .mdr) : AdjAct env oi (oi.calculateMdr env.elapsed)
  | elected (state : InterfaceState) (drouter bdrouter : Nat) :
      AdjAct env oi { oi with state, drouter, bdrouter }

/-- Any number of acts. -/
abbrev AdjActs (env : AdjEnv) : AdjInterface → AdjInterface → Prop :=
  Relation.ReflTransGen (AdjAct env)

section acts

variable {env : AdjEnv} {oi : AdjInterface} {on : AdjNeighbor}

lemma mem_of_lookup {routerId : Nat} (h : oi.lookup routerId = some on) :
    on ∈ oi.neighborList ∧ on.routerId = routerId :=
  ⟨mem_of_find?_eq_some h, by simpa using List.find?_some h⟩

lemma raise_acts {next : NeighborState} (hset : AdjAct env oi (oi.setState on.routerId next)) :
    AdjActs env oi (oi.raise env on next) := by
  unfold raise
  dsimp only
  split_ifs with h
  · exact (Relation.ReflTransGen.single hset).tail (.updateLsa h.1)
  · exact .single hset

lemma raise_twoway_acts (hmem : on ∈ oi.neighborList) : AdjActs env oi (oi.raise env on .twoway) :=
  raise_acts (.set on .twoway hmem (fun _ => le_rfl) fun h => absurd h (by decide))

lemma exstart_acts (hmem : on ∈ oi.neighborList) : AdjActs env oi (oi.exstart env on) := by
  unfold exstart
  split_ifs with h
  · exact .refl
  · refine raise_acts (.set on .exstart hmem (fun _ => by decide) fun _ => .inr ?_)
    simpa using h

/-- A loop over router IDs that does something with some of the neighbors. -/
lemma foldl_lookup {R : AdjInterface → AdjInterface → Prop} (hrefl : ∀ oi, R oi oi)
    (htrans : ∀ oi1 oi2 oi3, R oi1 oi2 → R oi2 oi3 → R oi1 oi3) {c : AdjInterface → AdjNeighbor → Prop}
    [∀ oi on, Decidable (c oi on)] {f : AdjInterface → AdjNeighbor → AdjInterface}
    (hf : ∀ oi on, on ∈ oi.neighborList → c oi on → R oi (f oi on)) (ids : List Nat) (oi : AdjInterface) :
    R oi (ids.foldl (fun oi id => match oi.lookup id with
      | some on => if c oi on then f oi on else oi
      | none => oi) oi) := by
  refine foldlRecOn _ _ (hrefl oi) fun oi' h id _ => htrans _ _ _ h ?_
  split
  · rename_i on hlookup
    split_ifs with hc
    · exact hf oi' on (mem_of_lookup hlookup).1 hc
    · exact hrefl oi'
  · exact hrefl oi'

lemma updateAdjacencies_acts : AdjActs env oi (oi.updateAdjacencies env) := by
  refine Relation.ReflTransGen.trans (foldl_lookup ?_ ?_ ?_ _ oi) (foldl_lookup ?_ ?_ ?_ _ _)
  · exact fun _ => .refl
  · exact fun _ _ _ => .trans
  · exact fun _ _ hmem _ => exstart_acts hmem
  · exact fun _ => .refl
  · exact fun _ _ _ => .trans
  · exact fun _ _ hmem _ => raise_twoway_acts hmem

end acts

end OspfMdr.Ospf6
