import OspfMdr.Proofs.IsisFragments

namespace OspfMdr.Isis

open Lib Lspdb Area Function


/-- The run has not failed, and each database lists its fragments exactly. -/
def FragmentsExact : Option Area → Prop
  | none => False
  | some a => ∀ level, (a.lspdb level).Exact

/-- An LSP makes no zero LSP beside fragments of its node, and an own purge meets no zero LSP and leaves none.
-/
def HarmlessLsp (a : Area) (level : Level) (hdr : Header) (adj : Bool) : Prop :=
  adj → hdr.remLifetime ≠ 0 → (a.lspdb level).lspSearch hdr.lspId = none →
    if sysId hdr.lspId = a.sysid then
      (a.lspdb (purgeLevel hdr)).lspSearch hdr.lspId = none ∧
        Lspdb.Apart hdr.lspId (a.lspdb (purgeLevel hdr))
    else fragment hdr.lspId = 0 → Lspdb.Apart hdr.lspId (a.lspdb level)

/-- A new LSP is apart from those held, and no fragment ages out before its LSP with number 0. -/
def Harmless (a : Area) : Event → Prop
  | .receiveLsp level hdr adj => HarmlessLsp a level hdr adj
  | .receiveSnp level entries =>
    StepsOk (snpEntry a.sysid) (fun db entry => Lspdb.Makes a.sysid db entry → Lspdb.Apart entry.lspId db)
      (a.lspdb level) entries
  | .generate level _ _ =>
    (a.lspdb level).lspSearch (ownId a.sysid) = none → Lspdb.Apart (ownId a.sysid) (a.lspdb level)
  | .regenerate level _ n => Lspdb.Listed a.sysid (a.lspdb level) n
  | .generatePseudo level circuitId _ =>
    (a.lspdb level).lspSearch (pseudoId a.sysid circuitId) = none →
      Lspdb.Apart (pseudoId a.sysid circuitId) (a.lspdb level)
  | .regeneratePseudo _ _ _ => True
  | .purgePseudo .. => True
  | .tick => ∀ level, ∀ z ∈ (a.lspdb level).lsps, ∀ f ∈ (a.lspdb level).lsps, FragmentOf f z →
      Lspdb.AgesOut f → Lspdb.AgesOut z

def HarmlessStep (a : Option Area) (e : Event) : Prop := ∃ a', a = some a' ∧ Harmless a' e

/-- The invariant of the databases of an area, unless the run has failed. -/
def AreaOk (a : Option Area) : Prop := ∀ a', a = some a' → ∀ level, (a'.lspdb level).Ok a'.sysid

/-- The area stays well formed, and its lists stay exact if the event is `harmless`. -/
def AreaSteps (a : Area) (r : Option Area) (harmless : Prop) : Prop :=
  AreaOk r ∧ ((∀ l, (a.lspdb l).Exact) → (FragmentsExact r ↔ harmless))

section
variable {a : Area} {level : Level} (hok : ∀ l, (a.lspdb l).Ok a.sysid)
include hok

lemma onLevel_steps {f : Lspdb → Option Lspdb} {harmless : Prop}
    (h : Lspdb.Steps a.sysid (a.lspdb level) (f (a.lspdb level)) harmless) :
    AreaSteps a (a.onLevel level f) harmless := by
  constructor
  · intro a' ha
    obtain ⟨db', hdb', rfl⟩ := Option.map_eq_some_iff.mp ha
    exact (forall_update_iff a.lspdb _).mpr ⟨h.1 db' hdb', fun l _ => hok l⟩
  · intro hexact
    rw [← h.2 (hexact level)]
    unfold onLevel
    cases hdb : f (a.lspdb level) with
    | none => exact ⟨False.elim, nofun⟩
    | some db' =>
      refine (forall_update_iff a.lspdb _).trans ⟨fun h => ⟨db', rfl, h.1⟩, ?_⟩
      rintro ⟨db1, ⟨⟩, hexact1⟩
      exact ⟨hexact1, fun l _ => hexact l⟩

lemma processLsp_steps (hdr : Header) (adj : Bool) :
    AreaSteps a (a.processLsp level hdr adj) (HarmlessLsp a level hdr adj) := by
  unfold processLsp HarmlessLsp
  by_cases hadj : ((((a.lspdb level).lspSearch hdr.lspId).elim true fun lsp => !lsp.ownLsp) && !adj)
  · rw [if_pos hadj]
    refine ⟨fun a' h l => Option.some.inj h ▸ hok l, fun hexact => iff_of_true hexact fun h => ?_⟩
    rw [h, Bool.not_true, Bool.and_false] at hadj
    exact absurd hadj (by simp)
  rw [if_neg hadj]
  by_cases hpurge : hdr.remLifetime = 0
  · rw [if_pos hpurge]
    exact onLevel_steps hok ((receivePurge_reshaped a.sysid _ hdr).steps (hok level)
      fun _ h => absurd hpurge h)
  rw [if_neg hpurge]
  have hsender (hnone : (a.lspdb level).lspSearch hdr.lspId = none) : adj := by
    rw [hnone] at hadj
    simpa using hadj
  by_cases hself : sysId hdr.lspId = a.sysid
  · rw [if_pos hself, if_pos hself]
    cases hsearch : (a.lspdb level).lspSearch hdr.lspId with
    | some lsp =>
      refine onLevel_steps hok (Lspdb.Reshaped.steps ?_ (hok level) fun _ _ h => absurd h (by simp))
      split_ifs
      · exact Lspdb.Reshaped.modify (quiet_lspIncSeqnum _) _ _
      · exact Lspdb.Reshaped.refl _
    | none =>
      exact onLevel_steps hok ((lspPurgeNonExist_steps (hok _) hdr hself).congr
        ⟨fun h _ _ _ => h, fun h => h (hsender hsearch) hpurge rfl⟩)
  · rw [if_neg hself, if_neg hself]
    exact onLevel_steps hok ((receiveOther_steps (hok level) hdr hself).congr
      ⟨fun h _ _ => h, fun h hnone => h (hsender hnone) hpurge hnone⟩)

lemma event_steps (e : Event) : AreaSteps a (a.event e) (Harmless a e) := by
  cases e <;> dsimp only [event, Harmless]
  case receiveLsp level hdr adj => exact processLsp_steps hok hdr adj
  case receiveSnp level entries =>
    have hinv (db : Lspdb) (entry : Header) (h : db.Ok a.sysid) := (snpEntry_spec h entry).1
    have hiff (db : Lspdb) (entry : Header) (h : db.Ok a.sysid) := (snpEntry_spec h entry).2
    refine onLevel_steps hok (steps_some ?_ fun hexact => ?_)
    · exact List.foldlRecOn entries _ (hok level) fun db h entry _ => hinv db entry h
    · exact (foldl_iff_stepsOk hinv hiff (hok level) entries).trans (and_iff_right hexact)
  case generate level remLifetime n =>
    exact onLevel_steps hok (lspGenerate_steps (hok level) remLifetime n)
  case regenerate level remLifetime n =>
    exact onLevel_steps hok (lspRegenerate_steps (hok level) remLifetime n)
  case generatePseudo level circuitId remLifetime =>
    exact onLevel_steps hok (lspGeneratePseudo_steps (hok level) circuitId remLifetime)
  case regeneratePseudo level circuitId remLifetime =>
    exact onLevel_steps hok ((lspRegeneratePseudo_reshaped ..).steps (hok level) trivial)
  case purgePseudo level id bigEndian checksum maxLifetime =>
    exact onLevel_steps hok ((lspPurgePseudo_reshaped ..).steps (hok level) trivial)
  case tick =>
    refine ⟨fun a' h l => ?_, fun hexact => forall_congr' fun l => (lspTick_spec (hok l)).2 (hexact l)⟩
    cases h
    exact (lspTick_spec (hok l)).1

end

/-- In a run the lists are exact all the time exactly if each event is harmless. -/
theorem fragments_exact_iff (sysid : Nat) (events : List Event) :
    EachState step FragmentsExact (some (init sysid)) events ↔
      StepsOk step HarmlessStep (some (init sysid)) events := by
  have hempty : (⟨[], 0⟩ : Lspdb).Ok sysid ∧ (⟨[], 0⟩ : Lspdb).Exact :=
    ⟨⟨List.Pairwise.nil, nofun, nofun, nofun, nofun⟩, nofun⟩
  have hinit : AreaOk (some (init sysid)) := by
    intro a ha level
    cases ha
    exact hempty.1
  have hinv (s : Option Area) (e : Event) (hs : AreaOk s) : AreaOk (step s e) := by
    cases s with
    | none => exact fun _ h => absurd h (by simp [step])
    | some a => exact (event_steps (hs a rfl) e).1
  have hiff (s : Option Area) (e : Event) (hs : AreaOk s) (hexact : FragmentsExact s) :
      FragmentsExact (step s e) ↔ HarmlessStep s e := by
    cases s with
    | none => exact absurd hexact id
    | some a =>
      refine ((event_steps (hs a rfl) e).2 hexact).trans ⟨fun h => ⟨a, rfl, h⟩, ?_⟩
      rintro ⟨a', ha, h⟩
      exact Option.some.inj ha ▸ h
  exact eachState_iff_stepsOk hinv hiff hinit (fun _ => hempty.2) events

/-- What a run leaves at level 1, and whether its fragments are exact. -/
def levelOne (events : List Event) : Option (List (LspId × Nat × Option (List Nat)) × Bool) :=
  (events.foldl step (some (init 1))).map fun a =>
    ((a.lspdb .one).lsps.map fun x => (x.lspId, x.ptr, x.frags), decide (a.lspdb .one).Exact)

def lspOf (fragment seqNum remLifetime : Nat) : Header := ⟨131072 + fragment, seqNum, 7, remLifetime, 1⟩

/-- The fragment is announced by a sequence-number PDU before it arrives. -/
def announcedFirst : List Event :=
  [.receiveLsp .one (lspOf 0 5 1000) true, .receiveSnp .one [lspOf 1 5 1000], .receiveLsp .one (lspOf 1 5 1000) true]

def fragmentExpires : List Event :=
  [.receiveLsp .one (lspOf 0 5 1000) true, .receiveLsp .one (lspOf 1 5 1) true] ++ List.replicate 61 .tick

/-- The zero LSP ages out and comes back. -/
def zeroExpires : List Event :=
  [.receiveLsp .one (lspOf 0 5 1) true, .receiveLsp .one (lspOf 1 5 1000) true] ++ List.replicate 61 .tick ++
    [.receiveLsp .one (lspOf 0 6 1000) true]

theorem fragments_not_exact :
    levelOne announcedFirst = some ([(131072, 0, some []), (131073, 1, none)], false) ∧
    levelOne fragmentExpires = some ([(131072, 0, some [1])], false) ∧
    levelOne zeroExpires = some ([(131072, 2, some []), (131073, 1, none)], false) := by
  refine ⟨by decide +kernel, by decide +kernel, by decide +kernel⟩

end OspfMdr.Isis
