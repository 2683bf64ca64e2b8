import OspfMdr.Model.OpenOption
import OspfMdr.Proofs.Stream

namespace OspfMdr.Bgp
open Lib List Scan Cursor

/-- One flag that the parser sets in the peer. -/
inductive PeerChange
  | cap (x : PeerCap)
  | afCap (f : Family) (x : AfCap)
  | afcRecv (f : Family)
  | afcNego (f : Family)
  | restartTime (t : UInt16)
  deriving DecidableEq, Repr

/-- The peer with the flag set. -/
def PeerChange.apply (p : OpenPeer) : PeerChange → OpenPeer
  | .cap x => p.setCap x
  | .afCap f x => p.setAfCap f x
  | .afcRecv f => p.setAfcRecv f
  | .afcNego f => p.setAfcNego f
  | .restartTime t => { p with vGrRestart := t }

/-- The peer after the changes, in their order. -/
def OpenPeer.change (p : OpenPeer) (l : List PeerChange) : OpenPeer := l.foldl PeerChange.apply p

lemma OpenPeer.change_append (p : OpenPeer) (l1 l2 : List PeerChange) :
    p.change (l1 ++ l2) = (p.change l1).change l2 := foldl_append

/-- A capability as its code and its bytes. -/
structure Capability where
  code : UInt8
  data : List UInt8
  deriving DecidableEq, Repr

/-- An entry for a family, with what follows its count in the capability. -/
structure OrfEntry where
  family : Option Family
  num : Nat
  left : List UInt8

/-- The ORF types that the entry counts are there. -/
def OrfEntry.Fits (e : OrfEntry) : Prop := 2 * e.num ≤ e.left.length
  deriving Decidable

/-- The count of an entry is looked at when the family is supported only. -/
def OrfEntry.Passes (e : OrfEntry) : Prop := e.family = none ∨ e.Fits
  deriving Decidable

/-- The entries of an ORF capability, as far as the bytes reach. -/
def orfEntries : Nat → List UInt8 → List OrfEntry
  | fuel + 1, a :: b :: _ :: safi :: num :: left =>
    ⟨bgpAfiSafiValidIndices (word a b) safi, num.toNat, left⟩ ::
      if orfEntrySize < (left.drop (2 * num.toNat)).length then orfEntries fuel (left.drop (2 * num.toNat)) else []
  | _, _ => []

def orfTypeChanges (code : CapCode) (f : Family) (type mode : UInt8) : List PeerChange :=
  let smCap := if code = .orf then AfCap.orfPrefixSmRcv else .orfPrefixSmOldRcv
  let rmCap := if code = .orf then AfCap.orfPrefixRmRcv else .orfPrefixRmOldRcv
  if orfTypeOk code type ∧ orfFamilyOk f then
    (if mode = orfModeBoth ∨ mode = orfModeSend then [.afCap f smCap] else []) ++
      if mode = orfModeBoth ∨ mode = orfModeReceive then [.afCap f rmCap] else []
  else []

def orfTypesChanges (code : CapCode) (f : Family) : Nat → List UInt8 → List PeerChange
  | num + 1, type :: mode :: l => orfTypeChanges code f type mode ++ orfTypesChanges code f num l
  | _, _ => []

/-- What an entry changes in the peer. -/
def OrfEntry.changes (code : CapCode) (e : OrfEntry) : List PeerChange :=
  match e.family with
  | none => []
  | some f => if e.Fits then orfTypesChanges code f e.num e.left else []

def restartFamilyChanges (cfg : OpenConfig) (afi : UInt16) (safi flag : UInt8) : List PeerChange :=
  match bgpAfiSafiValidIndices afi safi with
  | none => []
  | some f =>
    if cfg.afc f then
      .afCap f .restartAfRcv :: if flag &&& 0x80 ≠ 0 then [.afCap f .restartAfPreserveRcv] else []
    else []

/-- What the families of a graceful restart capability change. -/
def restartChanges (cfg : OpenConfig) : List UInt8 → List PeerChange
  | a :: b :: safi :: flag :: l => restartFamilyChanges cfg (word a b) safi flag ++ restartChanges cfg l
  | _ => []

/-- What a multiprotocol capability changes. -/
def mpChanges (cfg : OpenConfig) (afi : UInt16) (safi : UInt8) : List PeerChange :=
  match bgpAfiSafiValidIndices afi safi with
  | none => []
  | some f => .afcRecv f :: if cfg.afc f then [.afcNego f] else []

namespace Capability

def entries (cap : Capability) : List OrfEntry := orfEntries cap.data.length cap.data

/-- What a capability changes, by the local configuration and its bytes. -/
def changes (cfg : OpenConfig) (cap : Capability) : List PeerChange :=
  match capCode cap.code, cap.data with
  | .mp, a :: b :: _ :: safi :: _ => if cfg.overrideCapability then [] else mpChanges cfg (word a b) safi
  | .refresh, _ => [.cap .refreshNewRcv]
  | .refreshOld, _ => [.cap .refreshOldRcv]
  | .dynamic, _ => [.cap .dynamicRcv]
  | .as4, _ :: _ :: _ :: _ :: _ => [.cap .as4Rcv]
  | .restart, a :: b :: l => [.cap .restartRcv, .restartTime (word a b &&& 0xFFF)] ++ restartChanges cfg l
  | .orf, _ => cap.entries.flatMap (OrfEntry.changes .orf)
  | .orfOld, _ => cap.entries.flatMap (OrfEntry.changes .orfOld)
  | _, _ => []

/-- The capability passes the checks of its parser. -/
def ok (cap : Capability) : Bool :=
  match capCode cap.code, cap.data with
  | .mp, data => 4 ≤ data.length
  | .restart, data => 2 ≤ data.length
  | .as4, [a, b, c, d] => long a b c d ≠ 0
  | .as4, _ => false
  | .orf, data | .orfOld, data => orfEntrySize ≤ data.length ∧ ∀ e ∈ cap.entries, e.Passes
  | _, _ => true

end Capability

variable {a b r safi : UInt8} {length fuel : Nat} {w : List UInt8} {cap : Capability}

section capabilities

variable (cfg : OpenConfig) (code : CapCode) (st : OpenState) {f : Family} {c : Stream} {p : OpenPeer}
  {l tail data : List UInt8} {num : Nat}

open OpenPeer

lemma orfType_change (type mode : UInt8) :
    orfType code f type mode p = p.change (orfTypeChanges code f type mode) := by
  unfold orfType orfTypeChanges
  by_cases hok : orfTypeOk code type ∧ orfFamilyOk f
  · simp only [hok, not_true_eq_false, if_false, and_self, if_true]
    by_cases hboth : mode = orfModeBoth
    · subst hboth
      simp [change, PeerChange.apply]
    by_cases hsend : mode = orfModeSend
    · subst hsend
      simp [change, PeerChange.apply, orfModeSend, orfModeBoth, orfModeReceive]
    by_cases hreceive : mode = orfModeReceive
    · subst hreceive
      simp [change, PeerChange.apply, orfModeSend, orfModeBoth, orfModeReceive]
    · simp [hboth, hsend, hreceive, change]
  · rw [if_neg hok]
    by_cases htype : orfTypeOk code type
    · have hf : ¬orfFamilyOk f := fun h => hok ⟨htype, h⟩
      simp [htype, hf, change]
    · simp [htype, change]

lemma orfTypeLoop_run (h : 2 * num ≤ c.rest.length) :
    (orfTypeLoop code f num st).run c =
      some ({ st with peer := st.peer.change (orfTypesChanges code f num c.rest) }, c.advance (2 * num)) :=
    by
  induction num generalizing c st with
  | zero => rw [mul_zero, advance_zero]; rfl
  | succ num ih =>
    obtain ⟨type, mode, l, hrest⟩ := exists_cons_cons (c := c) (by omega)
    have h1 := rest_step hrest
    have h2 : ((c.advance 1).advance 1).rest = l := rest_step h1
    have hlen : 2 * num ≤ ((c.advance 1).advance 1).rest.length := by
      rw [h2]
      rw [hrest] at h
      simp only [length_cons] at h
      omega
    rw [orfTypeLoop, bind_run (streamGetc_run hrest), bind_run (streamGetc_run h1), ih _ hlen, h2, hrest,
      orfTypesChanges, orfType_change, advance_advance, advance_advance]
    simp only [change_append]
    congr 3
    omega

lemma orfTypesChanges_append (h : 2 * num ≤ l.length) :
    orfTypesChanges code f num (l ++ tail) = orfTypesChanges code f num l := by
  induction num generalizing l with
  | zero => rfl
  | succ num ih =>
    match l with
    | [] => simp at h
    | [_] => simp at h; omega
    | type :: mode :: l =>
      have hl : 2 * num ≤ l.length := by
        simp only [length_cons] at h
        omega
      simp only [cons_append, orfTypesChanges, ih hl]

lemma bgpCapabilityMpData_run {s : UInt8} (h : c.rest = a :: b :: r :: s :: l) :
    bgpCapabilityMpData.run c = some ((word a b, s), c.advance 4) := by
  have h2 : (c.advance 2).rest = r :: s :: l := by rw [rest_advance, h]; rfl
  unfold bgpCapabilityMpData
  rw [bind_run (streamGetw_run h), bind_run (streamGetc_run h2),
    bind_run (streamGetc_run (rest_step h2)), advance_advance, advance_advance]
  rfl

/-- The count of an entry is right, or it is caught because it exceeds the capability; what an entry of a
family that is not supported counts is not read as another entry. -/
def OrfEntry.Counted (length : Nat) (e : OrfEntry) : Prop :=
  match e.family with
  | none => e.num = 0 ∨ e.left.length ≤ orfEntrySize
  | some _ => e.Fits ∨ length < orfEntrySize + e.num * 2

instance (length : Nat) : DecidablePred (OrfEntry.Counted length) := fun e => by
  unfold OrfEntry.Counted
  cases e.family <;> infer_instance

/-- How many bytes of an entry the parser passes: the types of a family that is not supported stay. -/
def OrfEntry.size (e : OrfEntry) : Nat := if e.family.isSome then orfEntrySize + 2 * e.num else orfEntrySize

lemma orfEntry_run {num : UInt8} {left : List UInt8}
    (h : c.rest = a :: b :: r :: safi :: num :: (left ++ tail)) {e : OrfEntry}
    (he : e = ⟨bgpAfiSafiValidIndices (word a b) safi, num.toNat, left⟩) (hcounted : e.Counted length)
    (hlength : left.length + orfEntrySize ≤ length) :
    (bgpCapabilityOrfEntry code length st).run c =
      if e.Passes then some ((true, { st with peer := st.peer.change (e.changes code) }), c.advance e.size)
      else some ((false, st.cease), c.advance orfEntrySize) := by
  have h4 : (c.advance 4).rest = num :: (left ++ tail) := by rw [rest_advance, h]; rfl
  unfold bgpCapabilityOrfEntry
  rw [bind_run (bgpCapabilityMpData_run h), bind_run (streamGetc_run h4), advance_advance]
  have h5 : (c.advance 5).rest = left ++ tail := by rw [rest_advance, h]; rfl
  subst he
  cases hf : bgpAfiSafiValidIndices (word a b) safi with
  | none => rfl
  | some f =>
    rw [hf] at hcounted
    have hpasses : OrfEntry.Passes ⟨some f, num.toNat, left⟩ ↔ 2 * num.toNat ≤ left.length := by
      simp [OrfEntry.Passes, OrfEntry.Fits]
    by_cases hfits : 2 * num.toNat ≤ left.length
    · have hfit : OrfEntry.Fits ⟨some f, num.toNat, left⟩ := hfits
      have hrest : 2 * num.toNat ≤ (c.advance 5).rest.length := by
        rw [h5, length_append]
        omega
      simp only [if_neg (show ¬orfEntrySize + num.toNat * 2 > length by omega)]
      rw [if_pos (hpasses.mpr hfits), bind_run (orfTypeLoop_run code st hrest), h5, orfTypesChanges_append code hfits,
        advance_advance]
      simp only [OrfEntry.changes, if_pos hfit]
      rfl
    · have hgt : orfEntrySize + num.toNat * 2 > length := hcounted.resolve_left hfits
      rw [if_neg (mt hpasses.mp hfits)]
      simp only [if_pos hgt]
      rfl

/-- Behind an entry that passes, the parser is behind its types, or too little is left for another entry. -/
lemma OrfEntry.Counted.size {e : OrfEntry} (h : e.Counted length) (hpasses : e.Passes) :
    e.size = 2 * e.num + orfEntrySize ∧ e.Fits ∨ e.size = orfEntrySize ∧ e.left.length ≤ orfEntrySize := by
  obtain ⟨family, num, left⟩ := e
  cases family with
  | some f => exact .inl ⟨Nat.add_comm _ _, hpasses.resolve_left (by simp)⟩
  | none =>
    obtain rfl | hleft := (h : num = 0 ∨ left.length ≤ orfEntrySize)
    · exact .inl ⟨rfl, Nat.zero_le _⟩
    · exact .inr ⟨rfl, hleft⟩

omit st in
lemma changes_of_not_fits {e : OrfEntry} (h : ¬e.Fits) : e.changes code = [] := by
  unfold OrfEntry.changes
  split
  · rfl
  · exact if_neg h

lemma orfLoop_run {n : Nat} (h : c.rest = w ++ tail) (hw : orfEntrySize ≤ w.length)
    (hlength : w.length ≤ length) (hn : w.length ≤ n) (hfuel : w.length ≤ fuel)
    (hcounted : ∀ e ∈ orfEntries n w, e.Counted length) :
    ∃ st' c', (orfLoop code length (c.pos + w.length) fuel st).run c =
        some ((decide (∀ e ∈ orfEntries n w, e.Passes), st'), c') ∧
      c'.all = c.all ∧ st'.peer = st.peer.change ((orfEntries n w).flatMap (OrfEntry.changes code)) := by
  induction fuel generalizing c st w n with
  | zero =>
    rw [orfEntrySize] at hw
    omega
  | succ fuel ih =>
    obtain ⟨n, rfl⟩ : ∃ k, n = k + 1 := ⟨n - 1, by rw [orfEntrySize] at hw; omega⟩
    match w, h, hw, hn, hfuel, hcounted with
    | a :: b :: r :: safi :: num :: left, h, hw, hn, hfuel, hcounted =>
      set e : OrfEntry := ⟨bgpAfiSafiValidIndices (word a b) safi, num.toNat, left⟩ with he
      have hlen : left.length + orfEntrySize ≤ length := hlength
      have hthis := hcounted e mem_cons_self
      have hentry := orfEntry_run code st h he hthis hlen
      rw [orfLoop]
      set after := left.drop (2 * num.toNat) with hafter
      have hentries : orfEntries (n + 1) (a :: b :: r :: safi :: num :: left) =
          e :: if orfEntrySize < after.length then orfEntries n after else [] := rfl
      rw [hentries] at hcounted ⊢
      have hlen' : after.length ≤ left.length := by
        rw [hafter, length_drop]
        omega
      by_cases hpasses : e.Passes
      · rw [if_pos hpasses] at hentry
        rw [bind_run hentry]
        simp only [if_true]
        rw [bind_run pos_run]
        obtain ⟨hsize, hnum⟩ | ⟨hsize, hleft⟩ := hthis.size hpasses
        · have hle : e.size ≤ (a :: b :: r :: safi :: num :: left).length := hsize ▸ Nat.add_le_add_right hnum 5
          have hdrop : (a :: b :: r :: safi :: num :: left).drop e.size = after := by
            rw [hsize]
            rfl
          have hrest : (c.advance e.size).rest = after ++ tail := hdrop ▸ rest_window h hle
          rw [end_window h hle, hdrop]
          by_cases hmore : orfEntrySize < after.length
          · rw [if_pos (by omega)]
            simp only [if_pos hmore] at hcounted ⊢
            simp only [length_cons] at hn hfuel
            obtain ⟨st', c', hrun, hall, hpeer⟩ := ih { st with peer := st.peer.change (e.changes code) } hrest
              (le_of_lt hmore) (by omega) (by omega) (by omega)
              fun e' he' => hcounted e' (mem_cons_of_mem _ he')
            refine ⟨st', c', ?_, hall.trans all_advance, ?_⟩
            · rw [hrun]
              simp only [mem_cons, forall_eq_or_imp, hpasses, true_and]
            · rw [hpeer, flatMap_cons, change_append]
          · rw [if_neg (by omega)]
            simp only [if_neg hmore]
            exact ⟨{ st with peer := st.peer.change (e.changes code) }, c.advance e.size, by simp [hpasses],
              all_advance, by simp⟩
        · have hle : e.size ≤ (a :: b :: r :: safi :: num :: left).length := hsize ▸ hw
          have hdrop : (a :: b :: r :: safi :: num :: left).drop e.size = left := by
            rw [hsize]
            rfl
          have hshort : left.length ≤ orfEntrySize := hleft
          rw [end_window h hle, hdrop, if_neg (by omega)]
          simp only [if_neg (show ¬orfEntrySize < after.length by omega)]
          exact ⟨{ st with peer := st.peer.change (e.changes code) }, c.advance e.size, by simp [hpasses],
            all_advance, by simp⟩
      · have hfits : ¬e.Fits := fun hfits => hpasses (.inr hfits)
        have hnil : after = [] := by
          rw [hafter, drop_eq_nil_iff]
          simp only [OrfEntry.Fits, he] at hfits
          omega
        rw [if_neg hpasses] at hentry
        rw [bind_run hentry, hnil]
        refine ⟨st.cease, c.advance orfEntrySize, by simp [hpasses], all_advance, ?_⟩
        simp only [flatMap_cons, changes_of_not_fits code hfits, nil_append, length_nil, not_lt_zero, if_false, flatMap_nil]
        rfl

lemma restartFamily_change (afi : UInt16) (safi flag : UInt8) :
    restartFamily cfg afi safi flag p = p.change (restartFamilyChanges cfg afi safi flag) := by
  unfold restartFamily restartFamilyChanges
  cases bgpAfiSafiValidIndices afi safi with
  | none => rfl
  | some f =>
    dsimp only
    split_ifs
    · rfl
    · rfl
    · rfl

lemma restartLoop_run (h : c.rest = w ++ tail) (hfuel : w.length < fuel) :
    ∃ c', (restartLoop cfg (c.pos + w.length) fuel st).run c =
        some ({ st with peer := st.peer.change (restartChanges cfg w) }, c') ∧ c'.all = c.all := by
  induction fuel generalizing c st w with
  | zero => omega
  | succ fuel ih =>
    rw [restartLoop, bind_run pos_run]
    by_cases hlen : 4 ≤ w.length
    · rw [if_pos (by omega)]
      match w, h, hlen, hfuel with
      | a :: b :: safi :: flag :: w, h, hlen, hfuel =>
        have h2 : (c.advance 2).rest = safi :: flag :: (w ++ tail) := by rw [rest_advance, h]; rfl
        have h4 : (c.advance 4).rest = w ++ tail := rest_window h hlen
        have hstop : _ = (c.advance 4).pos + w.length := end_window h hlen
        rw [bind_run (streamGetw_run h), bind_run (streamGetc_run h2),
          bind_run (streamGetc_run (rest_step h2)), advance_advance, advance_advance, hstop]
        simp only [length_cons] at hfuel
        obtain ⟨c', hrun, hall⟩ := ih { st with peer := restartFamily cfg (word a b) safi flag st.peer } h4 (by omega)
        refine ⟨c', ?_, hall.trans all_advance⟩
        rw [hrun, restartFamily_change]
        simp only [restartChanges, change_append]
    · rw [if_neg (by omega)]
      refine ⟨c, ?_, rfl⟩
      have hnone : restartChanges cfg w = [] := by
        match w, hlen with
        | [], _ => rfl
        | [_], _ => rfl
        | [_, _], _ => rfl
        | [_, _, _], _ => rfl
        | _ :: _ :: _ :: _ :: _, hlen => simp at hlen
      rw [hnone]
      rfl

/-- In the capabilities for outbound route filters the counts are right. -/
def Capability.Counted (cap : Capability) : Prop :=
  capCode cap.code = .orf ∨ capCode cap.code = .orfOld → ∀ e ∈ cap.entries, e.Counted cap.data.length
  deriving Decidable

lemma unsupported_run {sp : Nat} (h : sp + (length + 2) ≤ c.all.length) :
    ∃ st', (st.unsupported sp length).run c = some (st', c) ∧ st'.peer = st.peer := by
  unfold OpenState.unsupported
  rw [bind_run (slice_run h)]
  exact ⟨_, rfl, rfl⟩

lemma bgpCapabilityMp_run (h : c.rest = a :: b :: r :: safi :: l) :
    ∃ ok st', (bgpCapabilityMp cfg st).run c = some ((ok, st'), c.advance 4) ∧
      st'.peer = st.peer.change (mpChanges cfg (word a b) safi) := by
  unfold bgpCapabilityMp mpChanges
  rw [bind_run (bgpCapabilityMpData_run h)]
  cases hf : bgpAfiSafiValidIndices (word a b) safi with
  | none =>
    simp only [hf]
    exact ⟨false, st, rfl, rfl⟩
  | some f =>
    simp only [hf]
    split_ifs
    · exact ⟨true, { st with peer := (st.peer.setAfcRecv f).setAfcNego f }, rfl, rfl⟩
    · exact ⟨false, { st with peer := st.peer.setAfcRecv f }, rfl, rfl⟩

lemma bgpCapabilityRestart_run (hdata : data = a :: b :: l) (h : c.rest = data ++ tail) :
    ∃ st' c', (bgpCapabilityRestart cfg data.length st).run c = some (st', c') ∧ c'.all = c.all ∧
      st'.peer =
        st.peer.change ([.cap .restartRcv, .restartTime (word a b &&& 0xFFF)] ++ restartChanges cfg l) := by
  subst hdata
  have hlen : 2 ≤ (a :: b :: l).length := by simp
  have h2 : (c.advance 2).rest = l ++ tail := rest_window h hlen
  have hstop : _ = (c.advance 2).pos + l.length := end_window h hlen
  unfold bgpCapabilityRestart
  rw [bind_run pos_run, bind_run (streamGetw_run h), hstop]
  obtain ⟨c', hrun, hall⟩ := restartLoop_run cfg { st with peer := { st.peer.setCap .restartRcv with
    vGrRestart := word a b &&& 0xFFF } } h2 (Nat.lt_succ_of_le (Nat.le_add_right l.length 2))
  refine ⟨_, c', hrun, hall.trans all_advance, ?_⟩
  rfl

lemma bgpCapabilityAs4_run {d e : UInt8} (h : c.rest = a :: b :: d :: e :: l) :
    (bgpCapabilityAs4 4 p).run c = some ((long a b d e, p.setCap .as4Rcv), c.advance 4) := by
  unfold bgpCapabilityAs4
  simp only [ne_eq, not_true_eq_false, if_false]
  rw [bind_run (streamGetl_run h)]
  rfl

lemma bgpCapabilityAs4_run_of_ne (h : length ≠ 4) :
    (bgpCapabilityAs4 length p).run c = some ((0, p.setCap .as4Rcv), c) := by
  unfold bgpCapabilityAs4
  simp only [ne_eq, h, not_false_eq_true, if_true]
  rfl

open Capability

lemma handleCapability_run {sp : Nat} (h : c.rest = cap.data ++ tail) (hsp : sp + 2 = c.pos)
    (hmin : capMinsizes (capCode cap.code) ≤ cap.data.length) (hcounted : cap.Counted) :
    ∃ st' c', (handleCapability cfg (capCode cap.code) sp cap.data.length st).run c = some ((cap.ok, st'), c') ∧
      c'.all = c.all ∧ st'.peer = st.peer.change (cap.changes cfg) := by
  have hslice : sp + (cap.data.length + 2) ≤ c.all.length := by
    rw [← pos_add_rest, h, length_append]
    omega
  obtain ⟨code, data⟩ := cap
  simp only [Capability.Counted] at h hmin hcounted hslice ⊢
  cases hcode : capCode code with
  | mp =>
    rw [hcode] at hmin
    match data, h, hmin, hslice with
    | a :: b :: r :: safi :: l, h, hmin, hslice =>
      have hok : ok ⟨code, a :: b :: r :: safi :: l⟩ := by
        simp [ok, hcode]
      rw [hok]
      simp only [handleCapability, changes, hcode]
      by_cases hover : cfg.overrideCapability
      · simp only [if_pos hover]
        exact ⟨_, c, rfl, rfl, rfl⟩
      simp only [if_neg hover]
      obtain ⟨ok, st', hrun, hpeer⟩ := bgpCapabilityMp_run cfg { st with mpCapability := true }
        (l := l ++ tail) h
      rw [bind_run hrun]
      cases ok with
      | true => exact ⟨_, _, rfl, all_advance, hpeer⟩
      | false =>
        obtain ⟨st'', hrun', hpeer'⟩ := unsupported_run st' (c := c.advance 4)
          (by rw [all_advance]; exact hslice)
        simp only [Bool.false_eq_true, if_false]
        rw [bind_run hrun']
        exact ⟨_, _, rfl, all_advance, hpeer'.trans hpeer⟩
  | refresh | refreshOld | dynamic | vendor =>
    simp only [handleCapability, ok, changes, hcode]
    exact ⟨_, c, rfl, rfl, rfl⟩
  | unknown =>
    simp only [handleCapability, ok, changes, hcode]
    obtain ⟨st', hrun, hpeer⟩ := unsupported_run st hslice
    rw [bind_run hrun]
    exact ⟨st', c, rfl, rfl, hpeer⟩
  | orf | orfOld =>
    rw [hcode] at hmin hcounted
    obtain ⟨st', c', hrun, hall, hpeer⟩ := orfLoop_run _ st h hmin le_rfl le_rfl
      (Nat.le_succ _) (hcounted (by simp))
    refine ⟨st', c', ?_, hall, ?_⟩
    · have hsize : orfEntrySize ≤ data.length := hmin
      simp only [handleCapability, ok, hcode, hsize, true_and, bgpCapabilityOrf]
      rw [bind_run pos_run, if_pos (by omega)]
      exact hrun
    · simp only [changes, hcode]
      exact hpeer
  | restart =>
    rw [hcode] at hmin
    match data, h, hmin with
    | a :: b :: l, h, hmin =>
      obtain ⟨st', c', hrun, hall, hpeer⟩ := bgpCapabilityRestart_run cfg st rfl h
      simp only [handleCapability, changes, hcode]
      rw [bind_run hrun]
      exact ⟨st', c', by simp [ok, hcode], hall, hpeer⟩
  | as4 =>
    rw [hcode] at hmin
    match data, h, hmin with
    | [a, b, d, e], h, hmin =>
      have hrun : (bgpCapabilityAs4 [a, b, d, e].length st.peer).run c = _ := bgpCapabilityAs4_run h
      simp only [handleCapability, ok, changes, hcode]
      rw [bind_run hrun]
      exact ⟨_, _, rfl, all_advance, rfl⟩
    | a :: b :: d :: e :: x :: l, h, hmin =>
      have hrun : (bgpCapabilityAs4 (a :: b :: d :: e :: x :: l).length st.peer).run c = _ :=
        bgpCapabilityAs4_run_of_ne (by simp)
      simp only [handleCapability, ok, changes, hcode]
      rw [bind_run hrun]
      exact ⟨_, _, rfl, rfl, rfl⟩

lemma changes_of_short (h : cap.data.length < capMinsizes (capCode cap.code)) :
    cap.ok = false ∧ cap.changes cfg = [] := by
  obtain ⟨code, data⟩ := cap
  cases hcode : capCode code with
  | refresh | refreshOld | dynamic | vendor | unknown => simp [hcode, capMinsizes] at h
  | mp | as4 =>
    rw [hcode] at h
    match data, h with
    | [], _ | [_], _ | [_, _], _ | [_, _, _], _ => simp [ok, changes, hcode]
    | _ :: _ :: _ :: _ :: _, h => simp only [capMinsizes, length_cons] at h; omega
  | restart =>
    rw [hcode] at h
    match data, h with
    | [], _ | [_], _ => simp [ok, changes, hcode]
    | _ :: _ :: _, h => simp only [capMinsizes, length_cons] at h; omega
  | orf | orfOld =>
    rw [hcode] at h
    have hentries : entries ⟨code, data⟩ = [] := by
      match data, h with
      | [], _ | [_], _ | [_, _], _ | [_, _, _], _ | [_, _, _, _], _ => rfl
      | _ :: _ :: _ :: _ :: _ :: _, h => simp only [capMinsizes, orfEntrySize, length_cons] at h; omega
    have hsize : ¬orfEntrySize ≤ data.length := Nat.not_le_of_lt h
    simp [ok, changes, hcode, hentries, hsize]

end capabilities

end OspfMdr.Bgp
