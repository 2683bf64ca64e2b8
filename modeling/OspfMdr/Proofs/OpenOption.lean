import OspfMdr.Proofs.Capability

namespace OspfMdr.Bgp
open Lib List Scan Cursor Capability

section options

/-- The capabilities of a parameter up to the one that ends the parsing, and whether there is none
that does. -/
def capabilitiesOf : Nat → List UInt8 → List Capability × Bool
  | _, [] => ([], true)
  | fuel + 1, code :: length :: l =>
    if length.toNat ≤ l.length then
      let cap : Capability := ⟨code, l.take length.toNat⟩
      if cap.ok then
        let r := capabilitiesOf fuel (l.drop length.toNat)
        (cap :: r.1, r.2)
      else ([cap], false)
    else ([], false)
  | _, _ => ([], false)

/-- The capabilities of the parameters, the first of which start in the next `length` bytes. -/
def openCapabilities : Nat → Nat → List UInt8 → List Capability × Bool
  | _, 0, _ => ([], true)
  | fuel + 1, size + 1, type :: length :: l =>
    if length.toNat ≤ l.length ∧ type = 2 then
      let caps := capabilitiesOf length.toNat (l.take length.toNat)
      if caps.2 then
        let r := openCapabilities fuel (size + 1 - (2 + length.toNat)) (l.drop length.toNat)
        (caps.1 ++ r.1, r.2)
      else (caps.1, false)
    else ([], false)
  | _, _, _ => ([], false)

variable (cfg : OpenConfig) (st : OpenState) {c : Stream} {p : OpenPeer} {tail w : List UInt8}

lemma leaveCapability_run {stop : Nat} (h : stop ≤ c.all.length) :
    (leaveCapability stop).run c = some ((), c.seek stop) := by
  unfold leaveCapability
  rw [bind_run pos_run]
  split_ifs with hpos
  · exact seek_run h
  · rw [← not_not.mp hpos, seek_self]
    rfl

lemma capabilityLoop_run {n fuel : Nat} (h : c.rest = w ++ tail) (hn : w.length ≤ n) (hfuel : w.length < fuel)
    (hcounted : ∀ cap ∈ (capabilitiesOf n w).1, cap.Counted) :
    ∃ st' c', (capabilityLoop cfg (c.pos + w.length) fuel st).run c = some (((capabilitiesOf n w).2, st'), c') ∧
      ((capabilitiesOf n w).2 = true → c' = c.advance w.length) ∧
      st'.peer = st.peer.change ((capabilitiesOf n w).1.flatMap (changes cfg)) := by
  induction fuel generalizing c st w n with
  | zero => omega
  | succ fuel ih =>
    rw [capabilityLoop, bind_run pos_run]
    match w, h, hn, hfuel, hcounted with
    | [], h, hn, hfuel, hcounted =>
      have hnil : capabilitiesOf n [] = ([], true) := by cases n <;> rfl
      rw [if_neg (by simp), hnil]
      exact ⟨st, c, rfl, fun _ => advance_zero.symm, rfl⟩
    | [b], h, hn, hfuel, hcounted =>
      have hone : capabilitiesOf n [b] = ([], false) := by cases n <;> rfl
      rw [if_pos (by simp), if_pos (by simp), hone]
      exact ⟨st.cease, c, rfl, nofun, rfl⟩
    | code :: length :: l, h, hn, hfuel, hcounted =>
      obtain ⟨n, rfl⟩ : ∃ k, n = k + 1 := ⟨n - 1, by simp only [length_cons] at hn; omega⟩
      have h2 : (c.advance 2).rest = l ++ tail := by rw [rest_advance, h]; rfl
      have hpos : (c.advance 2).pos = c.pos + 2 := pos_advance (by rw [h]; simp)
      rw [if_pos (by simp), if_neg (by simp only [length_cons]; omega), bind_run (streamGetc_run h),
        bind_run (streamGetc_run (rest_step h)), advance_advance, bind_run pos_run, hpos]
      by_cases hlen : length.toNat ≤ l.length
      · set cap : Capability := ⟨code, l.take length.toNat⟩ with hcap
        have hdata : cap.data.length = length.toNat := length_take_of_le hlen
        set r := capabilitiesOf n (l.drop length.toNat) with hr
        have hcaps : capabilitiesOf (n + 1) (code :: length :: l) =
            if cap.ok then (cap :: r.1, r.2) else ([cap], false) := if_pos hlen
        rw [if_neg (by simp only [length_cons]; omega), hcaps]
        rw [hcaps] at hcounted
        by_cases hmin : length.toNat < capMinsizes (capCode code)
        · obtain ⟨hok, hchanges⟩ := changes_of_short cfg (hdata.symm ▸ hmin)
          rw [if_pos hmin, hok]
          refine ⟨st.cease, _, rfl, nofun, ?_⟩
          simp only [Bool.false_eq_true, if_false, flatMap_cons, hchanges, nil_append, flatMap_nil]
          rfl
        have hrest : (c.advance 2).rest = cap.data ++ (l.drop length.toNat ++ tail) := by
          rw [h2, hcap, ← append_assoc, take_append_drop]
        have hthis : cap.Counted := hcounted cap (by split_ifs <;> simp)
        obtain ⟨st', c', hrun, hall, hpeer⟩ := handleCapability_run cfg st hrest
          hpos.symm (by rw [hdata]; exact not_lt.mp hmin) hthis
        rw [hdata] at hrun
        rw [if_neg hmin, bind_run hrun]
        cases hok : cap.ok with
        | false =>
          simp only [Bool.false_eq_true, if_false, flatMap_cons, flatMap_nil, append_nil]
          exact ⟨st', c', rfl, nofun, hpeer⟩
        | true =>
          have hsize : (c.advance 2).pos + length.toNat ≤ c'.all.length := by
            rw [hall, ← pos_add_rest, h2, length_append]
            omega
          have hseek : c'.seek (c.pos + 2 + length.toNat) = c.advance (length.toNat + 2) := by
            rw [seek_congr hall, ← hpos, seek_pos, advance_advance, add_comm]
          rw [hpos] at hsize
          simp only [if_true]
          rw [bind_run (leaveCapability_run hsize), hseek]
          have hle : length.toNat + 2 ≤ (code :: length :: l).length := Nat.add_le_add_right hlen 2
          have hafter : (c.advance (length.toNat + 2)).rest = l.drop length.toNat ++ tail :=
            rest_window h hle
          rw [end_window h hle]
          simp only [hok, if_true] at hcounted
          simp only [length_cons] at hn hfuel
          have hdrop : (l.drop length.toNat).length ≤ l.length := by
            rw [length_drop]
            omega
          obtain ⟨st'', c'', hrun', hend, hpeer'⟩ := ih st' hafter (n := n) (by omega) (by omega)
            fun cap' hcap' => hcounted cap' (mem_cons_of_mem _ hcap')
          refine ⟨st'', c'', hrun', fun hr2 => ?_, ?_⟩
          · rw [hend hr2, advance_advance]
            congr 1
            rw [length_drop]
            simp only [length_cons]
            omega
          · rw [hpeer', hpeer, flatMap_cons, OpenPeer.change_append]
      · have hbad : capabilitiesOf (n + 1) (code :: length :: l) = ([], false) := if_neg hlen
        rw [if_pos (by simp only [length_cons]; omega), hbad]
        exact ⟨st.cease, _, rfl, nofun, rfl⟩

lemma bgpCapabilityParse_run (h : c.rest = w ++ tail)
    (hcounted : ∀ cap ∈ (capabilitiesOf w.length w).1, cap.Counted) :
    ∃ st' c', (bgpCapabilityParse cfg w.length st).run c = some (((capabilitiesOf w.length w).2, st'), c') ∧
      ((capabilitiesOf w.length w).2 = true → c' = c.advance w.length) ∧
      st'.peer = st.peer.change ((capabilitiesOf w.length w).1.flatMap (changes cfg)) := by
  unfold bgpCapabilityParse
  rw [bind_run readable_run, if_pos (by rw [h, length_append]; omega), bind_run pos_run]
  exact capabilityLoop_run cfg st h le_rfl (Nat.lt_succ_self _) hcounted

lemma optionLoop_run {stop n fuel : Nat} (hn : stop - c.pos ≤ n) (hfuel : stop - c.pos < fuel)
    (hcounted : ∀ cap ∈ (openCapabilities n (stop - c.pos) c.rest).1, cap.Counted) :
    ∃ st' c', (optionLoop cfg stop fuel st).run c =
        some (((openCapabilities n (stop - c.pos) c.rest).2, st'), c') ∧
      st'.peer = st.peer.change ((openCapabilities n (stop - c.pos) c.rest).1.flatMap (changes cfg)) := by
  induction fuel generalizing c st n with
  | zero => omega
  | succ fuel ih =>
    rw [optionLoop, bind_run pos_run]
    by_cases hpos : c.pos < stop
    · rw [if_pos hpos, bind_run readable_run]
      obtain ⟨size, hsize⟩ : ∃ size, stop - c.pos = size + 1 := ⟨stop - c.pos - 1, by omega⟩
      obtain ⟨n, rfl⟩ : ∃ k, n = k + 1 := ⟨n - 1, by omega⟩
      rw [hsize] at hcounted ⊢
      match hrest : c.rest with
      | [] =>
        rw [if_pos (by simp)]
        exact ⟨st.cease, c, rfl, rfl⟩
      | [b] =>
        rw [if_pos (by simp)]
        exact ⟨st.cease, c, rfl, rfl⟩
      | type :: length :: l =>
        rw [hrest] at hcounted
        have h2 : (c.advance 2).rest = l := by rw [rest_advance, hrest]; rfl
        rw [if_neg (by simp), bind_run (streamGetc_run hrest),
          bind_run (streamGetc_run (rest_step hrest)), advance_advance,
          bind_run readable_run, h2]
        by_cases hlen : length.toNat ≤ l.length
        · rw [if_neg (by omega)]
          by_cases htype : type = 2
          · subst htype
            set w := l.take length.toNat with hw
            have hwlen : w.length = length.toNat := length_take_of_le hlen
            set caps := capabilitiesOf length.toNat w with hcaps
            set r := openCapabilities n (size + 1 - (2 + length.toNat)) (l.drop length.toNat) with hr
            have hopen : openCapabilities (n + 1) (size + 1) (2 :: length :: l) =
                if caps.2 then (caps.1 ++ r.1, r.2) else (caps.1, false) := if_pos ⟨hlen, rfl⟩
            rw [hopen] at hcounted ⊢
            have hsplit : (c.advance 2).rest = w ++ l.drop length.toNat := by
              rw [h2, hw, take_append_drop]
            obtain ⟨st', c', hrun, hend, hpeer⟩ := bgpCapabilityParse_run cfg st hsplit (by
              rw [hwlen]
              intro cap hcap
              refine hcounted cap ?_
              split_ifs
              · exact mem_append_left _ hcap
              · exact hcap)
            rw [hwlen, ← hcaps] at hrun hend hpeer
            have hhandle : (handleOption cfg 2 length.toNat st).run (c.advance 2) = some ((caps.2, st'), c') := hrun
            rw [bind_run hhandle]
            cases hok : caps.2 with
            | false => exact ⟨st', c', rfl, hpeer⟩
            | true =>
              have hc' : c' = c.advance (2 + length.toNat) := by rw [hend hok, advance_advance]
              have hpos' : c'.pos = c.pos + (2 + length.toNat) := by
                rw [hc', pos_advance (by rw [hrest]; simp only [length_cons]; omega)]
              have hstop : stop - c'.pos = size + 1 - (2 + length.toNat) := by omega
              have hrest' : c'.rest = l.drop length.toNat := by
                rw [hc', ← advance_advance, rest_advance, h2]
              simp only [hok, if_true] at hcounted ⊢
              obtain ⟨st'', c'', hrun', hpeer'⟩ := ih st' (c := c') (n := n) (by omega) (by omega) (by
                rw [hstop, hrest']
                exact fun cap hcap => hcounted cap (mem_append_right _ hcap))
              rw [hstop, hrest'] at hrun' hpeer'
              refine ⟨st'', c'', hrun', ?_⟩
              rw [hpeer', hpeer, flatMap_append, OpenPeer.change_append]
          · have hbad : openCapabilities (n + 1) (size + 1) (type :: length :: l) = ([], false) :=
              if_neg fun h => htype h.2
            rw [hbad]
            unfold handleOption
            by_cases hauth : type = 1
            · rw [if_pos hauth]
              exact ⟨_, _, rfl, rfl⟩
            · rw [if_neg hauth, if_neg htype]
              exact ⟨_, _, rfl, rfl⟩
        · have hbad : openCapabilities (n + 1) (size + 1) (type :: length :: l) = ([], false) :=
            if_neg fun h => hlen h.1
          rw [if_pos (by omega), hbad]
          exact ⟨st.cease, _, rfl, rfl⟩
    · have hzero : stop - c.pos = 0 := by omega
      have hnil : openCapabilities n 0 c.rest = ([], true) := by cases n <;> rfl
      rw [if_neg hpos, hzero, hnil]
      exact ⟨st, c, rfl, rfl⟩

/-- The capabilities that the parser of an OPEN message handles, of which only the last one may be
wrong. -/
def handledCapabilities (length : UInt8) (l : List UInt8) : List Capability :=
  (openCapabilities length.toNat length.toNat l).1

lemma optionParse_run (length : UInt8) (hcounted : ∀ cap ∈ handledCapabilities length c.rest, cap.Counted) :
    ∃ ok st c', (bgpOpenOptionParse cfg length p).run c = some ((ok, st), c') ∧
      st.peer = p.change ((handledCapabilities length c.rest).flatMap (changes cfg)) := by
  have hstop : c.pos + length.toNat - c.pos = length.toNat := by omega
  obtain ⟨st, c', hrun, hpeer⟩ := optionLoop_run cfg ⟨p, false, [], []⟩ (le_of_eq hstop)
    (Nat.lt_succ_of_le (le_of_eq hstop)) (by rw [hstop]; exact hcounted)
  rw [hstop] at hrun hpeer
  unfold bgpOpenOptionParse
  rw [bind_run pos_run, bind_run hrun]
  cases hok : (openCapabilities length.toNat length.toNat c.rest).2 with
  | false => exact ⟨_, _, _, rfl, hpeer⟩
  | true =>
    refine ⟨_, _, _, rfl, ?_⟩
    have hchecks : (openChecks cfg st).2.peer = st.peer := by
      unfold openChecks
      split_ifs <;> rfl
    exact hchecks.trans hpeer

end options

section peek

variable {buf : List UInt8} {e q fuel : Nat} {c : Stream} {p : OpenPeer}

lemma bgpCapabilityAs4_inside (he : e ≤ buf.length) {length : Nat} (hq : q + length ≤ e) :
    Scan.Inside buf e q (bgpCapabilityAs4 length p) fun r _ => r.2 = p.setCap .as4Rcv := by
  unfold bgpCapabilityAs4
  split_ifs with hlen
  · exact .pure (by omega) rfl
  · exact (inside_getl he (by omega)).bind fun _ _ hq _ => .pure hq rfl

/-- At most the flag of the capability is set. -/
lemma peekCapabilities_inside {stop : Nat} (he : e ≤ buf.length) (hstop : stop ≤ e) (hq : q ≤ stop)
    (hfuel : stop - q < fuel) : Scan.Inside buf e q (peekCapabilities stop fuel p) fun r q' =>
    (r.2 = p ∨ r.2 = p.setCap .as4Rcv) ∧ (r.1 = none → r.2 = p ∧ q' = stop) := by
  induction fuel generalizing q with
  | zero => omega
  | succ fuel ih =>
    rw [peekCapabilities]
    refine (Scan.Inside.pos he (by omega)).bind_eq fun hqe => ?_
    split_ifs with hlt hheader
    · exact .pure hqe ⟨.inl rfl, nofun⟩
    · refine (inside_getc he (by omega)).bind_at fun code _ _ => ?_
      refine (inside_getc he (by omega)).bind_at fun length _ hq2 => ?_
      refine (Scan.Inside.pos he hq2).bind_eq fun _ => ?_
      split_ifs with hdata has4
      · exact .pure hq2 ⟨.inl rfl, nofun⟩
      · exact (bgpCapabilityAs4_inside he (by omega)).bind fun _ _ hq hr => .pure hq ⟨.inr hr, nofun⟩
      · refine (inside_forward he (by omega)).bind_to fun _ _ => ?_
        exact ih (by omega) (by omega)
    · exact .pure hqe ⟨.inl rfl, fun _ => ⟨rfl, by omega⟩⟩

lemma peekOptions_inside (he : e ≤ buf.length) (hq : q ≤ e) (hfuel : e - q < fuel) :
    Scan.Inside buf e q (peekOptions e fuel p) fun r _ => r.2 = p ∨ r.2 = p.setCap .as4Rcv := by
  induction fuel generalizing q with
  | zero => omega
  | succ fuel ih =>
    rw [peekOptions]
    refine (Scan.Inside.pos he hq).bind_eq fun _ => ?_
    split_ifs with hlt hheader
    · exact .pure hq (.inl rfl)
    · refine (inside_getc he (by omega)).bind_at fun type _ _ => ?_
      refine (inside_getc he (by omega)).bind_at fun length _ hq2 => ?_
      refine (Scan.Inside.pos he hq2).bind_eq fun _ => ?_
      split_ifs with hdata hcap
      · exact .pure hq2 (.inl rfl)
      · refine (peekCapabilities_inside he (by omega) (by omega) (by omega)).bind ?_
        rintro ⟨as4, p'⟩ q3 hq3 ⟨hpeer, hnone⟩
        cases as4 with
        | some as4 => exact .pure hq3 hpeer
        | none =>
          obtain ⟨rfl, rfl⟩ := hnone rfl
          exact ih hq3 (by omega)
      · exact ih hq2 (by omega)
    · exact .pure hq (.inl rfl)

lemma peekForAs4Capability_run (length : UInt8) : ∃ as4 p', (peekForAs4Capability length p).run c =
    some ((as4, p'), c) ∧ (p' = p ∨ p' = p.setCap .as4Rcv) := by
  unfold peekForAs4Capability
  rw [bind_run pos_run, bind_run readable_run]
  by_cases hshort : c.rest.length < length.toNat
  · rw [if_pos hshort]
    exact ⟨_, _, rfl, .inl rfl⟩
  have hend : c.pos + length.toNat ≤ c.all.length := by
    rw [← pos_add_rest]
    omega
  have hc : Lib.Cursor.at c.all c.pos = c := Lib.Cursor.at_all
  obtain ⟨⟨as4, p'⟩, q, -, hpeer, hrun, -⟩ := peekOptions_inside (p := p) hend (Nat.le_add_right _ _)
    (show c.pos + length.toNat - c.pos < length.toNat + 1 by omega)
  rw [hc] at hrun
  rw [if_neg hshort, bind_run hrun, bind_run (seek_run (by rw [all_at]; omega)),
    seek_at, hc]
  exact ⟨as4, p', rfl, hpeer⟩

end peek

/-- Parsing ends without a failure, and the peer is changed by each capability as the configuration and its own
bytes say, when the counts in the capabilities for outbound route filters are right. -/
theorem bgpOpenOptionParse_changes (cfg : OpenConfig) (p : OpenPeer) (s : Stream) (length : UInt8)
    (hcounted : ∀ cap ∈ handledCapabilities length s.rest, cap.Counted) :
    (∃ as4 p', (peekForAs4Capability length p).run s = some ((as4, p'), s) ∧ (p' = p ∨ p' = p.setCap .as4Rcv)) ∧
    ∃ ok st s', (bgpOpenOptionParse cfg length p).run s = some ((ok, st), s') ∧
      st.peer = p.change ((handledCapabilities length s.rest).flatMap (changes cfg)) :=
  ⟨peekForAs4Capability_run length, optionParse_run cfg length hcounted⟩

def unicastConfig : OpenConfig := ⟨fun f => f = ⟨.ip, .unicast⟩, false, false⟩

def freshPeer : OpenPeer := ⟨fun _ => false, fun _ _ => false, fun _ => false, fun _ => false, 0⟩

/-- The flag of the peer after the parameters have been parsed. -/
def flagAfter (params : List UInt8) (f : Family) (x : AfCap) : Option Bool :=
  ((bgpOpenOptionParse unicastConfig (UInt8.ofNat params.length) freshPeer).run (ofList params)).map
    fun r => r.1.2.peer.afCap f x

/-- Two entries, of which the first one counts two types, a refresh capability, and an entry with a type for a
family that is not supported. -/
def countedParams : List UInt8 :=
  [2, 29, 3, 16, 0, 1, 0, 1, 2, 64, 2, 64, 1, 0, 2, 0, 1, 1, 64, 3, 2, 0, 3, 7, 0, 25, 0, 65, 1, 64, 3]

theorem bgpOpenOptionParse_changes_counted :
    ∃ ok st s', (bgpOpenOptionParse unicastConfig 31 freshPeer).run (ofList countedParams) =
        some ((ok, st), s') ∧
      st.peer = freshPeer.change ((handledCapabilities 31 countedParams).flatMap (changes unicastConfig)) :=
  (bgpOpenOptionParse_changes unicastConfig freshPeer (ofList countedParams) 31 (by decide)).2

/-- The count of the second entry exceeds what is left of the capability and of the message. -/
def overrunParams : List UInt8 := [2, 15, 3, 13, 0, 1, 0, 1, 1, 64, 3, 0, 2, 0, 1, 3, 64]

/-- One entry, for a family that is not supported, with four types. -/
def unsupportedParams : List UInt8 := [2, 15, 3, 13, 0, 25, 0, 65, 4, 0, 1, 0, 1, 1, 64, 3, 0]

/-- A capability whose second entry counts more types than there are, and other capabilities. -/
def followedParams (others : List UInt8) : List UInt8 := [2, 21, 3, 13, 0, 1, 0, 1, 1, 64, 3, 0, 2, 0, 1, 3, 64] ++ others

theorem bgpOpenOptionParse_orf :
    (bgpOpenOptionParse unicastConfig 17 freshPeer).run (ofList overrunParams) = none ∧
    ((handledCapabilities 17 unsupportedParams).flatMap (changes unicastConfig) = [] ∧
      flagAfter unsupportedParams ⟨.ip, .unicast⟩ .orfPrefixSmRcv = some true) ∧
    (flagAfter (followedParams [2, 0, 66, 0, 66, 0]) ⟨.ip6, .unicast⟩ .orfPrefixSmRcv = some true ∧
      flagAfter (followedParams [66, 0, 2, 0, 66, 0]) ⟨.ip6, .unicast⟩ .orfPrefixSmRcv = some false) := by
  refine ⟨?_, ⟨by decide, by decide⟩, by decide, by decide⟩
  decide

end OspfMdr.Bgp
