import OspfMdr.Model.BabelMessage

/-!
# What a Babel packet can depend on

`parse_packet` and `parse_route_attributes` compare the declared length of an element with the rest of their
region as if the two bytes of type and length were not there. A packet in which no element ends behind its
region, and whose updates refer to a default prefix of their own family, is read inside its body.
-/

namespace OspfMdr.Babel

/-- The memories agree below `n`. -/
def Agree (n : Nat) (m m' : Memory) : Prop := ∀ k < n, m k = m' k

namespace Agree
variable {n : Nat} {m m' : Memory}

section
variable (h : Agree n m m')
include h

lemma mono {l : Nat} (hl : l ≤ n) : Agree l m m' := fun k hk => h k (by omega)

lemma shift (k : Nat) : Agree (n - k) (m.shift k) (m'.shift k) :=
  fun j hj => h (k + j) (by omega)

lemma bytes {k l : Nat} (hl : k + l ≤ n) : m.bytes k l = m'.bytes k l := by
  refine List.map_congr_left fun j hj => h (k + j) ?_
  have := List.mem_range.mp hj
  omega

lemma ntohs {k : Nat} (hk : k + 2 ≤ n) : m.ntohs k = m'.ntohs k := by
  rw [Memory.ntohs, Memory.ntohs, h k (by omega), h (k + 1) (by omega)]

end

end Agree

section
variable {p p' : Memory} {dp dp' : Option Address} {len omitted : Nat}

lemma networkBytes_congr (ae pb : Nat) (h : Agree len p p')
    (hdp : omitted = 0 ∨ (ae ≠ 1 ∧ ae ≠ 2) ∨ dp = dp') :
    networkBytes ae pb omitted p dp len = networkBytes ae pb omitted p' dp' len := by
  have hdefault (hae : ae = 1 ∨ ae = 2) (l : List UInt8) (mapped : Bool) (n : Nat) :
      (if omitted = 0 then some l else defaultBytes dp mapped n) =
        if omitted = 0 then some l else defaultBytes dp' mapped n := by
    obtain h0 | ⟨h1, h2⟩ | rfl := hdp
    · rw [if_pos h0, if_pos h0]
    · exact absurd hae (not_or.mpr ⟨h1, h2⟩)
    · rfl
  have hbytes (k : Nat) (hk : ¬(k < pb ∧ len < pb - k)) : p.bytes 0 (pb - k) = p'.bytes 0 (pb - k) :=
    h.bytes (by omega)
  unfold networkBytes
  split
  · rfl
  · rw [hdefault (.inl rfl)]
    split_ifs with hif h0
    · rfl
    · rw [hbytes omitted (by omega)]
    · rw [hbytes omitted (by omega)]
  · rw [hdefault (.inr rfl)]
    split_ifs with hif h0
    · rfl
    · rw [hbytes omitted (by omega)]
    · rw [hbytes omitted (by omega)]
  · split_ifs with hif
    · rfl
    · rw [hbytes 8 hif]
  · rfl

lemma networkPrefix_congr (ae : Nat) (plen : Int) (h : Agree len p p')
    (hdp : omitted = 0 ∨ (ae ≠ 1 ∧ ae ≠ 2) ∨ dp = dp') :
    networkPrefix ae plen omitted p dp len = networkPrefix ae plen omitted p' dp' len := by
  unfold networkPrefix
  dsimp only
  rw [networkBytes_congr ae _ h hdp]

lemma networkAddress_congr (ae : Nat) (h : Agree len p p') :
    networkAddress ae p len = networkAddress ae p' len :=
  networkPrefix_congr ae (-1) h (.inl rfl)

end

/-! ## Route attributes -/

/-- No attribute that the walk reaches ends behind `lim` unless the walk stops there. -/
def attributesFit (a : Memory) (alen lim : Nat) : Nat → Nat → Bool
  | 0, _ => true
  | fuel + 1, i =>
    if i < alen then
      if a i = 0 then attributesFit a alen lim fuel (i + 1)
      else if i + 1 < lim then
        let len := (a (i + 1)).toNat
        if i + len > alen then true
        else if a i = 1 then attributesFit a alen lim fuel (i + len + 2)
        else if a i = 2 then
          let len := min len diversityHops
          decide (i + 2 + len ≤ lim) &&
            ((a.bytes (i + 2) len).contains 0 || attributesFit a alen lim fuel (i + len + 2))
        else attributesFit a alen lim fuel (i + len + 2)
      else false
    else true

lemma attributeLoop_congr {a a' : Memory} {alen lim : Nat} (h : Agree lim a a') (hlim : alen ≤ lim)
    (fuel : Nat) :
    ∀ i channels, attributesFit a alen lim fuel i →
      attributeLoop a alen fuel i channels = attributeLoop a' alen fuel i channels := by
  induction fuel with
  | zero => exact fun _ _ _ => rfl
  | succ fuel ih =>
    intro i channels hfit
    unfold attributesFit at hfit
    refine ite_congr rfl (fun hi => ?_) fun _ => rfl
    rw [if_pos hi] at hfit
    rw [← h i (by omega)]
    refine ite_congr rfl (fun h0 => ?_) fun h0 => ?_
    · rw [if_pos h0] at hfit
      exact ih _ _ hfit
    rw [if_neg h0] at hfit
    refine ite_congr rfl (fun _ => rfl) fun _ => ?_
    by_cases hlast : i + 1 < lim
    · rw [if_pos hlast] at hfit
      dsimp only at hfit ⊢
      rw [← h (i + 1) hlast]
      refine ite_congr rfl (fun _ => rfl) fun hcut => ?_
      rw [if_neg hcut] at hfit
      refine ite_congr rfl (fun h1 => ?_) fun h1 => ?_
      · rw [if_pos h1] at hfit
        exact ih _ _ hfit
      rw [if_neg h1] at hfit
      refine ite_congr rfl (fun h2 => ?_) fun h2 => ?_
      · rw [if_pos h2, Bool.and_eq_true, decide_eq_true_eq, Bool.or_eq_true] at hfit
        rw [← h.bytes hfit.1]
        exact ite_congr rfl (fun _ => rfl) fun hzero => ih _ _ (hfit.2.resolve_left hzero)
      · rw [if_neg h2] at hfit
        exact ih _ _ hfit
    · rw [if_neg hlast] at hfit
      exact absurd hfit (by simp)

/-! ## Messages -/

/-- The parser states agree on all but the contents of stack variables that are not set. -/
structure Alike (st st' : ParserState) : Prop where
  haveRouterId : st.haveRouterId = st'.haveRouterId
  haveV4Prefix : st.haveV4Prefix = st'.haveV4Prefix
  haveV6Prefix : st.haveV6Prefix = st'.haveV6Prefix
  haveV4Nh : st.haveV4Nh = st'.haveV4Nh
  haveV6Nh : st.haveV6Nh = st'.haveV6Nh
  routerId : st.haveRouterId → st.routerId = st'.routerId
  v4Prefix : st.haveV4Prefix → st.v4Prefix = st'.v4Prefix
  v6Prefix : st.haveV6Prefix → st.v6Prefix = st'.v6Prefix
  v4Nh : st.haveV4Nh → st.v4Nh = st'.v4Nh
  v6Nh : st.haveV6Nh → st.v6Nh = st'.v6Nh

lemma alike_start (stack stack' : Stack) : Alike stack.start stack'.start := by
  constructor <;> first | rfl | exact fun h => absurd h (by simp [Stack.start])

/-- An update that takes bytes over from a default prefix finds one of its own family. -/
def ownDefault (st : ParserState) (message : Memory) : Bool :=
  message 5 = 0 || (message 2 ≠ 1 ∧ message 2 ≠ 2) || !(if message 3 = 1 then st.haveV4Prefix else st.haveV6Prefix) ||
    (if message 2 = 1 then st.haveV4Prefix else st.haveV6Prefix)

/-- The attributes of the update are walked, in the state after its flags. -/
def walksAttributes (ifp : Interface) (st : ParserState) (message : Memory) : Bool :=
  !ifp.faraway && message 2 ≠ 0 && st.haveRouterId && (message 2 ≠ 1 || (st.haveV4Nh && ifp.ipv4))

/-- An update whose `lim` bytes to the end of the body decide what it asks for. -/
def updateFits (ifp : Interface) (st : ParserState) (message : Memory) (len lim : Nat) : Bool :=
  len < 10 || (ownDefault st message &&
    match updatePrefix st message len with
    | none => true
    | some (rc, net) => !walksAttributes ifp (updateState st message net) message ||
        attributesFit (message.shift (2 + (10 + rc))) (len - (10 + rc)) (lim - (2 + (10 + rc))) (len - (10 + rc)) 0)

section
variable {st st' : ParserState} {message message' : Memory} {lim len : Nat}

section
variable (hst : Alike st st')
include hst

lemma parseNh_congr (h : Agree (len + 2) message message') :
    Alike (parseNh st message len) (parseNh st' message' len) := by
  unfold parseNh
  by_cases hlen : len < 2
  · rw [if_pos hlen, if_pos hlen]
    exact { hst with haveV4Nh := rfl, haveV6Nh := rfl, v4Nh := nofun, v6Nh := nofun }
  have hshift : Agree (len - 2) (message.shift 4) (message'.shift 4) := (h.shift 4).mono (by omega)
  rw [if_neg hlen, if_neg hlen, ← h 2 (by omega), ← networkAddress_congr _ hshift]
  cases accepted (networkAddress (message 2).toNat (message.shift 4) (len - 2)) with
  | none => exact { hst with haveV4Nh := rfl, haveV6Nh := rfl, v4Nh := nofun, v6Nh := nofun }
  | some r =>
    split_ifs
    · exact { hst with haveV4Nh := rfl, v4Nh := fun _ => rfl }
    · exact { hst with haveV6Nh := rfl, v6Nh := fun _ => rfl }

lemma parseRouterId_congr (h : Agree (len + 2) message message') :
    Alike (parseRouterId st message len) (parseRouterId st' message' len) := by
  unfold parseRouterId
  by_cases hlen : len < 10
  · rw [if_pos hlen, if_pos hlen]
    exact { hst with haveRouterId := rfl, routerId := nofun }
  · rw [if_neg hlen, if_neg hlen]
    exact { hst with haveRouterId := rfl, routerId := fun _ => h.bytes (by omega) }

lemma Alike.dropPrefixes : Alike st.dropPrefixes st'.dropPrefixes :=
  { hst with haveV4Prefix := rfl, haveV6Prefix := rfl, v4Prefix := nofun, v6Prefix := nofun }

lemma Alike.keepPrefix (ae : UInt8) (net : Address) :
    Alike (st.keepPrefix ae net) (st'.keepPrefix ae net) := by
  unfold ParserState.keepPrefix
  split_ifs
  · exact { hst with haveV4Prefix := rfl, v4Prefix := fun _ => rfl }
  · exact { hst with haveV6Prefix := rfl, v6Prefix := fun _ => rfl }

lemma Alike.keepRouterId (ae : UInt8) (net : Address) :
    Alike (st.keepRouterId ae net) (st'.keepRouterId ae net) :=
  { hst with haveRouterId := rfl, routerId := fun _ => rfl }

lemma updateState_congr (h : Agree (len + 2) message message') (hlen : 10 ≤ len) (net : Address) :
    Alike (updateState st message net) (updateState st' message' net) := by
  have hkeep : Alike (if message 3 &&& 0x80 ≠ 0 then st.keepPrefix (message 2) net else st)
      (if message 3 &&& 0x80 ≠ 0 then st'.keepPrefix (message 2) net else st') := by
    split_ifs
    · exact hst.keepPrefix _ _
    · exact hst
  unfold updateState
  rw [← h 2 (by omega), ← h 3 (by omega)]
  by_cases hid : message 3 &&& 0x40 ≠ 0
  · rw [if_pos hid, if_pos hid]
    exact hkeep.keepRouterId _ _
  · rw [if_neg hid, if_neg hid]
    exact hkeep

lemma updatePrefix_congr (h : Agree (len + 2) message message') (hlen : 10 ≤ len)
    (hown : ownDefault st message) :
    updatePrefix st message len = updatePrefix st' message' len := by
  have hshift : Agree (len - 10) (message.shift 12) (message'.shift 12) := (h.shift 12).mono (by omega)
  unfold updatePrefix
  rw [← h 2 (by omega), ← h 3 (by omega), ← h 4 (by omega), ← h 5 (by omega), ← hst.haveV4Prefix,
    ← hst.haveV6Prefix]
  by_cases hif : message 5 = 0 ∨ (if message 3 = 1 then st.haveV4Prefix else st.haveV6Prefix)
  · rw [if_pos hif, if_pos hif]
    refine congrArg accepted (networkPrefix_congr _ _ hshift ?_)
    by_cases h5 : message 5 = 0
    · exact .inl (by rw [h5]; rfl)
    by_cases hae : message 2 ≠ 1 ∧ message 2 ≠ 2
    · exact .inr (.inl ⟨fun h1 => hae.1 (UInt8.toNat_inj.mp h1), fun h2 => hae.2 (UInt8.toNat_inj.mp h2)⟩)
    right; right
    have hset : (if message 2 = 1 then st.haveV4Prefix else st.haveV6Prefix) := by
      simpa [ownDefault, h5, hae, hif.resolve_left h5] using hown
    by_cases h2 : message 2 = 1
    · rw [if_pos h2] at hset
      rw [if_pos h2, if_pos h2, hst.v4Prefix hset]
    · rw [if_neg h2] at hset
      rw [if_neg h2, if_neg h2, hst.v6Prefix hset]
  · rw [if_neg hif, if_neg hif]

end

section
variable (ifp : Interface) (neigh : Address) (hst : Alike st st') (h : Agree lim message message') (hlim : len + 2 ≤ lim)
include hst h hlim

lemma updateCall_congr (hlen : 10 ≤ len) {rc : Nat} (net : Address)
    (hfit : walksAttributes ifp st message → attributesFit (message.shift (2 + (10 + rc))) (len - (10 + rc))
      (lim - (2 + (10 + rc))) (len - (10 + rc)) 0) :
    updateCall ifp neigh st message len rc net = updateCall ifp neigh st' message' len rc net := by
  have hchannels (hwalk : ifp.faraway = false → walksAttributes ifp st message) (metric : Nat) :
      updateChannels ifp message len (10 + rc) metric = updateChannels ifp message' len (10 + rc) metric := by
    unfold updateChannels
    cases hfar : ifp.faraway with
    | true => rfl
    | false =>
      simp only [Bool.false_eq_true, if_false, parseRouteAttributes]
      rw [attributeLoop_congr (h.shift (2 + (10 + rc))) (by omega) _ _ _ (hfit (hwalk hfar))]
  unfold updateCall
  rw [← h 2 (by omega), ← h 4 (by omega), ← h.ntohs (k := 6) (by omega), ← h.ntohs (k := 8) (by omega),
    ← h.ntohs (k := 10) (by omega), ← hst.haveRouterId, ← hst.haveV4Nh, ← hst.haveV6Nh]
  refine ite_congr rfl (fun _ => rfl) fun hid => ite_congr rfl (fun _ => rfl) fun h0 => ?_
  have hhave : st.haveRouterId := Bool.not_eq_false _ ▸ fun hfalse => hid ⟨hfalse, h0⟩
  refine ite_congr rfl (fun _ => rfl) fun hnh => ?_
  have hnexthop : (if message 2 = 1 then st.v4Nh else if st.haveV6Nh then st.v6Nh else neigh) =
      if message 2 = 1 then st'.v4Nh else if st.haveV6Nh then st'.v6Nh else neigh := by
    refine ite_congr rfl (fun h1 => hst.v4Nh ?_) fun _ => ite_congr rfl hst.v6Nh fun _ => rfl
    by_contra hunset
    exact hnh ⟨h1, .inl (by simpa using hunset)⟩
  have hwalk (hfar : ifp.faraway = false) : walksAttributes ifp st message := by
    by_cases h1 : message 2 = 1
    · simpa [walksAttributes, hfar, hhave, h1] using hnh
    · simp [walksAttributes, hfar, hhave, h1, h0]
  rw [hst.routerId hhave, hnexthop, hchannels hwalk]

lemma parseUpdate_congr (hfit : updateFits ifp st message len lim) :
    Alike (parseUpdate ifp neigh st message len).1 (parseUpdate ifp neigh st' message' len).1 ∧
      (parseUpdate ifp neigh st message len).2 = (parseUpdate ifp neigh st' message' len).2 := by
  have hdrop (c : Prop) [Decidable c] : Alike (if c then st.dropPrefixes else st)
      (if c then st'.dropPrefixes else st') := by
    split_ifs
    · exact hst.dropPrefixes
    · exact hst
  unfold parseUpdate
  by_cases hlen : len < 10
  · rw [if_pos hlen, if_pos hlen]
    by_cases h2 : len < 2
    · rw [if_pos (.inl h2), if_pos (.inl h2)]
      exact ⟨hst.dropPrefixes, rfl⟩
    · rw [← h 3 (by omega)]
      exact ⟨hdrop _, rfl⟩
  rw [if_neg hlen, if_neg hlen]
  simp only [updateFits, hlen, decide_false, Bool.false_or, Bool.and_eq_true] at hfit
  obtain ⟨hown, hattrs⟩ := hfit
  have hmsg : Agree (len + 2) message message' := h.mono hlim
  rw [← updatePrefix_congr hst hmsg (by omega) hown]
  cases hread : updatePrefix st message len with
  | none =>
    rw [← h 3 (by omega)]
    exact ⟨hdrop _, rfl⟩
  | some r =>
    obtain ⟨rc, net⟩ := r
    rw [hread] at hattrs
    have hstate := updateState_congr hst hmsg (by omega) net
    refine ⟨hstate, updateCall_congr ifp neigh hstate h hlim (by omega) net fun hwalk => ?_⟩
    simpa [hwalk] using hattrs

end

end

/-- A message whose `lim` bytes to the end of the body decide what it asks for. -/
def messageFits (ifp : Interface) (st : ParserState) (message : Memory) (lim : Nat) : Bool :=
  message 0 != 8 || updateFits ifp st message (message 1).toNat lim

section
variable {st st' : ParserState} {message message' : Memory} {lim : Nat}

variable {len : Nat}

section
variable (h : Agree (len + 2) message message')
include h

lemma parseAckReq_congr : parseAckReq message len = parseAckReq message' len := by
  refine ite_congr rfl (fun _ => rfl) fun hlen => ?_
  rw [h.ntohs (k := 4) (by omega), h.ntohs (k := 6) (by omega)]

lemma parseHello_congr : parseHello message len = parseHello message' len := by
  refine ite_congr rfl (fun _ => rfl) fun hlen => ?_
  rw [h.ntohs (k := 4) (by omega), h.ntohs (k := 6) (by omega)]

lemma parseIhu_congr : parseIhu message len = parseIhu message' len := by
  refine ite_congr rfl (fun _ => rfl) fun hlen => ?_
  have hshift : Agree (len - 6) (message.shift 8) (message'.shift 8) := (h.shift 8).mono (by omega)
  rw [h.ntohs (k := 4) (by omega), h.ntohs (k := 6) (by omega), h 2 (by omega), networkAddress_congr _ hshift]

lemma parseRequest_congr : parseRequest message len = parseRequest message' len := by
  refine ite_congr rfl (fun _ => rfl) fun hlen => ?_
  have hshift : Agree (len - 2) (message.shift 4) (message'.shift 4) := (h.shift 4).mono (by omega)
  rw [h 2 (by omega), h 3 (by omega), networkPrefix_congr _ _ hshift (.inl rfl)]

lemma parseMhRequest_congr : parseMhRequest message len = parseMhRequest message' len := by
  refine ite_congr rfl (fun _ => rfl) fun hlen => ?_
  have hshift : Agree (len - 14) (message.shift 16) (message'.shift 16) := (h.shift 16).mono (by omega)
  rw [h 2 (by omega), h 3 (by omega), h 6 (by omega), h.ntohs (k := 4) (by omega),
    h.bytes (k := 8) (l := 8) (by omega), networkPrefix_congr _ _ hshift (.inl rfl)]

end

lemma parseMessage_congr (ifp : Interface) (neigh : Address) (hst : Alike st st')
    (h : Agree lim message message') (hlim : (message 1).toNat + 2 ≤ lim)
    (hfit : messageFits ifp st message lim) :
    Alike (parseMessage ifp neigh st message).1 (parseMessage ifp neigh st' message').1 ∧
      (parseMessage ifp neigh st message).2 = (parseMessage ifp neigh st' message').2 := by
  have hmsg : Agree ((message 1).toNat + 2) message message' := h.mono hlim
  unfold parseMessage
  rw [← h 0 (by omega), ← h 1 (by omega)]
  split
  · exact ⟨hst, parseAckReq_congr hmsg⟩
  · exact ⟨hst, parseHello_congr hmsg⟩
  · exact ⟨hst, parseIhu_congr hmsg⟩
  · exact ⟨parseRouterId_congr hst hmsg, rfl⟩
  · exact ⟨parseNh_congr hst hmsg, rfl⟩
  · rename_i h8
    have htype : message 0 = 8 := UInt8.toNat_inj.mp h8
    rw [messageFits, htype] at hfit
    exact parseUpdate_congr ifp neigh hst h hlim (by simpa using hfit)
  · exact ⟨hst, parseRequest_congr hmsg⟩
  · exact ⟨hst, parseMhRequest_congr hmsg⟩
  · exact ⟨hst, rfl⟩

end

/-! ## The packet -/

/-- The offsets in the body of the messages that the loop processes. -/
def messageOffsets (packet : Memory) (bodylen : Nat) : Nat → Nat → List Nat
  | 0, _ => []
  | fuel + 1, i =>
    if i < bodylen then
      if packet (4 + i) = 0 then messageOffsets packet bodylen fuel (i + 1)
      else if i + 1 > bodylen then []
      else if i + (packet (4 + i + 1)).toNat > bodylen then []
      else i :: messageOffsets packet bodylen fuel (i + (packet (4 + i + 1)).toNat + 2)
    else []

/-- No message that the loop reaches ends behind the body unless the loop stops there. -/
def messagesWhole (packet : Memory) (bodylen : Nat) : Nat → Nat → Bool
  | 0, _ => true
  | fuel + 1, i =>
    if i < bodylen then
      if packet (4 + i) = 0 then messagesWhole packet bodylen fuel (i + 1)
      else if i + 1 < bodylen then
        let len := (packet (4 + i + 1)).toNat
        if i + len > bodylen then true
        else decide (i + 2 + len ≤ bodylen) && messagesWhole packet bodylen fuel (i + len + 2)
      else false
    else true

/-- No message that the loop reaches ends behind the body unless the loop stops there,
and every message processed is decided by the body. -/
def bodyFits (ifp : Interface) (neigh : Address) (packet : Memory) (bodylen : Nat) :
    Nat → Nat → ParserState → Bool
  | 0, _, _ => true
  | fuel + 1, i, st =>
    if i < bodylen then
      if packet (4 + i) = 0 then bodyFits ifp neigh packet bodylen fuel (i + 1) st
      else if i + 1 < bodylen then
        let len := (packet (4 + i + 1)).toNat
        if i + len > bodylen then true
        else
          decide (i + 2 + len ≤ bodylen) && messageFits ifp st (packet.shift (4 + i)) (bodylen - i) &&
            bodyFits ifp neigh packet bodylen fuel (i + len + 2)
              (parseMessage ifp neigh st (packet.shift (4 + i))).1
      else false
    else true

section
variable {σ : Type} (c : Callees σ) (ifp : Interface) (neigh : Address) {packet packet' : Memory} {bodylen : Nat}

lemma messagesWhole_of_bodyFits (fuel : Nat) :
    ∀ i st, bodyFits ifp neigh packet bodylen fuel i st → messagesWhole packet bodylen fuel i := by
  induction fuel with
  | zero => exact fun _ _ _ => rfl
  | succ fuel ih =>
    intro i st hfits
    unfold bodyFits at hfits
    unfold messagesWhole
    dsimp only at hfits ⊢
    split_ifs at hfits ⊢
    · exact ih _ _ hfits
    · rfl
    · simp only [Bool.and_eq_true] at hfits ⊢
      exact ⟨hfits.1.1, ih _ _ hfits.2⟩
    · rfl

lemma messagesWhole_congr (h : Agree (4 + bodylen) packet packet') (fuel : Nat) :
    ∀ i, messagesWhole packet bodylen fuel i = messagesWhole packet' bodylen fuel i := by
  induction fuel with
  | zero => exact fun _ => rfl
  | succ fuel ih =>
    intro i
    unfold messagesWhole
    refine ite_congr rfl (fun hi => ?_) fun _ => rfl
    rw [← h (4 + i) (by omega)]
    refine ite_congr rfl (fun _ => ih _) fun _ => ite_congr rfl (fun hlast => ?_) fun _ => rfl
    rw [← h (4 + i + 1) (by omega)]
    exact ite_congr rfl (fun _ => rfl) fun _ => by rw [ih]

lemma messageOffsets_whole (fuel : Nat) : ∀ i, messagesWhole packet bodylen fuel i →
    ∀ j ∈ messageOffsets packet bodylen fuel i, j + 2 + (packet (4 + j + 1)).toNat ≤ bodylen := by
  induction fuel with
  | zero => exact fun _ _ _ hj => absurd hj (by simp [messageOffsets])
  | succ fuel ih =>
    intro i hwhole j hj
    unfold messagesWhole at hwhole
    unfold messageOffsets at hj
    dsimp only at hwhole
    split_ifs at hwhole hj
    · exact ih _ hwhole j hj
    · cases hj
    · cases hj
    · cases hj
    · rw [Bool.and_eq_true, decide_eq_true_eq] at hwhole
      obtain rfl | hj := List.mem_cons.mp hj
      · exact hwhole.1
      · exact ih _ hwhole.2 j hj
    · cases hj

/-- A message that is cut off is processed, for one of which the body has the type only when the byte behind the body
is zero. -/
lemma exists_cut_of_not_whole (hzero : packet (4 + bodylen) = 0) (fuel : Nat) : ∀ i,
    messagesWhole packet bodylen fuel i = false →
    ∃ j ∈ messageOffsets packet bodylen fuel i, bodylen < j + 2 + (packet (4 + j + 1)).toNat := by
  induction fuel with
  | zero => exact fun _ h => absurd h (by simp [messagesWhole])
  | succ fuel ih =>
    intro i hcut
    unfold messagesWhole at hcut
    unfold messageOffsets
    dsimp only at hcut
    split_ifs at hcut with hi h0 hlast hstop
    · rw [if_pos hi, if_pos h0]
      exact ih _ hcut
    · rw [if_pos hi, if_neg h0, if_neg (by omega), if_neg hstop]
      rw [Bool.and_eq_false_iff, decide_eq_false_iff_not, not_le] at hcut
      obtain hcut | hcut := hcut
      · exact ⟨i, List.mem_cons_self, hcut⟩
      · obtain ⟨j, hj, hlt⟩ := ih _ hcut
        exact ⟨j, List.mem_cons_of_mem _ hj, hlt⟩
    · have hbody : bodylen = i + 1 := by omega
      subst hbody
      rw [← Nat.add_assoc] at hzero
      rw [if_pos hi, if_neg h0, if_neg (by omega), if_neg (by rw [hzero]; simp)]
      exact ⟨i, List.mem_cons_self, by omega⟩

lemma messageLoop_congr (h : Agree (4 + bodylen) packet packet') (fuel : Nat) :
    ∀ i st st' s, Alike st st' → bodyFits ifp neigh packet bodylen fuel i st →
      (messageLoop c ifp neigh packet bodylen fuel i (st, s)).2 =
        (messageLoop c ifp neigh packet' bodylen fuel i (st', s)).2 := by
  induction fuel with
  | zero => exact fun _ _ _ _ _ _ => rfl
  | succ fuel ih =>
    intro i st st' s hst hfits
    unfold bodyFits at hfits
    unfold messageLoop
    simp only [apply_ite Prod.snd]
    refine ite_congr rfl (fun hi => ?_) fun _ => rfl
    rw [if_pos hi] at hfits
    rw [← h (4 + i) (by omega)]
    refine ite_congr rfl (fun h0 => ?_) fun h0 => ?_
    · rw [if_pos h0] at hfits
      exact ih _ _ _ _ hst hfits
    rw [if_neg h0] at hfits
    refine ite_congr rfl (fun _ => rfl) fun _ => ?_
    by_cases hlast : i + 1 < bodylen
    · rw [if_pos hlast] at hfits
      rw [← h (4 + i + 1) (by omega)]
      refine ite_congr rfl (fun _ => rfl) fun hcut => ?_
      rw [if_neg hcut, Bool.and_eq_true, Bool.and_eq_true, decide_eq_true_eq] at hfits
      obtain ⟨⟨hlen, hmessage⟩, hrest⟩ := hfits
      have hshift : Agree (bodylen - i) (packet.shift (4 + i)) (packet'.shift (4 + i)) :=
        (h.shift (4 + i)).mono (by omega)
      have hlim : (packet.shift (4 + i) 1).toNat + 2 ≤ bodylen - i := by
        change (packet (4 + i + 1)).toNat + 2 ≤ bodylen - i
        omega
      obtain ⟨hstate, hcall⟩ := parseMessage_congr ifp neigh hst hshift hlim hmessage
      unfold messageStep
      dsimp only
      rw [← hcall]
      exact ih _ _ _ _ hstate hrest
    · rw [if_neg hlast] at hfits
      exact absurd hfits (by simp)

end

/-- The sender is link-local, and the magic number and the version are right. -/
def headerAccepted (neigh : Address) (packet : Memory) : Bool :=
  linklocal neigh && packet 0 == 42 && packet 1 == 2

/-- The offsets of the messages that are parsed. -/
def messagesProcessed (neigh : Address) (packet : Memory) (packetlen : Nat) : List Nat :=
  if headerAccepted neigh packet then
    messageOffsets packet (bodyLength packet packetlen) (bodyLength packet packetlen) 0
  else []

/-- Both packets have the same body, whatever follows it in memory. -/
structure SameBody (packet : Memory) (packetlen : Nat) (packet' : Memory) (packetlen' : Nat) : Prop where
  length : bodyLength packet packetlen = bodyLength packet' packetlen'
  agree : Agree (4 + bodyLength packet packetlen) packet packet'

/-- The effect of the packet is decided by its header and its body, and every message processed lies in the body,
whatever follows it. -/
structure Confined (neigh : Address) (ifp : Interface) (stack : Stack) (packet : Memory) (packetlen : Nat) :
    Prop where
  same : ∀ stack' packet' packetlen', SameBody packet packetlen packet' packetlen' →
    ∀ (σ : Type) (c : Callees σ) (s : σ),
      parsePacket c neigh ifp stack packet packetlen s = parsePacket c neigh ifp stack' packet' packetlen' s
  whole : ∀ packet' packetlen', SameBody packet packetlen packet' packetlen' →
    ∀ i ∈ messagesProcessed neigh packet' packetlen',
      i + 2 + (packet' (4 + i + 1)).toNat ≤ bodyLength packet packetlen

/-- Each message that is parsed lies within the body. -/
def packetWhole (neigh : Address) (packet : Memory) (packetlen : Nat) : Bool :=
  !headerAccepted neigh packet || messagesWhole packet (bodyLength packet packetlen) (bodyLength packet packetlen) 0

/-- Each message of an accepted packet has room for all that its parser reads. -/
def packetFits (neigh : Address) (ifp : Interface) (stack : Stack) (packet : Memory)
    (packetlen : Nat) : Bool :=
  !headerAccepted neigh packet ||
    bodyFits ifp neigh packet (bodyLength packet packetlen) (bodyLength packet packetlen) 0 stack.start

section
variable {neigh : Address} {ifp : Interface} {stack : Stack} {packet packet' : Memory} {packetlen packetlen' : Nat}

lemma SameBody.headerAccepted (h : SameBody packet packetlen packet' packetlen') :
    headerAccepted neigh packet' = headerAccepted neigh packet := by
  unfold Babel.headerAccepted
  rw [h.agree 0 (by omega), h.agree 1 (by omega)]

/-- The byte behind the body is no part of header and body. -/
lemma sameBody_zero (packet : Memory) (packetlen : Nat) :
    SameBody packet packetlen (Function.update packet (4 + bodyLength packet packetlen) 0) packetlen := by
  have hagree : Agree (4 + bodyLength packet packetlen) packet
      (Function.update packet (4 + bodyLength packet packetlen) 0) :=
    fun k hk => (Function.update_of_ne (ne_of_lt hk) _ _).symm
  have hdeclared := hagree.ntohs (k := 2) (by omega)
  exact ⟨by unfold bodyLength at hdeclared ⊢; rw [← hdeclared], hagree⟩

lemma confined_of_packetFits (hfits : packetFits neigh ifp stack packet packetlen) :
    Confined neigh ifp stack packet packetlen := by
  constructor
  · intro stack' packet' packetlen' hsame σ c s
    unfold parsePacket
    rw [← hsame.length, ← hsame.agree 0 (by omega), ← hsame.agree 1 (by omega)]
    refine ite_congr rfl (fun _ => rfl) fun hheader => ?_
    have haccepted : headerAccepted neigh packet := by simpa [headerAccepted, and_assoc] using hheader
    rw [packetFits, haccepted, Bool.not_true, Bool.false_or] at hfits
    cases c.findNeighbour s with
    | none => rfl
    | some s => exact messageLoop_congr c ifp neigh hsame.agree _ _ _ _ _ (alike_start stack stack') hfits
  · intro packet' packetlen' hsame i hi
    unfold messagesProcessed at hi
    rw [hsame.headerAccepted, ← hsame.length] at hi
    by_cases hheader : headerAccepted neigh packet
    · rw [if_pos hheader] at hi
      rw [packetFits, hheader, Bool.not_true, Bool.false_or] at hfits
      have hwhole := messagesWhole_of_bodyFits ifp neigh _ _ _ hfits
      rw [messagesWhole_congr hsame.agree] at hwhole
      exact messageOffsets_whole _ _ hwhole i hi
    · rw [if_neg hheader] at hi
      exact absurd hi (by simp)

lemma packetWhole_of_confined (h : Confined neigh ifp stack packet packetlen) :
    packetWhole neigh packet packetlen := by
  have hsame := sameBody_zero packet packetlen
  cases hheader : headerAccepted neigh packet with
  | false => simp [packetWhole, hheader]
  | true =>
    by_contra hcut
    rw [packetWhole, hheader, Bool.not_true, Bool.false_or, Bool.not_eq_true, messagesWhole_congr hsame.agree] at hcut
    obtain ⟨j, hj, hlt⟩ := exists_cut_of_not_whole (Function.update_self _ _ _) _ _ hcut
    have hle := h.whole _ _ hsame j (by
      rw [messagesProcessed, hsame.headerAccepted, if_pos hheader, ← hsame.length]
      exact hj)
    omega

end

/-- A packet of whole messages, the updates of which are decided by the body, is confined to its header and body;
and only packets of whole messages are. -/
theorem parsePacket_confined (neigh : Address) (ifp : Interface) (stack : Stack) (packet : Memory) (packetlen : Nat) :
    (packetFits neigh ifp stack packet packetlen → Confined neigh ifp stack packet packetlen) ∧
      (Confined neigh ifp stack packet packetlen → packetWhole neigh packet packetlen) :=
  ⟨confined_of_packetFits, packetWhole_of_confined⟩

/-! ## Packets that are not confined -/

/-- The memory after the bytes have been received, with zeros behind them. -/
def received (l : List UInt8) : Memory := fun k => l.getD k 0

def zeros : Address := List.replicate 16 0

def zeroStack : Stack := ⟨zeros, zeros, zeros, zeros, zeros⟩

def exampleSender : Address := [0xFE, 0x80, 0, 0, 0, 0, 0, 0, 0, 0, 0, 0, 0, 0, 0, 1]

def exampleIfp : Interface := ⟨true, false⟩

/-- A daemon that writes down what it is asked for. -/
def Callees.record : Callees (List Call) where
  findNeighbour := some
  sendAck nonce interval s := s ++ [.ackReq nonce interval]
  updateNeighbour seqno interval s := (true, s ++ [.hello seqno interval])
  updateNeighbourMetric _ s := s
  scheduleNeighboursCheck _ s := s
  isInterfaceLlAddress _ _ := true
  txcost _ := 0
  storeIhu txcost interval s := s ++ [.ihu txcost interval 0 []]
  retractNeighbourRoutes s := s ++ [.retract]
  updateRoute route s := s ++ [.update route]
  sendIhu s := s
  updateDue _ := true
  sendUpdate target s := s ++ [.request target]
  handleRequest net plen hopCount seqno routerId s := s ++ [.mhRequest net plen hopCount seqno routerId]

def helloUpdate : List UInt8 :=
  [42, 2, 0, 37, 4, 6, 0, 0, 0, 7, 0, 100, 6, 10, 0, 0, 1, 2, 3, 4, 5, 6, 7, 8,
    8, 15, 2, 0, 16, 0, 0, 100, 0, 1, 1, 0, 32, 1, 2, 1, 6]

theorem parsePacket_confined_helloUpdate :
    packetFits exampleSender exampleIfp zeroStack (received helloUpdate) 41 ∧
      Confined exampleSender exampleIfp zeroStack (received helloUpdate) 41 :=
  ⟨by decide +kernel, (parsePacket_confined _ _ _ _ _).1 (by decide +kernel)⟩

/-- A hello of which the body has all but the last two bytes. -/
def cutHello : List UInt8 := [42, 2, 0, 6, 4, 6, 0, 0, 0, 7]

/-- The attribute of the update lacks its second channel. -/
def cutAttribute : List UInt8 :=
  [42, 2, 0, 29, 6, 10, 0, 0, 1, 2, 3, 4, 5, 6, 7, 8, 8, 15, 2, 0, 16, 0, 0, 100, 0, 1, 1, 0, 32, 1, 2, 2, 6]

/-- The flags of the update select the test of the other default prefix. -/
def strayDefault : List UInt8 :=
  [42, 2, 0, 50, 6, 10, 0, 0, 1, 2, 3, 4, 5, 6, 7, 8, 7, 6, 1, 0, 10, 0, 0, 1,
    8, 14, 1, 0x80, 32, 0, 0, 100, 0, 1, 1, 0, 10, 0, 0, 2, 8, 12, 2, 1, 32, 2, 0, 100, 0, 1, 1, 0, 0, 5]

/-- The calls that parsing the bytes makes. -/
def effect (stack : Stack) (l : List UInt8) : List Call :=
  parsePacket Callees.record exampleSender exampleIfp stack (received l) l.length []

def otherStack : Stack := { zeroStack with v6Prefix := zeroFilled 16 [0x20, 0x01] }

/-- Each packet has a twin with the same header and body and another effect. -/
theorem parsePacket_not_confined :
    (SameBody (received (cutHello ++ [0, 100])) 12 (received (cutHello ++ [0, 200])) 12 ∧
      effect zeroStack (cutHello ++ [0, 100]) = [.hello 7 100] ∧
      effect zeroStack (cutHello ++ [0, 200]) = [.hello 7 200]) ∧
    (messagesProcessed exampleSender (received (cutHello ++ [0, 100])) 12 = [0] ∧
      bodyLength (received (cutHello ++ [0, 100])) 12 <
        0 + 2 + (received (cutHello ++ [0, 100]) (4 + 0 + 1)).toNat) ∧
    (SameBody (received (cutAttribute ++ [7])) 34 (received (cutAttribute ++ [8])) 34 ∧
      effect zeroStack (cutAttribute ++ [7]) =
        [.update ⟨[1, 2, 3, 4, 5, 6, 7, 8], zeroFilled 16 [32, 1], 16, 1, 256, 100, exampleSender, [6, 7]⟩] ∧
      effect zeroStack (cutAttribute ++ [8]) =
        [.update ⟨[1, 2, 3, 4, 5, 6, 7, 8], zeroFilled 16 [32, 1], 16, 1, 256, 100, exampleSender, [6, 8]⟩]) ∧
    effect zeroStack strayDefault ≠ effect otherStack strayDefault ∧
    ¬Confined exampleSender exampleIfp zeroStack (received strayDefault) strayDefault.length := by
  have hstray : effect zeroStack strayDefault ≠ effect otherStack strayDefault := by decide +kernel
  refine ⟨⟨⟨by decide +kernel, by unfold Agree; decide +kernel⟩, by decide +kernel, by decide +kernel⟩,
    by decide +kernel, ⟨⟨by decide +kernel, by unfold Agree; decide +kernel⟩, by decide +kernel, by decide +kernel⟩,
    hstray, fun h => hstray ?_⟩
  exact h.same otherStack _ strayDefault.length ⟨rfl, fun _ _ => rfl⟩ _ Callees.record []

end OspfMdr.Babel
