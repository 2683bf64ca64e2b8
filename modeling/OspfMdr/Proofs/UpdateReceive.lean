import OspfMdr.Model.UpdateReceive
import OspfMdr.Proofs.AttrParse

namespace OspfMdr.Bgp
open Lib Scan Option List Cursor

variable {σ : Type} {rib : Rib σ} {family : NlriFamily} {s : σ} {nlri : List UInt8}

/-- A prefix as it stands in the message. -/
structure RawPrefix where
  prefixlen : UInt8
  bytes : List UInt8
  deriving DecidableEq, Repr

/-- The first prefix of a field and the rest of the field. -/
def splitPrefix : List UInt8 → Option (RawPrefix × List UInt8)
  | [] => none
  | n :: l => if psize n ≤ l.length then some (⟨n, l.take (psize n)⟩, l.drop (psize n)) else none

/-- All the prefixes that a field starts with. -/
def rawPrefixes (nlri : List UInt8) : List RawPrefix := records splitPrefix nlri.length nlri

/-- The prefix that the bytes stand for in the family. -/
def RawPrefix.toNlri (family : NlriFamily) (p : RawPrefix) : NlriPrefix :=
  match family with
  | .ipv4MplsVpn => ⟨family, (p.bytes.drop 3).take 8, addressBits (p.bytes.drop 11) (p.prefixlen.toNat - 88)⟩
  | family => ⟨family, [], addressBits p.bytes p.prefixlen.toNat⟩

def prefixesOf (family : NlriFamily) (nlri : List UInt8) : List NlriPrefix :=
  (rawPrefixes nlri).map (RawPrefix.toNlri family)

/-- The prefix has a length that the family allows, and is not one that `bgp_nlri_parse` passes over. -/
def RawPrefix.accepted (family : NlriFamily) (p : RawPrefix) : Bool :=
  match family with
  | .ipv4Unicast => p.prefixlen ≤ 32 ∧ ¬inClassD p.bytes
  | .ipv4Multicast => p.prefixlen ≤ 32
  | .ipv6Unicast => p.prefixlen ≤ 128 ∧ ¬isLinkLocal p.bytes
  | .ipv6Multicast => p.prefixlen ≤ 128
  | .ipv4MplsVpn =>
    88 ≤ p.prefixlen ∧ psize p.prefixlen ≤ 27 ∧ p.bytes[3]? = some 0 ∧ (p.bytes[4]? = some 0 ∨ p.bytes[4]? = some 1)

/-- What is behind the last whole prefix of a VPN ends the parser before it copies the address. -/
def VpnStops : List UInt8 → Prop
  | [] => True
  | n :: l => psize n ≤ 27 ∨ ∃ a b, l[3]? = some a ∧ l[4]? = some b ∧ word a b ≠ 0 ∧ word a b ≠ 1

/-- The field consists of prefixes that are all read. -/
def Whole (family : NlriFamily) (nlri : List UInt8) : Prop :=
  ∃ rest, Peeled splitPrefix nlri (rawPrefixes nlri) rest ∧ (rest = [] ∨ family = .ipv4MplsVpn ∧ VpnStops rest) ∧
    ∀ p ∈ rawPrefixes nlri, p.accepted family

def BgpNlri.OfFamily (packet : BgpNlri) (family : NlriFamily) : Prop :=
  packet.afi = family.afi ∧ packet.safi = family.safi
  deriving Decidable

variable {ps : List RawPrefix} {fuel endp : Nat} {c : Stream} {p : RawPrefix}

section withdraw

/-- The routes after all of the prefixes have been withdrawn. -/
def withdrawAll (rib : Rib σ) (l : List NlriPrefix) (s : σ) : σ := l.foldl (fun s p => rib.bgpWithdraw p s) s

lemma withdrawAll_append (l m : List NlriPrefix) :
    withdrawAll rib (l ++ m) s = withdrawAll rib m (withdrawAll rib l s) := foldl_append

lemma established_withdrawAll (l : List NlriPrefix) :
    rib.established (withdrawAll rib l s) = rib.established s := by
  induction l generalizing s with
  | nil => rfl
  | cons p l ih => exact ih.trans (rib.established_withdraw p s)

lemma installed_withdrawAll (l : List NlriPrefix) (q : NlriPrefix) :
    rib.installed (withdrawAll rib l s) q = (rib.installed s q && decide (q ∉ l)) := by
  induction l generalizing s with
  | nil => simp [withdrawAll]
  | cons p l ih =>
    refine ih.trans ?_
    rw [rib.installed_withdraw, Bool.and_assoc]
    simp only [mem_cons, not_or, Bool.decide_and]

lemma splitPrefix_some {l' : List UInt8} (h : splitPrefix nlri = some (p, l'))
    (hfuel : nlri.length ≤ fuel) : ∃ n l k, nlri = n :: l ∧ fuel = k + 1 ∧ psize n ≤ l.length ∧
    p = ⟨n, l.take (psize n)⟩ ∧ l' = l.drop (psize n) ∧ l'.length ≤ k := by
  obtain _ | ⟨n, l⟩ := nlri
  · cases h
  simp only [splitPrefix] at h
  split_ifs at h with hle
  cases h
  rw [length_cons] at hfuel
  exact ⟨n, l, fuel - 1, rfl, by omega, hle, rfl, rfl, by rw [length_drop]; omega⟩

lemma RawPrefix.accepted_checks (hfamily : family ≠ .ipv4MplsVpn)
    (h : p.accepted family) :
    ¬(family.afi = 1 ∧ p.prefixlen > 32 ∨ family.afi = 2 ∧ p.prefixlen > 128) ∧
    ¬(family = .ipv4Unicast ∧ inClassD p.bytes) ∧
    ¬(family = .ipv6Unicast ∧ isLinkLocal p.bytes) ∧ p.toNlri family =
    ⟨family, [], addressBits p.bytes p.prefixlen.toNat⟩ := by
  cases family with
  | ipv4MplsVpn => exact absurd rfl hfamily
  | _ =>
    simp only [RawPrefix.accepted, decide_eq_true_eq] at h
    simp [NlriFamily.afi, RawPrefix.toNlri, h]

lemma nlriLoop_withdraw (hfamily : family ≠ .ipv4MplsVpn) (hps : Peeled splitPrefix nlri ps [])
    (hok : ∀ p ∈ ps, p.accepted family) (hfuel : nlri.length ≤ fuel) :
    nlriLoop rib none family fuel nlri s = (true, withdrawAll rib (ps.map (RawPrefix.toNlri family)) s) := by
  induction hps using Peeled.whole_induction generalizing fuel s with
  | nil => cases fuel <;> rfl
  | cons nlri p l' ps hsplit _ ih =>
    obtain ⟨n, l, fuel, rfl, rfl, hle, rfl, rfl, hlength⟩ := splitPrefix_some hsplit hfuel
    have hacc := hok _ mem_cons_self
    obtain ⟨hlen, hclass, hlocal, hnlri⟩ := RawPrefix.accepted_checks hfamily hacc
    rw [nlriLoop, if_neg hlen, if_neg (not_lt.mpr hle)]
    simp only [if_neg hclass, if_neg hlocal, nlriRoute, if_true]
    rw [ih (fun p hp => hok p (mem_cons_of_mem _ hp)) hlength, map_cons, hnlri]
    rfl

lemma vpnv4Loop_stops {rest : List UInt8} (hsplit : splitPrefix rest = none) (h : VpnStops rest) :
    ∃ ok, vpnv4Loop rib none fuel rest s = some (ok, s) := by
  match fuel, rest with
  | 0, [] => exact ⟨true, rfl⟩
  | fuel + 1, [] => exact ⟨true, rfl⟩
  | 0, n :: l => exact ⟨false, rfl⟩
  | fuel + 1, n :: l =>
    have hshort : psize n > l.length := by
      simp only [splitPrefix] at hsplit
      split_ifs at hsplit with hle
      omega
    rw [vpnv4Loop]
    by_cases hmin : n < 88
    · exact ⟨false, if_pos hmin⟩
    rw [if_neg hmin]
    obtain hle | ⟨a, b, ha, hb, htype⟩ := h
    · split
      · split_ifs
        · exact ⟨false, rfl⟩
        · omega
        · exact ⟨false, rfl⟩
      · exact ⟨false, if_neg (by omega)⟩
    · simp only [ha, hb, if_pos htype]
      exact ⟨false, rfl⟩

lemma vpnv4Loop_withdraw {rest : List UInt8} (hps : Peeled splitPrefix nlri ps rest) (hsplit : splitPrefix rest = none)
    (hstops : VpnStops rest) (hok : ∀ p ∈ ps, p.accepted .ipv4MplsVpn) (hfuel : nlri.length ≤ fuel) :
    ∃ ok, vpnv4Loop rib none fuel nlri s =
      some (ok, withdrawAll rib (ps.map (RawPrefix.toNlri .ipv4MplsVpn)) s) := by
  induction hps generalizing fuel s with
  | nil => exact vpnv4Loop_stops hsplit hstops
  | cons hfirst _ ih =>
    obtain ⟨n, l, fuel, rfl, rfl, hle, rfl, rfl, hlength⟩ := splitPrefix_some hfirst hfuel
    have hacc := hok _ mem_cons_self
    simp only [RawPrefix.accepted, decide_eq_true_eq] at hacc
    obtain ⟨hmin, hmax, h3, h4⟩ := hacc
    have hsize : 11 ≤ psize n := by
      have : 88 ≤ n.toNat := UInt8.le_iff_toNat_le.mp hmin
      unfold psize
      omega
    rw [getElem?_take_of_lt (by omega)] at h3 h4
    obtain ⟨b, hb, htype⟩ : ∃ b, l[4]? = some b ∧ ¬(word 0 b ≠ 0 ∧ word 0 b ≠ 1) := by
      obtain h4 | h4 := h4
      · exact ⟨0, h4, by decide⟩
      · exact ⟨1, h4, by decide⟩
    rw [vpnv4Loop, if_neg (UInt8.not_lt.mpr hmin)]
    simp only [h3, hb]
    rw [if_neg htype, if_neg (by omega), if_neg (by omega)]
    exact ih hsplit hstops (fun p hp => hok p (mem_cons_of_mem _ hp)) hlength

lemma splitPrefix_length {l : List UInt8} (h : splitPrefix nlri = some (p, l)) : l.length < nlri.length := by
  obtain ⟨n, l', k, rfl, -, -, -, rfl, -⟩ := splitPrefix_some h le_rfl
  rw [length_drop, length_cons]
  omega

lemma parseFamily_withdraw (hs : rib.established s) (h : Whole family nlri) :
    parseFamily rib none family nlri s = some (withdrawAll rib (prefixesOf family nlri) s) := by
  obtain ⟨rest, hpeeled, hrest, hacc⟩ := h
  by_cases hfamily : family = .ipv4MplsVpn
  · subst hfamily
    have hstops : VpnStops rest := hrest.elim (fun hnil => hnil ▸ trivial) And.right
    have hsplit := hpeeled.split_rest (fun _ _ _ => splitPrefix_length) le_rfl rfl
    obtain ⟨ok, hloop⟩ : ∃ ok, vpnv4Loop rib none nlri.length nlri s = some (ok, _) :=
      vpnv4Loop_withdraw hpeeled hsplit hstops hacc le_rfl
    rw [parseFamily, bgpNlriParseVpnv4, if_pos hs, hloop]
    rfl
  obtain rfl : rest = [] := hrest.resolve_right fun h => hfamily h.1
  have hloop : nlriLoop rib none family nlri.length nlri s = _ := nlriLoop_withdraw hfamily hpeeled hacc le_rfl
  cases family with
  | ipv4MplsVpn => exact absurd rfl hfamily
  | _ =>
    simp only [parseFamily, bgpNlriParse, if_pos hs, hloop]
    rfl

def BgpNlri.prefixes (packet : BgpNlri) (family : NlriFamily) : List NlriPrefix :=
  if packet.OfFamily family then prefixesOf family packet.nlri else []

lemma mpField_withdraw {packet : BgpNlri} (hs : rib.established s)
    (h : packet.OfFamily family → Whole family packet.nlri) :
    mpField rib none family packet s = some (withdrawAll rib (packet.prefixes family) s) := by
  unfold mpField BgpNlri.prefixes
  by_cases hof : packet.OfFamily family
  · rw [if_pos hof]
    by_cases hnil : packet.nlri = []
    · rw [if_neg (fun hand => hand.1 hnil), hnil]
      rfl
    · rw [if_pos ⟨hnil, hof⟩, parseFamily_withdraw hs (h hof)]
  · rw [if_neg hof, if_neg (fun hand => hof hand.2)]
    rfl

variable {peer : UpdatePeer} {mpUpdate mpWithdraw : BgpNlri} {withdrawLen : Nat}

/-- The message has no field that is taken for an End-of-RIB marker of the family. -/
def NotEndOfRib (peer : UpdatePeer) (withdrawLen : Nat) (mpWithdraw : BgpNlri) (family : NlriFamily) : Prop :=
  peer.afc family → peer.nsf family → family ≠ .ipv4Unicast → family ≠ .ipv4MplsVpn → withdrawLen = 0 →
    mpWithdraw.OfFamily family → mpWithdraw.nlri ≠ []

/-- The prefixes of a family in the multiprotocol attributes. -/
def mpPrefixes (peer : UpdatePeer) (mpUpdate mpWithdraw : BgpNlri) (family : NlriFamily) :
    List NlriPrefix :=
  if peer.afc family then mpUpdate.prefixes family ++ mpWithdraw.prefixes family else []

lemma receiveFamily_withdraw (hs : rib.established s) (hother : family ≠ .ipv4Unicast)
    (hupdate : peer.afc family → mpUpdate.OfFamily family → Whole family mpUpdate.nlri)
    (hwithdraw : peer.afc family → mpWithdraw.OfFamily family → Whole family mpWithdraw.nlri)
    (hend : NotEndOfRib peer withdrawLen mpWithdraw family) :
    receiveFamily rib peer none withdrawLen mpUpdate mpWithdraw family s =
      some (withdrawAll rib (mpPrefixes peer mpUpdate mpWithdraw family) s) := by
  unfold receiveFamily mpPrefixes
  by_cases hafc : peer.afc family
  · rw [if_pos hafc, if_pos hafc, mpField_withdraw hs (hupdate hafc)]
    simp only [bind_eq_bind, bind_some]
    rw [mpField_withdraw (by rwa [established_withdrawAll]) (hwithdraw hafc)]
    simp only [bind_some]
    rw [endOfRib, if_neg, withdrawAll_append]
    rintro ⟨hlen, hafi, hsafi, hnil, hnsf, hvpn⟩
    exact hend hafc hnsf hother hvpn hlen ⟨hafi, hsafi⟩ hnil
  · rw [if_neg hafc, if_neg hafc]
    rfl

variable {withdraw update : List UInt8} {attributeLen : Nat} {st : AttrState}

/-- The IPv4 prefixes outside the attributes. -/
def plainPrefixes (peer : UpdatePeer) (withdraw update : List UInt8) : List NlriPrefix :=
  if peer.afc .ipv4Unicast then prefixesOf .ipv4Unicast withdraw ++ prefixesOf .ipv4Unicast update else []

lemma bgpNlriParse_withdraw (hs : rib.established s) (h : Whole .ipv4Unicast nlri) :
    (if nlri ≠ [] then (bgpNlriParse rib none .ipv4Unicast nlri s).2 else s) =
      withdrawAll rib (prefixesOf .ipv4Unicast nlri) s := by
  by_cases hnil : nlri = []
  · subst hnil
    rfl
  · rw [if_pos hnil]
    exact Option.some.inj (parseFamily_withdraw hs h)

lemma bgpAttrUninternSub_some (h : Interned st) : ∃ t, bgpAttrUninternSub st = some t := by
  unfold bgpAttrUninternSub
  cases haspath : st.attr.aspath with
  | none => exact ⟨_, rfl⟩
  | some x =>
    have hle : ∀ y, refs (some x) y + refs st.as4Path y ≤ st.ashash y := haspath ▸ h
    obtain ⟨t, ht, -⟩ := aspathUnintern_some rfl hle
    exact ⟨t, ht⟩

def otherFamilies : List NlriFamily := [.ipv4Multicast, .ipv6Unicast, .ipv6Multicast, .ipv4MplsVpn]

variable (hs : rib.established s) (hlen : attributeLen ≠ 0)
    (hplain : peer.afc .ipv4Unicast → Whole .ipv4Unicast withdraw ∧ Whole .ipv4Unicast update)
    (hmissing : peer.afc .ipv4Unicast → update ≠ [] → missingAttr peer.toAttrPeer st.attr = none)
    (hupdate : ∀ f, peer.afc f → st.mpUpdate.OfFamily f → Whole f st.mpUpdate.nlri)
    (hwithdraw : ∀ f, peer.afc f → st.mpWithdraw.OfFamily f → Whole f st.mpWithdraw.nlri)
include hs hlen hplain hmissing hupdate hwithdraw

lemma receiveIpv4Unicast_withdraw :
    receiveIpv4Unicast rib peer none withdraw update attributeLen st s =
      some (none, withdrawAll rib
        (plainPrefixes peer withdraw update ++ mpPrefixes peer st.mpUpdate st.mpWithdraw .ipv4Unicast) s) := by
  unfold receiveIpv4Unicast plainPrefixes mpPrefixes
  by_cases hafc : peer.afc .ipv4Unicast
  · obtain ⟨hw, hu⟩ := hplain hafc
    have hmiss : (if update ≠ [] then missingAttr peer.toAttrPeer st.attr else none) = none := by
      split_ifs with hne
      · exact hmissing hafc hne
      · rfl
    simp only [if_pos hafc, hmiss, isSome_none, Bool.false_eq_true, if_false]
    rw [bgpNlriParse_withdraw hs hw, bgpNlriParse_withdraw (by rwa [established_withdrawAll]) hu,
      mpField_withdraw (by rwa [established_withdrawAll, established_withdrawAll]) (hupdate _ hafc)]
    simp only [bind_eq_bind, bind_some]
    rw [mpField_withdraw (by rwa [established_withdrawAll, established_withdrawAll, established_withdrawAll])
      (hwithdraw _ hafc)]
    simp only [bind_some, hlen, false_and, if_false, withdrawAll_append]
  · simp only [if_neg hafc]
    rfl

lemma receiveFields_withdraw (hend : ∀ f, NotEndOfRib peer withdraw.length st.mpWithdraw f)
    (hst : Interned st) :
    ∃ r, receiveFields rib peer .withdraw withdraw update attributeLen st s = some r ∧ r.ret ∧
      r.rib = withdrawAll rib
        (plainPrefixes peer withdraw update ++ mpPrefixes peer st.mpUpdate st.mpWithdraw .ipv4Unicast ++
          otherFamilies.flatMap (mpPrefixes peer st.mpUpdate st.mpWithdraw)) s := by
  obtain ⟨t, ht⟩ := bgpAttrUninternSub_some hst
  have hfamily (f : NlriFamily) (hf : f ≠ .ipv4Unicast) (l : List NlriPrefix) :
      receiveFamily rib peer none withdraw.length st.mpUpdate st.mpWithdraw f (withdrawAll rib l s) =
        some (withdrawAll rib (l ++ mpPrefixes peer st.mpUpdate st.mpWithdraw f) s) := by
    rw [receiveFamily_withdraw (by rwa [established_withdrawAll]) hf (hupdate f) (hwithdraw f) (hend f),
      withdrawAll_append]
  refine ⟨⟨true, _, t, st.notify⟩, ?_, rfl, rfl⟩
  rw [receiveFields, if_pos rfl,
    receiveIpv4Unicast_withdraw hs hlen hplain hmissing hupdate hwithdraw]
  simp only [bind_eq_bind, bind_some, hfamily, ht, otherFamilies, flatMap_cons, flatMap_nil,
    append_assoc, append_nil, ne_eq, reduceCtorEq, not_false_eq_true]
  rfl

end withdraw

section message

/-- The three fields of an UPDATE message. -/
structure UpdateMessage where
  withdrawn : List UInt8
  attrs : List UInt8
  nlri : List UInt8
  withdrawn_lt : withdrawn.length < 65536
  attrs_lt : attrs.length < 65536

def lengthField (l : List UInt8) : List UInt8 := [UInt8.ofNat (l.length / 256), UInt8.ofNat l.length]

namespace UpdateMessage

/-- The message as bytes. -/
def encode (m : UpdateMessage) : List UInt8 :=
  lengthField m.withdrawn ++ m.withdrawn ++ lengthField m.attrs ++ m.attrs ++ m.nlri

def attrStream (m : UpdateMessage) (before tail : List UInt8) : Stream :=
  ⟨before ++ lengthField m.withdrawn ++ m.withdrawn ++ lengthField m.attrs, m.attrs ++ m.nlri ++ tail⟩

/-- The places of a message in which prefixes stand. -/
def fields (m : UpdateMessage) : List BgpNlri :=
  ⟨1, 1, m.withdrawn⟩ :: ⟨1, 1, m.nlri⟩ :: (blockAttrs m.attrs).filterMap fun a =>
    if a.type = 14 then some (reachNlri a.value) else if a.type = 15 then some (unreachNlri a.value) else none

/-- The message has the prefix, in a family that is configured. -/
def Lists (m : UpdateMessage) (peer : UpdatePeer) (p : NlriPrefix) : Prop :=
  ∃ f field, peer.afc f ∧ field ∈ m.fields ∧ field.OfFamily f ∧ p ∈ prefixesOf f field.nlri

structure Regular (m : UpdateMessage) (peer : UpdatePeer) : Prop where
  /-- The block of attributes ends with its only `AS4_PATH`. -/
  last : ∃ attrs a, Peeled splitAttr m.attrs (attrs ++ [a]) [] ∧ a.type = 17 ∧ ∀ b ∈ attrs, b.type ≠ 17
  sane : bgpNlriSanityCheck 1 m.withdrawn.length m.withdrawn ∧ bgpNlriSanityCheck 1 m.nlri.length m.nlri
  wellKnown : peer.afc .ipv4Unicast → m.nlri ≠ [] →
    ∀ type ∈ [1, 2, 3], ∃ a ∈ blockAttrs m.attrs, a.type = type
  whole : ∀ f field, peer.afc f → field ∈ m.fields → field.OfFamily f → Whole f field.nlri
  notEnd : m.withdrawn = [] → ∀ a ∈ blockAttrs m.attrs, a.type = 15 → ∀ f,
    NotEndOfRib peer 0 (unreachNlri a.value) f

end UpdateMessage

lemma word_toNat (a b : UInt8) : (word a b).toNat = a.toNat * 256 + b.toNat := by
  have ha := a.toNat_lt
  have hb := b.toNat_lt
  have hshift : a.toNat <<< 8 % 65536 = a.toNat <<< 8 := by
    omega
  unfold word
  rw [UInt16.toNat_or, UInt16.toNat_shiftLeft, UInt8.toNat_toUInt16, UInt8.toNat_toUInt16]
  change a.toNat <<< 8 % 65536 ||| b.toNat = _
  rw [hshift, ← Nat.shiftLeft_add_eq_or_of_lt (by omega), Nat.shiftLeft_eq]

variable {before l rest : List UInt8}

lemma getw_lengthField (before rest : List UInt8) (h : l.length < 65536) :
    ∃ w, streamGetw.run ⟨before, lengthField l ++ rest⟩ = some (w, ⟨before ++ lengthField l, rest⟩) ∧
      w.toNat = l.length := by
  refine ⟨_, streamGetw_run rfl, ?_⟩
  rw [word_toNat, UInt8.toNat_ofNat', UInt8.toNat_ofNat']
  omega

lemma slice_here (h : c.rest = l ++ rest) : (Scan.slice c.pos l.length).run c = some (l, c) := by
  rw [slice_run (by rw [← Cursor.pos_add_rest, h, length_append]; omega)]
  simp [Cursor.all, Lib.Cursor.pos, h]

lemma forward_over :
    (streamForwardGetp l.length).run ⟨before, l ++ rest⟩ = some ((), ⟨before ++ l, rest⟩) := by
  rw [streamForwardGetp_run (by simp)]
  simp [advance]

variable {peer : UpdatePeer} {m : UpdateMessage} {tail : List UInt8} {t : AsTable} {st : AttrState}

open UpdateMessage

lemma attrParse_last {attrs : List RawAttr} {a : RawAttr} (hpeeled : Peeled splitAttr m.attrs (attrs ++ [a]) [])
    (hattrs : ∀ b ∈ attrs, b.type ≠ 17)
    (h : (bgpAttrParse peer.toAttrPeer m.attrs.length t).run (m.attrStream before tail) =
        some ((.withdraw, st), c)) :
    ∃ buf endp p q, c = (m.attrStream before tail).advance m.attrs.length ∧
      Walked peer.toAttrPeer buf endp p [] (.init t) (blockAttrs m.attrs) (.withdraw, st) q := by
  set s := m.attrStream before tail with hs
  have hat : Lib.Cursor.at s.all s.pos = s := at_all
  have hrest : s.all.drop s.pos = m.attrs ++ m.nlri ++ tail := congrArg rest hat
  have hsize : s.pos + m.attrs.length ≤ s.all.length := by
    rw [← pos_add_rest, hs]
    simp [attrStream]
  rw [← hat] at h
  obtain ⟨walked, q, rfl, hw⟩ := attrParse_withdraw hsize h
  have hblock : (s.all.drop s.pos).take (s.pos + m.attrs.length - s.pos) = m.attrs := by
    rw [hrest, Nat.add_sub_cancel_left, append_assoc, take_left]
  have hwalked := hw.peeled
  rw [hblock] at hwalked
  have hall : blockAttrs m.attrs = attrs ++ [a] := blockAttrs_eq hpeeled
  obtain rfl : walked = attrs ++ [a] := by
    obtain heq | hpre := prefix_concat_iff.mp (hall ▸ blockAttrs_isPrefix hwalked)
    · exact heq
    · obtain ⟨⟨b, hb, htype⟩, -⟩ := hw.withdraw rfl
      exact absurd htype (hattrs b (hpre.subset (mem_of_getLast? hb)))
  have hnil := hwalked.rest_unique hpeeled
  have hq : q = s.pos + m.attrs.length := by
    have hle := hw.le
    have hlen := congrArg length hnil
    simp only [length_take, length_drop, length_nil] at hlen
    omega
  refine ⟨_, _, _, _, ?_, hall ▸ hw⟩
  rw [hq, ← advance_at, hat]

section listed

variable {type : UInt8} {read : List UInt8 → BgpNlri} {attrs : List RawAttr} {z field : BgpNlri} {p : NlriPrefix}
  {mpUpdate mpWithdraw : BgpNlri}

lemma lastOf_of_not_mem (h : ∀ b ∈ attrs, b.type ≠ type) : lastOf type read attrs z = z := by
  induction attrs with
  | nil => rfl
  | cons a attrs ih =>
    rw [lastOf, foldl_cons, if_neg (h a mem_cons_self)]
    exact ih fun b hb => h b (mem_cons_of_mem _ hb)

lemma lastOf_eq {b : RawAttr} (hnodup : (attrs.map RawAttr.type).Nodup) (hb : b ∈ attrs) :
    lastOf b.type read attrs z = read b.value := by
  induction attrs generalizing z with
  | nil => cases hb
  | cons a attrs ih =>
    rw [map_cons, nodup_cons] at hnodup
    obtain rfl | hb := mem_cons.mp hb
    · rw [lastOf, foldl_cons, if_pos rfl]
      exact lastOf_of_not_mem fun c hc heq => hnodup.1 (heq ▸ mem_map_of_mem hc)
    · exact ih hnodup.2 hb

lemma lastOf_eq_iff (hnodup : (attrs.map RawAttr.type).Nodup) (hf : field.OfFamily family) :
    lastOf type read attrs ⟨0, 0, []⟩ = field ↔ ∃ a ∈ attrs, a.type = type ∧ read a.value = field := by
  constructor
  · rintro rfl
    by_contra hnone
    push Not at hnone
    have hmem : ∀ b ∈ attrs, b.type ≠ type := fun b hb htype => hnone b hb htype (htype ▸ lastOf_eq hnodup hb).symm
    rw [lastOf_of_not_mem hmem] at hf
    cases family <;> exact absurd hf.1 (by decide)
  · rintro ⟨a, ha, rfl, rfl⟩
    exact lastOf_eq hnodup ha

lemma mem_fields : field ∈ m.fields ↔ field = ⟨1, 1, m.withdrawn⟩ ∨ field = ⟨1, 1, m.nlri⟩ ∨
    (∃ a ∈ blockAttrs m.attrs, a.type = 14 ∧ reachNlri a.value = field) ∨
    ∃ a ∈ blockAttrs m.attrs, a.type = 15 ∧ unreachNlri a.value = field := by
  simp only [fields, mem_cons, mem_filterMap, ← exists_or, ← and_or_left]
  refine or_congr_right (or_congr_right (exists_congr fun a => and_congr_right fun _ => ?_))
  by_cases h14 : a.type = 14
  · simp [h14]
  · by_cases h15 : a.type = 15 <;> simp [h14, h15]

lemma mem_prefixes :
    p ∈ field.prefixes family ↔ field.OfFamily family ∧ p ∈ prefixesOf family field.nlri := by
  unfold BgpNlri.prefixes
  split_ifs with h <;> simp [h]

lemma mem_mpPrefixes : p ∈ mpPrefixes peer mpUpdate mpWithdraw family ↔
    peer.afc family ∧ ∃ field, (mpUpdate = field ∨ mpWithdraw = field) ∧ field.OfFamily family ∧
      p ∈ prefixesOf family field.nlri := by
  unfold mpPrefixes
  split_ifs with h
  · simp only [mem_append, mem_prefixes, h, true_and, or_and_right, exists_or, exists_eq_left']
  · simp [h]

lemma mem_plainPrefixes : p ∈ plainPrefixes peer m.withdrawn m.nlri ↔ ∃ (f : NlriFamily)
    (field : BgpNlri), peer.afc f ∧ (field = ⟨1, 1, m.withdrawn⟩ ∨ field = ⟨1, 1, m.nlri⟩) ∧
    field.OfFamily f ∧ p ∈ prefixesOf f field.nlri := by
  have hof (f : NlriFamily) (nlri : List UInt8) : (⟨1, 1, nlri⟩ : BgpNlri).OfFamily f ↔ f = .ipv4Unicast := by
    cases f <;> simp [BgpNlri.OfFamily, NlriFamily.afi, NlriFamily.safi, safiMplsLabeledVpn]
  unfold plainPrefixes
  constructor
  · intro hp
    split_ifs at hp with hafc
    · obtain hp | hp := mem_append.mp hp
      · exact ⟨_, _, hafc, .inl rfl, (hof _ _).mpr rfl, hp⟩
      · exact ⟨_, _, hafc, .inr rfl, (hof _ _).mpr rfl, hp⟩
    · cases hp
  · rintro ⟨f, field, hafc, rfl | rfl, hfield, hp⟩
    all_goals
      obtain rfl := (hof _ _).mp hfield
      simp [hafc, hp]

lemma mem_withdrawn
    (hnodup : ((blockAttrs m.attrs).map RawAttr.type).Nodup)
    (hupdate : mpUpdate = lastOf 14 reachNlri (blockAttrs m.attrs) ⟨0, 0, []⟩)
    (hwithdraw : mpWithdraw = lastOf 15 unreachNlri (blockAttrs m.attrs) ⟨0, 0, []⟩) : p ∈
    plainPrefixes peer m.withdrawn m.nlri ++ mpPrefixes peer mpUpdate mpWithdraw .ipv4Unicast ++
    otherFamilies.flatMap (mpPrefixes peer mpUpdate mpWithdraw) ↔ m.Lists peer p := by
  have hfamilies : p ∈ plainPrefixes peer m.withdrawn m.nlri ++ mpPrefixes peer mpUpdate mpWithdraw .ipv4Unicast ++
      otherFamilies.flatMap (mpPrefixes peer mpUpdate mpWithdraw) ↔
      p ∈ plainPrefixes peer m.withdrawn m.nlri ∨ ∃ f, p ∈ mpPrefixes peer mpUpdate mpWithdraw f := by
    rw [append_assoc, mem_append]
    refine or_congr_right ⟨fun h => ?_, ?_⟩
    · obtain h | h := mem_append.mp h
      · exact ⟨_, h⟩
      · obtain ⟨f, -, h⟩ := mem_flatMap.mp h
        exact ⟨f, h⟩
    · rintro ⟨f, h⟩
      cases f <;> simp [otherFamilies, h]
  rw [hfamilies, mem_plainPrefixes]
  unfold UpdateMessage.Lists
  simp only [mem_fields, mem_mpPrefixes]
  constructor
  · rintro (⟨f, field, hafc, hfield, hof, hp⟩ | ⟨f, hafc, field, hfield, hof, hp⟩)
    · exact ⟨f, field, hafc, hfield.imp_right .inl, hof, hp⟩
    · rw [hupdate, hwithdraw, lastOf_eq_iff hnodup hof, lastOf_eq_iff hnodup hof] at hfield
      exact ⟨f, field, hafc, .inr (.inr hfield), hof, hp⟩
  · rintro ⟨f, field, hafc, hfield, hof, hp⟩
    obtain hfield | hfield | hfield := hfield
    · exact .inl ⟨f, field, hafc, .inl hfield, hof, hp⟩
    · exact .inl ⟨f, field, hafc, .inr hfield, hof, hp⟩
    · rw [← lastOf_eq_iff hnodup hof, ← lastOf_eq_iff hnodup hof, ← hupdate, ← hwithdraw] at hfield
      exact .inr ⟨f, hafc, field, hfield, hof, hp⟩

end listed

variable {s : σ}

variable {withdraw : List UInt8} {r : UpdateResult σ}

lemma receiveUpdate_run {ret : ParseRet} {attributeLen : Nat} (hend : endp = before.length + m.nlri.length)
    (hsane : bgpNlriSanityCheck 1 m.nlri.length m.nlri)
    (hr : receiveFields rib peer ret withdraw m.nlri attributeLen st s = some r) :
    (receiveUpdate rib peer endp ret withdraw attributeLen st s).run ⟨before, m.nlri ++ tail⟩ =
      some (r, ⟨before ++ m.nlri, tail⟩) :=
    by
  have hlen : endp - before.length = m.nlri.length := by omega
  have hpos : endp - (⟨before, m.nlri ++ tail⟩ : Stream).pos = m.nlri.length := hlen
  rw [receiveUpdate, bind_run pos_run, hpos, bind_run (slice_here rfl), if_neg (not_not.mpr hsane), bind_run forward_over,
    hr]
  rfl

lemma receiveAttributes_run (hend : endp = before.length + (lengthField m.attrs ++ m.attrs ++ m.nlri).length)
    (hne : m.attrs ≠ [])
    (hparse : (bgpAttrParse peer.toAttrPeer m.attrs.length t).run
        ⟨before ++ lengthField m.attrs, m.attrs ++ m.nlri ++ tail⟩ =
        some ((.withdraw, st), ⟨before ++ lengthField m.attrs ++ m.attrs, m.nlri ++ tail⟩))
    (hsane : bgpNlriSanityCheck 1 m.nlri.length m.nlri)
    (hr : receiveFields rib peer .withdraw withdraw m.nlri m.attrs.length st s = some r) :
    (receiveAttributes rib peer endp t withdraw s).run
      ⟨before, lengthField m.attrs ++ m.attrs ++ m.nlri ++ tail⟩ =
      some (r, ⟨before ++ lengthField m.attrs ++ m.attrs ++ m.nlri, tail⟩) := by
  have htwo : (lengthField m.attrs).length = 2 := rfl
  simp only [length_append, htwo] at hend
  obtain ⟨w, hw, hlen⟩ := getw_lengthField before (m.attrs ++ m.nlri ++ tail) m.attrs_lt
  have hw0 : w ≠ 0 := by
    rintro rfl
    exact hne (eq_nil_of_length_eq_zero hlen.symm)
  rw [receiveAttributes, bind_run pos_run, if_neg (by change ¬before.length + 2 > endp; omega)]
  rw [append_assoc, append_assoc, ← append_assoc m.attrs, bind_run hw, bind_run pos_run, if_neg, if_neg hw0,
    hlen, bind_run hparse]
  · refine receiveUpdate_run ?_ hsane hr
    simp only [length_append, htwo]
    omega
  · change ¬(before ++ lengthField m.attrs).length + w.toNat > endp
    rw [length_append, htwo, hlen]
    omega

lemma bgpUpdateReceive_run (hs : rib.established s) (hne : m.attrs ≠ [])
    (hparse : (bgpAttrParse peer.toAttrPeer m.attrs.length t).run (m.attrStream before tail) =
        some ((.withdraw, st), (m.attrStream before tail).advance m.attrs.length))
    (hsane : bgpNlriSanityCheck 1 m.withdrawn.length m.withdrawn ∧ bgpNlriSanityCheck 1 m.nlri.length m.nlri)
    (hr : receiveFields rib peer .withdraw m.withdrawn m.nlri m.attrs.length st s = some r) :
    (bgpUpdateReceive rib peer m.encode.length t s).run ⟨before, m.encode ++ tail⟩ =
      some (r, ⟨before ++ m.encode, tail⟩) := by
  have htwo (l : List UInt8) : (lengthField l).length = 2 := rfl
  have hsize : m.encode.length = 2 + m.withdrawn.length + 2 + m.attrs.length + m.nlri.length := by
    simp only [encode, length_append, htwo]
  have hencode : m.encode ++ tail =
      lengthField m.withdrawn ++ (m.withdrawn ++ (lengthField m.attrs ++ m.attrs ++ m.nlri ++ tail)) := by
    simp only [encode, append_assoc]
  obtain ⟨w, hw, hlen⟩ := getw_lengthField before (m.withdrawn ++ (lengthField m.attrs ++ m.attrs ++ m.nlri ++ tail))
    m.withdrawn_lt
  rw [bgpUpdateReceive, if_neg (not_not.mpr hs), bind_run pos_run, if_neg (by omega), hencode, bind_run hw,
    bind_run pos_run, hlen, if_neg, bind_run (slice_here rfl), if_neg (not_not.mpr hsane.1), bind_run forward_over]
  · have hadvance : (m.attrStream before tail).advance m.attrs.length =
        ⟨before ++ lengthField m.withdrawn ++ m.withdrawn ++ lengthField m.attrs ++ m.attrs, m.nlri ++ tail⟩ := by
      simp [attrStream, advance]
    rw [hadvance] at hparse
    rw [receiveAttributes_run ?_ hne hparse hsane.2 hr]
    · simp only [encode, append_assoc]
    · simp only [Lib.Cursor.pos, length_append, htwo]
      omega
  · change ¬(before ++ lengthField m.withdrawn).length + m.withdrawn.length > before.length + m.encode.length
    rw [length_append, htwo]
    omega

/-- When the parser of the attributes asks for it, the prefixes that the message lists are withdrawn, and no others. -/
theorem bgpUpdateReceive_withdraws (rib : Rib σ) (peer : UpdatePeer) (t : AsTable) (m : UpdateMessage)
    (before tail : List UInt8) (s : σ) (hs : rib.established s)
    (hparse : ∃ st c, (bgpAttrParse peer.toAttrPeer m.attrs.length t).run (m.attrStream before tail) =
          some ((.withdraw, st), c)) (hm : m.Regular peer) :
    ∃ r l, (bgpUpdateReceive rib peer m.encode.length t s).run ⟨before, m.encode ++ tail⟩ =
        some (r, ⟨before ++ m.encode, tail⟩) ∧
      r.ret ∧ r.rib = withdrawAll rib l s ∧ (∀ p, p ∈ l ↔ m.Lists peer p) ∧
      ∀ p, rib.installed r.rib p ↔ rib.installed s p ∧ ¬m.Lists peer p := by
  obtain ⟨st, c, hparse⟩ := hparse
  obtain ⟨attrs, a, hpeeled, ha, hattrs⟩ := hm.last
  obtain ⟨buf, endp, p, q, rfl, hw⟩ := attrParse_last hpeeled hattrs hparse
  have hmem (p : NlriPrefix) : _ ↔ m.Lists peer p := mem_withdrawn hw.nodup hw.mpUpdate hw.mpWithdraw
  have hne : m.attrs ≠ [] := by
    intro hnil
    have hlen := hpeeled.length_le fun _ _ _ => splitAttr_length
    rw [hnil, length_append] at hlen
    simp at hlen
  have hplain : peer.afc .ipv4Unicast → Whole .ipv4Unicast m.withdrawn ∧ Whole .ipv4Unicast m.nlri := by
    intro hafc
    exact ⟨hm.whole _ ⟨1, 1, m.withdrawn⟩ hafc (mem_fields.mpr (.inl rfl)) ⟨rfl, rfl⟩,
      hm.whole _ ⟨1, 1, m.nlri⟩ hafc (mem_fields.mpr (.inr (.inl rfl))) ⟨rfl, rfl⟩⟩
  have hupdate : ∀ f, peer.afc f → st.mpUpdate.OfFamily f → Whole f st.mpUpdate.nlri := by
    intro f hafc hof
    have hfield := (lastOf_eq_iff hw.nodup hof).mp hw.mpUpdate.symm
    exact hm.whole f _ hafc (mem_fields.mpr (.inr (.inr (.inl hfield)))) hof
  have hwithdraw : ∀ f, peer.afc f → st.mpWithdraw.OfFamily f → Whole f st.mpWithdraw.nlri := by
    intro f hafc hof
    have hfield := (lastOf_eq_iff hw.nodup hof).mp hw.mpWithdraw.symm
    exact hm.whole f _ hafc (mem_fields.mpr (.inr (.inr (.inr hfield)))) hof
  have hend : ∀ f, NotEndOfRib peer m.withdrawn.length st.mpWithdraw f := by
    intro f hafc hnsf hother hvpn hlen hof
    obtain ⟨b, hb, htype, heq⟩ := (lastOf_eq_iff hw.nodup hof).mp hw.mpWithdraw.symm
    rw [← heq] at hof ⊢
    exact hm.notEnd (eq_nil_of_length_eq_zero hlen) b hb htype f hafc hnsf hother hvpn rfl hof
  have hmissing : peer.afc .ipv4Unicast → m.nlri ≠ [] → missingAttr peer.toAttrPeer st.attr = none := by
    intro hafc hnlri
    have hknown (t : AttrType) (ht : t.wellKnown) (type : UInt8) (htype : attrType type = t)
        (hmem : type ∈ [1, 2, 3]) : st.attr.flag t := by
      obtain ⟨b, hb, rfl⟩ := hm.wellKnown hafc hnlri type hmem
      exact hw.flag t ht (.inr ⟨b, hb, htype⟩)
    have hsort := (hw.withdraw rfl).2
    simp [missingAttr, hsort, hknown .nextHop rfl 3 rfl (by simp), hknown .asPath rfl 2 rfl (by simp),
      hknown .origin rfl 1 rfl (by simp)]
  have hlen : m.attrs.length ≠ 0 := fun h => hne (eq_nil_of_length_eq_zero h)
  obtain ⟨r, hr, hret, hrib⟩ :=
    receiveFields_withdraw hs hlen hplain hmissing hupdate hwithdraw hend hw.interned
  refine ⟨r, _, bgpUpdateReceive_run hs hne hparse hm.sane hr, hret, hrib, hmem, fun p => ?_⟩
  rw [hrib, installed_withdrawAll, Bool.and_eq_true, decide_eq_true_eq, hmem]

def prefixRib : Rib (List NlriPrefix) where
  established _ := true
  installed s p := decide (p ∈ s)
  bgpUpdate _ p _ s := (true, p :: s)
  bgpWithdraw p s := s.filter (· ≠ p)
  bgpClearStaleRoute f s := s.filter (·.family ≠ f)
  established_withdraw _ _ := rfl
  installed_withdraw p q s := by simp

def ebgpPeer : UpdatePeer := ⟨oldSpeaker, fun _ => true, fun _ => false⟩

def mandatoryAttrs : List UInt8 := [0x40, 1, 1, 0, 0x40, 2, 0, 0x40, 3, 4, 10, 0, 0, 1]

/-- An `AS4_PATH` of one byte that came through a router which does not know it. -/
def badAs4Path : List UInt8 := [0xE0, 17, 1, 0]

def badMessage (after : List UInt8) (h : after.length < 100) : UpdateMessage :=
  ⟨[8, 11], mandatoryAttrs ++ badAs4Path ++ after, [8, 10], by simp, by simp [mandatoryAttrs, badAs4Path]; omega⟩

def lastMessage : UpdateMessage := badMessage [] (by simp)

theorem bgpUpdateReceive_withdraws_last :
    lastMessage.Regular ebgpPeer ∧
    ∃ r l, (bgpUpdateReceive prefixRib ebgpPeer lastMessage.encode.length (fun _ => 0) []).run
        ⟨[], lastMessage.encode ++ []⟩ =
        some (r, ⟨[] ++ lastMessage.encode, []⟩) ∧
      r.ret ∧ r.rib = withdrawAll prefixRib l [] ∧ (∀ p, p ∈ l ↔ lastMessage.Lists ebgpPeer p) ∧
      ∀ p, prefixRib.installed r.rib p ↔ prefixRib.installed [] p ∧ ¬lastMessage.Lists ebgpPeer p := by
  have hfields : lastMessage.fields = [⟨1, 1, [8, 11]⟩, ⟨1, 1, [8, 10]⟩] := rfl
  have hattrs : blockAttrs lastMessage.attrs =
      [⟨0x40, 1, [0]⟩, ⟨0x40, 2, []⟩, ⟨0x40, 3, [10, 0, 0, 1]⟩, ⟨0xE0, 17, [0]⟩] := rfl
  have hregular : lastMessage.Regular ebgpPeer := by
    refine ⟨?_, by decide, fun _ _ => by rw [hattrs]; simp, ?_, nofun⟩
    · exact ⟨[⟨0x40, 1, [0]⟩, ⟨0x40, 2, []⟩, ⟨0x40, 3, [10, 0, 0, 1]⟩], ⟨0xE0, 17, [0]⟩,
        .cons rfl (.cons rfl (.cons rfl (.cons rfl (.nil _)))), rfl, by decide⟩
    · intro f field _ hfield hof
      have hcases : field = ⟨1, 1, [8, 11]⟩ ∨ field = ⟨1, 1, [8, 10]⟩ := by simpa [hfields] using hfield
      obtain rfl : f = .ipv4Unicast := by
        obtain rfl | rfl := hcases <;> cases f <;> first | rfl | exact absurd hof (by decide)
      obtain rfl | rfl := hcases <;> exact ⟨[], .cons rfl (.nil _), .inl rfl, by decide⟩
  refine ⟨hregular, bgpUpdateReceive_withdraws prefixRib ebgpPeer (fun _ => 0) _ [] [] [] rfl ?_ hregular⟩
  exact ⟨_, _, rfl⟩

def earlyMessage : UpdateMessage := badMessage [0, 8, 1, 0] (by simp)

def resetMessage : UpdateMessage := badMessage [0x80, 4, 4, 0, 0, 0, 0] (by simp)

def defaultRoute : NlriPrefix := ⟨.ipv4Unicast, [], []⟩

/-- What is left of two routes after the message. -/
def leftRoutes (m : UpdateMessage) : Option (Bool × List NlriPrefix) :=
  ((bgpUpdateReceive prefixRib ebgpPeer m.encode.length (fun _ => 0)
    [defaultRoute, RawPrefix.toNlri .ipv4Unicast ⟨8, [10]⟩]).run ⟨[], m.encode⟩).map fun r => (r.1.ret, r.1.rib)

/-- A route that the first message does not list is withdrawn; one that the second lists is not. -/
theorem bgpUpdateReceive_reads_attributes :
    (∃ st c, (bgpAttrParse oldSpeaker earlyMessage.attrs.length fun _ => 0).run (earlyMessage.attrStream [] []) =
      some ((.withdraw, st), c)) ∧
    leftRoutes earlyMessage = some (true, []) ∧ ¬earlyMessage.Lists ebgpPeer defaultRoute ∧
    (∃ st c, (bgpAttrParse oldSpeaker resetMessage.attrs.length fun _ => 0).run (resetMessage.attrStream [] []) =
      some ((.withdraw, st), c)) ∧
    leftRoutes resetMessage = some (false, [defaultRoute, RawPrefix.toNlri .ipv4Unicast ⟨8, [10]⟩]) ∧
    resetMessage.Lists ebgpPeer (RawPrefix.toNlri .ipv4Unicast ⟨8, [10]⟩) := by
  refine ⟨⟨_, _, rfl⟩, by decide, ?_, ⟨_, _, rfl⟩, by decide, ?_⟩
  · have hfields : earlyMessage.fields = [⟨1, 1, [8, 11]⟩, ⟨1, 1, [8, 10]⟩] := rfl
    rintro ⟨f, field, -, hfield, -, hp⟩
    have hcases : field = ⟨1, 1, [8, 11]⟩ ∨ field = ⟨1, 1, [8, 10]⟩ := by simpa [hfields] using hfield
    obtain rfl | rfl := hcases <;> revert hp <;> cases f <;> decide
  · exact ⟨.ipv4Unicast, ⟨1, 1, [8, 10]⟩, rfl, by decide, ⟨rfl, rfl⟩, by decide⟩

end message

end OspfMdr.Bgp
