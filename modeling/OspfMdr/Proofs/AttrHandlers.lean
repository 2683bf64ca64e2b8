import OspfMdr.Model.AttrParse
import OspfMdr.Proofs.Stream

namespace OspfMdr.Bgp
open Lib Scan Inside

variable {buf : List UInt8} {peer : AttrPeer} {args : AttrArgs} {st st' : AttrState} {e p : Nat}

/-- An attribute of the block, with the flags that the parser looks at. -/
structure RawAttr where
  flags : UInt8
  type : UInt8
  value : List UInt8
  deriving DecidableEq, Repr

/-- The handler of the attribute is called at `p`; the attribute ends at `e`. -/
structure ArgsAt (buf : List UInt8) (args : AttrArgs) (e p : Nat) : Prop where
  inBuf : e ≤ buf.length
  value : p + args.length = e
  whole : args.startp + args.total = e

/-- The arguments are those of the raw attribute that starts at `p` and ends at `e`. -/
structure ArgsOf (buf : List UInt8) (args : AttrArgs) (a : RawAttr) (e p : Nat) : Prop extends ArgsAt buf args e p where
  type : args.type = a.type
  flags : args.flags = a.flags
  bytes : (buf.drop p).take args.length = a.value

/-- What a handler of attributes of the type leaves as it was. -/
structure Framed (type : AttrType) (st st' : AttrState) : Prop where
  aspath : type ≠ .asPath → st'.attr.aspath = st.attr.aspath
  as4Path : type ≠ .as4Path → st'.as4Path = st.as4Path
  ashash : type ≠ .asPath → type ≠ .as4Path → st'.ashash = st.ashash
  flag : ∀ t, t ≠ type → st'.attr.flag t = st.attr.flag t
  extra : st.attr.extra.isSome → st'.attr.extra.isSome
  aggregatorAs : type ≠ .aggregator → st'.attr.extraGet.aggregatorAs = st.attr.extraGet.aggregatorAs
  mpUpdate : type ≠ .mpReachNlri → st'.mpUpdate = st.mpUpdate
  mpWithdraw : type ≠ .mpUnreachNlri → st'.mpWithdraw = st.mpWithdraw

/-- The routes that the value of an MP_REACH_NLRI attribute announces. -/
def reachNlri : List UInt8 → BgpNlri
  | a :: b :: safi :: len :: l => ⟨word a b, safi, l.drop (len.toNat + 1)⟩
  | _ => ⟨0, 0, []⟩

/-- The routes that the value of an MP_UNREACH_NLRI attribute withdraws. -/
def unreachNlri : List UInt8 → BgpNlri
  | a :: b :: safi :: l => ⟨word a b, safi, l⟩
  | _ => ⟨0, 0, []⟩

/-- The AS number of an `AGGREGATOR` with numbers of two bytes. -/
def shortAggregatorAs : List UInt8 → UInt32
  | a :: b :: _ => (word a b).toUInt32
  | _ => 0

section grammar

/-- The bytes are whole segments of known types, none of them empty. -/
def segmentsFit (use32bit : Bool) : Nat → List UInt8 → Bool
  | _, [] => true
  | fuel + 1, type :: num :: l =>
    (segmentType type).isSome && num ≠ 0 && num.toNat * asValueSize use32bit ≤ l.length &&
      segmentsFit use32bit fuel (l.drop (num.toNat * asValueSize use32bit))
  | _, _ => false

/-- The prefixes pass the sanity check; those of VPNs are not checked. -/
def nlriFits (packet : BgpNlri) : Bool :=
  packet.safi = safiMplsLabeledVpn ∨ bgpNlriSanityCheck packet.afi packet.nlri.length packet.nlri

/-- A next hop of a known length, a reserved byte and prefixes. -/
def reachFits : List UInt8 → Bool
  | a :: b :: safi :: len :: l =>
    len.toNat ∈ [4, 12, 16, 32] ∧ len.toNat + 1 < l.length ∧ nlriFits (reachNlri (a :: b :: safi :: len :: l))
  | _ => false

/-- The value has its header, and its prefixes fit. -/
def unreachFits (value : List UInt8) : Bool := 3 ≤ value.length ∧ nlriFits (unreachNlri value)

/-- The value is one that the type allows. -/
def RawAttr.fits (peer : AttrPeer) (a : RawAttr) : Bool :=
  match attrType a.type with
  | .origin => a.value ∈ [[0], [1], [2]]
  | .asPath => segmentsFit peer.as4Rcv a.value.length a.value
  | .nextHop => a.value.length = 4 ∧ ¬martian (longOf a.value)
  | .multiExitDisc | .localPref | .originatorId => a.value.length = 4
  | .atomicAggregate => a.value.length = 0
  | .aggregator => a.value.length = if peer.as4Rcv then 8 else 6
  | .communities | .clusterList => a.value.length % 4 = 0
  | .mpReachNlri => reachFits a.value
  | .mpUnreachNlri => unreachFits a.value
  | .extCommunities => a.value.length % 8 = 0
  | .as4Path => segmentsFit true a.value.length a.value
  | .as4Aggregator => a.value.length = 8
  | .unknown => checkFlag a.flags flagOptional

end grammar

/-- The path was read and interned, or it was not and the parser does not go on. -/
def PathRead (t t' : AsTable) (path path' : Option Aspath) (ret : ParseRet) : Prop :=
  (path' = none ∨ path' = path) ∧ t' = t ∧ ret ≠ .proceed ∨
    ∃ x, path' = some x ∧ t' = aspathIntern t x ∧ ret = .proceed

namespace AttrType

def wellKnown : AttrType → Bool
  | origin | asPath | nextHop => true
  | _ => false

/-- The types whose flags the parser comes back to. -/
def flagged : AttrType → Bool
  | as4Path | aggregator | as4Aggregator => true
  | type => type.wellKnown

/-- What a neighbour of another AS sends is passed over when it is malformed. -/
def Tolerated (peer : AttrPeer) (type : AttrType) : Prop :=
  peer.sort = .ebgp ∧ (type = as4Aggregator ∨ type = aggregator ∨ type = atomicAggregate)
  deriving Decidable

end AttrType

/-- What the handler does with the attribute, of which `right` says whether it is well-formed. -/
structure Handled (peer : AttrPeer) (a : RawAttr) (right : Prop) (st : AttrState) (e : Nat) (r : ParseRet × AttrState)
    (q : Nat) : Prop where
  framed : Framed (attrType a.type) st r.2
  proceed : r.1 = .proceed ↔ right ∨ (attrType a.type).Tolerated peer
  ended : r.1 ≠ .error → q = e
  flag : (attrType a.type).flagged → (r.2.attr.flag (attrType a.type) ↔ right ∨ st.attr.flag (attrType a.type))
  aspath : attrType a.type = .asPath → PathRead st.ashash r.2.ashash st.attr.aspath r.2.attr.aspath r.1
  as4Path : attrType a.type = .as4Path → PathRead st.ashash r.2.ashash st.as4Path r.2.as4Path r.1
  aggregator : attrType a.type = .aggregator → right → r.2.attr.extra.isSome ∧
    (peer.as4Rcv = false → r.2.attr.extraGet.aggregatorAs = shortAggregatorAs a.value)
  reach : attrType a.type = .mpReachNlri → r.1 = .proceed → r.2.mpUpdate = reachNlri a.value
  unreach : attrType a.type = .mpUnreachNlri → r.1 = .proceed → r.2.mpWithdraw = unreachNlri a.value
  withdraw : r.1 = .withdraw → attrType a.type = .as4Path ∧ peer.sort = .ebgp

variable {type : AttrType} {q length subcode : Nat} {attr : UpdateAttr} {value : List UInt8} {a : RawAttr}
  {body : Parse (ParseRet × AttrState)} {bad wf : Prop}

lemma framed_notify (n : List Notify) : Framed type st { st with notify := n } :=
  ⟨fun _ => rfl, fun _ => rfl, fun _ _ => rfl, fun _ _ => rfl, id, fun _ => rfl, fun _ => rfl, fun _ => rfl⟩

lemma Framed.notify (h : Framed type st st') (n : List Notify) :
    Framed type st { st' with notify := n } :=
  { h with }

lemma notifyData_inside (h : ArgsAt buf args e p) (hq : q ≤ e) (hlength : length ≤ args.total) :
    Inside buf e q (notifyData args length) fun _ q' => q' = q := by
  unfold notifyData
  split_ifs
  · exact (slice h.inBuf hq (by have := h.whole; omega)).mono fun _ _ hr => hr.2
  · exact .pure hq rfl

/-- A malformed attribute changes nothing but the notifications. -/
structure Malformed (peer : AttrPeer) (args : AttrArgs) (st : AttrState) (e : Nat)
    (r : ParseRet × AttrState) (q : Nat) : Prop where
  state : ∃ n, r.2 = { st with notify := n }
  ended : r.1 ≠ .error → q = e
  withdraw : r.1 = .withdraw → (attrType args.type = .as4Path ∨ attrType args.type = .unknown) ∧
    checkFlag args.flags flagOptional ∧ peer.sort = .ebgp
  proceed : r.1 = .proceed ↔ (attrType args.type).Tolerated peer

lemma malformed_error (n : List Notify) (htype : ¬(attrType args.type).Tolerated peer) :
    Malformed peer args st e (.error, { st with notify := n }) q :=
  ⟨⟨n, rfl⟩, absurd rfl, nofun, by simpa using htype⟩

lemma bgpAttrMalformed_inside (h : ArgsAt buf args e p) (hq : q ≤ e) (hlength : length ≤ args.total) :
    Inside buf e q (bgpAttrMalformed peer args subcode length st) (Malformed peer args st e) := by
  unfold bgpAttrMalformed
  by_cases hsort : peer.sort ≠ .ebgp
  · rw [if_pos hsort]
    refine (notifyData_inside h hq hlength).bind fun data q' hq' _ => ?_
    exact .pure hq' (malformed_error _ fun htype => hsort htype.1)
  rw [if_neg hsort]
  refine (seek h.inBuf (le_of_eq h.whole)).bind_to fun _ hq' => ?_
  have hend : args.startp + args.total = e := h.whole
  cases htype : attrType args.type with
  | as4Aggregator | aggregator | atomicAggregate =>
    exact .pure hq' ⟨⟨st.notify, rfl⟩, fun _ => hend, nofun, by simpa [htype, AttrType.Tolerated] using hsort⟩
  | as4Path | unknown =>
    split_ifs with hflags
    · simp only [Bool.and_eq_true] at hflags
      exact .pure hq' ⟨⟨st.notify, rfl⟩, fun _ => hend, fun _ => ⟨by simp [htype], hflags.1.2, not_not.mp hsort⟩,
        by simp [htype, AttrType.Tolerated]⟩
    · exact .pure hq' (malformed_error st.notify (by simp [htype, AttrType.Tolerated]))
  | _ =>
    refine (notifyData_inside h hq' hlength).bind fun data q'' hq'' _ => ?_
    exact .pure hq'' (malformed_error _ (by simp [htype, AttrType.Tolerated]))

section paths

variable {use32bit : Bool} (he : e ≤ buf.length)
include he

lemma readAs_inside (hp : p + asValueSize use32bit ≤ e) : Inside buf e p (readAs use32bit) fun as q =>
    (use32bit = false → ∃ a b, buf[p]? = some a ∧ buf[p + 1]? = some b ∧ as = (word a b).toUInt32) ∧
      q = p + asValueSize use32bit := by
  cases use32bit with
  | true => exact (inside_getl he hp).mono fun _ _ h => ⟨nofun, h.2⟩
  | false =>
    refine (inside_getw he hp).bind_at fun as has hq => .pure hq ⟨fun _ => ?_, rfl⟩
    obtain ⟨a, b, ha, hb, rfl⟩ := has
    exact ⟨a, b, ha, hb, rfl⟩

lemma readAses_inside {n : Nat} (hp : p + n * asValueSize use32bit ≤ e) :
    Inside buf e p (readAses use32bit n) fun _ q => q = p + n * asValueSize use32bit := by
  induction n generalizing p with
  | zero => exact .pure (by simpa using hp) (by simp)
  | succ n ih =>
    rw [Nat.succ_mul] at hp ⊢
    refine (readAs_inside he (by omega)).bind_at fun as _ _ => ?_
    refine (ih (by omega)).bind_to fun ases hq => ?_
    exact .pure hq (by omega)

omit he in
lemma segmentsFit_short {n : Nat} {l : List UInt8} (hne : l ≠ []) (hl : l.length ≤ 2) :
    segmentsFit use32bit n l = false := by
  obtain _ | n := n
  · cases l with
    | nil => exact absurd rfl hne
    | cons => simp [segmentsFit]
  match l, hne with
  | [_], _ => simp [segmentsFit]
  | [_, num], _ =>
    have hpos : 0 < asValueSize use32bit := by cases use32bit <;> decide
    by_cases hnum : num = 0
    · simp [segmentsFit, hnum]
    · have : 0 < num.toNat := Nat.pos_of_ne_zero fun hz => hnum (UInt8.toNat_inj.mp hz)
      simp [segmentsFit, hnum, (Nat.mul_pos this hpos).ne']

/-- The induction is on the fuel of the loop; `n`, the fuel of the grammar, only has to be enough. -/
lemma assegmentsLoop_inside {bytes fuel n : Nat} {segs : AsPath} (hp : p + (length - bytes) = e)
    (hfuel : length - bytes < fuel) (hn : length - bytes ≤ n) :
    Inside buf e p (assegmentsLoop length use32bit fuel bytes segs) fun r q =>
      (r.isSome ↔ segmentsFit use32bit n ((buf.drop p).take (length - bytes))) ∧ (r.isSome → q = e) := by
  induction fuel generalizing p bytes segs n with
  | zero => omega
  | succ fuel ih =>
    rw [assegmentsLoop]
    by_cases hmore : bytes < length
    · rw [if_pos hmore]
      by_cases hheader : length - bytes ≤ asHeaderSize
      · rw [if_pos hheader]
        have hlen : ((buf.drop p).take (length - bytes)).length = length - bytes := length_take_drop (by omega)
        have hshort : segmentsFit use32bit n ((buf.drop p).take (length - bytes)) = false := by
          refine segmentsFit_short ?_ (hlen.trans_le hheader)
          rw [← List.length_pos_iff]
          omega
        exact .pure (by omega) ⟨by simp [hshort], nofun⟩
      rw [if_neg hheader]
      rw [asHeaderSize] at hheader
      refine (inside_getc he (by omega)).bind_at fun type htype _ => ?_
      refine (inside_getc he (by omega)).bind_at fun num hnum hq => ?_
      simp only
      obtain ⟨k, hk⟩ : ∃ k, length - bytes = k + 1 + 1 := ⟨length - bytes - 2, by omega⟩
      obtain ⟨n, rfl⟩ : ∃ m, n = m + 1 := ⟨n - 1, by omega⟩
      have hrest : ((buf.drop (p + 1 + 1)).take k).length = k := length_take_drop (by omega)
      rw [hk, take_drop_cons htype, take_drop_cons hnum, segmentsFit, hrest]
      by_cases hsize : bytes + (asHeaderSize + num.toNat * asValueSize use32bit) > length ∨ num = 0
      · rw [if_pos hsize]
        refine .pure hq ⟨?_, nofun⟩
        rw [asHeaderSize] at hsize
        obtain hsize | rfl := hsize
        · have hover : ¬num.toNat * asValueSize use32bit ≤ k := by omega
          simp [hover]
        · simp
      rw [if_neg hsize]
      cases htype : segmentType type with
      | none => exact .pure hq ⟨by simp, nofun⟩
      | some type =>
        rw [not_or, asHeaderSize] at hsize
        obtain ⟨c, hc⟩ : ∃ c, num.toNat = c + 1 := by
          refine ⟨num.toNat - 1, ?_⟩
          have : num.toNat ≠ 0 := fun hz => hsize.2 (UInt8.toNat_inj.mp hz)
          omega
        have hfit : num.toNat * asValueSize use32bit ≤ k := by omega
        have hwidth : num.toNat * asValueSize use32bit = c * asValueSize use32bit + asValueSize use32bit := by
          rw [hc, Nat.succ_mul]
        simp only [Option.isSome_some, Bool.true_and, hsize.2, ne_eq, not_false_eq_true, decide_true, hfit,
          show num.toNat - 1 = c by omega]
        refine (readAs_inside he (by omega)).bind_at fun first _ _ => ?_
        refine (readAses_inside he (by omega)).bind_to fun rest _ => ?_
        have hnext : k - num.toNat * asValueSize use32bit =
            length - (bytes + (asHeaderSize + num.toNat * asValueSize use32bit)) := by
          rw [asHeaderSize]
          omega
        have hpos : p + 1 + 1 + asValueSize use32bit + c * asValueSize use32bit =
            p + 1 + 1 + num.toNat * asValueSize use32bit := by
          omega
        rw [hpos, List.drop_take, List.drop_drop, hnext]
        exact ih (by omega) (by omega) (by omega)
    · rw [if_neg hmore]
      have hzero : length - bytes = 0 := by omega
      rw [hzero, List.take_zero]
      exact .pure (by omega) ⟨by simp [segmentsFit], fun _ => by omega⟩

omit he in
lemma segmentsFit_even {n : Nat} {l : List UInt8} (h : segmentsFit use32bit n l) : l.length % 2 = 0 := by
  fun_induction segmentsFit use32bit n l with
  | case1 => rfl
  | case2 fuel type num l ih =>
    simp only [Bool.and_eq_true, decide_eq_true_eq] at h
    have heven : num.toNat * asValueSize use32bit % 2 = 0 := by
      cases use32bit
      · exact Nat.mul_mod_left _ 2
      · rw [Nat.mul_mod]
        rfl
    have := ih h.2
    rw [List.length_drop] at this
    simp only [List.length_cons]
    omega
  | case3 => cases h

lemma aspathParse_inside (hp : p + length = e) : Inside buf e p (aspathParse length use32bit) fun r q =>
    (r.isSome ↔ segmentsFit use32bit length ((buf.drop p).take length)) ∧ (r.isSome → q = e) := by
  have hlen : ((buf.drop p).take length).length = length := length_take_drop (by omega)
  unfold aspathParse
  by_cases hodd : length % 2 ≠ 0
  · rw [if_pos hodd]
    refine .pure (by omega) ⟨⟨nofun, fun hfit => absurd ?_ hodd⟩, nofun⟩
    rw [← hlen]
    exact segmentsFit_even hfit
  rw [if_neg hodd]
  refine bind (R := fun r q => (r.isSome ↔ segmentsFit use32bit length ((buf.drop p).take length)) ∧ (r.isSome → q = e))
    ?_ fun r q hq hr => .pure hq (by simpa using hr)
  unfold assegmentsParse
  by_cases hzero : length = 0
  · rw [if_pos hzero, hzero, List.take_zero]
    exact .pure (by omega) ⟨by simp [segmentsFit], fun _ => by omega⟩
  rw [if_neg hzero]
  refine (enough he (le_of_eq hp)).bind_eq fun _ => ?_
  refine (enough he (by rw [asHeaderSize]; omega)).bind_eq fun hq => ?_
  simp only [Bool.not_true, Bool.false_or, decide_eq_true_eq, if_neg hodd]
  exact assegmentsLoop_inside he (by omega) (by omega) (by omega)

end paths

section simple

/-- The outcome of a handler of an attribute that is about nothing which the others depend on. -/
structure Simple (peer : AttrPeer) (type : AttrType) (wf : Prop) (st : AttrState) (e : Nat) (r : ParseRet × AttrState)
    (q : Nat) : Prop where
  framed : Framed type st r.2
  proceed : r.1 = .proceed ↔ wf ∨ type.Tolerated peer
  ended : r.1 ≠ .error → q = e
  flag : type.flagged → (r.2.attr.flag type ↔ wf ∨ st.attr.flag type)
  withdraw : r.1 ≠ .withdraw

lemma malformed_simple (h : ArgsAt buf args e p) (htype : attrType args.type = type)
    (hnot : type ≠ .as4Path ∧ type ≠ .unknown) (hq : q ≤ e) (hlength : length ≤ args.total)
    (hframed : Framed type st st') (hflag : st'.attr.flag = st.attr.flag) (hwf : ¬wf) :
    Inside buf e q (bgpAttrMalformed peer args subcode length st') (Simple peer type wf st e) := by
  refine (bgpAttrMalformed_inside h hq hlength).mono ?_
  rintro ⟨ret, st''⟩ q' ⟨⟨n, rfl⟩, hended, hwithdraw, hproceed⟩
  rw [htype] at hproceed hwithdraw
  refine ⟨hframed.notify n, by simpa [hwf] using hproceed, hended, fun _ => ?_, fun hret => ?_⟩
  · change st'.attr.flag type ↔ _
    simp [hwf, hflag]
  · exact (hwithdraw hret).1.elim hnot.1 hnot.2

lemma framed_attr (haspath : attr.aspath = st.attr.aspath)
    (hflag : ∀ t, t ≠ type → attr.flag t = st.attr.flag t)
    (hextra : st.attr.extra.isSome → attr.extra.isSome)
    (has : type ≠ .aggregator → attr.extraGet.aggregatorAs = st.attr.extraGet.aggregatorAs) :
    Framed type st { st with attr := attr } :=
  ⟨fun _ => haspath, fun _ => rfl, fun _ _ => rfl, hflag, hextra, has, fun _ => rfl, fun _ => rfl⟩

lemma setFlag_self : (st.setFlag type).attr.flag type := Function.update_self _ _ _

lemma Framed.setFlag (h : Framed type st st') : Framed type st (st'.setFlag type) :=
  { h with flag := fun t ht => (Function.update_of_ne ht _ _).trans (h.flag t ht) }

lemma Simple.set (h : Framed type st st') (hwf : wf) (hq : q = e) :
    Simple peer type wf st e (.proceed, st'.setFlag type) q :=
  ⟨h.setFlag, by simp [hwf], fun _ => hq, fun _ => by simp [hwf, setFlag_self], nofun⟩

lemma Simple.pass (htype : type.flagged = false) (h : Framed type st st') (hwf : wf) (hq : q = e) :
    Simple peer type wf st e (.proceed, st') q :=
  ⟨h, by simp [hwf], fun _ => hq, by simp [htype], nofun⟩

lemma checked_inside (h : ArgsAt buf args e p) (htype : attrType args.type = type)
    (hnot : type ≠ .as4Path ∧ type ≠ .unknown) (hq : q ≤ e) (hlength : length ≤ args.total)
    (hframed : Framed type st st') (hflag : st'.attr.flag = st.attr.flag) [Decidable bad] (hwf : wf → ¬bad)
    (hbody : ¬bad → Inside buf e q body (Simple peer type wf st e)) :
    Inside buf e q (if bad then bgpAttrMalformed peer args subcode length st' else body) (Simple peer type wf st e) := by
  by_cases hbad : bad
  · rw [if_pos hbad]
    exact malformed_simple h htype hnot hq hlength hframed hflag fun h => hwf h hbad
  · rw [if_neg hbad]
    exact hbody hbad

lemma framed_same : Framed type st st := framed_notify st.notify

lemma framed_extra (f : AttrExtra → AttrExtra) (has : ∀ e, type ≠ .aggregator → (f e).aggregatorAs = e.aggregatorAs) :
    Framed type st { st with attr := st.attr.setExtra f } :=
  framed_attr rfl (fun _ _ => rfl) (fun _ => rfl) (has _)

variable (h : ArgsAt buf args e p)
include h

lemma ArgsAt.le : p ≤ e := by
  have := h.value
  omega

lemma ArgsAt.length_value : ((buf.drop p).take args.length).length = args.length := by
  have := h.value
  have := h.inBuf
  exact length_take_drop (by omega)

lemma bgpAttrOrigin_inside (htype : attrType args.type = .origin) :
    Inside buf e p (bgpAttrOrigin peer args st)
      (Simple peer .origin ((buf.drop p).take args.length ∈ [[0], [1], [2]]) st e) := by
  have hlen := h.length_value
  refine checked_inside h htype ⟨nofun, nofun⟩ h.le .refl framed_same rfl (fun hmem hne => hne ?_) fun hone => ?_
  · rw [← hlen]
    simp only [List.mem_cons, List.not_mem_nil, or_false] at hmem
    obtain hv | hv | hv := hmem <;> rw [hv] <;> rfl
  have hvalue := h.value
  rw [not_not.mp hone] at hvalue ⊢
  refine (inside_getc h.inBuf (by omega)).bind_at fun origin horigin hq => ?_
  have hframed : Framed .origin st { st with attr := { st.attr with origin := origin } } :=
    framed_attr rfl (fun _ _ => rfl) id fun _ => rfl
  have hmem : (buf.drop p).take 1 ∈ [[0], [1], [2]] ↔ ¬(origin ≠ 0 ∧ origin ≠ 1 ∧ origin ≠ 2) := by
    rw [take_drop_cons horigin, List.take_zero]
    simp only [List.mem_cons, List.cons.injEq, and_true, List.not_mem_nil, or_false]
    tauto
  exact checked_inside h htype ⟨nofun, nofun⟩ hq .refl hframed rfl hmem.mp
    fun hok => .pure hq (.set hframed (hmem.mpr hok) hvalue)

lemma bgpAttrNexthop_inside (htype : attrType args.type = .nextHop) :
    Inside buf e p (bgpAttrNexthop peer args st)
      (Simple peer .nextHop (args.length = 4 ∧ ¬martian (longOf ((buf.drop p).take args.length))) st e) := by
  refine checked_inside h htype ⟨nofun, nofun⟩ h.le .refl framed_same rfl (fun hwf hne => hne hwf.1) fun hlen => ?_
  have hvalue := h.value
  rw [not_not.mp hlen] at hvalue ⊢
  refine (inside_getl h.inBuf (by omega)).bind_at fun nexthop hnexthop hq => ?_
  obtain ⟨a, b, c, d, hbytes, rfl⟩ := hnexthop
  rw [hbytes]
  refine checked_inside h htype ⟨nofun, nofun⟩ hq .refl framed_same rfl And.right fun hok => ?_
  exact .pure hq (.set (framed_attr rfl (fun _ _ => rfl) id fun _ => rfl) ⟨rfl, hok⟩ hvalue)

lemma bgpAttrMed_inside (htype : attrType args.type = .multiExitDisc) :
    Inside buf e p (bgpAttrMed peer args st) (Simple peer .multiExitDisc (args.length = 4) st e) := by
  refine checked_inside h htype ⟨nofun, nofun⟩ h.le .refl framed_same rfl not_not.mpr fun hlen => ?_
  have hvalue := h.value
  refine (inside_getl h.inBuf (by omega)).bind_at fun med _ hq => ?_
  exact .pure hq (.set (framed_attr rfl (fun _ _ => rfl) id fun _ => rfl) (not_not.mp hlen) (by omega))

lemma bgpAttrLocalPref_inside (htype : attrType args.type = .localPref) :
    Inside buf e p (bgpAttrLocalPref peer args st) (Simple peer .localPref (args.length = 4) st e) := by
  refine checked_inside h htype ⟨nofun, nofun⟩ h.le .refl framed_same rfl not_not.mpr fun hlen => ?_
  have hvalue := h.value
  split_ifs
  · refine (inside_forward h.inBuf (le_of_eq h.value)).bind_to fun _ hq => ?_
    exact .pure hq (.pass rfl framed_same (not_not.mp hlen) hvalue)
  · refine (inside_getl h.inBuf (by omega)).bind_at fun localPref _ hq => ?_
    exact .pure hq (.set (framed_attr rfl (fun _ _ => rfl) id fun _ => rfl) (not_not.mp hlen) (by omega))

lemma bgpAttrAtomic_inside (htype : attrType args.type = .atomicAggregate) :
    Inside buf e p (bgpAttrAtomic peer args st) (Simple peer .atomicAggregate (args.length = 0) st e) := by
  refine checked_inside h htype ⟨nofun, nofun⟩ h.le .refl framed_same rfl not_not.mpr fun hlen => ?_
  have hvalue := h.value
  exact .pure h.le (.set framed_same (not_not.mp hlen) (by omega))

lemma bgpAttrAggregator_inside (htype : attrType args.type = .aggregator) :
    Inside buf e p (bgpAttrAggregator peer args st) fun r q =>
      Simple peer .aggregator (args.length = if peer.as4Rcv then 8 else 6) st e r q ∧
      ((args.length = if peer.as4Rcv then 8 else 6) → r.2.attr.extra.isSome ∧ (peer.as4Rcv = false →
        r.2.attr.extraGet.aggregatorAs = shortAggregatorAs ((buf.drop p).take args.length))) := by
  have hframed : Framed .aggregator st { st with attr := st.attr.setExtra id } := framed_extra id fun _ _ => rfl
  unfold bgpAttrAggregator
  simp only
  by_cases hlen : args.length = if peer.as4Rcv then 8 else 6
  · rw [if_neg (not_not.mpr hlen)]
    have hsize : asValueSize peer.as4Rcv + 4 = args.length := by
      rw [hlen, asValueSize]
      split_ifs <;> rfl
    have hvalue := h.value
    refine (readAs_inside h.inBuf (by omega)).bind_at fun as has _ => ?_
    refine (inside_getl h.inBuf (by omega)).bind_at fun addr _ hq => ?_
    refine .pure hq ⟨.set ⟨fun _ => rfl, fun _ => rfl, fun _ _ => rfl, fun _ _ => rfl, fun _ => rfl, fun h => absurd rfl h,
      fun _ => rfl, fun _ => rfl⟩ hlen (by omega), fun _ => ⟨rfl, fun hshort => ?_⟩⟩
    obtain ⟨a, b, ha, hb, rfl⟩ := has hshort
    obtain ⟨k, hk⟩ : ∃ k, args.length = k + 1 + 1 := ⟨args.length - 2, by omega⟩
    rw [hk, take_drop_cons ha, take_drop_cons hb]
    rfl
  · rw [if_pos hlen]
    exact (malformed_simple h htype ⟨nofun, nofun⟩ h.le .refl hframed rfl hlen).mono
      fun _ _ hr => ⟨hr, fun h => absurd h hlen⟩

lemma bgpAttrAs4Aggregator_inside (htype : attrType args.type = .as4Aggregator) :
    Inside buf e p (bgpAttrAs4Aggregator peer args st) (Simple peer .as4Aggregator (args.length = 8) st e) := by
  refine checked_inside h htype ⟨nofun, nofun⟩ h.le (Nat.zero_le _) framed_same rfl not_not.mpr fun hlen => ?_
  have hvalue := h.value
  refine (inside_getl h.inBuf (by omega)).bind_at fun as _ _ => ?_
  refine (inside_getl h.inBuf (by omega)).bind_at fun addr _ hq => ?_
  exact .pure hq (.set ⟨fun _ => rfl, fun _ => rfl, fun _ _ => rfl, fun _ _ => rfl, id, fun _ => rfl, fun _ => rfl,
    fun _ => rfl⟩ (not_not.mp hlen) (by omega))

lemma bgpAttrCommunity_inside (htype : attrType args.type = .communities) :
    Inside buf e p (bgpAttrCommunity peer args st) (Simple peer .communities (args.length % 4 = 0) st e) := by
  have hvalue := h.value
  unfold bgpAttrCommunity
  split_ifs with hzero
  · exact .pure h.le (.pass rfl (framed_attr rfl (fun _ _ => rfl) id fun _ => rfl) (by omega) (by omega))
  refine (take h.inBuf (le_of_eq h.value)).bind_at fun data hdata hq => ?_
  have hframed : Framed .communities st { st with attr := { st.attr with community := communityParse data } } :=
    framed_attr rfl (fun _ _ => rfl) id fun _ => rfl
  have hparse : args.length % 4 = 0 ↔ ¬(communityParse data).isNone := by
    rw [communityParse, hdata, h.length_value]
    by_cases h4 : args.length % 4 = 0 <;> simp [h4]
  exact checked_inside h htype ⟨nofun, nofun⟩ hq .refl hframed rfl hparse.mp
    fun hok => .pure hq (.set hframed (hparse.mpr hok) hvalue)

lemma bgpAttrOriginatorId_inside (htype : attrType args.type = .originatorId) :
    Inside buf e p (bgpAttrOriginatorId peer args st) (Simple peer .originatorId (args.length = 4) st e) := by
  refine checked_inside h htype ⟨nofun, nofun⟩ h.le .refl framed_same rfl not_not.mpr fun hlen => ?_
  have hvalue := h.value
  refine (inside_getl h.inBuf (by omega)).bind_at fun id _ hq => ?_
  exact .pure hq (.set (framed_extra _ fun _ _ => rfl) (not_not.mp hlen) (by omega))

lemma bgpAttrClusterList_inside (htype : attrType args.type = .clusterList) :
    Inside buf e p (bgpAttrClusterList peer args st) (Simple peer .clusterList (args.length % 4 = 0) st e) := by
  refine checked_inside h htype ⟨nofun, nofun⟩ h.le .refl framed_same rfl not_not.mpr fun hlen => ?_
  refine (take h.inBuf (le_of_eq h.value)).bind_eq fun hq => ?_
  exact .pure hq (.set (framed_extra _ fun _ _ => rfl) (not_not.mp hlen) h.value)

lemma bgpAttrExtCommunities_inside (htype : attrType args.type = .extCommunities) :
    Inside buf e p (bgpAttrExtCommunities peer args st) (Simple peer .extCommunities (args.length % 8 = 0) st e) := by
  have hvalue := h.value
  unfold bgpAttrExtCommunities
  split_ifs with hzero
  · refine .pure h.le (.pass rfl (framed_attr rfl (fun _ _ => rfl) (by simp) fun _ => ?_) (by omega) (by omega))
    cases hextra : st.attr.extra <;> simp [UpdateAttr.extraGet, hextra]
  refine (take h.inBuf (le_of_eq h.value)).bind_at fun data hdata hq => ?_
  have hframed : Framed .extCommunities st
      { st with attr := st.attr.setExtra fun e => { e with ecommunity := ecommunityParse data } } :=
    framed_extra _ fun _ _ => rfl
  have hparse : args.length % 8 = 0 ↔ ¬(ecommunityParse data).isNone := by
    rw [ecommunityParse, hdata, h.length_value]
    by_cases h8 : args.length % 8 = 0 <;> simp [h8]
  exact checked_inside h htype ⟨nofun, nofun⟩ hq .refl hframed rfl hparse.mp
    fun hok => .pure hq (.set hframed (hparse.mpr hok) hvalue)

end simple

section other

lemma mpNexthop_inside (he : e ≤ buf.length) {len : Nat} (hp : p + len ≤ e) :
    Inside buf e p (mpNexthop st len) fun r q => (r.isSome ↔ len ∈ [4, 12, 16, 32]) ∧ ∀ st', r = some st' →
      q = p + len ∧ Framed .mpReachNlri st st' := by
  unfold mpNexthop
  split
  · refine (take he hp).bind_at fun addr _ hq => ?_
    refine .pure hq ⟨by simp, ?_⟩
    rintro st' ⟨⟩
    split_ifs
    · exact ⟨rfl, framed_attr rfl (fun _ _ => rfl) (fun _ => rfl) fun _ => rfl⟩
    · exact ⟨rfl, framed_extra _ fun _ _ => rfl⟩
  · refine (inside_getl he (by omega)).bind_at fun _ _ _ => ?_
    refine (inside_getl he (by omega)).bind_at fun _ _ _ => ?_
    refine (take he (by omega)).bind_at fun addr _ hq => ?_
    refine .pure hq ⟨by simp, ?_⟩
    rintro st' ⟨⟩
    exact ⟨rfl, framed_extra _ fun _ _ => rfl⟩
  · refine (take he hp).bind_at fun addr _ hq => ?_
    refine .pure hq ⟨by simp, ?_⟩
    rintro st' ⟨⟩
    exact ⟨rfl, framed_extra _ fun _ _ => rfl⟩
  · refine (take he (by omega)).bind_at fun addr _ _ => ?_
    refine (take he (by omega)).bind_at fun loc _ hq => ?_
    refine .pure hq ⟨by simp, ?_⟩
    rintro st' ⟨⟩
    exact ⟨rfl, framed_extra _ fun _ _ => rfl⟩
  · rename_i h4 h12 h16 h32
    refine .pure (by omega) ⟨?_, nofun⟩
    simp only [Option.isSome_none, Bool.false_eq_true, false_iff, List.mem_cons, List.not_mem_nil, or_false, not_or]
    exact ⟨h4, h12, h16, h32⟩

lemma Framed.trans {st1 st2 st3 : AttrState} (h1 : Framed type st1 st2) (h2 : Framed type st2 st3) :
    Framed type st1 st3 where
  aspath ht := (h2.aspath ht).trans (h1.aspath ht)
  as4Path ht := (h2.as4Path ht).trans (h1.as4Path ht)
  ashash ht ht' := (h2.ashash ht ht').trans (h1.ashash ht ht')
  flag t ht := (h2.flag t ht).trans (h1.flag t ht)
  extra hx := h2.extra (h1.extra hx)
  aggregatorAs ht := (h2.aggregatorAs ht).trans (h1.aggregatorAs ht)
  mpUpdate ht := (h2.mpUpdate ht).trans (h1.mpUpdate ht)
  mpWithdraw ht := (h2.mpWithdraw ht).trans (h1.mpWithdraw ht)

section mp

variable {right : Prop} (hmp : attrType a.type = .mpReachNlri ∨ attrType a.type = .mpUnreachNlri)
include hmp

lemma Handled.mpError (hright : ¬right) (hf : Framed (attrType a.type) st st') :
    Handled peer a right st e (.error, st') q := by
  obtain ht | ht := hmp
  all_goals
    exact ⟨hf, by simp [hright, ht, AttrType.Tolerated], absurd rfl, by simp [ht, AttrType.flagged, AttrType.wellKnown],
      by simp [ht], by simp [ht], by simp [ht], nofun, nofun, nofun⟩

lemma Handled.mpDone (hright : right) (hf : Framed (attrType a.type) st st') (hq : q = e)
    (hreach : attrType a.type = .mpReachNlri → st'.mpUpdate = reachNlri a.value)
    (hunreach : attrType a.type = .mpUnreachNlri → st'.mpWithdraw = unreachNlri a.value) :
    Handled peer a right st e (.proceed, st') q := by
  have hnot : attrType a.type ≠ .asPath ∧ attrType a.type ≠ .as4Path ∧ attrType a.type ≠ .aggregator ∧
      (attrType a.type).flagged = false := by
    obtain ht | ht := hmp <;> simp [ht, AttrType.flagged, AttrType.wellKnown]
  exact ⟨hf, by simp [hright], fun _ => hq, by simp [hnot.2.2.2], fun h => absurd h hnot.1, fun h => absurd h hnot.2.1,
    fun h => absurd h hnot.2.2.1, fun h _ => hreach h, fun h _ => hunreach h, nofun⟩

lemma mpChecked_inside (hq : q ≤ e) [Decidable bad] (hf : Framed (attrType a.type) st st') (hright : right → ¬bad)
    (hbody : ¬bad → Inside buf e q body (Handled peer a right st e)) :
    Inside buf e q (if bad then return (.error, st') else body) (Handled peer a right st e) := by
  split_ifs with hbad
  · exact .pure hq (.mpError hmp (fun h => hright h hbad) hf)
  · exact hbody hbad

end mp

lemma Simple.handled (htype : attrType a.type = type)
    (hnot : type ≠ .asPath ∧ type ≠ .as4Path ∧ type ≠ .aggregator ∧ type ≠ .mpReachNlri ∧ type ≠ .mpUnreachNlri)
    {m : Parse (ParseRet × AttrState)} (h : Inside buf e p m (Simple peer type wf st e)) :
    Inside buf e p m (Handled peer a wf st e) := by
  subst htype
  exact h.mono fun _ _ hs => ⟨hs.framed, hs.proceed, hs.ended, hs.flag, fun h => absurd h hnot.1,
    fun h => absurd h hnot.2.1, fun h => absurd h hnot.2.2.1, fun h => absurd h hnot.2.2.2.1,
    fun h => absurd h hnot.2.2.2.2, fun h => absurd h hs.withdraw⟩

variable (h : ArgsAt buf args e p)
include h

omit h in
/-- The attribute is not well-formed, and its handler has changed nothing that counts. -/
lemma Malformed.handled {right : Prop} {r : ParseRet × AttrState} (h : Malformed peer args st' e r q)
    (htype : args.type = a.type) (hknown : attrType a.type ≠ .unknown) (hright : ¬right)
    (hf : Framed (attrType a.type) st st') (hflag : st'.attr.flag = st.attr.flag) (hashash : st'.ashash = st.ashash)
    (haspath : st'.attr.aspath = none ∨ st'.attr.aspath = st.attr.aspath)
    (has4 : st'.as4Path = none ∨ st'.as4Path = st.as4Path) : Handled peer a right st e r q := by
  obtain ⟨⟨n, hn⟩, hended, hwithdraw, hproceed⟩ := h
  rw [htype] at hwithdraw hproceed
  have hnot (t : AttrType) (ht : attrType a.type = t) (hother : ¬t.Tolerated peer) : r.1 ≠ .proceed :=
    fun hret => hother (ht ▸ hproceed.mp hret)
  have hmp (t : AttrType) (hother : ¬t.Tolerated peer) {P : Prop} (ht : attrType a.type = t) (hret : r.1 = .proceed) : P :=
    absurd hret (hnot t ht hother)
  refine ⟨hn ▸ hf.notify n, by simpa [hright] using hproceed, hended, fun _ => ?_, fun ht => ?_, fun ht => ?_,
    fun _ h => absurd h hright, hmp _ (by simp [AttrType.Tolerated]), hmp _ (by simp [AttrType.Tolerated]), fun hret => ?_⟩
  · rw [hn]
    change st'.attr.flag _ ↔ _
    simp [hright, hflag]
  · rw [hn]
    exact .inl ⟨haspath, hashash, hnot _ ht (by simp [AttrType.Tolerated])⟩
  · rw [hn]
    exact .inl ⟨has4, hashash, hnot _ ht (by simp [AttrType.Tolerated])⟩
  · obtain ⟨htype, -, hsort⟩ := hwithdraw hret
    exact ⟨htype.resolve_right hknown, hsort⟩

lemma bgpAttrAspath_inside (htype : args.type = a.type) (ha : attrType a.type = .asPath) :
    Inside buf e p (bgpAttrAspath peer args st)
      (Handled peer a (segmentsFit peer.as4Rcv args.length ((buf.drop p).take args.length)) st e) := by
  refine (aspathParse_inside h.inBuf h.value).bind fun aspath q hq hparse => ?_
  have hframed (t : AsTable) : Framed (attrType a.type) st
      { st with attr := { st.attr with aspath := aspath }, ashash := t } :=
    ⟨absurd ha, fun _ => rfl, absurd ha, fun _ _ => rfl, id, fun _ => rfl, fun _ => rfl, fun _ => rfl⟩
  obtain ⟨hfit, hended⟩ := hparse
  cases aspath with
  | none =>
    exact (bgpAttrMalformed_inside h hq (Nat.zero_le _)).mono fun r q' hr => hr.handled htype (by simp [ha])
      (fun hs => Bool.false_ne_true (hfit.mpr hs)) (hframed _) rfl rfl (.inl rfl) (.inr rfl)
  | some x =>
    have hfits := hfit.mp rfl
    refine .pure hq ⟨?_, by simp [hfits], fun _ => hended rfl, fun _ => ?_, fun _ => .inr ⟨x, rfl, rfl, rfl⟩,
      by simp [ha], by simp [ha], by simp [ha], by simp [ha], nofun⟩
    · rw [← ha]
      exact (hframed _).setFlag
    · rw [ha]
      simp [hfits, setFlag_self]

lemma bgpAttrAs4Path_inside (htype : args.type = a.type) (ha : attrType a.type = .as4Path) :
    Inside buf e p (bgpAttrAs4Path peer args st)
      (Handled peer a (segmentsFit true args.length ((buf.drop p).take args.length)) st e) := by
  refine (aspathParse_inside h.inBuf h.value).bind fun aspath q hq hparse => ?_
  have hframed (t : AsTable) : Framed (attrType a.type) st { st with as4Path := aspath, ashash := t } :=
    ⟨fun _ => rfl, absurd ha, fun _ h => absurd ha h, fun _ _ => rfl, id, fun _ => rfl, fun _ => rfl, fun _ => rfl⟩
  obtain ⟨hfit, hended⟩ := hparse
  cases aspath with
  | none =>
    exact (bgpAttrMalformed_inside h hq (Nat.zero_le _)).mono fun r q' hr => hr.handled htype (by simp [ha])
      (fun hs => Bool.false_ne_true (hfit.mpr hs)) (hframed _) rfl rfl (.inr rfl) (.inl rfl)
  | some x =>
    have hfits := hfit.mp rfl
    refine .pure hq ⟨?_, by simp [hfits], fun _ => hended rfl, fun _ => ?_, by simp [ha],
      fun _ => .inr ⟨x, rfl, rfl, rfl⟩, by simp [ha], by simp [ha], by simp [ha], nofun⟩
    · rw [← ha]
      exact (hframed _).setFlag
    · rw [ha]
      simp [hfits, setFlag_self]

omit h in
lemma length_of_reachFits (h : reachFits value) : 5 < value.length := by
  unfold reachFits at h
  split at h
  · simp only [decide_eq_true_eq] at h
    simp only [List.length_cons]
    omega
  · cases h

lemma bgpMpReachParse_inside (ha : attrType a.type = .mpReachNlri) (hvalue : (buf.drop p).take args.length = a.value) :
    Inside buf e p (bgpMpReachParse args st) (Handled peer a (reachFits a.value) st e) := by
  have he := h.inBuf
  have hp := h.value
  have hlen := h.length_value
  rw [hvalue] at hlen
  refine (pos he h.le).bind_eq fun _ => ?_
  refine (enough he (le_of_eq hp)).bind_eq fun hq => ?_
  simp only [Bool.not_true, Bool.false_or, decide_eq_true_eq]
  refine mpChecked_inside (.inl ha) hq (framed_extra id fun _ _ => rfl) (fun hfit => ?_) fun hmin => ?_
  · have := length_of_reachFits hfit
    omega
  refine (inside_getw he (by omega)).bind ?_
  rintro afi q - ⟨⟨x, y, hx, hy, rfl⟩, rfl⟩
  refine (inside_getc he (by omega)).bind_at fun safi hsafi _ => ?_
  refine (inside_getc he (by omega)).bind_at fun len hlength hq => ?_
  refine (pos he hq).bind_eq fun hq => ?_
  obtain ⟨k, hk⟩ : ∃ k, args.length = k + 1 + 1 + 1 + 1 := ⟨args.length - 4, by omega⟩
  have hrest : ((buf.drop (p + 2 + 1 + 1)).take k).length = k := length_take_drop (by omega)
  have hsplit : a.value = x :: y :: safi :: len :: (buf.drop (p + 2 + 1 + 1)).take k := by
    rw [← hvalue, hk, take_drop_cons hx, take_drop_cons hy, take_drop_cons hsafi, take_drop_cons hlength]
  have hfits : reachFits a.value ↔ len.toNat ∈ [4, 12, 16, 32] ∧ len.toNat + 1 < k ∧ nlriFits (reachNlri a.value) := by
    rw [hsplit, reachFits, decide_eq_true_eq, hrest]
  set st1 : AttrState := { st with attr := (st.attr.setExtra id).setExtra fun e => { e with mpNexthopLen := len.toNat } }
  have hst1 : Framed (attrType a.type) st st1 := framed_attr rfl (fun _ _ => rfl) (fun _ => rfl) fun _ => rfl
  refine mpChecked_inside (.inl ha) hq hst1 (fun hfit => ?_) fun hnexthop => ?_
  · have := (hfits.mp hfit).2.1
    omega
  refine (mpNexthop_inside he (by omega)).bind fun r q hq hr => ?_
  obtain ⟨hmem, hr⟩ := hr
  cases r with
  | none => exact .pure hq (.mpError (.inl ha) (fun hfit => Bool.false_ne_true (hmem.mpr (hfits.mp hfit).1)) hst1)
  | some st2 =>
    obtain ⟨rfl, hst2⟩ := hr st2 rfl
    have hframed : Framed (attrType a.type) st st2 := hst1.trans (ha ▸ hst2)
    refine (pos he hq).bind_eq fun hq => ?_
    refine mpChecked_inside (.inl ha) hq hframed (fun hfit => ?_) fun hzero => ?_
    · have := (hfits.mp hfit).2.1
      omega
    refine (inside_getc he (by omega)).bind_at fun snpa _ hq => ?_
    refine (pos he hq).bind_eq fun hq => ?_
    set nlriLen := args.length - (p + 2 + 1 + 1 + len.toNat + 1 - p) with hnlri
    refine (enough (n := nlriLen) he (by omega)).bind_eq fun hq => ?_
    simp only [Bool.not_true, Bool.or_false, decide_eq_true_eq]
    refine mpChecked_inside (.inl ha) hq hframed (fun hfit => ?_) fun hempty => ?_
    · have := (hfits.mp hfit).2.1
      omega
    refine (slice he hq (by omega)).bind_eq fun hq => ?_
    have hbytes : reachNlri a.value = ⟨word x y, safi, (buf.drop (p + 2 + 1 + 1 + len.toNat + 1)).take nlriLen⟩ := by
      rw [hsplit, reachNlri, List.drop_take, List.drop_drop, ← Nat.add_assoc, show k - (len.toNat + 1) = nlriLen by omega]
    have hsane : nlriFits (reachNlri a.value) ↔ ¬(safi ≠ safiMplsLabeledVpn ∧ ¬bgpNlriSanityCheck (word x y) nlriLen
        ((buf.drop (p + 2 + 1 + 1 + len.toNat + 1)).take nlriLen)) := by
      have hlast : ((buf.drop (p + 2 + 1 + 1 + len.toNat + 1)).take nlriLen).length = nlriLen :=
        length_take_drop (by omega)
      rw [hbytes, nlriFits, decide_eq_true_eq, hlast]
      tauto
    refine mpChecked_inside (.inl ha) hq (hframed.notify _) (fun hfit => hsane.mp (hfits.mp hfit).2.2) fun hok => ?_
    refine (inside_forward he (by omega)).bind_to fun _ hq => ?_
    refine .pure hq (.mpDone (.inl ha) (hfits.mpr ⟨hmem.mp rfl, by omega, hsane.mpr hok⟩) ?_ (by omega)
      (fun _ => hbytes.symm) (by simp [ha]))
    exact { hframed with mpUpdate := absurd ha }

lemma bgpMpUnreachParse_inside (ha : attrType a.type = .mpUnreachNlri)
    (hvalue : (buf.drop p).take args.length = a.value) :
    Inside buf e p (bgpMpUnreachParse args st) (Handled peer a (unreachFits a.value) st e) := by
  have he := h.inBuf
  have hp := h.value
  have hlen := h.length_value
  rw [hvalue] at hlen
  have hfits : unreachFits a.value ↔ 3 ≤ args.length ∧ nlriFits (unreachNlri a.value) := by
    rw [unreachFits, decide_eq_true_eq, hlen]
  refine (enough he (le_of_eq hp)).bind_eq fun hq => ?_
  simp only [Bool.not_true, Bool.false_or, decide_eq_true_eq]
  refine mpChecked_inside (.inr ha) hq framed_same (fun hfit => ?_) fun hmin => ?_
  · exact not_lt.mpr (hfits.mp hfit).1
  refine (inside_getw he (by omega)).bind ?_
  rintro afi q - ⟨⟨x, y, hx, hy, rfl⟩, rfl⟩
  refine (inside_getc he (by omega)).bind_at fun safi hsafi hq => ?_
  refine (pos he hq).bind_eq fun hq => ?_
  refine (slice he hq (by omega)).bind_eq fun hq => ?_
  have hbytes : unreachNlri a.value = ⟨word x y, safi, (buf.drop (p + 2 + 1)).take (args.length - 3)⟩ := by
    obtain ⟨k, hk⟩ : ∃ k, args.length = k + 1 + 1 + 1 := ⟨args.length - 3, by omega⟩
    rw [← hvalue, hk, take_drop_cons hx, take_drop_cons hy, take_drop_cons hsafi]
    rfl
  have hsane : nlriFits (unreachNlri a.value) ↔ ¬(safi ≠ safiMplsLabeledVpn ∧ ¬bgpNlriSanityCheck (word x y)
      (args.length - 3) ((buf.drop (p + 2 + 1)).take (args.length - 3))) := by
    have hlast : ((buf.drop (p + 2 + 1)).take (args.length - 3)).length = args.length - 3 :=
      length_take_drop (by omega)
    rw [hbytes, nlriFits, decide_eq_true_eq, hlast]
    tauto
  refine mpChecked_inside (.inr ha) hq (framed_notify _) (fun hfit => hsane.mp (hfits.mp hfit).2) fun hok => ?_
  refine (inside_forward he (by omega)).bind_to fun _ hq => ?_
  refine .pure hq (.mpDone (.inr ha) (hfits.mpr ⟨by omega, hsane.mpr hok⟩) ?_ (by omega) (by simp [ha])
    fun _ => hbytes.symm)
  exact { framed_same with mpWithdraw := absurd ha }

lemma bgpAttrUnknown_inside (htype : attrType args.type = .unknown)
    (hflags : ¬(checkFlag args.flags flagOptional ∧ checkFlag args.flags flagTrans)) :
    Inside buf e p (bgpAttrUnknown peer args st) (Simple peer .unknown (checkFlag args.flags flagOptional) st e) := by
  refine (inside_forward h.inBuf (le_of_eq h.value)).bind_to fun _ hq => ?_
  by_cases hopt : checkFlag args.flags flagOptional
  · have htrans : ¬checkFlag args.flags flagTrans := fun ht => hflags ⟨hopt, ht⟩
    rw [if_neg (not_not.mpr hopt), if_pos htrans]
    exact .pure hq (.pass rfl framed_same hopt h.value)
  rw [if_pos hopt]
  refine (bgpAttrMalformed_inside h hq le_rfl).mono ?_
  rintro ⟨ret, st''⟩ q' ⟨⟨n, rfl⟩, hended, hwithdraw, hproceed⟩
  rw [htype] at hproceed
  exact ⟨framed_notify n, by simpa [hopt] using hproceed, hended, nofun, fun hret => hopt (hwithdraw hret).2.1⟩

open Simple

omit h in
lemma handleAttr_inside (h : ArgsOf buf args a e p)
    (hflags : attrType a.type = .unknown → ¬(checkFlag a.flags flagOptional ∧ checkFlag a.flags flagTrans)) :
    Inside buf e p (handleAttr peer args st) (Handled peer a (a.fits peer) st e) := by
  obtain ⟨h, htype, hflag, hvalue⟩ := h
  have hlen := h.length_value
  rw [hvalue] at hlen
  unfold handleAttr RawAttr.fits
  rw [htype]
  cases ht : attrType a.type with
  | asPath => simpa only [hvalue, hlen] using bgpAttrAspath_inside h htype ht
  | as4Path => simpa only [hvalue, hlen] using bgpAttrAs4Path_inside h htype ht
  | mpReachNlri => exact bgpMpReachParse_inside h ht hvalue
  | mpUnreachNlri => exact bgpMpUnreachParse_inside h ht hvalue
  | aggregator =>
    simp only [hlen, decide_eq_true_eq]
    refine (bgpAttrAggregator_inside h (htype ▸ ht)).mono ?_
    rintro r q ⟨hs, has⟩
    rw [hvalue] at has
    rw [← ht] at hs
    exact ⟨hs.framed, hs.proceed, hs.ended, hs.flag, by simp [ht], by simp [ht], fun _ => has, by simp [ht], by simp [ht],
      fun hret => absurd hret hs.withdraw⟩
  | origin => simpa only [hvalue, decide_eq_true_eq] using handled ht (by simp) (bgpAttrOrigin_inside h (htype ▸ ht))
  | nextHop =>
    simpa only [hvalue, hlen, decide_eq_true_eq] using handled ht (by simp) (bgpAttrNexthop_inside h (htype ▸ ht))
  | multiExitDisc => simpa only [hlen, decide_eq_true_eq] using handled ht (by simp) (bgpAttrMed_inside h (htype ▸ ht))
  | localPref => simpa only [hlen, decide_eq_true_eq] using handled ht (by simp) (bgpAttrLocalPref_inside h (htype ▸ ht))
  | atomicAggregate =>
    simpa only [hlen, decide_eq_true_eq] using handled ht (by simp) (bgpAttrAtomic_inside h (htype ▸ ht))
  | as4Aggregator =>
    simpa only [hlen, decide_eq_true_eq] using handled ht (by simp) (bgpAttrAs4Aggregator_inside h (htype ▸ ht))
  | communities =>
    simpa only [hlen, decide_eq_true_eq] using handled ht (by simp) (bgpAttrCommunity_inside h (htype ▸ ht))
  | originatorId =>
    simpa only [hlen, decide_eq_true_eq] using handled ht (by simp) (bgpAttrOriginatorId_inside h (htype ▸ ht))
  | clusterList =>
    simpa only [hlen, decide_eq_true_eq] using handled ht (by simp) (bgpAttrClusterList_inside h (htype ▸ ht))
  | extCommunities =>
    simpa only [hlen, decide_eq_true_eq] using handled ht (by simp) (bgpAttrExtCommunities_inside h (htype ▸ ht))
  | unknown =>
    rw [← hflag] at hflags ⊢
    exact handled ht (by simp) (bgpAttrUnknown_inside h (htype ▸ ht) (hflags ht))

end other

end OspfMdr.Bgp
