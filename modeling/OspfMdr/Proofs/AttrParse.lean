import OspfMdr.Lib.Records
import OspfMdr.Proofs.Aspath
import OspfMdr.Proofs.AttrHandlers

namespace OspfMdr.Bgp
open Lib Scan Function
open Option hiding or_assoc

variable {buf block : List UInt8} {peer : AttrPeer} {args : AttrArgs} {seen : List UInt8} {st st' : AttrState}
  {e p endp : Nat}

/-- The length of an attribute, of one byte or of two, and what follows it. -/
def splitLength (flags : UInt8) : List UInt8 → Option (Nat × List UInt8)
  | [] => none
  | a :: l =>
    if checkFlag flags flagExtlen then
      match l with
      | [] => none
      | b :: l => some ((word a b).toNat, l)
    else some (a.toNat, l)

/-- The first attribute of a block and the rest of the block. -/
def splitAttr : List UInt8 → Option (RawAttr × List UInt8)
  | flags :: type :: l =>
    match splitLength (0xF0 &&& flags) l with
    | none => none
    | some (n, l) => if n ≤ l.length then some (⟨0xF0 &&& flags, type, l.take n⟩, l.drop n) else none
  | _ => none

/-- All the attributes that a block starts with. -/
def blockAttrs (block : List UInt8) : List RawAttr := records splitAttr block.length block

variable {flags : UInt8} {l l' : List UInt8} {a : RawAttr} {attrs : List RawAttr} {t t' : AsTable}
  {path : Option Aspath} {r : ParseRet × AttrState} {size : Nat}

lemma splitLength_length {n : Nat} (h : splitLength flags l = some (n, l')) : l'.length < l.length := by
  unfold splitLength at h
  split at h
  · cases h
  split_ifs at h
  · split at h <;> cases h
    simp only [List.length_cons]
    omega
  · cases h
    simp

lemma splitAttr_length (h : splitAttr l = some (a, l')) : l'.length < l.length := by
  unfold splitAttr at h
  split at h
  · split at h
    · cases h
    · rename_i hlen
      have := splitLength_length hlen
      split_ifs at h
      cases h
      simp only [List.length_drop, List.length_cons]
      omega
  · cases h

lemma splitAttr_le (h : splitAttr l = some (a, l')) : 3 ≤ l.length := by
  unfold splitAttr at h
  split at h
  · split at h
    · cases h
    · rename_i hlen
      have := splitLength_length hlen
      simp only [List.length_cons]
      omega
  · cases h

lemma blockAttrs_isPrefix {rest : List UInt8} (h : Peeled splitAttr block attrs rest) :
    attrs <+: blockAttrs block :=
  h.isPrefix (by have := h.length_le fun _ _ _ => splitAttr_length; omega)

lemma blockAttrs_eq (h : Peeled splitAttr block attrs []) : blockAttrs block = attrs :=
  h.records_eq rfl (by have := h.length_le fun _ _ _ => splitAttr_length; omega)

lemma blockAttrs_cons (h : splitAttr l = some (a, l')) : blockAttrs l = a :: blockAttrs l' := by
  have hlt := splitAttr_length h
  obtain ⟨n, hn⟩ : ∃ n, l.length = n + 1 := ⟨l.length - 1, by omega⟩
  rw [blockAttrs, hn, records, h, blockAttrs]
  exact congrArg _ (records_fuel (fun _ _ _ => splitAttr_length) (by omega) le_rfl)

lemma blockAttrs_nil (h : splitAttr l = none) : blockAttrs l = [] := by
  unfold blockAttrs
  cases l.length <;> simp [records, h]

section types

variable {type : UInt8}

lemma attrType_eq : (attrType type = .asPath ↔ type = 2) ∧ (attrType type = .as4Path ↔ type = 17) ∧
    (attrType type = .mpReachNlri ↔ type = 14) ∧ (attrType type = .mpUnreachNlri ↔ type = 15) ∧
    (attrType type = .aggregator ↔ type = 7) ∧ (attrType type = .as4Aggregator ↔ type = 18) := by
  simp only [attrType, ite_eq_iff, reduceCtorEq, and_false, false_or, and_true, or_false]
  refine ⟨?_, ?_, ?_, ?_, ?_, ?_⟩
  all_goals exact ⟨by tauto, by rintro rfl; decide⟩

lemma attrType_eq_asPath : attrType type = .asPath ↔ type = 2 := attrType_eq.1

lemma attrType_eq_as4Path : attrType type = .as4Path ↔ type = 17 := attrType_eq.2.1

lemma attrType_eq_mpReachNlri : attrType type = .mpReachNlri ↔ type = 14 := attrType_eq.2.2.1

lemma attrType_eq_mpUnreachNlri : attrType type = .mpUnreachNlri ↔ type = 15 := attrType_eq.2.2.2.1

lemma attrType_eq_aggregator : attrType type = .aggregator ↔ type = 7 := attrType_eq.2.2.2.2.1

lemma attrType_eq_as4Aggregator : attrType type = .as4Aggregator ↔ type = 18 := attrType_eq.2.2.2.2.2

end types

/-- The references that one path accounts for. -/
def refs (path : Option Aspath) : AsTable := fun x => if path = some x then 1 else 0

/-- Each path that the state holds has its references in the hash table. -/
def Interned (st : AttrState) : Prop := ∀ x, refs st.attr.aspath x + refs st.as4Path x ≤ st.ashash x

lemma aspathUnintern_some {r : AsTable} (hpath : path.isSome) (h : ∀ x, refs path x + r x ≤ t x) :
    ∃ t', aspathUnintern t path = some t' ∧ ∀ x, r x ≤ t' x := by
  obtain ⟨y, rfl⟩ := isSome_iff_exists.mp hpath
  have hy := h y
  simp only [refs, if_true] at hy
  refine ⟨_, if_neg (by omega), fun x => ?_⟩
  rcases eq_or_ne x y with rfl | hne
  · rw [update_self]
    omega
  · rw [update_of_ne hne]
    have := h x
    omega

lemma le_aspathIntern {r : AsTable} (y : Aspath) (h : ∀ x, r x ≤ t x) (x : Aspath) :
    refs (some y) x + r x ≤ aspathIntern t y x := by
  have hx := h x
  unfold refs aspathIntern
  rcases eq_or_ne y x with rfl | hne
  · rw [update_self, if_pos rfl]
    omega
  · rw [update_of_ne hne.symm, if_neg (by simpa using hne)]
    omega

lemma dropAs4Path_some (h : Interned st) : ∃ st', dropAs4Path st = some st' ∧ Interned st' ∧
    st'.attr = st.attr ∧ st'.mpUpdate = st.mpUpdate ∧ st'.mpWithdraw = st.mpWithdraw := by
  cases hpath : st.as4Path with
  | none => exact ⟨st, by rw [dropAs4Path, hpath], h, rfl, rfl, rfl⟩
  | some y =>
    have hle : ∀ x, refs (some y) x + refs st.attr.aspath x ≤ st.ashash x := by
      intro x
      rw [add_comm, ← hpath]
      exact h x
    obtain ⟨t, ht, hle⟩ := aspathUnintern_some rfl hle
    refine ⟨{ st with ashash := t, as4Path := none }, ?_, fun x => ?_, rfl, rfl, rfl⟩
    · rw [dropAs4Path, hpath]
      simp only [ht, bind_eq_bind, bind_some]
    · simpa [refs] using hle x

namespace RawAttr

/-- The flags are those of the type, and the value is one that it allows. -/
def Right (peer : AttrPeer) (a : RawAttr) : Prop :=
  bgpAttrFlagInvalid ⟨a.type, a.flags, 0, 0, 0⟩ = some false ∧ a.fits peer
  deriving Decidable

/-- The parser goes on behind the attribute. -/
def Passes (peer : AttrPeer) (a : RawAttr) : Prop := a.Right peer ∨ (attrType a.type).Tolerated peer
  deriving Decidable

/-- The parser has no answer to attributes of type 19, nor to those that it does not know and should pass on. -/
def Allowed (a : RawAttr) : Prop :=
  a.type ≠ 19 ∧
    (attrType a.type = .unknown → ¬(checkFlag a.flags flagOptional ∧ checkFlag a.flags flagTrans))
  deriving Decidable

end RawAttr

section loop

variable {done : List RawAttr}

/-- What the parser has after the attributes `done`. -/
structure Held (peer : AttrPeer) (done : List RawAttr) (st : AttrState) : Prop where
  interned : Interned st
  aspath : st.attr.aspath.isSome ↔ ∃ a ∈ done, a.type = 2
  as4Path : st.as4Path.isSome ↔ ∃ a ∈ done, a.type = 17
  asPathFlag : st.attr.flag .asPath → st.attr.aspath.isSome
  as4PathFlag : st.attr.flag .as4Path ↔ st.as4Path.isSome
  aggregator : st.attr.flag .aggregator ↔ ∃ a ∈ done, a.type = 7 ∧ a.Right peer
  as4Aggregator : st.attr.flag .as4Aggregator ↔ ∃ a ∈ done, a.type = 18 ∧ a.Right peer
  extra : st.attr.flag .aggregator → st.attr.extra.isSome
  aggregatorAs : peer.as4Rcv = false → ∀ a ∈ done, a.type = 7 → a.Right peer →
    st.attr.extraGet.aggregatorAs = shortAggregatorAs a.value

lemma held_init (peer : AttrPeer) (t : AsTable) : Held peer [] (.init t) :=
  ⟨fun _ => Nat.zero_le _, by simp [AttrState.init, UpdateAttr.zero], by simp [AttrState.init], nofun,
    by simp [AttrState.init, UpdateAttr.zero], by simp [AttrState.init, UpdateAttr.zero],
    by simp [AttrState.init, UpdateAttr.zero], nofun, nofun⟩

variable {type : UInt8} {value : List UInt8} {ret : ParseRet} {q : Nat} {old : Option Aspath}

lemma PathRead.le {r : AsTable} (h : PathRead t t' none path ret) (hr : ∀ x, r x ≤ t x) (x : Aspath) :
    refs path x + r x ≤ t' x := by
  obtain ⟨hnone, rfl, -⟩ | ⟨y, rfl, rfl, -⟩ := h
  · obtain rfl : path = none := hnone.elim id id
    simpa [refs] using hr x
  · exact le_aspathIntern y hr x

lemma PathRead.isSome (h : PathRead t t' old path .proceed) : path.isSome := by
  obtain ⟨-, -, h⟩ | ⟨y, rfl, -⟩ := h
  · exact absurd rfl h
  · rfl

section handled

variable (hst : Held peer done st) (hnew : ∀ b ∈ done, b.type ≠ a.type)
include hst hnew

lemma Handled.interned (h : Handled peer a (a.Right peer) st e r q) : Interned r.2 := by
  intro x
  by_cases has : attrType a.type = .asPath
  · have hnone : st.attr.aspath = none := by
      rw [← not_isSome_iff_eq_none, hst.aspath]
      rintro ⟨b, hb, htype⟩
      exact hnew b hb (htype.trans (attrType_eq_asPath.mp has).symm)
    have hread := h.aspath has
    rw [hnone] at hread
    rw [h.framed.as4Path (by rw [has]; simp)]
    refine hread.le (fun x => ?_) x
    simpa [refs, hnone] using hst.interned x
  by_cases has4 : attrType a.type = .as4Path
  · have hnone : st.as4Path = none := by
      rw [← not_isSome_iff_eq_none, hst.as4Path]
      rintro ⟨b, hb, htype⟩
      exact hnew b hb (htype.trans (attrType_eq_as4Path.mp has4).symm)
    have hread := h.as4Path has4
    rw [hnone] at hread
    rw [h.framed.aspath has, add_comm]
    refine hread.le (fun x => ?_) x
    simpa [refs, hnone] using hst.interned x
  · rw [h.framed.aspath has, h.framed.as4Path has4, h.framed.ashash has has4]
    exact hst.interned x

omit hst hnew in
/-- A flag of a type that is asked for later is set by the well-formed attributes of the type. -/
lemma Handled.flag_iff (h : Handled peer a (a.Right peer) st e r q) {t : AttrType} {type : UInt8}
    (ht : t.flagged) (htype : attrType a.type = t ↔ a.type = type)
    (hflag : st.attr.flag t ↔ ∃ b ∈ done, b.type = type ∧ b.Right peer) :
    r.2.attr.flag t ↔ ∃ b ∈ a :: done, b.type = type ∧ b.Right peer := by
  simp only [List.mem_cons, exists_eq_or_imp, ← hflag, ← htype]
  by_cases heq : attrType a.type = t
  · subst heq
    simpa using h.flag ht
  · simp [heq, h.framed.flag t (Ne.symm heq)]

lemma Handled.held (h : Handled peer a (a.Right peer) st e (.proceed, st') q) : Held peer (a :: done) st' where
  interned := h.interned hst hnew
  aspath := by
    simp only [List.mem_cons, exists_eq_or_imp, ← hst.aspath]
    by_cases htype : a.type = 2
    · simp [htype, (h.aspath (attrType_eq_asPath.mpr htype)).isSome]
    · rw [h.framed.aspath (mt attrType_eq_asPath.mp htype), or_iff_right htype]
  as4Path := by
    simp only [List.mem_cons, exists_eq_or_imp, ← hst.as4Path]
    by_cases htype : a.type = 17
    · simp [htype, (h.as4Path (attrType_eq_as4Path.mpr htype)).isSome]
    · rw [h.framed.as4Path (mt attrType_eq_as4Path.mp htype), or_iff_right htype]
  asPathFlag hflag := by
    by_cases has : attrType a.type = .asPath
    · exact (h.aspath has).isSome
    · rw [h.framed.flag _ (Ne.symm has)] at hflag
      rw [h.framed.aspath has]
      exact hst.asPathFlag hflag
  as4PathFlag := by
    by_cases has : attrType a.type = .as4Path
    · have hright : a.Right peer := (h.proceed.mp rfl).resolve_right (by simp [has, AttrType.Tolerated])
      have hflag := h.flag (by rw [has]; rfl)
      rw [has] at hflag
      simp [hflag, hright, (h.as4Path has).isSome]
    · rw [h.framed.flag _ (Ne.symm has), h.framed.as4Path has]
      exact hst.as4PathFlag
  aggregator := h.flag_iff rfl attrType_eq_aggregator hst.aggregator
  as4Aggregator := h.flag_iff rfl attrType_eq_as4Aggregator hst.as4Aggregator
  extra hflag := by
    by_cases hagg : attrType a.type = .aggregator
    · have hiff := h.flag (by rw [hagg]; rfl)
      rw [hagg] at hiff
      obtain hright | hold := hiff.mp hflag
      · exact (h.aggregator hagg hright).1
      · exact h.framed.extra (hst.extra hold)
    · rw [h.framed.flag _ (Ne.symm hagg)] at hflag
      exact h.framed.extra (hst.extra hflag)
  aggregatorAs hshort b hb htype hright := by
    obtain rfl | hb := List.mem_cons.mp hb
    · exact (h.aggregator (attrType_eq_aggregator.mpr htype) hright).2 hshort
    · rw [h.framed.aggregatorAs fun hagg => hnew b hb (htype.trans (attrType_eq_aggregator.mp hagg).symm)]
      exact hst.aggregatorAs hshort b hb htype hright

end handled

/-- The attribute was taken, and the parser did not stop with an error. -/
structure Taken (peer : AttrPeer) (a : RawAttr) (done : List RawAttr) (st : AttrState)
    (r : ParseRet × AttrState) : Prop where
  interned : Interned r.2
  held : r.1 = .proceed → Held peer (a :: done) r.2
  withdraw : r.1 = .withdraw → a.type = 17 ∧ peer.sort = .ebgp
  flag : ∀ t : AttrType, t.wellKnown → st.attr.flag t ∨ attrType a.type = t → r.2.attr.flag t
  mpUpdate : r.2.mpUpdate = if a.type = 14 then reachNlri a.value else st.mpUpdate
  mpWithdraw : r.2.mpWithdraw = if a.type = 15 then unreachNlri a.value else st.mpWithdraw

lemma Handled.taken (hst : Held peer done st) (hnew : ∀ b ∈ done, b.type ≠ a.type)
    (h : Handled peer a (a.Right peer) st e (ret, st') q) (hret : ret ≠ .error) : Taken peer a done st (ret, st') := by
  have has4 : ret = .withdraw → attrType a.type = .as4Path := fun hw => (h.withdraw hw).1
  have hproceed : ret = .proceed ∨ attrType a.type = .as4Path := by
    cases ret with
    | proceed => exact .inl rfl
    | withdraw => exact .inr (has4 rfl)
    | error => exact absurd rfl hret
  refine ⟨h.interned hst hnew, ?_, fun hw => ⟨attrType_eq_as4Path.mp (has4 hw), (h.withdraw hw).2⟩,
    fun t ht hset => ?_, ?_, ?_⟩
  · rintro rfl
    exact h.held hst hnew
  · by_cases htype : attrType a.type = t
    · subst htype
      have hpass := hproceed.resolve_right fun heq => by
        rw [heq] at ht
        cases ht
      have hright : a.Right peer := (h.proceed.mp hpass).resolve_right fun htol => by
        obtain heq | heq | heq := htol.2 <;> rw [heq] at ht <;> cases ht
      refine (h.flag ?_).mpr (.inl hright)
      revert ht
      cases attrType a.type <;> simp [AttrType.wellKnown, AttrType.flagged]
    · rw [h.framed.flag t (Ne.symm htype)]
      exact hset.resolve_right htype
  · split_ifs with htype
    · have ht := attrType_eq_mpReachNlri.mpr htype
      exact h.reach ht (hproceed.resolve_right (by rw [ht]; simp))
    · exact h.framed.mpUpdate fun ht => htype (attrType_eq_mpReachNlri.mp ht)
  · split_ifs with htype
    · have ht := attrType_eq_mpUnreachNlri.mpr htype
      exact h.unreach ht (hproceed.resolve_right (by rw [ht]; simp))
    · exact h.framed.mpWithdraw fun ht => htype (attrType_eq_mpUnreachNlri.mp ht)

lemma bgpAttrFlagInvalid_isSome (args : AttrArgs) (h : args.type ≠ 19) :
    ∃ b, bgpAttrFlagInvalid args = some b := by
  unfold bgpAttrFlagInvalid
  by_cases hlarge : args.type.toNat > attrFlagsValues.length
  · exact ⟨false, if_pos hlarge⟩
  have hlt : args.type.toNat < attrFlagsValues.length := by
    have hne : args.type.toNat ≠ 19 := fun heq => h (UInt8.toNat_inj.mp heq)
    simp only [attrFlagsValues, List.length_cons, List.length_nil] at hlarge ⊢
    omega
  rw [if_neg hlarge, List.getElem?_eq_getElem hlt]
  simp only [bind_eq_bind, bind_some]
  split_ifs <;> exact ⟨_, rfl⟩

lemma bgpAttrFlagInvalid_known (h : bgpAttrFlagInvalid args = some true) :
    attrType args.type ≠ .unknown := by
  have htable : ∀ n < 19, attrType (UInt8.ofNat n) = .unknown → attrFlagsValues[n]? = some 0 := by decide
  intro htype
  unfold bgpAttrFlagInvalid at h
  by_cases hlarge : args.type.toNat > attrFlagsValues.length
  · rw [if_pos hlarge] at h
    cases h
  rw [if_neg hlarge] at h
  cases hvalue : attrFlagsValues[args.type.toNat]? with
  | none =>
    rw [hvalue] at h
    cases h
  | some value =>
    have hzero := htable args.type.toNat (List.getElem?_eq_some_iff.mp hvalue).1 (by rwa [UInt8.ofNat_toNat])
    rw [hzero] at h
    cases h

lemma bgpAttrFlagInvalid_congr (htype : args.type = a.type) (hflags : args.flags = a.flags) :
    bgpAttrFlagInvalid args = bgpAttrFlagInvalid ⟨a.type, a.flags, 0, 0, 0⟩ := by
  simp only [bgpAttrFlagInvalid, htype, hflags]

lemma attrLength_inside (he : endp ≤ buf.length) (hext : checkFlag flags flagExtlen → p + 2 ≤ endp)
    (hp : p < endp) :
    Inside buf endp p (attrLength flags) fun n q =>
      p < q ∧ splitLength flags ((buf.drop p).take (endp - p)) = some (n, (buf.drop q).take (endp - q)) := by
  unfold attrLength
  obtain ⟨k, hk⟩ : ∃ k, endp - p = k + 1 := ⟨endp - p - 1, by omega⟩
  by_cases hflag : checkFlag flags flagExtlen
  · obtain ⟨m, rfl⟩ : ∃ m, k = m + 1 := ⟨k - 1, by have := hext hflag; omega⟩
    rw [if_pos hflag, hk]
    refine (inside_getw he (hext hflag)).bind ?_
    rintro w q hq ⟨⟨a, b, ha, hb, rfl⟩, rfl⟩
    refine .pure hq ⟨by omega, ?_⟩
    rw [take_drop_cons ha, take_drop_cons hb]
    simp only [splitLength, if_pos hflag, show endp - (p + 2) = m by omega]
  rw [if_neg hflag, hk]
  refine (inside_getc he hp).bind_at fun a ha hq => ?_
  refine .pure hq ⟨by omega, ?_⟩
  rw [take_drop_cons ha]
  simp only [splitLength, if_neg hflag, show endp - (p + 1) = k by omega]

lemma dropAs4Path_inside (ret : ParseRet) (h : Interned st) (hp : p ≤ e) :
    Inside buf e p (do let st ← StateT.lift (dropAs4Path st); return (ret, st) : Parse _) fun r q => q = p ∧ r.1 = ret ∧
      Interned r.2 ∧ r.2.attr = st.attr ∧ r.2.mpUpdate = st.mpUpdate ∧ r.2.mpWithdraw = st.mpWithdraw := by
  obtain ⟨st', hst', hspec⟩ := dropAs4Path_some h
  exact (Inside.lift_eq hst' hp).bind_eq fun hp => .pure hp ⟨rfl, rfl, hspec⟩

lemma afterHandler_inside (hst : Interned st) (he : endp ≤ buf.length) (hq : q ≤ e) (hle : e ≤ endp) :
    Inside buf endp q (afterHandler e ret st) fun r q' => q' = q ∧
      ((ret ≠ .error → q = e) → (r.1 = .proceed ↔ ret = .proceed)) ∧ (r.1 ≠ .error → r.1 = ret ∧
      Interned r.2 ∧ r.2.attr = st.attr ∧ r.2.mpUpdate = st.mpUpdate ∧ r.2.mpWithdraw =
      st.mpWithdraw ∧ (ret = .proceed → r.2 = st ∧ q = e)) := by
  have hq' : q ≤ endp := by omega
  cases ret with
  | error =>
    exact .mono (dropAs4Path_inside .error hst hq') fun r q h => ⟨h.1, fun _ => by simp [h.2.1], absurd h.2.1⟩
  | withdraw =>
    refine (dropAs4Path_inside .withdraw hst hq').mono ?_
    rintro r q' ⟨hq, hret, hinterned, hattr, hupdate, hwithdraw⟩
    exact ⟨hq, fun _ => by simp [hret], fun _ => ⟨hret, hinterned, hattr, hupdate, hwithdraw, nofun⟩⟩
  | proceed =>
    refine (Inside.pos he hq').bind_eq fun hq' => ?_
    by_cases hend : q = e
    · rw [if_neg (not_not.mpr hend)]
      exact .pure hq' ⟨rfl, fun _ => Iff.rfl, fun _ => ⟨rfl, hst, rfl, rfl, rfl, fun _ => ⟨rfl, hend⟩⟩⟩
    · rw [if_pos hend]
      exact .mono (dropAs4Path_inside .error hst hq') fun r q h =>
        ⟨h.1, fun hended => absurd (hended (by simp)) hend, absurd h.2.1⟩

variable {handle handle' : AttrArgs → AttrState → Parse (ParseRet × AttrState)} {e p : Nat}

/-- The two families of handlers do the same, inside of the attributes. -/
def HandlersAgree (peer : AttrPeer) (buf : List UInt8)
    (handle handle' : AttrArgs → AttrState → Parse (ParseRet × AttrState)) : Prop :=
  ∀ args a e p st, ArgsOf buf args a e p →
    (attrType a.type = .unknown → ¬(checkFlag a.flags flagOptional ∧ checkFlag a.flags flagTrans)) →
    Agree buf p (handle args st) (handle' args st) fun r q => q ≤ e ∧ Handled peer a (a.fits peer) st e r q

/-- The handler run on the bytes of its attribute only. -/
def handleConfined (peer : AttrPeer) (args : AttrArgs) (st : AttrState) :
    Parse (ParseRet × AttrState) :=
  (handleAttr peer args st).confined (args.startp + args.total)

lemma handlers_agree : HandlersAgree peer buf (handleAttr peer) (handleConfined peer) := by
  intro args a e p st hargs hflags
  unfold handleConfined
  rw [hargs.whole]
  exact (handleAttr_inside hargs hflags).agree_confined hargs.inBuf (by have := hargs.value; omega)

lemma attrBody_agree (hhandle : HandlersAgree peer buf handle handle') (hargs : ArgsOf buf args a e p)
    (hst : Held peer done st) (hnew : ∀ b ∈ done, b.type ≠ a.type) (hallowed : a.Allowed) :
    Agree buf p (attrBody peer handle args e st) (attrBody peer handle' args e st) fun r q =>
      (r.1 = .proceed ↔ a.Passes peer) ∧ (r.1 ≠ .error → q = e ∧ Taken peer a done st r) := by
  have hp : p ≤ e := hargs.le
  have hcongr := bgpAttrFlagInvalid_congr hargs.type hargs.flags
  obtain ⟨invalid, hinvalid⟩ := bgpAttrFlagInvalid_isSome args (hargs.type ▸ hallowed.1)
  refine (Inside.lift_eq hinvalid hp).agree.bind ?_
  rintro invalid q ⟨hq, rfl, rfl⟩
  cases invalid with
  | true =>
    have hwrong : ¬a.Right peer := fun hright => by
      have := (hcongr.trans hright.1).symm.trans hinvalid
      cases this
    refine (bgpAttrMalformed_inside hargs.toArgsAt hq le_rfl).agree.mono ?_
    rintro ⟨ret, st1⟩ q1 ⟨-, hmalformed⟩
    have hknown := bgpAttrFlagInvalid_known hinvalid
    rw [hargs.type] at hknown
    have hhandled : Handled peer a (a.Right peer) st e (ret, st1) q1 :=
      hmalformed.handled hargs.type hknown hwrong framed_same rfl rfl (.inr rfl) (.inr rfl)
    exact ⟨hhandled.proceed, fun hret => ⟨hhandled.ended hret, hhandled.taken hst hnew hret⟩⟩
  | false =>
    have hright : a.fits peer = true ↔ a.Right peer := by
      rw [RawAttr.Right, ← hcongr, hinvalid]
      simp
    refine (hhandle _ _ _ _ st hargs hallowed.2).bind ?_
    rintro ⟨ret, st1⟩ q1 ⟨hq1, hhandled⟩
    rw [hright] at hhandled
    refine (afterHandler_inside (hhandled.interned hst hnew) hargs.inBuf hq1 le_rfl).agree.mono ?_
    rintro ⟨ret', st2⟩ q2 ⟨-, rfl, hgo, hafter⟩
    refine ⟨(hgo fun hret => hhandled.ended hret).trans hhandled.proceed, fun hret => ?_⟩
    obtain ⟨rfl, hinterned, hattr, hupdate, hwithdraw, hproceed⟩ := hafter hret
    have htaken := hhandled.taken hst hnew hret
    refine ⟨hhandled.ended hret, hinterned, fun h => ?_, htaken.withdraw, fun t ht hset => ?_,
      hupdate.trans htaken.mpUpdate, hwithdraw.trans htaken.mpWithdraw⟩
    · rw [(hproceed h).1]
      exact htaken.held h
    · rw [hattr]
      exact htaken.flag t ht hset

lemma attrBody_fails (hargs : ArgsOf buf args a e p) (hallowed : ¬a.Allowed) :
    (attrBody peer (handleAttr peer) args e st).run (.at buf p) = none := by
  by_cases h19 : args.type = 19
  · have hnone : bgpAttrFlagInvalid args = none := by
      unfold bgpAttrFlagInvalid
      rw [h19]
      rfl
    refine bind_none ?_
    rw [hnone]
    rfl
  have hunknown : attrType args.type = .unknown ∧ checkFlag args.flags flagOptional ∧
      checkFlag args.flags flagTrans := by
    by_contra hcon
    refine hallowed ⟨hargs.type ▸ h19, fun hunknown hboth => hcon ?_⟩
    rw [hargs.type, hargs.flags]
    exact ⟨hunknown, hboth⟩
  obtain ⟨hunknown, hopt, htrans⟩ := hunknown
  have hvalid : bgpAttrFlagInvalid args = some false := by
    obtain ⟨b, hb⟩ := bgpAttrFlagInvalid_isSome args h19
    cases b with
    | false => exact hb
    | true => exact absurd hunknown (bgpAttrFlagInvalid_known hb)
  obtain ⟨_, q, -, -, hforward, -⟩ := inside_forward hargs.inBuf (le_of_eq hargs.value)
  have hlift : (StateT.lift (bgpAttrFlagInvalid args) : Parse Bool).run (.at buf p) = some (false, .at buf p) := by
    rw [hvalid]
    rfl
  unfold attrBody
  rw [bind_run hlift, if_neg Bool.false_ne_true]
  refine bind_none ?_
  simp only [handleAttr, hunknown, bgpAttrUnknown]
  rw [bind_run hforward, if_neg (not_not.mpr hopt), if_neg (not_not.mpr htrans)]
  rfl

/-- The header of an attribute: there is none that is whole and new, or the attribute is `a`, at `g`. -/
lemma attrStep_cases (peer : AttrPeer) (seen : List UInt8) (st : AttrState) (he : endp ≤ buf.length) (hp : p < endp) :
    ((∀ a rest, splitAttr ((buf.drop p).take (endp - p)) = some (a, rest) → a.type ∈ seen) ∧
      ∃ seen' st' q, ∀ handle, (attrStep peer handle endp seen st).run (.at buf p) =
        some ((.error, seen', st'), .at buf q)) ∨
    ∃ a args e g, splitAttr ((buf.drop p).take (endp - p)) = some (a, (buf.drop e).take (endp - e)) ∧
      a.type ∉ seen ∧ ArgsOf buf args a e g ∧ p < e ∧ e ≤ endp ∧
      ∀ handle, (attrStep peer handle endp seen st).run (.at buf p) =
        (do let r ← attrBody peer handle args e st; return (r.1, a.type :: seen, r.2) : Parse _).run (.at buf g) := by
  have hpos := pos_run_at (show p ≤ buf.length by omega)
  by_cases hmin : endp - p < 3
  · refine .inl ⟨fun a rest hsplit => ?_, seen, st.notifySend attrLengErr [], p, fun handle => ?_⟩
    · have hle := splitAttr_le hsplit
      rw [List.length_take] at hle
      omega
    · rw [attrStep, bind_run hpos, if_pos hmin]
      rfl
  obtain ⟨flags, _, -, ⟨hflags, rfl⟩, hrun1, -⟩ := inside_getc he (show p < endp by omega)
  obtain ⟨type, _, -, ⟨htype, rfl⟩, hrun2, -⟩ := inside_getc he (show p + 1 < endp by omega)
  obtain ⟨k, hk⟩ : ∃ k, endp - p = k + 1 + 1 := ⟨endp - p - 2, by omega⟩
  have hblock : (buf.drop p).take (endp - p) = flags :: type :: (buf.drop (p + 1 + 1)).take (endp - (p + 1 + 1)) := by
    rw [hk, take_drop_cons hflags, take_drop_cons htype, show k = endp - (p + 1 + 1) by omega]
  by_cases hext : checkFlag (0xF0 &&& flags) flagExtlen ∧ endp - p < 4
  · refine .inl ⟨fun a rest hsplit => ?_, seen, st.notifySend attrLengErr [], p + 1 + 1, fun handle => ?_⟩
    · have hone : ((buf.drop (p + 1 + 1)).take (endp - (p + 1 + 1))).length = 1 := by
        rw [length_take_drop (by omega)]
        omega
      obtain ⟨b, hb⟩ := List.length_eq_one_iff.mp hone
      rw [hblock, hb] at hsplit
      simp [splitAttr, splitLength, hext.1] at hsplit
    · rw [attrStep, bind_run hpos, if_neg hmin, bind_run hrun1]
      rw [bind_run hrun2, if_pos hext]
      rfl
  have hmore : checkFlag (0xF0 &&& flags) flagExtlen → p + 1 + 1 + 2 ≤ endp := by
    intro hflag
    have : ¬endp - p < 4 := fun hlt => hext ⟨hflag, hlt⟩
    omega
  obtain ⟨n, g, hg, ⟨hlt, hlength⟩, hrun3, -⟩ := attrLength_inside he hmore (by omega)
  have hheader (handle) : (attrStep peer handle endp seen st).run (.at buf p) =
      (if type ∈ seen then return (.error, seen, st.notifySend 1 [])
      else do
        let getp ← Scan.pos
        if getp + n > endp then return (.error, type :: seen, st.notifySend attrLengErr [])
        else
          let r ← attrBody peer handle ⟨type, 0xF0 &&& flags, n, p, getp + n - p⟩ (getp + n) st
          return (r.1, type :: seen, r.2) : Parse _).run (.at buf g) := by
    rw [attrStep, bind_run hpos, if_neg hmin, bind_run hrun1]
    rw [bind_run hrun2, if_neg hext, bind_run hrun3]
  have hsplit : splitAttr ((buf.drop p).take (endp - p)) = if n ≤ endp - g then
        some (⟨0xF0 &&& flags, type, ((buf.drop g).take (endp - g)).take n⟩, ((buf.drop g).take (endp - g)).drop n)
      else none := by
    have hrest : ((buf.drop g).take (endp - g)).length = endp - g := length_take_drop (by omega)
    rw [hblock]
    simp only [splitAttr, hlength, hrest]
  by_cases hseen : type ∈ seen
  · refine .inl ⟨fun a rest ha => ?_, seen, st.notifySend 1 [], g, fun handle => ?_⟩
    · rw [hsplit] at ha
      split_ifs at ha
      cases ha
      exact hseen
    · rw [hheader, if_pos hseen]
      rfl
  by_cases hover : g + n > endp
  · refine .inl ⟨fun a rest ha => ?_, type :: seen, st.notifySend attrLengErr [], g, fun handle => ?_⟩
    · rw [hsplit, if_neg (by omega)] at ha
      cases ha
    · rw [hheader, if_neg hseen, bind_run (pos_run_at (le_trans hg he)), if_pos hover]
      rfl
  right
  refine ⟨⟨0xF0 &&& flags, type, (buf.drop g).take n⟩, ⟨type, 0xF0 &&& flags, n, p, g + n - p⟩, g + n, g, ?_, hseen,
    ⟨⟨by omega, rfl, by dsimp only; omega⟩, rfl, rfl, rfl⟩, by omega, by omega, fun handle => ?_⟩
  · rw [hsplit, if_pos (by omega), List.take_take, List.drop_take, List.drop_drop, min_eq_left (by omega),
      show endp - (g + n) = endp - g - n by omega]
  · rw [hheader, if_neg hseen, bind_run (pos_run_at (le_trans hg he)), if_neg hover]

/-- What a step of the parser says of the block at `p`, when it has an answer. -/
structure Stepped (peer : AttrPeer) (buf : List UInt8) (endp p : Nat) (done : List RawAttr) (st : AttrState)
    (r : ParseRet × List UInt8 × AttrState) (q : Nat) : Prop where
  stopped : r.1 ≠ .proceed → ∀ a rest, splitAttr ((buf.drop p).take (endp - p)) = some (a, rest) →
    a.type ∈ done.map RawAttr.type ∨ a.Allowed ∧ ¬a.Passes peer
  taken : r.1 ≠ .error → ∃ a, splitAttr ((buf.drop p).take (endp - p)) = some (a, (buf.drop q).take (endp - q)) ∧
    p < q ∧ q ≤ endp ∧ a.type ∉ done.map RawAttr.type ∧ a.Allowed ∧ r.2.1 = (a :: done).map RawAttr.type ∧
    (r.1 = .proceed → a.Passes peer) ∧ Taken peer a done st (r.1, r.2.2)

lemma attrStep_agree (he : endp ≤ buf.length) (hp : p < endp) (hst : Held peer done st) :
    Agree buf p (attrStep peer (handleAttr peer) endp (done.map RawAttr.type) st)
      (attrStep peer (handleConfined peer) endp (done.map RawAttr.type) st) (Stepped peer buf endp p done st) ∨
    (attrStep peer (handleAttr peer) endp (done.map RawAttr.type) st).run (.at buf p) = none ∧ ∃ a rest,
      splitAttr ((buf.drop p).take (endp - p)) = some (a, rest) ∧ a.type ∉ done.map RawAttr.type ∧ ¬a.Allowed := by
  obtain ⟨hsplit, seen', st', q, hrun⟩ | ⟨a, args, e, g, hsplit, hnew, hargs, hlt, hle, hrun⟩ :=
    attrStep_cases peer (done.map RawAttr.type) st he hp
  · exact .inl ⟨_, q, ⟨fun _ a rest ha => .inl (hsplit a rest ha), absurd rfl⟩, hrun _, hrun _⟩
  have hnew' : ∀ b ∈ done, b.type ≠ a.type := fun b hb heq => hnew (List.mem_map.mpr ⟨b, hb, heq⟩)
  by_cases hallowed : a.Allowed
  · left
    obtain ⟨r, q, ⟨hpasses, htaken⟩, hbody, hbody'⟩ := attrBody_agree handlers_agree hargs hst hnew' hallowed
    refine ⟨(r.1, a.type :: done.map RawAttr.type, r.2), q, ⟨fun hret b rest hb => .inr ?_, fun hret => ?_⟩, ?_, ?_⟩
    · rw [hsplit] at hb
      cases hb
      exact ⟨hallowed, fun h => hret (hpasses.mpr h)⟩
    · obtain ⟨rfl, h⟩ := htaken hret
      exact ⟨a, hsplit, hlt, hle, hnew, hallowed, rfl, hpasses.mp, h⟩
    · rw [hrun, bind_run hbody]
      rfl
    · rw [hrun, bind_run hbody']
      rfl
  · right
    refine ⟨?_, a, _, hsplit, hnew, hallowed⟩
    rw [hrun, bind_none (attrBody_fails hargs hallowed)]

/-- The routes that the last attribute of the type gives. -/
def lastOf (type : UInt8) (read : List UInt8 → BgpNlri) (attrs : List RawAttr) (nlri : BgpNlri) :
    BgpNlri :=
  attrs.foldl (fun nlri a => if a.type = type then read a.value else nlri) nlri

/-- The loop has read the attributes from `p` to `q`, after those in `done`, and returned `r`. -/
structure Walked (peer : AttrPeer) (buf : List UInt8) (endp p : Nat) (done : List RawAttr) (st : AttrState)
    (attrs : List RawAttr) (r : ParseRet × AttrState) (q : Nat) : Prop where
  peeled : Peeled splitAttr ((buf.drop p).take (endp - p)) attrs ((buf.drop q).take (endp - q))
  le : q ≤ endp
  new : ∀ a ∈ attrs, a.type ∉ done.map RawAttr.type
  nodup : (attrs.map RawAttr.type).Nodup
  interned : Interned r.2
  proceed : r.1 = .proceed → q = endp ∧ (∀ a ∈ attrs, a.Passes peer) ∧ Held peer (attrs.reverse ++ done) r.2
  withdraw : r.1 = .withdraw → (∃ a, attrs.getLast? = some a ∧ a.type = 17) ∧ peer.sort = .ebgp
  flag : ∀ t : AttrType, t.wellKnown → (st.attr.flag t ∨ ∃ a ∈ attrs, attrType a.type = t) →
    r.2.attr.flag t
  mpUpdate : r.2.mpUpdate = lastOf 14 reachNlri attrs st.mpUpdate
  mpWithdraw : r.2.mpWithdraw = lastOf 15 unreachNlri attrs st.mpWithdraw

lemma Walked.cons {p' : Nat}
    (hsplit : splitAttr ((buf.drop p).take (endp - p)) = some (a, (buf.drop p').take (endp - p')))
    (ha : a.type ∉ done.map RawAttr.type) (hpasses : a.Passes peer) (htaken : Taken peer a done st (.proceed, st'))
    (h : Walked peer buf endp p' (a :: done) st' attrs r q) :
    Walked peer buf endp p done st (a :: attrs) r q := by
  have hnew : ∀ b ∈ attrs, b.type ≠ a.type ∧ b.type ∉ done.map RawAttr.type := by
    intro b hb
    simpa only [List.map_cons, List.mem_cons, not_or] using h.new b hb
  refine ⟨.cons hsplit h.peeled, h.le, ?_, ?_, h.interned, fun hret => ?_, fun hret => ?_, fun t ht hset => ?_, ?_, ?_⟩
  · rw [List.forall_mem_cons]
    exact ⟨ha, fun b hb => (hnew b hb).2⟩
  · rw [List.map_cons, List.nodup_cons]
    refine ⟨fun hmem => ?_, h.nodup⟩
    obtain ⟨b, hb, heq⟩ := List.mem_map.mp hmem
    exact (hnew b hb).1 heq
  · obtain ⟨hq, hall, hheld⟩ := h.proceed hret
    exact ⟨hq, List.forall_mem_cons.mpr ⟨hpasses, hall⟩, by simpa using hheld⟩
  · obtain ⟨⟨b, hb, htype⟩, hsort⟩ := h.withdraw hret
    exact ⟨⟨b, by rw [List.getLast?_cons, hb]; rfl, htype⟩, hsort⟩
  · simp only [List.mem_cons, exists_eq_or_imp, ← or_assoc] at hset
    exact h.flag t ht (hset.imp_left (htaken.flag t ht))
  · rw [h.mpUpdate, htaken.mpUpdate]
    rfl
  · rw [h.mpWithdraw, htaken.mpWithdraw]
    rfl

lemma Walked.single
    (hsplit : splitAttr ((buf.drop p).take (endp - p)) = some (a, (buf.drop q).take (endp - q)))
    (hq : q ≤ endp) (ha : a.type ∉ done.map RawAttr.type) (htaken : Taken peer a done st (.withdraw, st')) :
    Walked peer buf endp p done st [a] (.withdraw, st') q :=
  ⟨.cons hsplit (.nil _), hq, by simpa using ha, by simp, htaken.interned, nofun,
    fun _ => ⟨⟨a, rfl, (htaken.withdraw rfl).1⟩, (htaken.withdraw rfl).2⟩,
    fun t ht hset => htaken.flag t ht (by simpa using hset), htaken.mpUpdate, htaken.mpWithdraw⟩

/-- The attributes that the parser comes to: it stops at one that it has seen, and behind one that does not
pass. -/
def reached (peer : AttrPeer) : List UInt8 → List RawAttr → List RawAttr
  | _, [] => []
  | seen, a :: attrs =>
    if a.type ∈ seen then [] else a :: if a.Passes peer then reached peer (a.type :: seen) attrs else []

/-- The parser comes to the end of the block, which has the attributes `attrs`. -/
structure Accepted (peer : AttrPeer) (seen block : List UInt8) (attrs : List RawAttr) : Prop where
  peeled : Peeled splitAttr block attrs []
  new : ∀ a ∈ attrs, a.type ∉ seen
  nodup : (attrs.map RawAttr.type).Nodup
  passes : ∀ a ∈ attrs, a.Passes peer

lemma Accepted.uncons {rest : List UInt8} (h : Accepted peer seen block attrs) (hsplit : splitAttr block = some (a, rest)) :
    ∃ attrs', attrs = a :: attrs' ∧ a.type ∉ seen ∧ a.Passes peer ∧ Accepted peer (a.type :: seen) rest attrs' := by
  obtain ⟨hpeeled, hnew, hnodup, hpasses⟩ := h
  cases hpeeled with
  | nil => cases hsplit
  | cons hs hpeeled =>
    rw [hsplit] at hs
    cases hs
    rw [List.map_cons, List.nodup_cons] at hnodup
    rw [List.forall_mem_cons] at hnew hpasses
    refine ⟨_, rfl, hnew.1, hpasses.1, hpeeled, fun b hb hmem => ?_, hnodup.2, hpasses.2⟩
    obtain heq | hmem := List.mem_cons.mp hmem
    · exact hnodup.1 (List.mem_map.mpr ⟨b, hb, heq⟩)
    · exact hnew.2 b hb hmem

/-- A step that stops comes to nothing behind it, and the block is not accepted. -/
lemma Stepped.stop {r : ParseRet × List UInt8 × AttrState} (h : Stepped peer buf endp p done st r q)
    (he : endp ≤ buf.length) (hp : p < endp) (hret : r.1 ≠ .proceed) :
    (∀ a ∈ reached peer (done.map RawAttr.type) (blockAttrs ((buf.drop p).take (endp - p))), a.Allowed) ∧
    ∀ attrs, ¬Accepted peer (done.map RawAttr.type) ((buf.drop p).take (endp - p)) attrs := by
  have hstop := h.stopped hret
  have hlen : ((buf.drop p).take (endp - p)).length = endp - p := length_take_drop (by omega)
  generalize (buf.drop p).take (endp - p) = block at hstop hlen ⊢
  cases hsplit : splitAttr block with
  | none =>
    refine ⟨by simp [blockAttrs_nil hsplit, reached], fun attrs hacc => ?_⟩
    cases hacc.peeled with
    | nil =>
      rw [List.length_nil] at hlen
      omega
    | cons hs _ => cases hsplit.symm.trans hs
  | some x =>
    obtain ⟨a, rest⟩ := x
    refine ⟨fun b hb => ?_, fun attrs hacc => ?_⟩
    · rw [blockAttrs_cons hsplit, reached] at hb
      obtain hseen | ⟨hallowed, hnot⟩ := hstop a rest hsplit
      · simp [hseen] at hb
      · split_ifs at hb
        · cases hb
        · obtain rfl : b = a := by simpa using hb
          exact hallowed
    · obtain ⟨_, -, hnew, hpass, -⟩ := hacc.uncons hsplit
      exact (hstop a rest hsplit).elim hnew fun h => h.2 hpass

/-- Step by step the parser agrees with the confined one, up to the first attribute to which it has no answer. -/
lemma attrLoop_agree (peer : AttrPeer) (he : endp ≤ buf.length) {fuel : Nat} (hp : p ≤ endp)
    (hfuel : endp - p < fuel) (hst : Held peer done st) :
    ((∀ a ∈ reached peer (done.map RawAttr.type) (blockAttrs ((buf.drop p).take (endp - p))), a.Allowed) ∧
      Agree buf p (attrLoop peer (handleAttr peer) endp fuel (done.map RawAttr.type) st)
      (attrLoop peer (handleConfined peer) endp fuel (done.map RawAttr.type) st) fun r q =>
        (r.1 ≠ .proceed → ∀ attrs, ¬Accepted peer (done.map RawAttr.type) ((buf.drop p).take (endp - p)) attrs) ∧
        (r.1 ≠ .error → ∃ attrs, Walked peer buf endp p done st attrs r q)) ∨
    (attrLoop peer (handleAttr peer) endp fuel (done.map RawAttr.type) st).run (.at buf p) = none ∧
      ∃ a ∈ reached peer (done.map RawAttr.type) (blockAttrs ((buf.drop p).take (endp - p))), ¬a.Allowed := by
  induction fuel generalizing p done st with
  | zero => omega
  | succ fuel ih =>
    have hpos := pos_run_at (le_trans hp he)
    by_cases hlt : p < endp
    · obtain ⟨⟨ret, seen', st'⟩, q, hstep, hrun, hrun'⟩ | ⟨hnone, a, rest, hsplit, hnew, hnot⟩ :=
        attrStep_agree he hlt hst
      · have hloop (handle)
            (hrun : (attrStep peer handle endp (done.map RawAttr.type) st).run (.at buf p) =
              some ((ret, seen', st'), .at buf q)) :
            (attrLoop peer handle endp (fuel + 1) (done.map RawAttr.type) st).run (.at buf p) =
              (if ret = .proceed then attrLoop peer handle endp fuel seen' st' else return (ret, st')).run (.at buf q) := by
          rewrite [attrLoop, bind_run hpos, if_pos hlt, bind_run hrun]
          cases ret <;> rfl
        have hloop1 := hloop _ hrun
        have hloop2 := hloop _ hrun'
        cases ret with
        | error =>
          obtain ⟨hallowed, hnot⟩ := hstep.stop he hlt (by simp)
          exact .inl ⟨hallowed, _, q, ⟨fun _ => hnot, by simp⟩, hloop1, hloop2⟩
        | withdraw =>
          obtain ⟨hallowed, hnot⟩ := hstep.stop he hlt (by simp)
          obtain ⟨a, hsplit, -, hq, hnew, -, -, -, htaken⟩ := hstep.taken (by simp)
          exact .inl ⟨hallowed, _, q, ⟨fun _ => hnot, fun _ => ⟨[a], .single hsplit hq hnew htaken⟩⟩, hloop1, hloop2⟩
        | proceed =>
          obtain ⟨a, hsplit, hpq, hq, hnew, hallowed, rfl, hpasses, htaken⟩ := hstep.taken (by simp)
          have hpass := hpasses rfl
          have hreached : reached peer (done.map RawAttr.type) (blockAttrs ((buf.drop p).take (endp - p))) =
              a :: reached peer ((a :: done).map RawAttr.type) (blockAttrs ((buf.drop q).take (endp - q))) := by
            rw [blockAttrs_cons hsplit, reached, if_neg hnew, if_pos hpass]
            rfl
          unfold Agree
          rw [hloop1, hloop2, hreached]
          refine (ih hq (by omega) (htaken.held rfl)).imp (fun h => ?_) fun h => ?_
          · refine ⟨List.forall_mem_cons.mpr ⟨hallowed, h.1⟩, h.2.mono fun r q' hwalked => ?_⟩
            refine ⟨fun hret attrs hacc => ?_, fun hret => ?_⟩
            · obtain ⟨attrs', -, -, -, hacc⟩ := hacc.uncons hsplit
              exact hwalked.1 hret attrs' hacc
            · obtain ⟨attrs, h⟩ := hwalked.2 hret
              exact ⟨a :: attrs, h.cons hsplit hnew hpass htaken⟩
          · obtain ⟨hnone, b, hb, hnot⟩ := h
            exact ⟨hnone, b, List.mem_cons_of_mem _ hb, hnot⟩
      · right
        rw [attrLoop, bind_run hpos, if_pos hlt, bind_none hnone]
        refine ⟨rfl, a, ?_, hnot⟩
        rw [blockAttrs_cons hsplit, reached, if_neg hnew]
        exact List.mem_cons_self
    · left
      have hblock : (buf.drop p).take (endp - p) = [] := by rw [Nat.sub_eq_zero_of_le (not_lt.mp hlt), List.take_zero]
      refine ⟨by simp [hblock, blockAttrs, records, reached], (.proceed, st), p, ⟨by simp, fun _ => ?_⟩, ?_, ?_⟩
      · exact ⟨[], .nil _, hp, by simp, by simp, hst.interned, fun _ => ⟨by omega, by simp, hst⟩, by simp, by simp, rfl, rfl⟩
      all_goals
        rw [attrLoop, bind_run hpos, if_neg hlt]
        rfl

end loop

/-- `AS4_PATH` is ignored: besides `AS4_AGGREGATOR` there is an `AGGREGATOR` of a known AS. -/
def IgnoresAs4Path (st : AttrState) : Prop :=
  st.attr.flag .as4Aggregator ∧ st.attr.flag .aggregator ∧ st.attr.extraGet.aggregatorAs ≠ bgpAsTrans

/-- What the attributes hold after the loop. -/
structure Complete (peer : AttrPeer) (st : AttrState) : Prop where
  interned : Interned st
  asPathFlag : st.attr.flag .asPath → st.attr.aspath.isSome
  as4PathFlag : peer.as4Rcv = false → st.attr.flag .as4Path → ¬IgnoresAs4Path st →
    st.attr.aspath.isSome ∧ st.as4Path.isSome
  aggregatorFlag : st.attr.flag .aggregator → st.attr.extra.isSome

lemma mungeAspath_some (hst : Interned st) (haspath : st.attr.aspath.isSome)
    (has4 : st.as4Path.isSome) :
    ∃ st', mungeAspath st = some st' ∧ Interned st' ∧ st'.attr.aspath.isSome := by
  obtain ⟨x, hx⟩ := isSome_iff_exists.mp has4
  obtain ⟨old, hold⟩ := isSome_iff_exists.mp haspath
  obtain ⟨-, y, hy, -⟩ := aspathReconcileAs4_some old x
  obtain ⟨t, ht, hle⟩ := aspathUnintern_some haspath hst
  rw [← hold] at hy
  refine ⟨{ st with ashash := aspathIntern t y, attr := { st.attr with aspath := some y } }, ?_, le_aspathIntern y hle,
    rfl⟩
  simp only [mungeAspath, hx, hy, ht, bind_eq_bind, bind_some]

lemma mungeAggregator_some (h : st.attr.flag .aggregator → st.attr.extra.isSome) :
    ∃ b st', mungeAggregator st = some (b, st') ∧ (b ↔ IgnoresAs4Path st) ∧ st'.attr.aspath = st.attr.aspath ∧
      st'.as4Path = st.as4Path ∧ st'.ashash = st.ashash ∧ ∀ t, t ≠ .aggregator → st'.attr.flag t = st.attr.flag t := by
  unfold mungeAggregator IgnoresAs4Path
  split_ifs with has4 hagg
  · obtain ⟨extra, hextra⟩ := isSome_iff_exists.mp (h hagg)
    simp only [hextra, bind_eq_bind, bind_some, UpdateAttr.extraGet, getD_some, has4, hagg, true_and]
    split_ifs with has
    · exact ⟨_, _, rfl, by simpa using has, rfl, rfl, rfl, fun _ _ => rfl⟩
    · exact ⟨_, _, rfl, by simpa using has, rfl, rfl, rfl, fun _ _ => rfl⟩
  · exact ⟨_, _, rfl, by simp [hagg], rfl, rfl, rfl, fun t ht => update_of_ne ht _ _⟩
  · exact ⟨_, _, rfl, by simp [has4], rfl, rfl, rfl, fun _ _ => rfl⟩

lemma bgpAttrMungeAs4Attrs_some (h : Complete peer st) :
    ∃ st', bgpAttrMungeAs4Attrs peer st = some st' ∧ Interned st' ∧
      (st'.attr.flag .asPath → st'.attr.aspath.isSome) := by
  unfold bgpAttrMungeAs4Attrs
  by_cases has4 : peer.as4Rcv
  · rw [if_pos has4]
    exact ⟨st, rfl, h.interned, h.asPathFlag⟩
  obtain ⟨b, st1, hagg, hignore, haspath, has4Path, hashash, hflag⟩ := mungeAggregator_some h.aggregatorFlag
  have hinterned : Interned st1 := by
    unfold Interned
    rw [haspath, has4Path, hashash]
    exact h.interned
  simp only [hagg, bind_eq_bind, bind_some]
  split_ifs with hmunge
  · rw [Bool.and_eq_true, hflag _ (by simp), Bool.not_eq_true', ← Bool.not_eq_true, hignore] at hmunge
    obtain ⟨hpath, hpath4⟩ := h.as4PathFlag (by simpa using has4) hmunge.2 hmunge.1
    obtain ⟨st2, hst2, hinterned', hsome⟩ := mungeAspath_some hinterned (haspath ▸ hpath) (has4Path ▸ hpath4)
    exact ⟨st2, hst2, hinterned', fun _ => hsome⟩
  · refine ⟨st1, rfl, hinterned, fun hset => ?_⟩
    rw [hflag _ (by simp)] at hset
    exact haspath ▸ h.asPathFlag hset

/-- Without `AS_PATH` there is nothing to which `AS4_PATH` belongs. -/
lemma bgpAttrMungeAs4Attrs_none (hagg : st.attr.flag .aggregator → st.attr.extra.isSome) (hrcv : peer.as4Rcv = false)
    (hflag : st.attr.flag .as4Path) (hignore : ¬IgnoresAs4Path st) (haspath : st.attr.aspath = none) :
    bgpAttrMungeAs4Attrs peer st = none := by
  obtain ⟨b, st1, hmunge, hb, hpath, -, -, hflags⟩ := mungeAggregator_some hagg
  have hfalse : b = false := by simpa using mt hb.mp hignore
  rw [bgpAttrMungeAs4Attrs, if_neg (by simp [hrcv]), hmunge]
  simp only [bind_eq_bind, bind_some, hfalse, Bool.not_false, Bool.true_and, hflags .as4Path (by simp), hflag, if_true]
  rw [mungeAspath, hpath, haspath]
  cases st1.as4Path <;> rfl

lemma bgpAttrAspathCheck_some (peer : AttrPeer) (hst : Interned st) (haspath : st.attr.aspath.isSome) :
    ∃ r, bgpAttrAspathCheck peer st = some r := by
  obtain ⟨x, hx⟩ := isSome_iff_exists.mp haspath
  obtain ⟨t, ht, -⟩ := aspathUnintern_some haspath hst
  rw [hx] at ht
  unfold bgpAttrAspathCheck
  simp only [hx, ht, bind_eq_bind, bind_some]
  split_ifs <;> exact ⟨_, rfl⟩

lemma attrFinish_inside (h : Complete peer st) (he : endp ≤ buf.length) (hp : p ≤ endp) :
    Inside buf endp p (attrFinish peer endp st) fun r q => r.1 = .proceed → q = endp := by
  refine (Inside.pos he hp).bind_eq fun hp => ?_
  by_cases hend : p = endp
  · subst hend
    rw [if_neg (not_not.mpr rfl)]
    obtain ⟨st1, hmunge, hinterned, hflag⟩ := bgpAttrMungeAs4Attrs_some h
    refine (Inside.lift_eq hmunge hp).bind_eq fun hq => ?_
    obtain ⟨st2, hdrop, hinterned', hattr, -⟩ := dropAs4Path_some hinterned
    refine (Inside.lift_eq hdrop hq).bind_eq fun hq => ?_
    split_ifs with hset
    · rw [hattr] at hset
      obtain ⟨r, hr⟩ := bgpAttrAspathCheck_some peer hinterned' (hattr ▸ hflag hset)
      exact .lift hr hq fun _ => rfl
    · exact .pure hq fun _ => rfl
  · rw [if_pos hend]
    exact .mono (dropAs4Path_inside .error h.interned hp) fun r q hr hret => nomatch hr.2.1.symm.trans hret

lemma bgpAttrAspathCheck_ne_withdraw (h : bgpAttrAspathCheck peer st = some r) : r.1 ≠ .withdraw := by
  obtain ⟨x, -, h⟩ := bind_eq_some_iff.mp h
  split_ifs at h
  · cases h
    simp
  · cases h
    simp
  · obtain ⟨t, -, h⟩ := bind_eq_some_iff.mp h
    cases h
    simp
  · cases h
    simp

lemma attrFinish_ne_withdraw {s s' : Stream} (h : (attrFinish peer endp st).run s = some (r, s')) :
    r.1 ≠ .withdraw := by
  rw [attrFinish, bind_run pos_run] at h
  by_cases hend : s.pos ≠ endp
  · rw [if_pos hend, StateT.run_bind] at h
    obtain ⟨⟨st1, s1⟩, -, h⟩ := bind_eq_some_iff.mp h
    cases h
    simp
  rw [if_neg hend, StateT.run_bind] at h
  obtain ⟨⟨st1, s1⟩, -, h⟩ := bind_eq_some_iff.mp h
  rw [StateT.run_bind] at h
  obtain ⟨⟨st2, s2⟩, -, h⟩ := bind_eq_some_iff.mp h
  split_ifs at h
  · obtain ⟨r', hr, h⟩ := bind_eq_some_iff.mp h
    cases h
    exact bgpAttrAspathCheck_ne_withdraw hr
  · cases h
    simp

/-- Attributes of which `AS4_PATH` is ignored. -/
def AggregatorKnown (peer : AttrPeer) (attrs : List RawAttr) : Prop :=
  (∃ a ∈ attrs, a.type = 18 ∧ a.Right peer) ∧
    ∃ a ∈ attrs, a.type = 7 ∧ a.Right peer ∧ shortAggregatorAs a.value ≠ bgpAsTrans
  deriving Decidable

/-- The parser has an answer to each attribute that it comes to, and when it comes to the end with an `AS4_PATH` of a peer
with two-byte numbers, there is an `AS_PATH` or `AS4_PATH` is ignored. -/
structure Parsable (peer : AttrPeer) (block : List UInt8) : Prop where
  allowed : ∀ a ∈ reached peer [] (blockAttrs block), a.Allowed
  path : peer.as4Rcv = false → ∀ attrs, Accepted peer [] block attrs → (∃ a ∈ attrs, a.type = 17) →
    (∃ a ∈ attrs, a.type = 2) ∨ AggregatorKnown peer attrs

lemma Held.ignores_iff (h : Held peer attrs st) (hrcv : peer.as4Rcv = false) :
    IgnoresAs4Path st ↔ AggregatorKnown peer attrs := by
  unfold IgnoresAs4Path AggregatorKnown
  rw [h.as4Aggregator, h.aggregator]
  refine and_congr_right fun _ => ⟨?_, ?_⟩
  · rintro ⟨⟨a, ha, htype, hright⟩, has⟩
    rw [h.aggregatorAs hrcv a ha htype hright] at has
    exact ⟨a, ha, htype, hright, has⟩
  · rintro ⟨a, ha, htype, hright, has⟩
    rw [← h.aggregatorAs hrcv a ha htype hright] at has
    exact ⟨⟨a, ha, htype, hright⟩, has⟩

/-- An `AS4_PATH` of a peer with two-byte numbers comes with an `AS_PATH`, or is ignored. -/
def PathsBelong (peer : AttrPeer) (attrs : List RawAttr) : Prop :=
  peer.as4Rcv = false → (∃ a ∈ attrs, a.type = 17) → (∃ a ∈ attrs, a.type = 2) ∨ AggregatorKnown peer attrs

lemma pathsBelong_reverse : PathsBelong peer attrs.reverse ↔ PathsBelong peer attrs := by
  simp only [PathsBelong, AggregatorKnown, List.mem_reverse]

/-- Behind a block that was accepted, the parser finishes exactly when the paths belong together. -/
lemma Held.finish (h : Held peer attrs st) (he : endp ≤ buf.length) :
    (PathsBelong peer attrs ∧
      Inside buf endp endp (attrFinish peer endp st) fun r q => r.1 = .proceed → q = endp) ∨
    (¬PathsBelong peer attrs ∧ (attrFinish peer endp st).run (.at buf endp) = none) := by
  by_cases hpath : PathsBelong peer attrs
  · refine .inl ⟨hpath, attrFinish_inside ⟨h.interned, h.asPathFlag, fun hrcv hflag hignore => ?_, h.extra⟩ he le_rfl⟩
    have hsome := h.as4PathFlag.mp hflag
    rw [h.ignores_iff hrcv] at hignore
    exact ⟨h.aspath.mpr ((hpath hrcv (h.as4Path.mp hsome)).resolve_right hignore), hsome⟩
  · refine .inr ⟨hpath, ?_⟩
    unfold PathsBelong at hpath
    push Not at hpath
    obtain ⟨hrcv, h17, h2, hignore⟩ := hpath
    rw [← h.ignores_iff hrcv] at hignore
    have hnone : st.attr.aspath = none := by
      rw [← not_isSome_iff_eq_none, h.aspath]
      simpa using h2
    have hmunge := bgpAttrMungeAs4Attrs_none h.extra hrcv (h.as4PathFlag.mpr (h.as4Path.mpr h17)) hignore hnone
    rw [attrFinish, bind_run (pos_run_at he), if_neg (not_not.mpr rfl)]
    refine bind_none ?_
    rw [hmunge]
    rfl

lemma attrParse_cases (t : AsTable) (hsize : p + size ≤ buf.length) :
    (Parsable peer ((buf.drop p).take size) ∧ Agree buf p (bgpAttrParse peer size t)
      (attrParseWith peer (handleConfined peer) size t) fun r q => r.1 = .proceed → q = p + size) ∨
    (¬Parsable peer ((buf.drop p).take size) ∧ (bgpAttrParse peer size t).run (.at buf p) = none) := by
  have hpos := pos_run_at (show p ≤ buf.length by omega)
  have hblock : p + size - p = size := by omega
  obtain ⟨hallowed, ⟨ret, st⟩, q, ⟨hnot, hwalked⟩, hrun, hrun'⟩ | ⟨hnone, a, ha, hnot⟩ :=
    attrLoop_agree peer hsize (Nat.le_add_right p size) (show p + size - p < size + 1 by omega) (held_init peer t)
  · rw [hblock] at hallowed hnot
    have hparse (handle) (hrun : (attrLoop peer handle (p + size) (size + 1) [] (.init t)).run (.at buf p) =
        some ((ret, st), .at buf q)) : (attrParseWith peer handle size t).run (.at buf p) =
          (if ret = .proceed then attrFinish peer (p + size) st else return (ret, st)).run (.at buf q) := by
      rewrite [attrParseWith, bind_run hpos, bind_run hrun]
      cases ret <;> rfl
    have hparse1 := hparse _ hrun
    have hparse2 := hparse _ hrun'
    by_cases hret : ret = .proceed
    · subst hret
      obtain ⟨attrs, h⟩ := hwalked (by simp)
      obtain ⟨rfl, hpasses, hheld⟩ := h.proceed rfl
      have hpeeled := h.peeled
      rw [hblock, Nat.sub_self, List.take_zero] at hpeeled
      have hacc : Accepted peer [] ((buf.drop p).take size) attrs := ⟨hpeeled, by simp, h.nodup, hpasses⟩
      have hunique {attrs'} (h' : Accepted peer [] ((buf.drop p).take size) attrs') : attrs' = attrs :=
        (blockAttrs_eq h'.peeled).symm.trans (blockAttrs_eq hpeeled)
      rw [List.append_nil] at hheld
      obtain ⟨hpath, r, q, -, hq, hfinish, -⟩ | ⟨hpath, hnone⟩ := hheld.finish hsize
      · rw [pathsBelong_reverse] at hpath
        refine .inl ⟨⟨hallowed, fun hrcv attrs' hacc' => ?_⟩, r, q, hq, hparse1.trans hfinish, hparse2.trans hfinish⟩
        rw [hunique hacc']
        exact hpath hrcv
      · rw [pathsBelong_reverse] at hpath
        exact .inr ⟨fun hparsable => hpath fun hrcv => hparsable.path hrcv attrs hacc, hparse1.trans hnone⟩
    · rw [if_neg hret] at hparse1 hparse2
      refine .inl ⟨⟨hallowed, fun _ attrs hacc => ?_⟩, _, q, fun h => absurd h hret, hparse1, hparse2⟩
      exact absurd hacc (hnot hret attrs)
  · rw [hblock] at ha
    refine .inr ⟨fun hparsable => hnot (hparsable.allowed a ha), ?_⟩
    rw [bgpAttrParse, attrParseWith, bind_run hpos]
    exact bind_none hnone

/-- Where the parser asks to withdraw the routes, it has just taken an `AS4_PATH`. -/
lemma attrParse_withdraw {c : Stream} (hsize : p + size ≤ buf.length)
    (h : (bgpAttrParse peer size t).run (.at buf p) = some ((.withdraw, st), c)) :
    ∃ attrs q, c = .at buf q ∧ Walked peer buf (p + size) p [] (.init t) attrs (.withdraw, st) q := by
  have hpos := pos_run_at (show p ≤ buf.length by omega)
  rw [bgpAttrParse, attrParseWith, bind_run hpos] at h
  have hloop := attrLoop_agree peer hsize (Nat.le_add_right p size) (show p + size - p < size + 1 by omega)
    (held_init peer t)
  rw [List.map_nil] at hloop
  obtain ⟨-, ⟨ret, st1⟩, q, ⟨-, hwalked⟩, hrun, -⟩ | ⟨hnone, -⟩ := hloop
  · rw [bind_run hrun] at h
    cases ret with
    | error => cases h
    | proceed => exact absurd rfl (attrFinish_ne_withdraw h)
    | withdraw =>
      cases h
      obtain ⟨attrs, hattrs⟩ := hwalked (by simp)
      exact ⟨attrs, q, rfl, hattrs⟩
  · rw [bind_none hnone] at h
    cases h

/-- The parser has an answer, which is the same when each handler sees the stream up to its attribute's end
only, exactly for the blocks that are `Parsable`. -/
theorem bgpAttrParse_confined (peer : AttrPeer) (t : AsTable) (s : Stream) (size : Nat) (hsize : size ≤ s.rest.length) :
    (∃ ret st s', (bgpAttrParse peer size t).run s = some ((ret, st), s') ∧
      (attrParseWith peer (handleConfined peer) size t).run s = some ((ret, st), s') ∧
      (ret = .proceed → s' = s.advance size)) ↔ Parsable peer (s.rest.take size) := by
  have hs : Cursor.at s.all s.pos = s := Cursor.at_all
  have hrest : s.all.drop s.pos = s.rest := congrArg Cursor.rest hs
  have hle : s.pos + size ≤ s.all.length := by
    rw [← Cursor.pos_add_rest]
    omega
  rw [← hrest]
  obtain ⟨hparsable, ⟨ret, st⟩, q, hq, hrun, hrun'⟩ | ⟨hparsable, hnone⟩ := attrParse_cases t hle
  · rw [hs] at hrun hrun'
    refine iff_of_true ⟨ret, st, _, hrun, hrun', fun hret => ?_⟩ hparsable
    rw [hq hret, ← Cursor.advance_at, hs]
  · rw [hs] at hnone
    refine iff_of_false ?_ hparsable
    rintro ⟨ret, st, s', hrun, -⟩
    rw [hnone] at hrun
    cases hrun

def pathAttrs : List UInt8 :=
  [0x40, 1, 1, 0, 0x40, 2, 4, 2, 1, 0x5B, 0xA0, 0x40, 3, 4, 10, 0, 0, 1, 0xC0, 17, 6, 2, 1, 0, 1, 0, 0]

def oldSpeaker : AttrPeer := ⟨.ebgp, false, 23456, false, 0, false⟩

theorem bgpAttrParse_confined_path :
    pathAttrs.length ≤ (⟨[], pathAttrs⟩ : Stream).rest.length ∧ Parsable oldSpeaker pathAttrs ∧
    ∃ ret st s', (bgpAttrParse oldSpeaker pathAttrs.length fun _ => 0).run ⟨[], pathAttrs⟩ =
        some ((ret, st), s') ∧
      (attrParseWith oldSpeaker (handleConfined oldSpeaker) pathAttrs.length fun _ => 0).run ⟨[], pathAttrs⟩ =
        some ((ret, st), s') ∧
      (ret = .proceed → s' = (⟨[], pathAttrs⟩ : Stream).advance pathAttrs.length) := by
  have hparsable : Parsable oldSpeaker pathAttrs := by
    refine ⟨by decide, fun _ attrs hacc _ => .inl ?_⟩
    rw [← blockAttrs_eq hacc.peeled]
    decide
  exact ⟨by decide, hparsable,
    (bgpAttrParse_confined oldSpeaker (fun _ => 0) ⟨[], pathAttrs⟩ pathAttrs.length (by decide)).mpr hparsable⟩

/-- `AS4_PATH` without `AS_PATH`, an unknown attribute to be passed on, and an attribute of type 19. -/
theorem bgpAttrParse_fails :
    (bgpAttrParse oldSpeaker 9 fun _ => 0).run ⟨[], [0xC0, 17, 6, 2, 1, 0, 1, 0, 0]⟩ = none ∧
    (bgpAttrParse oldSpeaker 3 fun _ => 0).run ⟨[], [0xC0, 32, 0]⟩ = none ∧
    (bgpAttrParse oldSpeaker 3 fun _ => 0).run ⟨[], [0xC0, 19, 0]⟩ = none :=
  ⟨rfl, rfl, rfl⟩

end OspfMdr.Bgp
