import OspfMdr.Model.IsisParse

namespace OspfMdr.IsisTlv
open Lib TlvBody

variable {expected : BitVec 32} {mem : Nat → UInt8} {size value length : Nat}

/-- The headers from `pos` on, each where the length of the one before says it starts. -/
def declaredHeaders (mem : Nat → UInt8) (size fuel pos : Nat) : List Nat :=
  (walk (fun p => decide (p + 2 < size)) (fun p => 2 + (mem (p + 1)).toNat) (fun s _ => some s)
    fuel () pos).visited

/-- The elements of an expected value fill it exactly. -/
def TlvBody.Fits (value length : Nat) : TlvBody → Prop
  | elements lead _ size => ∃ l, Tiles size (value + length) (value + lead) l
  | way3Hello => length = 0
  | _ => True

/-- The value ends before the first element would start, and the PDU with it. -/
def TlvBody.short (size value length : Nat) : TlvBody → Bool
  | elements lead joined _ => !joined && decide (length < lead ∧ size ≤ value + lead + 2)
  | _ => false

/-- Whatever the value of the TLV at `p` is, nothing is read behind it. -/
def stopsAt (expected : BitVec 32) (mem : Nat → UInt8) (size p : Nat) : Bool :=
  decide (size < p + 2 + (mem (p + 1)).toNat) || (bodyAt expected mem p).refused (mem (p + 1)).toNat ||
    (bodyAt expected mem p).short size (p + 2) (mem (p + 1)).toNat

/-- Each element that was read lies in the value of the TLV. -/
def TlvRead.Inside (mem : Nat → UInt8) (r : TlvRead) : Prop :=
  ∀ e ∈ r.elements, r.pos + 2 ≤ e.1 ∧ e.2 ≤ r.pos + 2 + (mem (r.pos + 1)).toNat

lemma bodyAt_pos {pos lead : Nat} {joined : Bool} {sz : Nat → Nat}
    (h : bodyAt expected mem pos = elements lead joined sz) (q : Nat) : 0 < sz q := by
  unfold bodyAt tlvBody each at h
  grind

lemma parseBody_fits {pos : Nat} (h : (bodyAt expected mem pos).Fits value length) :
    ∃ es, parseBody value length (bodyAt expected mem pos) = some (es, value + length) ∧
      ∀ e ∈ es, value ≤ e.1 ∧ e.2 ≤ value + length := by
  cases hb : bodyAt expected mem pos with
  | elements lead joined sz =>
    have hpos := bodyAt_pos hb
    obtain ⟨l, hl⟩ := hb ▸ h
    have hin := hl.mem_bounds
    have hlen := hl.length_le fun q _ => hpos q
    obtain ⟨hv, hc⟩ := (walk_of_tiles (fun q => decide (q < value + length)) (fun s _ => some s) hl
      (fun q hq => by have := hin q hq; have := hpos q; simp; omega) (by simp)
      (length + 1) (by omega) ()).2.2 (walk_isSome ..)
    simp only [parseBody, hv, hc]
    refine ⟨_, rfl, ?_⟩
    cases joined with
    | true => simp
    | false =>
      simp only [Bool.false_eq_true, if_false, List.forall_mem_map]
      intro q hq
      have := hin q hq
      omega
  | way3Hello =>
    obtain rfl : length = 0 := by simpa [hb, Fits] using h
    exact ⟨[], rfl, by simp⟩
  | authInfo | whole => exact ⟨[], rfl, by simp⟩

/-- A value that is not filled: an element leaves it, or the next header is looked for behind its end. -/
lemma fits_of_parseBody (size : Nat) {pos next : Nat} {es : List (Nat × Nat)}
    (h : parseBody value length (bodyAt expected mem pos) = some (es, next))
    (hin : ∀ e ∈ es, e.2 ≤ value + length) :
    (bodyAt expected mem pos).Fits value length ∨ value + length < next ∧
      ((bodyAt expected mem pos).short size value length ∨ next + 2 < size) := by
  cases hb : bodyAt expected mem pos with
  | elements lead joined sz =>
    rw [hb] at h
    have hlast := walk_last (fun q => decide (q < value + length)) sz (length + 1) (value + lead)
    have hstop := @stop_le_walk_cursor (value + length) sz (bodyAt_pos hb) (length + 1) (value + lead) (by omega)
    have htiles := @tiles_of_walk sz (value + length) _ (fun (s : Unit) _ => some s) (length + 1) () (value + lead)
      (walk_isSome ..)
    simp only [parseBody, Option.some.injEq, Prod.mk.injEq] at h
    obtain ⟨rfl, rfl⟩ := h
    rcases hstop.eq_or_lt with heq | hlt
    · exact .inl ⟨_, htiles heq.symm⟩
    right
    cases joined with
    | true =>
      have := hin _ (List.mem_singleton_self _)
      dsimp only at this
      omega
    | false =>
      simp only [Bool.false_eq_true, if_false, List.forall_mem_map] at hin
      rcases hlast with hstart | ⟨q, hq, hend⟩
      · rw [hstart] at hlt ⊢
        refine ⟨hlt, ?_⟩
        simp only [short, Bool.not_false, Bool.true_and, decide_eq_true_eq]
        omega
      · have := hin q hq
        omega
  | way3Hello =>
    rw [hb] at h
    simp only [parseBody] at h
    split_ifs at h with h0
    exact .inl h0
  | authInfo => exact .inl trivial
  | whole => exact .inl trivial

/-- The TLVs at the headers fit, up to one behind which nothing is read. -/
def TlvsFit (expected : BitVec 32) (mem : Nat → UInt8) (size : Nat) (headers : List Nat) : Prop :=
  ∀ p ∈ headers.takeWhile fun p => !stopsAt expected mem size p,
    (bodyAt expected mem p).Fits (p + 2) (mem (p + 1)).toNat

/-- From `pos` on the headers follow the lengths and the elements stay in their TLVs. -/
def ReadsFrom (expected : BitVec 32) (mem : Nat → UInt8) (size fuel pos : Nat) : Prop :=
  ∃ ok reads, readLoop expected mem size fuel pos = some (ok, reads) ∧
    reads.map TlvRead.pos <+: declaredHeaders mem size fuel pos ∧ ∀ r ∈ reads, r.Inside mem

section loop

variable {fuel pos : Nat}

lemma declaredHeaders_cons (hp : pos + 2 < size) : declaredHeaders mem size (fuel + 1) pos =
    pos :: declaredHeaders mem size fuel (pos + 2 + (mem (pos + 1)).toNat) := by
  simp [declaredHeaders, walk, hp, add_assoc]

lemma readsFrom_of_stops (hfuel : size < fuel + 1 + pos) (hp : pos + 2 < size)
    (hstop : stopsAt expected mem size pos) : ReadsFrom expected mem size (fuel + 1) pos := by
  unfold ReadsFrom readLoop
  rw [declaredHeaders_cons hp, if_pos hp]
  dsimp only
  split_ifs with hcut
  · exact ⟨false, [⟨pos, []⟩], rfl, by simp, by simp [TlvRead.Inside]⟩
  rw [not_or] at hcut
  have hshort : (bodyAt expected mem pos).short size (pos + 2) (mem (pos + 1)).toNat := by
    simpa [stopsAt, hcut.1, hcut.2, not_lt.mp hcut.1] using hstop
  obtain ⟨fuel, rfl⟩ : ∃ k, fuel = k + 1 := Nat.exists_eq_succ_of_ne_zero (by omega)
  cases hb : bodyAt expected mem pos with
  | elements lead joined sz =>
    rw [hb] at hshort
    simp only [short, Bool.and_eq_true, Bool.not_eq_true', decide_eq_true_eq] at hshort
    obtain ⟨rfl, hlead, hend⟩ := hshort
    have hnone : ¬pos + 2 + lead < pos + 2 + (mem (pos + 1)).toNat := by omega
    have hdone : ¬pos + 2 + lead + 2 < size := by omega
    refine ⟨(tlvBody mem (mem pos)).isSome, [⟨pos, []⟩], ?_, by simp, by simp [TlvRead.Inside]⟩
    simp [parseBody, walk, hnone, readLoop, hdone]
  | authInfo | way3Hello | whole => simp [hb, short] at hshort

lemma readLoop_head {r : Bool × List TlvRead} (hp : pos + 2 < size) (h : readLoop expected mem size fuel pos = some r) :
    ∃ k, fuel = k + 1 ∧ ∃ rest, r.2.map TlvRead.pos = pos :: rest := by
  cases fuel with
  | zero => cases h
  | succ fuel =>
    refine ⟨fuel, rfl, ?_⟩
    rw [readLoop, if_pos hp] at h
    dsimp only at h
    split_ifs at h
    · cases h
      exact ⟨[], rfl⟩
    · obtain ⟨⟨es, next⟩, -, h⟩ := Option.bind_eq_some_iff.mp h
      obtain ⟨⟨ok, reads⟩, -, h⟩ := Option.bind_eq_some_iff.mp h
      cases h
      exact ⟨_, rfl⟩

/-- One round reads the header at `pos` and goes on where its length says. -/
lemma readsFrom_iff_next (hp : pos + 2 < size) (hstop : stopsAt expected mem size pos = false) :
    ReadsFrom expected mem size (fuel + 1) pos ↔
      (bodyAt expected mem pos).Fits (pos + 2) (mem (pos + 1)).toNat ∧
        ReadsFrom expected mem size fuel (pos + 2 + (mem (pos + 1)).toNat) := by
  simp only [stopsAt, Bool.or_eq_false_iff, decide_eq_false_iff_not] at hstop
  obtain ⟨⟨hcut, hrefused⟩, hshort⟩ := hstop
  have hgo : ¬(size < pos + 2 + (mem (pos + 1)).toNat ∨
      (bodyAt expected mem pos).refused (mem (pos + 1)).toNat) := by simp [hcut, hrefused]
  unfold ReadsFrom
  rw [declaredHeaders_cons hp, readLoop, if_pos hp]
  dsimp only
  rw [if_neg hgo]
  constructor
  · rintro ⟨ok, reads, hread, hheaders, hin⟩
    obtain ⟨⟨es, next⟩, hbody, hread⟩ := Option.bind_eq_some_iff.mp hread
    obtain ⟨⟨ok', reads'⟩, hrest, hread⟩ := Option.bind_eq_some_iff.mp hread
    cases hread
    rw [List.map_cons, List.cons_prefix_cons] at hheaders
    rw [List.forall_mem_cons] at hin
    rcases fits_of_parseBody size hbody fun e he => (hin.1 e he).2 with hfits | ⟨hbehind, hs | hnext⟩
    · obtain ⟨es', hbody', -⟩ := parseBody_fits hfits
      obtain ⟨rfl, rfl⟩ := Prod.mk.inj (Option.some.inj (hbody.symm.trans hbody'))
      exact ⟨hfits, ok', reads', hrest, hheaders.2, hin.2⟩
    · rw [hshort] at hs
      cases hs
    · -- a header is read behind the one that the length declares
      obtain ⟨fuel, rfl, rest, hpos⟩ := readLoop_head hnext hrest
      rw [hpos, declaredHeaders_cons (by omega), List.cons_prefix_cons] at hheaders
      exact absurd hheaders.2.1 (by omega)
  · rintro ⟨hfits, ok, reads, hrest, hheaders, hin⟩
    obtain ⟨es, hbody, hes⟩ := parseBody_fits hfits
    refine ⟨(tlvBody mem (mem pos)).isSome && ok, ⟨pos, es⟩ :: reads, by simp [hbody, hrest], ?_, ?_⟩
    · simpa using hheaders
    · exact List.forall_mem_cons.mpr ⟨hes, hin⟩

lemma readsFrom_iff (hfuel : size < fuel + pos) (hle : pos ≤ size) : ReadsFrom expected mem size fuel pos ↔
    TlvsFit expected mem size (declaredHeaders mem size fuel pos) := by
  induction fuel generalizing pos with
  | zero => omega
  | succ fuel ih =>
    by_cases hp : pos + 2 < size
    · unfold TlvsFit
      rw [declaredHeaders_cons hp]
      cases hstop : stopsAt expected mem size pos with
      | true =>
        rw [List.takeWhile_cons_of_neg (by simp [hstop])]
        exact iff_of_true (readsFrom_of_stops hfuel hp hstop) (by simp)
      | false =>
        have hend : pos + 2 + (mem (pos + 1)).toNat ≤ size := by
          simp only [stopsAt, Bool.or_eq_false_iff, decide_eq_false_iff_not] at hstop
          omega
        rw [List.takeWhile_cons_of_pos (by simp [hstop]), List.forall_mem_cons, readsFrom_iff_next hp hstop,
          ih (by omega) hend]
        rfl
    · refine iff_of_true ⟨true, [], by simp [readLoop, hp], by simp, by simp⟩ ?_
      simp [TlvsFit, declaredHeaders, walk, hp]

end loop

/-- The parser returns, its headers follow the lengths and its elements stay in their TLVs. -/
def ReadExactly (expected : BitVec 32) (mem : Nat → UInt8) (size : Nat) : Prop :=
  ∃ ok reads, parseTlvs expected mem size = some (ok, reads) ∧
    reads.map TlvRead.pos <+: declaredHeaders mem size (size + 1) 0 ∧ ∀ r ∈ reads, r.Inside mem

/-- The PDU is read exactly as its lengths say if and only if its values are filled by their elements, up to
the first TLV behind which nothing is read. -/
theorem parseTlvs_readExactly (expected : BitVec 32) (mem : Nat → UInt8) (size : Nat) :
    ReadExactly expected mem size ↔ TlvsFit expected mem size (declaredHeaders mem size (size + 1) 0) :=
  readsFrom_iff (by omega) (Nat.zero_le size)

/-- An area address of five bytes in a value of one byte, and the endless loop on an
expected three-way hello. -/
theorem parseTlvs_leaves_value : ¬ ReadExactly 1 (fun p => [1, 1, 5].getD p 0) 3 ∧
    parseTlvs (1 <<< 18) (fun p => [240, 1, 0].getD p 0) 3 = none := by
  refine ⟨?_, by decide⟩
  rintro ⟨ok, reads, h, -, hin⟩
  have hread : parseTlvs 1 (fun p => [1, 1, 5].getD p 0) 3 = some (true, [⟨0, [(2, 8)]⟩]) := by
    decide
  obtain ⟨rfl, rfl⟩ := Prod.mk.inj (Option.some.inj (hread.symm.trans h))
  simp [TlvRead.Inside] at hin

end OspfMdr.IsisTlv
