import OspfMdr.Model.Lls
import OspfMdr.Proofs.PacketExamin

namespace OspfMdr.Ospf6
open Lib List Option

/-- No TLV but the last has padding, and the last one has a value. -/
structure TlvsAligned (m : Memory) (l : List Nat) : Prop where
  unpadded : ∀ q ∈ l.dropLast, tlvVallen m q % 4 = 0
  nonempty : ∀ q ∈ l.getLast?, tlvVallen m q ≠ 0

/-- Of the given type there is at most one TLV, counting one already found, and its value
has the given size. -/
structure TlvsSingle (m : Memory) (type size : Nat) (found : Bool) (l : List Nat) : Prop where
  single : found.toNat + (l.filter fun q => tlvType m q = type).length ≤ 1
  sized : ∀ q ∈ l, tlvType m q = type → tlvVallen m q = size

section Scan
variable {m : Memory} {type size : Nat}

lemma tlvPad_lt (tlv : Nat) : tlvPad m tlv < 4 := by
  unfold tlvPad
  split_ifs <;> omega

lemma tlvPad_eq_zero (tlv : Nat) : tlvPad m tlv = 0 ↔ tlvVallen m tlv % 4 = 0 := by
  unfold tlvPad
  split_ifs with h
  · simp [h]
  constructor
  · intro h0
    omega
  · intro h0
    exact absurd h0 h

variable {lengthLls : Int} {lls len : Nat}

lemma tlvScanLoop_head (type size fuel tlv : Nat) (h : lengthLls > 4) (found : Option Nat) :
    (tlvScanLoop m type size (fuel + 1) tlv lengthLls found).visited.head? = some tlv := by
  simp only [tlvScanLoop, h, ite_true]
  split_ifs <;> rfl

lemma tlvScanLoop_short (fuel tlv : Nat) (h : ¬lengthLls > 4) (found : Option Nat) :
    tlvScanLoop m type size fuel tlv lengthLls found = ⟨[], some found⟩ := by
  cases fuel with
  | zero => rfl
  | succ fuel => simp only [tlvScanLoop, h, ite_false]

lemma tlvScanLoop_step (fuel tlv : Nat) (h : lengthLls > 4)
    (hfit : ((4 + tlvVallen m tlv : Nat) : Int) ≤ lengthLls) (found : Option Nat) (p : Nat) (l : List Nat) :
    (tlvScanLoop m type size (fuel + 1) tlv lengthLls found).Ok (p :: l) ↔
      tlv = p ∧ (tlvType m tlv = type → found = none ∧ tlvVallen m tlv = size) ∧
      (tlvScanLoop m type size fuel (tlv + (4 + tlvVallen m tlv)) (lengthLls - (4 + tlvVallen m tlv : Nat))
        (if tlvType m tlv = type then some (tlv + 4) else found)).Ok l := by
  have hbreak : ¬((4 + tlvVallen m tlv : Nat) : Int) > lengthLls := by omega
  simp only [tlvScanLoop, h, hbreak, ite_true, ite_false, TlvScan.Ok]
  by_cases ht : tlvType m tlv = type
  · cases found with
    | some q => simp [ht]
    | none =>
      by_cases hv : tlvVallen m tlv = size
      · simp [ht, hv, and_assoc]
      · simp [ht, hv]
  · simp [ht, and_assoc]

lemma tlvsSingle_cons (found : Option Nat) (p : Nat) (l : List Nat) :
    TlvsSingle m type size found.isSome (p :: l) ↔
      (tlvType m p = type → found = none ∧ tlvVallen m p = size) ∧
      TlvsSingle m type size (if tlvType m p = type then some (p + 4) else found).isSome l := by
  by_cases ht : tlvType m p = type
  · constructor
    · rintro ⟨h1, h2⟩
      simp only [filter_cons, ht, decide_true, ite_true, length_cons] at h1
      refine ⟨fun _ => ⟨?_, h2 p (by simp) ht⟩, ?_, fun q hq => h2 q (by simp [hq])⟩
      · cases found with
        | none => rfl
        | some q =>
          simp only [isSome_some, Bool.toNat_true] at h1
          omega
      · simp only [ht, ite_true, isSome_some, Bool.toNat_true]
        omega
    · rintro ⟨h1, h2, h3⟩
      obtain ⟨rfl, hv⟩ := h1 ht
      simp only [ht, ite_true, isSome_some, Bool.toNat_true] at h2
      refine ⟨?_, ?_⟩
      · simp only [filter_cons, ht, decide_true, ite_true, length_cons, isSome_none,
          Bool.toNat_false]
        omega
      · intro q hq htq
        rcases mem_cons.mp hq with rfl | hq
        · exact hv
        · exact h3 q hq htq
  · simp only [ht, false_implies, true_and, ite_false]
    constructor
    · rintro ⟨h1, h2⟩
      simp only [filter_cons, ht, decide_false, Bool.false_eq_true, ite_false] at h1
      exact ⟨h1, fun q hq => h2 q (by simp [hq])⟩
    · rintro ⟨h1, h2⟩
      refine ⟨?_, ?_⟩
      · simpa only [filter_cons, ht, decide_false, Bool.false_eq_true, ite_false] using h1
      · intro q hq htq
        rcases mem_cons.mp hq with rfl | hq
        · exact absurd htq ht
        · exact h2 q hq htq

lemma tlvsAligned_singleton (p : Nat) : TlvsAligned m [p] ↔ tlvVallen m p ≠ 0 := by
  constructor
  · intro h
    exact h.nonempty p (by simp)
  · intro h
    exact ⟨by simp, by simpa using h⟩

lemma tlvsAligned_cons_cons (p q : Nat) (l : List Nat) :
    TlvsAligned m (p :: q :: l) ↔ tlvVallen m p % 4 = 0 ∧ TlvsAligned m (q :: l) := by
  constructor
  · intro h
    refine ⟨h.unpadded p (by simp), ?_, ?_⟩
    · intro r hr
      exact h.unpadded r (by simp [hr])
    · intro r hr
      exact h.nonempty r (by simpa using hr)
  · rintro ⟨h0, h⟩
    refine ⟨?_, ?_⟩
    · intro r hr
      rcases mem_cons.mp (by simpa using hr) with rfl | hr
      · exact h0
      · exact h.unpadded r hr
    · intro r hr
      exact h.nonempty r (by simpa using hr)

lemma tlvScanLoop_ok_iff {stop p : Nat} {l : List Nat} (h : Tiles (paddedTlvSize m) stop p l) (fuel : Nat)
    (hfuel : l.length < fuel) (found : Option Nat) :
    (tlvScanLoop m type size fuel p ((stop : Int) - p) found).Ok l ↔
      TlvsAligned m l ∧ TlvsSingle m type size found.isSome l := by
  induction h generalizing fuel found with
  | nil =>
    rw [tlvScanLoop_short _ _ (by omega)]
    refine ⟨fun _ => ⟨⟨by simp, by simp⟩, ⟨?_, by simp⟩⟩, fun _ => ⟨rfl, rfl⟩⟩
    cases found <;> simp
  | @cons p l htail ih =>
    obtain ⟨fuel, rfl⟩ : ∃ k, fuel = k + 1 := ⟨fuel - 1, by omega⟩
    have hpad := tlvPad_lt (m := m) p
    rw [tlvsSingle_cons]
    cases l with
    | nil =>
      have hstop : p + paddedTlvSize m p = stop := by cases htail; rfl
      rw [tlvsAligned_singleton]
      unfold paddedTlvSize at hstop
      by_cases hv : tlvVallen m p = 0
      · have hp0 : tlvPad m p = 0 := (tlvPad_eq_zero p).mpr (by simp [hv])
        rw [tlvScanLoop_short _ _ (by omega)]
        simp [TlvScan.Ok, hv]
      rw [tlvScanLoop_step _ _ (by omega) (by omega), tlvScanLoop_short _ _ (by omega)]
      have hnil : TlvsSingle m type size
          (if tlvType m p = type then some (p + 4) else found).isSome [] := by
        refine ⟨?_, by simp⟩
        cases (if tlvType m p = type then some (p + 4) else found) <;> simp
      simp [TlvScan.Ok, hv, hnil]
    | cons q l =>
      have hq : q = p + paddedTlvSize m p := by cases htail; rfl
      have hnext : q + 4 ≤ stop := by
        have := (htail.mem_bounds q (by simp)).2
        unfold paddedTlvSize at this
        omega
      unfold paddedTlvSize at hq
      rw [tlvsAligned_cons_cons, tlvScanLoop_step _ _ (by omega) (by omega)]
      by_cases hv : tlvVallen m p % 4 = 0
      · have hp0 : tlvPad m p = 0 := (tlvPad_eq_zero p).mpr hv
        have hpos : p + (4 + tlvVallen m p) = p + paddedTlvSize m p := by
          unfold paddedTlvSize
          omega
        have hlen : (stop : Int) - p - (4 + tlvVallen m p : Nat) =
            (stop : Int) - (p + paddedTlvSize m p : Nat) := by
          omega
        rw [hpos, hlen, ih fuel (by simpa using hfuel)]
        simp [hv]
        tauto
      · obtain ⟨fuel, rfl⟩ : ∃ k, fuel = k + 1 :=
          ⟨fuel - 1, by simp only [length_cons] at hfuel; omega⟩
        have hp0 : tlvPad m p ≠ 0 := fun h => hv ((tlvPad_eq_zero p).mp h)
        have hrest : (stop : Int) - p - (4 + tlvVallen m p : Nat) > 4 := by omega
        have hhead := tlvScanLoop_head (m := m) type size fuel (p + (4 + tlvVallen m p)) hrest
          (if tlvType m p = type then some (p + 4) else found)
        constructor
        · rintro ⟨_, _, hvis, _⟩
          rw [hvis, List.head?_cons, some.injEq] at hhead
          omega
        · intro h
          exact absurd h.1.1 hv

/-- The TLVs of a block are ones that a handler walks through correctly. -/
def LlsFits (m : Memory) (type size lls : Nat) : Prop :=
  TlvsAligned m (llsBoundaries m lls) ∧ TlvsSingle m type size false (llsBoundaries m lls)

lemma llsValidate_tiles (h : ospf6LlsValidateDatablock m lls len) :
    Tiles (paddedTlvSize m) (lls + llsDatalen m lls) (lls + 4) (llsBoundaries m lls) := by
  unfold ospf6LlsValidateDatablock at h
  split_ifs at h
  exact tiles_of_walk _ _ _ _ (walk_isSome ..) (of_decide_eq_true h)

lemma tlvScan_ok_iff (h : ospf6LlsValidateDatablock m lls len) :
    (tlvScan m type size lls).Ok (llsBoundaries m lls) ↔ LlsFits m type size lls := by
  have htiles := llsValidate_tiles h
  have hlen := htiles.length_le fun q _ => by unfold paddedTlvSize; omega
  have hstart : (llsDatalen m lls : Int) - 4 =
      ((lls + llsDatalen m lls : Nat) : Int) - (lls + 4 : Nat) := by omega
  unfold tlvScan
  rw [hstart, tlvScanLoop_ok_iff htiles _ (by omega)]
  rfl

end Scan

/-- An accepted block is processed at the checked boundaries exactly if all TLVs but the last are unpadded, the
last has a value, and at most one has the type of the handler, and its size. -/
theorem llsTlvs_processed_iff (m : Memory) (lls len : Nat) (interop : Bool)
    (h : ospf6LlsValidateDatablock m lls len) :
    ((helloTlvScan m interop lls).Ok (llsBoundaries m lls) ↔
        LlsFits m (tlvTypes interop).hello helloTlvSize lls) ∧
    ((ddTlvScan m interop lls).Ok (llsBoundaries m lls) ↔ LlsFits m (tlvTypes interop).dd ddTlvSize lls) :=
  ⟨tlvScan_ok_iff h, tlvScan_ok_iff h⟩

def helloLls : List UInt8 := [255, 223, 0, 4, 0, 14, 0, 8, 0, 5, 0, 0, 0, 0, 0, 1]

theorem helloLls_processed :
    (helloTlvScan (memoryOf helloLls) true 0).Ok (llsBoundaries (memoryOf helloLls) 0) :=
  (llsTlvs_processed_iff (memoryOf helloLls) 0 16 true (by decide)).1.mpr
    ⟨⟨by decide, by decide⟩, ⟨by decide, by decide⟩⟩

def twoHelloLls : List UInt8 :=
  [255, 191, 0, 7, 0, 14, 0, 8, 0, 5, 0, 0, 0, 0, 0, 1, 0, 14, 0, 8, 0, 6, 0, 0, 0, 0, 0, 1]

def paddedLls : List UInt8 :=
  [248, 219, 0, 6, 0, 1, 0, 1, 7, 0, 0, 0, 0, 14, 0, 8, 0, 5, 0, 0, 0, 0, 0, 1]

/-- The second Hello TLV fails an assertion, and behind a padded TLV the boundaries are left. -/
theorem llsTlvs_not_processed :
    ospf6LlsValidateDatablock (memoryOf twoHelloLls) 0 28 ∧
    (helloTlvScan (memoryOf twoHelloLls) true 0).value = none ∧
    ospf6LlsValidateDatablock (memoryOf paddedLls) 0 24 ∧ llsBoundaries (memoryOf paddedLls) 0 = [4, 12] ∧
    (helloTlvScan (memoryOf paddedLls) true 0).visited = [4, 9, 13] := by
  decide

end OspfMdr.Ospf6
