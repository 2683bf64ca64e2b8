import Mathlib.Data.Nat.Bitwise
import OspfMdr.Model.PrefixTable

namespace OspfMdr.Ospf6
open Lib List FamilyPrefix

section bytes

variable {a b : UInt8} {s : Nat}

/-- The bits of a byte, the highest one first. -/
def byteBit (a : UInt8) (j : Nat) : Bool := a.toNat.testBit (7 - j)

lemma byte_eq_iff : a = b ↔ ∀ j < 8, byteBit a j = byteBit b j := by
  refine ⟨fun h j _ => by rw [h], fun h => ?_⟩
  rw [← UInt8.toNat_inj]
  refine Nat.eq_of_testBit_eq fun i => ?_
  rcases lt_or_ge i 8 with hi | hi
  · have hbit := h (7 - i) (by omega)
    unfold byteBit at hbit
    rwa [show 7 - (7 - i) = i by omega] at hbit
  · have hpow : 2 ^ 8 ≤ 2 ^ i := Nat.pow_le_pow_right (by omega) hi
    rw [Nat.testBit_lt_two_pow (lt_of_lt_of_le a.toNat_lt hpow), Nat.testBit_lt_two_pow (lt_of_lt_of_le b.toNat_lt hpow)]

lemma byteBit_maskbit : ∀ s < 9, ∀ j < 8, byteBit (maskbit s) j = decide (j < s) := by decide

lemma byteBit_and (j : Nat) : byteBit (a &&& b) j = (byteBit a j && byteBit b j) := by
  simp [byteBit, UInt8.toNat_and]

lemma byteBit_xor (j : Nat) : byteBit (a ^^^ b) j = (byteBit a j ^^ byteBit b j) := by
  simp [byteBit, UInt8.toNat_xor]

lemma byteBit_zero (j : Nat) : byteBit 0 j = false := by simp [byteBit]

lemma maskbit_and_xor (hs : s < 9) :
    maskbit s &&& (a ^^^ b) = 0 ↔ ∀ j < 8, j < s → byteBit a j = byteBit b j := by
  rw [byte_eq_iff]
  refine forall₂_congr fun j hj => ?_
  rw [byteBit_and, byteBit_xor, byteBit_zero, byteBit_maskbit s hs j hj]
  by_cases hjs : j < s <;> simp [hjs]

end bytes

namespace FamilyPrefix

variable {w : Nat} {n p : FamilyPrefix w} {i : Nat}

lemma bit_eq (p : FamilyPrefix w) (i : Nat) : p.bit i = byteBit (p.byte (i / 8)) (i % 8) := by
  unfold bit prefixBit byteBit byte
  rw [Nat.testBit_eq_decide_div_mod_eq, Nat.shiftRight_eq_div_pow, Nat.and_one_is_mod]

lemma length_masked (p : FamilyPrefix w) : p.masked.length = p.prefixlen := by simp [masked]

lemma bitAt_masked (hi : i < p.prefixlen) : bitAt p.masked i = p.bit i := by
  simp [bitAt, masked, hi]

lemma masked_isPrefix :
    n.masked <+: p.masked ↔ n.prefixlen ≤ p.prefixlen ∧ ∀ i < n.prefixlen, n.bit i = p.bit i := by
  rw [prefix_iff_getElem]
  simp only [masked, length_map, length_range, getElem_map, getElem_range, exists_prop]

lemma prefixMatch_iff : prefixMatch n p ↔ n.masked <+: p.masked := by
  rw [masked_isPrefix]
  unfold prefixMatch
  dsimp only
  split_ifs with hlen hmask
  · simp only [false_iff]
    omega
  · simp only [false_iff, not_and]
    intro _ hbits
    refine hmask.2 ((maskbit_and_xor (by omega)).mpr fun j hj hjs => ?_)
    have hbit := hbits (8 * (n.prefixlen / 8) + j) (by omega)
    rw [bit_eq, bit_eq] at hbit
    rwa [show (8 * (n.prefixlen / 8) + j) / 8 = n.prefixlen / 8 by omega,
      show (8 * (n.prefixlen / 8) + j) % 8 = j by omega] at hbit
  · simp only [all_eq_true, mem_range, decide_eq_true_eq]
    refine ⟨fun h => ⟨by omega, fun i hi => ?_⟩, fun h i hi => ?_⟩
    · rw [bit_eq, bit_eq]
      rcases lt_or_ge (i / 8) (n.prefixlen / 8) with hbyte | hbyte
      · rw [h _ hbyte]
      have hlast : i / 8 = n.prefixlen / 8 := by omega
      have hzero : maskbit (n.prefixlen % 8) &&& (n.byte (n.prefixlen / 8) ^^^ p.byte (n.prefixlen / 8)) = 0 := by
        by_contra hne
        exact hmask ⟨by omega, hne⟩
      rw [hlast]
      exact (maskbit_and_xor (by omega)).mp hzero _ (by omega) (by omega)
    · refine byte_eq_iff.mpr fun j hj => ?_
      have hbit := h.2 (8 * i + j) (by omega)
      rw [bit_eq, bit_eq] at hbit
      rwa [show (8 * i + j) / 8 = i by omega, show (8 * i + j) % 8 = j by omega] at hbit

end FamilyPrefix

section common

variable {w : Nat} {n p : FamilyPrefix w}

lemma takeWhile_range' (P : Nat → Bool) (s m : Nat) :
    (∀ j < ((List.range' s m).takeWhile P).length, P (s + j)) ∧
    (((List.range' s m).takeWhile P).length < m → P (s + ((List.range' s m).takeWhile P).length) =
      false) := by
  induction m generalizing s with
  | zero => simp
  | succ m ih =>
    rw [List.range'_succ, takeWhile_cons]
    cases hP : P s with
    | false => simp [hP]
    | true =>
      obtain ⟨hall, hstop⟩ := ih (s + 1)
      simp only [if_true, length_cons]
      refine ⟨fun j hj => ?_, fun hlt => ?_⟩
      · cases j with
        | zero => exact hP
        | succ j =>
          have := hall j (by omega)
          rwa [show s + (j + 1) = s + 1 + j by omega]
      · rw [show ∀ k, s + (k + 1) = s + 1 + k from fun k => by omega]
        exact hstop (by omega)

lemma commonBytes_spec (n p : FamilyPrefix w) : (∀ j < commonBytes n p, n.byte j = p.byte j) ∧
    (commonBytes n p < p.prefixlen / 8 → n.byte (commonBytes n p) ≠ p.byte (commonBytes n p)) := by
  obtain ⟨hall, hstop⟩ := takeWhile_range' (fun i => decide (n.byte i = p.byte i)) 0 (p.prefixlen / 8)
  rw [← range_eq_range'] at hall hstop
  simp only [zero_add, decide_eq_true_eq, decide_eq_false_iff_not] at hall hstop
  exact ⟨hall, hstop⟩

/-- The mask that the loop tests in its step `c`. -/
def loopMask (c : Nat) : UInt8 := [0x80, 0x40, 0x20, 0x10, 0x08, 0x04, 0x02, 0x01].getD c 0

lemma loopMask_succ : ∀ c < 8, loopMask c >>> 1 = loopMask (c + 1) := by decide

lemma byteBit_loopMask : ∀ c < 8, ∀ j < 8, byteBit (loopMask c) j = decide (j = c) := by decide

lemma loopMask_and {c : Nat} (hc : c < 8) (diff : UInt8) :
    loopMask c &&& diff = 0 ↔ byteBit diff c = false := by
  rw [byte_eq_iff]
  constructor
  · intro h
    have hbit := h c hc
    rw [byteBit_and, byteBit_loopMask c hc c hc, byteBit_zero] at hbit
    simpa using hbit
  · intro h j hj
    rw [byteBit_and, byteBit_loopMask c hc j hj, byteBit_zero]
    by_cases hjc : j = c
    · rw [hjc, h, Bool.and_false]
    · simp [hjc]

lemma commonBits_spec {diff : UInt8} {limit base : Nat} {fuel c : Nat} (hc : c ≤ 8)
    (hstop : limit ≤ base + 8 ∨ ∃ j, c ≤ j ∧ j < 8 ∧ byteBit diff j) (hle : base + c ≤ limit)
    (hfuel : limit ≤ base + c + fuel) :
    base + c ≤ commonBits diff limit fuel (loopMask c) (base + c) ∧
    (∀ j, c ≤ j → base + j < commonBits diff limit fuel (loopMask c) (base + c) → byteBit diff j = false) ∧
    (commonBits diff limit fuel (loopMask c) (base + c) = limit ∨
      byteBit diff (commonBits diff limit fuel (loopMask c) (base + c) - base)) := by
  induction fuel generalizing c with
  | zero =>
    refine ⟨le_refl _, fun j hj hlt => ?_, .inl (le_antisymm hle hfuel)⟩
    simp only [commonBits] at hlt
    omega
  | succ fuel ih =>
    unfold commonBits
    split_ifs with hif
    · have hc' : c < 8 := by
        rcases hstop with hlimit | ⟨j, hj, hj', -⟩ <;> omega
      have hbit := (loopMask_and hc' diff).mp hif.2
      rw [loopMask_succ c hc', show base + c + 1 = base + (c + 1) by omega]
      have hstop' : limit ≤ base + 8 ∨ ∃ j, c + 1 ≤ j ∧ j < 8 ∧ byteBit diff j := by
        refine hstop.imp_right fun ⟨j, hj, hj', hset⟩ => ⟨j, ?_, hj', hset⟩
        rcases lt_or_ge c j with hlt | hge
        · exact hlt
        · rw [le_antisymm hge hj, hbit] at hset
          cases hset
      obtain ⟨hge, hall, hend⟩ := ih (by omega) hstop' (by omega) (by omega)
      refine ⟨by omega, fun j hj hlt => ?_, hend⟩
      rcases eq_or_lt_of_le hj with rfl | hj
      · exact hbit
      · exact hall j hj hlt
    · refine ⟨le_refl _, fun j hj hlt => by omega, ?_⟩
      rcases lt_or_ge (base + c) limit with hlt | hge
      · right
        have hc' : c < 8 := by
          rcases hstop with hlimit | ⟨j, hj, hj', -⟩ <;> omega
        have hset : ¬byteBit diff c = false := fun h => hif ⟨hlt, (loopMask_and hc' diff).mpr h⟩
        simpa using hset
      · exact .inl (le_antisymm hle hge)

/-- The common length is that of the bits in which the two prefixes agree, up to the length of the
second one. -/
lemma commonLength_spec (n p : FamilyPrefix w) : (∀ j < commonLength n p, n.bit j = p.bit j) ∧
    (commonLength n p = p.prefixlen ∨ n.bit (commonLength n p) ≠ p.bit (commonLength n p)) ∧
    commonBytes n p * 8 ≤ commonLength n p ∧ commonLength n p < commonBytes n p * 8 + 8 ∧
    (commonBytes n p * 8 = p.prefixlen → commonLength n p = p.prefixlen) := by
  obtain ⟨hbytes, hdiff⟩ := commonBytes_spec n p
  have hle := commonBytes_le n p
  set i := commonBytes n p with hi
  have hlow : ∀ j < i * 8, n.bit j = p.bit j := by
    intro j hj
    rw [bit_eq, bit_eq, hbytes _ (by omega)]
  have hhigh : ∀ j < 8, n.bit (i * 8 + j) = p.bit (i * 8 + j) ↔ byteBit (n.byte i ^^^ p.byte i) j = false := by
    intro j hj
    rw [bit_eq, bit_eq, byteBit_xor, show (i * 8 + j) / 8 = i by omega,
      show (i * 8 + j) % 8 = j by omega]
    simp
  have hset : i < p.prefixlen / 8 → ∃ j < 8, byteBit (n.byte i ^^^ p.byte i) j := by
    intro hlt
    by_contra hnone
    refine hdiff hlt (byte_eq_iff.mpr fun j hj => ?_)
    by_contra hne
    exact hnone ⟨j, hj, by rw [byteBit_xor]; simpa using hne⟩
  unfold commonLength
  rw [← hi]
  dsimp only
  split_ifs with hlen
  · have hstop : p.prefixlen ≤ i * 8 + 8 ∨
        ∃ j, 0 ≤ j ∧ j < 8 ∧ byteBit (n.byte i ^^^ p.byte i) j := by
      rcases lt_or_ge i (p.prefixlen / 8) with hlt | hge
      · obtain ⟨j, hj, hbit⟩ := hset hlt
        exact .inr ⟨j, Nat.zero_le _, hj, hbit⟩
      · exact .inl (by omega)
    obtain ⟨hge, hall, hend⟩ := commonBits_spec (Nat.zero_le 8) hstop (by omega : i * 8 + 0 ≤ p.prefixlen)
      (by omega : p.prefixlen ≤ i * 8 + 0 + p.prefixlen)
    have hmax : commonBits (n.byte i ^^^ p.byte i) p.prefixlen p.prefixlen 0x80 (i * 8) ≤ p.prefixlen :=
      commonBits_le (by omega)
    rw [show loopMask 0 = 0x80 from rfl, add_zero] at hge hall hend
    set r := commonBits (n.byte i ^^^ p.byte i) p.prefixlen p.prefixlen 0x80 (i * 8)
    have hlt : r < i * 8 + 8 := by
      rcases lt_or_ge i (p.prefixlen / 8) with hlt | hge
      · obtain ⟨j, hj, hbit⟩ := hset hlt
        by_contra hr
        rw [hall j (Nat.zero_le _) (by omega)] at hbit
        cases hbit
      · omega
    refine ⟨fun j hj => ?_, hend.imp_right fun hbit heq => ?_, hge, hlt, fun he => absurd he hlen⟩
    · rcases lt_or_ge j (i * 8) with hj' | hj'
      · exact hlow j hj'
      · have hbit := (hhigh (j - i * 8) (by omega)).mpr (hall _ (Nat.zero_le _) (by omega))
        rwa [show i * 8 + (j - i * 8) = j by omega] at hbit
    · rw [show r = i * 8 + (r - i * 8) by omega, hhigh _ (by omega), hbit] at heq
      cases heq
  · rw [not_not] at hlen
    exact ⟨hlow, .inl hlen, le_refl _, by omega, fun _ => hlen⟩

lemma routeCommon_byte_lt {k : Nat} (hk : k < commonBytes n p) :
    (routeCommon n p).byte k = n.byte k := by
  have hi := commonBytes_le n p
  have hw := p.le
  have hlen : k < (n.bytes.take (commonBytes n p)).length := by
    rw [length_take, n.size]
    omega
  unfold routeCommon byte
  rw [getD_eq_getElem?_getD, List.getElem?_take_of_lt (by omega), append_assoc,
    List.getElem?_append_left hlen, List.getElem?_take_of_lt hk, ← getD_eq_getElem?_getD]

lemma routeCommon_byte_eq (hne : commonBytes n p * 8 ≠ p.prefixlen) :
    (routeCommon n p).byte (commonBytes n p) = n.byte (commonBytes n p) &&& maskbit (commonLength n p % 8) := by
  have hi := commonBytes_le n p
  have hw := p.le
  have hlen : (n.bytes.take (commonBytes n p)).length = commonBytes n p := by
    rw [length_take, n.size]
    omega
  unfold routeCommon
  rw [byte]
  dsimp only
  rw [if_pos hne, getD_eq_getElem?_getD, List.getElem?_take_of_lt (by omega), append_assoc,
    List.getElem?_append_right hlen.le, hlen]
  simp

lemma routeCommon_bit {j : Nat} (hj : j < commonLength n p) : (routeCommon n p).bit j = n.bit j := by
  obtain ⟨-, -, -, hlt, hall⟩ := commonLength_spec n p
  rw [bit_eq, bit_eq]
  rcases lt_or_ge (j / 8) (commonBytes n p) with hbyte | hbyte
  · rw [routeCommon_byte_lt hbyte]
  · have hlast : j / 8 = commonBytes n p := by omega
    rw [hlast, routeCommon_byte_eq fun he => by have := hall he; omega, byteBit_and,
      byteBit_maskbit _ (by omega) _ (by omega), decide_eq_true (by omega), Bool.and_true]

lemma masked_routeCommon (h : ¬n.masked <+: p.masked) :
    (routeCommon n p).masked = commonPrefix n.masked p.masked := by
  obtain ⟨heq, hend, -⟩ := commonLength_spec n p
  have hle := commonLength_le n p
  have hn : commonLength n p < n.prefixlen := by
    by_contra hlt
    exact h (masked_isPrefix.mpr ⟨by omega, fun i hi => heq i (by omega)⟩)
  refine (commonPrefix_eq ?_ ?_ ?_).symm
  · exact masked_isPrefix.mpr ⟨hn.le, fun i hi => routeCommon_bit hi⟩
  · exact masked_isPrefix.mpr ⟨hle, fun i hi => (routeCommon_bit hi).trans (heq i hi)⟩
  · simp only [length_masked]
    change commonLength n p = _ ∨ commonLength n p < _ ∧ commonLength n p < _ ∧
      bitAt _ (commonLength n p) ≠ bitAt _ (commonLength n p)
    rcases eq_or_lt_of_le hle with heq' | hlt
    · exact .inl heq'
    · rw [bitAt_masked hn, bitAt_masked hlt]
      exact .inr ⟨hn, hlt, hend.resolve_left hlt.ne⟩

end common

end OspfMdr.Ospf6
