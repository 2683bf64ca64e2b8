import Mathlib.Data.List.GetD
import OspfMdr.Lib.Fletcher
import OspfMdr.Model.Checksum

/-!
# Checksum of an LSA

The reduction modulo 255 is put off to the end of a block. A block is so short that the sums stay within
the range of an `int` until then.
-/

namespace OspfMdr.Ospf6
open Lib List Option

def byteValue (b : UInt8) : Int := b.toNat

lemma byteValue_le (b : UInt8) : 0 ≤ byteValue b ∧ byteValue b ≤ 255 := by
  have h := b.toNat_lt
  unfold byteValue
  omega

lemma total_nonneg (l : List UInt8) : 0 ≤ total byteValue l := by
  induction l with
  | nil => exact Int.le_refl 0
  | cons b l ih => exact Int.add_nonneg (byteValue_le b).1 ih

lemma weighted_nonneg (l : List UInt8) : 0 ≤ weighted byteValue l := by
  induction l with
  | nil => exact Int.le_refl 0
  | cons b l ih => exact Int.add_nonneg (Int.mul_nonneg (by omega) (byteValue_le b).1) ih

lemma cInt_of_range {v : Int} (hlo : -2 ^ 31 ≤ v) (hhi : v < 2 ^ 31) : cInt v = some v := if_pos ⟨hlo, hhi⟩

lemma foldlM_sumByte {l : List UInt8} {c0 c1 : Int} (h0 : 0 ≤ c0) (h1 : 0 ≤ c1)
    (hmax : 2 * c1 + 2 * l.length * c0 + 255 * l.length * (l.length + 1) < 2 ^ 32) :
    l.foldlM sumByte (c0, c1) = some (c0 + total byteValue l, c1 + l.length * c0 + weighted byteValue l) :=
    by
  induction l generalizing c0 c1 with
  | nil => simp [total, weighted]
  | cons b l ih =>
    obtain ⟨hb, hb'⟩ := byteValue_le b
    rw [length_cons] at hmax
    push_cast at hmax
    generalize hn : (l.length : Int) = n at *
    have hn0 : 0 ≤ n := by omega
    have hnn := mul_nonneg hn0 hn0
    have hstep : sumByte (c0, c1) b = some (c0 + byteValue b, c1 + (c0 + byteValue b)) := by
      have e0 : cInt (c0 + byteValue b) = some (c0 + byteValue b) :=
        cInt_of_range (by omega) (by nlinarith)
      have e1 : cInt (c1 + (c0 + byteValue b)) = some (c1 + (c0 + byteValue b)) :=
        cInt_of_range (by omega) (by nlinarith)
      unfold byteValue at e0 e1 ⊢
      simp only [sumByte, e0, e1, Option.bind_eq_bind, Option.bind_some, Option.pure_def]
    rw [foldlM_cons, hstep, Option.bind_eq_bind, Option.bind_some,
      ih (by omega) (by omega) (by nlinarith), total, weighted, length_cons, hn]
    push_cast
    rw [hn]
    congr 2 <;> ring

/-- The two sums of Fletcher's checksum. -/
def sumsMod (l : List UInt8) : Int × Int := (total byteValue l % 255, weighted byteValue l % 255)

lemma sumsMod_range (l : List UInt8) :
    (0 ≤ (sumsMod l).1 ∧ (sumsMod l).1 < 255) ∧ 0 ≤ (sumsMod l).2 ∧ (sumsMod l).2 < 255 := by
  unfold sumsMod
  omega

lemma sumBlock_sumsMod {done block : List UInt8} (h : block.length ≤ modx) :
    sumBlock (sumsMod done) block = some (sumsMod (done ++ block)) := by
  obtain ⟨⟨h0, h0'⟩, h1, h1'⟩ := sumsMod_range done
  have ht := total_nonneg block
  have hw := weighted_nonneg block
  simp only [sumsMod, sumBlock, total_append, weighted_append] at *
  generalize hn : (block.length : Int) = n
  have hn0 : 0 ≤ n := by omega
  have hmax : n ≤ 4102 := by
    unfold modx at h
    omega
  have hnc := mul_nonneg hn0 h0
  rw [foldlM_sumByte h0 h1 (by rw [hn]; nlinarith), hn]
  simp only [Option.bind_eq_bind, Option.bind_some, Option.pure_def]
  rw [Int.tmod_eq_emod_of_nonneg (by omega), Int.tmod_eq_emod_of_nonneg (by omega)]
  congr 2
  · omega
  · exact Int.ModEq.add_right _ ((Int.mod_modEq _ _).add ((Int.mod_modEq _ _).mul_left _))

lemma lsaChecksumLoop_eq (bytes : List UInt8) (sp : Nat) (hsp : sp ≤ bytes.length) :
    lsaChecksumLoop bytes bytes.length sp (sumsMod (bytes.take sp)) = some (sumsMod bytes) := by
  induction hk : bytes.length - sp using Nat.strong_induction_on generalizing sp with
  | _ k ih =>
    have hpos : 0 < modx := by decide
    have hmod : ∀ q, q ≤ sp + modx → ((bytes.take q).drop sp).length ≤ modx := by
      intro q hq
      rw [length_drop, length_take]
      omega
    have hjoin : ∀ q, sp ≤ q → bytes.take sp ++ (bytes.take q).drop sp = bytes.take q := by
      intro q hq
      rw [drop_take, ← take_add, Nat.add_sub_cancel' hq]
    rw [lsaChecksumLoop]
    by_cases hlt : sp < bytes.length
    · rw [if_pos hlt]
      generalize hq : (if sp + modx > bytes.length then bytes.length else sp + modx) = q
      have hle : sp < q ∧ q ≤ sp + modx ∧ q ≤ bytes.length := by
        split_ifs at hq <;> omega
      simp only [bind_eq_bind, sumBlock_sumsMod (hmod q hle.2.1), hjoin q hle.1.le, bind_some]
      exact ih _ (by omega) q hle.2.2 rfl
    · rw [if_neg hlt, take_of_length_le (by omega)]

lemma fletcherLoop_eq (p done : List UInt8) (left : Nat) (hleft : left ≤ p.length) :
    fletcherLoop p left (sumsMod done) = some (sumsMod (done ++ p.take left)) := by
  induction left using Nat.strong_induction_on generalizing p done with
  | _ left ih =>
    rw [fletcherLoop]
    split_ifs with h0
    · simp [h0]
    have hpos : 0 < modx := by decide
    have hmod : (p.take (min left modx)).length ≤ modx :=
      (length_take_le _ _).trans (Nat.min_le_right _ _)
    simp only [bind_eq_bind, sumBlock_sumsMod hmod, bind_some]
    rw [ih _ (by omega) _ _ (by rw [length_drop]; omega), append_assoc]
    congr 3
    rw [← take_add]
    congr 1
    omega

lemma checkBytes_spec {c0 : Int} (h0 : 0 ≤ c0) (h0' : c0 < 255) (d : Int) :
    ∃ x y : Nat, checkBytes c0 (d.tmod 255) = some (↑x, ↑y) ∧ x ≤ 255 ∧ y ≤ 255 ∧ 255 ∣ x - d ∧
      255 ∣ c0 + x + y := by
  have hlo := Int.lt_tmod_of_pos d (by decide : (0 : Int) < 255)
  have hhi := Int.tmod_lt_of_pos d (by decide : (0 : Int) < 255)
  have hdvd := Int.mul_tdiv_add_tmod d 255
  generalize d.tmod 255 = r at *
  obtain ⟨x, hx, hmax, hxr⟩ : ∃ x : Nat, (if r ≤ 0 then r + 255 else r) = x ∧ (1 ≤ x ∧ x ≤ 255) ∧
      (255 : Int) ∣ x - r := by
    split_ifs with hr
    · exact ⟨(r + 255).toNat, by omega, by omega, by omega⟩
    · exact ⟨r.toNat, by omega, by omega, by omega⟩
  obtain ⟨y, hy, hmax', hsum⟩ : ∃ y : Nat,
      (if 510 - c0 - x > 255 then 510 - c0 - x - 255 else 510 - c0 - x) = y ∧ y ≤ 255 ∧
        255 ∣ c0 + x + y := by
    split_ifs with hr
    · exact ⟨(510 - c0 - x - 255).toNat, by omega, by omega, by omega⟩
    · exact ⟨(510 - c0 - x).toNat, by omega, by omega, by omega⟩
  refine ⟨x, y, ?_, hmax.2, hmax', by omega, hsum⟩
  simp only [checkBytes, hx, cInt_of_range (by omega : -2 ^ 31 ≤ 510 - c0 - (x : Int)) (by omega),
    Option.bind_eq_bind, Option.bind_some, Option.pure_def, hy]

section
variable {k : Nat} {x y : UInt8} {l : List UInt8}

lemma length_storeTwo (h : k + 2 ≤ l.length) : (storeTwo k x y l).length = l.length := by
  simp [storeTwo]
  omega

lemma storeTwo_storeTwo (h : k ≤ l.length) (x' y' : UInt8) :
    storeTwo k x' y' (storeTwo k x y l) = storeTwo k x' y' l := by
  simp [storeTwo, drop_append, h]

lemma drop_storeTwo (h : k ≤ l.length) (j : Nat) (hj : j ≤ k) :
    (storeTwo k x y l).drop j = storeTwo (k - j) x y (l.drop j) := by
  have htake : j ≤ (l.take k).length := by
    rw [length_take]
    omega
  unfold storeTwo
  rw [append_assoc, drop_append_of_le_length htake, drop_take, drop_drop,
    append_assoc]
  congr 3
  omega

lemma lsaLength_storeTwo (h : 18 ≤ l.length) : lsaLength (storeTwo 16 x y l) = lsaLength l := by
  have hfield : ∀ i, (storeTwo 16 x y l).getD (18 + i) 0 = l.getD (18 + i) 0 := by
    intro i
    have hstart : (l.take 16 ++ [x, y]).length = 18 := by
      simp
      omega
    unfold storeTwo
    rw [getD_append_right _ _ _ _ (by omega), hstart, Nat.add_sub_cancel_left]
    simp [getD_eq_getElem?_getD, List.getElem?_drop]
  unfold lsaLength
  rw [hfield 0, hfield 1]

lemma lsaLength_lt (lsa : List UInt8) : lsaLength lsa < 65536 := by
  have hhi := (lsa.getD 18 0).toNat_lt
  have hlo := (lsa.getD 19 0).toNat_lt
  unfold lsaLength
  omega

lemma total_storeTwo : total byteValue (storeTwo k x y l) = total byteValue (storeTwo k 0 0 l) +
    byteValue x + byteValue y := by
  simp [storeTwo, total, byteValue]
  ring

lemma weighted_storeTwo (h : k + 2 ≤ l.length) :
    weighted byteValue (storeTwo k x y l) = weighted byteValue (storeTwo k 0 0 l) +
      (l.length - k) * byteValue x + (l.length - k - 1) * byteValue y := by
  have hrest : ((l.drop (k + 2)).length : Int) = l.length - k - 2 := by
    rw [length_drop]
    omega
  simp only [storeTwo, weighted_append, total_append, weighted, total, length_cons, length_nil,
    hrest, byteValue]
  simp
  ring

end

/-- The part of an LSA behind its age, with the checksum cleared. -/
def cleared (lsa : List UInt8) : List UInt8 := storeTwo 14 0 0 (lsa.drop 2)

/-- What the first checksum byte has to make up for. -/
def dividend (lsa : List UInt8) : Int :=
  (lsa.length - 17) * (sumsMod (cleared lsa)).1 - (sumsMod (cleared lsa)).2

section
variable {lsa : List UInt8} (hmin : 20 ≤ lsa.length)
include hmin

lemma length_cleared : (cleared lsa).length = lsa.length - 2 := by
  unfold cleared
  rw [length_storeTwo (by rw [length_drop]; omega), length_drop]

lemma drop_clear : (storeTwo 16 0 0 lsa).drop 2 = cleared lsa := drop_storeTwo (by omega) 2 (by omega)

lemma lsaChecksum_storeTwo (a b : UInt8) :
    ospf6LsaChecksum (storeTwo 16 a b lsa) = ospf6LsaChecksum lsa := by
  simp only [ospf6LsaChecksum, storeTwo_storeTwo (by omega : 16 ≤ lsa.length)]

variable (hlen : lsaLength lsa = lsa.length)
include hlen

lemma product_range : 0 ≤ ((lsa.length : Int) - 17) * (sumsMod (cleared lsa)).1 ∧
    ((lsa.length : Int) - 17) * (sumsMod (cleared lsa)).1 < 2 ^ 30 := by
  obtain ⟨⟨h0, h0'⟩, -⟩ := sumsMod_range (cleared lsa)
  have hmax := lsaLength_lt lsa
  constructor
  · exact mul_nonneg (by omega) h0
  · nlinarith

lemma dividend_range : -2 ^ 30 ≤ dividend lsa ∧ dividend lsa < 2 ^ 30 := by
  have hprod := product_range hmin hlen
  have hrange := sumsMod_range (cleared lsa)
  unfold dividend
  omega

variable {x y : Nat} (hcheck : checkBytes (sumsMod (cleared lsa)).1 ((dividend lsa).tmod 255) = some (↑x, ↑y))
  (hx : x ≤ 255) (hy : y ≤ 255)
include hcheck hx hy

lemma lsaChecksum_eq :
    ospf6LsaChecksum lsa = some (storeTwo 16 (.ofNat x) (.ofNat y) lsa, x * 256 + y) := by
  have hprod := product_range hmin hlen
  have hdiv := dividend_range hmin hlen
  have hmax := lsaLength_lt lsa
  have hlength : (lsaLength (storeTwo 16 0 0 lsa) + 65534) % 65536 = lsa.length - 2 := by
    rw [lsaLength_storeTwo (by omega), hlen]
    omega
  have hloop := lsaChecksumLoop_eq (cleared lsa) 0 (Nat.zero_le _)
  rw [length_cleared hmin] at hloop
  change lsaChecksumLoop (cleared lsa) (lsa.length - 2) 0 (0, 0) = _ at hloop
  have hcast : ((lsa.length - 2 : Nat) : Int) - 15 = lsa.length - 17 := by omega
  have hsum : (((x : Int) * 256 + y) % 65536).toNat = x * 256 + y := by omega
  have hhigh : (x * 256 + y) / 256 = x := by omega
  have hlow : UInt8.ofNat (x * 256 + y) = UInt8.ofNat y := by
    rw [← UInt8.ofNat_mod_size, mul_comm, Nat.mul_add_mod, UInt8.ofNat_mod_size]
  simp only [ospf6LsaChecksum, hlength, drop_clear hmin, hloop, bind_eq_bind, bind_some, hcast,
    cInt_of_range (by omega) (hprod.2.trans (by decide))]
  rw [← dividend, cInt_of_range (by omega) (by omega), bind_some, hcheck, bind_some,
    cInt_of_range (by omega) (by omega), Option.bind_some, hsum, hhigh, hlow, storeTwo_storeTwo (by omega),
    Option.pure_def]

lemma fletcherChecksum_eq :
    fletcherChecksum (lsa.drop 2) 14 = some (storeTwo 14 (.ofNat x) (.ofNat y) (lsa.drop 2), x * 256 + y) := by
  have hdiv := dividend_range hmin hlen
  have hlength : (lsa.drop 2).length = lsa.length - 2 := length_drop
  have hloop := fletcherLoop_eq (cleared lsa) [] (lsa.length - 2) (length_cleared hmin).ge
  rw [nil_append, take_of_length_le (length_cleared hmin).le] at hloop
  change fletcherLoop (cleared lsa) (lsa.length - 2) (0, 0) = _ at hloop
  have hcast : ((lsa.length - 2 - 14 - 1 : Nat) : Int) = lsa.length - 17 := by omega
  have hbmod : (dividend lsa % 2 ^ 64).bmod (2 ^ 32) = dividend lsa := by
    rw [Int.bmod_def]
    split_ifs <;> omega
  have hor : (x <<< 8 ||| y &&& 0xff) % 65536 = x * 256 + y := by
    rw [Nat.and_two_pow_sub_one_of_lt_two_pow (n := 8) (by omega),
      ← Nat.shiftLeft_add_eq_or_of_lt (by omega : y < 2 ^ 8), Nat.shiftLeft_eq]
    omega
  simp only [fletcherChecksum, hlength, if_pos (by omega : 14 < lsa.length - 2)]
  rw [← cleared, hloop, bind_eq_bind, bind_some, hcast, ← dividend, hbmod, hcheck,
    Option.bind_some]
  simp only [Int.toNat_natCast, hor, Option.pure_def]
  rw [cleared, storeTwo_storeTwo (by omega)]

end

/-- The checksum that is stored makes both sums vanish, and computing it again gives the same. -/
theorem lsaChecksum_verifies {lsa : List UInt8} (hmin : 20 ≤ lsa.length) (hlen : lsaLength lsa = lsa.length) :
    ∃ new checksum, ospf6LsaChecksum lsa = some (new, checksum) ∧
      (255 ∣ total byteValue (new.drop 2) ∧ 255 ∣ weighted byteValue (new.drop 2)) ∧
      fletcherChecksum (lsa.drop 2) 14 = some (new.drop 2, checksum) ∧
      ospf6LsaChecksum new = some (new, checksum) := by
  obtain ⟨⟨h0, h0'⟩, -⟩ := sumsMod_range (cleared lsa)
  obtain ⟨x, y, hcheck, hx, hy, hdvd, hsum⟩ := checkBytes_spec h0 h0' (dividend lsa)
  have hlsa := lsaChecksum_eq hmin hlen hcheck hx hy
  have hdrop := drop_storeTwo (by omega : 16 ≤ lsa.length) 2 (by omega)
    (x := UInt8.ofNat x) (y := UInt8.ofNat y)
  have hbyte : ∀ v ≤ 255, byteValue (.ofNat v) = v := by
    intro v hv
    rw [byteValue, UInt8.toNat_ofNat_of_lt' (Nat.lt_succ_of_le hv)]
  refine ⟨_, _, hlsa, ?_, ?_, ?_⟩
  · have hmod0 := Int.dvd_self_sub_emod (x := total byteValue (cleared lsa)) (m := 255)
    have hmod1 := Int.dvd_self_sub_emod (x := weighted byteValue (cleared lsa)) (m := 255)
    have hfrom : ((lsa.drop 2).length : Int) - 14 = lsa.length - 17 + 1 := by
      rw [length_drop]
      omega
    rw [hdrop, total_storeTwo, weighted_storeTwo (by rw [length_drop]; omega), hbyte x hx, hbyte y hy]
    push_cast
    rw [hfrom, Int.add_sub_cancel]
    exact dvd_sums_of_check hmod0 hmod1 hdvd hsum
  · rw [hdrop, fletcherChecksum_eq hmin hlen hcheck hx hy]
  · rw [lsaChecksum_storeTwo hmin, hlsa]

def emptyLsa : List UInt8 := List.replicate 19 0 ++ [20]

theorem lsaChecksum_emptyLsa :
    ∃ new checksum, ospf6LsaChecksum emptyLsa = some (new, checksum) ∧
      (255 ∣ total byteValue (new.drop 2) ∧ 255 ∣ weighted byteValue (new.drop 2)) ∧
      fletcherChecksum (emptyLsa.drop 2) 14 = some (new.drop 2, checksum) ∧
      ospf6LsaChecksum new = some (new, checksum) :=
  lsaChecksum_verifies (by decide) (by decide)

end OspfMdr.Ospf6
