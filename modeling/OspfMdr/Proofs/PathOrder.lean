import OspfMdr.Lib.Champion
import OspfMdr.Model.BestPath

namespace OspfMdr.Bgp
open Lib

section addresses

def bytesValue : List UInt8 → Nat
  | [] => 0
  | a :: l => a.toNat * 256 ^ l.length + bytesValue l

lemma bytesValue_lt (l : List UInt8) : bytesValue l < 256 ^ l.length := by
  induction l with
  | nil => simp [bytesValue]
  | cons a l ih =>
    have ha : a.toNat < 256 := a.toNat_lt
    have hmul : (a.toNat + 1) * 256 ^ l.length ≤ 256 * 256 ^ l.length := Nat.mul_le_mul_right _ ha
    rw [bytesValue, List.length_cons, pow_succ]
    rw [add_mul, one_mul] at hmul
    omega

variable {p q : List UInt8}

section
variable (h : p.length = q.length)
include h

lemma bytesValue_cons_lt {a b : UInt8} (hab : a.toNat < b.toNat) :
    bytesValue (a :: p) < bytesValue (b :: q) := by
  have hp := bytesValue_lt p
  have hmul : (a.toNat + 1) * 256 ^ q.length ≤ b.toNat * 256 ^ q.length := Nat.mul_le_mul_right _ hab
  rw [bytesValue, bytesValue, h]
  rw [h] at hp
  rw [add_mul, one_mul] at hmul
  omega

lemma in6addrCmp_iff : in6addrCmp p q = 1 ↔ bytesValue q < bytesValue p := by
  induction p generalizing q with
  | nil =>
    obtain rfl := List.length_eq_zero_iff.mp h.symm
    simp [in6addrCmp]
  | cons a p ih =>
    cases q with
    | nil => cases h
    | cons b q =>
      have hlen : p.length = q.length := Nat.succ.inj h
      rw [in6addrCmp]
      rcases lt_trichotomy a.toNat b.toNat with hab | hab | hab
      · have hlt := bytesValue_cons_lt hlen hab
        rw [if_neg (fun hgt : a > b => by have := UInt8.lt_iff_toNat_lt.mp hgt; omega),
          if_pos (UInt8.lt_iff_toNat_lt.mpr hab)]
        exact iff_of_false (by decide) (not_lt.mpr hlt.le)
      · obtain rfl := UInt8.toNat_inj.mp hab
        rw [if_neg (UInt8.lt_irrefl a), if_neg (UInt8.lt_irrefl a), ih hlen, bytesValue, bytesValue, hlen]
        omega
      · rw [if_pos (UInt8.lt_iff_toNat_lt.mpr hab)]
        exact iff_of_true rfl (bytesValue_cons_lt hlen.symm hab)

lemma bytesValue_inj (hv : bytesValue p = bytesValue q) : p = q := by
  induction p generalizing q with
  | nil => exact (List.length_eq_zero_iff.mp h.symm).symm
  | cons a p ih =>
    cases q with
    | nil => cases h
    | cons b q =>
      have hlen : p.length = q.length := Nat.succ.inj h
      rcases lt_trichotomy a.toNat b.toNat with hab | hab | hab
      · exact absurd hv (bytesValue_cons_lt hlen hab).ne
      · obtain rfl := UInt8.toNat_inj.mp hab
        rw [bytesValue, bytesValue, hlen] at hv
        rw [ih hlen (Nat.add_left_cancel hv)]
      · exact absurd hv (bytesValue_cons_lt hlen.symm hab).ne'

end

/-- The order of addresses: by family, then by value. -/
def SockUnion.key : SockUnion → ℕ ×ₗ ℕ
  | .inet a => toLex (2, a.toNat)
  | .inet6 a => toLex (10, bytesValue a.toList)

open SockUnion

lemma SockUnion.key_inj {s s' : SockUnion} (h : s.key = s'.key) : s = s' := by
  cases s with
  | inet a =>
    cases s' with
    | inet b => exact congrArg inet (UInt32.toNat_inj.mp (Prod.ext_iff.mp (toLex.injective h)).2)
    | inet6 b => exact absurd (Prod.ext_iff.mp (toLex.injective h)).1 (by simp)
  | inet6 a =>
    cases s' with
    | inet b => exact absurd (Prod.ext_iff.mp (toLex.injective h)).1 (by simp)
    | inet6 b =>
      have hv : bytesValue a.toList = bytesValue b.toList := (Prod.ext_iff.mp (toLex.injective h)).2
      exact congrArg inet6 (Vector.toList_inj.mp (bytesValue_inj (by simp) hv))

lemma sockunionCmp_iff (s s' : SockUnion) : sockunionCmp s s' = 1 ↔ s'.key < s.key := by
  cases s with
  | inet a =>
    cases s' with
    | inet b =>
      simp only [sockunionCmp, family, key, Prod.Lex.toLex_lt_toLex, lt_irrefl, gt_iff_lt, if_false,
        false_or, true_and, UInt32.lt_iff_toNat_lt]
      split_ifs with hab hlt
      · simp [hab]
      · exact iff_of_true rfl hlt
      · exact iff_of_false (by decide) hlt
    | inet6 b => exact iff_of_false (by simp [sockunionCmp, family]) (by simp [key, Prod.Lex.toLex_lt_toLex])
  | inet6 a =>
    cases s' with
    | inet b => exact iff_of_true (by simp [sockunionCmp, family]) (by simp [key, Prod.Lex.toLex_lt_toLex])
    | inet6 b =>
      have hcmp : in6addrCmp a.toList b.toList = 1 ↔ bytesValue b.toList < bytesValue a.toList := in6addrCmp_iff (by simp)
      simp [sockunionCmp, family, key, Prod.Lex.toLex_lt_toLex, hcmp]

end addresses

section steps

variable {κ : Type} [LinearOrder κ] {a b : κ} {wins loses : Prop} [Decidable wins] [Decidable loses] {r : Bool × Bool}

lemma cmpStep_iff (hwins : wins ↔ a < b) (hloses : loses ↔ b < a) :
    (cmpStep wins loses r).1 ↔ a < b ∨ a = b ∧ r.1 := by
  unfold cmpStep
  rcases lt_trichotomy a b with h | h | h
  · simp [hwins.mpr h, h]
  · subst h
    have h1 : ¬wins := fun hw => lt_irrefl _ (hwins.mp hw)
    have h2 : ¬loses := fun hl => lt_irrefl _ (hloses.mp hl)
    simp [h1, h2]
  · have h1 : ¬wins := fun hw => lt_asymm (hwins.mp hw) h
    simp [h1, hloses.mpr h, h.ne', not_lt.mpr h.le]

lemma cmpStep_skip (hwins : ¬wins) (hloses : ¬loses) : cmpStep wins loses r = r := by
  unfold cmpStep
  rw [if_neg hwins, if_neg hloses]

end steps

section keys

variable {bgp : BgpOptions} {x y : BgpInfo}

/-- The path is not one of the router itself. -/
structure Learned (x : BgpInfo) : Prop where
  subType : x.subType = .normal
  sort : x.peer.sort ≠ .internal

/-- What is compared before the MED. -/
def BgpInfo.keyBefore (bgp : BgpOptions) (x : BgpInfo) : ℕ ×ₗ ℕ ×ₗ ℕ ×ₗ ℕ :=
  toLex (2 ^ 32 - x.weight.toNat, toLex (2 ^ 32 - (x.pref bgp).toNat,
    toLex (if bgp.aspathIgnore then 0 else x.pathLength bgp, x.attr.origin.toNat)))

/-- The MED that is compared. -/
def BgpInfo.keyMed (bgp : BgpOptions) (x : BgpInfo) : ℕ := (bgpMedValue x.attr bgp).toNat

/-- What is compared after the MED. -/
def BgpInfo.keyAfter (x : BgpInfo) : ℕ ×ₗ ℕ ×ₗ ℕ ×ₗ ℕ ×ₗ ℕ ×ₗ ℕ :=
  toLex (if x.peer.sort = .ebgp then 0 else 1, toLex (x.metric.toNat, toLex (x.routerId.toNat,
    toLex (x.cluster, x.peer.suRemote.key))))

lemma cmpTies_iff (hid : bgp.compareRouterId) (hne : x.peer.suRemote ≠ y.peer.suRemote) :
    (cmpTies bgp x y).1 ↔ toLex (x.routerId.toNat, toLex (x.cluster, x.peer.suRemote.key)) <
    toLex (y.routerId.toNat, toLex (y.cluster, y.peer.suRemote.key)) := by
  have haddr : sockunionCmp x.peer.suRemote y.peer.suRemote = 1 ↔ ¬x.peer.suRemote.key < y.peer.suRemote.key := by
    rw [sockunionCmp_iff, not_lt]
    exact ⟨le_of_lt, fun hle => lt_of_le_of_ne hle fun he => hne (SockUnion.key_inj he).symm⟩
  simp only [cmpTies, hid, not_true, false_and, if_false, Prod.Lex.toLex_lt_toLex, UInt32.lt_iff_toNat_lt, gt_iff_lt, haddr]
  split_ifs with h1 h2 h3 h4 h5 <;> simp_all <;> omega

lemma inverted_lt (a b : UInt32) : a > b ↔ 2 ^ 32 - a.toNat < 2 ^ 32 - b.toNat := by
  have hb := b.toNat_lt
  rw [gt_iff_lt, UInt32.lt_iff_toNat_lt]
  omega

lemma bgpInfoCmp_iff (hid : bgp.compareRouterId) (hx : Learned x) (hy : Learned y)
    (hne : x.peer.suRemote ≠ y.peer.suRemote) :
    (bgpInfoCmp bgp x y).1 ↔ x.keyBefore bgp < y.keyBefore bgp ∨ x.keyBefore bgp =
    y.keyBefore bgp ∧ ((medCompared bgp x y ∧ x.keyMed bgp < y.keyMed bgp) ∨
      (medCompared bgp x y → x.keyMed bgp = y.keyMed bgp) ∧ x.keyAfter < y.keyAfter) := by
  have hlength : ∀ u v : BgpInfo, (¬bgp.aspathIgnore ∧ u.pathLength bgp < v.pathLength bgp) ↔
      (if bgp.aspathIgnore then 0 else u.pathLength bgp) < if bgp.aspathIgnore then 0 else v.pathLength bgp := by
    intro u v
    cases bgp.aspathIgnore <;> simp
  have hmed : ∀ u v : BgpInfo, (medCompared bgp x y ∧ bgpMedValue u.attr bgp < bgpMedValue v.attr bgp) ↔
      (if medCompared bgp x y then u.keyMed bgp else 0) < if medCompared bgp x y then v.keyMed bgp else 0 := by
    intro u v
    cases medCompared bgp x y <;> simp [BgpInfo.keyMed, UInt32.lt_iff_toNat_lt]
  have hsort : ∀ u v : BgpInfo, Learned v →
      (u.peer.sort = .ebgp ∧ (v.peer.sort = .ibgp ∨ v.peer.sort = .confed) ↔
        (if u.peer.sort = .ebgp then 0 else 1) < if v.peer.sort = .ebgp then 0 else 1) := by
    intro u v hv
    have hint := hv.sort
    cases hu : u.peer.sort <;> cases hv' : v.peer.sort <;> simp_all
  unfold bgpInfoCmp
  rw [cmpStep_iff (inverted_lt x.weight y.weight) (inverted_lt y.weight x.weight),
    cmpStep_iff (inverted_lt (x.pref bgp) (y.pref bgp)) (inverted_lt (y.pref bgp) (x.pref bgp)),
    cmpStep_skip (by simp [hx.subType]) (by simp [hy.subType]),
    cmpStep_skip (by simp [hx.subType]) (by simp [hy.subType]),
    cmpStep_skip (by simp [hx.subType]) (by simp [hy.subType]),
    cmpStep_iff (hlength x y) (hlength y x),
    cmpStep_iff UInt8.lt_iff_toNat_lt UInt8.lt_iff_toNat_lt,
    cmpStep_iff (hmed x y) (hmed y x),
    cmpStep_iff (hsort x y hy) (and_comm.trans (hsort y x hx)),
    cmpStep_iff UInt32.lt_iff_toNat_lt UInt32.lt_iff_toNat_lt, cmpTies_iff hid hne]
  simp only [BgpInfo.keyBefore, BgpInfo.keyAfter, Prod.Lex.toLex_lt_toLex, toLex_inj, Prod.mk.injEq]
  cases medCompared bgp x y with
  | true =>
    simp only [if_true, true_and, true_implies, and_or_left, or_assoc, and_assoc]
  | false =>
    simp only [Bool.false_eq_true, if_false, lt_irrefl, false_and, false_or, true_and, false_implies, and_or_left,
      or_assoc, and_assoc]

end keys

end OspfMdr.Bgp
