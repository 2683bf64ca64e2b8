import OspfMdr.Model.AddressFamily

namespace OspfMdr.Ospf6
open List

/-- An address that can be that of one host. -/
def IsUnicast (addr4 : Nat) : Prop :=
  addr4 ≠ 0 ∧ addr4 ≠ 0xffffffff ∧ addr4 / 2 ^ 24 ≠ 0x7f ∧ addr4 / 2 ^ 28 ≠ 0xe

/-- A multicast address that is not confined to the link. -/
def IsForwardedMulticast (addr4 : Nat) : Prop := addr4 / 2 ^ 28 = 0xe ∧ addr4 > 0xe00000ff

/-- The addresses for which an instance of an IPv4 range keeps routes. -/
def IsRouted : AfRange → Nat → Prop
  | .ipv4Unicast => IsUnicast
  | .ipv4Multicast => IsForwardedMulticast
  | _ => fun _ => False

variable {o : Ospf6Instance} {addr4 prefixlen : Nat} {a : List UInt8}

lemma addressConvert_roundtrip (h : addr4 < 2 ^ 32) :
    ospf6AfAddressConvert6to4 o (ospf6AfAddressConvert4to6 o addr4) = some addr4 := by
  unfold ospf6AfAddressConvert6to4 ospf6AfAddressConvert4to6 addr4Octets addrWord
  cases o.afInterop <;> simp [replicate] <;> omega

lemma prefixConvert_roundtrip (h : addr4 < 2 ^ 32) (hlen : prefixlen ≤ 32) :
    ospf6AfPrefixConvert6to4 o (ospf6AfAddressConvert4to6 o addr4) (ospf6AfPrefixlen4to6 o prefixlen) =
      some (addr4, prefixlen) := by
  unfold ospf6AfPrefixConvert6to4 ospf6AfPrefixlen4to6 ospf6AfPrefixlen6to4
  rw [addressConvert_roundtrip h]
  cases o.afInterop
  · simp
    omega
  · simp
    omega

lemma isUnspecified_convert4to6 (h : addr4 < 2 ^ 32) :
    isUnspecified (ospf6AfAddressConvert4to6 o addr4) ↔ addr4 = 0 := by
  unfold ospf6AfAddressConvert4to6 addr4Octets isUnspecified
  cases o.afInterop <;> simp [replicate, ← UInt8.toNat_inj] <;> omega

lemma addrWord_unspecified (h : isUnspecified a) (i : Nat) : addrWord a i = 0 := by
  have hzero : ∀ l : List UInt8, (∀ x ∈ l, x = 0) → l.foldl (fun n octet => n * 256 + octet.toNat) 0 = 0 := by
    intro l hl
    rw [eq_replicate_of_mem hl]
    induction l.length with
    | zero => rfl
    | succ n ih => exact ih
  exact hzero _ fun x hx => by simpa using all_eq_true.mp h x (mem_of_mem_drop (mem_of_mem_take hx))

lemma afRange_of_ipv4 (h : ospf6AfIsIpv4 o) : ospf6AfRange o = .ipv4Unicast ∨ ospf6AfRange o = .ipv4Multicast := by
  have hid : o.instanceId &&& 0xc0 = 0x40 := of_decide_eq_true h
  have hhigh : o.instanceId &&& 0x80 = 0 := by
    rw [show (0x80 : UInt8) = 0xc0 &&& 0x80 from rfl, ← UInt8.and_assoc, hid]
    rfl
  have hlow {v : UInt8} (hv : o.instanceId &&& 0xe0 = v) : v &&& 0xc0 = 0x40 := by
    rw [← hv, UInt8.and_assoc]
    exact hid
  unfold ospf6AfRange
  rw [if_neg (not_not.mpr hhigh), if_neg fun hv => absurd (hlow hv) (by decide),
    if_neg fun hv => absurd (hlow hv) (by decide)]
  split_ifs
  · exact .inl rfl
  · exact .inr rfl

section ipv4
variable (haf : ospf6AfIsIpv4 o)
include haf

/-- What an IPv4 instance accepts besides the default route has an IPv4 length and a routed IPv4 address. -/
lemma validatePrefix_iff : ospf6AfValidatePrefix o a prefixlen true ↔
    prefixlen = 0 ∧ isUnspecified a ∨ ospf6AfValidatePrefixlen o prefixlen .ipv4Unicast ∧
      ∃ addr4, ospf6AfAddressConvert6to4 o a = some addr4 ∧ IsRouted (ospf6AfRange o) addr4 := by
  have hlen : ospf6AfValidatePrefixlen o prefixlen (ospf6AfRange o) =
      ospf6AfValidatePrefixlen o prefixlen .ipv4Unicast := by
    rcases afRange_of_ipv4 haf with hrange | hrange <;> simp only [hrange, ospf6AfValidatePrefixlen]
  unfold ospf6AfValidatePrefix
  rw [hlen]
  split_ifs with hdefault hshort
  · exact iff_of_true rfl (.inl hdefault.2)
  · rw [or_iff_right (by simpa using hdefault), and_iff_right hshort]
    rcases afRange_of_ipv4 haf with hrange | hrange
    · cases hconv : ospf6AfAddressConvert6to4 o a <;>
        simp [hrange, ospf6AfValidateIpv4Unicast, hconv, IsRouted, IsUnicast]
    · cases hconv : ospf6AfAddressConvert6to4 o a <;>
        simp [hrange, ospf6AfValidateIpv4Multicast, hconv, IsRouted, IsForwardedMulticast]
  · simp_all

lemma validatePrefix_convert4to6 (h : addr4 < 2 ^ 32) (hlen : prefixlen ≤ 32) :
    ospf6AfValidatePrefix o (ospf6AfAddressConvert4to6 o addr4) (ospf6AfPrefixlen4to6 o prefixlen) true ↔
      IsRouted (ospf6AfRange o) addr4 ∨ o.afInterop ∧ addr4 = 0 ∧ prefixlen = 0 := by
  have hzero : ospf6AfPrefixlen4to6 o prefixlen = 0 ↔ o.afInterop ∧ prefixlen = 0 := by
    unfold ospf6AfPrefixlen4to6
    split_ifs with hi
    · simp [hi]
    · exact iff_of_false (by omega) fun h => hi h.1
  have hrange : ospf6AfValidatePrefixlen o (ospf6AfPrefixlen4to6 o prefixlen) .ipv4Unicast := by
    unfold ospf6AfValidatePrefixlen ospf6AfPrefixlen4to6
    split_ifs
    · exact decide_eq_true hlen
    · exact decide_eq_true (by omega)
  simp only [validatePrefix_iff haf, isUnspecified_convert4to6 h, addressConvert_roundtrip h, hzero,
    and_iff_right hrange, Option.some.injEq, exists_eq_left']
  tauto

lemma prefixConvert_of_valid (h : ospf6AfValidatePrefix o a prefixlen true) :
    (ospf6AfPrefixConvert6to4 o a prefixlen).isSome ↔ o.afInterop ∨ prefixlen ≠ 0 := by
  unfold ospf6AfPrefixConvert6to4
  rcases (validatePrefix_iff haf).mp h with ⟨rfl, ha⟩ | ⟨hlen, ha⟩
  · have hzero := addrWord_unspecified ha
    cases hi : o.afInterop <;> simp [ospf6AfAddressConvert6to4, hzero, hi]
  obtain ⟨addr4, hsome, -⟩ := ha
  unfold ospf6AfValidatePrefixlen at hlen
  split_ifs at hlen ⊢ with hi <;> simp_all <;> omega

end ipv4

/-- Prefixes as pairs of an address and a length: the first contains the second. -/
def Contains (p q : List UInt8 × Nat) : Prop := (addrPrefix p.1 p.2).bits <+: (addrPrefix q.1 q.2).bits

lemma bits_convert4to6 (hlen : prefixlen ≤ 32) :
    (addrPrefix (ospf6AfAddressConvert4to6 o addr4) (ospf6AfPrefixlen4to6 o prefixlen)).bits =
      (if o.afInterop then [] else replicate 96 false) ++ (addrPrefix (addr4Octets addr4) prefixlen).bits := by
  have happend : ∀ x y : List UInt8, addrBits (x ++ y) = addrBits x ++ addrBits y := fun _ _ => flatMap_append
  unfold addrPrefix ospf6AfAddressConvert4to6 ospf6AfPrefixlen4to6
  split_ifs
  · exact (congrArg _ (happend ..)).trans (take_append_of_le_length hlen)
  · rw [happend, show 128 - (32 - prefixlen) = (addrBits (replicate 12 0)).length + prefixlen from
      show _ = 96 + prefixlen by omega, take_length_add_append]
    rfl

/-- What one router converts another with the same setting reads, or does not. -/
theorem ospf6AfPrefix_conversions (o o' : Ospf6Instance) (hmode : o.afInterop = o'.afInterop)
    (haf : ospf6AfIsIpv4 o') :
    (∀ p4 : Nat × Nat, p4.1 < 2 ^ 32 → p4.2 ≤ 32 → ∃ p6, ospf6AfPrefixConvert4to6 o p4 = some p6 ∧
      ospf6AfPrefixConvert6to4 o' p6.1 p6.2 = some p4 ∧
      (ospf6AfValidatePrefix o' p6.1 p6.2 true ↔
        IsRouted (ospf6AfRange o') p4.1 ∨ o'.afInterop ∧ p4.1 = 0 ∧ p4.2 = 0) ∧
      ∀ q4 q6, q4.2 ≤ 32 → ospf6AfPrefixConvert4to6 o q4 = some q6 →
        (Contains p6 q6 ↔ Contains (addr4Octets p4.1, p4.2) (addr4Octets q4.1, q4.2))) ∧
    ∀ a prefixlen, ospf6AfValidatePrefix o' a prefixlen true →
      ((ospf6AfPrefixConvert6to4 o' a prefixlen).isSome ↔ o'.afInterop ∨ prefixlen ≠ 0) := by
  have hconvert : ∀ p4 : Nat × Nat, p4.2 ≤ 32 → ospf6AfPrefixConvert4to6 o p4 =
      some (ospf6AfAddressConvert4to6 o' p4.1, ospf6AfPrefixlen4to6 o' p4.2) := fun p4 hlen => by
    rw [ospf6AfPrefixConvert4to6, if_neg hlen.not_gt, ospf6AfAddressConvert4to6, ospf6AfPrefixlen4to6, hmode]
    rfl
  refine ⟨fun p4 haddr hlen => ⟨_, hconvert p4 hlen, prefixConvert_roundtrip haddr hlen,
    validatePrefix_convert4to6 haf haddr hlen, fun q4 q6 hqlen hq => ?_⟩, fun a prefixlen => prefixConvert_of_valid haf⟩
  cases (hconvert q4 hqlen).symm.trans hq
  unfold Contains
  rw [bits_convert4to6 hlen, bits_convert4to6 hqlen, prefix_append_right_inj]

theorem ospf6AfPrefix_conversions_ten : ∃ p6, ospf6AfPrefixConvert4to6 ⟨1, 64, false⟩ (0x0a000000, 8) = some p6 ∧
    ospf6AfPrefixConvert6to4 ⟨2, 65, false⟩ p6.1 p6.2 = some (0x0a000000, 8) ∧
    ospf6AfValidatePrefix ⟨2, 65, false⟩ p6.1 p6.2 true := by
  obtain ⟨p6, hp6, hback, hvalid, -⟩ := (ospf6AfPrefix_conversions ⟨1, 64, false⟩ ⟨2, 65, false⟩
    rfl (by decide)).1 (0x0a000000, 8) (by decide) (by decide)
  exact ⟨p6, hp6, hback, hvalid.mpr (.inl ⟨by decide, by decide, by decide, by decide⟩)⟩

/-- The default route becomes `::/96`, which is rejected, and `::/0` is accepted but not converted. -/
theorem ospf6AfPrefix_default_lost :
    ospf6AfPrefixConvert4to6 ⟨1, 64, false⟩ (0, 0) = some (replicate 16 0, 96) ∧
    ospf6AfValidatePrefix ⟨2, 64, false⟩ (replicate 16 0) 96 true = false ∧
    ospf6AfValidatePrefix ⟨2, 64, false⟩ (replicate 16 0) 0 true ∧
    ospf6AfPrefixConvert6to4 ⟨2, 64, false⟩ (replicate 16 0) 0 = none := by
  decide

end OspfMdr.Ospf6
