import OspfMdr.Proofs.PacketExamin

/-!
# Accepted LSAs

The grammar of an LSA depends on the function code of its type. The validator chooses the grammar of the
body by the whole type, and the shortest length by the low eight bits of the function code.
-/

namespace OspfMdr.Ospf6
open Lib List

/-- The size of the prefix that starts at `p`. -/
def prefixSize (m : Memory) (p : Nat) : Nat := 4 + ospf6PrefixSpace (m p).toNat

/-- From `p` to `stop` there are `n` prefixes. -/
def Prefixes (m : Memory) (p stop n : Nat) : Prop :=
  ∃ l, Tiles (prefixSize m) stop p l ∧ l.length = n ∧ ∀ q ∈ l, (m q).toNat ≤ 128

/-- The octets of the forwarding address, the route tag and the referenced link-state id. -/
def externalOptional (m : Memory) (body : Nat) : Nat :=
  (if (m body).toNat / 2 % 2 = 1 then 16 else 0) + (if (m body).toNat % 2 = 1 then 4 else 0) +
    if m.ntohs (body + 6) ≠ 0 then 4 else 0

/-- The body of the LSA is one of the function code in its type. -/
def WellFormed (m : Memory) (lsah lsalen : Nat) : Prop :=
  let body := lsah + 20
  let stop := lsah + lsalen
  match m.ntohs (lsah + 2) % 0x2000 with
  | 1 => 24 ≤ lsalen ∧ 16 ∣ lsalen - 24
  | 2 => 24 ≤ lsalen ∧ 4 ∣ lsalen - 24
  | 3 => Prefixes m (body + 4) stop 1
  | 4 => lsalen = 32
  | 5 | 7 => ∃ e, Prefixes m (body + 4) e 1 ∧ e + externalOptional m body = stop
  | 8 => Prefixes m (body + 24) stop (m.ntohl (body + 20))
  | 9 => Prefixes m (body + 12) stop (m.ntohs body)
  | _ => True

variable {stop fuel p length num k lsah lsalen : Nat} {m : Memory}

section
variable {m : Memory}

lemma tiles_prefix_self {l : List Nat} (h : Tiles (prefixSize m) stop stop l) : l = [] := by
  cases h with
  | nil => rfl
  | cons h =>
    have hle := h.le
    unfold prefixSize at hle
    omega

lemma prefixesExaminLoop_succ_iff :
    ospf6PrefixesExaminLoop m (fuel + 1) p (length + 1) num = some k ↔
      prefixSize m p ≤ length + 1 ∧ (m p).toNat ≤ 128 ∧
      ospf6PrefixesExaminLoop m fuel (p + prefixSize m p) (length + 1 - prefixSize m p) (num + 1) = some k := by
  unfold prefixSize
  simp only [ospf6PrefixesExaminLoop]
  split_ifs with h1 h2 h3
  · simp
    omega
  · simp
    omega
  · simp
    omega
  · exact ⟨fun h => ⟨Nat.le_of_not_lt h3, Nat.le_of_not_lt h2, h⟩, fun h => h.2.2⟩

lemma prefixesExaminLoop_done_iff :
    ospf6PrefixesExaminLoop m fuel p 0 num = some k ↔
      ∃ l, Tiles (prefixSize m) (p + 0) p l ∧ (∀ q ∈ l, (m q).toNat ≤ 128) ∧ num + l.length = k := by
  rw [ospf6PrefixesExaminLoop, Option.some.injEq]
  constructor
  · rintro rfl
    exact ⟨[], .nil, by simp, rfl⟩
  · rintro ⟨l, hl, -, rfl⟩
    rw [tiles_prefix_self hl]
    rfl

lemma prefixesExaminLoop_iff (hfuel : length ≤ fuel) : ospf6PrefixesExaminLoop m fuel p length num =
    some k ↔ ∃ l, Tiles (prefixSize m) (p + length) p l ∧ (∀ q ∈ l, (m q).toNat ≤ 128) ∧ num +
    l.length = k := by
  induction fuel generalizing p length num with
  | zero =>
    obtain rfl : length = 0 := by omega
    exact prefixesExaminLoop_done_iff
  | succ fuel ih =>
    cases length with
    | zero => exact prefixesExaminLoop_done_iff
    | succ length =>
      have hpos : 0 < prefixSize m p := by
        unfold prefixSize
        omega
      rw [prefixesExaminLoop_succ_iff, ih (by omega)]
      constructor
      · rintro ⟨hsize, hlen, l, hl, hall, hk⟩
        rw [add_assoc, Nat.add_sub_cancel' hsize] at hl
        refine ⟨p :: l, .cons hl, forall_mem_cons.mpr ⟨hlen, hall⟩, ?_⟩
        rw [length_cons]
        omega
      · rintro ⟨l, hl, hall, hk⟩
        generalize hstop : p + (length + 1) = stop at hl
        cases hl with
        | nil => omega
        | @cons _ l hl =>
          have hle := hl.le
          rw [forall_mem_cons] at hall
          rw [length_cons] at hk
          refine ⟨by omega, hall.1, l, ?_, hall.2, by omega⟩
          convert hl using 1
          omega

lemma prefixesExamin_iff {n : Nat} :
    ospf6PrefixesExamin m p length n ↔ Prefixes m p (p + length) n := by
  unfold ospf6PrefixesExamin Prefixes
  rw [beq_iff_eq, prefixesExaminLoop_iff le_rfl]
  simp only [zero_add, and_comm]

lemma prefixes_one_le (h : Prefixes m p stop 1) : p + 4 ≤ stop := by
  obtain ⟨l, hl, hlen, -⟩ := h
  cases hl with
  | nil => simp at hlen
  | cons hl =>
    have hle := hl.le
    unfold prefixSize at hle
    omega

lemma externalBody_iff (hlt : lsalen < 65536) :
    4 + lsaHeaderSize ≤ lsalen ∧ ospf6AsExternalExamin m lsah lsalen ↔
      ∃ e, Prefixes m (lsah + 20 + 4) e 1 ∧ e + externalOptional m (lsah + 20) = lsah + lsalen := by
  have hexam : ospf6AsExternalExamin m lsah lsalen =
      if 20 + 4 + 4 > lsalen then false else if 20 + 4 + externalOptional m (lsah + 20) > lsalen then false else
        ospf6PrefixesExamin m (lsah + 20 + 4)
          (unsignedSub lsalen (20 + 4 + externalOptional m (lsah + 20))) 1 := by
    have hsum : ∀ a b c, lsaHeaderSize + 4 + a + b + c = 20 + 4 + (a + b + c) := by
      unfold lsaHeaderSize
      omega
    simp only [ospf6AsExternalExamin, hsum]
    rfl
  rw [hexam]
  unfold lsaHeaderSize
  generalize externalOptional m (lsah + 20) = opt
  constructor
  · rintro ⟨-, h⟩
    split_ifs at h with h1 h2
    rw [unsignedSub_of_le (by omega) (by omega), prefixesExamin_iff] at h
    exact ⟨_, h, by omega⟩
  · rintro ⟨e, he, hstop⟩
    have hle := prefixes_one_le he
    rw [if_neg (by omega), if_neg (by omega), unsignedSub_of_le (by omega) (by omega),
      prefixesExamin_iff]
    have hend : lsah + 20 + 4 + (lsalen - (20 + 4 + opt)) = e := by omega
    rw [hend]
    exact ⟨by omega, he⟩

lemma prefixBody_iff (lsah : Nat) (hlt : lsalen < 65536) (fixed n : Nat) : fixed + lsaHeaderSize ≤
    lsalen ∧ ospf6PrefixesExamin m (lsah + lsaHeaderSize + fixed)
    (unsignedSub (unsignedSub lsalen lsaHeaderSize) fixed) n ↔ Prefixes m (lsah + 20 + fixed)
    (lsah + lsalen) n := by
  unfold lsaHeaderSize
  rw [prefixesExamin_iff]
  constructor
  · rintro ⟨hlong, h⟩
    rw [unsignedSub_twice (by omega) hlt] at h
    have hstop : lsah + 20 + fixed + (lsalen - (20 + fixed)) = lsah + lsalen := by omega
    rwa [hstop] at h
  · intro h
    obtain ⟨l, hl, -⟩ := id h
    have hle := hl.le
    have hstop : lsah + 20 + fixed + (lsalen - (20 + fixed)) = lsah + lsalen := by omega
    rw [unsignedSub_twice (by omega) hlt, hstop]
    exact ⟨by omega, h⟩

lemma alignedBody_iff (hlt : lsalen < 65536) (size : Nat) :
    4 + lsaHeaderSize ≤ lsalen ∧ unsignedSub (unsignedSub lsalen lsaHeaderSize) 4 % size = 0 ↔
      24 ≤ lsalen ∧ size ∣ lsalen - 24 := by
  unfold lsaHeaderSize
  apply and_congr_right
  intro hlong
  rw [unsignedSub_twice (by omega) hlt, ← Nat.dvd_iff_mod_eq_zero]

end

/-- The types of LSA with a check of their own. -/
def standardTypes : List Nat := [0x2001, 0x2002, 0x2003, 0x2004, 0x4005, 0x2007, 0x0008, 0x2009]

def codesWithMinlen : List Nat := [1, 2, 3, 4, 5, 7, 8, 9]

lemma wellFormed_unknown (h : m.ntohs (lsah + 2) % 0x2000 ∉ codesWithMinlen) :
    WellFormed m lsah lsalen := by
  unfold WellFormed
  split
  all_goals first | trivial | simp_all [codesWithMinlen]

lemma code_of_mem (h : m.ntohs (lsah + 2) % 0x2000 ∈ codesWithMinlen) :
    m.ntohs (lsah + 2) % 256 = m.ntohs (lsah + 2) % 0x2000 := by
  have hsmall : ∀ k ∈ codesWithMinlen, k < 256 := by decide
  have := hsmall _ h
  omega

lemma lsaExamin_unknown (h : m.ntohs (lsah + 2) % 256 ∉ codesWithMinlen) :
    ospf6LsaExamin m lsah lsalen false := by
  have hmod : m.ntohs (lsah + 2) % 0x2000 % 256 = m.ntohs (lsah + 2) % 256 := by omega
  have hmin : ∀ k < 10, ospf6LsaMinlen.getD k 0 ≠ 0 → k ∈ codesWithMinlen := by decide
  have hcodes : ∀ t ∈ standardTypes, t % 256 ∈ codesWithMinlen := by decide
  have hne : ∀ t ∈ standardTypes, m.ntohs (lsah + 2) ≠ t := fun t ht heq => h (heq ▸ hcodes t ht)
  simp only [standardTypes, forall_mem_cons] at hne
  simp only [ospf6LsaExamin, hmod, hne, if_false, or_self]
  rw [if_neg fun hshort => h (hmin _ hshort.1 hshort.2.1)]

lemma lsaExamin_standard (hge : 20 ≤ lsalen) (hlt : lsalen < 65536)
    (htype : m.ntohs (lsah + 2) ∈ standardTypes) :
    ospf6LsaExamin m lsah lsalen false ↔ WellFormed m lsah lsalen := by
  simp only [standardTypes, mem_cons, not_mem_nil, or_false] at htype
  rcases htype with h | h | h | h | h | h | h | h
  · simpa [ospf6LsaExamin, WellFormed, ospf6LsaMinlen, h] using alignedBody_iff hlt 16
  · simpa [ospf6LsaExamin, WellFormed, ospf6LsaMinlen, h] using alignedBody_iff hlt 4
  · simpa [ospf6LsaExamin, WellFormed, ospf6LsaMinlen, h] using
      prefixBody_iff lsah hlt 4 1
  · simp [ospf6LsaExamin, WellFormed, ospf6LsaMinlen, h]
    unfold lsaHeaderSize
    omega
  · simpa [ospf6LsaExamin, WellFormed, ospf6LsaMinlen, h] using externalBody_iff hlt
  · simpa [ospf6LsaExamin, WellFormed, ospf6LsaMinlen, h] using externalBody_iff hlt
  · simpa [ospf6LsaExamin, WellFormed, ospf6LsaMinlen, h, lsaHeaderSize] using
      prefixBody_iff (m := m) lsah hlt 24 (m.ntohl (lsah + 20 + 20))
  · simpa [ospf6LsaExamin, WellFormed, ospf6LsaMinlen, h, lsaHeaderSize] using
      prefixBody_iff (m := m) lsah hlt 12 (m.ntohs (lsah + 20))

/-- The shortest LSA the validator lets through for the low eight bits of the type. -/
def shortest (lsatype : Nat) : Nat := ospf6LsaMinlen.getD (lsatype % 256) 0 + 20

-- no case of the switch applies, only the length is checked
lemma lsaExamin_foreign (htype : m.ntohs (lsah + 2) ∉ standardTypes)
    (hcode : m.ntohs (lsah + 2) % 256 ∈ codesWithMinlen) :
    ospf6LsaExamin m lsah lsalen false ↔ shortest (m.ntohs (lsah + 2)) ≤ lsalen := by
  have hmod : m.ntohs (lsah + 2) % 0x2000 % 256 = m.ntohs (lsah + 2) % 256 := by omega
  have hmin : ∀ k ∈ codesWithMinlen, k < 10 ∧ ospf6LsaMinlen.getD k 0 ≠ 0 := by decide
  simp only [standardTypes, mem_cons, not_mem_nil, or_false, not_or] at htype
  obtain ⟨hlow, hne⟩ := hmin _ hcode
  simp only [ospf6LsaExamin, hmod, htype, if_false, or_self, hlow, true_and, ne_eq, hne,
    not_false_eq_true, shortest, lsaHeaderSize]
  split_ifs with hshort
  · simp only [false_iff]
    omega
  · simp only [true_iff]
    omega

lemma wellFormed_shortest (hcode : m.ntohs (lsah + 2) % 0x2000 ∈ codesWithMinlen)
    (h : WellFormed m lsah lsalen) : shortest (m.ntohs (lsah + 2)) ≤ lsalen := by
  unfold shortest
  rw [code_of_mem hcode]
  unfold WellFormed at h
  generalize m.ntohs (lsah + 2) % 0x2000 = code at h hcode
  simp only [codesWithMinlen, mem_cons, not_mem_nil, or_false] at hcode
  rcases hcode with rfl | rfl | rfl | rfl | rfl | rfl | rfl | rfl
  · exact h.1
  · exact h.1
  · have hle := prefixes_one_le h
    change 24 ≤ lsalen
    omega
  · exact h.ge
  · obtain ⟨e, he, hstop⟩ := h
    have hle := prefixes_one_le he
    change 24 ≤ lsalen
    omega
  · obtain ⟨e, he, hstop⟩ := h
    have hle := prefixes_one_le he
    change 24 ≤ lsalen
    omega
  · obtain ⟨l, hl, -⟩ := h
    have hle := hl.le
    change 44 ≤ lsalen
    omega
  · obtain ⟨l, hl, -⟩ := h
    have hle := hl.le
    change 32 ≤ lsalen
    omega

/-- The validator applies the grammar of the function code: the type is one of the switch, or its low
eight bits name no length; a known code of another scope is too short for it or well formed all the
same; an unknown code whose low eight bits are those of a known one is long enough for that. -/
def RightGrammar (m : Memory) (lsah lsalen : Nat) : Prop :=
  let lsatype := m.ntohs (lsah + 2)
  lsatype ∈ standardTypes ∨ lsatype % 256 ∉ codesWithMinlen ∨
    if lsatype % 0x2000 ∈ codesWithMinlen then
      lsalen < shortest lsatype ∨ WellFormed m lsah lsalen
    else shortest lsatype ≤ lsalen

/-- For the lengths a header can give, the validator accepts exactly the well-formed LSAs if and only
if it applies the grammar of the function code. -/
theorem lsaExamin_iff_wellFormed {m : Memory} {lsah lsalen : Nat} (hge : 20 ≤ lsalen)
    (hlt : lsalen < 65536) :
    (ospf6LsaExamin m lsah lsalen false ↔ WellFormed m lsah lsalen) ↔
      RightGrammar m lsah lsalen := by
  unfold RightGrammar
  by_cases htype : m.ntohs (lsah + 2) ∈ standardTypes
  · exact iff_of_true (lsaExamin_standard hge hlt htype) (.inl htype)
  by_cases hlow : m.ntohs (lsah + 2) % 256 ∈ codesWithMinlen
  · rw [lsaExamin_foreign htype hlow]
    simp only [htype, hlow, not_true, false_or]
    split_ifs with hcode
    · have hshort : WellFormed m lsah lsalen → _ := wellFormed_shortest hcode
      constructor
      · intro h
        exact (Nat.lt_or_ge _ _).imp_right h.mp
      · rintro (h | h)
        · exact iff_of_false h.not_ge fun hwf => h.not_ge (hshort hwf)
        · exact iff_of_true (hshort h) h
    · exact ⟨fun h => h.mpr (wellFormed_unknown hcode),
        fun h => iff_of_true h (wellFormed_unknown hcode)⟩
  · have hcode : m.ntohs (lsah + 2) % 0x2000 ∉ codesWithMinlen := fun h =>
      hlow (code_of_mem h ▸ h)
    exact iff_of_true (iff_of_true (lsaExamin_unknown hlow) (wellFormed_unknown hcode))
      (.inr (.inl hlow))

def lsaOfType (high low : UInt8) : List UInt8 := [0, 0, high, low] ++ List.replicate 21 0

theorem lsaExamin_router_lsa : WellFormed (memoryOf (lsaOfType 0x20 1)) 0 24 :=
  ((lsaExamin_iff_wellFormed (by decide) (by decide)).mpr (.inl (by decide))).mp (by decide)

/-- An unknown function code is held to the length of a router-LSA, and a router-LSA of another scope to
nothing else. -/
theorem lsaExamin_wrong_grammar :
    (ospf6LsaExamin (memoryOf (lsaOfType 0x21 1)) 0 20 false = false ∧
      WellFormed (memoryOf (lsaOfType 0x21 1)) 0 20) ∧
    ospf6LsaExamin (memoryOf (lsaOfType 0xa0 1)) 0 25 false ∧
    ¬ WellFormed (memoryOf (lsaOfType 0xa0 1)) 0 25 := by
  have h1 : (memoryOf (lsaOfType 0x21 1)).ntohs (0 + 2) = 0x2101 := by decide
  have h2 : (memoryOf (lsaOfType 0xa0 1)).ntohs (0 + 2) = 0xa001 := by decide
  refine ⟨⟨by decide, ?_⟩, by decide, ?_⟩
  · unfold WellFormed
    rw [h1]
    trivial
  · unfold WellFormed
    rw [h2]
    change ¬ (24 ≤ 25 ∧ 16 ∣ 25 - 24)
    decide

end OspfMdr.Ospf6
