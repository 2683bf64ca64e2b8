import OspfMdr.Model.Packet

namespace OspfMdr.Ospf6
open Lib List

lemma Memory.ntohs_lt (m : Memory) (p : Nat) : m.ntohs p < 65536 := by
  unfold Memory.ntohs
  have h0 := (m p).toNat_lt
  have h1 := (m (p + 1)).toNat_lt
  omega

lemma unsignedSub_of_le {a b : Nat} (hle : b ≤ a) (ha : a < 2 ^ 32) : unsignedSub a b = a - b := by
  unfold unsignedSub
  omega

lemma packetLength_lt (m : Memory) : packetLength m < 65536 := m.ntohs_lt 2

lemma unsignedSub_twice {n a b : Nat} (h : a + b ≤ n) (hn : n < 65536) :
    unsignedSub (unsignedSub n a) b = n - (a + b) := by
  have h1 : unsignedSub n a = n - a := unsignedSub_of_le (by omega) (by omega)
  rw [h1, unsignedSub_of_le (by omega) (by omega)]
  omega

lemma unsignedSub_packetLength (m : Memory) {a b : Nat} (h : a + b ≤ packetLength m) :
    unsignedSub (unsignedSub (packetLength m) a) b = packetLength m - (a + b) :=
  unsignedSub_twice h (packetLength_lt m)

/-- How far the check of a sequence of LSAs or headers moves on. -/
def lsaseqStep (m : Memory) (headeronly : Bool) (p : Nat) : Nat :=
  if headeronly then lsaHeaderSize else lsaSize m p

lemma lsaseqExaminLoop_tiles (m : Memory) (headeronly : Bool) (fuel p length num k : Nat)
    (h : ospf6LsaseqExaminLoop m headeronly fuel p length num = some k) :
    ∃ l, Tiles (lsaseqStep m headeronly) (p + length) p l ∧
      ∀ q ∈ l, lsaHeaderSize ≤ lsaseqStep m headeronly q := by
  induction fuel generalizing p length num with
  | zero =>
    cases length with
    | zero => exact ⟨[], Tiles.nil, by simp⟩
    | succ length => simp [ospf6LsaseqExaminLoop] at h
  | succ fuel ih =>
    cases length with
    | zero => exact ⟨[], Tiles.nil, by simp⟩
    | succ length =>
      have hnext : lsaHeaderSize ≤ lsaseqStep m headeronly p ∧
          lsaseqStep m headeronly p ≤ length + 1 ∧
          ospf6LsaseqExaminLoop m headeronly fuel (p + lsaseqStep m headeronly p)
            (length + 1 - lsaseqStep m headeronly p) (num + 1) = some k := by
        cases headeronly with
        | true =>
          simp only [ospf6LsaseqExaminLoop, ite_true] at h
          split_ifs at h with h1 h2 h3
          rw [lsaseqStep, if_pos rfl]
          exact ⟨le_refl _, Nat.le_of_not_lt h1, h⟩
        | false =>
          simp only [ospf6LsaseqExaminLoop, Bool.false_eq_true, ite_false] at h
          split_ifs at h with h1 h2 h3 h4
          rw [lsaseqStep, if_neg Bool.false_ne_true]
          exact ⟨Nat.le_of_not_lt h2, Nat.le_of_not_lt h3, h⟩
      obtain ⟨h1, h2, h3⟩ := hnext
      obtain ⟨l, hl, hmin⟩ := ih _ _ _ h3
      have hstop : p + lsaseqStep m headeronly p + (length + 1 - lsaseqStep m headeronly p) =
          p + (length + 1) := by omega
      rw [hstop] at hl
      refine ⟨p :: l, Tiles.cons hl, ?_⟩
      intro q hq
      rcases mem_cons.mp hq with rfl | hq
      · exact h1
      · exact hmin q hq

lemma lsaseqExamin_tiles {m : Memory} {headeronly : Bool} {a b num : Nat} (hlen : a + b ≤ packetLength m)
    (h : ospf6LsaseqExamin m (a + b) (unsignedSub (unsignedSub (packetLength m) a) b) headeronly num) :
    ∃ l, Tiles (lsaseqStep m headeronly) (packetLength m) (a + b) l ∧
      ∀ q ∈ l, lsaHeaderSize ≤ lsaseqStep m headeronly q := by
  rw [unsignedSub_packetLength m hlen] at h
  unfold ospf6LsaseqExamin at h
  split at h
  · cases h
  · next k hloop =>
    exact Nat.add_sub_cancel' hlen ▸ lsaseqExaminLoop_tiles m headeronly _ _ _ 0 k hloop

section Loops
variable {m : Memory} {σ : Type} {l : List Nat}

lemma fixedRecvLoop_safe {size start : Nat} (h : Tiles (fun _ => size) (packetLength m) start l)
    (hsize : 0 < size) (body : σ → Nat → Option σ) (s : σ) :
    LoopSafe m (elementReads (fun _ => size) (fixedRecvLoop m body s size start))
      (fixedRecvLoop m body s size start) := by
  have hlen := h.length_le fun _ _ => hsize
  obtain ⟨h1, _, h3⟩ := walk_of_tiles (fun p => decide (p + size ≤ packetLength m)) body h
    (fun q hq => by simpa using (h.mem_bounds q hq).2) (by simp; omega) (packetLength m + 1)
    (by omega) s
  refine ⟨?_, fun hs => (h3 hs).2⟩
  intro r hr
  obtain ⟨q, hq, rfl⟩ := mem_map.mp hr
  exact (h.mem_bounds q (h1 hq)).2

lemma lsupdateRecvLoop_safe
    (h : Tiles (lsaSize m) (packetLength m) (headerSize + lsUpdMinSize) l)
    (hmin : ∀ q ∈ l, lsaHeaderSize ≤ lsaSize m q) (body : σ → Nat → Option σ) (s : σ) :
    LoopSafe m (lsupdateReads m (ospf6LsupdateRecvLoop m body s)) (ospf6LsupdateRecvLoop m body s) := by
  have hheader : ∀ q ∈ l, q + 20 ≤ packetLength m := by
    intro q hq
    have h1 := (h.mem_bounds q hq).2
    have h2 := hmin q hq
    unfold lsaHeaderSize at h2
    omega
  have hlen := h.length_le fun q hq => lt_of_lt_of_le (by decide) (hmin q hq)
  obtain ⟨h1, h2, h3⟩ := walk_of_tiles
    (fun p => decide (p < packetLength m) && decide (p + lsaSize m p ≤ packetLength m)) body h
    (fun q hq => by
      have := hheader q hq
      simpa using ⟨by omega, (h.mem_bounds q hq).2⟩)
    (by simp) (packetLength m + 1) (by omega) s
  refine ⟨?_, fun hs => (h3 hs).2⟩
  intro r hr
  simp only [lsupdateReads, mem_append, append_assoc] at hr
  rcases hr with hr | hr | hr
  · obtain ⟨q, hq, rfl⟩ := mem_map.mp hr
    exact (h.mem_bounds q (h1 hq)).2
  · obtain ⟨q, hq, rfl⟩ := mem_map.mp hr
    have := hheader q (h1 hq)
    omega
  · split_ifs at hr with hc
    · rw [mem_singleton] at hr
      subst hr
      rcases mem_cons.mp h2 with h2 | h2
      · rw [ospf6LsupdateRecvLoop, h2] at hc
        omega
      · have := hheader _ h2
        simp only [ospf6LsupdateRecvLoop]
        omega
    · simp at hr

end Loops

/-- Which packets pass the validator although they are shorter than the packet header. -/
def UndersizedListPacket (m : Memory) : Prop :=
  (packetType m = messageTypeLsreq ∨ packetType m = messageTypeLsack) ∧ packetLength m < headerSize

section Accepted
variable {m : Memory} {bytesonwire : Nat} (h : ospf6PacketExamin m bytesonwire)
include h

lemma packetExamin_minlen {type : Nat} (ht : packetType m = type) (hlt : type < 6)
    (hmin : ospf6PacketMinlen.getD type 0 ≠ 0) :
    headerSize + ospf6PacketMinlen.getD type 0 ≤ packetLength m := by
  subst ht
  unfold ospf6PacketExamin at h
  by_contra hcon
  have hcheck : packetType m < 6 ∧ ospf6PacketMinlen.getD (packetType m) 0 ≠ 0 ∧
      packetLength m < headerSize + ospf6PacketMinlen.getD (packetType m) 0 :=
    ⟨hlt, hmin, Nat.lt_of_not_le hcon⟩
  simp only [hcheck, ne_eq, not_false_eq_true, and_self, ite_true] at h
  split_ifs at h

lemma packetExamin_dbdesc (ht : packetType m = messageTypeDbdesc) :
    headerSize + dbDescMinSize ≤ packetLength m ∧
      ∃ l, Tiles (fun _ => lsaHeaderSize) (packetLength m) (headerSize + dbDescMinSize) l := by
  have hlen : headerSize + dbDescMinSize ≤ packetLength m := packetExamin_minlen h ht (by decide) (by decide)
  refine ⟨hlen, ?_⟩
  unfold ospf6PacketExamin at h
  simp +decide only [ht, if_false, if_true] at h
  split_ifs at h
  obtain ⟨l, hl, _⟩ := lsaseqExamin_tiles hlen h
  exact ⟨l, hl⟩

lemma packetExamin_lsreq (ht : packetType m = messageTypeLsreq) (hlen : headerSize ≤ packetLength m) :
    ∃ l, Tiles (fun _ => lsreqLsdescFixSize) (packetLength m) headerSize l := by
  apply tiles_of_dvd hlen
  unfold ospf6PacketExamin at h
  simp +decide only [ht, if_false, if_true] at h
  split_ifs at h
  rw [unsignedSub_packetLength m (by simpa [lsReqMinSize] using hlen)] at h
  exact Nat.dvd_of_mod_eq_zero (by simpa [lsReqMinSize] using h)

lemma packetExamin_lsupdate (ht : packetType m = messageTypeLsupdate) : headerSize + lsUpdMinSize ≤
    packetLength m ∧ ∃ l, Tiles (lsaSize m) (packetLength m) (headerSize + lsUpdMinSize) l ∧ ∀ q ∈
    l, lsaHeaderSize ≤ lsaSize m q := by
  have hlen : headerSize + lsUpdMinSize ≤ packetLength m := packetExamin_minlen h ht (by decide) (by decide)
  refine ⟨hlen, ?_⟩
  unfold ospf6PacketExamin at h
  simp +decide only [ht, if_false, if_true] at h
  split_ifs at h
  exact lsaseqExamin_tiles hlen h

lemma packetExamin_lsack (ht : packetType m = messageTypeLsack) (hlen : headerSize ≤ packetLength m) :
    ∃ l, Tiles (fun _ => lsaHeaderSize) (packetLength m) headerSize l := by
  unfold ospf6PacketExamin at h
  simp +decide only [ht, if_false, if_true] at h
  split_ifs at h
  obtain ⟨l, hl, _⟩ := lsaseqExamin_tiles (by simpa [lsAckMinSize] using hlen) h
  exact ⟨l, hl⟩

lemma packetExamin_type : packetType m = messageTypeHello ∨ packetType m = messageTypeDbdesc ∨
    packetType m = messageTypeLsreq ∨ packetType m = messageTypeLsupdate ∨
    packetType m = messageTypeLsack := by
  unfold ospf6PacketExamin at h
  by_contra hcon
  simp only [not_or] at hcon
  simp [hcon.1, hcon.2.1, hcon.2.2.1, hcon.2.2.2.1, hcon.2.2.2.2] at h

end Accepted

/-- An accepted packet is received safely, unless it is an undersized Link State Request or Acknowledgment. -/
theorem recvSafe_iff_of_packetExamin (m : Memory) (bytesonwire : Nat)
    (h : ospf6PacketExamin m bytesonwire) : RecvSafe m ↔ ¬UndersizedListPacket m := by
  constructor
  · rintro hsafe ⟨_, hlt⟩
    have := hsafe.header
    omega
  · intro hsize
    have hlist : packetType m = messageTypeLsreq ∨ packetType m = messageTypeLsack →
        headerSize ≤ packetLength m := fun ht => Nat.le_of_not_lt fun hlt => hsize ⟨ht, hlt⟩
    refine ⟨?_, ?_, ?_, ?_, ?_⟩
    · rcases packetExamin_type h with ht | ht | ht | ht | ht
      · exact le_trans (Nat.le_add_right _ _) (packetExamin_minlen h ht (by decide) (by decide))
      · exact le_trans (Nat.le_add_right _ _) (packetExamin_dbdesc h ht).1
      · exact hlist (.inl ht)
      · exact le_trans (Nat.le_add_right _ _) (packetExamin_lsupdate h ht).1
      · exact hlist (.inr ht)
    · intro ht σ body s
      obtain ⟨hlen, l, hl⟩ := packetExamin_dbdesc h ht
      obtain ⟨hreads, hend⟩ := fixedRecvLoop_safe hl (by decide) body s
      refine ⟨?_, hend⟩
      intro r hr
      rcases mem_cons.mp hr with rfl | hr
      · exact hlen
      · exact hreads r hr
    · intro ht σ body s
      obtain ⟨l, hl⟩ := packetExamin_lsreq h ht (hlist (.inl ht))
      exact fixedRecvLoop_safe hl (by decide) body s
    · intro ht σ body s
      obtain ⟨_, l, hl, hmin⟩ := packetExamin_lsupdate h ht
      exact lsupdateRecvLoop_safe hl hmin body s
    · intro ht σ body s
      obtain ⟨l, hl⟩ := packetExamin_lsack h ht (hlist (.inr ht))
      exact fixedRecvLoop_safe hl (by decide) body s

def memoryOf (bytes : List UInt8) : Memory := fun p => bytes.getD p 0

def oneEntryLsreq : List UInt8 :=
  [3, 3, 0, 28, 0, 0, 0, 1, 0, 0, 0, 0, 0, 0, 0, 0] ++ [0, 0, 0x20, 1, 0, 0, 0, 0, 0, 0, 0, 2]

theorem recvSafe_oneEntryLsreq : RecvSafe (memoryOf oneEntryLsreq) :=
  (recvSafe_iff_of_packetExamin (memoryOf oneEntryLsreq) 28 (by decide)).mpr
    fun h => absurd h.2 (by decide)

def emptyLsreq : List UInt8 := [3, 3, 0, 0, 0, 0, 0, 1, 0, 0, 0, 0, 0, 0, 0, 0]

/-- It is accepted and fails the assertion after the receive loop. -/
theorem emptyLsreq_not_recvSafe :
    ospf6PacketExamin (memoryOf emptyLsreq) emptyLsreq.length ∧
    packetLength (memoryOf emptyLsreq) < headerSize ∧
    (ospf6LsreqRecvLoop (memoryOf emptyLsreq) (fun s _ => some s) ()).state.isSome ∧
    (ospf6LsreqRecvLoop (memoryOf emptyLsreq) (fun s _ => some s) ()).cursor ≠
      packetLength (memoryOf emptyLsreq) ∧
    ¬RecvSafe (memoryOf emptyLsreq) := by
  refine ⟨by decide, by decide, by decide, by decide, ?_⟩
  intro h
  exact absurd h.header (by decide)

end OspfMdr.Ospf6
