import OspfMdr.Lib.ByteImage
import OspfMdr.Model.HelloPacket
import OspfMdr.Proofs.HelloLists

/-!
# Neighbor lists of MDR Hellos on the wire

A receiver finds the lists, the sequence number and the type of a Hello in the bytes that the sender built
exactly if the counts fit into their fields and the packet into its length field.
-/

namespace OspfMdr.Ospf6
open Lib List UInt8 HeardNeighbor
open Option hiding map_map

variable {m : Memory} {p : Nat} {interop : Bool} {c : HelloSender} {hello : MdrHello} {lls len : Nat}

lemma ntohs_of_image {n : Nat} (h : ImageAt m p (htons n)) : m.ntohs p = n % 65536 := by
  obtain ⟨hhigh, hlow, -⟩ := h
  rw [Memory.ntohs, hhigh, hlow, toNat_ofNat', toNat_ofNat']
  omega

lemma ntohl_of_image {n : Nat} (h : ImageAt m p (htonl n)) : m.ntohl p = n % 2 ^ 32 := by
  obtain ⟨hhigh, hlow⟩ := imageAt_append.mp h
  have hlen : (htons (n / 65536)).length = 2 := rfl
  rw [hlen] at hlow
  rw [Memory.ntohl, ntohs_of_image hhigh, ntohs_of_image hlow]
  omega

lemma helloHeaderBytes_length (n : Nat) : (helloHeaderBytes c n).length = 16 := rfl

lemma helloBodyBytes_length : (helloBodyBytes c).length = 20 := rfl

lemma helloTlvBytes_length : (helloTlvBytes interop hello).length = 12 := rfl

lemma ridBytes_length (rids : List UInt32) : (ridBytes rids).length = 4 * rids.length := by
  induction rids with
  | nil => rfl
  | cons id rids ih =>
    have hid : (htonl id.toNat).length = 4 := rfl
    rw [ridBytes, flatMap_cons, length_append, hid, length_cons, Nat.mul_succ, add_comm]
    exact congrArg (· + 4) ih

lemma rids_of_image {rids : List UInt32} (h : ImageAt m p (ridBytes rids)) :
    ((List.range rids.length).map fun i => UInt32.ofNat (m.ntohl (p + 4 * i))) = rids := by
  induction rids generalizing p with
  | nil => rfl
  | cons id rids ih =>
    have hlen : (htonl id.toNat).length = 4 := rfl
    obtain ⟨hid, hrest⟩ := imageAt_append.mp (show ImageAt m p (htonl id.toNat ++ ridBytes rids) from h)
    have htail := ih hrest
    rw [length_cons, range_succ_eq_map, map_cons, map_map]
    have hfirst : UInt32.ofNat (m.ntohl (p + 4 * 0)) = id := by
      rw [Nat.mul_zero, Nat.add_zero, ntohl_of_image hid, Nat.mod_eq_of_lt id.toNat_lt]
      exact UInt32.ofNat_toNat
    rw [hfirst]
    refine congrArg (id :: ·) ?_
    conv_rhs => rw [← htail]
    refine map_congr_left fun i _ => ?_
    have hoff : p + 4 * (i + 1) = p + 4 + 4 * i := by omega
    exact congrArg (fun q => UInt32.ofNat (m.ntohl q)) hoff

lemma or_two_bit (x : UInt8) : (x ||| 2).toNat / 2 % 2 = 1 := by
  have hbit : (x.toNat ||| 2).testBit 1 := by
    rw [Nat.testBit_or, Bool.or_eq_true]
    exact .inr (by decide)
  rw [Nat.testBit_eq_decide_div_mod_eq] at hbit
  simpa using hbit

/-- The memory has the fields of the packet at their places. -/
structure PacketAt (m : Memory) (interop : Bool) (c : HelloSender) (hello : MdrHello) : Prop where
  length : packetLength m = (36 + 4 * hello.rids.length) % 65536
  lBit : llsOptionIsset m
  rids : ImageAt m 36 (ridBytes hello.rids)
  lls : ImageAt m (36 + 4 * hello.rids.length) (ospf6SetLlsHeader (helloTlvBytes interop hello))

lemma packetAt_of_image (h : ImageAt m 0 (helloPacket interop c hello)) :
    PacketAt m interop c hello := by
  obtain ⟨h, hlls⟩ := imageAt_append.mp h
  obtain ⟨h, hrids⟩ := imageAt_append.mp h
  obtain ⟨hheader, hbody⟩ := imageAt_append.mp h
  simp only [length_append, helloHeaderBytes_length, helloBodyBytes_length, ridBytes_length,
    zero_add] at hlls hrids hbody
  refine ⟨?_, ?_, hrids, hlls⟩
  · exact ntohs_of_image ⟨hheader.2.2.1, hheader.2.2.2.1, trivial⟩
  · have hopt : m (headerSize + 6) = c.options1 ||| 2 := hbody.2.2.2.2.2.2.1
    rw [llsOptionIsset, hopt, or_two_bit]
    rfl

/-- The Internet checksum of a sum of 16-bit words. -/
def foldSum (s : Nat) : Nat := 65535 - (s / 65536 + s % 65536 + (s / 65536 + s % 65536) / 65536) % 65536

lemma foldSum_eq {q r : Nat} (hr : r < 65536) (hq : q < 65536) :
    foldSum (65536 * q + r) = if q + r < 65536 then 65535 - (q + r) else 131070 - (q + r) := by
  have hdiv : (65536 * q + r) / 65536 = q := by omega
  have hmod : (65536 * q + r) % 65536 = r := by omega
  rw [foldSum, hdiv, hmod]
  split_ifs <;> omega

lemma foldSum_add {s : Nat} (hs : s < 65536 * 65535) : foldSum (s + foldSum s) = 0 := by
  obtain ⟨q, r, hr, rfl⟩ : ∃ q r, r < 65536 ∧ s = 65536 * q + r := ⟨s / 65536, s % 65536, by omega, by omega⟩
  rw [foldSum_eq hr (by omega)]
  split_ifs with hqr
  · have hsum : 65536 * q + r + (65535 - (q + r)) = 65536 * q + (65535 - q) := by omega
    rw [hsum, foldSum_eq (by omega) (by omega), if_pos (by omega)]
    omega
  · have hsum : 65536 * q + r + (131070 - (q + r)) = 65536 * (q + 1) + (65534 - q) := by omega
    rw [hsum, foldSum_eq (by omega) (by omega), if_pos (by omega)]
    omega

lemma wordSum_of_image {l : List UInt8} (m' : Memory) {q k : Nat} (h : ImageAt m p l)
    (h' : ImageAt m' q l) (hl : l.length = 2 * k) : wordSum m p k = wordSum m' q k := by
  induction k generalizing p q l with
  | zero => rfl
  | succ k ih =>
    match l, hl with
    | b0 :: b1 :: l, hl =>
      rw [wordSum, wordSum, h.1, h.2.1, h'.1, h'.2.1, ih h.2.2 h'.2.2 (by simpa [Nat.mul_succ] using hl)]

lemma wordSum_le (m : Memory) (p k : Nat) : wordSum m p k ≤ 65535 * k := by
  induction k generalizing p with
  | zero => exact le_refl 0
  | succ k ih =>
    have hlow := (m p).toNat_lt
    have hhigh := (m (p + 1)).toNat_lt
    have hrest := ih (p + 2)
    rw [wordSum]
    omega

lemma inCksum_even (m : Memory) (p k : Nat) : inCksum m p (2 * k) = foldSum (wordSum m p k) := by
  have hdiv : 2 * k / 2 = k := by omega
  have hodd : ¬2 * k % 2 = 1 := by omega
  rw [inCksum, foldSum, hdiv, if_neg hodd, add_zero]

lemma inCksum_set {tlvs : List UInt8} {k : Nat} (hk : tlvs.length = 2 * k) (hbound : k < 65530)
    (h : ImageAt m p (ospf6SetLlsHeader tlvs)) : inCksum m p (4 + tlvs.length) = 0 := by
  have hlen : 4 + tlvs.length = 2 * (k + 2) := by omega
  obtain ⟨rest, hrest⟩ : ∃ rest, rest = htons ((4 + tlvs.length) / 4) ++ tlvs := ⟨_, rfl⟩
  have hrestlen : rest.length = 2 * (k + 1) := by
    rw [hrest, length_append, hk]
    simp [htons]
    omega
  obtain ⟨cksum, hcksum⟩ : ∃ x, x = inCksum (.ofList (0 :: 0 :: rest)) 0 (2 * (k + 2)) := ⟨_, rfl⟩
  have hblock : ImageAt m p (ofNat cksum :: ofNat (cksum / 256) :: rest) := by
    rw [hcksum, ← hlen, hrest]
    exact h
  have hzero : ImageAt (Memory.ofList (0 :: 0 :: rest)) 0 (0 :: 0 :: rest) := imageAt_getD _ _
  obtain ⟨s, hs⟩ : ∃ s, s = wordSum m (p + 2) (k + 1) := ⟨_, rfl⟩
  have hsame : wordSum (.ofList (0 :: 0 :: rest)) (0 + 2) (k + 1) = s := by
    rw [hs]
    exact wordSum_of_image m hzero.2.2 hblock.2.2 hrestlen
  have hle : s ≤ 65535 * (k + 1) := by
    rw [hs]
    exact wordSum_le m (p + 2) (k + 1)
  have hsum : cksum = foldSum s := by
    rw [hcksum, inCksum_even, wordSum, hsame, hzero.1, hzero.2.1]
    simp
  have hlt : cksum < 65536 := by
    rw [hsum, foldSum]
    omega
  rw [hlen, inCksum_even, wordSum, hblock.1, hblock.2.1, ← hs, toNat_ofNat', toNat_ofNat']
  have hbytes : cksum % 2 ^ 8 + 256 * (cksum / 256 % 2 ^ 8) + s = s + foldSum s := by
    omega
  rw [hbytes]
  exact foldSum_add (by omega)

/-- The LLS block with the MDR-Hello TLV, at its place in memory. -/
structure HelloBlock (m : Memory) (interop : Bool) (hello : MdrHello) (lls : Nat) : Prop where
  datalen : llsDatalen m lls = 16
  cksum : inCksum m lls 16 = 0
  type : tlvType m (lls + 4) = (tlvTypes interop).hello
  vallen : tlvVallen m (lls + 4) = 8
  tlv : readHelloTlv m (lls + 8) =
    ⟨hello.hsn.toNat, hello.diff, hello.aBit, hello.n1.toNat, hello.n2.toNat, hello.n3.toNat, hello.n4.toNat⟩

lemma helloBlock_of_image
    (h : ImageAt m lls (ospf6SetLlsHeader (helloTlvBytes interop hello))) :
    HelloBlock m interop hello lls := by
  have hcksum := inCksum_set (k := 6) rfl (by decide) h
  have hdata : ImageAt m (lls + 2) (htons ((4 + (helloTlvBytes interop hello).length) / 4) ++
      helloTlvBytes interop hello) := h.2.2
  obtain ⟨hlen, htlv⟩ := imageAt_append.mp hdata
  have htlv' : ImageAt m (lls + 4) (helloTlvBytes interop hello) := htlv
  obtain ⟨hrest, hbits⟩ := imageAt_append.mp htlv'
  obtain ⟨hrest, hhsn⟩ := imageAt_append.mp hrest
  obtain ⟨htype, hvallen⟩ := imageAt_append.mp hrest
  refine ⟨?_, hcksum, ?_, ?_, ?_⟩
  · rw [llsDatalen, ntohs_of_image hlen, helloTlvBytes_length]
  · rw [tlvType, ntohs_of_image htype]
    cases interop <;> rfl
  · exact ntohs_of_image hvallen
  · have hhsn' : m.ntohs (lls + 8) = hello.hsn.toNat := by
      rw [show m.ntohs (lls + 8) = _ from ntohs_of_image hhsn]
      exact Nat.mod_eq_of_lt hello.hsn.toNat_lt
    obtain ⟨hb, -, h1, h2, h3, h4, -⟩ := hbits
    have hb' : m (lls + 8 + 2) = _ := hb
    have h1' : m (lls + 8 + 4) = hello.n1 := h1
    have h2' : m (lls + 8 + 5) = hello.n2 := h2
    have h3' : m (lls + 8 + 6) = hello.n3 := h3
    have h4' : m (lls + 8 + 7) = hello.n4 := h4
    rw [readHelloTlv, hhsn', hb', h1', h2', h3', h4']
    cases hello.diff <;> cases hello.aBit <;> rfl

lemma HelloBlock.validate {lls len : Nat} (h : HelloBlock m interop hello lls) (hlen : 16 ≤ len) :
    ospf6LlsValidateDatablock m lls len := by
  have hsize : paddedTlvSize m (lls + 4) = 12 := by rw [paddedTlvSize, tlvPad, h.vallen]; rfl
  have hwalk : (llsTlvWalk m lls).cursor = lls + 16 := by
    have hin : lls + 4 < lls + 16 := by omega
    simp [llsTlvWalk, h.datalen, walk, hin, hsize]
  have hheader : ¬len < 4 := by omega
  have hfits : ¬len < 16 := by omega
  simp [ospf6LlsValidateDatablock, hheader, h.datalen, hfits, h.cksum, hwalk]

lemma HelloBlock.process (h : HelloBlock m interop hello lls) :
    ospf6MdrProcessHelloTlv m interop lls = some (readHelloTlv m (lls + 8)) := by
  have hscan : (helloTlvScan m interop lls).value = some (some (lls + 4 + 4)) := by
    rw [helloTlvScan, tlvScan, h.datalen]
    simp [tlvScanLoop, h.vallen, h.type, helloTlvSize]
  rw [ospf6MdrProcessHelloTlv, hscan]
  rfl

lemma PacketAt.parseHelloPacket (h : PacketAt m interop c hello)
    (hlen : len = 36 + 4 * hello.rids.length + 16) (hfits : 36 + 4 * hello.rids.length < 65536) :
    parseHelloPacket interop m len = some hello := by
  have hlength : packetLength m = 36 + 4 * hello.rids.length := h.length.trans (Nat.mod_eq_of_lt hfits)
  have hblock := helloBlock_of_image h.lls
  have hlls : receivedLls m len = some (36 + 4 * hello.rids.length) := by
    have hlt : 36 + 4 * hello.rids.length < len := by omega
    have hvalid := hblock.validate (show 16 ≤ len - (36 + 4 * hello.rids.length) by omega)
    rw [receivedLls, hlength, if_pos ⟨h.lBit, hlt, hvalid⟩]
  have hrids : readRids m = hello.rids := by
    have hnum : (packetLength m - (headerSize + helloMinSize)) / 4 = hello.rids.length := by
      rw [hlength, headerSize, helloMinSize]
      omega
    rw [readRids, hnum]
    exact rids_of_image h.rids
  have hlong : ¬packetLength m < headerSize + helloMinSize := by
    rw [hlength, headerSize, helloMinSize]
    omega
  rw [Ospf6.parseHelloPacket, hlls]
  simp only [bind_eq_bind, bind_some, hblock.process, hblock.tlv, if_neg hlong, hrids]
  simp

lemma helloPacket_length : (helloPacket interop c hello).length = 36 + 4 * hello.rids.length + 16 := by
  have hlls : (ospf6SetLlsHeader (helloTlvBytes interop hello)).length = 16 := rfl
  simp only [helloPacket, length_append, helloHeaderBytes_length, helloBodyBytes_length, ridBytes_length, hlls]

lemma readHelloLists_eq (hm : ImageAt m 0 (helloPacket interop c hello)) (hfits : 36 + 4 *
    hello.rids.length < 65536) : readHelloLists interop m (helloPacket interop c hello).length =
    (decodeHello hello).map fun lists => ⟨lists, hello.hsn, hello.diff⟩ := by
  rw [readHelloLists, (packetAt_of_image hm).parseHelloPacket helloPacket_length hfits]
  rfl

lemma decodeHello_lengths {lists : HelloLists} (h : decodeHello hello = some lists) :
    lists.rids = hello.rids ∧ lists.lnl.length = hello.n1.toNat ∧ lists.hnl.length = hello.n2.toNat ∧
      lists.dnl.length = hello.n3.toNat ∧ lists.sanl.length = hello.n4.toNat := by
  unfold decodeHello at h
  dsimp only at h
  split_ifs at h with hlen
  cases h
  refine ⟨?_, ?_, ?_, ?_, ?_⟩
  · simp only [HelloLists.rids, append_assoc, take_append_drop]
  · rw [length_take]
    omega
  · rw [length_take, length_drop]
    omega
  · rw [length_take, length_drop, length_drop]
    omega
  · rw [length_take, length_drop, length_drop, length_drop]
    omega

lemma parseHelloPacket_rids (h : parseHelloPacket interop m len = some hello) :
    36 + 4 * hello.rids.length < 65536 := by
  have hlength : packetLength m < 65536 := by
    have h2 := (m 2).toNat_lt
    have h3 := (m (2 + 1)).toNat_lt
    rw [packetLength, Memory.ntohs]
    omega
  obtain ⟨lls, -, h⟩ := bind_eq_some_iff.mp h
  obtain ⟨tlv, -, h⟩ := bind_eq_some_iff.mp h
  split_ifs at h with hlong
  cases h
  simp only [readRids, length_map, length_range, headerSize, helloMinSize]
  omega

/-- What the sender writes is read back by a receiver. -/
def HelloRoundTrip (interop : Bool) (c : HelloSender) (oi : HelloInterface) (iobuflen : Nat) : Prop :=
  ∃ oi' packet, ospf6MdrHelloSendPacket interop c oi iobuflen = some (oi', packet) ∧
    ∀ m : Memory, ImageAt m 0 packet →
      readHelloLists interop m packet.length = some ⟨sentLists oi, oi.hsn, isDiffHello oi⟩

lemma ospf6MdrHelloSendPacket_eq (interop : Bool) (c : HelloSender) (oi : HelloInterface) (iobuflen : Nat) :
    ospf6MdrHelloSendPacket interop c oi iobuflen =
      if 36 + 4 * (encodeHello oi (isDiffHello oi) (sentLists oi)).rids.length + 16 ≤ iobuflen then
        some ((ospf6MdrHelloSend oi).1, helloPacket interop c (encodeHello oi (isDiffHello oi) (sentLists oi)))
      else none := by
  rw [← helloPacket_length]
  rfl

/-- A receiver reads back what is sent exactly if the lists fit the fields and the buffer. -/
theorem helloRoundTrip_iff (interop : Bool) (c : HelloSender) (oi : HelloInterface) (iobuflen : Nat) :
    HelloRoundTrip interop c oi iobuflen ↔ (sentLists oi).Encodable iobuflen := by
  obtain ⟨hello, hhello⟩ : ∃ hello, hello = encodeHello oi (isDiffHello oi) (sentLists oi) := ⟨_, rfl⟩
  have hrids : hello.rids = (sentLists oi).rids := by rw [hhello]; rfl
  rw [HelloRoundTrip, ospf6MdrHelloSendPacket_eq, ← hhello, hrids]
  constructor
  · rintro ⟨oi', packet, hpacket, hread⟩
    split_ifs at hpacket with hbuffer
    obtain ⟨-, rfl⟩ := Prod.mk.inj (some.inj hpacket)
    obtain ⟨hello', hhello', hdecode⟩ := bind_eq_some_iff.mp
      (hread (.ofList (helloPacket interop c hello)) (imageAt_getD _ _))
    obtain ⟨lists, hlists, hreading⟩ := map_eq_some_iff.mp hdecode
    obtain rfl : lists = sentLists oi := congrArg HelloReading.lists hreading
    obtain ⟨hsame, h1, h2, h3, h4⟩ := decodeHello_lengths hlists
    refine ⟨⟨?_, ?_, ?_, ?_⟩, ?_, hbuffer⟩
    · rw [h1]
      exact toNat_lt _
    · rw [h2]
      exact toNat_lt _
    · rw [h3]
      exact toNat_lt _
    · rw [h4]
      exact toNat_lt _
    · rw [hsame]
      exact parseHelloPacket_rids hhello'
  · intro h
    refine ⟨_, _, if_pos h.buffer, fun m hm => ?_⟩
    rw [readHelloLists_eq hm (by rw [hrids]; exact h.length), hhello, decodeHello_encodeHello oi _ h.counts]
    rfl

def manyInit : HelloInterface where
  adjConnectivity := .uniConnected
  twoHopRefresh := 1
  helloRepeatCount := 3
  lnl := []
  hsn := 7
  fullHelloCount := 0
  neighborList := (List.range 256).map fun i => ⟨UInt32.ofNat (i + 1), .init, false, false, false, 0, 0⟩

def manyIds : List UInt32 := (List.range 256).map fun i => UInt32.ofNat (i + 1)

def helloSender : HelloSender := ⟨1000, 0, 0, 0, 0, 0x13, 5, 1, 2, 6, .other, none, none⟩

theorem helloRoundTrip_manyInit :
    sentLists manyInit = ⟨[], manyIds, [], [], []⟩ ∧
    ∃ oi' packet, ospf6MdrHelloSendPacket true helloSender manyInit 3000 = some (oi', packet) ∧
      ∀ m : Memory, ImageAt m 0 packet →
        readHelloLists true m packet.length = some ⟨⟨[], [], [], [], manyIds⟩, 7, false⟩ := by
  have hlists : sentLists manyInit = ⟨[], manyIds, [], [], []⟩ := by decide +kernel
  have hlen : manyIds.length = 256 := by simp [manyIds]
  have hhello : encodeHello manyInit (isDiffHello manyInit) (sentLists manyInit) =
      ⟨manyIds, 7, false, false, 0, 0, 0, 0⟩ := by
    decide +kernel
  refine ⟨hlists, (ospf6MdrHelloSend manyInit).1, helloPacket true helloSender ⟨manyIds, 7, false, false, 0, 0, 0, 0⟩,
    ?_, fun m hm => ?_⟩
  · rw [ospf6MdrHelloSendPacket_eq, hhello]
    generalize manyIds = ids at hlen
    exact if_pos (by dsimp only; omega)
  · generalize manyIds = ids at hlen hm
    rw [readHelloLists_eq hm (by dsimp only; omega)]
    simp [decodeHello]

section rejected

variable {src : List UInt8} {len : Nat} {oi oi' : HeardInterface}

/-- A rejected Hello changes nothing exactly if the neighbor is there with the same interface, address and A-bit. -/
theorem rejectHello_unchanged_iff (h : rejectHello interop src m len oi = some oi') :
    oi' = oi ↔ ∃ on, keyLookup routerId (m.ntohl 4) oi.neighborList = some on ∧
      on.ifindex = m.ntohl headerSize ∧ on.linklocalAddr = src ∧
        ∀ b, helloRejected interop m len = some (some b) → on.abit = b := by
  obtain ⟨abit, habit, rfl⟩ := map_eq_some_iff.mp h
  rw [habit, HeardInterface.ext_iff]
  dsimp only
  cases hknown : keyLookup routerId (m.ntohl 4) oi.neighborList with
  | none =>
    -- the neighbor that was created is in the list
    refine iff_of_false (fun hsame => ?_) (by simp)
    rw [← hsame.1, keyLookup_insert_of_eq] at hknown
    · cases hknown
    · rfl
  | some on =>
    obtain ⟨-, hid⟩ := keyLookup_some hknown
    rw [getD_some]
    constructor
    · intro hsame
      rw [← hsame.1, keyLookup_insert_of_eq (by exact hid)] at hknown
      have hon := some.inj hknown
      refine ⟨on, rfl, (congrArg ifindex hon).symm, (congrArg linklocalAddr hon).symm,
        fun b hb => ?_⟩
      cases hb
      exact (congrArg abit hon).symm
    · rintro ⟨_, heq, hif, rfl, hb⟩
      cases heq
      have habit : abit.getD on.abit = on.abit := by
        cases abit with
        | none => rfl
        | some b => exact (hb b rfl).symm
      rw [habit, ← hif]
      exact ⟨oi.sorted.insert_self (x := on) (by rw [hid, hknown]), rfl, by simp⟩

def heardZero (address : List UInt8) : HeardNeighbor :=
  ⟨0, 0, address, 0, 0, 0, .down, false, false, false⟩

theorem rejectHello_known :
    let oi : HeardInterface := ⟨[heardZero [1]], pairwise_singleton _ _, [], false⟩
    rejectHello true [1] (fun _ => 0) 36 oi = some oi := by
  intro oi
  have h : ∃ oi', rejectHello true [1] (fun _ => 0) 36 oi = some oi' := ⟨_, rfl⟩
  obtain ⟨oi', h⟩ := h
  rw [h, (rejectHello_unchanged_iff h).mpr ⟨heardZero [1], by decide, by decide, rfl, by decide⟩]

/-- The sender of the rejected Hello stays without a timer that could remove it; a known neighbor's address
changes. -/
theorem rejectHello_leaves_neighbor :
    (rejectHello true [1] (fun _ => 0) 36 ⟨[], .nil, [], false⟩).map HeardInterface.neighborList =
      some [heardZero [1]] ∧
    (rejectHello true [2] (fun _ => 0) 36 ⟨[heardZero [1]], pairwise_singleton _ _, [], false⟩).map
      HeardInterface.neighborList = some [heardZero [2]] := by
  decide

end rejected

end OspfMdr.Ospf6
