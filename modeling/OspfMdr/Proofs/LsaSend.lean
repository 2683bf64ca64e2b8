import OspfMdr.Model.LsaSend

/-!
# What a neighbor is sent

A Link State Update takes as many LSAs as there is room for, first from the update list and then from
the retransmission list. The LSA at which the loop over the retransmission list is left has its time set
and is not sent. A Link State Request needs room for one entry.
-/

namespace OspfMdr.Ospf6
open List Option

/-- The packet has an instance of the LSA. -/
def Included (packet : List LsaHeader) (lsa : LsaHeader) : Prop := ∃ h ∈ packet, sameLsa lsa h
  deriving Decidable

/-- It is time to retransmit the LSA. -/
def Due (on : LsupdateNeighbor) (now : Int) (lsa : RetransLsa) : Prop := on.rxmtMsec now lsa < 1
  deriving Decidable

/-- The time of an LSA is set only if it is sent, and an LSA that was due and is not sent stays due. -/
structure TimeKept (on : LsupdateNeighbor) (now : Int) (packet : List LsaHeader)
    (x : RetransLsa × RetransLsa) : Prop where
  header : x.2.header = x.1.header
  reset : x.2.rxmtTime ≠ x.1.rxmtTime → Included packet x.1.header
  due : Due on now x.1 → ¬Included packet x.1.header → ∀ now' ≥ now, Due on now' x.2

def lsasSize (l : List LsaHeader) : Nat := (l.map fun lsa => lsa.length.toNat).sum

/-- There is room for these LSAs in one packet, where a single LSA is sent whatever its length. -/
def FitsPacket (packetMax : Nat) (l : List LsaHeader) : Prop :=
  20 + lsasSize l ≤ packetMax ∨ l.length ≤ 1
  deriving Decidable

/-- The longest beginning of the list for which there is room. -/
def fitting (packetMax : Nat) (l : List LsaHeader) : List LsaHeader :=
  l.take (Nat.findGreatest (fun n => FitsPacket packetMax (l.take n)) l.length)

/-- The LSA is due within the flood delay and not one of the updates. -/
def Retransmits (on : LsupdateNeighbor) (now : Int) (updates : List LsaHeader) (lsa : RetransLsa) : Prop :=
  on.rxmtMsec now lsa ≤ on.floodDelay ∧ ¬ Included updates lsa.header
  deriving Decidable

/-- What a packet that already has the updates retransmits of the list. -/
def retransmitted (on : LsupdateNeighbor) (now : Int) (updates : List LsaHeader)
    (l : List RetransLsa) : List LsaHeader :=
  (l.filter (Retransmits on now updates)).map RetransLsa.header

/-- There is room for the LSAs to retransmit in front of `lsa`, but not for `lsa`. -/
structure CutAt (on : LsupdateNeighbor) (now : Int) (packetMax : Nat) (updates : List LsaHeader)
    (before : List RetransLsa) (lsa : RetransLsa) : Prop where
  retransmits : Retransmits on now updates lsa
  room : FitsPacket packetMax (updates ++ retransmitted on now updates before)
  full : ¬ FitsPacket packetMax (updates ++ retransmitted on now updates before ++ [lsa.header])

/-- If the neighbor is sent to and an LSA is due, the first LSA to retransmit for which there is no room
had its time set at this moment, or one like it is sent. -/
def LsupdateNeighbor.KeepsTimes (on : LsupdateNeighbor) (now : Int) : Prop :=
  ∀ packetMax ∈ ospf6PacketMax on.ifmtu, NeighborState.exchange.toNat ≤ on.state.toNat →
    (∃ lsa ∈ on.retransList, Due on now lsa) →
    let updates := fitting packetMax on.lsupdateList
    ∀ before lsa after, on.retransList = before ++ lsa :: after →
      CutAt on now packetMax updates before lsa →
      lsa.rxmtTime = now ∨ Included (retransmitted on now updates before) lsa.header

section update
variable {on : LsupdateNeighbor} {now : Int} {packet updates sent : List LsaHeader}
  {x : RetransLsa × RetransLsa} {l before after : List RetransLsa} {lsa : RetransLsa}
  {packetMax : Nat}

lemma due_mono {now' : Int} (h : Due on now lsa) (hle : now ≤ now') : Due on now' lsa := by
  unfold Due LsupdateNeighbor.rxmtMsec at *
  have := Int.ediv_le_ediv (a := now - lsa.rxmtTime) (b := now' - lsa.rxmtTime) (c := 1000)
    (by decide) (by omega)
  omega

lemma timeKept_self (lsa : RetransLsa) : TimeKept on now packet (lsa, lsa) :=
  ⟨rfl, fun h => absurd rfl h, fun hdue _ _ hle => due_mono hdue hle⟩

/-- An LSA whose time is set is kept right exactly if it is sent or had this time already. -/
lemma timeKept_set_iff : TimeKept on now packet (lsa, { lsa with rxmtTime := now }) ↔
    lsa.rxmtTime = now ∨ Included packet lsa.header := by
  constructor
  · exact fun h => or_iff_not_imp_left.mpr fun hne => h.reset (Ne.symm hne)
  · rintro (rfl | hin)
    · exact timeKept_self lsa
    · exact ⟨rfl, fun _ => hin, fun _ hnot => absurd hin hnot⟩

/-! ## Room in the packet -/

@[simp] lemma lsasSize_append (l l' : List LsaHeader) :
    lsasSize (l ++ l') = lsasSize l + lsasSize l' := by
  simp [lsasSize]

lemma FitsPacket.left {l l' : List LsaHeader} (h : FitsPacket packetMax (l ++ l')) : FitsPacket packetMax l := by
  unfold FitsPacket at *
  rw [lsasSize_append, length_append] at h
  omega

lemma lsupdateFull_eq (hmax : ospf6PacketMax on.ifmtu = some packetMax) (sent : List LsaHeader)
    (lsa : LsaHeader) : lsupdateFull on (20 + lsasSize sent) sent.length lsa =
      some (decide (¬ FitsPacket packetMax (sent ++ [lsa]))) := by
  have hone : lsasSize [lsa] = lsa.length.toNat := by simp [lsasSize]
  rw [lsupdateFull, hmax, Option.map_some]
  congr 1
  rw [decide_eq_decide, FitsPacket, lsasSize_append, length_append, hone, length_singleton]
  omega

lemma fitting_append {a b : List LsaHeader} (hroom : FitsPacket packetMax a)
    (hfull : ∀ lsa ∈ b.head?, ¬ FitsPacket packetMax (a ++ [lsa])) : fitting packetMax (a ++ b) = a := by
  have hgreatest : Nat.findGreatest (fun n => FitsPacket packetMax ((a ++ b).take n)) (a ++ b).length
      = a.length := by
    rw [Nat.findGreatest_eq_iff]
    refine ⟨by simp, fun _ => by rwa [take_left], fun n hlt hle hfits => ?_⟩
    cases b with
    | nil =>
      rw [append_nil] at hle
      omega
    | cons lsa b =>
      obtain ⟨k, rfl⟩ := Nat.exists_eq_add_of_lt hlt
      rw [show a.length + k + 1 = a.length + (k + 1) by omega, take_length_add_append,
        take_succ_cons, ← singleton_append, ← append_assoc] at hfits
      exact hfull lsa rfl hfits.left
  rw [fitting, hgreatest, take_left]

lemma lsupdateFill_eq (hmax : ospf6PacketMax on.ifmtu = some packetMax) (sent l : List LsaHeader)
    (hroom : FitsPacket packetMax sent) : ∃ a b, l = a ++ b ∧
    lsupdateFill on (20 + lsasSize sent) sent.length l = some (a, b) ∧ FitsPacket packetMax (sent ++ a) ∧
    ∀ lsa ∈ b.head?, ¬ FitsPacket packetMax (sent ++ a ++ [lsa]) := by
  induction l generalizing sent with
  | nil => exact ⟨[], [], rfl, rfl, by rwa [append_nil], nofun⟩
  | cons lsa l ih =>
    rw [lsupdateFill, lsupdateFull_eq hmax]
    by_cases hfits : FitsPacket packetMax (sent ++ [lsa])
    · obtain ⟨a, b, rfl, hfill, ha, hb⟩ := ih _ hfits
      rw [lsasSize_append, length_append, ← Nat.add_assoc] at hfill
      rw [append_assoc] at ha hb
      refine ⟨lsa :: a, b, rfl, ?_, ha, hb⟩
      have hone : lsasSize [lsa] = lsa.length.toNat := by simp [lsasSize]
      rw [hone, length_singleton] at hfill
      simp [hfits, hfill]
    · refine ⟨[], lsa :: l, rfl, by simp [hfits], by rwa [append_nil], ?_⟩
      rintro _ ⟨⟩
      rwa [append_nil]

/-! ## The loop over the retransmission list -/

/-- What the loop makes of an LSA. -/
def touched (on : LsupdateNeighbor) (now : Int) (lsa : RetransLsa) : RetransLsa :=
  if on.rxmtMsec now lsa ≤ on.floodDelay then { lsa with rxmtTime := now } else lsa

lemma any_sameLsa_iff (updates : List LsaHeader) (lsa : LsaHeader) :
    updates.any (sameLsa lsa) ↔ Included updates lsa := by
  simp [Included]

lemma retransmitted_append (l l' : List RetransLsa) : retransmitted on now updates (l ++ l') =
    retransmitted on now updates l ++ retransmitted on now updates l' := by
  simp [retransmitted]

lemma retransmitted_of (h : Retransmits on now updates lsa) :
    retransmitted on now updates [lsa] = [lsa.header] := by
  simp [retransmitted, h]

lemma retransmitted_of_not (h : ¬ Retransmits on now updates lsa) :
    retransmitted on now updates [lsa] = [] := by
  simp [retransmitted, h]

lemma retransFill_cons_of_not (h : ¬ Retransmits on now updates lsa) (size num : Nat) :
    retransFill on now updates size num (lsa :: l) = (retransFill on now updates size num l).map
      fun r => { r with list := touched on now lsa :: r.list } := by
  rw [retransFill]
  unfold touched
  by_cases hlater : on.rxmtMsec now lsa > on.floodDelay
  · rw [if_pos hlater, if_neg (not_le.mpr hlater), Option.map_eq_bind]
    rfl
  · have hin : updates.any (sameLsa lsa.header) := by
      rw [any_sameLsa_iff]
      by_contra hout
      exact h ⟨not_lt.mp hlater, hout⟩
    rw [if_neg hlater, if_pos hin, if_pos (not_lt.mp hlater), Option.map_eq_bind]
    rfl

lemma retransFill_cons_of (hmax : ospf6PacketMax on.ifmtu = some packetMax)
    (h : Retransmits on now updates lsa) :
    retransFill on now updates (20 + lsasSize sent) sent.length (lsa :: l) =
      if FitsPacket packetMax (sent ++ [lsa.header]) then
        (retransFill on now updates (20 + lsasSize (sent ++ [lsa.header]))
          (sent ++ [lsa.header]).length l).map
            fun r => ⟨lsa.header :: r.packet, touched on now lsa :: r.list, r.stop⟩
      else some ⟨[], { lsa with rxmtTime := now } :: l, some lsa⟩ := by
  have hnew : ¬ updates.any (sameLsa lsa.header) := by
    rw [any_sameLsa_iff]
    exact h.2
  have hone : lsasSize [lsa.header] = lsa.header.length.toNat := by simp [lsasSize]
  rw [retransFill, if_neg (not_lt.mpr h.1), if_neg hnew, lsupdateFull_eq hmax, touched, if_pos h.1,
    lsasSize_append, hone, length_append, length_singleton, ← Nat.add_assoc]
  by_cases hfits : FitsPacket packetMax (sent ++ [lsa.header])
  · simp [hfits, Option.map_eq_bind]
  · simp [hfits]

/-- As long as there is room, the loop goes on with what it has sent. -/
lemma retransFill_append (hmax : ospf6PacketMax on.ifmtu = some packetMax) (l : List RetransLsa)
    (hroom : FitsPacket packetMax (sent ++ retransmitted on now updates before)) :
    retransFill on now updates (20 + lsasSize sent) sent.length (before ++ l) =
      (retransFill on now updates (20 + lsasSize (sent ++ retransmitted on now updates before))
        (sent ++ retransmitted on now updates before).length l).map
        fun r => ⟨retransmitted on now updates before ++ r.packet,
          before.map (touched on now) ++ r.list, r.stop⟩ := by
  induction before generalizing sent with
  | nil => simp [retransmitted]
  | cons lsa before ih =>
    rw [← singleton_append, retransmitted_append] at hroom ⊢
    by_cases h : Retransmits on now updates lsa
    · rw [retransmitted_of h, ← append_assoc] at hroom ⊢
      rw [append_assoc, singleton_append, retransFill_cons_of hmax h, if_pos hroom.left, ih hroom,
        Option.map_map]
      rfl
    · rw [retransmitted_of_not h, nil_append] at hroom ⊢
      rw [append_assoc, singleton_append, retransFill_cons_of_not h, ih hroom, Option.map_map]
      rfl

-- the first LSA for which there is no room
lemma exists_cutAt (hroom : FitsPacket packetMax updates)
    (hfull : ¬ FitsPacket packetMax (updates ++ retransmitted on now updates l)) :
    ∃ before lsa after, l = before ++ lsa :: after ∧ CutAt on now packetMax updates before lsa := by
  induction l using List.reverseRecOn with
  | nil => exact absurd (by simpa [retransmitted] using hroom) hfull
  | append_singleton l lsa ih =>
    by_cases hl : FitsPacket packetMax (updates ++ retransmitted on now updates l)
    · rw [retransmitted_append] at hfull
      have h : Retransmits on now updates lsa := by
        by_contra hnot
        rw [retransmitted_of_not hnot, append_nil] at hfull
        exact hfull hl
      rw [retransmitted_of h, ← append_assoc] at hfull
      exact ⟨l, lsa, [], rfl, h, hl, hfull⟩
    · obtain ⟨before, a, after, rfl, hcut⟩ := ih hl
      exact ⟨before, a, after ++ [lsa], by simp, hcut⟩

lemma not_cutAt
    (hroom : FitsPacket packetMax (updates ++ retransmitted on now updates (before ++ lsa :: after))) :
    ¬ CutAt on now packetMax updates before lsa := by
  intro hcut
  rw [append_cons, retransmitted_append, retransmitted_append, retransmitted_of hcut.retransmits,
    ← append_assoc, ← append_assoc] at hroom
  exact hcut.full hroom.left

lemma CutAt.unique {before' after' : List RetransLsa} {lsa' : RetransLsa}
    (h : CutAt on now packetMax updates before lsa) (h' : CutAt on now packetMax updates before' lsa')
    (heq : before ++ lsa :: after = before' ++ lsa' :: after') : before = before' ∧ lsa = lsa' := by
  rcases append_eq_append_iff.mp heq with ⟨t, rfl, ht⟩ | ⟨t, rfl, ht⟩
  · cases t with
    | nil => simp_all
    | cons a t =>
      obtain ⟨rfl, -⟩ := cons.inj ht
      exact absurd h (not_cutAt h'.room)
  · cases t with
    | nil => simp_all
    | cons a t =>
      obtain ⟨rfl, -⟩ := cons.inj ht
      exact absurd h' (not_cutAt h.room)

/-- Without an MTU that leaves room for a packet, the loop comes to its end only if there is nothing to
retransmit. -/
lemma retransFill_of_none (hmax : ospf6PacketMax on.ifmtu = none) {size num : Nat} {r : RetransFill}
    (hr : retransFill on now updates size num l = some r) :
    retransmitted on now updates l = [] ∧ r.list = l.map (touched on now) := by
  induction l generalizing r with
  | nil =>
    cases hr
    exact ⟨rfl, rfl⟩
  | cons lsa l ih =>
    by_cases h : Retransmits on now updates lsa
    · have hnew : ¬ updates.any (sameLsa lsa.header) := by
        rw [any_sameLsa_iff]
        exact h.2
      simp [retransFill, not_lt.mpr h.1, hnew, lsupdateFull, hmax] at hr
    · rw [retransFill_cons_of_not h] at hr
      obtain ⟨r', hr', rfl⟩ := Option.map_eq_some_iff.mp hr
      obtain ⟨hnil, hlist⟩ := ih hr'
      rw [← singleton_append, retransmitted_append, retransmitted_of_not h, hnil, map_append, hlist]
      exact ⟨rfl, rfl⟩

/-- Every LSA the loop passes is kept right. -/
lemma timeKept_touched (hsub : updates ++ retransmitted on now updates l ⊆ packet) :
    ∀ x ∈ l.zip (l.map (touched on now)), TimeKept on now packet x := by
  have hzip : l.zip (l.map (touched on now)) = l.map fun lsa => (lsa, touched on now lsa) := by
    simpa using zip_map' (f := id) (g := touched on now) (l := l)
  rw [hzip]
  simp only [List.mem_map, forall_exists_index, and_imp]
  rintro _ lsa hlsa rfl
  unfold touched
  split_ifs with hnear
  · rw [timeKept_set_iff]
    right
    by_cases hin : Included updates lsa.header
    · obtain ⟨h, hh, hsame⟩ := hin
      exact ⟨h, hsub (mem_append_left _ hh), hsame⟩
    · refine ⟨lsa.header, hsub (mem_append_right _ (mem_map_of_mem (mem_filter.mpr ⟨hlsa, ?_⟩))),
        by simp [sameLsa]⟩
      exact decide_eq_true ⟨hnear, hin⟩
  · exact timeKept_self lsa

lemma timeKept_zip_self (l : List RetransLsa) : ∀ x ∈ l.zip l, TimeKept on now packet x := by
  have hzip : l.zip l = l.map fun a => (a, a) := by simpa using zip_map' (f := id) (g := id) (l := l)
  rw [hzip]
  simp only [List.mem_map, forall_exists_index, and_imp]
  rintro _ lsa - rfl
  exact timeKept_self lsa

/-- If the loop is left at `lsa`, the times are kept exactly if that of `lsa` is. -/
lemma timeKept_cut_iff (after : List RetransLsa) (hcut : CutAt on now packetMax updates before lsa) :
    (∀ x ∈ (before ++ lsa :: after).zip
        (before.map (touched on now) ++ { lsa with rxmtTime := now } :: after),
      TimeKept on now (updates ++ retransmitted on now updates before) x) ↔
    lsa.rxmtTime = now ∨ Included (retransmitted on now updates before) lsa.header := by
  have hin : Included (updates ++ retransmitted on now updates before) lsa.header ↔
      Included (retransmitted on now updates before) lsa.header := by
    have hout := hcut.retransmits.2
    simp only [Included, mem_append, or_and_right, exists_or] at hout ⊢
    exact or_iff_right hout
  rw [zip_append (by simp), zip_cons_cons, forall_mem_append, forall_mem_cons, timeKept_set_iff, hin]
  have hbefore := timeKept_touched (l := before) (Subset.refl _ : updates ++ retransmitted on now updates before ⊆ _)
  exact ⟨fun h => h.2.1, fun h => ⟨hbefore, h, timeKept_zip_self after⟩⟩

/-- Whatever the updates sent, the times are kept if and only if no LSA to retransmit is cut off. -/
lemma retransFill_timeKept_iff (now : Int) (hmax : ospf6PacketMax on.ifmtu = some packetMax)
    (hroom : FitsPacket packetMax updates) :
    ∃ r, retransFill on now updates (20 + lsasSize updates) updates.length on.retransList = some r ∧
      ((r.list.length = on.retransList.length ∧
        ∀ x ∈ on.retransList.zip r.list, TimeKept on now (updates ++ r.packet) x) ↔
      ∀ before lsa after, on.retransList = before ++ lsa :: after →
        CutAt on now packetMax updates before lsa →
        lsa.rxmtTime = now ∨ Included (retransmitted on now updates before) lsa.header) := by
  by_cases hall : FitsPacket packetMax (updates ++ retransmitted on now updates on.retransList)
  · have hr := retransFill_append hmax [] hall
    rw [append_nil] at hr
    refine ⟨_, hr, iff_of_true ⟨by simp, ?_⟩ fun before lsa after hl hcut => ?_⟩
    · simpa using timeKept_touched (Subset.refl _)
    · exact absurd hcut (not_cutAt (hl ▸ hall))
  · obtain ⟨before, lsa, after, hl, hcut⟩ := exists_cutAt hroom hall
    have hr := retransFill_append hmax (lsa :: after) hcut.room
    rw [retransFill_cons_of hmax hcut.retransmits, if_neg hcut.full, ← hl] at hr
    refine ⟨_, hr, ?_⟩
    have hkept := timeKept_cut_iff after hcut
    rw [← hl] at hkept
    simp only [append_nil, hkept]
    constructor
    · rintro ⟨-, hok⟩ before' lsa' after' hl' hcut'
      obtain ⟨rfl, rfl⟩ := hcut.unique hcut' (hl ▸ hl')
      exact hok
    · exact fun h => ⟨by simp [hl], h before lsa after hl hcut⟩

lemma retransFill_rest (rest : List LsaHeader) (size num : Nat) :
    retransFill { on with lsupdateList := rest } now updates size num l =
      retransFill on now updates size num l := by
  induction l generalizing size num with
  | nil => rfl
  | cons lsa l ih =>
    simp only [retransFill, ih]
    rfl

lemma lsupdateSend_eq {rest : List LsaHeader}
    (hquit : ¬ (on.state.toNat < NeighborState.exchange.toNat ∨
      on.lsupdateList = [] ∧ on.retransList = []))
    (hfill : lsupdateFill on 20 0 on.lsupdateList = some (updates, rest)) :
    ospf6LsupdateSendNeighbor on now =
      if ∃ lsa ∈ on.retransList, Due on now lsa then
        (retransFill on now updates (20 + lsasSize updates) updates.length on.retransList).map
          fun r => ⟨updates ++ r.packet, { on with lsupdateList := rest, retransList := r.list }, r.stop⟩
      else some ⟨updates, { on with lsupdateList := rest }, none⟩ := by
  have hany : (on.retransList.any fun lsa =>
      ({ on with lsupdateList := rest } : LsupdateNeighbor).rxmtMsec now lsa < 1) ↔
      ∃ lsa ∈ on.retransList, Due on now lsa := by
    simp only [List.any_eq_true, decide_eq_true_eq]
    rfl
  rw [ospf6LsupdateSendNeighbor, if_neg hquit, hfill, Option.bind_eq_bind, Option.bind_some]
  simp only [hany, retransFill_rest, Option.map_eq_bind]
  rfl

lemma lsupdateFill_of_none (hmax : ospf6PacketMax on.ifmtu = none) {size num : Nat}
    {l : List LsaHeader} {r : List LsaHeader × List LsaHeader}
    (hr : lsupdateFill on size num l = some r) : l = [] ∧ r = ([], []) := by
  cases l with
  | nil =>
    cases hr
    exact ⟨rfl, rfl⟩
  | cons lsa l => simp [lsupdateFill, lsupdateFull, hmax] at hr

/-- Without an MTU that leaves room for a packet, a run that comes to its end keeps the times. -/
lemma lsupdateSend_of_none (hmax : ospf6PacketMax on.ifmtu = none) {s : LsupdateSent}
    (hquit : ¬ (on.state.toNat < NeighborState.exchange.toNat ∨
      on.lsupdateList = [] ∧ on.retransList = []))
    (hs : ospf6LsupdateSendNeighbor on now = some s) :
    s.on.retransList.length = on.retransList.length ∧
      ∀ x ∈ on.retransList.zip s.on.retransList, TimeKept on now s.packet x := by
  have hfill : lsupdateFill on 20 0 on.lsupdateList = some ([], []) := by
    rw [ospf6LsupdateSendNeighbor, if_neg hquit] at hs
    obtain ⟨r, hr, -⟩ := Option.bind_eq_some_iff.mp hs
    rw [hr, (lsupdateFill_of_none hmax hr).2]
  rw [lsupdateSend_eq hquit hfill] at hs
  split_ifs at hs with hdue
  · obtain ⟨r, hr, rfl⟩ := Option.map_eq_some_iff.mp hs
    obtain ⟨hnil, hlist⟩ := retransFill_of_none hmax hr
    refine ⟨by simp [hlist], ?_⟩
    rw [hlist]
    have hsub : [] ++ retransmitted on now [] on.retransList ⊆ [] ++ r.packet := by simp [hnil]
    exact timeKept_touched hsub
  · cases hs
    exact ⟨rfl, timeKept_zip_self _⟩

/-- A run sets the time of an LSA only if it sends it, and leaves an LSA that is due and not sent due, if
and only if no LSA to retransmit is cut off. -/
theorem lsupdateSend_timeKept_iff (on : LsupdateNeighbor) (now : Int) :
    (40 < on.ifmtu.toNat → (ospf6LsupdateSendNeighbor on now).isSome) ∧
    ((∀ s, ospf6LsupdateSendNeighbor on now = some s →
      s.on.retransList.length = on.retransList.length ∧
        ∀ x ∈ on.retransList.zip s.on.retransList, TimeKept on now s.packet x) ↔
      on.KeepsTimes now) := by
  unfold LsupdateNeighbor.KeepsTimes
  by_cases hquit : on.state.toNat < NeighborState.exchange.toNat ∨
      on.lsupdateList = [] ∧ on.retransList = []
  · rw [ospf6LsupdateSendNeighbor, if_pos hquit]
    refine ⟨fun _ => rfl, iff_of_true ?_ ?_⟩
    · rintro s ⟨⟩
      exact ⟨rfl, timeKept_zip_self _⟩
    · rintro packetMax - hstate ⟨lsa, hlsa, -⟩
      rcases hquit with hlow | ⟨-, hnil⟩
      · exact absurd hstate (not_le.mpr hlow)
      · simp [hnil] at hlsa
  by_cases hmtu : 40 < on.ifmtu.toNat
  swap
  · have hmax : ospf6PacketMax on.ifmtu = none := if_neg hmtu
    exact ⟨fun h => absurd h hmtu, iff_of_true (fun s hs => lsupdateSend_of_none hmax hquit hs)
      (by simp [hmax])⟩
  have hstate : NeighborState.exchange.toNat ≤ on.state.toNat := not_lt.mp (not_or.mp hquit).1
  have hmax : ospf6PacketMax on.ifmtu = some (on.ifmtu.toNat - 40) := if_pos hmtu
  generalize on.ifmtu.toNat - 40 = packetMax at hmax
  obtain ⟨updates, rest, hlist, hfill, hroom, hfull⟩ :=
    lsupdateFill_eq hmax [] on.lsupdateList (.inr (Nat.zero_le 1))
  rw [nil_append] at hroom hfull
  have hupdates : fitting packetMax on.lsupdateList = updates := hlist ▸ fitting_append hroom hfull
  rw [lsupdateSend_eq hquit hfill]
  simp only [hmax, Option.mem_def, Option.some.injEq, forall_eq', hupdates, hstate, true_implies]
  split_ifs with hdue
  · obtain ⟨r, hr, hiff⟩ := retransFill_timeKept_iff now hmax hroom
    rw [hr, Option.map_some]
    simp only [Option.some.injEq, forall_eq', hdue, true_implies]
    exact ⟨fun _ => rfl, hiff⟩
  · simp only [Option.some.injEq, hdue, false_implies, iff_true]
    exact ⟨fun _ => rfl, fun _ hs => hs ▸ ⟨rfl, timeKept_zip_self _⟩⟩

/-- Two LSAs of 700 bytes, due since one second, to a neighbor with the given MTU. -/
def twoDue (ifmtu : UInt32) : LsupdateNeighbor :=
  ⟨.full, ifmtu, 5, 100, [], [⟨⟨0, 0x2001, 1, 1, 1, 0, 700⟩, 0⟩, ⟨⟨0, 0x2001, 2, 1, 1, 0, 700⟩, 0⟩]⟩

/-- The second LSA is not sent, and it is no longer due. -/
theorem lsupdateSend_not_timeKept : ∃ s, ospf6LsupdateSendNeighbor (twoDue 1280) 6000000 = some s ∧
    (s.packet.map fun h => h.id) = [1] ∧
    (s.on.retransList.map fun lsa => (lsa.header.id, lsa.rxmtTime)) = [(1, 6000000), (2, 6000000)] ∧
    ¬∀ x ∈ (twoDue 1280).retransList.zip s.on.retransList, TimeKept (twoDue 1280) 6000000 s.packet x := by
  refine ⟨_, rfl, rfl, rfl, fun h => ?_⟩
  exact absurd ((h _ (mem_cons_of_mem _ mem_cons_self)).reset (by decide)) (by decide)

end update

variable {now delay : Int} {maxentries packetMax p : Nat} {l : List RequestLsa} {s : LsreqLists} {lsa : RequestLsa}

/-- What the scan of the first `l` LSAs has collected, if there is room for an entry. -/
structure Scanned (now delay : Int) (maxentries : Nat) (l : List RequestLsa) (s : LsreqLists) : Prop where
  sub : (s.reqlist ++ s.candidateReqlist).Subperm l
  zero : ∀ a ∈ s.reqlist, a.originated = 0
  le : s.reqlist.length ≤ maxentries
  new : s.reqlist.length = maxentries ∨ ∀ a ∈ l, a.originated = 0 → a ∈ s.reqlist

section
variable (h : Scanned now delay maxentries l s) (hlt : s.reqlist.length < maxentries)
include h hlt

lemma Scanned.all_new (a : RequestLsa) (ha : a ∈ l) (hzero : a.originated = 0) : a ∈ s.reqlist :=
  h.new.resolve_left hlt.ne a ha hzero

lemma Scanned.request (hzero : lsa.originated = 0) :
    Scanned now delay maxentries (l ++ [lsa]) { s with reqlist := s.reqlist ++ [lsa] } := by
  refine ⟨?_, ?_, length_append ▸ hlt, .inr fun a ha hzero => ?_⟩
  · have hperm : (s.reqlist ++ [lsa] ++ s.candidateReqlist).Perm (s.reqlist ++ s.candidateReqlist ++ [lsa]) := by
      rw [append_assoc, append_assoc]
      exact perm_append_comm.append_left _
    exact hperm.subperm.trans (h.sub.append (Subperm.refl _))
  · simpa [or_imp, forall_and, hzero] using h.zero
  · rcases mem_append.mp ha with ha | ha
    · exact mem_append_left _ (h.all_new hlt a ha hzero)
    · exact mem_append_right _ ha

lemma Scanned.candidate (hold : lsa.originated ≠ 0) :
    Scanned now delay maxentries (l ++ [lsa]) { s with candidateReqlist := (s.candidateReqlist.orderedInsert
      (fun a b => a.retransCount - b.retransCount < 0) lsa).take (maxentries - s.reqlist.length) } := by
  have hperm := perm_orderedInsert (fun a b : RequestLsa => a.retransCount - b.retransCount < 0) lsa s.candidateReqlist
  refine ⟨?_, h.zero, h.le, .inr fun a ha hzero => ?_⟩
  · refine ((Subperm.refl s.reqlist).append ((take_sublist _ _).subperm.trans hperm.subperm)).trans ?_
    refine (perm_middle.trans (perm_append_singleton _ _).symm).subperm.trans ?_
    exact h.sub.append (Subperm.refl _)
  · rcases mem_append.mp ha with ha | ha
    · exact h.all_new hlt a ha hzero
    · exact absurd (mem_singleton.mp ha ▸ hzero) hold

lemma Scanned.later (hold : lsa.originated ≠ 0) (m : Int) :
    Scanned now delay maxentries (l ++ [lsa]) { s with minOriginated := m } := by
  refine ⟨h.sub.trans (sublist_append_left _ _).subperm, h.zero, h.le, .inr fun a ha hzero => ?_⟩
  rcases mem_append.mp ha with ha | ha
  · exact h.all_new hlt a ha hzero
  · exact absurd (mem_singleton.mp ha ▸ hzero) hold

end

lemma scanned_nil (now delay : Int) (maxentries : Nat) : Scanned now delay maxentries [] ⟨[], [], now⟩ :=
  ⟨Subperm.refl _, nofun, Nat.zero_le _, .inr nofun⟩

lemma lsreqScan_scanned {l' : List RequestLsa} (h : Scanned now delay maxentries l s)
    (hlt : s.reqlist.length < maxentries) :
    Scanned now delay maxentries (l ++ l') (lsreqScan now delay maxentries s l') := by
  induction l' generalizing l s with
  | nil => rwa [append_nil]
  | cons lsa l' ih =>
    rw [append_cons, lsreqScan]
    dsimp only
    split_ifs with hzero hfull hlate
    · have hnew := h.request hlt hzero
      exact { hnew with sub := hnew.sub.trans (sublist_append_left _ _).subperm, new := .inl hfull }
    · have hnew := h.request hlt hzero
      exact ih hnew (lt_of_le_of_ne hnew.le hfull)
    · exact ih (h.candidate hlt hzero) hlt
    · exact ih (h.later hlt hzero _) hlt

/-- What is known of the scan for any number of entries: which of the two lists are empty, and the time
that is left for the wait. -/
structure LsreqPassed (now delay : Int) (maxentries : Nat) (l : List RequestLsa) (s : LsreqLists) : Prop where
  new : s.reqlist = [] ↔ ∀ a ∈ l, a.originated ≠ 0
  old : s.reqlist = [] → (s.candidateReqlist = [] ↔
    maxentries = 0 ∨ ∀ a ∈ l, (now - a.originated) / 1000 < delay)
  min_le : s.minOriginated ≤ now
  wait : s.minOriginated = now ∨ (now - s.minOriginated) / 1000 < delay

lemma LsreqPassed.request (h : LsreqPassed now delay maxentries l s) (hzero : lsa.originated = 0)
    (l' : List RequestLsa) :
    LsreqPassed now delay maxentries (l ++ lsa :: l') { s with reqlist := s.reqlist ++ [lsa] } := by
  refine ⟨?_, by simp, h.min_le, h.wait⟩
  simp only [append_eq_nil_iff, cons_ne_nil, and_false, false_iff, not_forall]
  exact ⟨lsa, by simp, by simpa using hzero⟩

lemma LsreqPassed.candidate (h : LsreqPassed now delay maxentries l s) (hold : lsa.originated ≠ 0)
    (hlate : delay ≤ (now - lsa.originated) / 1000) :
    LsreqPassed now delay maxentries (l ++ [lsa]) { s with candidateReqlist := (s.candidateReqlist.orderedInsert
      (fun a b => a.retransCount - b.retransCount < 0) lsa).take (maxentries - s.reqlist.length) } := by
  refine ⟨by simpa [or_imp, forall_and, hold] using h.new, fun hnil => ?_, h.min_le, h.wait⟩
  have hne : s.candidateReqlist.orderedInsert (fun a b => a.retransCount - b.retransCount < 0) lsa ≠ [] :=
    ne_nil_of_mem ((mem_orderedInsert _).mpr (.inl rfl))
  have hsome : ¬ ∀ a ∈ l ++ [lsa], (now - a.originated) / 1000 < delay := fun hall =>
    absurd (hall lsa (by simp)) (not_lt.mpr hlate)
  dsimp only at hnil ⊢
  rw [hnil, length_nil, Nat.sub_zero, take_eq_nil_iff, or_iff_left hne, or_iff_left hsome]

lemma LsreqPassed.later (h : LsreqPassed now delay maxentries l s) (hold : lsa.originated ≠ 0)
    (hearly : (now - lsa.originated) / 1000 < delay) : LsreqPassed now delay maxentries (l ++ [lsa])
    { s with minOriginated := min s.minOriginated lsa.originated } := by
  refine ⟨by simpa [or_imp, forall_and, hold] using h.new, fun hnil => ?_,
    (min_le_left _ _).trans h.min_le, ?_⟩
  · simpa [or_imp, forall_and, hearly] using h.old hnil
  · rcases min_choice s.minOriginated lsa.originated with heq | heq
    · simpa only [heq] using h.wait
    · simpa only [heq] using Or.inr hearly

lemma lsreqScan_passed {l' : List RequestLsa} (h : LsreqPassed now delay maxentries l s) :
    LsreqPassed now delay maxentries (l ++ l') (lsreqScan now delay maxentries s l') := by
  induction l' generalizing l s with
  | nil => rwa [append_nil]
  | cons lsa l' ih =>
    rw [lsreqScan]
    dsimp only
    split_ifs with hzero hfull hlate
    · exact h.request hzero l'
    · rw [append_cons]
      exact ih (h.request hzero [])
    · rw [append_cons]
      exact ih (h.candidate hzero hlate)
    · rw [append_cons]
      exact ih (h.later hzero (not_le.mp hlate))

lemma passed_nil (now delay : Int) (maxentries : Nat) : LsreqPassed now delay maxentries [] ⟨[], [], now⟩ :=
  ⟨by simp, by simp, le_rfl, .inl rfl⟩

lemma ospf6LsreqAddEntries_eq (packetMax p : Nat) (l : List RequestLsa) :
    ospf6LsreqAddEntries packetMax p l = (l.take ((packetMax - p) / 12), l.drop ((packetMax - p) / 12)) := by
  induction l generalizing p with
  | nil => simp [ospf6LsreqAddEntries]
  | cons lsa l ih =>
    rw [ospf6LsreqAddEntries]
    split_ifs with hfull
    · rw [show (packetMax - p) / 12 = 0 by omega]
      rfl
    · obtain ⟨n, hn⟩ : ∃ n, (packetMax - p) / 12 = n + 1 := ⟨(packetMax - p) / 12 - 1, by omega⟩
      simp only [ih, hn, show (packetMax - (p + 12)) / 12 = n by omega, take_succ_cons, drop_succ_cons]

/-- A request of LSAs of the list, in which none that was never requested is passed over. -/
structure FairRequest (on : LsreqNeighbor) (maxentries : Nat) (packet : List RequestLsa) : Prop where
  size : packet.length ≤ maxentries
  distinct : (packet.map RequestLsa.key).Nodup
  listed : ∀ a ∈ packet, a ∈ on.requestList
  fresh : ∀ old ∈ packet, old.originated ≠ 0 → ∀ new ∈ on.requestList, new.originated = 0 → new ∈ packet

lemma Scanned.fair {on : LsreqNeighbor} {n : Nat}
    (h : Scanned now delay (min n on.requestList.length) on.requestList s) :
    FairRequest on (min n on.requestList.length)
      (s.reqlist ++ s.candidateReqlist.take (n - s.reqlist.length)) := by
  have hsub := ((Subperm.refl s.reqlist).append (take_sublist (n - s.reqlist.length) _).subperm).trans h.sub
  have hsize : (s.reqlist ++ s.candidateReqlist.take (n - s.reqlist.length)).length ≤ min n on.requestList.length := by
    have hle := h.le
    have hlen := hsub.length_le
    rw [length_append, length_take] at hlen ⊢
    omega
  refine ⟨hsize, ?_, hsub.subset, fun old hold hne new hnew hzero => ?_⟩
  · obtain ⟨l, hperm, hl⟩ := hsub
    exact (hperm.map _).nodup_iff.mp ((hl.map _).nodup on.distinct)
  · obtain hfull | hall := h.new
    · rw [length_append] at hsize
      rw [eq_nil_of_length_eq_zero (show (s.candidateReqlist.take (n - s.reqlist.length)).length = 0 by omega),
        append_nil] at hold
      exact absurd (h.zero old hold) hne
    · exact mem_append_left _ (hall new hnew hzero)

lemma fairRequest_nil (on : LsreqNeighbor) (maxentries : Nat) : FairRequest on maxentries [] :=
  ⟨Nat.zero_le _, nodup_nil, nofun, nofun⟩

/-- No assertion fails and what is sent is a fair request. -/
def LsreqNeighbor.Requests (on : LsreqNeighbor) (now : Int) : Prop :=
  ∃ r, on.ospf6LsreqSend now = some r ∧ ∀ packet, r.1 = .send packet →
    FairRequest on (lsreqMaxEntries (on.ifmtu.toNat - 40) on.requestList.length) packet

/-- If there is something to request: the MTU leaves room for a packet, and for one entry unless every
LSA was requested before; the delay before a request is repeated is positive, or else an LSA is
requested at once. -/
def LsreqNeighbor.CanRequest (on : LsreqNeighbor) (now : Int) : Prop :=
  on.state = .exchange ∨ on.state = .loading → on.requestList ≠ [] →
    40 < on.ifmtu.toNat ∧ (68 ≤ on.ifmtu.toNat ∨ ∀ a ∈ on.requestList, a.originated ≠ 0) ∧
    (0 < on.requestRxmtDelay ∨ (on.ifmtu.toNat < 56 ∨ 68 ≤ on.ifmtu.toNat) ∧
      ∃ a ∈ on.requestList, a.originated = 0 ∨ a.originated ≤ now)
  deriving Decidable

section
variable {on : LsreqNeighbor} (hstate : on.state = .exchange ∨ on.state = .loading)
  (hne : on.requestList ≠ []) (hmtu : 40 < on.ifmtu.toNat)

lemma lsreqMaxEntries_of_room (h : 28 ≤ packetMax) (hlt : packetMax < 2 ^ 32) (count : Nat) :
    lsreqMaxEntries packetMax count = min ((packetMax - 16) / 12) count := by
  unfold lsreqMaxEntries
  omega

-- below 16 the difference wraps
lemma lsreqMaxEntries_eq_zero_iff {count : Nat} (hpos : 0 < packetMax) (hlt : packetMax < 2 ^ 32)
    (hcount : 0 < count) : lsreqMaxEntries packetMax count = 0 ↔ 16 ≤ packetMax ∧ packetMax < 28 := by
  unfold lsreqMaxEntries
  omega

lemma LsreqNeighbor.requestRxmtDelay_nonneg (on : LsreqNeighbor) : 0 ≤ on.requestRxmtDelay :=
  le_max_of_le_left (Int.natCast_nonneg _)

include hne hmtu

/-- Neither list has an entry if all LSAs were requested a short time ago, or if they were requested at
all and the allowed number of entries is zero. -/
lemma lsreqScan_empty_iff
    (hs : lsreqScan now on.requestRxmtDelay (lsreqMaxEntries (on.ifmtu.toNat - 40) on.requestList.length)
        ⟨[], [], now⟩ on.requestList = s) :
    s.reqlist = [] ∧ s.candidateReqlist = [] ↔
      (∀ a ∈ on.requestList, a.originated ≠ 0) ∧
      (56 ≤ on.ifmtu.toNat ∧ on.ifmtu.toNat < 68 ∨
        ∀ a ∈ on.requestList, (now - a.originated) / 1000 < on.requestRxmtDelay) := by
  have hpass : LsreqPassed now on.requestRxmtDelay _ on.requestList s :=
    hs ▸ lsreqScan_passed (passed_nil now on.requestRxmtDelay _)
  have hlt := on.ifmtu.toNat_lt
  have hzero : lsreqMaxEntries (on.ifmtu.toNat - 40) on.requestList.length = 0 ↔
      56 ≤ on.ifmtu.toNat ∧ on.ifmtu.toNat < 68 := by
    rw [lsreqMaxEntries_eq_zero_iff (by omega) (by omega) (length_pos_iff.mpr hne)]
    omega
  rw [← hpass.new, ← hzero]
  exact and_congr_right hpass.old

include hstate

/-- With the lists that the scan has collected, the requests are right if there is an entry to request
or a time to wait, and no LSA that was never requested is left without room. -/
lemma requests_iff
    (hs : lsreqScan now on.requestRxmtDelay (lsreqMaxEntries (on.ifmtu.toNat - 40) on.requestList.length)
        ⟨[], [], now⟩ on.requestList = s) :
    on.Requests now ↔
      if s.reqlist = [] ∧ s.candidateReqlist = [] then 0 < on.requestRxmtDelay
      else on.ifmtu.toNat < 68 → s.reqlist = [] := by
  have hstate' : ¬ (on.state ≠ .exchange ∧ on.state ≠ .loading) := by tauto
  have hmax : ospf6PacketMax on.ifmtu = some (on.ifmtu.toNat - 40) := if_pos hmtu
  have hlt := on.ifmtu.toNat_lt
  have hpass : LsreqPassed now on.requestRxmtDelay _ on.requestList s :=
    hs ▸ lsreqScan_passed (passed_nil now on.requestRxmtDelay _)
  unfold LsreqNeighbor.Requests LsreqNeighbor.ospf6LsreqSend
  rw [if_neg hstate', if_neg hne, hmax]
  simp only [Option.bind_eq_bind, Option.bind_some, hs]
  by_cases hempty : s.reqlist = [] ∧ s.candidateReqlist = []
  · have hnow := hpass.min_le
    have hwait := hpass.wait
    rw [if_pos hempty, if_pos hempty]
    split_ifs with hdelay
    · exact iff_of_true ⟨_, rfl, nofun⟩ (by omega)
    · simp only [false_and, exists_false, false_iff]
      omega
  rw [if_neg hempty, if_neg hempty]
  by_cases hroom : on.ifmtu.toNat < 68
  · have hnone : (on.ifmtu.toNat - 40 - 16) / 12 = 0 := by omega
    simp only [ospf6LsreqAddEntries_eq, hnone, take_zero, drop_zero, length_nil, Nat.mul_zero,
      Nat.add_zero, hroom, true_implies]
    split_ifs with hleft
    · refine iff_of_true ⟨_, rfl, fun packet h => ?_⟩ hleft.1
      obtain rfl := LsreqAction.send.inj h
      exact fairRequest_nil _ _
    · simp only [false_and, exists_false, false_iff]
      exact fun hnil => hleft ⟨hnil, .inr (by omega)⟩
  · refine iff_of_true ?_ fun h => absurd h hroom
    have hpos := length_pos_iff.mpr hne
    rw [lsreqMaxEntries_of_room (by omega) (by omega)] at hs ⊢
    have hscan : Scanned now on.requestRxmtDelay _ on.requestList s :=
      hs ▸ lsreqScan_scanned (scanned_nil now on.requestRxmtDelay _)
        (show 0 < min ((on.ifmtu.toNat - 40 - 16) / 12) on.requestList.length by omega)
    have hreq := hscan.le
    generalize on.ifmtu.toNat - 40 = packetMax at *
    have hrest : (packetMax - (16 + 12 * s.reqlist.length)) / 12 =
        (packetMax - 16) / 12 - s.reqlist.length := by omega
    have hfits : s.reqlist.length ≤ (packetMax - 16) / 12 := by omega
    simp only [ospf6LsreqAddEntries_eq, take_of_length_le hfits, drop_of_length_le hfits, hrest]
    rw [if_pos ⟨trivial, by rw [drop_eq_nil_iff, length_take]; omega⟩]
    refine ⟨_, rfl, fun packet h => ?_⟩
    obtain rfl := LsreqAction.send.inj h
    exact hscan.fair

end

/-- No assertion of a run fails and it sends a fair request, if it sends one, exactly if there is room for
what it has to request and a time to wait for what it has requested. -/
theorem lsreqSend_fair (on : LsreqNeighbor) (now : Int) : on.Requests now ↔ on.CanRequest now := by
  unfold LsreqNeighbor.CanRequest
  by_cases hstate : on.state = .exchange ∨ on.state = .loading
  swap
  · refine iff_of_true ⟨(.quit, on), ?_, nofun⟩ fun h => absurd h hstate
    rw [LsreqNeighbor.ospf6LsreqSend, if_pos (not_or.mp hstate)]
  by_cases hne : on.requestList = []
  · refine iff_of_true ⟨(.loadingDone, on), ?_, nofun⟩ fun _ h => absurd hne h
    rw [LsreqNeighbor.ospf6LsreqSend, if_neg (by tauto), if_pos hne]
  simp only [hstate, hne, ne_eq, not_false_eq_true, true_implies]
  by_cases hmtu : 40 < on.ifmtu.toNat
  swap
  · have hmax : ospf6PacketMax on.ifmtu = none := if_neg hmtu
    refine iff_of_false ?_ fun h => hmtu h.1
    rintro ⟨r, hr, -⟩
    rw [LsreqNeighbor.ospf6LsreqSend, if_neg (by tauto), if_neg hne, hmax] at hr
    simp at hr
  obtain ⟨s, hs⟩ : ∃ s, lsreqScan now on.requestRxmtDelay
    (lsreqMaxEntries (on.ifmtu.toNat - 40) on.requestList.length) ⟨[], [], now⟩ on.requestList = s := ⟨_, rfl⟩
  have hempty := lsreqScan_empty_iff hne hmtu hs
  have hnew : s.reqlist = [] ↔ ∀ a ∈ on.requestList, a.originated ≠ 0 :=
    (hs ▸ lsreqScan_passed (passed_nil now on.requestRxmtDelay _) :
      LsreqPassed now on.requestRxmtDelay _ on.requestList s).new
  have hdelay := on.requestRxmtDelay_nonneg
  rw [requests_iff hstate hne hmtu hs]
  simp only [hmtu, true_and, hempty]
  simp only [hnew]
  split_ifs with h
  · obtain ⟨hold, hshort⟩ := h
    refine ⟨fun hpos => ⟨.inr hold, .inl hpos⟩, ?_⟩
    rintro ⟨-, hpos | ⟨hroom, a, ha, hzero | hle⟩⟩
    · exact hpos
    · exact absurd hzero (hold a ha)
    · have hlt := hshort.resolve_left (by omega) a ha
      omega
  · constructor
    · intro hroom
      refine ⟨(le_or_gt 68 on.ifmtu.toNat).imp_right hroom, ?_⟩
      by_cases hold : ∀ a ∈ on.requestList, a.originated ≠ 0
      · have hlong := (not_and.mp h) hold
        push Not at hlong
        obtain ⟨hmid, a, ha, hle⟩ := hlong
        exact .inr ⟨by omega, a, ha, .inr (by omega)⟩
      · have hbig : 68 ≤ on.ifmtu.toNat := not_lt.mp fun hlt => hold (hroom hlt)
        push Not at hold
        obtain ⟨a, ha, hzero⟩ := hold
        exact .inr ⟨.inr hbig, a, ha, .inl hzero⟩
    · rintro ⟨hroom, -⟩ hlt
      exact hroom.resolve_left (by omega)

/-- One byte less than the room for one entry. -/
theorem lsreqSend_fails :
    LsreqNeighbor.ospf6LsreqSend ⟨.loading, 67, 5, 0, [⟨⟨0, 0, 1⟩, 0, 0⟩], false, by decide⟩ 9000000 = none := rfl

end OspfMdr.Ospf6
