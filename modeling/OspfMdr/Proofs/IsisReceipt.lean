import OspfMdr.Lib.Run
import OspfMdr.Model.IsisLsdb

namespace OspfMdr.Isis
open Lib Lspdb

section
variable {a : Area} {db : Lspdb} {level : Level} {id : LspId} {held lsp : Lsp} {hdr : Header}

lemma lspSearch_modify {f : Lsp → Lsp} (h : db.lspSearch id = some held)
    (hf : ∀ x, (f x).lspId = x.lspId) : (db.modify held.ptr f).lspSearch id = some (f held) := by
  have hid : (fun x : Lsp => decide (x.lspId = id)) ∘ (fun x => if x.ptr = held.ptr then f x else x) =
      fun x => decide (x.lspId = id) := by
    funext x
    by_cases hx : x.ptr = held.ptr <;> simp [hx, hf]
  unfold lspSearch keyLookup at h ⊢
  rw [Lspdb.modify, Lspdb.map, List.find?_map, hid, h, Option.map_some, if_pos rfl]

/-- Both branches for an LSP of another system, with remaining lifetime and without. -/
lemma processLsp_foreign (hheld : (a.lspdb level).lspSearch hdr.lspId = some held)
    (hforeign : sysId hdr.lspId ≠ a.sysid) (hfrag : hdr.remLifetime ≠ 0 → fragment hdr.lspId = 0) :
    a.processLsp level hdr true = a.onLevel level fun db =>
      some (if lspCompare held hdr = .newer ∨ lspCompare held hdr = .equal ∧ hdr.remLifetime ≠ 0 then
        db.modify held.ptr (lspUpdateData hdr) else db) := by
  by_cases hlife : hdr.remLifetime = 0
  · simp [Area.processLsp, Area.onLevel, receivePurge, hheld, hforeign, hlife]
  · cases hcmp : lspCompare held hdr <;>
      simp [Area.processLsp, Area.onLevel, receiveOther, hheld, hforeign, hlife, hcmp, hfrag]

def Header.stamp (hdr : Header) : Nat × Nat := (hdr.seqNum, hdr.remLifetime)

/-- What decides which instance is kept: the number, and whether it has expired. -/
def Lsp.stamp (lsp : Lsp) : Nat × Nat := (lsp.seqNum, lsp.remLifetime)

/-- The instance that is kept after `i` was held and `j` received. -/
def laterStamp (i j : Nat × Nat) : Nat × Nat := if i.1 ≤ j.1 then j else i

lemma event_receive (hheld : (a.lspdb level).lspSearch hdr.lspId = some held)
    (hforeign : sysId hdr.lspId ≠ a.sysid) (hfrag : fragment hdr.lspId = 0) :
    ∃ a' copy, a.event (.receiveLsp level hdr true) = some a' ∧ a'.sysid = a.sysid ∧
      (a'.lspdb level).lspSearch hdr.lspId = some copy ∧ copy.stamp = laterStamp held.stamp hdr.stamp := by
  rw [Area.event, processLsp_foreign hheld hforeign fun _ => hfrag]
  split_ifs with hnew
  · refine ⟨_, lspUpdateData hdr held, rfl, rfl, ?_, ?_⟩
    · simpa using lspSearch_modify (f := lspUpdateData hdr) hheld fun _ => rfl
    · have hle : held.seqNum ≤ hdr.seqNum := by
        unfold lspCompare at hnew
        split_ifs at hnew <;> simp_all
      exact (if_pos hle).symm
  · refine ⟨_, held, rfl, rfl, by simpa using hheld, ?_⟩
    unfold lspCompare at hnew
    unfold laterStamp
    split_ifs at hnew ⊢ <;> simp_all [Lsp.stamp, Header.stamp]

/-- Expiry is not taken back by a later instance with the same number. -/
def StaysExpired (i j : Nat × Nat) : Prop := i.1 = j.1 → i.2 = 0 → j.2 = 0

lemma lspSearch_tick (h : db.lspSearch id = some held) (hkept : (lspSetTime held).ageOut ≠ 0) :
    db.lspTick.lspSearch id = some (lspSetTime held) := by
  have hid (x : Lsp) : (lspSetTime x).lspId = x.lspId := by
    unfold lspSetTime
    split_ifs <;> rfl
  obtain ⟨hheld, before, after, hsplit, hbefore⟩ := List.find?_eq_some_iff_append.mp h
  rw [decide_eq_true_eq] at hheld
  unfold lspTick lspSearch keyLookup
  simp only [hsplit, List.map_append, List.map_cons, List.filter_append, List.find?_append]
  have hnone : ((before.map lspSetTime).filter fun lsp => lsp.ageOut ≠ 0).find? (fun lsp => lsp.lspId = id) = none := by
    rw [List.find?_eq_none]
    intro x hx
    obtain ⟨y, hy, rfl⟩ := List.mem_map.mp (List.mem_of_mem_filter hx)
    simpa [hid] using hbefore y hy
  rw [hnone, Option.none_or, List.filter_cons_of_pos (by simpa using hkept)]
  simp [hid, hheld]

/-- The highest number seen, expired exactly if an instance with that number was. -/
def IsNewest (c : Nat × Nat) (seen : List (Nat × Nat)) : Prop :=
  c ∈ seen ∧ (∀ i ∈ seen, i.1 ≤ c.1) ∧ (c.2 = 0 ↔ ∃ i ∈ seen, i.1 = c.1 ∧ i.2 = 0)

lemma isNewest_later_iff {c : Nat × Nat} {seen : List (Nat × Nat)} (h : IsNewest c seen) (i : Nat × Nat) :
    IsNewest (laterStamp c i) (i :: seen) ↔ StaysExpired c i := by
  obtain ⟨hmem, hmax, hexp⟩ := h
  constructor
  · rintro ⟨-, -, hexp'⟩ hnum hzero
    rw [laterStamp, if_pos hnum.le] at hexp'
    exact hexp'.mpr ⟨c, List.mem_cons_of_mem _ hmem, hnum, hzero⟩
  intro hstays
  unfold IsNewest laterStamp
  simp only [List.mem_cons, exists_eq_or_imp, forall_eq_or_imp]
  split_ifs with hle
  · refine ⟨.inl rfl, ⟨le_rfl, fun j hj => (hmax j hj).trans hle⟩, fun hzero => .inl ⟨rfl, hzero⟩, ?_⟩
    rintro (⟨-, hzero⟩ | ⟨j, hj, hnum, hzero⟩)
    · exact hzero
    · have heq : c.1 = i.1 := le_antisymm hle (hnum ▸ hmax j hj)
      exact hstays heq (hexp.mpr ⟨j, hj, hnum.trans heq.symm, hzero⟩)
  · refine ⟨.inr hmem, ⟨le_of_not_ge hle, hmax⟩, fun hzero => .inr (hexp.mp hzero), ?_⟩
    rintro (⟨hnum, -⟩ | hold)
    · exact absurd hnum.ge hle
    · exact hexp.mpr hold

lemma IsNewest.aged {c : Nat × Nat} {seen : List (Nat × Nat)} (h : IsNewest c seen) :
    IsNewest (c.1, c.2 - 1) ((c.1, c.2 - 1) :: seen) := by
  obtain ⟨-, hmax, hexp⟩ := h
  unfold IsNewest
  simp only [List.mem_cons, exists_eq_or_imp, forall_eq_or_imp]
  refine ⟨.inl trivial, ⟨le_rfl, hmax⟩, fun hzero => .inl ⟨trivial, hzero⟩, ?_⟩
  rintro (⟨-, hzero⟩ | hold)
  · exact hzero
  · rw [hexp.mpr hold]

/-- What happens to a copy: an instance is received, or a second passes. -/
inductive Arrival
  | receive (hdr : Header)
  | tick

/-- The event of the area, on a circuit with an adjacency. -/
def Arrival.event (level : Level) (id : LspId) : Arrival → Event
  | .receive hdr => .receiveLsp level { hdr with lspId := id } true
  | .tick => .tick

/-- The area, and the instances of the LSP that were received or held. -/
structure Receipts where
  area : Option Area
  seen : List (Nat × Nat)

namespace Receipts

variable (level id)

/-- The copy of the LSP that the area holds. -/
def copyIn (level : Level) (id : LspId) (area : Option Area) : Option Lsp :=
  area.bind fun a => (a.lspdb level).lspSearch id

/-- The area takes the event, and the instance received or aged is noted. -/
def step (s : Receipts) (e : Arrival) : Receipts :=
  let area := Area.step s.area (e.event level id)
  match e with
  | .receive hdr => ⟨area, hdr.stamp :: s.seen⟩
  | .tick => ⟨area, ((copyIn level id area).map Lsp.stamp).toList ++ s.seen⟩

/-- The copy has the highest number seen, and is expired exactly if an instance with that number was. -/
def Newest (s : Receipts) : Prop :=
  ∃ copy, copyIn level id s.area = some copy ∧ copy.stamp ∈ s.seen ∧ (∀ i ∈ s.seen, i.1 ≤ copy.seqNum) ∧
    (copy.remLifetime = 0 ↔ ∃ i ∈ s.seen, i.1 = copy.seqNum ∧ i.2 = 0)

/-- The copy is not aged out. -/
def Kept (s : Receipts) : Arrival → Prop
  | .receive _ => True
  | .tick => ∀ copy, copyIn level id s.area = some copy → (lspSetTime copy).ageOut ≠ 0

/-- An instance received with the number of an expired copy is expired too. -/
def KeepsExpiry (s : Receipts) : Arrival → Prop
  | .receive hdr => ∀ copy, copyIn level id s.area = some copy → StaysExpired copy.stamp hdr.stamp
  | .tick => True

/-- The area holds the copy, which is another system's. -/
def Holds (s : Receipts) (held : Lsp) : Prop :=
  ∃ a, s.area = some a ∧ sysId id ≠ a.sysid ∧ (a.lspdb level).lspSearch id = some held

variable {level id} {s : Receipts}

lemma Holds.copy (h : s.Holds level id held) : copyIn level id s.area = some held := by
  obtain ⟨a, ha, -, hheld⟩ := h
  rw [copyIn, ha]
  exact hheld

lemma Holds.receive (hfrag : fragment id = 0) (h : s.Holds level id held) (hdr : Header) :
    ∃ copy, (s.step level id (.receive hdr)).Holds level id copy ∧ copy.stamp = laterStamp held.stamp hdr.stamp := by
  obtain ⟨a, ha, hforeign, hheld⟩ := h
  have hthis : (a.lspdb level).lspSearch { hdr with lspId := id }.lspId = some held := hheld
  obtain ⟨a', copy, hevent, hsysid, hcopy, hstamp⟩ := event_receive hthis hforeign hfrag
  refine ⟨copy, ⟨a', ?_, hsysid ▸ hforeign, hcopy⟩, hstamp⟩
  change Area.step s.area _ = _
  rw [ha]
  exact hevent

lemma Holds.tick (h : s.Holds level id held) (hkept : s.Kept level id .tick) :
    (s.step level id .tick).Holds level id (lspSetTime held) := by
  have hage := hkept held h.copy
  obtain ⟨a, ha, hforeign, hheld⟩ := h
  refine ⟨{ a with lspdb := fun level => (a.lspdb level).lspTick }, ?_, hforeign, lspSearch_tick hheld hage⟩
  change Area.step s.area _ = _
  rw [ha]
  rfl

lemma Holds.newest_iff (h : s.Holds level id held) : s.Newest level id ↔ IsNewest held.stamp s.seen := by
  constructor
  · rintro ⟨copy, hcopy, hnewest⟩
    obtain rfl : copy = held := Option.some.inj (hcopy.symm.trans h.copy)
    exact hnewest
  · exact fun hnewest => ⟨held, h.copy, hnewest⟩

lemma newest_receive_iff (hfrag : fragment id = 0) (h : s.Holds level id held) (hdr : Header)
    (hs : s.Newest level id) :
    (s.step level id (.receive hdr)).Newest level id ↔ s.KeepsExpiry level id (.receive hdr) := by
  obtain ⟨new, hnew, hstamp⟩ := h.receive hfrag hdr
  have hkeeps : s.KeepsExpiry level id (.receive hdr) ↔ StaysExpired held.stamp hdr.stamp := by
    simp [KeepsExpiry, h.copy]
  rw [hnew.newest_iff, hstamp, hkeeps]
  exact isNewest_later_iff (h.newest_iff.mp hs) hdr.stamp

lemma newest_tick (h : s.Holds level id held) (hkept : s.Kept level id .tick) (hs : s.Newest level id) :
    (s.step level id .tick).Newest level id := by
  have hnew := h.tick hkept
  have hseen : (s.step level id .tick).seen = (lspSetTime held).stamp :: s.seen := by
    change ((copyIn level id (s.step level id .tick).area).map Lsp.stamp).toList ++ s.seen = _
    rw [hnew.copy]
    rfl
  have hstamp : (lspSetTime held).stamp = (held.seqNum, held.remLifetime - 1) := by
    unfold lspSetTime Lsp.stamp
    split_ifs with hzero
    · rw [hzero]
    · rfl
  rw [hnew.newest_iff, hseen, hstamp]
  exact (h.newest_iff.mp hs).aged

end Receipts

open Receipts

/-- As long as the copy is not aged out, it is the newest instance after each arrival exactly if no arrival is a live
instance with the number of an expired copy. -/
theorem receipts_copy (hfrag : fragment id = 0) (hforeign : sysId id ≠ a.sysid)
    (hheld : (a.lspdb level).lspSearch id = some held) (arrivals : List Arrival)
    (hkept : StepsOk (Receipts.step level id) (Kept level id) ⟨some a, [held.stamp]⟩ arrivals) :
    EachState (Receipts.step level id) (Newest level id) ⟨some a, [held.stamp]⟩ arrivals ↔
      StepsOk (Receipts.step level id) (KeepsExpiry level id) ⟨some a, [held.stamp]⟩ arrivals := by
  have hstart : (⟨some a, [held.stamp]⟩ : Receipts).Holds level id held := ⟨a, rfl, hforeign, hheld⟩
  have hinv (s : Receipts) (e : Arrival) (hs : ∃ held, s.Holds level id held) (hkept : s.Kept level id e) :
      ∃ held, (s.step level id e).Holds level id held := by
    obtain ⟨held, hs⟩ := hs
    cases e with
    | receive hdr =>
      obtain ⟨copy, hcopy, -⟩ := hs.receive hfrag hdr
      exact ⟨copy, hcopy⟩
    | tick => exact ⟨_, hs.tick hkept⟩
  refine eachState_iff_stepsOk_of_guard hinv (fun s e hs hkept hnewest => ?_) ⟨held, hstart⟩ ?_ hkept
  · obtain ⟨held, hs⟩ := hs
    cases e with
    | receive hdr => exact newest_receive_iff hfrag hs hdr hnewest
    | tick => exact iff_of_true (newest_tick hs hkept hnewest) trivial
  · exact ⟨held, hstart.copy, by simp, by simp [Lsp.stamp], by simp [Lsp.stamp]⟩

/-- The header under which the LSP is sent. -/
def Lsp.header (lsp : Lsp) (lspBits : Nat) : Header :=
  ⟨lsp.lspId, lsp.seqNum, lsp.checksum, lsp.remLifetime, lspBits⟩

/-- A purge replaces the instance held elsewhere exactly if the number survives in the 16 bits in which it is kept,
and the instance is alive or has another checksum. -/
theorem lspPurgePseudo_replaces_iff (hlsp : db.lspSearch id = some lsp)
    (hheld : (a.lspdb level).lspSearch id = some held) (hinst : held.seqNum = lsp.seqNum)
    (hforeign : sysId id ≠ a.sysid) (bigEndian : Bool) (checksum maxLifetime lspBits : Nat) :
    ∃ purge, (db.lspPurgePseudo id bigEndian checksum maxLifetime).lspSearch id = some purge ∧
      (lspCompare held (purge.header lspBits) = .newer ∧
        a.processLsp level (purge.header lspBits) true =
          a.onLevel level (fun db => some (db.modify held.ptr (lspUpdateData (purge.header lspBits)))) ↔
      (if bigEndian then lsp.seqNum < 2 ^ 16 else lsp.seqNum % 2 ^ 16 = 0) ∧
        (held.remLifetime ≠ 0 ∨ held.checksum ≠ checksum)) := by
  obtain rfl : lsp.lspId = id := (keyLookup_some hlsp).2
  refine ⟨purged bigEndian checksum maxLifetime lsp, ?_, ?_⟩
  · unfold lspPurgePseudo
    rw [hlsp]
    exact lspSearch_modify hlsp fun _ => rfl
  have hnewer : lspCompare held ((purged bigEndian checksum maxLifetime lsp).header lspBits) = .newer ↔
      (if bigEndian then lsp.seqNum < 2 ^ 16 else lsp.seqNum % 2 ^ 16 = 0) ∧
        (held.remLifetime ≠ 0 ∨ held.checksum ≠ checksum) := by
    cases bigEndian <;> simp [lspCompare, purged, purgedSeqNum, Lsp.header, hinst] <;> grind
  rw [← hnewer, and_iff_left_iff_imp]
  intro hnew
  have hcopy : (a.lspdb level).lspSearch
    ((purged bigEndian checksum maxLifetime lsp).header lspBits).lspId = some held := hheld
  simpa [hnew] using processLsp_foreign hcopy hforeign fun hlife => absurd rfl hlife

end

def heldLsp (seqNum remLifetime : Nat) : Lsp := ⟨0, 65792, seqNum, 7, remLifetime, 60, false, some [], none⟩

def holder (seqNum remLifetime : Nat) : Area := ⟨9, fun _ => ⟨[heldLsp seqNum remLifetime], 1⟩⟩

/-- Instances with one number, the last of them expired, an older one, and seconds between them. -/
def arrivals : List Arrival :=
  [.receive ⟨0, 4, 8, 1200, 3⟩, .tick, .receive ⟨0, 4, 8, 1100, 3⟩, .receive ⟨0, 4, 8, 0, 3⟩, .tick,
    .receive ⟨0, 3, 7, 900, 3⟩, .receive ⟨0, 4, 8, 0, 3⟩]

theorem receipts_copy_purged :
    EachState (Receipts.step .one 65792) (Receipts.Newest .one 65792) ⟨some (holder 3 1200), [(3, 1200)]⟩
      arrivals := by
  have hheld : ((holder 3 1200).lspdb .one).lspSearch 65792 = some (heldLsp 3 1200) := rfl
  refine (receipts_copy (by decide) (by decide) hheld arrivals ?_).mpr ?_
  · refine ⟨trivial, ?_, trivial, trivial, ?_, trivial, trivial, trivial⟩
    all_goals
      rintro copy ⟨⟩
      decide
  · refine ⟨?_, trivial, ?_, ?_, trivial, ?_, ?_, trivial⟩
    all_goals
      rintro copy ⟨⟩
      unfold StaysExpired
      decide

/-- An instance that is still alive replaces the expired one with the same number and checksum. -/
theorem receipts_copy_revived : ((holder 3 0).lspdb .one).lspSearch 65792 = some (heldLsp 3 0) ∧ ∃ a' copy,
    [.receiveLsp .one ⟨65792, 3, 7, 1200, 3⟩ true].foldl Area.step (some (holder 3 0)) = some a' ∧
    (a'.lspdb .one).lspSearch 65792 = some copy ∧ copy.seqNum = 3 ∧ copy.remLifetime ≠ 0 :=
  ⟨rfl, _, _, rfl, rfl, rfl, by decide⟩

theorem lspPurgePseudo_replaces_aligned : ∃ purge,
    (((holder 65536 900).lspdb .one).lspPurgePseudo 65792 false 9 1200).lspSearch 65792 = some purge ∧
    lspCompare (heldLsp 65536 900) (purge.header 3) = .newer := by
  have hheld : ((holder 65536 900).lspdb .one).lspSearch 65792 = some (heldLsp 65536 900) := rfl
  obtain ⟨purge, hpurge, hiff⟩ := lspPurgePseudo_replaces_iff hheld hheld rfl (by decide) false 9 1200 3
  exact ⟨purge, hpurge, (hiff.mpr ⟨rfl, .inl (by decide)⟩).1⟩

/-- The purge of number 1 has number 0, so the copy stays. -/
theorem lspPurgePseudo_older : ∃ purge a',
    (((holder 1 900).lspdb .one).lspPurgePseudo 65792 false 9 1200).lspSearch 65792 = some purge ∧
    lspCompare (heldLsp 1 900) (purge.header 3) = .older ∧
    (holder 1 900).processLsp .one (purge.header 3) true = some a' ∧
    (a'.lspdb .one).lspSearch 65792 = some (heldLsp 1 900) :=
  ⟨_, _, rfl, rfl, rfl, rfl⟩

end OspfMdr.Isis
