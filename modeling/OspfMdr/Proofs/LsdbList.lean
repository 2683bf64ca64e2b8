import OspfMdr.Lib.LinkedSegment
import OspfMdr.Proofs.NodeTrie

namespace OspfMdr.Ospf6
open Lib List

lemma bits_length (w n : Nat) : (bits w n).length = w := by simp [bits]

lemma bits_inj {w m n : Nat} (hm : m < 2 ^ w) (hn : n < 2 ^ w) (h : bits w m = bits w n) : m = n := by
  refine Nat.eq_of_testBit_eq fun i => ?_
  by_cases hi : i < w
  · have hbit := congrArg (fun l => l[w - 1 - i]?) h
    have hlt : w - 1 - i < w := by omega
    have hidx : w - 1 - (w - 1 - i) = i := by omega
    simpa [bits, hlt, hidx] using hbit
  · have hpow : 2 ^ w ≤ 2 ^ i := Nat.pow_le_pow_right (by decide) (by omega)
    rw [Nat.testBit_lt_two_pow (hm.trans_le hpow), Nat.testBit_lt_two_pow (hn.trans_le hpow)]

namespace LsaKey

lemma bits_length (k : LsaKey) : k.bits.length = 80 := by
  simp [LsaKey.bits, Ospf6.bits_length]

lemma bits_injective {k k' : LsaKey} (h : k.bits = k'.bits) : k = k' := by
  obtain ⟨h, hid⟩ := append_inj h (by simp [Ospf6.bits_length])
  obtain ⟨htype, hadv⟩ := append_inj h (by simp [Ospf6.bits_length])
  have htype' := bits_inj k.type.toNat_lt k'.type.toNat_lt htype
  have hadv' := bits_inj k.advRouter.toNat_lt k'.advRouter.toNat_lt hadv
  have hid' := bits_inj k.id.toNat_lt k'.id.toNat_lt hid
  cases k
  cases k'
  simp_all [UInt16.toNat_inj, UInt32.toNat_inj]

end LsaKey

variable {f : DbLsa → DbLsa} {l1 l2 : List Nat}

namespace Lsdb

variable {l : Lsdb} {T : BinTree Nat} {uses : List Bool → Nat} {i j : Nat} {o : Option Nat}

/-- The LSAs of the tree in the order of its nodes. -/
def stored (t : NodeTable) (T : BinTree Nat) : List Nat := T.pre.filterMap fun a => (t.nodes a).info

def set (l : Lsdb) (i : Nat) (f : DbLsa → DbLsa) : Lsdb :=
  { l with lsas := fun x => if x = i then f (l.lsas x) else l.lsas x }

def set? (l : Lsdb) (o : Option Nat) (f : DbLsa → DbLsa) : Lsdb :=
  { l with lsas := fun x => if o = some x then f (l.lsas x) else l.lsas x }

lemma write_eq (h : (l.lsas i).freed = false) : l.write i f = some (l.set i f) := by
  unfold write set
  rw [h]
  simp only [Bool.false_eq_true, if_false, Option.some.injEq, Lsdb.mk.injEq, true_and]
  funext x
  by_cases hx : x = i
  · subst hx
    simp
  · simp [hx]

lemma write?_eq (h : ∀ i, o = some i → (l.lsas i).freed = false) :
    l.write? o f = some (l.set? o f) := by
  cases o with
  | none => simp [write?, set?]
  | some i =>
    rw [write?, write_eq (h i rfl)]
    simp [set, set?, eq_comm]

/-- The tree, the list and the map hold the same LSAs. -/
structure ListInv (key : Nat → LsaKey) (l : Lsdb) (map : LsaKey → Option Nat) (uses : List Bool → Nat)
    (T : BinTree Nat) : Prop where
  trie : l.table.TrieInv T uses
  keys : ∀ i, (l.lsas i).key = key i
  info : ∀ a ∈ T.pre, ∀ i, (l.table.nodes a).info = some i → (l.table.nodes a).p = (key i).bits
  linked : Segment (fun i => (l.lsas i).next) (fun i => (l.lsas i).prev) none (stored l.table T) none
  mem : ∀ i, i ∈ stored l.table T ↔ map (key i) = some i
  mapKey : ∀ k i, map k = some i → key i = k
  count : l.count = UInt32.ofNat (stored l.table T).length

/-- The references that an LSA has: one of the database, and those held outside. -/
def refs (L : List Nat) (held : Nat → Nat) (i : Nat) : Nat := (if i ∈ L then 1 else 0) + held i

/-- Each LSA is locked once for each of its `n` references, and only an LSA without any is freed. -/
structure Refs (l : Lsdb) (freed : Nat → Bool) (n : Nat → Nat) : Prop where
  lock : ∀ i, (l.lsas i).lock.toNat = n i
  bound : ∀ i, n i ≤ 3
  free : ∀ i, (l.lsas i).freed → n i = 0 ∧ freed i

/-- Neither the table nor the list has changed. -/
structure SameList (l l' : Lsdb) : Prop where
  table : l'.table = l.table
  count : l'.count = l.count
  key : ∀ i, (l'.lsas i).key = (l.lsas i).key
  prev : ∀ i, (l'.lsas i).prev = (l.lsas i).prev
  next : ∀ i, (l'.lsas i).next = (l.lsas i).next

section locks

variable {l' l'' : Lsdb} {freed : Nat → Bool} {n n' : Nat → Nat}

lemma SameList.refl (l : Lsdb) : SameList l l := ⟨rfl, rfl, fun _ => rfl, fun _ => rfl, fun _ => rfl⟩

lemma SameList.trans (h : SameList l l') (h' : SameList l' l'') : SameList l l'' :=
  ⟨h'.table.trans h.table, h'.count.trans h.count, fun i => (h'.key i).trans (h.key i),
    fun i => (h'.prev i).trans (h.prev i), fun i => (h'.next i).trans (h.next i)⟩

lemma SameList.listInv {key : Nat → LsaKey} {map : LsaKey → Option Nat} (h : SameList l l')
    (hl : ListInv key l map uses T) : ListInv key l' map uses T := by
  have hstored : stored l'.table T = stored l.table T := by rw [h.table]
  refine ⟨h.table ▸ hl.trie, fun i => (h.key i).trans (hl.keys i), ?_, ?_, ?_, hl.mapKey, ?_⟩
  · rw [h.table]
    exact hl.info
  · rw [hstored]
    exact hl.linked.congr (fun i _ => h.next i) fun i _ => h.prev i
  · rw [hstored]
    exact hl.mem
  · rw [hstored, h.count]
    exact hl.count

lemma set_sameList (hkey : ∀ x, (f x).key = x.key) (hprev : ∀ x, (f x).prev = x.prev)
    (hnext : ∀ x, (f x).next = x.next) : SameList l (l.set i f) := by
  refine ⟨rfl, rfl, fun x => ?_, fun x => ?_, fun x => ?_⟩ <;> unfold set <;> dsimp only <;> split_ifs
  · exact hkey _
  · rfl
  · exact hprev _
  · rfl
  · exact hnext _
  · rfl

lemma Refs.lock_spec (h : Refs l freed n) (n' : Nat → Nat) (hfreed : (l.lsas i).freed = false)
    (hbound : ∀ x, n' x ≤ 3) (hother : ∀ x ≠ i, n' x = n x) (hi : n' i = n i + 1) :
    ∃ l', l.ospf6LsaLock i = some l' ∧ SameList l l' ∧ Refs l' freed n' := by
  refine ⟨_, write_eq hfreed, set_sameList (fun _ => rfl) (fun _ => rfl) (fun _ => rfl), ?_, hbound, ?_⟩
  · intro x
    by_cases hx : x = i
    · subst hx
      have hle := hbound x
      simp only [set, if_true, UInt8.toNat_add, h.lock, hi]
      exact Nat.mod_eq_of_lt (by simp; omega)
    · simp only [set, if_neg hx, h.lock, hother x hx]
  · intro x hx
    by_cases hxi : x = i
    · subst hxi
      simp [set, hfreed] at hx
    · simp only [set, if_neg hxi] at hx
      rw [hother x hxi]
      exact h.free x hx

lemma Refs.unlock_spec (h : Refs l freed n) (freed' : Nat → Bool) (n' : Nat → Nat)
    (hother : ∀ x ≠ i, n' x = n x ∧ (freed x → freed' x)) (hi : n i = n' i + 1)
    (hlast : n' i = 0 → freed' i) :
    ∃ l', l.ospf6LsaUnlock i = some l' ∧ SameList l l' ∧ Refs l' freed' n' := by
  have hlock := h.lock i
  have hne : (l.lsas i).lock ≠ 0 := by
    intro hzero
    rw [hzero, hi] at hlock
    simp at hlock
  have hfreed : (l.lsas i).freed = false := by
    cases hf : (l.lsas i).freed with
    | false => rfl
    | true => exact absurd (h.free i hf).1 (by omega)
  have hnat : ((l.lsas i).lock - 1).toNat = n' i := by
    rw [UInt8.toNat_sub_of_le _ _ (by rw [UInt8.le_iff_toNat_le]; simp; omega)]
    simp [hlock, hi]
  have hbound : ∀ x, n' x ≤ 3 := by
    intro x
    by_cases hx : x = i
    · subst hx
      have := h.bound x
      omega
    · rw [(hother x hx).1]
      exact h.bound x
  refine ⟨l.set i fun x => { x with lock := x.lock - 1, freed := x.lock - 1 = 0 },
    by rw [ospf6LsaUnlock, if_neg hne]; exact write_eq hfreed,
    set_sameList (fun _ => rfl) (fun _ => rfl) (fun _ => rfl), ?_, hbound, ?_⟩
  · intro x
    by_cases hx : x = i
    · subst hx
      simp only [set, if_true, hnat]
    · simp only [set, if_neg hx, h.lock, (hother x hx).1]
  · intro x hx
    by_cases hxi : x = i
    · subst hxi
      simp only [set, if_true, decide_eq_true_eq] at hx
      rw [hx] at hnat
      have hzero : n' x = 0 := by simpa using hnat.symm
      exact ⟨hzero, hlast hzero⟩
    · simp only [set, if_neg hxi] at hx
      rw [(hother x hxi).1]
      exact ⟨(h.free x hx).1, (hother x hxi).2 (h.free x hx).2⟩

end locks

section loops

variable {l' : Lsdb} {freed : Nat → Bool} {L : List Nat} {held : Nat → Nat} {key : Nat → LsaKey}
  {map : LsaKey → Option Nat}

/-- A reference is held to one more LSA. -/
def hold (held : Nat → Nat) : Option Nat → Nat → Nat
  | none => held
  | some i => Function.update held i 1

lemma hold_le (hheld : ∀ x, held x ≤ 1) (o : Option Nat) (x : Nat) : hold held o x ≤ 1 := by
  cases o with
  | none => exact hheld x
  | some i =>
    by_cases hx : x = i
    · simp [hold, hx]
    · simpa [hold, hx] using hheld x

lemma refs_le (hheld : ∀ x, held x ≤ 1) (i : Nat) : refs L held i ≤ 3 := by
  have := hheld i
  unfold refs
  split_ifs <;> omega

lemma refs_hold_self (hi : held i = 0) : refs L (hold held (some i)) i = refs L held i + 1 := by
  simp [refs, hold, hi]

lemma refs_hold_ne {x : Nat} (hx : x ≠ i) : refs L (hold held (some i)) x = refs L held x := by
  simp [refs, hold, hx]

lemma Refs.not_freed (h : Refs l freed (refs L held)) (hi : i ∈ L) : (l.lsas i).freed = false := by
  cases hf : (l.lsas i).freed with
  | false => rfl
  | true =>
    have hzero := (h.free i hf).1
    simp [refs, hi] at hzero

lemma Refs.hold_spec (h : Refs l freed (refs L held)) (hheld : ∀ x, held x ≤ 1)
    (ho : ∀ i, o = some i → i ∈ L ∧ held i = 0) :
    ∃ l', (l.write? o fun x => { x with lock := x.lock + 1 }) = some l' ∧ SameList l l' ∧
      Refs l' freed (refs L (hold held o)) := by
  cases o with
  | none => exact ⟨l, rfl, SameList.refl l, h⟩
  | some i =>
    obtain ⟨hi, hzero⟩ := ho i rfl
    exact h.lock_spec _ (h.not_freed hi) (refs_le (hold_le hheld _)) (fun x hx => refs_hold_ne hx)
      (refs_hold_self hzero)

lemma next_spec (h : Refs l freed (refs L (hold held (some i)))) (hheld : ∀ x, held x ≤ 1) (hi : held i = 0)
    (hlast : i ∉ L → freed i) (hnext : ∀ j, (l.lsas i).next = some j → j ∈ L ∧ held j = 0) :
    ∃ l', l.ospf6LsdbNext i = some (l', (l.lsas i).next) ∧ SameList l l' ∧
      Refs l' freed (refs L (hold held (l.lsas i).next)) := by
  obtain ⟨l1, hl1, hsame1, hrefs1⟩ := h.unlock_spec freed (refs L held)
    (fun x hx => ⟨(refs_hold_ne hx).symm, id⟩) (refs_hold_self hi) (fun hzero => hlast fun hmem => by
      simp [refs, hmem] at hzero)
  obtain ⟨l2, hl2, hsame2, hrefs2⟩ := hrefs1.hold_spec hheld hnext
  refine ⟨l2, ?_, hsame1.trans hsame2, hrefs2⟩
  simp [ospf6LsdbNext, hl1, hl2]

section
variable (h : ListInv key l map uses T)
include h

lemma ListInv.next_eq (hL : stored l.table T = l1 ++ i :: l2) : (l.lsas i).next = l2.head? := by
  have hlinked := h.linked
  rw [hL] at hlinked
  simpa using hlinked.next_eq

lemma ListInv.sorted : (stored l.table T).Pairwise fun i j => (key i).bits < (key j).bits := by
  refine pairwise_filterMap.mpr (h.trie.prefixed.pairwise.imp_of_mem ?_)
  intro a b ha hb hlt i hi j hj
  rw [← h.info a ha i hi, ← h.info b hb j hj]
  exact hlt

lemma ListInv.nodup : (stored l.table T).Nodup := by
  refine h.sorted.imp fun hlt he => ?_
  rw [he] at hlt
  exact lt_irrefl _ hlt

lemma ListInv.length_le : (stored l.table T).length ≤ l.table.fresh :=
  (length_filterMap_le _ _).trans h.trie.walkable.length_le

lemma countLoop_spec (hrefs : Refs l freed (refs (stored l.table T) (hold held (some i))))
    (hheld : ∀ x, held x ≤ 1) (hzero : ∀ j ∈ stored l.table T, held j = 0)
    (hL : stored l.table T = l1 ++ i :: l2) (num : UInt32) {fuel : Nat} (hfuel : l2.length < fuel) :
    ∃ l', countLoop fuel l (some i) num = some (l', num + UInt32.ofNat (l2.length + 1)) ∧ SameList l l' ∧
      Refs l' freed (refs (stored l.table T) held) := by
  induction l2 generalizing l i l1 num fuel with
  | nil =>
    obtain ⟨fuel, rfl⟩ : ∃ n, fuel = n + 1 := ⟨fuel - 1, by omega⟩
    have hmem : i ∈ stored l.table T := by simp [hL]
    have hnext : (l.lsas i).next = none := h.next_eq hL
    obtain ⟨l', hl', hsame, hrefs'⟩ := next_spec hrefs hheld (hzero i hmem) (fun hn => absurd hmem hn)
      (by simp [hnext])
    rw [hnext] at hl' hrefs'
    refine ⟨l', ?_, hsame, hrefs'⟩
    simp [countLoop, hl']
  | cons j l2 ih =>
    obtain ⟨fuel, rfl⟩ : ∃ n, fuel = n + 1 := ⟨fuel - 1, by omega⟩
    have hmem : i ∈ stored l.table T := by simp [hL]
    have hmemj : j ∈ stored l.table T := by simp [hL]
    have hnext : (l.lsas i).next = some j := h.next_eq hL
    obtain ⟨l', hl', hsame, hrefs'⟩ := next_spec hrefs hheld (hzero i hmem) (fun hn => absurd hmem hn) (by
      intro x hx
      obtain rfl : j = x := Option.some.inj (hnext.symm.trans hx)
      exact ⟨hmemj, hzero j hmemj⟩)
    rw [hnext] at hl' hrefs'
    have hstored : stored l'.table T = stored l.table T := by rw [hsame.table]
    have hL' : stored l'.table T = (l1 ++ [i]) ++ j :: l2 := by
      rw [hstored, hL]
      simp
    obtain ⟨l'', hl'', hsame', hrefs''⟩ := ih (hsame.listInv h) (hstored ▸ hrefs') (by rw [hstored]; exact hzero)
      hL' (num + 1) (by simpa using hfuel)
    rw [hstored] at hrefs''
    refine ⟨l'', ?_, hsame.trans hsame', hrefs''⟩
    have hnum : num + 1 + UInt32.ofNat (l2.length + 1) = num + UInt32.ofNat ((j :: l2).length + 1) := by
      rw [length_cons, UInt32.ofNat_add (l2.length + 1) 1, UInt32.add_assoc, UInt32.add_comm 1]
      rfl
    rw [countLoop, hl']
    change countLoop fuel l' (some j) (num + 1) = _
    rw [hl'', hnum]

end

lemma firstNode_eq {t : NodeTable} {a : Nat} (h : t.Walkable T) (htop : T.root = some a) :
    firstNode (t.routeLockNode a) a =
      some (t.lockNode? (T.pre.find? fun b => (t.nodes b).info.isSome),
        T.pre.find? fun b => (t.nodes b).info.isSome) := by
  obtain ⟨rest, hT⟩ : ∃ rest, T.pre = a :: rest := by
    cases T with
    | nil => cases htop
    | node b l r =>
      cases htop
      exact ⟨_, rfl⟩
  have hlen := h.length_le
  rw [firstNode, hT, List.find?_cons, NodeTable.lock_info]
  cases hinfo : (t.nodes a).info.isSome with
  | true => rfl
  | false =>
    rw [hT, length_cons] at hlen
    exact h.routeNext.skipEmpty_eq (show T.pre = [] ++ a :: rest from hT) (Nat.lt_succ_of_lt hlen)

section
variable (h : ListInv key l map uses T) (hrefs : Refs l freed (refs (stored l.table T) held)) (hheld : ∀ x, held x ≤ 1)
include h hrefs hheld

lemma head_spec (hzero : ∀ j ∈ stored l.table T, held j = 0) :
    ∃ l', l.ospf6LsdbHead = some (l', (stored l.table T).head?) ∧ SameList l l' ∧
      Refs l' freed (refs (stored l.table T) (hold held (stored l.table T).head?)) := by
  unfold ospf6LsdbHead
  cases htop : T.root with
  | none =>
    have hnil : stored l.table T = [] := by
      cases T with
      | nil => rfl
      | node a tl tr => cases htop
    rw [hnil] at hrefs
    rw [h.trie.top, htop, hnil]
    exact ⟨l, rfl, SameList.refl l, hrefs⟩
  | some a =>
    rw [h.trie.top, htop]
    dsimp only
    rw [firstNode_eq h.trie.walkable htop]
    cases hfind : T.pre.find? fun b => (l.table.nodes b).info.isSome with
    | none =>
      have hnil : stored l.table T = [] := by
        refine filterMap_eq_nil_iff.mpr fun b hb => ?_
        simpa using List.find?_eq_none.mp hfind b hb
      rw [hnil] at hrefs ⊢
      exact ⟨l, rfl, SameList.refl l, hrefs⟩
    | some b =>
      have hb := mem_of_find?_eq_some hfind
      have hhead : (stored l.table T).head? = (l.table.nodes b).info := by
        rw [stored, List.head?_filterMap]
        exact NodeTable.findSome?_of_find? hfind
      obtain ⟨i, hi⟩ : ∃ i, (l.table.nodes b).info = some i :=
        Option.isSome_iff_exists.mp (List.find?_some (p := fun b => (l.table.nodes b).info.isSome) hfind)
      rw [hi] at hhead
      have hmem : i ∈ stored l.table T := mem_of_head? hhead
      obtain ⟨l', hl', hsame, hrefs'⟩ := hrefs.hold_spec hheld (o := some i) (by
        intro j hj
        cases hj
        exact ⟨hmem, hzero i hmem⟩)
      rw [hhead]
      refine ⟨l', ?_, hsame, hrefs'⟩
      have hlock : ospf6LsaLock l i = some l' := hl'
      simp [NodeTable.lockNode?, NodeTable.lock_info, hi,
        NodeTable.unlock_lock (h.trie.walkable.releasable b hb), hlock]

lemma countAssert_spec (hzero : ∀ j ∈ stored l.table T, held j = 0) : ∃ l', l.ospf6LsdbCountAssert =
    some l' ∧ SameList l l' ∧ Refs l' freed (refs (stored l.table T) held) := by
  obtain ⟨l1, hl1, hsame1, hrefs1⟩ := head_spec h hrefs hheld hzero
  have hstored : stored l1.table T = stored l.table T := by rw [hsame1.table]
  have hcount : l1.count = UInt32.ofNat (stored l.table T).length := hsame1.count.trans h.count
  cases hL : stored l.table T with
  | nil =>
    rw [hL] at hl1 hcount hrefs1
    refine ⟨l1, ?_, hsame1, hrefs1⟩
    rw [ospf6LsdbCountAssert, hl1]
    simp [countLoop, hcount]
  | cons i rest =>
    have hlen := h.length_le
    rw [hL] at hl1 hcount
    have hrefs1' : Refs l1 freed (refs (stored l1.table T) (hold held (some i))) := by
      rw [hstored]
      rw [hL] at hrefs1 ⊢
      exact hrefs1
    have hL1 : stored l1.table T = [] ++ i :: rest := hstored.trans hL
    have hfuel : rest.length < l1.table.fresh + 1 := by
      rw [hL, length_cons] at hlen
      rw [hsame1.table]
      omega
    obtain ⟨l2, hl2, hsame2, hrefs2⟩ := countLoop_spec (hsame1.listInv h) hrefs1' hheld
      (by rw [hstored]; exact hzero) hL1 0 hfuel
    rw [hstored, hL] at hrefs2
    refine ⟨l2, ?_, hsame1.trans hsame2, hrefs2⟩
    rw [ospf6LsdbCountAssert, hl1]
    have hcount2 : l2.count = UInt32.ofNat (rest.length + 1) := by rw [hsame2.count, hcount, length_cons]
    simp [hl2, hcount2]

end

end loops

end Lsdb

end OspfMdr.Ospf6
