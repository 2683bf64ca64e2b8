import OspfMdr.Proofs.LsdbLinks

namespace OspfMdr.Ospf6
open Lib List Function Option NodeTable UInt32

/-- What a database is: the LSA for each key, and the LSAs that have been freed. -/
structure LsaMap where
  map : LsaKey → Option Nat
  freed : Nat → Bool

namespace LsaMap

def empty : LsaMap := ⟨fun _ => none, fun _ => false⟩

/-- The new LSA takes the place of the one with its key, which is freed unless it is the same. -/
def add (A : LsaMap) (k : LsaKey) (i : Nat) : LsaMap :=
  ⟨update A.map k (some i), fun x => A.freed x || (A.map k = some x ∧ x ≠ i)⟩

/-- The key is cleared, and its LSA freed. -/
def remove (A : LsaMap) (k : LsaKey) (i : Nat) : LsaMap :=
  ⟨update A.map k none, fun x => A.freed x || x = i⟩

def step (key : Nat → LsaKey) (A : LsaMap) : LsdbOp → Option LsaMap
  | .add i => if A.freed i then none else some (A.add (key i) i)
  | .remove i => if A.map (key i) = some i then some (A.remove (key i) i) else none
  | .lookup _ => some A

end LsaMap

namespace Lsdb

variable {key : Nat → LsaKey} {l : Lsdb} {A : LsaMap} {uses : List Bool → Nat} {T : BinTree Nat}
  {held : Nat → Nat} {i : Nat} {t : NodeTable}

/-- The database represents the map; `held` are the LSAs at which loops stand. -/
structure DbInv (key : Nat → LsaKey) (l : Lsdb) (A : LsaMap) (uses : List Bool → Nat) (T : BinTree Nat)
    (held : Nat → Nat) : Prop where
  list : ListInv key l A.map uses T
  refs : Refs l A.freed (refs (stored l.table T) held)

lemma DbInv.live (h : DbInv key l A uses T held) {x : Nat} (hx : x ∈ stored l.table T) :
    (l.lsas x).freed = false := h.refs.not_freed hx

lemma DbInv.not_freed (h : DbInv key l A uses T held) (hi : A.freed i = false) :
    (l.lsas i).freed = false := by
  cases hf : (l.lsas i).freed with
  | false => rfl
  | true =>
    rw [(h.refs.free i hf).2] at hi
    cases hi

lemma trie_split {k : LsaKey} {c : Nat} (htrie : t.TrieInv T uses)
    (hinfo : ∀ a ∈ T.pre, ∀ x, (t.nodes a).info = some x → (t.nodes a).p = (key x).bits)
    (hc : c ∈ T.pre) (hkey : (t.nodes c).p = k.bits) : ∃ l1 l2, T.pre = l1 ++ c :: l2 ∧ (∀ x ∈
      l1.filterMap (fun a => (t.nodes a).info) ++ l2.filterMap (fun a => (t.nodes a).info), key x ≠
      k) ∧ ∀ x, (t.nodes c).info = some x → key x = k := by
  obtain ⟨l1, l2, hT⟩ := append_of_mem hc
  have hnodup := htrie.nodup
  rw [hT, nodup_append, nodup_cons] at hnodup
  refine ⟨l1, l2, hT, fun x hx hk => ?_, fun x hx => ?_⟩
  · rw [← filterMap_append] at hx
    obtain ⟨a, ha, hax⟩ := mem_filterMap.mp hx
    have haT : a ∈ T.pre := by
      rw [hT]
      simp only [mem_append, mem_cons] at ha ⊢
      tauto
    have hac : a = c := htrie.shaped.eq_of_p haT hc (by rw [hinfo a haT x hax, hk, hkey])
    subst hac
    rcases mem_append.mp ha with ha | ha
    · exact hnodup.2.2 a ha a mem_cons_self rfl
    · exact hnodup.2.1.1 ha
  · exact LsaKey.bits_injective ((hinfo c hc x hx).symm.trans hkey)

lemma Refs.congr {l' : Lsdb} {freed freed' : Nat → Bool} {n n' : Nat → Nat} (h : Refs l freed n)
    (hlock : ∀ x, (l'.lsas x).lock = (l.lsas x).lock)
    (hfree : ∀ x, (l'.lsas x).freed = (l.lsas x).freed)
    (hfreed : ∀ x, freed x → freed' x) (hn : ∀ x, n' x = n x) :
    Refs l' freed' n' := by
  refine ⟨fun x => ?_, fun x => ?_, fun x hx => ?_⟩
  · rw [hlock, hn]
    exact h.lock x
  · rw [hn]
    exact h.bound x
  · rw [hfree] at hx
    rw [hn]
    exact ⟨(h.free x hx).1, hfreed x (h.free x hx).2⟩

def idle : Nat → Nat := fun _ => 0

lemma refs_idle (L : List Nat) (x : Nat) : refs L idle x = if x ∈ L then 1 else 0 := rfl

lemma neighbors_eq {c : Nat} {l1 l2 : List Nat} (h : t.TrieInv T uses) (huses : ∀ k, uses k + 1 < 2 ^ 32)
    (hT : T.pre = l1 ++ c :: l2) :
    neighborLsa routeNext t c = some (t, (l2.filterMap fun a => (t.nodes a).info).head?) ∧
    neighborLsa routePrev t c = some (t, (l1.filterMap fun a => (t.nodes a).info).getLast?) := by
  have hwalk := h.walkable
  constructor
  · exact hwalk.routeNext.neighborLsa_eq hwalk.releasable hwalk.length_le hT
  · have hrev : T.pre.reverse = l2.reverse ++ c :: l1.reverse := by
      rw [hT]
      simp
    have hprev := (hwalk.routePrev (h.lockable huses)).neighborLsa_eq
      (fun b hb => hwalk.releasable b (mem_reverse.mp hb)) (by simpa using hwalk.length_le) hrev
    rw [hprev, filterMap_reverse, List.head?_reverse]

section add

/-- The tree with a node `c` for the new LSA, which comes between those of `S1` and of `S2`. -/
structure Opened (key : Nat → LsaKey) (l : Lsdb) (T : BinTree Nat) (t : NodeTable) (T' : BinTree Nat)
    (uses : List Bool → Nat) (i c : Nat) (S1 S2 : List Nat) : Prop where
  trie : (setInfo t c (some i)).TrieInv T' uses
  info : ∀ a ∈ T'.pre, ∀ x, ((setInfo t c (some i)).nodes a).info = some x →
    ((setInfo t c (some i)).nodes a).p = (key x).bits
  old : stored l.table T = S1 ++ (t.nodes c).info.toList ++ S2
  new : stored (setInfo t c (some i)) T' = S1 ++ (some i).toList ++ S2
  rest : ∀ x ∈ S1 ++ S2, key x ≠ key i
  own : ∀ x, (t.nodes c).info = some x → key x = key i
  next : neighborLsa routeNext (setInfo t c (some i)) c = some (setInfo t c (some i), S2.head?)
  prev : neighborLsa routePrev (setInfo t c (some i)) c = some (setInfo t c (some i), S1.getLast?)

lemma DbInv.opened (h : DbInv key l A uses T held) (huses : ∀ k, bump uses (key i).bits k + 1 < 2 ^ 32) :
    ∃ t T' c S1 S2, l.table.routeNodeGet (l.lsas i).key.bits = some (t, c) ∧
      Opened key l T t T' (bump uses (key i).bits) i c S1 S2 := by
  have huse : uses (key i).bits + 1 < 2 ^ 32 := by
    have := huses (key i).bits
    rw [bump, update_self] at this
    omega
  obtain ⟨t, T', c, hget, htrie, hgot⟩ := h.list.trie.routeNodeGet (LsaKey.bits_length (key i)) huse
  have hstored : stored t T' = stored l.table T :=
    filterMap_of_sublist hgot.old htrie.nodup (fun a ha => (hgot.same a ha).2) hgot.new
  have hinfo : ∀ a ∈ T'.pre, ∀ x, (t.nodes a).info = some x → (t.nodes a).p = (key x).bits := by
    intro a ha x hx
    by_cases haT : a ∈ T.pre
    · rw [(hgot.same a haT).2] at hx
      rw [(hgot.same a haT).1]
      exact h.list.info a haT x hx
    · rw [hgot.new a ha haT] at hx
      cases hx
  have hset := setInfo_trieInv (x := some i) htrie hgot.mem (by rw [hgot.key, LsaKey.bits_length])
  obtain ⟨l1, l2, hT, hrest, hown⟩ := trie_split htrie hinfo hgot.mem hgot.key
  have hnew := stored_setInfo (t := t) (x := some i) htrie.nodup hT
  obtain ⟨hnext, hprev⟩ := neighbors_eq hset huses hT
  obtain ⟨hl1, hl2⟩ := setInfo_sides (t := t) (x := some i) htrie.nodup hT
  refine ⟨t, T', c, _, _, by rw [h.list.keys]; exact hget, hset, fun a ha x hx => ?_,
    hstored.symm.trans (stored_split hT), hnew, hrest, hown, ?_, ?_⟩
  · rw [setInfo_p]
    by_cases hac : a = c
    · subst hac
      rw [setInfo_self] at hx
      cases hx
      exact hgot.key
    · rw [setInfo_of_ne hac] at hx
      exact hinfo a ha x hx
  · rw [hnext, hl2]
  · rw [hprev, hl1]

variable {t : NodeTable} {T' : BinTree Nat} {uses' : List Bool → Nat} {c : Nat} {S1 S2 : List Nat}

section
variable (ho : Opened key l T t T' uses' i c S1 S2)
include ho

lemma Opened.not_mem : i ∉ S1 ++ S2 := fun hi => ho.rest i hi rfl

section
variable (h : DbInv key l A uses T idle)
include h

lemma Opened.finish {l0 l' l'' : Lsdb}
    (htable : l0.table = setInfo t c (some i))
    (hsame : ∀ x, (l0.lsas x).key = (l.lsas x).key ∧ (l0.lsas x).next = (l.lsas x).next ∧
      (l0.lsas x).prev = (l.lsas x).prev) (hlinks : Relinked l0 l' (some i) S1 S2)
    (hlist : SameList l' l'') (hcount : l'.count = ofNat (S1 ++ [i] ++ S2).length)
    (hrefs : Refs l'' (A.add (key i) i).freed (refs (S1 ++ [i] ++ S2) idle)) :
    ∃ l3, l''.ospf6LsdbCountAssert = some l3 ∧ DbInv key l3 (A.add (key i) i) uses' T' idle := by
  have htable' : l'.table = setInfo t c (some i) := hlinks.table.trans htable
  have hput : ListInv key l' (A.add (key i) i).map uses' T' := by
    refine h.list.put (by rw [htable']; exact ho.trie) (by rw [htable']; exact ho.info) ho.old
      (by rw [htable']; exact ho.new) ho.rest ho.own ?_ hsame hlinks (by rw [htable', ho.new]; exact hcount)
    intro x hx
    rw [Option.some.inj hx]
  have hput' := hlist.listInv hput
  have hstored : stored l''.table T' = S1 ++ [i] ++ S2 := by
    rw [hlist.table, htable']
    exact ho.new
  obtain ⟨l3, hl3, hsame3, hrefs3⟩ := countAssert_spec hput' (hstored ▸ hrefs) (fun _ => Nat.zero_le 1) fun _ _ => rfl
  refine ⟨l3, hl3, hsame3.listInv hput', ?_⟩
  rw [hsame3.table]
  exact hrefs3

lemma Opened.insert_spec (hi : A.freed i = false)
    (hnone : (t.nodes c).info = none) :
    ∃ l1 l2 l', ospf6LsaLock { l with table := setInfo t c (some i) } i = some l1 ∧ l1.insertLsa i c = some l2 ∧
      l2.ospf6LsdbCountAssert = some l' ∧ DbInv key l' (A.add (key i) i) uses' T' idle := by
  have hold : stored l.table T = S1 ++ S2 := by
    rw [ho.old, hnone]
    simp
  have hrefs0 : Refs { l with table := setInfo t c (some i) } A.freed (refs (S1 ++ S2) idle) :=
    hold ▸ h.refs.congr (fun _ => rfl) (fun _ => rfl) (fun _ => id) fun _ => rfl
  obtain ⟨l1, hl1, hsame1, hrefs1⟩ := hrefs0.lock_spec (refs (S1 ++ [i] ++ S2) idle) (h.not_freed hi)
    (refs_le fun _ => Nat.zero_le 1)
    (fun x hx => by simp [refs_idle, hx])
    (by simpa [refs_idle] using ho.not_mem)
  have hlive : ∀ x ∈ S1 ++ S2, (l1.lsas x).freed = false := by
    intro x hx
    refine hrefs1.not_freed ?_
    simp only [mem_append] at hx ⊢
    tauto
  have hlive' : (l1.lsas i).freed = false := hrefs1.not_freed (by simp)
  obtain ⟨l2, hl2, hcount, hlinks⟩ := insertLsa_spec ho.not_mem hlive' hlive
    (by rw [hsame1.table]; exact ho.next) (by rw [hsame1.table]; exact ho.prev)
  have hlen : l2.count = ofNat (S1 ++ [i] ++ S2).length := by
    rw [hcount, hsame1.count]
    rw [h.list.count, hold]
    simp [ofNat_add]
    ac_rfl
  obtain ⟨l', hl', hinv⟩ := ho.finish h hsame1.table
    (fun x => ⟨hsame1.key x, hsame1.next x, hsame1.prev x⟩) hlinks (SameList.refl l2) hlen
    (hrefs1.congr (fun x => by rw [hlinks.lsa x]) (fun x => by rw [hlinks.lsa x])
      (fun x hx => by simp [LsaMap.add, hx]) fun _ => rfl)
  exact ⟨l1, l2, l', hl1, hl2, hl', hinv⟩

lemma Opened.replace_spec (hi : A.freed i = false) {o : Nat}
    (hsome : (t.nodes c).info = some o) :
    ∃ l1 l2 l3 l', ospf6LsaLock { l with table := setInfo t c (some i) } i = some l1 ∧
      l1.replaceLsa i o = some l2 ∧ l2.ospf6LsaUnlock o = some l3 ∧
      l3.ospf6LsdbCountAssert = some l' ∧ DbInv key l' (A.add (key i) i) uses' T' idle := by
  have hold : stored l.table T = S1 ++ [o] ++ S2 := by
    rw [ho.old, hsome]
    rfl
  have hkey : key o = key i := ho.own o hsome
  have hmap : A.map (key i) = some o := by
    rw [← hkey]
    exact (h.list.mem o).mp (by simp [hold])
  have hoS : o ∉ S1 ++ S2 := fun hmem => ho.rest o hmem hkey
  have hrefs0 : Refs { l with table := setInfo t c (some i) } A.freed (refs (S1 ++ [o] ++ S2) idle) :=
    hold ▸ h.refs.congr (fun _ => rfl) (fun _ => rfl) (fun _ => id) fun _ => rfl
  -- both the old and the new LSA are locked, twice if they are one
  obtain ⟨l1, hl1, hsame1, hrefs1⟩ := hrefs0.lock_spec
    (fun x => if x = i then refs (S1 ++ [o] ++ S2) idle i + 1 else refs (S1 ++ [o] ++ S2) idle x)
    (h.not_freed hi) (fun x => by simp only [refs_idle]; split_ifs <;> omega)
    (fun x hx => if_neg hx) (if_pos rfl)
  have hlive : ∀ x ∈ S1 ++ [i] ++ S2, (l1.lsas x).freed = false := by
    intro x hx
    cases hf : (l1.lsas x).freed with
    | false => rfl
    | true =>
      have hzero := (hrefs1.free x hf).1
      by_cases hxi : x = i
      · simp [hxi] at hzero
      · simp only [mem_append, mem_singleton, hxi, or_false] at hx
        simp [hxi, refs_idle] at hzero
        tauto
  have hlinked := h.list.linked
  rw [hold, append_assoc] at hlinked
  have hnextO : (l1.lsas o).next = S2.head? := by simpa using (hsame1.next o).trans hlinked.next_eq
  have hprevO : (l1.lsas o).prev = S1.getLast? := by simpa using (hsame1.prev o).trans hlinked.prev_eq
  obtain ⟨l2, hl2, hcount, hlinks⟩ := replaceLsa_spec hprevO hnextO hoS ho.not_mem (hlive i (by simp))
    fun x hx => hlive x (by simp only [mem_append] at hx ⊢; tauto)
  have hrefs2 : Refs l2 A.freed _ :=
    hrefs1.congr (fun x => by rw [hlinks.lsa x]) (fun x => by rw [hlinks.lsa x]) (fun _ => id) fun _ => rfl
  have hother : ∀ x ≠ o, refs (S1 ++ [i] ++ S2) idle x =
      if x = i then refs (S1 ++ [o] ++ S2) idle i + 1 else refs (S1 ++ [o] ++ S2) idle x := by
    intro x hx
    by_cases hxi : x = i
    · subst hxi
      have hnot := ho.not_mem
      simp only [mem_append] at hnot
      simp [refs_idle, hx, hnot]
    · simp [refs_idle, hx, hxi]
  have hself : (if o = i then refs (S1 ++ [o] ++ S2) idle i + 1 else refs (S1 ++ [o] ++ S2) idle o) =
      refs (S1 ++ [i] ++ S2) idle o + 1 := by
    by_cases hoi : o = i
    · simp [refs_idle, hoi]
    · simp only [mem_append] at hoS
      simp [refs_idle, hoi, hoS]
  have hlast : refs (S1 ++ [i] ++ S2) idle o = 0 → (A.add (key i) i).freed o := by
    intro hzero
    have hoi : o ≠ i := by
      rintro rfl
      simp [refs_idle] at hzero
    simp [LsaMap.add, hmap, hoi]
  obtain ⟨l3, hl3, hsame3, hrefs3⟩ := hrefs2.unlock_spec (A.add (key i) i).freed
    (refs (S1 ++ [i] ++ S2) idle) (fun x hx => ⟨hother x hx, fun hf => by simp [LsaMap.add, hf]⟩) hself hlast
  have hlen : l2.count = ofNat (S1 ++ [i] ++ S2).length := by
    rw [hcount, hsame1.count]
    rw [h.list.count, hold]
    simp
  obtain ⟨l', hl', hinv⟩ := ho.finish h hsame1.table
    (fun x => ⟨hsame1.key x, hsame1.next x, hsame1.prev x⟩) hlinks hsame3 hlen hrefs3
  exact ⟨l1, l2, l3, l', hl1, hl2, hl3, hl', hinv⟩

end

end

end add

lemma add_spec (h : DbInv key l A uses T idle) (hi : A.freed i = false)
    (huses : ∀ k, bump uses (key i).bits k + 1 < 2 ^ 32) : ∃ l' T', l.ospf6LsdbAdd i =
    some l' ∧ DbInv key l' (A.add (key i) i) (bump uses (key i).bits) T' idle := by
  obtain ⟨t, T', c, S1, S2, hget, ho⟩ := h.opened huses
  unfold ospf6LsdbAdd
  rw [hget]
  cases hinfo : (t.nodes c).info with
  | none =>
    obtain ⟨l1, l2, l', hl1, hl2, hl', hinv⟩ := ho.insert_spec h hi hinfo
    refine ⟨l', T', ?_, hinv⟩
    rw [setInfo] at hl1
    simp [hinfo, hl1, hl2, hl']
  | some o =>
    obtain ⟨l1, l2, l3, l', hl1, hl2, hl3, hl', hinv⟩ := ho.replace_spec h hi hinfo
    refine ⟨l', T', ?_, hinv⟩
    rw [setInfo] at hl1
    simp [hinfo, hl1, hl2, hl3, hl']

section remove

variable {S1 S2 : List Nat}

lemma setInfo_lock (t : NodeTable) (c : Nat) (x : Option Nat) :
    setInfo (t.routeLockNode c) c x = (setInfo t c x).routeLockNode c := by
  unfold setInfo routeLockNode
  rw [modify_modify, modify_modify]

/-- The node `c` of the LSA, which stands between those of `S1` and of `S2`. -/
structure Located (key : Nat → LsaKey) (t : NodeTable) (T : BinTree Nat) (uses : List Bool → Nat) (i c : Nat)
    (S1 S2 : List Nat) : Prop where
  lookup : t.routeNodeLookup (key i).bits = some (t.routeLockNode c, some c)
  node : (t.nodes c).info = some i
  trie : (setInfo t c none).TrieInv T uses
  unlock : ((setInfo t c none).routeLockNode c).routeUnlockNode c = some (setInfo t c none)
  info : ∀ a ∈ T.pre, ∀ x, ((setInfo t c none).nodes a).info = some x →
    ((setInfo t c none).nodes a).p = (key x).bits
  new : stored (setInfo t c none) T = S1 ++ S2
  rest : ∀ x ∈ S1 ++ S2, key x ≠ key i

section
variable (h : DbInv key l A uses T held) (hL : stored l.table T = S1 ++ i :: S2)
include h hL

lemma DbInv.located : ∃ c, Located key l.table T uses i c S1 S2 := by
  obtain ⟨c, hc, hinfo⟩ := mem_filterMap.mp (show i ∈ stored l.table T by simp [hL])
  have hp := h.list.info c hc i hinfo
  obtain ⟨l1, l2, hT, hrest, -⟩ := trie_split h.list.trie h.list.info hc hp
  have hset := setInfo_trieInv (x := none) h.list.trie hc (by rw [hp, LsaKey.bits_length])
  have hnew := stored_setInfo (t := l.table) (x := none) h.list.trie.nodup hT
  have hsplit := stored_split (t := l.table) hT
  have hi : i ∉ l1.filterMap (fun a => (l.table.nodes a).info) ++
      l2.filterMap (fun a => (l.table.nodes a).info) := fun hmem => hrest i hmem rfl
  simp only [mem_append, not_or] at hi
  rw [hL, hinfo, toList_some, append_assoc, singleton_append] at hsplit
  obtain ⟨rfl, -, rfl⟩ := (append_cons_inj_of_notMem hi.1 hi.2).mp hsplit.symm
  refine ⟨c, h.list.trie.routeNodeLookup.1 c hc hp (by rw [hinfo]; rfl), hinfo, hset,
    unlock_lock (hset.walkable.releasable c hc), fun a ha x hx => ?_, by simpa using hnew, hrest⟩
  by_cases hac : a = c
  · subst hac
    rw [setInfo_self] at hx
    cases hx
  · rw [setInfo_of_ne hac] at hx ⊢
    exact h.list.info a ha x hx

lemma remove_spec (hheld : ∀ x, held x ≤ 1) (hzero : ∀ j ∈ S1 ++ S2, held j = 0) :
    ∃ l', l.ospf6LsdbRemove i = some l' ∧ DbInv key l' (A.remove (key i) i) uses T held ∧
      stored l'.table T = S1 ++ S2 ∧ (l'.lsas i).next = S2.head? := by
  obtain ⟨c, hloc⟩ := h.located hL
  have hold : stored l.table T = S1 ++ (some i).toList ++ S2 := by rw [hL]; simp
  have hi : i ∉ S1 ++ S2 := fun hmem => hloc.rest i hmem rfl
  have hlinked := h.list.linked
  rw [hL] at hlinked
  have hnext : (l.lsas i).next = S2.head? := by simpa using hlinked.next_eq
  have hprev : (l.lsas i).prev = S1.getLast? := by simpa using hlinked.prev_eq
  have hlive : ∀ x ∈ S1 ++ S2, (l.lsas x).freed = false := by
    intro x hx
    refine h.live ?_
    rw [hL]
    simp only [mem_append, mem_cons] at hx ⊢
    tauto
  obtain ⟨l1, l2, hl1, hl2, hcount, hlinks⟩ :=
    removeLinks_spec (l := { l with table := l.table.routeLockNode c }) hprev hnext hi hlive
  have hrefs2 : Refs { l2 with table := setInfo l2.table c none, count := l2.count - 1 } A.freed
      (refs (S1 ++ i :: S2) held) :=
    hL ▸ h.refs.congr (fun x => by rw [hlinks.lsa x]) (fun x => by rw [hlinks.lsa x]) (fun _ => id) fun _ => rfl
  have hself : refs (S1 ++ i :: S2) held i = refs (S1 ++ S2) held i + 1 := by
    simp [refs, hi, add_comm]
  have hother : ∀ x ≠ i, refs (S1 ++ S2) held x = refs (S1 ++ i :: S2) held x := by
    intro x hx
    simp [refs, hx]
  obtain ⟨l3, hl3, hsame3, hrefs3⟩ := hrefs2.unlock_spec (A.remove (key i) i).freed (refs (S1 ++ S2) held)
    (fun x hx => ⟨hother x hx, fun hf => by simp [LsaMap.remove, hf]⟩) hself (fun _ => by simp [LsaMap.remove])
  have htable3 : l3.table = (setInfo l.table c none).routeLockNode c := by
    rw [hsame3.table]
    rw [hlinks.table, setInfo_lock]
  have hlen : l2.count - 1 = ofNat (S1 ++ S2).length := by
    rw [hcount]
    rw [h.list.count, hL, length_append, length_cons, ← add_assoc, ofNat_add, length_append]
    exact UInt32.add_sub_cancel _ _
  have hput : ListInv key { l2 with table := setInfo l.table c none, count := l2.count - 1 }
      (A.remove (key i) i).map uses T := by
    have hrelinked : Relinked { l with table := setInfo l.table c none }
      { l2 with table := setInfo l.table c none, count := l2.count - 1 } none S1 S2 := ⟨rfl, hlinks.lsa⟩
    refine h.list.put hloc.trie hloc.info hold (by simpa using hloc.new) hloc.rest
      (fun x hx => by rw [Option.some.inj hx]) (by simp) (fun x => ?_) hrelinked (by rw [hloc.new]; exact hlen)
    exact ⟨rfl, rfl, rfl⟩
  have hsame : SameList { l2 with table := setInfo l.table c none, count := l2.count - 1 }
      { l3 with table := setInfo l.table c none } :=
    ⟨rfl, hsame3.count, hsame3.key, hsame3.prev, hsame3.next⟩
  have hlist := hsame.listInv hput
  have hrefs : Refs { l3 with table := setInfo l.table c none } (A.remove (key i) i).freed
      (refs (stored (setInfo l.table c none) T) held) := by
    rw [hloc.new]
    exact hrefs3.congr (fun _ => rfl) (fun _ => rfl) (fun _ => id) fun _ => rfl
  obtain ⟨l', hl', hsame', hrefs'⟩ := countAssert_spec hlist hrefs hheld (by rw [hloc.new]; exact hzero)
  refine ⟨l', ?_, ⟨hsame'.listInv hlist, by rw [hsame'.table]; exact hrefs'⟩, ?_, ?_⟩
  · unfold ospf6LsdbRemove
    rw [h.list.keys, hloc.lookup]
    simp only [bind_eq_bind, bind_some, lock_info, hloc.node]
    rw [if_neg (by simp), hl1, bind_some, hl2]
    simp only [bind_some]
    rw [setInfo] at hl3
    rw [hl3, bind_some, htable3, hloc.unlock]
    exact hl'
  · rw [hsame'.table]
    exact hloc.new
  · rw [hsame'.next i]
    rw [hsame3.next i]
    rw [hlinks.lsa i]
    have hlast := getLast?_ne fun hmem => hi (mem_append_left S2 hmem)
    simpa [nextAfter, hlast] using hnext

end

end remove

lemma lookup_spec (h : DbInv key l A uses T held) (k : LsaKey) (huses : uses k.bits + 1 < 2 ^ 32) :
    ∃ l', l.ospf6LsdbLookup k = some (l', A.map k) ∧ DbInv key l' A (bump uses k.bits) T held := by
  unfold ospf6LsdbLookup
  cases hmap : A.map k with
  | none =>
    have hnone : ∀ a ∈ T.pre, (l.table.nodes a).p = k.bits → (l.table.nodes a).info = none := by
      intro a ha hp
      cases hinfo : (l.table.nodes a).info with
      | none => rfl
      | some i =>
        have hkey : key i = k := LsaKey.bits_injective ((h.list.info a ha i hinfo).symm.trans hp)
        have hi := (h.list.mem i).mp (mem_filterMap.mpr ⟨a, ha, hinfo⟩)
        rw [hkey, hmap] at hi
        cases hi
    rw [h.list.trie.routeNodeLookup.2 hnone]
    have htrie : l.table.TrieInv T (bump uses k.bits) := h.list.trie.use
    exact ⟨l, rfl, { h.list with trie := htrie }, h.refs⟩
  | some i =>
    obtain ⟨a, ha, hinfo⟩ := mem_filterMap.mp ((h.list.mem i).mpr (by rw [h.list.mapKey k i hmap, hmap]))
    have hp : (l.table.nodes a).p = k.bits := by rw [h.list.info a ha i hinfo, h.list.mapKey k i hmap]
    rw [h.list.trie.routeNodeLookup.1 a ha hp (by rw [hinfo]; rfl)]
    have hstored : stored (l.table.routeLockNode a) T = stored l.table T :=
      filterMap_congr fun b _ => lock_info b
    refine ⟨{ l with table := l.table.routeLockNode a }, ?_, ⟨?_, h.list.keys, ?_, ?_, ?_, h.list.mapKey, ?_⟩, ?_⟩
    · simp [lock_info, hinfo]
    · exact h.list.trie.lock huses ha hp (LsaKey.bits_length k)
    · intro b hb j hj
      rw [lock_info] at hj
      rw [lock_p]
      exact h.list.info b hb j hj
    · rw [hstored]
      exact h.list.linked
    · rw [hstored]
      exact h.list.mem
    · rw [hstored]
      exact h.list.count
    · rw [hstored]
      exact h.refs.congr (fun _ => rfl) (fun _ => rfl) (fun _ => id) fun _ => rfl

section visits

variable {S1 S2 : List Nat} {remove : Nat → Bool}

lemma visit_spec (remove : Nat → Bool) (h : DbInv key l A uses T (hold idle (some i)))
    (hL : stored l.table T = S1 ++ i :: S2) :
    ∃ l1 l2 A', (if remove i then l.ospf6LsdbRemove i else some l) = some l1 ∧
      l1.ospf6LsdbNext i = some (l2, S2.head?) ∧ DbInv key l2 A' uses T (hold idle S2.head?) ∧
      stored l2.table T = S1 ++ [i].filter (fun x => !remove x) ++ S2 := by
  have hnodup := h.list.nodup
  rw [hL] at hnodup
  have hi : i ∉ S1 ++ S2 := fun hmem => by
    rw [nodup_append, nodup_cons] at hnodup
    rcases mem_append.mp hmem with hmem | hmem
    · exact hnodup.2.2 i hmem i mem_cons_self rfl
    · exact hnodup.2.1.1 hmem
  have hzero : ∀ j ∈ S1 ++ S2, hold idle (some i) j = 0 := fun j hj =>
    update_of_ne (fun he : j = i => hi (he ▸ hj)) _ _
  have hturn : ∃ l1 A', (if remove i then l.ospf6LsdbRemove i else some l) = some l1 ∧
      DbInv key l1 A' uses T (hold idle (some i)) ∧
      stored l1.table T = S1 ++ [i].filter (fun x => !remove x) ++ S2 ∧ (l1.lsas i).next = S2.head? ∧
      (i ∉ stored l1.table T → A'.freed i) := by
    cases hrem : remove i with
    | true =>
      obtain ⟨l1, hl1, hinv, hstored, hnext⟩ := remove_spec h hL (hold_le (fun _ => Nat.zero_le 1) _) hzero
      exact ⟨l1, _, hl1, hinv, by simpa [hrem] using hstored, hnext, fun _ => by simp [LsaMap.remove]⟩
    | false =>
      refine ⟨l, A, rfl, h, by simpa [hrem] using hL, h.list.next_eq hL, fun hnot => ?_⟩
      exact absurd (by simp [hL]) hnot
  obtain ⟨l1, A', hl1, hinv, hstored, hnext, hlast⟩ := hturn
  obtain ⟨l2, hl2, hsame, hrefs⟩ := next_spec hinv.refs (fun _ => Nat.zero_le 1) rfl hlast (fun j hj => by
    rw [hnext] at hj
    refine ⟨?_, rfl⟩
    rw [hstored]
    exact mem_append_right _ (mem_of_head? hj))
  rw [hnext] at hl2 hrefs
  refine ⟨l1, l2, A', hl1, hl2, ⟨hsame.listInv hinv.list, by rw [hsame.table]; exact hrefs⟩, ?_⟩
  rw [hsame.table, hstored]

lemma forEachLoop_some {l1 l2 : Lsdb} {next : Option Nat}
    (hl1 : (if remove i then l.ospf6LsdbRemove i else some l) = some l1)
    (hl2 : l1.ospf6LsdbNext i = some (l2, next)) (fuel : Nat) (visited : List Nat) :
    forEachLoop remove (fuel + 1) l (some i) visited = forEachLoop remove fuel l2 next (visited ++ [i]) := by
  cases hrem : remove i with
  | true =>
    rw [hrem, if_pos rfl] at hl1
    simp [forEachLoop, hrem, hl1, hl2]
  | false =>
    obtain rfl : l = l1 := by simpa [hrem] using hl1
    simp [forEachLoop, hrem, hl2]

lemma forEachLoop_spec (remove : Nat → Bool) (h : DbInv key l A uses T (hold idle (some i)))
    (hL : stored l.table T = S1 ++ i :: S2) (visited : List Nat) {fuel : Nat} (hfuel : S2.length < fuel) :
    ∃ l' A', forEachLoop remove fuel l (some i) visited = some (l', visited ++ i :: S2) ∧
      DbInv key l' A' uses T idle ∧ stored l'.table T = S1 ++ (i :: S2).filter fun x => !remove x := by
  induction S2 generalizing l A S1 i visited fuel with
  | nil =>
    obtain ⟨fuel, rfl⟩ : ∃ n, fuel = n + 1 := ⟨fuel - 1, by omega⟩
    obtain ⟨l1, l2, A', hl1, hl2, hinv, hstored⟩ := visit_spec remove h hL
    refine ⟨l2, A', ?_, hinv, by simpa using hstored⟩
    rw [forEachLoop_some hl1 hl2]
    simp [forEachLoop]
  | cons j S2 ih =>
    obtain ⟨fuel, rfl⟩ : ∃ n, fuel = n + 1 := ⟨fuel - 1, by omega⟩
    obtain ⟨l1, l2, A', hl1, hl2, hinv, hstored⟩ := visit_spec remove h hL
    obtain ⟨l', A'', hl', hinv', hstored'⟩ := ih hinv hstored (visited ++ [i]) (by simpa using hfuel)
    refine ⟨l', A'', ?_, hinv', ?_⟩
    · rw [forEachLoop_some hl1 hl2]
      simpa using hl'
    · rw [hstored', append_assoc, ← filter_append]
      rfl

end visits

/-- The doubly linked list, its head and the count are those of `L`. -/
structure Lists (l : Lsdb) (L : List Nat) : Prop where
  linked : Segment (fun i => (l.lsas i).next) (fun i => (l.lsas i).prev) none L none
  head : ∃ l', l.ospf6LsdbHead = some (l', L.head?)
  count : l.count = ofNat L.length

/-- The database is the map: `L` are its LSAs, in the order of their keys. -/
structure IsMap (key : Nat → LsaKey) (l : Lsdb) (map : LsaKey → Option Nat) (L : List Nat) : Prop where
  lists : Lists l L
  nodup : L.Nodup
  sorted : L.Pairwise fun i j => (key i).bits < (key j).bits
  mem : ∀ i, i ∈ L ↔ map (key i) = some i
  count : l.count.toNat = L.length
  lookup : ∀ k, ∃ l', l.ospf6LsdbLookup k = some (l', map k)
  iterate : ∀ remove, ∃ l', l.forEachLsa remove = some (l', L) ∧ Lists l' (L.filter fun i => !remove i)

section
variable (h : DbInv key l A uses T idle)
include h

lemma DbInv.lists : Lists l (stored l.table T) := by
  obtain ⟨l', hl', -, -⟩ := head_spec h.list h.refs (fun _ => Nat.zero_le 1) fun _ _ => rfl
  exact ⟨h.list.linked, ⟨l', hl'⟩, h.list.count⟩

lemma DbInv.iterate (remove : Nat → Bool) :
    ∃ l', l.forEachLsa remove = some (l', stored l.table T) ∧
      Lists l' ((stored l.table T).filter fun i => !remove i) := by
  obtain ⟨l1, hl1, hsame, hrefs⟩ := head_spec h.list h.refs (fun _ => Nat.zero_le 1) fun _ _ => rfl
  have hlen := h.list.length_le
  unfold forEachLsa
  rw [hl1]
  cases hL : stored l.table T with
  | nil =>
    refine ⟨l1, rfl, ?_⟩
    have hinv : DbInv key l1 A uses T idle := ⟨hsame.listInv h.list, by rw [hsame.table]; rwa [hL] at hrefs ⊢⟩
    have hlists := hinv.lists
    rw [hsame.table, hL] at hlists
    exact hlists
  | cons i rest =>
    rw [hL] at hrefs hlen
    have hL1 : stored l1.table T = [] ++ i :: rest := by rw [hsame.table, hL]; rfl
    have hinv : DbInv key l1 A uses T (hold idle (some i)) := ⟨hsame.listInv h.list, by rw [hL1]; exact hrefs⟩
    have hfuel : rest.length < l1.table.fresh + 1 := by
      rw [hsame.table]
      rw [length_cons] at hlen
      omega
    obtain ⟨l', A', hl', hinv', hstored'⟩ := forEachLoop_spec remove hinv hL1 [] hfuel
    refine ⟨l', hl', ?_⟩
    have hlists := hinv'.lists
    rw [hstored'] at hlists
    exact hlists

lemma DbInv.isMap (huses : ∀ k, uses k + 1 < 2 ^ 32)
    (hlen : (stored l.table T).length < 2 ^ 32) : IsMap key l A.map (stored l.table T) := by
  refine ⟨h.lists, h.list.nodup, h.list.sorted, h.list.mem, ?_, fun k => ?_, h.iterate⟩
  · rw [h.list.count]
    exact Nat.mod_eq_of_lt hlen
  · obtain ⟨l', hl', -⟩ := lookup_spec h k (huses k.bits)
    exact ⟨l', hl'⟩

end

end Lsdb

end OspfMdr.Ospf6
