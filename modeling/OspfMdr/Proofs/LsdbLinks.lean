import OspfMdr.Proofs.LsdbList

namespace OspfMdr.Ospf6
open Lib List Function Option NodeTable

namespace Lsdb

variable {key : Nat → LsaKey} {l : Lsdb} {map : LsaKey → Option Nat} {uses : List Bool → Nat} {T : BinTree Nat}
  {freed : Nat → Bool} {held : Nat → Nat} {i : Nat}

section tables

variable {t t' : NodeTable} {T' : BinTree Nat} {a c : Nat} {x : Option Nat} {l1 l2 : List Nat}

lemma filterMap_of_sublist {α β : Type} {f f' : α → Option β} {L L' : List α} (h : L.Sublist L')
    (hnodup : L'.Nodup) (hsame : ∀ a ∈ L, f' a = f a) (hnew : ∀ a ∈ L', a ∉ L → f' a = none) :
    L'.filterMap f' = L.filterMap f := by
  induction h with
  | slnil => rfl
  | @cons L L' a hsub ih =>
    obtain ⟨ha, hnodup⟩ := nodup_cons.mp hnodup
    rw [filterMap_cons_none (hnew a mem_cons_self fun hmem => ha (hsub.subset hmem))]
    exact ih hnodup hsame fun b hb hnb => hnew b (mem_cons_of_mem _ hb) hnb
  | @cons_cons L L' a hsub ih =>
    obtain ⟨ha, hnodup⟩ := nodup_cons.mp hnodup
    have hrest := ih hnodup (fun b hb => hsame b (mem_cons_of_mem _ hb)) (fun b hb hnb => by
      refine hnew b (mem_cons_of_mem _ hb) fun hmem => ?_
      rcases mem_cons.mp hmem with rfl | hmem
      · exact ha hb
      · exact hnb hmem)
    rw [filterMap_cons, filterMap_cons, hsame a mem_cons_self, hrest]

def setInfo (t : NodeTable) (c : Nat) (x : Option Nat) : NodeTable := t.modify c fun n => { n with info := x }

lemma setInfo_p (b : Nat) : ((setInfo t c x).nodes b).p = (t.nodes b).p :=
  modify_field RouteNode.p (by simp) b

lemma setInfo_self : ((setInfo t c x).nodes c).info = x := by
  rw [setInfo, modify_nodes, if_pos rfl]

lemma setInfo_of_ne {b : Nat} (hb : b ≠ c) : (setInfo t c x).nodes b = t.nodes b := by
  rw [setInfo, modify_nodes, if_neg hb]

lemma setInfo_links : (setInfo t c x).links = t.links :=
  modify_links (by simp) (by simp) (by simp)

lemma setInfo_trieInv (h : t.TrieInv T uses) (hc : c ∈ T.pre) (hlen : (t.nodes c).p.length = 80) :
    (setInfo t c x).TrieInv T uses := by
  refine ⟨h.top, by rw [setInfo_links]; exact h.linked, h.nodup, h.fresh, ?_, fun a ha => ?_⟩
  · exact h.prefixed.congr fun b _ => setInfo_p b
  · by_cases hac : a = c
    · subst hac
      have hleaf := h.leaf ha hlen
      rw [setInfo, modify_nodes, if_pos rfl]
      exact .inl ⟨hleaf.len, hleaf.locked, hleaf.bound⟩
    · rw [setInfo_of_ne hac]
      exact h.kind a ha

lemma stored_split (hT : T.pre = l1 ++ c :: l2) :
    stored t T = l1.filterMap (fun a => (t.nodes a).info) ++ (t.nodes c).info.toList ++
      l2.filterMap fun a => (t.nodes a).info := by
  rw [stored, hT, filterMap_append, filterMap_cons, append_assoc]
  cases (t.nodes c).info <;> rfl

lemma setInfo_sides (hnodup : T.pre.Nodup) (hT : T.pre = l1 ++ c :: l2) :
    (l1.filterMap fun a => ((setInfo t c x).nodes a).info) = l1.filterMap (fun a => (t.nodes a).info) ∧
    (l2.filterMap fun a => ((setInfo t c x).nodes a).info) = l2.filterMap fun a => (t.nodes a).info := by
  rw [hT, nodup_append, nodup_cons] at hnodup
  constructor
  · refine filterMap_congr fun a ha => ?_
    rw [setInfo_of_ne (hnodup.2.2 a ha c mem_cons_self)]
  · refine filterMap_congr fun a ha => ?_
    rw [setInfo_of_ne (fun he : a = c => hnodup.2.1.1 (he ▸ ha))]

lemma stored_setInfo (hnodup : T.pre.Nodup) (hT : T.pre = l1 ++ c :: l2) :
    stored (setInfo t c x) T = l1.filterMap (fun a => (t.nodes a).info) ++ x.toList ++
      l2.filterMap fun a => (t.nodes a).info := by
  obtain ⟨hl1, hl2⟩ := setInfo_sides (t := t) (x := x) hnodup hT
  rw [stored_split hT, setInfo_self, hl1, hl2]

end tables

section pointers

variable {l' : Lsdb} {S1 S2 : List Nat} {o : Nat} {new : Option Nat} {x : Nat}

/-- The links around the place between `S1` and `S2` have been changed for `new`. -/
structure Relinked (l l' : Lsdb) (new : Option Nat) (S1 S2 : List Nat) : Prop where
  table : l'.table = l.table
  lsa : ∀ x, l'.lsas x = { l.lsas x with
    next := nextAfter new S1 S2 (fun y => (l.lsas y).next) x
    prev := prevAfter new S1 S2 (fun y => (l.lsas y).prev) x }

lemma set?_lsas (l : Lsdb) (o : Option Nat) (f : DbLsa → DbLsa) (x : Nat) :
    (l.set? o f).lsas x = if o = some x then f (l.lsas x) else l.lsas x := rfl

lemma set_lsas (l : Lsdb) (o : Nat) (f : DbLsa → DbLsa) (x : Nat) :
    (l.set o f).lsas x = if x = o then f (l.lsas x) else l.lsas x := rfl

lemma getLast?_ne (hx : x ∉ S1) : S1.getLast? ≠ some x := fun he => hx (mem_of_getLast? he)

lemma head?_ne (hx : x ∉ S2) : S2.head? ≠ some x := fun he => hx (mem_of_head? he)

section neighbors

variable (hlive : ∀ x ∈ S1 ++ S2, (l.lsas x).freed = false)
include hlive

lemma live_last (x : Nat) (hx : S1.getLast? = some x) : (l.lsas x).freed = false :=
  hlive x (mem_append_left _ (mem_of_getLast? hx))

lemma live_head (x : Nat) (hx : S2.head? = some x) : (l.lsas x).freed = false :=
  hlive x (mem_append_right _ (mem_of_head? hx))

end neighbors

lemma set?_of_ne {o : Option Nat} {f : DbLsa → DbLsa} (h : o ≠ some x) :
    (l.set? o f).lsas x = l.lsas x := if_neg h

section fields

variable {α : Type} (g : DbLsa → α) {f : DbLsa → DbLsa} (hf : ∀ y, g (f y) = g y)
include hf

lemma set?_field {o : Option Nat} (x : Nat) : g ((l.set? o f).lsas x) = g (l.lsas x) := by
  rw [set?_lsas]
  split_ifs
  · exact hf _
  · rfl

lemma set_field (x : Nat) : g ((l.set o f).lsas x) = g (l.lsas x) := by
  rw [set_lsas]
  split_ifs
  · exact hf _
  · rfl

end fields

lemma replaceLsa_spec (hprev : (l.lsas o).prev = S1.getLast?) (hnext : (l.lsas o).next = S2.head?)
    (ho : o ∉ S1 ++ S2) (hi : i ∉ S1 ++ S2) (hfreed : (l.lsas i).freed = false)
    (hlive : ∀ x ∈ S1 ++ S2, (l.lsas x).freed = false) :
    ∃ l', l.replaceLsa i o = some l' ∧ l'.count = l.count ∧ Relinked l l' (some i) S1 S2 := by
  simp only [mem_append, not_or] at ho hi
  refine ⟨(((l.set? S1.getLast? fun x => { x with next := some i }).set? S2.head?
    fun x => { x with prev := some i }).set i fun x => { x with next := S2.head? }).set i
    fun x => { x with prev := S1.getLast? }, ?_, rfl, rfl, fun x => ?_⟩
  · have hlast := getLast?_ne ho.1
    have hhead := head?_ne ho.2
    unfold replaceLsa
    simp +contextual only [hprev, hnext, hlast, hhead, set?_of_ne, write_eq, write?_eq, set_field DbLsa.freed,
      set_field DbLsa.prev, set?_field DbLsa.freed, live_last hlive, live_head hlive, hfreed, bind_eq_bind, bind_some,
      implies_true, ne_eq, not_false_eq_true]
  · by_cases hx : x = i
    · subst hx
      simp [nextAfter, prevAfter, set?_lsas, set_lsas, getLast?_ne hi.1, head?_ne hi.2]
    · have hxi : some i ≠ some x := fun he => hx (Option.some.inj he).symm
      simp only [if_neg hx, set?_lsas, set_lsas, nextAfter, prevAfter, if_neg hxi, some_or]
      split_ifs <;> rfl

lemma insertLsa_spec {c : Nat} (hi : i ∉ S1 ++ S2) (hfreed : (l.lsas i).freed = false)
    (hlive : ∀ x ∈ S1 ++ S2, (l.lsas x).freed = false)
    (hnext : neighborLsa routeNext l.table c = some (l.table, S2.head?))
    (hprev : neighborLsa routePrev l.table c = some (l.table, S1.getLast?)) :
    ∃ l', l.insertLsa i c = some l' ∧ l'.count = l.count + 1 ∧ Relinked l l' (some i) S1 S2 := by
  simp only [mem_append, not_or] at hi
  refine ⟨{ (((l.set i fun x => { x with next := S2.head? }).set? S2.head? fun x => { x with prev := some i }).set i
    fun x => { x with prev := S1.getLast? }).set? S1.getLast? fun x => { x with next := some i } with
    count := l.count + 1 }, ?_, rfl, rfl, fun x => ?_⟩
  · have htable (l : Lsdb) (o f) : (l.set? o f).table = l.table := rfl
    have htable' (l : Lsdb) (o f) : (l.set o f).table = l.table := rfl
    unfold insertLsa
    simp +contextual only [hnext, hprev, write_eq, write?_eq, set_field DbLsa.freed, set?_field DbLsa.freed, htable, htable', hfreed,
      live_last hlive, live_head hlive, bind_eq_bind, bind_some, implies_true]
    rfl
  · by_cases hx : x = i
    · subst hx
      simp [nextAfter, prevAfter, set?_lsas, set_lsas, getLast?_ne hi.1, head?_ne hi.2]
    · have hxi : some i ≠ some x := fun he => hx (Option.some.inj he).symm
      simp only [if_neg hx, set?_lsas, set_lsas, nextAfter, prevAfter, if_neg hxi, some_or]
      split_ifs <;> rfl

lemma removeLinks_spec (hprev : (l.lsas i).prev = S1.getLast?) (hnext : (l.lsas i).next = S2.head?)
    (hi : i ∉ S1 ++ S2) (hlive : ∀ x ∈ S1 ++ S2, (l.lsas x).freed = false) :
    ∃ l1 l2, (l.write? (l.lsas i).prev fun x => { x with next := (l.lsas i).next }) = some l1 ∧
      (l1.write? (l1.lsas i).next fun x => { x with prev := (l1.lsas i).prev }) = some l2 ∧
      l2.count = l.count ∧ Relinked l l2 none S1 S2 := by
  simp only [mem_append, not_or] at hi
  refine ⟨l.set? S1.getLast? fun x => { x with next := S2.head? },
    (l.set? S1.getLast? fun x => { x with next := S2.head? }).set? S2.head? fun x => { x with prev := S1.getLast? },
    ?_, ?_, rfl, rfl, fun x => ?_⟩
  · rw [hprev, hnext]
    exact write?_eq (live_last hlive)
  · rw [set?_lsas, if_neg (getLast?_ne hi.1), hprev, hnext]
    refine write?_eq fun x hx => ?_
    simp only [set?_field DbLsa.freed, live_head hlive x hx, implies_true]
  · have hnone : (none : Option Nat) ≠ some x := by simp
    simp only [set?_lsas, nextAfter, prevAfter, if_neg hnone, none_or]
    split_ifs <;> rfl

end pointers

section put

variable {l' l0 : Lsdb} {T' : BinTree Nat} {uses' : List Bool → Nat} {S1 S2 : List Nat} {old new : Option Nat}
  {k : LsaKey}

lemma ListInv.put (h : ListInv key l map uses T) (htrie : l'.table.TrieInv T' uses')
    (hinfo : ∀ a ∈ T'.pre, ∀ x, (l'.table.nodes a).info = some x → (l'.table.nodes a).p =
      (key x).bits) (hold : stored l.table T = S1 ++ old.toList ++ S2)
    (hnew : stored l'.table T' = S1 ++ new.toList ++ S2) (hrest : ∀ x ∈ S1 ++ S2, key x ≠ k)
    (holdkey : ∀ x, old = some x → key x = k) (hnewkey : ∀ x, new = some x → key x = k)
    (hsame : ∀ x, (l0.lsas x).key = (l.lsas x).key ∧ (l0.lsas x).next = (l.lsas x).next ∧
      (l0.lsas x).prev = (l.lsas x).prev) (hlinks : Relinked l0 l' new S1 S2)
    (hcount : l'.count = UInt32.ofNat (stored l'.table T').length) :
    ListInv key l' (update map k new) uses' T' := by
  have hlinked := h.linked
  have hnodup := h.nodup
  rw [hold] at hlinked hnodup
  have hfresh : ∀ x, new = some x → x ∉ S1 ++ S2 := fun x hx hmem => hrest x hmem (hnewkey x hx)
  have hput := hlinked.put hnodup hfresh
  refine ⟨htrie, fun x => ?_, hinfo, ?_, fun x => ?_, fun k' x hx => ?_, hcount⟩
  · rw [hlinks.lsa x]
    exact (hsame x).1.trans (h.keys x)
  · have hnext0 : (fun x => (l0.lsas x).next) = fun x => (l.lsas x).next := funext fun x => (hsame x).2.1
    have hprev0 : (fun x => (l0.lsas x).prev) = fun x => (l.lsas x).prev := funext fun x => (hsame x).2.2
    rw [hnew]
    refine hput.congr (fun x _ => ?_) fun x _ => ?_
    · rw [hlinks.lsa x, hnext0]
    · rw [hlinks.lsa x, hprev0]
  · have hmem := h.mem x
    rw [hold] at hmem
    rw [hnew]
    simp only [mem_append, mem_toList] at hmem hrest ⊢
    by_cases hk : key x = k
    · rw [hk, update_self]
      have hnot := fun hx => hrest x hx hk
      tauto
    rw [update_of_ne hk, ← hmem]
    have hold' := fun hx => hk (holdkey x hx)
    have hnew' := fun hx => hk (hnewkey x hx)
    tauto
  · by_cases hk : k' = k
    · rw [hk, update_self] at hx
      rw [hk]
      exact hnewkey x hx
    · rw [update_of_ne hk] at hx
      exact h.mapKey k' x hx

end put

end Lsdb

end OspfMdr.Ospf6
