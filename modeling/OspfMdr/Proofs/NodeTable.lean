import OspfMdr.Model.Lsdb

namespace OspfMdr.Ospf6
open Lib List Function RouteNode

variable {l2 L l1 : List Nat} {step : NodeTable → Nat → Option (NodeTable × Option Nat)}

namespace NodeTable

variable {t : NodeTable} {T : BinTree Nat} {a b : Nat}

lemma modify_nodes (f : RouteNode → RouteNode) (b : Nat) :
    (t.modify a f).nodes b = if b = a then f (t.nodes b) else t.nodes b := by
  by_cases h : b = a
  · subst h
    simp [modify]
  · simp [modify, h]

lemma modify_modify (f g : RouteNode → RouteNode) :
    (t.modify a f).modify a g = t.modify a fun n => g (f n) := by
  simp [modify]

lemma modify_id {f : RouteNode → RouteNode} (hf : f (t.nodes a) = t.nodes a) : t.modify a f = t := by
  unfold modify
  rw [hf, update_eq_self]

section fields

variable {f : RouteNode → RouteNode}

lemma modify_field {β : Type} (get : RouteNode → β) (hf : ∀ n, get (f n) = get n) (b : Nat) :
    get ((t.modify a f).nodes b) = get (t.nodes b) := by
  rw [modify_nodes]
  split_ifs
  · exact hf _
  · rfl

lemma modify_links (hparent : ∀ n, (f n).parent = n.parent) (hleft : ∀ n, (f n).lLeft = n.lLeft)
    (hright : ∀ n, (f n).lRight = n.lRight) : (t.modify a f).links = t.links := by
  unfold links
  congr 1 <;> funext b
  · exact modify_field parent hparent b
  · exact modify_field lLeft hleft b
  · exact modify_field lRight hright b

end fields

lemma lock_info (b : Nat) : ((t.routeLockNode a).nodes b).info = (t.nodes b).info :=
  modify_field info (by simp) b

lemma lock_p (b : Nat) : ((t.routeLockNode a).nodes b).p = (t.nodes b).p :=
  modify_field p (by simp) b

lemma lock_links : (t.routeLockNode a).links = t.links :=
  modify_links (by simp) (by simp) (by simp)

lemma lock_of_ne (h : b ≠ a) : (t.routeLockNode a).nodes b = t.nodes b := by
  rw [routeLockNode, modify_nodes, if_neg h]

lemma lock_comm : (t.routeLockNode a).routeLockNode b = (t.routeLockNode b).routeLockNode a := by
  by_cases h : a = b
  · rw [h]
  · unfold routeLockNode modify
    simp only [update_of_ne h, update_of_ne (Ne.symm h)]
    rw [update_comm h]

/-- A node without locks is an inner one. -/
def Releasable (t : NodeTable) (a : Nat) : Prop :=
  (t.nodes a).lock = 0 →
    (t.nodes a).info = none ∧ (t.nodes a).lLeft.isSome ∧ (t.nodes a).lRight.isSome

lemma unlock_lock (h : t.Releasable a) : (t.routeLockNode a).routeUnlockNode a = some t := by
  have hsame : (t.routeLockNode a).modify a (fun n => { n with lock := n.lock - 1 }) = t := by
    rw [routeLockNode, modify_modify]
    refine modify_id ?_
    rw [UInt32.add_sub_cancel]
  unfold routeUnlockNode
  rw [hsame]
  dsimp only
  split_ifs with hlock
  · obtain ⟨hinfo, hleft, hright⟩ := h hlock
    simp [routeNodeDelete, hlock, hinfo, hleft, hright]
  · rfl

/-- The tree can be walked, and nodes released on the way. -/
structure Walkable (t : NodeTable) (T : BinTree Nat) : Prop where
  linked : T.Linked t.links none
  nodup : T.pre.Nodup
  fresh : ∀ a ∈ T.pre, a < t.fresh
  releasable : ∀ a ∈ T.pre, t.Releasable a

lemma length_le_of_lt {n : Nat} (hnodup : L.Nodup) (hlt : ∀ a ∈ L, a < n) : L.length ≤ n := by
  have hsub : L ⊆ List.range n := fun a ha => mem_range.mpr (hlt a ha)
  simpa using (subperm_of_subset hnodup hsub).length_le

lemma Walkable.length_le (h : t.Walkable T) : T.pre.length ≤ t.fresh := length_le_of_lt h.nodup h.fresh

/-- The steps go through the nodes of the list and hold a lock on the current one. -/
def StepsAlong (t : NodeTable) (step : NodeTable → Nat → Option (NodeTable × Option Nat))
    (L : List Nat) : Prop :=
  ∀ l1 a l2, L = l1 ++ a :: l2 → step (t.routeLockNode a) a = some (t.lockNode? l2.head?, l2.head?)

lemma Walkable.routeNext (h : t.Walkable T) : t.StepsAlong NodeTable.routeNext T.pre := by
  intro l1 a l2 hT
  have hlen := h.length_le
  have hnext : (t.routeLockNode a).links.next ((t.routeLockNode a).fresh + 1) a = some l2.head? := by
    rw [lock_links]
    exact h.linked.next_eq h.nodup hT (Nat.lt_succ_of_le hlen)
  have ha : a ∈ T.pre := by simp [hT]
  unfold NodeTable.routeNext
  rw [hnext]
  cases hhead : l2.head? with
  | none => simp [lockNode?, unlock_lock (h.releasable a ha)]
  | some b =>
    have hne : a ≠ b := by
      rintro rfl
      have hnodup := h.nodup
      rw [hT] at hnodup
      exact (nodup_cons.mp (nodup_append.mp hnodup).2.1).1 (mem_of_head? hhead)
    have hrel : (t.routeLockNode b).Releasable a := by
      unfold Releasable
      rw [lock_of_ne hne]
      exact h.releasable a ha
    simp [lockNode?, lock_comm (a := a), unlock_lock hrel]

lemma Walkable.prevLoop_eq (h : t.Walkable T) {m2 : List Nat} {stop : Nat} (m1 : List Nat) (x : Nat)
    (prev : Option Nat) (fuel : Nat) (hT : T.pre = m1 ++ x :: (m2 ++ stop :: l2))
    (hfuel : m2.length < fuel) :
    prevLoop stop fuel (t.routeLockNode x) prev (some x) = some (t, (x :: m2).getLast?) := by
  induction m2 generalizing m1 x prev fuel with
  | nil =>
    obtain ⟨fuel, rfl⟩ : ∃ n, fuel = n + 1 := ⟨fuel - 1, by omega⟩
    have hstop : stop ∈ T.pre := by simp [hT]
    simp [prevLoop, h.routeNext m1 x _ hT, lockNode?, unlock_lock (h.releasable stop hstop)]
  | cons y m2 ih =>
    obtain ⟨fuel, rfl⟩ : ∃ n, fuel = n + 1 := ⟨fuel - 1, by omega⟩
    have hne : y ≠ stop := by
      rintro rfl
      have hnodup := h.nodup
      rw [hT] at hnodup
      have hrest := (nodup_cons.mp (nodup_append.mp hnodup).2.1).2
      exact (nodup_cons.mp hrest).1 (by simp)
    have hrec := ih (m1 ++ [x]) y (some x) fuel (by simp [hT]) (by simpa using hfuel)
    simp only [prevLoop, h.routeNext m1 x _ hT]
    simp [lockNode?, hne, hrec, List.getLast?_cons_cons]

/-- No lock count overflows with one more lock. -/
def Lockable (t : NodeTable) (T : BinTree Nat) : Prop := ∀ a ∈ T.pre, (t.nodes a).lock + 1 ≠ 0

lemma Walkable.lock (h : t.Walkable T) (hlock : t.Lockable T) (ha : a ∈ T.pre) :
    (t.routeLockNode a).Walkable T := by
  refine ⟨by rw [lock_links]; exact h.linked, h.nodup, h.fresh, fun b hb => ?_⟩
  by_cases hba : b = a
  · subst hba
    intro hzero
    rw [routeLockNode, modify_nodes, if_pos rfl] at hzero
    exact absurd hzero (hlock b hb)
  · unfold Releasable
    rw [lock_of_ne hba]
    exact h.releasable b hb

lemma Walkable.routePrev (h : t.Walkable T) (hlock : t.Lockable T) :
    t.StepsAlong NodeTable.routePrev T.pre.reverse := by
  intro l2 a l1 hrev
  have hT : T.pre = l1.reverse ++ a :: l2.reverse := by
    have := congrArg List.reverse hrev
    simpa using this
  have ha : a ∈ T.pre := by simp [hT]
  have hparent : ((t.routeLockNode a).nodes a).parent = t.links.parent a :=
    modify_field parent (by simp) a
  unfold NodeTable.routePrev
  rw [hparent]
  rcases h.linked.parent_before hT with ⟨hnil, hp⟩ | ⟨q, hq, hp⟩
  · obtain rfl : l1 = [] := by simpa using hnil
    simp [hp, lockNode?, prevLoop, unlock_lock (h.releasable a ha)]
  obtain ⟨m1, m2, hm⟩ := append_of_mem hq
  have hfuel : m2.length < t.fresh + 1 := by
    have hlen := h.length_le
    rw [hT, hm] at hlen
    simp only [length_append, length_cons] at hlen
    omega
  have hT' : T.pre = m1 ++ q :: (m2 ++ a :: l2.reverse) := by rw [hT, hm, append_assoc, cons_append]
  have hloop := (h.lock hlock ha).prevLoop_eq m1 q none (t.fresh + 1) hT' hfuel
  have hlast : (q :: m2).getLast? = l1.head? := by
    have hhead : l1.head? = l1.reverse.getLast? := by simp
    rw [hhead, hm, List.getLast?_append, List.getLast?_cons, Option.some_or]
  rw [hlast] at hloop
  rw [hp]
  change (prevLoop a (t.fresh + 1) ((t.routeLockNode a).routeLockNode q) none (some q)).bind _ = _
  rw [hloop]
  simp [unlock_lock (h.releasable a ha)]

lemma findSome?_of_find? {α β : Type} {f : α → Option β} {l : List α} {b : α}
    (h : l.find? (fun a => (f a).isSome) = some b) : l.findSome? f = f b := by
  obtain ⟨hb, l1, l2, rfl, hnone⟩ := find?_eq_some_iff_append.mp h
  obtain ⟨c, hc⟩ := Option.isSome_iff_exists.mp hb
  rw [findSome?_append, findSome?_eq_none_iff.mpr fun x hx => by simpa using hnone x hx, findSome?_cons, hc]
  rfl

lemma StepsAlong.skipEmpty_eq (h : t.StepsAlong step L) (hL : L = l1 ++ a :: l2) {fuel : Nat}
    (hfuel : l2.length < fuel) :
    Lsdb.skipEmpty step fuel (t.routeLockNode a) a =
      some (t.lockNode? (l2.find? fun b => (t.nodes b).info.isSome),
        l2.find? fun b => (t.nodes b).info.isSome) := by
  induction l2 generalizing l1 a fuel with
  | nil =>
    obtain ⟨fuel, rfl⟩ : ∃ n, fuel = n + 1 := ⟨fuel - 1, by omega⟩
    simp [Lsdb.skipEmpty, h l1 a [] hL]
  | cons b l2 ih =>
    obtain ⟨fuel, rfl⟩ : ∃ n, fuel = n + 1 := ⟨fuel - 1, by omega⟩
    have hrec := ih (hL.trans (append_cons l1 a (b :: l2))) (by simpa using hfuel)
    simp only [Lsdb.skipEmpty, h l1 a _ hL, List.head?_cons]
    change (if ((t.routeLockNode b).nodes b).info.isSome = true then _ else _) = _
    rw [lock_info, List.find?_cons]
    cases hinfo : (t.nodes b).info.isSome with
    | true => rfl
    | false => exact hrec

lemma StepsAlong.neighborLsa_eq (h : t.StepsAlong step L) (hrel : ∀ b ∈ L, t.Releasable b)
    (hlen : L.length ≤ t.fresh) (hL : L = l1 ++ a :: l2) :
    Lsdb.neighborLsa step t a = some (t, (l2.filterMap fun b => (t.nodes b).info).head?) := by
  have hfuel : l2.length < t.fresh + 1 := by
    rw [hL] at hlen
    simp only [length_append, length_cons] at hlen
    omega
  unfold Lsdb.neighborLsa
  rw [h.skipEmpty_eq hL hfuel]
  cases hfind : l2.find? fun b => (t.nodes b).info.isSome with
  | none =>
    have hnone : l2.filterMap (fun b => (t.nodes b).info) = [] := by
      rw [filterMap_eq_nil_iff]
      intro b hb
      simpa using List.find?_eq_none.mp hfind b hb
    simp [lockNode?, hnone]
  | some b =>
    have hb := mem_of_find?_eq_some hfind
    have hhead : (l2.filterMap fun b => (t.nodes b).info).head? = (t.nodes b).info := by
      rw [List.head?_filterMap]
      exact findSome?_of_find? hfind
    have hmem : b ∈ L := by
      rw [hL]
      simp [hb]
    simp [lockNode?, lock_info, unlock_lock (hrel b hmem), hhead]

section links

variable {m : Option Nat}

lemma alloc_nodes (p : List Bool) (x : Nat) :
    (t.alloc p).nodes x = if x = t.fresh then routeNodeNew p else t.nodes x := by
  by_cases hx : x = t.fresh
  · subst hx
    simp [alloc]
  · simp [alloc, hx]

lemma setLink_nodes (hab : a ≠ b) (x : Nat) :
    (t.setLink a b).nodes x =
      { t.nodes x with
        parent := if x = b then some a else (t.nodes x).parent
        lLeft := if x = a ∧ bitAt (t.nodes b).p (t.nodes a).p.length = false then some b
          else (t.nodes x).lLeft
        lRight := if x = a ∧ bitAt (t.nodes b).p (t.nodes a).p.length = true then some b
          else (t.nodes x).lRight } := by
  unfold setLink putLink
  rw [modify_nodes, modify_nodes]
  by_cases hxa : x = a
  · subst hxa
    cases hbit : bitAt (t.nodes b).p (t.nodes x).p.length <;> simp [hab]
  by_cases hxb : x = b
  · subst hxb
    simp [hxa]
  · simp [hxa, hxb]

lemma linkBelow_fresh : (t.linkBelow m a).fresh = t.fresh := by
  cases m <;> rfl

lemma linkBelow_nodes (hm : m ≠ some a) (x : Nat) :
    (t.linkBelow m a).nodes x =
      { t.nodes x with
        parent := if x = a then m.or (t.nodes x).parent else (t.nodes x).parent
        lLeft := if m = some x ∧ bitAt (t.nodes a).p (t.nodes x).p.length = false then some a
          else (t.nodes x).lLeft
        lRight := if m = some x ∧ bitAt (t.nodes a).p (t.nodes x).p.length = true then some a
          else (t.nodes x).lRight } := by
  cases m with
  | none =>
    simp [linkBelow]
  | some q =>
    have hq : q ≠ a := fun he => hm (by rw [he])
    rw [linkBelow, setLink_nodes hq]
    by_cases hxq : x = q
    · subst hxq
      simp
    · have hqx : q ≠ x := Ne.symm hxq
      simp [hxq, hqx]

end links

end NodeTable

end OspfMdr.Ospf6
