import OspfMdr.Proofs.NodeTree

/-!
# The locks of a table

A node is locked once for each of the pointers to it that were not released. A node without such a
pointer has no info and joins two others.
-/

namespace OspfMdr.Ospf6
open Lib List

namespace NodeTable

variable {t t' : NodeTable} {T T' : BinTree Nat} {C : List (Frame Nat)} {held E : List Nat} {a b n : Nat}
  {key q : List Bool} {E' : List Nat} {fuel : Nat}

/-- `held` are the pointers that were not released; the nodes of `E` may have fewer than two
children for now. -/
structure Held (t : NodeTable) (T : BinTree Nat) (held E : List Nat) : Prop where
  shaped : t.Shaped T
  lock : ∀ a ∈ T.pre, (t.nodes a).lock.toNat = held.count a
  glue : ∀ a ∈ T.pre, a ∉ held → (t.nodes a).info = none ∧
    (a ∉ E → (t.nodes a).lLeft.isSome ∧ (t.nodes a).lRight.isSome)
  mem : ∀ a ∈ held, a ∈ T.pre

lemma Held.shrink (h : t.Held T held E)
    (hE : ∀ a ∈ T.pre, a ∈ E → a ∉ E' → a ∉ held → (t.nodes a).lLeft.isSome ∧
      (t.nodes a).lRight.isSome) : t.Held T held E' := by
  refine ⟨h.shaped, h.lock, fun a ha hheld => ⟨(h.glue a ha hheld).1, fun ha' => ?_⟩, h.mem⟩
  by_cases haE : a ∈ E
  · exact hE a ha haE ha' hheld
  · exact (h.glue a ha hheld).2 haE

lemma Held.lock_eq_zero (h : t.Held T held E) (ha : a ∈ T.pre) : (t.nodes a).lock = 0 ↔ a ∉ held := by
  rw [← count_eq_zero, ← h.lock a ha, ← UInt32.toNat_inj]
  rfl

lemma Held.walkable (h : t.Held T held []) : t.Walkable T := by
  refine ⟨h.shaped.linked, h.shaped.nodup, h.shaped.fresh, fun a ha hlock => ?_⟩
  obtain ⟨hinfo, hchildren⟩ := h.glue a ha ((h.lock_eq_zero ha).mp hlock)
  exact ⟨hinfo, hchildren not_mem_nil⟩

lemma Shaped.modify (h : t.Shaped T) {f : RouteNode → RouteNode}
    (hf : ∀ n, (f n).p = n.p ∧ (f n).parent = n.parent ∧ (f n).lLeft = n.lLeft ∧ (f n).lRight = n.lRight) :
    (t.modify a f).Shaped T := by
  obtain ⟨hp, hparent, hleft, hright⟩ : _ ∧ _ ∧ _ ∧ _ := by simpa only [forall_and] using hf
  refine ⟨h.top, ?_, h.nodup, h.fresh, h.prefixed.congr fun b _ => modify_field RouteNode.p hp b⟩
  rw [modify_links hparent hleft hright]
  exact h.linked

lemma Held.routeLockNode (h : t.Held T held E) (ha : a ∈ T.pre) (hbound : held.count a + 1 < 2 ^ 32) :
    (t.routeLockNode a).Held T (a :: held) E := by
  refine ⟨h.shaped.modify fun _ => ⟨rfl, rfl, rfl, rfl⟩, fun b hb => ?_,
    fun b hb hheld => ?_, fun b hb => ?_⟩
  · rw [NodeTable.routeLockNode, modify_nodes, count_cons]
    by_cases hba : b = a
    · subst hba
      have hlock := h.lock b hb
      simp only [if_true, beq_self_eq_true]
      rw [UInt32.toNat_add, hlock]
      exact Nat.mod_eq_of_lt (by simpa using hbound)
    · simp [hba, Ne.symm hba, h.lock b hb]
  · obtain ⟨hba, hheld⟩ : b ≠ a ∧ b ∉ held := by simpa [not_or] using hheld
    rw [lock_of_ne hba]
    exact h.glue b hb hheld
  · rcases mem_cons.mp hb with rfl | hb
    · exact ha
    · exact h.mem b hb

lemma Held.setInfo (h : t.Held T held []) (ha : a ∈ held) (info : Option Nat) :
    (t.modify a fun n => { n with info := info }).Held T held [] := by
  refine ⟨h.shaped.modify fun _ => ⟨rfl, rfl, rfl, rfl⟩, fun b hb => ?_,
    fun b hb hheld => ?_, h.mem⟩
  · rw [modify_field RouteNode.lock (by simp), h.lock b hb]
  · rw [modify_nodes, if_neg fun he : b = a => hheld (he ▸ ha)]
    exact h.glue b hb hheld

section delete

variable {l r : BinTree Nat}

lemma pre_restTree (hchild : l = .nil ∨ r = .nil) : (restTree l r).pre = l.pre ++ r.pre := by
  rcases hchild with rfl | rfl
  · rfl
  · cases l <;> simp [restTree, BinTree.pre]

lemma Held.unlinked (h : t.Held (plug C (.node a l r)) held [a]) (ha : a ∉ held)
    (hchild : l = .nil ∨ r = .nil) :
    (t.unlinked a).Held (plug C (restTree l r)) held (above none C).toList := by
  have hparent : (t.nodes a).parent = above none C := (linked_plug.mp h.shaped.linked).1.1
  have hperm : (plug C (.node a l r)).pre.Perm (a :: (plug C (restTree l r)).pre) := by
    refine pre_plug.trans (List.Perm.cons a ?_)
    rw [← pre_restTree hchild]
    exact pre_plug.symm
  have hnot : a ∉ (plug C (restTree l r)).pre :=
    (nodup_cons.mp (hperm.nodup_iff.mp h.shaped.nodup)).1
  have hmem : ∀ x ∈ (plug C (restTree l r)).pre, x ∈ (plug C (.node a l r)).pre :=
    fun x hx => hperm.mem_iff.mpr (mem_cons_of_mem _ hx)
  refine ⟨h.shaped.unlinked, fun x hx => ?_, fun x hx hheld => ?_, fun x hx => ?_⟩
  · rw [unlinked_nodes]
    exact h.lock x (hmem x hx)
  · obtain ⟨hinfo, hchildren⟩ := h.glue x (hmem x hx) hheld
    rw [unlinked_nodes, hparent]
    refine ⟨hinfo, fun hxC => ?_⟩
    have hne : above none C ≠ some x := fun he => hxC (by rw [he]; exact mem_singleton_self _)
    obtain ⟨hl, hr⟩ := hchildren fun hxa => hnot (mem_singleton.mp hxa ▸ hx)
    dsimp only
    rw [if_neg fun hc => hne hc.1, if_neg fun hc => hne hc.1]
    exact ⟨hl, hr⟩
  · refine (mem_cons.mp (hperm.mem_iff.mp (h.mem x hx))).resolve_left ?_
    rintro rfl
    exact ha hx

/-- Nodes have been removed, and the others still say what they did. -/
structure Pruned (t t' : NodeTable) (T T' : BinTree Nat) : Prop where
  sub : ∀ x ∈ T'.pre, x ∈ T.pre
  p : ∀ x, (t'.nodes x).p = (t.nodes x).p
  info : ∀ x, (t'.nodes x).info = (t.nodes x).info

/-- A node without a pointer to it goes, and then its parent if that joins no two nodes any more. -/
lemma Held.routeNodeDelete (h : t.Held T held [a]) (ha : a ∈ T.pre) (hheld : a ∉ held)
    (hfuel : T.pre.length ≤ fuel) :
    ∃ t' T', NodeTable.routeNodeDelete fuel t a = some t' ∧ t'.Held T' held [] ∧ Pruned t t' T T' := by
  induction fuel generalizing t T a with
  | zero =>
    have hpos := length_pos_of_mem ha
    omega
  | succ fuel ih =>
    have hlock : (t.nodes a).lock = 0 := (h.lock_eq_zero ha).mpr hheld
    have hinfo := (h.glue a ha hheld).1
    by_cases hchildren : (t.nodes a).lLeft.isSome ∧ (t.nodes a).lRight.isSome
    · refine ⟨t, T, ?_, h.shrink fun x _ hx _ _ => ?_, fun x hx => hx, fun _ => rfl, fun _ => rfl⟩
      · simp [NodeTable.routeNodeDelete, hlock, hinfo, hchildren]
      · rwa [mem_singleton.mp hx]
    obtain ⟨C, l, r, rfl⟩ := exists_place ha
    obtain ⟨⟨hparent, hl, hr, -, -⟩, -⟩ := linked_plug.mp h.shaped.linked
    replace hparent : (t.nodes a).parent = above none C := hparent
    have hchild : l = .nil ∨ r = .nil := by
      change (t.nodes a).lLeft = l.root at hl
      change (t.nodes a).lRight = r.root at hr
      rw [hl, hr] at hchildren
      cases l with
      | nil => exact .inl rfl
      | node b l1 l2 =>
        cases r with
        | nil => exact .inr rfl
        | node c r1 r2 => exact absurd ⟨rfl, rfl⟩ hchildren
    have hnew := h.unlinked hheld hchild
    have hpruned : Pruned t (t.unlinked a) (plug C (.node a l r)) (plug C (restTree l r)) := by
      refine ⟨fun x hx => ?_, fun x => by rw [unlinked_nodes], fun x => by rw [unlinked_nodes]⟩
      rw [mem_plug, pre_restTree hchild] at hx
      exact mem_plug.mpr (hx.imp_left (mem_cons_of_mem _))
    rw [routeNodeDelete_succ fuel hlock hinfo hchildren, hparent]
    cases C with
    | nil => exact ⟨_, _, rfl, hnew, hpruned⟩
    | cons f C =>
      have hf : f.node ∈ (plug (f :: C) (restTree l r)).pre := mem_plug.mpr (.inr mem_cons_self)
      dsimp only [above]
      split_ifs with hzero
      · have hlen : (plug (f :: C) (restTree l r)).pre.length ≤ fuel := by
          have h1 := (pre_plug (C := f :: C) (N := restTree l r)).length_eq
          have h2 := (pre_plug (C := f :: C) (N := .node a l r)).length_eq
          rw [length_append, pre_restTree hchild] at h1
          rw [length_append, BinTree.pre, length_cons] at h2
          omega
        obtain ⟨t', T', hdel, hheld', hpruned'⟩ := ih hnew hf ((hnew.lock_eq_zero hf).mp hzero) hlen
        exact ⟨t', T', hdel, hheld', fun x hx => hpruned.sub x (hpruned'.sub x hx),
          fun x => (hpruned'.p x).trans (hpruned.p x), fun x => (hpruned'.info x).trans (hpruned.info x)⟩
      · refine ⟨_, _, rfl, hnew.shrink fun x _ hx _ hx' => absurd ?_ hx', hpruned⟩
        obtain rfl : x = f.node := by simpa [above] using hx
        by_contra hnot
        exact hzero ((hnew.lock_eq_zero hf).mpr hnot)

end delete

lemma Held.routeUnlockNode (h : t.Held T held []) {i : Nat} (hi : held[i]? = some a)
    (hlast : held.count a = 1 → (t.nodes a).info = none) :
    ∃ t' T', t.routeUnlockNode a = some t' ∧ t'.Held T' (held.eraseIdx i) [] ∧ Pruned t t' T T' := by
  obtain ⟨hlt, hget⟩ := List.getElem?_eq_some_iff.mp hi
  have hperm : (a :: held.eraseIdx i).Perm held := hget ▸ getElem_cons_eraseIdx_perm hlt
  have hcount : ∀ x, held.count x = (held.eraseIdx i).count x + if a = x then 1 else 0 := by
    intro x
    rw [← hperm.count_eq, count_cons]
    simp
  have ha : a ∈ T.pre := h.mem a (mem_of_getElem? hi)
  have hlocka : (t.nodes a).lock.toNat = (held.eraseIdx i).count a + 1 := by
    rw [h.lock a ha, hcount, if_pos rfl]
  have hheld : (t.modify a fun n => { n with lock := n.lock - 1 }).Held T (held.eraseIdx i) [a] := by
    refine ⟨h.shaped.modify fun _ => ⟨rfl, rfl, rfl, rfl⟩, fun b hb => ?_,
      fun b hb hb' => ?_, fun b hb => ?_⟩
    · rw [modify_nodes]
      by_cases hba : b = a
      · subst hba
        rw [if_pos rfl]
        have hle : (1 : UInt32) ≤ (t.nodes b).lock := by
          rw [UInt32.le_iff_toNat_le, hlocka]
          simp
        rw [UInt32.toNat_sub_of_le _ _ hle, hlocka]
        simp
      · rw [if_neg hba, h.lock b hb, hcount, if_neg (Ne.symm hba), add_zero]
    · rw [modify_nodes]
      by_cases hba : b = a
      · subst hba
        rw [if_pos rfl]
        refine ⟨hlast ?_, fun hne => absurd mem_cons_self hne⟩
        rw [hcount, count_eq_zero.mpr hb', if_pos rfl]
      rw [if_neg hba]
      have hnot : b ∉ held := by
        intro hmem
        exact (mem_cons.mp (hperm.mem_iff.mpr hmem)).elim hba hb'
      exact ⟨(h.glue b hb hnot).1, fun _ => (h.glue b hb hnot).2 not_mem_nil⟩
    · exact h.mem b (hperm.mem_iff.mp (mem_cons_of_mem _ hb))
  have hp := modify_field (t := t) (a := a) (f := fun n => { n with lock := n.lock - 1 }) RouteNode.p fun _ => rfl
  have hinfo := modify_field (t := t) (a := a) (f := fun n => { n with lock := n.lock - 1 }) RouteNode.info fun _ => rfl
  unfold NodeTable.routeUnlockNode
  dsimp only
  split_ifs with hzero
  · obtain ⟨t', T', hdel, hheld', hpruned⟩ := hheld.routeNodeDelete ha ((hheld.lock_eq_zero ha).mp hzero)
      (Nat.le_succ_of_le hheld.shaped.length_le)
    exact ⟨t', T', hdel, hheld', hpruned.sub, fun x => (hpruned.p x).trans (hp x),
      fun x => (hpruned.info x).trans (hinfo x)⟩
  refine ⟨_, T, rfl, hheld.shrink fun x _ hx _ hx' => absurd ?_ hx', fun x hx => hx, hp, hinfo⟩
  rw [mem_singleton.mp hx]
  by_contra hnot
  exact hzero ((hheld.lock_eq_zero ha).mpr hnot)

section get

variable {l r : BinTree Nat}

/-- The node says what it did, and has no fewer children. -/
structure Keeps (n n' : RouteNode) : Prop where
  p : n'.p = n.p
  lock : n'.lock = n.lock
  info : n'.info = n.info
  left : n.lLeft.isSome → n'.lLeft.isSome
  right : n.lRight.isSome → n'.lRight.isSome

/-- Nodes have been added, all of them in `E`. -/
structure Extended (t t' : NodeTable) (T T' : BinTree Nat) (E : List Nat) : Prop where
  old : ∀ x ∈ T.pre, x ∈ T'.pre ∧ Keeps (t.nodes x) (t'.nodes x)
  new : ∀ x ∈ T'.pre, x ∈ T.pre ∨ x ∈ E ∧ t.fresh ≤ x ∧ (t'.nodes x).lock = 0 ∧ (t'.nodes x).info = none

lemma Held.extend (h : t.Held T held E) (hshaped : t'.Shaped T')
    (hext : Extended t t' T T' E') (hE : ∀ x ∈ E, x ∈ E') : t'.Held T' held E' := by
  refine ⟨hshaped, fun x hx => ?_, fun x hx hheld => ?_, fun x hx => (hext.old x (h.mem x hx)).1⟩
  · rcases hext.new x hx with hold | ⟨-, hfresh, hlock, -⟩
    · rw [(hext.old x hold).2.lock, h.lock x hold]
    · have hnot : x ∉ held := fun hmem => absurd (h.shaped.fresh x (h.mem x hmem)) (not_lt.mpr hfresh)
      rw [hlock, count_eq_zero.mpr hnot]
      rfl
  · rcases hext.new x hx with hold | ⟨hxE, -, -, hinfo⟩
    · obtain ⟨hinfo, hchildren⟩ := h.glue x hold hheld
      have hkeep := (hext.old x hold).2
      refine ⟨hkeep.info.trans hinfo, fun hxE => ?_⟩
      obtain ⟨hl, hr⟩ := hchildren fun hx' => hxE (hE x hx')
      exact ⟨hkeep.left hl, hkeep.right hr⟩
    · exact ⟨hinfo, fun hx' => absurd hxE hx'⟩

lemma keeps_linkBelow {m : Option Nat} {n : RouteNode} {x : Nat} (hm : m ≠ some a)
    (hx : Keeps n (t.nodes x)) : Keeps n ((t.linkBelow m a).nodes x) := by
  rw [linkBelow_nodes hm]
  refine ⟨hx.p, hx.lock, hx.info, fun hleft => ?_, fun hright => ?_⟩
  · dsimp only
    split_ifs
    · rfl
    · exact hx.left hleft
  · dsimp only
    split_ifs
    · rfl
    · exact hx.right hright

lemma Shaped.above_ne_fresh {N : BinTree Nat} (h : t.Shaped (plug C N)) : above none C ≠ some t.fresh :=
  fun he => h.fresh_not_mem (mem_plug.mpr (.inr (above_mem he)))

/-- A node for the key has been added, and perhaps an inner one. -/
structure Put (t t' : NodeTable) (T T' : BinTree Nat) (held E : List Nat) (key : List Bool) : Prop where
  held : t'.Held T' held (t.fresh :: E)
  ext : Extended t t' T T' (t.fresh :: E)
  key : (t'.nodes t.fresh).p = key

lemma Held.put (h : t.Held T held E) (hshaped : t'.Shaped T')
    (hmem : ∀ x, x ∈ T'.pre ↔ x ∈ T.pre ∨ x = t.fresh)
    (hold : ∀ x ∈ T.pre, Keeps (t.nodes x) (t'.nodes x)) (hnew : (t'.nodes t.fresh).p = key ∧
      (t'.nodes t.fresh).lock = 0 ∧ (t'.nodes t.fresh).info = none) : Put t t' T T' held E key := by
  have hext : Extended t t' T T' (t.fresh :: E) := by
    refine ⟨fun x hx => ⟨(hmem x).mpr (.inl hx), hold x hx⟩, fun x hx => ((hmem x).mp hx).imp_right ?_⟩
    rintro rfl
    exact ⟨mem_cons_self, le_refl _, hnew.2⟩
  exact ⟨h.extend hshaped hext fun x hx => mem_cons_of_mem _ hx, hext, hnew.1⟩

lemma Held.putLeaf (h : t.Held (plug C .nil) held E) (hbelow : Below (fun x => (t.nodes x).p) C key) :
    Put t ((t.alloc key).linkBelow (above none C) t.fresh) (plug C .nil)
      (plug C (.node t.fresh .nil .nil)) held E key := by
  have hm := h.shaped.above_ne_fresh
  refine h.put (h.shaped.putLeaf hbelow) (fun x => ?_) (fun x hx => keeps_linkBelow hm ?_) ?_
  · rw [mem_plug, mem_plug]
    simp [BinTree.pre, or_comm]
  · rw [alloc_nodes, if_neg (h.shaped.fresh x hx).ne]
    exact ⟨rfl, rfl, rfl, id, id⟩
  · rw [linkBelow_nodes hm, alloc_nodes, if_pos rfl]
    exact ⟨rfl, rfl, rfl⟩

lemma Held.putAbove (h : t.Held (plug C (.node n l r)) held E)
    (hbelow : Below (fun x => (t.nodes x).p) C q) {side : Bool} (hq : q ++ [side] <+: (t.nodes n).p) :
    Put t (((t.alloc q).setLink t.fresh n).linkBelow (above none C) t.fresh) (plug C (.node n l r))
      (plug C ((⟨t.fresh, side, .nil⟩ : Frame Nat).fill (.node n l r))) held E q := by
  have hm := h.shaped.above_ne_fresh
  have hn : n ≠ t.fresh := (h.shaped.fresh n (mem_plug.mpr (.inl mem_cons_self))).ne
  refine h.put (h.shaped.putAbove hbelow hq) (fun x => ?_) (fun x hx => keeps_linkBelow hm ?_) ?_
  · have hleaf : x ∈ (t.fresh :: BinTree.nil.pre) ↔ x = t.fresh := mem_singleton
    rw [mem_plug, mem_plug, Frame.pre_fill.mem_iff, mem_append, hleaf]
    tauto
  · rw [setLink_alloc_other hn (h.shaped.fresh x hx).ne]
    exact ⟨rfl, rfl, rfl, id, id⟩
  · rw [linkBelow_nodes hm, setLink_alloc_node hn hq]
    exact ⟨rfl, rfl, rfl⟩

/-- The node of the key is in the tree, which keeps its nodes and gets none with data. -/
structure Got (t t' : NodeTable) (T T' : BinTree Nat) (key : List Bool) (c : Nat) : Prop where
  mem : c ∈ T'.pre
  key : (t'.nodes c).p = key
  old : ∀ x ∈ T.pre, x ∈ T'.pre ∧ (t'.nodes x).p = (t.nodes x).p ∧ (t'.nodes x).info = (t.nodes x).info
  new : ∀ x ∈ T'.pre, x ∉ T.pre → (t'.nodes x).info = none

lemma Extended.got (h : Extended t t' T T' E) (hc : a ∈ T'.pre) (hkey : (t'.nodes a).p = key) :
    Got t (t'.routeLockNode a) T T' key a := by
  refine ⟨hc, (lock_p a).trans hkey, fun x hx => ⟨(h.old x hx).1, ?_, ?_⟩, fun x hx hnot => ?_⟩
  · rw [lock_p, (h.old x hx).2.p]
  · rw [lock_info, (h.old x hx).2.info]
  · rw [lock_info]
    exact ((h.new x hx).resolve_left hnot).2.2.2

lemma Extended.of_new (h : Extended t t' T T' E) {x : Nat} (hx : x ∈ T'.pre) (hold : x ∉ T.pre) :
    x ∈ E :=
  ((h.new x hx).resolve_left hold).1

lemma Extended.refl : Extended t t T T E :=
  ⟨fun _ hx => ⟨hx, rfl, rfl, rfl, id, id⟩, fun _ hx => .inl hx⟩

lemma Extended.trans {t'' : NodeTable} {T'' : BinTree Nat} (h : Extended t t' T T' E)
    (h' : Extended t' t'' T' T'' E') (hfresh : t.fresh ≤ t'.fresh) (hE : ∀ x ∈ E, x ∈ E') :
    Extended t t'' T T'' E' := by
  refine ⟨fun x hx => ?_, fun x hx => ?_⟩
  · obtain ⟨hx', h1⟩ := h.old x hx
    obtain ⟨hx'', h2⟩ := h'.old x hx'
    exact ⟨hx'', h2.p.trans h1.p, h2.lock.trans h1.lock, h2.info.trans h1.info, fun hl => h2.left (h1.left hl),
      fun hr => h2.right (h1.right hr)⟩
  · rcases h'.new x hx with hx' | ⟨hxE, hge, hnew⟩
    · rcases h.new x hx' with hold | ⟨hxE, hge, hlock, hinfo⟩
      · exact .inl hold
      · have hkeep := (h'.old x hx').2
        exact .inr ⟨hE x hxE, hge, hkeep.lock.trans hlock, hkeep.info.trans hinfo⟩
    · exact .inr ⟨hxE, hfresh.trans hge, hnew⟩

lemma Held.finish (h : t.Held T held E) (ha : a ∈ T.pre) (hbound : held.count a + 1 < 2 ^ 32)
    (hE : ∀ x ∈ T.pre, x ∈ E → x ≠ a → (t.nodes x).lLeft.isSome ∧ (t.nodes x).lRight.isSome =
      true) : (t.routeLockNode a).Held T (a :: held) [] := by
  refine (h.routeLockNode ha hbound).shrink fun x hx hxE _ hheld => ?_
  have hxa : x ≠ a := fun he => hheld (he ▸ mem_cons_self)
  rw [lock_of_ne hxa]
  exact hE x hx hxE hxa

lemma Held.count_fresh (h : t.Held T held E) (ha : t.fresh ≤ a) : held.count a + 1 < 2 ^ 32 := by
  have hnot : a ∉ held := fun hmem => absurd (h.shaped.fresh a (h.mem a hmem)) (not_lt.mpr ha)
  rw [count_eq_zero.mpr hnot]
  decide

lemma Held.put_finish (h : t.Held T held []) (hput : Put t t' T T' held [] key) (hmem : t.fresh ∈ T'.pre) :
    (t'.routeLockNode t.fresh).Held T' (t.fresh :: held) [] ∧
      Got t (t'.routeLockNode t.fresh) T T' key t.fresh ∧ ∀ x ∈ T'.pre, x ∉ T.pre → x = t.fresh := by
  refine ⟨hput.held.finish hmem (h.count_fresh le_rfl) fun x _ hx hne => ?_, hput.ext.got hmem hput.key,
    fun x hx hold => mem_singleton.mp (hput.ext.of_new hx hold)⟩
  exact absurd (mem_singleton.mp hx) hne

/-- Besides the node that was asked for there is at most a new one with a shorter string. -/
lemma Held.routeNodeGet (h : t.Held T held []) (key : List Bool)
    (hbound : ∀ x ∈ T.pre, (t.nodes x).p = key → held.count x + 1 < 2 ^ 32) :
    ∃ t' T' c, t.routeNodeGet key = some (t', c) ∧ t'.Held T' (c :: held) [] ∧ Got t t' T T' key c ∧
      ∀ x ∈ T'.pre, x ∉ T.pre → x ≠ c → (t'.nodes x).p.length < key.length := by
  unfold NodeTable.routeNodeGet
  rw [h.shaped.walk_eq, Option.map_some]
  obtain ⟨C, N, rfl, hC, hd, hN⟩ := exists_landing (fun a => (t.nodes a).p) key none T
  have hbelow : Below (fun a => (t.nodes a).p) C key := fun f hf => hC f (mem_of_mem_head? hf)
  rw [hd]
  cases N with
  | nil =>
    obtain ⟨hheld, hgot, hnew⟩ := h.put_finish (h.putLeaf hbelow) (mem_plug.mpr (.inl mem_cons_self))
    exact ⟨_, _, t.fresh, rfl, hheld, hgot, fun x hx hold hne => absurd (hnew x hx hold) hne⟩
  | node n l r =>
    have hmem : n ∈ (plug C (.node n l r)).pre := mem_plug.mpr (.inl mem_cons_self)
    by_cases hkey : (t.nodes n).p = key
    · rw [landing_found (p := fun a => (t.nodes a).p) hkey]
      exact ⟨_, _, n, rfl, h.finish hmem (hbound n hmem hkey) (by simp), (Extended.refl (E := [])).got hmem hkey,
        fun x hx hold _ => absurd hx hold⟩
    have hnot : ¬(t.nodes n).p <+: key := fun hpre => hkey (hN n rfl hpre)
    have hbelow' : Below (fun a => (t.nodes a).p) C (commonPrefix (t.nodes n).p key) := fun f hf =>
      isPrefix_commonPrefix ((prefixed_plug.mp h.shaped.prefixed).2.2 n mem_cons_self f hf) (hbelow f hf)
    rw [landing_stopped (p := fun a => (t.nodes a).p) hkey]
    dsimp only
    by_cases hpre : key <+: (t.nodes n).p
    · -- the key is that of the node above
      have hcommon : commonPrefix (t.nodes n).p key = key :=
        commonPrefix_eq hpre (prefix_refl _) (.inl rfl)
      have hlt : key.length < (t.nodes n).p.length :=
        lt_of_le_of_ne hpre.length_le fun he => hkey (hpre.eq_of_length he).symm
      rw [hcommon] at hbelow' ⊢
      have hput := h.putAbove hbelow' (isPrefix_bitAt hpre hlt)
      obtain ⟨hheld, hgot, hnew⟩ := h.put_finish hput
        (mem_plug.mpr (.inl (Frame.pre_fill.mem_iff.mpr (by simp))))
      refine ⟨_, _, t.fresh, ?_, hheld, hgot, fun x hx hold hne => absurd (hnew x hx hold) hne⟩
      rw [hput.key, if_neg (by simp)]
    · -- the new node joins the old one and a leaf
      obtain ⟨side, hside, hside'⟩ := commonPrefix_split hnot hpre
      obtain ⟨hheld, hext, hnew⟩ := h.putAbove hbelow' hside
      have hfill : (⟨t.fresh, side, .nil⟩ : Frame Nat).fill (.node n l r) =
          (⟨t.fresh, !side, .node n l r⟩ : Frame Nat).fill .nil := by cases side <;> rfl
      rw [hfill] at hheld hext
      have hf : (((t.alloc (commonPrefix (t.nodes n).p key)).setLink t.fresh n).linkBelow (above none C) t.fresh).fresh =
          t.fresh + 1 := linkBelow_fresh
      rw [hnew, if_pos (length_lt_of_isPrefix hside').ne]
      set t1 := ((t.alloc (commonPrefix (t.nodes n).p key)).setLink t.fresh n).linkBelow (above none C) t.fresh
      have hleaf : Below (fun a => (t1.nodes a).p) (⟨t.fresh, !side, .node n l r⟩ :: C) key := by
        intro f hf
        obtain rfl : (⟨t.fresh, !side, .node n l r⟩ : Frame Nat) = f := by simpa using hf
        change (t1.nodes t.fresh).p ++ [!side] <+: key
        rwa [hnew]
      obtain ⟨hheld', hext', hkey'⟩ := Held.putLeaf (C := ⟨t.fresh, !side, .node n l r⟩ :: C) hheld hleaf
      have hmem' : t1.fresh ∈ (plug (⟨t.fresh, !side, .node n l r⟩ :: C) (.node t1.fresh .nil .nil)).pre :=
        mem_plug.mpr (.inl mem_cons_self)
      have hboth := hext.trans hext' (by omega) fun x hx => mem_cons_of_mem _ hx
      refine ⟨_, _, t1.fresh, rfl, hheld'.finish hmem' (h.count_fresh (by omega)) (fun x _ hx hne => ?_),
        hboth.got hmem' hkey', fun x hx hold hne => ?_⟩
      · obtain rfl : x = t.fresh := by simpa [hne] using hx
        obtain ⟨-, -, hleft, hright, -⟩ := linked_plug.mp hheld'.shaped.linked
        refine ⟨(congrArg Option.isSome hleft).trans ?_, (congrArg Option.isSome hright).trans ?_⟩
        · cases side <;> rfl
        · cases side <;> rfl
      · obtain rfl : x = t.fresh := by simpa [hne] using hboth.of_new hx hold
        have hkeep := (hext'.old t.fresh (mem_plug.mpr (.inr mem_cons_self))).2.p
        rw [lock_p]
        exact (congrArg List.length (hkeep.trans hnew)).trans_lt (length_lt_of_isPrefix hside')

end get

lemma StepsAlong.visitLoop_eq {L : List Nat} (h : t.StepsAlong NodeTable.routeNext L) {l1 l2 : List Nat}
    (hL : L = l1 ++ l2) (hfuel : l2.length ≤ fuel) :
    visitLoop fuel (t.lockNode? l2.head?) l2.head? l1 = some (t, L) := by
  induction l2 generalizing l1 fuel with
  | nil =>
    rw [append_nil] at hL
    cases fuel <;> rw [hL] <;> rfl
  | cons a l2 ih =>
    obtain ⟨fuel, rfl⟩ : ∃ n, fuel = n + 1 := ⟨fuel - 1, by simp at hfuel; omega⟩
    rw [List.head?_cons, visitLoop]
    change ((t.routeLockNode a).routeNext a).bind _ = _
    rw [h l1 a l2 hL]
    exact ih (by simp [hL]) (by simpa using hfuel)

lemma Held.visitAll (h : t.Held T held []) : t.visitAll = some (t, T.pre) := by
  have hsteps := h.walkable.routeNext
  have hloop := hsteps.visitLoop_eq (nil_append _).symm (Nat.le_succ_of_le h.shaped.length_le)
  rw [← BinTree.root_eq_head?, ← h.shaped.top] at hloop
  exact hloop

end NodeTable

end OspfMdr.Ospf6
