import OspfMdr.Proofs.TableMap

namespace OspfMdr.Ospf6
open Lib List Function

namespace NodeTable

variable {t : NodeTable} {T : BinTree Nat} {a : Nat} {uses : List Bool → Nat} {key : List Bool}

/-- A node with a full key, which is locked as often as the key was used, or less. -/
structure LeafNode (uses : List Bool → Nat) (n : RouteNode) : Prop where
  len : n.p.length = 80
  locked : n.lock ≠ 0
  bound : n.lock.toNat ≤ uses n.p

/-- A node without data that only branches. -/
structure InnerNode (n : RouteNode) : Prop where
  len : n.p.length < 80
  lock : n.lock = 0
  info : n.info = none
  left : n.lLeft.isSome
  right : n.lRight.isSome

/-- The tree of the table, whose nodes are inner ones or used for a key as `uses` says. -/
structure TrieInv (t : NodeTable) (T : BinTree Nat) (uses : List Bool → Nat) : Prop where
  top : t.top = T.root
  linked : T.Linked t.links none
  nodup : T.pre.Nodup
  fresh : ∀ a ∈ T.pre, a < t.fresh
  prefixed : T.Prefixed fun a => (t.nodes a).p
  kind : ∀ a ∈ T.pre, LeafNode uses (t.nodes a) ∨ InnerNode (t.nodes a)

section
variable (h : t.TrieInv T uses)
include h

lemma TrieInv.walkable : t.Walkable T := by
  refine ⟨h.linked, h.nodup, h.fresh, fun a ha hlock => ?_⟩
  rcases h.kind a ha with hleaf | hinner
  · exact absurd hlock hleaf.locked
  · exact ⟨hinner.info, hinner.left, hinner.right⟩

lemma TrieInv.lockable (huses : ∀ k, uses k + 1 < 2 ^ 32) : t.Lockable T := by
  intro a ha hzero
  have hnat := congrArg UInt32.toNat hzero
  rw [UInt32.toNat_add] at hnat
  rcases h.kind a ha with hleaf | hinner
  · have hbound := hleaf.bound
    have huse := huses (t.nodes a).p
    rw [Nat.mod_eq_of_lt (by simp; omega)] at hnat
    simp at hnat
  · rw [hinner.lock] at hnat
    simp at hnat

lemma TrieInv.leaf (ha : a ∈ T.pre) (hlen : (t.nodes a).p.length = 80) : LeafNode uses (t.nodes a) := by
  rcases h.kind a ha with hleaf | hinner
  · exact hleaf
  · exact absurd hlen hinner.len.ne

lemma TrieInv.shaped : t.Shaped T := ⟨h.top, h.linked, h.nodup, h.fresh, h.prefixed⟩

end

/-- One more use of the key. -/
def bump (uses : List Bool → Nat) (key : List Bool) : List Bool → Nat :=
  update uses key (uses key + 1)

lemma le_bump (k : List Bool) : uses k ≤ bump uses key k := by
  unfold bump
  by_cases hk : k = key
  · rw [hk, update_self]
    exact Nat.le_succ _
  · rw [update_of_ne hk]

lemma LeafNode.bump {n : RouteNode} (h : LeafNode uses n) : LeafNode (NodeTable.bump uses key) n :=
  ⟨h.len, h.locked, h.bound.trans (le_bump _)⟩

lemma TrieInv.use (h : t.TrieInv T uses) : t.TrieInv T (bump uses key) :=
  { h with kind := fun a ha => (h.kind a ha).imp_left LeafNode.bump }

lemma TrieInv.lock (h : t.TrieInv T uses) (huses : uses key + 1 < 2 ^ 32) (ha : a ∈ T.pre)
    (hkey : (t.nodes a).p = key) (hlen : key.length = 80) :
    (t.routeLockNode a).TrieInv T (bump uses key) := by
  refine ⟨h.top, by rw [lock_links]; exact h.linked, h.nodup, h.fresh, ?_, fun b hb => ?_⟩
  · exact h.prefixed.congr fun b _ => lock_p b
  · by_cases hba : b = a
    · subst hba
      have hleaf := h.leaf hb (by rw [hkey, hlen])
      have hbound := hleaf.bound
      rw [hkey] at hbound
      have hnode : (t.routeLockNode b).nodes b = { t.nodes b with lock := (t.nodes b).lock + 1 } := by
        rw [routeLockNode, modify_nodes, if_pos rfl]
      have hnat : ((t.nodes b).lock + 1).toNat = (t.nodes b).lock.toNat + 1 := by
        rw [UInt32.toNat_add]
        exact Nat.mod_eq_of_lt (by simp; omega)
      rw [hnode]
      refine .inl ⟨by rw [hkey, hlen], fun hzero => ?_, ?_⟩
      · have hzero' := congrArg UInt32.toNat hzero
        rw [hnat] at hzero'
        simp at hzero'
      · change ((t.nodes b).lock + 1).toNat ≤ _
        rw [hnat, hkey, bump, update_self]
        omega
    · rw [lock_of_ne hba]
      exact (h.kind b hb).imp_left LeafNode.bump

/-- Each node as often as it is locked. -/
def pointers (t : NodeTable) (T : BinTree Nat) : List Nat :=
  T.pre.flatMap fun a => List.replicate (t.nodes a).lock.toNat a

lemma mem_pointers : a ∈ t.pointers T ↔ a ∈ T.pre ∧ (t.nodes a).lock ≠ 0 := by
  simp only [pointers, mem_flatMap, mem_replicate]
  constructor
  · rintro ⟨b, hb, hlock, rfl⟩
    exact ⟨hb, fun hzero => hlock (by rw [hzero]; rfl)⟩
  · rintro ⟨ha, hlock⟩
    exact ⟨a, ha, fun hzero => hlock (UInt32.toNat_inj.mp hzero), rfl⟩

lemma count_pointers (hnodup : T.pre.Nodup) (ha : a ∈ T.pre) :
    (t.pointers T).count a = (t.nodes a).lock.toNat := by
  have hone : ∀ l : List Nat, l.Nodup → (l.flatMap fun b => List.replicate (t.nodes b).lock.toNat b).count a =
      if a ∈ l then (t.nodes a).lock.toNat else 0 := by
    intro l hl
    induction l with
    | nil => rfl
    | cons b l ih =>
      obtain ⟨hb, hl⟩ := nodup_cons.mp hl
      rw [flatMap_cons, count_append, ih hl, count_replicate]
      by_cases hba : b = a
      · subst hba
        simp [hb]
      · simp [hba, Ne.symm hba]
  rw [pointers, hone _ hnodup, if_pos ha]

lemma TrieInv.held (h : t.TrieInv T uses) : t.Held T (t.pointers T) [] := by
  refine ⟨h.shaped, fun a ha => (count_pointers h.nodup ha).symm, fun a ha hnot => ?_,
    fun a ha => (mem_pointers.mp ha).1⟩
  rcases h.kind a ha with hleaf | hinner
  · exact absurd (mem_pointers.mpr ⟨ha, hleaf.locked⟩) hnot
  · exact ⟨hinner.info, fun _ => ⟨hinner.left, hinner.right⟩⟩

/-- The node of the key is in the tree; the old nodes are kept, and the new ones have no data. -/
structure NodeGot (t t' : NodeTable) (T T' : BinTree Nat) (key : List Bool) (c : Nat) : Prop where
  mem : c ∈ T'.pre
  key : (t'.nodes c).p = key
  old : T.pre.Sublist T'.pre
  same : ∀ a ∈ T.pre, (t'.nodes a).p = (t.nodes a).p ∧ (t'.nodes a).info = (t.nodes a).info
  new : ∀ a ∈ T'.pre, a ∉ T.pre → (t'.nodes a).info = none

lemma Got.sublist {t' : NodeTable} {T' : BinTree Nat} {c : Nat} (h : Got t t' T T' key c)
    (ht : t.Shaped T) (ht' : t'.Shaped T') : T.pre.Sublist T'.pre := by
  refine sublist_of_subperm_of_pairwise (subperm_of_subset ht.nodup fun x hx => (h.old x hx).1) ?_
    ht'.prefixed.pairwise
  refine ht.prefixed.pairwise.imp_of_mem fun hx hy hlt => ?_
  rwa [(h.old _ hx).2.1, (h.old _ hy).2.1]

lemma TrieInv.routeNodeGet (h : t.TrieInv T uses) (hlen : key.length = 80) (huses : uses key + 1 < 2 ^ 32) :
    ∃ t' T' c, t.routeNodeGet key = some (t', c) ∧ t'.TrieInv T' (bump uses key) ∧ NodeGot t t' T T' key c := by
  have hcount : ∀ x ∈ T.pre, (t.nodes x).p = key → (t.pointers T).count x ≤ uses key := by
    intro x hx hkey
    rw [count_pointers h.nodup hx, ← hkey]
    exact (h.leaf hx (by rw [hkey, hlen])).bound
  obtain ⟨t', T', c, hget, hheld, hgot, hshort⟩ := h.held.routeNodeGet key fun x hx hkey =>
    lt_of_le_of_lt (Nat.succ_le_succ (hcount x hx hkey)) huses
  have hinner : ∀ x ∈ T'.pre, (t'.nodes x).lock = 0 → (t'.nodes x).p.length < 80 → InnerNode (t'.nodes x) := by
    intro x hx hlock hlt
    obtain ⟨hinfo, hchildren⟩ := hheld.glue x hx ((hheld.lock_eq_zero hx).mp hlock)
    exact ⟨hlt, hlock, hinfo, (hchildren not_mem_nil).1, (hchildren not_mem_nil).2⟩
  refine ⟨t', T', c, hget, ⟨hheld.shaped.top, hheld.shaped.linked, hheld.shaped.nodup, hheld.shaped.fresh,
    hheld.shaped.prefixed, fun x hx => ?_⟩, hgot.mem, hgot.key, hgot.sublist h.shaped hheld.shaped,
    fun x hx => (hgot.old x hx).2, hgot.new⟩
  have hlock := hheld.lock x hx
  rw [count_cons] at hlock
  by_cases hxc : x = c
  · subst hxc
    have hold : (t.pointers T).count x ≤ uses key := by
      by_cases hxT : x ∈ T.pre
      · exact hcount x hxT ((hgot.old x hxT).2.1.symm.trans hgot.key)
      · rw [count_eq_zero.mpr fun hmem => hxT (h.held.mem x hmem)]
        exact Nat.zero_le _
    rw [beq_self_eq_true, if_pos rfl] at hlock
    refine .inl ⟨by rw [hgot.key, hlen], fun hzero => ?_, ?_⟩
    · rw [hzero] at hlock
      exact absurd hlock (by simp)
    · rw [hlock, hgot.key, bump, update_self]
      exact Nat.succ_le_succ hold
  · rw [if_neg (by simpa using Ne.symm hxc), add_zero] at hlock
    by_cases hxT : x ∈ T.pre
    · obtain ⟨-, hp, -⟩ := hgot.old x hxT
      rw [count_pointers h.nodup hxT, UInt32.toNat_inj] at hlock
      rcases h.kind x hxT with hleaf | hjoin
      · refine .inl ⟨by rw [hp, hleaf.len], by rw [hlock]; exact hleaf.locked, ?_⟩
        rw [hlock, hp]
        exact hleaf.bound.trans (le_bump _)
      · exact .inr (hinner x hx (hlock.trans hjoin.lock) (by rw [hp]; exact hjoin.len))
    · rw [count_eq_zero.mpr fun hmem => hxT (h.held.mem x hmem)] at hlock
      exact .inr (hinner x hx (UInt32.toNat_inj.mp hlock) (hlen ▸ hshort x hx hxT hxc))

lemma TrieInv.routeNodeLookup (h : t.TrieInv T uses) :
    (∀ a ∈ T.pre, (t.nodes a).p = key → (t.nodes a).info.isSome →
        t.routeNodeLookup key = some (t.routeLockNode a, some a)) ∧
    ((∀ a ∈ T.pre, (t.nodes a).p = key → (t.nodes a).info = none) →
      t.routeNodeLookup key = some (t, none)) := by
  unfold NodeTable.routeNodeLookup
  rw [h.shaped.walk_eq, Option.map_some]
  constructor
  · intro a ha hkey hinfo
    obtain ⟨b, hb⟩ := h.prefixed.descent_of_mem none ha hkey
    obtain ⟨hbmem, hbkey⟩ := BinTree.descent_found hb
    obtain rfl := h.shaped.eq_of_p ha hbmem (hkey.trans hbkey.symm)
    simp [hb, hinfo]
  · intro hnone
    cases hd : T.descent (fun a => (t.nodes a).p) key none with
    | found a =>
      obtain ⟨ha, hkey⟩ := BinTree.descent_found hd
      simp [hnone a ha hkey]
    | ended m => rfl
    | stopped m n => rfl

end NodeTable

end OspfMdr.Ospf6
