import OspfMdr.Proofs.FamilyPrefix
import OspfMdr.Proofs.TableMap

namespace OspfMdr.Ospf6
open Lib NodeTable FamilyPrefix

namespace PrefixTable

variable {w : Nat} {t : PrefixTable w} {p : FamilyPrefix w} {T : BinTree Nat} {held E : List Nat} {a b : Nat}
  {m : Option Nat}

/-- Each node is at the masked prefix of its entry. -/
def Masked (t : PrefixTable w) : Prop := ∀ a, (t.table.nodes a).p = (t.p a).masked

section
variable (h : t.Masked)
include h

lemma Masked.congr {table : NodeTable} (hp : ∀ a, (table.nodes a).p = (t.table.nodes a).p) :
    ({ t with table := table } : PrefixTable w).Masked := fun a => (hp a).trans (h a)

lemma Masked.matches_iff : (t.p a).prefixlen ≤ p.prefixlen ∧ prefixMatch (t.p a) p ↔
    (t.table.nodes a).p.isPrefixOf p.masked := by
  rw [h a, List.isPrefixOf_iff_prefix, prefixMatch_iff]
  exact ⟨fun hm => hm.2, fun hm => ⟨(masked_isPrefix.mp hm).1, hm⟩⟩

lemma Masked.length_iff :
    (t.p a).prefixlen = p.prefixlen ↔ (t.table.nodes a).p.length = p.masked.length := by
  rw [h a, length_masked, length_masked]

lemma Masked.bit_eq (hlt : (t.p a).prefixlen < p.prefixlen) :
    p.bit (t.p a).prefixlen = bitAt p.masked (t.table.nodes a).p.length := by
  rw [h a, length_masked, bitAt_masked hlt]

lemma Masked.descend_eq (fuel : Nat) (m node : Option Nat) :
    t.descend p fuel m node = Lib.descend (fun a => (t.table.nodes a).p) t.table.link p.masked fuel m node := by
  induction fuel generalizing m node with
  | zero => cases node <;> rfl
  | succ fuel ih =>
    cases node with
    | none => rfl
    | some a =>
      rw [descend, Lib.descend]
      simp only [h.matches_iff, h.length_iff]
      split_ifs with hpre hlen
      · rfl
      · have hlt : (t.p a).prefixlen < p.prefixlen :=
          lt_of_le_of_ne (h.matches_iff.mpr hpre).1 fun he => hlen (h.length_iff.mp he)
        rw [ih, h.bit_eq hlt]
      · rfl

lemma Masked.walk_eq : t.walk p = t.table.walk p.masked := h.descend_eq _ _ _

lemma Masked.length_eq (a : Nat) : (t.table.nodes a).p.length = (t.p a).prefixlen := by
  rw [h a, length_masked]

lemma masked_routeNodeSet : (t.routeNodeSet p).Masked := by
  intro a
  by_cases ha : a = t.table.fresh
  · simp [routeNodeSet, alloc_nodes, ha, routeNodeNew]
  · simp [routeNodeSet, alloc_nodes, ha, h a]

lemma Masked.setLink (hlt : (t.p a).prefixlen < (t.p b).prefixlen) :
    (t.setLink a b).table = t.table.setLink a b ∧ (t.setLink a b).Masked := by
  have htable : (t.setLink a b).table = t.table.setLink a b := by
    unfold PrefixTable.setLink
    rw [h.bit_eq hlt, ← h b]
    rfl
  have hab : a ≠ b := fun he => absurd hlt (by rw [he]; exact lt_irrefl _)
  refine ⟨htable, fun x => ?_⟩
  rw [htable, setLink_nodes hab]
  exact h x

lemma Masked.linkBelow
    (hlt : ∀ x, m = some x → (t.p x).prefixlen < (t.p a).prefixlen) :
    (t.linkBelow m a).table = t.table.linkBelow m a ∧ (t.linkBelow m a).Masked := by
  cases m with
  | none => exact ⟨rfl, fun x => h x⟩
  | some m => exact h.setLink (hlt m rfl)

end

lemma linkBelow_p : (t.linkBelow m a).p = t.p := by cases m <;> rfl

lemma routeLockNode_table : (t.routeLockNode a).table = t.table.routeLockNode a := rfl

lemma routeNodeSet_table : (t.routeNodeSet p).table = t.table.alloc p.masked := rfl

lemma routeNodeSet_new : (t.routeNodeSet p).p t.table.fresh = p := by simp [routeNodeSet]

lemma routeNodeSet_old (ha : a < t.table.fresh) : (t.routeNodeSet p).p a = t.p a := by
  simp [routeNodeSet, ha.ne]

lemma Masked.routeLockNode (h : t.Masked) : (t.routeLockNode a).Masked :=
  h.congr (modify_field RouteNode.p (by simp))

lemma Masked.routeNodeGet (h : t.Masked) (hshaped : t.table.Shaped T) (p : FamilyPrefix w) :
    ∃ t' c, t.routeNodeGet p = some (t', c) ∧ t.table.routeNodeGet p.masked = some (t'.table, c) ∧
      t'.Masked := by
  unfold PrefixTable.routeNodeGet NodeTable.routeNodeGet
  rw [h.walk_eq, hshaped.walk_eq, Option.map_some, Option.map_some]
  obtain ⟨C, N, rfl, hC, hd, hN⟩ := exists_landing (fun a => (t.table.nodes a).p) p.masked none T
  have hmem : ∀ x, Lib.above none C = some x → x < t.table.fresh :=
    fun x hx => hshaped.fresh x (mem_plug.mpr (.inr (above_mem hx)))
  have hshort : ∀ x, Lib.above none C = some x → ∃ side, ((t.table.nodes x).p ++ [side] <+: p.masked) ∧
      ∀ n ∈ N.pre, (t.table.nodes x).p ++ [side] <+: (t.table.nodes n).p := by
    intro x hx
    cases C with
    | nil => cases hx
    | cons f C =>
      cases hx
      exact ⟨f.right, hC f List.mem_cons_self, fun n hn => (prefixed_plug.mp hshaped.prefixed).2.2 n hn f rfl⟩
  rw [hd]
  cases N with
  | nil =>
    obtain ⟨htable, hmasked⟩ := (masked_routeNodeSet (p := p) h).linkBelow (a := t.table.fresh) fun x hx => by
      rw [routeNodeSet_old (hmem x hx), routeNodeSet_new, ← h.length_eq, ← length_masked p]
      obtain ⟨side, hside, -⟩ := hshort x hx
      exact length_lt_of_isPrefix hside
    refine ⟨_, _, rfl, ?_, hmasked.routeLockNode⟩
    rw [routeLockNode_table, htable, routeNodeSet_table]
    rfl
  | node n l r =>
    have hn : n < t.table.fresh := hshaped.fresh n (mem_plug.mpr (.inl List.mem_cons_self))
    by_cases hkey : (t.table.nodes n).p = p.masked
    · rw [landing_found (p := fun a => (t.table.nodes a).p) hkey]
      exact ⟨_, _, rfl, rfl, h.routeLockNode⟩
    have hnot : ¬(t.p n).masked <+: p.masked := fun hpre => hkey (hN n rfl (by rwa [h n]))
    have hcommon : (routeCommon (t.p n) p).masked = commonPrefix (t.table.nodes n).p p.masked := by
      rw [masked_routeCommon hnot, h n]
    rw [landing_stopped (p := fun a => (t.table.nodes a).p) hkey]
    have hlenq : (routeCommon (t.p n) p).prefixlen = (commonPrefix (t.table.nodes n).p p.masked).length := by
      rw [← hcommon, length_masked]
    have hshorter : (routeCommon (t.p n) p).prefixlen < (t.p n).prefixlen := by
      rw [hlenq, ← h.length_eq]
      refine lt_of_le_of_ne commonPrefix_left.length_le fun he => hnot ?_
      rw [← h n, ← commonPrefix_left.eq_of_length he]
      exact commonPrefix_right
    obtain ⟨htable1, hmasked1⟩ := (masked_routeNodeSet (p := routeCommon (t.p n) p) h).setLink
      (a := t.table.fresh) (b := n) (by rwa [routeNodeSet_new, routeNodeSet_old hn])
    obtain ⟨htable2, hmasked2⟩ := hmasked1.linkBelow (m := above none C) (a := t.table.fresh) fun x hx => by
      change ((t.routeNodeSet _).p x).prefixlen < ((t.routeNodeSet _).p _).prefixlen
      rw [routeNodeSet_old (hmem x hx), routeNodeSet_new, hlenq, ← h.length_eq]
      obtain ⟨side, hside, hside'⟩ := hshort x hx
      exact length_lt_of_isPrefix (isPrefix_commonPrefix (hside' n List.mem_cons_self) hside)
    rw [htable1, routeNodeSet_table, hcommon] at htable2
    dsimp only
    rw [← htable2]
    set t2 := ((t.routeNodeSet (routeCommon (t.p n) p)).setLink t.table.fresh n).linkBelow (above none C) t.table.fresh
    have hnew : t2.p t.table.fresh = routeCommon (t.p n) p := by
      rw [show t2.p = _ from linkBelow_p]
      exact routeNodeSet_new
    have hfresh : t.table.fresh < t2.table.fresh := by
      rw [htable2, linkBelow_fresh]
      exact Nat.lt_succ_self _
    rw [hmasked2.length_eq, length_masked]
    split_ifs with hne
    · have hle : (t2.p t.table.fresh).prefixlen ≤ p.prefixlen := by
        rw [hnew]
        exact commonLength_le _ _
      obtain ⟨htable3, hmasked3⟩ := (masked_routeNodeSet (p := p) hmasked2).setLink (a := t.table.fresh)
        (b := t2.table.fresh) (by rw [routeNodeSet_new, routeNodeSet_old hfresh]; exact lt_of_le_of_ne hle hne)
      refine ⟨_, _, rfl, ?_, hmasked3.routeLockNode⟩
      rw [routeLockNode_table, htable3, routeNodeSet_table]
    · exact ⟨_, _, rfl, rfl, hmasked2.routeLockNode⟩

/-- The node has data. -/
def stored (t : PrefixTable w) (a : Nat) : Bool := (t.table.nodes a).info.isSome

lemma Masked.matchLoop_eq (h : t.Masked) {up : Option Nat} (hlinked : T.Linked t.table.links up) {fuel : Nat}
    (hfuel : T.pre.length ≤ fuel) (m : Option Nat) :
    t.matchLoop p fuel m T.root = some (T.longest (fun a => (t.table.nodes a).p) t.stored p.masked m) := by
  induction T generalizing up fuel m with
  | nil => cases fuel <;> rfl
  | node a l r ihl ihr =>
    obtain ⟨-, hl, hr, hlinkl, hlinkr⟩ := hlinked
    have hlen : (BinTree.node a l r).pre.length = l.pre.length + r.pre.length + 1 := by simp [BinTree.pre]
    obtain ⟨fuel, rfl⟩ : ∃ n, fuel = n + 1 := ⟨fuel - 1, by omega⟩
    rw [BinTree.root, matchLoop, BinTree.longest]
    simp only [h.matches_iff, h.length_iff]
    by_cases hpre : (t.table.nodes a).p.isPrefixOf p.masked
    · rw [if_pos hpre, if_pos hpre]
      by_cases hlength : (t.table.nodes a).p.length = p.masked.length
      · rw [if_pos hlength, if_pos hlength]
        rfl
      have hlt : (t.p a).prefixlen < p.prefixlen :=
        lt_of_le_of_ne (h.matches_iff.mpr hpre).1 fun he => hlength (h.length_iff.mp he)
      rw [if_neg hlength, if_neg hlength, h.bit_eq hlt, link]
      by_cases hbit : bitAt p.masked (t.table.nodes a).p.length
      · rw [if_pos hbit, if_pos hbit]
        change t.matchLoop p fuel _ (t.table.links.right a) = _
        rw [hr]
        exact ihr hlinkr (by omega) _
      rw [if_neg hbit, if_neg hbit]
      change t.matchLoop p fuel _ (t.table.links.left a) = _
      rw [hl]
      exact ihl hlinkl (by omega) _
    · rw [if_neg hpre, if_neg hpre]

end PrefixTable

end OspfMdr.Ospf6
