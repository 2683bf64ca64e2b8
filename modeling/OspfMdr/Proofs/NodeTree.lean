import OspfMdr.Lib.TreeContext
import OspfMdr.Proofs.NodeTable

namespace OspfMdr.Ospf6
open Lib List BinTree RouteNode

namespace NodeTable

variable {t t' : NodeTable} {T N N' : BinTree Nat} {C : List (Frame Nat)} {a b n : Nat} {key q : List Bool}
  {x : Nat}

/-- The links of the table are those of the tree, and its nodes are ordered by prefix. -/
structure Shaped (t : NodeTable) (T : BinTree Nat) : Prop where
  top : t.top = T.root
  linked : T.Linked t.links none
  nodup : T.pre.Nodup
  fresh : ∀ a ∈ T.pre, a < t.fresh
  prefixed : T.Prefixed fun a => (t.nodes a).p

lemma Shaped.length_le (h : t.Shaped T) : T.pre.length ≤ t.fresh := length_le_of_lt h.nodup h.fresh

lemma Shaped.walk_eq (h : t.Shaped T) :
    t.walk key = some (T.descent (fun a => (t.nodes a).p) key none) := by
  unfold walk
  rw [h.top]
  exact h.linked.descend_eq (fun _ _ => rfl) (Nat.le_succ_of_le h.length_le)

lemma Shaped.eq_of_p (h : t.Shaped T) (ha : a ∈ T.pre) (hb : b ∈ T.pre)
    (hp : (t.nodes a).p = (t.nodes b).p) : a = b := by
  by_contra hne
  have hsym : Std.Symm fun x y : Nat => (t.nodes x).p ≠ (t.nodes y).p := ⟨fun _ _ hxy => hxy.symm⟩
  have hpair : T.pre.Pairwise fun x y => (t.nodes x).p ≠ (t.nodes y).p :=
    h.prefixed.pairwise.imp fun hlt => ne_of_lt hlt
  exact hpair.forall ha hb hne hp

/-- The part `N` of the tree has been replaced by `N'`, with the rest as it was. -/
structure Replaced (t t' : NodeTable) (C : List (Frame Nat)) (N N' : BinTree Nat) : Prop where
  links : Repointed t.links t'.links C N'.root
  linked : N'.Linked t'.links (above none C)
  prefixes : ∀ x ∈ outside C, (t'.nodes x).p = (t.nodes x).p
  prefixed : N'.Prefixed fun a => (t'.nodes a).p
  below : ∀ x ∈ N'.pre, Below (fun a => (t.nodes a).p) C (t'.nodes x).p
  nodup : N'.pre.Nodup
  mem : ∀ x ∈ N'.pre, x ∈ N.pre ∨ t.fresh ≤ x ∧ x < t'.fresh
  fresh : t.fresh ≤ t'.fresh
  top : t'.top = if C = [] then N'.root else t.top

lemma Shaped.not_outside (h : t.Shaped (plug C N)) (hx : x ∈ N.pre ∨ t.fresh ≤ x ∧ x < n) :
    x ∉ outside C := by
  intro hout
  rcases hx with hx | ⟨hx, -⟩
  · exact (nodup_append.mp (pre_plug.nodup_iff.mp h.nodup)).2.2 x hx x hout rfl
  · exact absurd (h.fresh x (mem_plug.mpr (.inr hout))) (not_lt.mpr hx)

lemma Shaped.replace (h : t.Shaped (plug C N)) (hr : Replaced t t' C N N') : t'.Shaped (plug C N') := by
  have hnodup := pre_plug.nodup_iff.mp h.nodup
  refine ⟨?_, h.linked.replace h.nodup hr.links hr.linked, ?_, ?_, h.prefixed.replace hr.prefixes hr.prefixed hr.below⟩
  · rw [hr.top, root_plug]
    split_ifs with hC
    · rfl
    · rw [h.top, root_plug, if_neg hC]
  · refine pre_plug.nodup_iff.mpr (nodup_append.mpr ⟨hr.nodup, (nodup_append.mp hnodup).2.1, ?_⟩)
    rintro x hx y hy rfl
    exact h.not_outside (hr.mem x hx) hy
  · intro x hx
    rcases mem_plug.mp hx with hx | hx
    · rcases hr.mem x hx with hx | hx
      · exact lt_of_lt_of_le (h.fresh x (mem_plug.mpr (.inl hx))) hr.fresh
      · exact hx.2
    · exact lt_of_lt_of_le (h.fresh x (mem_plug.mpr (.inr hx))) hr.fresh

section insert

variable {t1 : NodeTable} {l r : BinTree Nat} {side : Bool}

lemma above_mem (ha : above none C = some a) : a ∈ outside C := by
  cases C with
  | nil => cases ha
  | cons f C =>
    cases ha
    exact mem_cons_self

lemma linkBelow_same {m : Option Nat} (hm : m ≠ some a) (hxa : x ≠ a) (hxm : m ≠ some x) :
    (t1.linkBelow m a).nodes x = t1.nodes x := by
  rw [linkBelow_nodes hm, if_neg hxa, if_neg fun hc => hxm hc.1, if_neg fun hc => hxm hc.1]

lemma linked_of_nodes {up : Option Nat} (h : T.Linked t.links up)
    (hnodes : ∀ x ∈ T.pre, t'.nodes x = t.nodes x) : T.Linked t'.links up :=
  h.congr (fun x hx => congrArg parent (hnodes x hx))
    (fun x hx => congrArg lLeft (hnodes x hx)) fun x hx => congrArg lRight (hnodes x hx)

lemma Shaped.linkBelow (h : t.Shaped (plug C N)) (hsame : ∀ x ∈ outside C, t1.nodes x = t.nodes x)
    (htop : t1.top = t.top)
    (hlinked : (node a l r).Linked t1.links none)
    (hprefixed : (node a l r).Prefixed fun x => (t1.nodes x).p)
    (hbelow : Below (fun x => (t.nodes x).p) C (t1.nodes a).p)
    (hnodup : (node a l r).pre.Nodup)
    (hmem : ∀ x ∈ (node a l r).pre, x ∈ N.pre ∨ t.fresh ≤ x ∧ x < t1.fresh)
    (hfresh : t.fresh ≤ t1.fresh) :
    (t1.linkBelow (above none C) a).Shaped (plug C (.node a l r)) := by
  have hout : ∀ x ∈ (node a l r).pre, x ∉ outside C := fun x hx => h.not_outside (hmem x hx)
  have hm : ∀ x ∈ (node a l r).pre, above none C ≠ some x := fun x hx he => hout x hx (above_mem he)
  have ha : above none C ≠ some a := hm a mem_cons_self
  have hne : ∀ x ∈ outside C, x ≠ a := fun x hx he => hout a mem_cons_self (he ▸ hx)
  have hbit : ∀ f ∈ C.head?, bitAt (t1.nodes a).p (t1.nodes f.node).p.length = f.right := by
    intro f hf
    rw [hsame _ (head_mem_outside hf)]
    exact bitAt_of_isPrefix (hbelow f hf)
  have habove : ∀ f ∈ C.head?, above none C = some f.node := by
    intro f hf
    cases C with
    | nil => cases hf
    | cons g C =>
      obtain rfl : g = f := by simpa using hf
      rfl
  have hp : ∀ x, ((t1.linkBelow (above none C) a).nodes x).p = (t1.nodes x).p :=
    fun x => by rw [linkBelow_nodes ha]
  refine h.replace ⟨⟨fun x hx => ?_, fun f hf => ?_, fun f hf => ?_, fun x hx hxm => ?_⟩, ?_, fun x hx => ?_, ?_, fun x hx => ?_,
    hnodup, fun x hx => ?_, ?_, ?_⟩
  · change ((t1.linkBelow _ a).nodes x).parent = (t.nodes x).parent
    rw [linkBelow_nodes ha, if_neg (hne x hx), hsame x hx]
  · change ((t1.linkBelow _ a).nodes f.node).lLeft = if f.right then (t.nodes f.node).lLeft else some a
    rw [linkBelow_nodes ha, hbit f hf, habove f hf, hsame _ (head_mem_outside hf)]
    cases f.right <;> simp
  · change ((t1.linkBelow _ a).nodes f.node).lRight = if f.right then some a else (t.nodes f.node).lRight
    rw [linkBelow_nodes ha, hbit f hf, habove f hf, hsame _ (head_mem_outside hf)]
    cases f.right <;> simp
  · have heq : (t1.linkBelow (above none C) a).nodes x = t.nodes x := by
      rw [linkBelow_same ha (hne x hx) hxm, hsame x hx]
    exact ⟨congrArg lLeft heq, congrArg lRight heq⟩
  · obtain ⟨hparent, hl, hr, hlinkl, hlinkr⟩ := hlinked
    replace hparent : (t1.nodes a).parent = none := hparent
    have hkeep : ∀ x ∈ l.pre ++ r.pre, (t1.linkBelow (above none C) a).nodes x = t1.nodes x := by
      intro x hx
      refine linkBelow_same ha (fun he => ?_) (hm x (mem_cons_of_mem _ hx))
      exact (nodup_cons.mp hnodup).1 (he ▸ hx)
    have hself : (t1.linkBelow (above none C) a).nodes a =
        { t1.nodes a with parent := above none C } := by
      rw [linkBelow_nodes ha, if_pos rfl, if_neg fun hc => ha hc.1, if_neg fun hc => ha hc.1, hparent, Option.or_none]
    refine ⟨congrArg parent hself, (congrArg lLeft hself).trans hl,
      (congrArg lRight hself).trans hr, ?_, ?_⟩
    · exact linked_of_nodes hlinkl fun x hx => hkeep x (mem_append_left _ hx)
    · exact linked_of_nodes hlinkr fun x hx => hkeep x (mem_append_right _ hx)
  · rw [hp, hsame x hx]
  · exact hprefixed.congr fun x _ => hp x
  · rw [hp]
    exact hbelow.trans (hprefixed.isPrefix_of_mem hx)
  · rw [linkBelow_fresh]
    exact hmem x hx
  · rw [linkBelow_fresh]
    exact hfresh
  · cases C with
    | nil => rfl
    | cons f C => exact htop

lemma Shaped.fresh_not_mem (h : t.Shaped T) : t.fresh ∉ T.pre := fun hx => lt_irrefl _ (h.fresh _ hx)

lemma Shaped.putLeaf (h : t.Shaped (plug C .nil)) (hbelow : Below (fun x => (t.nodes x).p) C key) :
    ((t.alloc key).linkBelow (above none C) t.fresh).Shaped (plug C (.node t.fresh .nil .nil)) := by
  have hnode : (t.alloc key).nodes t.fresh = routeNodeNew key := by rw [alloc_nodes, if_pos rfl]
  refine h.linkBelow (fun x hx => ?_) rfl ?_ ?_ ?_ ?_ (fun x hx => ?_) (Nat.le_succ _)
  · rw [alloc_nodes, if_neg]
    rintro rfl
    exact h.fresh_not_mem (mem_plug.mpr (.inr hx))
  · exact ⟨congrArg parent hnode, congrArg lLeft hnode, congrArg lRight hnode, trivial,
      trivial⟩
  · exact ⟨by simp [pre], by simp [pre], trivial, trivial⟩
  · rw [hnode]
    exact hbelow
  · simp [pre]
  · obtain rfl : x = t.fresh := by simpa [pre] using hx
    exact .inr ⟨le_refl _, Nat.lt_succ_self _⟩

lemma setLink_alloc_node (hn : n ≠ t.fresh) (hq : q ++ [side] <+: (t.nodes n).p) :
    ((t.alloc q).setLink t.fresh n).nodes t.fresh =
      ⟨q, none, if side then none else some n, if side then some n else none, 0, none⟩ := by
  rw [setLink_nodes hn.symm]
  simp only [alloc_nodes, if_neg hn, if_neg hn.symm, if_true, routeNodeNew, true_and, bitAt_of_isPrefix hq]
  cases side <;> rfl

lemma setLink_alloc_other (hn : n ≠ t.fresh) (hx : x ≠ t.fresh) :
    ((t.alloc q).setLink t.fresh n).nodes x =
      { t.nodes x with parent := if x = n then some t.fresh else (t.nodes x).parent } := by
  rw [setLink_nodes hn.symm]
  simp [alloc_nodes, hx]

lemma Shaped.putAbove (h : t.Shaped (plug C (.node n l r))) (hbelow : Below (fun x => (t.nodes x).p) C q)
    (hq : q ++ [side] <+: (t.nodes n).p) :
    (((t.alloc q).setLink t.fresh n).linkBelow (above none C) t.fresh).Shaped
      (plug C ((⟨t.fresh, side, .nil⟩ : Frame Nat).fill (.node n l r))) := by
  have hmem : ∀ x ∈ (node n l r).pre, x ∈ (plug C (.node n l r)).pre := fun x hx => mem_plug.mpr (.inl hx)
  have hlt : ∀ x ∈ (node n l r).pre, x ≠ t.fresh := fun x hx => (h.fresh x (hmem x hx)).ne
  have hn := hlt n mem_cons_self
  have hnodup := nodup_append.mp (pre_plug.nodup_iff.mp h.nodup)
  have hnode := setLink_alloc_node hn hq
  have hother : ∀ {x : Nat}, x ≠ t.fresh → ((t.alloc q).setLink t.fresh n).nodes x =
      { t.nodes x with parent := if x = n then some t.fresh else (t.nodes x).parent } :=
    fun hx => setLink_alloc_other hn hx
  have hsame : ∀ x, x ≠ n → x ≠ t.fresh → ((t.alloc q).setLink t.fresh n).nodes x = t.nodes x := by
    intro x hxn hx
    rw [hother hx, if_neg hxn]
  have hsub : (node n l r).Linked ((t.alloc q).setLink t.fresh n).links (some t.fresh) := by
    refine (linked_plug.mp h.linked).1.move hnodup.1 (fun x hx => ?_) (fun x hx hxn => ?_) (fun x hx => ?_) fun x hx => ?_
    · cases hx
      change (((t.alloc q).setLink t.fresh n).nodes n).parent = _
      rw [hother hn, if_pos rfl]
    · exact congrArg parent (hsame x (fun he => hxn (by rw [he]; rfl)) (hlt x hx))
    · exact (congrArg lLeft (hother (hlt x hx)) :)
    · exact (congrArg lRight (hother (hlt x hx)) :)
  have hpre := (prefixed_plug.mp h.prefixed).1
  have hprefixed : (node n l r).Prefixed fun x => (((t.alloc q).setLink t.fresh n).nodes x).p :=
    hpre.congr fun x hx => by rw [hother (hlt x hx)]
  have hlonger : ∀ x ∈ (node n l r).pre,
      (((t.alloc q).setLink t.fresh n).nodes t.fresh).p ++ [side] <+: (((t.alloc q).setLink t.fresh n).nodes x).p := by
    intro x hx
    rw [hnode, hother (hlt x hx)]
    exact hq.trans (hpre.isPrefix_of_mem hx)
  have hout : ∀ x ∈ outside C, ((t.alloc q).setLink t.fresh n).nodes x = t.nodes x := by
    intro x hx
    refine hsame x ?_ (h.fresh x (mem_plug.mpr (.inr hx))).ne
    rintro rfl
    exact hnodup.2.2 x mem_cons_self x hx rfl
  have hnew : ∀ x, x = t.fresh ∨ x ∈ (node n l r).pre →
      x ∈ (node n l r).pre ∨ t.fresh ≤ x ∧ x < t.fresh + 1 := by
    rintro x (rfl | hx)
    · exact .inr ⟨le_refl _, Nat.lt_succ_self _⟩
    · exact .inl hx
  have hfresh : t.fresh ∉ (node n l r).pre := fun hx => hlt _ hx rfl
  cases side with
  | true =>
    refine h.linkBelow hout rfl
      ⟨congrArg parent hnode, congrArg lLeft hnode, congrArg lRight hnode, trivial, hsub⟩
      ⟨by simp [pre], hlonger, trivial, hprefixed⟩ (by rw [hnode]; exact hbelow) ?_ (fun x hx => hnew x ?_) (Nat.le_succ _)
    · exact nodup_cons.mpr ⟨hfresh, hnodup.1⟩
    · exact mem_cons.mp hx
  | false =>
    refine h.linkBelow hout rfl
      ⟨congrArg parent hnode, congrArg lLeft hnode, congrArg lRight hnode, hsub, trivial⟩
      ⟨hlonger, by simp [pre], hprefixed, trivial⟩ (by rw [hnode]; exact hbelow) ?_ (fun x hx => hnew x ?_) (Nat.le_succ _)
    · simpa [pre] using nodup_cons.mpr ⟨hfresh, hnodup.1⟩
    · simpa [pre] using hx

end insert

section delete

variable {l r : BinTree Nat} {x : Nat}

/-- The child of a node with at most one. -/
def onlyChild (n : RouteNode) : Option Nat := if n.lLeft.isSome then n.lLeft else n.lRight

/-- The table without the node, whose child takes its place. -/
def unlinked (t : NodeTable) (a : Nat) : NodeTable :=
  let n := t.nodes a
  let t :=
    match onlyChild n with
    | some c => t.modify c fun m => { m with parent := n.parent }
    | none => t
  match n.parent with
  | none => { t with top := onlyChild n }
  | some parent =>
    t.modify parent fun m =>
      if m.lLeft = some a then { m with lLeft := onlyChild n } else { m with lRight := onlyChild n }

lemma routeNodeDelete_succ (fuel : Nat) (hlock : (t.nodes a).lock = 0) (hinfo : (t.nodes a).info = none)
    (hchildren : ¬((t.nodes a).lLeft.isSome ∧ (t.nodes a).lRight.isSome)) :
    routeNodeDelete (fuel + 1) t a =
      match (t.nodes a).parent with
      | none => some (t.unlinked a)
      | some parent =>
        if ((t.unlinked a).nodes parent).lock = 0 then routeNodeDelete fuel (t.unlinked a) parent
        else some (t.unlinked a) := by
  rw [routeNodeDelete]
  rw [if_neg (by simp [hlock, hinfo]), if_neg hchildren]
  unfold unlinked onlyChild
  generalize t.nodes a = n
  obtain ⟨p, parent, left, right, lock, info⟩ := n
  cases parent <;> cases left <;> cases right <;> rfl

lemma unlinked_nodes (x : Nat) :
    (t.unlinked a).nodes x =
      { t.nodes x with
        parent := if onlyChild (t.nodes a) = some x then (t.nodes a).parent else (t.nodes x).parent
        lLeft := if (t.nodes a).parent = some x ∧ (t.nodes x).lLeft = some a then onlyChild (t.nodes a)
          else (t.nodes x).lLeft
        lRight := if (t.nodes a).parent = some x ∧ (t.nodes x).lLeft ≠ some a then onlyChild (t.nodes a)
          else (t.nodes x).lRight } := by
  have hchild : ∀ c : Option Nat, (match c with
      | some c => t.modify c fun m => { m with parent := (t.nodes a).parent }
      | none => t).nodes x = { t.nodes x with parent := if c = some x then (t.nodes a).parent else (t.nodes x).parent } := by
    rintro (_ | c)
    · simp
    · by_cases hxc : x = c
      · simp [modify_nodes, hxc]
      · simp [modify_nodes, hxc, Ne.symm hxc]
  unfold unlinked
  dsimp only
  cases hparent : (t.nodes a).parent with
  | none =>
    rw [hparent] at hchild
    simpa using hchild _
  | some q =>
    rw [hparent] at hchild
    rw [modify_nodes, hchild]
    by_cases hxq : x = q
    · by_cases hleft : (t.nodes x).lLeft = some a
      all_goals simp [hxq, hxq ▸ hleft]
    · simp [hxq, Ne.symm hxq]

/-- What is left of a node with at most one child. -/
def restTree : BinTree Nat → BinTree Nat → BinTree Nat
  | .nil, r => r
  | l, _ => l

lemma restTree_cases (l r : BinTree Nat) : restTree l r = l ∨ restTree l r = r := by
  cases l with
  | nil => exact .inr rfl
  | node b l1 l2 => exact .inl rfl

lemma unlinked_rest : (t.unlinked a).fresh = t.fresh ∧
    (t.unlinked a).top = if (t.nodes a).parent = none then onlyChild (t.nodes a) else t.top := by
  unfold NodeTable.unlinked
  dsimp only
  cases onlyChild (t.nodes a) <;> cases (t.nodes a).parent <;> exact ⟨rfl, rfl⟩

lemma Shaped.unlinked (h : t.Shaped (plug C (.node a l r))) :
    (t.unlinked a).Shaped (plug C (restTree l r)) := by
  obtain ⟨⟨hparent, hl, hr, hlinkl, hlinkr⟩, hlinks⟩ := linked_plug.mp h.linked
  replace hparent : (t.nodes a).parent = above none C := hparent
  obtain ⟨hinside, houtside, hdisj⟩ := nodup_append.mp (pre_plug.nodup_iff.mp h.nodup)
  obtain ⟨hprel, hprer, hprefl, hprefr⟩ := (prefixed_plug.mp h.prefixed).1
  have honly : onlyChild (t.nodes a) = (restTree l r).root := by
    change (if (t.links.left a).isSome then t.links.left a else t.links.right a) = _
    rw [hl, hr]
    cases l <;> rfl
  have hsub : (restTree l r).pre.Sublist (l.pre ++ r.pre) := by
    rcases restTree_cases l r with he | he <;> rw [he]
    · exact sublist_append_left _ _
    · exact sublist_append_right _ _
  have hlinked : (restTree l r).Linked t.links (some a) := by
    rcases restTree_cases l r with he | he <;> rw [he] <;> assumption
  have hpre : (restTree l r).Prefixed fun x => (t.nodes x).p := by
    rcases restTree_cases l r with he | he <;> rw [he] <;> assumption
  have hnodup : (restTree l r).pre.Nodup := hsub.nodup (nodup_cons.mp hinside).2
  have hmem : ∀ x ∈ (restTree l r).pre, x ∈ (node a l r).pre :=
    fun x hx => mem_cons_of_mem _ (hsub.subset hx)
  have hout : ∀ x ∈ outside C, (restTree l r).root ≠ some x :=
    fun x hx he => hdisj x (hmem x (root_mem he)) x hx rfl
  have habove : ∀ x ∈ (restTree l r).pre, above none C ≠ some x :=
    fun x hx he => hdisj x (hmem x hx) x (above_mem he) rfl
  -- the pointer to the node is the one on the side of the place
  have hside : ∀ f ∈ C.head?, (t.nodes a).parent = some f.node ∧
      ((t.nodes f.node).lLeft = some a ↔ f.right = false) := by
    intro f hf
    cases C with
    | nil => cases hf
    | cons g C =>
      obtain rfl : g = f := by simpa using hf
      refine ⟨hparent, ?_⟩
      have hleft : (t.nodes g.node).lLeft = if g.right then g.other.root else some a := hlinks.2.1
      rw [hleft]
      cases g.right with
      | false => simp
      | true =>
        have hne : g.other.root ≠ some a := fun he =>
          hdisj a mem_cons_self a (mem_cons_of_mem _ (mem_append_left _ (root_mem he))) rfl
        simp [hne]
  have hp : ∀ x, ((t.unlinked a).nodes x).p = (t.nodes x).p := fun x => by rw [unlinked_nodes]
  have hkeep : ∀ x, above none C ≠ some x →
      ((t.unlinked a).nodes x).lLeft = (t.nodes x).lLeft ∧ ((t.unlinked a).nodes x).lRight = (t.nodes x).lRight := by
    intro x hx
    rw [unlinked_nodes, hparent]
    exact ⟨if_neg fun hc => hx hc.1, if_neg fun hc => hx hc.1⟩
  refine h.replace ⟨⟨fun x hx => ?_, fun f hf => ?_, fun f hf => ?_, fun x _ hxm => hkeep x hxm⟩, ?_, fun x _ => hp x, ?_,
    fun x hx => ?_, hnodup, fun x hx => .inl (hmem x hx), unlinked_rest.1.ge, ?_⟩
  · change ((t.unlinked a).nodes x).parent = (t.nodes x).parent
    rw [unlinked_nodes, honly, if_neg (hout x hx)]
  · change ((t.unlinked a).nodes f.node).lLeft = if f.right then (t.nodes f.node).lLeft else _
    obtain ⟨hf1, hf2⟩ := hside f hf
    rw [unlinked_nodes, hf1, honly]
    cases hright : f.right <;> simp [hf2, hright]
  · change ((t.unlinked a).nodes f.node).lRight = if f.right then _ else (t.nodes f.node).lRight
    obtain ⟨hf1, hf2⟩ := hside f hf
    rw [unlinked_nodes, hf1, honly]
    cases hright : f.right <;> simp [hf2, hright]
  · refine hlinked.move hnodup (fun x hx => ?_) (fun x _ hx => ?_) (fun x hx => (hkeep x (habove x hx)).1)
      fun x hx => (hkeep x (habove x hx)).2
    · change ((t.unlinked a).nodes x).parent = _
      rw [unlinked_nodes, honly, if_pos hx, hparent]
    · change ((t.unlinked a).nodes x).parent = (t.nodes x).parent
      rw [unlinked_nodes, honly, if_neg hx]
  · exact hpre.congr fun x _ => hp x
  · rw [hp]
    exact (prefixed_plug.mp h.prefixed).2.2 x (hmem x hx)
  · rw [unlinked_rest.2, hparent, honly, h.top]
    cases C with
    | nil => rfl
    | cons f C => simp [above]

end delete

end NodeTable

end OspfMdr.Ospf6
