import OspfMdr.Lib.PrefixTree

/-!
# Places in a binary tree

A place is the list of the nodes above it, the nearest one first, each with the side that leads to
the place and the subtree on its other side. An insertion or a deletion replaces the subtree at a
place; the links and the strings of the nodes elsewhere stay what they are.
-/

namespace OspfMdr.Lib
open List

/-- One step of the way down to a subtree: the node passed, the side taken, and the other side. -/
structure Frame (α : Type) where
  node : α
  right : Bool
  other : BinTree α

variable {α : Type}

def Frame.fill (f : Frame α) (N : BinTree α) : BinTree α :=
  if f.right then .node f.node f.other N else .node f.node N f.other

/-- The tree with `N` at the place. -/
def plug : List (Frame α) → BinTree α → BinTree α
  | [], N => N
  | f :: C, N => plug C (f.fill N)

def above (up : Option α) : List (Frame α) → Option α
  | [] => up
  | f :: _ => some f.node

/-- The nodes that are not in the subtree. -/
def outside : List (Frame α) → List α
  | [] => []
  | f :: C => f.node :: (f.other.pre ++ outside C)

/-- The links outside of a place at which there is a tree with the given root. -/
def LinkedOutside (k : Links α) (up : Option α) : List (Frame α) → Option α → Prop
  | [], _ => True
  | f :: C, root =>
    k.parent f.node = above up C ∧ k.left f.node = (if f.right then f.other.root else root) ∧
      k.right f.node = (if f.right then root else f.other.root) ∧ f.other.Linked k (some f.node) ∧
      LinkedOutside k up C (some f.node)

variable {C : List (Frame α)} {N N' T : BinTree α} {f : Frame α} {k k' : Links α} {up root : Option α}
  {p p' : α → List Bool} {a x : α} {key : List Bool} {l r : BinTree α} {m : Option α}

lemma Frame.root_fill : (f.fill N).root = some f.node := by
  unfold Frame.fill
  split_ifs <;> rfl

lemma Frame.pre_fill : (f.fill N).pre.Perm (N.pre ++ f.node :: f.other.pre) := by
  unfold Frame.fill
  split_ifs
  · have hswap : (f.node :: (f.other.pre ++ N.pre)).Perm ((f.node :: f.other.pre) ++ N.pre) := .refl _
    exact hswap.trans perm_append_comm
  · exact perm_middle.symm

lemma pre_plug : (plug C N).pre.Perm (N.pre ++ outside C) := by
  induction C generalizing N with
  | nil => simp [plug, outside]
  | cons f C ih =>
    refine ih.trans ((Frame.pre_fill.append_right _).trans ?_)
    simp [outside]

lemma mem_plug : x ∈ (plug C N).pre ↔ x ∈ N.pre ∨ x ∈ outside C := by
  rw [pre_plug.mem_iff, mem_append]

lemma root_plug : (plug C N).root = if C = [] then N.root else (plug C .nil).root := by
  induction C generalizing N with
  | nil => rfl
  | cons f C ih =>
    rw [if_neg (cons_ne_nil _ _), plug, plug, ih, @ih (f.fill .nil), Frame.root_fill, Frame.root_fill]

lemma linked_fill : (f.fill N).Linked k up ↔ N.Linked k (some f.node) ∧ k.parent f.node = up ∧
    k.left f.node = (if f.right then f.other.root else N.root) ∧
    k.right f.node = (if f.right then N.root else f.other.root) ∧ f.other.Linked k (some f.node) := by
  unfold Frame.fill
  split_ifs <;> simp only [BinTree.Linked] <;> tauto

lemma linked_plug : (plug C N).Linked k up ↔ N.Linked k (above up C) ∧ LinkedOutside k up C N.root := by
  induction C generalizing N with
  | nil => simp [plug, above, LinkedOutside]
  | cons f C ih =>
    rw [plug, ih, linked_fill, Frame.root_fill]
    simp only [above, LinkedOutside]
    tauto

lemma LinkedOutside.congr (h : LinkedOutside k up C root)
    (hparent : ∀ x ∈ outside C, k'.parent x = k.parent x)
    (hleft : ∀ x ∈ outside C, k'.left x = k.left x)
    (hright : ∀ x ∈ outside C, k'.right x = k.right x) : LinkedOutside k' up C root := by
  induction C generalizing root with
  | nil => trivial
  | cons f C ih =>
    obtain ⟨hp, hl, hr, hother, hC⟩ := h
    have hself : f.node ∈ outside (f :: C) := mem_cons_self
    have hthere : ∀ x ∈ f.other.pre, x ∈ outside (f :: C) :=
      fun x hx => mem_cons_of_mem _ (mem_append_left _ hx)
    have hout : ∀ x ∈ outside C, x ∈ outside (f :: C) :=
      fun x hx => mem_cons_of_mem _ (mem_append_right _ hx)
    refine ⟨(hparent _ hself).trans hp, (hleft _ hself).trans hl, (hright _ hself).trans hr, ?_, ?_⟩
    · exact hother.congr (fun x hx => hparent x (hthere x hx)) (fun x hx => hleft x (hthere x hx))
        fun x hx => hright x (hthere x hx)
    · exact ih hC (fun x hx => hparent x (hout x hx)) (fun x hx => hleft x (hout x hx))
        fun x hx => hright x (hout x hx)

/-- A change of the links that affects outside of a place only the pointer to it. -/
structure Repointed (k k' : Links α) (C : List (Frame α)) (root : Option α) : Prop where
  parent : ∀ x ∈ outside C, k'.parent x = k.parent x
  left : ∀ f ∈ C.head?, k'.left f.node = if f.right then k.left f.node else root
  right : ∀ f ∈ C.head?, k'.right f.node = if f.right then root else k.right f.node
  keep : ∀ x ∈ outside C, above none C ≠ some x → k'.left x = k.left x ∧ k'.right x = k.right x

lemma LinkedOutside.replace (h : LinkedOutside k up C root) (hnodup : (outside C).Nodup)
    {root' : Option α} (hk : Repointed k k' C root') : LinkedOutside k' up C root' := by
  cases C with
  | nil => trivial
  | cons f C =>
    obtain ⟨hp, hl, hr, hother, hC⟩ := h
    have hnot := (nodup_cons.mp hnodup).1
    have hmem : ∀ x ∈ f.other.pre ++ outside C, x ∈ outside (f :: C) := fun x hx => mem_cons_of_mem _ hx
    have hsides : ∀ x ∈ f.other.pre ++ outside C, k'.left x = k.left x ∧ k'.right x = k.right x :=
      fun x hx => hk.keep x (hmem x hx) fun he => hnot (Option.some.inj he ▸ hx)
    refine ⟨?_, ?_, ?_, ?_, ?_⟩
    · rw [hk.parent _ mem_cons_self, hp]
    · rw [hk.left f rfl, hl]
      split_ifs <;> rfl
    · rw [hk.right f rfl, hr]
      split_ifs <;> rfl
    · exact hother.congr (fun x hx => hk.parent x (hmem x (mem_append_left _ hx)))
        (fun x hx => (hsides x (mem_append_left _ hx)).1) fun x hx => (hsides x (mem_append_left _ hx)).2
    · exact hC.congr (fun x hx => hk.parent x (hmem x (mem_append_right _ hx)))
        (fun x hx => (hsides x (mem_append_right _ hx)).1) fun x hx => (hsides x (mem_append_right _ hx)).2

lemma BinTree.Linked.replace (h : (plug C N).Linked k up) (hnodup : (plug C N).pre.Nodup)
    (hk : Repointed k k' C N'.root) (hN' : N'.Linked k' (above up C)) : (plug C N').Linked k' up := by
  have hout : (outside C).Nodup := (nodup_append.mp (pre_plug.nodup_iff.mp hnodup)).2.1
  exact linked_plug.mpr ⟨hN', (linked_plug.mp h).2.replace hout hk⟩

def PrefixedOutside (p : α → List Bool) : List (Frame α) → Prop
  | [] => True
  | f :: C =>
    f.other.Prefixed p ∧ (∀ x ∈ f.other.pre, p f.node ++ [!f.right] <+: p x) ∧
      (∀ g ∈ C.head?, ∀ x ∈ f.node :: f.other.pre, p g.node ++ [g.right] <+: p x) ∧ PrefixedOutside p C

/-- The prefix `s` fits at the place. -/
def Below (p : α → List Bool) (C : List (Frame α)) (s : List Bool) : Prop :=
  ∀ f ∈ C.head?, p f.node ++ [f.right] <+: s

lemma Below.trans {s s' : List Bool} (h : Below p C s) (hs : s <+: s') : Below p C s' :=
  fun f hf => (h f hf).trans hs

lemma prefixed_fill :
    (f.fill N).Prefixed p ↔
      N.Prefixed p ∧ f.other.Prefixed p ∧ (∀ x ∈ f.other.pre, p f.node ++ [!f.right] <+: p x) ∧
      ∀ x ∈ N.pre, p f.node ++ [f.right] <+: p x := by
  obtain ⟨a, b, s⟩ := f
  cases b <;> simp only [Frame.fill, BinTree.Prefixed, Bool.false_eq_true, if_true, if_false, Bool.not_true,
    Bool.not_false] <;> tauto

lemma prefixed_plug :
    (plug C N).Prefixed p ↔ N.Prefixed p ∧ PrefixedOutside p C ∧ ∀ x ∈ N.pre, Below p C (p x) := by
  induction C generalizing N with
  | nil => simp [plug, PrefixedOutside, Below]
  | cons f C ih =>
    rw [plug, ih, prefixed_fill]
    have hmem : ∀ x, x ∈ (f.fill N).pre ↔ x ∈ N.pre ∨ x ∈ f.node :: f.other.pre :=
      fun x => by rw [Frame.pre_fill.mem_iff, mem_append]
    constructor
    · rintro ⟨⟨hN, hother, hside, hthere⟩, hC, hbelow⟩
      refine ⟨hN, ⟨hother, hside, fun g hg x hx => ?_, hC⟩, fun x hx g hg => ?_⟩
      · exact hbelow x ((hmem x).mpr (.inr hx)) g hg
      · obtain rfl : f = g := by simpa using hg
        exact hthere x hx
    · rintro ⟨hN, ⟨hother, hside, hout, hC⟩, hthere⟩
      have hhere : ∀ x ∈ N.pre, p f.node ++ [f.right] <+: p x := fun x hx => hthere x hx f rfl
      refine ⟨⟨hN, hother, hside, hhere⟩, hC, fun x hx g hg => ?_⟩
      rcases (hmem x).mp hx with hx | hx
      · have hnode := hout g hg f.node mem_cons_self
        exact hnode.trans ((prefix_append _ _).trans (hhere x hx))
      · exact hout g hg x hx

lemma head_mem_outside (hf : f ∈ C.head?) : f.node ∈ outside C := by
  cases C with
  | nil => cases hf
  | cons g C =>
    obtain rfl : g = f := by simpa using hf
    exact mem_cons_self

lemma PrefixedOutside.congr (h : PrefixedOutside p C) (hp : ∀ x ∈ outside C, p' x = p x) :
    PrefixedOutside p' C := by
  induction C with
  | nil => trivial
  | cons f C ih =>
    obtain ⟨hother, hside, hout, hC⟩ := h
    have hpC : ∀ x ∈ outside C, p' x = p x := fun x hx => hp x (mem_cons_of_mem _ (mem_append_right _ hx))
    have hpf : ∀ x ∈ f.node :: f.other.pre, p' x = p x := by
      intro x hx
      refine hp x ?_
      rw [outside, ← cons_append]
      exact mem_append_left _ hx
    refine ⟨hother.congr fun x hx => hpf x (mem_cons_of_mem _ hx), fun x hx => ?_, fun g hg x hx => ?_, ih hC hpC⟩
    · rw [hpf _ mem_cons_self, hpf x (mem_cons_of_mem _ hx)]
      exact hside x hx
    · rw [hpC _ (head_mem_outside hg), hpf x hx]
      exact hout g hg x hx

lemma BinTree.Prefixed.replace (h : (plug C N).Prefixed p) (hp : ∀ x ∈ outside C, p' x = p x)
    (hN' : N'.Prefixed p') (hbelow : ∀ x ∈ N'.pre, Below p C (p' x)) : (plug C N').Prefixed p' := by
  refine prefixed_plug.mpr ⟨hN', (prefixed_plug.mp h).2.1.congr hp, fun x hx f hf => ?_⟩
  rw [hp _ (head_mem_outside hf)]
  exact hbelow x hx f hf

lemma plug_append (C D : List (Frame α)) (N : BinTree α) : plug (C ++ D) N = plug D (plug C N) := by
  induction C generalizing N with
  | nil => rfl
  | cons f C ih => exact ih _

lemma above_append (C : List (Frame α)) (f : Frame α) :
    above up (C ++ [f]) = above (some f.node) C := by
  cases C <;> rfl

/-- How a descent ends at a place with the tree below the node `m`. -/
def landing (p : α → List Bool) (key : List Bool) (m : Option α) : BinTree α → Descent α
  | .nil => .ended m
  | .node a _ _ => if p a = key then .found a else .stopped m a

lemma landing_found (h : p a = key) :
    landing p key m (.node a l r) = .found a := if_pos h

lemma landing_stopped (h : p a ≠ key) :
    landing p key m (.node a l r) = .stopped m a := if_neg h

lemma exists_landing (p : α → List Bool) (key : List Bool) (up : Option α) (T : BinTree α) :
    ∃ C N, T = plug C N ∧ (∀ f ∈ C, p f.node ++ [f.right] <+: key) ∧
      T.descent p key up = landing p key (above up C) N ∧ ∀ a, N.root = some a → p a <+: key → p a = key := by
  induction T generalizing up with
  | nil => exact ⟨[], .nil, rfl, by simp, rfl, by simp [BinTree.root]⟩
  | node a l r ihl ihr =>
    unfold BinTree.descent
    split_ifs with hpre hlength hbit
    · have hkey := (List.isPrefixOf_iff_prefix.mp hpre).eq_of_length hlength
      refine ⟨[], .node a l r, rfl, by simp, by rw [landing, if_pos hkey], fun b hb _ => ?_⟩
      cases hb
      exact hkey
    · have hside := isPrefix_bitAt (List.isPrefixOf_iff_prefix.mp hpre)
        (lt_of_le_of_ne (List.isPrefixOf_iff_prefix.mp hpre).length_le hlength)
      obtain ⟨C, N, rfl, hC, hd, hN⟩ := ihr (some a)
      refine ⟨C ++ [⟨a, true, l⟩], N, ?_, ?_, ?_, hN⟩
      · rw [plug_append]
        rfl
      · rw [hbit] at hside
        simpa [or_imp, forall_and] using And.intro hC hside
      · rw [hd, above_append]
    · have hside := isPrefix_bitAt (List.isPrefixOf_iff_prefix.mp hpre)
        (lt_of_le_of_ne (List.isPrefixOf_iff_prefix.mp hpre).length_le hlength)
      obtain ⟨C, N, rfl, hC, hd, hN⟩ := ihl (some a)
      refine ⟨C ++ [⟨a, false, r⟩], N, ?_, ?_, ?_, hN⟩
      · rw [plug_append]
        rfl
      · rw [Bool.eq_false_of_not_eq_true hbit] at hside
        simpa [or_imp, forall_and] using And.intro hC hside
      · rw [hd, above_append]
    · have hkey : ¬p a <+: key := fun h => hpre (List.isPrefixOf_iff_prefix.mpr h)
      refine ⟨[], .node a l r, rfl, by simp, ?_, fun b hb hb' => ?_⟩
      · rw [landing, if_neg fun he : p a = key => hkey (he ▸ prefix_refl _)]
        rfl
      · cases hb
        exact absurd hb' hkey

lemma exists_place (ha : a ∈ T.pre) : ∃ C l r, T = plug C (.node a l r) := by
  induction T with
  | nil => cases ha
  | node b l r ihl ihr =>
    rcases mem_cons.mp ha with rfl | ha
    · exact ⟨[], l, r, rfl⟩
    rcases mem_append.mp ha with ha | ha
    · obtain ⟨C, l', r', rfl⟩ := ihl ha
      exact ⟨C ++ [⟨b, false, r⟩], l', r', by rw [plug_append]; rfl⟩
    · obtain ⟨C, l', r', rfl⟩ := ihr ha
      exact ⟨C ++ [⟨b, true, l⟩], l', r', by rw [plug_append]; rfl⟩

/-- The last node on the way along the key that satisfies `ok`. -/
def BinTree.longest (p : α → List Bool) (ok : α → Bool) (key : List Bool) : Option α → BinTree α → Option α
  | m, nil => m
  | m, node a l r =>
    if (p a).isPrefixOf key then
      if (p a).length = key.length then if ok a then some a else m
      else if bitAt key (p a).length then r.longest p ok key (if ok a then some a else m)
      else l.longest p ok key (if ok a then some a else m)
    else m

/-- The node with the longest string among those that satisfy `ok` and are beginnings of the key, or
`m` if there is none. -/
def IsLongest (p : α → List Bool) (ok : α → Bool) (key : List Bool) (L : List α) (m res : Option α)
    : Prop :=
  (res = m ∧ ∀ x ∈ L, p x <+: key → ok x = false) ∨
    ∃ a ∈ L, res = some a ∧ ok a ∧ p a <+: key ∧
      ∀ x ∈ L, p x <+: key → ok x → (p x).length ≤ (p a).length

lemma IsLongest.extend {ok : α → Bool} {L L' : List α} {m res : Option α}
    (h : IsLongest p ok key L (if ok a then some a else m) res) (ha : p a <+: key)
    (hshort : ∀ x ∈ L, (p a).length ≤ (p x).length) (hmem : a ∈ L') (hsub : ∀ x ∈ L, x ∈ L')
    (hoff : ∀ x ∈ L', p x <+: key → x = a ∨ x ∈ L) : IsLongest p ok key L' m res := by
  rcases h with ⟨rfl, hnone⟩ | ⟨b, hb, rfl, hok, hpre, hmax⟩
  · cases hok : ok a with
    | false =>
      refine .inl ⟨by simp, fun x hx hpre => ?_⟩
      rcases hoff x hx hpre with rfl | hx
      · exact hok
      · exact hnone x hx hpre
    | true =>
      refine .inr ⟨a, hmem, by simp, hok, ha, fun x hx hpre hx' => ?_⟩
      rcases hoff x hx hpre with rfl | hx
      · exact le_refl _
      · rw [hnone x hx hpre] at hx'
        cases hx'
  · refine .inr ⟨b, hsub b hb, rfl, hok, hpre, fun x hx hxpre hx' => ?_⟩
    rcases hoff x hx hxpre with rfl | hx
    · exact hshort b hb
    · exact hmax x hx hxpre hx'

lemma BinTree.Prefixed.isLongest_longest (h : T.Prefixed p) (ok : α → Bool) (m : Option α) :
    IsLongest p ok key T.pre m (T.longest p ok key m) := by
  induction T generalizing m with
  | nil => exact .inl ⟨rfl, by simp [BinTree.pre]⟩
  | node a l r ihl ihr =>
    obtain ⟨hl, hr, hpl, hpr⟩ := id h
    by_cases hpre : (p a).isPrefixOf key
    · have hkey := isPrefixOf_iff_prefix.mp hpre
      rw [BinTree.longest, if_pos hpre]
      by_cases hlength : (p a).length = key.length
      · -- the nodes below are longer than the key
        rw [if_pos hlength]
        refine IsLongest.extend (L := []) (.inl ⟨rfl, by simp⟩) hkey (by simp) mem_cons_self (by simp)
          fun x hx hxpre => .inl ?_
        have hlen := hxpre.length_le
        refine (mem_cons.mp hx).resolve_right fun hx => ?_
        rcases mem_append.mp hx with hx | hx
        · exact absurd (length_lt_of_isPrefix (hl x hx)) (by omega)
        · exact absurd (length_lt_of_isPrefix (hr x hx)) (by omega)
      · rw [if_neg hlength]
        by_cases hbit : bitAt key (p a).length
        · rw [if_pos hbit]
          refine (ihr hpr _).extend hkey (fun x hx => (length_lt_of_isPrefix (hr x hx)).le) mem_cons_self
            (fun x hx => mem_cons_of_mem _ (mem_append_right _ hx)) fun x hx hxpre => ?_
          refine (mem_cons.mp hx).imp_right fun hx => (mem_append.mp hx).resolve_left fun hx => ?_
          rw [bitAt_of_isPrefix ((hl x hx).trans hxpre)] at hbit
          cases hbit
        rw [if_neg hbit]
        refine (ihl hpl _).extend hkey (fun x hx => (length_lt_of_isPrefix (hl x hx)).le) mem_cons_self
          (fun x hx => mem_cons_of_mem _ (mem_append_left _ hx)) fun x hx hxpre => ?_
        refine (mem_cons.mp hx).imp_right fun hx => (mem_append.mp hx).resolve_right fun hx => ?_
        exact hbit (bitAt_of_isPrefix ((hr x hx).trans hxpre))
    · rw [BinTree.longest, if_neg hpre]
      refine .inl ⟨rfl, fun x hx hxpre => ?_⟩
      exact absurd (List.isPrefixOf_iff_prefix.mpr ((h.isPrefix_of_mem hx).trans hxpre)) hpre

end OspfMdr.Lib
