import Mathlib.Tactic

/-!
# Label-setting shortest paths

Vertices are settled one after the other, each with a label. The links out of a vertex
become available when it is settled and may depend on its label. The invariant says what
settled labels and candidates mean; it is kept when a least candidate is settled and when a
candidate of a settled vertex is dropped.
-/

namespace OspfMdr.Lib
open Function

lemma update_eq_some {α β : Type} [DecidableEq α] {f : α → Option β} {a x : α} {o : Option β} {b : β}
    (h : update f a o x = some b) : x = a ∧ o = some b ∨ x ≠ a ∧ f x = some b := by
  rw [update_apply] at h
  split_ifs at h with hx
  · exact .inl ⟨hx, h⟩
  · exact .inr ⟨hx, h⟩

variable {V L K : Type} [AddCommMonoid K] [LinearOrder K] [IsOrderedAddMonoid K]

/-- A path from the root, with its vertices in reverse order and its length. -/
inductive PathTo (link : V → V → K → Prop) (root : V) : List V → V → K → Prop
  | nil : PathTo link root [root] root 0
  | cons {vs : List V} {x y : V} {a k : K} :
      PathTo link root vs x a → link x y k → PathTo link root (y :: vs) y (a + k)

variable {x : V} {vs : List V} {l : L} {b : K}

omit [LinearOrder K] [IsOrderedAddMonoid K] in
lemma PathTo.mono {link link' : V → V → K → Prop} (h : ∀ x y k, link x y k → link' x y k) {root : V}
    {a : K} (hp : PathTo link root vs x a) : PathTo link' root vs x a := by
  induction hp with
  | nil => exact .nil
  | cons _ hlink ih => exact .cons ih (h _ _ _ hlink)

/-- A link of a settled vertex. -/
def LinkOf (avail : V → L → V → K → Prop) (settled : V → Option L) (x y : V) (k : K) : Prop :=
  ∃ l, settled x = some l ∧ avail x l y k

/-- The invariant of a search that settles the nearest candidate. -/
structure DijkstraInv (avail : V → L → V → K → Prop) (dist : L → K) (root : V)
    (settled : V → Option L) (cand : Set (V × K)) : Prop where
  root_settled : ∃ l, settled root = some l ∧ dist l = 0
  settled_path : ∀ x l, settled x = some l → ∃ vs,
    PathTo (LinkOf avail settled) root vs x (dist l) ∧ vs.Nodup ∧ ∀ v ∈ vs, (settled v).isSome
  cand_link : ∀ c ∈ cand, ∃ x l k, settled x = some l ∧ avail x l c.1 k ∧ c.2 = dist l + k
  settled_le : ∀ x l, settled x = some l → ∀ c ∈ cand, dist l ≤ c.2
  frontier : ∀ x l y k, settled x = some l → avail x l y k →
    (∃ l', settled y = some l' ∧ dist l' ≤ dist l + k) ∨ ∃ a, (y, a) ∈ cand ∧ a ≤ dist l + k

namespace DijkstraInv

variable {avail : V → L → V → K → Prop} {dist : L → K} {root : V} {settled : V → Option L}
  {cand cand' : Set (V × K)}

section
omit [IsOrderedAddMonoid K]

section init
variable [DecidableEq V] (hnonneg : ∀ x l y k, avail x l y k → 0 ≤ k) (hl : dist l = 0)
  (hsub : ∀ c ∈ cand, avail root l c.1 c.2)
include hnonneg hl hsub

lemma init_best (hlinks : ∀ y k, avail root l y k → ∃ a, (y, a) ∈ cand ∧ a ≤ k) :
    DijkstraInv avail dist root (update (fun _ => none) root (some l)) cand := by
  have hself : update (fun _ => none) root (some l) root = some l := update_self ..
  refine ⟨⟨l, hself, hl⟩, fun y ly hy => ?_, fun c hc => ?_, fun y ly hy c hc => ?_,
    fun y ly z k hy havail => ?_⟩
  · obtain ⟨rfl, ⟨⟩⟩ | ⟨-, ⟨⟩⟩ := update_eq_some hy
    exact ⟨[y], hl ▸ .nil, by simp, by simp⟩
  · exact ⟨root, l, c.2, hself, hsub c hc, by rw [hl, zero_add]⟩
  · obtain ⟨-, ⟨⟩⟩ | ⟨-, ⟨⟩⟩ := update_eq_some hy
    exact hl ▸ hnonneg _ _ _ _ (hsub c hc)
  · obtain ⟨rfl, ⟨⟩⟩ | ⟨-, ⟨⟩⟩ := update_eq_some hy
    rw [hl, zero_add]
    exact .inr (hlinks z k havail)

lemma init (hlinks : ∀ y k, avail root l y k → (y, k) ∈ cand) :
    DijkstraInv avail dist root (update (fun _ => none) root (some l)) cand :=
  init_best hnonneg hl hsub fun y k havail => ⟨k, hlinks y k havail, le_rfl⟩

end init

variable (h : DijkstraInv avail dist root settled cand)
include h

lemma drop {l0 : L} {a : K} (hx : settled x = some l0) (hle : dist l0 ≤ a)
    (hsub : ∀ c ∈ cand', c ∈ cand) (hkeep : ∀ c ∈ cand, c = (x, a) ∨ c ∈ cand') :
    DijkstraInv avail dist root settled cand' := by
  refine ⟨h.root_settled, h.settled_path, fun c hc => h.cand_link c (hsub c hc),
    fun y ly hy c hc => h.settled_le y ly hy c (hsub c hc), fun y ly z k hy havail => ?_⟩
  rcases h.frontier y ly z k hy havail with hs | ⟨l', hc, hle'⟩
  · exact .inl hs
  rcases hkeep _ hc with heq | hc'
  · obtain ⟨rfl, rfl⟩ := Prod.mk.inj heq
    exact .inl ⟨l0, hx, le_trans hle hle'⟩
  · exact .inr ⟨l', hc', hle'⟩

lemma cand_path {c : V × K} (hc : c ∈ cand) (hx : settled c.1 = none) :
    ∃ vs, PathTo (LinkOf avail settled) root (c.1 :: vs) c.1 c.2 ∧
      (c.1 :: vs).Nodup ∧ ∀ v ∈ vs, (settled v).isSome := by
  obtain ⟨z, lz, k, hz, havail, hdist⟩ := h.cand_link c hc
  obtain ⟨vs, hp, hnodup, hall⟩ := h.settled_path z lz hz
  refine ⟨vs, ?_, List.nodup_cons.mpr ⟨fun hmem => ?_, hnodup⟩, hall⟩
  · rw [hdist]
    exact hp.cons ⟨lz, hz, havail⟩
  · simpa [hx] using hall c.1 hmem

end

section
variable (h : DijkstraInv avail dist root settled cand) (hnonneg : ∀ x l y k, avail x l y k → 0 ≤ k)
include h hnonneg

/-- A path leads to a settled vertex or past a candidate, at no less than its length. -/
lemma reach (hp : PathTo (LinkOf avail settled) root vs x b) :
    (∃ l, settled x = some l ∧ dist l ≤ b) ∨ ∃ c ∈ cand, c.2 ≤ b := by
  induction hp with
  | nil =>
    obtain ⟨l, hl, h0⟩ := h.root_settled
    exact .inl ⟨l, hl, le_of_eq h0⟩
  | @cons vs x y a k _ hlink ih =>
    obtain ⟨l, hl, havail⟩ := hlink
    have hk := hnonneg x l y k havail
    rcases ih with ⟨l', hl', hle⟩ | ⟨c, hc, hle⟩
    · obtain rfl : l = l' := Option.some.inj (hl.symm.trans hl')
      have hstep : dist l + k ≤ a + k := add_le_add_left hle k
      rcases h.frontier x l y k hl havail with ⟨l', hl', hle'⟩ | ⟨l', hc, hle'⟩
      · exact .inl ⟨l', hl', le_trans hle' hstep⟩
      · exact .inr ⟨_, hc, le_trans hle' hstep⟩
    · exact .inr ⟨c, hc, le_trans hle (le_add_of_nonneg_right hk)⟩

lemma dist_le (hl : settled x = some l) (hp : PathTo (LinkOf avail settled) root vs x b) : dist l ≤ b := by
  rcases h.reach hnonneg hp with ⟨l', hl', hle⟩ | ⟨c, hc, hle⟩
  · obtain rfl : l = l' := Option.some.inj (hl.symm.trans hl')
    exact hle
  · exact le_trans (h.settled_le x l hl c hc) hle

variable [DecidableEq V] (hx : settled x = none) (hmem : (x, dist l) ∈ cand)
  (hmin : ∀ c ∈ cand, dist l ≤ c.2)
  (hsub : ∀ c ∈ cand', c ∈ cand ∨ ∃ k, avail x l c.1 k ∧ c.2 = dist l + k)
include hx hmem hmin hsub

/-- A least candidate is settled and its links become candidates, of which the best for a vertex is enough. -/
lemma settle_best (hkeep : ∀ c ∈ cand, c.1 = x ∨ ∃ a, (c.1, a) ∈ cand' ∧ a ≤ c.2)
    (hlinks : ∀ y k, avail x l y k →
        (∃ l', update settled x (some l) y = some l' ∧ dist l' ≤ dist l + k) ∨
        ∃ a, (y, a) ∈ cand' ∧ a ≤ dist l + k) :
    DijkstraInv avail dist root (update settled x (some l)) cand' := by
  have hself : update settled x (some l) x = some l := update_self ..
  have hother : ∀ y ly, settled y = some ly → update settled x (some l) y = some ly := by
    intro y ly hy
    have hne : y ≠ x := fun he => by simp [he, hx] at hy
    rw [update_of_ne hne, hy]
  have hmono : ∀ y z k, LinkOf avail settled y z k →
      LinkOf avail (update settled x (some l)) y z k := by
    rintro y z k ⟨ly, hy, havail⟩
    exact ⟨ly, hother y ly hy, havail⟩
  refine ⟨?_, fun y ly hy => ?_, fun c hc => ?_, fun y ly hy c hc => ?_, fun y ly z k hy havail => ?_⟩
  · obtain ⟨l0, h₀, hz⟩ := h.root_settled
    exact ⟨l0, hother root l0 h₀, hz⟩
  · rcases update_eq_some hy with ⟨rfl, ⟨⟩⟩ | ⟨-, hy⟩
    · obtain ⟨vs, hp, hnodup, hall⟩ := h.cand_path hmem hx
      refine ⟨y :: vs, hp.mono hmono, hnodup, ?_⟩
      intro v hv
      rcases List.mem_cons.mp hv with rfl | hv
      · simp
      · obtain ⟨lv, hlv⟩ := Option.isSome_iff_exists.mp (hall v hv)
        simp [hother v lv hlv]
    · obtain ⟨vs, hp, hnodup, hall⟩ := h.settled_path y ly hy
      refine ⟨vs, hp.mono hmono, hnodup, fun v hv => ?_⟩
      obtain ⟨lv, hlv⟩ := Option.isSome_iff_exists.mp (hall v hv)
      simp [hother v lv hlv]
  · rcases hsub c hc with hc | ⟨k, havail, hdist⟩
    · obtain ⟨z, lz, k, hz, havail, hdist⟩ := h.cand_link c hc
      exact ⟨z, lz, k, hother z lz hz, havail, hdist⟩
    · exact ⟨x, l, k, hself, havail, hdist⟩
  · have hlc : dist l ≤ c.2 := by
      rcases hsub c hc with hc | ⟨k, havail, hdist⟩
      · exact hmin c hc
      · rw [hdist]
        exact le_add_of_nonneg_right (hnonneg _ _ _ _ havail)
    rcases update_eq_some hy with ⟨-, ⟨⟩⟩ | ⟨-, hy⟩
    · exact hlc
    · exact le_trans (h.settled_le y ly hy _ hmem) hlc
  · rcases update_eq_some hy with ⟨rfl, ⟨⟩⟩ | ⟨-, hy⟩
    · exact hlinks z k havail
    · rcases h.frontier y ly z k hy havail with ⟨l', hl', hle⟩ | ⟨b, hc, hle⟩
      · exact .inl ⟨l', hother z l' hl', hle⟩
      · rcases hkeep _ hc with heq | ⟨a, ha, hab⟩
        · subst heq
          exact .inl ⟨l, hself, le_trans (hmin _ hc) hle⟩
        · exact .inr ⟨a, ha, le_trans hab hle⟩

lemma settle (hkeep : ∀ c ∈ cand, c = (x, dist l) ∨ c ∈ cand')
    (hlinks : ∀ y k, avail x l y k → (y, dist l + k) ∈ cand') :
    DijkstraInv avail dist root (update settled x (some l)) cand' := by
  refine h.settle_best hnonneg hx hmem hmin hsub (fun c hc => ?_) fun y k havail => ?_
  · exact (hkeep c hc).imp (fun heq => by rw [heq]) fun hc' => ⟨c.2, hc', le_rfl⟩
  · exact .inr ⟨_, hlinks y k havail, le_rfl⟩

end

lemma settled_of_path (h : DijkstraInv avail dist root settled ∅)
    (hnonneg : ∀ x l y k, avail x l y k → 0 ≤ k) (hp : PathTo (LinkOf avail settled) root vs x b) :
    ∃ l, settled x = some l ∧ dist l ≤ b := by
  rcases h.reach hnonneg hp with hs | ⟨c, hc, -⟩
  · exact hs
  · exact absurd hc (Set.notMem_empty c)

end DijkstraInv

end OspfMdr.Lib
