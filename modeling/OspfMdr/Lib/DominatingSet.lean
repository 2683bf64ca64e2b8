import Mathlib.Tactic
import Mathlib.Combinatorics.SimpleGraph.Connectivity.Connected

/-!
# Connected dominating sets from local covering

A vertex that is left out of a set of vertices is covered when its largest neighbor
reaches each of its other neighbors inside the neighborhood, through vertices ranked
above the vertex itself. If every vertex that is left out is covered, the set is a
connected dominating set. The ranking is a key into a linear order.
-/

namespace OspfMdr.Lib
open Relation ReflTransGen

/-- Every vertex is in `S` or adjacent to a vertex of `S`, and `S` induces a connected
subgraph. -/
structure IsConnectedDominatingSet {V : Type*} (G : SimpleGraph V) (S : Set V) : Prop where
  dominating : ∀ v, v ∈ S ∨ ∃ w ∈ S, G.Adj v w
  connected : (G.induce S).Connected

/-- A step of the graph inside a set. -/
def StepIn {V : Type*} (G : SimpleGraph V) (T : Set V) (a b : V) : Prop :=
  G.Adj a b ∧ a ∈ T ∧ b ∈ T

/-- One edge inside the neighborhood of `v` that leaves a vertex ranked above `v`. -/
def LocalHop {V κ : Type*} [LinearOrder κ] (G : SimpleGraph V) (key : V → κ) (v a b : V) : Prop :=
  G.Adj v a ∧ G.Adj v b ∧ G.Adj a b ∧ key v < key a

/-- `v` is ranked below its largest neighbor, which reaches all neighbors of `v` by
local hops. -/
def Covered {V κ : Type*} [LinearOrder κ] (G : SimpleGraph V) (key : V → κ) (v : V) : Prop :=
  ∃ m, G.Adj v m ∧ key v < key m ∧ (∀ x, G.Adj v x → key x ≤ key m) ∧
    ∀ x, G.Adj v x → ReflTransGen (LocalHop G key v) m x

section Covering
variable {V κ : Type*} [LinearOrder κ] {G : SimpleGraph V} {key : V → κ}

instance stepIn_symm {T : Set V} : Std.Symm (StepIn G T) where
  symm := by
    rintro a b ⟨hab, ha, hb⟩
    exact ⟨hab.symm, hb, ha⟩

variable {T S : Set V} {v : V}

lemma induce_reachable_of_stepIn {a b : V} (ha : a ∈ T) (h : ReflTransGen (StepIn G T) a b) :
    ∃ hb : b ∈ T, (G.induce T).Reachable ⟨a, ha⟩ ⟨b, hb⟩ := by
  induction h with
  | refl => exact ⟨ha, SimpleGraph.Reachable.refl _⟩
  | tail _ hstep ih =>
    obtain ⟨hb, hr⟩ := ih
    refine ⟨hstep.2.2, hr.trans (SimpleGraph.Adj.reachable ?_)⟩
    simpa using hstep.1

lemma largest_neighbor_mem (hS : ∀ v, v ∉ S → Covered G key v) {m : V} (hvm : G.Adj v m)
    (hlt : key v < key m) (hmax : ∀ x, G.Adj v x → key x ≤ key m) : m ∈ S := by
  by_contra hm
  obtain ⟨m', _, hlt', _, hreach⟩ := hS m hm
  rcases (hreach v hvm.symm).cases_tail with heq | ⟨u, _, hhop⟩
  · subst heq
    exact lt_asymm hlt hlt'
  · have hle := hmax u hhop.2.2.1.symm
    exact absurd hhop.2.2.2 (not_lt.mpr hle)

/-- A run of local hops around `v` stays inside any set that holds its last vertex and
every vertex ranked above `v`. -/
lemma localHops_stepIn {m x : V} (hT : ∀ y, key v < key y → y ∈ T) (hx : x ∈ T)
    (h : ReflTransGen (LocalHop G key v) m x) : m ∈ T ∧ ReflTransGen (StepIn G T) m x := by
  induction h using head_induction_on with
  | refl => exact ⟨hx, refl⟩
  | head hhop _ ih =>
    have ha := hT _ hhop.2.2.2
    exact ⟨ha, head ⟨hhop.2.2.1, ha, ih.1⟩ ih.2⟩

lemma detour {x y : V} (hv : Covered G key v) (hT : ∀ z, key v < key z → z ∈ T) (hx : x ∈ T)
    (hy : y ∈ T) (hvx : G.Adj v x) (hvy : G.Adj v y) : ReflTransGen (StepIn G T) x y := by
  obtain ⟨m, _, _, _, hreach⟩ := hv
  have hmx := (localHops_stepIn hT hx (hreach x hvx)).2
  have hmy := (localHops_stepIn hT hy (hreach y hvy)).2
  exact (symm_of (ReflTransGen (StepIn G T)) hmx).trans hmy

/-- Removing one covered vertex keeps the remaining vertices joined, as long as
everything ranked above it is still there. -/
lemma bypass {s : Set V} {a b : V} (hv : Covered G key v) (hs : ∀ z, key v < key z → z ∉ s)
    (ha : a ≠ v) (h : ReflTransGen (StepIn G sᶜ) a b) :
    (b ≠ v → ReflTransGen (StepIn G (insert v s)ᶜ) a b) ∧
    (b = v → ∃ x, G.Adj v x ∧ x ∈ (insert v s)ᶜ ∧ ReflTransGen (StepIn G (insert v s)ᶜ) a x) := by
  have hT : ∀ z, key v < key z → z ∈ (insert v s)ᶜ := by
    intro z hz hmem
    rcases hmem with heq | hmem
    · subst heq; exact lt_irrefl _ hz
    · exact hs z hz hmem
  have hin : ∀ z, z ∈ sᶜ → z ≠ v → z ∈ (insert v s)ᶜ := by
    intro z hz hne hmem
    exact hmem.elim hne hz
  induction h with
  | refl => exact ⟨fun _ => refl, fun h => absurd h ha⟩
  | @tail b c _ hstep ih =>
    obtain ⟨hbc, hb, hc⟩ := hstep
    constructor
    · intro hcv
      by_cases hbv : b = v
      · obtain ⟨x, hvx, hx, hax⟩ := ih.2 hbv
        subst hbv
        exact hax.trans (detour hv hT hx (hin c hc hcv) hvx hbc)
      · exact (ih.1 hbv).tail ⟨hbc, hin b hb hbv, hin c hc hcv⟩
    · intro hcv
      have hbv : b ≠ v := by rintro rfl; subst hcv; exact hbc.ne rfl
      subst hcv
      exact ⟨b, hbc.symm, hin b hb hbv, ih.1 hbv⟩

/-- Covered vertices can be removed in increasing rank without separating the rest. -/
lemma stepIn_compl_of_covered (hconn : G.Connected) (s : Finset V) (hs : ∀ v ∈ s, Covered G key v) :
    ∀ a b, a ∉ s → b ∉ s → ReflTransGen (StepIn G (s : Set V)ᶜ) a b := by
  classical
  -- the vertices removed so far are all ranked below the one that is removed next
  induction s using Finset.induction_on_max_value key with
  | empty =>
    intro a b _ _
    obtain ⟨w⟩ := hconn.preconnected a b
    induction w with
    | nil => exact refl
    | cons hadj _ ih => exact head ⟨hadj, by simp, by simp⟩ (ih (by simp) (by simp))
  | insert v s hvs hmax ih =>
    intro a b ha hb
    simp only [Finset.mem_insert, not_or] at ha hb
    have hab := ih (fun x hx => hs x (Finset.mem_insert_of_mem hx)) a b ha.2 hb.2
    have habove : ∀ z, key v < key z → z ∉ (s : Set V) :=
      fun z hz hmem => absurd hz (not_lt.mpr (hmax z hmem))
    rw [Finset.coe_insert]
    exact (bypass (hs v (Finset.mem_insert_self v s)) habove ha.1 hab).1 hb.1

theorem isConnectedDominatingSet_of_covered [Finite V] (key : V → κ) (hconn : G.Connected)
    (hS : ∀ v, v ∉ S → Covered G key v) : IsConnectedDominatingSet G S := by
  classical
  have hdom : ∀ v, v ∈ S ∨ ∃ w ∈ S, G.Adj v w := by
    intro v
    by_cases hv : v ∈ S
    · exact .inl hv
    · obtain ⟨m, hvm, hlt, hmax, _⟩ := hS v hv
      exact .inr ⟨m, largest_neighbor_mem hS hvm hlt hmax, hvm⟩
  have hfin : (Sᶜ : Set V).Finite := Set.toFinite _
  have hjoin := stepIn_compl_of_covered hconn hfin.toFinset
    (fun v hv => hS v (by simpa using hv))
  rw [Set.Finite.coe_toFinset, compl_compl] at hjoin
  refine ⟨hdom, ?_⟩
  have hne : Nonempty S := by
    obtain ⟨v⟩ := hconn.nonempty
    rcases hdom v with hv | ⟨w, hw, _⟩
    · exact ⟨v, hv⟩
    · exact ⟨w, hw⟩
  refine SimpleGraph.Connected.mk ?_
  rintro ⟨a, ha⟩ ⟨b, hb⟩
  exact (induce_reachable_of_stepIn ha (hjoin a b (by simpa using ha) (by simpa using hb))).2

end Covering

end OspfMdr.Lib
