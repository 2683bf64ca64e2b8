import Mathlib.Tactic

/-!
# Cursor loops over tiled buffers

A buffer is tiled when its elements follow each other without gap from the first
position to the end. A loop that advances its cursor by the size of the element it
stands on visits the tiles in order and ends at the end of the buffer.
-/

namespace OspfMdr.Lib

/-- Elements of the given sizes start at the positions one after the other and end at `stop`. -/
inductive Tiles (size : Nat → Nat) (stop : Nat) : Nat → List Nat → Prop
  | nil : Tiles size stop stop []
  | cons {p : Nat} {l : List Nat} : Tiles size stop (p + size p) l → Tiles size stop p (p :: l)

/-- Outcome of a cursor loop. The state is missing when the body left the loop. -/
structure Walk (σ : Type) where
  visited : List Nat
  cursor : Nat
  state : Option σ

/-- A loop that moves on by the size of what it reads. -/
def walk {σ : Type} (guard : Nat → Bool) (size : Nat → Nat) (body : σ → Nat → Option σ) :
    Nat → σ → Nat → Walk σ
  | 0, s, p => ⟨[], p, some s⟩
  | fuel + 1, s, p =>
    if guard p then
      match body s p with
      | none => ⟨[p], p, none⟩
      | some s' =>
        let w := walk guard size body fuel s' (p + size p)
        ⟨p :: w.visited, w.cursor, w.state⟩
    else ⟨[], p, some s⟩

variable {p : Nat} {l : List Nat}

section
variable {size : Nat → Nat} {stop : Nat} {σ : Type}

section
variable (h : Tiles size stop p l)
include h

lemma Tiles.le : p ≤ stop := by
  induction h with
  | nil => exact le_refl _
  | cons _ ih => omega

lemma Tiles.mem_bounds : ∀ q ∈ l, p ≤ q ∧ q + size q ≤ stop := by
  induction h with
  | nil => simp
  | @cons p l htail ih =>
    intro q hq
    rcases List.mem_cons.mp hq with rfl | hq
    · exact ⟨le_refl _, htail.le⟩
    · have := ih q hq
      omega

lemma Tiles.length_le (hpos : ∀ q ∈ l, 0 < size q) : p + l.length ≤ stop := by
  induction h with
  | nil => simp
  | @cons p l _ ih =>
    have h0 := hpos p (by simp)
    have h1 := ih fun q hq => hpos q (by simp [hq])
    simp only [List.length_cons]
    omega

end

lemma tiles_of_dvd {n : Nat} (hle : p ≤ stop) (hdvd : n ∣ stop - p) :
    ∃ l, Tiles (fun _ => n) stop p l := by
  obtain ⟨k, hk⟩ := hdvd
  induction k generalizing p with
  | zero =>
    have : p = stop := by simp at hk; omega
    exact ⟨[], this ▸ Tiles.nil⟩
  | succ k ih =>
    rw [Nat.mul_succ] at hk
    obtain ⟨l, hl⟩ := ih (p := p + n) (by omega) (by omega)
    exact ⟨p :: l, Tiles.cons hl⟩

/-- The loop visits the tiles in order, all of them unless its body leaves it. -/
theorem walk_of_tiles (guard : Nat → Bool) (body : σ → Nat → Option σ) (h : Tiles size stop p l)
    (hguard : ∀ q ∈ l, guard q) (hstop : guard stop = false) (fuel : Nat) (hfuel : l.length < fuel) (s : σ) :
    (walk guard size body fuel s p).visited ⊆ l ∧ (walk guard size body fuel s p).cursor ∈ stop :: l ∧
    ((walk guard size body fuel s p).state.isSome →
      (walk guard size body fuel s p).visited = l ∧ (walk guard size body fuel s p).cursor = stop) := by
  induction h generalizing fuel s with
  | nil =>
    cases fuel with
    | zero => simp at hfuel
    | succ fuel => simp [walk, hstop]
  | @cons p l _ ih =>
    cases fuel with
    | zero => simp at hfuel
    | succ fuel =>
      have hp := hguard p (by simp)
      simp only [walk, hp, ite_true]
      cases hb : body s p with
      | none => simp
      | some s' =>
        obtain ⟨h1, h2, h3⟩ := ih (fun q hq => hguard q (by simp [hq])) fuel
          (by simpa using hfuel) s'
        dsimp only
        refine ⟨?_, ?_, ?_⟩
        · exact List.cons_subset_cons p h1
        · rcases List.mem_cons.mp h2 with h2 | h2
          · simp [h2]
          · simp [h2]
        · intro hs
          obtain ⟨h4, h5⟩ := h3 hs
          exact ⟨by rw [h4], h5⟩

lemma walk_isSome (guard : Nat → Bool) (size : Nat → Nat) (fuel p : Nat) :
    (walk guard size (fun (s : Unit) _ => some s) fuel () p).state.isSome := by
  induction fuel generalizing p with
  | zero => rfl
  | succ fuel ih =>
    simp only [walk]
    split_ifs
    · exact ih _
    · rfl

lemma walk_last (guard : Nat → Bool) (size : Nat → Nat) (fuel p : Nat) :
    let w := walk guard size (fun (s : Unit) _ => some s) fuel () p
    w.cursor = p ∨ ∃ q ∈ w.visited, q + size q = w.cursor := by
  induction fuel generalizing p with
  | zero => exact .inl rfl
  | succ fuel ih =>
    simp only [walk]
    split_ifs with hp
    · right
      rcases ih (p + size p) with hlast | ⟨q, hq, hlast⟩
      · exact ⟨p, List.mem_cons_self, hlast.symm⟩
      · exact ⟨q, List.mem_cons_of_mem p hq, hlast⟩
    · exact .inl rfl

lemma stop_le_walk_cursor {size : Nat → Nat} (hpos : ∀ q, 0 < size q) (fuel p : Nat) (hfuel : stop < p + fuel) :
    stop ≤ (walk (fun q => decide (q < stop)) size (fun (s : Unit) _ => some s) fuel () p).cursor := by
  induction fuel generalizing p with
  | zero =>
    simp only [walk]
    omega
  | succ fuel ih =>
    have hp := hpos p
    by_cases hlt : p < stop
    · simp only [walk, hlt, decide_true, if_true]
      exact ih (p + size p) (by omega)
    · simp only [walk, hlt, decide_false, Bool.false_eq_true, if_false]
      omega

lemma tiles_of_walk (body : σ → Nat → Option σ) (fuel : Nat) (s : σ) (p : Nat)
    (hstate : (walk (fun q => decide (q < stop)) size body fuel s p).state.isSome)
    (hcursor : (walk (fun q => decide (q < stop)) size body fuel s p).cursor = stop) :
    Tiles size stop p (walk (fun q => decide (q < stop)) size body fuel s p).visited := by
  induction fuel generalizing s p with
  | zero =>
    exact hcursor ▸ Tiles.nil
  | succ fuel ih =>
    by_cases hp : p < stop
    · simp only [walk, hp, decide_true, ite_true] at hstate hcursor ⊢
      cases hb : body s p with
      | none => simp [hb] at hstate
      | some s' =>
        simp only [hb] at hstate hcursor
        exact Tiles.cons (ih s' _ hstate hcursor)
    · simp only [walk, hp, decide_false, Bool.false_eq_true, ite_false] at hcursor ⊢
      exact hcursor ▸ Tiles.nil

end

end OspfMdr.Lib
