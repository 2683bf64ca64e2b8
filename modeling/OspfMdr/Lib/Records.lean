import Mathlib.Tactic

/-!
# Records that follow each other in a list
-/

namespace OspfMdr.Lib
open List

variable {α β : Type} {split : List α → Option (β × List α)}

/-- The records that the list starts with. -/
def records (split : List α → Option (β × List α)) : Nat → List α → List β
  | 0, _ => []
  | n + 1, l =>
    match split l with
    | none => []
    | some (b, l') => b :: records split n l'

/-- Fuel for each element of the list is enough. -/
lemma records_fuel (hdec : ∀ l b l', split l = some (b, l') → l'.length < l.length) {m n : Nat} {l : List α}
    (hm : l.length ≤ m) (hn : l.length ≤ n) : records split m l = records split n l := by
  induction m generalizing n l with
  | zero =>
    obtain _ | n := n
    · rfl
    cases h : split l with
    | none => simp [records, h]
    | some r =>
      have := hdec _ _ _ h
      omega
  | succ m ih =>
    cases h : split l with
    | none => cases n <;> simp [records, h]
    | some r =>
      have hlt := hdec _ _ _ h
      obtain ⟨n, rfl⟩ : ∃ k, n = k + 1 := ⟨n - 1, by omega⟩
      simp only [records, h]
      exact congrArg _ (ih (by omega) (by omega))

/-- The records are at the front of the first list; the second list is behind them. -/
inductive Peeled (split : List α → Option (β × List α)) : List α → List β → List α → Prop
  | nil (l : List α) : Peeled split l [] l
  | cons {l l' r : List α} {b : β} {bs : List β} (h : split l = some (b, l')) (hs : Peeled split l' bs r) :
      Peeled split l (b :: bs) r

namespace Peeled

variable {l r : List α} {bs : List β} {n : Nat}

lemma length_le (hdec : ∀ l b l', split l = some (b, l') → l'.length < l.length)
    (h : Peeled split l bs r) : bs.length + r.length ≤ l.length := by
  induction h with
  | nil l => simp
  | cons h _ ih =>
    have := hdec _ _ _ h
    simp only [length_cons]
    omega

lemma isPrefix (h : Peeled split l bs r) (hn : bs.length ≤ n) : bs <+: records split n l := by
  induction h generalizing n with
  | nil l => exact nil_prefix
  | cons h _ ih =>
    obtain _ | n := n
    · simp at hn
    · simp only [length_cons, Nat.add_le_add_iff_right] at hn
      simpa only [records, h, cons_prefix_cons, true_and] using ih hn

/-- Induction over the records of a list that has nothing else. -/
@[elab_as_elim]
lemma whole_induction {motive : ∀ l bs, Peeled split l bs [] → Prop} (nil : motive [] [] (.nil []))
    (cons : ∀ l b l' bs (h : split l = some (b, l')) (hs : Peeled split l' bs []), motive l' bs hs →
      motive l (b :: bs) (.cons h hs)) (h : Peeled split l bs []) : motive l bs h := by
  suffices ∀ r (h : Peeled split l bs r) (hr : r = []), motive l bs (hr ▸ h) from this [] h rfl
  clear h
  intro r h
  induction h with
  | nil l =>
    rintro rfl
    exact nil
  | cons h hs ih =>
    rintro rfl
    exact cons _ _ _ _ h hs (ih rfl)

lemma records_eq (hnil : split [] = none) (h : Peeled split l bs []) (hn : bs.length ≤ n) :
    records split n l = bs := by
  induction h using whole_induction generalizing n with
  | nil => cases n <;> simp [records, hnil]
  | cons l b l' bs h _ ih =>
    obtain _ | n := n
    · simp at hn
    · simp only [length_cons, Nat.add_le_add_iff_right] at hn
      simp only [records, h, ih hn]

/-- Nothing can be split off behind the records of a list. -/
lemma split_rest (hdec : ∀ l b l', split l = some (b, l') → l'.length < l.length) (hn : l.length ≤ n)
    (h : Peeled split l bs r) (hbs : bs = records split n l) : split r = none := by
  induction h generalizing n with
  | nil l =>
    cases hs : split l with
    | none => rfl
    | some x =>
      have hlt := hdec _ _ _ hs
      obtain ⟨n, rfl⟩ : ∃ k, n = k + 1 := ⟨n - 1, by omega⟩
      simp [records, hs] at hbs
  | cons h _ ih =>
    have hlt := hdec _ _ _ h
    obtain ⟨n, rfl⟩ : ∃ k, n = k + 1 := ⟨n - 1, by omega⟩
    simp only [records, h, cons.injEq, true_and] at hbs
    exact ih (by omega) hbs

lemma rest_unique {r' : List α} (h : Peeled split l bs r) (h' : Peeled split l bs r') : r = r' := by
  induction h with
  | nil l =>
    cases h'
    rfl
  | cons h _ ih =>
    obtain _ | ⟨h2, hs2⟩ := h'
    rw [h] at h2
    cases h2
    exact ih hs2

end Peeled

end OspfMdr.Lib
