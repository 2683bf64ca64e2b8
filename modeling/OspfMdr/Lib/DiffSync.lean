import Mathlib.Tactic

/-!
# Synchronisation by differences

A sender numbers its messages, and `sent k x` is what the item `x` was at message `k`. Each
change is repeated in `repeats` messages. `view x t` is that the receiver holds `x` as `t`.
-/

namespace OspfMdr.Lib

variable {V T : Type*} {repeats n lost : Nat} {sent sent' : Nat → V → T} {view view' : V → T → Prop}

/-- Before message `n` the last `lost` messages were lost and the receiver has the one before. -/
structure DiffSync (repeats : Nat) (sent : Nat → V → T) (n lost : Nat) (view : V → T → Prop) :
    Prop where
  lost_lt : lost < repeats
  sent_lt : lost < n
  agrees : ∀ x, view x (sent (n - 1 - lost) x)

namespace DiffSync

lemma congr_sent (h : DiffSync repeats sent n lost view) (hsent : ∀ k < n, sent' k = sent k) :
    DiffSync repeats sent' n lost view := by
  refine ⟨h.lost_lt, h.sent_lt, fun x => ?_⟩
  have hlost := h.sent_lt
  rw [hsent _ (by omega)]
  exact h.agrees x

lemma lose (h : DiffSync repeats sent n lost view) (hlost : lost + 1 < repeats) :
    DiffSync repeats sent (n + 1) (lost + 1) view := by
  have hsent := h.sent_lt
  refine ⟨hlost, by omega, fun x => ?_⟩
  have hk : n + 1 - 1 - (lost + 1) = n - 1 - lost := by omega
  rw [hk]
  exact h.agrees x

lemma full (hrepeats : 0 < repeats) (h : ∀ x, view x (sent n x)) :
    DiffSync repeats sent (n + 1) 0 view :=
  ⟨hrepeats, by omega, h⟩

/-- A message of differences either holds an item, or the item is now what it was at each of the
last `repeats` messages. -/
lemma deliver (h : DiffSync repeats sent n lost view)
    (hitem : ∀ x, view' x (sent n x) ∨ ((∀ t, view x t → view' x t) ∧ ∀ k < n, n ≤ k + repeats →
      view' x (sent k x) → view' x (sent n x))) : DiffSync repeats sent (n + 1) 0 view' := by
  have hlost := h.lost_lt
  have hsent := h.sent_lt
  refine full (by omega) fun x => ?_
  rcases hitem x with hx | ⟨hsame, hstable⟩
  · exact hx
  · exact hstable (n - 1 - lost) (by omega) (by omega) (hsame _ (h.agrees x))

end DiffSync

end OspfMdr.Lib
