import Mathlib.Tactic

/-!
# Runs of a state machine

A condition on every step of a run, a property of every state of a run, and how one gives the
other.
-/

namespace OspfMdr.Lib
open List

variable {σ ε : Type*} {step : σ → ε → σ} {Inv P : σ → Prop} {C : σ → ε → Prop} {events : List ε}

/-- The property holds in the first state and after each event. -/
def EachState (step : σ → ε → σ) (P : σ → Prop) : σ → List ε → Prop
  | s, [] => P s
  | s, e :: events => P s ∧ EachState step P (step s e) events

/-- The condition holds for each event in the state in which it happens. -/
def StepsOk (step : σ → ε → σ) (C : σ → ε → Prop) : σ → List ε → Prop
  | _, [] => True
  | s, e :: events => C s e ∧ StepsOk step C (step s e) events

instance decidableStepsOk [∀ s e, Decidable (C s e)] (s : σ) :
    (events : List ε) → Decidable (StepsOk step C s events)
  | [] => inferInstanceAs (Decidable True)
  | e :: events =>
    have := decidableStepsOk (step s e) events
    inferInstanceAs (Decidable (_ ∧ _))

lemma StepsOk.inv (hstep : ∀ s e, Inv s → C s e → Inv (step s e)) {s : σ} (hs : Inv s)
    (h : StepsOk step C s events) : Inv (events.foldl step s) := by
  induction events generalizing s with
  | nil => exact hs
  | cons e events ih => exact ih (hstep s e hs h.1) h.2

lemma stepsOk_append {s : σ} {events' : List ε} : StepsOk step C s (events ++ events') ↔
    StepsOk step C s events ∧ StepsOk step C (events.foldl step s) events' := by
  induction events generalizing s with
  | nil => exact (and_iff_right trivial).symm
  | cons e events ih => exact (and_congr_right fun _ => ih).trans and_assoc.symm

lemma EachState.head {s : σ} (h : EachState step P s events) : P s := by
  cases events with
  | nil => exact h
  | cons e events => exact h.1

/-- A condition that is exactly what one step needs is exactly what a run needs, in runs whose steps are all guarded. -/
lemma eachState_iff_stepsOk_of_guard {G : σ → ε → Prop} (hinv : ∀ s e, Inv s → G s e → Inv (step s e))
    (hiff : ∀ s e, Inv s → G s e → P s → (P (step s e) ↔ C s e)) {s : σ} (hs : Inv s) (hP : P s)
    (hG : StepsOk step G s events) : EachState step P s events ↔ StepsOk step C s events := by
  induction events generalizing s with
  | nil => exact iff_of_true hP trivial
  | cons e events ih =>
    obtain ⟨hguard, hG⟩ := hG
    have hnext := hinv s e hs hguard
    have hthis := hiff s e hs hguard hP
    constructor
    · rintro ⟨-, hrest⟩
      exact ⟨hthis.mp hrest.head, (ih hnext hrest.head hG).mp hrest⟩
    · rintro ⟨hC, hrest⟩
      exact ⟨hP, (ih hnext (hthis.mpr hC) hG).mpr hrest⟩

lemma stepsOk_of_inv (hinv : ∀ s e, Inv s → Inv (step s e)) (hC : ∀ s e, Inv s → C s e) {s : σ} (hs : Inv s)
    (events : List ε) : StepsOk step C s events := by
  induction events generalizing s with
  | nil => trivial
  | cons e events ih => exact ⟨hC s e hs, ih (hinv s e hs)⟩

lemma eachState_iff_stepsOk (hinv : ∀ s e, Inv s → Inv (step s e))
    (hiff : ∀ s e, Inv s → P s → (P (step s e) ↔ C s e)) {s : σ} (hs : Inv s) (hP : P s)
    (events : List ε) : EachState step P s events ↔ StepsOk step C s events :=
  eachState_iff_stepsOk_of_guard (fun s e hs _ => hinv s e hs) (fun s e hs _ => hiff s e hs) hs hP
    (stepsOk_of_inv hinv (fun _ _ _ => trivial) hs events)

lemma foldl_iff_stepsOk (hinv : ∀ s e, Inv s → Inv (step s e))
    (hiff : ∀ s e, Inv s → (P (step s e) ↔ P s ∧ C s e)) {s : σ} (hs : Inv s) (events : List ε) :
    P (events.foldl step s) ↔ P s ∧ StepsOk step C s events := by
  induction events generalizing s with
  | nil => exact (and_iff_left trivial).symm
  | cons e events ih => rw [foldl_cons, ih (hinv s e hs), hiff s e hs, and_assoc]; rfl

/-- The condition holds for each event in the state in which it happens, as long as no step has failed. -/
def PartialStepsOk (step : σ → ε → Option σ) (C : σ → ε → Prop) : σ → List ε → Prop
  | _, [] => True
  | s, e :: events => C s e ∧ ∀ s', step s e = some s' → PartialStepsOk step C s' events

lemma PartialStepsOk.inv {step : σ → ε → Option σ}
    (hstep : ∀ s e, Inv s → C s e → ∃ s', step s e = some s' ∧ Inv s') {s : σ} (hs : Inv s)
    (h : PartialStepsOk step C s events) : ∃ s', events.foldlM step s = some s' ∧ Inv s' := by
  induction events generalizing s with
  | nil => exact ⟨s, rfl, hs⟩
  | cons e events ih =>
    obtain ⟨s1, hs1, hinv⟩ := hstep s e hs h.1
    obtain ⟨s', hrun, hinv'⟩ := ih hinv (h.2 s1 hs1)
    refine ⟨s', ?_, hinv'⟩
    rw [foldlM_cons, hs1]
    exact hrun

section loops
variable {α : Type} {f : σ → α → Option σ} {I : σ → Prop} {l : List α} {s s' : σ}

/-- A loop that cannot fail where the invariant holds. -/
lemma foldlM_total (hstep : ∀ a ∈ l, ∀ s, I s → ∃ s', f s a = some s' ∧ I s') (hs : I s) :
    ∃ s', l.foldlM f s = some s' ∧ I s' := by
  induction l generalizing s with
  | nil => exact ⟨s, rfl, hs⟩
  | cons a l ih =>
    obtain ⟨s1, hf, hs1⟩ := hstep a mem_cons_self s hs
    obtain ⟨s2, hl, hs2⟩ := ih (fun b hb => hstep b (mem_cons_of_mem a hb)) hs1
    refine ⟨s2, ?_, hs2⟩
    rw [foldlM_cons, hf]
    exact hl

lemma foldlM_keeps (hstep : ∀ a ∈ l, ∀ s s', f s a = some s' → I s → I s') (h : l.foldlM f s = some s')
    (hs : I s) : I s' := by
  induction l generalizing s with
  | nil =>
    cases h
    exact hs
  | cons a l ih =>
    obtain ⟨s1, hs1, h⟩ := Option.bind_eq_some_iff.mp h
    exact ih (fun b hb => hstep b (mem_cons_of_mem a hb)) h (hstep a mem_cons_self s s1 hs1 hs)

end loops

end OspfMdr.Lib
