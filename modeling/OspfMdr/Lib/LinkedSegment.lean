import Mathlib.Tactic

/-!
# Doubly linked segments

A segment of a doubly linked list, given by its two link functions. Every pointer
patch of an insertion, a removal or a replacement puts a node, or nothing, into the
place of another.
-/

namespace OspfMdr.Lib
open List

variable {α : Type} {next prev next' prev' : α → Option α}

/-- The nodes of the list are linked in both directions; the first pointer stands before
them and the last one behind them. -/
def Segment (next prev : α → Option α) : Option α → List α → Option α → Prop
  | _, [], _ => True
  | p, a :: l, e => prev a = p ∧ next a = l.head?.or e ∧ Segment next prev (some a) l e

variable {p e : Option α} {l1 l2 l : List α}

lemma segment_append : Segment next prev p (l1 ++ l2) e ↔ Segment next prev p l1 (l2.head?.or e) ∧
    Segment next prev (l1.getLast?.or p) l2 e := by
  induction l1 generalizing p with
  | nil => simp [Segment]
  | cons a l ih =>
    have hlast : (a :: l).getLast?.or p = l.getLast?.or (some a) := by
      rw [List.getLast?_cons]
      cases l.getLast? <;> rfl
    simp only [cons_append, Segment, ih, hlast, List.head?_append, Option.or_assoc, and_assoc]

section
variable (h : Segment next prev p l e)
include h

lemma Segment.congr (hnext : ∀ a ∈ l, next' a = next a)
    (hprev : ∀ a ∈ l, prev' a = prev a) : Segment next' prev' p l e := by
  induction l generalizing p with
  | nil => trivial
  | cons a l ih =>
    obtain ⟨hp, hn, hrest⟩ := h
    refine ⟨(hprev a mem_cons_self).trans hp, (hnext a mem_cons_self).trans hn, ?_⟩
    exact ih hrest (fun b hb => hnext b (mem_cons_of_mem _ hb))
      fun b hb => hprev b (mem_cons_of_mem _ hb)

lemma Segment.start {p' : Option α} (hnext : ∀ a ∈ l, next' a = next a)
    (htail : ∀ a ∈ l.tail, prev' a = prev a) (hhead : ∀ a, l.head? = some a → prev' a = p') :
    Segment next' prev' p' l e := by
  induction l generalizing p p' with
  | nil => trivial
  | cons a l ih =>
    obtain ⟨-, hn, hrest⟩ := h
    refine ⟨hhead a rfl, (hnext a mem_cons_self).trans hn, ?_⟩
    refine ih hrest (fun b hb => hnext b (mem_cons_of_mem _ hb))
      (fun b hb => htail b (mem_of_mem_tail hb)) ?_
    intro b hb
    cases l with
    | nil => simp at hb
    | cons c l =>
      obtain rfl : c = b := by simpa using hb
      exact (htail c mem_cons_self).trans hrest.1

lemma Segment.finish {e' : Option α} (hprev : ∀ a ∈ l, prev' a = prev a)
    (hinit : ∀ a ∈ l.dropLast, next' a = next a) (hlast : ∀ a, l.getLast? = some a → next' a = e') :
    Segment next' prev' p l e' := by
  induction l generalizing p with
  | nil => trivial
  | cons a l ih =>
    obtain ⟨hp, hn, hrest⟩ := h
    refine ⟨(hprev a mem_cons_self).trans hp, ?_, ?_⟩
    · cases l with
      | nil => simpa using hlast a rfl
      | cons b l => simpa using (hinit a (by simp)).trans hn
    · refine ih hrest (fun b hb => hprev b (mem_cons_of_mem _ hb)) (fun b hb => ?_) ?_
      · cases l with
        | nil => simp at hb
        | cons c l => exact hinit b (by simpa using .inr hb)
      · intro b hb
        refine hlast b ?_
        rw [List.getLast?_cons, hb]
        rfl

end

/-- The links after `new`, or nothing, was put between `l1` and `l2`. -/
def nextAfter [DecidableEq α] (new : Option α) (l1 l2 : List α) (next : α → Option α) (a : α) :
    Option α :=
  if new = some a then l2.head? else if l1.getLast? = some a then new.or l2.head? else next a

def prevAfter [DecidableEq α] (new : Option α) (l1 l2 : List α) (prev : α → Option α) (a : α) :
    Option α :=
  if new = some a then l1.getLast? else if l2.head? = some a then new.or l1.getLast? else prev a

lemma Segment.put [DecidableEq α] {old new : Option α}
    (h : Segment next prev none (l1 ++ old.toList ++ l2) none) (hnodup : (l1 ++ old.toList ++ l2).Nodup)
    (hnew : ∀ a, new = some a → a ∉ l1 ++ l2) :
    Segment (nextAfter new l1 l2 next) (prevAfter new l1 l2 prev) none (l1 ++ new.toList ++ l2) none := by
  have hne : ∀ b ∈ l1 ++ l2, new ≠ some b := fun b hb he => hnew b he hb
  have hnext : ∀ b ∈ l1 ++ l2, l1.getLast? ≠ some b → nextAfter new l1 l2 next b = next b :=
    fun b hb hlast => (if_neg (hne b hb)).trans (if_neg hlast)
  have hprev : ∀ b ∈ l1 ++ l2, l2.head? ≠ some b → prevAfter new l1 l2 prev b = prev b :=
    fun b hb hhead => (if_neg (hne b hb)).trans (if_neg hhead)
  rw [segment_append, segment_append] at h ⊢
  obtain ⟨hnodup1, hnd2, hdisj⟩ := nodup_append.mp hnodup
  have hdisj : ∀ b ∈ l1, b ∉ l2 := fun b hb hb2 => hdisj b (mem_append_left _ hb) b hb2 rfl
  refine ⟨⟨?_, ?_⟩, ?_⟩
  · refine h.1.1.finish (fun b hb => ?_) (fun b hb => ?_) (fun b hb => ?_)
    · exact hprev b (mem_append_left _ hb) fun hhead => hdisj b hb (mem_of_head? hhead)
    · refine hnext b (mem_append_left _ (dropLast_subset _ hb)) fun hlast => ?_
      obtain ⟨l, rfl⟩ : ∃ l, l1 = l ++ [b] := ⟨l1.dropLast, (dropLast_append_getLast? b hlast).symm⟩
      rw [dropLast_concat] at hb
      exact (nodup_append.mp (nodup_append.mp hnodup1).1).2.2 b hb b (by simp) rfl
    · rw [nextAfter, if_neg (hne b (mem_append_left _ (mem_of_getLast? hb))), if_pos hb]
      cases new <;> simp
  · cases new with
    | none => trivial
    | some a => exact ⟨by simp [prevAfter], by simp [nextAfter], trivial⟩
  · refine h.2.start (fun b hb => ?_) (fun b hb => ?_) (fun b hb => ?_)
    · exact hnext b (mem_append_right _ hb) fun hlast => hdisj b (mem_of_getLast? hlast) hb
    · refine hprev b (mem_append_right _ (mem_of_mem_tail hb)) fun hhead => ?_
      cases l2 with
      | nil => simp at hb
      | cons c l =>
        obtain rfl : c = b := by simpa using hhead
        exact (nodup_cons.mp hnd2).1 hb
    · rw [prevAfter, if_neg (hne b (mem_append_right _ (mem_of_head? hb))), if_pos hb]
      cases new <;> simp

lemma Segment.next_eq {a : α} (h : Segment next prev p (l1 ++ a :: l2) e) : next a = l2.head?.or e :=
  (segment_append.mp h).2.2.1

lemma Segment.prev_eq {a : α} (h : Segment next prev p (l1 ++ a :: l2) e) : prev a = l1.getLast?.or p :=
  (segment_append.mp h).2.1

def follow (next : α → Option α) (ok : α → Bool) : Nat → Option α → List α
  | _, none => []
  | 0, some _ => []
  | fuel + 1, some a => if ok a then a :: follow next ok fuel (next a) else []

lemma Segment.follow_eq (h : Segment next prev p l none) (ok : α → Bool) (fuel : Nat)
    (hfuel : l.length ≤ fuel) : follow next ok fuel l.head? = l.takeWhile ok := by
  induction l generalizing p fuel with
  | nil => cases fuel <;> rfl
  | cons a l ih =>
    obtain ⟨-, hn, hrest⟩ := h
    cases fuel with
    | zero => simp at hfuel
    | succ fuel =>
      have hrec := ih hrest fuel (by simpa using hfuel)
      simp only [List.head?_cons, follow, takeWhile_cons, hn, Option.or_none, hrec]

end OspfMdr.Lib
