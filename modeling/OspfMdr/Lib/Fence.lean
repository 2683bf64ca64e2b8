import OspfMdr.Lib.Cursor

/-!
# Scanners that stay inside of a part of the buffer

A scanner stays inside of the first `e` elements when it does the same in a buffer that ends there.
-/

namespace OspfMdr.Lib
open List Cursor Scan

variable {α β γ : Type} {buf : List α} {e p n : Nat} {s : Scan α β} {Q R : β → Nat → Prop} {b : β} {q : Nat}
  {o : Option β}

def Cursor.at (buf : List α) (p : Nat) : Cursor α := ⟨buf.take p, buf.drop p⟩

namespace Cursor

variable {c : Cursor α}

lemma at_all : Cursor.at c.all c.pos = c := seek_self

lemma all_at : (Cursor.at buf p).all = buf := take_append_drop p buf

lemma pos_at (h : p ≤ buf.length) : (Cursor.at buf p).pos = p := by
  simp [Cursor.at, pos, h]

lemma advance_at : (Cursor.at buf p).advance n = Cursor.at buf (p + n) := by
  simp only [Cursor.at, advance, drop_drop, mk.injEq, and_true]
  rw [take_add]

lemma seek_at : (Cursor.at buf p).seek q = Cursor.at buf q := by
  rw [seek, all_at]
  rfl

end Cursor

namespace Scan

lemma pos_run_at (h : p ≤ buf.length) : pos.run (.at buf p) = some (p, .at buf p) := by
  rw [pos_run, pos_at h]

/-- The reader run on the list up to position `e` only. -/
def confined (e : Nat) (s : Scan α β) : Scan α β := fun c =>
  (s.run (.at (c.all.take e) c.pos)).map fun r => (r.1, .at c.all r.2.pos)

/-- The scanner succeeds at `p`, at a position up to `e`, and does not look behind `e`. -/
def Inside (buf : List α) (e p : Nat) (s : Scan α β) (Q : β → Nat → Prop) : Prop :=
  ∃ b q, q ≤ e ∧ Q b q ∧ s.run (.at buf p) = some (b, .at buf q) ∧
    s.run (.at (buf.take e) p) = some (b, .at (buf.take e) q)

namespace Inside

lemma mono (h : Inside buf e p s R) (hQ : ∀ b q, R b q → Q b q) : Inside buf e p s Q := by
  obtain ⟨b, q, hq, hR, hrun, hrun'⟩ := h
  exact ⟨b, q, hq, hQ b q hR, hrun, hrun'⟩

lemma pure (hp : p ≤ e) (hQ : Q b p) : Inside buf e p (Pure.pure b) Q := ⟨b, p, hp, hQ, rfl, rfl⟩

lemma bind {f : β → Scan α γ} {Q : γ → Nat → Prop} (h : Inside buf e p s R)
    (hf : ∀ b q, q ≤ e → R b q → Inside buf e q (f b) Q) : Inside buf e p (s >>= f) Q := by
  obtain ⟨b, q, hq, hR, hrun, hrun'⟩ := h
  obtain ⟨b2, q2, hq2, hQ, hrun2, hrun2'⟩ := hf b q hq hR
  refine ⟨b2, q2, hq2, hQ, ?_, ?_⟩
  · rw [bind_run hrun, hrun2]
  · rw [bind_run hrun', hrun2']

section
variable {f : β → Scan α γ} {Q : γ → Nat → Prop} {q : Nat}

lemma bind_at {T : β → Prop} (h : Inside buf e p s fun b q' => T b ∧ q' = q)
    (hf : ∀ b, T b → q ≤ e → Inside buf e q (f b) Q) : Inside buf e p (s >>= f) Q := by
  refine h.bind ?_
  rintro b q' hq ⟨hb, rfl⟩
  exact hf b hb hq

lemma bind_eq (h : Inside buf e p s fun b' q' => b' = b ∧ q' = q)
    (hf : q ≤ e → Inside buf e q (f b) Q) : Inside buf e p (s >>= f) Q := by
  refine h.bind_at ?_
  rintro b' rfl
  exact hf

lemma bind_to (h : Inside buf e p s fun _ q' => q' = q) (hf : ∀ b, q ≤ e → Inside buf e q (f b) Q) :
    Inside buf e p (s >>= f) Q :=
  (h.mono fun _ _ hq => ⟨trivial, hq⟩).bind_at fun b _ => hf b

end

lemma lift (ho : o = some b) (hp : p ≤ e) (hQ : Q b p) :
    Inside buf e p (StateT.lift o : Scan α β) Q := by
  subst ho
  exact ⟨b, p, hp, hQ, rfl, rfl⟩

lemma lift_eq (ho : o = some b) (hp : p ≤ e) :
    Inside buf e p (StateT.lift o : Scan α β) fun b' q => b' = b ∧ q = p :=
  lift ho hp ⟨rfl, rfl⟩

variable (he : e ≤ buf.length)
include he

lemma take (h : p + n ≤ e) :
    Inside buf e p (take n) fun l q => l = (buf.drop p).take n ∧ q = p + n := by
  have hle : n ≤ (Cursor.at buf p).rest.length := by
    rw [Cursor.at, length_drop]
    omega
  have hle' : n ≤ (Cursor.at (buf.take e) p).rest.length := by
    rw [Cursor.at, length_drop, length_take]
    omega
  refine ⟨(buf.drop p).take n, p + n, h, ⟨rfl, rfl⟩, ?_, ?_⟩
  · rw [take_run hle, Cursor.advance_at]
    rfl
  · rw [take_run hle', Cursor.advance_at]
    simp only [Cursor.at, drop_take, take_take]
    rw [min_eq_left (by omega)]

lemma next (h : p < e) : Inside buf e p next fun a q => buf[p]? = some a ∧ q = p + 1 := by
  obtain ⟨a, l, ha, hal⟩ : ∃ a l, buf[p]? = some a ∧ (Cursor.at buf p).rest = a :: l :=
    ⟨_, _, List.getElem?_eq_getElem (by omega), drop_eq_getElem_cons (by omega)⟩
  have hal' : (Cursor.at (buf.take e) p).rest = a :: l.take (e - p - 1) := by
    change (buf.take e).drop p = _
    change buf.drop p = _ at hal
    rw [drop_take, hal, take_cons (by omega)]
  refine ⟨a, p + 1, h, ⟨ha, rfl⟩, ?_, ?_⟩
  · rw [next_run hal, advance_at]
  · rw [next_run hal', advance_at]

lemma seek (h : q ≤ e) : Inside buf e p (seek q) fun _ q' => q' = q := by
  refine ⟨(), q, h, rfl, ?_, ?_⟩
  · rw [seek_run (by rw [all_at]; omega), seek_at]
  · rw [seek_run (by rw [all_at, length_take]; omega), seek_at]

lemma pos (h : p ≤ e) : Inside buf e p pos fun b q => b = p ∧ q = p := by
  refine ⟨p, p, h, ⟨rfl, rfl⟩, ?_, ?_⟩
  · rw [pos_run, Cursor.pos_at (by omega)]
  · rw [pos_run, Cursor.pos_at (by rw [length_take]; omega)]

lemma enough (h : p + n ≤ e) : Inside buf e p (Scan.enough n) fun b q => b ∧ q = p := by
  refine ⟨true, p, by omega, ⟨rfl, rfl⟩, ?_, ?_⟩
  · have hle : n ≤ (Cursor.at buf p).rest.length := by
      rw [Cursor.at, length_drop]
      omega
    simp only [StateT.run, Scan.enough, hle, decide_true]
  · have hle : n ≤ (Cursor.at (buf.take e) p).rest.length := by
      rw [Cursor.at, length_drop, length_take]
      omega
    simp only [StateT.run, Scan.enough, hle, decide_true]

lemma slice (hp : p ≤ e) (h : q + n ≤ e) :
    Inside buf e p (Scan.slice q n) fun l q' => l = (buf.drop q).take n ∧ q' = p := by
  refine ⟨(buf.drop q).take n, p, hp, ⟨rfl, rfl⟩, ?_, ?_⟩
  · rw [slice_run (by rw [all_at]; omega), all_at]
  · rw [slice_run (by rw [all_at, length_take]; omega), all_at, drop_take, take_take,
      min_eq_left (by omega)]

lemma confined_run (hp : p ≤ e) (h : Inside buf e p s Q) :
    (confined e s).run (.at buf p) = s.run (.at buf p) := by
  obtain ⟨b, q, hq, -, hrun, hrun'⟩ := h
  change ((s.run (.at ((Cursor.at buf p).all.take e) (Cursor.at buf p).pos)).map _) = _
  rw [all_at, pos_at (by omega), hrun', hrun]
  simp only [Option.map_some, pos_at (show q ≤ (buf.take e).length by rw [length_take]; omega)]

end Inside

/-- Both readers give the same result and stop at the same place, where `Q` holds. -/
def Agree (buf : List α) (p : Nat) (s s' : Scan α β) (Q : β → Nat → Prop) : Prop :=
  ∃ b q, Q b q ∧ s.run (.at buf p) = some (b, .at buf q) ∧ s'.run (.at buf p) = some (b, .at buf q)

namespace Agree

variable {s' : Scan α β}

lemma mono (h : Agree buf p s s' R) (hQ : ∀ b q, R b q → Q b q) : Agree buf p s s' Q := by
  obtain ⟨b, q, hR, hrun, hrun'⟩ := h
  exact ⟨b, q, hQ b q hR, hrun, hrun'⟩

lemma bind {f f' : β → Scan α γ} {Q : γ → Nat → Prop} (h : Agree buf p s s' R)
    (hf : ∀ b q, R b q → Agree buf q (f b) (f' b) Q) : Agree buf p (s >>= f) (s' >>= f') Q := by
  obtain ⟨b, q, hR, hrun, hrun'⟩ := h
  obtain ⟨b2, q2, hQ, hrun2, hrun2'⟩ := hf b q hR
  refine ⟨b2, q2, hQ, ?_, ?_⟩
  · rw [bind_run hrun, hrun2]
  · rw [bind_run hrun', hrun2']

end Agree

namespace Inside

lemma agree (h : Inside buf e p s Q) : Agree buf p s s fun b q => q ≤ e ∧ Q b q := by
  obtain ⟨b, q, hq, hQ, hrun, -⟩ := h
  exact ⟨b, q, ⟨hq, hQ⟩, hrun, hrun⟩

lemma agree_confined (he : e ≤ buf.length) (hp : p ≤ e) (h : Inside buf e p s Q) :
    Agree buf p s (confined e s) fun b q => q ≤ e ∧ Q b q := by
  have hconfined := confined_run he hp h
  obtain ⟨b, q, hq, hQ, hrun, -⟩ := h
  exact ⟨b, q, ⟨hq, hQ⟩, hrun, hconfined.trans hrun⟩

end Inside

end Scan

end OspfMdr.Lib
