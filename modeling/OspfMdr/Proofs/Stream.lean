import OspfMdr.Lib.Fence
import OspfMdr.Model.Stream

namespace OspfMdr.Bgp
open Lib Scan Cursor Scan.Inside

variable {s : Stream} {a b c d : UInt8} {l : List UInt8}

lemma streamGetc_run (h : s.rest = a :: l) : streamGetc.run s = some (a, s.advance 1) := next_run h

lemma streamGetw_run (h : s.rest = a :: b :: l) : streamGetw.run s = some (word a b, s.advance 2) := by
  unfold streamGetw
  rw [bind_run (next_run h), bind_run (next_run (rest_step h)), advance_advance]
  rfl

lemma streamGetl_run (h : s.rest = a :: b :: c :: d :: l) :
    streamGetl.run s = some (long a b c d, s.advance 4) := by
  have h1 := rest_step h
  have h2 := rest_step h1
  have h3 := rest_step h2
  unfold streamGetl
  rw [bind_run (next_run h), bind_run (next_run h1), bind_run (next_run h2),
    bind_run (next_run h3), advance_advance, advance_advance, advance_advance]
  rfl

lemma streamForwardGetp_run {n : Nat} (h : n ≤ s.rest.length) :
    (streamForwardGetp n).run s = some ((), s.advance n) := by
  unfold streamForwardGetp
  rw [bind_run pos_run, seek_run (by rw [← pos_add_rest]; omega), seek_pos]

section inside

variable {buf : List UInt8} {e p : Nat}

lemma take_drop_cons {n : Nat} (ha : buf[p]? = some a) :
    (buf.drop p).take (n + 1) = a :: (buf.drop (p + 1)).take n := by
  obtain ⟨hlt, rfl⟩ := List.getElem?_eq_some_iff.mp ha
  rw [List.drop_eq_getElem_cons hlt, List.take_succ_cons]

lemma length_take_drop {n : Nat} (h : p + n ≤ buf.length) : ((buf.drop p).take n).length = n := by
  rw [List.length_take, List.length_drop]
  omega

variable (he : e ≤ buf.length)
include he

lemma inside_getc (h : p < e) :
    Scan.Inside buf e p streamGetc fun a q => buf[p]? = some a ∧ q = p + 1 :=
  next he h

lemma inside_getw (h : p + 2 ≤ e) : Scan.Inside buf e p streamGetw fun w q =>
    (∃ a b, buf[p]? = some a ∧ buf[p + 1]? = some b ∧ w = word a b) ∧ q = p + 2 := by
  refine (next he (by omega)).bind_at fun a ha _ => ?_
  refine (next he (by omega)).bind_at fun b hb _ => ?_
  exact .pure h ⟨⟨a, b, ha, hb, rfl⟩, rfl⟩

lemma inside_getl (h : p + 4 ≤ e) : Scan.Inside buf e p streamGetl fun w q =>
    (∃ a b c d, (buf.drop p).take 4 = [a, b, c, d] ∧ w = long a b c d) ∧ q = p + 4 := by
  refine (next he (by omega)).bind_at fun a ha _ => ?_
  refine (next he (by omega)).bind_at fun b hb _ => ?_
  refine (next he (by omega)).bind_at fun c hc _ => ?_
  refine (next he (by omega)).bind_at fun d hd _ => ?_
  refine .pure h ⟨⟨a, b, c, d, ?_, rfl⟩, rfl⟩
  rw [take_drop_cons ha, take_drop_cons hb, take_drop_cons hc, take_drop_cons hd, List.take_zero]

lemma inside_forward {n : Nat} (h : p + n ≤ e) :
    Scan.Inside buf e p (streamForwardGetp n) fun _ q => q = p + n := by
  refine (pos he (by omega)).bind_eq fun _ => ?_
  exact seek he h

end inside

end OspfMdr.Bgp
