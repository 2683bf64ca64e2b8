import OspfMdr.Proofs.ZebraMoves

/-!
# The selection of a node of the RIB of zebra

The assertion of the loop holds, and the loop and what follows it are moves.
-/

namespace OspfMdr.Zebra.Rtable
open List

variable {addr : Nat} {select : Rib}

section process

variable {env : Surroundings} {st : Rtable} {rn : NodeKey}

lemma unlinkFrom_map {info : List Rib} (h : ((info.map Rib.mark).map Mark.addr).Nodup) (addr : Nat) :
    (unlinkFrom addr info).map Rib.mark = (info.map Rib.mark).filter fun m => m.addr ≠ addr := by
  cases info with
  | nil => rfl
  | cons head info =>
    have hfilter : (info.filter fun r => decide (r.addr ≠ addr)).map Rib.mark =
        (info.map Rib.mark).filter fun m => decide (m.addr ≠ addr) := by
      rw [filter_map]
      rfl
    by_cases hhead : head.addr = addr
    · -- the others keep their places
      have hall : (info.map Rib.mark).filter (fun m => decide (m.addr ≠ addr)) = info.map Rib.mark := by
        rw [filter_eq_self]
        intro m hm
        simp only [map_cons, nodup_cons] at h
        exact decide_eq_true fun heq => h.1 (mem_map.mpr ⟨m, hm, heq.trans hhead.symm⟩)
      rw [map_cons, filter_cons_of_neg (by simp [Rib.mark, hhead]), hall]
      unfold unlinkFrom
      dsimp only
      rw [if_pos hhead]
      cases info <;> rfl
    · unfold unlinkFrom
      dsimp only
      rw [if_neg hhead, map_cons, map_cons, filter_cons_of_pos (by simp [Rib.mark, hhead]), hfilter]

lemma unlink_ribUnlink (hs : Sound st) (hsel : ∀ m ∈ st.marks rn, m.addr = addr → m.selected = false) :
    Move .unlink st (st.ribUnlink rn addr) := by
  have h := moved_setNode st rn (unlinkFrom addr (st.nodes rn))
  rw [unlinkFrom_map (hs rn).nodup] at h
  exact .unlink rn addr h hsel rfl rfl

lemma nexthopActiveUpdate_mark (rib : Rib) (set : Bool) :
    (st.nexthopActiveUpdate env rn rib set).mark = rib.mark := rfl

/-- The changes that the scan of `rib_process` makes. -/
def inLoop (κ : MoveKind) : Prop := κ = .quiet ∨ κ = .unlink

/-- What holds when the entries in `rest` are still to be scanned. -/
structure LoopInv (st0 : Rtable) (rn : NodeKey) (rest : List Rib) (s : ProcessScan) : Prop where
  moves : Moves inLoop st0 s.st
  sound : Sound s.st
  rest_mem : ∀ r ∈ rest, r.mark ∈ s.st.marks rn
  rest_nodup : (rest.map Rib.addr).Nodup
  select_mem : ∀ r, s.select = some r →
    r.mark ∈ s.st.marks rn ∧ r.distance ≠ distanceInfinity ∧ r.addr ∉ rest.map Rib.addr
  fib_mem : ∀ a, s.fib = some a →
    (∃ m ∈ s.st.marks rn, m.addr = a ∧ m.selected) ∧ a ∉ rest.map Rib.addr
  fib_none : s.fib = none → ∀ m ∈ s.st.marks rn, m.selected → m.addr ∈ rest.map Rib.addr
  del : s.del → s.fib ≠ none

section step

variable {st0 : Rtable} {rib : Rib} {rest : List Rib} {s : ProcessScan}

lemma LoopInv.assertion (h : LoopInv st0 rn (rib :: rest) s) :
    (rib.flags.selected && s.fib.isSome) = false := by
  by_contra hfail
  rw [Bool.not_eq_false, Bool.and_eq_true] at hfail
  obtain ⟨a, ha⟩ := Option.isSome_iff_exists.mp hfail.2
  obtain ⟨⟨m, hm, hma, hms⟩, hnot⟩ := h.fib_mem a ha
  have heq := (h.sound rn).one rib.mark (h.rest_mem rib mem_cons_self) m hm hfail.1 hms
  exact hnot (mem_map.mpr ⟨rib, mem_cons_self, heq.trans hma⟩)

lemma LoopInv.note (h : LoopInv st0 rn (rib :: rest) s) (del : Bool) (hdel : del → s.del ∨ rib.flags.selected) :
    LoopInv st0 rn rest { s with fib := if rib.flags.selected then some rib.addr else s.fib, del := del } := by
  have hnodup := nodup_cons.mp h.rest_nodup
  have hrib := h.rest_mem rib mem_cons_self
  refine ⟨h.moves, h.sound, fun r hr => h.rest_mem r (mem_cons_of_mem _ hr), hnodup.2, fun r hr => ?_,
    fun a ha => ?_, fun hnone m hm hsel => ?_, fun hd => ?_⟩
  · obtain ⟨hm, hdist, hnot⟩ := h.select_mem r hr
    exact ⟨hm, hdist, fun hin => hnot (mem_cons_of_mem _ hin)⟩
  · split_ifs at ha with hsel
    · cases ha
      exact ⟨⟨rib.mark, hrib, rfl, hsel⟩, hnodup.1⟩
    · obtain ⟨hm, hnot⟩ := h.fib_mem a ha
      exact ⟨hm, fun hin => hnot (mem_cons_of_mem _ hin)⟩
  · split_ifs at hnone with hself
    rcases mem_cons.mp (h.fib_none hnone m hm hsel) with haddr | hin
    · have heq := (h.sound rn).eq_of_addr hm hrib haddr
      rw [heq] at hsel
      exact absurd hsel hself
    · exact hin
  · rcases hdel hd with hold | hsel
    · have hfib := h.del hold
      split_ifs
      · exact nofun
      · exact hfib
    · dsimp only
      rw [if_pos hsel]
      exact nofun

section
variable (h : LoopInv st0 rn rest s)
include h

lemma LoopInv.quiet {st' : Rtable} (hmove : Move .quiet s.st st') :
    LoopInv st0 rn rest { s with st := st' } := by
  have hmarks := hmove.marks_eq rn
  refine ⟨h.moves.tail ⟨_, .inl rfl, hmove⟩, hmove.sound h.sound, ?_, h.rest_nodup, ?_, ?_, ?_, h.del⟩ <;>
    dsimp only <;> rw [hmarks]
  · exact h.rest_mem
  · exact h.select_mem
  · exact h.fib_mem
  · exact h.fib_none

lemma LoopInv.unlink (hrest : addr ∉ rest.map Rib.addr)
    (hselect : ∀ r, s.select = some r → r.addr ≠ addr)
    (hsel : ∀ m ∈ s.st.marks rn, m.addr = addr → m.selected = false) :
    LoopInv st0 rn rest { s with st := s.st.ribUnlink rn addr } := by
  have hmove := unlink_ribUnlink h.sound hsel
  have hmarks : (s.st.ribUnlink rn addr).marks rn = (s.st.marks rn).filter fun m => m.addr ≠ addr := by
    rw [ribUnlink, marks_setNode, if_pos rfl, unlinkFrom_map (h.sound rn).nodup]
    rfl
  have hkeep : ∀ m ∈ s.st.marks rn, m.addr ≠ addr → m ∈ (s.st.ribUnlink rn addr).marks rn := fun m hm hne => by
    rw [hmarks]
    exact mem_filter.mpr ⟨hm, decide_eq_true hne⟩
  refine ⟨h.moves.tail ⟨_, .inr rfl, hmove⟩, hmove.sound h.sound, fun r hr => ?_, h.rest_nodup, fun r hr => ?_,
    fun a ha => ?_, fun hnone m hm => ?_, h.del⟩
  · exact hkeep _ (h.rest_mem r hr) fun heq => hrest (mem_map.mpr ⟨r, hr, heq⟩)
  · obtain ⟨hm, hdist, hnot⟩ := h.select_mem r hr
    exact ⟨hkeep _ hm (hselect r hr), hdist, hnot⟩
  · obtain ⟨⟨m, hm, hma, hms⟩, hnot⟩ := h.fib_mem a ha
    refine ⟨⟨m, hkeep m hm fun heq => ?_, hma, hms⟩, hnot⟩
    rw [hsel m hm heq] at hms
    exact Bool.false_ne_true hms
  · rw [hmarks] at hm
    exact h.fib_none hnone m (mem_filter.mp hm).1

lemma LoopInv.choose {r : Rib} (hr : r.mark ∈ s.st.marks rn)
    (hdist : r.distance ≠ distanceInfinity) (hrest : r.addr ∉ rest.map Rib.addr) :
    LoopInv st0 rn rest { s with select := some r } := by
  refine { h with select_mem := ?_ }
  rintro r' ⟨⟩
  exact ⟨hr, hdist, hrest⟩

end

lemma LoopInv.step (env : Surroundings) (h : LoopInv st0 rn (rib :: rest) s) :
    ∃ s', processStep env rn s rib = some s' ∧ LoopInv st0 rn rest s' := by
  have hnodup := nodup_cons.mp h.rest_nodup
  have hrib := h.rest_mem rib mem_cons_self
  unfold processStep
  rw [if_neg (by rw [h.assertion]; exact Bool.false_ne_true)]
  by_cases hremoved : rib.removed
  · rw [if_pos hremoved]
    by_cases hsel : rib.flags.selected
    · rw [if_pos (by rw [if_pos hsel])]
      exact ⟨_, rfl, h.note true fun _ => .inr hsel⟩
    have hfib : s.fib ≠ some rib.addr := fun heq => (h.fib_mem _ heq).2 mem_cons_self
    rw [if_neg (by rw [if_neg hsel]; exact hfib)]
    refine ⟨_, rfl, (h.note s.del .inl).unlink hnodup.1 (fun r hr heq => ?_) fun m hm haddr => ?_⟩
    · exact (h.select_mem r hr).2.2 (heq ▸ mem_cons_self)
    · rw [(h.sound rn).eq_of_addr hm hrib haddr]
      exact Bool.not_eq_true _ ▸ hsel
  · rw [if_neg hremoved]
    have hmove := quiet_setRib h.sound (s.st.nexthopActiveUpdate env rn rib false) hrib
    have hquiet := (h.note s.del .inl).quiet hmove
    have hmark : (s.st.nexthopActiveUpdate env rn rib false).mark ∈
        (s.st.setRib rn (s.st.nexthopActiveUpdate env rn rib false)).marks rn := by
      rw [hmove.marks_eq rn]
      exact hrib
    by_cases hnum : nexthopActiveNum (s.st.nexthopActiveUpdate env rn rib false) = 0
    · rw [if_pos hnum]
      exact ⟨_, rfl, hquiet⟩
    rw [if_neg hnum]
    by_cases hdist : (s.st.nexthopActiveUpdate env rn rib false).distance = distanceInfinity
    · rw [if_pos hdist]
      exact ⟨_, rfl, hquiet⟩
    rw [if_neg hdist]
    have hchosen := hquiet.choose hmark hdist hnodup.1
    cases hselect : s.select with
    | none => exact ⟨_, rfl, hchosen⟩
    | some select =>
      refine ⟨_, rfl, ?_⟩
      by_cases hbeats : beats (s.st.nexthopActiveUpdate env rn rib false) select
      · rw [if_pos hbeats]
        exact hchosen
      · rw [if_neg hbeats, ← hselect]
        exact hquiet

lemma LoopInv.run (env : Surroundings) (h : LoopInv st0 rn rest s) :
    ∃ s', rest.foldlM (processStep env rn) s = some s' ∧ LoopInv st0 rn [] s' := by
  induction rest generalizing s with
  | nil => exact ⟨s, rfl, h⟩
  | cons rib rest ih =>
    obtain ⟨s1, hstep, h1⟩ := h.step env
    obtain ⟨s', hrun, h'⟩ := ih h1
    refine ⟨s', ?_, h'⟩
    rw [foldlM_cons, hstep]
    exact hrun

end step

lemma loop_start (rn : NodeKey) (hs : Sound st) :
    LoopInv st rn (st.nodes rn) ⟨st, none, none, false⟩ where
  moves := .refl
  sound := hs
  rest_mem r hr := mem_marks hr
  rest_nodup := by
    have h := (hs rn).nodup
    rw [marks, map_map] at h
    exact h
  select_mem _ h := absurd h (by simp)
  fib_mem _ h := absurd h nofun
  fib_none _ m hm _ := by
    obtain ⟨r, hr, rfl⟩ := mem_map.mp hm
    exact mem_map_of_mem hr
  del h := absurd h Bool.false_ne_true

/-! ### After the loop -/

lemma redistributeDelete_cases (p : RoutePrefix) (rib : Rib) :
    (st.redistributeDelete p rib).sent = st.sent ∨
      ∃ del : RouteMessage, del.p = p ∧ (st.redistributeDelete p rib).sent = del :: st.sent := by
  unfold redistributeDelete
  split_ifs
  · exact .inl rfl
  · exact .inr ⟨_, rfl, rfl⟩
  · exact .inl rfl

lemma refresh_setRib (hs : Sound st) {rib rib' : Rib} (hmem : rib.mark ∈ st.marks rn)
    (hsel : rib.flags.selected) (hmark : rib'.mark = rib.mark) :
    Move .refresh st (((st.redistributeDelete rn.p rib).setRib rn rib').redistributeAdd rn.p rib') := by
  obtain ⟨hnodes, hclient, hfresh⟩ := redistributeDelete_marks st rn.p rib
  obtain ⟨hnodes', hclient', hfresh'⟩ :=
    redistributeAdd_marks ((st.redistributeDelete rn.p rib).setRib rn rib') rn.p rib'
  have hmarks : ∀ k, (st.redistributeDelete rn.p rib).marks k = st.marks k := fun k => by
    rw [marks, hnodes]
    rfl
  have hsound : Sound (st.redistributeDelete rn.p rib) := fun k => by
    rw [hmarks, hfresh]
    exact hs k
  have hquiet := quiet_setRib hsound rib' (show rib'.mark ∈ (st.redistributeDelete rn.p rib).marks rn by
    rw [hmarks, hmark]
    exact hmem)
  refine .refresh rn rib.mark hmem hsel (fun k => ?_) (hclient'.trans hclient) (hfresh'.trans hfresh) fun hwanted => ?_
  · rw [marks, hnodes']
    exact (hquiet.marks_eq k).trans (hmarks k)
  · have hwanted' : ((st.redistributeDelete rn.p rib).setRib rn rib').Wanted rn.p rib'.mark := by
      unfold Wanted at hwanted ⊢
      rw [hmark, show ((st.redistributeDelete rn.p rib).setRib rn rib').client = st.client from hclient]
      exact hwanted
    obtain ⟨msg, hadd, habout, hsent⟩ := redistributeAdd_sent hwanted'
    rw [hmark] at habout
    refine ⟨msg, hadd, habout, ?_⟩
    rcases redistributeDelete_cases rn.p rib with hold | ⟨del, hdel, hold⟩
    · exact .inl (by rw [hsent]; exact congrArg _ hold)
    · exact .inr ⟨del, hdel, by rw [hsent]; exact congrArg _ hold⟩

/-- The changes that `rib_process` makes, where `winner` is the entry it selects. -/
inductive InProcess (rn : NodeKey) (winner : Option Nat) : MoveKind → Prop
  | quiet : InProcess rn winner .quiet
  | unlink : InProcess rn winner .unlink
  | deselect : InProcess rn winner .deselect
  | refresh : InProcess rn winner .refresh
  | select {addr : Nat} (h : winner = some addr) : InProcess rn winner (.select rn addr)

lemma processSame_moves (hs : Sound st) (hmem : select.mark ∈ st.marks rn)
    (hsel : select.flags.selected) (winner : Option Nat) :
    Moves (InProcess rn winner) st (processSame env rn st select) := by
  unfold processSame
  by_cases hchanged : select.flags.changed
  · rw [if_pos hchanged]
    refine .one .refresh (refresh_setRib hs hmem hsel ?_)
    split_ifs <;> rfl
  rw [if_neg hchanged]
  split_ifs
  · exact .one .quiet (quiet_setRib hs (ribInstallKernel env rn.p select) hmem)
  · exact .refl

lemma withdrawFib_move {fib : Rib} (hmem : fib.mark ∈ st.marks rn) (hsel : fib.flags.selected) :
    Move .deselect st (withdrawFib env rn st fib) ∧
      (withdrawFib env rn st fib).marks rn = setMark (fib.mark.withSelected false) (st.marks rn) := by
  have hmark : ((st.redistributeDelete rn.p fib).nexthopActiveUpdate env rn
      { (if fib.isSystemRoute then fib else ribUninstallKernel fib) with
        flags := { (if fib.isSystemRoute then fib else ribUninstallKernel fib).flags with selected := false } }
      true).mark = fib.mark.withSelected false := by
    rw [nexthopActiveUpdate_mark]
    cases fib.isSystemRoute <;> rfl
  exact ⟨deselect_setRib hmem hsel hmark, (moved_deselect hmark).here⟩

lemma installSelect_move (hmem : select.mark ∈ st.marks rn)
    (hnone : ∀ m ∈ st.marks rn, m.selected = false) (hdist : select.distance ≠ distanceInfinity) :
    Move (.select rn select.addr) st (installSelect env rn st select) ∧
    (installSelect env rn st select).marks rn = setMark (select.mark.withSelected true)
    (st.marks rn) := by
  unfold installSelect
  dsimp only
  generalize hrib : (if (st.nexthopActiveUpdate env rn select true).isSystemRoute = true then
      st.nexthopActiveUpdate env rn select true
    else ribInstallKernel env rn.p (st.nexthopActiveUpdate env rn select true)) = rib
  have hmark : { rib with flags := { rib.flags with selected := true } }.mark = select.mark.withSelected true := by
    subst hrib
    cases (st.nexthopActiveUpdate env rn select true).isSystemRoute <;> rfl
  exact ⟨select_setRib hmem hnone hdist hmark, (moved_select hmark).here⟩

lemma ribAt_some {r : Rib} (h : st.ribAt rn addr = some r) : r ∈ st.nodes rn ∧ r.addr = addr :=
  ⟨mem_of_find?_eq_some h, by simpa using List.find?_some h⟩

section finish

variable {st0 : Rtable} {s : ProcessScan}

lemma LoopInv.fib_rib (h : LoopInv st0 rn [] s) {a : Nat} (ha : s.fib = some a) :
    ∃ r, s.st.ribAt rn a = some r ∧ r.addr = a ∧ r.mark ∈ s.st.marks rn ∧ r.flags.selected := by
  obtain ⟨⟨m, hm, hma, hms⟩, -⟩ := h.fib_mem a ha
  obtain ⟨r0, hr0, rfl⟩ := mem_map.mp hm
  cases hat : s.st.ribAt rn a with
  | none =>
    have hno := List.find?_eq_none.mp hat r0 hr0
    exact absurd (beq_iff_eq.mpr hma) hno
  | some r =>
    obtain ⟨hr, hra⟩ := ribAt_some hat
    have heq := (h.sound rn).eq_of_addr (mem_marks hr) hm (hra.trans hma.symm)
    refine ⟨r, rfl, hra, mem_marks hr, ?_⟩
    change r.mark.selected = true
    rw [heq]
    exact hms

/-- No entry of the node is selected, and those other than the old one are kept. -/
structure Withdrawn (rn : NodeKey) (s : ProcessScan) (st' : Rtable) : Prop where
  moves : Moves (· = .deselect) s.st st'
  sound : Sound st'
  none : ∀ m ∈ st'.marks rn, m.selected = false
  keep : ∀ m ∈ s.st.marks rn, s.fib ≠ some m.addr → m ∈ st'.marks rn

section
variable (env) (h : LoopInv st0 rn [] s)
include h

lemma LoopInv.withdraw : Withdrawn rn s (withdrawOld env rn s) := by
  unfold withdrawOld
  cases hfib : s.fib with
  | none =>
    have hnone : ∀ m ∈ s.st.marks rn, m.selected = false := fun m hm => by
      by_contra hsel
      exact absurd (h.fib_none hfib m hm (Bool.not_eq_false _ ▸ hsel)) not_mem_nil
    exact ⟨.refl, h.sound, hnone, fun m hm _ => hm⟩
  | some a =>
    obtain ⟨r, hat, hra, hmem, hsel⟩ := h.fib_rib hfib
    rw [Option.bind_some, hat]
    obtain ⟨hmove, hmarks⟩ : Move .deselect s.st (withdrawFib env rn s.st r) ∧ _ := withdrawFib_move hmem hsel
    refine ⟨.one rfl hmove, hmove.sound h.sound, ?_, fun m hm hne => ?_⟩
    · rw [hmarks]
      exact (h.sound rn).none_of_deselect hmem hsel
    · rw [hmarks]
      exact mem_map.mpr ⟨m, hm, if_neg fun heq => hne (by rw [heq, hfib, ← hra]; rfl)⟩

lemma LoopInv.install {st1 : Rtable} (hw : Withdrawn rn s st1)
    (hne : ∀ r, s.select = some r → s.fib ≠ some r.addr) :
    Moves (InProcess rn (s.select.map Rib.addr)) st1 (installNew env rn st1 s.select) ∧
    Sound (installNew env rn st1 s.select) ∧
    ∀ m ∈ (installNew env rn st1 s.select).marks rn, s.fib = some m.addr → m.selected = false := by
  cases hselect : s.select with
  | none => exact ⟨.refl, hw.sound, fun m hm _ => hw.none m hm⟩
  | some select =>
    obtain ⟨hmem, hdist, -⟩ := h.select_mem select hselect
    obtain ⟨hmove, hmarks⟩ : Move (.select rn select.addr) st1 (installSelect env rn st1 select) ∧ _ :=
      installSelect_move (hw.keep _ hmem (hne select hselect)) hw.none hdist
    refine ⟨.one (.select rfl) hmove, hmove.sound hw.sound, fun m hm hfib => ?_⟩
    rw [installNew, hmarks] at hm
    rcases mem_setMark hm with rfl | ⟨hm, -⟩
    · exact absurd hfib (hne select hselect)
    · exact hw.none m hm

lemma LoopInv.replace (hne : ∀ r, s.select = some r → s.fib ≠ some r.addr) :
    Moves (InProcess rn (s.select.map Rib.addr)) s.st
      (unlinkDel rn s (installNew env rn (withdrawOld env rn s) s.select)) := by
  have hw := h.withdraw env
  obtain ⟨hmoves, hsound, hfib⟩ := h.install env hw hne
  have hall := (hw.moves.mono fun κ hκ => hκ ▸ .deselect).trans hmoves
  unfold unlinkDel
  cases s.del with
  | false => exact hall
  | true =>
    cases hf : s.fib with
    | none => exact hall
    | some a => exact hall.tail ⟨_, .unlink, unlink_ribUnlink hsound fun m hm ha => hfib m hm (by rw [ha, hf])⟩

lemma LoopInv.same (hselect : s.select = some select)
    (hfib : s.fib = some select.addr) (winner : Option Nat) :
    Moves (InProcess rn winner) s.st (processSame env rn s.st select) := by
  obtain ⟨hmem, -, -⟩ := h.select_mem select hselect
  obtain ⟨r, -, hra, hrm, hrs⟩ := h.fib_rib hfib
  have heq := (h.sound rn).eq_of_addr hmem hrm hra.symm
  refine processSame_moves h.sound hmem ?_ _
  change select.mark.selected = true
  rw [heq]
  exact hrs

lemma LoopInv.finish :
    Moves (InProcess rn (s.select.map Rib.addr)) s.st (processEnd env rn s) := by
  unfold processEnd
  cases hselect : s.select with
  | none =>
    have hmoves := h.replace env fun r hr => absurd (hselect.symm.trans hr) (by simp)
    rw [hselect] at hmoves
    exact hmoves
  | some select =>
    dsimp only
    by_cases hfib : s.fib = some select.addr
    · rw [if_pos hfib]
      exact h.same env hselect hfib _
    rw [if_neg hfib]
    have hmoves := h.replace env fun r hr => by
      obtain rfl := Option.some.inj (hselect.symm.trans hr)
      exact hfib
    rw [hselect] at hmoves
    exact hmoves

end

lemma ribProcess_moves (env : Surroundings) (hs : Sound st) (rn : NodeKey) :
    ∃ s, (st.nodes rn).foldlM (processStep env rn) ⟨st, none, none, false⟩ = some s ∧
      st.ribProcess env rn = some (processEnd env rn s) ∧
      Moves (InProcess rn (s.select.map Rib.addr)) st (processEnd env rn s) := by
  obtain ⟨s, hloop, h⟩ := (loop_start rn hs).run env
  refine ⟨s, hloop, by rw [ribProcess, hloop]; rfl, ?_⟩
  refine (h.moves.mono ?_).trans (h.finish env)
  rintro κ (rfl | rfl)
  · exact .quiet
  · exact .unlink

end finish

end process

end OspfMdr.Zebra.Rtable
