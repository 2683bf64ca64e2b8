import OspfMdr.Model.ZebraApi

/-!
# What one change of the RIB of zebra can do

Every change of the RIB is a sequence of moves, and a move says what happens to the selected marks of
a node and which messages are sent.
-/

namespace OspfMdr.Zebra
open Relation List Function

/-- What of an entry matters to the clients. -/
structure Mark where
  addr : Nat
  selected : Bool
  type : RouteType
  distance : Nat
  metric : Nat
  deriving DecidableEq, Repr

def Rib.mark (rib : Rib) : Mark := ⟨rib.addr, rib.flags.selected, rib.type, rib.distance, rib.metric⟩

def Mark.withSelected (m : Mark) (selected : Bool) : Mark := { m with selected := selected }

/-- The message is about the entry. -/
def RouteMessage.About (msg : RouteMessage) (p : RoutePrefix) (m : Mark) : Prop :=
  msg.p = p ∧ msg.rib = m.addr ∧ msg.type = m.type ∧ msg.distance = m.distance ∧ msg.metric = m.metric

variable {κ : MoveKind} {K : MoveKind → Prop} {st1 : Rtable} {rib rib' : Rib} {p : RoutePrefix}

namespace Rtable

def marks (st : Rtable) (k : NodeKey) : List Mark := (st.nodes k).map Rib.mark

/-- The list with the entry changed. -/
def setMark (m' : Mark) (l : List Mark) : List Mark := l.map fun m => if m.addr = m'.addr then m' else m

/-- Only the entries of one node have changed. -/
structure Moved (st st' : Rtable) (k : NodeKey) (l : List Mark) : Prop where
  here : st'.marks k = l
  other : ∀ k', k' ≠ k → st'.marks k' = st.marks k'
  client : st'.client = st.client

/-- The client is told about the entry. -/
def Wanted (st : Rtable) (p : RoutePrefix) (m : Mark) : Prop :=
  (isDefault p && st.client.redistDefault || st.client.redist m.type)

/-- The kinds of small change of which an event is made up. -/
inductive MoveKind
  | quiet
  | link (safi : Safi) (type : RouteType)
  | unlink
  | deselect
  | lose
  | select (k : NodeKey) (addr : Nat)
  | refresh

/-- One small change of the tables, with the message that it sends. -/
inductive Move : MoveKind → Rtable → Rtable → Prop
  | quiet {st st' : Rtable} (marks : ∀ k, st'.marks k = st.marks k) (client : st'.client = st.client)
      (fresh : st'.fresh = st.fresh) (sent : st'.sent = st.sent) : Move .quiet st st'
  | link {st st' : Rtable} (k : NodeKey) (m : Mark) (moved : Moved st st' k (m :: st.marks k))
      (addr : m.addr = st.fresh) (fresh : st'.fresh = st.fresh + 1) (selected : m.selected = false)
      (sent : st'.sent = st.sent) : Move (.link k.safi m.type) st st'
  | unlink {st st' : Rtable} (k : NodeKey) (addr : Nat)
      (moved : Moved st st' k ((st.marks k).filter fun m => m.addr ≠ addr))
      (selected : ∀ m ∈ st.marks k, m.addr = addr → m.selected = false) (fresh : st'.fresh = st.fresh)
      (sent : st'.sent = st.sent) : Move .unlink st st'
  | deselect {st st' : Rtable} (k : NodeKey) (m : Mark) (mem : m ∈ st.marks k) (selected : m.selected)
      (moved : Moved st st' k (setMark (m.withSelected false) (st.marks k))) (fresh : st'.fresh = st.fresh)
      (sent : m.distance ≠ distanceInfinity → st.Wanted k.p m →
        ∃ msg : RouteMessage, msg.add = false ∧ msg.About k.p m ∧ st'.sent = msg :: st.sent) : Move .deselect st st'
  | lose {st st' : Rtable} (k : NodeKey) (m : Mark) (mem : m ∈ st.marks k)
      (moved : Moved st st' k (setMark (m.withSelected false) (st.marks k))) (fresh : st'.fresh = st.fresh)
      (sent : st'.sent = st.sent) : Move .lose st st'
  | select {st st' : Rtable} (k : NodeKey) (m : Mark) (mem : m ∈ st.marks k)
      (none : ∀ m' ∈ st.marks k, m'.selected = false) (distance : m.distance ≠ distanceInfinity)
      (moved : Moved st st' k (setMark (m.withSelected true) (st.marks k))) (fresh : st'.fresh = st.fresh)
      (sent : st.Wanted k.p m →
        ∃ msg : RouteMessage, msg.add ∧ msg.About k.p m ∧ st'.sent = msg :: st.sent) :
      Move (.select k m.addr) st st'
  | refresh {st st' : Rtable} (k : NodeKey) (m : Mark) (mem : m ∈ st.marks k) (selected : m.selected)
      (marks : ∀ k, st'.marks k = st.marks k) (client : st'.client = st.client) (fresh : st'.fresh = st.fresh)
      (sent : st.Wanted k.p m → ∃ msg : RouteMessage, msg.add ∧ msg.About k.p m ∧
        (st'.sent = msg :: st.sent ∨ ∃ del : RouteMessage, del.p = k.p ∧ st'.sent = msg :: del :: st.sent)) :
      Move .refresh st st'

/-- Any number of changes of the kinds in `K`. -/
def Moves (K : MoveKind → Prop) : Rtable → Rtable → Prop :=
  ReflTransGen fun st st' => ∃ κ, K κ ∧ Move κ st st'

lemma Move.marks_eq {st st' : Rtable} (h : Move .quiet st st') (k : NodeKey) :
    st'.marks k = st.marks k := by
  cases h with
  | quiet hmarks => exact hmarks k

/-! ### At most one selected entry -/

/-- The entries of a node are distinct, and at most one is selected. -/
structure NodeOk (fresh : Nat) (l : List Mark) : Prop where
  nodup : (l.map Mark.addr).Nodup
  lt : ∀ m ∈ l, m.addr < fresh
  one : ∀ m ∈ l, ∀ m' ∈ l, m.selected → m'.selected → m.addr = m'.addr

/-- The entries of each node are sound. -/
def Sound (st : Rtable) : Prop := ∀ k, NodeOk st.fresh (st.marks k)

section marks

variable {l : List Mark} {m m' : Mark} {fresh fresh' : Nat}

lemma NodeOk.eq_of_addr (h : NodeOk fresh l) (hm : m ∈ l) (hm' : m' ∈ l) (haddr : m.addr = m'.addr)
    : m = m' :=
  inj_on_of_nodup_map h.nodup hm hm' haddr

lemma NodeOk.mono (h : NodeOk fresh l) (hle : fresh ≤ fresh') : NodeOk fresh' l :=
  ⟨h.nodup, fun m hm => lt_of_lt_of_le (h.lt m hm) hle, h.one⟩

lemma setMark_addr (m' : Mark) (l : List Mark) : (setMark m' l).map Mark.addr = l.map Mark.addr := by
  unfold setMark
  rw [List.map_map]
  apply List.map_congr_left
  intro m _
  simp only [comp]
  split_ifs with h
  · exact h.symm
  · rfl

lemma mem_setMark (h : m ∈ setMark m' l) : m = m' ∨ (m ∈ l ∧ m.addr ≠ m'.addr) := by
  obtain ⟨x, hx, rfl⟩ := mem_map.mp h
  split_ifs with haddr
  · exact .inl rfl
  · exact .inr ⟨hx, haddr⟩

lemma setMark_self (h : NodeOk fresh l) (hm : m ∈ l) : setMark m l = l := by
  conv_rhs => rw [← map_id l]
  apply map_congr_left
  intro x hx
  split_ifs with haddr
  · exact (h.eq_of_addr hx hm haddr).symm
  · rfl

section
variable (h : NodeOk fresh l)
include h

lemma NodeOk.none_of_deselect (hm : m ∈ l) (hsel : m.selected) :
    ∀ x ∈ Rtable.setMark (m.withSelected false) l, x.selected = false := by
  intro x hx
  rcases mem_setMark hx with rfl | ⟨hx, hne⟩
  · rfl
  · by_contra hxs
    exact hne (h.one x hx m hm (Bool.not_eq_false _ ▸ hxs) hsel)

lemma NodeOk.setMark (hm : m ∈ l) (b : Bool)
    (hnone : b → ∀ m' ∈ l, m'.selected = false) :
    NodeOk fresh (setMark (m.withSelected b) l) := by
  refine ⟨?_, fun x hx => ?_, fun x hx y hy hxs hys => ?_⟩
  · rw [setMark_addr]
    exact h.nodup
  · rcases mem_setMark hx with rfl | ⟨hx, -⟩
    · exact h.lt m hm
    · exact h.lt x hx
  · rcases mem_setMark hx with rfl | ⟨hx, hxne⟩
    · rcases mem_setMark hy with rfl | ⟨hy, -⟩
      · rfl
      · rw [hnone hxs y hy] at hys
        exact absurd hys Bool.false_ne_true
    · rcases mem_setMark hy with rfl | ⟨hy, -⟩
      · rw [hnone hys x hx] at hxs
        exact absurd hxs Bool.false_ne_true
      · exact h.one x hx y hy hxs hys

lemma NodeOk.filter (p : Mark → Bool) : NodeOk fresh (l.filter p) :=
  ⟨h.nodup.sublist (filter_sublist.map _), fun m hm => h.lt m (mem_filter.mp hm).1,
    fun m hm m' hm' => h.one m (mem_filter.mp hm).1 m' (mem_filter.mp hm').1⟩

lemma NodeOk.cons (haddr : m.addr = fresh) (hsel : m.selected = false) :
    NodeOk (fresh + 1) (m :: l) := by
  refine ⟨?_, ?_, ?_⟩
  · refine nodup_cons.mpr ⟨fun hmem => ?_, h.nodup⟩
    obtain ⟨x, hx, hxa⟩ := mem_map.mp hmem
    have := h.lt x hx
    omega
  · intro x hx
    rcases mem_cons.mp hx with rfl | hx
    · omega
    · exact Nat.lt_succ_of_lt (h.lt x hx)
  · intro x hx y hy hxs hys
    rcases mem_cons.mp hx with rfl | hx
    · rw [hsel] at hxs
      exact absurd hxs Bool.false_ne_true
    rcases mem_cons.mp hy with rfl | hy
    · rw [hsel] at hys
      exact absurd hys Bool.false_ne_true
    · exact h.one x hx y hy hxs hys

end

end marks

section sound

variable {st st' : Rtable} {k : NodeKey} {l : List Mark}

lemma Moved.sound (h : Moved st st' k l) (hs : Sound st) (hle : st.fresh ≤ st'.fresh)
    (hl : NodeOk st'.fresh l) : Sound st' := by
  intro k'
  by_cases hk : k' = k
  · rw [hk, h.here]
    exact hl
  · rw [h.other k' hk]
    exact (hs k').mono hle

lemma Move.sound (h : Move κ st st') (hs : Sound st) : Sound st' := by
  cases h with
  | quiet hmarks hclient hfresh hsent =>
    intro k
    rw [hmarks k, hfresh]
    exact hs k
  | link k m hmoved haddr hfresh hsel hsent =>
    refine hmoved.sound hs (by omega) ?_
    rw [hfresh]
    exact (hs k).cons haddr hsel
  | unlink k addr hmoved hsel hfresh hsent =>
    refine hmoved.sound hs hfresh.ge ?_
    rw [hfresh]
    exact (hs k).filter _
  | deselect k m hmem hsel hmoved hfresh hsent =>
    refine hmoved.sound hs hfresh.ge ?_
    rw [hfresh]
    exact (hs k).setMark hmem false fun h => absurd h Bool.false_ne_true
  | lose k m hmem hmoved hfresh hsent =>
    refine hmoved.sound hs hfresh.ge ?_
    rw [hfresh]
    exact (hs k).setMark hmem false fun h => absurd h Bool.false_ne_true
  | select k m hmem hnone hdist hmoved hfresh hsent =>
    refine hmoved.sound hs hfresh.ge ?_
    rw [hfresh]
    exact (hs k).setMark hmem true fun _ => hnone
  | refresh k m hmem hsel hmarks hclient hfresh hsent =>
    intro k'
    rw [hmarks k', hfresh]
    exact hs k'

lemma Moves.sound (h : Moves K st st') (hs : Sound st) : Sound st' := by
  induction h with
  | refl => exact hs
  | tail _ hlast ih =>
    obtain ⟨κ, -, hmove⟩ := hlast
    exact hmove.sound ih

lemma Moves.mono {K' : MoveKind → Prop} (h : Moves K st st') (hK : ∀ κ, K κ → K' κ) :
    Moves K' st st' := by
  induction h with
  | refl => exact .refl
  | tail _ hlast ih =>
    obtain ⟨κ, hκ, hmove⟩ := hlast
    exact ih.tail ⟨κ, hK κ hκ, hmove⟩

lemma Moves.trans (h : Moves K st st1) (h' : Moves K st1 st') : Moves K st st' :=
  ReflTransGen.trans h h'

lemma Moves.one (hκ : K κ) (h : Move κ st st') : Moves K st st' :=
  .single ⟨κ, hκ, h⟩

end sound

/-! ### Frames -/

section frames

variable (st : Rtable) (rn : NodeKey)

lemma nodes_setNode (info : List Rib) (k : NodeKey) :
    (st.setNode rn info).nodes k = if k = rn then info else st.nodes k :=
  update_apply ..

lemma marks_setNode (info : List Rib) (k : NodeKey) :
    (st.setNode rn info).marks k = if k = rn then info.map Rib.mark else st.marks k := by
  rw [marks, nodes_setNode, apply_ite (map _)]
  rfl

lemma moved_setNode (info : List Rib) : Moved st (st.setNode rn info) rn (info.map Rib.mark) where
  here := by rw [marks_setNode, if_pos rfl]
  other k hk := by rw [marks_setNode, if_neg hk]
  client := rfl

lemma setRib_map (rib : Rib) (info : List Rib) :
    (info.map fun r => if r.addr = rib.addr then { rib with rnStatus := r.rnStatus } else r).map Rib.mark =
      setMark rib.mark (info.map Rib.mark) := by
  rw [setMark, List.map_map, List.map_map]
  apply List.map_congr_left
  intro r _
  simp only [comp]
  by_cases h : r.addr = rib.addr
  · rw [if_pos h, if_pos (show r.mark.addr = rib.mark.addr from h)]
    rfl
  · rw [if_neg h, if_neg (show ¬r.mark.addr = rib.mark.addr from h)]

lemma moved_setRib (rib : Rib) : Moved st (st.setRib rn rib) rn (setMark rib.mark (st.marks rn)) := by
  have h := moved_setNode st rn
    ((st.nodes rn).map fun r => if r.addr = rib.addr then { rib with rnStatus := r.rnStatus } else r)
  rw [setRib_map] at h
  exact h

section status

variable {β : Type} {f : Rib → β} (hf : ∀ r status, f { r with rnStatus := status } = f r)
include hf

lemma setHeadStatus_map (qindex : Fin 5) (queued : Bool) (info : List Rib) :
    (setHeadStatus qindex queued info).map f = info.map f := by
  cases info with
  | nil => rfl
  | cons head info => rw [setHeadStatus, map_cons, map_cons, hf]

lemma metaQueueAddOne_eq (rib : Rib) :
    ∃ nodes subq, metaQueueAddOne rn st rib = { st with nodes := nodes, subq := subq } ∧
      ∀ k, (nodes k).map f = (st.nodes k).map f := by
  unfold metaQueueAddOne
  dsimp only
  split_ifs
  · exact ⟨_, _, rfl, fun _ => rfl⟩
  refine ⟨_, _, rfl, fun k => ?_⟩
  rw [nodes_setNode]
  split_ifs with hk
  · rw [setHeadStatus_map hf, hk]
  · rfl

lemma ribQueueAdd_eq : ∃ nodes subq, st.ribQueueAdd rn = { st with nodes := nodes, subq := subq } ∧
    ∀ k, (nodes k).map f = (st.nodes k).map f := by
  have hfold : ∀ (info : List Rib) (st : Rtable), ∃ nodes subq,
      info.foldl (metaQueueAddOne rn) st = { st with nodes := nodes, subq := subq } ∧
        ∀ k, (nodes k).map f = (st.nodes k).map f := by
    intro info
    induction info with
    | nil => exact fun st => ⟨_, _, rfl, fun _ => rfl⟩
    | cons rib info ih =>
      intro st
      obtain ⟨nodes, subq, heq, hmap⟩ := metaQueueAddOne_eq st rn hf rib
      obtain ⟨nodes', subq', heq', hmap'⟩ := ih (metaQueueAddOne rn st rib)
      rw [heq] at heq' hmap'
      exact ⟨nodes', subq', by rw [foldl_cons, heq, heq'], fun k => (hmap' k).trans (hmap k)⟩
  unfold ribQueueAdd
  split_ifs
  · exact ⟨_, _, rfl, fun _ => rfl⟩
  · exact hfold _ st

end status

lemma Move.refl : Move .quiet st st := .quiet (fun _ => rfl) rfl rfl rfl

variable {st rn}

lemma Move.quiet_trans {st2 : Rtable} (h : Move .quiet st st1) (h' : Move .quiet st1 st2) :
    Move .quiet st st2 := by
  cases h with
  | quiet hmarks hclient hfresh hsent =>
    cases h' with
    | quiet hmarks' hclient' hfresh' hsent' =>
      exact .quiet (fun k => (hmarks' k).trans (hmarks k)) (hclient'.trans hclient) (hfresh'.trans hfresh)
        (hsent'.trans hsent)

lemma Moved.quiet {st' : Rtable} (h : Moved st st' rn (st.marks rn)) (hfresh : st'.fresh = st.fresh)
    (hsent : st'.sent = st.sent) : Move .quiet st st' := by
  refine .quiet (fun k => ?_) h.client hfresh hsent
  by_cases hk : k = rn
  · rw [hk, h.here]
  · exact h.other k hk

lemma quiet_setRib (hs : Sound st) (rib : Rib) (hmark : rib.mark ∈ st.marks rn) :
    Move .quiet st (st.setRib rn rib) := by
  have h := moved_setRib st rn rib
  rw [setMark_self (hs rn) hmark] at h
  exact h.quiet rfl rfl

lemma mem_marks (h : rib ∈ st.nodes rn) : rib.mark ∈ st.marks rn := mem_map_of_mem h

lemma quiet_ribQueueAdd : Move .quiet st (st.ribQueueAdd rn) := by
  obtain ⟨nodes, subq, heq, hmap⟩ := ribQueueAdd_eq st rn (f := Rib.mark) fun _ _ => rfl
  rw [heq]
  exact .quiet hmap rfl rfl rfl

lemma quiet_ribDelnode (hs : Sound st) (hmark : rib.mark ∈ st.marks rn) :
    Move .quiet st (st.ribDelnode rn rib) := by
  have hset := quiet_setRib hs { rib with removed := true } hmark
  exact hset.quiet_trans quiet_ribQueueAdd

/-! ### Messages -/

lemma redistributeDelete_marks (st : Rtable) (p : RoutePrefix) (rib : Rib) :
    (st.redistributeDelete p rib).nodes = st.nodes ∧ (st.redistributeDelete p rib).client = st.client ∧
      (st.redistributeDelete p rib).fresh = st.fresh := by
  unfold redistributeDelete zsendRouteMultipath
  split_ifs <;> exact ⟨rfl, rfl, rfl⟩

lemma redistributeAdd_marks (st : Rtable) (p : RoutePrefix) (rib : Rib) :
    (st.redistributeAdd p rib).nodes = st.nodes ∧ (st.redistributeAdd p rib).client = st.client ∧
      (st.redistributeAdd p rib).fresh = st.fresh := by
  unfold redistributeAdd zsendRouteMultipath
  split_ifs <;> exact ⟨rfl, rfl, rfl⟩

lemma redistributeAdd_sent (hwanted : st.Wanted p rib.mark) : ∃ msg : RouteMessage, msg.add ∧
    msg.About p rib.mark ∧ (st.redistributeAdd p rib).sent = msg :: st.sent := by
  unfold redistributeAdd
  rw [if_pos (show st.wanted p rib = true from hwanted)]
  exact ⟨_, rfl, ⟨rfl, rfl, rfl, rfl, rfl⟩, rfl⟩

lemma moved_deselect (hmark : rib'.mark = rib.mark.withSelected false) :
    Moved st ((st.redistributeDelete rn.p rib).setRib rn rib') rn
      (setMark (rib.mark.withSelected false) (st.marks rn)) := by
  obtain ⟨hnodes, hclient, -⟩ := redistributeDelete_marks st rn.p rib
  have hmarks : ∀ k, (st.redistributeDelete rn.p rib).marks k = st.marks k := fun k => by
    rw [marks, hnodes]
    rfl
  have hmoved := moved_setRib (st.redistributeDelete rn.p rib) rn rib'
  refine ⟨?_, fun k hk => ?_, ?_⟩
  · rw [hmoved.here, hmark, hmarks]
  · rw [hmoved.other k hk, hmarks]
  · rw [hmoved.client, hclient]

lemma deselect_setRib (hmem : rib.mark ∈ st.marks rn) (hsel : rib.flags.selected)
    (hmark : rib'.mark = rib.mark.withSelected false) :
    Move .deselect st ((st.redistributeDelete rn.p rib).setRib rn rib') := by
  refine .deselect rn rib.mark hmem hsel (moved_deselect hmark) (redistributeDelete_marks st rn.p rib).2.2
    fun hdist hwanted => ?_
  rw [redistributeDelete, if_neg (show rib.distance ≠ distanceInfinity from hdist),
    if_pos (show st.wanted rn.p rib = true from hwanted)]
  exact ⟨_, rfl, ⟨rfl, rfl, rfl, rfl, rfl⟩, rfl⟩

lemma moved_select (hmark : rib'.mark = rib.mark.withSelected true) :
    Moved st ((st.setRib rn rib').redistributeAdd rn.p rib') rn
      (setMark (rib.mark.withSelected true) (st.marks rn)) := by
  obtain ⟨hnodes, hclient, -⟩ := redistributeAdd_marks (st.setRib rn rib') rn.p rib'
  have hmarks : ∀ k, ((st.setRib rn rib').redistributeAdd rn.p rib').marks k = (st.setRib rn rib').marks k :=
    fun k => by
      rw [marks, hnodes]
      rfl
  have hmoved := moved_setRib st rn rib'
  refine ⟨?_, fun k hk => ?_, ?_⟩
  · rw [hmarks, hmoved.here, hmark]
  · rw [hmarks, hmoved.other k hk]
  · rw [hclient, hmoved.client]

lemma select_setRib (hmem : rib.mark ∈ st.marks rn) (hnone : ∀ m ∈ st.marks rn, m.selected = false)
    (hdist : rib.distance ≠ distanceInfinity) (hmark : rib'.mark = rib.mark.withSelected true) :
    Move (.select rn rib.addr) st ((st.setRib rn rib').redistributeAdd rn.p rib') := by
  refine .select rn rib.mark hmem hnone hdist (moved_select hmark)
    (redistributeAdd_marks (st.setRib rn rib') rn.p rib').2.2 fun hwanted => ?_
  have hwanted' : (st.setRib rn rib').Wanted rn.p rib'.mark := by
    rw [hmark]
    exact hwanted
  obtain ⟨msg, hadd, habout, hsent⟩ := redistributeAdd_sent hwanted'
  rw [hmark] at habout
  exact ⟨msg, hadd, habout, hsent⟩

lemma ribUninstall_moves (hmem : rib.mark ∈ st.marks rn) :
    Moves (· = .deselect) st (st.ribUninstall rn rib) := by
  unfold ribUninstall
  by_cases hsel : rib.flags.selected
  · rw [if_pos hsel]
    refine .one rfl (deselect_setRib hmem hsel ?_)
    cases rib.isSystemRoute <;> rfl
  · rw [if_neg hsel]
    exact .refl

end frames

end Rtable

end OspfMdr.Zebra
