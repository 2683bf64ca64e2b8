import OspfMdr.Proofs.RouteTable

namespace OspfMdr.Ospf6
open Lib List Option RouteTable

/-- The search goes past a route of another type, and past one of another origin that is not worse. -/
def Passed (x route : Route) : Prop :=
  x.type ≠ route.type ∨ ospf6RouteIsSameOrigin x route = false ∧ ∃ c ≤ 0, ospf6RouteCmp x route = some c

/-- The search stops before a worse route of another origin. -/
structure StopsAt (x route : Route) : Prop where
  type : x.type = route.type
  origin : ospf6RouteIsSameOrigin x route = false
  worse : ∃ v > 0, ospf6RouteCmp x route = some v

/-- What stops the search at the first of the remaining routes of the prefix. -/
inductive Stopped (t : RouteTable) (route : Route) (place : Place) (l3 : List Nat) :
    List Nat → Prop
  | before {c : List Nat} (hold : place.old = none) (hnext : place.next = (c ++ l3).head?)
      (hworse : ∀ r, c.head? = some r → StopsAt (t.routes r) route) :
      Stopped t route place l3 c
  | found {o : Nat} {c : List Nat} (hold : place.old = some o)
      (htype : (t.routes o).type = route.type)
      (horigin : ospf6RouteIsSameOrigin (t.routes o) route) :
      Stopped t route place l3 (o :: c)

section Search
variable {t : RouteTable} {route : Route} {c l3 : List Nat}

lemma findPlace_spec {p : Option Nat} (hc : ∀ r ∈ c, t.key r = route.routePrefix.bits)
    (h₃ : ∀ r ∈ l3, t.key r ≠ route.routePrefix.bits)
    (hseg : Segment (fun r => (t.routes r).next) (fun r => (t.routes r).prev) p (c ++ l3) none) (fuel : Nat)
    (hfuel : c.length < fuel) (prev : Option Nat) {place : Place}
    (hplace : findPlace t route fuel (c ++ l3).head? prev = some place) :
    ∃ c1 c2, c = c1 ++ c2 ∧ (∀ r ∈ c1, Passed (t.routes r) route) ∧ place.prev = c1.getLast?.or prev ∧
      Stopped t route place l3 c2 := by
  induction c generalizing p fuel prev with
  | nil =>
    refine ⟨[], [], rfl, by simp, ?_⟩
    cases fuel with
    | zero => simp at hfuel
    | succ fuel =>
      cases l3 with
      | nil =>
        obtain rfl : _ = place := by simpa [findPlace] using hplace
        exact ⟨rfl, .before rfl rfl (by simp)⟩
      | cons b l3 =>
        have hb : ospf6RouteIsSame (t.routes b) route = false := by
          simpa [ospf6RouteIsSame, key] using h₃ b mem_cons_self
        obtain rfl : _ = place := by simpa [findPlace, hb] using hplace
        exact ⟨rfl, .before rfl rfl (by simp)⟩
  | cons a c ih =>
    obtain ⟨-, hn, hrest⟩ := hseg
    have hn' : (t.routes a).next = (c ++ l3).head? := by simpa using hn
    cases fuel with
    | zero => simp at hfuel
    | succ fuel =>
      have ha : ospf6RouteIsSame (t.routes a) route := by
        simpa [ospf6RouteIsSame, key] using hc a mem_cons_self
      have hstep : Passed (t.routes a) route →
          findPlace t route fuel (t.routes a).next (some a) = some place →
          ∃ c1 c2, a :: c = c1 ++ c2 ∧ (∀ r ∈ c1, Passed (t.routes r) route) ∧
            place.prev = c1.getLast?.or prev ∧ Stopped t route place l3 c2 := by
        intro hpass hpl
        rw [hn'] at hpl
        obtain ⟨c1, c2, hcc, hpass', hprev, hstop⟩ := ih
          (fun r hr => hc r (mem_cons_of_mem _ hr)) hrest fuel (by simpa using hfuel) _ hpl
        refine ⟨a :: c1, c2, by rw [hcc]; rfl, forall_mem_cons.mpr ⟨hpass, hpass'⟩, ?_, hstop⟩
        rw [hprev, List.getLast?_cons]
        cases c1.getLast? <;> rfl
      have hhead : (a :: c ++ l3).head? = some a := rfl
      rw [hhead] at hplace
      simp only [findPlace, ha, not_true, if_false] at hplace
      by_cases htype : (t.routes a).type = route.type
      · simp only [htype, ne_eq, not_true, if_false] at hplace
        by_cases horigin : ospf6RouteIsSameOrigin (t.routes a) route
        · simp only [horigin, if_true] at hplace
          cases hplace
          exact ⟨[], a :: c, rfl, by simp, rfl, .found rfl htype horigin⟩
        simp only [horigin] at hplace
        cases hcmp : ospf6RouteCmp (t.routes a) route with
        | none => simp [hcmp] at hplace
        | some v =>
          by_cases hv : v > 0
          · simp only [hcmp, hv, if_true, Bool.false_eq_true, if_false] at hplace
            cases hplace
            refine ⟨[], a :: c, rfl, by simp, rfl, .before rfl rfl ?_⟩
            intro r hr
            obtain rfl : a = r := by simpa using hr
            exact ⟨htype, Bool.eq_false_iff.mpr horigin, v, hv, hcmp⟩
          · simp only [hcmp, hv, Bool.false_eq_true, if_false] at hplace
            exact hstep (.inr ⟨Bool.eq_false_iff.mpr horigin, v, Int.not_lt.mp hv, hcmp⟩) hplace
      · simp only [htype, ne_eq, not_false_eq_true, if_true] at hplace
        exact hstep (.inl htype) hplace

end Search

/-- What a route says, without its place in the table. -/
def payload (r : Route) : DestType × Prefix × Path × List Nexthop :=
  (r.type, r.routePrefix, r.path, r.nexthop)

/-- What a call of `ospf6_route_add` or `ospf6_route_remove` leaves for the next pass over the table. -/
structure Marks where
  add : Bool
  change : Bool
  remove : Bool
  deriving DecidableEq, Repr

/-- The flags that later passes over the table read. -/
def marks (r : Route) : Marks := ⟨r.flag.add, r.flag.change, r.flag.remove⟩

def contents (r : Route) : (DestType × Prefix × Path × List Nexthop) × Marks := (payload r, marks r)

/-- The call returned `r`, and of all marks has changed only its own. -/
structure Marked (t : RouteTable) (x : RouteTable × Nat) (r : Nat) (f : Marks → Marks) : Prop where
  ret : x.2 = r
  self : marks (x.1.routes r) = f (marks (t.routes r))
  other : ∀ s ≠ r, marks (x.1.routes s) = marks (t.routes s)

variable {f : Route → Route} {t' : RouteTable} {now : Nat} {prev next : Option Nat}

section Marks
variable {t T : RouteTable} {id old : Nat} {x : RouteTable × Nat}

/-- Only the marks of `r` have changed, and nothing of what the routes say. -/
def Writes (t : RouteTable) (x : RouteTable × Nat) (r : Nat) (f : Marks → Marks) : Prop :=
  Marked t x r f ∧ ∀ s, payload (x.1.routes s) = payload (t.routes s)

lemma modify_keeps {β : Type} (g : Route → β) (i r : Nat) (hf : ∀ r, g (f r) = g r) :
    g ((T.modify i f).routes r) = g (T.routes r) := by
  rw [modify_routes]
  split_ifs
  · exact hf _
  · rfl

lemma modifyAt_contents (i : Option Nat) (r : Nat) (hf : ∀ r, contents (f r) = contents r) :
    contents ((T.modifyAt i f).routes r) = contents (T.routes r) := by
  cases i with
  | none => rfl
  | some i => exact modify_keeps contents i r hf

lemma linkRoute_contents (prev next : Option Nat) (r : Nat) :
    contents ((linkRoute T prev id next).routes r) = contents (T.routes r) := by
  unfold linkRoute
  rw [modify_keeps contents, modifyAt_contents, modify_keeps contents, modifyAt_contents] <;>
    exact fun _ => rfl

lemma takeHead_contents (r : Nat) :
    contents ((takeHead t id old).routes r) = contents (t.routes r) := by
  unfold takeHead
  split_ifs
  · exact modify_keeps contents id r fun _ => rfl
  · rfl

lemma moveHead_eq :
    moveHead t id =
      if t.info (t.key id) = some id then
        (t.setInfo (t.key id) ((t.routes id).next.filter fun n => t.key n = t.key id)).modifyAt
          ((t.routes id).next.filter fun n => t.key n = t.key id) (setBest true)
      else t := by
  unfold moveHead
  cases (t.routes id).next with
  | none => rfl
  | some n =>
    have hsame : ospf6RouteIsSame (t.routes n) (t.routes id) = decide (t.key n = t.key id) := rfl
    by_cases hk : t.key n = t.key id <;> simp [hsame, hk, Option.filter, modifyAt]

lemma moveHead_contents (r : Nat) :
    contents ((moveHead t id).routes r) = contents (t.routes r) := by
  rw [moveHead_eq]
  split_ifs
  · exact modifyAt_contents _ r fun _ => rfl
  · rfl

lemma ospf6RouteUnlock_contents (h : ospf6RouteUnlock t id = some t') (r : Nat) :
    contents (t'.routes r) = contents (t.routes r) := by
  unfold ospf6RouteUnlock at h
  split_ifs at h
  cases h
  refine modify_keeps contents id r fun r => ?_
  split_ifs <;> rfl

lemma ospf6RouteRemove_contents (hx : ospf6RouteRemove t id = some t') (r : Nat) :
    contents (t'.routes r) = contents (t.routes r) := by
  unfold ospf6RouteRemove at hx
  dsimp only at hx
  split_ifs at hx
  rw [ospf6RouteUnlock_contents hx]
  dsimp only [unlinkRoute]
  rw [modifyAt_contents, modifyAt_contents, moveHead_contents, modify_keeps contents] <;>
    exact fun _ => rfl

lemma ospf6RouteRemove_payload (hx : ospf6RouteRemove t id = some t') (r : Nat) :
    payload (t'.routes r) = payload (t.routes r) :=
  congrArg Prod.fst (ospf6RouteRemove_contents hx r)

lemma Writes.congr {f : Marks → Marks} {r : Nat} (h : Writes T x r f)
    (hc : ∀ s, contents (T.routes s) = contents (t.routes s)) : Writes t x r f := by
  have hmarks (s : Nat) : marks (T.routes s) = marks (t.routes s) := congrArg Prod.snd (hc s)
  refine ⟨⟨h.1.ret, by rw [h.1.self, hmarks], fun s hs => by rw [h.1.other s hs, hmarks]⟩, fun s => ?_⟩
  exact (h.2 s).trans (congrArg Prod.fst (hc s))

lemma writes_modify {f : Marks → Marks} {r : Nat} {g : Route → Route}
    (hg : ∀ s, contents (g s) = (payload s, f (marks s))) : Writes T (T.modify r g, r) r f := by
  refine ⟨⟨rfl, ?_, fun s hs => ?_⟩, fun s => modify_keeps payload r s fun s => congrArg Prod.fst (hg s)⟩
  · rw [modify_routes, if_pos rfl]
    exact congrArg Prod.snd (hg _)
  · rw [modify_routes, if_neg hs]

lemma installRoute_writes (hx : installRoute T now id = some x) :
    Writes T x id fun m => { m with add := true } := by
  unfold installRoute at hx
  split_ifs at hx
  obtain rfl := eq_of_checked _ hx
  obtain ⟨⟨hret, hself, hother⟩, hpayload⟩ := writes_modify (T := T) (r := id)
    (f := fun m => { m with add := true })
    (g := fun r => { r with installed := now, changed := now, table := true, lock := r.lock + 1,
                            flag := { r.flag with add := true } }) fun _ => rfl
  exact ⟨⟨hret, hself, hother⟩, hpayload⟩

lemma insertBetween_writes (hx : insertBetween t now id prev next = some x) :
    Writes t x id fun m => { m with add := true } := by
  unfold insertBetween at hx
  dsimp only at hx
  split at hx
  · split_ifs at hx
    exact (installRoute_writes hx).congr fun s => linkRoute_contents _ _ s
  split_ifs at hx
  · refine (installRoute_writes hx).congr fun s => ?_
    rw [modify_keeps contents, modify_keeps contents]
    · exact linkRoute_contents _ _ s
    · exact fun _ => rfl
    · exact fun _ => rfl
  · exact (installRoute_writes hx).congr fun s => linkRoute_contents _ _ s

lemma insertNew_writes (hx : insertNew t now id = some x) :
    Writes t x id fun m => { m with add := true } := by
  unfold insertNew at hx
  dsimp only at hx
  split_ifs at hx
  refine (installRoute_writes hx).congr fun s => ?_
  rw [linkRoute_contents, modify_keeps contents]
  · rfl
  · exact fun _ => rfl

lemma replaceOld_writes (hident : ospf6RouteIsIdentical (t.routes old) (t.routes id) = false)
    (hx : replaceOld t now id old = some x) : Writes t x id fun m => { m with change := true } := by
  unfold replaceOld at hx
  rw [if_neg (by simp [hident])] at hx
  dsimp only at hx
  split_ifs at hx
  obtain ⟨T, hT, hx⟩ := bind_eq_some_iff.mp hx
  obtain rfl := eq_of_checked _ hx
  refine (writes_modify (r := id) (f := fun m => { m with change := true }) fun _ => rfl).congr fun s => ?_
  dsimp only [ospf6RouteLock]
  rw [modify_keeps contents, ospf6RouteUnlock_contents hT, modify_keeps contents, linkRoute_contents,
    takeHead_contents] <;> exact fun _ => rfl

end Marks

section Calls
variable {t : RouteTable} {l l1 l2 : List Nat} {id old : Nat}

lemma TableInv.follow_info (h : TableInv t l) (k : List Bool) :
    ∃ l1 c l2, GroupSplit t.key k l l1 c l2 ∧
      ∀ ok, (follow (fun r => (t.routes r).next) ok (t.count + 1) (t.info k)) =
        if c = [] then [] else (c ++ l2).takeWhile ok := by
  obtain ⟨l1, c, l2, hsplit⟩ := exists_groupSplit t.key k h.ordered
  refine ⟨l1, c, l2, hsplit, fun ok => ?_⟩
  rw [h.info, hsplit.filter_eq (by simp)]
  split_ifs with hc
  · rw [hc]
    rfl
  have hlinked := h.linked
  rw [hsplit.eq, append_assoc, segment_append] at hlinked
  have hhead : c.head? = (c ++ l2).head? := by
    cases c with
    | nil => exact absurd rfl hc
    | cons a c => rfl
  rw [hhead, hlinked.2.follow_eq]
  rw [h.count, hsplit.eq]
  simp only [length_append]
  omega

lemma TableInv.chain_eq (h : TableInv t l) (k : List Bool) :
    t.chain k = l.filter fun r => t.key r = k := by
  obtain ⟨l1, c, l2, hsplit, hfollow⟩ := h.follow_info k
  unfold chain
  rw [hfollow, hsplit.filter_eq (by simp)]
  split_ifs with hc
  · exact hc.symm
  rw [takeWhile_append_of_pos fun r hr => by simpa using hsplit.group r hr]
  cases l2 with
  | nil => simp
  | cons b l2 =>
    have hb := ne_of_gt (hsplit.after b mem_cons_self)
    simp [hb]

lemma TableInv.touch (h : TableInv t l)
    (hroutes : ∀ r, position (t'.routes r) = position (t.routes r)) (hinfo : t'.info = t.info)
    (hnodes : t'.nodes = t.nodes) (hcount : t'.count = t.count) : TableInv t' l := by
  refine h.congr (fun r _ => hroutes r) hinfo (hnodes ▸ h.nodes) (fun k hk => hnodes ▸ hk) hcount
    fun r hr => ?_
  have hr' := hroutes r
  simp only [position, attachment, Prod.mk.injEq] at hr'
  rw [hr'.2.2.2.1.1, hr'.2.2.2.1.2.1]
  exact h.detached r hr

section Middle
variable (h : TableInv t (l1 ++ [old] ++ l2))
include h

lemma TableInv.around : (∀ r ∈ l1, t.key r ≤ t.key old) ∧ ∀ r ∈ l2, t.key old ≤ t.key r := by
  have hord := h.ordered
  simp only [pairwise_append, mem_append, mem_singleton] at hord
  exact ⟨fun r hr => hord.1.2.2 r hr old rfl, fun r hr => hord.2.2 old (.inr rfl) r hr⟩

lemma TableInv.ne_middle : ∀ r ∈ l1 ++ l2, r ≠ old := by
  rintro r hr rfl
  have := h.nodup
  grind

lemma TableInv.lock_middle : (t.routes old).lock = 1 := by
  have := h.attached old (by simp)
  simp only [attachment, Prod.mk.injEq] at this
  exact this.1

lemma TableInv.info_middle_iff : t.info (t.key old) = some old ↔ sameKey t old l1 = [] := by
  rw [h.info_key, sameKey_append, sameKey_append]
  cases hf : sameKey t old l1 with
  | nil => simp
  | cons a l =>
    have ha : a ∈ l1 := mem_of_mem_filter (hf ▸ mem_cons_self)
    simpa using h.ne_middle a (mem_append_left _ ha)

end Middle

lemma takeHead_routes (hprep : Prepared t id) (r : Nat) :
    (takeHead t id old).routes r =
      { t.routes r with
        flag := { (t.routes r).flag with
          best := if r = id then decide (t.info (t.key id) = some old) else (t.routes r).flag.best } } := by
  unfold takeHead
  by_cases hr : r = id
  · subst hr
    by_cases hi : t.info (t.key r) = some old
    · simp [hi, modify_routes, setBest, RouteTable.setInfo]
    · simp [hi, ← hprep.best]
  · by_cases hi : t.info (t.key id) = some old <;>
      simp [hi, hr, modify_routes, RouteTable.setInfo]

lemma takeHead_info (k : List Bool) : (takeHead t id old).info k =
    if k = t.key id ∧ t.info (t.key id) = some old then some id else t.info k := by
  unfold takeHead
  by_cases hi : t.info (t.key id) = some old <;> simp [hi, RouteTable.modify, setInfo_info]

lemma takeHead_rest : (takeHead t id old).nodes = t.nodes ∧ (takeHead t id old).count = t.count := by
  unfold takeHead
  split_ifs <;> exact ⟨rfl, rfl⟩

variable {x : RouteTable × Nat}

section
variable (h : TableInv t (l1 ++ [old] ++ l2)) (hid : id ∉ l1 ++ [old] ++ l2) (hprep : Prepared t id)
  (hident : ospf6RouteIsIdentical (t.routes old) (t.routes id) = false)
  (hx : replaceOld t now id old = some x)
include h hid hprep hident hx

lemma replaceOld_routes : x.1.info = (takeHead t id old).info ∧ x.1.nodes = t.nodes ∧ x.1.count = t.count ∧ ∀ r,
    (x.1.routes r).routePrefix = (t.routes r).routePrefix ∧
    (x.1.routes r).prev = prevAfter (some id) l1 l2 (fun r => (t.routes r).prev) r ∧
    (x.1.routes r).next = nextAfter (some id) l1 l2 (fun r => (t.routes r).next) r ∧
    (x.1.routes r).flag.best = ((takeHead t id old).routes r).flag.best ∧
    attachment (x.1.routes r) = (if r = id then 1 else if r = old then 0 else (t.routes r).lock,
      if r = id then true else if r = old then false else (t.routes r).table, (t.routes r).rnode,
      (t.routes r).flag.wasRemoved) := by
  have hne : old ≠ id := fun he => hid (by simp [he])
  have hnid : l2.head? ≠ some id := fun he => hid (mem_append_right _ (mem_of_head? he))
  have hlinked := h.linked
  rw [append_assoc, singleton_append] at hlinked
  have hp : ((takeHead t id old).routes old).prev = l1.getLast? := by
    rw [takeHead_routes hprep]
    simpa using hlinked.prev_eq
  have hn : ((takeHead t id old).routes old).next = l2.head? := by
    rw [takeHead_routes hprep]
    simpa using hlinked.next_eq
  have hlock := h.lock_middle
  unfold replaceOld at hx
  simp only [hident, Bool.false_eq_true, if_false, hp, hn] at hx
  split_ifs at hx
  simp only [ospf6RouteUnlock, modify_routes, hne, if_false, linkRoute_routes _ _ hnid,
    takeHead_routes hprep, hlock, ospf6RouteLock] at hx
  simp only [gt_iff_lt, zero_lt_one, if_true, bind_eq_bind, bind_some] at hx
  obtain rfl := eq_of_checked _ hx
  refine ⟨by simp [RouteTable.modify], by simp [RouteTable.modify, takeHead_rest],
    by simp [RouteTable.modify, takeHead_rest], fun r => ?_⟩
  by_cases hr : r = id
  · subst hr
    simp [modify_routes, linkRoute_routes _ _ hnid, takeHead_routes hprep, attachment, Ne.symm hne,
      hprep.lock, nextAfter, prevAfter]
  by_cases hro : r = old
  · subst hro
    simp [modify_routes, linkRoute_routes _ _ hnid, takeHead_routes hprep, attachment, hr, hlock,
      nextAfter, prevAfter, Ne.symm hr]
  · simp [modify_routes, linkRoute_routes _ _ hnid, takeHead_routes hprep, attachment, hr, hro,
      nextAfter, prevAfter, Ne.symm hr]

lemma replaceOld_inv (hkey : t.key old = t.key id) : TableInv x.1 (l1 ++ [id] ++ l2) := by
  obtain ⟨hinfo, hnodes, hcount, hroutes⟩ := replaceOld_routes h hid hprep hident hx
  have hid' : id ∉ l1 ++ l2 := fun hm => hid (by simp only [mem_append] at hm ⊢; tauto)
  obtain ⟨hle, hge⟩ := hkey ▸ h.around
  have hhead := h.info_middle_iff
  simp only [sameKey, hkey] at hhead
  refine TableInv.put (some old) (some id) (k := t.key id) h ?_ ?_ ?_ (fun _ => hprep.node)
    hle hge (fun r => ?_) hnodes (by simp [hcount]) (fun r ho hn => ?_) ?_ ?_ (fun r => (hroutes r).2.2.1)
    (fun r => (hroutes r).2.1) (fun k => ?_) fun r hr => ?_
  · rintro r ⟨⟩
    exact hid'
  · rintro r ⟨⟩
    exact hkey
  · rintro r ⟨⟩
    rfl
  · simp only [key, (hroutes r).1]
  · have hri : r ≠ id := fun he => hn (he ▸ rfl)
    have hro : r ≠ old := fun he => ho (he ▸ rfl)
    rw [(hroutes r).2.2.2.2]
    simp [attachment, hri, hro]
  · rintro r ⟨⟩
    rw [(hroutes id).2.2.2.2]
    simp [hprep.rnode, hprep.wasRemoved]
  · rintro r ⟨⟩ hn
    have hro : old ≠ id := fun he => hn (he ▸ rfl)
    have := (hroutes old).2.2.2.2
    simp only [attachment, hro, if_false, if_true, Prod.mk.injEq] at this
    exact ⟨this.1, this.2.1⟩
  · simp only [hinfo, takeHead_info, hhead, some_or]
  · rw [(hroutes r).2.2.2.1, takeHead_routes hprep, hinfo, takeHead_info]
    by_cases hri : r = id
    · subst hri
      have hself : t.info (t.key r) ≠ some r := by
        rw [h.info]
        exact fun he => hid (mem_of_mem_filter (mem_of_head? he))
      by_cases hi : t.info (t.key r) = some old <;> simp [hi, hself]
    have hr' : r ∈ l1 ++ l2 := by
      simp only [mem_append, toList_some, mem_singleton] at hr ⊢
      tauto
    have hb := h.best r (by simp only [mem_append] at hr' ⊢; tauto)
    simp only [hri, if_false, hb]
    by_cases hk : t.key r = t.key id ∧ t.info (t.key id) = some old
    · rw [if_pos hk, hk.1, hk.2]
      simp [Ne.symm (h.ne_middle r hr'), Ne.symm hri]
    · rw [if_neg hk]

end

/-- The outcome of `ospf6_route_add`, by the routes of the prefix that the search left. -/
inductive Placed (t : RouteTable) (id : Nat) (x : RouteTable × Nat) (l1 c1 l3 : List Nat) :
    List Nat → Prop
  | inserted {c2 : List Nat}
      (hworse : ∀ r, c2.head? = some r → StopsAt (t.routes r) (t.routes id))
      (hinv : TableInv x.1 (l1 ++ c1 ++ [id] ++ (c2 ++ l3)))
      (hmarks : Marked t x id fun m => { m with add := true }) : Placed t id x l1 c1 l3 c2
  | kept {o : Nat} {c2 : List Nat}
      (hident : ospf6RouteIsIdentical (t.routes o) (t.routes id))
      (hinv : TableInv x.1 (l1 ++ c1 ++ [o] ++ (c2 ++ l3)))
      (hmarks : Marked t x o fun m => { m with add := true }) : Placed t id x l1 c1 l3 (o :: c2)
  | replaced {o : Nat} {c2 : List Nat} (htype : (t.routes o).type = (t.routes id).type)
      (horigin : ospf6RouteIsSameOrigin (t.routes o) (t.routes id))
      (hident : ospf6RouteIsIdentical (t.routes o) (t.routes id) = false)
      (hinv : TableInv x.1 (l1 ++ c1 ++ [id] ++ (c2 ++ l3)))
      (hmarks : Marked t x id fun m => { m with change := true }) : Placed t id x l1 c1 l3 (o :: c2)

lemma replaceOld_kept (h : TableInv t l)
    (hident : ospf6RouteIsIdentical (t.routes old) (t.routes id))
    (hx : replaceOld t now id old = some x) :
    TableInv x.1 l ∧ Writes t x old fun m => { m with add := true } := by
  unfold replaceOld at hx
  simp only [hident, if_true] at hx
  obtain rfl := eq_of_checked _ hx
  refine ⟨h.touch (fun r => ?_) rfl rfl rfl, writes_modify fun _ => rfl⟩
  rw [modify_keeps position]
  exact fun _ => rfl

/-- The table with a node for the new route. -/
def prepared (t : RouteTable) (id : Nat) : RouteTable :=
  (routeNodeGet t (t.key id)).modify id fun r => { r with rnode := some (t.key id) }

lemma prepared_routes (t : RouteTable) (id r : Nat) : (prepared t id).routes r =
    if r = id then { t.routes r with rnode := some (t.key id) } else t.routes r := by
  rw [prepared, modify_routes]
  rfl

lemma prepared_key (t : RouteTable) (id r : Nat) : (prepared t id).key r = t.key r := by
  simp only [key, prepared_routes]
  split_ifs <;> rfl

section
variable (h : TableInv t l) (hid : id ∉ l)
include h hid

lemma TableInv.prepared : TableInv (prepared t id) l := by
  refine h.congr (fun r hr => ?_) rfl (pairwise_insertNode h.nodes)
    (fun k hk => mem_insertNode.mpr (.inr hk)) rfl (fun r hr => ?_)
  · have hne : r ≠ id := fun he => hid (he ▸ hr)
    rw [prepared_routes, if_neg hne]
  · rw [prepared_routes]
    split_ifs
    · exact h.detached r hr
    · exact h.detached r hr

section
variable (hbest : (t.routes id).flag.best = false) (hremoved : (t.routes id).flag.wasRemoved = false)
include hbest hremoved

lemma prepared_prepared : Prepared (prepared t id) id := by
  have hrec := prepared_routes t id id
  rw [if_pos rfl] at hrec
  refine ⟨?_, ?_, ?_, ?_, ?_⟩
  · rw [hrec]
    exact (h.detached id hid).1
  · rw [hrec, prepared_key]
  · rw [hrec]
    exact hbest
  · rw [hrec]
    exact hremoved
  · rw [prepared_key]
    exact mem_insertNode.mpr (.inl rfl)

lemma ospf6RouteAdd_spec (hx : ospf6RouteAdd t now id = some x) :
    ∃ l1 c1 c2 l3, GroupSplit t.key (t.key id) l l1 (c1 ++ c2) l3 ∧
      (∀ r ∈ c1, Passed (t.routes r) (t.routes id)) ∧ Placed t id x l1 c1 l3 c2 ∧
      ∀ r, payload (x.1.routes r) = payload (t.routes r) := by
  have hT := h.prepared hid
  have hprep := prepared_prepared h hid hbest hremoved
  have hroutes : ∀ r ∈ l, (prepared t id).routes r = t.routes r := by
    intro r hr
    have hne : r ≠ id := fun he => hid (he ▸ hr)
    rw [prepared_routes, if_neg hne]
  have hcontents : ∀ s, contents ((prepared t id).routes s) = contents (t.routes s) :=
    fun s => modify_keeps contents id s fun _ => rfl
  obtain ⟨l1, c, l3, hsplit⟩ := exists_groupSplit (prepared t id).key (t.key id) hT.ordered
  have hsplit' : GroupSplit t.key (t.key id) l l1 c l3 :=
    ⟨hsplit.eq, fun r hr => prepared_key t id r ▸ hsplit.before r hr,
      fun r hr => prepared_key t id r ▸ hsplit.group r hr,
      fun r hr => prepared_key t id r ▸ hsplit.after r hr⟩
  have hfind : ((prepared t id).info (t.key id)) = c.head? := by
    rw [hT.info, hsplit.filter_eq (by simp)]
  unfold ospf6RouteAdd at hx
  have hnode : (t.routes id).routePrefix.bits = t.key id := rfl
  have hprepared : ((routeNodeGet t (t.key id)).modify id fun r =>
      { r with rnode := some (t.key id) }) = prepared t id := rfl
  simp only [hnode, hprepared, hfind] at hx
  split_ifs at hx
  obtain ⟨place, hplace, hx⟩ := bind_eq_some_iff.mp hx
  cases hc : c with
  | nil =>
    rw [hc] at hplace hsplit' hsplit
    obtain rfl : _ = place := by simpa [findPlace] using hplace
    have hx' : insertNew (prepared t id) now id = some x := by simpa using hx
    rw [← prepared_key t id id] at hsplit
    have hwrites := (insertNew_writes hx').congr hcontents
    refine ⟨l1, [], [], l3, hsplit', by simp, .inserted (by simp) ?_ hwrites.1, hwrites.2⟩
    simpa using insertNew_inv hT hsplit hid hprep hx'
  | cons a c' =>
    have hlinked := hT.linked
    rw [hsplit.eq, append_assoc, segment_append] at hlinked
    have hhead : c.head? = (c ++ l3).head? := by simp [hc]
    rw [hhead] at hplace
    have hlen : c.length < (prepared t id).count + 1 := by
      rw [hT.count, hsplit.eq]
      simp only [length_append]
      omega
    obtain ⟨c1, c2, hcc, hpass, hprev, hstop⟩ := findPlace_spec
      (fun r hr => hsplit.group r hr) (fun r hr => ne_of_gt (hsplit.after r hr)) hlinked.2 _ hlen
      none hplace
    rw [or_none] at hprev
    have hmem : ∀ r ∈ c, r ∈ l := fun r hr => by simp [hsplit.eq, hr]
    have hc1 : ∀ r ∈ c1, r ∈ c := fun r hr => by simp [hcc, hr]
    have hc2 : ∀ r ∈ c2, r ∈ c := fun r hr => by simp [hcc, hr]
    refine ⟨l1, c1, c2, l3, hcc ▸ hsplit', fun r hr => ?_, ?_⟩
    · rw [← hroutes r (hmem r (hc1 r hr))]
      exact hpass r hr
    · have hl : l = (l1 ++ c1) ++ (c2 ++ l3) := by rw [hsplit.eq, hcc]; simp
      cases hstop with
      | before hold hnext hworse =>
        have hsome : place.prev.isSome ∨ place.next.isSome := by
          rw [hprev, hnext]
          rcases c1.eq_nil_or_concat with rfl | ⟨c1', z, rfl⟩
          · right
            rw [nil_append] at hcc
            simp [← hcc, hc]
          · left
            simp
        rw [hold] at hx
        simp only [if_pos hsome] at hx
        have hwrites := (insertBetween_writes hx).congr hcontents
        refine ⟨.inserted (fun r hr => ?_) ?_ hwrites.1, hwrites.2⟩
        · rw [← hroutes r (hmem r (hc2 r (mem_of_head? hr)))]
          exact hworse r hr
        · rw [hl] at hT hid
          refine insertBetween_inv hT hid hprep (fun r hr => ?_) (fun r hr => ?_) ?_ ?_ hnext
            hsome hx
          · rw [prepared_key, prepared_key]
            rcases mem_append.mp hr with hr | hr
            · exact le_of_lt (hsplit'.before r hr)
            · exact le_of_eq (hsplit'.group r (hc1 r hr))
          · rw [prepared_key, prepared_key]
            rcases mem_append.mp hr with hr | hr
            · exact le_of_eq (hsplit'.group r (hc2 r hr)).symm
            · exact le_of_lt (hsplit'.after r hr)
          · refine ne_nil_of_mem (a := a) (mem_filter.mpr ⟨?_, ?_⟩)
            · rw [← hl]
              exact hmem a (by simp [hc])
            · simpa [prepared_key] using hsplit'.group a (by simp [hc])
          · rw [hprev]
            rcases c1.eq_nil_or_concat with rfl | ⟨c1', z, rfl⟩
            · right
              rfl
            · left
              simp
      | @found o c3 hold htype horigin =>
        rw [hold] at hx
        have ho : o ∈ l := hmem o (hc2 o mem_cons_self)
        have hko : t.key o = t.key id := hsplit'.group o (hc2 o mem_cons_self)
        have hl' : l = (l1 ++ c1) ++ [o] ++ (c3 ++ l3) := by rw [hl]; simp
        have hident_eq : ospf6RouteIsIdentical ((prepared t id).routes o) ((prepared t id).routes id)
            = ospf6RouteIsIdentical (t.routes o) (t.routes id) := by
          rw [hroutes o ho, prepared_routes, if_pos rfl]
          rfl
        rw [hroutes o ho] at htype horigin
        rw [hl'] at hT hid
        cases hident : ospf6RouteIsIdentical (t.routes o) (t.routes id) with
        | true =>
          obtain ⟨hinv, hwrites⟩ := replaceOld_kept hT (hident_eq.trans hident) hx
          have hwrites := hwrites.congr hcontents
          exact ⟨.kept hident hinv hwrites.1, hwrites.2⟩
        | false =>
          have hwrites := (replaceOld_writes (hident_eq.trans hident) hx).congr hcontents
          refine ⟨.replaced htype horigin hident ?_ hwrites.1, hwrites.2⟩
          exact replaceOld_inv hT hid hprep (hident_eq.trans hident) hx
            (by rw [prepared_key, prepared_key, hko])

end

end

lemma TableInv.sameKey_head (h : TableInv t (l1 ++ [id] ++ l2)) :
    (sameKey t id l2).head? = l2.head?.filter fun n => t.key n = t.key id := by
  have hord := (pairwise_append.mp h.ordered)
  cases l2 with
  | nil => rfl
  | cons n l =>
    by_cases hn : t.key n = t.key id
    · simp [hn, Option.filter]
    have hlt : t.key id < t.key n :=
      lt_of_le_of_ne (hord.2.2 id (by simp) n mem_cons_self) (Ne.symm hn)
    have hnil : sameKey t id (n :: l) = [] := by
      refine filter_eq_nil_iff.mpr fun r hr => ?_
      rcases mem_cons.mp hr with rfl | hr
      · simpa using hn
      · have hle := (pairwise_cons.mp hord.2.1).1 r hr
        simpa using ne_of_gt (lt_of_lt_of_le hlt hle)
    rw [hnil]
    simp [hn, Option.filter]

lemma moveHead_rest : (moveHead t id).nodes = t.nodes ∧ (moveHead t id).count = t.count := by
  rw [moveHead_eq]
  split_ifs <;> simp [setInfo]

lemma moveHead_info (hnext : (t.routes id).next = l2.head?) (k : List Bool) :
    (moveHead t id).info k =
      if k = t.key id ∧ t.info (t.key id) = some id then
        l2.head?.filter fun n => t.key n = t.key id
      else t.info k := by
  rw [moveHead_eq, hnext]
  by_cases hi : t.info (t.key id) = some id <;> simp [hi, setInfo_info]

lemma moveHead_routes (hnext : (t.routes id).next = l2.head?) (r : Nat) :
    (moveHead t id).routes r =
      { t.routes r with
        flag := { (t.routes r).flag with
          best := if t.info (t.key id) = some id ∧ l2.head? = some r ∧ t.key r = t.key id then true
            else (t.routes r).flag.best } } := by
  rw [moveHead_eq, hnext]
  by_cases hi : t.info (t.key id) = some id
  · simp only [hi, if_true, modifyAt_routes, Option.filter_eq_some_iff, decide_eq_true_eq]
    by_cases hr : l2.head? = some r ∧ t.key r = t.key id <;> simp [hr, setInfo, setBest]
  · simp [hi]

lemma unlinkRoute_routes (hprev : (t.routes id).prev = prev) (hnext : (t.routes id).next = next) (r : Nat) :
    (unlinkRoute t id).routes r =
      { t.routes r with
        prev := if next = some r then prev else (t.routes r).prev
        next := if prev = some r then next else (t.routes r).next } := by
  subst hprev hnext
  by_cases hp : (t.routes id).prev = some r <;> by_cases hn : (t.routes id).next = some r <;>
    simp [unlinkRoute, modifyAt_routes, hp, hn]

lemma ospf6RouteRemove_routes (h : TableInv t (l1 ++ [id] ++ l2))
    (hx : ospf6RouteRemove t id = some t') :
    (∀ k, t'.info k = if k = t.key id ∧ t.info (t.key id) = some id then (sameKey t id l2).head?
      else t.info k) ∧ t'.nodes = t.nodes ∧ t'.count = t.count - 1 ∧ ∀ r,
    (t'.routes r).routePrefix = (t.routes r).routePrefix ∧
    (t'.routes r).prev = prevAfter none l1 l2 (fun r => (t.routes r).prev) r ∧
    (t'.routes r).next = nextAfter none l1 l2 (fun r => (t.routes r).next) r ∧
    (t'.routes r).flag.best = (if t.info (t.key id) = some id ∧ l2.head? = some r ∧
      t.key r = t.key id then true else (t.routes r).flag.best) ∧
    (r ≠ id → attachment (t'.routes r) = attachment (t.routes r)) ∧
    (r = id → (t'.routes r).lock = 0 ∧ (t'.routes r).table = false) := by
  have hlinked := h.linked
  rw [append_assoc, singleton_append] at hlinked
  have hlock := h.lock_middle
  obtain ⟨T, hT⟩ : ∃ T, T = t.modify id fun r =>
    { r with flag := { r.flag with wasRemoved := true } } := ⟨_, rfl⟩
  have hTr : ∀ r, T.routes r = { t.routes r with
      flag := { (t.routes r).flag with
        wasRemoved := if r = id then true else (t.routes r).flag.wasRemoved } } := by
    intro r
    by_cases hr : r = id <;> simp [hT, modify_routes, hr]
  have hTkey : ∀ r, T.key r = t.key r := fun r => by simp [key, hTr]
  have hTinfo : T.info = t.info := by rw [hT]; rfl
  have hTprev : (T.routes id).prev = l1.getLast? := by
    rw [hTr]
    simpa using hlinked.prev_eq
  have hTnext : (T.routes id).next = l2.head? := by
    rw [hTr]
    simpa using hlinked.next_eq
  have hmove := fun r => moveHead_routes hTnext r
  have hunlink : ∀ r, (unlinkRoute (moveHead T id) id).routes r =
      { (moveHead T id).routes r with
        prev := if l2.head? = some r then l1.getLast? else ((moveHead T id).routes r).prev
        next := if l1.getLast? = some r then l2.head? else ((moveHead T id).routes r).next } :=
    fun r => unlinkRoute_routes (by rw [hmove]; exact hTprev) (by rw [hmove]; exact hTnext) r
  unfold ospf6RouteRemove at hx
  simp only [← hT] at hx
  have hx' : ospf6RouteUnlock { unlinkRoute (moveHead T id) id with
      count := (unlinkRoute (moveHead T id) id).count - 1 } id = some t' := by
    split_ifs at hx
    exact hx
  unfold ospf6RouteUnlock at hx'
  simp only [hunlink, hmove, hTr, hlock, gt_iff_lt, zero_lt_one, if_true] at hx'
  cases hx'
  have hinfo := moveHead_info hTnext
  simp only [hTkey, hTinfo] at hinfo
  refine ⟨fun k => ?_, ?_, ?_, fun r => ?_⟩
  · rw [h.sameKey_head, ← hinfo]
    simp [RouteTable.modify, unlinkRoute]
  · simp [RouteTable.modify, unlinkRoute, moveHead_rest, hT]
  · simp [RouteTable.modify, unlinkRoute, moveHead_rest, hT]
  · simp only [modify_routes, hunlink, hmove, hTr, hTkey, hTinfo]
    by_cases hr : r = id
    · subst hr
      simp [hlock, nextAfter, prevAfter]
    · simp [hr, attachment, nextAfter, prevAfter]

lemma ospf6RouteRemove_spec (h : TableInv t l) (hx : ospf6RouteRemove t id = some t') :
    ∃ l1 l2, l = l1 ++ [id] ++ l2 ∧ TableInv t' (l1 ++ l2) := by
  have hmem : id ∈ l := by
    unfold ospf6RouteRemove at hx
    rw [h.chain_eq] at hx
    split_ifs at hx with h1 h2 h3
    · exact mem_of_mem_filter h3
  obtain ⟨l1, l2, hl⟩ := append_of_mem hmem
  rw [← singleton_append, ← append_assoc] at hl
  subst hl
  refine ⟨l1, l2, rfl, ?_⟩
  obtain ⟨hinfo, hnodes, hcount, hroutes⟩ := ospf6RouteRemove_routes h hx
  have hput : TableInv t' (l1 ++ (none : Option Nat).toList ++ l2) := by
    refine TableInv.put (some id) none h nofun ?_ nofun nofun h.around.1 h.around.2 (fun r => ?_)
      hnodes ?_ (fun r hr _ => (hroutes r).2.2.2.2.1 fun he => hr (he ▸ rfl)) nofun
      (fun r hr _ => (hroutes r).2.2.2.2.2 (Option.some.inj hr).symm) (fun r => (hroutes r).2.2.1)
      (fun r => (hroutes r).2.1) (fun k => ?_) fun r hr => ?_
    · rintro r ⟨⟩
      rfl
    · simp only [key, (hroutes r).1]
    · have := h.count
      simp only [length_append, length_singleton, Option.toList_some, Option.toList_none,
        length_nil] at this ⊢
      omega
    · simp only [hinfo, h.info_middle_iff, Option.none_or]
    · rw [Option.toList_none, append_nil] at hr
      have hrid := h.ne_middle r hr
      have hb := h.best r (by simp only [mem_append] at hr ⊢; tauto)
      rw [(hroutes r).2.2.2.1, hinfo, hb]
      by_cases hk : t.key r = t.key id
      · by_cases hi : t.info (t.key id) = some id
        · rw [h.sameKey_head]
          cases l2.head? with
          | none => simp [hk, hi, Ne.symm hrid]
          | some n =>
            by_cases hn : n = r
            · subst hn
              simp [hk, hi, Option.filter]
            · by_cases hkn : t.key n = t.key id <;> simp [hk, hi, Option.filter, hn, hkn, Ne.symm hrid]
        · simp [hi]
      · simp [hk]
  simpa using hput

end Calls

end OspfMdr.Ospf6
