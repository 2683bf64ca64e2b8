import OspfMdr.Lib.KeyedList
import OspfMdr.Lib.SortedList
import OspfMdr.Model.Route

/-!
# Structure of route tables

Every call keeps the routes in one doubly linked list that is grouped by prefix, with each trie node at the
head of its group and the BEST flag on exactly the heads.
-/

namespace OspfMdr.Ospf6
open Lib List Option RouteTable

variable {next prev : Option Nat} {x : RouteTable × Nat} {p : List Bool} {nodes : List (List Bool)}
  {now : Nat}

section Memory
variable (t : RouteTable)

lemma modify_routes (id : Nat) (f : Route → Route) (r : Nat) :
    (t.modify id f).routes r = if r = id then f (t.routes r) else t.routes r := by
  by_cases h : r = id
  · subst h
    simp [RouteTable.modify]
  · simp [RouteTable.modify, h]

lemma modifyAt_routes (id : Option Nat) (f : Route → Route) (r : Nat) :
    (t.modifyAt id f).routes r = if id = some r then f (t.routes r) else t.routes r := by
  cases id with
  | none => simp [modifyAt]
  | some id => simp [modifyAt, modify_routes, eq_comm]

lemma setInfo_info (node : List Bool) (id : Option Nat) (k : List Bool) :
    (t.setInfo node id).info k = if k = node then id else t.info k := by
  by_cases h : k = node
  · subst h
    simp [setInfo]
  · simp [setInfo, h]

@[simp] lemma modifyAt_rest (id : Option Nat) (f : Route → Route) : (t.modifyAt id f).info = t.info ∧
    (t.modifyAt id f).nodes = t.nodes ∧ (t.modifyAt id f).count = t.count := by
  cases id <;> exact ⟨rfl, rfl, rfl⟩

lemma linkRoute_routes (prev : Option Nat) {id : Nat} (h : next ≠ some id) (r : Nat) :
    (linkRoute t prev id next).routes r =
      { t.routes r with
        prev := if r = id then prev else if next = some r then some id else (t.routes r).prev
        next := if r = id then next else if prev = some r then some id else (t.routes r).next } := by
  by_cases hr : r = id
  · subst hr
    by_cases hp : prev = some r <;>
      simp [linkRoute, modify_routes, modifyAt_routes, h, hp]
  · by_cases hp : prev = some r <;> by_cases hn : next = some r <;>
      simp [linkRoute, modify_routes, modifyAt_routes, hr, hp, hn]

@[simp] lemma linkRoute_rest (prev next : Option Nat) (id : Nat) : (linkRoute t prev id next).info = t.info ∧
    (linkRoute t prev id next).nodes = t.nodes ∧ (linkRoute t prev id next).count = t.count := by
  simp [linkRoute, RouteTable.modify]

lemma eq_of_checked {id : Nat} (h : checked t id = some x) : x = (t, id) := by
  unfold checked at h
  split_ifs at h
  exact (some.inj h).symm

end Memory

/-- What ties a route to the table. -/
def attachment (r : Route) : Nat × Bool × Option (List Bool) × Bool :=
  (r.lock, r.table, r.rnode, r.flag.wasRemoved)

/-- The routes of the table are those of `l`, linked in the order of their prefixes. -/
structure TableInv (t : RouteTable) (l : List Nat) : Prop where
  nodup : l.Nodup
  linked : Segment (fun r => (t.routes r).next) (fun r => (t.routes r).prev) none l none
  ordered : l.Pairwise fun a b => t.key a ≤ t.key b
  info : ∀ k, t.info k = (l.filter fun r => t.key r = k).head?
  nodes : t.nodes.Pairwise (· < ·)
  mem_nodes : ∀ r ∈ l, t.key r ∈ t.nodes
  count : t.count = l.length
  attached : ∀ r ∈ l, attachment (t.routes r) = (1, true, some (t.key r), false)
  detached : ∀ r ∉ l, (t.routes r).lock = 0 ∧ (t.routes r).table = false
  best : ∀ r ∈ l, (t.routes r).flag.best = decide (t.info (t.key r) = some r)

variable {t t' : RouteTable} {l : List Nat} {k : List Bool}

/-- The place of a route in the table. -/
def position (r : Route) : List Bool × Option Nat × Option Nat × (Nat × Bool × Option (List Bool) × Bool) × Bool :=
  (r.routePrefix.bits, r.next, r.prev, attachment r, r.flag.best)

/-- The route `old` between `l1` and `l2` gives way to `new`; both have the prefix `k`. -/
lemma TableInv.put {l1 l2 : List Nat} (old new : Option Nat)
    (h : TableInv t (l1 ++ old.toList ++ l2)) (hfresh : ∀ r, new = some r → r ∉ l1 ++ l2)
    (hold : ∀ r, old = some r → t.key r = k) (hnew : ∀ r, new = some r → t.key r = k)
    (hnode : new.isSome → k ∈ t.nodes) (hle : ∀ r ∈ l1, t.key r ≤ k)
    (hge : ∀ r ∈ l2, k ≤ t.key r) (hkey : ∀ r, t'.key r = t.key r) (hnodes : t'.nodes = t.nodes)
    (hcount : t'.count + old.toList.length = t.count + new.toList.length)
    (hkeep : ∀ r, old ≠ some r → new ≠ some r → attachment (t'.routes r) = attachment (t.routes r))
    (hattached : ∀ r, new = some r → attachment (t'.routes r) = (1, true, some (t.key r), false))
    (hdetached : ∀ r, old = some r → new ≠ some r →
      (t'.routes r).lock = 0 ∧ (t'.routes r).table = false)
    (hnext : ∀ r, (t'.routes r).next = nextAfter new l1 l2 (fun r => (t.routes r).next) r)
    (hprev : ∀ r, (t'.routes r).prev = prevAfter new l1 l2 (fun r => (t.routes r).prev) r)
    (hinfo : ∀ k', t'.info k' = if k' = k ∧ l1.filter (fun r => t.key r = k) = [] then
      new.or (l2.filter fun r => t.key r = k).head? else t.info k')
    (hbest : ∀ r ∈ l1 ++ new.toList ++ l2,
      (t'.routes r).flag.best = decide (t'.info (t.key r) = some r)) :
    TableInv t' (l1 ++ new.toList ++ l2) := by
  have hmem (o : Option Nat) (r : Nat) : r ∈ l1 ++ o.toList ++ l2 ↔ r ∈ l1 ++ l2 ∨ o = some r := by
    simp only [mem_append, mem_toList]
    tauto
  have hsub : (l1 ++ l2).Sublist (l1 ++ old.toList ++ l2) := by
    rw [append_assoc]
    exact List.Sublist.append_left (sublist_append_right _ _) l1
  have hout : ∀ r ∈ l1 ++ l2, old ≠ some r := by
    rintro r hr rfl
    have := h.nodup
    grind
  have hpart (o : Option Nat) (ho : ∀ r, o = some r → t.key r = k) (k' : List Bool) :
      o.toList.filter (fun r => t.key r = k') = if k' = k then o.toList else [] := by
    cases o with
    | none => simp
    | some r => simp [ho r rfl, filter_cons, eq_comm]
  refine ⟨?_, ?_, ?_, fun k' => ?_, hnodes ▸ h.nodes, fun r hr => ?_, ?_, fun r hr => ?_, fun r hr => ?_,
    fun r hr => ?_⟩
  · cases new with
    | none => simpa using h.nodup.sublist hsub
    | some r =>
      rw [toList_some, append_assoc, singleton_append, perm_middle.nodup_iff, nodup_cons]
      exact ⟨hfresh r rfl, h.nodup.sublist hsub⟩
  · exact (h.linked.put h.nodup hfresh).congr (fun r _ => hnext r) fun r _ => hprev r
  · have hord := h.ordered.sublist hsub
    simp only [hkey, pairwise_append, mem_append] at hord ⊢
    cases new with
    | none => simpa using hord
    | some r =>
      simp only [toList_some, pairwise_singleton, mem_singleton]
      refine ⟨⟨hord.1, trivial, ?_⟩, hord.2.1, ?_⟩
      · rintro a ha _ rfl
        exact hnew _ rfl ▸ hle a ha
      · rintro a (ha | rfl) b hb
        · exact hord.2.2 a ha b hb
        · exact hnew _ rfl ▸ hge b hb
  · simp only [hkey, hinfo, h.info, filter_append, hpart new hnew, hpart old hold]
    by_cases hk : k' = k
    · subst hk
      cases hf : l1.filter fun r => decide (t.key r = k') with
      | nil => cases new <;> simp
      | cons a l => simp
    · simp [hk]
  · rw [hkey, hnodes]
    rcases (hmem new r).mp hr with hr | hr
    · exact h.mem_nodes r (hsub.subset hr)
    · exact hnew r hr ▸ hnode (by rw [hr]; rfl)
  · have := h.count
    simp only [length_append] at this ⊢
    omega
  · rw [hkey]
    by_cases hn : new = some r
    · exact hattached r hn
    · have hr' := ((hmem new r).mp hr).resolve_right hn
      rw [hkeep r (hout r hr') hn]
      exact h.attached r (hsub.subset hr')
  · rw [hmem, not_or] at hr
    by_cases ho : old = some r
    · exact hdetached r ho hr.2
    have := hkeep r ho hr.2
    simp only [attachment, Prod.mk.injEq] at this
    rw [this.1, this.2.1]
    exact h.detached r fun hr' => ((hmem old r).mp hr').elim hr.1 ho
  · rw [hkey]
    exact hbest r hr

lemma TableInv.congr (h : TableInv t l)
    (hroutes : ∀ r ∈ l, position (t'.routes r) = position (t.routes r))
    (hinfo : t'.info = t.info) (hnodes : t'.nodes.Pairwise (· < ·)) (hsub : ∀ k ∈ t.nodes, k ∈ t'.nodes)
    (hcount : t'.count = t.count)
    (hdetached : ∀ r ∉ l, (t'.routes r).lock = 0 ∧ (t'.routes r).table = false) : TableInv t' l := by
  simp only [position, Prod.mk.injEq] at hroutes
  have hkey : ∀ r ∈ l, t'.key r = t.key r := fun r hr => (hroutes r hr).1
  refine ⟨h.nodup, ?_, ?_, ?_, hnodes, ?_, hcount.trans h.count, ?_, hdetached, ?_⟩
  · exact h.linked.congr (fun r hr => (hroutes r hr).2.1) fun r hr => (hroutes r hr).2.2.1
  · refine h.ordered.imp_of_mem fun {a b} ha hb hab => ?_
    rwa [hkey a ha, hkey b hb]
  · intro k
    rw [hinfo, h.info k]
    congr 1
    exact filter_congr fun r hr => by rw [hkey r hr]
  · intro r hr
    rw [hkey r hr]
    exact hsub _ (h.mem_nodes r hr)
  · intro r hr
    rw [hkey r hr, (hroutes r hr).2.2.2.1]
    exact h.attached r hr
  · intro r hr
    rw [hkey r hr, (hroutes r hr).2.2.2.2, hinfo]
    exact h.best r hr

lemma TableInv.mem_iff (h : TableInv t l) (r : Nat) :
    r ∈ l ↔ (t.routes r).table := by
  constructor
  · intro hr
    have hattached := h.attached r hr
    simp only [attachment, Prod.mk.injEq] at hattached
    exact hattached.2.1
  · intro htable
    by_contra hr
    rw [(h.detached r hr).2] at htable
    exact Bool.false_ne_true htable

lemma mem_insertNode : k ∈ insertNode p nodes ↔ k = p ∨ k ∈ nodes := by
  induction nodes with
  | nil => simp [insertNode]
  | cons node nodes ih =>
    unfold insertNode
    split_ifs with h1 h2
    · simp [h1]
    · simp
    · simp only [mem_cons, ih]
      tauto

lemma insertNode_eq_keyInsert : insertNode p nodes = keyInsert id p nodes := by
  induction nodes with
  | nil => rfl
  | cons node nodes ih =>
    unfold insertNode keyInsert
    split_ifs <;> grind

lemma pairwise_insertNode (h : nodes.Pairwise (· < ·)) : (insertNode p nodes).Pairwise (· < ·) := by
  rw [insertNode_eq_keyInsert]
  exact KeySorted.insert h p

section Insert
variable {t t' : RouteTable} {l1 l2 : List Nat} {id : Nat}

abbrev sameKey (t : RouteTable) (id : Nat) (l : List Nat) : List Nat :=
  l.filter fun r => t.key r = t.key id

lemma sameKey_append : sameKey t id (l1 ++ l2) = sameKey t id l1 ++ sameKey t id l2 :=
  filter_append _ _

lemma TableInv.info_key (h : TableInv t l) (id : Nat) :
    t.info (t.key id) = (sameKey t id l).head? :=
  h.info _

/-- A route that can be put in the table. -/
structure Prepared (t : RouteTable) (id : Nat) : Prop where
  lock : (t.routes id).lock = 0
  rnode : (t.routes id).rnode = some (t.key id)
  best : (t.routes id).flag.best = false
  wasRemoved : (t.routes id).flag.wasRemoved = false
  node : t.key id ∈ t.nodes

section
variable (h : TableInv t (l1 ++ l2))
include h

lemma TableInv.install {T : RouteTable} (hid : id ∉ l1 ++ l2) (hprep : Prepared t id)
    (hle : ∀ r ∈ l1, t.key r ≤ t.key id) (hge : ∀ r ∈ l2, t.key id ≤ t.key r) (hroutes : ∀ r, T.routes r =
      { t.routes r with
        prev := if r = id then l1.getLast? else
          if l2.head? = some r then some id else (t.routes r).prev
        next := if r = id then l2.head? else
          if l1.getLast? = some r then some id else (t.routes r).next
        flag := { (t.routes r).flag with
          best := if r = id then decide (sameKey t id l1 = [])
            else if sameKey t id l1 = [] ∧ t.info (t.key id) = some r then false
            else (t.routes r).flag.best } })
    (hinfo : ∀ k, T.info k = if k = t.key id ∧ sameKey t id l1 = [] then some id else t.info k)
    (hnodes : T.nodes = t.nodes) (hcount : T.count = t.count) (hx : installRoute T now id = some x) :
    TableInv x.1 (l1 ++ [id] ++ l2) := by
  unfold installRoute at hx
  split_ifs at hx
  obtain rfl := eq_of_checked _ hx
  refine TableInv.put none (some id) (k := t.key id) (by simpa using h) ?_ nofun ?_
    (fun _ => hprep.node) hle hge (fun r => ?_) hnodes ?_ (fun r _ hr => ?_) ?_ nofun (fun r => ?_)
    (fun r => ?_) hinfo fun r hr => ?_
  · rintro r ⟨⟩
    exact hid
  · rintro r ⟨⟩
    rfl
  · simp only [key, modify_routes, hroutes]
    split_ifs <;> rfl
  · simp [hcount, RouteTable.modify]
  · have hr' : r ≠ id := fun he => hr (he ▸ rfl)
    simp only [modify_routes, hr', if_false, hroutes]
    rfl
  · rintro r ⟨⟩
    simp only [modify_routes, if_true, hroutes, attachment]
    rw [hprep.lock, hprep.rnode, hprep.wasRemoved]
  · by_cases hr : r = id
    · simp [modify_routes, hroutes, hr, nextAfter]
    · simp [modify_routes, hroutes, hr, nextAfter, Ne.symm hr]
  · by_cases hr : r = id
    · simp [modify_routes, hroutes, hr, prevAfter]
    · simp [modify_routes, hroutes, hr, prevAfter, Ne.symm hr]
  · change _ = decide (T.info (t.key r) = some r)
    have hself : t.info (t.key id) ≠ some id := by
      rw [h.info]
      exact fun he => hid (mem_of_mem_filter (mem_of_head? he))
    by_cases hrid : r = id
    · subst hrid
      by_cases hf : sameKey t r l1 = [] <;> simp [modify_routes, hroutes, hinfo, hf, hself]
    have hr' : r ∈ l1 ++ l2 := by
      simp only [mem_append, toList_some, mem_singleton] at hr ⊢
      tauto
    simp only [modify_routes, hroutes, hrid, if_false, hinfo, h.best r hr']
    by_cases hf : sameKey t id l1 = []
    · by_cases hk : t.key r = t.key id
      · by_cases hi : t.info (t.key id) = some r <;> simp [hf, hk, hi, Ne.symm hrid]
      · have hi : t.info (t.key id) ≠ some r := by
          rw [h.info]
          intro he
          exact hk (by simpa using of_mem_filter (mem_of_head? he))
        simp [hf, hk, hi]
    · simp [hf]

lemma TableInv.info_eq_head_iff (hge : ∀ r ∈ l2, t.key id ≤ t.key r)
    (hchain : sameKey t id (l1 ++ l2) ≠ []) : t.info (t.key id) = l2.head? ↔ sameKey t id l1 = [] := by
  rw [h.info_key, sameKey_append]
  constructor
  · intro he
    by_contra hne
    obtain ⟨a, l, ha⟩ := exists_cons_of_ne_nil hne
    rw [ha, cons_append, List.head?_cons] at he
    have ha1 : a ∈ l1 := mem_of_mem_filter (ha ▸ mem_cons_self)
    have ha2 : a ∈ l2 := mem_of_head? he.symm
    exact (nodup_append.mp h.nodup).2.2 a ha1 a ha2 rfl
  · intro hnil
    rw [sameKey_append, hnil, nil_append] at hchain
    rw [hnil, nil_append]
    cases l2 with
    | nil => rfl
    | cons n l =>
      obtain ⟨b, hb⟩ := exists_mem_of_ne_nil _ hchain
      obtain ⟨hb, hkb⟩ := mem_filter.mp hb
      have hkn : t.key n = t.key id := by
        refine le_antisymm ?_ (hge n mem_cons_self)
        have hkb' : t.key b = t.key id := by simpa using hkb
        rcases mem_cons.mp hb with rfl | hb
        · exact le_of_eq hkb'
        · have hord := (pairwise_append.mp h.ordered).2.1
          exact hkb' ▸ (pairwise_cons.mp hord).1 b hb
      simp [hkn]

/-- Both pointers of the new route are known once one of them is. -/
lemma TableInv.neighbors (hprev : prev = l1.getLast? ∨ prev = none) (hnext : next = l2.head?)
    (hsome : prev.isSome ∨ next.isSome) : prev.or (next.bind fun n => (t.routes n).prev) =
    l1.getLast? ∧ next.or (l1.getLast?.bind fun p => (t.routes p).next) = l2.head? := by
  constructor
  · cases l2 with
    | nil =>
      subst hnext
      rcases hprev with rfl | rfl
      · simp
      · simp at hsome
    | cons n l =>
      have hp := h.linked.prev_eq
      simp only [or_none] at hp
      subst hnext
      rcases hprev with rfl | rfl
      · simp only [List.head?_cons, Option.bind_some, hp, Option.or_self]
      · simp only [List.head?_cons, Option.bind_some, hp, Option.none_or]
  · subst hnext
    cases hl : l1.getLast? with
    | none => simp
    | some p =>
      obtain ⟨l, rfl⟩ : ∃ l, l1 = l ++ [p] := ⟨_, (dropLast_append_getLast? p hl).symm⟩
      have hlinked := h.linked
      rw [append_assoc, singleton_append] at hlinked
      have hn := hlinked.next_eq
      simp only [Option.or_none] at hn
      simp only [Option.bind_some, hn, Option.or_self]

lemma insertBetween_inv (hid : id ∉ l1 ++ l2) (hprep : Prepared t id)
    (hle : ∀ r ∈ l1, t.key r ≤ t.key id) (hge : ∀ r ∈ l2, t.key id ≤ t.key r)
    (hchain : sameKey t id (l1 ++ l2) ≠ []) (hprev : prev = l1.getLast? ∨ prev = none)
    (hnext : next = l2.head?) (hsome : prev.isSome ∨ next.isSome)
    (hx : insertBetween t now id prev next = some x) : TableInv x.1 (l1 ++ [id] ++ l2) := by
  obtain ⟨hp, hn⟩ := h.neighbors hprev hnext hsome
  have hnid : l2.head? ≠ some id := fun he =>
    hid (mem_append_right _ (mem_of_head? he))
  have hhead := h.info_eq_head_iff hge hchain
  have hlink := fun r => linkRoute_routes t l1.getLast? hnid r
  unfold insertBetween at hx
  simp only [hp, hn] at hx
  by_cases hfirst : sameKey t id l1 = []
  · have hinfo := hhead.mpr hfirst
    cases hl : l2.head? with
    | none =>
      rw [hl] at hinfo hx
      simp [hinfo] at hx
    | some n =>
      rw [hl] at hinfo hx hlink
      simp only [linkRoute_rest, hinfo, if_true] at hx
      split_ifs at hx
      have hnn : n ≠ id := fun he => hnid (he ▸ hl)
      refine h.install hid hprep hle hge (fun r => ?_) (fun k => ?_) ?_ ?_ hx
      · by_cases hr : r = id
        · subst hr
          simp [modify_routes, RouteTable.setInfo, setBest, hlink, hfirst, Ne.symm hnn, hl]
        · by_cases hrn : r = n
          · subst hrn
            simp [modify_routes, RouteTable.setInfo, setBest, hlink, hfirst, hr, hl, hinfo]
          · simp [modify_routes, RouteTable.setInfo, hlink, hfirst, hr, hrn, hl, hinfo,
              Ne.symm hrn]
      · by_cases hk : k = t.key id <;>
          simp [RouteTable.modify, setInfo_info, hfirst, hk]
      all_goals simp [RouteTable.modify, RouteTable.setInfo]
  · have hinfo : t.info (t.key id) ≠ l2.head? := fun he => hfirst (hhead.mp he)
    have hx' : installRoute (linkRoute t l1.getLast? id l2.head?) now id = some x := by
      cases hl : l2.head? with
      | none =>
        rw [hl] at hinfo hx
        simpa [hinfo] using hx
      | some n =>
        rw [hl] at hinfo hx
        simpa [hinfo] using hx
    refine h.install hid hprep hle hge (fun r => ?_) (fun k => ?_) (by simp) (by simp) hx'
    · by_cases hr : r = id
      · subst hr
        simp [hlink, hfirst, ← hprep.best]
      · simp [hlink, hfirst, hr]
    · simp [hfirst]

end

lemma TableInv.nodes_split (h : TableInv t l) (hk : k ∈ t.nodes) :
    ∃ n1 n2, GroupSplit (fun n => n) k t.nodes n1 [k] n2 ∧
      t.nodes.takeWhile (· ≠ k) = n1 ∧ (t.nodes.dropWhile (· ≠ k)).drop 1 = n2 := by
  obtain ⟨n1, n2, hn⟩ := append_of_mem hk
  have hord := h.nodes
  rw [hn] at hord
  obtain ⟨-, hcons, hlt⟩ := pairwise_append.mp hord
  have hlt1 : ∀ n ∈ n1, n < k := fun n hn1 => hlt n hn1 k mem_cons_self
  have hne : ∀ n ∈ n1, decide (n ≠ k) := fun n hn1 => by simpa using ne_of_lt (hlt1 n hn1)
  refine ⟨n1, n2, ⟨by simp [hn], hlt1, by simp, (pairwise_cons.mp hcons).1⟩, ?_, ?_⟩
  · rw [hn, takeWhile_append_of_pos hne]
    simp
  · rw [hn, dropWhile_append_of_pos hne]
    simp

lemma TableInv.isSome_info (h : TableInv t l) {n : List Bool} :
    (t.info n).isSome ↔ ∃ r ∈ l, t.key r = n := by
  rw [h.info, isSome_head?, ne_eq, filter_eq_nil_iff]
  simp

lemma TableInv.info_head {a : Nat} (h : TableInv t (l1 ++ a :: l2)) (hlt : ∀ r ∈ l1, t.key r < t.key a) :
    t.info (t.key a) = some a := by
  rw [h.info, filter_append, filter_eq_nil_iff.mpr fun r hr => by simpa using ne_of_lt (hlt r hr)]
  simp

variable {T : RouteTable} {l c : List Nat} {k : List Bool}

lemma nextNode_bind (h : TableInv t l) (hnodes : T.nodes = t.nodes)
    (hinfo : ∀ n, n ≠ k → T.info n = t.info n) (hsplit : GroupSplit t.key k l l1 c l2)
    (hk : k ∈ t.nodes) : (nextNode T k).bind T.info = l2.head? := by
  obtain ⟨n1, n2, hn, -, hdrop⟩ := h.nodes_split hk
  have hfind : n2.find? (fun n => (T.info n).isSome) = l2.head?.map t.key := by
    refine find?_eq_head? (h.nodes.sublist (hn.eq ▸ sublist_append_right _ _))
      ((h.ordered.sublist (hsplit.eq ▸ sublist_append_right _ _)).imp not_lt.mpr) lt_irrefl (fun m hm => ?_) fun r hr => ?_
    · rw [hinfo m (ne_of_gt (hn.after m hm)), h.isSome_info]
      refine exists_congr fun r => and_congr_left fun hr => ?_
      rw [hsplit.mem_after, hr, and_iff_left (hn.after m hm)]
    · obtain ⟨hr, hlt⟩ := hsplit.mem_after.mp hr
      exact hn.mem_after.mpr ⟨h.mem_nodes r hr, hlt⟩
  unfold nextNode
  rw [hnodes, hdrop, hfind]
  cases l2 with
  | nil => rfl
  | cons b l2 =>
    have hb : k < t.key b := hsplit.after b mem_cons_self
    obtain rfl := hsplit.eq
    have hlt : ∀ r ∈ l1 ++ c, t.key r < t.key b := by
      intro r hr
      rcases mem_append.mp hr with hr | hr
      · exact lt_trans (hsplit.before r hr) hb
      · exact (hsplit.group r hr).trans_lt hb
    exact (hinfo _ (ne_of_gt hb)).trans (h.info_head hlt)

lemma lastOfChain_eq {d : Nat} {D F : List Nat} {p : Option Nat}
    (hlinked : Segment (fun r => (T.routes r).next) (fun r => (T.routes r).prev) p (d :: D ++ F) none)
    (hD : ∀ r ∈ D, T.key r = T.key d) (hF : ∀ r ∈ F, T.key r ≠ T.key d) (fuel : Nat)
    (hfuel : D.length < fuel) : lastOfChain T fuel d = (d :: D).getLast (by simp) := by
  induction D generalizing d p fuel with
  | nil =>
    obtain ⟨-, hn, -⟩ := hlinked
    cases fuel with
    | zero => simp at hfuel
    | succ fuel =>
      cases F with
      | nil =>
        have hn' : (T.routes d).next = none := hn
        simp [lastOfChain, hn']
      | cons b F =>
        have hn' : (T.routes d).next = some b := hn
        have hb : ospf6RouteIsSame (T.routes d) (T.routes b) = false := by
          simpa [ospf6RouteIsSame, key] using Ne.symm (hF b mem_cons_self)
        simp [lastOfChain, hn', hb]
  | cons e D ih =>
    obtain ⟨-, hn, hrest⟩ := hlinked
    have hn' : (T.routes d).next = some e := hn
    cases fuel with
    | zero => simp at hfuel
    | succ fuel =>
      have he := hD e mem_cons_self
      have hsame : ospf6RouteIsSame (T.routes d) (T.routes e) := by
        simpa [ospf6RouteIsSame, key] using he.symm
      have hrec := ih hrest (fun r hr => (hD r (mem_cons_of_mem _ hr)).trans he.symm)
        (fun r hr => he ▸ hF r hr) fuel (by simpa using hfuel)
      simp only [lastOfChain, hn', hsame, if_true, hrec, getLast_cons_cons]

lemma prevNode_bind (h : TableInv t l) (hnodes : T.nodes = t.nodes)
    (hinfo : ∀ n, n ≠ k → T.info n = t.info n) (hroutes : ∀ r ∈ l, T.routes r = t.routes r)
    (hcount : T.count = t.count) (hsplit : GroupSplit t.key k l l1 [] l2) (hk : k ∈ t.nodes) :
    ((prevNode T k).bind T.info).map (lastOfChain T T.count) = l1.getLast? := by
  obtain ⟨n1, n2, hn, htake, -⟩ := h.nodes_split hk
  have hfind : n1.reverse.find? (fun n => (T.info n).isSome) = l1.getLast?.map t.key := by
    rw [← List.head?_reverse]
    refine find?_eq_head? (R := fun a b => b < a) (pairwise_reverse.mpr ((pairwise_append.mp (hn.eq ▸ h.nodes)).1.sublist ?_))
      (pairwise_reverse.mpr ?_) lt_irrefl (fun m hm => ?_) fun r hr => ?_
    · exact sublist_append_left _ _
    · exact (h.ordered.sublist (hsplit.eq ▸ append_assoc l1 [] l2 ▸ sublist_append_left _ _)).imp not_lt.mpr
    · have hlt := hn.before m (mem_reverse.mp hm)
      rw [hinfo m (ne_of_lt hlt), h.isSome_info]
      refine exists_congr fun r => and_congr_left fun hr => ?_
      rw [mem_reverse, hsplit.mem_before, hr, and_iff_left hlt]
    · obtain ⟨hr, hlt⟩ := hsplit.mem_before.mp (mem_reverse.mp hr)
      exact mem_reverse.mpr (hn.mem_before.mpr ⟨h.mem_nodes r hr, hlt⟩)
  unfold prevNode
  rw [hnodes, htake, hfind]
  rcases eq_nil_or_concat l1 with rfl | ⟨l', z, hl⟩
  · rfl
  have hkz : t.key z < k := hsplit.before z (by simp [hl])
  -- the last route before the node is the last one of its own group
  obtain ⟨l1', D, l2', hz'⟩ := exists_groupSplit t.key (t.key z) h.ordered
  have hDlast : D = l'.filter (fun r => t.key r = t.key z) ++ [z] := by
    have h₂ : l2.filter (fun r => t.key r = t.key z) = [] :=
      filter_eq_nil_iff.mpr fun r hr => by
        simpa using ne_of_gt (lt_trans hkz (hsplit.after r hr))
    have hD := hz'.filter_eq (p := fun r => t.key r = t.key z) (by simp)
    rw [hsplit.eq, hl, append_nil, filter_append, h₂] at hD
    simpa using hD.symm
  have hinfoz : t.info (t.key z) = D.head? := by
    rw [h.info, hz'.filter_eq (by simp)]
  obtain ⟨d, D', hD⟩ := exists_cons_of_ne_nil (show D ≠ [] by simp [hDlast])
  have hkey : ∀ r ∈ l, T.key r = t.key r := fun r hr => by
    simp only [key, hroutes r hr]
  have hsub : ∀ r ∈ (d :: D') ++ l2', r ∈ l := by
    intro r hr
    rw [hz'.eq, hD, append_assoc]
    exact mem_append_right _ hr
  have hlast : lastOfChain T T.count d = z := by
    have hlinked : Segment (fun r => (T.routes r).next) (fun r => (T.routes r).prev) none l none :=
      h.linked.congr (fun r hr => by rw [hroutes r hr]) (fun r hr => by rw [hroutes r hr])
    rw [hz'.eq, hD, append_assoc, segment_append] at hlinked
    have hd : T.key d = t.key z :=
      (hkey d (hsub d (by simp))).trans (hz'.group d (by simp [hD]))
    have hlen : D'.length < T.count := by
      rw [hcount, h.count, hz'.eq, hD]
      simp only [length_append, length_cons]
      omega
    rw [lastOfChain_eq hlinked.2 ?_ ?_ _ hlen]
    · simp only [← hD, hDlast, getLast_append_singleton]
    · intro r hr
      rw [hd, hkey r (hsub r (by simp [hr]))]
      exact hz'.group r (by simp [hD, hr])
    · intro r hr
      rw [hd, hkey r (hsub r (by simp [hr]))]
      exact ne_of_gt (hz'.after r hr)
  rw [hl, concat_eq_append, getLast?_concat, map_some, bind_some, hinfo _ (ne_of_lt hkz), hinfoz, hD,
    List.head?_cons, map_some, hlast]

lemma insertNew_inv (h : TableInv t l) (hsplit : GroupSplit t.key (t.key id) l l1 [] l2) (hid : id ∉ l)
    (hprep : Prepared t id) (hx : insertNew t now id = some x) : TableInv x.1 (l1 ++ [id] ++ l2) := by
  have hl : l = l1 ++ l2 := by simpa using hsplit.eq
  have hnone : t.info (t.key id) = none := by
    rw [h.info, hsplit.filter_eq (by simp)]
    rfl
  unfold insertNew at hx
  simp only [hnone, isSome_none, Bool.false_eq_true, if_false] at hx
  have hinfo : ∀ n, n ≠ t.key id →
      ((t.setInfo (t.key id) (some id)).modify id (setBest true)).info n = t.info n := by
    intro n hn
    simp [RouteTable.modify, setInfo_info, hn]
  have hroutes : ∀ r ∈ l,
      ((t.setInfo (t.key id) (some id)).modify id (setBest true)).routes r = t.routes r := by
    intro r hr
    have hne : r ≠ id := fun he => hid (he ▸ hr)
    simp [modify_routes, hne, setInfo]
  have hnodes : ((t.setInfo (t.key id) (some id)).modify id (setBest true)).nodes = t.nodes := rfl
  rw [nextNode_bind h hnodes hinfo hsplit hprep.node,
    prevNode_bind h hnodes hinfo hroutes rfl hsplit hprep.node] at hx
  subst hl
  have hfirst : sameKey t id l1 = [] :=
    filter_eq_nil_iff.mpr fun r hr => by simpa using ne_of_lt (hsplit.before r hr)
  have hnid : l2.head? ≠ some id := fun he =>
    hid (mem_append_right _ (mem_of_head? he))
  refine h.install hid hprep (fun r hr => le_of_lt (hsplit.before r hr))
    (fun r hr => le_of_lt (hsplit.after r hr)) (fun r => ?_) (fun k => ?_) ?_ ?_ hx
  · rw [linkRoute_routes _ _ hnid]
    by_cases hr : r = id
    · subst hr
      simp [modify_routes, setBest, setInfo, hfirst]
    · simp [modify_routes, setInfo, hr, hnone]
  · by_cases hk : k = t.key id <;> simp [RouteTable.modify, setInfo_info, hfirst, hk]
  all_goals simp [RouteTable.modify, RouteTable.setInfo]

end Insert

end OspfMdr.Ospf6
