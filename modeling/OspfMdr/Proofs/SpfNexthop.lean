import OspfMdr.Proofs.SpfState

namespace OspfMdr.Ospf6
open List

/-- The interfaces of the next hops that are set. -/
def NexthopsIn (S : UInt32 → Prop) (l : List Nexthop) : Prop :=
  ∀ n ∈ l, ospf6NexthopIsSet n → S n.ifindex

def HeadSet (l : List Nexthop) : Prop := ospf6NexthopIsSet (l.headD nexthopZero)

lemma nexthopZero_not_set : ospf6NexthopIsSet nexthopZero = false := by
  decide

lemma ospf6SpfAddNexthop_cases (e : List Nexthop) (n : Nexthop) :
    (ospf6SpfAddNexthop e n).1 = e ∨ ospf6NexthopIsSet n ∧
      ∃ i < e.length, (ospf6SpfAddNexthop e n).1 = sortNexthops (e.set i n) := by
  unfold ospf6SpfAddNexthop
  by_cases hset : ospf6NexthopIsSet n
  · by_cases hsame : (e.any fun x => ospf6NexthopIsSame x n)
    · simp [hsame]
    · cases hi : e.findIdx? fun x => ¬ospf6NexthopIsSet x with
      | none => simp [hset, hsame]
      | some i =>
        have hlt : i < e.length := (List.findIdx?_eq_some_iff_getElem.mp hi).1
        exact .inr ⟨hset, i, hlt, by simp [hset, hsame]⟩
  · simp [hset]

namespace NexthopsIn

variable {S T : UInt32 → Prop} {l e : List Nexthop}

lemma mono (h : NexthopsIn S l) (hST : ∀ i, S i → T i) : NexthopsIn T l :=
  fun n hn hi => hST _ (h n hn hi)

lemma nexthopArray (h : NexthopsIn S l) : NexthopsIn S (nexthopArray l) := by
  intro n hn hi
  rcases mem_append.mp (mem_of_mem_take hn) with hn | hn
  · exact h n hn hi
  · rw [eq_of_mem_replicate hn, nexthopZero_not_set] at hi
    cases hi

lemma setNexthops (h : NexthopsIn S l) : NexthopsIn S (setNexthops l) :=
  fun n hn => h n ((takeWhile_sublist _).subset hn)

lemma add (h : NexthopsIn S e) {n : Nexthop} (hn : ospf6NexthopIsSet n → S n.ifindex) :
    NexthopsIn S (ospf6SpfAddNexthop e n).1 := by
  rcases ospf6SpfAddNexthop_cases e n with heq | ⟨-, i, -, heq⟩
  · rw [heq]
    exact h
  rw [heq]
  intro m hm
  rcases mem_or_eq_of_mem_set ((mem_insertionSort _).mp hm) with hm | rfl
  · exact h m hm
  · exact hn

lemma merge (h : NexthopsIn S e) (hl : NexthopsIn S l) : NexthopsIn S (mergeNexthops e l) := by
  induction l generalizing e with
  | nil => exact h
  | cons n l ih =>
    have hadd := h.add (hl n mem_cons_self)
    unfold mergeNexthops
    dsimp only
    split_ifs
    · exact ih hadd fun m hm => hl m (mem_cons_of_mem n hm)
    · exact hadd

lemma addAll (h : NexthopsIn S e) (hl : NexthopsIn S l) : NexthopsIn S (addNexthops e l) := by
  refine foldlRecOn _ _ h fun e he n hn => ?_
  split_ifs
  · exact he.add (hl n hn)
  · exact he

end NexthopsIn

variable {l : List Nexthop}

lemma headSet_iff : HeadSet l ↔ setNexthops l ≠ [] := by
  unfold HeadSet setNexthops
  cases l with
  | nil => simp [nexthopZero_not_set]
  | cons n l => cases h : ospf6NexthopIsSet n <;> simp [h]

lemma HeadSet.mem (h : HeadSet l) : l.headD nexthopZero ∈ l := by
  cases l with
  | nil => simp [HeadSet, nexthopZero_not_set] at h
  | cons n l => exact mem_cons_self

lemma headSet_nexthopArray (h : HeadSet l) : HeadSet (nexthopArray l) := by
  cases l with
  | nil => simp [HeadSet, nexthopZero_not_set] at h
  | cons n l => exact h

lemma headSet_setNexthops (h : HeadSet l) : HeadSet (setNexthops l) := by
  cases l with
  | nil => exact h
  | cons n l =>
    have hn : ospf6NexthopIsSet n := h
    unfold setNexthops
    rw [takeWhile_cons_of_pos hn]
    exact h

lemma headSet_sortNexthops (h : ∃ n ∈ l, ospf6NexthopIsSet n) : HeadSet (sortNexthops l) := by
  unfold sortNexthops
  induction l with
  | nil => simp at h
  | cons a l ih =>
    rw [insertionSort_cons]
    have hmem := fun n => mem_insertionSort (fun x y => ospf6NexthopCmp x y ≤ 0) (l := l) (x := n)
    generalize List.insertionSort (fun x y => ospf6NexthopCmp x y ≤ 0) l = s at ih hmem
    cases s with
    | nil =>
      obtain ⟨n, hn, hset⟩ := h
      have hnil : l = [] := eq_nil_iff_forall_not_mem.mpr fun n hn => by simpa using (hmem n).mpr hn
      subst hnil
      rw [mem_singleton.mp hn] at hset
      exact hset
    | cons b s =>
      rw [List.orderedInsert]
      cases ha : ospf6NexthopIsSet a with
      | true =>
        split_ifs with hcmp
        · exact ha
        · by_contra hb
          have hb' : ospf6NexthopIsSet b = false := by simpa [HeadSet] using hb
          simp [ospf6NexthopCmp, ha, hb'] at hcmp
      | false =>
        obtain ⟨n, hn, hset⟩ := h
        have hnl : n ∈ l := by
          rcases mem_cons.mp hn with rfl | hn
          · rw [ha] at hset
            cases hset
          · exact hn
        have hb : ospf6NexthopIsSet b := ih ⟨n, hnl, hset⟩
        split_ifs with hcmp
        · simp [ospf6NexthopCmp, ha, hb] at hcmp
        · exact hb

namespace HeadSet

variable {e l : List Nexthop}

lemma add (h : HeadSet e) (n : Nexthop) : HeadSet (ospf6SpfAddNexthop e n).1 := by
  rcases ospf6SpfAddNexthop_cases e n with heq | ⟨hset, i, hlt, heq⟩
  · rw [heq]
    exact h
  · rw [heq]
    exact headSet_sortNexthops ⟨n, mem_set hlt n, hset⟩

lemma merge (h : HeadSet e) : HeadSet (mergeNexthops e l) := by
  induction l generalizing e with
  | nil => exact h
  | cons n l ih =>
    unfold mergeNexthops
    dsimp only
    split_ifs
    · exact ih (h.add n)
    · exact h.add n

lemma addAll (h : HeadSet e) : HeadSet (addNexthops e l) := by
  refine foldlRecOn _ _ h fun e he n _ => ?_
  split_ifs
  · exact he.add n
  · exact he

end HeadSet

/-- Also the first next hop, which may be the only one that is not set. -/
def NexthopsVia (S : UInt32 → Prop) (l : List Nexthop) : Prop :=
  NexthopsIn S l ∧ S (l.headD nexthopZero).ifindex

lemma NexthopsVia.addAll {S : UInt32 → Prop} {e l : List Nexthop} (h : NexthopsVia S e) (hl : NexthopsIn S l) :
    NexthopsVia S (addNexthops e l) := by
  refine foldlRecOn (motive := NexthopsVia S) _ _ h fun e he n hn => ?_
  split_ifs
  · have hadd := he.1.add (hl n hn)
    refine ⟨hadd, ?_⟩
    rcases ospf6SpfAddNexthop_cases e n with heq | ⟨hset, i, hlt, heq⟩
    · rw [heq]
      exact he.2
    · have hhead : HeadSet (ospf6SpfAddNexthop e n).1 := by
        rw [heq]
        exact headSet_sortNexthops ⟨n, mem_set hlt n, hset⟩
      exact hadd _ hhead.mem hhead
  · exact he

lemma setNexthop_nexthop (st : SpfState) (v w : Nat) (l : List Nexthop) :
    ((st.setNexthop v l).vertices w).nexthop = if w = v then l else (st.vertices w).nexthop := by
  unfold SpfState.setNexthop
  by_cases h : w = v
  · subst h
    simp
  · simp [h]

section
variable (f : List Nexthop → List Nexthop)
include f

lemma foldl_setNexthop_sameCore (ws : List Nat) (st : SpfState) :
    SameCore st (ws.foldl (fun st w => st.setNexthop w (f (st.vertices w).nexthop)) st) :=
  foldlRecOn _ _ (.refl st) fun st' h w _ => h.trans (setNexthop_sameCore st' w _)

lemma foldl_setNexthop_nexthop {ws : List Nat} (hnd : ws.Nodup) (st : SpfState) (w : Nat) :
    ((ws.foldl (fun st w => st.setNexthop w (f (st.vertices w).nexthop)) st).vertices w).nexthop =
      if w ∈ ws then f (st.vertices w).nexthop else (st.vertices w).nexthop := by
  induction ws generalizing st with
  | nil => simp
  | cons u ws ih =>
    obtain ⟨hu, hnd⟩ := nodup_cons.mp hnd
    rw [foldl_cons, ih hnd, setNexthop_nexthop]
    by_cases hw : w = u
    · subst hw
      simp [hu]
    · simp [hw]

lemma foldl_setNexthop_routes (ws : List Nat) (st : SpfState) :
    (ws.foldl (fun st w => st.setNexthop w (f (st.vertices w).nexthop)) st).routes = st.routes :=
  foldlRecOn (motive := fun st' : SpfState => st'.routes = st.routes) _ _ rfl fun _ h _ _ => h

end

lemma setRouteNexthop_sameCore (st : SpfState) (route : SpfRoute) (l : List Nexthop) :
    SameCore st (st.setRouteNexthop route l) := by
  have hroutes : SameCore st { st with routes := st.routes.map fun r : SpfRoute =>
      if r.vertexId = route.vertexId then { r with nexthop := l } else r } := by
    refine ⟨rfl, rfl, fun _ => rfl, fun _ => rfl, fun _ => rfl, fun _ _ h => h, ?_⟩
    rw [map_map]
    apply map_congr_left
    intro r _
    dsimp only [Function.comp_apply]
    split_ifs <;> rfl
  exact hroutes.trans (setNexthop_sameCore _ route.vertex l)

section
variable (st : SpfState) (v : Nat) (route : SpfRoute)
include st v route

lemma mergePath_eq :
    mergePath st v route =
      ((st.setRouteNexthop route (mergedNexthops st v route)).childList route.vertex).foldl
        (fun s w => s.setNexthop w (addNexthops (s.vertices w).nexthop (mergedNexthops st v route)))
        (st.setRouteNexthop route (mergedNexthops st v route)) := by
  rfl

lemma mergePath_routes :
    (mergePath st v route).routes = st.routes.map fun r =>
      if r.vertexId = route.vertexId then { r with nexthop := mergedNexthops st v route } else r := by
  rw [mergePath_eq, foldl_setNexthop_routes fun l => addNexthops l (mergedNexthops st v route)]
  rfl

lemma mergePath_sameCore : SameCore st (mergePath st v route) := by
  rw [mergePath_eq]
  exact (setRouteNexthop_sameCore st route _).trans
    (foldl_setNexthop_sameCore (fun l => addNexthops l (mergedNexthops st v route)) _ _)

lemma mergePath_nexthop (w : Nat) : ((mergePath st v route).vertices w).nexthop =
    (st.vertices w).nexthop ∨ w = route.vertex ∧ ((mergePath st v route).vertices w).nexthop =
    mergedNexthops st v route ∨ (st.vertices w).parent = some route.vertex ∧ ∃ e,
    (e = (st.vertices w).nexthop ∨ w = route.vertex ∧ e = mergedNexthops st v route) ∧
    ((mergePath st v route).vertices w).nexthop = addNexthops e (mergedNexthops st v route) := by
  have hset : ∀ l, ((st.setRouteNexthop route l).vertices w).nexthop =
      if w = route.vertex then l else (st.vertices w).nexthop := fun l => setNexthop_nexthop _ _ w l
  have hparent : ∀ l, w ∈ (st.setRouteNexthop route l).childList route.vertex →
      (st.vertices w).parent = some route.vertex := fun l hw =>
    (setRouteNexthop_sameCore st route l).parent w _ (by simpa using (mem_filter.mp hw).2)
  have hnodup : ∀ s : SpfState, (s.childList route.vertex).Nodup := fun s =>
    List.Nodup.filter _ nodup_range
  rw [mergePath_eq, foldl_setNexthop_nexthop (fun l => addNexthops l (mergedNexthops st v route))
    (hnodup _), hset]
  split_ifs with hmem hw hw
  · exact .inr (.inr ⟨hparent _ hmem, _, .inr ⟨hw, rfl⟩, rfl⟩)
  · exact .inr (.inr ⟨hparent _ hmem, _, .inl rfl, rfl⟩)
  · exact .inr (.inl ⟨hw, rfl⟩)
  · exact .inl rfl

end

end OspfMdr.Ospf6
