import OspfMdr.Lib.Run
import OspfMdr.Proofs.RouteOrder

namespace OspfMdr.Ospf6
open Lib List

/-- What may be in a table only once. -/
def destination (r : Route) : List Bool × DestType × UInt32 × LsOrigin :=
  (r.routePrefix.bits, r.type, r.path.areaId, r.path.origin)

/-- No two routes in the table have the same prefix, type, area and origin. -/
def OriginsUnique (t : RouteTable) : Prop :=
  ∀ a b, (t.routes a).table → (t.routes b).table →
    destination (t.routes a) = destination (t.routes b) → a = b

/-- No worse route of the type stands before the route of the new one's origin. -/
def AddFinds (t : RouteTable) (route : Route) : Prop :=
  ∀ c1 o c2, t.chain route.routePrefix.bits = c1 ++ o :: c2 →
    destination (t.routes o) = destination route →
    ∀ r ∈ c1, (t.routes r).type = route.type → ¬∃ v > 0, ospf6RouteCmp (t.routes r) route = some v

/-- The call on a table, unless an earlier one has failed. -/
def routeStep? (t : Option RouteTable) (op : RouteOp) : Option RouteTable := t.bind (routeStep · op)

/-- A completed call that adds a route finds the earlier one. -/
def CallFinds (t : Option RouteTable) (op : RouteOp) : Prop :=
  match op with
  | .add _ _ route => ∀ t₀ ∈ t, (routeStep t₀ op).isSome → AddFinds t₀ route
  | .remove _ => True

/-- After a completed call the table has a route with the type, prefix, path and nexthops of the one added. -/
def CallStores (t : Option RouteTable) (op : RouteOp) : Prop :=
  match op with
  | .add _ _ route => ∀ t₀ ∈ t, ∀ t₁ ∈ routeStep t₀ op, ∃ r, (t₁.routes r).table ∧ payload (t₁.routes r) = payload route
  | .remove _ => True

section origin

variable {t t' : RouteTable} {l l1 c1 c2 l3 : List Nat} {id : Nat}

variable {x y route : Route}

lemma destination_congr (h : payload x = payload y) : destination x = destination y := by
  simp only [payload, Prod.mk.injEq] at h
  unfold destination
  rw [h.1, h.2.1, h.2.2.1]

lemma destination_eq_iff : destination x = destination y ↔
    x.routePrefix.bits = y.routePrefix.bits ∧ x.type = y.type ∧ ospf6RouteIsSameOrigin x y := by
  simp only [destination, Prod.mk.injEq, ospf6RouteIsSameOrigin, decide_eq_true_eq]

lemma isIdentical_iff : ospf6RouteIsIdentical x y ↔ payload x = payload y := by
  simp only [ospf6RouteIsIdentical, payload, decide_eq_true_eq, Prod.mk.injEq]

lemma TableInv.originsUnique_iff_mem (h : TableInv t l) : OriginsUnique t ↔
    ∀ a ∈ l, ∀ b ∈ l, destination (t.routes a) = destination (t.routes b) → a = b := by
  unfold OriginsUnique
  simp only [← h.mem_iff]
  exact ⟨fun hu a ha b hb => hu a b ha hb, fun hu a b ha hb => hu a ha b hb⟩

lemma OriginsUnique.mono (h : OriginsUnique t)
    (htable : ∀ r, (t'.routes r).table → (t.routes r).table)
    (hdest : ∀ r, destination (t'.routes r) = destination (t.routes r)) : OriginsUnique t' := by
  intro a b ha hb hab
  rw [hdest, hdest] at hab
  exact h a b (htable a ha) (htable b hb) hab

/-- A search that stopped before a worse route has missed the route of the origin only if that one
stands behind. -/
lemma not_inserted_of_finds (hfinds : AddFinds t (t.routes id)) (hchain : t.chain (t.key id) = c1 ++ c2)
    (hpass : ∀ r ∈ c1, Passed (t.routes r) (t.routes id))
    (hworse : ∀ r, c2.head? = some r → StopsAt (t.routes r) (t.routes id)) {r : Nat}
    (hr : r ∈ c1 ++ c2) : destination (t.routes r) ≠ destination (t.routes id) := by
  intro hdest
  obtain ⟨-, htype, horigin⟩ := destination_eq_iff.mp hdest
  rcases mem_append.mp hr with hr | hr
  · rcases hpass r hr with hne | ⟨hother, -⟩
    · exact hne htype
    · rw [horigin] at hother
      exact absurd hother (by decide)
  cases c2 with
  | nil => exact absurd hr not_mem_nil
  | cons s c2 =>
    have hstop := hworse s rfl
    rcases mem_cons.mp hr with rfl | hr
    · rw [hstop.origin] at horigin
      exact absurd horigin (by decide)
    · obtain ⟨d1, d2, rfl⟩ := append_of_mem hr
      have hsplit : t.chain (t.key id) = (c1 ++ s :: d1) ++ r :: d2 := by simp [hchain]
      exact hfinds _ r d2 hsplit hdest s (by simp) hstop.type hstop.worse

lemma addFinds_of_passed {o : Nat} (hinv : TableInv t l) (hunique : OriginsUnique t)
    (hchain : t.chain (t.key id) = c1 ++ o :: c2)
    (hdest : destination (t.routes o) = destination (t.routes id))
    (hpass : ∀ r ∈ c1, Passed (t.routes r) (t.routes id)) : AddFinds t (t.routes id) := by
  intro d1 o' d2 hchain' hdest' r hr htype hworse
  have hchain'' : c1 ++ o :: c2 = d1 ++ o' :: d2 := hchain.symm.trans hchain'
  have hmem : ∀ r ∈ c1 ++ o :: c2, (t.routes r).table := by
    intro r hr
    rw [← hchain, hinv.chain_eq] at hr
    exact (hinv.mem_iff r).mp (mem_of_mem_filter hr)
  have hnodup : (c1 ++ o :: c2).Nodup := by
    rw [← hchain, hinv.chain_eq]
    exact hinv.nodup.filter _
  obtain rfl : o = o' := by
    refine hunique o o' (hmem o (by simp)) (hmem o' ?_) (hdest.trans hdest'.symm)
    rw [hchain'']
    simp
  have hnot : o ∉ c1 ∧ o ∉ c2 := by
    rw [nodup_append] at hnodup
    exact ⟨fun h => hnodup.2.2 o h o mem_cons_self rfl, (nodup_cons.mp hnodup.2.1).1⟩
  obtain ⟨rfl, -, -⟩ := (append_cons_inj_of_notMem hnot.1 hnot.2).mp hchain''
  obtain ⟨v, hv, hcmp⟩ := hworse
  rcases hpass r hr with hne | ⟨-, c, hc, hcmp'⟩
  · exact hne htype
  · obtain rfl : v = c := Option.some.inj (hcmp.symm.trans hcmp')
    omega

/-- One call of `ospf6_route_add` keeps the origins unique exactly if it finds the earlier route. -/
lemma Placed.unique_iff {d : Nat → List Bool × DestType × UInt32 × LsOrigin} {x : RouteTable × Nat}
    (hd : ∀ r, destination (t.routes r) = d r) (hd' : ∀ r, destination (x.1.routes r) = d r)
    (hinv : TableInv t l) (hid : id ∉ l) (hunique : OriginsUnique t)
    (hsplit : GroupSplit t.key (t.key id) l l1 (c1 ++ c2) l3)
    (hpass : ∀ r ∈ c1, Passed (t.routes r) (t.routes id)) (h : Placed t id x l1 c1 l3 c2) :
    OriginsUnique x.1 ↔ AddFinds t (t.routes id) := by
  have hchain : t.chain (t.key id) = c1 ++ c2 := by
    rw [hinv.chain_eq]
    exact hsplit.filter_eq fun r => decide_eq_true_iff
  have hold := hinv.originsUnique_iff_mem.mp hunique
  simp only [hd] at hold
  cases h with
  | inserted hworse hinv' =>
    have hmem : ∀ r, r ∈ l1 ++ c1 ++ [id] ++ (c2 ++ l3) ↔ r = id ∨ r ∈ l := by
      intro r
      rw [hsplit.eq]
      simp only [mem_append, mem_singleton]
      tauto
    rw [hinv'.originsUnique_iff_mem]
    simp only [hmem, hd']
    constructor
    · intro hnew e1 o e2 he hdest
      have ho : o ∈ l := by
        have hoc : o ∈ t.chain (t.key id) := by
          change o ∈ t.chain (t.routes id).routePrefix.bits
          rw [he]
          simp
        rw [hinv.chain_eq] at hoc
        exact mem_of_mem_filter hoc
      rw [hd, hd] at hdest
      exact absurd ((hnew o (.inr ho) id (.inl rfl) hdest) ▸ ho) hid
    · intro hfinds
      have hfresh : ∀ r ∈ l, d r ≠ d id := by
        intro r hr hdest
        rw [← hd, ← hd] at hdest
        refine not_inserted_of_finds hfinds hchain hpass hworse ?_ hdest
        rw [← hchain, hinv.chain_eq]
        exact mem_filter.mpr ⟨hr, decide_eq_true (destination_eq_iff.mp hdest).1⟩
      rintro a (rfl | ha) b (rfl | hb) hab
      · rfl
      · exact absurd hab.symm (hfresh b hb)
      · exact absurd hab (hfresh a ha)
      · exact hold a ha b hb hab
  | @kept o c3 hident hinv' =>
    have hdest : destination (t.routes o) = destination (t.routes id) :=
      destination_congr (isIdentical_iff.mp hident)
    have hmem : ∀ r, r ∈ l1 ++ c1 ++ [o] ++ (c3 ++ l3) ↔ r ∈ l := by
      intro r
      rw [hsplit.eq]
      simp only [mem_append, mem_cons]
      tauto
    refine iff_of_true ?_ (addFinds_of_passed hinv hunique hchain hdest hpass)
    rw [hinv'.originsUnique_iff_mem]
    simp only [hmem, hd']
    exact hold
  | @replaced o c3 htype horigin hident hinv' =>
    have ho : o ∈ l := by
      rw [hsplit.eq]
      simp
    have hkey : t.key o = t.key id := hsplit.group o (by simp)
    have hdest : destination (t.routes o) = destination (t.routes id) :=
      destination_eq_iff.mpr ⟨hkey, htype, horigin⟩
    have hnodup := hinv.nodup
    have hmem : ∀ r ∈ l1 ++ c1 ++ [id] ++ (c3 ++ l3), r = id ∨ r ∈ l ∧ r ≠ o := by
      intro r hr
      rw [hsplit.eq] at hnodup ⊢
      simp only [nodup_append, nodup_cons, mem_append,
        mem_cons] at hr hnodup ⊢
      grind
    have hfresh : ∀ r ∈ l, r ≠ o → d r ≠ d id := by
      intro r hr hne hdr
      rw [hd, hd] at hdest
      exact hne (hold r hr o ho (hdr.trans hdest.symm))
    refine iff_of_true ?_ (addFinds_of_passed hinv hunique hchain hdest hpass)
    rw [hinv'.originsUnique_iff_mem]
    simp only [hd']
    intro a ha b hb hab
    rcases hmem a ha with rfl | ⟨hal, hao⟩ <;> rcases hmem b hb with rfl | ⟨hbl, hbo⟩
    · rfl
    · exact absurd hab.symm (hfresh b hbl hbo)
    · exact absurd hab (hfresh a hal hao)
    · exact hold a hal b hbl hab

lemma addFinds_newRoute (h : TableInv t l) (hid : id ∉ l) :
    AddFinds (t.modify id fun _ => newRoute route) (newRoute route) ↔ AddFinds t route := by
  have hchain : (t.modify id fun _ => newRoute route).chain route.routePrefix.bits =
      t.chain route.routePrefix.bits := h.chain_newRoute hid _
  have hroutes : ∀ r ∈ t.chain route.routePrefix.bits,
      (t.modify id fun _ => newRoute route).routes r = t.routes r :=
    fun r hr => h.routes_newRoute hid hr
  change (∀ c1 o c2, (t.modify id fun _ => newRoute route).chain route.routePrefix.bits = _ → _) ↔ _
  rw [hchain]
  refine forall₃_congr fun c1 o c2 => forall_congr' fun hc => ?_
  have ho : o ∈ t.chain route.routePrefix.bits := by simp [hc]
  rw [hroutes o ho]
  refine forall_congr' fun _ => forall₂_congr fun r hr => ?_
  have hr' : r ∈ t.chain route.routePrefix.bits := by simp [hc, hr]
  rw [hroutes r hr']
  rfl

lemma originsUnique_newRoute (h : TableInv t l) (hid : id ∉ l) (hunique : OriginsUnique t) :
    OriginsUnique (t.modify id fun _ => newRoute route) := by
  rw [(h.newRoute hid).originsUnique_iff_mem]
  intro a ha b hb hab
  have hne : ∀ r ∈ l, r ≠ id := fun r hr he => hid (he ▸ hr)
  rw [modify_routes, modify_routes, if_neg (hne a ha), if_neg (hne b hb)] at hab
  exact h.originsUnique_iff_mem.mp hunique a ha b hb hab

lemma Placed.stored {x : RouteTable × Nat} (h : Placed t id x l1 c1 l3 c2) :
    ∃ r, (x.1.routes r).table ∧ payload (t.routes r) = payload (t.routes id) := by
  cases h with
  | inserted _ hinv => exact ⟨id, (hinv.mem_iff id).mp (by simp), rfl⟩
  | @kept o _ hident hinv => exact ⟨o, (hinv.mem_iff o).mp (by simp), isIdentical_iff.mp hident⟩
  | replaced _ _ _ hinv => exact ⟨id, (hinv.mem_iff id).mp (by simp), rfl⟩

lemma newRoute_routes (t : RouteTable) (id : Nat) (route : Route) :
    (t.modify id fun _ => newRoute route).routes id = newRoute route := by
  rw [modify_routes, if_pos rfl]

/-- A completed call places the route it was given, unmarked, in the table. -/
lemma routeStep_add {now : Nat} (h : TableInv t l) (hstep : routeStep t (.add now id route) = some t') :
    id ∉ l ∧ ∃ T x l1 c1 c2 l3, T = t.modify id (fun _ => newRoute route) ∧ t' = x.1 ∧
      GroupSplit T.key (T.key id) l l1 (c1 ++ c2) l3 ∧ (∀ r ∈ c1, Passed (T.routes r) (T.routes id)) ∧
      Placed T id x l1 c1 l3 c2 ∧ ∀ r, payload (x.1.routes r) = payload (T.routes r) := by
  simp only [routeStep] at hstep
  split_ifs at hstep with hlock
  obtain ⟨x, hx, rfl⟩ := Option.map_eq_some_iff.mp hstep
  have hid := h.not_mem hlock
  obtain ⟨l1, c1, c2, l3, hsplit, hpass, hplaced, hpayload⟩ := ospf6RouteAdd_spec (h.newRoute hid) hid
    (by rw [newRoute_routes]; rfl) (by rw [newRoute_routes]; rfl) hx
  exact ⟨hid, _, x, l1, c1, c2, l3, rfl, rfl, hsplit, hpass, hplaced, hpayload⟩

lemma routeStep_stores {s : Option RouteTable} {op : RouteOp} (h : ∀ t₀ ∈ s, ∃ l, TableInv t₀ l) : CallStores s op := by
  cases op with
  | add now id route =>
    intro t₀ ht0 t₁ hstep
    obtain ⟨l, hl⟩ := h t₀ ht0
    obtain ⟨-, _, x, l1, c1, c2, l3, rfl, rfl, -, -, hplaced, hpayload⟩ := routeStep_add hl hstep
    obtain ⟨r, htable, hr⟩ := hplaced.stored
    rw [newRoute_routes] at hr
    exact ⟨r, htable, (hpayload r).trans hr⟩
  | remove id => exact trivial

lemma routeStep_unique_iff {op : RouteOp} (h : TableInv t l) (hunique : OriginsUnique t)
    (hstep : routeStep t op = some t') : OriginsUnique t' ↔ CallFinds (some t) op := by
  cases op with
  | add now id route =>
    have hcall : CallFinds (some t) (.add now id route) ↔ AddFinds t route := by
      simp [CallFinds, hstep]
    rw [hcall]
    obtain ⟨hid, _, x, l1, c1, c2, l3, rfl, rfl, hsplit, hpass, hplaced, hpayload⟩ := routeStep_add h hstep
    rw [hplaced.unique_iff (fun r => rfl) (fun r => destination_congr (hpayload r)) (h.newRoute hid)
      hid (originsUnique_newRoute h hid hunique) hsplit hpass, newRoute_routes, addFinds_newRoute h hid]
  | remove id =>
    refine iff_of_true ?_ trivial
    obtain ⟨l1, l2, rfl, hinv'⟩ := ospf6RouteRemove_spec h hstep
    refine hunique.mono (fun r hr => ?_) fun r => destination_congr (ospf6RouteRemove_payload hstep r)
    rw [← hinv'.mem_iff] at hr
    rw [← h.mem_iff]
    simp only [mem_append] at hr ⊢
    tauto

end origin

/-- In a run the origins stay unique exactly when every completed call finds the earlier route of the origin, and
each completed call stores the route it adds. -/
theorem originsUnique_iff (ops : List RouteOp) :
    (EachState routeStep? (fun t => ∀ t₀ ∈ t, OriginsUnique t₀) (some ospf6RouteTableCreate) ops ↔
      StepsOk routeStep? CallFinds (some ospf6RouteTableCreate) ops) ∧
    StepsOk routeStep? CallStores (some ospf6RouteTableCreate) ops := by
  have hinv : ∀ (t : Option RouteTable) (op : RouteOp), (∀ t₀ ∈ t, ∃ l, TableInv t₀ l) →
      ∀ t₁ ∈ routeStep? t op, ∃ l, TableInv t₁ l := by
    intro t op h t₁ ht1
    obtain ⟨t₀, ht0, hstep⟩ := Option.bind_eq_some_iff.mp ht1
    obtain ⟨l, hl⟩ := h t₀ ht0
    obtain ⟨l', hl', -⟩ := routeStep_inv hl hstep
    exact ⟨l', hl'⟩
  have hiff : ∀ (t : Option RouteTable) (op : RouteOp), (∀ t₀ ∈ t, ∃ l, TableInv t₀ l) →
      (∀ t₀ ∈ t, OriginsUnique t₀) →
      ((∀ t₁ ∈ routeStep? t op, OriginsUnique t₁) ↔ CallFinds t op) := by
    intro t op hTable hunique
    cases t with
    | none =>
      refine iff_of_true (fun t₁ ht1 => absurd ht1 (by simp [routeStep?])) ?_
      cases op with
      | add now id route => exact fun t₀ ht0 => absurd ht0 (by simp)
      | remove id => exact trivial
    | some t =>
      obtain ⟨l, hl⟩ := hTable t rfl
      cases hstep : routeStep t op with
      | none =>
        refine iff_of_true (fun t₁ ht1 => absurd ht1 (by simp [routeStep?, hstep])) ?_
        cases op with
        | add now id route => exact fun t₀ ht0 hsome => absurd hsome (by simp_all)
        | remove id => exact trivial
      | some t' =>
        rw [← routeStep_unique_iff hl (hunique t rfl) hstep]
        simp [routeStep?, hstep]
  have hcreate : ∀ t₀ ∈ some ospf6RouteTableCreate, ∃ l, TableInv t₀ l := by
    rintro t₀ ⟨⟩
    exact ⟨[], tableInv_create⟩
  have hempty : ∀ t₀ ∈ some ospf6RouteTableCreate, OriginsUnique t₀ := by
    rintro t₀ ⟨⟩ a b ha
    exact absurd ha Bool.false_ne_true
  exact ⟨eachState_iff_stepsOk hinv hiff hcreate hempty ops,
    stepsOk_of_inv hinv (fun t op => routeStep_stores) hcreate ops⟩

def betterUpdate : List RouteOp :=
  [.add 0 0 (networkRoute 1 10), .add 0 1 (networkRoute 2 20), .add 0 2 (networkRoute 2 5)]

/-- The route of cost 20 and the route of cost 5 of the same origin are both in the table. -/
theorem originsUnique_not_betterUpdate :
    (routeRun ospf6RouteTableCreate betterUpdate).map (fun t =>
        (t.chain [true], decide (destination (t.routes 1) = destination (t.routes 2)),
          (t.routes 1).table && (t.routes 2).table)) =
      some ([2, 0, 1], true, true) := by
  decide

end OspfMdr.Ospf6
