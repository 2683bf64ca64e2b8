import OspfMdr.Lib.Run
import OspfMdr.Proofs.RouteCalls
import OspfMdr.Proofs.RouteCmp

namespace OspfMdr.Ospf6
open Lib List Option

variable {x' route x : Route}

section Order

/-- The routes of a prefix are close to each other and stand in the order of their ranks. -/
def Ranked (t : RouteTable) (l : List Nat) : Prop :=
  l.Pairwise fun a b => t.key a = t.key b →
    Near (t.routes a) (t.routes b) ∧ (t.routes a).rank ≤ (t.routes b).rank

lemma near_congr {x y y' : Route} (hx : payload x' = payload x) (hy : payload y' = payload y)
    (h : Near x y) : Near x' y' := by
  simp only [payload, Prod.mk.injEq] at hx hy
  obtain ⟨-, -, hx, -⟩ := hx
  obtain ⟨-, -, hy, -⟩ := hy
  refine ⟨hx ▸ h.left, hy ▸ h.right, by rw [hx, hy]; exact h.area, ?_⟩
  rw [hx, hy]
  exact h.cost

lemma rank_congr (hx : payload x' = payload x) : x'.rank = x.rank := by
  simp only [payload, Prod.mk.injEq] at hx
  simp only [Route.rank, hx]

lemma Ranked.congr {t t' : RouteTable} {l : List Nat} (h : Ranked t l)
    (hp : ∀ r ∈ l, payload (t'.routes r) = payload (t.routes r)) : Ranked t' l := by
  refine List.Pairwise.imp_of_mem (fun {a b} ha hb hab hk => ?_) h
  have hkey : ∀ r ∈ l, t'.key r = t.key r := by
    intro r hr
    have := hp r hr
    simp only [payload, Prod.mk.injEq] at this
    simp only [RouteTable.key, this]
  rw [hkey a ha, hkey b hb] at hk
  rw [rank_congr (hp a ha), rank_congr (hp b hb)]
  exact ⟨near_congr (hp a ha) (hp b hb) (hab hk).1, (hab hk).2⟩

/-- No route of the prefix has a higher type, the comparisons stay in `int`, and a route that replaces one of
its origin is not worse than its successor. -/
structure AddOk (t : RouteTable) (route : Route) : Prop where
  near : ∀ r ∈ t.chain route.routePrefix.bits, Near (t.routes r) route
  type_le : ∀ r ∈ t.chain route.routePrefix.bits, (t.routes r).type.toNat ≤ route.type.toNat
  stays : ∀ c1 o s c2, t.chain route.routePrefix.bits = c1 ++ o :: s :: c2 →
    (t.routes o).type = route.type → ospf6RouteIsSameOrigin (t.routes o) route →
    ospf6RouteIsIdentical (t.routes o) route = false →
    ∃ v ≤ 0, ospf6RouteCmp route (t.routes s) = some v

variable {t : RouteTable} {l l1 c1 c2 l3 : List Nat} {id : Nat}

lemma rank_le_of_passed (hsame : ospf6RouteIsSame x route) (hnear : Near x route)
    (htype : x.type.toNat ≤ route.type.toNat) (h : Passed x route) : x.rank ≤ route.rank := by
  obtain ⟨v, hv, hrank⟩ := ospf6RouteCmp_near hsame hnear
  rcases h with hne | ⟨-, c, hc, hcmp⟩
  · have hlt : x.type.toNat < route.type.toNat :=
      lt_of_le_of_ne htype fun he => hne (DestType.toNat_injective _ _ he)
    refine le_of_lt ?_
    unfold Route.rank
    rw [Prod.Lex.toLex_lt_toLex]
    exact .inl hlt
  · obtain rfl : v = c := some.inj (hv.symm.trans hcmp)
    exact hrank.mp hc

lemma Ranked.insert (hsplit : GroupSplit t.key (t.key id) l l1 (c1 ++ c2) l3) (h : Ranked t (l1 ++
    c1 ++ (c2 ++ l3))) (hle : ∀ r ∈ c1, Near (t.routes r) (t.routes id) ∧ (t.routes r).rank ≤
    (t.routes id).rank) (hge : ∀ r ∈ c2, Near (t.routes id) (t.routes r) ∧ (t.routes id).rank ≤
    (t.routes r).rank) : Ranked t (l1 ++ c1 ++ [id] ++ (c2 ++ l3)) := by
  obtain ⟨hleft, hright, hcross⟩ := pairwise_append.mp h
  refine pairwise_append.mpr ⟨pairwise_append.mpr
    ⟨hleft, pairwise_singleton _ _, ?_⟩, hright, ?_⟩
  · intro a ha b hb hk
    obtain rfl : b = id := by simpa using hb
    rcases mem_append.mp ha with ha | ha
    · exact absurd hk (ne_of_lt (hsplit.before a ha))
    · exact hle a ha
  · intro a ha b hb
    rcases mem_append.mp ha with ha | ha
    · exact hcross a ha b hb
    obtain rfl : a = id := by simpa using ha
    intro hk
    rcases mem_append.mp hb with hb | hb
    · exact hge b hb
    · exact absurd hk (ne_of_lt (hsplit.after b hb))

lemma Ranked.le_of_head {c : List Nat} (h : Ranked t c) (hc : ∀ r ∈ c, t.key r = t.key id)
    (hhead : ∀ r, c.head? = some r → (t.routes id).rank ≤ (t.routes r).rank) :
    ∀ r ∈ c, (t.routes id).rank ≤ (t.routes r).rank := by
  cases c with
  | nil => simp
  | cons a c =>
    intro r hr
    rcases mem_cons.mp hr with rfl | hr
    · exact hhead r rfl
    · have hk : t.key a = t.key r :=
        (hc a mem_cons_self).trans (hc r (mem_cons_of_mem _ hr)).symm
      exact le_trans (hhead a rfl) ((pairwise_cons.mp h).1 r hr hk).2

lemma Placed.ranked {x : RouteTable × Nat} (hinv : TableInv t l)
    (hsplit : GroupSplit t.key (t.key id) l l1 (c1 ++ c2) l3)
    (hpass : ∀ r ∈ c1, Passed (t.routes r) (t.routes id)) (h : Placed t id x l1 c1 l3 c2)
    (hok : AddOk t (t.routes id)) (hranked : Ranked t l) : ∃ l', TableInv x.1 l' ∧ Ranked t l' := by
  have hchain : t.chain (t.routes id).routePrefix.bits = c1 ++ c2 := by
    rw [hinv.chain_eq]
    exact hsplit.filter_eq fun r => decide_eq_true_iff
  have hmem : ∀ r ∈ c1 ++ c2, r ∈ t.chain (t.routes id).routePrefix.bits := fun r hr => hchain ▸ hr
  have hsame : ∀ r ∈ c1 ++ c2, ospf6RouteIsSame (t.routes r) (t.routes id) := fun r hr => by
    simpa [ospf6RouteIsSame, RouteTable.key] using hsplit.group r hr
  have hsame' : ∀ r ∈ c1 ++ c2, ospf6RouteIsSame (t.routes id) (t.routes r) := fun r hr => by
    simpa [ospf6RouteIsSame, RouteTable.key] using (hsplit.group r hr).symm
  have hl : l = l1 ++ c1 ++ (c2 ++ l3) := by rw [hsplit.eq]; simp
  have hle : ∀ r ∈ c1, Near (t.routes r) (t.routes id) ∧
      (t.routes r).rank ≤ (t.routes id).rank := by
    intro r hr
    have hr' := mem_append_left c2 hr
    have hnear := hok.near r (hmem r hr')
    exact ⟨hnear, rank_le_of_passed (hsame r hr') hnear (hok.type_le r (hmem r hr')) (hpass r hr)⟩
  have hranked2 : ∀ c, c <:+ c2 → Ranked t c := by
    rintro c ⟨c', rfl⟩
    rw [hl, append_assoc c' c l3, ← append_assoc] at hranked
    exact (pairwise_append.mp (pairwise_append.mp hranked).2.1).1
  have hge : ∀ c, c <:+ c2 →
      (∀ r, c.head? = some r → (t.routes id).rank ≤ (t.routes r).rank) →
      ∀ r ∈ c, Near (t.routes id) (t.routes r) ∧ (t.routes id).rank ≤ (t.routes r).rank := by
    intro c hsuffix hhead r hr
    have hgroup : ∀ r ∈ c, r ∈ c1 ++ c2 := fun r hr =>
      mem_append_right _ (hsuffix.subset hr)
    refine ⟨(hok.near r (hmem r (hgroup r hr))).symm, ?_⟩
    exact (hranked2 c hsuffix).le_of_head (fun r hr => hsplit.group r (hgroup r hr)) hhead r hr
  cases h with
  | inserted hworse hinv' =>
    refine ⟨_, hinv', Ranked.insert hsplit (hl ▸ hranked) hle (hge _ suffix_rfl ?_)⟩
    intro r hr
    obtain ⟨v, hv, hcmp⟩ := (hworse r hr).worse
    have hr' : r ∈ c1 ++ c2 := mem_append_right _ (mem_of_head? hr)
    obtain ⟨w, hw, hrank⟩ := ospf6RouteCmp_near (hsame r hr') (hok.near r (hmem r hr'))
    obtain rfl : w = v := some.inj (hw.symm.trans hcmp)
    exact le_of_lt (not_le.mp fun hle => absurd (hrank.mpr hle) (not_le.mpr hv))
  | @kept o c3 hident hinv' =>
    refine ⟨_, hinv', ?_⟩
    have : l1 ++ c1 ++ [o] ++ (c3 ++ l3) = l := by rw [hl]; simp
    rw [this]
    exact hranked
  | @replaced o c3 htype horigin hident hinv' =>
    have hsplit' : GroupSplit t.key (t.key id) (l1 ++ (c1 ++ c3) ++ l3) l1 (c1 ++ c3) l3 := by
      refine ⟨rfl, hsplit.before, fun r hr => hsplit.group r ?_, hsplit.after⟩
      simp only [mem_append, mem_cons] at hr ⊢
      tauto
    refine ⟨_, hinv', Ranked.insert hsplit' ?_ hle (hge _ (suffix_cons o c3) ?_)⟩
    · refine List.Pairwise.sublist ?_ (hl ▸ hranked)
      exact List.Sublist.append_left (sublist_cons_self o (c3 ++ l3)) _
    · intro s hs
      obtain ⟨c4, rfl⟩ : ∃ c4, c3 = s :: c4 := by
        cases c3 with
        | nil => simp at hs
        | cons a c4 => exact ⟨c4, by simpa using hs⟩
      have hs' : s ∈ c1 ++ o :: s :: c4 := by simp
      obtain ⟨v, hv, hcmp⟩ := hok.stays c1 o s c4 hchain htype horigin hident
      obtain ⟨w, hw, hrank⟩ := ospf6RouteCmp_near (hsame' s hs') (hok.near s (hmem s hs')).symm
      obtain rfl : w = v := some.inj (hw.symm.trans hcmp)
      exact hrank.mp hv

end Order

section Run

/-- What a call needs for the chains to stay sorted. -/
def StepOk (t : RouteTable) : RouteOp → Prop
  | .add _ _ route => AddOk t route
  | .remove _ => True

/-- The routes of each prefix are a chain with the node at its head and the BEST flag on
exactly the head. -/
structure ChainsLinked (t : RouteTable) : Prop where
  mem_iff : ∀ p r, r ∈ t.chain p ↔ (t.routes r).table ∧ t.key r = p
  info : ∀ p, t.info p = (t.chain p).head?
  best : ∀ p, ∀ r ∈ t.chain p, (t.routes r).flag.best ↔ (t.chain p).head? = some r

/-- Each chain is in the order of the comparison, and its first route is the best one. -/
structure ChainsSorted (t : RouteTable) : Prop where
  sorted : ∀ p, (t.chain p).Pairwise fun a b =>
    ∃ v ≤ 0, ospf6RouteCmp (t.routes a) (t.routes b) = some v
  least : ∀ p a, t.info p = some a → ∀ b ∈ t.chain p, b ≠ a →
    ∃ v ≤ 0, ospf6RouteCmp (t.routes a) (t.routes b) = some v

variable {t t' : RouteTable} {l : List Nat}

section
variable (h : TableInv t l) {id : Nat}
include h

lemma TableInv.newRoute (hid : id ∉ l) :
    TableInv (t.modify id fun _ => newRoute route) l := by
  refine h.congr (fun r hr => ?_) rfl h.nodes (fun _ hk => hk) rfl (fun r hr => ?_)
  · have hne : r ≠ id := fun he => hid (he ▸ hr)
    rw [modify_routes, if_neg hne]
  · rw [modify_routes]
    split_ifs
    · exact ⟨rfl, rfl⟩
    · exact h.detached r hr

lemma TableInv.not_mem (hlock : (t.routes id).lock = 0) : id ∉ l := by
  intro hid
  have := h.attached id hid
  simp only [attachment, Prod.mk.injEq] at this
  omega

lemma TableInv.chain_newRoute (hid : id ∉ l) (p : List Bool) :
    (t.modify id fun _ => Ospf6.newRoute route).chain p = t.chain p := by
  rw [h.chain_eq, (h.newRoute hid).chain_eq]
  refine filter_congr fun r hr => ?_
  have hne : r ≠ id := fun he => hid (he ▸ hr)
  have hkey : (t.modify id fun _ => Ospf6.newRoute route).key r = t.key r := by
    simp only [RouteTable.key, modify_routes, hne, if_false]
  rw [hkey]

lemma TableInv.routes_newRoute {id r : Nat} {p : List Bool} (hid : id ∉ l) (hr : r ∈ t.chain p) :
    (t.modify id fun _ => Ospf6.newRoute route).routes r = t.routes r := by
  rw [h.chain_eq] at hr
  have hne : r ≠ id := fun he => hid (he ▸ mem_of_mem_filter hr)
  rw [modify_routes, if_neg hne]

lemma AddOk.newRoute (hid : id ∉ l) (hok : AddOk t route) :
    AddOk (t.modify id fun _ => newRoute route) (newRoute route) := by
  have hchain : (t.modify id fun _ => Ospf6.newRoute route).chain route.routePrefix.bits =
      t.chain route.routePrefix.bits := h.chain_newRoute hid _
  have hroutes : ∀ r ∈ t.chain route.routePrefix.bits,
      (t.modify id fun _ => Ospf6.newRoute route).routes r = t.routes r :=
    fun r hr => h.routes_newRoute hid hr
  refine ⟨fun r hr => ?_, fun r hr => ?_, fun c1 o s c2 hc => ?_⟩
  · have hr' : r ∈ t.chain route.routePrefix.bits := hchain ▸ hr
    rw [hroutes r hr']
    exact near_congr (y := route) rfl rfl (hok.near r hr')
  · have hr' : r ∈ t.chain route.routePrefix.bits := hchain ▸ hr
    rw [hroutes r hr']
    exact hok.type_le r hr'
  · have hc' : t.chain route.routePrefix.bits = c1 ++ o :: s :: c2 := hchain.symm.trans hc
    rw [hroutes o (by simp [hc']), hroutes s (by simp [hc'])]
    exact hok.stays c1 o s c2 hc'

lemma routeStep_inv {op : RouteOp} (hstep : routeStep t op = some t') :
    ∃ l', TableInv t' l' ∧ (StepOk t op → Ranked t l → Ranked t' l') := by
  cases op with
  | add now id route =>
    simp only [routeStep] at hstep
    split_ifs at hstep with hlock
    obtain ⟨x, hx, rfl⟩ := map_eq_some_iff.mp hstep
    have hid := h.not_mem hlock
    obtain ⟨T, hT⟩ : ∃ T, T = t.modify id fun _ => newRoute route := ⟨_, rfl⟩
    have hself : T.routes id = newRoute route := by rw [hT, modify_routes, if_pos rfl]
    have hTinv : TableInv T l := hT ▸ h.newRoute hid
    rw [← hT] at hx
    obtain ⟨l1, c1, c2, l3, hsplit, hpass, hplaced, hpayload⟩ := ospf6RouteAdd_spec hTinv hid
      (by rw [hself]; rfl) (by rw [hself]; rfl) hx
    by_cases hok : AddOk t route ∧ Ranked t l
    · have hokT : AddOk T (T.routes id) := by
        rw [hself, hT]
        exact hok.1.newRoute h hid
      have hrankT : Ranked T l := by
        refine hok.2.congr fun r hr => ?_
        have hne : r ≠ id := fun he => hid (he ▸ hr)
        rw [hT, modify_routes, if_neg hne]
      obtain ⟨l', hinv', hrank'⟩ := hplaced.ranked hTinv hsplit hpass hokT hrankT
      exact ⟨l', hinv', fun _ _ => hrank'.congr fun r _ => hpayload r⟩
    · have hnot : ∀ l', StepOk t (.add now id route) → Ranked t l → Ranked x.1 l' :=
        fun l' h1 h2 => absurd ⟨h1, h2⟩ hok
      cases hplaced with
      | inserted _ hinv' => exact ⟨_, hinv', hnot _⟩
      | kept _ hinv' => exact ⟨_, hinv', hnot _⟩
      | replaced _ _ _ hinv' => exact ⟨_, hinv', hnot _⟩
  | remove id =>
    obtain ⟨l1, l2, rfl, hinv'⟩ := ospf6RouteRemove_spec h hstep
    refine ⟨_, hinv', fun _ hrank => ?_⟩
    have hsub : (l1 ++ l2).Sublist (l1 ++ [id] ++ l2) := by
      rw [append_assoc]
      exact List.Sublist.append_left (sublist_cons_self id l2) l1
    exact Ranked.congr (hrank.sublist hsub) fun r _ => ospf6RouteRemove_payload hstep r

lemma routeRun_inv {ops : List RouteOp} (hrun : routeRun t ops = some t') :
    ∃ l', TableInv t' l' ∧ (PartialStepsOk routeStep StepOk t ops → Ranked t l → Ranked t' l') := by
  induction ops generalizing t l with
  | nil =>
    cases hrun
    exact ⟨l, h, fun _ hrank => hrank⟩
  | cons op ops ih =>
    obtain ⟨T, hT, hrun⟩ := bind_eq_some_iff.mp hrun
    obtain ⟨l1, h₁, hrank1⟩ := routeStep_inv h hT
    obtain ⟨l2, h₂, hrank2⟩ := ih h₁ hrun
    exact ⟨l2, h₂, fun hok hrank => hrank2 (hok.2 T hT) (hrank1 hok.1 hrank)⟩

end

lemma tableInv_create : TableInv ospf6RouteTableCreate [] where
  nodup := nodup_nil
  linked := trivial
  ordered := List.Pairwise.nil
  info := fun _ => rfl
  nodes := List.Pairwise.nil
  mem_nodes := by simp
  count := rfl
  attached := by simp
  detached := fun _ _ => ⟨rfl, rfl⟩
  best := by simp

lemma TableInv.chainsLinked (h : TableInv t l) : ChainsLinked t := by
  have hhead : ∀ p, t.info p = (t.chain p).head? := fun p => by rw [h.chain_eq, h.info]
  refine ⟨fun p r => ?_, hhead, fun p r hr => ?_⟩
  · rw [h.chain_eq, mem_filter, decide_eq_true_eq]
    exact and_congr_left fun _ => h.mem_iff r
  · rw [h.chain_eq, mem_filter, decide_eq_true_eq] at hr
    rw [h.best r hr.1, hr.2, decide_eq_true_eq, hhead]

lemma TableInv.chainsSorted (h : TableInv t l) (hrank : Ranked t l) : ChainsSorted t := by
  have hsorted : ∀ p, (t.chain p).Pairwise fun a b =>
      ∃ v ≤ 0, ospf6RouteCmp (t.routes a) (t.routes b) = some v := by
    intro p
    rw [h.chain_eq]
    refine List.Pairwise.imp_of_mem (fun {a b} ha hb hab => ?_) (hrank.filter _)
    have hka : t.key a = p := by simpa using of_mem_filter ha
    have hkb : t.key b = p := by simpa using of_mem_filter hb
    obtain ⟨hnear, hle⟩ := hab (hka.trans hkb.symm)
    obtain ⟨v, hv, hiff⟩ := ospf6RouteCmp_near
      (by simpa [ospf6RouteIsSame, RouteTable.key] using hka.trans hkb.symm) hnear
    exact ⟨v, hiff.mpr hle, hv⟩
  refine ⟨hsorted, fun p a ha b hb hne => ?_⟩
  rw [h.chainsLinked.info] at ha
  obtain ⟨c, hc⟩ := List.head?_eq_some_iff.mp ha
  have hp := hsorted p
  rw [hc] at hp hb
  rcases mem_cons.mp hb with rfl | hb
  · exact absurd rfl hne
  · exact (pairwise_cons.mp hp).1 b hb

/-- After every run whose calls satisfy the condition the chains are sorted as well. -/
theorem chainsSorted_of_routeRun {ops : List RouteOp}
    (hrun : routeRun ospf6RouteTableCreate ops = some t)
    (hok : PartialStepsOk routeStep StepOk ospf6RouteTableCreate ops) :
    ChainsLinked t ∧ ChainsSorted t := by
  obtain ⟨l, h, hrank⟩ := routeRun_inv tableInv_create hrun
  exact ⟨h.chainsLinked, h.chainsSorted (hrank hok List.Pairwise.nil)⟩

def networkRoute (origin : UInt32) (cost : UInt32) : Route :=
  { ospf6RouteCreate with
    type := .network, routePrefix := ⟨[true], []⟩
    path := ⟨⟨0, origin, origin⟩, 0, [], 0, 0, .intra, 0, 1, cost, 0⟩ }

def betterSecond : List RouteOp := [.add 0 0 (networkRoute 1 20), .add 0 1 (networkRoute 2 10)]

lemma betterSecond_ok : PartialStepsOk routeStep StepOk ospf6RouteTableCreate betterSecond := by
  refine ⟨⟨?_, ?_, ?_⟩, fun t ht => ⟨?_, fun _ _ => trivial⟩⟩
  · exact fun r hr => absurd hr not_mem_nil
  · exact fun r hr => absurd hr not_mem_nil
  · exact fun c1 o s c2 hc => absurd hc.symm (append_ne_nil_of_right_ne_nil _ (cons_ne_nil _ _))
  · have hchain : t.chain [true] = [0] ∧ t.routes 0 =
        ((routeStep ospf6RouteTableCreate (.add 0 0 (networkRoute 1 20))).map
          fun t => t.routes 0).getD ospf6RouteCreate := by
      rw [ht]
      have h0 : (routeStep ospf6RouteTableCreate (.add 0 0 (networkRoute 1 20))).map
          (fun t => t.chain [true]) = some [0] := by decide
      rw [ht] at h0
      exact ⟨some.inj h0, rfl⟩
    have hbits : (networkRoute 2 10).routePrefix.bits = [true] := rfl
    refine ⟨fun r hr => ?_, fun r hr => ?_, fun c1 o s c2 hc => ?_⟩
    · rw [hbits, hchain.1, mem_singleton] at hr
      rw [hr, hchain.2]
      exact ⟨by decide, by decide, by unfold Close; decide, fun _ _ => by unfold Close; decide⟩
    · rw [hbits, hchain.1, mem_singleton] at hr
      rw [hr, hchain.2]
      decide
    · rw [hbits, hchain.1] at hc
      have hlen := congrArg List.length hc
      simp only [length_append, length_cons, length_nil] at hlen
      omega

theorem chainsSorted_betterSecond : ∃ t, routeRun ospf6RouteTableCreate betterSecond = some t ∧
    t.chain [true] = [1, 0] ∧ ChainsLinked t ∧ ChainsSorted t := by
  have hchain : (routeRun ospf6RouteTableCreate betterSecond).map (fun t => t.chain [true]) =
    some [1, 0] := by decide
  obtain ⟨t, ht, hc⟩ := map_eq_some_iff.mp hchain
  exact ⟨t, ht, hc, chainsSorted_of_routeRun ht betterSecond_ok⟩

def worseUpdate : List RouteOp :=
  [.add 0 0 (networkRoute 1 10), .add 0 1 (networkRoute 2 20), .add 0 2 (networkRoute 1 30)]

/-- The worse route stays at the head with the BEST flag. -/
theorem chainsSorted_not_worseUpdate :
    (routeRun ospf6RouteTableCreate worseUpdate).map (fun t =>
      (t.chain [true], t.info [true], (t.routes 2).flag.best, ospf6RouteCmp (t.routes 2) (t.routes 1))) =
      some ([2, 1], some 2, true, some 10) := by
  decide

end Run

end OspfMdr.Ospf6
