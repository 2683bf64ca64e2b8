import OspfMdr.Proofs.ZebraSelected

namespace OspfMdr.Zebra
open List

/-- The next hop that the message stands for. -/
def ZapiNexthop.nexthop : ZapiNexthop → Nexthop
  | .ifindex index => { type := .ifindex, ifindex := index }
  | .ifname => { type := .ifname }
  | .ipv4 addr => { type := .ipv4, gate := addr }
  | .ipv4Ifindex addr index => { type := .ipv4Ifindex, gate := addr, ifindex := index }
  | .ipv6 addr => { type := .ipv6, gate := addr }
  | .ipv6Ifindex addr index => { type := .ipv6Ifindex, gate := addr, ifindex := index }
  | .blackhole => { type := .blackhole }

/-- The kinds of next hop that the routing daemons send. -/
def ZapiNexthop.ofDaemon : Afi → ZapiNexthop → Bool
  | _, .ifindex _ => true
  | .ip, .ipv4 _ => true
  | .ip, .ipv4Ifindex _ _ => true
  | .ip6, .ipv6 _ => true
  | .ip6, .ipv6Ifindex _ _ => true
  | _, _ => false

/-- The gateway and the interface are not the values that stand for a missing one. -/
def ZapiNexthop.isPlain : ZapiNexthop → Bool
  | .ipv6 addr => addr ≠ 0
  | .ipv6Ifindex addr index => addr ≠ 0 ∧ index ≠ 0
  | _ => true

/-- The addition of a route by a routing daemon. -/
structure DaemonAdd (m : ZapiRoute) (afi : Afi) (type : RouteType) (safi : Safi) : Prop where
  protocol : type ≠ .kernel ∧ type ≠ .connect
  type : RouteType.ofByte m.type = some type
  safi : vrfTable m.safi = some (some safi)
  prefixlen : m.prefixlen ≤ afi.maxPrefixlen
  nexthop : ∀ n ∈ m.nexthop, n.ofDaemon afi

namespace Rtable

variable {st : Rtable} {rn : NodeKey} {rib : Rib} {m : ZapiRoute} {type : RouteType} {safi : Safi}

def nexthopsAt (st : Rtable) (rn : NodeKey) (addr : Nat) : List (List Nexthop) :=
  ((st.nodes rn).filter (·.addr = addr)).map Rib.nexthop

lemma nexthopsAt_ribQueueAdd (addr : Nat) : (st.ribQueueAdd rn).nexthopsAt rn addr = st.nexthopsAt rn addr := by
  obtain ⟨nodes, subq, heq, hmap⟩ :=
    ribQueueAdd_eq st rn (f := fun r : Rib => (r.addr, r.nexthop)) fun _ _ => rfl
  have hfilter : ∀ info : List Rib, (info.filter (·.addr = addr)).map Rib.nexthop =
      ((info.map fun r : Rib => (r.addr, r.nexthop)).filter (·.1 = addr)).map Prod.snd := fun info => by
    rw [filter_map, map_map]
    rfl
  rw [heq, nexthopsAt, nexthopsAt, hfilter, hfilter, hmap]

lemma nexthopsAt_setRib {addr : Nat} (hne : rib.addr ≠ addr) :
    (st.setRib rn rib).nexthopsAt rn addr = st.nexthopsAt rn addr := by
  rw [nexthopsAt, nexthopsAt, setRib, nodes_setNode, if_pos rfl]
  congr 1
  induction st.nodes rn with
  | nil => rfl
  | cons r info ih =>
    rw [map_cons, filter_cons, filter_cons, ih]
    split_ifs <;> simp_all

section link

variable {addr : Nat} (haddr : rib.addr = addr) (hnew : ∀ r ∈ st.nodes rn, r.addr ≠ addr)
  (hremoved : rib.removed = false) (hsystem : rib.isSystemRoute = false)
include haddr hnew hremoved hsystem

lemma nexthopsAt_linkNew {same : Option Rib} (hsame : ∀ r, same = some r → r ∈ (st.routeNodeGet rn).nodes rn) :
    ((st.routeNodeGet rn).linkNew rn rib same).nexthopsAt rn addr = [rib.nexthop] := by
  have hnodes : (st.routeNodeGet rn).nodes = st.nodes := by
    unfold routeNodeGet
    dsimp only
    split_ifs <;> rfl
  have hold : (st.nodes rn).filter (·.addr = addr) = [] :=
    filter_eq_nil_iff.mpr fun r hr => by simpa using hnew r hr
  have hadd : ∀ fresh, nexthopsAt ({ st.routeNodeGet rn with fresh := fresh }.ribAddnode rn rib) rn addr =
      [rib.nexthop] := fun fresh => by
    rw [ribAddnode, hremoved, if_neg Bool.false_ne_true, ribLink, nexthopsAt_ribQueueAdd, nexthopsAt, nodes_setNode,
      if_pos rfl, hnodes, filter_cons_of_pos, hold]
    all_goals cases st.nodes rn <;> simp [withStatusOf, haddr]
  unfold linkNew
  rw [fibOfKernel, hsystem, if_neg Bool.false_ne_true]
  cases same with
  | none => exact hadd _
  | some same =>
    have hne : { same with removed := true }.addr ≠ addr := hnew same (hnodes ▸ hsame same rfl)
    exact (nexthopsAt_ribQueueAdd _).trans ((nexthopsAt_setRib hne).trans (hadd _))

lemma nexthopsAt_ribAdd (ifindex : Nat) : (st.ribAdd rn rib ifindex).nexthopsAt rn addr = [rib.nexthop] := by
  unfold ribAdd
  dsimp only
  split
  · rename_i dup hdup
    exact absurd hsystem (by simp [Rib.isSystemRoute, (findSame_some hdup).2 rfl])
  · rename_i same hsame
    refine nexthopsAt_linkNew haddr hnew hremoved hsystem fun r hr => ?_
    rw [← Option.some.inj hr]
    exact (findSame_some hsame).1
  · exact nexthopsAt_linkNew haddr hnew hremoved hsystem fun r hr => absurd hr nofun

end link

open ZapiNexthop

lemma zapiNexthopIpv4_nexthop {l : List ZapiNexthop} (hl : ∀ n ∈ l, n.ofDaemon .ip) (rib : Rib) :
    (l.foldl zapiNexthopIpv4 rib).nexthop = rib.nexthop ++ l.map nexthop := by
  induction l generalizing rib with
  | nil => exact (append_nil _).symm
  | cons n l ih =>
    obtain ⟨hn, hl⟩ := forall_mem_cons.mp hl
    rw [foldl_cons, ih hl, map_cons, append_cons]
    congr 1
    cases n <;> first | rfl | cases hn

/-- The next hop of `rib_add_ipv6` for what the loop of `zread_ipv6_add` has found. -/
def gateNexthop (s : Nat × Nat) : Nexthop :=
  addNexthop .ipv6 .ipv6Ifindex (if s.1 = 0 then none else some s.1) s.2

lemma gateNexthop_iff {n : ZapiNexthop} (hn : n.ofDaemon .ip6) :
    gateNexthop (zapiGateIpv6 (0, 0) n) = n.nexthop ↔ n.isPlain := by
  cases n with
  | ifindex index => exact iff_of_true rfl rfl
  | ipv6 addr =>
    by_cases haddr : addr = 0 <;>
      simp [gateNexthop, zapiGateIpv6, addNexthop, nexthop, isPlain, haddr]
  | ipv6Ifindex addr index =>
    by_cases haddr : addr = 0 <;> by_cases hindex : index = 0 <;>
      simp [gateNexthop, zapiGateIpv6, addNexthop, nexthop, isPlain, haddr, hindex]
  | _ => cases hn

/-- An IPv4 route gets the next hops of its message; an IPv6 route does exactly if there is one plain next hop. -/
theorem zreadAdd_nexthops (hs : Sound st) :
    (DaemonAdd m .ip type safi → ∃ st', st.zreadIpv4Add m = some st' ∧
      st'.nexthopsAt ⟨safi, applyMask ⟨.ip, m.addr, m.prefixlen⟩⟩ st.fresh = [m.nexthop.map nexthop]) ∧
    (DaemonAdd m .ip6 type safi → ∃ st', st.zreadIpv6Add m = some st' ∧
      (st'.nexthopsAt ⟨safi, applyMask ⟨.ip6, m.addr, m.prefixlen⟩⟩ st.fresh =
        [m.nexthop.map nexthop] ↔ ∃ n, m.nexthop = [n] ∧ n.isPlain)) := by
  have hnew : ∀ rn, ∀ r ∈ st.nodes rn, r.addr ≠ st.fresh := fun rn r hr => ((hs rn).lt r.mark (mem_marks hr)).ne
  constructor <;> intro h <;> have hsystem : (type == .kernel || type == .connect) = false := by simp [h.protocol]
  · refine ⟨_, by rw [zreadIpv4Add, if_neg h.prefixlen.not_gt, h.safi, h.type]; rfl, ?_⟩
    obtain ⟨hmark, hremoved⟩ := zapiNexthopIpv4_mark m.nexthop
      { addr := st.fresh, type := type, distance := m.distance, metric := m.metric, table := st.rtmTableDefault
        flags := RibFlags.ofByte m.flags, nexthop := [] }
    rw [← show _ = type from congrArg Mark.type hmark] at hsystem
    unfold ribAddIpv4Multipath
    rw [nexthopsAt_linkNew ?_ (hnew _) ?_ ?_ fun r hr => mem_of_find?_eq_some hr]
    · rw [zapiNexthopIpv4_nexthop h.nexthop, nil_append]
    exacts [congrArg Mark.addr hmark, hremoved, hsystem]
  · have hbogus : ∀ p gate, ribBogusIpv6 type p gate = false := by simp [ribBogusIpv6, h.protocol]
    refine ⟨_, by rw [zreadIpv6Add, if_neg h.prefixlen.not_gt, h.safi, h.type]; rfl, ?_⟩
    unfold ribAddIpv6
    dsimp only
    rw [hbogus, if_neg Bool.false_ne_true, nexthopsAt_ribAdd ?_ (hnew _) ?_ ?_, singleton_inj]
    · constructor
      · intro heq
        obtain ⟨n, hn⟩ := length_eq_one_iff.mp (by simpa using (congrArg length heq).symm)
        rw [hn] at heq
        exact ⟨n, hn, (gateNexthop_iff (h.nexthop n (hn ▸ mem_cons_self))).mp (singleton_inj.mp heq)⟩
      · rintro ⟨n, hn, hplain⟩
        rw [hn]
        exact singleton_inj.mpr ((gateNexthop_iff (h.nexthop n (hn ▸ mem_cons_self))).mpr hplain)
    exacts [rfl, rfl, hsystem]

def exampleDefault (nexthop : List ZapiNexthop) : ZapiRoute := ⟨7, 0, 1, 0, 0, nexthop, 0, 0⟩

theorem zreadAdd_nexthops_two : ∃ st',
    (ribInit 254 exampleClient).zreadIpv4Add (exampleDefault [.ipv4 1, .ipv4Ifindex 2 3]) = some st' ∧
      st'.nexthopsAt ⟨.unicast, .ip, 0, 0⟩ 0 =
        [[{ type := .ipv4, gate := 1 }, { type := .ipv4Ifindex, gate := 2, ifindex := 3 }]] :=
  (zreadAdd_nexthops (sound_ribInit 254 exampleClient)).1
    ⟨by decide, show _ = some RouteType.ospf6 from rfl, rfl, by decide, by decide⟩

/-- Of two gateways the first is dropped, and an interface goes to another gateway. -/
theorem zreadIpv6Add_last_nexthop :
    ((ribInit 254 exampleClient).zreadIpv6Add (exampleDefault [.ipv6Ifindex 1 3, .ipv6Ifindex 2 4])).map
      (nexthopsAt · ⟨.unicast, .ip6, 0, 0⟩ 0) = some [[{ type := .ipv6Ifindex, gate := 2, ifindex := 4 }]] ∧
    ((ribInit 254 exampleClient).zreadIpv6Add (exampleDefault [.ifindex 3, .ipv6 2])).map
      (nexthopsAt · ⟨.unicast, .ip6, 0, 0⟩ 0) = some [[{ type := .ipv6Ifindex, gate := 2, ifindex := 3 }]] := by
  decide

end Rtable

end OspfMdr.Zebra
