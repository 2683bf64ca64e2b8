import OspfMdr.Model.ZebraUpdate

namespace OspfMdr.Ospf6
open List

variable {o : Ospf6Instance} {p : Prefix} {nexthop : Nexthop} {x : List UInt8} {l : List Nexthop}
  {xs : List (List UInt8)}

/-- The octets are those that a reader takes for one next hop. -/
def IsNexthop (v4 : Bool) : List UInt8 → Prop
  | [] => False
  | type :: x => ∀ s, nexthopSize v4 (x ++ s) type = x.length

lemma zreadNexthops_flatten {v4 : Bool} (h : ∀ x ∈ xs, IsNexthop v4 x) (s : List UInt8) :
    zreadNexthops v4 xs.length (xs.flatten ++ s) = some s := by
  induction xs with
  | nil => rfl
  | cons x xs ih =>
    obtain ⟨hx, hxs⟩ := forall_mem_cons.mp h
    cases x with
    | nil => exact hx.elim
    | cons type x =>
      rw [flatten_cons, append_assoc, cons_append, length_cons, zreadNexthops, hx, drop_left, ih hxs]
      simp

lemma isNexthop_put {addr : List UInt8} (haddr : nexthopAddr o nexthop = some addr)
    (hlen : nexthop.address.length = 16) (h : putNexthop o p nexthop addr = some x) :
    IsNexthop (ospf6AfIsIpv4 o) x := by
  have hsize : addr ≠ [] → addr.length = if ospf6AfIsIpv4 o then 4 else 16 := by
    intro hne
    unfold nexthopAddr at haddr
    split_ifs at haddr ⊢
    all_goals first | cases haddr | obtain ⟨a, -, rfl⟩ := Option.map_eq_some_iff.mp haddr
    · exact absurd rfl hne
    · rfl
    · exact absurd rfl hne
    · exact hlen
  unfold putNexthop at h
  split_ifs at h <;> cases h <;> intro s <;> simp_all [nexthopSize, htonl, htons]

lemma putNexthops_spec (hlen : ∀ n ∈ l, n.address.length = 16) (h : putNexthops o p l = some xs) :
    xs.length = l.countP (fun n => (nexthopAddr o n).isSome) ∧ ∀ x ∈ xs, IsNexthop (ospf6AfIsIpv4 o) x := by
  induction l generalizing xs with
  | nil =>
    cases h
    simp
  | cons n l ih =>
    rw [forall_mem_cons] at hlen
    unfold putNexthops at h
    split at h
    · rw [countP_cons_of_neg (by simp [*])]
      exact ih hlen.2 h
    obtain ⟨x, hx, h⟩ := Option.bind_eq_some_iff.mp h
    obtain ⟨ys, hys, h⟩ := Option.bind_eq_some_iff.mp h
    cases h
    obtain ⟨hlength, hnexthops⟩ := ih hlen.2 hys
    rw [countP_cons_of_pos (by simp [*]), length_cons, hlength, forall_mem_cons]
    exact ⟨rfl, isNexthop_put ‹_› hlen.1 hx, hnexthops⟩

/-- A message has as many next hops as it says exactly if each address is one of the family. -/
theorem ospf6ZebraRouteUpdate_nexthops {addr : List UInt8} {prefixlen : Nat} {nexthops : List Nexthop}
    {path : Path} {m : RouteUpdate} (hlen : ∀ n ∈ nexthops, n.address.length = 16)
    (hm : ospf6ZebraRouteUpdate o addr prefixlen nexthops path = some (some m)) :
    (m.nexthops.length = m.nhcount ↔ ∀ n ∈ setNexthops (nexthops.take multiPathLimit),
      (nexthopAddr o n).isSome) ∧
    (m.nexthops.length = m.nhcount → zreadRoute (ospf6AfIsIpv4 o) m.bytes = some (htonl m.metric.toNat)) := by
  unfold ospf6ZebraRouteUpdate at hm
  generalize (if path.metricType = 2 then path.costE2 else path.cost) = metric at hm
  dsimp only at hm
  split at hm
  · cases hm
  obtain ⟨xs, hxs, hm⟩ := Option.map_eq_some_iff.mp hm
  cases hm
  have hsub : setNexthops (nexthops.take multiPathLimit) <+ nexthops.take multiPathLimit := takeWhile_sublist _
  obtain ⟨hlength, hnexthops⟩ := putNexthops_spec (fun n hn => hlen n (mem_of_mem_take (hsub.subset hn))) hxs
  refine ⟨by rw [hlength, countP_eq_length], fun heq => ?_⟩
  have hcount : xs.length < 256 :=
    heq.trans_lt ((hsub.length_le.trans (length_take_le _ _)).trans_lt (by decide))
  rw [RouteUpdate.bytes, zreadRoute, ← heq, UInt8.toNat_ofNat_of_lt' hcount]
  exact zreadNexthops_flatten hnexthops _

def gatewayUpdate (address : List UInt8) : Option (Option RouteUpdate) :=
  ospf6ZebraRouteUpdate ⟨1, 64, false⟩ (replicate 12 0 ++ [10, 0, 0, 0]) 104 [⟨3, address⟩]
    ⟨⟨0x2009, 0, 2⟩, 0, [0, 0, 0], 0, 0, .intra, 0, 1, 10, 0⟩

theorem ospf6ZebraRouteUpdate_nexthops_ipv4 : ∃ m,
    gatewayUpdate (replicate 12 0 ++ [192, 168, 0, 1]) = some (some m) ∧ m.nexthops.length = m.nhcount := by
  have hm : gatewayUpdate (replicate 12 0 ++ [192, 168, 0, 1]) =
    some (some ⟨1, [[4, 192, 168, 0, 1, 0, 0, 0, 3]], 10⟩) := rfl
  exact ⟨_, hm, (ospf6ZebraRouteUpdate_nexthops (by decide) hm).1.mpr (by decide)⟩

/-- The only next hop is passed over, and zebra has too few octets left for the metric. -/
theorem ospf6ZebraRouteUpdate_linklocal : ∃ m,
    gatewayUpdate ([0xfe, 0x80] ++ replicate 13 0 ++ [1]) = some (some m) ∧
      m.nhcount = 1 ∧ m.nexthops = [] ∧ zreadRoute true m.bytes = some [0, 0, 10] :=
  ⟨_, rfl, rfl, rfl, by decide⟩

end OspfMdr.Ospf6
