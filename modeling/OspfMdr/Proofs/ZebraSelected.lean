import OspfMdr.Proofs.ZebraProcess
import OspfMdr.Lib.Run

/-!
# Selected entries of the RIB of zebra

The mark of the selected entry is a bit of the flags, and the flags of a client's route are those of
its message.
-/

namespace OspfMdr.Zebra.Rtable
open Relation List Option Function

/-- The changes that are made outside of the queue. -/
inductive Outside (loses : Prop) (links : Safi → RouteType → Prop) : MoveKind → Prop
  | quiet : Outside loses links .quiet
  | deselect : Outside loses links .deselect
  | lose (h : loses) : Outside loses links .lose
  | link {safi : Safi} {type : RouteType} (h : links safi type) : Outside loses links (.link safi type)

variable {rib : Rib} {m : ZapiRoute} {ifindex : Nat} {info : List Rib} {flags : RibFlags} {safi : Safi}
  {q : Rib → Bool} {si : StaticRoute} {e : Event} {l : List Mark} {κ : MoveKind}

section operations

variable {st : Rtable} {rn : NodeKey} {loses : Prop} {links : Safi → RouteType → Prop}

lemma Outside.imp {loses' : Prop} (h : loses → loses') (hκ : Outside loses links κ) :
    Outside loses' links κ := by
  cases hκ with
  | quiet => exact .quiet
  | deselect => exact .deselect
  | lose hl => exact .lose (h hl)
  | link hl => exact .link hl

lemma quiet_routeNodeGet : Move .quiet st (st.routeNodeGet rn) := by
  unfold routeNodeGet
  dsimp only
  split_ifs
  · exact .refl st
  · exact .quiet (fun _ => rfl) rfl rfl rfl

lemma fresh_routeNodeGet : (st.routeNodeGet rn).fresh = st.fresh := by
  unfold routeNodeGet
  dsimp only
  split_ifs <;> rfl

/-- An entry as it is when it is linked. -/
structure NewRib (st : Rtable) (links : Safi → RouteType → Prop) (safi : Safi) (rib : Rib) : Prop where
  addr : rib.addr = st.fresh
  removed : rib.removed = false
  selected : rib.flags.selected = false
  link : links safi rib.type

lemma NewRib.fibOfKernel (h : NewRib st links safi rib) : NewRib st links safi (fibOfKernel rib) := by
  unfold Rtable.fibOfKernel
  split_ifs
  · exact { h with }
  · exact h

lemma NewRib.routeNodeGet (h : NewRib st links safi rib) : NewRib (st.routeNodeGet rn) links safi rib :=
  { h with addr := h.addr.trans fresh_routeNodeGet.symm }

lemma ribAddnode_moves (h : NewRib st links rn.safi rib) :
    Moves (Outside loses links) st ({ st with fresh := st.fresh + 1 }.ribAddnode rn rib) := by
  unfold ribAddnode
  rw [if_neg (by rw [h.removed]; exact Bool.false_ne_true)]
  have hmoved := moved_setNode { st with fresh := st.fresh + 1 } rn
    (withStatusOf rib (st.nodes rn) :: st.nodes rn)
  have hmark : (withStatusOf rib (st.nodes rn)).mark = rib.mark := by
    cases st.nodes rn <;> rfl
  rw [map_cons, hmark] at hmoved
  have hlinked : Move (.link rn.safi rib.type) st _ :=
    .link rn rib.mark ⟨hmoved.here, hmoved.other, hmoved.client⟩ h.addr rfl h.selected rfl
  exact (Moves.one (.link h.link) hlinked).trans (.one .quiet quiet_ribQueueAdd)

lemma ribAddnode_keep (hremoved : rib.removed = false) {m : Mark} (hm : m ∈ st.marks rn) :
    m ∈ ({ st with fresh := st.fresh + 1 }.ribAddnode rn rib).marks rn := by
  unfold ribAddnode
  rw [if_neg (by rw [hremoved]; exact Bool.false_ne_true)]
  unfold ribLink
  rw [quiet_ribQueueAdd.marks_eq rn, marks_setNode, if_pos rfl]
  exact mem_cons_of_mem _ hm

lemma linkNew_moves (hs : Sound st) {same : Option Rib} (h : NewRib st links rn.safi rib)
    (hsame : ∀ r, same = some r → r ∈ st.nodes rn) :
    Moves (Outside loses links) st (st.linkNew rn rib same) := by
  have hadded : Moves (Outside loses links) st
      ({ st with fresh := st.fresh + 1 }.ribAddnode rn (fibOfKernel rib)) := ribAddnode_moves h.fibOfKernel
  cases same with
  | none => exact hadded
  | some r =>
    exact hadded.tail ⟨_, .quiet, quiet_ribDelnode (hadded.sound hs)
      (ribAddnode_keep h.fibOfKernel.removed (mem_marks (hsame r rfl)))⟩

lemma findSame_some {type : RouteType} {b : Bool} {r : Rib}
    (h : findSame type ifindex info = some (b, r)) : r ∈ info ∧ (b → type = .connect) := by
  induction info with
  | nil => exact absurd h nofun
  | cons rib info ih =>
    have hrest := fun h => And.imp_left (mem_cons_of_mem rib) (ih h)
    unfold findSame at h
    split_ifs at h with hother hconnect
    · exact hrest h
    · cases h
      exact ⟨mem_cons_self, fun hb => absurd hb Bool.false_ne_true⟩
    · split at h
      · split_ifs at h
        · cases h
          simp_all
        · exact hrest h
      · exact hrest h

lemma ribAdd_moves (hs : Sound st) (ifindex : Nat) (h : NewRib st links rn.safi rib) :
    Moves (Outside loses links) st (st.ribAdd rn rib ifindex) := by
  have hget : Move .quiet st (st.routeNodeGet rn) := quiet_routeNodeGet
  have hs' := hget.sound hs
  refine (Moves.one .quiet hget).trans ?_
  unfold ribAdd
  dsimp only
  split
  · rename_i dup hdup
    have hmem : dup.mark ∈ (st.routeNodeGet rn).marks rn := mem_marks (findSame_some hdup).1
    exact .one .quiet (quiet_setRib hs' { dup with refcnt := dup.refcnt + 1 } hmem)
  · rename_i same hsame
    refine linkNew_moves hs' h.routeNodeGet fun r hr => ?_
    rw [← some.inj hr]
    exact (findSame_some hsame).1
  · exact linkNew_moves hs' h.routeNodeGet (by simp)

section
variable (hs : Sound st) (type : RouteType) (p : RoutePrefix) (gate : Option Nat)
  (ifindex table metric distance : Nat) (hsel : flags.selected = false) (hlink : links safi type)
include hs hsel hlink

lemma ribAddIpv4_moves :
    Moves (Outside loses links) st (st.ribAddIpv4 type flags p gate ifindex table metric distance safi) :=
  ribAdd_moves hs ifindex ⟨rfl, rfl, hsel, hlink⟩

lemma ribAddIpv6_moves :
    Moves (Outside loses links) st (st.ribAddIpv6 type flags p gate ifindex table metric distance safi) := by
  unfold ribAddIpv6
  split_ifs
  all_goals first
    | exact .refl
    | exact ribAdd_moves hs ifindex ⟨rfl, rfl, hsel, hlink⟩

end

lemma ribAddIpv4Multipath_moves (hs : Sound st) (p : RoutePrefix) (h : NewRib st links safi rib) :
    Moves (Outside loses links) st (st.ribAddIpv4Multipath p rib safi) := by
  have hget : Move .quiet st (st.routeNodeGet ⟨safi, applyMask p⟩) := quiet_routeNodeGet
  refine (Moves.one .quiet hget).trans ?_
  have hnew : NewRib (st.routeNodeGet ⟨safi, applyMask p⟩) links safi rib := h.routeNodeGet
  exact linkNew_moves (hget.sound hs) { hnew with }
    fun r hr => mem_of_find?_eq_some hr

/-- The search of the entries has found some of them. -/
structure FoundIn (all : List Rib) (found : Option Rib × DeleteFound) : Prop where
  fib : ∀ r, found.1 = some r → r ∈ all
  release : ∀ r, found.2 = .release r → r ∈ all
  same : ∀ r, found.2 = .same r → r ∈ all

lemma deleteScan_foundIn (type : Option RouteType) (gate : Option Nat) (ifindex : Nat) {all : List Rib}
    (fib : Option Rib) (hinfo : ∀ r ∈ info, r ∈ all) (hfib : ∀ r, fib = some r → r ∈ all) :
    FoundIn all (deleteScan type gate ifindex fib info) := by
  induction info generalizing fib with
  | nil =>
    unfold deleteScan
    exact ⟨hfib, by simp, by simp⟩
  | cons rib info ih =>
    have hrest : ∀ r ∈ info, r ∈ all := fun r hr => hinfo r (mem_cons_of_mem _ hr)
    have hrib := hinfo rib mem_cons_self
    unfold deleteScan
    dsimp only
    by_cases hremoved : rib.removed
    · rw [if_pos hremoved]
      exact ih _ hrest hfib
    rw [if_neg hremoved]
    have hfib' : ∀ r, (if rib.flags.selected then some rib else fib) = some r → r ∈ all := by
      intro r hr
      split_ifs at hr
      · rw [← some.inj hr]
        exact hrib
      · exact hfib r hr
    generalize (if rib.flags.selected = true then some rib else fib) = fib' at hfib' ⊢
    have hsame : FoundIn all (fib', .same rib) :=
      ⟨hfib', by simp, fun r hr => DeleteFound.same.inj hr ▸ hrib⟩
    have hrelease : FoundIn all (fib', .release rib) :=
      ⟨hfib', fun r hr => DeleteFound.release.inj hr ▸ hrib, by simp⟩
    by_cases htype : some rib.type ≠ type
    · rw [if_pos htype]
      exact ih _ hrest hfib'
    rw [if_neg htype]
    split
    · split_ifs
      · exact ih _ hrest hfib'
      · exact hrelease
      · exact hsame
    · exact hsame
    · split_ifs
      · exact hsame
      · exact ih _ hrest hfib'

/-- The deletion of a kernel route meets another entry that is selected. -/
def KernelLoses (st : Rtable) (type : Option RouteType) (rn : NodeKey) (gate : Option Nat)
    (ifindex : Nat) : Prop :=
  type = some .kernel ∧ ∃ fib, deleteScan type gate ifindex none (st.nodes rn) = (some fib, .missing)

lemma ribDelete_moves (hs : Sound st) (type : Option RouteType) (gate : Option Nat) (ifindex : Nat) :
    Moves (Outside (KernelLoses st type rn gate ifindex) links) st (st.ribDelete type rn gate ifindex) := by
  have hfound := deleteScan_foundIn type gate ifindex none (fun r (hr : r ∈ st.nodes rn) => hr) (by simp)
  unfold ribDelete
  split
  · rename_i rib hscan
    rw [hscan] at hfound
    have hmem := mem_marks (hfound.release rib rfl)
    exact .one .quiet (quiet_setRib hs { rib with refcnt := rib.refcnt - 1 } hmem)
  · rename_i rib hscan
    rw [hscan] at hfound
    exact .one .quiet (quiet_ribDelnode hs (mem_marks (hfound.same rib rfl)))
  · rename_i fib hscan
    rw [hscan] at hfound
    split_ifs with htype
    · exact .one (.lose ⟨htype, fib, hscan⟩)
        (.lose rn fib.mark (mem_marks (hfound.fib fib rfl)) (moved_setRib st rn (kernelLost fib)) rfl rfl)
    · exact .refl
  · exact .refl

/-! ### Static routes -/

lemma find_mem_marks (h : (st.nodes rn).find? q = some rib) : rib.mark ∈ st.marks rn :=
  mem_marks (mem_of_find?_eq_some h)

lemma staticInstall_moves (hs : Sound st) (p : RoutePrefix) (hsel : si.flags.selected = false)
    (hlink : links .unicast .static) : Moves (Outside loses links) st (st.staticInstall p si) := by
  have hget : Move .quiet st (st.routeNodeGet ⟨.unicast, p⟩) := quiet_routeNodeGet
  refine (Moves.one .quiet hget).trans ?_
  unfold staticInstall
  dsimp only
  split
  · rename_i rib hrib
    refine .one .quiet ((quiet_setRib (hget.sound hs) _ ?_).quiet_trans quiet_ribQueueAdd)
    have hmem := find_mem_marks hrib
    split_ifs <;> exact hmem
  · exact ribAddnode_moves ⟨rfl, rfl, hsel, hlink⟩

lemma staticUninstall_moves (hs : Sound st) (p : RoutePrefix) (si : StaticRoute) :
    Moves (Outside loses links) st (st.staticUninstall p si) := by
  unfold staticUninstall
  dsimp only
  split
  · exact .refl
  rename_i rib hrib
  have hmem := find_mem_marks hrib
  split
  · exact .refl
  split_ifs with hone hfib
  · exact .one .quiet (quiet_ribDelnode hs hmem)
  · have huninstall : Moves (Outside loses links) st (st.ribUninstall ⟨.unicast, p⟩ rib) :=
      (ribUninstall_moves hmem).mono fun κ hκ => hκ ▸ .deselect
    split
    · exact huninstall
    rename_i rib' hrib'
    refine huninstall.tail ⟨_, .quiet, ?_⟩
    refine (quiet_setRib (huninstall.sound hs) _ ?_).quiet_trans quiet_ribQueueAdd
    exact (find_mem_marks hrib' : rib'.mark ∈ _)
  · split
    · exact .refl
    · rename_i rib' hrib'
      refine .one .quiet ((quiet_setRib hs _ ?_).quiet_trans quiet_ribQueueAdd)
      exact (find_mem_marks hrib' : rib'.mark ∈ _)

lemma quiet_stable (stable : RoutePrefix → List StaticRoute) :
    Move .quiet st { st with stable := stable } :=
  .quiet (fun _ => rfl) rfl rfl rfl

lemma staticDelete_moves (hs : Sound st) (p : RoutePrefix) (si : StaticRoute) :
    Moves (Outside loses links) st (st.staticDelete p si) := by
  unfold staticDelete
  split
  · exact .refl
  · exact (staticUninstall_moves hs p _).tail ⟨_, .quiet, quiet_stable _⟩

lemma staticAdd_moves (hs : Sound st) (p : RoutePrefix) (hsel : si.flags.selected = false)
    (hlink : links .unicast .static) : Moves (Outside loses links) st (st.staticAdd p si) := by
  have hinstall : ∀ st' : Rtable, Moves (Outside loses links) st st' → Moves (Outside loses links) st
      ({ st' with stable := update st'.stable p (staticInsert p si (st'.stable p)) }.staticInstall p si) := by
    intro st' h
    have hconf := h.tail ⟨_, .quiet, quiet_stable (update st'.stable p (staticInsert p si (st'.stable p)))⟩
    exact Moves.trans hconf (staticInstall_moves (Moves.sound hconf hs) p hsel hlink)
  unfold staticAdd
  dsimp only
  split_ifs
  · exact .refl
  · split
    · exact hinstall _ (staticDelete_moves hs p _)
    · exact hinstall st .refl

/-! ### The whole table -/

lemma quiet_ribUpdate : Move .quiet st st.ribUpdate := by
  exact foldlRecOn _ _ (.refl st) fun _ h _ _ => h.quiet_trans quiet_ribQueueAdd

lemma quiet_eachRib {f : Rtable → NodeKey → Rib → Rtable}
    (hf : ∀ st rn rib, Sound st → rib.mark ∈ st.marks rn → Move .quiet st (f st rn rib))
    (hs : Sound st) : Move .quiet st (st.eachRib f) := by
  -- the inner loop goes over the entries that the node has when it starts
  refine foldlRecOn _ _ (.refl st) fun st1 h1 rn _ => h1.quiet_trans ?_
  refine foldlRecOn _ _ (.refl st1) fun st2 h2 rib hrib => h2.quiet_trans ?_
  split_ifs
  · exact .refl st2
  · apply hf st2 rn rib (h2.sound (h1.sound hs))
    rw [h2.marks_eq]
    exact mem_marks hrib

lemma quiet_delnodes {c : Rtable → Rib → Prop} [∀ st rib, Decidable (c st rib)] (hs : Sound st) :
    Move .quiet st (st.eachRib fun st rn rib => if c st rib then st.ribDelnode rn rib else st) := by
  refine quiet_eachRib (fun st rn rib hs hmem => ?_) hs
  split_ifs
  · exact quiet_ribDelnode hs hmem
  · exact .refl st

lemma quiet_ribSweepRoute (ok : NodeKey → Rib → Bool) (hs : Sound st) :
    Move .quiet st (st.ribSweepRoute ok) := by
  refine quiet_eachRib (fun st rn rib hs hmem => ?_) hs
  have hset := quiet_setRib hs (ribUninstallKernel rib) hmem
  split_ifs
  · refine hset.quiet_trans (quiet_ribDelnode (hset.sound hs) ?_)
    rw [hset.marks_eq]
    exact hmem
  · exact hset
  · exact .refl st

lemma filter_selected (hs : Sound st) (hq : ∀ r, q r → r.flags.selected) {r : Rib}
    {rest : List Rib} (h : (st.nodes rn).filter q = r :: rest) : rest = [] := by
  have hmem : ∀ x ∈ r :: rest, x ∈ st.nodes rn ∧ x.flags.selected := fun x hx => by
    rw [← h] at hx
    exact ⟨(mem_filter.mp hx).1, hq x (mem_filter.mp hx).2⟩
  have hnodup : ((r :: rest).map Rib.addr).Nodup := by
    have hall := (hs rn).nodup
    rw [marks, List.map_map] at hall
    rw [← h]
    exact hall.sublist (filter_sublist.map _)
  cases rest with
  | nil => rfl
  | cons x rest =>
    obtain ⟨hr, hrs⟩ := hmem r mem_cons_self
    obtain ⟨hx, hxs⟩ := hmem x (mem_cons_of_mem _ mem_cons_self)
    have heq : r.addr = x.addr := (hs rn).one _ (mem_marks hr) _ (mem_marks hx) hrs hxs
    rw [map_cons, map_cons, nodup_cons, heq] at hnodup
    exact absurd mem_cons_self hnodup.1

lemma ribLookupAndPushup_moves (hs : Sound st) (p : RoutePrefix) :
    Moves (Outside loses links) st (st.ribLookupAndPushup p) := by
  unfold ribLookupAndPushup
  dsimp only
  cases hfound : (st.nodes ⟨.unicast, p⟩).filter fun rib => rib.flags.selected && !rib.isSystemRoute with
  | nil => exact .refl
  | cons rib rest =>
    have hrest : rest = [] := filter_selected hs (fun r hr => (Bool.and_eq_true _ _ ▸ hr).1) hfound
    have hrib : rib ∈ st.nodes ⟨.unicast, p⟩ := by
      have hmem : rib ∈ (st.nodes ⟨.unicast, p⟩).filter fun rib => rib.flags.selected && !rib.isSystemRoute := by
        rw [hfound]
        exact mem_cons_self
      exact (mem_filter.mp hmem).1
    subst hrest
    have huninstall : Moves (Outside loses links) st (st.ribUninstall ⟨.unicast, p⟩ rib) :=
      (ribUninstall_moves (mem_marks hrib)).mono fun κ hκ => hκ ▸ .deselect
    exact huninstall.tail ⟨_, .quiet, quiet_ribQueueAdd⟩

end operations

/-! ### Runs -/

/-- The type, the node, the gateway and the interface of the deletion that an event asks for. -/
def Event.deletion : Event → Option (Option RouteType × NodeKey × Option Nat × Nat)
  | .zreadIpv4Delete m =>
    if m.prefixlen > Afi.ip.maxPrefixlen then none
    else (vrfTable m.safi).join.map fun safi =>
      let g := m.nexthop.foldl zapiGateIpv4 (0, false, 0)
      (RouteType.ofByte m.type, ⟨safi, applyMask ⟨.ip, m.addr, m.prefixlen⟩⟩, if g.2.1 then some g.1 else none, g.2.2)
  | .zreadIpv6Delete m =>
    if m.prefixlen > Afi.ip6.maxPrefixlen then none
    else (vrfTable m.safi).join.map fun safi =>
      let g := m.nexthop.foldl zapiGateIpv6 (0, 0)
      (RouteType.ofByte m.type, ⟨safi, applyMask ⟨.ip6, m.addr, m.prefixlen⟩⟩, if g.1 = 0 then none else some g.1, g.2)
  | .kernelDelete p gate ifindex => some (some .kernel, ⟨.unicast, applyMask p⟩, gate, ifindex)
  | _ => none

/-- The event clears the selection of an entry without telling the clients. -/
def Loses (st : Rtable) (e : Event) : Prop :=
  ∃ d, e.deletion = some d ∧ KernelLoses st d.1 d.2.1 d.2.2.1 d.2.2.2

def Event.Links : Event → Safi → RouteType → Prop
  | .zreadIpv4Add m, safi, type => vrfTable m.safi = some (some safi) ∧ RouteType.ofByte m.type = some type
  | .zreadIpv6Add m, safi, type => vrfTable m.safi = some (some safi) ∧ RouteType.ofByte m.type = some type
  | _, safi, type => safi = .unicast ∧ type ≠ .system

/-- A message whose SAFI and type are indices of the arrays and whose flags do not have the bit of the mark. -/
def ProperAdd (m : ZapiRoute) : Prop :=
  vrfTable m.safi ≠ none ∧ RouteType.ofByte m.type ≠ none ∧ (RibFlags.ofByte m.flags).selected = false

/-- The message has a type and a SAFI that exist, and an addition is not flagged as selected. -/
def Event.Proper : Event → Prop
  | .zreadIpv4Add m => ProperAdd m
  | .zreadIpv6Add m => ProperAdd m
  | .zreadIpv4Delete m => vrfTable m.safi ≠ none
  | .zreadIpv6Delete m => vrfTable m.safi ≠ none
  | _ => True

section run

variable {st : Rtable}

lemma zapiNexthopIpv4_mark (l : List ZapiNexthop) (rib : Rib) : (l.foldl zapiNexthopIpv4 rib).mark =
    rib.mark ∧ (l.foldl zapiNexthopIpv4 rib).removed = rib.removed := by
  refine foldlRecOn (motive := fun r : Rib => r.mark = rib.mark ∧ r.removed = rib.removed) _ _
    ⟨rfl, rfl⟩ fun _ h n _ => ?_
  cases n <;> exact h

/-- The event does not fail and makes only changes of its kinds. -/
def Stepped (st : Rtable) (e : Event) : Prop :=
  ∃ st', st.step e = some st' ∧ Moves (Outside (Loses st e) e.Links) st st'

lemma stepped_zread {max : Nat} {f : Safi → Option Rtable} (hsafi : vrfTable m.safi ≠ none)
    (hstep : st.step e = if m.prefixlen > max then some st else match vrfTable m.safi with
      | none => none
      | some none => some st
      | some (some safi) => f safi)
    (hf : ∀ safi, ¬m.prefixlen > max → vrfTable m.safi = some (some safi) →
      ∃ st', f safi = some st' ∧ Moves (Outside (Loses st e) e.Links) st st') : Stepped st e := by
  unfold Stepped
  rw [hstep]
  split_ifs with hlen
  · exact ⟨st, rfl, .refl⟩
  cases htable : vrfTable m.safi with
  | none => exact absurd htable hsafi
  | some table =>
    cases table with
    | none => exact ⟨st, rfl, .refl⟩
    | some safi => exact hf safi hlen htable

section
variable (hs : Sound st) {rn : NodeKey}
include hs

lemma stepped_zreadIpv4Add (hm : ProperAdd m) : Stepped st (.zreadIpv4Add m) := by
  obtain ⟨hsafi, htype, hsel⟩ := hm
  obtain ⟨type, ht⟩ := ne_none_iff_exists'.mp htype
  refine stepped_zread hsafi rfl fun safi _ htable => ?_
  rw [ht]
  obtain ⟨hmark, hremoved⟩ := zapiNexthopIpv4_mark m.nexthop
    { addr := st.fresh, type := type, distance := m.distance, metric := m.metric, table := st.rtmTableDefault
      flags := RibFlags.ofByte m.flags, nexthop := [] }
  refine ⟨_, rfl, ribAddIpv4Multipath_moves hs _ ⟨congrArg Mark.addr hmark, hremoved,
    (congrArg Mark.selected hmark).trans hsel, htable, ht.trans ?_⟩⟩
  exact congrArg some (congrArg Mark.type hmark).symm

lemma stepped_zreadIpv6Add (hm : ProperAdd m) : Stepped st (.zreadIpv6Add m) := by
  obtain ⟨hsafi, htype, hsel⟩ := hm
  obtain ⟨type, ht⟩ := ne_none_iff_exists'.mp htype
  refine stepped_zread hsafi rfl fun safi _ htable => ?_
  rw [ht]
  exact ⟨_, rfl, ribAddIpv6_moves hs type _ _ _ _ _ _ hsel ⟨htable, ht⟩⟩

lemma ribDelete_stepped {type : Option RouteType} {gate : Option Nat}
    (hd : e.deletion = some (type, rn, gate, ifindex)) :
    Moves (Outside (Loses st e) e.Links) st (st.ribDelete type rn gate ifindex) := by
  have hmoves : Moves (Outside (KernelLoses st type rn gate ifindex) e.Links) st _ :=
    ribDelete_moves hs type gate ifindex
  exact hmoves.mono fun κ hκ => hκ.imp fun h => ⟨_, hd, h⟩

lemma stepped_zreadDelete (hsafi : vrfTable m.safi ≠ none) :
    Stepped st (.zreadIpv4Delete m) ∧ Stepped st (.zreadIpv6Delete m) := by
  constructor
  all_goals
    refine stepped_zread hsafi rfl fun safi hlen htable => ⟨_, rfl, ribDelete_stepped hs ?_⟩
    rw [Event.deletion, if_neg hlen, htable]
    rfl

lemma stepped_kernel (p : RoutePrefix) (flags : KernelFlags) (gate : Option Nat)
    (ifindex table metric : Nat) : Stepped st (.kernelAdd p flags gate ifindex table metric) := by
  refine ⟨_, rfl, ?_⟩
  cases p.afi with
  | ip => exact ribAddIpv4_moves hs _ _ _ _ _ _ _ rfl ⟨rfl, by decide⟩
  | ip6 => exact ribAddIpv6_moves hs _ _ _ _ _ _ _ rfl ⟨rfl, by decide⟩

lemma stepped_connectedUp (p : RoutePrefix) (ifindex metric : Nat) :
    Stepped st (.connectedUp p ifindex metric) := by
  refine ⟨_, rfl, ?_⟩
  cases p.afi with
  | ip =>
    unfold connectedUpIpv4
    split_ifs
    · exact .refl
    · exact (ribAddIpv4_moves hs _ _ _ _ _ _ _ rfl ⟨rfl, by decide⟩).tail ⟨_, .quiet, quiet_ribUpdate⟩
  | ip6 =>
    unfold connectedUpIpv6
    split_ifs
    · exact .refl
    · exact (ribAddIpv6_moves hs _ _ _ _ _ _ _ rfl ⟨rfl, by decide⟩).tail ⟨_, .quiet, quiet_ribUpdate⟩

lemma ribDelete_connected (gate : Option Nat) (ifindex : Nat) {loses : Prop}
    {links : Safi → RouteType → Prop} :
    Moves (Outside loses links) st (st.ribDelete (some .connect) rn gate ifindex) := by
  have hmoves : Moves (Outside (KernelLoses st (some .connect) rn gate ifindex) links) st _ :=
    ribDelete_moves hs (some .connect) gate ifindex
  exact hmoves.mono fun κ hκ => hκ.imp fun h => absurd h.1 (by decide)

lemma stepped_connectedDown (p : RoutePrefix) (ifindex : Nat) :
    Stepped st (.connectedDown p ifindex) := by
  refine ⟨_, rfl, ?_⟩
  cases p.afi
  all_goals
    simp only [connectedDownIpv4, connectedDownIpv6]
    split_ifs
    · exact .refl
    · exact (ribDelete_connected hs none ifindex).tail ⟨_, .quiet, quiet_ribUpdate⟩

end

lemma step_outside (hs : Sound st) (hp : e.Proper) (hqueue : ∀ env, e ≠ .queueRun env) :
    Stepped st e := by
  cases e with
  | zreadIpv4Add m => exact stepped_zreadIpv4Add hs hp
  | zreadIpv4Delete m => exact (stepped_zreadDelete hs hp).1
  | zreadIpv6Add m => exact stepped_zreadIpv6Add hs hp
  | zreadIpv6Delete m => exact (stepped_zreadDelete hs hp).2
  | clientClose proto => exact ⟨_, rfl, .one .quiet (quiet_delnodes hs)⟩
  | staticAdd p type gate ifname distance flag =>
    exact ⟨_, rfl, staticAdd_moves hs _ (by cases flag <;> rfl) ⟨rfl, by decide⟩⟩
  | staticDelete p type gate ifname distance => exact ⟨_, rfl, staticDelete_moves hs _ _⟩
  | kernelAdd p flags gate ifindex table metric => exact stepped_kernel hs p flags gate ifindex table metric
  | kernelAddMultipath addr prefixlen flags nexthop table metric =>
    refine ⟨_, rfl, ?_⟩
    split_ifs
    · exact .refl
    · exact ribAddIpv4Multipath_moves hs _ ⟨rfl, rfl, rfl, rfl, nofun⟩
  | kernelDelete p gate ifindex =>
    refine ⟨_, rfl, ?_⟩
    cases p.afi <;> exact ribDelete_stepped hs rfl
  | connectedUp p ifindex metric => exact stepped_connectedUp hs p ifindex metric
  | connectedDown p ifindex => exact stepped_connectedDown hs p ifindex
  | interfaces interfaces => exact ⟨_, rfl, .one .quiet (.quiet (fun _ => rfl) rfl rfl rfl)⟩
  | ribUpdate => exact ⟨_, rfl, .one .quiet quiet_ribUpdate⟩
  | ribWeedTables => exact ⟨_, rfl, .one .quiet (quiet_delnodes hs)⟩
  | ribSweepRoute ok => exact ⟨_, rfl, .one .quiet (quiet_ribSweepRoute ok hs)⟩
  | pushup addr prefixlen => exact ⟨_, rfl, ribLookupAndPushup_moves hs _⟩
  | queueRun env => exact absurd rfl (hqueue env)

/-- The scan of the node selects the entry. -/
def Chosen (env : Surroundings) (st : Rtable) (k : NodeKey) (addr : Nat) : Prop :=
  ∃ s select, (st.nodes k).foldlM (processStep env k) ⟨st, none, none, false⟩ = some s ∧
    s.select = some select ∧ select.addr = addr

/-- The changes that one turn of the queue makes. -/
inductive InQueue (env : Surroundings) (st : Rtable) : MoveKind → Prop
  | quiet : InQueue env st .quiet
  | unlink : InQueue env st .unlink
  | deselect : InQueue env st .deselect
  | refresh : InQueue env st .refresh
  | select {k : NodeKey} {addr : Nat} (h : Chosen env st k addr) : InQueue env st (.select k addr)

lemma ribProcess_inQueue (env : Surroundings) (hs : Sound st) (rn : NodeKey) :
    ∃ st', st.ribProcess env rn = some st' ∧ Moves (InQueue env st) st st' := by
  obtain ⟨s, hloop, hresult, hmoves⟩ := ribProcess_moves env hs rn
  refine ⟨_, hresult, hmoves.mono fun κ hκ => ?_⟩
  cases hκ with
  | quiet => exact .quiet
  | unlink => exact .unlink
  | deselect => exact .deselect
  | refresh => exact .refresh
  | select h =>
    obtain ⟨select, hselect, haddr⟩ := map_eq_some_iff.mp h
    exact .select ⟨s, select, hloop, hselect, haddr⟩

lemma step_queue (env : Surroundings) (hs : Sound st) :
    ∃ st', st.step (.queueRun env) = some st' ∧ Moves (InQueue env st) st st' := by
  unfold step metaQueueProcess
  dsimp only
  split
  · exact ⟨st, rfl, .refl⟩
  rename_i i _
  split
  · exact ⟨st, rfl, .refl⟩
  rename_i rn rest _
  obtain ⟨st', hprocess, hmoves⟩ := ribProcess_inQueue env hs rn
  refine ⟨_, by rw [processSubq, hprocess]; rfl, hmoves.tail ⟨_, .quiet, ?_⟩⟩
  have hmoved := moved_setNode st' rn (setHeadStatus i false (st'.nodes rn))
  rw [setHeadStatus_map fun _ _ => rfl] at hmoved
  exact .quiet (hmoved.quiet rfl rfl).marks_eq rfl rfl rfl

lemma step_moves (hs : Sound st) (hp : e.Proper) : ∃ st' K, st.step e = some st' ∧ Moves K st st' ∧
    ∀ k addr, K (.select k addr) → ∃ env, e = .queueRun env ∧ Chosen env st k addr := by
  by_cases hqueue : ∃ env, e = .queueRun env
  · obtain ⟨env, rfl⟩ := hqueue
    obtain ⟨st', hstep, hmoves⟩ := step_queue env hs
    exact ⟨st', _, hstep, hmoves, fun k addr h => by cases h with | select h => exact ⟨env, rfl, h⟩⟩
  · obtain ⟨st', hstep, hmoves⟩ := step_outside hs hp fun env h => hqueue ⟨env, h⟩
    exact ⟨st', _, hstep, hmoves, nofun⟩

lemma run_sound {events : List Event} (hs : Sound st) (hp : ∀ e ∈ events, e.Proper) :
    ∃ st', events.foldlM step st = some st' ∧ Sound st' := by
  refine Lib.foldlM_total (fun e he _ hs => ?_) hs
  obtain ⟨st', _, hstep, hmoves, -⟩ := step_moves hs (hp e he)
  exact ⟨st', hstep, hmoves.sound hs⟩

/-- The entry of the node is selected. -/
def Selected (st : Rtable) (k : NodeKey) (addr : Nat) : Prop :=
  ∃ r ∈ st.nodes k, r.addr = addr ∧ r.flags.selected

lemma selected_iff (st : Rtable) (k : NodeKey) (addr : Nat) :
    Selected st k addr ↔ ∃ m ∈ st.marks k, m.addr = addr ∧ m.selected := by
  constructor
  · rintro ⟨r, hr, haddr, hsel⟩
    exact ⟨r.mark, mem_marks hr, haddr, hsel⟩
  · rintro ⟨m, hm, haddr, hsel⟩
    obtain ⟨r, hr, rfl⟩ := mem_map.mp hm
    exact ⟨r, hr, haddr, hsel⟩

end run

section becoming

variable {st st' : Rtable} {k : NodeKey} {addr : Nat}

lemma Moved.selected_of {k0 : NodeKey} (h : Moved st st' k0 l)
    (hl : ∀ m ∈ l, m.selected → m ∈ st.marks k0 ∨ κ = .select k0 m.addr)
    (hsel : Selected st' k addr) : Selected st k addr ∨ κ = .select k addr := by
  rw [selected_iff] at hsel ⊢
  obtain ⟨m, hm, rfl, hms⟩ := hsel
  by_cases hk : k = k0
  · subst hk
    rw [h.here] at hm
    exact (hl m hm hms).imp_left fun hm => ⟨m, hm, rfl, hms⟩
  · rw [h.other k hk] at hm
    exact .inl ⟨m, hm, rfl, hms⟩

lemma mem_of_setMark_false {m m' : Mark} (hm : m ∈ setMark (m'.withSelected false) l)
    (hsel : m.selected) : m ∈ l := by
  rcases mem_setMark hm with rfl | ⟨hm, -⟩
  · exact absurd hsel Bool.false_ne_true
  · exact hm

lemma Move.selected (h : Move κ st st') (hsel : Selected st' k addr) :
    Selected st k addr ∨ κ = .select k addr := by
  cases h with
  | quiet hmarks =>
    rw [selected_iff, hmarks k, ← selected_iff] at hsel
    exact .inl hsel
  | link k0 m hmoved haddr hfresh hms hsent =>
    refine hmoved.selected_of (fun x hx hxs => ?_) hsel
    rcases mem_cons.mp hx with rfl | hx
    · rw [hms] at hxs
      exact absurd hxs Bool.false_ne_true
    · exact .inl hx
  | unlink k0 a hmoved => exact hmoved.selected_of (fun x hx _ => .inl (mem_filter.mp hx).1) hsel
  | deselect k0 m hmem hms hmoved => exact hmoved.selected_of (fun x hx h => .inl (mem_of_setMark_false hx h)) hsel
  | lose k0 m hmem hmoved => exact hmoved.selected_of (fun x hx h => .inl (mem_of_setMark_false hx h)) hsel
  | select k0 m hmem hnone hdist hmoved =>
    refine hmoved.selected_of (fun x hx hxs => ?_) hsel
    rcases mem_setMark hx with rfl | ⟨hx, -⟩
    · exact .inr rfl
    · exact .inl hx
  | refresh k0 m hmem hms hmarks =>
    rw [selected_iff, hmarks k, ← selected_iff] at hsel
    exact .inl hsel

lemma Moves.selected {K : MoveKind → Prop} (h : Moves K st st') (hsel : Selected st' k addr) :
    Selected st k addr ∨ K (.select k addr) := by
  induction h with
  | refl => exact .inl hsel
  | tail _ hlast ih =>
    obtain ⟨κ, hκ, hmove⟩ := hlast
    rcases hmove.selected hsel with hold | rfl
    · exact ih hold
    · exact .inr hκ

lemma step_selected (hs : Sound st) (hp : e.Proper) (hstep : st.step e = some st')
    (hsel : Selected st' k addr) (hnot : ¬Selected st k addr) :
    ∃ env, e = .queueRun env ∧ Chosen env st k addr := by
  obtain ⟨st'', K, hstep', hmoves, hK⟩ := step_moves hs hp
  obtain rfl := some.inj (hstep.symm.trans hstep')
  exact hK k addr ((hmoves.selected hsel).resolve_left hnot)

end becoming

lemma sound_ribInit (table : Nat) (client : Client) : Sound (ribInit table client) := fun _ =>
  ⟨nodup_nil, fun _ h => absurd h not_mem_nil, fun _ h => absurd h not_mem_nil⟩

lemma Sound.countP {st : Rtable} (hs : Sound st) (k : NodeKey) :
    (st.nodes k).countP (·.flags.selected) ≤ 1 := by
  rw [countP_eq_length_filter]
  cases hfilter : (st.nodes k).filter (·.flags.selected) with
  | nil => exact Nat.zero_le 1
  | cons r rest =>
    rw [filter_selected hs (fun r hr => hr) hfilter]
    exact le_refl 1

/-- At most one entry of a node is selected, and only a turn of the queue selects one, as the scan chose. -/
theorem ribProcess_selected_once (table : Nat) (client : Client) (events : List Event)
    (hp : ∀ e ∈ events, e.Proper) :
    (∃ st, events.foldlM step (ribInit table client) = some st ∧
        ∀ k, (st.nodes k).countP (·.flags.selected) ≤ 1) ∧
    ∀ before e after st st', events = before ++ e :: after →
      before.foldlM step (ribInit table client) = some st → st.step e = some st' →
      ∀ k addr, Selected st' k addr → ¬Selected st k addr →
        ∃ env, e = .queueRun env ∧ Chosen env st k addr := by
  constructor
  · obtain ⟨st, hrun, hs⟩ := run_sound (sound_ribInit table client) hp
    exact ⟨st, hrun, hs.countP⟩
  · rintro before e after st st' rfl hrun hstep k addr hsel hnot
    obtain ⟨st0, hrun', hs⟩ := run_sound (sound_ribInit table client)
      fun e he => hp e (mem_append_left _ he)
    obtain rfl := some.inj (hrun.symm.trans hrun')
    exact step_selected hs (hp e (mem_append_right _ mem_cons_self)) hstep hsel hnot

def exampleRoute (type flags : BitVec 8) : ZapiRoute := ⟨type, flags, 1, 24, 0x0a000000, [.ifindex 1], 0, 0⟩

def exampleEnv : Surroundings := ⟨fun _ _ _ _ => false, fun _ _ _ => true⟩

def exampleClient : Client := ⟨fun type => type ≠ .system, true⟩

def exampleKey : NodeKey := ⟨.unicast, .ip, 0x0a000000, 24⟩

theorem ribProcess_selected_once_rip :
    ∃ st, [.interfaces [⟨1, "eth0", true⟩], .zreadIpv4Add (exampleRoute 4 0), .queueRun exampleEnv].foldlM step
        (ribInit 254 exampleClient) = some st ∧
      ∀ k, (st.nodes k).countP (·.flags.selected) ≤ 1 :=
    by
  refine (ribProcess_selected_once 254 exampleClient _ fun e he => ?_).1
  simp only [mem_cons, not_mem_nil, or_false] at he
  rcases he with rfl | rfl | rfl
  · trivial
  · exact ⟨by decide, by decide, by decide⟩
  · trivial

/-- A client's flags mark two entries of a node, or a client's type is not in the tables. -/
theorem ribProcess_flags_of_client :
    ((ribInit 254 exampleClient).step (.zreadIpv4Add (exampleRoute 4 0x10))).any
      (fun st => (st.nodes exampleKey).any (·.flags.selected)) ∧
    ([.zreadIpv4Add (exampleRoute 4 0x10), .zreadIpv4Add (exampleRoute 6 0x10), .queueRun exampleEnv].foldlM
      step (ribInit 254 exampleClient)).isNone ∧
    ((ribInit 254 exampleClient).step (.zreadIpv4Add (exampleRoute 13 0))).isNone := by
  refine ⟨by decide, by decide, by decide⟩

end OspfMdr.Zebra.Rtable
