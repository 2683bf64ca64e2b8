import OspfMdr.Lib.Run
import OspfMdr.Proofs.ZebraSelected

/-!
# Redistribution of the selected entries of zebra

The messages to a client follow the marks of the entries, except that a notification of the kernel
can take a mark away without a message.
-/

namespace OspfMdr.Zebra.Rtable
open Lib List Bool

/-- The last message about the prefix. -/
def lastSent (st : Rtable) (p : RoutePrefix) : Option RouteMessage := st.sent.find? fun msg => msg.p = p

/-- The last message about the prefix says what is selected. -/
def Announced (st : Rtable) (p : RoutePrefix) : Prop :=
  match (st.nodes ⟨.unicast, p⟩).find? (·.flags.selected), st.lastSent p with
  | some rib, some msg =>
    msg.add ∧ msg.rib = rib.addr ∧ msg.type = rib.type ∧ msg.distance = rib.distance ∧
      msg.metric = rib.metric
  | some _, none => False
  | none, some msg => msg.add = false
  | none, none => True

/-- The last message about the prefix says what is selected. -/
structure Told (st : Rtable) (p : RoutePrefix) : Prop where
  added : ∀ m ∈ st.marks ⟨.unicast, p⟩, m.selected →
    ∃ msg, st.lastSent p = some msg ∧ msg.add ∧ msg.About p m
  gone : (∀ m ∈ st.marks ⟨.unicast, p⟩, m.selected = false) → ∀ msg, st.lastSent p = some msg → msg.add = false

variable {p : RoutePrefix} {m : Mark} {msg : RouteMessage} {l : List Mark}

variable {st : Rtable} {e : Event}

lemma Told.announced (h : Told st p) : Announced st p := by
  unfold Announced
  cases hfind : (st.nodes ⟨.unicast, p⟩).find? (·.flags.selected) with
  | none =>
    have hnone : ∀ m ∈ st.marks ⟨.unicast, p⟩, m.selected = false := by
      intro m hm
      obtain ⟨r, hr, rfl⟩ := mem_map.mp hm
      exact not_eq_true _ ▸ List.find?_eq_none.mp hfind r hr
    cases hlast : st.lastSent p with
    | none => trivial
    | some msg => exact h.gone hnone msg hlast
  | some rib =>
    have hmem := mem_marks (mem_of_find?_eq_some hfind)
    have hsel : rib.flags.selected := by simpa using List.find?_some hfind
    obtain ⟨msg, hlast, hadd, -, hrest⟩ := h.added rib.mark hmem hsel
    rw [hlast]
    exact ⟨hadd, hrest⟩

/-- What holds after each event: the client knows what is selected. -/
structure AllTold (st : Rtable) : Prop where
  sound : Sound st
  told : ∀ p, Told st p
  unicast : ∀ k, ∀ m ∈ st.marks k, k.safi = .unicast ∧ m.type ≠ .system
  distance : ∀ k, ∀ m ∈ st.marks k, m.selected → m.distance ≠ distanceInfinity
  client : ∀ type, type ≠ .system → st.client.redist type

section moves

variable {st st' : Rtable} {k : NodeKey}

lemma AllTold.wanted (h : AllTold st) (hm : m ∈ st.marks k) : st.Wanted k.p m := by
  unfold Wanted
  rw [h.client m.type (h.unicast k m hm).2, Bool.or_true]

lemma key_eq (hk : k.safi = .unicast) : k = ⟨.unicast, k.p⟩ := by
  rw [← hk]

lemma lastSent_cons_self {l : List RouteMessage} (hsent : st'.sent = msg :: l) (hp : msg.p = p) :
    st'.lastSent p = some msg := by
  rw [lastSent, hsent, List.find?_cons_of_pos (by simp [hp])]

lemma lastSent_cons_of_ne (hsent : st'.sent = msg :: st.sent) (hp : msg.p ≠ p) :
    st'.lastSent p = st.lastSent p := by
  rw [lastSent, hsent, List.find?_cons_of_neg (by simp [hp])]
  rfl

lemma Told.frame (h : Told st p) (hmarks : st'.marks ⟨.unicast, p⟩ = st.marks ⟨.unicast, p⟩)
    (hlast : st'.lastSent p = st.lastSent p) : Told st' p := by
  refine ⟨?_, ?_⟩ <;> rw [hmarks, hlast]
  · exact h.added
  · exact h.gone

lemma Told.ofSelected (h : Told st p)
    (hsub : ∀ m ∈ st'.marks ⟨.unicast, p⟩, m.selected → m ∈ st.marks ⟨.unicast, p⟩)
    (hsup : ∀ m ∈ st.marks ⟨.unicast, p⟩, m.selected → m ∈ st'.marks ⟨.unicast, p⟩)
    (hlast : st'.lastSent p = st.lastSent p) : Told st' p := by
  refine ⟨fun m hm hsel => ?_, fun hnone msg hmsg => ?_⟩
  · rw [hlast]
    exact h.added m (hsub m hm hsel) hsel
  · rw [hlast] at hmsg
    refine h.gone (fun m hm => ?_) msg hmsg
    by_contra hsel
    rw [not_eq_false] at hsel
    rw [hnone m (hsup m hm hsel)] at hsel
    exact false_ne_true hsel

lemma Moved.told (hmoved : Moved st st' k l) (hk : k.safi = .unicast) (h : ∀ p, Told st p)
    (hother : ∀ p, p ≠ k.p → st'.lastSent p = st.lastSent p)
    (hhere : l = st'.marks ⟨.unicast, k.p⟩ → Told st' k.p) : ∀ p, Told st' p := by
  intro p
  by_cases hp : p = k.p
  · rw [hp]
    exact hhere (by rw [← key_eq hk, hmoved.here])
  · refine (h p).frame (hmoved.other _ fun heq => hp ?_) (hother p hp)
    rw [← heq]

section
variable (h : AllTold st)
include h

lemma AllTold.ofMarks (hsound : Sound st') (htold : ∀ p, Told st' p) (hclient : st'.client = st.client)
    (hmarks : ∀ k, ∀ m ∈ st'.marks k, m ∈ st.marks k ∨
      (k.safi = .unicast ∧ m.type ≠ .system) ∧ (m.selected → m.distance ≠ distanceInfinity)) : AllTold st' := by
  refine ⟨hsound, htold, fun k m hm => ?_, fun k m hm => ?_, by rw [hclient]; exact h.client⟩
  · rcases hmarks k m hm with hm | hm
    · exact h.unicast k m hm
    · exact hm.1
  · rcases hmarks k m hm with hm | hm
    · exact h.distance k m hm
    · exact hm.2

lemma AllTold.moved (hmoved : Moved st st' k l) (hsound : Sound st') (htold : ∀ p, Told st' p)
    (hl : ∀ m ∈ l, m ∈ st.marks k ∨
      (k.safi = .unicast ∧ m.type ≠ .system) ∧ (m.selected → m.distance ≠ distanceInfinity)) : AllTold st' := by
  refine h.ofMarks hsound htold hmoved.client fun k' m hm => ?_
  by_cases heq : k' = k
  · subst heq
    rw [hmoved.here] at hm
    exact hl m hm
  · rw [hmoved.other k' heq] at hm
    exact .inl hm

lemma AllTold.setMark (hmem : m ∈ st.marks k) (b : Bool)
    (hmoved : Moved st st' k (setMark (m.withSelected b) (st.marks k))) (hsound : Sound st')
    (hdist : b → m.distance ≠ distanceInfinity) (habout : msg.About k.p m)
    (hsent : st'.sent = msg :: st.sent)
    (hhere : setMark (m.withSelected b) (st.marks k) = st'.marks ⟨.unicast, k.p⟩ → Told st' k.p) : AllTold st' := by
  refine h.moved hmoved hsound (hmoved.told (h.unicast k m hmem).1 h.told (fun p hp => ?_) hhere) fun x hx => ?_
  · exact lastSent_cons_of_ne hsent fun heq => hp (heq.symm.trans habout.1)
  · rcases mem_setMark hx with rfl | ⟨hx, -⟩
    · exact .inr ⟨h.unicast k m hmem, hdist⟩
    · exact .inl hx

lemma AllTold.link (hmoved : Moved st st' k (m :: st.marks k)) (hsound : Sound st')
    (hsel : m.selected = false) (hsent : st'.sent = st.sent) (hk : k.safi = .unicast)
    (htype : m.type ≠ .system) : AllTold st' := by
  have hlast : ∀ p, st'.lastSent p = st.lastSent p := fun p => by rw [lastSent, hsent]; rfl
  refine h.moved hmoved hsound (hmoved.told hk h.told (fun p _ => hlast p) fun hl => ?_) fun x hx => ?_
  · have hkey := key_eq hk
    refine (h.told k.p).ofSelected (fun x hx hxs => ?_) (fun x hx _ => ?_) (hlast _)
    · rw [← hl] at hx
      rcases mem_cons.mp hx with rfl | hx
      · rw [hsel] at hxs
        exact absurd hxs false_ne_true
      · rw [← hkey]
        exact hx
    · rw [← hl]
      rw [← hkey] at hx
      exact mem_cons_of_mem _ hx
  · rcases mem_cons.mp hx with rfl | hx
    · exact .inr ⟨⟨hk, htype⟩, fun hxs => absurd (hsel.symm.trans hxs) false_ne_true⟩
    · exact .inl hx

lemma AllTold.unlink {addr : Nat} (hmoved : Moved st st' k ((st.marks k).filter fun m => m.addr ≠ addr))
    (hsound : Sound st') (hsel : ∀ m ∈ st.marks k, m.addr = addr → m.selected = false)
    (hsent : st'.sent = st.sent) : AllTold st' := by
  have hlast : ∀ p, st'.lastSent p = st.lastSent p := fun p => by rw [lastSent, hsent]; rfl
  refine h.moved hmoved hsound (fun p => ?_) fun x hx => .inl (mem_filter.mp hx).1
  by_cases hp : (⟨.unicast, p⟩ : NodeKey) = k
  · refine (h.told p).ofSelected (fun x hx _ => ?_) (fun x hx hxs => ?_) (hlast p)
    · rw [hp, hmoved.here] at hx
      rw [hp]
      exact (mem_filter.mp hx).1
    · rw [hp] at hx
      rw [hp, hmoved.here]
      refine mem_filter.mpr ⟨hx, decide_eq_true fun heq => ?_⟩
      rw [hsel x hx heq] at hxs
      exact false_ne_true hxs
  · exact (h.told p).frame (hmoved.other _ hp) (hlast p)

section
variable (hmem : m ∈ st.marks k)
include hmem

lemma AllTold.deselect (hsel : m.selected)
    (hmoved : Moved st st' k (Rtable.setMark (m.withSelected false) (st.marks k)))
    (hsound : Sound st') (hadd : msg.add = false) (habout : msg.About k.p m)
    (hsent : st'.sent = msg :: st.sent) : AllTold st' := by
  refine h.setMark hmem false hmoved hsound (fun hb => absurd hb false_ne_true) habout hsent fun hl => ?_
  refine ⟨fun x hx hxs => ?_, fun _ msg' hmsg' => ?_⟩
  · rw [← hl] at hx
    rw [(h.sound k).none_of_deselect hmem hsel x hx] at hxs
    exact absurd hxs false_ne_true
  · rw [lastSent_cons_self hsent habout.1] at hmsg'
    rw [← Option.some.inj hmsg']
    exact hadd

lemma AllTold.select (hnone : ∀ m' ∈ st.marks k, m'.selected = false)
    (hdist : m.distance ≠ distanceInfinity)
    (hmoved : Moved st st' k (Rtable.setMark (m.withSelected true) (st.marks k)))
    (hsound : Sound st') (hadd : msg.add) (habout : msg.About k.p m)
    (hsent : st'.sent = msg :: st.sent) : AllTold st' := by
  refine h.setMark hmem true hmoved hsound (fun _ => hdist) habout hsent fun hl => ?_
  refine ⟨fun x hx hxs => ⟨msg, lastSent_cons_self hsent habout.1, hadd, ?_⟩, fun hgone => ?_⟩
  · rw [← hl] at hx
    rcases mem_setMark hx with rfl | ⟨hx, -⟩
    · exact habout
    · rw [hnone x hx] at hxs
      exact absurd hxs false_ne_true
  · rw [← hl] at hgone
    have hin : m.withSelected true ∈ Rtable.setMark (m.withSelected true) (st.marks k) :=
      mem_map.mpr ⟨m, hmem, if_pos rfl⟩
    exact absurd (hgone _ hin) (by simp [Mark.withSelected])

lemma AllTold.refresh (hsel : m.selected) (hmarks : ∀ k, st'.marks k = st.marks k)
    (hclient : st'.client = st.client) (hsound : Sound st') (hadd : msg.add) (habout : msg.About k.p m)
    (hsent : st'.sent = msg :: st.sent ∨ ∃ del : RouteMessage, del.p = k.p ∧ st'.sent = msg :: del :: st.sent) :
    AllTold st' := by
  refine h.ofMarks hsound (fun p => ?_) hclient fun k m hm => .inl (hmarks k ▸ hm)
  have hkey := key_eq (h.unicast k m hmem).1
  by_cases hp : p = k.p
  · have hlast : st'.lastSent p = some msg := by
      rcases hsent with hsent | ⟨del, -, hsent⟩ <;> exact lastSent_cons_self hsent (habout.1.trans hp.symm)
    refine ⟨fun x hx hxs => ⟨msg, hlast, hadd, ?_⟩, fun hgone => ?_⟩
    · rw [hp, ← hkey, hmarks] at hx
      rw [hp, (h.sound k).eq_of_addr hx hmem ((h.sound k).one x hx m hmem hxs hsel)]
      exact habout
    · rw [hp, ← hkey, hmarks] at hgone
      rw [hgone m hmem] at hsel
      exact absurd hsel false_ne_true
  · refine (h.told p).frame (hmarks _) ?_
    have hmsg : msg.p ≠ p := fun heq => hp (heq.symm.trans habout.1)
    rcases hsent with hsent | ⟨del, hdel, hsent⟩
    · exact lastSent_cons_of_ne hsent hmsg
    · rw [lastSent, hsent, List.find?_cons_of_neg (by simp [hmsg]),
        List.find?_cons_of_neg (by simpa [hdel] using Ne.symm hp)]
      rfl

end

lemma AllTold.move {κ : MoveKind} (hmove : Move κ st st') (hlose : κ ≠ .lose)
    (hlink : ∀ safi type, κ = .link safi type → safi = .unicast ∧ type ≠ .system) : AllTold st' := by
  have hsound := hmove.sound h.sound
  cases hmove with
  | quiet hmarks hclient hfresh hsent =>
    refine h.ofMarks hsound (fun p => ?_) hclient fun k m hm => .inl (hmarks k ▸ hm)
    exact (h.told p).frame (hmarks _) (by rw [lastSent, hsent]; rfl)
  | link k m hmoved haddr hfresh hsel hsent =>
    obtain ⟨hk, htype⟩ := hlink _ _ rfl
    exact h.link hmoved hsound hsel hsent hk htype
  | unlink k addr hmoved hsel hfresh hsent => exact h.unlink hmoved hsound hsel hsent
  | deselect k m hmem hsel hmoved hfresh hsent =>
    obtain ⟨msg, hadd, habout, hsent⟩ := hsent (h.distance k m hmem hsel) (h.wanted hmem)
    exact h.deselect hmem hsel hmoved hsound hadd habout hsent
  | lose => exact absurd rfl hlose
  | select k m hmem hnone hdist hmoved hfresh hsent =>
    obtain ⟨msg, hadd, habout, hsent⟩ := hsent (h.wanted hmem)
    exact h.select hmem hnone hdist hmoved hsound hadd habout hsent
  | refresh k m hmem hsel hmarks hclient hfresh hsent =>
    obtain ⟨msg, hadd, habout, hsent⟩ := hsent (h.wanted hmem)
    exact h.refresh hmem hsel hmarks hclient hsound hadd habout hsent

lemma AllTold.moves {K : MoveKind → Prop} (hmoves : Moves K st st') (hlose : ¬K .lose)
    (hlink : ∀ safi type, K (.link safi type) → safi = .unicast ∧ type ≠ .system) : AllTold st' := by
  induction hmoves with
  | refl => exact h
  | tail _ hlast ih =>
    obtain ⟨κ, hκ, hmove⟩ := hlast
    exact ih.move hmove (fun heq => hlose (heq ▸ hκ)) fun safi type heq => hlink safi type (heq ▸ hκ)

end

end moves

/-- The event is proper, adds no entry that the client does not hear of, and takes no mark away silently. -/
structure Audible (st : Rtable) (e : Event) : Prop where
  proper : e.Proper
  links : ∀ safi type, e.Links safi type → safi = .unicast ∧ type ≠ .system
  loses : ¬Loses st e

lemma AllTold.step (h : AllTold st) (he : Audible st e) :
    ∃ st', st.step e = some st' ∧ AllTold st' := by
  by_cases hqueue : ∃ env, e = .queueRun env
  · obtain ⟨env, rfl⟩ := hqueue
    obtain ⟨st', hstep, hmoves⟩ := step_queue env h.sound
    exact ⟨st', hstep, h.moves hmoves nofun nofun⟩
  obtain ⟨st', hstep, hmoves⟩ := step_outside h.sound he.proper fun env h => hqueue ⟨env, h⟩
  refine ⟨st', hstep, h.moves hmoves (fun hκ => ?_) fun safi type hκ => ?_⟩
  · cases hκ with
    | lose hloses => exact he.loses hloses
  · cases hκ with
    | link hlinks => exact he.links safi type hlinks

lemma allTold_ribInit (table : Nat) {client : Client}
    (hclient : ∀ type, type ≠ .system → client.redist type) :
    AllTold (ribInit table client) where
  sound := sound_ribInit table client
  told _ := ⟨fun _ h => absurd h not_mem_nil, fun _ _ h => absurd h (by simp [lastSent, ribInit])⟩
  unicast _ _ h := absurd h not_mem_nil
  distance _ _ h := absurd h not_mem_nil
  client := hclient

/-- In every run of events that the client can hear of, what it was told last of each prefix is the selected
entry. -/
theorem redistribute_follows_selected (table : Nat) (client : Client)
    (hclient : ∀ type, type ≠ .system → client.redist type) (events : List Event)
    (he : PartialStepsOk step Audible (ribInit table client) events) :
    ∃ st, events.foldlM step (ribInit table client) = some st ∧ ∀ p, Announced st p := by
  have hstep (st : Rtable) (e : Event) (h : AllTold st) (he : Audible st e) :
      ∃ st', st.step e = some st' ∧ AllTold st' := h.step he
  obtain ⟨st, hrun, h⟩ := he.inv hstep (allTold_ribInit table hclient)
  exact ⟨st, hrun, fun p => (h.told p).announced⟩

lemma not_loses_of_deletion (h : e.deletion = none) : ¬Loses st e := by
  rintro ⟨d, hd, -⟩
  rw [h] at hd
  exact absurd hd (by simp)

theorem redistribute_follows_selected_rip :
    ∃ st, [.interfaces [⟨1, "eth0", true⟩], .zreadIpv4Add (exampleRoute 4 0), .queueRun exampleEnv].foldlM step
        (ribInit 254 exampleClient) = some st ∧
      ∀ p, Announced st p := by
  refine redistribute_follows_selected 254 exampleClient (fun type h => decide_eq_true h) _
    ⟨⟨trivial, fun _ _ h => h, not_loses_of_deletion rfl⟩, fun _ _ => ⟨⟨?_, ?_, not_loses_of_deletion rfl⟩,
      fun _ _ => ⟨⟨trivial, fun _ _ h => h, not_loses_of_deletion rfl⟩, fun _ _ => trivial⟩⟩⟩
  · exact ⟨by decide, by decide, by decide⟩
  · rintro safi type ⟨hsafi, htype⟩
    have hsafi' : some (some Safi.unicast) = some (some safi) := hsafi
    have htype' : some RouteType.rip = some type := htype
    cases hsafi'
    cases htype'
    exact ⟨rfl, by decide⟩

/-- The queue is empty, nothing is selected, and the client has been told of a route last. -/
def staleAt (p : RoutePrefix) (st : Rtable) : Bool :=
  ((List.finRange 5).all fun i => (st.subq i).isEmpty) && ((st.nodes ⟨.unicast, p⟩).all fun r => !r.flags.selected) &&
    (st.lastSent p).any (·.add)

/-- The kernel deletes the route of a daemon, or a daemon adds a multicast route. -/
theorem redistribute_stale :
    ([.interfaces [⟨1, "eth0", true⟩], .zreadIpv4Add (exampleRoute 4 0), .queueRun exampleEnv,
      .kernelDelete exampleKey.p none 0].foldlM step (ribInit 254 exampleClient)).any (staleAt exampleKey.p) ∧
    ([.interfaces [⟨1, "eth0", true⟩], .zreadIpv4Add { exampleRoute 4 0 with safi := 2 }, .queueRun exampleEnv].foldlM
      step (ribInit 254 exampleClient)).any (staleAt exampleKey.p) := by
  refine ⟨by decide, by decide⟩

end OspfMdr.Zebra.Rtable
