import OspfMdr.Lib.DiffSync
import OspfMdr.Lib.Run
import OspfMdr.Proofs.HelloSender

/-!
# Differential Hellos keep a receiver in step

The receiver's view of the sender is a copy by differences (`Lib.DiffSync`): a full Hello replaces it, and
a differential one brings every router whose type has changed in the last `HelloRepeatCount` Hellos.
-/

namespace OspfMdr.Ospf6

open Lib List

/-- No wrap, fewer than `HelloRepeatCount` losses in a row, lists that fit into a Hello, and no neighbor in
state Down at a differential Hello that was reported in one of the last `HelloRepeatCount` Hellos. -/
@[mk_iff]
structure HelloOk (iobuflen : Nat) (s : HelloSys) (delivered : Bool) : Prop where
  hsn_lt : s.oi.hsn.toNat + 1 < 2 ^ 16
  loss : delivered = false → s.synced → s.lost + 1 < s.oi.helloRepeatCount.toNat
  fits : (sentLists s.oi).Encodable iobuflen
  down : isDiffHello s.oi → ∀ on ∈ s.oi.neighborList, on.state = .down →
    ∀ k < s.oi.hsn.toNat, s.oi.hsn.toNat ≤ k + s.oi.helloRepeatCount.toNat →
      ¬Reported (s.sent k on.routerId)

/-- The condition on an event is one on the Hellos only. -/
def HelloStepOk (iobuflen : Nat) (s : HelloSys) (e : HelloEvent) : Prop :=
  ∀ delivered, e = .hello delivered → HelloOk iobuflen s delivered

/-- The sender's lists carry what it announced, and the receiver's view is a copy of them by differences. -/
structure HelloInv (s : HelloSys) : Prop where
  sender : SenderInv s.oi s.sent
  repeats : 0 < s.oi.helloRepeatCount.toNat
  view : s.synced → DiffSync s.oi.helloRepeatCount.toNat s.sent s.oi.hsn.toNat s.lost
    s.on.Reports

section run

variable {own : UInt32} {helloRepeatCount : UInt16} {iobuflen : Nat} {s : HelloSys} {delivered : Bool}

/-- What has been sent under each sequence number, with the next Hello. -/
def sentNext (s : HelloSys) : Nat → UInt32 → Nat :=
  Function.update s.sent s.oi.hsn.toNat
    (listTypeOf (s.oi.neighborList.map (updateListType s.oi.hsn)))

lemma sentNext_old {k : Nat} (hk : k < s.oi.hsn.toNat) : sentNext s k = s.sent k :=
  Function.update_of_ne (by omega) _ _

lemma sentNext_now : sentNext s s.oi.hsn.toNat =
    listTypeOf (s.oi.neighborList.map (updateListType s.oi.hsn)) :=
  Function.update_self ..

lemma hsn_succ (h : HelloOk iobuflen s delivered) : (s.oi.hsn + 1).toNat = s.oi.hsn.toNat + 1 := by
  rw [UInt16.toNat_add]
  exact Nat.mod_eq_of_lt h.hsn_lt

lemma sendHello_view (h : HelloInv s) (hok : HelloOk iobuflen s true)
    (hsync : (sendHello own helloRepeatCount s true).synced) :
    DiffSync s.oi.helloRepeatCount.toNat (sentNext s) (s.oi.hsn.toNat + 1) 0
      (sendHello own helloRepeatCount s true).on.Reports := by
  have hfit := hok.fits.counts
  unfold sentLists at hfit
  cases hdiff : isDiffHello s.oi
  · rw [hdiff] at hfit
    obtain ⟨on1, hon⟩ : ∃ on1, (sendHello own helloRepeatCount s true).on =
        (processFullLists own (ospf6MdrCreateNeighborLists s.oi false).2 on1).1 := by
      simp only [sendHello, if_true, ospf6MdrHelloSend, hdiff, ospf6MdrHelloRecv]
      erw [decodeHello_encodeHello s.oi false hfit]
      exact ⟨_, rfl⟩
    refine DiffSync.full h.repeats fun x => ?_
    rw [hon, sentNext_now]
    exact h.sender.reports_of_full own on1
  · rw [hdiff] at hfit
    obtain ⟨on1, hsame, hon⟩ : ∃ on1, (∀ x, s.on.SameAt on1 x) ∧ (sendHello own helloRepeatCount s true).on =
        (processDiffLists own (ospf6MdrCreateNeighborLists s.oi true).2 on1).on := by
      simp only [sendHello, if_true, ospf6MdrHelloSend, hdiff, ospf6MdrHelloRecv]
      erw [decodeHello_encodeHello s.oi true hfit]
      refine ⟨_, ?_, rfl⟩
      exact fun _ => ⟨Iff.rfl, Iff.rfl, Iff.rfl⟩
    have hsynced : s.synced := by
      simpa [sendHello, ospf6MdrHelloSend, encodeHello, hdiff] using hsync
    refine ((h.view hsynced).congr_sent fun k hk => sentNext_old hk).deliver fun x => ?_
    rw [hon, sentNext_now]
    by_cases hx : x ∈ (ospf6MdrCreateNeighborLists s.oi true).2.rids
    · exact .inl (h.sender.reports_of_mem own on1 hx)
    have hsame1 := (processDiffLists_spec x own _ on1).2.2.2.2 hx
    refine .inr ⟨fun t ht => (ht.of_same (hsame x)).of_same hsame1, fun k hk hrepeat hk' => ?_⟩
    rw [sentNext_old hk] at hk'
    exact h.sender.reports_of_not_mem h.repeats (hok.down hdiff) hx hk hrepeat hk'

lemma sendHello_inv (h : HelloInv s) (hok : HelloOk iobuflen s delivered) :
    HelloInv (sendHello own helloRepeatCount s delivered) := by
  have hsend : SenderInv (ospf6MdrHelloSend s.oi).1 (sentNext s) :=
    h.sender.send (isDiffHello s.oi) rfl rfl rfl (hsn_succ hok) (fun k hk => sentNext_old hk)
      sentNext_now
  cases delivered
  · refine ⟨hsend, h.repeats, fun hsync => (hsn_succ hok).symm ▸ ?_⟩
    exact ((h.view hsync).congr_sent fun k hk => sentNext_old hk).lose (hok.loss rfl hsync)
  · exact ⟨hsend, h.repeats, fun hsync => (hsn_succ hok).symm ▸ sendHello_view h hok hsync⟩

lemma helloStep_inv (h : HelloInv s) (e : HelloEvent)
    (hok : HelloStepOk iobuflen s e) :
    HelloInv (helloStep own helloRepeatCount s e) := by
  cases e with
  | create routerId =>
    rw [helloStep]
    split_ifs with hx
    · exact h
    · exact ⟨h.sender.create (by simpa using hx), h.repeats, h.view⟩
  | delete routerId =>
    rw [helloStep]
    split_ifs with hx
    · exact ⟨h.sender.delete hx, h.repeats, h.view⟩
    · exact h
  | change routerId state dependent selAdv reverse2way =>
    exact ⟨h.sender.change state dependent selAdv reverse2way, h.repeats, h.view⟩
  | peerState state => exact ⟨h.sender, h.repeats, h.view⟩
  | hello delivered => exact sendHello_inv h (hok delivered rfl)

lemma helloRun_inv {events : List HelloEvent} (h : HelloInv s)
    (hok : StepsOk (helloStep own helloRepeatCount) (HelloStepOk iobuflen) s events) :
    HelloInv (helloRun own helloRepeatCount s events) := by
  have hstep (s : HelloSys) (e : HelloEvent) (h : HelloInv s) (hok : HelloStepOk iobuflen s e) :
      HelloInv (helloStep own helloRepeatCount s e) := helloStep_inv h e hok
  exact hok.inv hstep h

lemma helloInit_inv (adjConnectivity : AdjConnectivity) (twoHopRefresh repeats : UInt16)
    (hrepeats : 0 < repeats) (on : HelloPeer) :
    HelloInv (helloInit adjConnectivity twoHopRefresh repeats on) := by
  refine ⟨⟨nodup_nil, nodup_nil, ?_, ?_, ?_, ?_⟩, hrepeats,
    fun h => absurd h Bool.false_ne_true⟩
  · exact fun _ hon => absurd hon not_mem_nil
  · exact fun _ hon => absurd hon not_mem_nil
  · exact fun _ he => absurd he not_mem_nil
  · exact fun _ _ _ k hk => absurd hk (Nat.not_lt_zero k)

end run

/-- After each delivered Hello since the first full one, a receiver has the sender's lists of that moment. -/
theorem helloRun_exact (own : UInt32) (helloRepeatCount : UInt16) (iobuflen : Nat)
    (adjConnectivity : AdjConnectivity) (twoHopRefresh repeats : UInt16) (hrepeats : 0 < repeats)
    (on : HelloPeer) (events : List HelloEvent)
    (hok : StepsOk (helloStep own helloRepeatCount) (HelloStepOk iobuflen)
      (helloInit adjConnectivity twoHopRefresh repeats on) (events ++ [.hello true]))
    (hsync : (helloRun own helloRepeatCount (helloInit adjConnectivity twoHopRefresh repeats on)
      (events ++ [.hello true])).synced) (x : UInt32) :
    let s := helloRun own helloRepeatCount (helloInit adjConnectivity twoHopRefresh repeats on) events
    let s' := helloStep own helloRepeatCount s (.hello true)
    (x ∈ s'.on.rnl ↔ ∃ n ∈ s.oi.neighborList, n.routerId = x ∧ Reported (ospf6MdrHelloListType n)) ∧
    (x ∈ s'.on.dnl ↔ ∃ n ∈ s.oi.neighborList, n.routerId = x ∧ ospf6MdrHelloListType n = 3) ∧
    (x ∈ s'.on.sanl ↔ ∃ n ∈ s.oi.neighborList, n.routerId = x ∧ ospf6MdrHelloListType n = 4) := by
  intro s s'
  obtain ⟨hevents, hlast⟩ := stepsOk_append.mp hok
  have hinv : HelloInv s :=
    helloRun_inv (helloInit_inv adjConnectivity twoHopRefresh repeats hrepeats on) hevents
  have hsync' : s'.synced := by
    rw [helloRun, foldl_append] at hsync
    exact hsync
  have hview := (sendHello_view hinv (hlast.1 true rfl) hsync').agrees x
  have htype : ∀ t, t ≠ 0 → (sentNext s (s.oi.hsn.toNat + 1 - 1 - 0) x = t ↔
      ∃ n ∈ s.oi.neighborList, n.routerId = x ∧ ospf6MdrHelloListType n = t) := by
    intro t ht
    rw [Nat.add_sub_cancel, Nat.sub_zero, sentNext_now]
    exact listTypeOf_map_updateListType_iff hinv.sender.ids s.oi.hsn ht
  obtain ⟨hrnl, hdnl, hsanl⟩ := hview
  refine ⟨hrnl.trans ?_, hdnl.trans (htype 3 (by omega)), hsanl.trans (htype 4 (by omega))⟩
  rw [htype 3 (by omega), htype 4 (by omega), htype 5 (by omega)]
  simp only [Reported, and_or_left, exists_or]

instance (iobuflen : Nat) (s : HelloSys) (delivered : Bool) : Decidable (HelloOk iobuflen s delivered) :=
  decidable_of_iff _ (helloOk_iff iobuflen s delivered).symm

instance (iobuflen : Nat) (s : HelloSys) (e : HelloEvent) : Decidable (HelloStepOk iobuflen s e) :=
  inferInstanceAs (Decidable (∀ delivered, e = .hello delivered → HelloOk iobuflen s delivered))

def newPeer : HelloPeer := ⟨.down, 0, 0, false, false, false, [], [], []⟩

def lossyEvents : List HelloEvent :=
  [.create 1, .change 1 .twoway false false true, .create 2, .change 2 .twoway false true true,
    .hello true, .change 1 .full true false true, .hello false, .delete 2, .hello false,
    .create 3, .change 3 .init false false false]

theorem helloRun_exact_lossyEvents :
    let init := helloInit .biConnected 5 3 newPeer
    let s := helloRun 9 3 init lossyEvents
    let s' := helloStep 9 3 s (.hello true)
    StepsOk (helloStep 9 3) (HelloStepOk 1500) init (lossyEvents ++ [.hello true]) ∧ s'.synced ∧ s'.on.rnl = [1] ∧
    ∀ x, (x ∈ s'.on.rnl ↔ ∃ n ∈ s.oi.neighborList, n.routerId = x ∧
        Reported (ospf6MdrHelloListType n)) ∧
      (x ∈ s'.on.dnl ↔ ∃ n ∈ s.oi.neighborList, n.routerId = x ∧ ospf6MdrHelloListType n = 3) ∧
      (x ∈ s'.on.sanl ↔ ∃ n ∈ s.oi.neighborList, n.routerId = x ∧ ospf6MdrHelloListType n = 4) :=
  ⟨by decide +kernel, by decide +kernel, by decide +kernel,
    helloRun_exact 9 3 1500 .biConnected 5 3 (by decide) newPeer lossyEvents (by decide +kernel)
      (by decide +kernel)⟩

/-- A neighbor that is created again before its loss was announced and is still in state Down
stays in the receiver's lists. -/
def recreateEvents : List HelloEvent :=
  [.create 1, .change 1 .twoway false false true, .hello true, .delete 1, .create 1]

/-- A neighbor that was deleted and created again stays in the list of the receiver. -/
theorem helloRun_not_exact :
    let s := helloRun 9 3 (helloInit .biConnected 5 3 newPeer) recreateEvents
    let s' := helloStep 9 3 s (.hello true)
    s'.synced ∧ s'.lost = 0 ∧ s.oi.hsn = 1 ∧ 1 ∈ s'.on.rnl ∧
      s.oi.neighborList.map (fun n => (n.routerId, ospf6MdrHelloListType n)) = [(1, 1)] := by
  decide +kernel

end OspfMdr.Ospf6
