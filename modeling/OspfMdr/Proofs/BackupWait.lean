import OspfMdr.Model.BackupWait
import OspfMdr.Proofs.HelloLists

namespace OspfMdr.Ospf6
open List

variable {own : UInt32} {nbrs : NeighborTable} {lsa lsa' : BackupWait} {on : BackupwaitNeighbor}
  {l : List BackupwaitNeighbor} {t : Bool}

/-- The timer runs exactly while a neighbor is waited for, and none is listed twice. -/
structure BackupWait.Sound (lsa : BackupWait) : Prop where
  armed : lsa.timer ↔ lsa.neighborList ≠ []
  nodup : lsa.neighborList.Nodup

lemma sound_delete : ospf6BackupwaitLsaDelete.Sound := ⟨by decide, nodup_nil⟩

lemma refresh_list :
    (ospf6RefreshLsaBackupwaitList nbrs lsa).neighborList = lsa.neighborList.filter nbrs.twoway := by
  dsimp only [ospf6RefreshLsaBackupwaitList]
  split_ifs with hl
  · exact hl.symm
  · rfl

lemma refresh_sound (hl : l.Nodup) (ht : l ≠ [] → t) :
    (ospf6RefreshLsaBackupwaitList nbrs ⟨t, l⟩).Sound := by
  refine ⟨?_, refresh_list ▸ hl.filter _⟩
  dsimp only [ospf6RefreshLsaBackupwaitList]
  split_ifs with hnil
  · exact sound_delete.armed
  · exact iff_of_true (ht fun hl => hnil (by rw [hl, filter_nil])) hnil

/-- The result is sound, and neighbors have left the list only for the reason. -/
structure Left (Reason : BackupwaitNeighbor → Prop) (lsa lsa' : BackupWait) : Prop where
  sound : lsa'.Sound
  reason : ∀ e ∈ lsa.neighborList, e ∉ lsa'.neighborList → Reason e

section reasons

variable {Reason : BackupwaitNeighbor → Prop}

lemma left_self (h : lsa.Sound) : Left Reason lsa lsa := ⟨h, fun _ he hnot => absurd he hnot⟩

lemma Left.trans {lsa'' : BackupWait} (h : Left Reason lsa lsa') (h' : Left Reason lsa' lsa'') :
    Left Reason lsa lsa'' := by
  refine ⟨h'.sound, fun e he hnot => ?_⟩
  by_cases hmem : e ∈ lsa'.neighborList
  · exact h'.reason e hmem hnot
  · exact h.reason e he hmem

variable (hlow : ∀ e, nbrs.twoway e = false → Reason e)
include hlow

lemma neighborDelete_left (h : lsa.Sound) (hon : Reason on) :
    Left Reason lsa (ospf6BackupwaitLsaNeighborDelete nbrs lsa on) := by
  have hne : lsa.neighborList.erase on ≠ [] → lsa.timer := by
    refine fun hne => h.armed.mpr fun hnil => hne ?_
    rw [hnil, erase_nil]
  refine ⟨refresh_sound (h.nodup.erase on) hne, fun e he hnot => ?_⟩
  rw [ospf6BackupwaitLsaNeighborDelete, refresh_list, mem_filter, h.nodup.mem_erase_iff] at hnot
  by_cases heon : e = on
  · rwa [heon]
  · exact hlow e (by simpa [heon, he] using hnot)

lemma lsaAdd_left (type : IfType) (h : lsa.Sound) :
    Left Reason lsa (ospf6BackupwaitLsaAdd nbrs type lsa on) := by
  unfold ospf6BackupwaitLsaAdd
  split_ifs
  · exact left_self h
  have hsound : (ospf6RefreshLsaBackupwaitList nbrs lsa).Sound := refresh_sound h.nodup h.armed.mpr
  have hlist : (ospf6RefreshLsaBackupwaitList nbrs lsa).neighborList = lsa.neighborList.filter nbrs.twoway :=
    refresh_list
  generalize ospf6RefreshLsaBackupwaitList nbrs lsa = lsa1 at hsound hlist
  have harmed : (if lsa1.timer then lsa1 else ⟨true, []⟩) = (⟨true, lsa1.neighborList⟩ : BackupWait) := by
    split_ifs with htimer
    · rw [← htimer]
    · rw [not_not.mp (mt hsound.armed.mpr htimer)]
  dsimp only
  rw [harmed]
  have hmem : ∀ e ∈ lsa.neighborList, e ∉ lsa1.neighborList → Reason e := fun e he hnot =>
    hlow e (by simpa [hlist, he] using hnot)
  split_ifs with hon
  · exact ⟨⟨iff_of_true rfl (ne_nil_of_mem hon), hsound.nodup⟩, hmem⟩
  · refine ⟨⟨by simp, ?_⟩, fun e he hnot => hmem e he fun hin => hnot (mem_append_left _ hin)⟩
    exact hsound.nodup.append (nodup_singleton on) (by simpa using hon)

end reasons

lemma expireNeighbors_queued {q : List UInt32} (htwo : ∀ e ∈ l, nbrs.twoway e) (x : BackupWait × List UInt32)
    (hx : l.foldl (fun x obn => (ospf6BackupwaitLsaNeighborDelete nbrs x.1 obn, addAbsent x.2 obn.ifindex))
        (ospf6RefreshLsaBackupwaitList nbrs ⟨false, l⟩, q) = x) :
    x.1 = ospf6BackupwaitLsaDelete ∧ (∀ i ∈ q, i ∈ x.2) ∧ ∀ e ∈ l, e.ifindex ∈ x.2 := by
  induction l generalizing q with
  | nil =>
    obtain rfl := hx
    exact ⟨rfl, fun _ => id, by simp⟩
  | cons obn l ih =>
    have htwo' : ∀ e ∈ l, nbrs.twoway e := fun e he => htwo e (mem_cons_of_mem obn he)
    have hrefresh : ospf6RefreshLsaBackupwaitList nbrs ⟨false, obn :: l⟩ = ⟨false, obn :: l⟩ := by
      simp only [ospf6RefreshLsaBackupwaitList, filter_eq_self.mpr htwo, reduceCtorEq, if_false]
    rw [foldl_cons, hrefresh, ospf6BackupwaitLsaNeighborDelete, erase_cons_head] at hx
    obtain ⟨hlsa, hq, hall⟩ := ih htwo' hx
    refine ⟨hlsa, fun i hi => hq i (mem_addAbsent.mpr (.inl hi)), fun e he => ?_⟩
    rcases mem_cons.mp he with rfl | he
    · exact hq _ (mem_addAbsent.mpr (.inr rfl))
    · exact hall e he

lemma expiration_queued (nbrs : NeighborTable) (lsa : BackupWait) :
    (ospf6BackupwaitExpiration nbrs lsa).1 = ospf6BackupwaitLsaDelete ∧ ∀ e ∈ lsa.neighborList,
      nbrs.twoway e → e.ifindex ∈ (ospf6BackupwaitExpiration nbrs lsa).2 := by
  have hsame : ospf6RefreshLsaBackupwaitList nbrs ⟨false, lsa.neighborList.filter nbrs.twoway⟩ =
      ospf6RefreshLsaBackupwaitList nbrs ⟨false, lsa.neighborList⟩ := by
    simp only [ospf6RefreshLsaBackupwaitList, filter_filter, Bool.and_self]
  obtain ⟨hlsa, -, hall⟩ := expireNeighbors_queued (q := []) (fun e he => (mem_filter.mp he).2)
    (ospf6BackupwaitExpiration nbrs lsa) (by rw [hsame, ospf6BackupwaitExpiration, refresh_list])
  exact ⟨hlsa, fun e he htwo => hall e (mem_filter.mpr ⟨he, htwo⟩)⟩

/-- Why the entry leaves the list: acknowledged or sent by the neighbor, covered by the sender, lost, or sent.
-/
def LeavesFor (nbrs : NeighborTable) (event : BackupwaitEvent) (queued : List UInt32)
    (e : BackupwaitNeighbor) : Prop :=
  event = .lsack .mdr true e ∨ (∃ multicast rnl, event = .receive .mdr true e multicast rnl) ∨
    (∃ sender rnl, event = .receive .mdr true sender true rnl ∧ e.ifindex = sender.ifindex ∧ e.routerId ∈ rnl) ∨
    nbrs.twoway e = false ∨ (event = .expiration ∧ e.ifindex ∈ queued)

lemma backupwaitStep_left (h : lsa.Sound) (event : BackupwaitEvent) :
    Left (fun e => LeavesFor nbrs event (backupwaitStep own nbrs lsa event).2 e ∨ event = .delete) lsa
      (backupwaitStep own nbrs lsa event).1 := by
  generalize hqueued : (backupwaitStep own nbrs lsa event).2 = queued
  have hlow : ∀ e, nbrs.twoway e = false → LeavesFor nbrs event queued e ∨ event = .delete :=
    fun e he => .inl (.inr (.inr (.inr (.inl he))))
  cases event with
  | flood type on => exact lsaAdd_left hlow type h
  | lsack type same on =>
    dsimp only [backupwaitStep]
    split
    · next hif =>
      obtain ⟨rfl, -, rfl⟩ := hif
      exact neighborDelete_left hlow h (.inl (.inl rfl))
    · exact left_self h
  | receive type same sender multicast rnl =>
    dsimp only [backupwaitStep]
    split
    · next hif =>
      obtain ⟨rfl, -, rfl⟩ := hif
      refine List.foldlRecOn _ _ (neighborDelete_left hlow h (.inl (.inr (.inl ⟨multicast, rnl, rfl⟩)))) ?_
      intro lsa' hleft id hid
      cases multicast with
      | false => cases hid
      | true =>
        unfold coverNeighbor
        split
        · refine hleft.trans (neighborDelete_left hlow hleft.sound ?_)
          exact .inl (.inr (.inr (.inl ⟨sender, rnl, rfl, rfl, hid⟩)))
        · exact hleft
    · exact left_self h
  | expiration =>
    dsimp only [backupwaitStep] at hqueued ⊢
    split
    · next htimer =>
      rw [if_pos htimer] at hqueued
      obtain ⟨hlsa, hall⟩ := expiration_queued nbrs lsa
      rw [hlsa]
      refine ⟨sound_delete, fun e he _ => ?_⟩
      cases htwo : nbrs.twoway e with
      | false => exact hlow e htwo
      | true => exact .inl (.inr (.inr (.inr (.inr ⟨rfl, hqueued ▸ hall e he htwo⟩))))
    · exact left_self h
  | delete => exact ⟨sound_delete, fun _ _ _ => .inr rfl⟩

lemma backupwaitRun_keeps (events : List (NeighborTable × BackupwaitEvent)) :
    (backupwaitRun own events).Sound :=
  List.foldlRecOn _ _ sound_delete fun _ h e _ => (backupwaitStep_left h e.2).sound

/-- In every run the timer is armed while neighbors are waited for, none of them twice, and each leaves
the list for a reason or with the LSA. -/
theorem backupwaitRun_sound (own : UInt32) (events : List (NeighborTable × BackupwaitEvent)) :
    (backupwaitRun own events).Sound ∧
    ∀ nbrs event, ∀ e ∈ (backupwaitRun own events).neighborList,
        e ∉ (backupwaitStep own nbrs (backupwaitRun own events) event).1.neighborList →
        LeavesFor nbrs event (backupwaitStep own nbrs (backupwaitRun own events) event).2 e ∨ event = .delete :=
  ⟨backupwaitRun_keeps events, fun _ event => (backupwaitStep_left (backupwaitRun_keeps events) event).reason⟩

def twowayTable : NeighborTable := fun _ => some .twoway

/-- The neighbor is no longer waited for when the LSA is deleted. -/
theorem backupwaitStep_delete_leaves : backupwaitRun 9 [(twowayTable, .flood .mdr ⟨1, 1⟩)] =
    ⟨true, [⟨1, 1⟩]⟩ ∧ backupwaitStep 9 twowayTable ⟨true, [⟨1, 1⟩]⟩ .delete = (⟨false, []⟩, []) ∧
    ¬LeavesFor twowayTable .delete [] ⟨1, 1⟩ := by
  refine ⟨by decide, rfl, ?_⟩
  simp [LeavesFor, show twowayTable.twoway ⟨1, 1⟩ = true by decide]

end OspfMdr.Ospf6
