import OspfMdr.Proofs.Lsdb

namespace OspfMdr.Ospf6
open Lib List Function Option NodeTable UInt32 Lsdb LsaMap

/-- The key whose node the call locks. -/
def LsdbOp.used (key : Nat → LsaKey) : LsdbOp → Option LsaKey
  | .add i => some (key i)
  | .remove _ => none
  | .lookup k => some k

def LsdbOp.added (key : Nat → LsaKey) : LsdbOp → Option LsaKey
  | .add i => some (key i)
  | .remove _ => none
  | .lookup _ => none

/-- The LSAs as they are before they are added to a database. -/
def NewLsas (key : Nat → LsaKey) (lsas : Nat → DbLsa) : Prop :=
  ∀ i, (lsas i).key = key i ∧ (lsas i).lock = 0 ∧ (lsas i).freed = false

/-- No key is used so often that the lock of its node comes round, and there are not too many keys. -/
structure LsdbRunOk (key : Nat → LsaKey) (ops : List LsdbOp) : Prop where
  uses : ∀ k, (ops.filterMap (LsdbOp.used key)).count k + 1 < 2 ^ 32
  keys : (ops.filterMap (LsdbOp.added key)).dedup.length < 2 ^ 32

namespace Lsdb

variable {key : Nat → LsaKey} {l : Lsdb} {A A' : LsaMap} {uses : List Bool → Nat} {T : BinTree Nat}
  {ops : List LsdbOp} {op : LsdbOp}

/-- How often the node of each key has been locked after the call. -/
def usesAfter (key : Nat → LsaKey) (uses : List Bool → Nat) (op : LsdbOp) : List Bool → Nat :=
  match op.used key with
  | some k => bump uses k.bits
  | none => uses

lemma usesAfter_eq (k : List Bool) :
    usesAfter key uses op k = uses k + ((op.used key).toList.map LsaKey.bits).count k := by
  unfold usesAfter
  cases op.used key with
  | none => simp
  | some k' =>
    by_cases hk : k = k'.bits
    · simp [hk, bump]
    · have hk' : k'.bits ≠ k := Ne.symm hk
      simp [bump, hk, hk']

lemma step_spec (h : DbInv key l A uses T idle) (hstep : A.step key op = some A')
    (huses : ∀ k, usesAfter key uses op k + 1 < 2 ^ 32) :
    ∃ l' T', lsdbStep l op = some l' ∧ DbInv key l' A' (usesAfter key uses op) T' idle := by
  cases op with
  | add i =>
    simp only [step] at hstep
    split_ifs at hstep with hfreed
    cases hstep
    exact add_spec h (by simpa using hfreed) huses
  | remove i =>
    simp only [step] at hstep
    split_ifs at hstep with hmap
    cases hstep
    obtain ⟨S1, S2, hL⟩ := append_of_mem ((h.list.mem i).mpr hmap)
    obtain ⟨l', hl', hinv, -, -⟩ := remove_spec h hL (fun _ => Nat.zero_le 1) fun _ _ => rfl
    exact ⟨l', T, hl', hinv⟩
  | lookup k =>
    cases hstep
    have huse : uses k.bits + 1 < 2 ^ 32 := lt_of_le_of_lt (Nat.succ_le_succ (le_bump _)) (huses k.bits)
    obtain ⟨l', hl', hinv⟩ := lookup_spec h k huse
    refine ⟨l', T, ?_, hinv⟩
    rw [lsdbStep, hl']
    rfl

lemma run_spec (h : DbInv key l A uses T idle) (hrun : ops.foldlM (step key) A = some A')
    (huses : ∀ k, uses k + ((ops.filterMap (LsdbOp.used key)).map LsaKey.bits).count k + 1 < 2 ^ 32) :
    ∃ l' uses' T', lsdbRun l ops = some l' ∧ DbInv key l' A' uses' T' idle ∧ ∀ k, uses' k + 1 < 2 ^ 32 := by
  induction ops generalizing l A uses T with
  | nil =>
    cases hrun
    exact ⟨l, uses, T, rfl, h, by simpa using huses⟩
  | cons op ops ih =>
    obtain ⟨A1, hA1, hrun⟩ := bind_eq_some_iff.mp hrun
    have hsum : ∀ k, usesAfter key uses op k + ((ops.filterMap (LsdbOp.used key)).map LsaKey.bits).count k =
        uses k + (((op :: ops).filterMap (LsdbOp.used key)).map LsaKey.bits).count k := by
      intro k
      rw [usesAfter_eq, filterMap_cons]
      cases op.used key with
      | none => simp
      | some k' =>
        simp only [toList_some, map_cons, map_nil, count_cons, count_nil]
        omega
    have hstep : ∀ k, usesAfter key uses op k + 1 < 2 ^ 32 := by
      intro k
      have hk := huses k
      rw [← hsum] at hk
      omega
    obtain ⟨l1, T1, hl1, hinv⟩ := step_spec h hA1 hstep
    obtain ⟨l', uses', T', hl', hinv', huses'⟩ := ih hinv hrun fun k => by
      rw [hsum]
      exact huses k
    refine ⟨l', uses', T', ?_, hinv', huses'⟩
    rw [lsdbRun, foldlM_cons, hl1]
    exact hl'

lemma create_inv {lsas : Nat → DbLsa} (hnew : NewLsas key lsas) :
    DbInv key (ospf6LsdbCreate lsas) .empty (fun _ => 0) .nil idle := by
  refine ⟨⟨⟨rfl, trivial, nodup_nil, ?_, trivial, ?_⟩, fun i => (hnew i).1, ?_, trivial, ?_, ?_, rfl⟩, ?_, ?_, ?_⟩
  · simp [BinTree.pre]
  · simp [BinTree.pre]
  · simp [BinTree.pre]
  · simp [stored, BinTree.pre, empty]
  · simp [empty]
  · intro i
    change (lsas i).lock.toNat = 0
    rw [(hnew i).2.1]
    rfl
  · exact fun i => Nat.zero_le 3
  · intro i hi
    change (lsas i).freed = true at hi
    rw [(hnew i).2.2] at hi
    cases hi

lemma mem_added (hrun : ops.foldlM (step key) A = some A') {k : LsaKey} {i : Nat}
    (hk : A'.map k = some i) : A.map k = some i ∨ k ∈ ops.filterMap (LsdbOp.added key) := by
  induction ops generalizing A with
  | nil =>
    cases hrun
    exact .inl hk
  | cons op ops ih =>
    obtain ⟨A1, hA1, hrun⟩ := bind_eq_some_iff.mp hrun
    rcases ih hrun with hmap | hmem
    · cases op with
      | add j =>
        simp only [step] at hA1
        split_ifs at hA1
        cases hA1
        by_cases hkey : k = key j
        · exact .inr (by simp [LsdbOp.added, hkey])
        · simp only [add, update_of_ne hkey] at hmap
          exact .inl hmap
      | remove j =>
        simp only [step] at hA1
        split_ifs at hA1
        cases hA1
        by_cases hkey : k = key j
        · simp [remove, hkey] at hmap
        · simp only [remove, update_of_ne hkey] at hmap
          exact .inl hmap
      | lookup k' =>
        cases hA1
        exact .inl hmap
    · right
      rw [filterMap_cons]
      cases op.added key with
      | none => exact hmem
      | some k' => exact mem_cons_of_mem _ hmem

lemma DbInv.length_le (h : DbInv key l A uses T idle) {K : List LsaKey}
    (hK : ∀ k i, A.map k = some i → k ∈ K) : (stored l.table T).length ≤ K.dedup.length := by
  have hnodup : ((stored l.table T).map key).Nodup := by
    rw [List.Nodup, pairwise_map]
    refine h.list.sorted.imp fun hlt he => ?_
    rw [he] at hlt
    exact lt_irrefl _ hlt
  have hsub : (stored l.table T).map key ⊆ K.dedup := by
    intro k hk
    obtain ⟨i, hi, rfl⟩ := mem_map.mp hk
    exact mem_dedup.mpr (hK (key i) i ((h.list.mem i).mp hi))
  simpa using (subperm_of_subset hnodup hsub).length_le

end Lsdb

variable {key : Nat → LsaKey} {lsas : Nat → DbLsa} {ops : List LsdbOp} {A : LsaMap}

/-- After every run of calls in which no counter overflows the database is the map that the calls describe. -/
theorem lsdbRun_isMap (hnew : NewLsas key lsas) (hrun : ops.foldlM (step key) .empty = some A)
    (hok : LsdbRunOk key ops) :
    ∃ l L, lsdbRun (ospf6LsdbCreate lsas) ops = some l ∧ l.IsMap key A.map L := by
  have huses : ∀ k, 0 + ((ops.filterMap (LsdbOp.used key)).map LsaKey.bits).count k + 1 < 2 ^ 32 := by
    intro k
    by_cases hk : k ∈ (ops.filterMap (LsdbOp.used key)).map LsaKey.bits
    · obtain ⟨k', -, rfl⟩ := mem_map.mp hk
      rw [count_map_of_injective _ _ fun _ _ => LsaKey.bits_injective, zero_add]
      exact hok.uses k'
    · rw [count_eq_zero_of_not_mem hk]
      decide
  obtain ⟨l, uses, T, hl, hinv, huses'⟩ := run_spec (create_inv hnew) hrun huses
  refine ⟨l, stored l.table T, hl, hinv.isMap huses' ?_⟩
  refine lt_of_le_of_lt (hinv.length_le fun k i hk => ?_) hok.keys
  rcases mem_added hrun hk with hempty | hmem
  · simp [empty] at hempty
  · exact hmem

def routerKey (i : Nat) : LsaKey := ⟨0x2001, if i % 2 = 0 then 1 else 2, 0⟩

def newLsa (i : Nat) : DbLsa := ⟨routerKey i, none, none, 0, false⟩

theorem lsdbRun_isMap_replaced :
    ∃ A l L, [LsdbOp.add 1, .add 0, .add 2, .lookup (routerKey 0), .remove 1].foldlM (step routerKey) .empty =
        some A ∧
      lsdbRun (ospf6LsdbCreate newLsa) [.add 1, .add 0, .add 2, .lookup (routerKey 0), .remove 1] = some l ∧
      l.IsMap routerKey A.map L := by
  have hok : LsdbRunOk routerKey [.add 1, .add 0, .add 2, .lookup (routerKey 0), .remove 1] := by
    refine ⟨fun k => ?_, by decide⟩
    refine lt_of_le_of_lt (Nat.succ_le_succ count_le_length) ?_
    decide
  have hnew : NewLsas routerKey newLsa := fun _ => ⟨rfl, rfl, rfl⟩
  obtain ⟨l, L, hl, hmap⟩ := lsdbRun_isMap hnew rfl hok
  exact ⟨_, l, L, rfl, hl, hmap⟩

/-- A database with one LSA, whose node is locked `v` times. -/
def oneLsa (v : UInt32) : Lsdb :=
  { table := { nodes := update routeTableInit.nodes 0 ⟨(routerKey 0).bits, none, none, none, v, some 0⟩
               top := some 0
               fresh := 1 }
    count := 1
    lsas := update newLsa 0 { newLsa 0 with lock := 1 } }

section
variable (v : UInt32)
include v

lemma oneLsa_walk : (oneLsa v).table.walk (routerKey 0).bits = some (.found 0) := by
  unfold NodeTable.walk descend
  simp [oneLsa]

lemma oneLsa_lock : (oneLsa v).table.routeLockNode 0 = (oneLsa (v + 1)).table := by
  simp [oneLsa, NodeTable.routeLockNode, NodeTable.modify]

lemma oneLsa_info :
    ((oneLsa v).table.modify 0 fun n => { n with info := some 0 }) = (oneLsa v).table := NodeTable.modify_id rfl

lemma oneLsa_replace : ((oneLsa v).ospf6LsaLock 0).bind (fun l => (l.replaceLsa 0 0).bind fun l =>
    l.ospf6LsaUnlock 0) = some (oneLsa v) := by
  simp [oneLsa, newLsa, ospf6LsaLock, replaceLsa, ospf6LsaUnlock, write, write?]

/-- The walk of the count assertion locks the node and unlocks it, which deletes it if its lock came
round. -/
lemma oneLsa_unlock : ((oneLsa v).table.routeLockNode 0).routeUnlockNode 0 = if v = 0 then none else
    some (oneLsa v).table := by
  have hback : (oneLsa (v + 1)).table.modify 0 (fun n => { n with lock := n.lock - 1 }) = (oneLsa v).table := by
    simp [oneLsa, NodeTable.modify]
  rw [oneLsa_lock, NodeTable.routeUnlockNode]
  simp only [hback]
  by_cases hv : v = 0
  · subst hv
    rfl
  · have hlock : ((oneLsa v).table.nodes 0).lock ≠ 0 := hv
    rw [if_neg hlock, if_neg hv]

lemma oneLsa_assert : (oneLsa v).ospf6LsdbCountAssert = if v = 0 then none else some (oneLsa v) := by
  have hhead : (oneLsa v).ospf6LsdbHead = if v = 0 then none else
      (((oneLsa v).ospf6LsaLock 0).bind fun l => some (l, some 0)) := by
    have hfirst : firstNode ((oneLsa v).table.routeLockNode 0) 0 =
        some ((oneLsa v).table.routeLockNode 0, some 0) := rfl
    have hinfo : (((oneLsa v).table.routeLockNode 0).nodes 0).info = some 0 := rfl
    unfold ospf6LsdbHead
    change (firstNode ((oneLsa v).table.routeLockNode 0) 0).bind _ = _
    rw [hfirst, bind_some]
    simp only [oneLsa_unlock, hinfo]
    split_ifs <;> rfl
  unfold ospf6LsdbCountAssert
  rw [hhead]
  split_ifs with hv
  · rfl
  · simp [oneLsa, newLsa, ospf6LsaLock, write, write?, countLoop, ospf6LsdbNext,
      ospf6LsaUnlock]

lemma oneLsa_add : (oneLsa v).ospf6LsdbAdd 0 = if v + 1 = 0 then none else some (oneLsa (v + 1)) := by
  have hkey : ((oneLsa v).lsas 0).key = routerKey 0 := rfl
  have hlast : (oneLsa v).ospf6LsdbAdd 0 = (((oneLsa (v + 1)).ospf6LsaLock 0).bind fun l =>
      (l.replaceLsa 0 0).bind fun l => l.ospf6LsaUnlock 0).bind fun l => l.ospf6LsdbCountAssert := by
    unfold Lsdb.ospf6LsdbAdd
    rw [hkey, NodeTable.routeNodeGet, oneLsa_walk, map_some]
    have hinfo : (((oneLsa v).table.routeLockNode 0).nodes 0).info = some 0 := rfl
    simp only [bind_eq_bind, bind_some, hinfo, bind_assoc]
    rw [oneLsa_lock, oneLsa_info]
    rfl
  rw [hlast, oneLsa_replace, bind_some, oneLsa_assert]

end

lemma oneLsa_neighbors :
    neighborLsa routeNext (oneLsa 1).table 0 = some ((oneLsa 1).table, none) ∧
      neighborLsa routePrev (oneLsa 1).table 0 = some ((oneLsa 1).table, none) := by
  have hunlock : ((oneLsa 1).table.routeLockNode 0).routeUnlockNode 0 = some (oneLsa 1).table := oneLsa_unlock 1
  have hnext : ((oneLsa 1).table.routeLockNode 0).routeNext 0 = some ((oneLsa 1).table, none) := by
    have hlinks : ((oneLsa 1).table.routeLockNode 0).links.next
        (((oneLsa 1).table.routeLockNode 0).fresh + 1) 0 = some none := rfl
    simp [routeNext, hlinks, lockNode?, hunlock]
  have hprev : ((oneLsa 1).table.routeLockNode 0).routePrev 0 = some ((oneLsa 1).table, none) := by
    have hparent : (((oneLsa 1).table.routeLockNode 0).nodes 0).parent = none := rfl
    simp [routePrev, hparent, lockNode?, prevLoop, hunlock]
  constructor
  · simp [neighborLsa, skipEmpty, hnext]
  · simp [neighborLsa, skipEmpty, hprev]

lemma create_add : (ospf6LsdbCreate newLsa).ospf6LsdbAdd 0 = some (oneLsa 1) := by
  obtain ⟨t, hget, hnone, ht⟩ : ∃ t, routeTableInit.routeNodeGet (routerKey 0).bits = some (t, 0) ∧
      (t.nodes 0).info = none ∧ (t.modify 0 fun n => { n with info := some 0 }) = (oneLsa 1).table :=
    ⟨_, rfl, rfl, by simp [oneLsa, NodeTable.modify, NodeTable.routeLockNode, NodeTable.linkBelow, NodeTable.alloc,
      routeTableInit, routeNodeNew]⟩
  have hinsert : ((ospf6LsaLock ⟨(oneLsa 1).table, 0, newLsa⟩ 0).bind fun l => l.insertLsa 0 0) =
      some (oneLsa 1) := by
    simp [ospf6LsaLock, write, write?, newLsa, insertLsa, oneLsa_neighbors]
    simp [oneLsa, newLsa]
  have hlast : (ospf6LsdbCreate newLsa).ospf6LsdbAdd 0 =
      ((ospf6LsaLock ⟨(oneLsa 1).table, 0, newLsa⟩ 0).bind fun l => l.insertLsa 0 0).bind
        fun l => l.ospf6LsdbCountAssert := by
    unfold Lsdb.ospf6LsdbAdd
    change (routeTableInit.routeNodeGet (routerKey 0).bits).bind _ = _
    rw [hget]
    simp only [bind_eq_bind, bind_some, hnone, ht, bind_assoc]
    rfl
  rw [hlast, hinsert, bind_some, oneLsa_assert]
  rfl

lemma adds_eq (n : Nat) (hn : n + 1 < 2 ^ 32) : lsdbRun (ospf6LsdbCreate newLsa)
    (List.replicate (n + 1) (.add 0)) = some (oneLsa (ofNat (n + 1))) := by
  induction n with
  | zero =>
    change ((ospf6LsdbCreate newLsa).ospf6LsdbAdd 0).bind _ = _
    rw [create_add]
    rfl
  | succ n ih =>
    have hne : ofNat (n + 1) + 1 ≠ 0 := by
      intro hzero
      have hnat := congrArg toNat hzero
      rw [UInt32.toNat_add, UInt32.toNat_ofNat_of_lt' (by simpa using Nat.lt_of_succ_lt hn)] at hnat
      have hone : (n + 1 + toNat 1) % 2 ^ 32 = n + 1 + 1 := Nat.mod_eq_of_lt hn
      rw [hone] at hnat
      simp at hnat
    rw [lsdbRun, replicate_succ', foldlM_append]
    rw [lsdbRun] at ih
    rw [ih (by omega)]
    change ((oneLsa (ofNat (n + 1))).ospf6LsdbAdd 0).bind _ = _
    rw [oneLsa_add, if_neg hne, ofNat_add (n + 1)]
    rfl

lemma adds_legal (n : Nat) :
    ∃ A : LsaMap, (List.replicate n (LsdbOp.add 0)).foldlM (step routerKey) .empty = some A ∧
      A.freed 0 = false := by
  induction n with
  | zero => exact ⟨.empty, rfl, rfl⟩
  | succ n ih =>
    obtain ⟨A, hA, hfreed⟩ := ih
    refine ⟨A.add (routerKey 0) 0, ?_, ?_⟩
    · rw [replicate_succ', foldlM_append, hA]
      simp [step, hfreed]
    · simp [add, hfreed]

/-- After enough additions the lock count of the node comes round to 0. -/
theorem lsdbRun_adds_fail :
    (∃ A, (List.replicate (2 ^ 32) (LsdbOp.add 0)).foldlM (step routerKey) .empty = some A) ∧
      lsdbRun (ospf6LsdbCreate newLsa) (List.replicate (2 ^ 32) (.add 0)) = none := by
  obtain ⟨n, hn⟩ : ∃ n, 2 ^ 32 = n + 1 + 1 := ⟨2 ^ 32 - 2, rfl⟩
  rw [hn]
  refine ⟨?_, ?_⟩
  · obtain ⟨A, hA, -⟩ := adds_legal (n + 1 + 1)
    exact ⟨A, hA⟩
  · have hzero : ofNat (n + 1) + 1 = 0 := by
      have : ofNat (n + 1 + 1) = 0 := by rw [← hn]; rfl
      rwa [ofNat_add] at this
    have hadds := adds_eq n (by omega)
    rw [lsdbRun] at hadds
    rw [lsdbRun, replicate_succ', foldlM_append, hadds]
    change ((oneLsa (ofNat (n + 1))).ospf6LsdbAdd 0).bind _ = _
    rw [oneLsa_add, if_pos hzero]
    rfl

end OspfMdr.Ospf6
