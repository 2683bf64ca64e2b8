import OspfMdr.Model.Hello

/-!
# Waiting to flood in place of an MDR (`ospf6_mdr_flood.c`)

A backup waits before it floods an LSA; the LSA keeps the neighbors that it waits for and the timer.
An entry on an interface that is gone, where the source reads through a null pointer, counts as that
of a neighbor that is gone.
-/

namespace OspfMdr.Ospf6

structure BackupwaitNeighbor where
  routerId : UInt32
  ifindex : UInt32
  deriving DecidableEq, Repr

/-- The two fields of an LSA; a list that is not allocated is empty. -/
structure BackupWait where
  timer : Bool
  neighborList : List BackupwaitNeighbor
  deriving DecidableEq, Repr

/-- `ospf6_neighbor_lookup`, and the state of what is found. -/
abbrev NeighborTable := BackupwaitNeighbor → Option NeighborState

variable (own : UInt32) (nbrs : NeighborTable) (lsa : BackupWait)

def NeighborTable.twoway (on : BackupwaitNeighbor) : Bool :=
  (nbrs on).any fun state => state.IsTwoway

def ospf6BackupwaitLsaDelete : BackupWait := ⟨false, []⟩

def ospf6RefreshLsaBackupwaitList : BackupWait :=
  let l := lsa.neighborList.filter nbrs.twoway
  if l = [] then ospf6BackupwaitLsaDelete else { lsa with neighborList := l }

def ospf6BackupwaitLsaAdd (type : IfType) (lsa : BackupWait) (on : BackupwaitNeighbor) :
    BackupWait :=
  if type ≠ .mdr then lsa
  else
    let lsa := ospf6RefreshLsaBackupwaitList nbrs lsa
    let lsa := if lsa.timer then lsa else ⟨true, []⟩
    if on ∈ lsa.neighborList then lsa else { lsa with neighborList := lsa.neighborList ++ [on] }

def ospf6BackupwaitLsaNeighborDelete (on : BackupwaitNeighbor) : BackupWait :=
  ospf6RefreshLsaBackupwaitList nbrs { lsa with neighborList := lsa.neighborList.erase on }

/-- The second component are the interfaces on whose `lsupdate_list` the LSA is put. -/
def ospf6BackupwaitExpiration : BackupWait × List UInt32 :=
  let lsa := ospf6RefreshLsaBackupwaitList nbrs { lsa with timer := false }
  lsa.neighborList.foldl (fun x obn =>
    (ospf6BackupwaitLsaNeighborDelete nbrs x.1 obn, addAbsent x.2 obn.ifindex)) (lsa, [])

/-- An id that the sender reports; the loop ends when the timer is off. -/
def coverNeighbor (ifindex : UInt32) (lsa : BackupWait) (id : UInt32) : BackupWait :=
  if lsa.timer ∧ id ≠ own ∧ (nbrs ⟨id, ifindex⟩).isSome then
    ospf6BackupwaitLsaNeighborDelete nbrs lsa ⟨id, ifindex⟩
  else lsa

/-- What touches the wait of an LSA; `same` says that the instance received or acknowledged
is the one in the database. -/
inductive BackupwaitEvent
  | flood (type : IfType) (on : BackupwaitNeighbor)
  | lsack (type : IfType) (same : Bool) (on : BackupwaitNeighbor)
  | receive (type : IfType) (same : Bool) (sender : BackupwaitNeighbor) (multicast : Bool) (rnl : List UInt32)
  | expiration
  | delete

def backupwaitStep : BackupwaitEvent → BackupWait × List UInt32
  | .flood type on => (ospf6BackupwaitLsaAdd nbrs type lsa on, [])
  | .lsack type same on =>
    if type = .mdr ∧ lsa.timer ∧ same then (ospf6BackupwaitLsaNeighborDelete nbrs lsa on, []) else (lsa, [])
  | .receive type same sender multicast rnl =>
    if type = .mdr ∧ lsa.timer ∧ same then
      let lsa := ospf6BackupwaitLsaNeighborDelete nbrs lsa sender
      ((if multicast then rnl else []).foldl (coverNeighbor own nbrs sender.ifindex) lsa, [])
    else (lsa, [])
  | .expiration => if lsa.timer then ospf6BackupwaitExpiration nbrs lsa else (lsa, [])
  | .delete => (ospf6BackupwaitLsaDelete, [])

def backupwaitRun (events : List (NeighborTable × BackupwaitEvent)) : BackupWait :=
  events.foldl (fun lsa e => (backupwaitStep own e.1 lsa e.2).1) ospf6BackupwaitLsaDelete

end OspfMdr.Ospf6
