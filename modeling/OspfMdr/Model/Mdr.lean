import OspfMdr.Model.Basic

/-!
# The MDR calculation (`ospf6_mdr.c`)

`ospf6CalculateMdr` is the calculation one router runs on one interface. Neighbors are
named by their position in the neighbor list, which is also their index in the cost
matrix. The scratch fields `hops`, `hops2` and `treenode` of the C neighbors are local
to the calculation. The callbacks of other modules that run at its end are left out.
-/

namespace OspfMdr.Ospf6
open List NeighborState

def infty : Nat := 10000

/-- The neighbor fields that the calculation reads or writes. Router IDs are in host order. -/
structure MdrNeighbor where
  routerId : Nat
  priority : Nat
  state : NeighborState
  mdrLevel : MdrLevel
  report2Hop : Bool
  rnl : List Nat
  dependent : Bool
  deriving DecidableEq, Repr

/-- The interface fields that the calculation reads or writes. A parent is named by its
router ID. -/
structure MdrInterface where
  routerId : Nat
  priority : Nat
  helloInterval : Nat
  allowImmediateHello : Bool
  twoHopRefresh : Nat
  adjConnectivity : AdjConnectivity
  mdrConstraint : Int
  mdrLevel : MdrLevel
  nonfloodingMdr : Bool
  parent : Option Nat
  bparent : Option Nat
  neighborList : List MdrNeighbor
  deriving DecidableEq, Repr

/-- Whether router A is larger than router B. -/
def ospf6SidcdsLexicographic (rtrPriA rtrPriB drLevelA drLevelB ridA ridB : Nat) : Bool :=
  if rtrPriA > rtrPriB then true
  else if rtrPriA = rtrPriB ∧ drLevelA > drLevelB then true
  else if rtrPriA = rtrPriB ∧ drLevelA = drLevelB ∧ ridA > ridB then true
  else false

/-- The test at the top: within the first `TwoHopRefresh` Hello intervals without a full Hello from every
neighbor. -/
def startupWait (elapsed : Nat) (oi : MdrInterface) : Bool :=
  if elapsed < oi.helloInterval * oi.twoHopRefresh then
    if oi.allowImmediateHello ∧ 0 < oi.neighborList.length then
      oi.neighborList.any fun onj => !onj.report2Hop
    else true
  else false

abbrev CostMatrix (n : Nat) := Fin n → Fin n → Int

def CostMatrix.set {n : Nat} (m : CostMatrix n) (j k : Fin n) (cost : Int) : CostMatrix n :=
  fun a b => if a = j ∧ b = k then cost else m a b

section Calculation
variable {n : Nat} (nbr : Fin n → MdrNeighbor)

def skipPair (j k : Fin n) : Bool :=
  decide (j = k) ||
  (decide ((nbr j).state.toNat < twoway.toNat) ||
    decide ((nbr k).state.toNat < twoway.toNat)) ||
  (!(nbr j).report2Hop && !(nbr k).report2Hop)

def reportedMatrix : CostMatrix n := fun j k =>
  if skipPair nbr j k then 0
  else if (nbr k).routerId ∈ (nbr j).rnl then 1 else 0

variable (oi : MdrInterface) (m : CostMatrix n)

/-- One step of the second loop, which makes the matrix symmetric in place. -/
def symmetrizeStep (p : Fin n × Fin n) : CostMatrix n :=
  let j := p.1
  let k := p.2
  if skipPair nbr j k then m
  else if (nbr j).report2Hop && (nbr k).report2Hop then
    let cost := m j k * m k j
    (m.set k j cost).set j k cost
  else if (nbr j).report2Hop && !(nbr k).report2Hop then m.set k j (m j k)
  else m.set j k (m k j)

def matrixPairs (n : Nat) : List (Fin n × Fin n) :=
  (finRange n).flatMap fun j => (finRange n).map fun k => (j, k)

def ospf6MdrCreateCostMatrix : CostMatrix n :=
  (matrixPairs n).foldl (symmetrizeStep nbr) (reportedMatrix nbr)

/-- Without a second neighbor the cost of the link to the router itself, whose level changes meanwhile. -/
def ospf6MdrCost (level : MdrLevel) (m : CostMatrix n) (j : Fin n) (k : Option (Fin n)) : Int :=
  if (nbr j).state.toNat < twoway.toNat then 0
  else match k with
    | none => 1
    | some k =>
      if ospf6SidcdsLexicographic oi.priority (nbr j).priority level.toNat (nbr j).mdrLevel.toNat
          oi.routerId (nbr j).routerId then infty
      else m j k

def isTwoWay (j : Fin n) : Bool :=
  ospf6MdrCost nbr oi oi.mdrLevel m j none == 1

structure MaxCandidate (n : Nat) where
  priority : Nat
  level : Nat
  id : Nat
  on : Option (Fin n)

def maxCandidateInit (n : Nat) : MaxCandidate n := ⟨1, MdrLevel.other.toNat, 0, none⟩

def MaxCandidate.ofNeighbor (j : Fin n) : MaxCandidate n :=
  ⟨(nbr j).priority, (nbr j).mdrLevel.toNat, (nbr j).routerId, some j⟩

def exceeds (j : Fin n) (c : MaxCandidate n) : Bool :=
  ospf6SidcdsLexicographic (nbr j).priority c.priority (nbr j).mdrLevel.toNat c.level
    (nbr j).routerId c.id

def selectMaxStep (twoWay : Fin n → Bool) (s : MaxCandidate n × MaxCandidate n) (j : Fin n) :
    MaxCandidate n × MaxCandidate n :=
  if !twoWay j then s
  else if exceeds nbr j s.1 then (MaxCandidate.ofNeighbor nbr j, s.1)
  else if exceeds nbr j s.2 then (s.1, MaxCandidate.ofNeighbor nbr j)
  else s

/-- The largest and the second largest two-way neighbor. -/
def selectMax (twoWay : Fin n → Bool) : MaxCandidate n × MaxCandidate n :=
  (finRange n).foldl (selectMaxStep nbr twoWay) (maxCandidateInit n, maxCandidateInit n)

/-- `struct tree_node`; the sibling pointers are the order of `children`. -/
structure TreeNode (n : Nat) where
  parent : Option (Fin n)
  secNode : Option (Fin n)
  labeled : Bool
  children : List (Fin n)

abbrev Tree (n : Nat) := Fin n → Option (TreeNode n)

variable (cost : Fin n → Fin n → Int) (tree : Tree n)

def addTreeNode (on : Fin n) (parent : Option (Fin n)) : Tree n :=
  let linked := match parent with
    | none => tree
    | some p => Function.update tree p
        ((tree p).map fun t => { t with children := t.children ++ [on] })
  Function.update linked on (some ⟨parent, none, false, []⟩)

def setSecNode (on : Fin n) (sec : Option (Fin n)) : Tree n :=
  Function.update tree on ((tree on).map fun t => { t with secNode := sec })

def secNodeOf (on : Fin n) : Option (Fin n) := (tree on).bind (·.secNode)

structure Search (n : Nat) where
  hops : Fin n → Nat
  tree : Tree n
  queue : List (Fin n)

def searchVisit (link : Fin n → Fin n → Bool) (transit : Fin n → Bool) (k : Fin n)
    (s : Search n) (u : Fin n) : Search n :=
  if link k u && decide (s.hops k + 1 < s.hops u) then
    let hops := Function.update s.hops u (s.hops k + 1)
    let tree := addTreeNode s.tree u (some k)
    { hops := hops
      tree := setSecNode tree u (if hops u = 1 then some u else secNodeOf tree k)
      queue := if transit u then s.queue ++ [u] else s.queue }
  else s

def searchLoop (link : Fin n → Fin n → Bool) (transit : Fin n → Bool) : Nat → Search n → Search n
  | 0, s => s
  | fuel + 1, s =>
    match s.queue with
    | [] => s
    | k :: q => searchLoop link transit fuel
        ((finRange n).foldl (searchVisit link transit k) { s with queue := q })

def searchStart (maxOn : Fin n) : Search n where
  hops := Function.update (fun _ => infty) maxOn 0
  tree := addTreeNode (fun _ => none) maxOn none
  queue := [maxOn]

def searchFuel (n : Nat) : Nat := n * infty + 1

/-- The breadth-first search for hop counts. -/
def search (link : Fin n → Fin n → Bool) (transit : Fin n → Bool) (maxOn : Fin n) : Search n :=
  searchLoop link transit (searchFuel n) (searchStart maxOn)

def mdrLink (k u : Fin n) : Bool :=
  isTwoWay nbr oi m u && ospf6MdrCost nbr oi oi.mdrLevel m k (some u) == 1

def exceedsConstraint (s : Search n) (k : Fin n) : Bool :=
  isTwoWay nbr oi m k && decide ((s.hops k : Int) > oi.mdrConstraint)

/-! ### Backup MDR calculation -/

def isLabeled (on : Fin n) : Bool := ((tree on).map (·.labeled)).getD false

def setLabeled (on : Fin n) : Tree n :=
  Function.update tree on ((tree on).map fun t => { t with labeled := true })

def childrenOf (on : Fin n) : List (Fin n) := ((tree on).map (·.children)).getD []

def parentOf (on : Fin n) : Option (Fin n) := (tree on).bind (·.parent)

def nextSiblings (v : Fin n) : List (Fin n) :=
  match parentOf tree v with
  | none => []
  | some p => ((childrenOf tree p).dropWhile (· ≠ v)).tail

def dfsClimb (tree : Tree n) (root : Fin n) : Nat → Fin n → Option (Fin n)
  | 0, _ => none
  | fuel + 1, v =>
    if v = root then none
    else match (nextSiblings tree v).find? (fun w => !isLabeled tree w) with
      | some w => some w
      | none => (parentOf tree v).bind (dfsClimb tree root fuel)

def dfsNext (u root : Fin n) : Option (Fin n) :=
  match (childrenOf tree u).find? (fun v => !isLabeled tree v) with
  | some v => some v
  | none => dfsClimb tree root n u

def dfsFrom (tree : Tree n) (root : Fin n) : Nat → Fin n → List (Fin n)
  | 0, _ => []
  | fuel + 1, u =>
    u :: match dfsNext tree u root with
      | some v => dfsFrom tree root fuel v
      | none => []

def dfsNodes (root : Fin n) : List (Fin n) := dfsFrom tree root n root

def subtreeRoot (tree : Tree n) (maxOn : Fin n) : Nat → Fin n → Fin n
  | 0, root => root
  | fuel + 1, root =>
    match parentOf tree root with
    | none => root
    | some p =>
      if !isLabeled tree root && decide (p ≠ maxOn) then subtreeRoot tree maxOn fuel p else root

def hops2PartA (maxOn v : Fin n) : Nat :=
  if v = maxOn then 0
  else if (tree v).isNone then infty
  else if (finRange n).any (fun u => decide (u ≠ maxOn) && (tree u).isSome &&
      decide (secNodeOf tree u ≠ secNodeOf tree v) && cost u v == 1) then 0
  else infty

def hops2Link (hops2 : Fin n → Nat) (u v : Fin n) : Fin n → Nat :=
  let hops2 := if cost u v == 1 && hops2 v != 0 then Function.update hops2 v 0 else hops2
  if cost v u == 1 && hops2 u != 0 then Function.update hops2 u 0 else hops2

-- the unlabeled node `minOn` is labeled and the links across it are processed
def hops2Label (maxOn : Fin n) (s : Tree n × (Fin n → Nat))
    (minOn : Fin n) : Tree n × (Fin n → Nat) :=
  let tree := setLabeled s.1 minOn
  match parentOf tree minOn with
  | none => (tree, s.2)
  | some p =>
    let root := subtreeRoot tree maxOn n p
    (tree, (dfsNodes tree root).foldl (fun hops2 u =>
      (dfsNodes tree minOn).foldl (fun hops2 v => hops2Link cost hops2 u v) hops2) s.2)

/-- Part (b); each turn labels a node, so `n` turns are enough. -/
def hops2PartB (cost : Fin n → Fin n → Int) (twoWay : Fin n → Bool) (maxOn : Fin n) :
    Nat → Tree n × (Fin n → Nat) → Tree n × (Fin n → Nat)
  | 0, s => s
  | fuel + 1, s =>
    match (finRange n).find? (fun k =>
        twoWay k && (s.1 k).isSome && !isLabeled s.1 k && s.2 k == 0) with
    | none => s
    | some minOn => hops2PartB cost twoWay maxOn fuel (hops2Label cost maxOn s minOn)

def backupHops2 (twoWay : Fin n → Bool) (tree : Tree n) (maxOn : Fin n) : Fin n → Nat :=
  (hops2PartB cost twoWay maxOn n (setLabeled tree maxOn, hops2PartA cost tree maxOn)).2

/-! ### Parent selection and non-flooding MDRs -/

/-- The scans of phase 4 keep comparing with the priority of Rmax. -/
def selectAdjacentStep (maxPriority : Nat) (eligible : Fin n → Bool) (c : MaxCandidate n)
    (j : Fin n) : MaxCandidate n :=
  if !eligible j then c
  else if exceeds nbr j { c with priority := maxPriority } then MaxCandidate.ofNeighbor nbr j
  else c

def selectAdjacent (maxPriority : Nat) (eligible : Fin n → Bool) : MaxCandidate n :=
  (finRange n).foldl (selectAdjacentStep nbr maxPriority eligible) ⟨maxPriority, 0, 0, none⟩

def parentEligible (j : Fin n) : Bool :=
  !decide ((nbr j).state.toNat < exchange.toNat) &&
  !decide ((nbr j).mdrLevel.toNat < MdrLevel.mdr.toNat)

def bparentEligible (parent : Option (Fin n)) (j : Fin n) : Bool :=
  !decide ((nbr j).state.toNat < exchange.toNat) && !decide (some j = parent) &&
  !decide ((nbr j).mdrLevel.toNat < MdrLevel.bmdr.toNat)

def selectParent (dr : Bool) (maxPriority : Nat) (maxOn : Fin n) : Option (Fin n) :=
  if dr then none
  else
    let c := selectAdjacent nbr maxPriority (parentEligible nbr)
    if c.id ≠ 0 then c.on else some maxOn

def selectBparent (dr bdr : Bool) (maxPriority : Nat) (maxOn : Fin n)
    (maxOn2 parent : Option (Fin n)) : Option (Fin n) :=
  if dr then some maxOn
  else if !bdr && oi.adjConnectivity == .biConnected then
    let c := selectAdjacent nbr maxPriority (bparentEligible nbr parent)
    if c.id ≠ 0 then c.on
    else if parent ≠ some maxOn then some maxOn
    else maxOn2
  else none

-- only MDR neighbors with a smaller router ID are transit nodes here
def isNonflooding (maxOn : Fin n) : Bool :=
  let s := search (fun k u => isTwoWay nbr oi m u && m k u == 1)
    (fun u => decide ((nbr u).mdrLevel = .mdr) && decide ((nbr u).routerId < oi.routerId)) maxOn
  (finRange n).all fun k => !exceedsConstraint nbr oi m s k

/-! ### Dependent neighbors and the result -/

def mayDepend (j : Fin n) : Bool :=
  decide ((nbr j).mdrLevel = .mdr) ||
  (oi.adjConnectivity == .biConnected && decide ((nbr j).mdrLevel = .bmdr))

def finishMdr (level : MdrLevel) (nonflooding : Bool)
    (parent bparent : Option (Fin n)) (dependent : Fin n → Bool) : MdrInterface :=
  { oi with
    mdrLevel := level
    nonfloodingMdr := nonflooding
    parent := parent.map fun j => (nbr j).routerId
    bparent := bparent.map fun j => (nbr j).routerId
    neighborList := ofFn fun j => { nbr j with dependent := dependent j } }

-- step 2.2: the router is larger than all its neighbors
def finishLargest : MdrInterface :=
  finishMdr nbr oi .mdr false none none fun j =>
    oi.adjConnectivity != .fullyConnected && isTwoWay nbr oi m j && mayDepend nbr oi j

/-- Steps 2.4 to 5 for a router that is smaller than its neighbor `maxOn`. -/
def finishSmaller (maxPriority : Nat) (maxOn : Fin n) (maxOn2 : Option (Fin n)) : MdrInterface :=
  let s := search (mdrLink nbr oi m) (fun _ => true) maxOn
  let dr := (finRange n).any (exceedsConstraint nbr oi m s)
  let dependent2 := fun k => oi.adjConnectivity != .fullyConnected &&
    ((exceedsConstraint nbr oi m s k && mayDepend nbr oi k) ||
      (dr && decide (k = maxOn) && decide ((nbr maxOn).mdrLevel.toNat > MdrLevel.other.toNat)))
  let level2 := if dr then .mdr else if oi.mdrLevel = .mdr then .bmdr else oi.mdrLevel
  let hops2 := backupHops2 (fun u v => ospf6MdrCost nbr oi level2 m u (some v))
    (isTwoWay nbr oi m) s.tree maxOn
  let unprotected := fun k => isTwoWay nbr oi m k && hops2 k == infty
  let bdr := !dr && (finRange n).any unprotected
  let dependent3 := fun k => dependent2 k || (oi.adjConnectivity == .biConnected &&
    ((unprotected k && decide ((nbr k).mdrLevel.toNat ≥ MdrLevel.bmdr.toNat)) ||
      (bdr && decide (k = maxOn) && decide ((nbr maxOn).mdrLevel.toNat > MdrLevel.other.toNat))))
  let level := if bdr then .bmdr else if dr then level2 else .other
  let parent := selectParent nbr dr maxPriority maxOn
  finishMdr nbr oi level (dr && isNonflooding nbr oi m maxOn) parent
    (selectBparent nbr oi dr bdr maxPriority maxOn maxOn2 parent) dependent3

/-- The MDR calculation after the start-up time. -/
def calculateMdr : MdrInterface :=
  let m := ospf6MdrCreateCostMatrix nbr
  let c := selectMax nbr (isTwoWay nbr oi m)
  if c.1.id = 0 then finishMdr nbr oi .other false none none fun _ => false
  else match c.1.on with
    | none => oi
    | some maxOn =>
      if ospf6SidcdsLexicographic oi.priority c.1.priority oi.mdrLevel.toNat c.1.level
          oi.routerId c.1.id then finishLargest nbr oi m
      else finishSmaller nbr oi m c.1.priority maxOn c.2.on

end Calculation

def ospf6CalculateMdr (elapsed : Nat) (oi : MdrInterface) : MdrInterface :=
  if startupWait elapsed oi then oi else calculateMdr oi.neighborList.get oi

end OspfMdr.Ospf6
