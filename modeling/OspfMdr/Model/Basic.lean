import Mathlib.Tactic

/-!
# Constants shared by the OSPFv3 models

Enumerations of the C headers. Where the code compares their numeric values the model
compares `toNat`.
-/

namespace OspfMdr.Ospf6

/-- How much of the backbone a router is. -/
inductive MdrLevel
  | other
  | bmdr
  | mdr
  deriving DecidableEq, Repr

def MdrLevel.toNat : MdrLevel → Nat
  | .other => 0
  | .bmdr => 1
  | .mdr => 2

inductive NeighborState
  | down
  | attempt
  | init
  | twoway
  | exstart
  | exchange
  | loading
  | full
  deriving DecidableEq, Repr

def NeighborState.toNat : NeighborState → Nat
  | .down => 1
  | .attempt => 2
  | .init => 3
  | .twoway => 4
  | .exstart => 5
  | .exchange => 6
  | .loading => 7
  | .full => 8

abbrev NeighborState.IsTwoway (state : NeighborState) : Prop := NeighborState.twoway.toNat ≤ state.toNat

inductive AdjConnectivity
  | fullyConnected
  | uniConnected
  | biConnected
  deriving DecidableEq, Repr

inductive IfType
  | none
  | pointToPoint
  | broadcast
  | nbma
  | pointToMultipoint
  | virtualLink
  | loopback
  | mdr
  deriving DecidableEq, Repr

inductive InterfaceState
  | none
  | down
  | loopback
  | waiting
  | pointToPoint
  | drother
  | bdr
  | dr
  deriving DecidableEq, Repr

inductive LsaFullness
  | min
  | minCost
  | minCost2Paths
  | mdrFull
  | full
  deriving DecidableEq, Repr

end OspfMdr.Ospf6
