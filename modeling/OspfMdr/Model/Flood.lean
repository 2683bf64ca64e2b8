import OspfMdr.Model.Basic
import OspfMdr.Model.Lsa

/-!
# Reception of LSAs (`ospf6_flood.c`)

What `ospf6_receive_lsa` does to the databases of links, areas and the AS. Flooding, acknowledgements
and retransmission lists, which leave the databases alone, are not modelled. Times are microseconds of
the monotonic clock; ages are in seconds.
-/

namespace OspfMdr.Ospf6
open Lib

/-- `tv_sec` of a time or of a difference of two times. -/
def tvSec (t : Int) : Int := t / 1000000

inductive LsdbId
  | link (ifIndex : Nat)
  | area (areaId : UInt32)
  | as
  deriving DecidableEq, Repr

structure InstalledLsa where
  lsa : Lsa
  installed : Int
  deriving DecidableEq, Repr

def InstalledLsa.key (x : InstalledLsa) : Nat := x.lsa.key

abbrev FloodDbs := LsdbId → List InstalledLsa

structure LsaSender where
  routerId : UInt32
  state : NeighborState
  lastChanged : Int
  requestList : List Lsa
  ifIndex : Nat
  areaId : UInt32
  areaStub : Bool
  deriving DecidableEq, Repr

/-- A received LSA: `cksum1` is the checksum of its contents, `exchanging` says that some neighbor is in
state Exchange or Loading. -/
structure LsaReception where
  sender : LsaSender
  header : LsaHeader
  cksum1 : UInt16
  exchanging : Bool
  now : Int
  deriving DecidableEq, Repr

def LsaReception.lsa (r : LsaReception) : Lsa := ospf6LsaCreate (tvSec r.now) r.header

/-- The database for the scope of the LSA; `none` for the reserved scope. -/
def LsaReception.lsdb (r : LsaReception) : Option LsdbId :=
  match ospf6LsaScope r.header.type with
  | .linklocal => some (.link r.sender.ifIndex)
  | .area => some (.area r.sender.areaId)
  | .as => some .as
  | .reserved => none

inductive ReceiveOutcome
  | wrongChecksum
  | asScopeInStub
  | reservedScope
  | maxageDropped
  | withinMinLsArrival
  | installed (reoriginate : Bool)
  | badLsReq
  | sameInstance
  | databaseNewer
  deriving DecidableEq, Repr

def ospf6IsMaxageLsaDrop (r : LsaReception) (old : Option InstalledLsa) : Bool :=
  isMaxage (tvSec r.now) r.lsa ∧ old.isNone ∧ ¬r.exchanging

/-- The MinLSArrival check against the database copy; `none` when an assertion about the clock fails. -/
def minLsArrivalOk (minLsaArrival : Int) (r : LsaReception) (old : InstalledLsa) : Option Bool :=
  if r.sender.state ≠ .full then some true
  else
    let changed := tvSec (r.now - r.sender.lastChanged)
    let ownLsa := old.lsa.header.advRouter = r.sender.routerId
    if ownLsa ∧ changed < 0 then none
    else if ownLsa ∧ changed < minLsaArrival then some true
    else
      let age := tvSec (r.now - old.installed)
      if age < 0 then none else some (decide (¬age < minLsaArrival))

def ospf6InstallLsa (dbs : FloodDbs) (d : LsdbId) (r : LsaReception) : FloodDbs :=
  fun d' => if d' = d then keyInsert InstalledLsa.key ⟨r.lsa, r.now⟩ (dbs d') else dbs d'

/-- Steps (5) and following, for the database of the LSA. -/
def receiveInto (own : UInt32) (minLsaArrival : Int) (dbs : FloodDbs) (d : LsdbId) (r : LsaReception) :
    Option (FloodDbs × ReceiveOutcome) :=
  match keyLookup InstalledLsa.key r.lsa.key (dbs d) with
  | none => some (ospf6InstallLsa dbs d r, .installed (r.header.advRouter = own))
  | some old =>
    let ismoreRecent := ospf6LsaCompare (tvSec r.now) r.lsa old.lsa
    if ismoreRecent < 0 then
      (minLsArrivalOk minLsaArrival r old).map fun ok =>
        if ok then (ospf6InstallLsa dbs d r, .installed (r.header.advRouter = own))
        else (dbs, .withinMinLsArrival)
    else if (ospf6LsdbLookup r.lsa.key r.sender.requestList).isSome then some (dbs, .badLsReq)
    else if ismoreRecent = 0 then some (dbs, .sameInstance)
    else some (dbs, .databaseNewer)

/-- What a router does with a received LSA. -/
def ospf6ReceiveLsa (own : UInt32) (minLsaArrival : Int) (dbs : FloodDbs) (r : LsaReception) :
    Option (FloodDbs × ReceiveOutcome) :=
  if r.cksum1 ≠ r.header.checksum then some (dbs, .wrongChecksum)
  else if r.sender.areaStub ∧ ospf6LsaScope r.header.type = .as then some (dbs, .asScopeInStub)
  else
    match r.lsdb with
    | none => some (dbs, .reservedScope)
    | some d =>
      if ospf6IsMaxageLsaDrop r (keyLookup InstalledLsa.key r.lsa.key (dbs d)) then some (dbs, .maxageDropped)
      else receiveInto own minLsaArrival dbs d r

def receiveRun (own : UInt32) (minLsaArrival : Int) (dbs : FloodDbs) (rs : List LsaReception) :
    Option FloodDbs :=
  rs.foldlM (fun dbs r => (ospf6ReceiveLsa own minLsaArrival dbs r).map Prod.fst) dbs

end OspfMdr.Ospf6
