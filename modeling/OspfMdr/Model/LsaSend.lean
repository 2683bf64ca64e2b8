import OspfMdr.Model.Basic
import OspfMdr.Model.Lsa
import OspfMdr.Model.Lsdb

/-!
# Link State Updates and Requests to a neighbor (`ospf6_message.c`)

Of an LSA that is sent only the header is kept, without the update of its age. Times are microseconds of
the monotonic clock, which is read once in a run; `none` stands for a failed assertion.
-/

namespace OspfMdr.Ospf6

def ospf6PacketMax (ifmtu : UInt32) : Option Nat :=
  if ifmtu.toNat > 40 then some (ifmtu.toNat - 40) else none

structure RetransLsa where
  header : LsaHeader
  rxmtTime : Int
  deriving DecidableEq, Repr

structure LsupdateNeighbor where
  state : NeighborState
  ifmtu : UInt32
  rxmtInterval : UInt32
  floodDelay : Int
  lsupdateList : List LsaHeader
  retransList : List RetransLsa
  deriving DecidableEq, Repr

section
variable (on : LsupdateNeighbor) (now : Int)

/-- `lsa_rxmt_msec`, where the product is one of `unsigned int`. -/
def LsupdateNeighbor.rxmtMsec (lsa : RetransLsa) : Int :=
  (1000 * on.rxmtInterval).toNat - (now - lsa.rxmtTime) / 1000

def sameLsa (a b : LsaHeader) : Bool :=
  a.type = b.type ∧ a.id = b.id ∧ a.advRouter = b.advRouter ∧ a.seqnum = b.seqnum ∧ a.length = b.length

/-- The MTU check, for a packet of `size` bytes with `num` LSAs. -/
def lsupdateFull (size num : Nat) (lsa : LsaHeader) : Option Bool :=
  (ospf6PacketMax on.ifmtu).map fun max => decide (size + lsa.length.toNat > max ∧ num > 0)

/-- What is put into the packet and what stays in `lsupdate_list`. -/
def lsupdateFill (size num : Nat) : List LsaHeader → Option (List LsaHeader × List LsaHeader)
  | [] => some ([], [])
  | lsa :: l => do
    if ← lsupdateFull on size num lsa then some ([], lsa :: l)
    else
      let r ← lsupdateFill (size + lsa.length.toNat) (num + 1) l
      some (lsa :: r.1, r.2)

/-- `stop` is the LSA at which the loop over `retrans_list` is left, as it was before. -/
structure RetransFill where
  packet : List LsaHeader
  list : List RetransLsa
  stop : Option RetransLsa
  deriving DecidableEq, Repr

def retransFill (updates : List LsaHeader) (size num : Nat) : List RetransLsa → Option RetransFill
  | [] => some ⟨[], [], none⟩
  | lsa :: l =>
    if on.rxmtMsec now lsa > on.floodDelay then do
      let r ← retransFill updates size num l
      some { r with list := lsa :: r.list }
    else if updates.any (sameLsa lsa.header) then do
      let r ← retransFill updates size num l
      some { r with list := { lsa with rxmtTime := now } :: r.list }
    else do
      if ← lsupdateFull on size num lsa.header then
        some ⟨[], { lsa with rxmtTime := now } :: l, some lsa⟩
      else
        let r ← retransFill updates (size + lsa.header.length.toNat) (num + 1) l
        some ⟨lsa.header :: r.packet, { lsa with rxmtTime := now } :: r.list, r.stop⟩

structure LsupdateSent where
  packet : List LsaHeader
  on : LsupdateNeighbor
  stop : Option RetransLsa
  deriving DecidableEq, Repr

/-- Sends updates and due retransmissions to a neighbor. -/
def ospf6LsupdateSendNeighbor : Option LsupdateSent :=
  if on.state.toNat < NeighborState.exchange.toNat ∨ on.lsupdateList = [] ∧ on.retransList = [] then
    some ⟨[], on, none⟩
  else do
    let updates ← lsupdateFill on 20 0 on.lsupdateList
    let on := { on with lsupdateList := updates.2 }
    if on.retransList.any fun lsa => on.rxmtMsec now lsa < 1 then
      let size := 20 + (updates.1.map fun lsa => lsa.length.toNat).sum
      let r ← retransFill on now updates.1 size updates.1.length on.retransList
      some ⟨updates.1 ++ r.packet, { on with retransList := r.list }, r.stop⟩
    else some ⟨updates.1, on, none⟩

end

/-! ## Requests -/

structure RequestLsa where
  key : LsaKey
  originated : Int
  retransCount : Int
  deriving DecidableEq, Repr

structure LsreqNeighbor where
  state : NeighborState
  ifmtu : UInt32
  rxmtInterval : UInt32
  floodDelay : Int
  requestList : List RequestLsa
  requestRetransWait : Bool
  distinct : (requestList.map RequestLsa.key).Nodup

/-- The difference and the quotient are of type `size_t`, the result of type `unsigned int`. -/
def lsreqMaxEntries (packetMax count : Nat) : Nat :=
  min ((packetMax + 2 ^ 64 - 16) % 2 ^ 64 / 12 % 2 ^ 32) count

structure LsreqLists where
  reqlist : List RequestLsa
  candidateReqlist : List RequestLsa
  minOriginated : Int

/-- `take` is the loop that deletes the last candidates. -/
def lsreqScan (now delay : Int) (maxentries : Nat) : LsreqLists → List RequestLsa → LsreqLists
  | s, [] => s
  | s, lsa :: l =>
    if lsa.originated = 0 then
      let s := { s with reqlist := s.reqlist ++ [lsa] }
      if s.reqlist.length = maxentries then s else lsreqScan now delay maxentries s l
    else if (now - lsa.originated) / 1000 ≥ delay then
      let candidates := s.candidateReqlist.orderedInsert (fun a b => a.retransCount - b.retransCount < 0) lsa
      lsreqScan now delay maxentries
        { s with candidateReqlist := candidates.take (maxentries - s.reqlist.length) } l
    else lsreqScan now delay maxentries { s with minOriginated := min s.minOriginated lsa.originated } l

/-- What is put into the packet from the offset `p` on, and what is left. -/
def ospf6LsreqAddEntries (packetMax : Nat) : Nat → List RequestLsa → List RequestLsa × List RequestLsa
  | _, [] => ([], [])
  | p, lsa :: l =>
    if p + 12 > packetMax then ([], lsa :: l)
    else
      let r := ospf6LsreqAddEntries packetMax (p + 12) l
      (lsa :: r.1, r.2)

inductive LsreqAction
  | quit
  | loadingDone
  | wait (delay : Int)
  | send (packet : List RequestLsa)
  deriving DecidableEq

namespace LsreqNeighbor

variable (on : LsreqNeighbor) (now : Int)

def requestRxmtDelay : Int := max (1000 * on.rxmtInterval / 4).toNat on.floodDelay

def requested (packet : List RequestLsa) : LsreqNeighbor :=
  { on with
    requestRetransWait := false
    requestList := on.requestList.map fun lsa =>
      { lsa with
        originated := if lsa ∈ packet then now else lsa.originated
        retransCount := if lsa ∈ packet then lsa.retransCount + 1 else lsa.retransCount }
    distinct := by simpa [Function.comp_def] using on.distinct }

/-- Sends requests for what is missing. -/
def ospf6LsreqSend : Option (LsreqAction × LsreqNeighbor) :=
  if on.state ≠ .exchange ∧ on.state ≠ .loading then some (.quit, on)
  else if on.requestList = [] then some (.loadingDone, on)
  else do
    let packetMax ← ospf6PacketMax on.ifmtu
    let maxentries := lsreqMaxEntries packetMax on.requestList.length
    let s := lsreqScan now on.requestRxmtDelay maxentries ⟨[], [], now⟩ on.requestList
    if s.reqlist = [] ∧ s.candidateReqlist = [] then
      let delay := on.requestRxmtDelay - (now - s.minOriginated) / 1000
      if 0 < delay ∧ delay ≤ on.requestRxmtDelay then some (.wait delay, { on with requestRetransWait := true })
      else none
    else
      let first := ospf6LsreqAddEntries packetMax 16 s.reqlist
      let p := 16 + 12 * first.1.length
      let second := ospf6LsreqAddEntries packetMax p s.candidateReqlist
      if first.2 = [] ∧ (second.2 = [] ∨ p + 12 * second.1.length + 12 > packetMax) then
        some (.send (first.1 ++ second.1), on.requested now (first.1 ++ second.1))
      else none

end LsreqNeighbor

end OspfMdr.Ospf6
