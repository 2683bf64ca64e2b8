import OspfMdr.Model.BestPath
import OspfMdr.Model.Stream

/-!
# AS paths and their table (`bgp_aspath.c`)

An interned path is found in the table by its text and its segments. `aspath_add_seq` changes the
segments but not the text, which is given here by the segments it was made from.
-/

namespace OspfMdr.Bgp
open Lib

structure Aspath where
  segments : AsPath
  str : AsPath
  deriving DecidableEq, Repr

/-- `aspath_str_update` -/
def Aspath.ofSegments (segments : AsPath) : Aspath := ⟨segments, segments⟩

def aspathDup (p : Aspath) : Aspath := .ofSegments p.segments

/-- The reference counts of the paths in `ashash`; those that are not there have none. -/
abbrev AsTable := Aspath → Nat

def aspathIntern (t : AsTable) (p : Aspath) : AsTable := Function.update t p (t p + 1)

/-- It fails where the pointer is null or the path is not in the table. -/
def aspathUnintern (t : AsTable) : Option Aspath → Option AsTable
  | none => none
  | some p => if t p = 0 then none else some (Function.update t p (t p - 1))

def AsSegment.values (s : AsSegment) : List UInt32 := s.first :: s.rest

def insertUnique {α : Type} (lt : α → α → Bool) (a : α) : List α → List α
  | [] => [a]
  | b :: l => if lt a b then a :: b :: l else if lt b a then b :: insertUnique lt a l else b :: l

def sortUnique {α : Type} (lt : α → α → Bool) (l : List α) : List α := l.foldr (insertUnique lt) []

def AsSegment.sorted (seg : AsSegment) : AsSegment :=
  match sortUnique (fun a b => decide (a < b)) seg.values with
  | a :: l => ⟨seg.type, a, l⟩
  | [] => seg

/-- Sorts the sets and joins adjacent sequences. -/
def assegmentNormalise : AsPath → AsPath
  | [] => []
  | seg :: segs =>
    let pin := if seg.type = .set ∨ seg.type = .confedSet then seg.sorted else seg
    match assegmentNormalise segs with
    | next :: rest =>
      if pin.type = .sequence ∧ next.type = .sequence then ⟨.sequence, pin.first, pin.rest ++ next.values⟩ :: rest
      else pin :: next :: rest
    | [] => [pin]

def segmentType (type : UInt8) : Option SegmentType :=
  if type = 1 then some .set
  else if type = 2 then some .sequence
  else if type = 3 then some .confedSequence
  else if type = 4 then some .confedSet
  else none

def asValueSize (use32bit : Bool) : Nat := if use32bit then 4 else 2

def readAs (use32bit : Bool) : Parse UInt32 :=
  if use32bit then streamGetl
  else do
    let as ← streamGetw
    return as.toUInt32

def readAses (use32bit : Bool) : Nat → Parse (List UInt32)
  | 0 => return []
  | n + 1 => do
    let as ← readAs use32bit
    let ases ← readAses use32bit n
    return as :: ases

def asHeaderSize : Nat := 2

def assegmentsLoop (length : Nat) (use32bit : Bool) : Nat → Nat → AsPath → Parse (Option AsPath)
  | 0, _, _ => Scan.fail
  | fuel + 1, bytes, segs =>
    if bytes < length then
      if length - bytes ≤ asHeaderSize then return none
      else do
        let type ← streamGetc
        let num ← streamGetc
        let segSize := asHeaderSize + num.toNat * asValueSize use32bit
        if bytes + segSize > length ∨ num = 0 then return none
        else
          match segmentType type with
          | none => return none
          | some type => do
            let first ← readAs use32bit
            let rest ← readAses use32bit (num.toNat - 1)
            assegmentsLoop length use32bit fuel (bytes + segSize) (segs ++ [⟨type, first, rest⟩])
    else return some (assegmentNormalise segs)

def assegmentsParse (length : Nat) (use32bit : Bool) : Parse (Option AsPath) :=
  if length = 0 then return some []
  else do
    let enough ← Scan.enough length
    let header ← Scan.enough asHeaderSize
    if !enough || !header || length % 2 ≠ 0 then return none
    else assegmentsLoop length use32bit (length + 1) 0 []

/-- `aspath_parse` up to the table. -/
def aspathParse (length : Nat) (use32bit : Bool) : Parse (Option Aspath) :=
  if length % 2 ≠ 0 then return none
  else do
    let segments ← assegmentsParse length use32bit
    return segments.map Aspath.ofSegments

def AsSegment.copy (seg : AsSegment) (n : Nat) : AsSegment := ⟨seg.type, seg.first, seg.rest.take (n - 1)⟩

def reconcileLoop : AsPath → Int → AsPath
  | [], _ => []
  | seg :: segs, hops =>
    if hops > 0 then
      match seg.type with
      | .set | .confedSet => seg :: reconcileLoop segs (hops - 1)
      | .confedSequence =>
        let hops := if hops < seg.length then (seg.length : Int) else hops
        seg.copy (min seg.length hops.toNat) :: reconcileLoop segs (hops - seg.length)
      | .sequence => seg.copy (min seg.length hops.toNat) :: reconcileLoop segs (hops - seg.length)
    else []

/-- It fails where the first path is missing, and where no segment was copied from it. -/
def aspathReconcileAs4 (aspath : Option Aspath) (as4path : Aspath) : Option Aspath :=
  match aspath with
  | none => none
  | some aspath =>
    let hops : Int := (aspathCountHops aspath.segments + aspathCountConfeds aspath.segments : Nat) -
      (aspathCountHops as4path.segments : Nat)
    let hops := if hops < 0 then (aspathCountHops aspath.segments : Int) else hops
    if hops = 0 then some (aspathDup as4path)
    else
      match reconcileLoop aspath.segments hops with
      | [] => none
      | newpath => some (.ofSegments (assegmentNormalise (newpath ++ as4path.segments)))

def aspathAddOneAs (p : Aspath) (as : UInt32) (type : SegmentType) : Aspath :=
  match p.segments with
  | [] => { p with segments := [⟨type, as, []⟩] }
  | seg :: segs =>
    if seg.type = type then { p with segments := ⟨type, as, seg.values⟩ :: segs }
    else { p with segments := ⟨type, as, []⟩ :: seg :: segs }

def aspathAddSeq (p : Aspath) (as : UInt32) : Aspath := aspathAddOneAs p as .sequence

def aspathAddConfedSeq (p : Aspath) (as : UInt32) : Aspath := aspathAddOneAs p as .confedSequence

def aspathHasAs4 (p : Aspath) : Bool := p.segments.any fun seg => seg.values.any (· > 65535)

def aspathDeleteConfedSeq (p : Aspath) : Aspath :=
  match p.segments with
  | [] => p
  | seg :: segs =>
    if seg.type = .confedSequence then .ofSegments ((seg :: segs).dropWhile AsSegment.isConfed) else p

def aspathAggregateAsSetAdd (asset : List UInt32) (as : UInt32) : List UInt32 :=
  if as ∈ asset then asset else asset ++ [as]

def matchLength : List UInt32 → List UInt32 → Nat
  | a :: l, b :: m => if a = b then matchLength l m + 1 else 0
  | _, _ => 0

/-- The common segments, what is left of the two chains, and `match` as the last round has left it. -/
def aggregateLoop : AsPath → AsPath → Nat → AsPath × AsPath × AsPath × Nat
  | seg1 :: segs1, seg2 :: segs2, n =>
    if seg1.type ≠ seg2.type then ([], seg1 :: segs1, seg2 :: segs2, n)
    else
      let n := matchLength seg1.values seg2.values
      let common := if n = 0 then [] else [seg1.copy n]
      if n ≠ seg1.length ∨ seg1.length ≠ seg2.length then (common, seg1 :: segs1, seg2 :: segs2, n)
      else
        let r := aggregateLoop segs1 segs2 n
        (common ++ r.1, r.2)
  | segs1, segs2, n => ([], segs1, segs2, n)

def aggregateRest (n : Nat) : AsPath → List UInt32
  | [] => []
  | seg :: segs => seg.values.drop n ++ segs.flatMap AsSegment.values

/-- The aggregate of two paths. -/
def aspathAggregate (as1 as2 : Aspath) : Aspath :=
  let r := aggregateLoop as1.segments as2.segments 0
  let n := r.2.2.2
  let asset := (aggregateRest n r.2.1 ++ aggregateRest n r.2.2.1).foldl aspathAggregateAsSetAdd []
  .ofSegments (assegmentNormalise (r.1 ++ match asset with
    | [] => []
    | as :: ases => [⟨.set, as, ases⟩]))

/-- It fails where the source reads the segment of `as2` that it has freed. -/
def aspathPrepend (as1 as2 : Aspath) : Option Aspath :=
  match as1.segments.getLast?, as2.segments with
  | _, [] => some (.ofSegments as1.segments)
  | none, _ => some as2
  | some seg1, seg2 :: segs =>
    if seg1.type = .sequence ∧ seg2.type = .confedSequence then none
    else if seg1.type = .sequence ∧ seg2.type = .sequence then
      some (.ofSegments (as1.segments.dropLast ++ ⟨.sequence, seg1.first, seg1.rest ++ seg2.values⟩ :: segs))
    else some (.ofSegments (as1.segments ++ seg2 :: segs))

def AsSegment.exclude (list : AsPath) (seg : AsSegment) : Option AsSegment :=
  match seg.values.filter fun as => !list.any (as ∈ ·.values) with
  | [] => none
  | as :: ases => some ⟨seg.type, as, ases⟩

def aspathFilterExclude (source list : Aspath) : Aspath :=
  .ofSegments (source.segments.filterMap (AsSegment.exclude list.segments))

def aspathConfedCheck (p : Aspath) : Bool := p.segments.any AsSegment.isConfed

def aspathLeftConfedCheck (p : Aspath) : Bool := (p.segments.head?.map AsSegment.isConfed).getD false

def aspathFirstasCheck (p : Aspath) (as : UInt32) : Bool :=
  match p.segments with
  | seg :: _ => seg.type = .sequence ∧ seg.first = as
  | [] => false

section packet

/-- The peer of an UPDATE; `confedId` is that of a confederation. -/
structure PacketPeer where
  sort : PeerSort
  as4Rcv : Bool
  asPathUnchanged : Bool
  rserverClient : Bool
  localAs : UInt32
  changeLocalAs : UInt32
  confedId : Option UInt32

/-- The path of the route after the call, and the paths that are written. -/
structure PacketPaths where
  stored : Aspath
  asPath : Aspath
  as4Path : Option Aspath

variable (peer : PacketPeer) (stored : Aspath)

/-- The path that is made for the peer. Without one that of the route is written. -/
def packetAspath : Option Aspath :=
  if peer.sort = .ebgp ∧ (peer.asPathUnchanged = false ∨ stored.segments = []) ∧ peer.rserverClient = false then
    let aspath := aspathDup stored
    match peer.confedId with
    | some confedId => some (aspathAddSeq (aspathDeleteConfedSeq aspath) confedId)
    | none =>
      let aspath := aspathAddSeq aspath peer.localAs
      some (if peer.changeLocalAs ≠ 0 then aspathAddSeq aspath peer.changeLocalAs else aspath)
  else if peer.sort = .confed then some (aspathAddConfedSeq (aspathDup stored) peer.localAs)
  else none

/-- The part of `bgp_packet_attribute` (`bgp_attr.c`) about the path. -/
def bgpPacketAttribute : PacketPaths :=
  let own := packetAspath peer stored
  let aspath := own.getD stored
  if peer.as4Rcv = false ∧ aspathHasAs4 aspath then
    let as4Path := aspathDeleteConfedSeq aspath
    ⟨if own.isSome then stored else as4Path, aspath, some as4Path⟩
  else ⟨stored, aspath, none⟩

end packet

end OspfMdr.Bgp
