import OspfMdr.Model.Aspath

/-!
# Path attributes of UPDATE messages (`bgp_attr.c`)

Besides the assertions, the parser fails where the source reads past the end of
`attr_flags_values`, where it follows a null pointer to an AS path and where `bgp_attr_unknown` uses
`total`, which it does not set. The tables of communities and clusters, whose assertions are about
the value that was just made, are left out, as is what is logged only.
-/

namespace OspfMdr.Bgp
open Lib Scan

inductive AttrType
  | origin
  | asPath
  | nextHop
  | multiExitDisc
  | localPref
  | atomicAggregate
  | aggregator
  | communities
  | originatorId
  | clusterList
  | mpReachNlri
  | mpUnreachNlri
  | extCommunities
  | as4Path
  | as4Aggregator
  | unknown
  deriving DecidableEq, Repr

def attrType (type : UInt8) : AttrType :=
  if type = 1 then .origin
  else if type = 2 then .asPath
  else if type = 3 then .nextHop
  else if type = 4 then .multiExitDisc
  else if type = 5 then .localPref
  else if type = 6 then .atomicAggregate
  else if type = 7 then .aggregator
  else if type = 8 then .communities
  else if type = 9 then .originatorId
  else if type = 10 then .clusterList
  else if type = 14 then .mpReachNlri
  else if type = 15 then .mpUnreachNlri
  else if type = 16 then .extCommunities
  else if type = 17 then .as4Path
  else if type = 18 then .as4Aggregator
  else .unknown

inductive ParseRet
  | proceed
  | error
  | withdraw
  deriving DecidableEq, Repr

structure AttrPeer where
  sort : PeerSort
  as4Rcv : Bool
  as : UInt32
  enforceFirstAs : Bool
  changeLocalAs : UInt32
  localAsNoPrepend : Bool
  deriving DecidableEq, Repr

structure AttrExtra where
  mpNexthopGlobal : List UInt8
  mpNexthopLocal : List UInt8
  ecommunity : Option (List (List UInt8))
  cluster : Option (List UInt8)
  mpNexthopGlobalIn : List UInt8
  aggregatorAddr : UInt32
  originatorId : UInt32
  aggregatorAs : UInt32
  mpNexthopLen : Nat
  deriving DecidableEq, Repr

def AttrExtra.zero : AttrExtra := ⟨[], [], none, none, [], 0, 0, 0, 0⟩

/-- `struct attr`, with addresses in host byte order. -/
structure UpdateAttr where
  aspath : Option Aspath
  community : Option (List UInt32)
  extra : Option AttrExtra
  flag : AttrType → Bool
  nexthop : UInt32
  med : UInt32
  localPref : UInt32
  origin : UInt8

def UpdateAttr.zero : UpdateAttr := ⟨none, none, none, fun _ => false, 0, 0, 0, 0⟩

namespace UpdateAttr

def setFlag (attr : UpdateAttr) (type : AttrType) : UpdateAttr :=
  { attr with flag := Function.update attr.flag type true }

def extraGet (attr : UpdateAttr) : AttrExtra := attr.extra.getD .zero

def setExtra (attr : UpdateAttr) (f : AttrExtra → AttrExtra) : UpdateAttr :=
  { attr with extra := some (f attr.extraGet) }

end UpdateAttr

structure BgpNlri where
  afi : UInt16
  safi : UInt8
  nlri : List UInt8
  deriving DecidableEq, Repr

structure AttrState where
  attr : UpdateAttr
  as4Path : Option Aspath
  as4Aggregator : UInt32
  as4AggregatorAddr : UInt32
  mpUpdate : BgpNlri
  mpWithdraw : BgpNlri
  ashash : AsTable
  notify : List Notify

def AttrState.init (ashash : AsTable) : AttrState := ⟨.zero, none, 0, 0, ⟨0, 0, []⟩, ⟨0, 0, []⟩, ashash, []⟩

namespace AttrState

/-- `bgp_notify_send_with_data` for `BGP_NOTIFY_UPDATE_ERR` -/
def notifySend (st : AttrState) (subcode : Nat) (data : List UInt8) : AttrState :=
  { st with notify := st.notify ++ [⟨3, subcode, data⟩] }

def setFlag (st : AttrState) (type : AttrType) : AttrState := { st with attr := st.attr.setFlag type }

end AttrState

structure AttrArgs where
  type : UInt8
  flags : UInt8
  length : Nat
  startp : Nat
  total : Nat
  deriving DecidableEq, Repr

def flagOptional : UInt8 := 0x80
def flagTrans : UInt8 := 0x40
def flagPartial : UInt8 := 0x20
def flagExtlen : UInt8 := 0x10

def checkFlag (flags flag : UInt8) : Bool := flags &&& flag ≠ 0

def notifyData (args : AttrArgs) (length : Nat) : Parse (List UInt8) :=
  if length > 0 then slice args.startp length else return []

/-- What a malformed attribute leads to. -/
def bgpAttrMalformed (peer : AttrPeer) (args : AttrArgs) (subcode length : Nat) (st : AttrState) :
    Parse (ParseRet × AttrState) := do
  if peer.sort ≠ .ebgp then
    let data ← notifyData args length
    return (.error, st.notifySend subcode data)
  else
    seek (args.startp + args.total)
    match attrType args.type with
    | .as4Aggregator | .aggregator | .atomicAggregate => return (.proceed, st)
    | .as4Path | .unknown =>
      if checkFlag args.flags flagTrans && checkFlag args.flags flagOptional && checkFlag args.flags flagPartial then
        return (.withdraw, st)
      else return (.error, st)
    | _ =>
      let data ← notifyData args length
      return (.error, st.notifySend subcode data)

def attrFlagsValues : List UInt8 :=
  [0, 0x40, 0x40, 0x40, 0x80, 0x40, 0x40, 0xC0, 0xC0, 0x80, 0x80, 0, 0, 0, 0x80, 0x80, 0xC0, 0xC0, 0xC0]

/-- Whether the flags are wrong for the type. -/
def bgpAttrFlagInvalid (args : AttrArgs) : Option Bool :=
  if args.type.toNat > attrFlagsValues.length then some false
  else do
    let value ← attrFlagsValues[args.type.toNat]?
    if value = 0 then some false
    else if ¬checkFlag args.flags flagOptional ∧ ¬checkFlag args.flags flagTrans then some true
    else if checkFlag args.flags flagPartial ∧
        (¬checkFlag args.flags flagOptional ∨ ¬checkFlag args.flags flagTrans) then some true
    else
      let mask := if checkFlag args.flags flagOptional ∧ checkFlag args.flags flagTrans then flagExtlen ||| flagPartial
        else flagExtlen
      some (args.flags &&& ~~~mask ≠ value)

/-- `BGP_NOTIFY_UPDATE_ATTR_LENG_ERR`, the subcode of a wrong length. -/
def attrLengErr : Nat := 5

section handlers

variable (peer : AttrPeer) (args : AttrArgs) (st : AttrState)

def bgpAttrOrigin : Parse (ParseRet × AttrState) :=
  if args.length ≠ 1 then bgpAttrMalformed peer args attrLengErr args.total st
  else do
    let origin ← streamGetc
    let st := { st with attr := { st.attr with origin := origin } }
    if origin ≠ 0 ∧ origin ≠ 1 ∧ origin ≠ 2 then bgpAttrMalformed peer args 6 args.total st
    else return (.proceed, st.setFlag .origin)

def bgpAttrAspath : Parse (ParseRet × AttrState) := do
  let aspath ← aspathParse args.length peer.as4Rcv
  let st := { st with attr := { st.attr with aspath := aspath } }
  match aspath with
  | none => bgpAttrMalformed peer args 11 0 st
  | some p => return (.proceed, { st with ashash := aspathIntern st.ashash p }.setFlag .asPath)

def bgpAttrAs4Path : Parse (ParseRet × AttrState) := do
  let aspath ← aspathParse args.length true
  let st := { st with as4Path := aspath }
  match aspath with
  | none => bgpAttrMalformed peer args 11 0 st
  | some p => return (.proceed, { st with ashash := aspathIntern st.ashash p }.setFlag .as4Path)

/-- `IPV4_NET0`, `IPV4_NET127` and `IPV4_CLASS_DE` -/
def martian (a : UInt32) : Bool :=
  a &&& 0xff000000 = 0 ∨ a &&& 0xff000000 = 0x7f000000 ∨ a &&& 0xe0000000 = 0xe0000000

def bgpAttrNexthop : Parse (ParseRet × AttrState) :=
  if args.length ≠ 4 then bgpAttrMalformed peer args attrLengErr args.total st
  else do
    let nexthop ← streamGetl
    if martian nexthop then bgpAttrMalformed peer args 8 args.total st
    else return (.proceed, { st with attr := { st.attr with nexthop := nexthop } }.setFlag .nextHop)

def bgpAttrMed : Parse (ParseRet × AttrState) :=
  if args.length ≠ 4 then bgpAttrMalformed peer args attrLengErr args.total st
  else do
    let med ← streamGetl
    return (.proceed, { st with attr := { st.attr with med := med } }.setFlag .multiExitDisc)

def bgpAttrLocalPref : Parse (ParseRet × AttrState) :=
  if args.length ≠ 4 then bgpAttrMalformed peer args attrLengErr args.total st
  else if peer.sort = .ebgp then do
    streamForwardGetp args.length
    return (.proceed, st)
  else do
    let localPref ← streamGetl
    return (.proceed, { st with attr := { st.attr with localPref := localPref } }.setFlag .localPref)

def bgpAttrAtomic : Parse (ParseRet × AttrState) :=
  if args.length ≠ 0 then bgpAttrMalformed peer args attrLengErr args.total st
  else return (.proceed, st.setFlag .atomicAggregate)

def bgpAttrAggregator : Parse (ParseRet × AttrState) :=
  let st := { st with attr := st.attr.setExtra id }
  let wantedlen := if peer.as4Rcv then 8 else 6
  if args.length ≠ wantedlen then bgpAttrMalformed peer args attrLengErr args.total st
  else do
    let as ← readAs peer.as4Rcv
    let addr ← streamGetl
    return (.proceed, { st with attr := st.attr.setExtra fun e =>
      { e with aggregatorAs := as, aggregatorAddr := addr } }.setFlag .aggregator)

def bgpAttrAs4Aggregator : Parse (ParseRet × AttrState) :=
  if args.length ≠ 8 then bgpAttrMalformed peer args attrLengErr 0 st
  else do
    let as ← streamGetl
    let addr ← streamGetl
    return (.proceed, { st with as4Aggregator := as, as4AggregatorAddr := addr }.setFlag .as4Aggregator)

def valuesOf (size : Nat) : Nat → List UInt8 → List (List UInt8)
  | 0, _ => []
  | n + 1, l => l.take size :: valuesOf size n (l.drop size)

def longOf : List UInt8 → UInt32
  | [a, b, c, d] => long a b c d
  | _ => 0

def communityParse (data : List UInt8) : Option (List UInt32) :=
  if data.length % 4 ≠ 0 then none
  else some (sortUnique (fun a b => decide (a < b)) ((valuesOf 4 (data.length / 4) data).map longOf))

def bgpAttrCommunity : Parse (ParseRet × AttrState) :=
  if args.length = 0 then return (.proceed, { st with attr := { st.attr with community := none } })
  else do
    let data ← take args.length
    let st := { st with attr := { st.attr with community := communityParse data } }
    if (communityParse data).isNone then bgpAttrMalformed peer args 9 args.total st
    else return (.proceed, st.setFlag .communities)

def bgpAttrOriginatorId : Parse (ParseRet × AttrState) :=
  if args.length ≠ 4 then bgpAttrMalformed peer args attrLengErr args.total st
  else do
    let id ← streamGetl
    return (.proceed, { st with attr := st.attr.setExtra fun e => { e with originatorId := id } }.setFlag .originatorId)

def bgpAttrClusterList : Parse (ParseRet × AttrState) :=
  if args.length % 4 ≠ 0 then bgpAttrMalformed peer args attrLengErr args.total st
  else do
    let data ← take args.length
    return (.proceed, { st with attr := st.attr.setExtra fun e => { e with cluster := some data } }.setFlag .clusterList)

/-- Lexicographic order, that of `memcmp`. -/
def bytesLt : List UInt8 → List UInt8 → Bool
  | a :: l, b :: m => if a < b then true else if b < a then false else bytesLt l m
  | [], _ :: _ => true
  | _, [] => false

def ecommunityParse (data : List UInt8) : Option (List (List UInt8)) :=
  if data.length % 8 ≠ 0 then none else some (sortUnique bytesLt (valuesOf 8 (data.length / 8) data))

def bgpAttrExtCommunities : Parse (ParseRet × AttrState) :=
  if args.length = 0 then
    return (.proceed, { st with
      attr := { st.attr with extra := st.attr.extra.map fun e => { e with ecommunity := none } } })
  else do
    let data ← take args.length
    let st := { st with attr := st.attr.setExtra fun e => { e with ecommunity := ecommunityParse data } }
    if (ecommunityParse data).isNone then bgpAttrMalformed peer args 9 args.total st
    else return (.proceed, st.setFlag .extCommunities)

def psize (prefixlen : UInt8) : Nat := (prefixlen.toNat + 7) / 8

/-- `bgp_nlri_sanity_check` of the bytes, all of which are there. -/
def bgpNlriSanityCheck (afi : UInt16) : Nat → List UInt8 → Bool
  | _, [] => true
  | 0, _ :: _ => false
  | fuel + 1, prefixlen :: l =>
    if afi = 1 ∧ prefixlen > 32 ∨ afi = 2 ∧ prefixlen > 128 then false
    else if psize prefixlen > l.length then false
    else bgpNlriSanityCheck afi fuel (l.drop (psize prefixlen))

def safiMplsLabeledVpn : UInt8 := 128

def isLinkLocal : List UInt8 → Bool
  | a :: b :: _ => a = 0xfe ∧ b &&& 0xc0 = 0x80
  | _ => false

/-- The next hop of `MP_REACH_NLRI`; it is missing where its length is wrong. -/
def mpNexthop (len : Nat) : Parse (Option AttrState) :=
  match len with
  | 4 => do
    let addr ← take 4
    let attr := st.attr.setExtra fun e => { e with mpNexthopGlobalIn := addr }
    return some { st with attr := if attr.nexthop = 0 then { attr with nexthop := longOf addr } else attr }
  | 12 => do
    let _ ← streamGetl
    let _ ← streamGetl
    let addr ← take 4
    return some { st with attr := st.attr.setExtra fun e => { e with mpNexthopGlobalIn := addr } }
  | 16 => do
    let addr ← take 16
    return some { st with attr := st.attr.setExtra fun e => { e with mpNexthopGlobal := addr } }
  | 32 => do
    let addr ← take 16
    let loc ← take 16
    return some { st with attr := st.attr.setExtra fun e =>
      { e with mpNexthopGlobal := addr, mpNexthopLocal := loc,
               mpNexthopLen := if isLinkLocal loc then e.mpNexthopLen else 16 } }
  | _ => return none

def bgpMpReachParse : Parse (ParseRet × AttrState) := do
  let st := { st with attr := st.attr.setExtra id }
  let start ← pos
  let enough ← enough args.length
  if !enough || decide (args.length < 5) then return (.error, st)
  else
    let afi ← streamGetw
    let safi ← streamGetc
    let len ← streamGetc
    let st := { st with attr := st.attr.setExtra fun e => { e with mpNexthopLen := len.toNat } }
    let getp ← pos
    if args.length - (getp - start) < len.toNat then return (.error, st)
    else
      let nexthop ← mpNexthop st len.toNat
      match nexthop with
      | none => return (.error, st)
      | some st =>
        let getp ← pos
        if args.length - (getp - start) = 0 then return (.error, st)
        else
          let _ ← streamGetc
          let getp ← pos
          let nlriLen := args.length - (getp - start)
          let enough ← Scan.enough nlriLen
          if decide (nlriLen = 0) || !enough then return (.error, st)
          else
            let nlri ← slice getp nlriLen
            if safi ≠ safiMplsLabeledVpn ∧ ¬bgpNlriSanityCheck afi nlriLen nlri then return (.error, st.notifySend 10 [])
            else
              streamForwardGetp nlriLen
              return (.proceed, { st with mpUpdate := ⟨afi, safi, nlri⟩ })

def bgpMpUnreachParse : Parse (ParseRet × AttrState) := do
  let enough ← enough args.length
  if !enough || decide (args.length < 3) then return (.error, st)
  else
    let afi ← streamGetw
    let safi ← streamGetc
    let withdrawLen := args.length - 3
    let getp ← pos
    let nlri ← slice getp withdrawLen
    if safi ≠ safiMplsLabeledVpn ∧ ¬bgpNlriSanityCheck afi withdrawLen nlri then return (.error, st.notifySend 10 [])
    else
      streamForwardGetp withdrawLen
      return (.proceed, { st with mpWithdraw := ⟨afi, safi, nlri⟩ })

def bgpAttrUnknown : Parse (ParseRet × AttrState) := do
  streamForwardGetp args.length
  if ¬checkFlag args.flags flagOptional then bgpAttrMalformed peer args 2 args.total st
  else if ¬checkFlag args.flags flagTrans then return (.proceed, st)
  else fail

def handleAttr : Parse (ParseRet × AttrState) :=
  match attrType args.type with
  | .origin => bgpAttrOrigin peer args st
  | .asPath => bgpAttrAspath peer args st
  | .as4Path => bgpAttrAs4Path peer args st
  | .nextHop => bgpAttrNexthop peer args st
  | .multiExitDisc => bgpAttrMed peer args st
  | .localPref => bgpAttrLocalPref peer args st
  | .atomicAggregate => bgpAttrAtomic peer args st
  | .aggregator => bgpAttrAggregator peer args st
  | .as4Aggregator => bgpAttrAs4Aggregator peer args st
  | .communities => bgpAttrCommunity peer args st
  | .originatorId => bgpAttrOriginatorId peer args st
  | .clusterList => bgpAttrClusterList peer args st
  | .mpReachNlri => bgpMpReachParse args st
  | .mpUnreachNlri => bgpMpUnreachParse args st
  | .extCommunities => bgpAttrExtCommunities peer args st
  | .unknown => bgpAttrUnknown peer args st

end handlers

/-- `if (as4_path) aspath_unintern (&as4_path)` -/
def dropAs4Path (st : AttrState) : Option AttrState :=
  match st.as4Path with
  | none => some st
  | some p => do
    let ashash ← aspathUnintern st.ashash (some p)
    some { st with ashash := ashash, as4Path := none }

def afterHandler (attrEndp : Nat) (ret : ParseRet) (st : AttrState) : Parse (ParseRet × AttrState) := do
  match ret with
  | .error =>
    let st ← StateT.lift (dropAs4Path (st.notifySend 1 []))
    return (.error, st)
  | .withdraw =>
    let st ← StateT.lift (dropAs4Path st)
    return (.withdraw, st)
  | .proceed =>
    let getp ← pos
    if getp ≠ attrEndp then
      let st ← StateT.lift (dropAs4Path (st.notifySend attrLengErr []))
      return (.error, st)
    else return (.proceed, st)

def attrLength (flag : UInt8) : Parse Nat :=
  if checkFlag flag flagExtlen then do
    let length ← streamGetw
    return length.toNat
  else do
    let length ← streamGetc
    return length.toNat

/-- The attribute `args`, which ends at `attrEndp`; the handlers are given. -/
def attrBody (peer : AttrPeer) (handle : AttrArgs → AttrState → Parse (ParseRet × AttrState)) (args : AttrArgs)
    (attrEndp : Nat) (st : AttrState) : Parse (ParseRet × AttrState) := do
  let invalid ← StateT.lift (bgpAttrFlagInvalid args)
  if invalid then bgpAttrMalformed peer args 4 args.total st
  else
    let (ret, st) ← handle args st
    afterHandler attrEndp ret st

def attrStep (peer : AttrPeer) (handle : AttrArgs → AttrState → Parse (ParseRet × AttrState)) (endp : Nat)
    (seen : List UInt8) (st : AttrState) : Parse (ParseRet × List UInt8 × AttrState) := do
  let startp ← pos
  if endp - startp < 3 then return (.error, seen, st.notifySend attrLengErr [])
  else
    let flag ← streamGetc
    let flag := 0xF0 &&& flag
    let type ← streamGetc
    if checkFlag flag flagExtlen ∧ endp - startp < 4 then return (.error, seen, st.notifySend attrLengErr [])
    else
      let length ← attrLength flag
      if type ∈ seen then return (.error, seen, st.notifySend 1 [])
      else
        let getp ← pos
        let attrEndp := getp + length
        if attrEndp > endp then return (.error, type :: seen, st.notifySend attrLengErr [])
        else
          let (ret, st) ← attrBody peer handle ⟨type, flag, length, startp, attrEndp - startp⟩ attrEndp st
          return (ret, type :: seen, st)

/-- The loop over the attributes of an UPDATE. -/
def attrLoop (peer : AttrPeer) (handle : AttrArgs → AttrState → Parse (ParseRet × AttrState)) (endp : Nat) :
    Nat → List UInt8 → AttrState → Parse (ParseRet × AttrState)
  | 0, _, _ => fail
  | fuel + 1, seen, st => do
    let getp ← pos
    if getp < endp then
      let (ret, seen, st) ← attrStep peer handle endp seen st
      match ret with
      | .proceed => attrLoop peer handle endp fuel seen st
      | ret => return (ret, st)
    else return (.proceed, st)

def bgpAsTrans : UInt32 := 23456

/-- The first part of `bgp_attr_munge_as4_attrs`, about the aggregators; it says whether to ignore `AS4_PATH`. -/
def mungeAggregator (st : AttrState) : Option (Bool × AttrState) :=
  if st.attr.flag .as4Aggregator then
    if st.attr.flag .aggregator then do
      let attre ← st.attr.extra
      if attre.aggregatorAs ≠ bgpAsTrans then some (true, st)
      else some (false, { st with attr := st.attr.setExtra fun e =>
        { e with aggregatorAs := st.as4Aggregator, aggregatorAddr := st.as4AggregatorAddr } })
    else some (false, { st with attr := st.attr.setExtra fun e =>
        { e with aggregatorAs := st.as4Aggregator } }.setFlag .aggregator)
  else some (false, st)

def mungeAspath (st : AttrState) : Option AttrState := do
  let as4Path ← st.as4Path
  let newpath ← aspathReconcileAs4 st.attr.aspath as4Path
  let ashash ← aspathUnintern st.ashash st.attr.aspath
  some { st with ashash := aspathIntern ashash newpath, attr := { st.attr with aspath := some newpath } }

/-- Merges the four-byte attributes into the others. -/
def bgpAttrMungeAs4Attrs (peer : AttrPeer) (st : AttrState) : Option AttrState :=
  if peer.as4Rcv then some st
  else do
    let (ignoreAs4Path, st) ← mungeAggregator st
    if !ignoreAs4Path && st.attr.flag .as4Path then mungeAspath st
    else some st

def bgpAttrAspathCheck (peer : AttrPeer) (st : AttrState) : Option (ParseRet × AttrState) := do
  let aspath ← st.attr.aspath
  if (peer.sort = .confed ∧ ¬aspathLeftConfedCheck aspath) ∨ (peer.sort = .ebgp ∧ aspathConfedCheck aspath) then
    some (.error, st.notifySend 11 [])
  else if peer.enforceFirstAs ∧ peer.sort = .ebgp ∧ ¬aspathFirstasCheck aspath peer.as then
    some (.error, st.notifySend 11 [])
  else if peer.changeLocalAs ≠ 0 ∧ ¬peer.localAsNoPrepend then do
    let newpath := aspathAddSeq (aspathDup aspath) peer.changeLocalAs
    let ashash ← aspathUnintern st.ashash (some aspath)
    some (.proceed, { st with ashash := aspathIntern ashash newpath, attr := { st.attr with aspath := some newpath } })
  else some (.proceed, st)

def attrFinish (peer : AttrPeer) (endp : Nat) (st : AttrState) : Parse (ParseRet × AttrState) := do
  let getp ← pos
  if getp ≠ endp then
    let st ← StateT.lift (dropAs4Path (st.notifySend attrLengErr []))
    return (.error, st)
  else
    let st ← StateT.lift (bgpAttrMungeAs4Attrs peer st)
    let st ← StateT.lift (dropAs4Path st)
    if st.attr.flag .asPath then
      StateT.lift (bgpAttrAspathCheck peer st)
    else return (.proceed, st)

def attrParseWith (peer : AttrPeer) (handle : AttrArgs → AttrState → Parse (ParseRet × AttrState)) (size : Nat)
    (ashash : AsTable) : Parse (ParseRet × AttrState) := do
  let getp ← pos
  let (ret, st) ← attrLoop peer handle (getp + size) (size + 1) [] (.init ashash)
  match ret with
  | .proceed => attrFinish peer (getp + size) st
  | ret => return (ret, st)

/-- Reads the path attributes of an UPDATE. -/
def bgpAttrParse (peer : AttrPeer) (size : Nat) (ashash : AsTable) : Parse (ParseRet × AttrState) :=
  attrParseWith peer (handleAttr peer) size ashash

end OspfMdr.Bgp
