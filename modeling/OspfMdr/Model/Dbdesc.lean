import OspfMdr.Model.Basic
import OspfMdr.Model.Lsa

/-!
# Database exchange (`ospf6_message.c`, `ospf6_neighbor.c`)

One neighbor with its threads. `thread_add_event` puts a thread behind the waiting events;
`thread_fetch` moves the events to the ready threads before it reads the next packet. The
retransmission list is not part of this model.
-/

namespace OspfMdr.Ospf6
open NeighborState

structure DdOptions where
  other : BitVec 23
  l : Bool
  deriving DecidableEq, Repr

def DdOptions.clearL (o : DdOptions) : DdOptions := { o with l := false }

structure DbdescBits where
  reserved : BitVec 5
  i : Bool
  m : Bool
  ms : Bool
  deriving DecidableEq, Repr

/-- The header of a Database Description packet. -/
structure Dbdesc where
  reserved1 : UInt8
  options : DdOptions
  ifmtu : UInt16
  reserved2 : UInt8
  bits : DbdescBits
  seqnum : UInt32
  deriving DecidableEq, Repr

structure DbdescPacket where
  dbdesc : Dbdesc
  headers : List LsaHeader
  deriving DecidableEq, Repr

inductive DdTask
  | dbdescSend
  | dbdescSendNewone
  | exchangeDone
  | seqnumberMismatch
  deriving DecidableEq, Repr

/-- An entry taken off the summary list, the header received and the database copy it was compared with. -/
structure DdDrop where
  entry : Lsa
  his : Lsa
  mine : Lsa
  now : Int
  deriving DecidableEq, Repr

/-- A record that no function reads: the summary list at NegotiationDone, the headers heard and the entries
dropped since, the last header accepted since ExStart, the last sequence number sent and the headers first sent
with it. -/
structure DdLog where
  start : List Lsa
  heard : List LsaHeader
  dropped : List DdDrop
  accepted : Option Dbdesc
  sent : Option (UInt32 × List LsaHeader)
  deriving DecidableEq, Repr

def DdLog.record (log : DdLog) (seqnum : UInt32) (headers : List LsaHeader) :
    Option (UInt32 × List LsaHeader) :=
  if log.sent.map Prod.fst = some seqnum then log.sent else some (seqnum, headers)

/-- `rxmt` is that `thread_send_dbdesc` is a timer. -/
structure DdNeighbor where
  state : NeighborState
  options : DdOptions
  dbdescBits : DbdescBits
  dbdescSeqnum : UInt32
  dbdescLast : Dbdesc
  summaryList : List Lsa
  requestList : List Lsa
  dbdescList : List Lsa
  rxmt : Bool
  ready : List DdTask
  event : List DdTask
  log : DdLog
  deriving DecidableEq, Repr

def DdTask.isSend : DdTask → Bool
  | .dbdescSend | .dbdescSendNewone => true
  | .exchangeDone | .seqnumberMismatch => false

variable (env : DdEnv) (dbdesc : Dbdesc) (headers : List LsaHeader) (on : DdNeighbor)

def DdNeighbor.sendOff : DdNeighbor :=
  { on with
    rxmt := false
    ready := on.ready.filter fun t => ¬t.isSend
    event := on.event.filter fun t => ¬t.isSend }

def DdNeighbor.addEvent (task : DdTask) (on : DdNeighbor) : DdNeighbor :=
  { on with event := on.event ++ [task] }

def DdNeighbor.clearLists : DdNeighbor :=
  { on with summaryList := [], requestList := [] }

def exstartWith (dbdescSeqnum : UInt32) (on : DdNeighbor) : DdNeighbor :=
  let on := { on with
    state := .exstart
    dbdescBits := { on.dbdescBits with i := true, m := true, ms := true }
    dbdescSeqnum := dbdescSeqnum
    log := { on.log with accepted := none, sent := none } }
  on.sendOff.addEvent .dbdescSend

structure LsDbs where
  link : List Lsa
  area : List Lsa
  as : List Lsa
  deriving DecidableEq, Repr

def LsDbs.scoped (dbs : LsDbs) : LsaScope → List Lsa
  | .linklocal => dbs.link
  | .area => dbs.area
  | .as => dbs.as
  | .reserved => []

/-- What a call reads of its surroundings; `deferred` is that `adjacency_formation_limit` defers ExStart. -/
structure DdEnv where
  mdr : Bool
  needAdjacency : Bool
  deferred : Bool
  now : Int
  ifmtu : UInt16
  mtuIgnore : Bool
  stub : Bool
  dbs : LsDbs
  deriving DecidableEq, Repr

def ospf6NeighborExstart : DdNeighbor :=
  if env.deferred then on else exstartWith (UInt32.ofNat (env.now % 2 ^ 32).toNat) on

def addSummary (now : Int) (lsdb summary : List Lsa) : List Lsa :=
  lsdb.foldl (fun l lsa => if isMaxage now lsa then l else ospf6LsdbAdd (ospf6LsaCopy now lsa) l) summary

def negotiationDone : DdNeighbor :=
  if on.state ≠ .exstart then on
  else
    let summaryList := addSummary env.now env.dbs.as
      (addSummary env.now env.dbs.area (addSummary env.now env.dbs.link []))
    { on with
      summaryList := summaryList
      requestList := []
      dbdescBits := { on.dbdescBits with i := false }
      state := .exchange
      log := { on.log with start := summaryList, heard := [], dropped := [] } }

def exchangeDone : DdNeighbor :=
  if on.state ≠ .exchange then on
  else
    { on.sendOff with
      dbdescList := []
      state := if on.requestList = [] then .full else .loading }

def loadingDone : DdNeighbor :=
  if on.state = .loading ∧ on.requestList = [] then { on with state := .full } else on

def adjOk : DdNeighbor :=
  if on.state = .twoway ∧ env.needAdjacency then ospf6NeighborExstart env on
  else if on.state.toNat ≥ exstart.toNat ∧ ¬env.needAdjacency then
    ({ on with state := .twoway } : DdNeighbor).clearLists
  else on

def ospf6UpdateAdjacencies (keepAdjacency : Bool) (on : DdNeighbor) : DdNeighbor :=
  let on :=
    if on.state = .twoway ∧ env.needAdjacency then ospf6NeighborExstart env on else on
  if on.state.toNat > twoway.toNat ∧ ¬keepAdjacency then
    ({ on with state := .twoway } : DdNeighbor).clearLists
  else on

def seqnumberMismatch : DdNeighbor :=
  if on.state.toNat < exchange.toNat then on
  else exstartWith (on.dbdescSeqnum + 1) on.clearLists

def badLsreq : DdNeighbor :=
  if on.state.toNat < exchange.toNat then on
  else exstartWith (on.dbdescSeqnum + 1) on.clearLists

def onewayReceived : DdNeighbor :=
  if on.state.toNat < twoway.toNat then on
  else ({ on with state := .init } : DdNeighbor).clearLists.sendOff

def helloReceived : DdNeighbor :=
  if on.state.toNat ≤ down.toNat then { on with state := .init } else on

def twowayReceived : DdNeighbor :=
  if on.state.toNat > init.toNat then on
  else if env.mdr then
    if on.state = .init then { on with state := .twoway } else on
  else if ¬env.needAdjacency then { on with state := .twoway }
  else ospf6NeighborExstart env on

/-- What a received packet led to. -/
inductive DdOutcome
  | ignored
  | duplicate
  | mismatch
  | accepted
  deriving DecidableEq, Repr

/-- A header that is new or more recent is requested; one that is not less recent drops the summary entry. -/
def processHeader (header : LsaHeader) : DdNeighbor :=
  let his := ospf6LsaCreate env.now header
  match ospf6LsdbLookup his.key (env.dbs.scoped (ospf6LsaScope header.type)) with
  | none =>
    { on with
      requestList := ospf6LsdbAdd his on.requestList
      log := { on.log with heard := on.log.heard ++ [header] } }
  | some mine =>
    let requestList :=
      if ospf6LsaCompare env.now his mine < 0 then ospf6LsdbAdd his on.requestList
      else on.requestList
    match ospf6LsdbLookup his.key on.summaryList with
    | none =>
      { on with requestList, log := { on.log with heard := on.log.heard ++ [header] } }
    | some entry =>
      if ospf6LsaCompare env.now his mine ≤ 0 then
        { on with
          requestList
          summaryList := ospf6LsdbRemove entry on.summaryList
          log := { on.log with
            heard := on.log.heard ++ [header]
            dropped := on.log.dropped ++ [⟨entry, his, mine, env.now⟩] } }
      else { on with requestList, log := { on.log with heard := on.log.heard ++ [header] } }

/-- The loop over the LSA headers. It ends early at a header that a stub area must not have. -/
def processHeaders (env : DdEnv) (rejects : LsaHeader → Bool) :
    List LsaHeader → DdNeighbor → DdNeighbor × Bool
  | [], on => (on, true)
  | h :: headers, on =>
    if ospf6LsaScope h.type = .reserved then processHeaders env rejects headers on
    else if env.stub ∧ rejects h then (on, false)
    else processHeaders env rejects headers (processHeader env on h)

def DdNeighbor.mismatch (on : DdNeighbor) : DdNeighbor × DdOutcome :=
  (on.addEvent .seqnumberMismatch, .mismatch)

/-- `raw` is the header as it was received. -/
def acceptMaster (raw dbdesc : Dbdesc) (headers : List LsaHeader) (on : DdNeighbor) :
    DdNeighbor × DdOutcome :=
  match processHeaders env (fun h => h.type = lstypeAsExternal) headers on with
  | (on, false) => on.mismatch
  | (on, true) =>
    let on := { on with dbdescSeqnum := on.dbdescSeqnum + 1 }.sendOff
    let on :=
      if ¬dbdesc.bits.m ∧ ¬on.dbdescBits.m then on.addEvent .exchangeDone
      else on.addEvent .dbdescSendNewone
    ({ on with dbdescLast := dbdesc, log := { on.log with accepted := some raw } }, .accepted)

def exchangeMaster : DdNeighbor × DdOutcome :=
  if dbdesc = on.dbdescLast then (on, .duplicate)
  else if dbdesc.bits.ms then on.mismatch
  else if dbdesc.bits.i then on.mismatch
  else
    let on := { on with options := on.options.clearL }
    let cleared := { dbdesc with options := dbdesc.options.clearL }
    if on.options ≠ cleared.options then on.mismatch
    else if cleared.seqnum ≠ on.dbdescSeqnum then on.mismatch
    else acceptMaster env dbdesc cleared headers on

def Dbdesc.obeys : Prop :=
  dbdesc.bits.ms = false ∧ dbdesc.bits.i = false ∧ dbdesc.seqnum = on.dbdescSeqnum
  deriving Decidable

def exstartMaster : DdNeighbor × DdOutcome :=
  if dbdesc.obeys on then
    exchangeMaster env dbdesc headers { negotiationDone env on with options := dbdesc.options }
  else (on, .ignored)

/-- A packet from the slave. -/
def ospf6DbdescRecvMaster : DdNeighbor × DdOutcome :=
  match on.state with
  | .down | .attempt => (on, .ignored)
  | .twoway => (on, .ignored)
  | .init =>
    let on := twowayReceived env on
    if on.state ≠ .exstart then (on, .ignored) else exstartMaster env dbdesc headers on
  | .exstart => exstartMaster env dbdesc headers on
  | .exchange => exchangeMaster env dbdesc headers on
  | .loading | .full => if dbdesc = on.dbdescLast then (on, .duplicate) else on.mismatch

def acceptSlave (raw dbdesc : Dbdesc) (headers : List LsaHeader) (on : DdNeighbor) :
    DdNeighbor × DdOutcome :=
  match processHeaders env (fun h => ospf6LsaScope h.type = .as) headers on with
  | (on, false) => on.mismatch
  | (on, true) =>
    let on := { on with dbdescSeqnum := dbdesc.seqnum }.sendOff.addEvent .dbdescSendNewone
    ({ on with dbdescLast := dbdesc, log := { on.log with accepted := some raw } }, .accepted)

/-- A duplicate makes the slave send its last packet again. -/
def DdNeighbor.duplicateSlave : DdNeighbor × DdOutcome :=
  (on.sendOff.addEvent .dbdescSend, .duplicate)

def exchangeSlave : DdNeighbor × DdOutcome :=
  if dbdesc = on.dbdescLast then on.duplicateSlave
  else if ¬dbdesc.bits.ms then on.mismatch
  else if dbdesc.bits.i then on.mismatch
  else
    let on := { on with options := on.options.clearL }
    let cleared := { dbdesc with options := dbdesc.options.clearL }
    if on.options ≠ cleared.options then on.mismatch
    else if cleared.seqnum ≠ on.dbdescSeqnum + 1 then on.mismatch
    else acceptSlave env dbdesc cleared headers on

def exstartSlave : DdNeighbor × DdOutcome :=
  if dbdesc.bits.i ∧ dbdesc.bits.m ∧ dbdesc.bits.ms ∧ headers = [] then
    let on := { on with
      dbdescBits := { on.dbdescBits with ms := false }, dbdescSeqnum := dbdesc.seqnum }
    acceptSlave env dbdesc dbdesc headers { negotiationDone env on with options := dbdesc.options }
  else (on, .ignored)

/-- A packet from the master. -/
def ospf6DbdescRecvSlave : DdNeighbor × DdOutcome :=
  match on.state with
  | .down | .attempt => (on, .ignored)
  | .twoway => (on, .ignored)
  | .init =>
    let on := twowayReceived env on
    if on.state ≠ .exstart then (on, .ignored) else exstartSlave env dbdesc headers on
  | .exstart => exstartSlave env dbdesc headers on
  | .exchange => exchangeSlave env dbdesc headers on
  | .loading | .full => if dbdesc = on.dbdescLast then on.duplicateSlave else on.mismatch

def mdrEnter (own nbr : UInt32) (env : DdEnv) (on : DdNeighbor) : DdNeighbor :=
  if env.mdr then
    let on := if on.state = .init then { on with state := .twoway } else on
    if on.state = .twoway ∧ env.needAdjacency then
      let on := ospf6NeighborExstart env on
      if own < nbr then on.sendOff else on
    else on
  else on

/-- `own` and `nbr` are the router ids of the receiver and of the sender. -/
def ospf6DbdescRecv (own nbr : UInt32) (env : DdEnv) (packet : DbdescPacket) (on : DdNeighbor) :
    DdNeighbor × DdOutcome :=
  if ¬env.mtuIgnore ∧ packet.dbdesc.ifmtu ≠ env.ifmtu then (on, .ignored)
  else
    let dbdesc := { packet.dbdesc with reserved1 := 0, reserved2 := 0 }
    let on := mdrEnter own nbr env on
    if nbr < own then ospf6DbdescRecvMaster env dbdesc packet.headers on
    else if own < nbr then ospf6DbdescRecvSlave env dbdesc packet.headers on
    else (on, .ignored)

/-- What a sent packet takes from the interface and the area; `lls` is that an initial packet
has a link-local signaling block. -/
structure DdConfig where
  options : DdOptions
  ifmtu : UInt16
  packetMax : Nat
  transdelay : Nat
  lls : Bool
  deriving DecidableEq, Repr

/-- The entries after sending, and the LSA headers that fit into the packet from `pos` on. -/
def sendHeaders (cfg : DdConfig) (now : Int) : Nat → List Lsa → List Lsa × List LsaHeader
  | _, [] => ([], [])
  | pos, lsa :: l =>
    let lsa := ospf6LsaAgeUpdateToSend now cfg.transdelay lsa
    if pos + 20 > cfg.packetMax then (lsa :: l, [])
    else
      let (l, headers) := sendHeaders cfg now (pos + 20) l
      (lsa :: l, lsa.header :: headers)

def ospf6DbdescSend (cfg : DdConfig) (now : Int) (on : DdNeighbor) :
    DdNeighbor × Option DbdescPacket :=
  let on := { on with rxmt := false }
  if on.state.toNat < exstart.toNat then (on, none)
  else
    let on := { on with rxmt := on.dbdescBits.ms }
    let dbdesc : Dbdesc := ⟨0, cfg.options, cfg.ifmtu, 0, on.dbdescBits, on.dbdescSeqnum⟩
    if ¬on.dbdescBits.i then
      let (dbdescList, headers) := sendHeaders cfg now 28 on.dbdescList
      let log := { on.log with sent := on.log.record on.dbdescSeqnum headers }
      ({ on with dbdescList, log }, some ⟨dbdesc, headers⟩)
    else if cfg.lls then
      (on, some ⟨{ dbdesc with options := { dbdesc.options with l := true } }, []⟩)
    else (on, some ⟨dbdesc, []⟩)

def moveSummary (cfg : DdConfig) (now : Int) : Nat → List Lsa → List Lsa → List Lsa × List Lsa
  | _, [], dbdescList => ([], dbdescList)
  | size, lsa :: l, dbdescList =>
    if size + 20 > cfg.packetMax then (lsa :: l, dbdescList)
    else moveSummary cfg now (size + 20) l (ospf6LsdbAdd (ospf6LsaCopy now lsa) dbdescList)

def ospf6DbdescSendNewone (cfg : DdConfig) (now : Int) (on : DdNeighbor) :
    DdNeighbor × Option DbdescPacket :=
  let (summaryList, dbdescList) := moveSummary cfg now 32 on.summaryList []
  let on := { on with
    summaryList, dbdescList
    dbdescBits := { on.dbdescBits with m := on.dbdescBits.m && ¬summaryList = [] } }
  let on :=
    if ¬on.dbdescBits.ms ∧ ¬on.dbdescLast.bits.m ∧ ¬on.dbdescBits.m then on.addEvent .exchangeDone
    else on
  ospf6DbdescSend cfg now on

/-- A neighbor, and whether a packet may be read behind the ready threads. -/
structure DdSys where
  on : DdNeighbor
  armed : Bool
  deriving DecidableEq, Repr

inductive DdEvent
  | fetch
  | run (now : Int)
  | packet (env : DdEnv) (packet : DbdescPacket)
  | retransmit (now : Int)
  | hello
  | oneway
  | twoway (env : DdEnv)
  | adjOk (env : DdEnv)
  | update (env : DdEnv) (keepAdjacency : Bool)
  | badLsreq
  | loaded
  | unrequest (key : Nat)
  | recreate
  deriving DecidableEq, Repr

structure DdResult where
  sys : DdSys
  sent : Option DbdescPacket
  outcome : Option DdOutcome
  deriving DecidableEq, Repr

def newDdNeighbor : DdNeighbor where
  state := .down
  options := ⟨0, false⟩
  dbdescBits := ⟨0, false, false, false⟩
  dbdescSeqnum := 0
  dbdescLast := ⟨0, ⟨0, false⟩, 0, 0, ⟨0, false, false, false⟩, 0⟩
  summaryList := []
  requestList := []
  dbdescList := []
  rxmt := false
  ready := []
  event := []
  log := ⟨[], [], [], none, none⟩

def runTask (cfg : DdConfig) (now : Int) (task : DdTask) (on : DdNeighbor) :
    DdNeighbor × Option DbdescPacket :=
  match task with
  | .dbdescSend => ospf6DbdescSend cfg now on
  | .dbdescSendNewone => ospf6DbdescSendNewone cfg now on
  | .exchangeDone => (exchangeDone on, none)
  | .seqnumberMismatch => (seqnumberMismatch on, none)

def DdSys.local (s : DdSys) (on : DdNeighbor) : DdResult := ⟨{ s with on }, none, none⟩

/-- A thread runs, or the ready threads are fetched. A packet is read after the events waiting by then. -/
def ddStep (own nbr : UInt32) (cfg : DdConfig) (s : DdSys) : DdEvent → DdResult
  | .fetch =>
    if s.on.ready = [] then
      ⟨{ on := { s.on with ready := s.on.event, event := [] }, armed := true }, none, none⟩
    else s.local s.on
  | .run now =>
    match s.on.ready with
    | [] => s.local s.on
    | task :: ready =>
      let (on, sent) := runTask cfg now task { s.on with ready }
      ⟨{ s with on }, sent, none⟩
  | .packet env packet =>
    if s.on.ready = [] ∧ s.armed = true then
      let (on, outcome) := ospf6DbdescRecv own nbr env packet s.on
      ⟨{ on, armed := false }, none, some outcome⟩
    else s.local s.on
  | .retransmit now =>
    if s.on.rxmt then
      let (on, sent) := ospf6DbdescSend cfg now s.on
      ⟨{ s with on }, sent, none⟩
    else s.local s.on
  | .hello => s.local (helloReceived s.on)
  | .oneway => s.local (onewayReceived s.on)
  | .twoway env => s.local (twowayReceived env s.on)
  | .adjOk env => s.local (Ospf6.adjOk env s.on)
  | .update env keepAdjacency => s.local (ospf6UpdateAdjacencies env keepAdjacency s.on)
  | .badLsreq => s.local (Ospf6.badLsreq s.on)
  | .loaded => s.local (loadingDone s.on)
  | .unrequest key =>
    s.local { s.on with requestList := s.on.requestList.filter fun lsa => lsa.key ≠ key }
  | .recreate => s.local newDdNeighbor

def ddRun (own nbr : UInt32) (cfg : DdConfig) (s : DdSys) (events : List DdEvent) : DdSys :=
  events.foldl (fun s e => (ddStep own nbr cfg s e).sys) s

def ddInit : DdSys := ⟨newDdNeighbor, false⟩

def installInto (now : Int) (lsa : Lsa) (lsdb : List Lsa) : List Lsa :=
  match ospf6LsdbLookup lsa.key lsdb with
  | none => ospf6LsdbAdd lsa lsdb
  | some old => if ospf6LsaCompare now lsa old < 0 then ospf6LsdbAdd lsa lsdb else lsdb

def LsDbs.install (now : Int) (lsa : Lsa) (dbs : LsDbs) : LsDbs :=
  match ospf6LsaScope lsa.header.type with
  | .linklocal => { dbs with link := installInto now lsa dbs.link }
  | .area => { dbs with area := installInto now lsa dbs.area }
  | .as => { dbs with as := installInto now lsa dbs.as }
  | .reserved => dbs

/-- Two routers with each other as neighbor, the packets on the way to the slave and to the
master, and the databases. -/
structure DdPair where
  master : DdSys
  slave : DdSys
  ms : List DbdescPacket
  sm : List DbdescPacket
  mdb : LsDbs
  sdb : LsDbs
  deriving DecidableEq, Repr

/-- A packet may arrive twice (`keep`) or be lost. -/
inductive PairEvent
  | master (e : DdEvent)
  | slave (e : DdEvent)
  | toSlave (env : DdEnv) (keep : Bool)
  | toMaster (env : DdEnv) (keep : Bool)
  | loseToSlave
  | loseToMaster
  | installMaster (now : Int) (lsa : Lsa)
  | installSlave (now : Int) (lsa : Lsa)
  deriving DecidableEq, Repr

structure PairConfig where
  mid : UInt32
  sid : UInt32
  mcfg : DdConfig
  scfg : DdConfig
  deriving DecidableEq, Repr

def DdEvent.isPacket : DdEvent → Bool
  | .packet _ _ => true
  | _ => false

/-- One event of two routers that exchange their databases. -/
def pairStep (c : PairConfig) (p : DdPair) : PairEvent → DdPair
  | .master e =>
    if e.isPacket then p
    else
      let r := ddStep c.mid c.sid c.mcfg p.master e
      { p with master := r.sys, ms := p.ms ++ r.sent.toList }
  | .slave e =>
    if e.isPacket then p
    else
      let r := ddStep c.sid c.mid c.scfg p.slave e
      { p with slave := r.sys, sm := p.sm ++ r.sent.toList }
  | .toSlave env keep =>
    match p.ms with
    | [] => p
    | packet :: rest =>
      if p.slave.on.ready = [] ∧ p.slave.armed = true then
        { p with
          slave := (ddStep c.sid c.mid c.scfg p.slave (.packet { env with dbs := p.sdb } packet)).sys
          ms := if keep then p.ms else rest }
      else p
  | .toMaster env keep =>
    match p.sm with
    | [] => p
    | packet :: rest =>
      if p.master.on.ready = [] ∧ p.master.armed = true then
        { p with
          master := (ddStep c.mid c.sid c.mcfg p.master (.packet { env with dbs := p.mdb } packet)).sys
          sm := if keep then p.sm else rest }
      else p
  | .loseToSlave => { p with ms := p.ms.tail }
  | .loseToMaster => { p with sm := p.sm.tail }
  | .installMaster now lsa => { p with mdb := p.mdb.install now lsa }
  | .installSlave now lsa => { p with sdb := p.sdb.install now lsa }

def pairRun (c : PairConfig) (p : DdPair) (events : List PairEvent) : DdPair :=
  events.foldl (pairStep c) p

end OspfMdr.Ospf6
