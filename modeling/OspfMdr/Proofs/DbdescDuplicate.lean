import OspfMdr.Lib.Run
import OspfMdr.Model.Dbdesc

namespace OspfMdr.Ospf6
open Lib List NeighborState

/-- The neighbor without its lists of LSAs and what the log says of them. -/
def DdNeighbor.core (on : DdNeighbor) : DdNeighbor :=
  { on with
    summaryList := []
    requestList := []
    log := { on.log with heard := [], dropped := [] } }

lemma processHeader_core (env : DdEnv) (on : DdNeighbor) (header : LsaHeader) :
    (processHeader env on header).core = on.core := by
  unfold processHeader
  dsimp only
  split
  · rfl
  · split
    · rfl
    · split_ifs <;> rfl

lemma processHeaders_core (env : DdEnv) (rejects : LsaHeader → Bool) (headers : List LsaHeader)
    (on : DdNeighbor) : (processHeaders env rejects headers on).1.core = on.core := by
  induction headers generalizing on with
  | nil => rfl
  | cons h headers ih =>
    unfold processHeaders
    split_ifs
    · exact ih on
    · rfl
    · exact (ih _).trans (processHeader_core env on h)

/-- The flags, the sequence number and the options of `q`, where the L bit may be cleared. -/
def Dbdesc.Repeats (p q : Dbdesc) : Prop :=
  p.bits = q.bits ∧ p.seqnum = q.seqnum ∧ (p.options = q.options ∨ p.options = q.options.clearL)

/-- The last description kept is the last one accepted. -/
def DdNeighbor.Remembers (on : DdNeighbor) : Prop :=
  ∃ q, on.log.accepted = some q ∧ on.dbdescLast.Repeats q

/-- `armed` is that a packet may be read once the ready threads have run. -/
structure DuplicateInv (armed : Bool) (on : DdNeighbor) : Prop where
  exstart : on.state = .exstart → on.log.accepted = none
  exchange : exchange.toNat ≤ on.state.toNat → on.Remembers ∨
    .seqnumberMismatch ∈ on.ready ∨ (.seqnumberMismatch ∈ on.event ∧ armed = false)

namespace DuplicateInv

variable {armed : Bool} {on : DdNeighbor}

lemma of_lt (hstate : decide (on.state.toNat < NeighborState.exstart.toNat)) : DuplicateInv armed on := by
  have hlt : on.state.toNat < 5 := of_decide_eq_true hstate
  constructor
  · intro h
    rw [h] at hlt
    exact absurd hlt (by decide)
  · intro h
    exact absurd (lt_of_le_of_lt h hlt) (by decide)

section
variable (h : DuplicateInv armed on)
include h

lemma congr {on' : DdNeighbor}
    (hexstart : on'.state = .exstart → on.state = .exstart)
    (hexchange : NeighborState.exchange.toNat ≤ on'.state.toNat → NeighborState.exchange.toNat ≤
      on.state.toNat) (hlast : on'.dbdescLast = on.dbdescLast)
    (haccepted : on'.log.accepted = on.log.accepted)
    (hready : .seqnumberMismatch ∈ on.ready → .seqnumberMismatch ∈ on'.ready)
    (hevent : .seqnumberMismatch ∈ on.event → .seqnumberMismatch ∈ on'.event) :
    DuplicateInv armed on' := by
  constructor
  · intro he
    rw [haccepted]
    exact h.exstart (hexstart he)
  · intro he
    rcases h.exchange (hexchange he) with ⟨q, hq, hsaved⟩ | hmem | ⟨hmem, harmed⟩
    · exact .inl ⟨q, haccepted.trans hq, hlast ▸ hsaved⟩
    · exact .inr (.inl (hready hmem))
    · exact .inr (.inr ⟨hevent hmem, harmed⟩)

lemma sendOff : DuplicateInv armed on.sendOff :=
  h.congr id id rfl rfl (fun hm => mem_filter.mpr ⟨hm, rfl⟩)
    (fun hm => mem_filter.mpr ⟨hm, rfl⟩)

lemma addEvent (task : DdTask) : DuplicateInv armed (on.addEvent task) :=
  h.congr id id rfl rfl id (mem_append_left _)

end

lemma exstartWith (on : DdNeighbor) (seqnum : UInt32) : DuplicateInv armed (exstartWith seqnum on) :=
  ⟨fun _ => rfl, fun h => absurd h
    (show ¬NeighborState.exchange.toNat ≤ NeighborState.exstart.toNat by decide)⟩

section
variable (h : DuplicateInv armed on)
include h

lemma ospf6NeighborExstart (env : DdEnv) : DuplicateInv armed (ospf6NeighborExstart env on) := by
  unfold Ospf6.ospf6NeighborExstart
  split_ifs
  · exact h
  · exact exstartWith on _

lemma adjOk (env : DdEnv) : DuplicateInv armed (adjOk env on) := by
  unfold Ospf6.adjOk
  split_ifs
  · exact h.ospf6NeighborExstart env
  · exact of_lt rfl
  · exact h

lemma ospf6UpdateAdjacencies (env : DdEnv) (keepAdjacency : Bool) :
    DuplicateInv armed (ospf6UpdateAdjacencies env keepAdjacency on) := by
  unfold Ospf6.ospf6UpdateAdjacencies
  dsimp only
  split_ifs
  · exact of_lt rfl
  · exact h.ospf6NeighborExstart env
  · exact of_lt rfl
  · exact h

lemma seqnumberMismatch : DuplicateInv armed (seqnumberMismatch on) := by
  unfold Ospf6.seqnumberMismatch
  split_ifs
  · exact h
  · exact exstartWith _ _

lemma onewayReceived : DuplicateInv armed (onewayReceived on) := by
  unfold Ospf6.onewayReceived
  split_ifs
  · exact h
  · exact of_lt rfl

lemma helloReceived : DuplicateInv armed (helloReceived on) := by
  unfold Ospf6.helloReceived
  split_ifs
  · exact of_lt rfl
  · exact h

lemma twowayReceived (env : DdEnv) : DuplicateInv armed (twowayReceived env on) := by
  unfold Ospf6.twowayReceived
  split_ifs
  · exact h
  · exact of_lt rfl
  · exact h
  · exact h.ospf6NeighborExstart env
  · exact of_lt rfl

lemma exchangeDone : DuplicateInv armed (exchangeDone on) := by
  unfold Ospf6.exchangeDone
  split_ifs with hstate hrequest
  · exact h
  all_goals
    push Not at hstate
    refine h.sendOff.congr (fun he => absurd he (by simp)) (fun _ => ?_) rfl rfl id id
    exact (congrArg toNat hstate).ge

lemma loadingDone : DuplicateInv armed (loadingDone on) := by
  unfold Ospf6.loadingDone
  split_ifs with hloading
  · refine h.congr (fun he => absurd he (by simp)) (fun _ => ?_) rfl rfl id id
    rw [hloading.1]
    decide
  · exact h

lemma ospf6DbdescSend (cfg : DdConfig) (now : Int) :
    DuplicateInv armed (ospf6DbdescSend cfg now on).1 := by
  unfold Ospf6.ospf6DbdescSend
  dsimp only
  split_ifs <;> exact h.congr id id rfl rfl id id

lemma ospf6DbdescSendNewone (cfg : DdConfig) (now : Int) :
    DuplicateInv armed (ospf6DbdescSendNewone cfg now on).1 := by
  apply ospf6DbdescSend
  split_ifs
  · exact h.congr id id rfl rfl id (mem_append_left _)
  · exact h.congr id id rfl rfl id id

/-- SeqNumberMismatch leaves the states from Exchange on, so it may be taken off the ready
threads. -/
lemma runTask {task : DdTask} {ready : List DdTask} (hready : on.ready = task :: ready) (cfg : DdConfig)
    (now : Int) : DuplicateInv armed (runTask cfg now task { on with ready := ready }).1 := by
  have hpop : task ≠ .seqnumberMismatch → DuplicateInv armed { on with ready := ready } := by
    intro hne
    refine h.congr id id rfl rfl (fun hm => ?_) id
    rw [hready] at hm
    exact (mem_cons.mp hm).resolve_left hne.symm
  cases task with
  | dbdescSend => exact (hpop (by decide)).ospf6DbdescSend cfg now
  | dbdescSendNewone => exact (hpop (by decide)).ospf6DbdescSendNewone cfg now
  | exchangeDone => exact (hpop (by decide)).exchangeDone
  | seqnumberMismatch =>
    unfold Ospf6.runTask Ospf6.seqnumberMismatch
    split_ifs with hlt
    · refine ⟨h.exstart, fun hge => ?_⟩
      exact absurd hlt (not_lt.mpr hge)
    · exact exstartWith _ _

lemma disarm : DuplicateInv false on :=
  ⟨h.exstart, fun he => (h.exchange he).imp_right (Or.imp_right fun hm => ⟨hm.1, rfl⟩)⟩

end

lemma remembers (h : DuplicateInv true on) (hready : on.ready = [])
    (hstate : NeighborState.exchange.toNat ≤ on.state.toNat) : on.Remembers := by
  rcases h.exchange hstate with hq | hmem | ⟨-, harmed⟩
  · exact hq
  · rw [hready] at hmem
    exact absurd hmem not_mem_nil
  · exact absurd harmed (by decide)

lemma of_accepted {q : Dbdesc} (hstate : on.state = .exchange) (hq : on.log.accepted = some q)
    (hsaved : on.dbdescLast.Repeats q) : DuplicateInv armed on :=
  ⟨fun he => absurd (hstate.symm.trans he) (by decide), fun _ => .inl ⟨q, hq, hsaved⟩⟩

lemma mdrEnter (h : DuplicateInv armed on) (own nbr : UInt32) (env : DdEnv) :
    DuplicateInv armed (mdrEnter own nbr env on) := by
  have hon : DuplicateInv armed (if on.state = .init then { on with state := .twoway } else on) := by
    split_ifs
    · exact of_lt rfl
    · exact h
  unfold Ospf6.mdrEnter
  dsimp only
  generalize (if on.state = .init then { on with state := .twoway } else on) = on1 at hon ⊢
  split_ifs
  · exact (hon.ospf6NeighborExstart env).sendOff
  · exact hon.ospf6NeighborExstart env
  · exact hon
  · exact h

end DuplicateInv

/-- The packet was not taken for a duplicate, and the invariant holds after it. -/
structure Fresh (r : DdNeighbor × DdOutcome) : Prop where
  inv : DuplicateInv false r.1
  outcome : r.2 ≠ .duplicate

/-- What is taken for a duplicate repeats the last description accepted. -/
def CurrentDuplicate (dbdesc : Dbdesc) (r : DdNeighbor × DdOutcome) : Prop :=
  r.2 = .duplicate → ∃ q, r.1.log.accepted = some q ∧ dbdesc.Repeats q

/-- The result of a packet whose header is that of an earlier exchange if `stale`. -/
structure DdReceived (dbdesc : Dbdesc) (stale : Prop) (r : DdNeighbor × DdOutcome) : Prop where
  inv : ¬stale → DuplicateInv false r.1
  duplicate : CurrentDuplicate dbdesc r ↔ ¬stale

section receive

variable {on : DdNeighbor} {env : DdEnv} {raw dbdesc : Dbdesc} {headers : List LsaHeader}
variable {r : DdNeighbor × DdOutcome} {stale : Prop}

lemma Fresh.received (h : Fresh r) (hstale : ¬stale) : DdReceived dbdesc stale r :=
  ⟨fun _ => h.inv, iff_of_true (fun he => absurd he h.outcome) hstale⟩

lemma received_of_remembers (h : on.Remembers) (hlast : dbdesc = on.dbdescLast)
    (hr : r.1.log.accepted = on.log.accepted) (hinv : DuplicateInv false r.1) (hstale : ¬stale) :
    DdReceived dbdesc stale r := by
  obtain ⟨q, hq, hsaved⟩ := h
  exact ⟨fun _ => hinv, iff_of_true (fun _ => ⟨q, hr.trans hq, hlast ▸ hsaved⟩) hstale⟩

lemma mismatch_fresh (hexstart : on.state = .exstart → on.log.accepted = none) : Fresh on.mismatch :=
  ⟨⟨hexstart, fun _ => .inr (.inr ⟨mem_append_right _ mem_cons_self, rfl⟩)⟩,
    by simp [DdNeighbor.mismatch]⟩

section
variable (hstate : on.state = .exchange)
include hstate

lemma mismatch_fresh_of_exchange : Fresh on.mismatch :=
  mismatch_fresh fun he => absurd (hstate.symm.trans he) (by decide)

lemma processHeaders_exchange {rejects : LsaHeader → Bool} {on1 : DdNeighbor} {done : Bool}
    (h : processHeaders env rejects headers on = (on1, done)) : on1.state = .exchange := by
  have hcore := processHeaders_core env rejects headers on
  rw [h] at hcore
  exact (congrArg DdNeighbor.state hcore).trans hstate

lemma acceptMaster_fresh (hsaved : dbdesc.Repeats raw) :
    Fresh (acceptMaster env raw dbdesc headers on) := by
  unfold acceptMaster
  split <;> have hstate1 := processHeaders_exchange hstate ‹_›
  · exact mismatch_fresh_of_exchange hstate1
  · dsimp only
    split_ifs <;> exact ⟨DuplicateInv.of_accepted hstate1 rfl hsaved, by simp⟩

lemma acceptSlave_fresh (hsaved : dbdesc.Repeats raw) :
    Fresh (acceptSlave env raw dbdesc headers on) := by
  unfold acceptSlave
  split <;> have hstate1 := processHeaders_exchange hstate ‹_›
  · exact mismatch_fresh_of_exchange hstate1
  · exact ⟨DuplicateInv.of_accepted hstate1 rfl hsaved, by simp⟩

lemma exchangeMaster_fresh (hne : dbdesc ≠ on.dbdescLast) :
    Fresh (exchangeMaster env dbdesc headers on) := by
  unfold exchangeMaster
  rw [if_neg hne]
  dsimp only
  split_ifs
  case neg => exact acceptMaster_fresh hstate ⟨rfl, rfl, .inr rfl⟩
  all_goals exact mismatch_fresh_of_exchange hstate

lemma exchangeSlave_fresh (hne : dbdesc ≠ on.dbdescLast) :
    Fresh (exchangeSlave env dbdesc headers on) := by
  unfold exchangeSlave
  rw [if_neg hne]
  dsimp only
  split_ifs
  on_goal 4 => exact acceptSlave_fresh hstate ⟨rfl, rfl, .inr rfl⟩
  all_goals exact mismatch_fresh_of_exchange hstate

end

/-- The packet has the header that the master saved before it came to ExStart. -/
def Dbdesc.Stale (dbdesc : Dbdesc) (on : DdNeighbor) : Prop :=
  on.state = .exstart ∧ dbdesc.obeys on ∧ dbdesc = on.dbdescLast

lemma not_stale_of_ne (hstate : on.state ≠ .exstart) : ¬dbdesc.Stale on := fun h => hstate h.1

lemma negotiationDone_of_exstart (env : DdEnv) (hstate : on.state = .exstart) :
    (negotiationDone env on).state = .exchange ∧ (negotiationDone env on).dbdescLast = on.dbdescLast ∧
    (negotiationDone env on).log.accepted = on.log.accepted := by
  unfold negotiationDone
  rw [if_neg (not_not.mpr hstate)]
  exact ⟨rfl, rfl, rfl⟩

lemma exstartMaster_received (h : DuplicateInv false on) (hstate : on.state = .exstart) :
    DdReceived dbdesc (dbdesc.Stale on) (exstartMaster env dbdesc headers on) := by
  obtain ⟨hexchange, hlast, haccepted⟩ := negotiationDone_of_exstart env hstate
  unfold exstartMaster
  split_ifs with hobeys
  · by_cases hdup : dbdesc = on.dbdescLast
    · have hstale : dbdesc.Stale on := ⟨hstate, hobeys, hdup⟩
      refine ⟨fun hne => absurd hstale hne, iff_of_false (fun hcur => ?_) (not_not.mpr hstale)⟩
      unfold exchangeMaster at hcur
      rw [if_pos (hdup.trans hlast.symm)] at hcur
      obtain ⟨q, hq, -⟩ := hcur rfl
      exact absurd ((haccepted.trans (h.exstart hstate)).symm.trans hq) (by simp)
    · refine Fresh.received ?_ fun hstale => hdup hstale.2.2
      exact exchangeMaster_fresh hexchange fun he => hdup (he.trans hlast)
  · exact Fresh.received ⟨h, by simp⟩ fun hstale => hobeys hstale.2.1

lemma exstartSlave_fresh (h : DuplicateInv false on) (hstate : on.state = .exstart) :
    Fresh (exstartSlave env dbdesc headers on) := by
  unfold exstartSlave
  split_ifs
  · refine acceptSlave_fresh ?_ ⟨rfl, rfl, .inl rfl⟩
    apply (negotiationDone_of_exstart env _).1
    exact hstate
  · exact ⟨h, by simp⟩

def initEnter (env : DdEnv) (on : DdNeighbor) : DdNeighbor :=
  if on.state = .init then twowayReceived env on else on

section
variable (h : DuplicateInv false on)
  (hon : exchange.toNat ≤ on.state.toNat → on.Remembers)
include h hon

lemma ospf6DbdescRecvMaster_received : DdReceived dbdesc (dbdesc.Stale (initEnter env on))
    (ospf6DbdescRecvMaster env dbdesc headers on) := by
  unfold ospf6DbdescRecvMaster initEnter
  cases hstate : on.state <;> simp only [reduceCtorEq, if_false, if_true]
  case exstart => exact exstartMaster_received h hstate
  case init =>
    split_ifs with hexstart
    · exact Fresh.received ⟨h.twowayReceived env, by simp⟩ (not_stale_of_ne hexstart)
    · exact exstartMaster_received (h.twowayReceived env) (not_not.mp hexstart)
  case exchange =>
    have hstale : ¬dbdesc.Stale on := not_stale_of_ne (by simp [hstate])
    by_cases hdup : dbdesc = on.dbdescLast
    · unfold exchangeMaster
      rw [if_pos hdup]
      exact received_of_remembers (hon (by simp [hstate])) hdup rfl h hstale
    · exact (exchangeMaster_fresh hstate hdup).received hstale
  case loading | full =>
    have hstale : ¬dbdesc.Stale on := not_stale_of_ne (by simp [hstate])
    split_ifs with hdup
    · exact received_of_remembers (hon (by rw [hstate]; decide)) hdup rfl h hstale
    · exact (mismatch_fresh h.exstart).received hstale
  all_goals exact Fresh.received ⟨h, by simp⟩ (not_stale_of_ne (by simp [hstate]))

lemma ospf6DbdescRecvSlave_received (hstale : ¬stale) :
    DdReceived dbdesc stale (ospf6DbdescRecvSlave env dbdesc headers on) := by
  unfold ospf6DbdescRecvSlave
  cases hstate : on.state <;> simp only
  case exstart => exact (exstartSlave_fresh h hstate).received hstale
  case init =>
    split_ifs with hexstart
    · exact Fresh.received ⟨h.twowayReceived env, by simp⟩ hstale
    · exact (exstartSlave_fresh (h.twowayReceived env) (not_not.mp hexstart)).received hstale
  case exchange =>
    by_cases hdup : dbdesc = on.dbdescLast
    · unfold exchangeSlave
      rw [if_pos hdup]
      exact received_of_remembers (hon (by simp [hstate])) hdup rfl (h.sendOff.addEvent _) hstale
    · exact (exchangeSlave_fresh hstate hdup).received hstale
  case loading | full =>
    split_ifs with hdup
    · exact received_of_remembers (hon (by rw [hstate]; decide)) hdup rfl (h.sendOff.addEvent _) hstale
    · exact (mismatch_fresh h.exstart).received hstale
  all_goals exact Fresh.received ⟨h, by simp⟩ hstale

end

end receive

/-- The slave's reply takes the master out of ExStart and has the header of a packet that was
accepted in an earlier exchange, or of none at all. -/
def StaleReply (own nbr : UInt32) (env : DdEnv) (packet : DbdescPacket) (s : DdSys) : Prop :=
  (s.on.ready = [] ∧ s.armed) ∧ ¬(¬env.mtuIgnore ∧ packet.dbdesc.ifmtu ≠ env.ifmtu) ∧
    nbr < own ∧ { packet.dbdesc with reserved1 := 0, reserved2 := 0 }.Stale
      (initEnter env (mdrEnter own nbr env s.on))

section run

variable {own nbr : UInt32} {cfg : DdConfig} {s : DdSys} {env : DdEnv} {packet : DbdescPacket}

/-- A duplicate is told by the last description accepted. -/
def DuplicateOk (own nbr : UInt32) (cfg : DdConfig) (s : DdSys) (e : DdEvent) : Prop :=
  ∀ env packet, e = .packet env packet → (ddStep own nbr cfg s e).outcome = some .duplicate →
    ∃ q, (ddStep own nbr cfg s e).sys.on.log.accepted = some q ∧ packet.dbdesc.Repeats q

/-- The property holds of each event of a run. -/
def EachStep (own nbr : UInt32) (cfg : DdConfig) (P : DdSys → DdEvent → Prop) :
    DdSys → List DdEvent → Prop :=
  StepsOk (fun s e => (ddStep own nbr cfg s e).sys) P

variable {on : DdNeighbor}

lemma mdrEnter_remembers (own nbr : UInt32) (env : DdEnv)
    (hon : exchange.toNat ≤ on.state.toNat → on.Remembers)
    (hstate : exchange.toNat ≤ (mdrEnter own nbr env on).state.toNat) :
    (mdrEnter own nbr env on).Remembers := by
  by_cases hge : exchange.toNat ≤ on.state.toNat
  · have hsame : mdrEnter own nbr env on = on := by
      have hinit : on.state ≠ .init := fun h => absurd hge (by rw [h]; decide)
      have htwoway : on.state ≠ .twoway := fun h => absurd hge (by rw [h]; decide)
      simp [mdrEnter, hinit, htwoway]
    rw [hsame]
    exact hon hge
  have hle : (mdrEnter own nbr env on).state.toNat ≤ max on.state.toNat 5 := by
    unfold mdrEnter ospf6NeighborExstart
    dsimp only
    split_ifs <;> simp [exstartWith, DdNeighbor.sendOff, DdNeighbor.addEvent, NeighborState.toNat]
  have hsix : NeighborState.exchange.toNat = 6 := rfl
  omega

lemma ospf6DbdescRecv_received (own nbr : UInt32) (env : DdEnv) (packet : DbdescPacket)
    (h : DuplicateInv true on) (hready : on.ready = []) :
    DdReceived { packet.dbdesc with reserved1 := 0, reserved2 := 0 }
      (¬(¬env.mtuIgnore ∧ packet.dbdesc.ifmtu ≠ env.ifmtu) ∧ nbr < own ∧
        { packet.dbdesc with reserved1 := 0, reserved2 := 0 }.Stale
          (initEnter env (mdrEnter own nbr env on)))
      (ospf6DbdescRecv own nbr env packet on) := by
  have hon := mdrEnter_remembers own nbr env (h.remembers hready)
  have henter := h.disarm.mdrEnter own nbr env
  unfold ospf6DbdescRecv
  split_ifs with hmtu hmaster hslave
  · exact Fresh.received ⟨h.disarm, by simp⟩ fun hs => hs.1 hmtu
  · simpa only [hmtu, hmaster, not_false_eq_true, true_and]
      using ospf6DbdescRecvMaster_received henter hon
  · exact ospf6DbdescRecvSlave_received henter hon fun hs => hmaster hs.2.1
  · exact Fresh.received ⟨henter, by simp⟩ fun hs => hmaster hs.2.1

section
variable (h : DuplicateInv s.armed s.on)
include h

lemma ddStep_packet_iff :
    DuplicateOk own nbr cfg s (.packet env packet) ↔ ¬StaleReply own nbr env packet s := by
  by_cases hread : s.on.ready = [] ∧ s.armed
  · have hstep : ddStep own nbr cfg s (.packet env packet) =
        ⟨⟨(ospf6DbdescRecv own nbr env packet s.on).1, false⟩, none,
          some (ospf6DbdescRecv own nbr env packet s.on).2⟩ := by
      simp only [ddStep, if_pos hread]
    have hiff := (ospf6DbdescRecv_received own nbr env packet (hread.2 ▸ h) hread.1).duplicate
    unfold StaleReply
    rw [and_iff_right hread, ← hiff]
    constructor
    · intro hok hdup
      have hq := hok env packet rfl (by rw [hstep, hdup])
      rw [hstep] at hq
      exact hq
    · rintro hcur env' packet' he hdup
      obtain ⟨rfl, rfl⟩ := DdEvent.packet.inj he
      rw [hstep] at hdup ⊢
      exact hcur (Option.some.inj hdup)
  · refine iff_of_true (fun env' packet' _ hdup => ?_) fun hs => hread hs.1
    simp [ddStep, hread, DdSys.local] at hdup

lemma ddStep_inv {e : DdEvent}
    (hstale : ∀ env packet, e = .packet env packet → ¬StaleReply own nbr env packet s) :
    DuplicateInv (ddStep own nbr cfg s e).sys.armed (ddStep own nbr cfg s e).sys.on := by
  cases e with
  | fetch =>
    rw [ddStep]
    split_ifs with hready
    · refine ⟨h.exstart, fun he => ?_⟩
      rcases h.exchange he with hq | hm | ⟨hm, -⟩
      · exact .inl hq
      · rw [hready] at hm
        exact absurd hm not_mem_nil
      · exact .inr (.inl hm)
    · exact h
  | run now =>
    rw [ddStep]
    split
    · exact h
    · exact h.runTask (by assumption) cfg now
  | packet env packet =>
    rw [ddStep]
    split_ifs with hread
    · exact (ospf6DbdescRecv_received own nbr env packet (hread.2 ▸ h) hread.1).inv
        fun hs => hstale env packet rfl ⟨hread, hs⟩
    · exact h
  | retransmit now =>
    rw [ddStep]
    split_ifs
    · exact h.ospf6DbdescSend cfg now
    · exact h
  | hello => exact h.helloReceived
  | oneway => exact h.onewayReceived
  | twoway env => exact h.twowayReceived env
  | adjOk env => exact h.adjOk env
  | update env keepAdjacency => exact h.ospf6UpdateAdjacencies env keepAdjacency
  | badLsreq => exact h.seqnumberMismatch
  | loaded => exact h.loadingDone
  | unrequest key => exact h.congr id id rfl rfl id id
  | recreate => exact DuplicateInv.of_lt rfl

lemma eachStep_duplicateOk_iff (events : List DdEvent) :
    EachStep own nbr cfg (DuplicateOk own nbr cfg) s events ↔
      EachStep own nbr cfg (fun s e => ∀ env packet, e = .packet env packet → ¬StaleReply own nbr env packet s)
        s events := by
  induction events generalizing s with
  | nil => exact Iff.rfl
  | cons e events ih =>
    have hstep : DuplicateOk own nbr cfg s e ↔
        ∀ env packet, e = .packet env packet → ¬StaleReply own nbr env packet s := by
      constructor
      · rintro hok env packet rfl
        exact (ddStep_packet_iff h).mp hok
      · rintro hstale env packet rfl
        exact (ddStep_packet_iff h).mpr (hstale env packet rfl) env packet rfl
    unfold EachStep StepsOk
    rw [hstep]
    exact and_congr_right fun hstale => ih (ddStep_inv h hstale)

end

end run

/-- Duplicates are those of the current exchange, exactly when no stale reply takes the master out of ExStart.
-/
theorem duplicates_current_iff (own nbr : UInt32) (cfg : DdConfig) (events : List DdEvent) :
    EachStep own nbr cfg (DuplicateOk own nbr cfg) ddInit events ↔
      EachStep own nbr cfg (fun s e => ∀ env packet, e = .packet env packet → ¬StaleReply own nbr env packet s)
        ddInit events :=
  eachStep_duplicateOk_iff (DuplicateInv.of_lt rfl) events

def p2pEnv (now : Int) : DdEnv := ⟨false, true, false, now, 1500, false, false, ⟨[], [], []⟩⟩

def p2pConfig : DdConfig := ⟨⟨0x13, false⟩, 1500, 1460, 1, false⟩

def slaveReply (seqnum : UInt32) (headers : List LsaHeader) : DbdescPacket :=
  ⟨⟨0, ⟨0x13, false⟩, 1500, 0, ⟨0, false, false, false⟩, seqnum⟩, headers⟩

/-- An exchange of two packets that starts at second 100, and a new one at second 101. -/
def restartEvents : List DdEvent :=
  [.hello, .twoway (p2pEnv 100), .fetch, .run 100, .fetch, .packet (p2pEnv 100) (slaveReply 100 []),
    .fetch, .run 100, .fetch, .packet (p2pEnv 100) (slaveReply 101 []), .fetch, .run 100,
    .oneway, .twoway (p2pEnv 101), .fetch, .run 101, .fetch]

/-- The first reply of the new exchange is dropped as a duplicate of the last one of the old. -/
theorem restart_duplicate :
    let s := ddRun 2 1 p2pConfig ddInit restartEvents
    let r := ddStep 2 1 p2pConfig s (.packet (p2pEnv 101) (slaveReply 101 [⟨1, 0x2001, 0, 1, 5, 7, 24⟩]))
    s.on.state = .exstart ∧ s.on.log.accepted = none ∧ r.outcome = some .duplicate ∧
      r.sys.on.state = .exchange ∧ r.sys.on.log.accepted = none := by
  decide +kernel

end OspfMdr.Ospf6
