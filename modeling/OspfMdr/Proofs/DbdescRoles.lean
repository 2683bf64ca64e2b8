import OspfMdr.Proofs.DbdescDuplicate

/-!
# Master and slave of a database exchange

In ExStart both routers claim to be the master. Past ExStart each has the role that the router IDs give it,
whatever packets are lost, repeated or left over from an earlier exchange.
-/

namespace OspfMdr.Ospf6
open NeighborState

/-- Past ExStart the bits are those of the role. Only a master sends packets again by itself. -/
def DdRole (master : Bool) (on : DdNeighbor) : Prop :=
  (on.state = .exstart → on.dbdescBits.i ∧ on.dbdescBits.ms) ∧
  (exchange.toNat ≤ on.state.toNat → on.dbdescBits.i = false ∧ on.dbdescBits.ms = master) ∧
  (on.rxmt → on.dbdescBits.ms)

/-- An initial packet, or a later one of the master or of the slave. -/
def DbdescPacket.OfRole (master : Bool) (packet : DbdescPacket) : Prop :=
  if packet.dbdesc.bits.i then packet.dbdesc.bits.ms ∧ packet.headers = []
  else packet.dbdesc.bits.ms = master

attribute [local grind] DdNeighbor.sendOff DdNeighbor.addEvent exstartWith ospf6NeighborExstart NeighborState.toNat

section side

variable {master : Bool} {on : DdNeighbor} (env : DdEnv) (dbdesc : Dbdesc) (headers : List LsaHeader)
  (cfg : DdConfig) (now : Int)

section
variable (h : DdRole master on)
include h

lemma ospf6DbdescSend_role : DdRole master (ospf6DbdescSend cfg now on).1 ∧
    ∀ packet ∈ (ospf6DbdescSend cfg now on).2, packet.OfRole master := by
  unfold ospf6DbdescSend DbdescPacket.OfRole
  cases hstate : on.state <;> grind [DdRole]

lemma runTask_role (task : DdTask) : DdRole master (runTask cfg now task on).1 ∧
    ∀ packet ∈ (runTask cfg now task on).2, packet.OfRole master := by
  cases task with
  | dbdescSend => exact ospf6DbdescSend_role cfg now h
  | dbdescSendNewone =>
    apply ospf6DbdescSend_role
    grind [DdRole]
  | exchangeDone => grind [DdRole, runTask, exchangeDone]
  | seqnumberMismatch => grind [DdRole, runTask, seqnumberMismatch]

lemma processHeaders_role (rejects : LsaHeader → Bool) : DdRole master (processHeaders env rejects headers on).1 := by
  have hcore := processHeaders_core env rejects headers on
  simp only [DdNeighbor.core, DdNeighbor.mk.injEq] at hcore
  grind [DdRole]

lemma acceptMaster_role (raw : Dbdesc) : DdRole master (acceptMaster env raw dbdesc headers on).1 := by
  have hheaders := processHeaders_role env headers h fun h => h.type = lstypeAsExternal
  grind [DdRole, acceptMaster, DdNeighbor.mismatch]

lemma acceptSlave_role (raw : Dbdesc) : DdRole master (acceptSlave env raw dbdesc headers on).1 := by
  have hheaders := processHeaders_role env headers h fun h => ospf6LsaScope h.type = .as
  grind [DdRole, acceptSlave, DdNeighbor.mismatch]

lemma duplicateSlave_role : DdRole master on.duplicateSlave.1 := by
  grind [DdRole, DdNeighbor.duplicateSlave]

lemma exchangeMaster_role : DdRole master (exchangeMaster env dbdesc headers on).1 := by
  unfold exchangeMaster
  dsimp only
  split_ifs
  case neg =>
    apply acceptMaster_role
    exact h
  all_goals exact h

lemma exchangeSlave_role : DdRole master (exchangeSlave env dbdesc headers on).1 := by
  unfold exchangeSlave
  dsimp only
  split_ifs
  on_goal 1 => exact duplicateSlave_role h
  on_goal 4 =>
    apply acceptSlave_role
    exact h
  all_goals exact h

lemma twowayReceived_role : DdRole master (twowayReceived env on) := by
  grind [DdRole, twowayReceived]

lemma mdrEnter_role (own nbr : UInt32) : DdRole master (mdrEnter own nbr env on) := by
  grind [DdRole, mdrEnter]

end

lemma exstartMaster_role (h : DdRole true on) : DdRole true (exstartMaster env dbdesc headers on).1 := by
  unfold exstartMaster
  split_ifs
  · apply exchangeMaster_role
    grind [DdRole, negotiationDone]
  · exact h

/-- The initial packet of the master has no headers, so that it is not refused. -/
lemma exstartSlave_role (h : DdRole false on) (hstate : on.state = .exstart) :
    DdRole false (exstartSlave env dbdesc headers on).1 := by
  unfold exstartSlave
  split_ifs with hinitial
  · rw [hinitial.2.2.2]
    grind [DdRole, negotiationDone, acceptSlave, processHeaders]
  · exact h

lemma ospf6DbdescRecvMaster_role (h : DdRole true on) :
    DdRole true (ospf6DbdescRecvMaster env dbdesc headers on).1 := by
  have htwoway := twowayReceived_role env h
  have hmismatch : DdRole true on.mismatch.1 := h
  unfold ospf6DbdescRecvMaster
  grind [exstartMaster_role, exchangeMaster_role]

lemma ospf6DbdescRecvSlave_role (h : DdRole false on) :
    DdRole false (ospf6DbdescRecvSlave env dbdesc headers on).1 := by
  have htwoway := twowayReceived_role env h
  have hmismatch : DdRole false on.mismatch.1 := h
  unfold ospf6DbdescRecvSlave
  grind [exstartSlave_role, exchangeSlave_role, duplicateSlave_role]

variable {own nbr : UInt32}

lemma ospf6DbdescRecv_role (packet : DbdescPacket) (h : DdRole (decide (nbr < own)) on) :
    DdRole (decide (nbr < own)) (ospf6DbdescRecv own nbr env packet on).1 := by
  have henter := mdrEnter_role env h own nbr
  unfold ospf6DbdescRecv
  split_ifs with hmtu hmaster hslave
  · exact h
  · rw [decide_eq_true hmaster] at henter ⊢
    exact ospf6DbdescRecvMaster_role env _ _ henter
  · rw [decide_eq_false hmaster] at henter ⊢
    exact ospf6DbdescRecvSlave_role env _ _ henter
  · exact henter

lemma ddStep_role {s : DdSys} (e : DdEvent) (h : DdRole (decide (nbr < own)) s.on) :
    DdRole (decide (nbr < own)) (ddStep own nbr cfg s e).sys.on ∧
      ∀ packet ∈ (ddStep own nbr cfg s e).sent, packet.OfRole (decide (nbr < own)) := by
  cases e with
  | packet env packet =>
    have hrecv := ospf6DbdescRecv_role env packet h
    grind [ddStep, DdSys.local]
  | run now =>
    rw [ddStep]
    split
    · exact ⟨h, by simp [DdSys.local]⟩
    · apply runTask_role
      exact h
  | retransmit now =>
    have hsend := ospf6DbdescSend_role cfg now h
    grind [ddStep, DdSys.local]
  | _ =>
    grind [DdRole, ddStep, DdSys.local, adjOk, ospf6UpdateAdjacencies, badLsreq, loadingDone, helloReceived,
      onewayReceived, twowayReceived, newDdNeighbor, DdNeighbor.clearLists]

end side

/-- Both routers and the packets on the way have their roles. -/
structure PairRoles (c : PairConfig) (p : DdPair) : Prop where
  master : DdRole (decide (c.sid < c.mid)) p.master.on
  slave : DdRole (decide (c.mid < c.sid)) p.slave.on
  ms : ∀ packet ∈ p.ms, packet.OfRole (decide (c.sid < c.mid))
  sm : ∀ packet ∈ p.sm, packet.OfRole (decide (c.mid < c.sid))

lemma pairStep_roles {c : PairConfig} {p : DdPair} (h : PairRoles c p) (e : PairEvent) :
    PairRoles c (pairStep c p e) := by
  have hmaster := fun e => ddStep_role c.mcfg e h.master
  have hslave := fun e => ddStep_role c.scfg e h.slave
  obtain ⟨hm, hs, hms, hsm⟩ := h
  cases e <;> constructor <;> grind [pairStep, List.mem_of_mem_tail]

/-- In every run of two routers, past ExStart exactly the one with the larger router ID is the master. -/
theorem pairRun_roles (c : PairConfig) (mdb sdb : LsDbs) (events : List PairEvent) :
    PairRoles c (pairRun c ⟨ddInit, ddInit, [], [], mdb, sdb⟩ events) := by
  apply List.foldlRecOn
  · constructor <;> simp [DdRole, ddInit, newDdNeighbor, NeighborState.toNat]
  · intro p hp e _
    exact pairStep_roles hp e

end OspfMdr.Ospf6
