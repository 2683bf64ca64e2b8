import OspfMdr.Model.Stream

/-!
# Optional parameters of OPEN messages (`bgp_open.c`)

`HAVE_IPV6` is defined. What is logged only is left out.
-/

namespace OspfMdr.Bgp
open Lib Function Scan

inductive Afi
  | ip
  | ip6
  deriving DecidableEq, Repr

inductive Safi
  | unicast
  | multicast
  | mplsVpn
  deriving DecidableEq, Repr

structure Family where
  afi : Afi
  safi : Safi
  deriving DecidableEq, Repr

def families : List Family :=
  [⟨.ip, .unicast⟩, ⟨.ip, .multicast⟩, ⟨.ip, .mplsVpn⟩, ⟨.ip6, .unicast⟩, ⟨.ip6, .multicast⟩, ⟨.ip6, .mplsVpn⟩]

def bgpAfiSafiValidIndices (afi : UInt16) (safi : UInt8) : Option Family := do
  let afi ← if afi = 1 then some Afi.ip else if afi = 2 then some .ip6 else none
  let safi ←
    if safi = 1 then some Safi.unicast
    else if safi = 2 then some .multicast
    else if safi = 4 ∨ safi = 128 then some .mplsVpn
    else none
  return ⟨afi, safi⟩

inductive PeerCap
  | refreshOldRcv
  | refreshNewRcv
  | dynamicRcv
  | restartRcv
  | as4Rcv
  deriving DecidableEq, Repr

inductive AfCap
  | orfPrefixSmRcv
  | orfPrefixRmRcv
  | orfPrefixSmOldRcv
  | orfPrefixRmOldRcv
  | restartAfRcv
  | restartAfPreserveRcv
  deriving DecidableEq, Repr

structure OpenConfig where
  afc : Family → Bool
  overrideCapability : Bool
  strictCapMatch : Bool

structure OpenPeer where
  cap : PeerCap → Bool
  afCap : Family → AfCap → Bool
  afcRecv : Family → Bool
  afcNego : Family → Bool
  vGrRestart : UInt16

namespace OpenPeer

def setCap (p : OpenPeer) (x : PeerCap) : OpenPeer := { p with cap := update p.cap x true }

def setAfCap (p : OpenPeer) (f : Family) (x : AfCap) : OpenPeer :=
  { p with afCap := update p.afCap f (update (p.afCap f) x true) }

def setAfcRecv (p : OpenPeer) (f : Family) : OpenPeer := { p with afcRecv := update p.afcRecv f true }

def setAfcNego (p : OpenPeer) (f : Family) : OpenPeer := { p with afcNego := update p.afcNego f true }

end OpenPeer

inductive CapCode
  | mp
  | refresh
  | orf
  | restart
  | as4
  | dynamic
  | refreshOld
  | orfOld
  | vendor
  | unknown
  deriving DecidableEq, Repr

def capCode (code : UInt8) : CapCode :=
  if code = 1 then .mp
  else if code = 2 then .refresh
  else if code = 3 then .orf
  else if code = 64 then .restart
  else if code = 65 then .as4
  else if code = 66 then .dynamic
  else if code = 128 then .refreshOld
  else if code = 130 then .orfOld
  else if code > 128 then .vendor
  else .unknown

def orfEntrySize : Nat := 5

def capMinsizes : CapCode → Nat
  | .mp => 4
  | .orf | .orfOld => orfEntrySize
  | .restart => 2
  | .as4 => 4
  | _ => 0

structure OpenState where
  peer : OpenPeer
  mpCapability : Bool
  error : List UInt8
  notify : List Notify

variable (cfg : OpenConfig) (code : CapCode) (length : Nat) (st : OpenState)

def OpenState.notifySend (code subcode : Nat) (data : List UInt8) : OpenState :=
  { st with notify := st.notify ++ [⟨code, subcode, data⟩] }

def OpenState.cease : OpenState := st.notifySend 6 0 []

def bgpCapabilityMpData : Parse (UInt16 × UInt8) := do
  let afi ← streamGetw
  let _ ← streamGetc
  let safi ← streamGetc
  return (afi, safi)

/-- `false` stands for the result -1. -/
def bgpCapabilityMp : Parse (Bool × OpenState) := do
  let (afi, safi) ← bgpCapabilityMpData
  match bgpAfiSafiValidIndices afi safi with
  | none => return (false, st)
  | some f =>
    let st := { st with peer := st.peer.setAfcRecv f }
    if cfg.afc f then return (true, { st with peer := st.peer.setAfcNego f })
    else return (false, st)

def orfModeBoth : UInt8 := 3
def orfModeSend : UInt8 := 2
def orfModeReceive : UInt8 := 1

def orfTypeOk (type : UInt8) : Bool :=
  match code with
  | .orf => type = 64
  | .orfOld => type = 128
  | _ => false

def orfFamilyOk (f : Family) : Bool := f = ⟨.ip, .unicast⟩ ∨ f = ⟨.ip, .multicast⟩ ∨ f = ⟨.ip6, .unicast⟩

def orfType (f : Family) (type mode : UInt8) (p : OpenPeer) : OpenPeer :=
  if ¬(mode = orfModeBoth ∨ mode = orfModeSend ∨ mode = orfModeReceive) then p
  else if ¬orfTypeOk code type then p
  else if ¬orfFamilyOk f then p
  else
    let smCap := if code = .orf then AfCap.orfPrefixSmRcv else .orfPrefixSmOldRcv
    let rmCap := if code = .orf then AfCap.orfPrefixRmRcv else .orfPrefixRmOldRcv
    if mode = orfModeBoth then (p.setAfCap f smCap).setAfCap f rmCap
    else if mode = orfModeSend then p.setAfCap f smCap
    else p.setAfCap f rmCap

def orfTypeLoop (code : CapCode) (f : Family) : Nat → OpenState → Parse OpenState
  | 0, st => return st
  | num + 1, st => do
    let type ← streamGetc
    let mode ← streamGetc
    orfTypeLoop code f num { st with peer := orfType code f type mode st.peer }

/-- One entry of an ORF capability. -/
def bgpCapabilityOrfEntry : Parse (Bool × OpenState) := do
  let (afi, safi) ← bgpCapabilityMpData
  let num ← streamGetc
  match bgpAfiSafiValidIndices afi safi with
  | none => return (true, st)
  | some f =>
    if orfEntrySize + num.toNat * 2 > length then return (false, st.cease)
    else
      let st ← orfTypeLoop code f num.toNat st
      return (true, st)

def orfLoop (code : CapCode) (length stop : Nat) : Nat → OpenState → Parse (Bool × OpenState)
  | 0, _ => fail
  | fuel + 1, st => do
    let (ok, st) ← bgpCapabilityOrfEntry code length st
    if ok then
      let getp ← pos
      if getp + orfEntrySize < stop then orfLoop code length stop fuel st else return (true, st)
    else return (false, st)

def bgpCapabilityOrf : Parse (Bool × OpenState) := do
  let getp ← pos
  if getp + orfEntrySize ≤ getp + length then orfLoop code length (getp + length) (length + 1) st else fail

def restartFamily (afi : UInt16) (safi flag : UInt8) (p : OpenPeer) : OpenPeer :=
  match bgpAfiSafiValidIndices afi safi with
  | none => p
  | some f =>
    if cfg.afc f then
      let p := p.setAfCap f .restartAfRcv
      if flag &&& 0x80 ≠ 0 then p.setAfCap f .restartAfPreserveRcv else p
    else p

def restartLoop (cfg : OpenConfig) (stop : Nat) : Nat → OpenState → Parse OpenState
  | 0, _ => fail
  | fuel + 1, st => do
    let getp ← pos
    if getp + 4 ≤ stop then
      let afi ← streamGetw
      let safi ← streamGetc
      let flag ← streamGetc
      restartLoop cfg stop fuel { st with peer := restartFamily cfg afi safi flag st.peer }
    else return st

def bgpCapabilityRestart : Parse OpenState := do
  let getp ← pos
  let st := { st with peer := st.peer.setCap .restartRcv }
  let restartFlagTime ← streamGetw
  let st := { st with peer := { st.peer with vGrRestart := restartFlagTime &&& 0xFFF } }
  restartLoop cfg (getp + length) (length + 1) st

def bgpCapabilityAs4 (p : OpenPeer) : Parse (UInt32 × OpenPeer) := do
  let p := p.setCap .as4Rcv
  if length ≠ 4 then return (0, p)
  else
    let as4 ← streamGetl
    return (as4, p)

def OpenState.unsupported (sp length : Nat) : Parse OpenState := do
  let data ← slice sp (length + 2)
  return { st with error := st.error ++ data }

/-- The handler of a capability, whose header is at `sp`. -/
def handleCapability (sp length : Nat) (st : OpenState) : Parse (Bool × OpenState) :=
  match code with
  | .mp => do
    let st := { st with mpCapability := true }
    if cfg.overrideCapability then return (true, st)
    else
      let (ok, st) ← bgpCapabilityMp cfg st
      if ok then return (true, st)
      else
        let st ← st.unsupported sp length
        return (true, st)
  | .refreshOld => return (true, { st with peer := st.peer.setCap .refreshOldRcv })
  | .refresh => return (true, { st with peer := st.peer.setCap .refreshNewRcv })
  | .orf | .orfOld => bgpCapabilityOrf code length st
  | .restart => do
    let st ← bgpCapabilityRestart cfg length st
    return (true, st)
  | .dynamic => return (true, { st with peer := st.peer.setCap .dynamicRcv })
  | .as4 => do
    let (as4, p) ← bgpCapabilityAs4 length st.peer
    return (decide (as4 ≠ 0), { st with peer := p })
  | .vendor => return (true, st)
  | .unknown => do
    let st ← st.unsupported sp length
    return (true, st)

def leaveCapability (stop : Nat) : Parse Unit := do
  let getp ← pos
  if getp ≠ stop then seek stop else return ()

/-- The loop over the capabilities of an option. -/
def capabilityLoop (cfg : OpenConfig) (stop : Nat) : Nat → OpenState → Parse (Bool × OpenState)
  | 0, _ => fail
  | fuel + 1, st => do
    let sp ← pos
    if sp < stop then
      if sp + 2 > stop then return (false, st.cease)
      else
        let code ← streamGetc
        let length ← streamGetc
        let start ← pos
        if start + length.toNat > stop then return (false, st.cease)
        else if length.toNat < capMinsizes (capCode code) then return (false, st.cease)
        else
          let (ok, st) ← handleCapability cfg (capCode code) sp length.toNat st
          if ok then
            leaveCapability (start + length.toNat)
            capabilityLoop cfg stop fuel st
          else return (false, st)
    else return (true, st)

def bgpCapabilityParse : Parse (Bool × OpenState) := do
  let readable ← readable
  if readable ≥ length then
    let getp ← pos
    capabilityLoop cfg (getp + length) (length + 1) st
  else fail

def handleOption (type : UInt8) (length : Nat) (st : OpenState) : Parse (Bool × OpenState) :=
  if type = 1 then return (false, st.notifySend 2 5 [])
  else if type = 2 then bgpCapabilityParse cfg length st
  else return (false, st.notifySend 2 4 [])

def optionLoop (cfg : OpenConfig) (stop : Nat) : Nat → OpenState → Parse (Bool × OpenState)
  | 0, _ => fail
  | fuel + 1, st => do
    let getp ← pos
    if getp < stop then
      let readable ← readable
      if readable < 2 then return (false, st.cease)
      else
        let type ← streamGetc
        let length ← streamGetc
        let readable ← Scan.readable
        if readable < length.toNat then return (false, st.cease)
        else
          let (ok, st) ← handleOption cfg type length.toNat st
          if ok then optionLoop cfg stop fuel st else return (false, st)
    else return (true, st)

def strictCapabilitySame (p : OpenPeer) : Bool :=
  families.all fun f => cfg.afc f = p.afcNego f

def openChecks : Bool × OpenState :=
  if cfg.strictCapMatch ∧ st.error ≠ [] then (false, st.notifySend 2 7 st.error)
  else if cfg.strictCapMatch ∧ ¬strictCapabilitySame cfg st.peer then (false, st.notifySend 2 7 [])
  else if st.mpCapability ∧ ¬cfg.overrideCapability ∧ ¬st.peer.afcNego ⟨.ip, .unicast⟩ ∧
      ¬st.peer.afcNego ⟨.ip, .multicast⟩ ∧ ¬st.peer.afcNego ⟨.ip, .mplsVpn⟩ ∧ ¬st.peer.afcNego ⟨.ip6, .unicast⟩ ∧
      ¬st.peer.afcNego ⟨.ip6, .multicast⟩ then
    (false, st.notifySend 2 7 st.error)
  else (true, st)

/-- Reads the optional parameters of an OPEN message. -/
def bgpOpenOptionParse (length : UInt8) (p : OpenPeer) : Parse (Bool × OpenState) := do
  let getp ← pos
  let (ok, st) ← optionLoop cfg (getp + length.toNat) (length.toNat + 1) ⟨p, false, [], []⟩
  if ok then return openChecks cfg st else return (false, st)

/-- The loop over the capabilities of a parameter, which is left with the AS number or, where the
lengths are wrong, with 0. -/
def peekCapabilities (capdEnd : Nat) : Nat → OpenPeer → Parse (Option UInt32 × OpenPeer)
  | 0, _ => fail
  | fuel + 1, p => do
    let getp ← pos
    if getp < capdEnd then
      if getp + 2 > capdEnd then return (some 0, p)
      else
        let code ← streamGetc
        let length ← streamGetc
        let getp ← pos
        if getp + length.toNat > capdEnd then return (some 0, p)
        else if capCode code = .as4 then
          let (as4, p) ← bgpCapabilityAs4 length.toNat p
          return (some as4, p)
        else
          streamForwardGetp length.toNat
          peekCapabilities capdEnd fuel p
    else return (none, p)

def peekOptions (stop : Nat) : Nat → OpenPeer → Parse (UInt32 × OpenPeer)
  | 0, _ => fail
  | fuel + 1, p => do
    let getp ← pos
    if getp < stop then
      if getp + 2 > stop then return (0, p)
      else
        let type ← streamGetc
        let length ← streamGetc
        let getp ← pos
        if getp + length.toNat > stop then return (0, p)
        else if type = 2 then
          let (as4, p) ← peekCapabilities (getp + length.toNat) (length.toNat + 1) p
          match as4 with
          | some as4 => return (as4, p)
          | none => peekOptions stop fuel p
        else peekOptions stop fuel p
    else return (0, p)

def peekForAs4Capability (length : UInt8) (p : OpenPeer) : Parse (UInt32 × OpenPeer) := do
  let origGetp ← pos
  let readable ← readable
  if readable < length.toNat then return (0, p)
  else
    let (as4, p) ← peekOptions (origGetp + length.toNat) (length.toNat + 1) p
    seek origGetp
    return (as4, p)

end OspfMdr.Bgp
