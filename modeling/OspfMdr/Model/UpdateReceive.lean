import OspfMdr.Model.AttrParse

/-!
# UPDATE messages (`bgp_packet.c`, `bgp_route.c`, `bgp_mplsvpn.c`)

The tables of routes are given by the operations on them. The flags and the log messages about
End-of-RIB markers and the counters are left out.
-/

namespace OspfMdr.Bgp
open Lib

inductive NlriFamily
  | ipv4Unicast
  | ipv4Multicast
  | ipv6Unicast
  | ipv6Multicast
  | ipv4MplsVpn
  deriving DecidableEq, Repr

namespace NlriFamily

def afi : NlriFamily → UInt16
  | ipv4Unicast | ipv4Multicast | ipv4MplsVpn => 1
  | ipv6Unicast | ipv6Multicast => 2

def safi : NlriFamily → UInt8
  | ipv4Unicast | ipv6Unicast => 1
  | ipv4Multicast | ipv6Multicast => 2
  | ipv4MplsVpn => safiMplsLabeledVpn

end NlriFamily

/-- A prefix as the tables know it: `prefixlen` bits, and the route distinguisher in a VPN. -/
structure NlriPrefix where
  family : NlriFamily
  prd : List UInt8
  bits : List Bool
  deriving DecidableEq, Repr

def addressBits (l : List UInt8) (prefixlen : Nat) : List Bool :=
  (l.flatMap fun octet => (List.range 8).map fun i => octet.toNat.testBit (7 - i)).take prefixlen

/-- What the routing table does for an UPDATE. -/
structure Rib (σ : Type) where
  established : σ → Bool
  installed : σ → NlriPrefix → Bool
  /-- It says whether its result is not negative. -/
  bgpUpdate : UpdateAttr → NlriPrefix → List UInt8 → σ → Bool × σ
  bgpWithdraw : NlriPrefix → σ → σ
  bgpClearStaleRoute : NlriFamily → σ → σ
  established_withdraw : ∀ p s, established (bgpWithdraw p s) = established s
  installed_withdraw : ∀ p q s, installed (bgpWithdraw p s) q = (installed s q && decide (q ≠ p))

structure UpdatePeer extends AttrPeer where
  afc : NlriFamily → Bool
  nsf : NlriFamily → Bool

section nlri

variable {σ : Type} (rib : Rib σ) (attr : Option UpdateAttr)

/-- A prefix is announced with the attributes, or withdrawn without. -/
def nlriRoute (p : NlriPrefix) (tag : List UInt8) (s : σ) : Bool × σ :=
  match attr with
  | some attr => rib.bgpUpdate attr p tag s
  | none => (true, rib.bgpWithdraw p s)

/-- `IN_CLASSD` of an address of which the first octets are given. -/
def inClassD (l : List UInt8) : Bool := l.headD 0 &&& 0xf0 = 0xe0

def nlriLoop (family : NlriFamily) : Nat → List UInt8 → σ → Bool × σ
  | _, [], s => (true, s)
  | 0, _ :: _, s => (false, s)
  | fuel + 1, prefixlen :: l, s =>
    if family.afi = 1 ∧ prefixlen > 32 ∨ family.afi = 2 ∧ prefixlen > 128 then (false, s)
    else if psize prefixlen > l.length then (false, s)
    else
      let bytes := l.take (psize prefixlen)
      if family = .ipv4Unicast ∧ inClassD bytes then (false, s)
      else if family = .ipv6Unicast ∧ isLinkLocal bytes then nlriLoop family fuel (l.drop (psize prefixlen)) s
      else
        let (ok, s) := nlriRoute rib attr ⟨family, [], addressBits bytes prefixlen.toNat⟩ [] s
        if ok then nlriLoop family fuel (l.drop (psize prefixlen)) s else (false, s)

def bgpNlriParse (family : NlriFamily) (nlri : List UInt8) (s : σ) : Bool × σ :=
  if rib.established s then nlriLoop rib attr family nlri.length nlri s else (true, s)

/-- It fails where the address is copied past the 16 octets of `p`. -/
def vpnv4Loop : Nat → List UInt8 → σ → Option (Bool × σ)
  | _, [], s => some (true, s)
  | 0, _ :: _, s => some (false, s)
  | fuel + 1, prefixlen :: l, s =>
    if prefixlen < 88 then some (false, s)
    else
      match l[3]?, l[4]? with
      | some a, some b =>
        if word a b ≠ 0 ∧ word a b ≠ 1 then some (false, s)
        else if psize prefixlen - 11 > 16 then none
        else if psize prefixlen > l.length then some (false, s)
        else
          let bytes := l.take (psize prefixlen)
          let p : NlriPrefix := ⟨.ipv4MplsVpn, (bytes.drop 3).take 8, addressBits (bytes.drop 11) (prefixlen.toNat - 88)⟩
          vpnv4Loop fuel (l.drop (psize prefixlen)) (nlriRoute rib attr p (bytes.take 3) s).2
      | _, _ => if psize prefixlen - 11 > 16 then none else some (false, s)

def bgpNlriParseVpnv4 (nlri : List UInt8) (s : σ) : Option (Bool × σ) :=
  if rib.established s then vpnv4Loop rib attr nlri.length nlri s else some (true, s)

def parseFamily (family : NlriFamily) (nlri : List UInt8) (s : σ) : Option σ :=
  match family with
  | .ipv4MplsVpn => (bgpNlriParseVpnv4 rib attr nlri s).map Prod.snd
  | family => some (bgpNlriParse rib attr family nlri s).2

end nlri

def missingAttr (peer : AttrPeer) (attr : UpdateAttr) : Option UInt8 :=
  if peer.sort = .ibgp ∧ ¬attr.flag .localPref then some 5
  else if ¬attr.flag .nextHop then some 3
  else if ¬attr.flag .asPath then some 2
  else if ¬attr.flag .origin then some 1
  else none

section receive

variable {σ : Type} (rib : Rib σ) (peer : UpdatePeer)

/-- The prefixes of a field are parsed if there are any and if they are of the family. -/
def mpField (attr : Option UpdateAttr) (family : NlriFamily) (packet : BgpNlri) (s : σ) : Option σ :=
  if packet.nlri ≠ [] ∧ packet.afi = family.afi ∧ packet.safi = family.safi then parseFamily rib attr family packet.nlri s
  else some s

/-- An empty `MP_UNREACH_NLRI` is taken for an End-of-RIB marker. -/
def endOfRib (family : NlriFamily) (withdrawLen : Nat) (mpWithdraw : BgpNlri) (s : σ) : σ :=
  if withdrawLen = 0 ∧ mpWithdraw.afi = family.afi ∧ mpWithdraw.safi = family.safi ∧ mpWithdraw.nlri = [] ∧
      peer.nsf family ∧ family ≠ .ipv4MplsVpn then
    rib.bgpClearStaleRoute family s
  else s

def receiveFamily (attr : Option UpdateAttr) (withdrawLen : Nat) (mpUpdate mpWithdraw : BgpNlri)
    (family : NlriFamily) (s : σ) : Option σ :=
  if peer.afc family then do
    let s ← mpField rib attr family mpUpdate s
    let s ← mpField rib none family mpWithdraw s
    some (endOfRib rib peer family withdrawLen mpWithdraw s)
  else some s

structure UpdateResult (σ : Type) where
  ret : Bool
  rib : σ
  ashash : AsTable
  notify : List Notify

def bgpAttrUninternSub (st : AttrState) : Option AsTable :=
  match st.attr.aspath with
  | none => some st.ashash
  | some p => aspathUnintern st.ashash (some p)

/-- The part for IPv4 unicast; the attribute is missing that makes it end. -/
def receiveIpv4Unicast (attr : Option UpdateAttr) (withdraw update : List UInt8)
    (attributeLen : Nat) (st : AttrState) (s : σ) : Option (Option UInt8 × σ) :=
  if peer.afc .ipv4Unicast then
    let s := if withdraw ≠ [] then (bgpNlriParse rib none .ipv4Unicast withdraw s).2 else s
    let missing := if update ≠ [] then missingAttr peer.toAttrPeer st.attr else none
    if missing.isSome then some (missing, s)
    else do
      let s := if update ≠ [] then (bgpNlriParse rib attr .ipv4Unicast update s).2 else s
      let s ← mpField rib attr .ipv4Unicast st.mpUpdate s
      let s ← mpField rib none .ipv4Unicast st.mpWithdraw s
      let s := if attributeLen = 0 ∧ withdraw = [] ∧ peer.nsf .ipv4Unicast then rib.bgpClearStaleRoute .ipv4Unicast s else s
      some (none, s)
  else some (none, s)

def receiveFields (ret : ParseRet) (withdraw update : List UInt8) (attributeLen : Nat) (st : AttrState) (s : σ) :
    Option (UpdateResult σ) := do
  let attr := if ret = .withdraw then none else some st.attr
  let (missing, s) ← receiveIpv4Unicast rib peer attr withdraw update attributeLen st s
  match missing with
  | some type =>
    let ashash ← bgpAttrUninternSub st
    some ⟨false, s, ashash, st.notify ++ [⟨3, 3, [type]⟩]⟩
  | none =>
    let s ← receiveFamily rib peer attr withdraw.length st.mpUpdate st.mpWithdraw .ipv4Multicast s
    let s ← receiveFamily rib peer attr withdraw.length st.mpUpdate st.mpWithdraw .ipv6Unicast s
    let s ← receiveFamily rib peer attr withdraw.length st.mpUpdate st.mpWithdraw .ipv6Multicast s
    let s ← receiveFamily rib peer attr withdraw.length st.mpUpdate st.mpWithdraw .ipv4MplsVpn s
    let ashash ← bgpAttrUninternSub st
    some ⟨true, s, ashash, st.notify⟩

def receiveUpdate (endp : Nat) (ret : ParseRet) (withdraw : List UInt8) (attributeLen : Nat) (st : AttrState) (s : σ) :
    Parse (UpdateResult σ) := do
  let getp ← Scan.pos
  let update ← Scan.slice getp (endp - getp)
  if ¬bgpNlriSanityCheck 1 update.length update then
    let ashash ← StateT.lift (bgpAttrUninternSub st)
    return ⟨false, s, ashash, st.notify ++ [⟨3, 10, []⟩]⟩
  else
    streamForwardGetp (endp - getp)
    StateT.lift (receiveFields rib peer ret withdraw update attributeLen st s)

def receiveAttributes (endp : Nat) (ashash : AsTable) (withdraw : List UInt8) (s : σ) : Parse (UpdateResult σ) := do
  let getp ← Scan.pos
  if getp + 2 > endp then return ⟨false, s, ashash, [⟨3, 1, []⟩]⟩
  else
    let attributeLen ← streamGetw
    let getp ← Scan.pos
    if getp + attributeLen.toNat > endp then return ⟨false, s, ashash, [⟨3, 1, []⟩]⟩
    else if attributeLen = 0 then receiveUpdate rib peer endp .proceed withdraw 0 (.init ashash) s
    else
      let (ret, st) ← bgpAttrParse peer.toAttrPeer attributeLen.toNat ashash
      match ret with
      | .error => return ⟨false, s, st.ashash, st.notify⟩
      | ret => receiveUpdate rib peer endp ret withdraw attributeLen.toNat st s

/-- Reads an UPDATE message and applies it. -/
def bgpUpdateReceive (size : Nat) (ashash : AsTable) (s : σ) : Parse (UpdateResult σ) := do
  if ¬rib.established s then return ⟨false, s, ashash, [⟨5, 0, []⟩]⟩
  else
    let start ← Scan.pos
    if size < 2 then return ⟨false, s, ashash, [⟨3, 1, []⟩]⟩
    else
      let withdrawLen ← streamGetw
      let getp ← Scan.pos
      if getp + withdrawLen.toNat > start + size then return ⟨false, s, ashash, [⟨3, 1, []⟩]⟩
      else
        let withdraw ← Scan.slice getp withdrawLen.toNat
        if ¬bgpNlriSanityCheck 1 withdraw.length withdraw then return ⟨false, s, ashash, [⟨3, 10, []⟩]⟩
        else
          streamForwardGetp withdrawLen.toNat
          receiveAttributes rib peer (start + size) ashash withdraw s

end receive

end OspfMdr.Bgp
