import OspfMdr.Model.Spf

/-!
# Address families (`ospf6_af.c`)

Addresses are lists of 16 octets. In the IPv4 family an address has its IPv4 address in the
last four octets, or in the first four with `af_interop`.
-/

namespace OspfMdr.Ospf6

structure Ospf6Instance where
  routerId : UInt32
  instanceId : UInt8
  afInterop : Bool
  deriving DecidableEq, Repr

variable (o : Ospf6Instance) (a : List UInt8)

def ospf6AfIsIpv4 : Bool := o.instanceId &&& 0xc0 = 0x40

/-- The use of an instance ID. -/
inductive AfRange
  | ipv6Unicast
  | ipv6Multicast
  | ipv4Unicast
  | ipv4Multicast
  | unassigned
  deriving DecidableEq, Repr

def ospf6AfRange : AfRange :=
  if o.instanceId &&& 0x80 ≠ 0 then .unassigned
  else if o.instanceId &&& 0xe0 = 0 then .ipv6Unicast
  else if o.instanceId &&& 0xe0 = 0x20 then .ipv6Multicast
  else if o.instanceId &&& 0xe0 = 0x40 then .ipv4Unicast
  else .ipv4Multicast

/-- The 32-bit word `i` of an address, in host byte order. -/
def addrWord (i : Nat) : Nat :=
  ((a.drop (4 * i)).take 4).foldl (fun n octet => n * 256 + octet.toNat) 0

def addrOctet (i : Nat) : Nat := (a.getD i 0).toNat

def isUnspecified : Bool := a.all (· = 0)
def isLoopback : Bool :=
  addrWord a 0 = 0 ∧ addrWord a 1 = 0 ∧ addrWord a 2 = 0 ∧ addrWord a 3 = 1
def isV4compat : Bool :=
  addrWord a 0 = 0 ∧ addrWord a 1 = 0 ∧ addrWord a 2 = 0 ∧ addrWord a 3 > 1
def isV4mapped : Bool :=
  addrWord a 0 = 0 ∧ addrWord a 1 = 0 ∧ addrWord a 2 = 0xffff
def isMulticast (a : List UInt8) : Bool := addrOctet a 0 = 0xff
def isMulticastScope (scope : Nat) (a : List UInt8) : Bool :=
  isMulticast a ∧ addrOctet a 1 % 16 = scope

def ospf6AfAddressConvert6to4 : Option Nat :=
  if (if o.afInterop then addrWord a 3 else addrWord a 0) ≠ 0 then none
  else if addrWord a 1 ≠ 0 ∨ addrWord a 2 ≠ 0 then none
  else some (if o.afInterop then addrWord a 0 else addrWord a 3)

def addr4Octets (addr4 : Nat) : List UInt8 :=
  [addr4 / 2 ^ 24, addr4 / 2 ^ 16, addr4 / 2 ^ 8, addr4].map UInt8.ofNat

def ospf6AfAddressConvert4to6 (addr4 : Nat) : List UInt8 :=
  if o.afInterop then addr4Octets addr4 ++ List.replicate 12 0 else List.replicate 12 0 ++ addr4Octets addr4

def ospf6AfPrefixlen6to4 (prefixlen : Nat) : Nat := if o.afInterop then prefixlen else 32 - (128 - prefixlen)
def ospf6AfPrefixlen4to6 (prefixlen : Nat) : Nat := if o.afInterop then prefixlen else 128 - (32 - prefixlen)

def ospf6AfPrefixConvert6to4 (prefixlen : Nat) : Option (Nat × Nat) :=
  if prefixlen > (if o.afInterop then 32 else 128) then none
  else if ¬o.afInterop ∧ prefixlen < 96 then none
  else (ospf6AfAddressConvert6to4 o a).map (·, ospf6AfPrefixlen6to4 o prefixlen)

def ospf6AfPrefixConvert4to6 (p4 : Nat × Nat) : Option (List UInt8 × Nat) :=
  if p4.2 > 32 then none else some (ospf6AfAddressConvert4to6 o p4.1, ospf6AfPrefixlen4to6 o p4.2)

def ospf6AfValidatePrefixlen (prefixlen : Nat) : AfRange → Bool
  | .ipv6Unicast | .ipv6Multicast => prefixlen ≤ 128
  | .ipv4Unicast | .ipv4Multicast =>
    if o.afInterop then prefixlen ≤ 32 else prefixlen ≤ 128 ∧ prefixlen ≥ 96
  | .unassigned => false

def ospf6AfValidateIpv6Unicast : Bool :=
  ¬isLinklocal a ∧ ¬isUnspecified a ∧ ¬isLoopback a ∧ ¬isV4compat a ∧ ¬isV4mapped a ∧ ¬isMulticast a

def ospf6AfValidateIpv6Multicast : Bool :=
  isMulticastScope 0xe a ∨ isMulticastScope 0x8 a ∨ isMulticastScope 0x5 a

def ospf6AfValidateIpv4Unicast : Bool :=
  match ospf6AfAddressConvert6to4 o a with
  | none => false
  | some addr4 =>
    addr4 ≠ 0 ∧ addr4 ≠ 0xffffffff ∧ addr4 / 2 ^ 24 ≠ 0x7f ∧ addr4 / 2 ^ 28 ≠ 0xe

def ospf6AfValidateIpv4Multicast : Bool :=
  match ospf6AfAddressConvert6to4 o a with
  | none => false
  | some addr4 => addr4 / 2 ^ 28 = 0xe ∧ addr4 > 0xe00000ff

/-- Whether the instance may have a route to the prefix. -/
def ospf6AfValidatePrefix (prefixlen : Nat) (allowDefault : Bool) : Bool :=
  if allowDefault ∧ prefixlen = 0 ∧ isUnspecified a then true
  else if ¬ospf6AfValidatePrefixlen o prefixlen (ospf6AfRange o) then false
  else
    match ospf6AfRange o with
    | .ipv6Unicast => ospf6AfValidateIpv6Unicast a
    | .ipv6Multicast => ospf6AfValidateIpv6Multicast a
    | .ipv4Unicast => ospf6AfValidateIpv4Unicast o a
    | .ipv4Multicast => ospf6AfValidateIpv4Multicast o a
    | .unassigned => false

def addrBits : List Bool :=
  a.flatMap fun octet => (List.range 8).map fun i => octet.toNat.testBit (7 - i)

def addrPrefix (prefixlen : Nat) : Prefix :=
  ⟨(addrBits a).take prefixlen, (addrBits a).drop prefixlen⟩

end OspfMdr.Ospf6
