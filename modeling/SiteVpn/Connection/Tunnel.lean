import SiteVpn.Connection.GatewayDocument
import SiteVpn.Connection.Record
import SiteVpn.Digest.Salt

/-!
# Tunnels

The tunnels of a document and the options of a connection belong together by
position. Where both could supply a value the options do, except for the address
of the provider's end. The two addresses inside a tunnel are the ends of its link
block: the first is the gateway's, the last the customer's. Of a pre-shared key
only the digest is kept.

What is negotiated follows the provider's wiring: phase 1 encrypts with the
algorithms listed for phase 2.
-/

namespace SiteVpn

/-- The element of a tunnel and its options. -/
structure TunnelSpec where
  index : Nat
  element : TunnelElement
  options : TunnelOptions
deriving DecidableEq

namespace TunnelSpec

/-- The pairs from an index on, of `elements` and `options` in all. -/
def pairFrom (elements options index : Nat) :
    List TunnelElement → List TunnelOptions → Except ConnectionError (List TunnelSpec)
  | [], [] => .ok []
  | _ :: _, [] => .error (.elementUnpaired index options)
  | [], _ :: _ => .error (.optionsUnpaired elements options)
  | e :: es, o :: os => do
    let specs ← pairFrom elements options (index + 1) es os
    return ⟨index, e, o⟩ :: specs

/-- Pairs elements and options by position. Neither may be left over. -/
def pair (elements : List TunnelElement) (options : List TunnelOptions) :
    Except ConnectionError (List TunnelSpec) :=
  pairFrom elements.length options.length 0 elements options

end TunnelSpec

/-- A tunnel, with the algorithms that its two phases list by their tokens. -/
structure Tunnel where
  customerOutside : Address
  customerInside : Address
  customerAsn : Option UInt32
  gatewayOutside : Address
  gatewayInside : Address
  insideLength : PrefixLength
  gatewayAsn : Option UInt32
  ikeVersions : List String
  ikeIntegrity : List String
  ikeEncryption : List String
  ikeGroups : List String
  /-- The digest of the pre-shared key. -/
  keyHash : Option String
  ikeLifetime : UInt32
  ipsecIntegrity : List String
  ipsecEncryption : List String
  ipsecGroups : List String
  ipsecLifetime : UInt32
deriving DecidableEq, Inhabited

namespace Tunnel

/-- The mode of every phase 1 exchange. -/
def ikeMode : String := "main"

/-- The token of every tunnel's security protocol. -/
def protocolToken : String := "esp"

/-- The token of every tunnel's encapsulation mode. -/
def modeToken : String := "tunnel"

/-- The lifetime of phase 1 in seconds where none is given. -/
def defaultIkeLifetime : UInt32 := 28800

/-- The lifetime of phase 2 in seconds where none is given. -/
def defaultIpsecLifetime : UInt32 := 3600

/-- A text that must be given. -/
def require (connection : String) (path : List String) :
    Option String → Except ConnectionError String
  | none => .error (.missingElement connection path)
  | some value => .ok value

/-- Reads an address. -/
def readAddress (connection : String) (role : ValueRole) (value : String) :
    Except ConnectionError Address :=
  match Address.read value.toList with
  | .ok x => .ok x
  | .error e => .error (.badValue connection role value (.address e))

/-- Reads a number of a width. -/
def readBelow (connection : String) (role : ValueRole) (limit : Nat) (value : String) :
    Except ConnectionError Nat :=
  match Decimal.read limit value.toList with
  | .ok n => .ok n
  | .error e => .error (.badValue connection role value (.numeral e))

/-- Reads a number of 32 bits if one is given. -/
def readWord? (connection : String) (role : ValueRole) :
    Option String → Except ConnectionError (Option UInt32)
  | none => .ok none
  | some value => do
    let n ← readBelow connection role UInt32.size value
    return some (UInt32.ofNat n)

/-- A lifetime: that of the options, else that of the element, else a default. -/
def lifetime (connection : String) (role : ValueRole) (given : Option UInt32)
    (value : Option String) (default : UInt32) : Except ConnectionError UInt32 :=
  match given with
  | some seconds => .ok seconds
  | none => do
    let seconds ← readWord? connection role value
    return seconds.getD default

/-- Reads the block of the two addresses inside a tunnel. -/
def readBlock (connection : String) (role : ValueRole) (value : String) :
    Except ConnectionError Cidr :=
  match Cidr.read value.toList with
  | .ok c => .ok c
  | .error e => .error (.badValue connection role value (.block e))

/-- The link block of an element: a prefix length around the gateway's address. A number
beyond the range of prefix lengths is reported as a number and not as it was written. -/
def elementBlock (connection : String) (e : TunnelElement) : Except ConnectionError Cidr := do
  let ip ← require connection TunnelElement.gatewayInsideAddressPath e.gatewayInsideAddress
  let length ← require connection TunnelElement.insidePrefixLengthPath e.insidePrefixLength
  let x ← readAddress connection .insideAddress ip
  let n ← readBelow connection .insidePrefixLength UInt8.size length
  match PrefixLength.ofNat? n with
  | some p => return .of x p
  | none => throw (.badValue connection .insidePrefixLength (Decimal.write n) (.prefixLength n))

/-- The link block of a tunnel. -/
def insideBlock (connection : String) (s : TunnelSpec) : Except ConnectionError Cidr :=
  match s.options.insideBlock with
  | some value => readBlock connection .insideBlock value
  | none => elementBlock connection s.element

/-- The digest of a tunnel's key. -/
def digestedKey (salt : Salt) (s : TunnelSpec) : Option String :=
  (s.options.preSharedKey.or s.element.preSharedKey).map salt.digest

/-- The tokens of some entries. -/
def tokens (entries : List TokenEntry) : List String := entries.map (·.token)

/-- The tunnel of an element and its options. -/
def ofSpec (connection : String) (salt : Salt) (s : TunnelSpec) :
    Except ConnectionError Tunnel := do
  let e := s.element
  let o := s.options
  let block ← insideBlock connection s
  let gatewayOutside ← require connection TunnelElement.gatewayOutsideAddressPath
    (e.gatewayOutsideAddress.or o.outsideAddress)
  let customerOutside ← require connection TunnelElement.customerOutsideAddressPath
    e.customerOutsideAddress
  let ikeLifetime ←
    lifetime connection .ikeLifetime o.phase1Lifetime e.ikeLifetime defaultIkeLifetime
  let ipsecLifetime ←
    lifetime connection .ipsecLifetime o.phase2Lifetime e.ipsecLifetime defaultIpsecLifetime
  let customerOutside ← readAddress connection .customerOutsideAddress customerOutside
  let gatewayOutside ← readAddress connection .gatewayOutsideAddress gatewayOutside
  let customerAsn ← readWord? connection .customerAsn e.customerAsn
  let gatewayAsn ← readWord? connection .gatewayAsn e.gatewayAsn
  return {
    customerOutside, customerAsn, gatewayOutside, gatewayAsn, ikeLifetime, ipsecLifetime
    gatewayInside := block.ends.1
    customerInside := block.ends.2
    insideLength := block.length
    ikeVersions := tokens o.ikeVersions
    ikeIntegrity := tokens o.phase1Integrity
    ikeEncryption := tokens o.phase2Encryption
    ikeGroups := tokens o.phase1Groups
    keyHash := digestedKey salt s
    ipsecIntegrity := tokens o.phase2Integrity
    ipsecEncryption := tokens o.phase2Encryption
    ipsecGroups := tokens o.phase2Groups }

end Tunnel

end SiteVpn
