import SiteVpn.Address.Cidr
import SiteVpn.Algorithm.Vocabulary
import SiteVpn.Json.Basic

/-!
# Why a connection cannot be built

Every error is about one record of a document and names its cause. Where the
reader of a format refuses something, the cause is what it refused, and the
account of the error goes on with what the reader says about it. That is not
fixed here: whatever is written about errors is written for given accounts.
-/

namespace SiteVpn

/-- A field that a connection record must have. -/
inductive RecordField where
  | id
  | customerGateway
  | gateway
  | document
  | routes
  | telemetry
  | options
deriving DecidableEq, Repr

def RecordField.text : RecordField → String
  | .id => "VpnConnectionId"
  | .customerGateway => "CustomerGatewayId"
  | .gateway => "TransitGatewayId or VpnGatewayId"
  | .document => "CustomerGatewayConfiguration"
  | .routes => "Routes"
  | .telemetry => "VgwTelemetry"
  | .options => "Options"

/-- What a text of a record or its document should be. -/
inductive ValueRole where
  | insideBlock
  | insideAddress
  | insidePrefixLength
  | ikeLifetime
  | ipsecLifetime
  | customerOutsideAddress
  | gatewayOutsideAddress
  | customerAsn
  | gatewayAsn
  | routeDestination
deriving DecidableEq, Repr

def ValueRole.text : ValueRole → String
  | .insideBlock => "TunnelInsideCidr"
  | .insideAddress => "tunnel inside address"
  | .insidePrefixLength => "tunnel inside prefix length"
  | .ikeLifetime => "IKE lifetime"
  | .ipsecLifetime => "IPsec lifetime"
  | .customerOutsideAddress => "customer outside address"
  | .gatewayOutsideAddress => "gateway outside address"
  | .customerAsn => "customer gateway ASN"
  | .gatewayAsn => "gateway ASN"
  | .routeDestination => "DestinationCidrBlock"

/-- What is wrong with the text of a value. -/
inductive ValueError where
  | numeral (cause : Decimal.NumeralError)
  | prefixLength (n : Nat)
  | address (cause : Address.ReadError)
  | block (cause : Cidr.ReadError)
deriving DecidableEq, Repr

def ValueError.message : ValueError → String
  | .numeral cause => cause.message
  | .prefixLength n => PrefixLength.rangeMessage n
  | .address cause => cause.message
  | .block cause => cause.message

/-- What the readers of formats say about what they refuse. -/
structure Accounts where
  /-- About a value that has not the shape of a record. -/
  record : Json → String
  /-- About a text that is no customer gateway document. -/
  document : String → String
  /-- About a text that describes no gateway. -/
  gateway : String → String

/-- The accounts of readers that only say that they refuse. -/
def Accounts.silent : Accounts :=
  ⟨fun _ => "<detail>", fun _ => "<detail>", fun _ => "<detail>"⟩

/-- The errors that end the work on a connection. -/
inductive ConnectionError where
  /-- The record is not of the right shape. -/
  | malformedRecord (record : Json)
  /-- The customer gateway document is not well formed. -/
  | malformedDocument (connection document : String)
  | missingField (connection : Option String) (field : RecordField)
  /-- Two gateways are named on the provider's side. -/
  | gatewayConflict (connection : String)
  | missingElement (connection : String) (path : List String)
  | badValue (connection : String) (role : ValueRole) (value : String) (cause : ValueError)
  | unknownToken (cause : UnknownToken)
  /-- A tunnel of the document has no options. -/
  | elementUnpaired (index options : Nat)
  /-- There are more options than tunnels in the document. -/
  | optionsUnpaired (elements options : Nat)
deriving DecidableEq, Repr

namespace ConnectionError

/-- What stands for the name of a connection without one. -/
def unnamed : String := "<unknown>"

/-- The account given of an error. -/
def message (accounts : Accounts) : ConnectionError → String
  | .malformedRecord record =>
    "malformed VPN connection descriptor: " ++ accounts.record record
  | .malformedDocument connection document =>
    "could not parse XML for CustomerGatewayConfiguration for VPN connection " ++
      connection ++ ": " ++ accounts.document document
  | .missingField connection field =>
    "VPN connection " ++ connection.getD unnamed ++ ": missing required field " ++ field.text
  | .gatewayConflict connection =>
    "VPN connection " ++ connection ++
      ": exactly one of TransitGatewayId and VpnGatewayId must be set"
  | .missingElement connection path =>
    "VPN connection " ++ connection ++ ": no " ++ "/".intercalate path ++ " element"
  | .badValue connection role value cause =>
    "VPN connection " ++ connection ++ ": bad " ++ role.text ++ " \"" ++ value ++ "\": " ++
      cause.message
  | .unknownToken cause => cause.message
  | .elementUnpaired index options =>
    "Index " ++ Decimal.write index ++ " is out of bounds for length " ++
      Decimal.write options
  | .optionsUnpaired elements options =>
    Decimal.write options ++ " TunnelOptions entries for " ++ Decimal.write elements ++
      " IPsec tunnels"

end ConnectionError

end SiteVpn
