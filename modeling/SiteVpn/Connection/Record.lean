/-!
# Connection records

A provider describes a connection by a record in which everything may be missing.
What is needed of it is decided when the connection is built. The options of a
tunnel list what may be negotiated, and a list that is not given is the provider's
default, which is all that it supports.
-/

namespace SiteVpn

/-- A listed algorithm, by the provider's token. -/
structure TokenEntry where
  token : String
deriving DecidableEq, Repr, Inhabited

/-- The entries of some tokens. -/
def entriesOf (tokens : List String) : List TokenEntry := tokens.map TokenEntry.mk

/-- The negotiation options of a tunnel. -/
structure TunnelOptions where
  ikeVersions : List TokenEntry
  phase1Encryption : List TokenEntry
  phase1Integrity : List TokenEntry
  phase1Groups : List TokenEntry
  phase2Encryption : List TokenEntry
  phase2Integrity : List TokenEntry
  phase2Groups : List TokenEntry
  /-- The address of the provider's end. -/
  outsideAddress : Option String
  /-- The block of the two addresses inside the tunnel. -/
  insideBlock : Option String
  preSharedKey : Option String
  phase1Lifetime : Option UInt32
  phase2Lifetime : Option UInt32
deriving DecidableEq, Repr

namespace TunnelOptions

def allIkeVersions : List TokenEntry := entriesOf ["ikev1", "ikev2"]

def allEncryption : List TokenEntry :=
  entriesOf ["AES128", "AES256", "AES128-GCM-16", "AES256-GCM-16"]

def allIntegrity : List TokenEntry := entriesOf ["SHA1", "SHA2-256", "SHA2-384", "SHA2-512"]

def allPhase1Groups : List TokenEntry :=
  entriesOf ["2", "14", "15", "16", "17", "18", "19", "20", "21", "22", "23", "24"]

def allPhase2Groups : List TokenEntry :=
  entriesOf ["2", "5", "14", "15", "16", "17", "18", "19", "20", "21", "22", "23", "24"]

/-- Options that leave everything to the provider. -/
instance : Inhabited TunnelOptions where
  default := {
    ikeVersions := allIkeVersions
    phase1Encryption := allEncryption
    phase1Integrity := allIntegrity
    phase1Groups := allPhase1Groups
    phase2Encryption := allEncryption
    phase2Integrity := allIntegrity
    phase2Groups := allPhase2Groups
    outsideAddress := none
    insideBlock := none
    preSharedKey := none
    phase1Lifetime := none
    phase2Lifetime := none }

end TunnelOptions

/-- The options of a connection. -/
structure ConnectionOptions where
  tunnels : List TunnelOptions
  staticRoutesOnly : Bool
deriving DecidableEq, Repr, Inhabited

/-- A network on the customer's side. -/
structure RouteRecord where
  destination : String
deriving DecidableEq, Repr, Inhabited

/-- The state of a tunnel as its provider last saw it. -/
structure Telemetry where
  acceptedRouteCount : Option UInt32
  lastStatusChange : Option String
  outsideAddress : Option String
  status : Option String
  statusMessage : Option String
deriving DecidableEq, Repr, Inhabited

/-- The kind of gateway that ends a connection on the provider's side. -/
inductive GatewayType where
  | transit
  | vpn
deriving DecidableEq, Repr, Inhabited

def GatewayType.text : GatewayType → String
  | .transit => "TRANSIT"
  | .vpn => "VPN"

/-- A connection as its provider describes it. -/
structure ConnectionRecord where
  id : Option String
  customerGateway : Option String
  transitGateway : Option String
  vpnGateway : Option String
  /-- The text of the customer gateway document. -/
  document : Option String
  routes : Option (List RouteRecord)
  telemetry : Option (List Telemetry)
  options : Option ConnectionOptions
deriving DecidableEq, Repr, Inhabited

end SiteVpn
