import SiteVpn.Connection.Form
import SiteVpn.Connection.Tunnel

/-!
# Connections

A connection is built from a record that has all that is needed: its names, one
gateway on the provider's side, a document, routes, telemetry and options. The
first check that fails decides the error. The records of a document are built on
their own, so a bad one is an error in its place only.
-/

namespace SiteVpn

/-- A connection between a customer's site and a provider. -/
structure Connection where
  id : String
  customerGateway : String
  gatewayType : GatewayType
  gateway : String
  isBgp : Bool
  tunnels : List Tunnel
  routes : List Cidr
  telemetry : List Telemetry
  staticRoutesOnly : Bool
deriving DecidableEq, Inhabited

namespace Connection

/-- A field that must be given. -/
def require {α : Type} (connection : Option String) (field : RecordField) :
    Option α → Except ConnectionError α
  | none => .error (.missingField connection field)
  | some value => .ok value

/-- The one gateway on the provider's side. -/
def providerGateway (connection : String) :
    Option String → Option String → Except ConnectionError (GatewayType × String)
  | some transit, none => .ok (.transit, transit)
  | none, some vpn => .ok (.vpn, vpn)
  | none, none => .error (.missingField (some connection) .gateway)
  | some _, some _ => .error (.gatewayConflict connection)

/-- The network of a route. -/
def routeNetwork (connection : String) (r : RouteRecord) : Except ConnectionError Cidr :=
  Tunnel.readBlock connection .routeDestination r.destination

/-- The connection of a record. -/
def ofRecord (salt : Salt) (r : ConnectionRecord) : Except ConnectionError Connection := do
  let id ← require none .id r.id
  let customerGateway ← require (some id) .customerGateway r.customerGateway
  let (gatewayType, gateway) ← providerGateway id r.transitGateway r.vpnGateway
  let text ← require (some id) .document r.document
  let routes ← require (some id) .routes r.routes
  let telemetry ← require (some id) .telemetry r.telemetry
  let options ← require (some id) .options r.options
  let document ← GatewayDocument.read id text
  let specs ← TunnelSpec.pair document.tunnels options.tunnels
  let tunnels ← specs.mapM (Tunnel.ofSpec id salt)
  let routes ← routes.mapM (routeNetwork id)
  return {
    id, customerGateway, gatewayType, gateway, tunnels, routes, telemetry
    isBgp := document.isBgp
    staticRoutesOnly := options.staticRoutesOnly }

/-- The connection of a record that may have the wrong shape. -/
def ofSlot (salt : Salt) : Except Json ConnectionRecord → Except ConnectionError Connection
  | .error entry => .error (.malformedRecord entry)
  | .ok r => ofRecord salt r

/-- The connections of the text of a document, each on its own. -/
def ofText? (salt : Salt) (text : String) :
    Option (List (Except ConnectionError Connection)) :=
  (ConnectionRecord.ofText? text).map (·.map (ofSlot salt))

end Connection

end SiteVpn
