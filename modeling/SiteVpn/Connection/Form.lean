import SiteVpn.Connection.Record
import SiteVpn.Json.Form
import SiteVpn.Json.Reader
import SiteVpn.Text.Decimal

/-!
# The JSON form of connection records

The token of a listed algorithm is a string, or an integer of 64 bits that stands
for its decimal text, or null for the empty token. A document is one record or a
listing of records. Only a listing that is no array fails as a whole; each record
of it is read on its own.
-/

namespace SiteVpn

open Json (required orDefault)

/-- The token that a value stands for. -/
def TokenEntry.tokenOf? : Json → Option String
  | .null => some ""
  | .string s => some s
  | .integer n =>
    if -0x8000000000000000 ≤ n ∧ n < 0x8000000000000000 then some (Decimal.writeInt n)
    else none
  | _ => none

instance : JsonForm TokenEntry where
  toJson e := .object [("Value", toJson e.token)]
  ofJson? j := do
    let given ← j.record? [.defaulted "Value"]
    match given.lookup "Value" with
    | none => return ⟨""⟩
    | some v => return ⟨← TokenEntry.tokenOf? v⟩

instance : JsonForm TunnelOptions where
  toJson o := .object
    [("IkeVersions", toJson o.ikeVersions),
      ("Phase1EncryptionAlgorithms", toJson o.phase1Encryption),
      ("Phase1IntegrityAlgorithms", toJson o.phase1Integrity),
      ("Phase1DHGroupNumbers", toJson o.phase1Groups),
      ("Phase2EncryptionAlgorithms", toJson o.phase2Encryption),
      ("Phase2IntegrityAlgorithms", toJson o.phase2Integrity),
      ("Phase2DHGroupNumbers", toJson o.phase2Groups),
      ("OutsideIpAddress", toJson o.outsideAddress),
      ("TunnelInsideCidr", toJson o.insideBlock), ("PreSharedKey", toJson o.preSharedKey),
      ("Phase1LifetimeSeconds", toJson o.phase1Lifetime),
      ("Phase2LifetimeSeconds", toJson o.phase2Lifetime)]
  ofJson? j := do
    let given ← j.record?
      [.defaulted "IkeVersions", .defaulted "Phase1EncryptionAlgorithms",
        .defaulted "Phase1IntegrityAlgorithms", .defaulted "Phase1DHGroupNumbers",
        .defaulted "Phase2EncryptionAlgorithms", .defaulted "Phase2IntegrityAlgorithms",
        .defaulted "Phase2DHGroupNumbers", .defaulted "OutsideIpAddress",
        .defaulted "TunnelInsideCidr", .defaulted "PreSharedKey",
        .defaulted "Phase1LifetimeSeconds", .defaulted "Phase2LifetimeSeconds"]
    return {
      ikeVersions := ← orDefault given "IkeVersions" TunnelOptions.allIkeVersions
      phase1Encryption :=
        ← orDefault given "Phase1EncryptionAlgorithms" TunnelOptions.allEncryption
      phase1Integrity :=
        ← orDefault given "Phase1IntegrityAlgorithms" TunnelOptions.allIntegrity
      phase1Groups := ← orDefault given "Phase1DHGroupNumbers" TunnelOptions.allPhase1Groups
      phase2Encryption :=
        ← orDefault given "Phase2EncryptionAlgorithms" TunnelOptions.allEncryption
      phase2Integrity :=
        ← orDefault given "Phase2IntegrityAlgorithms" TunnelOptions.allIntegrity
      phase2Groups := ← orDefault given "Phase2DHGroupNumbers" TunnelOptions.allPhase2Groups
      outsideAddress := ← orDefault given "OutsideIpAddress" none
      insideBlock := ← orDefault given "TunnelInsideCidr" none
      preSharedKey := ← orDefault given "PreSharedKey" none
      phase1Lifetime := ← orDefault given "Phase1LifetimeSeconds" none
      phase2Lifetime := ← orDefault given "Phase2LifetimeSeconds" none }

instance : JsonForm ConnectionOptions where
  toJson o := .object
    [("TunnelOptions", toJson o.tunnels), ("StaticRoutesOnly", toJson o.staticRoutesOnly)]
  ofJson? j := do
    let given ← j.record? [.defaulted "TunnelOptions", .defaulted "StaticRoutesOnly"]
    return {
      tunnels := ← orDefault given "TunnelOptions" []
      staticRoutesOnly := ← orDefault given "StaticRoutesOnly" false }

instance : JsonForm RouteRecord where
  toJson r := .object [("DestinationCidrBlock", toJson r.destination)]
  ofJson? j := do
    let given ← j.record? [.fixed "DestinationCidrBlock"]
    return ⟨← required given "DestinationCidrBlock"⟩

instance : JsonForm Telemetry where
  toJson t := .object
    [("AcceptedRouteCount", toJson t.acceptedRouteCount),
      ("LastStatusChange", toJson t.lastStatusChange),
      ("OutsideIpAddress", toJson t.outsideAddress), ("Status", toJson t.status),
      ("StatusMessage", toJson t.statusMessage)]
  ofJson? j := do
    let given ← j.record?
      [.defaulted "AcceptedRouteCount", .defaulted "LastStatusChange",
        .defaulted "OutsideIpAddress", .defaulted "Status", .defaulted "StatusMessage"]
    return {
      acceptedRouteCount := ← orDefault given "AcceptedRouteCount" none
      lastStatusChange := ← orDefault given "LastStatusChange" none
      outsideAddress := ← orDefault given "OutsideIpAddress" none
      status := ← orDefault given "Status" none
      statusMessage := ← orDefault given "StatusMessage" none }

instance : Named GatewayType where
  all := [.transit, .vpn]
  name
    | .transit => "Transit"
    | .vpn => "Vpn"

/-- The fields of a record in the order of its array. -/
def ConnectionRecord.fields : List Json.Field :=
  [.fixed "VpnConnectionId", .fixed "CustomerGatewayId", .fixed "TransitGatewayId",
    .fixed "VpnGatewayId", .fixed "CustomerGatewayConfiguration", .fixed "Routes",
    .fixed "VgwTelemetry", .fixed "Options"]

instance : JsonForm ConnectionRecord where
  toJson r := .object
    [("VpnConnectionId", toJson r.id), ("CustomerGatewayId", toJson r.customerGateway),
      ("TransitGatewayId", toJson r.transitGateway), ("VpnGatewayId", toJson r.vpnGateway),
      ("CustomerGatewayConfiguration", toJson r.document), ("Routes", toJson r.routes),
      ("VgwTelemetry", toJson r.telemetry), ("Options", toJson r.options)]
  ofJson? j := do
    let given ← j.record? ConnectionRecord.fields
    return {
      id := ← orDefault given "VpnConnectionId" none
      customerGateway := ← orDefault given "CustomerGatewayId" none
      transitGateway := ← orDefault given "TransitGatewayId" none
      vpnGateway := ← orDefault given "VpnGatewayId" none
      document := ← orDefault given "CustomerGatewayConfiguration" none
      routes := ← orDefault given "Routes" none
      telemetry := ← orDefault given "VgwTelemetry" none
      options := ← orDefault given "Options" none }

namespace ConnectionRecord

/-- The member under which a listing has its records. -/
def listingName : String := "VpnConnections"

/-- The part of a value that the reader of records looks at, which passes over members of
unknown names. -/
def regarded : Json → Json
  | .object members => .object (members.filter fun m => (fields.map (·.name)).contains m.1)
  | j => j

/-- The record that a value is, or the part of the value that has the wrong shape. -/
def ofEntry (entry : Json) : Except Json ConnectionRecord :=
  match ofJson? entry with
  | none => .error (regarded entry)
  | some r => .ok r

theorem ofEntry_of_ofJson? {entry : Json} {r : ConnectionRecord}
    (h : ofJson? entry = some r) : ofEntry entry = .ok r := by
  rw [ofEntry, h]

/-- The records of a document, each read on its own. -/
def ofDocument? (document : Json) : Option (List (Except Json ConnectionRecord)) :=
  let single := some [ofEntry document]
  match document with
  | .object members =>
    match members.lookup listingName with
    | some (.array entries) => some (entries.map ofEntry)
    | some _ => none
    | none => single
  | _ => single

/-- The records of the text of a document. -/
def ofText? (text : String) : Option (List (Except Json ConnectionRecord)) :=
  Json.readDocument text.toList >>= ofDocument?

end ConnectionRecord

end SiteVpn
