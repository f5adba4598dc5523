import SiteVpn.Device.Form
import SiteVpn.Device.Printer
import SiteVpn.Gateway.Report
import SiteVpn.Json.Printer

/-!
# Printed summaries

Connections and outcomes are listed in tables, one row each below a header. A
report as a whole is printed as the tables of the device, its outcomes and its
warnings if there are any, or as one JSON value. Failures are told with the
accounts that readers give.
-/

namespace SiteVpn

open Text.Table (row layout)

/-- How a connection learns its routes. -/
def Connection.routingText (c : Connection) : String := if c.isBgp then "BGP" else "STATIC"

/-- The line of a connection. -/
def connectionRow (c : Connection) : List Char :=
  row [c.id, c.gateway, c.gatewayType.text, c.routingText, Decimal.write c.tunnels.length,
    Decimal.write c.routes.length]

/-- The table of some connections before its columns are aligned. -/
def connectionRows (cs : List Connection) : List Char :=
  row ["CONNECTION", "GATEWAY", "TYPE", "ROUTING", "TUNNELS", "ROUTES"] ++
    cs.flatMap connectionRow

/-- The table of some connections. -/
def printConnections (cs : List Connection) : String :=
  String.ofList (layout (connectionRows cs))

section Outcomes

variable (accounts : Accounts)

def Outcome.text : Outcome → String
  | .applied => "applied"
  | .skipped => "skipped"
  | .failed e => "failed: " ++ e.message accounts

/-- The table of some outcomes before its columns are aligned. -/
def outcomeRows (outcomes : List (String × Outcome)) : List Char :=
  row ["CONNECTION", "OUTCOME"] ++ outcomes.flatMap fun o => row [o.1, o.2.text accounts]

/-- The table of some outcomes. -/
def printOutcomes (outcomes : List (String × Outcome)) : String :=
  String.ofList (layout (outcomeRows accounts outcomes))

/-- The JSON form of an outcome. -/
def Outcome.toJson : Outcome → Json
  | .applied => .string "Applied"
  | .skipped => .string "Skipped"
  | .failed e => .object [("Failed", .string (e.message accounts))]

/-- The JSON form of some outcomes. -/
def outcomesToJson (outcomes : List (String × Outcome)) : Json :=
  .array (outcomes.map fun o => .array [.string o.1, o.2.toJson accounts])

end Outcomes

instance : Named WarningKind where
  all := [.redFlag]
  name
    | .redFlag => "RedFlag"

instance : JsonForm Warning where
  toJson w := .object [("kind", toJson w.kind), ("msg", toJson w.message)]
  ofJson? j := do
    let given ← j.record? [.fixed "kind", .fixed "msg"]
    return ⟨← Json.required given "kind", ← Json.required given "msg"⟩

namespace Report

variable (accounts : Accounts)

/-- The JSON form of a report. -/
def toJson (r : Report) : Json := .object
  [("configuration", SiteVpn.toJson r.configuration),
    ("outcomes", outcomesToJson accounts r.outcomes), ("warnings", SiteVpn.toJson r.warnings)]

/-- The tables of a report. -/
def printTables (r : Report) : String :=
  let warnings := if r.warnings.isEmpty then "" else "\n" ++ printWarnings r.warnings
  r.configuration.print ++ "\n" ++ printOutcomes accounts r.outcomes ++ warnings

/-- The JSON text of a report, its members in the order of their names. -/
def printJson (r : Report) : String :=
  String.ofList ((r.toJson accounts).sortMembers.pretty 0 ++ ['\n'])

end Report

end SiteVpn
