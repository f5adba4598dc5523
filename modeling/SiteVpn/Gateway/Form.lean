import SiteVpn.Gateway.Basic
import SiteVpn.Json.Form
import SiteVpn.Toml.Document

/-!
# The stored forms of gateway descriptions

A description is a record in JSON and the root table of a text in TOML, with the
same names. The device and its tunnel VRF must be named, and everything else has a
default.
-/

namespace SiteVpn

open Json (required orDefault)

instance : JsonForm Gateway where
  toJson g := .object
    [("hostname", toJson g.hostname), ("tunnel_vrf", toJson g.tunnelVrf),
      ("init_infrastructure", toJson g.initInfrastructure), ("vrfs", toJson g.vrfs),
      ("import_policy", toJson g.importPolicy), ("export_policy", toJson g.exportPolicy),
      ("salt", toJson g.salt)]
  ofJson? j := do
    let given ← j.record?
      [.fixed "hostname", .fixed "tunnel_vrf", .defaulted "init_infrastructure",
        .defaulted "vrfs", .defaulted "import_policy", .defaulted "export_policy",
        .defaulted "salt"]
    return {
      hostname := ← required given "hostname"
      tunnelVrf := ← required given "tunnel_vrf"
      initInfrastructure := ← orDefault given "init_infrastructure" true
      vrfs := ← orDefault given "vrfs" []
      importPolicy := ← orDefault given "import_policy" none
      exportPolicy := ← orDefault given "export_policy" none
      salt := ← orDefault given "salt" none }

namespace Toml

/-- The entry of a table, or a default where there is none. -/
def entryOr {α : Type} (t : Table) (key : String) (read : Toml → Option α) (default : α) :
    Option α :=
  match t.lookup key with
  | none => some default
  | some v => read v

/-- The text of an entry, if there is one. -/
def text? (t : Table) (key : String) : Option (Option String) :=
  entryOr t key (fun v => v.string?.map some) none

end Toml

namespace Gateway

/-- The gateway that a table describes. Other entries are ignored. -/
def ofTable? (t : Toml.Table) : Option Gateway := do
  return {
    hostname := ← t.lookup "hostname" >>= Toml.string?
    tunnelVrf := ← t.lookup "tunnel_vrf" >>= Toml.string?
    initInfrastructure := ← Toml.entryOr t "init_infrastructure" Toml.boolean? true
    vrfs := ← Toml.entryOr t "vrfs" Toml.strings? []
    importPolicy := ← Toml.text? t "import_policy"
    exportPolicy := ← Toml.text? t "export_policy"
    salt := ← Toml.text? t "salt" }

/-- The gateway that a text describes. -/
def ofText? (text : String) : Option Gateway := Toml.read text.toList >>= ofTable?

end Gateway

end SiteVpn
