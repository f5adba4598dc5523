import SiteVpn.Connection.Attachment

/-!
# Gateways

The description of a gateway names the device, the VRF that the insides of tunnels
are put into, and what else is on the device before connections are attached.
-/

namespace SiteVpn

/-- The description of a gateway. -/
structure Gateway where
  hostname : String
  /-- The VRF of the inside addresses, the neighbours and the routes. -/
  tunnelVrf : String
  /-- Whether to set up what every connection relies on. -/
  initInfrastructure : Bool
  /-- More VRFs on the device. -/
  vrfs : List String
  importPolicy : Option String
  exportPolicy : Option String
  /-- The salt of key digests, in place of a random one. -/
  salt : Option String
deriving DecidableEq, Repr, Inhabited

namespace Gateway

/-- The device before any connection is attached. -/
def configuration (g : Gateway) : Configuration :=
  let d := Configuration.ofHostname g.hostname
  let d := if g.initInfrastructure then d.initInfrastructure else d
  g.vrfs.foldl Configuration.ensureVrf (d.ensureVrf g.tunnelVrf)

/-- Where connections are put. -/
def placement (g : Gateway) : Placement :=
  ⟨Placement.defaultUnderlayVrf, g.tunnelVrf, g.importPolicy, g.exportPolicy⟩

/-- The salt of key digests: a fallback unless the gateway has one. -/
def saltOr (g : Gateway) (fallback : Salt) : Salt := (g.salt.map Salt.mk).getD fallback

end Gateway

end SiteVpn
