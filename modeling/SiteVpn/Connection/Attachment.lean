import SiteVpn.Connection.Artifacts

/-!
# Attaching connections to a device

A connection is attached to a device that has both VRFs it is put into, and then
all its parts are merged at once. Where a VRF is missing one warning is given,
and where a token is unknown the error; in both cases nothing is merged.
-/

namespace SiteVpn

/-- The policy that exports connected routes to the backbone. -/
def RoutingPolicy.backboneExport : RoutingPolicy where
  name := "~vpn~to~backbone~export~policy~"
  statements := [⟨.connected, some .incomplete, .accept⟩]
  defaultAction := .reject

namespace Configuration

/-- Merges the parts of a connection, by the VRF of its inside addresses. -/
def merge (d : Configuration) (tunnelVrf : String) (a : Artifacts) : Configuration :=
  let d := d.extendInterfaces a.interfaces
    |>.extendPhase1Proposals a.phase1Proposals
    |>.extendPhase1Keys a.phase1Keys
    |>.extendPhase1Policies a.phase1Policies
    |>.extendPhase2Proposals a.phase2Proposals
    |>.extendPhase2Policies a.phase2Policies
    |>.extendPeerConfigs a.peerConfigs
  let d := if a.bgpPeers.isEmpty then d else d.extendBgpPeers tunnelVrf a.bgpPeers
  if a.staticRoutes.isEmpty then d else d.extendStaticRoutes tunnelVrf a.staticRoutes

/-- Sets up what every connection relies on: the VRF of the outside addresses and the
export policy. -/
def initInfrastructure (d : Configuration) : Configuration :=
  (d.ensureVrf Placement.defaultUnderlayVrf).addRoutingPolicy .backboneExport

/-- The warning that a device lacks a VRF of a connection, if it does. -/
def missingVrf? (d : Configuration) (p : Placement) : Option Warning :=
  if !d.vrfs.contains p.underlayVrf then
    some (.redFlag ("Underlay VRF does not exist on gateway " ++ d.hostname))
  else if !d.vrfs.contains p.tunnelVrf then
    some (.redFlag ("Tunnel VRF does not exist on gateway " ++ d.hostname))
  else none

end Configuration

namespace Connection

/-- The device with the connection attached, or nothing where it lacks a VRF. -/
def attach (c : Connection) (p : Placement) (d : Configuration) :
    Traced (Except UnknownToken (Option Configuration)) :=
  match d.missingVrf? p with
  | some w => ⟨.ok none, [.warned w]⟩
  | none =>
    let parts := c.synthesize p
    ⟨parts.value.map fun a => some (d.merge p.tunnelVrf a), parts.events⟩

end Connection

end SiteVpn
