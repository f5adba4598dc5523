import SiteVpn.Device.Ike
import SiteVpn.Device.Ipsec
import SiteVpn.Device.Routing
import SiteVpn.NameMap

/-!
# Device configurations

A configuration holds everything under names. Extending a map puts entries in
place of those with the same names; extending the neighbours of a VRF replaces
those with the same addresses; static routes are only ever added. A VRF that an
operation names and that is not there is created without peers and routes.
-/

namespace SiteVpn

/-- The configuration of a device. -/
structure Configuration where
  hostname : String
  vrfs : NameMap Vrf
  interfaces : NameMap Interface
  routingPolicies : NameMap RoutingPolicy
  phase1Proposals : NameMap Phase1Proposal
  phase1Keys : NameMap Phase1Key
  phase1Policies : NameMap Phase1Policy
  phase2Proposals : NameMap Phase2Proposal
  phase2Policies : NameMap Phase2Policy
  peerConfigs : NameMap PeerConfig
deriving DecidableEq

namespace Configuration

/-- The VRF of a name, or a new one. -/
def vrfOrNew (d : Configuration) (name : String) : Vrf :=
  (d.vrfs.get? name).getD (.ofName name)

/-- Changes the VRF of a name, which is created if need be. -/
def updateVrf (d : Configuration) (name : String) (f : Vrf → Vrf) : Configuration :=
  { d with vrfs := d.vrfs.insert name (f (d.vrfOrNew name)) }

/-- Creates the VRF of a name unless it is there. -/
def ensureVrf (d : Configuration) (name : String) : Configuration := d.updateVrf name id

/-- The configuration that holds the default VRF only. -/
def ofHostname (hostname : String) : Configuration :=
  let bare : Configuration := ⟨hostname, ∅, ∅, ∅, ∅, ∅, ∅, ∅, ∅, ∅⟩
  bare.ensureVrf Vrf.defaultName

instance : Inhabited Configuration := ⟨ofHostname ""⟩

/-- The neighbour with an address in the VRF of a name. -/
def bgpPeer? (d : Configuration) (vrf : String) (x : Address) : Option BgpPeer :=
  (d.vrfs.get? vrf).bind (·.bgpPeer? x)

def addRoutingPolicy (d : Configuration) (p : RoutingPolicy) : Configuration :=
  { d with routingPolicies := d.routingPolicies.insert p.name p }

def extendInterfaces (d : Configuration) (m : NameMap Interface) : Configuration :=
  { d with interfaces := d.interfaces.extend m }

def extendPhase1Proposals (d : Configuration) (m : NameMap Phase1Proposal) : Configuration :=
  { d with phase1Proposals := d.phase1Proposals.extend m }

def extendPhase1Keys (d : Configuration) (m : NameMap Phase1Key) : Configuration :=
  { d with phase1Keys := d.phase1Keys.extend m }

def extendPhase1Policies (d : Configuration) (m : NameMap Phase1Policy) : Configuration :=
  { d with phase1Policies := d.phase1Policies.extend m }

def extendPhase2Proposals (d : Configuration) (m : NameMap Phase2Proposal) : Configuration :=
  { d with phase2Proposals := d.phase2Proposals.extend m }

def extendPhase2Policies (d : Configuration) (m : NameMap Phase2Policy) : Configuration :=
  { d with phase2Policies := d.phase2Policies.extend m }

def extendPeerConfigs (d : Configuration) (m : NameMap PeerConfig) : Configuration :=
  { d with peerConfigs := d.peerConfigs.extend m }

/-- Adds neighbours to the VRF of a name. -/
def extendBgpPeers (d : Configuration) (vrf : String) (ps : List BgpPeer) : Configuration :=
  d.updateVrf vrf (·.addBgpPeers ps)

/-- Adds static routes to the VRF of a name. -/
def extendStaticRoutes (d : Configuration) (vrf : String) (rs : List StaticRoute) :
    Configuration :=
  d.updateVrf vrf (·.addStaticRoutes rs)

/-- The names of a list that a map does not have, each with the name of their
holder. -/
def dangling {α : Type} (m : NameMap α) (holder : String) (names : List String) :
    List (String × String) :=
  (names.filter fun name => !m.contains name).map fun name => (holder, name)

/-- The proposals that a policy names and the device does not have, phase 1 first,
by policy and then in the order of the policy. -/
def danglingProposals (d : Configuration) : List (String × String) :=
  d.phase1Policies.entries.flatMap (fun e => dangling d.phase1Proposals e.1 e.2.proposals) ++
    d.phase2Policies.entries.flatMap fun e => dangling d.phase2Proposals e.1 e.2.proposals

end Configuration

end SiteVpn
