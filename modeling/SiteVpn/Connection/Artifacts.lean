import SiteVpn.Connection.Basic
import SiteVpn.Connection.Proposal
import SiteVpn.Device.Configuration

/-!
# What a connection adds to a gateway

Every tunnel of a connection becomes two interfaces, its proposals of both
phases, a key and a policy for phase 1, and for each group of phase 2 a policy
with its peer config; a connection that uses BGP adds a neighbour per tunnel, and
one with static routes a route per tunnel and network. Tunnels are numbered from
one, and within a tunnel the proposals and policies of phase 2 share one
numbering from zero.

An unknown token fails the connection as a whole.
-/

namespace SiteVpn

/-- Where on a gateway a connection is put. -/
structure Placement where
  /-- The VRF of the outside addresses. -/
  underlayVrf : String
  /-- The VRF of the inside addresses, the neighbours and the routes. -/
  tunnelVrf : String
  importPolicy : Option String
  exportPolicy : Option String
deriving DecidableEq, Repr

namespace Placement

/-- The VRF of the outside addresses unless another is named. -/
def defaultUnderlayVrf : String := "vrf-vpn-underlay"

end Placement

/-- The parts that a connection adds to a gateway. -/
structure Artifacts where
  interfaces : NameMap Interface
  phase1Proposals : NameMap Phase1Proposal
  phase1Keys : NameMap Phase1Key
  phase1Policies : NameMap Phase1Policy
  phase2Proposals : NameMap Phase2Proposal
  phase2Policies : NameMap Phase2Policy
  peerConfigs : NameMap PeerConfig
  bgpPeers : List BgpPeer
  staticRoutes : List StaticRoute
deriving DecidableEq

namespace Artifacts

/-- No parts. -/
def empty : Artifacts := ⟨∅, ∅, ∅, ∅, ∅, ∅, ∅, [], []⟩

/-- Adds the parts of later tunnels. -/
def append (a b : Artifacts) : Artifacts where
  interfaces := a.interfaces.extend b.interfaces
  phase1Proposals := a.phase1Proposals.extend b.phase1Proposals
  phase1Keys := a.phase1Keys.extend b.phase1Keys
  phase1Policies := a.phase1Policies.extend b.phase1Policies
  phase2Proposals := a.phase2Proposals.extend b.phase2Proposals
  phase2Policies := a.phase2Policies.extend b.phase2Policies
  peerConfigs := a.peerConfigs.extend b.peerConfigs
  bgpPeers := a.bgpPeers ++ b.bgpPeers
  staticRoutes := a.staticRoutes ++ b.staticRoutes

end Artifacts

/-- A name with a number after it. -/
def numberedName (name : String) (n : Nat) : String := name ++ "-" ++ Decimal.write n

/-- So many numbered names, from a number on. -/
def numberedNames (name : String) (start count : Nat) : List String :=
  (List.range' start count).map (numberedName name)

namespace Tunnel

/-- The name of a tunnel by the number it has in its connection. -/
def idOf (connection : String) (n : Nat) : String := numberedName connection n

/-- The name of the interface with a tunnel's outside address. -/
def externalName (tunnelId : String) : String := "external-" ++ tunnelId

/-- The name of the interface with a tunnel's inside address. -/
def internalName (tunnelId : String) : String := "vpn-" ++ tunnelId

/-- The name of the peer config that goes with a phase 2 policy. -/
def peerName (policy : String) : String := policy ++ "-peer_config"

/-- The interface with a tunnel's outside address. -/
def externalInterface (p : Placement) (tunnelId : String) (t : Tunnel) : Interface where
  name := externalName tunnelId
  vrf := p.underlayVrf
  address := .host t.gatewayOutside
  description := "IPSec tunnel " ++ tunnelId

/-- The interface with a tunnel's inside address. -/
def internalInterface (p : Placement) (tunnelId : String) (t : Tunnel) : Interface where
  name := internalName tunnelId
  vrf := p.tunnelVrf
  address := ⟨t.gatewayInside, t.insideLength⟩
  description := "VPN " ++ tunnelId

/-- The interfaces of a tunnel. -/
def interfaces (p : Placement) (tunnelId : String) (t : Tunnel) : NameMap Interface :=
  .ofList
    [(externalName tunnelId, t.externalInterface p tunnelId),
      (internalName tunnelId, t.internalInterface p tunnelId)]

/-- The key of a tunnel. -/
def phase1Key (tunnelId : String) (t : Tunnel) : Phase1Key where
  keyType := .preSharedKeyUnencrypted
  keyHash := t.keyHash
  remoteIdentity := t.customerOutside
  localInterface := externalName tunnelId

/-- The phase 1 policy of a tunnel, which offers the proposals of some names. -/
def phase1Policy (tunnelId : String) (t : Tunnel) (proposals : List String) :
    Phase1Policy where
  name := tunnelId
  key := t.phase1Key tunnelId
  proposals := proposals
  remoteIdentity := t.customerOutside
  localInterface := externalName tunnelId

/-- The peer config that goes with a phase 2 policy. -/
def peerConfig (tunnelId : String) (t : Tunnel) (policy : String) : PeerConfig where
  tunnelInterface := internalName tunnelId
  phase1Policy := tunnelId
  phase2Policy := policy
  sourceInterface := externalName tunnelId
  localAddress := t.gatewayOutside
  destinationAddress := t.customerOutside

/-- The neighbour at the customer's end of a tunnel. -/
def bgpPeer (p : Placement) (t : Tunnel) : BgpPeer where
  peerAddress := t.customerInside
  localIp := t.gatewayInside
  localAs := t.gatewayAsn
  remoteAsns := t.customerAsn.toList
  importPolicy := p.importPolicy
  exportPolicy := p.exportPolicy

/-- The routes to some networks through a tunnel. -/
def staticRoutes (t : Tunnel) (networks : List Cidr) : List StaticRoute :=
  networks.map fun network => .via network t.customerInside

/-- The names of a tunnel's phase 2 proposals, given their number. -/
def phase2ProposalNames (tunnelId : String) (proposals : Nat) : List String :=
  numberedNames tunnelId 0 proposals

/-- The names of a tunnel's phase 2 policies, which are numbered after its
proposals. -/
def phase2PolicyNames (tunnelId : String) (proposals policies : Nat) : List String :=
  numberedNames tunnelId proposals policies

end Tunnel

namespace Connection

/-- The parts of a tunnel, given its proposals and policies. -/
def tunnelParts (c : Connection) (p : Placement) (tunnelId : String) (t : Tunnel)
    (phase1 : List Phase1Proposal) (phase2 : List Phase2Proposal)
    (policies : List Phase2Policy) : Artifacts :=
  let policyNames := Tunnel.phase2PolicyNames tunnelId phase2.length policies.length
  { interfaces := t.interfaces p tunnelId
    phase1Proposals := .ofList (phase1.map fun q => (q.name, q))
    phase1Keys := .singleton tunnelId (t.phase1Key tunnelId)
    phase1Policies := .singleton tunnelId (t.phase1Policy tunnelId (phase1.map (·.name)))
    phase2Proposals :=
      .ofList ((Tunnel.phase2ProposalNames tunnelId phase2.length).zip phase2)
    phase2Policies := .ofList (policyNames.zip policies)
    peerConfigs :=
      .ofList (policyNames.map fun n => (Tunnel.peerName n, t.peerConfig tunnelId n))
    bgpPeers := if c.isBgp then [t.bgpPeer p] else []
    staticRoutes := if c.staticRoutesOnly then t.staticRoutes c.routes else [] }

/-- The parts of one tunnel. -/
def tunnelArtifacts (c : Connection) (p : Placement) (tunnelId : String) (t : Tunnel) :
    Traced (Except UnknownToken Artifacts) :=
  match t.phase1Proposals tunnelId with
  | .error e => ⟨.error e, []⟩
  | .ok phase1 =>
    let expansion := t.phase2Proposals
    match expansion.value with
    | .error e => ⟨.error e, expansion.events⟩
    | .ok phase2 =>
      match t.phase2Policies (Tunnel.phase2ProposalNames tunnelId phase2.length) with
      | .error e => ⟨.error e, expansion.events⟩
      | .ok policies =>
        ⟨.ok (c.tunnelParts p tunnelId t phase1 phase2 policies),
          expansion.events ++
            [.expanded tunnelId phase1.length phase2.length policies.length]⟩

/-- The parts of tunnels that are numbered from `n` on. -/
def synthesizeFrom (c : Connection) (p : Placement) (n : Nat) :
    List Tunnel → Traced (Except UnknownToken Artifacts)
  | [] => ⟨.ok .empty, []⟩
  | t :: ts =>
    let first := c.tunnelArtifacts p (Tunnel.idOf c.id n) t
    match first.value with
    | .error e => ⟨.error e, first.events⟩
    | .ok a =>
      let rest := c.synthesizeFrom p (n + 1) ts
      ⟨rest.value.map a.append, first.events ++ rest.events⟩

/-- The parts that a connection adds to a gateway. -/
def synthesize (c : Connection) (p : Placement) : Traced (Except UnknownToken Artifacts) :=
  c.synthesizeFrom p 1 c.tunnels

end Connection

end SiteVpn
