import SiteVpn.Device.Configuration
import SiteVpn.Event
import SiteVpn.Text.Table

/-!
# Printed configurations

A configuration is printed as one table for each kind of entry, in the order of
their names, and then one section for each VRF. Every section starts with a line
that has no columns, so the columns of one never reach into the next.
-/

namespace SiteVpn

open Text.Table (row layout)

namespace Configuration

/-- A line across the page. -/
def rule (c : Char) : List Char := List.replicate 70 c ++ ['\n']

/-- The text of a value that may be absent. -/
def orDash {α : Type} (text : α → String) : Option α → String
  | some a => text a
  | none => "-"

/-- Texts between commas. -/
def commaSeparated {α : Type} (text : α → String) (as : List α) : String :=
  ",".intercalate (as.map text)

def number (n : UInt32) : String := Decimal.write n.toNat

/-- The title of a section, after an empty line. -/
def title (s : String) : List Char := '\n' :: s.toList ++ '\n' :: rule '-'

def interfaceRow (i : Interface) : List Char :=
  row [i.name, i.vrf, i.address.text, i.description]

def phase1ProposalRow (p : Phase1Proposal) : List Char :=
  row [p.name, orDash (·.text) p.authenticationMethod, p.group.text,
    commaSeparated (·.text) p.encryptionAlgorithms,
    commaSeparated (·.text) p.hashingAlgorithms, orDash number p.lifetimeSeconds]

def phase1KeyRow (name : String) (k : Phase1Key) : List Char :=
  row [name, k.keyType.text, k.remoteIdentity.text, k.localInterface, k.keyHash.getD "-"]

/-- The first proposal of a policy shares its line with the policy. -/
def phase1PolicyRows (p : Phase1Policy) : List Char :=
  row [p.name, p.remoteIdentity.text, p.localInterface, p.proposals.headD "-"] ++
    p.proposals.tail.flatMap fun name => row ["", "", "", name]

def phase2ProposalRow (name : String) (p : Phase2Proposal) : List Char :=
  row [name, p.authenticationAlgorithm.text, p.encryptionAlgorithm.text,
    commaSeparated (·.text) p.protocols.toList, orDash (·.text) p.encapsulationMode]

def phase2PolicyRow (name : String) (p : Phase2Policy) : List Char :=
  row [name, orDash (·.text) p.pfsGroup, Decimal.write p.proposals.length]

def peerConfigRow (name : String) (p : PeerConfig) : List Char :=
  row [name, p.localAddress.text, p.destinationAddress.text, p.sourceInterface,
    p.tunnelInterface, p.phase1Policy, p.phase2Policy]

def bgpPeerRow (p : BgpPeer) : List Char :=
  row [p.peerAddress.text, p.localIp.text, orDash number p.localAs,
    if p.remoteAsns.isEmpty then "*" else commaSeparated number p.remoteAsns,
    orDash id p.importPolicy, orDash id p.exportPolicy]

def staticRouteRow (r : StaticRoute) : List Char :=
  row [r.network.text, r.nextHop.text, Decimal.write r.adminDistance.toNat]

/-- The section of a VRF. -/
def vrfSection (v : Vrf) : List Char :=
  '\n' :: ("VRF ".toList ++ v.name.toList ++ '\n' :: rule '-') ++
    row ["BGP PEER", "LOCAL IP", "LOCAL AS", "REMOTE AS", "IMPORT", "EXPORT"] ++
    v.bgpPeers.flatMap bgpPeerRow ++
    '\n' :: row ["ROUTE", "NEXT HOP", "DISTANCE"] ++
    v.staticRoutes.flatMap staticRouteRow

/-- The sections of a configuration before their columns are aligned. -/
def sections (d : Configuration) : List Char :=
  "Device ".toList ++ d.hostname.toList ++ '\n' :: rule '=' ++
    "Interfaces\n".toList ++ rule '-' ++
    row ["NAME", "VRF", "ADDRESS", "DESCRIPTION"] ++
    d.interfaces.values.flatMap interfaceRow ++
    title "IKE Phase 1 Proposals" ++
    row ["NAME", "AUTH", "DH", "ENCRYPTION", "HASHING", "LIFETIME"] ++
    d.phase1Proposals.values.flatMap phase1ProposalRow ++
    title "IKE Phase 1 Keys" ++
    row ["NAME", "TYPE", "REMOTE", "LOCAL IFACE", "HASH"] ++
    d.phase1Keys.entries.flatMap (fun e => phase1KeyRow e.1 e.2) ++
    title "IKE Phase 1 Policies" ++
    row ["NAME", "REMOTE", "LOCAL IFACE", "PROPOSALS"] ++
    d.phase1Policies.values.flatMap phase1PolicyRows ++
    title "IPsec Phase 2 Proposals" ++
    row ["NAME", "AUTH", "ENCRYPTION", "PROTOCOLS", "MODE"] ++
    d.phase2Proposals.entries.flatMap (fun e => phase2ProposalRow e.1 e.2) ++
    title "IPsec Phase 2 Policies" ++
    row ["NAME", "PFS", "PROPOSALS"] ++
    d.phase2Policies.entries.flatMap (fun e => phase2PolicyRow e.1 e.2) ++
    title "IPsec Peers" ++
    row ["NAME", "LOCAL", "REMOTE", "SOURCE IFACE", "TUNNEL IFACE", "IKE", "IPSEC"] ++
    d.peerConfigs.entries.flatMap (fun e => peerConfigRow e.1 e.2) ++
    d.vrfs.values.flatMap vrfSection ++ ['\n']

/-- The printed form of a configuration. -/
def print (d : Configuration) : String := String.ofList (layout d.sections)

end Configuration

/-- The printed form of warnings. -/
def printWarnings (warnings : List Warning) : String :=
  String.ofList <| layout <|
    row ["KIND", "MESSAGE"] ++ warnings.flatMap fun w => row [w.kind.text, w.message]

end SiteVpn
