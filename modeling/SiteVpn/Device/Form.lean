import SiteVpn.Address.Form
import SiteVpn.Algorithm.Form
import SiteVpn.Device.Configuration

/-!
# The JSON form of device configurations

Every part of a configuration is a record, an enumeration or a map by name, and
the configuration is the record of its maps.
-/

namespace SiteVpn

open Json (required orDefault)

instance : Named KeyType where
  all := [.preSharedKeyUnencrypted]
  name
    | .preSharedKeyUnencrypted => "PreSharedKeyUnencrypted"

instance : Named RoutingProtocol where
  all := [.bgp, .connected, .static]
  name
    | .bgp => "Bgp"
    | .connected => "Connected"
    | .static => "Static"

instance : Named OriginType where
  all := [.igp, .egp, .incomplete]
  name
    | .igp => "Igp"
    | .egp => "Egp"
    | .incomplete => "Incomplete"

instance : Named PolicyAction where
  all := [.accept, .reject]
  name
    | .accept => "Accept"
    | .reject => "Reject"

instance : JsonForm ProtocolSet where
  toJson s := toJson s.toList
  ofJson? j := (ofJson? j).map ProtocolSet.ofList

instance : JsonForm Phase1Proposal where
  toJson p := .object
    [("name", toJson p.name), ("authentication_method", toJson p.authenticationMethod),
      ("diffie_hellman_group", toJson p.group),
      ("encryption_algorithms", toJson p.encryptionAlgorithms),
      ("hashing_algorithms", toJson p.hashingAlgorithms),
      ("lifetime_seconds", toJson p.lifetimeSeconds)]
  ofJson? j := do
    let given ← j.record?
      [.fixed "name", .fixed "authentication_method", .fixed "diffie_hellman_group",
        .fixed "encryption_algorithms", .fixed "hashing_algorithms", .fixed "lifetime_seconds"]
    return {
      name := ← required given "name"
      authenticationMethod := ← orDefault given "authentication_method" none
      group := ← required given "diffie_hellman_group"
      encryptionAlgorithms := ← required given "encryption_algorithms"
      hashingAlgorithms := ← required given "hashing_algorithms"
      lifetimeSeconds := ← orDefault given "lifetime_seconds" none }

instance : JsonForm Phase1Key where
  toJson k := .object
    [("key_type", toJson k.keyType), ("key_hash", toJson k.keyHash),
      ("remote_identity", toJson k.remoteIdentity),
      ("local_interface", toJson k.localInterface)]
  ofJson? j := do
    let given ← j.record?
      [.fixed "key_type", .fixed "key_hash", .fixed "remote_identity", .fixed "local_interface"]
    return {
      keyType := ← required given "key_type"
      keyHash := ← orDefault given "key_hash" none
      remoteIdentity := ← required given "remote_identity"
      localInterface := ← required given "local_interface" }

instance : JsonForm Phase1Policy where
  toJson p := .object
    [("name", toJson p.name), ("key", toJson p.key), ("proposals", toJson p.proposals),
      ("remote_identity", toJson p.remoteIdentity),
      ("local_interface", toJson p.localInterface)]
  ofJson? j := do
    let given ← j.record?
      [.fixed "name", .fixed "key", .fixed "proposals", .fixed "remote_identity",
        .fixed "local_interface"]
    return {
      name := ← required given "name"
      key := ← required given "key"
      proposals := ← required given "proposals"
      remoteIdentity := ← required given "remote_identity"
      localInterface := ← required given "local_interface" }

instance : JsonForm Phase2Proposal where
  toJson p := .object
    [("authentication_algorithm", toJson p.authenticationAlgorithm),
      ("encryption_algorithm", toJson p.encryptionAlgorithm),
      ("protocols", toJson p.protocols), ("encapsulation_mode", toJson p.encapsulationMode)]
  ofJson? j := do
    let given ← j.record?
      [.fixed "authentication_algorithm", .fixed "encryption_algorithm", .fixed "protocols",
        .fixed "encapsulation_mode"]
    return {
      authenticationAlgorithm := ← required given "authentication_algorithm"
      encryptionAlgorithm := ← required given "encryption_algorithm"
      protocols := ← required given "protocols"
      encapsulationMode := ← orDefault given "encapsulation_mode" none }

instance : JsonForm Phase2Policy where
  toJson p := .object
    [("pfs_key_group", toJson p.pfsGroup), ("proposals", toJson p.proposals)]
  ofJson? j := do
    let given ← j.record? [.fixed "pfs_key_group", .fixed "proposals"]
    return {
      pfsGroup := ← orDefault given "pfs_key_group" none
      proposals := ← required given "proposals" }

instance : JsonForm PeerConfig where
  toJson p := .object
    [("tunnel_interface", toJson p.tunnelInterface),
      ("ike_phase1_policy", toJson p.phase1Policy), ("ipsec_policy", toJson p.phase2Policy),
      ("source_interface", toJson p.sourceInterface),
      ("local_address", toJson p.localAddress),
      ("destination_address", toJson p.destinationAddress)]
  ofJson? j := do
    let given ← j.record?
      [.fixed "tunnel_interface", .fixed "ike_phase1_policy", .fixed "ipsec_policy",
        .fixed "source_interface", .fixed "local_address", .fixed "destination_address"]
    return {
      tunnelInterface := ← required given "tunnel_interface"
      phase1Policy := ← required given "ike_phase1_policy"
      phase2Policy := ← required given "ipsec_policy"
      sourceInterface := ← required given "source_interface"
      localAddress := ← required given "local_address"
      destinationAddress := ← required given "destination_address" }

instance : JsonForm Interface where
  toJson i := .object
    [("name", toJson i.name), ("vrf", toJson i.vrf), ("address", toJson i.address),
      ("description", toJson i.description)]
  ofJson? j := do
    let given ← j.record? [.fixed "name", .fixed "vrf", .fixed "address", .fixed "description"]
    return {
      name := ← required given "name"
      vrf := ← required given "vrf"
      address := ← required given "address"
      description := ← required given "description" }

instance : JsonForm BgpPeer where
  toJson p := .object
    [("peer_address", toJson p.peerAddress), ("local_ip", toJson p.localIp),
      ("local_as", toJson p.localAs), ("remote_asns", toJson p.remoteAsns),
      ("import_policy", toJson p.importPolicy), ("export_policy", toJson p.exportPolicy)]
  ofJson? j := do
    let given ← j.record?
      [.fixed "peer_address", .fixed "local_ip", .fixed "local_as", .fixed "remote_asns",
        .fixed "import_policy", .fixed "export_policy"]
    return {
      peerAddress := ← required given "peer_address"
      localIp := ← required given "local_ip"
      localAs := ← orDefault given "local_as" none
      remoteAsns := ← required given "remote_asns"
      importPolicy := ← orDefault given "import_policy" none
      exportPolicy := ← orDefault given "export_policy" none }

instance : JsonForm StaticRoute where
  toJson r := .object
    [("network", toJson r.network), ("next_hop", toJson r.nextHop),
      ("admin_distance", toJson r.adminDistance)]
  ofJson? j := do
    let given ← j.record? [.fixed "network", .fixed "next_hop", .fixed "admin_distance"]
    return {
      network := ← required given "network"
      nextHop := ← required given "next_hop"
      adminDistance := ← required given "admin_distance" }

instance : JsonForm Vrf where
  toJson v := .object
    [("name", toJson v.name), ("bgp_peers", toJson v.bgpPeers),
      ("static_routes", toJson v.staticRoutes)]
  ofJson? j := do
    let given ← j.record? [.fixed "name", .fixed "bgp_peers", .fixed "static_routes"]
    return {
      name := ← required given "name"
      bgpPeers := ← required given "bgp_peers"
      staticRoutes := ← required given "static_routes" }

instance : JsonForm PolicyStatement where
  toJson s := .object
    [("protocol", toJson s.protocol), ("set_origin", toJson s.setOrigin),
      ("action", toJson s.action)]
  ofJson? j := do
    let given ← j.record? [.fixed "protocol", .fixed "set_origin", .fixed "action"]
    return {
      protocol := ← required given "protocol"
      setOrigin := ← orDefault given "set_origin" none
      action := ← required given "action" }

instance : JsonForm RoutingPolicy where
  toJson p := .object
    [("name", toJson p.name), ("statements", toJson p.statements),
      ("default_action", toJson p.defaultAction)]
  ofJson? j := do
    let given ← j.record? [.fixed "name", .fixed "statements", .fixed "default_action"]
    return {
      name := ← required given "name"
      statements := ← required given "statements"
      defaultAction := ← required given "default_action" }

instance : JsonForm Configuration where
  toJson d := .object
    [("hostname", toJson d.hostname), ("vrfs", toJson d.vrfs),
      ("interfaces", toJson d.interfaces), ("routing_policies", toJson d.routingPolicies),
      ("ike_phase1_proposals", toJson d.phase1Proposals),
      ("ike_phase1_keys", toJson d.phase1Keys),
      ("ike_phase1_policies", toJson d.phase1Policies),
      ("ipsec_phase2_proposals", toJson d.phase2Proposals),
      ("ipsec_phase2_policies", toJson d.phase2Policies),
      ("ipsec_peer_configs", toJson d.peerConfigs)]
  ofJson? j := do
    let given ← j.record?
      [.fixed "hostname", .fixed "vrfs", .fixed "interfaces", .fixed "routing_policies",
        .fixed "ike_phase1_proposals", .fixed "ike_phase1_keys", .fixed "ike_phase1_policies",
        .fixed "ipsec_phase2_proposals", .fixed "ipsec_phase2_policies",
        .fixed "ipsec_peer_configs"]
    return {
      hostname := ← required given "hostname"
      vrfs := ← required given "vrfs"
      interfaces := ← required given "interfaces"
      routingPolicies := ← required given "routing_policies"
      phase1Proposals := ← required given "ike_phase1_proposals"
      phase1Keys := ← required given "ike_phase1_keys"
      phase1Policies := ← required given "ike_phase1_policies"
      phase2Proposals := ← required given "ipsec_phase2_proposals"
      phase2Policies := ← required given "ipsec_phase2_policies"
      peerConfigs := ← required given "ipsec_peer_configs" }

end SiteVpn
