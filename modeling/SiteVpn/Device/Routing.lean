import SiteVpn.Address.Cidr

/-!
# Interfaces and routing on a device

Interfaces are bound to routing instances (VRFs). A VRF holds BGP peers and
static routes, and routing policies decide what becomes of the routes of a
protocol: the first statement for the protocol decides, and the default action
where there is none.
-/

namespace SiteVpn

/-- A layer-3 interface. -/
structure Interface where
  name : String
  vrf : String
  address : InterfaceAddress
  description : String
deriving DecidableEq, Inhabited

/-- A BGP neighbour. -/
structure BgpPeer where
  peerAddress : Address
  localIp : Address
  localAs : Option UInt32
  /-- The accepted remote AS numbers; none means any. -/
  remoteAsns : List UInt32
  importPolicy : Option String
  exportPolicy : Option String
deriving DecidableEq, Inhabited

/-- A static route. -/
structure StaticRoute where
  network : Cidr
  nextHop : Address
  adminDistance : UInt8
deriving DecidableEq, Inhabited

namespace StaticRoute

/-- The administrative distance of configured routes. -/
def configuredDistance : UInt8 := 1

/-- The configured route to a network. -/
def via (network : Cidr) (nextHop : Address) : StaticRoute :=
  ⟨network, nextHop, configuredDistance⟩

/-- Routes are compared by network, next hop and distance. -/
instance : Ord StaticRoute where
  compare x y :=
    (compare x.network y.network).then <| (compare x.nextHop y.nextHop).then <|
      compare x.adminDistance y.adminDistance

def text (r : StaticRoute) : String := r.network.text ++ " via " ++ r.nextHop.text

end StaticRoute

/-- A routing instance. -/
structure Vrf where
  name : String
  bgpPeers : List BgpPeer
  staticRoutes : List StaticRoute
deriving DecidableEq, Inhabited

namespace Vrf

/-- The routing instance of a device that nothing else names. -/
def defaultName : String := "default"

/-- A routing instance without peers and routes. -/
def ofName (name : String) : Vrf := ⟨name, [], []⟩

/-- The neighbour with an address. -/
def bgpPeer? (v : Vrf) (x : Address) : Option BgpPeer :=
  v.bgpPeers.find? (·.peerAddress == x)

/-- Adds a neighbour in place of those with its address. -/
def addBgpPeer (v : Vrf) (p : BgpPeer) : Vrf :=
  { v with bgpPeers := v.bgpPeers.filter (·.peerAddress != p.peerAddress) ++ [p] }

/-- Adds neighbours one by one. -/
def addBgpPeers (v : Vrf) (ps : List BgpPeer) : Vrf := ps.foldl addBgpPeer v

/-- Adds static routes after those there are. -/
def addStaticRoutes (v : Vrf) (rs : List StaticRoute) : Vrf :=
  { v with staticRoutes := v.staticRoutes ++ rs }

@[simp] theorem addBgpPeers_nil (v : Vrf) : v.addBgpPeers [] = v := rfl

theorem addBgpPeers_cons (v : Vrf) (p : BgpPeer) (ps : List BgpPeer) :
    v.addBgpPeers (p :: ps) = (v.addBgpPeer p).addBgpPeers ps := rfl

theorem addBgpPeers_append (v : Vrf) (ps qs : List BgpPeer) :
    v.addBgpPeers (ps ++ qs) = (v.addBgpPeers ps).addBgpPeers qs := List.foldl_append

@[simp] theorem addStaticRoutes_nil (v : Vrf) : v.addStaticRoutes [] = v := by
  simp [addStaticRoutes]

theorem addStaticRoutes_append (v : Vrf) (rs ss : List StaticRoute) :
    v.addStaticRoutes (rs ++ ss) = (v.addStaticRoutes rs).addStaticRoutes ss := by
  simp [addStaticRoutes]

@[simp] theorem name_addBgpPeers (v : Vrf) (ps : List BgpPeer) :
    (v.addBgpPeers ps).name = v.name := by
  induction ps generalizing v with
  | nil => rfl
  | cons p ps ih => exact ih (v.addBgpPeer p)

@[simp] theorem staticRoutes_addBgpPeers (v : Vrf) (ps : List BgpPeer) :
    (v.addBgpPeers ps).staticRoutes = v.staticRoutes := by
  induction ps generalizing v with
  | nil => rfl
  | cons p ps ih => exact ih (v.addBgpPeer p)

/-- Neighbours and routes may be added in either order. -/
theorem addBgpPeers_addStaticRoutes (v : Vrf) (rs : List StaticRoute) (ps : List BgpPeer) :
    (v.addStaticRoutes rs).addBgpPeers ps = (v.addBgpPeers ps).addStaticRoutes rs := by
  induction ps generalizing v with
  | nil => rfl
  | cons p ps ih => exact ih (v.addBgpPeer p)

end Vrf

/-- Where a route comes from. -/
inductive RoutingProtocol where
  | bgp
  | connected
  | static
deriving DecidableEq, Repr, Inhabited

def RoutingProtocol.text : RoutingProtocol → String
  | .bgp => "bgp"
  | .connected => "connected"
  | .static => "static"

/-- The BGP attribute ORIGIN. -/
inductive OriginType where
  | igp
  | egp
  | incomplete
deriving DecidableEq, Repr, Inhabited

def OriginType.text : OriginType → String
  | .igp => "IGP"
  | .egp => "EGP"
  | .incomplete => "INCOMPLETE"

inductive PolicyAction where
  | accept
  | reject
deriving DecidableEq, Repr, Inhabited

def PolicyAction.text : PolicyAction → String
  | .accept => "ACCEPT"
  | .reject => "REJECT"

/-- What to do with the routes of one protocol. -/
structure PolicyStatement where
  protocol : RoutingProtocol
  setOrigin : Option OriginType
  action : PolicyAction
deriving DecidableEq, Inhabited

/-- A routing policy. -/
structure RoutingPolicy where
  name : String
  statements : List PolicyStatement
  defaultAction : PolicyAction
deriving DecidableEq, Inhabited

/-- The action for a route of a protocol, and the origin it is given. -/
def RoutingPolicy.evaluate (p : RoutingPolicy) (protocol : RoutingProtocol) :
    PolicyAction × Option OriginType :=
  match p.statements.find? (·.protocol == protocol) with
  | some s => (s.action, s.setOrigin)
  | none => (p.defaultAction, none)

end SiteVpn
