import SiteVpn.Address.Cidr
import SiteVpn.Algorithm.Basic

/-!
# IPsec phase 2 on a device

A phase 2 policy offers proposals by their names for one group, and a peer
config binds a phase 1 policy and a phase 2 policy to the interfaces and the
outside addresses of a tunnel.
-/

namespace SiteVpn

/-- A set of security protocols. With one protocol in existence a set of them is
whether it is in. -/
structure ProtocolSet where
  esp : Bool
deriving DecidableEq, Inhabited

namespace ProtocolSet

/-- The set of one protocol. -/
def singleton : IpsecProtocol → ProtocolSet
  | .esp => ⟨true⟩

/-- The protocols of the set in order. -/
def toList (s : ProtocolSet) : List IpsecProtocol := if s.esp then [.esp] else []

/-- The set of the protocols of a list. -/
def ofList (ps : List IpsecProtocol) : ProtocolSet := ⟨ps.contains .esp⟩

@[simp] theorem ofList_toList (s : ProtocolSet) : ofList s.toList = s := by
  cases s with
  | mk esp => cases esp <;> rfl

end ProtocolSet

/-- A combination of algorithms offered in phase 2. -/
structure Phase2Proposal where
  authenticationAlgorithm : IpsecAuthenticationAlgorithm
  encryptionAlgorithm : EncryptionAlgorithm
  protocols : ProtocolSet
  /-- Absent when the provider names a mode that is not known. -/
  encapsulationMode : Option EncapsulationMode
deriving DecidableEq, Inhabited

/-- A phase 2 policy. -/
structure Phase2Policy where
  pfsGroup : Option DiffieHellmanGroup
  /-- Names of phase 2 proposals in order of preference. -/
  proposals : List String
deriving DecidableEq, Inhabited

/-- A peer with a fixed address. -/
structure PeerConfig where
  /-- The interface of the traffic inside the tunnel. -/
  tunnelInterface : String
  phase1Policy : String
  phase2Policy : String
  /-- The interface that the tunnel starts from. -/
  sourceInterface : String
  localAddress : Address
  destinationAddress : Address
deriving DecidableEq, Inhabited

end SiteVpn
