import SiteVpn.Text.Decimal

/-!
# Algorithms of IKE and IPsec

The closed set of algorithms that a negotiation can offer, each in the order in
which its values are compared, with the text that prints it.
-/

namespace SiteVpn

/-- A bulk encryption algorithm, of either negotiation phase. -/
inductive EncryptionAlgorithm where
  | aes128Cbc
  | aes256Cbc
  | aes128Gcm
  | aes256Gcm
deriving DecidableEq, Repr, Ord, Inhabited

def EncryptionAlgorithm.text : EncryptionAlgorithm → String
  | .aes128Cbc => "AES_128_CBC"
  | .aes256Cbc => "AES_256_CBC"
  | .aes128Gcm => "AES_128_GCM"
  | .aes256Gcm => "AES_256_GCM"

/-- A hash of IKE phase 1. -/
inductive IkeHashingAlgorithm where
  | sha1
  | sha256
  | sha384
  | sha512
deriving DecidableEq, Repr, Ord, Inhabited

def IkeHashingAlgorithm.text : IkeHashingAlgorithm → String
  | .sha1 => "SHA1"
  | .sha256 => "SHA_256"
  | .sha384 => "SHA_384"
  | .sha512 => "SHA_512"

/-- An integrity algorithm of IPsec phase 2. -/
inductive IpsecAuthenticationAlgorithm where
  | hmacSha1
  | hmacSha256
  | hmacSha384
  | hmacSha512
deriving DecidableEq, Repr, Ord, Inhabited

def IpsecAuthenticationAlgorithm.text : IpsecAuthenticationAlgorithm → String
  | .hmacSha1 => "HMAC_SHA1_96"
  | .hmacSha256 => "HMAC_SHA_256_128"
  | .hmacSha384 => "HMAC_SHA_384"
  | .hmacSha512 => "HMAC_SHA_512"

/-- A Diffie-Hellman group. -/
inductive DiffieHellmanGroup where
  | group2
  | group5
  | group14
  | group15
  | group16
  | group17
  | group18
  | group19
  | group20
  | group21
  | group22
  | group23
  | group24
deriving DecidableEq, Repr, Ord, Inhabited

/-- The registered number of a group. -/
def DiffieHellmanGroup.number : DiffieHellmanGroup → Nat
  | .group2 => 2
  | .group5 => 5
  | .group14 => 14
  | .group15 => 15
  | .group16 => 16
  | .group17 => 17
  | .group18 => 18
  | .group19 => 19
  | .group20 => 20
  | .group21 => 21
  | .group22 => 22
  | .group23 => 23
  | .group24 => 24

def DiffieHellmanGroup.text (g : DiffieHellmanGroup) : String :=
  "GROUP" ++ Decimal.write g.number

/-- The security protocol of a phase 2 proposal. -/
inductive IpsecProtocol where
  | esp
deriving DecidableEq, Repr, Ord, Inhabited

def IpsecProtocol.text : IpsecProtocol → String
  | .esp => "ESP"

/-- How a protected packet is wrapped. -/
inductive EncapsulationMode where
  | tunnel
  | transport
deriving DecidableEq, Repr, Ord, Inhabited

def EncapsulationMode.text : EncapsulationMode → String
  | .tunnel => "TUNNEL"
  | .transport => "TRANSPORT"

/-- How the peers of phase 1 prove their identity. -/
inductive IkeAuthenticationMethod where
  | preSharedKeys
deriving DecidableEq, Repr, Ord, Inhabited

def IkeAuthenticationMethod.text : IkeAuthenticationMethod → String
  | .preSharedKeys => "PRE_SHARED_KEYS"

instance : ToString EncryptionAlgorithm := ⟨EncryptionAlgorithm.text⟩
instance : ToString IkeHashingAlgorithm := ⟨IkeHashingAlgorithm.text⟩
instance : ToString IpsecAuthenticationAlgorithm := ⟨IpsecAuthenticationAlgorithm.text⟩
instance : ToString DiffieHellmanGroup := ⟨DiffieHellmanGroup.text⟩
instance : ToString IpsecProtocol := ⟨IpsecProtocol.text⟩
instance : ToString EncapsulationMode := ⟨EncapsulationMode.text⟩
instance : ToString IkeAuthenticationMethod := ⟨IkeAuthenticationMethod.text⟩

end SiteVpn
