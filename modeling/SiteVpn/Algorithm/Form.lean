import SiteVpn.Algorithm.Vocabulary
import SiteVpn.Json.Form

/-!
# The names of algorithms

The names under which algorithms and kinds of tokens are stored.
-/

namespace SiteVpn

instance : Named EncryptionAlgorithm where
  all := [.aes128Cbc, .aes256Cbc, .aes128Gcm, .aes256Gcm]
  name
    | .aes128Cbc => "Aes128Cbc"
    | .aes256Cbc => "Aes256Cbc"
    | .aes128Gcm => "Aes128Gcm"
    | .aes256Gcm => "Aes256Gcm"

instance : Named IkeHashingAlgorithm where
  all := [.sha1, .sha256, .sha384, .sha512]
  name
    | .sha1 => "Sha1"
    | .sha256 => "Sha256"
    | .sha384 => "Sha384"
    | .sha512 => "Sha512"

instance : Named IpsecAuthenticationAlgorithm where
  all := [.hmacSha1, .hmacSha256, .hmacSha384, .hmacSha512]
  name
    | .hmacSha1 => "HmacSha1_96"
    | .hmacSha256 => "HmacSha256_128"
    | .hmacSha384 => "HmacSha384"
    | .hmacSha512 => "HmacSha512"

instance : Named DiffieHellmanGroup where
  all :=
    [.group2, .group5, .group14, .group15, .group16, .group17, .group18, .group19, .group20,
      .group21, .group22, .group23, .group24]
  name
    | .group2 => "Group2"
    | .group5 => "Group5"
    | .group14 => "Group14"
    | .group15 => "Group15"
    | .group16 => "Group16"
    | .group17 => "Group17"
    | .group18 => "Group18"
    | .group19 => "Group19"
    | .group20 => "Group20"
    | .group21 => "Group21"
    | .group22 => "Group22"
    | .group23 => "Group23"
    | .group24 => "Group24"

instance : Named IpsecProtocol where
  all := [.esp]
  name
    | .esp => "Esp"

instance : Named EncapsulationMode where
  all := [.tunnel, .transport]
  name
    | .tunnel => "Tunnel"
    | .transport => "Transport"

instance : Named IkeAuthenticationMethod where
  all := [.preSharedKeys]
  name
    | .preSharedKeys => "PreSharedKeys"

instance : Named TokenKind where
  all :=
    [.encryption, .ikeHashing, .ipsecAuthentication, .diffieHellmanGroup, .ipsecProtocol,
      .encapsulationMode]
  name
    | .encryption => "Encryption"
    | .ikeHashing => "IkeHashing"
    | .ipsecAuthentication => "IpsecAuthentication"
    | .diffieHellmanGroup => "DiffieHellmanGroup"
    | .ipsecProtocol => "IpsecProtocol"
    | .encapsulationMode => "EncapsulationMode"

end SiteVpn
