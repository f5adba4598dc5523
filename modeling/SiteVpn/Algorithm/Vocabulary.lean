import SiteVpn.Algorithm.Basic

/-!
# The vocabulary of algorithm tokens

Providers name algorithms by free-form tokens. Each kind of algorithm has a
table of its tokens, synonyms included, and a token means the algorithm that its
table lists for it. Tokens are compared as they stand, so all kinds share one
way to fail: a token that the table does not list.
-/

namespace SiteVpn

/-- The kind of algorithm that a token is expected to name. -/
inductive TokenKind where
  | encryption
  | ikeHashing
  | ipsecAuthentication
  | diffieHellmanGroup
  | ipsecProtocol
  | encapsulationMode
deriving DecidableEq, Repr, Inhabited

def TokenKind.text : TokenKind → String
  | .encryption => "encryption algorithm"
  | .ikeHashing => "IKE hashing algorithm"
  | .ipsecAuthentication => "IPsec authentication algorithm"
  | .diffieHellmanGroup => "Diffie-Hellman group"
  | .ipsecProtocol => "IPsec protocol"
  | .encapsulationMode => "IPsec encapsulation mode"

instance : ToString TokenKind := ⟨TokenKind.text⟩

/-- A token that the table of its kind does not list. -/
structure UnknownToken where
  kind : TokenKind
  token : String
deriving DecidableEq, Repr

/-- The account given of an unknown token. -/
def UnknownToken.message (e : UnknownToken) : String :=
  "no conversion to " ++ e.kind.text ++ " for string: \"" ++ e.token ++ "\""

/-- A kind of algorithm together with its token table. -/
class Vocabulary (α : Type) where
  kind : TokenKind
  tokens : List (String × α)

/-- The algorithm that a token names. -/
def Vocabulary.ofToken (α : Type) [Vocabulary α] (token : String) :
    Except UnknownToken α :=
  match (tokens : List (String × α)).lookup token with
  | some a => .ok a
  | none => .error ⟨Vocabulary.kind α, token⟩

/-- The algorithms of a list of tokens, or its first unknown token. -/
def Vocabulary.ofTokens (α : Type) [Vocabulary α] : List String → Except UnknownToken (List α)
  | [] => .ok []
  | t :: ts => do
    let a ← ofToken α t
    let as ← ofTokens α ts
    return a :: as

instance : Vocabulary EncryptionAlgorithm where
  kind := .encryption
  tokens :=
    [("aes-128-cbc", .aes128Cbc), ("AES128", .aes128Cbc), ("AES256", .aes256Cbc),
      ("AES128-GCM-16", .aes128Gcm), ("AES256-GCM-16", .aes256Gcm)]

instance : Vocabulary IkeHashingAlgorithm where
  kind := .ikeHashing
  tokens :=
    [("sha1", .sha1), ("SHA1", .sha1), ("SHA2-256", .sha256), ("SHA2-384", .sha384),
      ("SHA2-512", .sha512)]

instance : Vocabulary IpsecAuthenticationAlgorithm where
  kind := .ipsecAuthentication
  tokens :=
    [("hmac-sha1-96", .hmacSha1), ("SHA1", .hmacSha1), ("SHA2-256", .hmacSha256),
      ("SHA2-384", .hmacSha384), ("SHA2-512", .hmacSha512)]

instance : Vocabulary DiffieHellmanGroup where
  kind := .diffieHellmanGroup
  tokens :=
    [("2", .group2), ("5", .group5), ("14", .group14), ("15", .group15), ("16", .group16),
      ("17", .group17), ("18", .group18), ("19", .group19), ("20", .group20),
      ("21", .group21), ("22", .group22), ("23", .group23), ("24", .group24)]

instance : Vocabulary IpsecProtocol where
  kind := .ipsecProtocol
  tokens := [("esp", .esp)]

instance : Vocabulary EncapsulationMode where
  kind := .encapsulationMode
  tokens := [("tunnel", .tunnel), ("transport", .transport)]

end SiteVpn
