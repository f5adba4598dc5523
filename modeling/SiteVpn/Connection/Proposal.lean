import SiteVpn.Connection.Tunnel
import SiteVpn.Device.Ike
import SiteVpn.Device.Ipsec
import SiteVpn.Event

/-!
# Proposals of a tunnel

Every combination that a tunnel's lists allow is a proposal of its own, in the
order of the tokens: for phase 1 by group, then by integrity, then by encryption,
and for phase 2 by integrity and then by encryption. Tokens listed twice count
twice. A phase 1 proposal is named after its tokens as they stand.
-/

namespace SiteVpn

/-- The mode that a token names. An unknown token is no mode, and it is warned of. -/
def encapsulationMode (token : String) : Traced (Option EncapsulationMode) :=
  match Vocabulary.ofToken EncapsulationMode token with
  | .ok mode => ⟨some mode, []⟩
  | .error _ =>
    ⟨none, [.warned (.redFlag ("No IPsec encapsulation mode for string '" ++ token ++ "'"))]⟩

namespace Tunnel

/-- The tokens of a phase 1 proposal. -/
structure Phase1Tokens where
  group : String
  integrity : String
  encryption : String
deriving DecidableEq, Repr

/-- The tokens of a phase 2 proposal. -/
structure Phase2Tokens where
  integrity : String
  encryption : String
deriving DecidableEq, Repr

/-- The combinations of phase 1: the integrity is that of the second phase. -/
def phase1Combinations (t : Tunnel) : List Phase1Tokens :=
  t.ikeGroups.flatMap fun group =>
    t.ipsecIntegrity.flatMap fun integrity =>
      t.ikeEncryption.map fun encryption => ⟨group, integrity, encryption⟩

/-- The combinations of phase 2. -/
def phase2Combinations (t : Tunnel) : List Phase2Tokens :=
  t.ipsecIntegrity.flatMap fun integrity =>
    t.ipsecEncryption.map fun encryption => ⟨integrity, encryption⟩

/-- The name of the phase 1 proposal of some tokens. -/
def phase1Name (tunnelId : String) (c : Phase1Tokens) : String :=
  tunnelId ++ "-" ++ c.group ++ "-" ++ c.encryption ++ "-" ++ c.integrity

/-- How phase 1 authenticates: by the key, if there is one. -/
def authenticationMethod (t : Tunnel) : Option IkeAuthenticationMethod :=
  t.keyHash.map fun _ => .preSharedKeys

/-- The phase 1 proposal of some tokens. -/
def phase1Proposal (tunnelId : String) (t : Tunnel) (c : Phase1Tokens) :
    Except UnknownToken Phase1Proposal := do
  let group ← Vocabulary.ofToken DiffieHellmanGroup c.group
  let encryption ← Vocabulary.ofToken EncryptionAlgorithm c.encryption
  let hashing ← Vocabulary.ofToken IkeHashingAlgorithm c.integrity
  return {
    name := phase1Name tunnelId c
    authenticationMethod := t.authenticationMethod
    group
    encryptionAlgorithms := [encryption]
    hashingAlgorithms := [hashing]
    lifetimeSeconds := some t.ikeLifetime }

/-- The phase 1 proposals of a tunnel. -/
def phase1Proposals (tunnelId : String) (t : Tunnel) :
    Except UnknownToken (List Phase1Proposal) :=
  t.phase1Combinations.mapM (phase1Proposal tunnelId t)

/-- The phase 2 proposal of some tokens. -/
def phase2Proposal (protocol : IpsecProtocol) (mode : Option EncapsulationMode)
    (c : Phase2Tokens) : Except UnknownToken Phase2Proposal := do
  let authentication ← Vocabulary.ofToken IpsecAuthenticationAlgorithm c.integrity
  let encryption ← Vocabulary.ofToken EncryptionAlgorithm c.encryption
  return {
    authenticationAlgorithm := authentication
    encryptionAlgorithm := encryption
    protocols := .singleton protocol
    encapsulationMode := mode }

/-- The phase 2 proposals of a tunnel. -/
def phase2Proposals (t : Tunnel) : Traced (Except UnknownToken (List Phase2Proposal)) :=
  match Vocabulary.ofToken IpsecProtocol protocolToken with
  | .error e => ⟨.error e, []⟩
  | .ok protocol =>
    let mode := encapsulationMode modeToken
    ⟨t.phase2Combinations.mapM (phase2Proposal protocol mode.value), mode.events⟩

/-- The phase 2 policies of a tunnel: one a group, each offering the proposals of
some names. -/
def phase2Policies (t : Tunnel) (proposals : List String) :
    Except UnknownToken (List Phase2Policy) := do
  let groups ← Vocabulary.ofTokens DiffieHellmanGroup t.ipsecGroups
  return groups.map fun group => ⟨some group, proposals⟩

end Tunnel

end SiteVpn
