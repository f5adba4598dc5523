import SiteVpn.Address.Cidr
import SiteVpn.Algorithm.Basic

/-!
# IKE phase 1 on a device

A phase 1 proposal is one combination of algorithms on offer. A policy offers
proposals by their names and carries the key material of its peer, which is only
ever present as a salted digest.
-/

namespace SiteVpn

/-- A combination of algorithms offered in phase 1. -/
structure Phase1Proposal where
  name : String
  /-- Absent when there is no key material. -/
  authenticationMethod : Option IkeAuthenticationMethod
  group : DiffieHellmanGroup
  /-- In order of preference. -/
  encryptionAlgorithms : List EncryptionAlgorithm
  /-- In order of preference. -/
  hashingAlgorithms : List IkeHashingAlgorithm
  lifetimeSeconds : Option UInt32
deriving DecidableEq, Inhabited

/-- Two proposals agree when all they offer is equal, the order of preference
included. Names and lifetimes do not matter. -/
def Phase1Proposal.isCompatibleWith (p q : Phase1Proposal) : Bool :=
  p.authenticationMethod == q.authenticationMethod && p.group == q.group &&
    p.encryptionAlgorithms == q.encryptionAlgorithms &&
    p.hashingAlgorithms == q.hashingAlgorithms

/-- The kind of key material. -/
inductive KeyType where
  | preSharedKeyUnencrypted
deriving DecidableEq, Repr, Inhabited

def KeyType.text : KeyType → String
  | .preSharedKeyUnencrypted => "PRE_SHARED_KEY_UNENCRYPTED"

/-- The key material for one peer. -/
structure Phase1Key where
  keyType : KeyType
  keyHash : Option String
  remoteIdentity : Address
  localInterface : String
deriving DecidableEq, Inhabited

/-- A phase 1 policy. -/
structure Phase1Policy where
  name : String
  key : Phase1Key
  /-- Names of phase 1 proposals in order of preference. -/
  proposals : List String
  remoteIdentity : Address
  localInterface : String
deriving DecidableEq, Inhabited

end SiteVpn
