import SiteVpn.Proofs.Synthesis

/-!
# Unknown tokens and the connections they fail

A tunnel reads its tokens combination by combination, so a list is read only where the
lists it is combined with have tokens too. What decides is where a token is read for the
first time. That puts the tokens of a tunnel into one sequence, and the first of them that
the table of its kind does not list is the error of the connection, unless an earlier
tunnel has one.
-/

namespace SiteVpn

namespace Vocabulary

variable {α : Type} [Vocabulary α]

/-- The tokens among some that a kind of algorithm does not have, as the errors they are. -/
def unlisted (α : Type) [Vocabulary α] (tokens : List String) : List UnknownToken :=
  (tokens.filter fun token => ¬ Lists α token).map fun token => ⟨kind α, token⟩

theorem unlisted_cons (token : String) (tokens : List String) :
    unlisted α (token :: tokens) = unlisted α [token] ++ unlisted α tokens := by
  unfold unlisted
  rw [← List.map_append, ← List.filter_append, List.singleton_append]

theorem unlisted_eq_nil_iff {tokens : List String} :
    unlisted α tokens = [] ↔ ∀ token ∈ tokens, Lists α token := by
  simp [unlisted]

/-- Whether a kind of algorithm lacks some token of a list. -/
def LacksSome (α : Type) [Vocabulary α] (tokens : List String) : Prop :=
  ∃ token ∈ tokens, ¬ Lists α token

theorem unlisted_ne_nil_iff {tokens : List String} :
    unlisted α tokens ≠ [] ↔ LacksSome α tokens := by
  rw [ne_eq, unlisted_eq_nil_iff]
  simp [LacksSome]

theorem exists_ofToken_of_lists {token : String} (h : Lists α token) :
    ∃ a, ofToken α token = .ok a := by
  obtain ⟨e, he, rfl⟩ := List.mem_map.mp h
  have hsome : ((tokens : List (String × α)).lookup e.1).isSome := by
    rw [List.lookup_isSome_iff]
    exact ⟨e, he, beq_self_eq_true e.1⟩
  obtain ⟨a, ha⟩ := Option.isSome_iff_exists.mp hsome
  exact ⟨a, by rw [ofToken, ha]⟩

theorem eq_of_ofToken_eq_error {token : String} {u : UnknownToken}
    (h : ofToken α token = .error u) : ¬ Lists α token ∧ u = ⟨kind α, token⟩ := by
  constructor
  · intro hl
    obtain ⟨a, ha⟩ := exists_ofToken_of_lists hl
    rw [h] at ha
    cases ha
  · unfold ofToken at h
    split at h
    · cases h
    · exact (Except.error.inj h).symm

/-- The first unlisted token is the failure to read the tokens in their order. -/
theorem head?_unlisted (tokens : List String) :
    (unlisted α tokens).head? = tokens.findSome? fun token => failure? (ofToken α token) := by
  induction tokens with
  | nil => rfl
  | cons token tokens ih =>
      rw [unlisted_cons, List.head?_append, ih, List.findSome?_cons]
      cases h : ofToken α token with
      | ok a => simp [unlisted, lists_of_ofToken h, failure?]
      | error u =>
          obtain ⟨hl, rfl⟩ := eq_of_ofToken_eq_error h
          simp [unlisted, hl, failure?]

end Vocabulary

open Vocabulary (Lists LacksSome unlisted)

namespace Tunnel

/-- The unknown tokens of phase 1 in the order in which they are met: those of the first
combination by group, encryption and integrity, and then the others of each list. -/
def unknownPhase1 (t : Tunnel) : List UnknownToken :=
  match t.ikeGroups, t.ipsecIntegrity, t.ikeEncryption with
  | group :: groups, integrity :: integrities, encryption :: encryptions =>
    unlisted DiffieHellmanGroup [group] ++ (unlisted EncryptionAlgorithm [encryption] ++
      (unlisted IkeHashingAlgorithm [integrity] ++
        (unlisted EncryptionAlgorithm encryptions ++
          (unlisted IkeHashingAlgorithm integrities ++ unlisted DiffieHellmanGroup groups))))
  | _, _, _ => []

/-- The unknown tokens of the proposals of phase 2: those of the first integrity and of
every encryption, and then the other integrities. -/
def unknownPhase2 (t : Tunnel) : List UnknownToken :=
  match t.ipsecIntegrity, t.ipsecEncryption with
  | integrity :: integrities, encryption :: encryptions =>
    unlisted IpsecAuthenticationAlgorithm [integrity] ++
      (unlisted EncryptionAlgorithm (encryption :: encryptions) ++
        unlisted IpsecAuthenticationAlgorithm integrities)
  | _, _ => []

/-- The unknown tokens of a tunnel in the order in which they are met: phase 1, then the
proposals of phase 2, then its groups. -/
def unknownTokens (t : Tunnel) : List UnknownToken :=
  t.unknownPhase1 ++ t.unknownPhase2 ++ unlisted DiffieHellmanGroup t.ipsecGroups

/-- Whether phase 1 has combinations, and a token in them that is not known. -/
def FailsPhase1 (t : Tunnel) : Prop :=
  t.ikeGroups ≠ [] ∧ t.ipsecIntegrity ≠ [] ∧ t.ikeEncryption ≠ [] ∧
    (LacksSome DiffieHellmanGroup t.ikeGroups ∨
      LacksSome IkeHashingAlgorithm t.ipsecIntegrity ∨
      LacksSome EncryptionAlgorithm t.ikeEncryption)

/-- Whether phase 2 has combinations, and a token in them that is not known. -/
def FailsPhase2 (t : Tunnel) : Prop :=
  t.ipsecIntegrity ≠ [] ∧ t.ipsecEncryption ≠ [] ∧
    (LacksSome IpsecAuthenticationAlgorithm t.ipsecIntegrity ∨
      LacksSome EncryptionAlgorithm t.ipsecEncryption)

/-- Whether a tunnel has a token that fails its connection. -/
def Fails (t : Tunnel) : Prop :=
  t.FailsPhase1 ∨ t.FailsPhase2 ∨ LacksSome DiffieHellmanGroup t.ipsecGroups

theorem unknownPhase1_ne_nil_iff {t : Tunnel} : t.unknownPhase1 ≠ [] ↔ t.FailsPhase1 := by
  rw [FailsPhase1, unknownPhase1]
  cases t.ikeGroups with
  | nil => simp
  | cons group groups =>
      cases t.ipsecIntegrity with
      | nil => simp
      | cons integrity integrities =>
          cases t.ikeEncryption with
          | nil => simp
          | cons encryption encryptions =>
              simp only [ne_eq, List.append_eq_nil_iff, Vocabulary.unlisted_eq_nil_iff, LacksSome]
              grind

theorem unknownPhase2_ne_nil_iff {t : Tunnel} : t.unknownPhase2 ≠ [] ↔ t.FailsPhase2 := by
  rw [FailsPhase2, unknownPhase2]
  cases t.ipsecIntegrity with
  | nil => simp
  | cons integrity integrities =>
      cases t.ipsecEncryption with
      | nil => simp
      | cons encryption encryptions =>
          simp only [ne_eq, List.append_eq_nil_iff, Vocabulary.unlisted_eq_nil_iff, LacksSome]
          grind

theorem unknownTokens_ne_nil_iff {t : Tunnel} : t.unknownTokens ≠ [] ↔ t.Fails := by
  rw [unknownTokens, Fails, ← unknownPhase1_ne_nil_iff, ← unknownPhase2_ne_nil_iff,
    ← Vocabulary.unlisted_ne_nil_iff]
  simp only [ne_eq, List.append_eq_nil_iff, Classical.not_and_iff_not_or_not, or_assoc]

/-- Whether the tokens of a tunnel are known as far as there are tokens in the lists that
they are combined with. -/
structure CombinedTokensKnown (t : Tunnel) : Prop where
  ipsecGroups : ∀ token ∈ t.ipsecGroups, Lists DiffieHellmanGroup token
  ikeGroups : t.ipsecIntegrity ≠ [] → t.ikeEncryption ≠ [] →
    ∀ token ∈ t.ikeGroups, Lists DiffieHellmanGroup token
  ikeEncryption : t.ikeGroups ≠ [] → t.ipsecIntegrity ≠ [] →
    ∀ token ∈ t.ikeEncryption, Lists EncryptionAlgorithm token
  ipsecEncryption : t.ipsecIntegrity ≠ [] →
    ∀ token ∈ t.ipsecEncryption, Lists EncryptionAlgorithm token
  integrity_hashing : t.ikeGroups ≠ [] → t.ikeEncryption ≠ [] →
    ∀ token ∈ t.ipsecIntegrity, Lists IkeHashingAlgorithm token
  integrity_authentication : t.ipsecEncryption ≠ [] →
    ∀ token ∈ t.ipsecIntegrity, Lists IpsecAuthenticationAlgorithm token

theorem not_fails_iff {t : Tunnel} : ¬ t.Fails ↔ t.CombinedTokensKnown := by
  constructor
  · intro h
    unfold Fails FailsPhase1 FailsPhase2 LacksSome at h
    constructor <;> grind
  · rintro h (⟨hg, hi, he, hlacks⟩ | ⟨hi, he, hlacks⟩ | ⟨token, htoken, hno⟩)
    · rcases hlacks with ⟨token, htoken, hno⟩ | ⟨token, htoken, hno⟩ | ⟨token, htoken, hno⟩
      · exact hno (h.ikeGroups hi he token htoken)
      · exact hno (h.integrity_hashing hg he token htoken)
      · exact hno (h.ikeEncryption hg hi token htoken)
    · rcases hlacks with ⟨token, htoken, hno⟩ | ⟨token, htoken, hno⟩
      · exact hno (h.integrity_authentication he token htoken)
      · exact hno (h.ipsecEncryption hi token htoken)
    · exact hno (h.ipsecGroups token htoken)

section Failure

variable (tunnelId : String) (t : Tunnel)

theorem failure?_phase1Proposal (c : Phase1Tokens) :
    failure? (phase1Proposal tunnelId t c) =
      (failure? (Vocabulary.ofToken DiffieHellmanGroup c.group)).or
        ((failure? (Vocabulary.ofToken EncryptionAlgorithm c.encryption)).or
          (failure? (Vocabulary.ofToken IkeHashingAlgorithm c.integrity))) := by
  apply failure?_bind
  intro group
  apply failure?_bind
  intro encryption
  rw [failure?_bind (o := none) fun _ => rfl, Option.or_none]

theorem failure?_phase1Proposals :
    failure? (t.phase1Proposals tunnelId) = t.unknownPhase1.head? := by
  rw [phase1Proposals, failure?_mapM, phase1Combinations, unknownPhase1]
  simp only [findSome?_flatMap, List.findSome?_map, Function.comp_def, failure?_phase1Proposal]
  cases t.ikeGroups with
  | nil => rfl
  | cons group groups =>
      cases t.ipsecIntegrity with
      | nil => simp
      | cons integrity integrities =>
          cases t.ikeEncryption with
          | nil => simp
          | cons encryption encryptions =>
              rw [findSome?_triples]
              simp only [List.head?_append, Vocabulary.head?_unlisted, List.findSome?_singleton]

theorem failure?_phase2Proposal (protocol : IpsecProtocol) (mode : Option EncapsulationMode)
    (c : Phase2Tokens) :
    failure? (phase2Proposal protocol mode c) =
      (failure? (Vocabulary.ofToken IpsecAuthenticationAlgorithm c.integrity)).or
        (failure? (Vocabulary.ofToken EncryptionAlgorithm c.encryption)) := by
  apply failure?_bind
  intro authentication
  rw [failure?_bind (o := none) fun _ => rfl, Option.or_none]

theorem failure?_phase2Proposals :
    failure? t.phase2Proposals.value = t.unknownPhase2.head? := by
  change failure? (t.phase2Combinations.mapM (phase2Proposal .esp (some .tunnel))) = _
  rw [failure?_mapM, phase2Combinations, unknownPhase2]
  simp only [findSome?_flatMap, List.findSome?_map, Function.comp_def, failure?_phase2Proposal]
  cases t.ipsecIntegrity with
  | nil => rfl
  | cons integrity integrities =>
      cases t.ipsecEncryption with
      | nil => simp
      | cons encryption encryptions =>
          rw [findSome?_pairs integrity integrities (List.cons_ne_nil encryption encryptions)]
          simp only [List.head?_append, Vocabulary.head?_unlisted, List.findSome?_singleton]

theorem failure?_phase2Policies (names : List String) :
    failure? (t.phase2Policies names) = (unlisted DiffieHellmanGroup t.ipsecGroups).head? := by
  rw [phase2Policies, failure?_bind (o := none) fun _ => rfl, Option.or_none,
    Vocabulary.ofTokens_eq_mapM, failure?_mapM, Vocabulary.head?_unlisted]

end Failure

end Tunnel

namespace Connection

variable {c : Connection} {p : Placement}

theorem failure?_tunnelArtifacts (tunnelId : String) (t : Tunnel) :
    failure? (c.tunnelArtifacts p tunnelId t).value = t.unknownTokens.head? := by
  rw [value_tunnelArtifacts, Tunnel.unknownTokens, List.append_assoc, List.head?_append,
    List.head?_append, ← t.failure?_phase1Proposals tunnelId, ← t.failure?_phase2Proposals]
  apply failure?_bind
  intro phase1
  apply failure?_bind
  intro phase2
  rw [failure?_bind (o := none) fun _ => rfl, Option.or_none, t.failure?_phase2Policies]

theorem failure?_synthesizeFrom (n : Nat) (ts : List Tunnel) :
    failure? (c.synthesizeFrom p n ts).value = ts.findSome? (·.unknownTokens.head?) := by
  induction ts generalizing n with
  | nil => rfl
  | cons t ts ih =>
      have hrest : ∀ a : Artifacts,
          failure? (do
            let rest ← (c.synthesizeFrom p (n + 1) ts).value
            return a.append rest) = ts.findSome? (·.unknownTokens.head?) := by
        intro a
        rw [failure?_bind (o := none) fun _ => rfl, Option.or_none, ih]
      rw [value_synthesizeFrom_cons, failure?_bind hrest, failure?_tunnelArtifacts,
        List.findSome?_cons]
      cases t.unknownTokens.head? <;> rfl

/-- The error of a connection is the first unknown token of its first tunnel that has one. -/
theorem failure?_synthesize (c : Connection) (p : Placement) :
    failure? (c.synthesize p).value = c.tunnels.findSome? (·.unknownTokens.head?) :=
  failure?_synthesizeFrom 1 c.tunnels

/-- A connection fails exactly if one of its tunnels does: if phase 1 or phase 2 has
combinations with an unknown token in them, or if a group of phase 2 is unknown. The error
is the first unknown token of the first such tunnel. -/
theorem synthesize_eq_error_iff (c : Connection) (p : Placement) :
    ((∃ u, (c.synthesize p).value = .error u) ↔ ∃ t ∈ c.tunnels, t.Fails) ∧
    ∀ u, (c.synthesize p).value = .error u ↔
      ∃ before t after, c.tunnels = before ++ t :: after ∧ t.unknownTokens.head? = some u ∧
        ∀ t' ∈ before, ¬ t'.Fails := by
  constructor
  · simp only [← failure?_eq_some_iff, failure?_synthesize, ← Option.isSome_iff_exists,
      List.findSome?_isSome_iff, List.isSome_head?, Tunnel.unknownTokens_ne_nil_iff]
  · intro u
    rw [← failure?_eq_some_iff, failure?_synthesize, List.findSome?_eq_some_iff]
    simp only [List.head?_eq_none_iff, ← Tunnel.unknownTokens_ne_nil_iff, ne_eq,
      Classical.not_not]

/-- A later encryption is met with the first group, before the other integrities and groups. -/
example :
    let t : Tunnel :=
      { (default : Tunnel) with
        ikeGroups := ["2", "1"], ipsecIntegrity := ["SHA1", "MD5"]
        ikeEncryption := ["AES128", "DES"] }
    t.unknownTokens.head? = some ⟨.encryption, "DES"⟩ := by decide

/-- A connection succeeds exactly if the tokens of its tunnels are known as far as there are
tokens to combine them with. -/
theorem exists_synthesize_iff (c : Connection) (p : Placement) :
    (∃ a, (c.synthesize p).value = .ok a) ↔ ∀ t ∈ c.tunnels, t.CombinedTokensKnown := by
  rw [← failure?_eq_none_iff, failure?_synthesize, List.findSome?_eq_none_iff]
  simp only [List.head?_eq_none_iff, ← Tunnel.not_fails_iff, ← Tunnel.unknownTokens_ne_nil_iff,
    ne_eq, Classical.not_not]

/-- An unknown token does not fail a connection where it is combined with nothing: here no
integrity is listed, so the encryption is never read. -/
theorem exists_synthesize_with_unknown_token :
    let t : Tunnel :=
      { (default : Tunnel) with
        ikeGroups := ["2"], ikeEncryption := ["DES"], ipsecEncryption := ["DES"]
        ipsecGroups := ["14"] }
    let c : Connection := { (default : Connection) with id := "a", tunnels := [t] }
    (∃ a, (c.synthesize ⟨Placement.defaultUnderlayVrf, "inner", none, none⟩).value = .ok a) ∧
      t ∈ c.tunnels ∧ "DES" ∈ t.ikeEncryption ∧ ¬ Lists EncryptionAlgorithm "DES" := by
  intro t c
  exact ⟨⟨_, rfl⟩, List.mem_singleton_self t, List.mem_singleton_self "DES", by decide⟩

end Connection

end SiteVpn
