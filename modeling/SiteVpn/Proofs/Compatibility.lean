import SiteVpn.Proofs.Counting

/-!
# What a tunnel offers

A peer agrees to a proposal when it offers the same. The expansion of a tunnel has a proposal
for every combination of its tokens, so what can be agreed upon is told by the lists alone: a
peer's proposal is met exactly if each of its parts is named by some token of its list. Tokens
count by what they name, and synonyms offer the same.
-/

namespace SiteVpn

theorem Phase1Proposal.isCompatibleWith_iff {p q : Phase1Proposal} :
    p.isCompatibleWith q ↔
      p.authenticationMethod = q.authenticationMethod ∧ p.group = q.group ∧
        p.encryptionAlgorithms = q.encryptionAlgorithms ∧
        p.hashingAlgorithms = q.hashingAlgorithms := by
  simp [isCompatibleWith, and_assoc]

/-- Whether two tokens name one algorithm. -/
def Vocabulary.Synonymous (α : Type) [Vocabulary α] (token token' : String) : Prop :=
  ∃ a, ofToken α token = .ok a ∧ ofToken α token' = .ok a

namespace Tunnel

/-- Whether the three tokens of two combinations name the same algorithms. -/
structure Phase1Tokens.Synonymous (c c' : Phase1Tokens) : Prop where
  group : Vocabulary.Synonymous DiffieHellmanGroup c.group c'.group
  encryption : Vocabulary.Synonymous EncryptionAlgorithm c.encryption c'.encryption
  integrity : Vocabulary.Synonymous IkeHashingAlgorithm c.integrity c'.integrity

/-- Whether three tokens name just what a proposal offers. -/
structure Phase1Tokens.Describe (c : Phase1Tokens) (q : Phase1Proposal) : Prop where
  group : Vocabulary.ofToken DiffieHellmanGroup c.group = .ok q.group
  encryption : ∃ cipher, Vocabulary.ofToken EncryptionAlgorithm c.encryption = .ok cipher ∧
    q.encryptionAlgorithms = [cipher]
  hashing : ∃ hash, Vocabulary.ofToken IkeHashingAlgorithm c.integrity = .ok hash ∧
    q.hashingAlgorithms = [hash]

/-- Whether the lists of a tunnel allow what a proposal offers: a group that some token names,
and a single algorithm of the other two kinds that some token names, with authentication by a
shared key where the tunnel has one and without any where it has none. -/
structure Allows (t : Tunnel) (q : Phase1Proposal) : Prop where
  authentication : q.authenticationMethod = if t.keyHash.isSome then some .preSharedKeys else none
  group : ∃ token ∈ t.ikeGroups, Vocabulary.ofToken DiffieHellmanGroup token = .ok q.group
  encryption : ∃ token ∈ t.ikeEncryption, ∃ cipher,
    Vocabulary.ofToken EncryptionAlgorithm token = .ok cipher ∧ q.encryptionAlgorithms = [cipher]
  hashing : ∃ token ∈ t.ipsecIntegrity, ∃ hash,
    Vocabulary.ofToken IkeHashingAlgorithm token = .ok hash ∧ q.hashingAlgorithms = [hash]

variable {tunnelId : String} {t : Tunnel} {c c' : Phase1Tokens} {p q : Phase1Proposal}

theorem authenticationMethod_eq (t : Tunnel) :
    t.authenticationMethod = if t.keyHash.isSome then some .preSharedKeys else none := by
  unfold authenticationMethod
  cases t.keyHash <;> rfl

/-- A generated proposal offers what its tokens name. -/
theorem IsPhase1Proposal.isCompatibleWith_iff (h : IsPhase1Proposal tunnelId t c p) :
    p.isCompatibleWith q ↔ t.authenticationMethod = q.authenticationMethod ∧ c.Describe q := by
  have hauth : t.authenticationMethod = p.authenticationMethod :=
    authenticationMethod_eq_iff.mpr h.authentication
  obtain ⟨cipher, hcipher, hencryption⟩ := h.encryption
  obtain ⟨hash, hhash, hhashing⟩ := h.hashing
  rw [Phase1Proposal.isCompatibleWith_iff, hauth]
  apply and_congr_right
  intro _
  constructor
  · rintro ⟨hg, he, hi⟩
    exact ⟨hg ▸ h.group, ⟨cipher, hcipher, he ▸ hencryption⟩, ⟨hash, hhash, hi ▸ hhashing⟩⟩
  · rintro ⟨hg, ⟨cipher', hcipher', he⟩, ⟨hash', hhash', hi⟩⟩
    obtain rfl : cipher = cipher' := Except.ok.inj (hcipher.symm.trans hcipher')
    obtain rfl : hash = hash' := Except.ok.inj (hhash.symm.trans hhash')
    exact ⟨Except.ok.inj (h.group.symm.trans hg), hencryption.trans he.symm, hhashing.trans hi.symm⟩

theorem IsPhase1Proposal.describe (h : IsPhase1Proposal tunnelId t c p) : c.Describe p :=
  ⟨h.group, h.encryption, h.hashing⟩

/-- Tokens that name what other tokens name are their synonyms. -/
theorem Phase1Tokens.Describe.iff_synonymous (h : c'.Describe p) :
    c.Describe p ↔ c.Synonymous c' := by
  obtain ⟨cipher, hcipher, hencryption⟩ := h.encryption
  obtain ⟨hash, hhash, hhashing⟩ := h.hashing
  constructor
  · rintro ⟨hg, ⟨cipher', hcipher', he⟩, ⟨hash', hhash', hi⟩⟩
    obtain ⟨rfl, -⟩ := List.cons.inj (hencryption.symm.trans he)
    obtain ⟨rfl, -⟩ := List.cons.inj (hhashing.symm.trans hi)
    exact ⟨⟨p.group, hg, h.group⟩, ⟨cipher, hcipher', hcipher⟩, ⟨hash, hhash', hhash⟩⟩
  · rintro ⟨⟨group, hg, hg'⟩, ⟨cipher', he, he'⟩, ⟨hash', hi, hi'⟩⟩
    obtain rfl : group = p.group := Except.ok.inj (hg'.symm.trans h.group)
    obtain rfl : cipher' = cipher := Except.ok.inj (he'.symm.trans hcipher)
    obtain rfl : hash' = hash := Except.ok.inj (hi'.symm.trans hhash)
    exact ⟨hg, ⟨cipher', he, hencryption⟩, ⟨hash', hi, hhashing⟩⟩

/-- The lists allow what some combination of their tokens describes. -/
theorem allows_iff_exists_combination :
    t.Allows q ↔ t.authenticationMethod = q.authenticationMethod ∧
      ∃ c ∈ t.phase1Combinations, c.Describe q := by
  rw [authenticationMethod_eq]
  constructor
  · rintro ⟨hauth, ⟨group, hg, hgroup⟩, ⟨encryption, he, hencryption⟩, ⟨integrity, hi, hhashing⟩⟩
    exact ⟨hauth.symm, ⟨group, integrity, encryption⟩, mem_phase1Combinations.mpr ⟨hg, hi, he⟩,
      hgroup, hencryption, hhashing⟩
  · rintro ⟨hauth, c, hc, hgroup, hencryption, hhashing⟩
    obtain ⟨hg, hi, he⟩ := mem_phase1Combinations.mp hc
    exact ⟨hauth.symm, ⟨_, hg, hgroup⟩, ⟨_, he, hencryption⟩, ⟨_, hi, hhashing⟩⟩

/-- The expansion of a tunnel offers exactly what its lists allow: a proposal of a peer, whatever
it is, can be agreed upon with a generated one if and only if each of its parts is a single
algorithm that some token of its list names. Two generated proposals offer the same exactly when
their tokens are synonyms. -/
theorem phase1_offers_exactly_allowed {phase1 : List Phase1Proposal}
    (h : t.phase1Proposals tunnelId = .ok phase1) :
    (∀ q, (∃ p ∈ phase1, p.isCompatibleWith q) ↔ t.Allows q) ∧
    ∀ (n m : Nat) p p', phase1[n]? = some p → phase1[m]? = some p' →
      ∃ c c', t.phase1Combinations[n]? = some c ∧ t.phase1Combinations[m]? = some c' ∧
        IsPhase1Proposal tunnelId t c p ∧ IsPhase1Proposal tunnelId t c' p' ∧
        (p.isCompatibleWith p' ↔ c.Synonymous c') := by
  constructor
  · intro q
    rw [allows_iff_exists_combination]
    constructor
    · rintro ⟨p, hp, hcompatible⟩
      obtain ⟨c, hc, hproposal⟩ := exists_of_mem_mapM h hp
      obtain ⟨hauth, hdescribe⟩ :=
        (phase1Proposal_eq_ok_iff.mp hproposal).isCompatibleWith_iff.mp hcompatible
      exact ⟨hauth, c, hc, hdescribe⟩
    · rintro ⟨hauth, c, hc, hdescribe⟩
      obtain ⟨n, hn⟩ := List.mem_iff_getElem?.mp hc
      obtain ⟨p, hp, hproposal⟩ := getElem?_of_mapM h hn
      exact ⟨p, List.mem_of_getElem? hp,
        (phase1Proposal_eq_ok_iff.mp hproposal).isCompatibleWith_iff.mpr ⟨hauth, hdescribe⟩⟩
  · intro n m p p' hp hp'
    obtain ⟨c, hc, hproposal⟩ := exists_getElem?_of_mapM h hp
    obtain ⟨c', hc', hproposal'⟩ := exists_getElem?_of_mapM h hp'
    have hmade := phase1Proposal_eq_ok_iff.mp hproposal
    have hmade' := phase1Proposal_eq_ok_iff.mp hproposal'
    have hauth : t.authenticationMethod = p'.authenticationMethod :=
      authenticationMethod_eq_iff.mpr hmade'.authentication
    refine ⟨c, c', hc, hc', hmade, hmade', ?_⟩
    rw [hmade.isCompatibleWith_iff, hmade'.describe.iff_synonymous]
    exact and_iff_right hauth

/-- A peer's name and lifetime do not matter, but a second algorithm does: it is not met, though
the tunnel offers both of them. -/
theorem phase1_offers_exactly_allowed_two_algorithms :
    let t : Tunnel :=
      { (default : Tunnel) with
        keyHash := some "00", ikeGroups := ["14"], ipsecIntegrity := ["sha1", "SHA1"]
        ikeEncryption := ["AES128", "AES256", "aes-128-cbc"] }
    let q : Phase1Proposal :=
      ⟨"cust-ike-1", some .preSharedKeys, .group14, [.aes128Cbc], [.sha1], some 3600⟩
    ∃ phase1, t.phase1Proposals "t" = .ok phase1 ∧ phase1.length = 6 ∧
      (∃ p ∈ phase1, p.isCompatibleWith q) ∧
      ¬ ∃ p ∈ phase1, p.isCompatibleWith
        { q with encryptionAlgorithms := [.aes128Cbc, .aes256Cbc] } := by
  intro t q
  obtain ⟨phase1, h⟩ : ∃ phase1, t.phase1Proposals "t" = .ok phase1 := ⟨_, rfl⟩
  refine ⟨phase1, h, length_of_mapM h, ?_, fun hmet => ?_⟩
  · exact ((phase1_offers_exactly_allowed h).1 q).mpr
      ⟨rfl, ⟨"14", by decide, rfl⟩, ⟨"aes-128-cbc", by decide, .aes128Cbc, rfl, rfl⟩,
        ⟨"SHA1", by decide, .sha1, rfl, rfl⟩⟩
  · obtain ⟨-, -, cipher, -, hone⟩ := (((phase1_offers_exactly_allowed h).1 _).mp hmet).encryption
    cases (List.cons.inj hone).2

end Tunnel

end SiteVpn
