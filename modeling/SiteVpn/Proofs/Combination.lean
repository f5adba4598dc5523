import SiteVpn.Proofs.Expansion

/-!
# The order of combinations

The combinations of lists are runs of the same length one after another, one run for each token
of the first list. So each combination is found by the places of its tokens in their lists, and
the proposals of a tunnel, which are read combination by combination, are found by the same
places. A proposal is told from its tokens by what each of them names.
-/

namespace SiteVpn

section Runs

variable {α β : Type}

theorem length_flatMap_of_length {f : α → List β} {n : Nat} (hf : ∀ x, (f x).length = n)
    (xs : List α) : (xs.flatMap f).length = xs.length * n := by
  simp only [List.length_flatMap, hf, List.map_const', List.sum_replicate_nat]

/-- Of runs of one length, an element is found by the number of its run and its place in it. -/
theorem getElem?_flatMap_eq_some_iff {f : α → List β} {n : Nat} (hf : ∀ x, (f x).length = n)
    {xs : List α} {m : Nat} {y : β} :
    (xs.flatMap f)[m]? = some y ↔
      ∃ i j x, m = i * n + j ∧ xs[i]? = some x ∧ (f x)[j]? = some y := by
  induction xs generalizing m with
  | nil => simp
  | cons x xs ih =>
      rw [List.flatMap_cons, List.getElem?_append, hf]
      by_cases hm : m < n
      · rw [if_pos hm]
        constructor
        · intro h
          exact ⟨0, m, x, by rw [Nat.zero_mul, Nat.zero_add], rfl, h⟩
        · rintro ⟨i, j, x', rfl, hx, hy⟩
          cases i with
          | zero =>
              obtain rfl := Option.some.inj hx
              rwa [Nat.zero_mul, Nat.zero_add]
          | succ i =>
              rw [Nat.succ_mul] at hm
              omega
      · rw [if_neg hm, ih]
        constructor
        · rintro ⟨i, j, x', hmn, hx, hy⟩
          refine ⟨i + 1, j, x', ?_, hx, hy⟩
          rw [Nat.succ_mul]
          omega
        · rintro ⟨i, j, x', rfl, hx, hy⟩
          cases i with
          | zero =>
              obtain rfl := Option.some.inj hx
              have hj := (List.getElem?_eq_some_iff.mp hy).1
              rw [hf] at hj
              omega
          | succ i =>
              refine ⟨i, j, x', ?_, hx, hy⟩
              rw [Nat.succ_mul]
              omega

/-- So a pair is found by the places of its two elements. -/
theorem getElem?_pairs_eq_some_iff {γ : Type} {f : α → β → γ} {xs : List α} {ys : List β}
    {m : Nat} {z : γ} :
    (xs.flatMap fun x => ys.map (f x))[m]? = some z ↔
      ∃ i j x y, m = i * ys.length + j ∧ xs[i]? = some x ∧ ys[j]? = some y ∧ f x y = z := by
  rw [getElem?_flatMap_eq_some_iff fun x => List.length_map (f x)]
  constructor
  · rintro ⟨i, j, x, hm, hx, hz⟩
    rw [List.getElem?_map] at hz
    obtain ⟨y, hy, hz⟩ := Option.map_eq_some_iff.mp hz
    exact ⟨i, j, x, y, hm, hx, hy, hz⟩
  · rintro ⟨i, j, x, y, hm, hx, hy, rfl⟩
    refine ⟨i, j, x, hm, hx, ?_⟩
    rw [List.getElem?_map, hy, Option.map_some]

end Runs

namespace Tunnel

variable {tunnelId : String} {t : Tunnel}

/-- Each group has as many combinations. -/
theorem length_phase1Run (t : Tunnel) (group : String) :
    (t.ipsecIntegrity.flatMap fun integrity => t.ikeEncryption.map fun encryption =>
      Phase1Tokens.mk group integrity encryption).length =
      t.ipsecIntegrity.length * t.ikeEncryption.length :=
  length_flatMap_of_length (fun _ => List.length_map _) t.ipsecIntegrity

theorem length_phase1Combinations (t : Tunnel) :
    t.phase1Combinations.length =
      t.ikeGroups.length * t.ipsecIntegrity.length * t.ikeEncryption.length := by
  rw [Nat.mul_assoc]
  exact length_flatMap_of_length (length_phase1Run t) t.ikeGroups

theorem length_phase2Combinations (t : Tunnel) :
    t.phase2Combinations.length = t.ipsecIntegrity.length * t.ipsecEncryption.length :=
  length_flatMap_of_length (fun _ => List.length_map _) t.ipsecIntegrity

/-- A combination of phase 1 is found by the places of its three tokens. -/
theorem getElem?_phase1Combinations_eq_some_iff {n : Nat} {c : Phase1Tokens} :
    t.phase1Combinations[n]? = some c ↔
      ∃ i j k, n = (i * t.ipsecIntegrity.length + j) * t.ikeEncryption.length + k ∧
        t.ikeGroups[i]? = some c.group ∧ t.ipsecIntegrity[j]? = some c.integrity ∧
        t.ikeEncryption[k]? = some c.encryption := by
  rw [phase1Combinations, getElem?_flatMap_eq_some_iff (length_phase1Run t)]
  constructor
  · rintro ⟨i, m, group, hn, hgroup, hm⟩
    obtain ⟨j, k, integrity, encryption, rfl, hintegrity, hencryption, rfl⟩ :=
      getElem?_pairs_eq_some_iff.mp hm
    refine ⟨i, j, k, ?_, hgroup, hintegrity, hencryption⟩
    rw [hn, Nat.add_mul, Nat.mul_assoc, Nat.add_assoc]
  · rintro ⟨i, j, k, hn, hgroup, hintegrity, hencryption⟩
    refine ⟨i, j * t.ikeEncryption.length + k, c.group, ?_, hgroup, ?_⟩
    · rw [hn, Nat.add_mul, Nat.mul_assoc, Nat.add_assoc]
    · exact getElem?_pairs_eq_some_iff.mpr
        ⟨j, k, c.integrity, c.encryption, rfl, hintegrity, hencryption, rfl⟩

/-- A combination of phase 2 is found by the places of its two tokens. -/
theorem getElem?_phase2Combinations_eq_some_iff {n : Nat} {c : Phase2Tokens} :
    t.phase2Combinations[n]? = some c ↔
      ∃ j k, n = j * t.ipsecEncryption.length + k ∧
        t.ipsecIntegrity[j]? = some c.integrity ∧ t.ipsecEncryption[k]? = some c.encryption := by
  rw [phase2Combinations, getElem?_pairs_eq_some_iff]
  constructor
  · rintro ⟨j, k, integrity, encryption, hn, hintegrity, hencryption, rfl⟩
    exact ⟨j, k, hn, hintegrity, hencryption⟩
  · rintro ⟨j, k, hn, hintegrity, hencryption⟩
    exact ⟨j, k, c.integrity, c.encryption, hn, hintegrity, hencryption, rfl⟩

/-- The phase 1 proposal that three tokens stand for: what each of them names, under a name made
of the tunnel's and theirs. It authenticates by a shared key where the tunnel has one. -/
structure IsPhase1Proposal (tunnelId : String) (t : Tunnel) (c : Phase1Tokens)
    (q : Phase1Proposal) : Prop where
  name : q.name = tunnelId ++ "-" ++ c.group ++ "-" ++ c.encryption ++ "-" ++ c.integrity
  group : Vocabulary.ofToken DiffieHellmanGroup c.group = .ok q.group
  hashing : ∃ hash, Vocabulary.ofToken IkeHashingAlgorithm c.integrity = .ok hash ∧
    q.hashingAlgorithms = [hash]
  encryption : ∃ cipher, Vocabulary.ofToken EncryptionAlgorithm c.encryption = .ok cipher ∧
    q.encryptionAlgorithms = [cipher]
  lifetime : q.lifetimeSeconds = some t.ikeLifetime
  authentication : q.authenticationMethod = some .preSharedKeys ↔ t.keyHash.isSome

/-- The phase 2 proposal that two tokens stand for: ESP in tunnel mode with what they name. -/
structure IsPhase2Proposal (c : Phase2Tokens) (q : Phase2Proposal) : Prop where
  authentication : Vocabulary.ofToken IpsecAuthenticationAlgorithm c.integrity =
    .ok q.authenticationAlgorithm
  encryption : Vocabulary.ofToken EncryptionAlgorithm c.encryption = .ok q.encryptionAlgorithm
  protocols : q.protocols.toList = [.esp]
  mode : q.encapsulationMode = some .tunnel

theorem authenticationMethod_eq_iff {method : Option IkeAuthenticationMethod} :
    t.authenticationMethod = method ↔ (method = some .preSharedKeys ↔ t.keyHash.isSome) := by
  unfold authenticationMethod
  cases t.keyHash with
  | none => cases method <;> simp
  | some digest => cases method <;> simp

theorem phase1Proposal_eq_ok_iff {c : Phase1Tokens} {q : Phase1Proposal} :
    phase1Proposal tunnelId t c = .ok q ↔ IsPhase1Proposal tunnelId t c q := by
  constructor
  · intro h
    obtain ⟨group, hg, h⟩ := bind_eq_ok.mp h
    obtain ⟨cipher, he, h⟩ := bind_eq_ok.mp h
    obtain ⟨hash, hh, h⟩ := bind_eq_ok.mp h
    obtain rfl := Except.ok.inj h
    exact ⟨rfl, hg, ⟨hash, hh, rfl⟩, ⟨cipher, he, rfl⟩, rfl, authenticationMethod_eq_iff.mp rfl⟩
  · rintro ⟨hname, hg, ⟨hash, hh, hhashing⟩, ⟨cipher, he, hencryption⟩, hlifetime, hauth⟩
    apply bind_eq_ok.mpr ⟨q.group, hg, ?_⟩
    apply bind_eq_ok.mpr ⟨cipher, he, ?_⟩
    apply bind_eq_ok.mpr ⟨hash, hh, ?_⟩
    rw [authenticationMethod_eq_iff.mpr hauth, phase1Name, ← hname, ← hhashing, ← hencryption,
      ← hlifetime]
    rfl

theorem phase2Proposal_eq_ok_iff {c : Phase2Tokens} {q : Phase2Proposal} :
    phase2Proposal .esp (some .tunnel) c = .ok q ↔ IsPhase2Proposal c q := by
  constructor
  · intro h
    obtain ⟨hash, hh, h⟩ := bind_eq_ok.mp h
    obtain ⟨cipher, he, h⟩ := bind_eq_ok.mp h
    obtain rfl := Except.ok.inj h
    exact ⟨hh, he, rfl, rfl⟩
  · rintro ⟨hh, he, hprotocols, hmode⟩
    apply bind_eq_ok.mpr ⟨_, hh, ?_⟩
    apply bind_eq_ok.mpr ⟨_, he, ?_⟩
    have hesp : ProtocolSet.singleton .esp = q.protocols := by
      rw [← ProtocolSet.ofList_toList q.protocols, hprotocols]
      rfl
    rw [hesp, ← hmode]
    rfl

/-- The protocol and the mode of every tunnel are known. -/
theorem value_phase2Proposals (t : Tunnel) :
    t.phase2Proposals.value = t.phase2Combinations.mapM (phase2Proposal .esp (some .tunnel)) :=
  rfl

theorem phase2Policies_eq_mapM (t : Tunnel) (names : List String) :
    t.phase2Policies names =
      t.ipsecGroups.mapM fun token =>
        (Vocabulary.ofToken DiffieHellmanGroup token).map fun group =>
          Phase2Policy.mk (some group) names := by
  rw [← map_mapM, phase2Policies, Vocabulary.ofTokens_eq_mapM]
  cases t.ipsecGroups.mapM (Vocabulary.ofToken DiffieHellmanGroup) <;> rfl

/-- The encryption changes first and stands before the integrity in the name. -/
example :
    (({ (default : Tunnel) with
        ikeGroups := ["2", "14"], ipsecIntegrity := ["SHA1"],
        ikeEncryption := ["AES128", "AES256"] } : Tunnel).phase1Proposals "t").map
      (·.map (·.name)) =
      .ok ["t-2-AES128-SHA1", "t-2-AES256-SHA1", "t-14-AES128-SHA1", "t-14-AES256-SHA1"] := by
  rfl

end Tunnel

end SiteVpn
