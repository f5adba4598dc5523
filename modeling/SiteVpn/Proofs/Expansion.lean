import SiteVpn.Proofs.Naming
import SiteVpn.Proofs.Traversal

/-!
# What the expansion of a tunnel gives

The expansions of a tunnel read one combination of tokens after another. Where they
succeed, every token is one of the vocabulary, and no two phase 1 proposals share a
name unless they are the same proposal. The security protocol and the mode of every
tunnel are known, so the second phase gives no warning.
-/

namespace SiteVpn

theorem Vocabulary.ofTokens_eq_mapM (α : Type) [Vocabulary α] (tokens : List String) :
    ofTokens α tokens = tokens.mapM (ofToken α) := by
  induction tokens with
  | nil => rfl
  | cons t ts ih => rw [ofTokens, ih, List.mapM_cons]

namespace Tunnel

theorem phase1Proposal_eq_ok {tunnelId : String} {t : Tunnel} {c : Phase1Tokens}
    {q : Phase1Proposal} (h : phase1Proposal tunnelId t c = .ok q) :
    c.Known ∧ q.name = phase1Name tunnelId c := by
  obtain ⟨group, hg, h⟩ := bind_eq_ok.mp h
  obtain ⟨encryption, he, h⟩ := bind_eq_ok.mp h
  obtain ⟨hashing, hi, h⟩ := bind_eq_ok.mp h
  have hq := Except.ok.inj h
  constructor
  · exact ⟨Vocabulary.lists_of_ofToken hg, Vocabulary.lists_of_ofToken he,
      Vocabulary.lists_of_ofToken hi⟩
  · rw [← hq]

/-- Every phase 1 proposal is named after known tokens. -/
theorem exists_tokens_of_mem {tunnelId : String} {t : Tunnel} {phase1 : List Phase1Proposal}
    (h : t.phase1Proposals tunnelId = .ok phase1) {q : Phase1Proposal} (hq : q ∈ phase1) :
    ∃ c : Phase1Tokens, c.Known ∧ q.name = phase1Name tunnelId c ∧
      phase1Proposal tunnelId t c = .ok q := by
  obtain ⟨c, -, hc⟩ := exists_of_mem_mapM h hq
  obtain ⟨hk, hn⟩ := phase1Proposal_eq_ok hc
  exact ⟨c, hk, hn, hc⟩

/-- Phase 1 proposals of a tunnel with one name are one proposal: the name determines
the tokens, and the tokens the proposal. -/
theorem eq_of_name_eq {tunnelId : String} {t : Tunnel} {phase1 : List Phase1Proposal}
    (h : t.phase1Proposals tunnelId = .ok phase1) {q r : Phase1Proposal} (hq : q ∈ phase1)
    (hr : r ∈ phase1) (hname : q.name = r.name) : q = r := by
  obtain ⟨c, hc, hqn, hqc⟩ := exists_tokens_of_mem h hq
  obtain ⟨c', hc', hrn, hrc⟩ := exists_tokens_of_mem h hr
  obtain ⟨-, rfl⟩ := phase1Name_inj hc hc' (hqn ▸ hrn ▸ hname)
  exact Except.ok.inj (hqc.symm.trans hrc)

/-- Nothing happens in the expansion of phase 2: its mode is a known one. -/
theorem events_phase2Proposals (t : Tunnel) : t.phase2Proposals.events = [] := rfl

theorem phase2Policies_eq_ok {t : Tunnel} {names : List String}
    {policies : List Phase2Policy} (h : t.phase2Policies names = .ok policies) :
    ∃ groups, t.ipsecGroups.mapM (Vocabulary.ofToken DiffieHellmanGroup) = .ok groups ∧
      policies = groups.map fun group => ⟨some group, names⟩ := by
  obtain ⟨groups, hg, h⟩ := bind_eq_ok.mp h
  rw [Vocabulary.ofTokens_eq_mapM] at hg
  exact ⟨groups, hg, (Except.ok.inj h).symm⟩

end Tunnel

end SiteVpn
