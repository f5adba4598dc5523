import SiteVpn.Proofs.Ownership

/-!
# Policies resolve to the proposals of their own tunnel

A policy refers to proposals by their names. Whatever is attached before and after a
connection, as long as none of its name is attached again, the names of its policies
are looked up as the proposals of the tunnel the policy is for, in their order.
-/

namespace SiteVpn

namespace Tunnel.Expansion

variable {t : Tunnel} {tunnelId : String} (e : t.Expansion tunnelId) (c : Connection)
  (p : Placement)

/-- Where the phase 1 proposals of a tunnel are, so are those its policy names. -/
theorem map_get?_phase1Names {m : NameMap Phase1Proposal}
    (h : ∀ {name q}, (e.parts c p).phase1Proposals.get? name = some q →
      m.get? name = some q) :
    (e.phase1.map (·.name)).map m.get? = e.phase1.map some := by
  rw [List.map_map]
  apply List.map_congr_left
  intro q hq
  exact h (e.get?_phase1Proposals c p hq)

/-- The names in a phase 2 policy are those of the proposals, by their numbers. -/
theorem map_get?_phase2Names {m : NameMap Phase2Proposal}
    (h : ∀ {name q}, (e.parts c p).phase2Proposals.get? name = some q →
      m.get? name = some q) :
    (numberedNames tunnelId 0 e.phase2.length).map m.get? = e.phase2.map some := by
  apply map_get?_numberedNames
  intro i q hq
  exact h (e.get?_phase2Proposals c p hq)

end Tunnel.Expansion

namespace Configuration

/-- After any attempts, the policies of a connection that was the last of its name to be
attached resolve to the proposals of their own tunnels: those of phase 1 and, for each
group, those of phase 2. -/
theorem policies_resolve_own {d : Configuration} {ks earlier later : List Attempt}
    {k : Attempt} (hk : d.attached ks = earlier ++ k :: later)
    (hlast : ∀ k' ∈ later, k'.connection.id ≠ k.connection.id)
    {i : Nat} {t : Tunnel} (ht : k.connection.tunnels[i]? = some t) :
    let final := d.afterAttempts ks
    let tunnelId := Tunnel.idOf k.connection.id (i + 1)
    (∃ proposals policy, t.phase1Proposals tunnelId = .ok proposals ∧
      final.phase1Policies.get? tunnelId = some policy ∧
      policy.proposals.map final.phase1Proposals.get? = proposals.map some) ∧
    ∃ proposals, t.phase2Proposals.value = .ok proposals ∧
      ∀ g token, t.ipsecGroups[g]? = some token →
        ∃ group policy, Vocabulary.ofToken DiffieHellmanGroup token = .ok group ∧
          final.phase2Policies.get? (numberedName tunnelId (proposals.length + g)) =
            some policy ∧
          policy.pfsGroup = some group ∧
          policy.proposals.map final.phase2Proposals.get? = proposals.map some := by
  intro final tunnelId
  obtain ⟨e, he⟩ := get?_afterAttempts_of_last hk hlast ht
  constructor
  · have hpolicy : final.phase1Policies.get? tunnelId =
        some (t.phase1Policy tunnelId (e.phase1.map (·.name))) :=
      he .phase1Policies (e.get?_phase1Policies k.connection k.placement)
    refine ⟨e.phase1, _, e.phase1_eq, hpolicy, ?_⟩
    exact e.map_get?_phase1Names k.connection k.placement (he .phase1Proposals)
  · refine ⟨e.phase2, e.phase2_eq, fun g token htoken => ?_⟩
    obtain ⟨group, policy, hgroup, hpolicy, hpfs⟩ := e.policy_of_group htoken
    have hget := he .phase2Policies (e.get?_phase2Policies k.connection k.placement hpolicy)
    refine ⟨group, policy, hgroup, hget, hpfs, ?_⟩
    rw [e.policy_proposals (List.mem_of_getElem? hpolicy)]
    exact e.map_get?_phase2Names k.connection k.placement (he .phase2Proposals)

/-- A connection that is attached again with fewer proposals, after one whose name looks
like that of a tunnel. -/
theorem policies_resolve_own_reattached :
    let d := ((ofHostname "gw").ensureVrf "outer").ensureVrf "inner"
    let t : Tunnel :=
      { (default : Tunnel) with
        ikeGroups := ["2"], ikeEncryption := ["AES128", "AES256"], ipsecIntegrity := ["SHA1"]
        ipsecEncryption := ["AES128", "AES256"], ipsecGroups := ["14"] }
    let u : Tunnel := { t with ikeEncryption := ["AES256"], ipsecEncryption := ["AES256"] }
    let attempt (id : String) (tunnels : List Tunnel) : Attempt :=
      ⟨{ (default : Connection) with id, tunnels }, ⟨"outer", "inner", none, none⟩⟩
    let ks := [attempt "a" [t], attempt "a-1" [t, t], attempt "a" [u, t]]
    let final := d.afterAttempts ks
    d.attached ks = ks ∧
      ∃ policy q, final.phase2Policies.get? (numberedName (Tunnel.idOf "a" 1) 1) = some policy ∧
        policy.proposals.map final.phase2Proposals.get? = [some q] ∧
        q.encryptionAlgorithm = .aes256Cbc := by
  intro d t u attempt ks final
  have hv : d.HasVrfs ⟨"outer", "inner", none, none⟩ := by
    constructor <;> simp [d, ensureVrf, contains_updateVrf]
  have hreply : ∀ k ∈ ks, k.reply d = .ok true := by
    intro k hk
    rw [Attempt.reply_eq_true_iff]
    simp only [ks, List.mem_cons, List.not_mem_nil, or_false] at hk
    rcases hk with rfl | rfl | rfl
    · exact ⟨hv, _, rfl⟩
    · exact ⟨hv, _, rfl⟩
    · exact ⟨hv, _, rfl⟩
  have hattached : d.attached ks = ks := by
    simp only [ks, List.forall_mem_cons] at hreply
    simp [ks, attached, hreply]
  refine ⟨hattached, ?_⟩
  have hlast : d.attached ks = ks.take 2 ++ attempt "a" [u, t] :: [] := hattached
  have hfirst : (attempt "a" [u, t]).connection.tunnels[0]? = some u := rfl
  obtain ⟨-, proposals, hp, hg⟩ := policies_resolve_own hlast (by simp) hfirst
  obtain ⟨group, policy, -, hpolicy, -, hresolve⟩ := hg 0 "14" rfl
  obtain rfl := Except.ok.inj hp
  exact ⟨policy, _, hpolicy, hresolve, rfl⟩

end Configuration

end SiteVpn
