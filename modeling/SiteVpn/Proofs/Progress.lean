import SiteVpn.Proofs.Combination
import SiteVpn.Proofs.Numeral
import SiteVpn.Proofs.Rejection

/-!
# The record of each tunnel

A synthesis goes through the tunnels one after another and writes one record when a tunnel is
expanded. The first tunnel with an unknown token ends it, so the tunnels with a record are those
before it. The counts of a record are of the combinations that the lists of its tunnel have.
They are neither of the names that the combinations are put under, of which there are fewer
where a token is repeated, nor of what earlier tunnels added.
-/

namespace SiteVpn

theorem map_mapIdx {α β γ : Type} (f : Nat → α → β) (g : β → γ) (xs : List α) :
    (xs.mapIdx f).map g = xs.mapIdx fun i x => g (f i x) := by
  apply List.ext_getElem?
  intro i
  rw [List.getElem?_map, List.getElem?_mapIdx, List.getElem?_mapIdx, Option.map_map]
  rfl

namespace Tunnel

/-- A tunnel and the numbers of its combinations: of phase 1, of phase 2, and of the groups of
phase 2. -/
def expansionEvent (tunnelId : String) (t : Tunnel) : Event :=
  .expanded tunnelId (t.ikeGroups.length * t.ipsecIntegrity.length * t.ikeEncryption.length)
    (t.ipsecIntegrity.length * t.ipsecEncryption.length) t.ipsecGroups.length

/-- An expansion has a proposal for each combination, repeated or not, and a policy for each
group. -/
theorem Expansion.event_eq {t : Tunnel} {tunnelId : String} (e : t.Expansion tunnelId) :
    Event.expanded tunnelId e.phase1.length e.phase2.length e.policies.length =
      t.expansionEvent tunnelId := by
  have hphase1 := length_of_mapM e.phase1_eq
  have hphase2 := length_of_mapM e.phase2_eq
  have hpolicies := e.policies_eq
  rw [phase2Policies_eq_mapM] at hpolicies
  rw [hphase1, hphase2, length_of_mapM hpolicies, length_phase1Combinations,
    length_phase2Combinations]
  rfl

/-- The tunnels up to the first with an unknown token. -/
def beforeFailure (ts : List Tunnel) : List Tunnel :=
  ts.takeWhile (·.unknownTokens.isEmpty)

theorem beforeFailure_cons_of_known {t : Tunnel} (h : t.unknownTokens = []) (ts : List Tunnel) :
    beforeFailure (t :: ts) = t :: beforeFailure ts :=
  List.takeWhile_cons_of_pos (List.isEmpty_iff.mpr h)

theorem beforeFailure_cons_of_unknown {t : Tunnel} (h : t.unknownTokens ≠ [])
    (ts : List Tunnel) : beforeFailure (t :: ts) = [] :=
  List.takeWhile_cons_of_neg (mt List.isEmpty_iff.mp h)

end Tunnel

namespace Connection

variable {c : Connection} {p : Placement}

/-- Whether a tunnel is expanded depends on its tokens alone, not on its number. -/
theorem exists_tunnelArtifacts_iff (tunnelId : String) {t : Tunnel} :
    (∃ a, (c.tunnelArtifacts p tunnelId t).value = .ok a) ↔ t.unknownTokens = [] :=
  (eq_nil_iff_of_failure? (failure?_tunnelArtifacts tunnelId t)).symm

/-- A tunnel that is expanded has one event. -/
theorem events_tunnelArtifacts_of_known {t : Tunnel} (h : t.unknownTokens = [])
    (tunnelId : String) :
    (c.tunnelArtifacts p tunnelId t).events = [t.expansionEvent tunnelId] := by
  obtain ⟨a, ha⟩ := (exists_tunnelArtifacts_iff (c := c) (p := p) tunnelId).mpr h
  obtain ⟨e, rfl⟩ := tunnelArtifacts_eq_ok.mp ha
  have hpolicies := e.policies_eq
  rw [← e.event_eq, tunnelArtifacts, e.phase1_eq]
  dsimp only
  rw [e.phase2_eq]
  dsimp only
  rw [hpolicies, Tunnel.events_phase2Proposals]
  rfl

/-- One that fails has none, wherever it does. -/
theorem events_tunnelArtifacts_of_unknown {t : Tunnel} (h : t.unknownTokens ≠ [])
    (tunnelId : String) : (c.tunnelArtifacts p tunnelId t).events = [] := by
  have hfails : ∀ a, (c.tunnelArtifacts p tunnelId t).value ≠ .ok a :=
    fun a ha => h ((exists_tunnelArtifacts_iff tunnelId).mp ⟨a, ha⟩)
  revert hfails
  unfold tunnelArtifacts
  cases t.phase1Proposals tunnelId with
  | error u => exact fun _ => rfl
  | ok phase1 =>
      dsimp only
      cases t.phase2Proposals.value with
      | error u => exact fun _ => t.events_phase2Proposals
      | ok phase2 =>
          dsimp only
          cases t.phase2Policies (Tunnel.phase2ProposalNames tunnelId phase2.length) with
          | error u => exact fun _ => t.events_phase2Proposals
          | ok policies => exact fun hfails => absurd rfl (hfails _)

/-- From any number on, the events are those of the tunnels before the first that fails. -/
theorem events_synthesizeFrom (n : Nat) (ts : List Tunnel) :
    (c.synthesizeFrom p n ts).events =
      (Tunnel.beforeFailure ts).mapIdx fun i t =>
        t.expansionEvent (Tunnel.idOf c.id (n + i)) := by
  induction ts generalizing n with
  | nil => rfl
  | cons t ts ih =>
      rw [synthesizeFrom]
      by_cases h : t.unknownTokens = []
      · obtain ⟨a, ha⟩ :=
          (exists_tunnelArtifacts_iff (c := c) (p := p) (Tunnel.idOf c.id n)).mpr h
        rw [ha, Tunnel.beforeFailure_cons_of_known h, List.mapIdx_cons]
        dsimp only
        rw [events_tunnelArtifacts_of_known h, ih, List.singleton_append]
        simp only [Nat.add_zero, Nat.add_assoc, Nat.add_comm 1]
      · obtain ⟨u, hu⟩ : ∃ u, (c.tunnelArtifacts p (Tunnel.idOf c.id n) t).value = .error u := by
          cases hv : (c.tunnelArtifacts p (Tunnel.idOf c.id n) t).value with
          | error u => exact ⟨u, rfl⟩
          | ok a => exact absurd ((exists_tunnelArtifacts_iff _).mp ⟨a, hv⟩) h
        rw [hu, Tunnel.beforeFailure_cons_of_unknown h]
        exact events_tunnelArtifacts_of_unknown h _

theorem idOf_eq (id : String) (n : Nat) : Tunnel.idOf id n = id ++ "-" ++ toString n := by
  rw [Tunnel.idOf, numberedName, Decimal.write_eq_toString]

theorem record_expansionEvent (accounts : Accounts) (common : List (String × String))
    (tunnelId : String) (t : Tunnel) :
    (t.expansionEvent tunnelId).record accounts common =
      ⟨.debug, "synthesized tunnel", common ++ [("unit", "warnings"), ("tunnel", tunnelId),
        ("ike_phase1_proposals",
          toString (t.ikeGroups.length * t.ipsecIntegrity.length * t.ikeEncryption.length)),
        ("ipsec_phase2_proposals",
          toString (t.ipsecIntegrity.length * t.ipsecEncryption.length)),
        ("ipsec_phase2_policies", toString t.ipsecGroups.length)]⟩ := by
  simp only [Tunnel.expansionEvent, Event.record, Event.unit, Decimal.write_eq_toString,
    List.append_assoc, List.singleton_append]

/-- A synthesis writes a record for each tunnel before the first that cannot be expanded, for
all of them if none fails, and nothing else. The records are in the order of the tunnels, each
with the number of its tunnel and with counts of that tunnel's own tokens, repeated ones
included. Whether a tunnel can be expanded does not depend on the others or on its number. -/
theorem records_are_per_tunnel (c : Connection) (p : Placement) (accounts : Accounts)
    (common : List (String × String)) :
    (∀ tunnelId t, (∃ a, (c.tunnelArtifacts p tunnelId t).value = .ok a) ↔
      t.unknownTokens = []) ∧
    ((∃ a, (c.synthesize p).value = .ok a) ↔ ∀ t ∈ c.tunnels, t.unknownTokens = []) ∧
    (c.synthesize p).events.map (Event.record accounts common) =
      (c.tunnels.takeWhile (·.unknownTokens.isEmpty)).mapIdx fun i t =>
        ⟨.debug, "synthesized tunnel", common ++ [("unit", "warnings"),
          ("tunnel", c.id ++ "-" ++ toString (i + 1)),
          ("ike_phase1_proposals",
            toString (t.ikeGroups.length * t.ipsecIntegrity.length * t.ikeEncryption.length)),
          ("ipsec_phase2_proposals",
            toString (t.ipsecIntegrity.length * t.ipsecEncryption.length)),
          ("ipsec_phase2_policies", toString t.ipsecGroups.length)]⟩ := by
  refine ⟨fun tunnelId t => exists_tunnelArtifacts_iff tunnelId, ?_, ?_⟩
  · rw [← failure?_eq_none_iff, failure?_synthesize, List.findSome?_eq_none_iff]
    simp only [List.head?_eq_none_iff]
  · rw [synthesize, events_synthesizeFrom, map_mapIdx]
    simp only [record_expansionEvent, idOf_eq, Nat.add_comm 1]
    rfl

/-- Repeated tokens count in the record though the map keeps a single proposal of them, and a
tunnel after the one that fails has no record. -/
example :
    let t : Tunnel :=
      { (default : Tunnel) with
        ikeGroups := ["2", "2"], ipsecIntegrity := ["SHA1"], ikeEncryption := ["AES128"] }
    let failing : Tunnel := { (default : Tunnel) with ipsecGroups := ["3"] }
    let c : Connection :=
      { (default : Connection) with id := "a", tunnels := [t, failing, t] }
    (c.synthesize ⟨Placement.defaultUnderlayVrf, "inner", none, none⟩).events =
      [.expanded "a-1" 2 0 0] := by
  decide +kernel

end Connection

end SiteVpn
