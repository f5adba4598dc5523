import SiteVpn.Proofs.Attempt

/-!
# Keys do not decide what becomes of a connection

The salt of the key digests may be a random one. It is seen in the digests only: whether
a record is a connection, whether its tunnels expand and which failure is reported are
the same under every salt.

## Implementation notes

Connections are compared after their keys are erased. Every step of the construction
gives results that agree up to the keys, and no step of the expansion fails on a key.
-/

namespace SiteVpn

namespace Tunnel

/-- The tunnel without its key. -/
def withoutKey (t : Tunnel) : Tunnel := { t with keyHash := none }

theorem ofSpec_withoutKey (id : String) (salt salt' : Salt) (s : TunnelSpec) :
    (ofSpec id salt s).map withoutKey = (ofSpec id salt' s).map withoutKey := by
  unfold ofSpec
  iterate 9 refine map_bind_congr_right fun _ => ?_
  simp only [pure, Except.pure, Except.map, withoutKey]

/-- Keys are seen in a phase 1 proposal, but not in whether there is one. -/
theorem phase1Proposal_withoutKey (tunnelId : String) (t : Tunnel) (c : Phase1Tokens) :
    (phase1Proposal tunnelId t.withoutKey c).map (fun _ => ()) =
      (phase1Proposal tunnelId t c).map fun _ => () := by
  unfold phase1Proposal
  iterate 3 refine map_bind_congr_right fun _ => ?_
  rfl

theorem phase1Proposals_withoutKey (tunnelId : String) (t : Tunnel) :
    (t.withoutKey.phase1Proposals tunnelId).map (List.map fun _ => ()) =
      (t.phase1Proposals tunnelId).map (List.map fun _ => ()) :=
  map_mapM_congr (phase1Proposal_withoutKey tunnelId t) t.phase1Combinations

end Tunnel

namespace Connection

/-- The connection without the keys of its tunnels. -/
def withoutKeys (c : Connection) : Connection :=
  { c with tunnels := c.tunnels.map Tunnel.withoutKey }

theorem ofRecord_withoutKeys (salt salt' : Salt) (r : ConnectionRecord) :
    (ofRecord salt r).map withoutKeys = (ofRecord salt' r).map withoutKeys := by
  unfold ofRecord
  iterate 9 refine map_bind_congr_right fun _ => ?_
  apply map_bind_congr (map_mapM_congr (Tunnel.ofSpec_withoutKey _ salt salt') _)
  intro ts ts' hts
  apply map_bind_congr_right
  intro routes
  simp [pure, Except.pure, Except.map, withoutKeys, hts]

/-- The salt decides neither whether a record is a connection nor, keys apart, which. -/
theorem ofSlot_withoutKeys (salt salt' : Salt) (r : Except Json ConnectionRecord) :
    (ofSlot salt r).map withoutKeys = (ofSlot salt' r).map withoutKeys := by
  cases r with
  | error entry => rfl
  | ok r => exact ofRecord_withoutKeys salt salt' r

variable (c : Connection) (p : Placement)

theorem tunnelArtifacts_withoutKey (tunnelId : String) (t : Tunnel) :
    (c.withoutKeys.tunnelArtifacts p tunnelId t.withoutKey).value.map (fun _ => ()) =
      (c.tunnelArtifacts p tunnelId t).value.map fun _ => () := by
  rw [value_tunnelArtifacts, value_tunnelArtifacts]
  apply map_bind_congr (t.phase1Proposals_withoutKey tunnelId)
  intro phase1 phase1' _
  -- What follows does not look at the key.
  change (t.phase2Proposals.value >>= _).map _ = _
  apply map_bind_congr_right
  intro phase2
  change (t.phase2Policies _ >>= _).map _ = _
  apply map_bind_congr_right
  intro policies
  rfl

theorem synthesizeFrom_withoutKeys (n : Nat) (ts : List Tunnel) :
    (c.withoutKeys.synthesizeFrom p n (ts.map Tunnel.withoutKey)).value.map (fun _ => ()) =
      (c.synthesizeFrom p n ts).value.map fun _ => () := by
  induction ts generalizing n with
  | nil => rfl
  | cons t ts ih =>
      rw [List.map_cons, value_synthesizeFrom_cons, value_synthesizeFrom_cons]
      apply map_bind_congr (c.tunnelArtifacts_withoutKey p (Tunnel.idOf c.id n) t)
      intro a a' _
      apply map_bind_congr (ih (n + 1))
      intro rest rest' _
      rfl

/-- Synthesis fails on the same tokens with and without keys. -/
theorem synthesize_withoutKeys :
    (c.withoutKeys.synthesize p).value.map (fun _ => ()) =
      (c.synthesize p).value.map fun _ => () :=
  c.synthesizeFrom_withoutKeys p 1 c.tunnels

end Connection

/-- The answer to an attempt does not depend on keys. -/
theorem Attempt.reply_withoutKeys (c : Connection) (p : Placement) (d : Configuration) :
    (Attempt.mk c.withoutKeys p).reply d = (Attempt.mk c p).reply d := by
  unfold reply Connection.attach
  cases d.missingVrf? p with
  | some w => rfl
  | none =>
      have h := c.synthesize_withoutKeys p
      dsimp only
      cases hx : (c.withoutKeys.synthesize p).value with
      | error e =>
          cases hy : (c.synthesize p).value with
          | error e' =>
              rw [hx, hy] at h
              obtain rfl : e = e' := Except.error.inj h
              rfl
          | ok a' =>
              rw [hx, hy] at h
              cases h
      | ok a =>
          cases hy : (c.synthesize p).value with
          | error e' =>
              rw [hx, hy] at h
              cases h
          | ok a' => rfl

end SiteVpn
