import SiteVpn.Proofs.KeySecrecy

/-!
# Options without effect

Of the options of a tunnel the versions, the encryption and the integrity listed for phase 1
have no part in what a connection adds to a gateway, and of a lifetime given for phase 2 only
that it is given matters. Records that differ in nothing else are refused for the same reason,
or their connections add the same, with the same warnings, or fail on the same token.

## Implementation notes

What is without effect is erased, of options and of tunnels. A tunnel keeps the versions, the
integrity and the lifetime, and synthesis reads none of them; the encryption listed for phase 1
does not even reach a tunnel.
-/

namespace SiteVpn

/-- The options as far as they have an effect. A lifetime of phase 2 that is given keeps
the document from being asked for one. -/
def TunnelOptions.effective (o : TunnelOptions) : TunnelOptions :=
  { o with
    ikeVersions := []
    phase1Encryption := []
    phase1Integrity := []
    phase2Lifetime := o.phase2Lifetime.map fun _ => 0 }

/-- The options of a connection as far as they have an effect. -/
def ConnectionOptions.effective (o : ConnectionOptions) : ConnectionOptions :=
  { o with tunnels := o.tunnels.map (·.effective) }

/-- The record of a connection as far as its options have an effect. -/
def ConnectionRecord.effective (r : ConnectionRecord) : ConnectionRecord :=
  { r with options := r.options.map (·.effective) }

namespace Tunnel

/-- The tunnel without what synthesis does not read. -/
def effective (t : Tunnel) : Tunnel :=
  { t with ikeVersions := [], ikeIntegrity := [], ipsecLifetime := 0 }

/-- Whether a lifetime can be read does not depend on the one that is given. -/
theorem lifetime_given (id : String) (role : ValueRole) (given : Option UInt32)
    (value : Option String) (default : UInt32) :
    (lifetime id role given value default).map (fun _ => ()) =
      (lifetime id role (given.map fun _ => 0) value default).map fun _ => () := by
  cases given <;> rfl

theorem ofSpec_effective (id : String) (salt : Salt) (s : TunnelSpec) :
    (ofSpec id salt s).map effective =
      (ofSpec id salt (s.mapOptions (·.effective))).map effective := by
  unfold ofSpec
  iterate 4 refine map_bind_congr_right fun _ => ?_
  apply map_bind_congr (lifetime_given id .ipsecLifetime _ _ defaultIpsecLifetime)
  intro seconds seconds' _
  iterate 4 refine map_bind_congr_right fun _ => ?_
  rfl

/-- Specifications that differ in options without effect give tunnels that do. -/
theorem ofSpec_effective_congr {id : String} {salt : Salt} {s s' : TunnelSpec}
    (h : s.mapOptions (·.effective) = s'.mapOptions (·.effective)) :
    (ofSpec id salt s).map effective = (ofSpec id salt s').map effective := by
  rw [ofSpec_effective id salt s, ofSpec_effective id salt s', h]

end Tunnel

namespace Connection

/-- The connection without what synthesis does not read. -/
def effective (c : Connection) : Connection :=
  { c with tunnels := c.tunnels.map Tunnel.effective }

theorem tunnelArtifacts_effective (c : Connection) (p : Placement) (tunnelId : String)
    (t : Tunnel) :
    c.effective.tunnelArtifacts p tunnelId t.effective = c.tunnelArtifacts p tunnelId t :=
  rfl

theorem synthesizeFrom_effective (c : Connection) (p : Placement) (n : Nat)
    (ts : List Tunnel) :
    c.effective.synthesizeFrom p n (ts.map Tunnel.effective) = c.synthesizeFrom p n ts := by
  induction ts generalizing n with
  | nil => rfl
  | cons t ts ih =>
      rw [List.map_cons, synthesizeFrom, synthesizeFrom, ih]
      rw [tunnelArtifacts_effective]
      rfl

/-- Synthesis reads nothing that is without effect. -/
theorem synthesize_effective (c : Connection) (p : Placement) :
    c.effective.synthesize p = c.synthesize p :=
  c.synthesizeFrom_effective p 1 c.tunnels

/-- Records that differ in options without effect give connections that do. -/
theorem ofRecord_effective_congr {salt : Salt} {r r' : ConnectionRecord}
    (h : r.effective = r'.effective) :
    (ofRecord salt r).map effective = (ofRecord salt r').map effective := by
  have hid : r.id = r'.id := congrArg (·.id) h
  have hcustomer : r.customerGateway = r'.customerGateway := congrArg (·.customerGateway) h
  have htransit : r.transitGateway = r'.transitGateway := congrArg (·.transitGateway) h
  have hvpn : r.vpnGateway = r'.vpnGateway := congrArg (·.vpnGateway) h
  have hdocument : r.document = r'.document := congrArg (·.document) h
  have hroutes : r.routes = r'.routes := congrArg (·.routes) h
  have htelemetry : r.telemetry = r'.telemetry := congrArg (·.telemetry) h
  have hoptions : r.options.map (·.effective) = r'.options.map (·.effective) :=
    congrArg (·.options) h
  unfold ofRecord
  rw [hid, hcustomer, htransit, hvpn, hdocument, hroutes, htelemetry]
  iterate 6 refine map_bind_congr_right fun _ => ?_
  apply map_bind_congr (k := (·.effective))
  · rw [require_map, require_map, hoptions]
  intro o o' ho
  have htunnels : o.tunnels.map (·.effective) = o'.tunnels.map (·.effective) :=
    congrArg (·.tunnels) ho
  have hstatic : o.staticRoutesOnly = o'.staticRoutesOnly := congrArg (·.staticRoutesOnly) ho
  apply map_bind_congr_right
  intro document
  apply map_bind_congr (k := List.map (TunnelSpec.mapOptions (·.effective)))
  · rw [← TunnelSpec.pair_map_options, ← TunnelSpec.pair_map_options, htunnels]
  intro specs specs' hspecs
  apply map_bind_congr
    (map_mapM_congr_of_map hspecs fun _ _ => Tunnel.ofSpec_effective_congr)
  intro ts ts' hts
  apply map_bind_congr_right
  intro routes
  simp [pure, Except.pure, Except.map, effective, hts, hstatic]

/-- Whether two results are refusals for the same reason, or connections that add the same
to every gateway and are attached alike. -/
def SameEffect (x y : Except ConnectionError Connection) : Prop :=
  (∃ e, x = .error e ∧ y = .error e) ∨
    ∃ c c', x = .ok c ∧ y = .ok c' ∧
      ∀ p, c.synthesize p = c'.synthesize p ∧ ∀ d, c.attach p d = c'.attach p d

/-- The versions, the encryption and the integrity that are listed for phase 1 and the value
of a lifetime that is given for phase 2 change nothing on a gateway: records that differ in
them only are refused for the same reason, or give connections of which synthesis makes the
same parts with the same warnings, or fails on the same token. -/
theorem phase1_lists_without_effect (salt : Salt) (r r' : ConnectionRecord)
    (h : r.effective = r'.effective) : SameEffect (ofRecord salt r) (ofRecord salt r') := by
  have hcongr : (ofRecord salt r).map effective = (ofRecord salt r').map effective :=
    ofRecord_effective_congr h
  cases hx : ofRecord salt r with
  | error e =>
      cases hy : ofRecord salt r' with
      | error e' =>
          rw [hx, hy] at hcongr
          obtain rfl : e = e' := Except.error.inj hcongr
          exact .inl ⟨e, rfl, rfl⟩
      | ok c' =>
          rw [hx, hy] at hcongr
          cases hcongr
  | ok c =>
      cases hy : ofRecord salt r' with
      | error e' =>
          rw [hx, hy] at hcongr
          cases hcongr
      | ok c' =>
          rw [hx, hy] at hcongr
          have heffective : c.effective = c'.effective := Except.ok.inj hcongr
          have hparts (p : Placement) : c.synthesize p = c'.synthesize p := by
            rw [← c.synthesize_effective, ← c'.synthesize_effective, heffective]
          refine .inr ⟨c, c', rfl, rfl, fun p => ⟨hparts p, fun d => ?_⟩⟩
          rw [attach, attach, hparts p]

/-- Tokens that are not known do no harm in the lists of phase 1. -/
theorem phase1_lists_without_effect_unknown_tokens :
    let options := oneTunnelOptions "169.254.10.0/30"
    let options' := { options with
      ikeVersions := entriesOf ["ikev9"]
      phase1Encryption := entriesOf ["rot13", "AES128"]
      phase1Integrity := entriesOf [""] }
    let record (o : TunnelOptions) : ConnectionRecord :=
      ⟨some "vpn-1", some "cgw", none, some "vgw", some oneTunnelDocument, some [], some [],
        some ⟨[o], false⟩⟩
    record options ≠ record options' ∧
      ofRecord ⟨"00"⟩ (record options) = .ok (oneTunnelConnection "vpn-1" (linkBlock 0)) ∧
      SameEffect (ofRecord ⟨"00"⟩ (record options)) (ofRecord ⟨"00"⟩ (record options')) := by
  intro options options' record
  have hoptions : (record options).options ≠ (record options').options := by decide
  have hblock : Cidr.read "169.254.10.0/30".toList = .ok (linkBlock 0) := rfl
  exact ⟨fun h => hoptions (congrArg ConnectionRecord.options h),
    ofSlot_oneTunnelRecord ⟨"00"⟩ "vpn-1" hblock,
    phase1_lists_without_effect ⟨"00"⟩ (record options) (record options') rfl⟩

end Connection

end SiteVpn
