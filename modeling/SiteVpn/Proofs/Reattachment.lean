import SiteVpn.Proofs.Counting
import SiteVpn.Proofs.MergeEffect

/-!
# Attaching a connection twice

The parts of a connection are put over themselves when it is attached again, and its neighbours
replace one another in their order. Only routes are added without regard to those there are. So
the second time leaves the device as it was, but for the routes of the connection, which the
tunnel VRF then has once more.
-/

namespace SiteVpn

/-- Laying a map over one that has it changes nothing. -/
theorem NameMap.extend_extend_self {α : Type} (m n : NameMap α) :
    (m.extend n).extend n = m.extend n := by
  ext name
  rw [get?_extend, get?_extend, ← Option.or_assoc, Option.or_self]

/-- So does laying parts over a device that has them. -/
theorem Configuration.extendNamed_extendNamed_self (d : Configuration) (m : NamedParts) :
    (d.extendNamed m).extendNamed m = d.extendNamed m := by
  simp only [extendNamed, NameMap.extend_extend_self]

/-- A VRF that gets the same neighbours and routes again has the routes once more. -/
theorem Artifacts.vrfAfter_vrfAfter (a : Artifacts) (v : Vrf) :
    a.vrfAfter (a.vrfAfter v) = (a.vrfAfter v).addStaticRoutes a.staticRoutes := by
  unfold vrfAfter
  rw [Vrf.addBgpPeers_addStaticRoutes, Vrf.addBgpPeers_addBgpPeers]

/-- Merging into a VRF of the device again adds routes to it and does nothing else. -/
theorem Configuration.merge_merge {d : Configuration} {vrf : String}
    (h : d.vrfs.contains vrf) (a : Artifacts) :
    (d.merge vrf a).merge vrf a =
      (d.merge vrf a).updateVrf vrf (·.addStaticRoutes a.staticRoutes) := by
  have hagain : (d.merge vrf a).vrfs.contains vrf := by rwa [contains_merge h]
  rw [merge_eq_updateVrf (.inl hagain), merge_eq_updateVrf (.inl h)]
  change (((d.extendNamed a.named).extendNamed a.named).updateVrf vrf a.vrfAfter).updateVrf vrf
    a.vrfAfter = _
  rw [extendNamed_extendNamed_self, updateVrf_updateVrf, updateVrf_updateVrf]
  congr 1
  funext v
  exact a.vrfAfter_vrfAfter v

/-- The routes of a connection: to each of its networks through each tunnel, if it has static
routes. -/
def Connection.allStaticRoutes (c : Connection) : List StaticRoute :=
  if c.staticRoutesOnly then
    c.tunnels.flatMap fun t => c.routes.map fun network => .via network t.customerInside
  else []

theorem Connection.staticRoutes_synthesize {c : Connection} {p : Placement} {a : Artifacts}
    (h : (c.synthesize p).value = .ok a) : a.staticRoutes = c.allStaticRoutes :=
  staticRoutes_synthesizeFrom h

namespace Session

/-- A connection that was attached is attached again. The device is then as it was, but for the
static routes of the tunnel VRF, to which those of the connection are added once more. Neither
time is anything warned of. -/
theorem attempt_twice_repeats_routes (s : Session) (k : Attempt)
    (h : k.reply s.device = .ok true) :
    let once := s.attempt k
    let twice := once.attempt k
    k.reply once.device = .ok true ∧ once.warnings = s.warnings ∧
    twice.warnings = s.warnings ∧
    ∃ v, once.device.vrfs.get? k.placement.tunnelVrf = some v ∧
      twice.device =
        { once.device with
          vrfs := once.device.vrfs.insert k.placement.tunnelVrf
            { v with staticRoutes := v.staticRoutes ++ k.connection.allStaticRoutes } } := by
  intro once twice
  have hreply : k.reply once.device = .ok true := by
    change k.reply (k.perform s.device) = _
    rw [Attempt.reply_perform, h]
  have hquiet (d : Configuration) (hd : k.reply d = .ok true) : warningsOf (k.events d) = [] :=
    Attempt.warnings_of_reply_ne (by simp [hd])
  have honce : once.warnings = s.warnings := by
    rw [warnings_attempt, hquiet _ h, List.append_nil]
  have htwice : twice.warnings = once.warnings := by
    rw [warnings_attempt, hquiet _ hreply, List.append_nil]
  obtain ⟨a, ha, hdevice⟩ := Attempt.perform_of_reply h
  obtain ⟨a', ha', hdevice'⟩ := Attempt.perform_of_reply hreply
  obtain rfl : a = a' := Except.ok.inj (ha.symm.trans ha')
  have hroutes := Connection.staticRoutes_synthesize ha
  have hvrf : s.device.vrfs.contains k.placement.tunnelVrf := (Attempt.reply_eq_true_iff.mp h).1.2
  have hvrf' : once.device.vrfs.contains k.placement.tunnelVrf :=
    (Attempt.reply_eq_true_iff.mp hreply).1.2
  refine ⟨hreply, honce, htwice.trans honce, _, Configuration.get?_vrfs_of_contains hvrf', ?_⟩
  calc
    twice.device = once.device.merge k.placement.tunnelVrf a := hdevice'
    _ = once.device.updateVrf k.placement.tunnelVrf (·.addStaticRoutes a.staticRoutes) := by
      have honceDevice : once.device = s.device.merge k.placement.tunnelVrf a := hdevice
      rw [honceDevice]
      exact Configuration.merge_merge hvrf a
    _ = _ := by
      rw [hroutes]
      rfl

/-- Two tunnels around one block, on a device with neighbours at their address and at another. -/
theorem attempt_twice_repeats_routes_shared_block :
    let x : Address := ⟨169, 254, 10, 2⟩
    let t : Tunnel := { (default : Tunnel) with customerInside := x }
    let u : Tunnel := { t with gatewayInside := ⟨169, 254, 10, 1⟩ }
    let c : Connection :=
      { (default : Connection) with
        id := "a", isBgp := true, staticRoutesOnly := true, tunnels := [t, u], routes := [default] }
    let p : Placement := ⟨"outer", "inner", none, none⟩
    let other : BgpPeer := { (default : BgpPeer) with peerAddress := ⟨169, 254, 10, 6⟩ }
    let d := ((Configuration.ofHostname "gw").ensureVrf "outer").extendBgpPeers "inner"
      [{ other with peerAddress := x }, other]
    let once := Session.attempt ⟨d, []⟩ ⟨c, p⟩
    (Attempt.mk c p).reply d = .ok true ∧ ∃ v w,
      once.device.vrfs.get? "inner" = some v ∧ v.bgpPeers = [other, u.bgpPeer p] ∧
      v.staticRoutes = [.via default x, .via default x] ∧
      (once.attempt ⟨c, p⟩).device.vrfs.get? "inner" = some w ∧ w.bgpPeers = v.bgpPeers ∧
      w.staticRoutes = v.staticRoutes ++ [.via default x, .via default x] := by
  intro x t u c p other d once
  have hreply : (Attempt.mk c p).reply d = .ok true := by
    rw [Attempt.reply_eq_true_iff]
    refine ⟨?_, _, rfl⟩
    simp [d, p, Configuration.extendBgpPeers, Configuration.ensureVrf, Configuration.HasVrfs,
      Configuration.contains_updateVrf]
  obtain ⟨-, -, -, v, hv, htwice⟩ := attempt_twice_repeats_routes ⟨d, []⟩ ⟨c, p⟩ hreply
  have hparts : (once.device.vrfs.get? "inner").map (fun v => (v.bgpPeers, v.staticRoutes)) =
      some ([other, u.bgpPeer p], [.via default x, .via default x]) := by decide +kernel
  have hroutes : c.allStaticRoutes = [.via default x, .via default x] := rfl
  have hw := congrArg (·.vrfs.get? "inner") htwice
  simp only [NameMap.get?_insert, p, if_true, hroutes] at hw
  obtain ⟨v', hv', hvparts⟩ := Option.map_eq_some_iff.mp hparts
  obtain rfl : v = v' := Option.some.inj (hv.symm.trans hv')
  obtain ⟨hpeers, hstatic⟩ := Prod.mk.inj hvparts
  exact ⟨hreply, v, _, hv, hpeers, hstatic, hw, rfl, rfl⟩

end Session

end SiteVpn
