import Mathlib.Data.List.Dedup
import SiteVpn.Proofs.Application

/-!
# Neighbours of a VRF

A neighbour is added in place of those with its address. So no two neighbours of a VRF
share an address, and at each address is the last that was added. A run therefore leaves
one neighbour for each inside address of the customers' ends, that of the last tunnel with
it, and one for each tunnel where these addresses are all different.
-/

namespace SiteVpn

attribute [ext] Vrf

namespace Vrf

variable {v : Vrf}

/-- No two neighbours share an address. -/
def PeersDistinct (v : Vrf) : Prop := (v.bgpPeers.map (·.peerAddress)).Nodup

theorem peersDistinct_ofName (name : String) : (ofName name).PeersDistinct := List.nodup_nil

theorem PeersDistinct.addBgpPeer (h : v.PeersDistinct) (p : BgpPeer) :
    (v.addBgpPeer p).PeersDistinct := by
  unfold PeersDistinct Vrf.addBgpPeer
  rw [List.map_append, List.map_singleton, List.nodup_append_comm, List.singleton_append,
    List.nodup_cons]
  constructor
  · intro hmem
    obtain ⟨q, hq, heq⟩ := List.mem_map.mp hmem
    simp [heq] at hq
  · exact h.sublist (List.filter_sublist.map _)

theorem PeersDistinct.addBgpPeers (h : v.PeersDistinct) (ps : List BgpPeer) :
    (v.addBgpPeers ps).PeersDistinct := by
  induction ps generalizing v with
  | nil => exact h
  | cons p ps ih => exact ih (h.addBgpPeer p)

theorem bgpPeer?_addBgpPeer (v : Vrf) (p : BgpPeer) (x : Address) :
    (v.addBgpPeer p).bgpPeer? x = if p.peerAddress = x then some p else v.bgpPeer? x := by
  unfold addBgpPeer bgpPeer?
  dsimp only
  rw [List.find?_append]
  split
  · next h =>
      have hgone : (v.bgpPeers.filter (·.peerAddress != p.peerAddress)).find?
          (·.peerAddress == x) = none := by
        simp [h]
      rw [hgone]
      simp [h]
  · next h =>
      have hkept : (v.bgpPeers.filter (·.peerAddress != p.peerAddress)).find?
          (·.peerAddress == x) = v.bgpPeers.find? (·.peerAddress == x) := by
        rw [List.find?_filter]
        congr 1
        funext q
        by_cases hq : q.peerAddress = x
        · simp [hq, Ne.symm h]
        · simp [hq]
      rw [hkept]
      simp [h]

/-- At each address is the last neighbour that was added, if any was. -/
theorem bgpPeer?_addBgpPeers (v : Vrf) (ps : List BgpPeer) (x : Address) :
    (v.addBgpPeers ps).bgpPeer? x =
      (ps.filter (·.peerAddress == x)).getLast?.or (v.bgpPeer? x) := by
  induction ps generalizing v with
  | nil => rfl
  | cons p ps ih =>
      rw [addBgpPeers_cons, ih, bgpPeer?_addBgpPeer, List.filter_cons]
      by_cases h : p.peerAddress = x
      · -- A later neighbour with the address stands in for `p`, and `p` for an earlier one.
        simp only [h, beq_self_eq_true, if_true, List.getLast?_cons]
        cases (ps.filter (·.peerAddress == x)).getLast? <;> rfl
      · simp [h]

/-- The neighbours that were there give way to those with their addresses, of which the last
are kept in their order. -/
theorem bgpPeers_addBgpPeers_eq (v : Vrf) (ps : List BgpPeer) :
    (v.addBgpPeers ps).bgpPeers =
      (v.bgpPeers.filter fun q => q.peerAddress ∉ ps.map (·.peerAddress)) ++
        lastOfEach (·.peerAddress) ps := by
  induction ps generalizing v with
  | nil => simp [lastOfEach]
  | cons p ps ih =>
      rw [addBgpPeers_cons, ih, lastOfEach]
      change ((v.bgpPeers.filter (·.peerAddress != p.peerAddress) ++ [p]).filter _) ++ _ = _
      rw [List.filter_append, List.filter_filter, List.append_assoc]
      congr 1
      · apply List.filter_congr
        intro q _
        rw [Bool.eq_iff_iff]
        simp only [Bool.and_eq_true, decide_eq_true_eq, bne_iff_ne, List.map_cons, List.mem_cons,
          not_or]
        exact and_comm
      · by_cases h : p.peerAddress ∈ ps.map (·.peerAddress)
        · rw [if_pos h, List.filter_cons_of_neg (by simpa using h)]
          rfl
        · rw [if_neg h, List.filter_cons_of_pos (by simpa using h)]
          rfl

/-- Neighbours at different addresses are all kept, in their order. -/
theorem bgpPeers_addBgpPeers {ps : List BgpPeer}
    (h : ((v.bgpPeers ++ ps).map (·.peerAddress)).Nodup) :
    (v.addBgpPeers ps).bgpPeers = v.bgpPeers ++ ps := by
  rw [List.map_append, List.nodup_append] at h
  have hkept : v.bgpPeers.filter (fun q => q.peerAddress ∉ ps.map (·.peerAddress)) =
      v.bgpPeers := by
    -- No neighbour of the VRF has the address of a new one, so none makes way.
    apply List.filter_eq_self.mpr
    intro q hq
    rw [decide_eq_true_eq]
    exact fun hmem => h.2.2 _ (List.mem_map_of_mem hq) _ hmem rfl
  rw [bgpPeers_addBgpPeers_eq, hkept, lastOfEach_of_nodup h.2.1]

/-- At the address of an added neighbour there is one neighbour. -/
theorem count_addBgpPeers (v : Vrf) {ps : List BgpPeer} {p : BgpPeer} (hp : p ∈ ps) :
    ((v.addBgpPeers ps).bgpPeers.map (·.peerAddress)).count p.peerAddress = 1 := by
  have hmem : p.peerAddress ∈ ps.map (·.peerAddress) := List.mem_map_of_mem hp
  have hgone : ((v.bgpPeers.filter fun q => q.peerAddress ∉ ps.map (·.peerAddress)).map
      (·.peerAddress)).count p.peerAddress = 0 := by
    apply List.count_eq_zero_of_not_mem
    intro h
    obtain ⟨q, hq, heq⟩ := List.mem_map.mp h
    have hnot := (List.mem_filter.mp hq).2
    rw [heq] at hnot
    simp [hmem] at hnot
  have hkept : ((lastOfEach (·.peerAddress) ps).map (·.peerAddress)).count p.peerAddress = 1 :=
    List.count_eq_one_of_mem (nodup_keys_lastOfEach _ ps) (mem_keys_lastOfEach.mpr hmem)
  rw [bgpPeers_addBgpPeers_eq, List.map_append, List.count_append, hgone, hkept]

/-- Neighbours that are added again change nothing, their order included. -/
theorem addBgpPeers_addBgpPeers (v : Vrf) (ps : List BgpPeer) :
    (v.addBgpPeers ps).addBgpPeers ps = v.addBgpPeers ps := by
  have hpeers : ((v.addBgpPeers ps).addBgpPeers ps).bgpPeers = (v.addBgpPeers ps).bgpPeers := by
    have hnone : (lastOfEach (·.peerAddress) ps).filter
        (fun q => q.peerAddress ∉ ps.map (·.peerAddress)) = [] := by
      apply List.filter_eq_nil_iff.mpr
      intro q hq
      have hmem := List.mem_map_of_mem (f := BgpPeer.peerAddress)
        ((lastOfEach_sublist _ ps).subset hq)
      simpa using hmem
    rw [bgpPeers_addBgpPeers_eq, bgpPeers_addBgpPeers_eq, List.filter_append, hnone,
      List.filter_filter, List.append_nil]
    simp only [Bool.and_self]
  apply Vrf.ext
  · rw [name_addBgpPeers]
  · exact hpeers
  · rw [staticRoutes_addBgpPeers]

/-- Where no two neighbours share an address there are as many as there are addresses. -/
theorem PeersDistinct.length_bgpPeers (h : v.PeersDistinct) {xs : List Address}
    (hxs : ∀ x, (v.bgpPeer? x).isSome ↔ x ∈ xs) : v.bgpPeers.length = xs.dedup.length := by
  have hperm : (v.bgpPeers.map (·.peerAddress)).Perm xs.dedup := by
    -- Neither side has an address twice, so having the same addresses is enough.
    apply (List.perm_ext_iff_of_nodup h (List.nodup_dedup xs)).mpr
    intro x
    rw [List.mem_dedup, ← hxs, bgpPeer?, List.find?_isSome]
    simp
  rw [← hperm.length_eq, List.length_map]

section OfTunnels

variable {name : String} {p : Placement} (ts : List Tunnel)

/-- At the inside address of a customer's end is the neighbour of the last tunnel with it. -/
theorem bgpPeer?_ofTunnels (x : Address) :
    ((ofName name).addBgpPeers (ts.map (·.bgpPeer p))).bgpPeer? x =
      (ts.filter (·.customerInside == x)).getLast?.map (·.bgpPeer p) := by
  rw [bgpPeer?_addBgpPeers, List.filter_map, List.getLast?_map]
  exact Option.or_none

theorem length_bgpPeers_ofTunnels :
    ((ofName name).addBgpPeers (ts.map (·.bgpPeer p))).bgpPeers.length =
      (ts.map (·.customerInside)).dedup.length := by
  apply ((peersDistinct_ofName name).addBgpPeers _).length_bgpPeers
  intro x
  rw [bgpPeer?_ofTunnels, Option.isSome_map, List.getLast?_isSome, ne_eq, List.filter_eq_nil_iff]
  simp

/-- Where the addresses are all different, each tunnel has its neighbour. -/
theorem bgpPeers_ofTunnels (h : (ts.map (·.customerInside)).Nodup) :
    ((ofName name).addBgpPeers (ts.map (·.bgpPeer p))).bgpPeers = ts.map (·.bgpPeer p) := by
  apply bgpPeers_addBgpPeers
  change ((ts.map (·.bgpPeer p)).map (·.peerAddress)).Nodup
  rw [List.map_map]
  exact h

end OfTunnels

end Vrf

namespace Gateway

/-- What a run makes of the tunnel VRF. -/
theorem get?_vrfs_runSlots (g : Gateway) (slots : List (Except ConnectionError Connection)) :
    ∃ routes, (g.runSlots slots).configuration.vrfs.get? g.tunnelVrf =
      some (((Vrf.ofName g.tunnelVrf).addBgpPeers
        ((((g.runSlots slots).appliedAmong slots).flatMap Connection.bgpTunnels).map
          (·.bgpPeer g.placement))).addStaticRoutes routes) := by
  obtain ⟨parts, hparts, hfinal⟩ := g.exists_parts_of_applied slots
  refine ⟨parts.flatMap (·.staticRoutes), ?_⟩
  rw [hfinal, Configuration.vrfs_mergeAll g.get?_vrfs_configuration, NameMap.get?_insert,
    if_pos rfl, Connection.flatMap_bgpPeers hparts]

/-- After a run, no two neighbours in the tunnel VRF share an address. At each address is
the neighbour of the last tunnel with it at the customer's inside end, among the tunnels of
the applied connections that use BGP, and there are no others. So there are as many
neighbours as such addresses, and where these are all different each tunnel has its
neighbour. -/
theorem run_neighbours (g : Gateway) (fallback : Salt) (text : String)
    (slots : List (Except ConnectionError Connection))
    (h : Connection.ofText? (g.saltOr fallback) text = some slots) :
    let neighbour (t : Tunnel) : BgpPeer :=
      { peerAddress := t.customerInside, localIp := t.gatewayInside, localAs := t.gatewayAsn
        remoteAsns := t.customerAsn.toList
        importPolicy := g.importPolicy, exportPolicy := g.exportPolicy }
    ∃ report vrf, g.run fallback text = some report ∧
      report.configuration.vrfs.get? g.tunnelVrf = some vrf ∧
      let tunnels := (report.appliedAmong slots).flatMap Connection.bgpTunnels
      (vrf.bgpPeers.map (·.peerAddress)).Nodup ∧
      (∀ x, vrf.bgpPeer? x = (tunnels.filter (·.customerInside == x)).getLast?.map neighbour) ∧
      vrf.bgpPeers.length = (tunnels.map (·.customerInside)).dedup.length ∧
      ((tunnels.map (·.customerInside)).Nodup → vrf.bgpPeers = tunnels.map neighbour) := by
  intro neighbour
  obtain ⟨routes, hvrf⟩ := g.get?_vrfs_runSlots slots
  refine ⟨_, _, run_of_slots h, hvrf, ?_, ?_, ?_, ?_⟩
  · exact (Vrf.peersDistinct_ofName g.tunnelVrf).addBgpPeers _
  · exact Vrf.bgpPeer?_ofTunnels _
  · exact Vrf.length_bgpPeers_ofTunnels _
  · exact Vrf.bgpPeers_ofTunnels _

section SharedBlock

/-- A listing of two connections around one block. -/
def sharedBlockListing : String :=
  ConnectionRecord.listingText
    [oneTunnelRecord "a" "169.254.10.0/30", oneTunnelRecord "a-1" "169.254.10.0/30"]

/-- Its connections. -/
def sharedBlockSlots : List (Except ConnectionError Connection) :=
  [.ok (oneTunnelConnection "a" (linkBlock 0)), .ok (oneTunnelConnection "a-1" (linkBlock 0))]

theorem ofText?_sharedBlockListing (salt : Salt) :
    Connection.ofText? salt sharedBlockListing = some sharedBlockSlots := by
  have hlists := lists_oneTunnelRecords [("a", "169.254.10.0/30"), ("a-1", "169.254.10.0/30")]
  have hblock : Cidr.read "169.254.10.0/30".toList = .ok (linkBlock 0) := rfl
  refine (Connection.ofText?_of_lists hlists).trans ?_
  simp [Connection.slotsOf, sharedBlockSlots, ofSlot_oneTunnelRecord salt _ hblock]

/-- The neighbour of the second connection is the only one. -/
theorem run_neighbours_shared_block :
    let g : Gateway := ⟨"gw", "inner", true, [], none, none, some "s"⟩
    Connection.ofText? (g.saltOr ⟨""⟩) sharedBlockListing = some sharedBlockSlots ∧
    ∃ report vrf, g.run ⟨""⟩ sharedBlockListing = some report ∧
      report.configuration.vrfs.get? "inner" = some vrf ∧
      (vrf.bgpPeers.map (·.peerAddress)).Nodup ∧ vrf.bgpPeers.length = 1 ∧
      vrf.bgpPeer? ⟨169, 254, 10, 2⟩ = some
        ⟨⟨169, 254, 10, 2⟩, ⟨169, 254, 10, 1⟩, none, [], none, none⟩ := by
  intro g
  have h := ofText?_sharedBlockListing (g.saltOr ⟨""⟩)
  obtain ⟨report, vrf, hrun, hvrf, hnodup, hpeer, hlength, -⟩ :=
    g.run_neighbours ⟨""⟩ sharedBlockListing sharedBlockSlots h
  have hreport : g.runSlots sharedBlockSlots = report :=
    Option.some.inj ((run_of_slots h).symm.trans hrun)
  refine ⟨h, report, vrf, hrun, hvrf, hnodup, ?_, ?_⟩
  · rw [hlength, ← hreport]
    decide +kernel
  · rw [hpeer, ← hreport]
    decide +kernel

/-- So not every tunnel of applied connections of different names has a neighbour of its own. -/
theorem run_shares_neighbour :
    let g : Gateway := ⟨"gw", "inner", true, [], none, none, some "s"⟩
    Connection.ofText? (g.saltOr ⟨""⟩) sharedBlockListing = some sharedBlockSlots ∧
    ∃ report vrf, g.run ⟨""⟩ sharedBlockListing = some report ∧
      report.outcomes = [("a", .applied), ("a-1", .applied)] ∧
      ((report.appliedAmong sharedBlockSlots).map (·.id)).Nodup ∧
      ((report.appliedAmong sharedBlockSlots).flatMap Connection.bgpTunnels).length = 2 ∧
      report.configuration.vrfs.get? "inner" = some vrf ∧ vrf.bgpPeers.length = 1 := by
  intro g
  have h := ofText?_sharedBlockListing (g.saltOr ⟨""⟩)
  have hvrf : ((g.runSlots sharedBlockSlots).configuration.vrfs.get? "inner").map
      (·.bgpPeers.length) = some 1 := by decide +kernel
  obtain ⟨vrf, hget, hlength⟩ := Option.map_eq_some_iff.mp hvrf
  refine ⟨h, g.runSlots sharedBlockSlots, vrf, run_of_slots h, ?_, ?_, ?_, hget, hlength⟩
  · decide +kernel
  · decide +kernel
  · decide +kernel

end SharedBlock

end Gateway

end SiteVpn
