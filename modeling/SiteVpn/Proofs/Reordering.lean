import Mathlib.Data.List.Perm.Basic
import SiteVpn.Proofs.Disjointness
import SiteVpn.Proofs.Neighbour

/-!
# The order of records

Disjoint parts may be laid over a device in either order, and connections of different
names have disjoint parts. Neighbours at different addresses are all kept, and routes are
only ever added. So the order of the records of a listing decides no more than the order of
neighbours and routes, as long as the applied connections differ in their names and their
neighbours in their addresses.
-/

namespace SiteVpn

/-- Disjoint maps may be laid over a map in either order. -/
theorem NameMap.extend_right_comm {α : Type} {a b : NameMap α} (h : a.Disjoint b)
    (m : NameMap α) : (m.extend a).extend b = (m.extend b).extend a := by
  ext name
  simp only [get?_extend]
  rcases h name with ha | hb
  · rw [ha, Option.none_or, Option.none_or]
  · rw [hb, Option.none_or, Option.none_or]

/-- So may parts. -/
theorem NamedParts.extend_right_comm {a b : NamedParts} (h : a.Disjoint b) (m : NamedParts) :
    (m.extend a).extend b = (m.extend b).extend a := by
  simp only [extend, NameMap.extend_right_comm h.interfaces,
    NameMap.extend_right_comm h.phase1Proposals, NameMap.extend_right_comm h.phase1Keys,
    NameMap.extend_right_comm h.phase1Policies, NameMap.extend_right_comm h.phase2Proposals,
    NameMap.extend_right_comm h.phase2Policies, NameMap.extend_right_comm h.peerConfigs]

/-- VRFs with the same neighbours and the same routes, in whatever order. -/
structure Vrf.Agrees (v w : Vrf) : Prop where
  name : v.name = w.name
  bgpPeers : v.bgpPeers.Perm w.bgpPeers
  staticRoutes : v.staticRoutes.Perm w.staticRoutes

theorem Vrf.Agrees.refl (v : Vrf) : v.Agrees v := ⟨rfl, .refl _, .refl _⟩

/-- The order of tunnels and routes decides that of neighbours and routes only, as long as
the neighbours differ in their addresses. -/
theorem Vrf.agrees_ofTunnels {name : String} {p : Placement} {ts ts' : List Tunnel}
    {rs rs' : List StaticRoute} (hts : ts.Perm ts') (hrs : rs.Perm rs')
    (haddress : (ts.map (·.customerInside)).Nodup) :
    (((ofName name).addBgpPeers (ts.map (·.bgpPeer p))).addStaticRoutes rs).Agrees
      (((ofName name).addBgpPeers (ts'.map (·.bgpPeer p))).addStaticRoutes rs') where
  name := by
    change ((ofName name).addBgpPeers _).name = ((ofName name).addBgpPeers _).name
    rw [name_addBgpPeers, name_addBgpPeers]
  bgpPeers := by
    have haddress' : (ts'.map (·.customerInside)).Nodup :=
      (hts.map (·.customerInside)).nodup haddress
    change ((ofName name).addBgpPeers _).bgpPeers.Perm ((ofName name).addBgpPeers _).bgpPeers
    rw [bgpPeers_ofTunnels ts haddress, bgpPeers_ofTunnels ts' haddress']
    exact hts.map (·.bgpPeer p)
  staticRoutes := by
    unfold addStaticRoutes
    dsimp only
    rw [staticRoutes_addBgpPeers, staticRoutes_addBgpPeers]
    exact hrs.append_left _

/-- Devices that are the same up to the order of neighbours and routes. -/
structure Configuration.Agrees (d d' : Configuration) : Prop where
  hostname : d.hostname = d'.hostname
  named : d.named = d'.named
  routingPolicies : d.routingPolicies = d'.routingPolicies
  vrfs : ∀ name, Option.Rel Vrf.Agrees (d.vrfs.get? name) (d'.vrfs.get? name)

namespace Connection

variable {p : Placement} {cs : List Connection} {parts parts' : List Artifacts}

theorem rightUnique_synthesize (p : Placement) :
    Relator.RightUnique fun (c : Connection) a => (c.synthesize p).value = .ok a := by
  intro c a b ha hb
  exact Except.ok.inj (ha.symm.trans hb)

/-- The parts of connections of different names are disjoint. -/
theorem eq_or_disjoint_of_parts
    (h : List.Forall₂ (fun c a => (c.synthesize p).value = .ok a) cs parts)
    (hid : (cs.map (·.id)).Nodup) {a b : Artifacts} (ha : a ∈ parts) (hb : b ∈ parts) :
    a = b ∨ a.named.Disjoint b.named := by
  obtain ⟨c, hc, hca⟩ := exists_of_mem_forall₂ h ha
  obtain ⟨c', hc', hcb⟩ := exists_of_mem_forall₂ h hb
  by_cases heq : c.id = c'.id
  · obtain rfl := List.inj_on_of_nodup_map hid hc hc' heq
    exact .inl (rightUnique_synthesize p hca hcb)
  · exact .inr (disjoint_of_id_ne heq hca hcb)

/-- The named parts of such connections may be laid over others in any order. -/
theorem foldl_named_of_perm (hperm : parts.Perm parts')
    (h : List.Forall₂ (fun c a => (c.synthesize p).value = .ok a) cs parts)
    (hid : (cs.map (·.id)).Nodup) (m : NamedParts) :
    (parts.map Artifacts.named).foldl NamedParts.extend m =
      (parts'.map Artifacts.named).foldl NamedParts.extend m := by
  apply (hperm.map Artifacts.named).foldl_eq'
  intro x hx y hy z
  obtain ⟨a, ha, rfl⟩ := List.mem_map.mp hx
  obtain ⟨b, hb, rfl⟩ := List.mem_map.mp hy
  -- A connection may be compared with itself, where there is no order to change.
  rcases eq_or_disjoint_of_parts h hid ha hb with rfl | hab
  · rfl
  · exact NamedParts.extend_right_comm hab z

end Connection

namespace Gateway

variable {g : Gateway} {slots slots' : List (Except ConnectionError Connection)}

theorem perm_appliedAmong (h : slots.Perm slots') :
    ((g.runSlots slots).appliedAmong slots).Perm ((g.runSlots slots').appliedAmong slots') := by
  rw [appliedAmong_runSlots, appliedAmong_runSlots]
  exact (h.filter _).filterMap _

theorem agrees_runSlots (hperm : slots.Perm slots')
    (hid : (((g.runSlots slots).appliedAmong slots).map (·.id)).Nodup)
    (haddress : ((((g.runSlots slots).appliedAmong slots).flatMap Connection.bgpTunnels).map
      (·.customerInside)).Nodup) :
    (g.runSlots slots).configuration.Agrees (g.runSlots slots').configuration := by
  obtain ⟨parts, hparts, hfinal⟩ := g.exists_parts_of_applied slots
  obtain ⟨parts', hparts', hfinal'⟩ := g.exists_parts_of_applied slots'
  have happlied := perm_appliedAmong (g := g) hperm
  -- A connection has one result, so the parts are reordered as the connections are.
  have hmerged : parts.Perm parts' :=
    List.rel_perm_imp (Connection.rightUnique_synthesize g.placement) hparts hparts' happlied
  rw [hfinal, hfinal']
  refine ⟨by simp, ?_, by simp, ?_⟩
  · rw [Configuration.named_mergeAll, Configuration.named_mergeAll]
    exact Connection.foldl_named_of_perm hmerged hparts hid _
  · intro name
    rw [Configuration.vrfs_mergeAll g.get?_vrfs_configuration,
      Configuration.vrfs_mergeAll g.get?_vrfs_configuration, NameMap.get?_insert,
      NameMap.get?_insert, Connection.flatMap_bgpPeers hparts, Connection.flatMap_bgpPeers hparts']
    split
    · exact .some (Vrf.agrees_ofTunnels (happlied.flatMap_right _) (hmerged.flatMap_right _)
        haddress)
    · cases g.configuration.vrfs.get? name with
      | none => exact .none
      | some v => exact .some (.refl v)

/-- The order of the records of a listing does not matter. Each record has the same outcome
wherever it stands. Where the applied connections differ in their names and the neighbours
in their addresses, the final devices are the same up to the order of the neighbours and
the routes in their VRFs. -/
theorem run_of_perm (g : Gateway) (fallback : Salt) (text text' : String)
    (entries entries' : List Json) (h : ConnectionRecord.Lists text entries)
    (h' : ConnectionRecord.Lists text' entries') (hperm : entries.Perm entries') :
    ∃ report report', g.run fallback text = some report ∧
      g.run fallback text' = some report' ∧
      (∀ (i j : Nat) (entry : Json), entries[i]? = some entry → entries'[j]? = some entry →
        ∃ label label' outcome, report.outcomes[i]? = some (label, outcome) ∧
          report'.outcomes[j]? = some (label', outcome)) ∧
      let applied := report.appliedAmong (Connection.slotsOf (g.saltOr fallback) entries)
      ((applied.map (·.id)).Nodup →
        ((applied.flatMap Connection.bgpTunnels).map (·.customerInside)).Nodup →
        report.configuration.Agrees report'.configuration) := by
  refine ⟨_, _, run_of_slots (Connection.ofText?_of_lists h),
    run_of_slots (Connection.ofText?_of_lists h'), ?_, ?_⟩
  · intro i j entry hi hj
    have hrecord {es : List Json} {n : Nat} (hn : es[n]? = some entry) :
        (es.map ConnectionRecord.ofEntry)[n]? = some (ConnectionRecord.ofEntry entry) := by
      rw [List.getElem?_map, hn]
      rfl
    obtain ⟨label, hlabel⟩ := exists_label_of_runSlots (g := g) _ (hrecord hi)
    obtain ⟨label', hlabel'⟩ := exists_label_of_runSlots (g := g) _ (hrecord hj)
    exact ⟨label, label', _, hlabel, hlabel'⟩
  · exact agrees_runSlots ((hperm.map ConnectionRecord.ofEntry).map _)

section TwoBlocks

/-- The records of two connections. -/
def twoBlocksEntries : List Json :=
  [oneTunnelRecord "a" "169.254.10.0/30", oneTunnelRecord "a-1" "169.254.10.4/30"]

/-- Their listing. -/
def twoBlocksListing : String := ConnectionRecord.listingText twoBlocksEntries

/-- The same connections in the other order. -/
def twoBlocksReversedListing : String :=
  ConnectionRecord.listingText twoBlocksEntries.reverse

theorem lists_twoBlocksListing : ConnectionRecord.Lists twoBlocksListing twoBlocksEntries :=
  lists_oneTunnelRecords [("a", "169.254.10.0/30"), ("a-1", "169.254.10.4/30")]

theorem lists_twoBlocksReversedListing :
    ConnectionRecord.Lists twoBlocksReversedListing twoBlocksEntries.reverse :=
  lists_oneTunnelRecords [("a-1", "169.254.10.4/30"), ("a", "169.254.10.0/30")]

/-- Two connections of which the name of one begins with that of the other, in both orders. -/
theorem run_of_perm_two_blocks :
    let g : Gateway := ⟨"gw", "inner", true, [], none, none, some "s"⟩
    ConnectionRecord.Lists twoBlocksListing twoBlocksEntries ∧
    ConnectionRecord.Lists twoBlocksReversedListing twoBlocksEntries.reverse ∧
    twoBlocksEntries.Perm twoBlocksEntries.reverse ∧
    ∃ report report', g.run ⟨""⟩ twoBlocksListing = some report ∧
      g.run ⟨""⟩ twoBlocksReversedListing = some report' ∧
      report.outcomes = [("a", .applied), ("a-1", .applied)] ∧
      report.configuration.Agrees report'.configuration := by
  intro g
  have hperm := (List.reverse_perm twoBlocksEntries).symm
  have hslots : Connection.slotsOf (g.saltOr ⟨""⟩) twoBlocksEntries =
      [.ok (oneTunnelConnection "a" (linkBlock 0)),
        .ok (oneTunnelConnection "a-1" (linkBlock 4))] := by
    have h0 : Cidr.read "169.254.10.0/30".toList = .ok (linkBlock 0) := rfl
    have h4 : Cidr.read "169.254.10.4/30".toList = .ok (linkBlock 4) := rfl
    simp [twoBlocksEntries, Connection.slotsOf, ofSlot_oneTunnelRecord _ _ h0,
      ofSlot_oneTunnelRecord _ _ h4]
  obtain ⟨report, report', hrun, hrun', -, hagrees⟩ := g.run_of_perm ⟨""⟩ _ _ _ _
    lists_twoBlocksListing lists_twoBlocksReversedListing hperm
  have hreport : g.run ⟨""⟩ twoBlocksListing =
      some (g.runSlots (Connection.slotsOf (g.saltOr ⟨""⟩) twoBlocksEntries)) :=
    run_of_slots (Connection.ofText?_of_lists lists_twoBlocksListing)
  obtain rfl := Option.some.inj (hreport.symm.trans hrun)
  rw [hslots] at hrun hagrees
  refine ⟨lists_twoBlocksListing, lists_twoBlocksReversedListing, hperm, _, report', hrun, hrun',
    ?_, hagrees ?_ ?_⟩
  · decide +kernel
  · decide +kernel
  · decide +kernel

end TwoBlocks

end Gateway
end SiteVpn
