import SiteVpn.Proofs.Neighbour

/-!
# What merging changes and what it leaves

Merging puts the parts of a connection over those of a device, name by name, and changes at
most one VRF. There the neighbours that were there make way for new ones at their addresses,
each new address is left with the last of its neighbours, and the routes are added to those
there were. The VRF is created where it is missing, unless nothing is to be put into it. All
else is as it was, also on a device that has several neighbours at one address.
-/

namespace SiteVpn

/-- Whether parts have every entry of new ones, and of old ones where there is no new entry of
the name. -/
structure NamedParts.IsOverlay (old new parts : NamedParts) : Prop where
  interfaces : ∀ name, parts.interfaces.get? name =
    (new.interfaces.get? name).or (old.interfaces.get? name)
  phase1Proposals : ∀ name, parts.phase1Proposals.get? name =
    (new.phase1Proposals.get? name).or (old.phase1Proposals.get? name)
  phase1Keys : ∀ name, parts.phase1Keys.get? name =
    (new.phase1Keys.get? name).or (old.phase1Keys.get? name)
  phase1Policies : ∀ name, parts.phase1Policies.get? name =
    (new.phase1Policies.get? name).or (old.phase1Policies.get? name)
  phase2Proposals : ∀ name, parts.phase2Proposals.get? name =
    (new.phase2Proposals.get? name).or (old.phase2Proposals.get? name)
  phase2Policies : ∀ name, parts.phase2Policies.get? name =
    (new.phase2Policies.get? name).or (old.phase2Policies.get? name)
  peerConfigs : ∀ name, parts.peerConfigs.get? name =
    (new.peerConfigs.get? name).or (old.peerConfigs.get? name)

theorem NamedParts.isOverlay_extend (m n : NamedParts) : m.IsOverlay n (m.extend n) where
  interfaces := NameMap.get?_extend m.interfaces n.interfaces
  phase1Proposals := NameMap.get?_extend m.phase1Proposals n.phase1Proposals
  phase1Keys := NameMap.get?_extend m.phase1Keys n.phase1Keys
  phase1Policies := NameMap.get?_extend m.phase1Policies n.phase1Policies
  phase2Proposals := NameMap.get?_extend m.phase2Proposals n.phase2Proposals
  phase2Policies := NameMap.get?_extend m.phase2Policies n.phase2Policies
  peerConfigs := NameMap.get?_extend m.peerConfigs n.peerConfigs

namespace Artifacts

/-- Whether there is something to put into a VRF. -/
def ReachesVrf (a : Artifacts) : Prop := a.bgpPeers ≠ [] ∨ a.staticRoutes ≠ []

instance (a : Artifacts) : Decidable a.ReachesVrf :=
  inferInstanceAs (Decidable (a.bgpPeers ≠ [] ∨ a.staticRoutes ≠ []))

/-- What a VRF is after the parts are put into it. -/
def vrfAfter (a : Artifacts) (v : Vrf) : Vrf :=
  (v.addBgpPeers a.bgpPeers).addStaticRoutes a.staticRoutes

/-- The VRF keeps its name, its neighbours at other addresses and its routes. -/
theorem vrfAfter_eq (a : Artifacts) (v : Vrf) :
    a.vrfAfter v =
      { name := v.name
        bgpPeers := (v.bgpPeers.filter fun q =>
          q.peerAddress ∉ a.bgpPeers.map (·.peerAddress)) ++ lastOfEach (·.peerAddress) a.bgpPeers
        staticRoutes := v.staticRoutes ++ a.staticRoutes } := by
  apply Vrf.ext
  · exact Vrf.name_addBgpPeers v a.bgpPeers
  · exact Vrf.bgpPeers_addBgpPeers_eq v a.bgpPeers
  · change (v.addBgpPeers a.bgpPeers).staticRoutes ++ a.staticRoutes = _
    rw [Vrf.staticRoutes_addBgpPeers]

end Artifacts

namespace Configuration

variable {d : Configuration} {vrf : String} {a : Artifacts}

/-- Merging changes the named parts and then one VRF. -/
theorem merge_eq_updateVrf (h : d.vrfs.contains vrf ∨ a.ReachesVrf) :
    d.merge vrf a = (d.extendNamed a.named).updateVrf vrf a.vrfAfter :=
  extendVrf_eq_updateVrf (d := d.extendNamed a.named) h

theorem vrfs_merge_of_not_reachesVrf (h : ¬ a.ReachesVrf) :
    (d.merge vrf a).vrfs = d.vrfs := by
  obtain ⟨hpeers, hroutes⟩ := not_or.mp h
  rw [merge_eq, extendVrf, not_not.mp hpeers, not_not.mp hroutes]
  rfl

/-- The VRFs after a merge: that of the merge is changed, or created where there is something
to put into it. -/
theorem get?_vrfs_merge (name : String) :
    (d.merge vrf a).vrfs.get? name =
      if name = vrf then
        if d.vrfs.contains vrf ∨ a.ReachesVrf then some (a.vrfAfter (d.vrfOrNew vrf)) else none
      else d.vrfs.get? name := by
  by_cases h : d.vrfs.contains vrf ∨ a.ReachesVrf
  · rw [merge_eq_updateVrf h, updateVrf, NameMap.get?_insert, if_pos h]
    rfl
  · obtain ⟨hmissing, hreaches⟩ := not_or.mp h
    rw [vrfs_merge_of_not_reachesVrf hreaches, if_neg h]
    split
    · next hname =>
        rw [hname]
        simpa [NameMap.contains] using hmissing
    · rfl

theorem contains_vrfs_merge_iff {name : String} :
    (d.merge vrf a).vrfs.contains name ↔
      d.vrfs.contains name ∨ name = vrf ∧ a.ReachesVrf := by
  rw [NameMap.contains, get?_vrfs_merge]
  split
  · next hname =>
      subst hname
      split
      · next h => simpa using h
      · next h => simpa using h
  · next hname => simp [NameMap.contains, hname]

/-- The VRFs are others after a merge where that of the merge is created. -/
theorem exists_contains_vrfs_merge_ne_iff :
    (∃ name, (d.merge vrf a).vrfs.contains name ≠ d.vrfs.contains name) ↔
      d.vrfs.get? vrf = none ∧ a.ReachesVrf := by
  have hmissing : d.vrfs.get? vrf = none ↔ ¬ d.vrfs.contains vrf := by simp [NameMap.contains]
  rw [hmissing]
  constructor
  · rintro ⟨name, hne⟩
    rw [ne_eq, Bool.eq_iff_iff, contains_vrfs_merge_iff, or_iff_left_iff_imp] at hne
    obtain ⟨⟨rfl, hreaches⟩, hnot⟩ := Classical.not_imp.mp hne
    exact ⟨hnot, hreaches⟩
  · rintro ⟨hnot, hreaches⟩
    refine ⟨vrf, fun heq => hnot ?_⟩
    rw [← heq, contains_vrfs_merge_iff]
    exact .inr ⟨rfl, hreaches⟩

theorem bgpPeer?_eq_vrfOrNew (d : Configuration) (vrf : String) (x : Address) :
    d.bgpPeer? vrf x = (d.vrfOrNew vrf).bgpPeer? x := by
  unfold bgpPeer? vrfOrNew
  cases d.vrfs.get? vrf <;> rfl

/-- At an address of the VRF is the last new neighbour with it, if there is one. -/
theorem bgpPeer?_merge (x : Address) :
    (d.merge vrf a).bgpPeer? vrf x =
      (a.bgpPeers.filter (·.peerAddress == x)).getLast?.or (d.bgpPeer? vrf x) := by
  rw [bgpPeer?_eq_vrfOrNew d, ← Vrf.bgpPeer?_addBgpPeers, bgpPeer?, get?_vrfs_merge, if_pos rfl]
  split
  · rfl
  · next h =>
      obtain ⟨hmissing, hreaches⟩ := not_or.mp h
      have hpeers : a.bgpPeers = [] := not_not.mp (not_or.mp hreaches).1
      have hvrf : d.vrfs.get? vrf = none := by simpa [NameMap.contains] using hmissing
      rw [hpeers, Vrf.addBgpPeers_nil, ← bgpPeer?_eq_vrfOrNew, bgpPeer?, hvrf]

/-- Merging puts the parts over those of the device and changes one VRF, which is created where
it is missing and there is something to put into it. In that VRF the neighbours at other
addresses stay in their order, the last new neighbour of each address comes after them, and the
routes come after those there were. So no address of a new neighbour is there twice, and nothing
else is changed. -/
theorem merge_changes_exactly (d : Configuration) (p : Placement) (a : Artifacts) :
    let merged := d.merge p.tunnelVrf a
    let old := d.vrfOrNew p.tunnelVrf
    d.named.IsOverlay a.named merged.named ∧
    merged.hostname = d.hostname ∧
    merged.routingPolicies = d.routingPolicies ∧
    (∀ name, name ≠ p.tunnelVrf → merged.vrfs.get? name = d.vrfs.get? name) ∧
    (∀ name, merged.vrfs.contains name ↔
      d.vrfs.contains name ∨ name = p.tunnelVrf ∧ a.ReachesVrf) ∧
    ((∃ name, merged.vrfs.contains name ≠ d.vrfs.contains name) ↔
      d.vrfs.get? p.tunnelVrf = none ∧ a.ReachesVrf) ∧
    (merged.vrfs.get? p.tunnelVrf =
      if d.vrfs.contains p.tunnelVrf ∨ a.ReachesVrf then some
        { name := old.name
          bgpPeers := (old.bgpPeers.filter fun q =>
            q.peerAddress ∉ a.bgpPeers.map (·.peerAddress)) ++ lastOfEach (·.peerAddress) a.bgpPeers
          staticRoutes := old.staticRoutes ++ a.staticRoutes }
      else none) ∧
    (∀ x, merged.bgpPeer? p.tunnelVrf x =
      (a.bgpPeers.filter (·.peerAddress == x)).getLast?.or (d.bgpPeer? p.tunnelVrf x)) ∧
    ∀ v, merged.vrfs.get? p.tunnelVrf = some v → ∀ q ∈ a.bgpPeers,
      (v.bgpPeers.map (·.peerAddress)).count q.peerAddress = 1 := by
  intro merged old
  have hvrf : merged.vrfs.get? p.tunnelVrf =
      if d.vrfs.contains p.tunnelVrf ∨ a.ReachesVrf then some (a.vrfAfter old) else none := by
    rw [get?_vrfs_merge, if_pos rfl]
  refine ⟨?_, hostname_merge .., routingPolicies_merge .., ?_, ?_, ?_, ?_, ?_, ?_⟩
  · rw [named_merge]
    exact NamedParts.isOverlay_extend d.named a.named
  · intro name hname
    rw [get?_vrfs_merge, if_neg hname]
  · intro name
    exact contains_vrfs_merge_iff
  · exact exists_contains_vrfs_merge_ne_iff
  · rw [hvrf, Artifacts.vrfAfter_eq]
  · exact bgpPeer?_merge
  · intro v hv q hq
    obtain ⟨-, hafter⟩ := Option.ite_none_right_eq_some.mp (hvrf.symm.trans hv)
    obtain rfl := Option.some.inj hafter
    exact Vrf.count_addBgpPeers old hq

end Configuration

end SiteVpn
