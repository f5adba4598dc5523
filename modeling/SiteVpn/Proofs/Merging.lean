import SiteVpn.Connection.Attachment

/-!
# What merging does to a device

A device and the parts of a connection hold the same seven maps. Merging lays those
of the connection over those of the device, and then adds neighbours and routes to one
VRF. Where the device has that VRF, merging neither adds nor removes VRFs.
-/

namespace SiteVpn

/-- The seven maps of a device or of the parts of a connection. -/
structure NamedParts where
  interfaces : NameMap Interface
  phase1Proposals : NameMap Phase1Proposal
  phase1Keys : NameMap Phase1Key
  phase1Policies : NameMap Phase1Policy
  phase2Proposals : NameMap Phase2Proposal
  phase2Policies : NameMap Phase2Policy
  peerConfigs : NameMap PeerConfig

namespace NamedParts

/-- No parts. -/
def empty : NamedParts := ⟨∅, ∅, ∅, ∅, ∅, ∅, ∅⟩

/-- Lays parts over others. -/
def extend (m n : NamedParts) : NamedParts where
  interfaces := m.interfaces.extend n.interfaces
  phase1Proposals := m.phase1Proposals.extend n.phase1Proposals
  phase1Keys := m.phase1Keys.extend n.phase1Keys
  phase1Policies := m.phase1Policies.extend n.phase1Policies
  phase2Proposals := m.phase2Proposals.extend n.phase2Proposals
  phase2Policies := m.phase2Policies.extend n.phase2Policies
  peerConfigs := m.peerConfigs.extend n.peerConfigs

end NamedParts

/-- The parts of a connection that have names. -/
def Artifacts.named (a : Artifacts) : NamedParts :=
  ⟨a.interfaces, a.phase1Proposals, a.phase1Keys, a.phase1Policies, a.phase2Proposals,
    a.phase2Policies, a.peerConfigs⟩

@[simp] theorem Artifacts.named_empty : Artifacts.empty.named = .empty := rfl

@[simp] theorem Artifacts.named_append (a b : Artifacts) :
    (a.append b).named = a.named.extend b.named := rfl

namespace Configuration

/-- The parts of a device that have names. -/
def named (d : Configuration) : NamedParts :=
  ⟨d.interfaces, d.phase1Proposals, d.phase1Keys, d.phase1Policies, d.phase2Proposals,
    d.phase2Policies, d.peerConfigs⟩

/-- Lays parts over those of a device. -/
def extendNamed (d : Configuration) (m : NamedParts) : Configuration :=
  { d with
    interfaces := d.interfaces.extend m.interfaces
    phase1Proposals := d.phase1Proposals.extend m.phase1Proposals
    phase1Keys := d.phase1Keys.extend m.phase1Keys
    phase1Policies := d.phase1Policies.extend m.phase1Policies
    phase2Proposals := d.phase2Proposals.extend m.phase2Proposals
    phase2Policies := d.phase2Policies.extend m.phase2Policies
    peerConfigs := d.peerConfigs.extend m.peerConfigs }

/-- Adds neighbours and routes to the VRF of a name, if there are any. -/
def extendVrf (d : Configuration) (vrf : String) (ps : List BgpPeer) (rs : List StaticRoute) :
    Configuration :=
  let d := if ps.isEmpty then d else d.extendBgpPeers vrf ps
  if rs.isEmpty then d else d.extendStaticRoutes vrf rs

theorem merge_eq (d : Configuration) (vrf : String) (a : Artifacts) :
    d.merge vrf a = (d.extendNamed a.named).extendVrf vrf a.bgpPeers a.staticRoutes := rfl

@[simp] theorem named_updateVrf (d : Configuration) (name : String) (f : Vrf → Vrf) :
    (d.updateVrf name f).named = d.named := rfl

@[simp] theorem named_extendVrf (d : Configuration) (vrf : String) (ps : List BgpPeer)
    (rs : List StaticRoute) : (d.extendVrf vrf ps rs).named = d.named := by
  unfold extendVrf
  dsimp only
  split <;> split <;> rfl

@[simp] theorem named_merge (d : Configuration) (vrf : String) (a : Artifacts) :
    (d.merge vrf a).named = d.named.extend a.named := by
  rw [merge_eq, named_extendVrf]
  rfl

@[simp] theorem hostname_merge (d : Configuration) (vrf : String) (a : Artifacts) :
    (d.merge vrf a).hostname = d.hostname := by
  unfold merge
  dsimp only
  split <;> split <;> rfl

@[simp] theorem routingPolicies_merge (d : Configuration) (vrf : String) (a : Artifacts) :
    (d.merge vrf a).routingPolicies = d.routingPolicies := by
  unfold merge
  dsimp only
  split <;> split <;> rfl

section Vrfs

variable {d : Configuration} {vrf : String}

/-- Changing a VRF adds no name but that of the VRF. -/
theorem contains_updateVrf (d : Configuration) (vrf : String) (f : Vrf → Vrf) (name : String) :
    (d.updateVrf vrf f).vrfs.contains name = (name == vrf || d.vrfs.contains name) := by
  rw [updateVrf, NameMap.insert, NameMap.contains_extend, NameMap.contains_singleton]

theorem contains_updateVrf_of_contains (h : d.vrfs.contains vrf) (f : Vrf → Vrf)
    (name : String) : (d.updateVrf vrf f).vrfs.contains name = d.vrfs.contains name := by
  rw [contains_updateVrf]
  cases hn : name == vrf with
  | false => rfl
  | true =>
      obtain rfl := eq_of_beq hn
      rw [h]
      rfl

theorem get?_vrfs_of_contains (h : d.vrfs.contains vrf) :
    d.vrfs.get? vrf = some (d.vrfOrNew vrf) := by
  obtain ⟨v, hv⟩ := (d.vrfs.contains_iff vrf).mp h
  rw [vrfOrNew, hv]
  rfl

/-- Two changes of a VRF are one change. -/
theorem updateVrf_updateVrf (d : Configuration) (vrf : String) (f g : Vrf → Vrf) :
    (d.updateVrf vrf f).updateVrf vrf g = d.updateVrf vrf (g ∘ f) := by
  simp only [updateVrf, vrfOrNew, NameMap.get?_insert, if_true, Option.getD_some,
    NameMap.insert_insert, Function.comp_apply]

theorem updateVrf_id_of_contains (h : d.vrfs.contains vrf) : d.updateVrf vrf id = d := by
  rw [updateVrf, id_eq, NameMap.insert_of_get? (get?_vrfs_of_contains h)]

/-- Adding neighbours and routes to a VRF is one change of it, unless the device lacks the VRF
and there is nothing to add. -/
theorem extendVrf_eq_updateVrf {ps : List BgpPeer} {rs : List StaticRoute}
    (h : d.vrfs.contains vrf ∨ ps ≠ [] ∨ rs ≠ []) :
    d.extendVrf vrf ps rs =
      d.updateVrf vrf fun v => (v.addBgpPeers ps).addStaticRoutes rs := by
  cases ps with
  | nil =>
      cases rs with
      | nil =>
          have hvrf : d.vrfs.contains vrf := by simpa using h
          simp only [Vrf.addBgpPeers_nil, Vrf.addStaticRoutes_nil]
          exact (updateVrf_id_of_contains hvrf).symm
      | cons r rs => rfl
  | cons p ps =>
      cases rs with
      | nil =>
          simp only [Vrf.addStaticRoutes_nil]
          rfl
      | cons r rs =>
          exact updateVrf_updateVrf d vrf (·.addBgpPeers (p :: ps)) (·.addStaticRoutes (r :: rs))

/-- Adding neighbours and routes to a VRF of the device changes that VRF only. -/
theorem vrfs_extendVrf {v : Vrf} (h : d.vrfs.get? vrf = some v) (ps : List BgpPeer)
    (rs : List StaticRoute) :
    (d.extendVrf vrf ps rs).vrfs =
      d.vrfs.insert vrf ((v.addBgpPeers ps).addStaticRoutes rs) := by
  rw [extendVrf_eq_updateVrf (.inl (NameMap.contains_of_get? h)), updateVrf, vrfOrNew, h]
  rfl

theorem contains_extendVrf (h : d.vrfs.contains vrf) (ps : List BgpPeer)
    (rs : List StaticRoute) (name : String) :
    (d.extendVrf vrf ps rs).vrfs.contains name = d.vrfs.contains name := by
  obtain ⟨v, hv⟩ := (d.vrfs.contains_iff vrf).mp h
  rw [vrfs_extendVrf hv]
  exact contains_updateVrf_of_contains h (fun _ => (v.addBgpPeers ps).addStaticRoutes rs) name

/-- Merging into a VRF of the device neither adds nor removes VRFs. -/
theorem contains_merge (h : d.vrfs.contains vrf) (a : Artifacts) (name : String) :
    (d.merge vrf a).vrfs.contains name = d.vrfs.contains name := by
  rw [merge_eq]
  exact contains_extendVrf (d := d.extendNamed a.named) h a.bgpPeers a.staticRoutes name

/-- Merging into a VRF of the device changes that VRF only. -/
theorem vrfs_merge {v : Vrf} (h : d.vrfs.get? vrf = some v) (a : Artifacts) :
    (d.merge vrf a).vrfs =
      d.vrfs.insert vrf ((v.addBgpPeers a.bgpPeers).addStaticRoutes a.staticRoutes) := by
  rw [merge_eq]
  exact vrfs_extendVrf (d := d.extendNamed a.named) h a.bgpPeers a.staticRoutes

end Vrfs

/-- Merges the parts of several connections, one after the other. -/
def mergeAll (d : Configuration) (vrf : String) (parts : List Artifacts) : Configuration :=
  parts.foldl (fun d a => d.merge vrf a) d

section MergeAll

variable {d : Configuration} {vrf : String}

@[simp] theorem hostname_mergeAll (parts : List Artifacts) :
    (d.mergeAll vrf parts).hostname = d.hostname := by
  induction parts generalizing d with
  | nil => rfl
  | cons a parts ih => exact ih.trans (hostname_merge d vrf a)

@[simp] theorem routingPolicies_mergeAll (parts : List Artifacts) :
    (d.mergeAll vrf parts).routingPolicies = d.routingPolicies := by
  induction parts generalizing d with
  | nil => rfl
  | cons a parts ih => exact ih.trans (routingPolicies_merge d vrf a)

@[simp] theorem named_mergeAll (parts : List Artifacts) :
    (d.mergeAll vrf parts).named = (parts.map Artifacts.named).foldl NamedParts.extend d.named := by
  induction parts generalizing d with
  | nil => rfl
  | cons a parts ih =>
      change ((d.merge vrf a).mergeAll vrf parts).named = _
      rw [ih, named_merge]
      rfl

/-- The VRF that several connections are merged into gets the neighbours and the routes of
all of them. -/
theorem vrfs_mergeAll {v : Vrf} (h : d.vrfs.get? vrf = some v) (parts : List Artifacts) :
    (d.mergeAll vrf parts).vrfs =
      d.vrfs.insert vrf ((v.addBgpPeers (parts.flatMap (·.bgpPeers))).addStaticRoutes
        (parts.flatMap (·.staticRoutes))) := by
  induction parts generalizing d v with
  | nil =>
      rw [List.flatMap_nil, List.flatMap_nil, Vrf.addBgpPeers_nil, Vrf.addStaticRoutes_nil]
      exact (NameMap.insert_of_get? h).symm
  | cons a parts ih =>
      have hvrfs := vrfs_merge h a
      have hget : (d.merge vrf a).vrfs.get? vrf =
          some ((v.addBgpPeers a.bgpPeers).addStaticRoutes a.staticRoutes) := by
        rw [hvrfs, NameMap.get?_insert, if_pos rfl]
      change ((d.merge vrf a).mergeAll vrf parts).vrfs = _
      rw [ih hget, hvrfs, NameMap.insert_insert, Vrf.addBgpPeers_addStaticRoutes,
        ← Vrf.addBgpPeers_append, ← Vrf.addStaticRoutes_append]
      rfl

end MergeAll

end Configuration

end SiteVpn
