import SiteVpn.Proofs.Ownership

/-!
# The two ends of a tunnel on a device

The addresses of a tunnel, the names of its interfaces and its key are written into five
maps, each on its own. As all of these parts are the tunnel's own, they are still the ones
that were written together when other connections have been attached: a peer config leads to
interfaces and a phase 1 policy with its own addresses.
-/

namespace SiteVpn

namespace NamedParts

/-- Whether a peer config leads to interfaces, a policy and a key that have its own addresses,
which are those of a tunnel. -/
structure EndsAgree (m : NamedParts) (p : Placement) (t : Tunnel) (peer : PeerConfig) :
    Prop where
  localAddress : peer.localAddress = t.gatewayOutside
  destinationAddress : peer.destinationAddress = t.customerOutside
  /-- The tunnel starts from an underlay interface that has the local address to itself. -/
  sourceInterface : ∃ interface, m.interfaces.get? peer.sourceInterface = some interface ∧
    interface.vrf = p.underlayVrf ∧ interface.address = .host peer.localAddress
  /-- Its traffic has the inside address of the device, in the inside block. -/
  tunnelInterface : ∃ interface, m.interfaces.get? peer.tunnelInterface = some interface ∧
    interface.vrf = p.tunnelVrf ∧ interface.address = ⟨t.gatewayInside, t.insideLength⟩
  /-- Phase 1 is with the destination, from the source interface, by the key of the tunnel. -/
  phase1Policy : ∃ policy, m.phase1Policies.get? peer.phase1Policy = some policy ∧
    policy.name = peer.phase1Policy ∧ policy.remoteIdentity = peer.destinationAddress ∧
    policy.localInterface = peer.sourceInterface ∧
    m.phase1Keys.get? policy.name = some policy.key

/-- The ends agree wherever the parts are found. -/
theorem EndsAgree.mono {m m' : NamedParts} {p : Placement} {t : Tunnel} {peer : PeerConfig}
    (h : m.EndsAgree p t peer)
    (hfound : ∀ {α : Type} (S : PartKind α) {name : String} {v : α},
      (S.map m).get? name = some v → (S.map m').get? name = some v) :
    m'.EndsAgree p t peer where
  localAddress := h.localAddress
  destinationAddress := h.destinationAddress
  sourceInterface := by
    obtain ⟨interface, hget, hrest⟩ := h.sourceInterface
    exact ⟨interface, hfound .interfaces hget, hrest⟩
  tunnelInterface := by
    obtain ⟨interface, hget, hrest⟩ := h.tunnelInterface
    exact ⟨interface, hfound .interfaces hget, hrest⟩
  phase1Policy := by
    obtain ⟨policy, hpolicy, hname, hidentity, hinterface, hkey⟩ := h.phase1Policy
    exact ⟨policy, hfound .phase1Policies hpolicy, hname, hidentity, hinterface,
      hfound .phase1Keys hkey⟩

end NamedParts

namespace Tunnel.Expansion

variable {t : Tunnel} {tunnelId : String} (e : t.Expansion tunnelId) (c : Connection)
  (p : Placement)

theorem get?_externalInterface :
    (e.parts c p).interfaces.get? (externalName tunnelId) =
      some (t.externalInterface p tunnelId) := by
  apply NameMap.get?_ofList_of_mem (List.mem_cons_self ..)
  intro interface h
  rcases List.mem_cons.mp h with heq | h
  · exact (Prod.mk.inj heq).2
  · have heq := List.mem_singleton.mp h
    exact absurd (Prod.mk.inj heq).1 (externalName_ne_internalName tunnelId tunnelId)

theorem get?_internalInterface :
    (e.parts c p).interfaces.get? (internalName tunnelId) =
      some (t.internalInterface p tunnelId) := by
  apply NameMap.get?_ofList_of_mem (List.mem_cons_of_mem _ (List.mem_cons_self ..))
  intro interface h
  rcases List.mem_cons.mp h with heq | h
  · exact absurd (Prod.mk.inj heq).1.symm (externalName_ne_internalName tunnelId tunnelId)
  · exact (Prod.mk.inj (List.mem_singleton.mp h)).2

theorem get?_phase1Keys :
    (e.parts c p).phase1Keys.get? tunnelId = some (t.phase1Key tunnelId) :=
  NameMap.get?_singleton_self _ _

/-- Each phase 2 policy has its peer config. -/
theorem get?_peerConfigs {policy : String}
    (h : policy ∈ phase2PolicyNames tunnelId e.phase2.length e.policies.length) :
    (e.parts c p).peerConfigs.get? (peerName policy) = some (t.peerConfig tunnelId policy) := by
  apply NameMap.get?_ofList_of_mem
  · exact List.mem_map_of_mem h
  · intro peer hpeer
    obtain ⟨policy', -, heq⟩ := List.mem_map.mp hpeer
    obtain ⟨hname, rfl⟩ := Prod.mk.inj heq
    rw [peerName_inj hname]

/-- The parts of a tunnel are written with the same addresses. -/
theorem endsAgree (policy : String) :
    (e.parts c p).named.EndsAgree p t (t.peerConfig tunnelId policy) where
  localAddress := rfl
  destinationAddress := rfl
  sourceInterface := ⟨_, e.get?_externalInterface c p, rfl, rfl⟩
  tunnelInterface := ⟨_, e.get?_internalInterface c p, rfl, rfl⟩
  phase1Policy := ⟨_, e.get?_phase1Policies c p, rfl, rfl, rfl, e.get?_phase1Keys c p⟩

end Tunnel.Expansion

namespace Configuration

end Configuration

end SiteVpn
