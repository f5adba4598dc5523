import Mathlib.Logic.Relation
import SiteVpn.Proofs.Neighbour

/-!
# Devices only grow

Whatever is done to a device comes down to three changes: its seven maps get entries, one
of its VRFs is changed, or a routing policy is set. None of them takes a name
out of a map or a route out of a VRF. Each keeps VRFs and routing policies under their own
names and the neighbours of a VRF apart. So a device that started with its default VRF
keeps all this through everything that is done to it.
-/

namespace SiteVpn

/-- The second map has every name of the first. -/
def NameMap.Within {α : Type} (m n : NameMap α) : Prop :=
  ∀ name, m.contains name → n.contains name

namespace NameMap

variable {α : Type} {l m n : NameMap α}

theorem Within.refl (m : NameMap α) : m.Within m := fun _ h => h

theorem Within.trans (h : l.Within m) (h' : m.Within n) : l.Within n :=
  fun name hname => h' name (h name hname)

/-- No name is lost where a map is laid over another. -/
theorem within_extend (m n : NameMap α) : m.Within (m.extend n) := by
  intro name h
  rw [contains_extend, h, Bool.or_true]

end NameMap

/-- Each of the second seven maps has every name of the first. -/
structure NamedParts.Within (m n : NamedParts) : Prop where
  interfaces : m.interfaces.Within n.interfaces
  phase1Proposals : m.phase1Proposals.Within n.phase1Proposals
  phase1Keys : m.phase1Keys.Within n.phase1Keys
  phase1Policies : m.phase1Policies.Within n.phase1Policies
  phase2Proposals : m.phase2Proposals.Within n.phase2Proposals
  phase2Policies : m.phase2Policies.Within n.phase2Policies
  peerConfigs : m.peerConfigs.Within n.peerConfigs

namespace NamedParts

variable {l m n : NamedParts}

theorem Within.refl (m : NamedParts) : m.Within m := by
  constructor <;> exact NameMap.Within.refl _

theorem Within.trans (h : l.Within m) (h' : m.Within n) : l.Within n where
  interfaces := h.interfaces.trans h'.interfaces
  phase1Proposals := h.phase1Proposals.trans h'.phase1Proposals
  phase1Keys := h.phase1Keys.trans h'.phase1Keys
  phase1Policies := h.phase1Policies.trans h'.phase1Policies
  phase2Proposals := h.phase2Proposals.trans h'.phase2Proposals
  phase2Policies := h.phase2Policies.trans h'.phase2Policies
  peerConfigs := h.peerConfigs.trans h'.peerConfigs

theorem within_extend (m n : NamedParts) : m.Within (m.extend n) := by
  constructor <;> exact NameMap.within_extend _ _

end NamedParts

namespace Vrf

/-- A change of VRFs that keeps their names and their routes, and neighbours apart. -/
structure Keeps (f : Vrf → Vrf) : Prop where
  name : ∀ v, (f v).name = v.name
  staticRoutes : ∀ v, v.staticRoutes <+: (f v).staticRoutes
  peersDistinct : ∀ v, v.PeersDistinct → (f v).PeersDistinct

theorem keeps_id : Keeps id := ⟨fun _ => rfl, fun _ => List.prefix_refl _, fun _ h => h⟩

theorem keeps_addBgpPeers (ps : List BgpPeer) : Keeps (·.addBgpPeers ps) where
  name v := v.name_addBgpPeers ps
  staticRoutes v := (v.staticRoutes_addBgpPeers ps).symm ▸ List.prefix_rfl
  peersDistinct _ h := h.addBgpPeers ps

theorem keeps_addStaticRoutes (rs : List StaticRoute) : Keeps (·.addStaticRoutes rs) where
  name _ := rfl
  staticRoutes _ := List.prefix_append ..
  peersDistinct _ h := h

end Vrf

namespace Configuration

/-- What may happen to a device at once. -/
inductive Change (d : Configuration) : Configuration → Prop
  /-- Entries are put into the seven maps, where they may replace others. -/
  | named {d' : Configuration} (hhostname : d'.hostname = d.hostname) (hvrfs : d'.vrfs = d.vrfs)
      (hpolicies : d'.routingPolicies = d.routingPolicies) (hnamed : d.named.Within d'.named) :
      Change d d'
  | updateVrf (name : String) {f : Vrf → Vrf} (h : Vrf.Keeps f) : Change d (d.updateVrf name f)
  | addRoutingPolicy (policy : RoutingPolicy) : Change d (d.addRoutingPolicy policy)

/-- What may happen to a device in several changes, or none. -/
abbrev Changes : Configuration → Configuration → Prop := Relation.ReflTransGen Change

/-- What every device has: its default VRF, and VRFs and routing policies that stand under
their own names, with neighbours of different addresses. -/
structure Sound (d : Configuration) : Prop where
  defaultVrf : d.vrfs.contains "default"
  vrf_name : ∀ name v, d.vrfs.get? name = some v → v.name = name
  policy_name : ∀ name policy, d.routingPolicies.get? name = some policy → policy.name = name
  peersDistinct : ∀ name v, d.vrfs.get? name = some v →
    (v.bgpPeers.map (·.peerAddress)).Nodup

/-- The second device has the name of the first, every name in a map of the first, and
every route in a VRF of the first, before any others. -/
structure Grows (d d' : Configuration) : Prop where
  hostname : d'.hostname = d.hostname
  vrfs : ∀ name v, d.vrfs.get? name = some v →
    ∃ v', d'.vrfs.get? name = some v' ∧ v.staticRoutes <+: v'.staticRoutes
  routingPolicies : d.routingPolicies.Within d'.routingPolicies
  named : d.named.Within d'.named

variable {d d' d'' : Configuration}

theorem Grows.refl (d : Configuration) : d.Grows d where
  hostname := rfl
  vrfs _ v hv := ⟨v, hv, List.prefix_refl _⟩
  routingPolicies := NameMap.Within.refl _
  named := NamedParts.Within.refl _

theorem Grows.trans (h : d.Grows d') (h' : d'.Grows d'') : d.Grows d'' where
  hostname := h'.hostname.trans h.hostname
  vrfs name v hv := by
    obtain ⟨v', hv', hroutes⟩ := h.vrfs name v hv
    obtain ⟨v'', hv'', hroutes'⟩ := h'.vrfs name v' hv'
    exact ⟨v'', hv'', hroutes.trans hroutes'⟩
  routingPolicies := h.routingPolicies.trans h'.routingPolicies
  named := h.named.trans h'.named

section UpdateVrf

variable {name : String} {f : Vrf → Vrf}

theorem get?_vrfs_updateVrf (d : Configuration) (name : String) (f : Vrf → Vrf) (k : String) :
    (d.updateVrf name f).vrfs.get? k =
      if k = name then some (f (d.vrfOrNew name)) else d.vrfs.get? k :=
  NameMap.get?_insert ..

/-- What is changed is a VRF of the device or a new one. -/
theorem vrfOrNew_cases (d : Configuration) (name : String) :
    d.vrfs.get? name = some (d.vrfOrNew name) ∨ d.vrfOrNew name = .ofName name := by
  unfold vrfOrNew
  cases d.vrfs.get? name with
  | none => exact .inr rfl
  | some v => exact .inl rfl

theorem Sound.updateVrf (h : d.Sound) (hf : Vrf.Keeps f) : (d.updateVrf name f).Sound where
  defaultVrf := by rw [contains_updateVrf, h.defaultVrf, Bool.or_true]
  vrf_name k v hv := by
    rw [get?_vrfs_updateVrf] at hv
    split at hv
    · next hk =>
        obtain rfl := Option.some.inj hv
        rw [hf.name, hk]
        rcases d.vrfOrNew_cases name with hold | hnew
        · exact h.vrf_name name _ hold
        · rw [hnew]
          rfl
    · exact h.vrf_name k v hv
  policy_name := h.policy_name
  peersDistinct k v hv := by
    rw [get?_vrfs_updateVrf] at hv
    split at hv
    · obtain rfl := Option.some.inj hv
      apply hf.peersDistinct
      rcases d.vrfOrNew_cases name with hold | hnew
      · exact h.peersDistinct name _ hold
      · rw [hnew]
        exact Vrf.peersDistinct_ofName name
    · exact h.peersDistinct k v hv

theorem grows_updateVrf (d : Configuration) (name : String) (hf : Vrf.Keeps f) :
    d.Grows (d.updateVrf name f) where
  hostname := rfl
  vrfs k v hv := by
    rw [get?_vrfs_updateVrf]
    by_cases hk : k = name
    · have hold : d.vrfOrNew name = v := by
        rw [vrfOrNew, ← hk, hv]
        rfl
      rw [if_pos hk, hold]
      exact ⟨f v, rfl, hf.staticRoutes v⟩
    · rw [if_neg hk]
      exact ⟨v, hv, List.prefix_refl _⟩
  routingPolicies := NameMap.Within.refl _
  named := NamedParts.Within.refl _

end UpdateVrf

theorem Sound.addRoutingPolicy (h : d.Sound) (policy : RoutingPolicy) :
    (d.addRoutingPolicy policy).Sound where
  defaultVrf := h.defaultVrf
  vrf_name := h.vrf_name
  policy_name k policy' hpolicy := by
    change (d.routingPolicies.insert policy.name policy).get? k = _ at hpolicy
    rw [NameMap.get?_insert] at hpolicy
    split at hpolicy
    · next hk =>
        obtain rfl := Option.some.inj hpolicy
        exact hk.symm
    · exact h.policy_name k policy' hpolicy
  peersDistinct := h.peersDistinct

/-- A new device has its default VRF and nothing else. -/
theorem sound_ofHostname (hostname : String) : (ofHostname hostname).Sound := by
  have hvrf : ∀ name v, (ofHostname hostname).vrfs.get? name = some v →
      v = .ofName name := by
    intro name v hv
    rw [ofHostname, ensureVrf, get?_vrfs_updateVrf] at hv
    split at hv
    · next hname =>
        rw [hname]
        exact (Option.some.inj hv).symm
    · cases hv
  constructor
  · rw [ofHostname, ensureVrf, contains_updateVrf]
    rfl
  · intro name v hv
    rw [hvrf name v hv]
    rfl
  · intro name policy hpolicy
    cases hpolicy
  · intro name v hv
    rw [hvrf name v hv]
    exact Vrf.peersDistinct_ofName name

theorem Change.grows (h : Change d d') : d.Grows d' := by
  cases h with
  | named hhostname hvrfs hpolicies hnamed =>
      refine ⟨hhostname, ?_, ?_, hnamed⟩
      · rw [hvrfs]
        exact (Grows.refl d).vrfs
      · rw [hpolicies]
        exact NameMap.Within.refl _
  | updateVrf name hf => exact d.grows_updateVrf name hf
  | addRoutingPolicy policy =>
      exact { Grows.refl d with routingPolicies := NameMap.within_extend _ _ }

theorem Change.sound (h : Change d d') (hd : d.Sound) : d'.Sound := by
  cases h with
  | named _ hvrfs hpolicies _ =>
      constructor
      · rw [hvrfs]
        exact hd.defaultVrf
      · rw [hvrfs]
        exact hd.vrf_name
      · rw [hpolicies]
        exact hd.policy_name
      · rw [hvrfs]
        exact hd.peersDistinct
  | updateVrf name hf => exact hd.updateVrf hf
  | addRoutingPolicy policy => exact hd.addRoutingPolicy policy

theorem Changes.grows (h : Changes d d') : d.Grows d' := by
  induction h with
  | refl => exact Grows.refl d
  | tail _ hchange ih => exact ih.trans hchange.grows

theorem Changes.sound (h : Changes d d') (hd : d.Sound) : d'.Sound := by
  induction h with
  | refl => exact hd
  | tail _ hchange ih => exact hchange.sound ih

theorem changes_ensureVrf (d : Configuration) (name : String) : Changes d (d.ensureVrf name) :=
  .single (.updateVrf name Vrf.keeps_id)

theorem changes_initInfrastructure (d : Configuration) : Changes d d.initInfrastructure :=
  (d.changes_ensureVrf Placement.defaultUnderlayVrf).tail (.addRoutingPolicy _)

/-- Merging the parts of a connection is a chain of at most three changes. -/
theorem changes_merge (d : Configuration) (vrf : String) (a : Artifacts) :
    Changes d (d.merge vrf a) := by
  have hnamed : Changes d (d.extendNamed a.named) :=
    .single (.named rfl rfl rfl (NamedParts.within_extend d.named a.named))
  rw [merge_eq]
  unfold extendVrf
  split <;> split
  · exact hnamed
  · exact hnamed.tail (.updateVrf vrf (Vrf.keeps_addStaticRoutes _))
  · exact hnamed.tail (.updateVrf vrf (Vrf.keeps_addBgpPeers _))
  · exact (hnamed.tail (.updateVrf vrf (Vrf.keeps_addBgpPeers _))).tail
      (.updateVrf vrf (Vrf.keeps_addStaticRoutes _))

theorem changes_mergeAll (d : Configuration) (vrf : String) (parts : List Artifacts) :
    Changes d (d.mergeAll vrf parts) := by
  induction parts generalizing d with
  | nil => exact .refl
  | cons a parts ih => exact (d.changes_merge vrf a).trans (ih (d.merge vrf a))

theorem changes_attempt (d : Configuration) (k : Attempt) : Changes d (k.perform d) := by
  by_cases h : k.reply d = .ok true
  · obtain ⟨a, -, hp⟩ := Attempt.perform_of_reply h
    rw [hp]
    exact d.changes_merge _ a
  · rw [Attempt.perform_of_reply_ne h]

end Configuration

/-- An operation on devices, with whatever arguments it is given. -/
inductive Edit where
  | ensureVrf (name : String)
  | addRoutingPolicy (policy : RoutingPolicy)
  | extendInterfaces (m : NameMap Interface)
  | extendPhase1Proposals (m : NameMap Phase1Proposal)
  | extendPhase1Keys (m : NameMap Phase1Key)
  | extendPhase1Policies (m : NameMap Phase1Policy)
  | extendPhase2Proposals (m : NameMap Phase2Proposal)
  | extendPhase2Policies (m : NameMap Phase2Policy)
  | extendPeerConfigs (m : NameMap PeerConfig)
  | extendBgpPeers (vrf : String) (ps : List BgpPeer)
  | extendStaticRoutes (vrf : String) (rs : List StaticRoute)
  | initInfrastructure
  | merge (vrf : String) (a : Artifacts)
  | attempt (k : Attempt)

namespace Edit

/-- The device after an operation. -/
def perform (d : Configuration) : Edit → Configuration
  | ensureVrf name => d.ensureVrf name
  | addRoutingPolicy policy => d.addRoutingPolicy policy
  | extendInterfaces m => d.extendInterfaces m
  | extendPhase1Proposals m => d.extendPhase1Proposals m
  | extendPhase1Keys m => d.extendPhase1Keys m
  | extendPhase1Policies m => d.extendPhase1Policies m
  | extendPhase2Proposals m => d.extendPhase2Proposals m
  | extendPhase2Policies m => d.extendPhase2Policies m
  | extendPeerConfigs m => d.extendPeerConfigs m
  | extendBgpPeers vrf ps => d.extendBgpPeers vrf ps
  | extendStaticRoutes vrf rs => d.extendStaticRoutes vrf rs
  | initInfrastructure => d.initInfrastructure
  | merge vrf a => d.merge vrf a
  | attempt k => k.perform d

/-- Every operation is a chain of changes. -/
theorem changes (d : Configuration) (edit : Edit) : Configuration.Changes d (edit.perform d) := by
  cases edit with
  | ensureVrf name => exact d.changes_ensureVrf name
  | addRoutingPolicy policy => exact .single (.addRoutingPolicy policy)
  | extendInterfaces m =>
      exact .single (.named rfl rfl rfl
        { NamedParts.Within.refl _ with interfaces := NameMap.within_extend _ m })
  | extendPhase1Proposals m =>
      exact .single (.named rfl rfl rfl
        { NamedParts.Within.refl _ with phase1Proposals := NameMap.within_extend _ m })
  | extendPhase1Keys m =>
      exact .single (.named rfl rfl rfl
        { NamedParts.Within.refl _ with phase1Keys := NameMap.within_extend _ m })
  | extendPhase1Policies m =>
      exact .single (.named rfl rfl rfl
        { NamedParts.Within.refl _ with phase1Policies := NameMap.within_extend _ m })
  | extendPhase2Proposals m =>
      exact .single (.named rfl rfl rfl
        { NamedParts.Within.refl _ with phase2Proposals := NameMap.within_extend _ m })
  | extendPhase2Policies m =>
      exact .single (.named rfl rfl rfl
        { NamedParts.Within.refl _ with phase2Policies := NameMap.within_extend _ m })
  | extendPeerConfigs m =>
      exact .single (.named rfl rfl rfl
        { NamedParts.Within.refl _ with peerConfigs := NameMap.within_extend _ m })
  | extendBgpPeers vrf ps => exact .single (.updateVrf vrf (Vrf.keeps_addBgpPeers ps))
  | extendStaticRoutes vrf rs => exact .single (.updateVrf vrf (Vrf.keeps_addStaticRoutes rs))
  | initInfrastructure => exact d.changes_initInfrastructure
  | merge vrf a => exact d.changes_merge vrf a
  | attempt k => exact d.changes_attempt k

end Edit

namespace Configuration

/-- The device after operations made one after another. -/
def afterEdits (d : Configuration) (edits : List Edit) : Configuration :=
  edits.foldl Edit.perform d

theorem changes_afterEdits (d : Configuration) (edits : List Edit) :
    Changes d (d.afterEdits edits) := by
  induction edits generalizing d with
  | nil => exact .refl
  | cons edit edits ih => exact (edit.changes d).trans (ih (edit.perform d))

/-- Whatever operations are made on a new device, it keeps its name and its default VRF,
its VRFs and routing policies stand under their own names, and no VRF has two neighbours
with one address. Each operation, on any device, takes no name out of a map and leaves the
routes of each VRF before those that it adds. -/
theorem edits_keep_device :
    (∀ hostname edits, ((ofHostname hostname).afterEdits edits).hostname = hostname ∧
      ((ofHostname hostname).afterEdits edits).Sound) ∧
    ∀ (d : Configuration) (edit : Edit), d.Grows (edit.perform d) := by
  constructor
  · intro hostname edits
    have hchanges := (ofHostname hostname).changes_afterEdits edits
    exact ⟨hchanges.grows.hostname, hchanges.sound (sound_ofHostname hostname)⟩
  · intro d edit
    exact (edit.changes d).grows

end Configuration

end SiteVpn
