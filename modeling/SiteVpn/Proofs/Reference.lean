import SiteVpn.Proofs.Attempt

/-!
# References between the parts of a device

The parts of a device refer to one another by their names, and interfaces refer to VRFs.
The parts of a tunnel are closed under these references apart from its two VRFs. Laying
closed parts over closed parts gives closed parts, whatever they replace, since no name
is ever lost. So whatever is done to a new device, nothing on it refers to a part that
is not there.
-/

namespace SiteVpn

namespace NameMap

variable {α β : Type} {m n : NameMap α} {refs : α → List String} {has has' : String → Bool}

/-- Every name that an entry of the map refers to is there. -/
def RefersTo (m : NameMap α) (refs : α → List String) (has : String → Bool) : Prop :=
  ∀ holder v, m.get? holder = some v → ∀ name ∈ refs v, has name

theorem refersTo_empty : (∅ : NameMap α).RefersTo refs has := by
  intro holder v h
  cases h

theorem refersTo_singleton {holder : String} {v : α} (h : ∀ name ∈ refs v, has name) :
    (singleton holder v).RefersTo refs has := by
  intro holder' w hw name hname
  rw [get?_singleton] at hw
  split at hw
  · obtain rfl := Option.some.inj hw
    exact h name hname
  · cases hw

theorem refersTo_ofList {entries : List (String × α)}
    (h : ∀ e ∈ entries, ∀ name ∈ refs e.2, has name) :
    (ofList entries).RefersTo refs has := by
  intro holder v hv
  exact h (holder, v) (mem_of_get?_ofList hv)

/-- A part that refers to one name. -/
theorem refersTo_single {ref : α → String}
    (h : ∀ holder v, m.get? holder = some v → has (ref v)) :
    m.RefersTo (fun v => [ref v]) has := by
  intro holder v hv name hname
  rw [List.mem_singleton.mp hname]
  exact h holder v hv

/-- References still resolve where there are more names. -/
theorem RefersTo.mono (h : m.RefersTo refs has) (hhas : ∀ name, has name → has' name) :
    m.RefersTo refs has' := by
  intro holder v hv name hname
  exact hhas name (h holder v hv name hname)

theorem RefersTo.extend (hm : m.RefersTo refs has) (hn : n.RefersTo refs has) :
    (m.extend n).RefersTo refs has := by
  intro holder v hv
  rw [get?_extend, Option.or_eq_some_iff] at hv
  rcases hv with hv | ⟨-, hv⟩
  · exact hn holder v hv
  · exact hm holder v hv

/-- What is laid over a map may refer to what is laid over another. -/
theorem RefersTo.extend_contains {s t : NameMap β} (hm : m.RefersTo refs s.contains)
    (hn : n.RefersTo refs t.contains) : (m.extend n).RefersTo refs (s.extend t).contains := by
  apply RefersTo.extend
  · exact hm.mono fun name h => by simp [h]
  · exact hn.mono fun name h => by simp [h]

end NameMap

/-- No part refers to a name that is not there. -/
structure NamedParts.Closed (hasVrf : String → Bool) (m : NamedParts) : Prop where
  phase1Policy_proposals :
    m.phase1Policies.RefersTo (fun policy => policy.proposals) m.phase1Proposals.contains
  phase2Policy_proposals :
    m.phase2Policies.RefersTo (fun policy => policy.proposals) m.phase2Proposals.contains
  phase1Key_localInterface :
    m.phase1Keys.RefersTo (fun key => [key.localInterface]) m.interfaces.contains
  phase1Policy_localInterface :
    m.phase1Policies.RefersTo (fun policy => [policy.localInterface]) m.interfaces.contains
  peerConfig_sourceInterface :
    m.peerConfigs.RefersTo (fun peer => [peer.sourceInterface]) m.interfaces.contains
  peerConfig_tunnelInterface :
    m.peerConfigs.RefersTo (fun peer => [peer.tunnelInterface]) m.interfaces.contains
  peerConfig_phase1Policy :
    m.peerConfigs.RefersTo (fun peer => [peer.phase1Policy]) m.phase1Policies.contains
  peerConfig_phase2Policy :
    m.peerConfigs.RefersTo (fun peer => [peer.phase2Policy]) m.phase2Policies.contains
  interface_vrf :
    m.interfaces.RefersTo (fun interface => [interface.vrf]) hasVrf

namespace NamedParts

variable {hasVrf hasVrf' : String → Bool} {m n : NamedParts}

theorem closed_empty : NamedParts.empty.Closed hasVrf := by
  constructor <;> exact NameMap.refersTo_empty

theorem Closed.mono (h : m.Closed hasVrf) (hvrf : ∀ name, hasVrf name → hasVrf' name) :
    m.Closed hasVrf' :=
  { h with interface_vrf := h.interface_vrf.mono hvrf }

/-- Closed parts laid over closed parts are closed. -/
theorem Closed.extend (hm : m.Closed hasVrf) (hn : n.Closed hasVrf) :
    (m.extend n).Closed hasVrf where
  phase1Policy_proposals := hm.phase1Policy_proposals.extend_contains hn.phase1Policy_proposals
  phase2Policy_proposals := hm.phase2Policy_proposals.extend_contains hn.phase2Policy_proposals
  phase1Key_localInterface :=
    hm.phase1Key_localInterface.extend_contains hn.phase1Key_localInterface
  phase1Policy_localInterface :=
    hm.phase1Policy_localInterface.extend_contains hn.phase1Policy_localInterface
  peerConfig_sourceInterface :=
    hm.peerConfig_sourceInterface.extend_contains hn.peerConfig_sourceInterface
  peerConfig_tunnelInterface :=
    hm.peerConfig_tunnelInterface.extend_contains hn.peerConfig_tunnelInterface
  peerConfig_phase1Policy :=
    hm.peerConfig_phase1Policy.extend_contains hn.peerConfig_phase1Policy
  peerConfig_phase2Policy :=
    hm.peerConfig_phase2Policy.extend_contains hn.peerConfig_phase2Policy
  interface_vrf := hm.interface_vrf.extend hn.interface_vrf

end NamedParts

namespace Tunnel.Expansion

variable {t : Tunnel} {tunnelId : String} (e : t.Expansion tunnelId) (c : Connection)
  (p : Placement)

theorem contains_externalName :
    (e.parts c p).interfaces.contains (externalName tunnelId) :=
  NameMap.contains_ofList_of_mem (List.mem_cons_self ..)

theorem contains_internalName :
    (e.parts c p).interfaces.contains (internalName tunnelId) :=
  NameMap.contains_ofList_of_mem (List.mem_cons_of_mem _ (List.mem_cons_self ..))

theorem contains_phase1Policies : (e.parts c p).phase1Policies.contains tunnelId :=
  NameMap.contains_of_get? (e.get?_phase1Policies c p)

theorem contains_phase1Proposals {name : String} (h : name ∈ e.phase1.map (·.name)) :
    (e.parts c p).phase1Proposals.contains name := by
  obtain ⟨q, hq, rfl⟩ := List.mem_map.mp h
  exact NameMap.contains_of_get? (e.get?_phase1Proposals c p hq)

theorem contains_phase2Proposals {name : String}
    (h : name ∈ numberedNames tunnelId 0 e.phase2.length) :
    (e.parts c p).phase2Proposals.contains name :=
  contains_ofList_numbered h

theorem contains_phase2Policies {name : String}
    (h : name ∈ phase2PolicyNames tunnelId e.phase2.length e.policies.length) :
    (e.parts c p).phase2Policies.contains name :=
  contains_ofList_numbered h

/-- The peer configs of a tunnel are those of its phase 2 policies. -/
theorem exists_policy_of_get?_peerConfigs {name : String} {peer : PeerConfig}
    (h : (e.parts c p).peerConfigs.get? name = some peer) :
    ∃ policy ∈ phase2PolicyNames tunnelId e.phase2.length e.policies.length,
      peer = t.peerConfig tunnelId policy := by
  obtain ⟨policy, hpolicy, heq⟩ := List.mem_map.mp (NameMap.mem_of_get?_ofList h)
  exact ⟨policy, hpolicy, (Prod.mk.inj heq).2.symm⟩

/-- The interfaces of a tunnel are in its two VRFs. -/
theorem vrf_of_get?_interfaces {name : String} {interface : Interface}
    (h : (e.parts c p).interfaces.get? name = some interface) :
    interface.vrf = p.underlayVrf ∨ interface.vrf = p.tunnelVrf := by
  have hmem := NameMap.mem_of_get?_ofList h
  simp only [List.mem_cons, Prod.mk.injEq, List.not_mem_nil, or_false] at hmem
  rcases hmem with ⟨-, rfl⟩ | ⟨-, rfl⟩
  · exact .inl rfl
  · exact .inr rfl

/-- The parts of a tunnel are closed where its VRFs are. -/
theorem closed {hasVrf : String → Bool} (hunderlay : hasVrf p.underlayVrf)
    (htunnel : hasVrf p.tunnelVrf) : (e.parts c p).named.Closed hasVrf where
  phase1Policy_proposals := by
    apply NameMap.refersTo_singleton
    intro name hname
    exact e.contains_phase1Proposals c p hname
  phase2Policy_proposals := by
    apply NameMap.refersTo_ofList
    intro entry hentry name hname
    rw [e.policy_proposals (List.of_mem_zip hentry).2] at hname
    exact e.contains_phase2Proposals c p hname
  phase1Key_localInterface := by
    apply NameMap.refersTo_singleton
    intro name hname
    rw [List.mem_singleton.mp hname]
    exact e.contains_externalName c p
  phase1Policy_localInterface := by
    apply NameMap.refersTo_singleton
    intro name hname
    rw [List.mem_singleton.mp hname]
    exact e.contains_externalName c p
  peerConfig_sourceInterface := by
    apply NameMap.refersTo_single
    intro holder peer hpeer
    obtain ⟨policy, -, rfl⟩ := e.exists_policy_of_get?_peerConfigs c p hpeer
    exact e.contains_externalName c p
  peerConfig_tunnelInterface := by
    apply NameMap.refersTo_single
    intro holder peer hpeer
    obtain ⟨policy, -, rfl⟩ := e.exists_policy_of_get?_peerConfigs c p hpeer
    exact e.contains_internalName c p
  peerConfig_phase1Policy := by
    apply NameMap.refersTo_single
    intro holder peer hpeer
    obtain ⟨policy, -, rfl⟩ := e.exists_policy_of_get?_peerConfigs c p hpeer
    exact e.contains_phase1Policies c p
  peerConfig_phase2Policy := by
    apply NameMap.refersTo_single
    intro holder peer hpeer
    obtain ⟨policy, hpolicy, rfl⟩ := e.exists_policy_of_get?_peerConfigs c p hpeer
    exact e.contains_phase2Policies c p hpolicy
  interface_vrf := by
    apply NameMap.refersTo_single
    intro holder interface hinterface
    rcases e.vrf_of_get?_interfaces c p hinterface with h | h
    · rw [h]
      exact hunderlay
    · rw [h]
      exact htunnel

end Tunnel.Expansion

/-- So are those of a connection, however many tunnels it has. -/
theorem Connection.closed_synthesizeFrom {c : Connection} {p : Placement}
    {hasVrf : String → Bool} (hunderlay : hasVrf p.underlayVrf) (htunnel : hasVrf p.tunnelVrf)
    {n : Nat} {ts : List Tunnel} {a : Artifacts}
    (h : (c.synthesizeFrom p n ts).value = .ok a) : a.named.Closed hasVrf := by
  induction ts generalizing n a with
  | nil =>
      obtain rfl := Except.ok.inj h
      exact NamedParts.closed_empty
  | cons t ts ih =>
      obtain ⟨e, rest, hrest, rfl⟩ := synthesizeFrom_cons_eq_ok h
      rw [Artifacts.named_append]
      exact (e.closed c p hunderlay htunnel).extend (ih hrest)

namespace Configuration

/-- Nothing on the device refers to a part or a VRF that is not there. -/
def Closed (d : Configuration) : Prop := d.named.Closed d.vrfs.contains

theorem closed_ofHostname (hostname : String) : (ofHostname hostname).Closed :=
  NamedParts.closed_empty

/-- Changing a VRF, which may create it, leaves references as they are. -/
theorem Closed.updateVrf {d : Configuration} (h : d.Closed) (vrf : String) (f : Vrf → Vrf) :
    (d.updateVrf vrf f).Closed := by
  unfold Closed
  rw [named_updateVrf]
  apply h.mono
  intro name hname
  rw [contains_updateVrf, hname, Bool.or_true]

theorem Closed.addRoutingPolicy {d : Configuration} (h : d.Closed) (p : RoutingPolicy) :
    (d.addRoutingPolicy p).Closed := h

theorem Closed.initInfrastructure {d : Configuration} (h : d.Closed) :
    d.initInfrastructure.Closed :=
  (h.updateVrf Placement.defaultUnderlayVrf id).addRoutingPolicy .backboneExport

theorem Closed.attempt {d : Configuration} (h : d.Closed) (k : Attempt) :
    (k.perform d).Closed := by
  have hvrfs : (k.perform d).vrfs.contains = d.vrfs.contains :=
    funext fun name => k.contains_perform d name
  unfold Closed
  rw [hvrfs]
  by_cases hr : k.reply d = .ok true
  · obtain ⟨a, hs, hp⟩ := Attempt.perform_of_reply hr
    obtain ⟨hunderlay, htunnel⟩ := (Attempt.reply_eq_true_iff.mp hr).1
    rw [hp, named_merge]
    exact NamedParts.Closed.extend h (Connection.closed_synthesizeFrom hunderlay htunnel hs)
  · rw [Attempt.perform_of_reply_ne hr]
    exact h

end Configuration

/-- What is done to a device. -/
inductive Operation where
  | ensureVrf (name : String)
  | initInfrastructure
  | addRoutingPolicy (policy : RoutingPolicy)
  | attempt (k : Attempt)

/-- The device after an operation. -/
def Operation.perform (d : Configuration) : Operation → Configuration
  | ensureVrf name => d.ensureVrf name
  | initInfrastructure => d.initInfrastructure
  | addRoutingPolicy policy => d.addRoutingPolicy policy
  | attempt k => k.perform d

namespace Configuration

/-- The device after operations made one after another. -/
def afterOperations (d : Configuration) (ops : List Operation) : Configuration :=
  ops.foldl Operation.perform d

theorem Closed.operation {d : Configuration} (h : d.Closed) (op : Operation) :
    (op.perform d).Closed := by
  cases op with
  | ensureVrf name => exact h.updateVrf name id
  | initInfrastructure => exact h.initInfrastructure
  | addRoutingPolicy policy => exact h.addRoutingPolicy policy
  | attempt k => exact h.attempt k

/-- What every operation keeps is kept by operations made one after another. -/
theorem afterOperations_induction {P : Configuration → Prop}
    (hop : ∀ d (op : Operation), P d → P (op.perform d)) {d : Configuration} (h : P d)
    (ops : List Operation) : P (d.afterOperations ops) := by
  induction ops generalizing d with
  | nil => exact h
  | cons op ops ih => exact ih (hop d op h)

/-- Operations keep a device closed. -/
theorem Closed.afterOperations {d : Configuration} (h : d.Closed) (ops : List Operation) :
    (d.afterOperations ops).Closed :=
  afterOperations_induction (P := Closed) (fun _ op hd => hd.operation op) h ops

section Dangling

variable {α β : Type} {holders : NameMap α} {refs : α → List String} {m : NameMap β}

/-- The names that a map lacks, each with an entry that refers to it. -/
theorem mem_flatMap_dangling_iff {holder name : String} :
    (holder, name) ∈ holders.entries.flatMap (fun e => dangling m e.1 (refs e.2)) ↔
      ∃ v, holders.get? holder = some v ∧ name ∈ refs v ∧ m.get? name = none := by
  simp only [List.mem_flatMap, dangling, List.mem_map, List.mem_filter, NameMap.contains,
    Bool.not_eq_true', Option.isSome_eq_false_iff, Option.isNone_iff_eq_none, Prod.mk.injEq]
  constructor
  · rintro ⟨e, he, name', ⟨hname, hnone⟩, rfl, rfl⟩
    exact ⟨e.2, (holders.mem_entries_iff e.1 e.2).mp he, hname, hnone⟩
  · rintro ⟨v, hv, hname, hnone⟩
    exact ⟨(holder, v), (holders.mem_entries_iff holder v).mpr hv, name, ⟨hname, hnone⟩, rfl, rfl⟩

/-- None is lacking where all references resolve. -/
theorem flatMap_dangling_eq_nil (h : holders.RefersTo refs m.contains) :
    holders.entries.flatMap (fun e => dangling m e.1 (refs e.2)) = [] := by
  apply List.eq_nil_iff_forall_not_mem.mpr
  rintro ⟨holder, name⟩ hmem
  obtain ⟨v, hv, hname, hnone⟩ := mem_flatMap_dangling_iff.mp hmem
  have hcontains := h holder v hv name hname
  simp [NameMap.contains, hnone] at hcontains

end Dangling

theorem Closed.danglingProposals_eq_nil {d : Configuration} (h : d.Closed) :
    d.danglingProposals = [] := by
  apply List.append_eq_nil_iff.mpr
  constructor
  · exact flatMap_dangling_eq_nil h.phase1Policy_proposals
  · exact flatMap_dangling_eq_nil h.phase2Policy_proposals

/-- Whatever is done to a new device, all its references resolve, so that none of its
policies has dangling proposals. On any device, the dangling proposals are those that a
policy names and that the map of the policy's phase does not have. -/
theorem closed_and_danglingProposals :
    (∀ hostname ops, ((ofHostname hostname).afterOperations ops).Closed ∧
      ((ofHostname hostname).afterOperations ops).danglingProposals = []) ∧
    ∀ (d : Configuration) policy name,
      (policy, name) ∈ d.danglingProposals ↔
        (∃ v, d.phase1Policies.get? policy = some v ∧ name ∈ v.proposals ∧
          d.phase1Proposals.get? name = none) ∨
        (∃ v, d.phase2Policies.get? policy = some v ∧ name ∈ v.proposals ∧
          d.phase2Proposals.get? name = none) := by
  constructor
  · intro hostname ops
    have hclosed := (closed_ofHostname hostname).afterOperations ops
    exact ⟨hclosed, hclosed.danglingProposals_eq_nil⟩
  · intro d policy name
    rw [danglingProposals, List.mem_append]
    exact or_congr mem_flatMap_dangling_iff mem_flatMap_dangling_iff

end Configuration

end SiteVpn
