import SiteVpn.Proofs.Growth

/-!
# A run skips all of its connections or none

A connection is skipped, with one warning, where the device lacks one of its two VRFs. No
connection adds a VRF to a device that has both, and none is merged into a device that
lacks one. So whether connections are skipped is decided by the gateway before the first
record, and the VRFs of the final device are those that the gateway names.
-/

namespace SiteVpn

/-- An attempt warns of a missing VRF and of nothing else. -/
theorem Attempt.warningsOf_events (k : Attempt) (d : Configuration) :
    warningsOf (k.events d) = (d.missingVrf? k.placement).toList := by
  rcases k.ending d with ⟨w, hm, -, -, hw⟩ | ⟨e, hv, -, -, -, hw⟩ | ⟨a, hv, -, -, -, hw⟩
  · rw [hw, hm]
    rfl
  · rw [hw, Configuration.missingVrf?_eq_none_iff.mpr hv]
    rfl
  · rw [hw, Configuration.missingVrf?_eq_none_iff.mpr hv]
    rfl

/-- What is skipped is a connection that lacks a VRF. -/
theorem Configuration.verdict_eq_skipped_iff {d : Configuration} {p : Placement}
    {slot : Except ConnectionError Connection} :
    d.verdict p slot = .skipped ↔ slot.isOk ∧ ¬ d.HasVrfs p := by
  cases slot with
  | error e => simp [verdict, Except.isOk, Except.toBool]
  | ok c =>
      have hreply := Attempt.reply_eq_false_iff (k := ⟨c, p⟩) (d := d)
      unfold verdict
      dsimp only at hreply ⊢
      cases hr : (Attempt.mk c p).reply d with
      | error e => simpa [hr, Except.isOk, Except.toBool] using hreply
      | ok attached =>
          cases attached <;> simpa [hr, Except.isOk, Except.toBool] using hreply

namespace Report

variable {r : Report} {p : Placement}

theorem warnings_attach (c : Connection) :
    (r.attach p c).warnings = r.warnings ++ (r.configuration.missingVrf? p).toList := by
  have hevents : warningsOf (c.attach p r.configuration).events =
      (r.configuration.missingVrf? p).toList :=
    (Attempt.mk c p).warningsOf_events r.configuration
  rw [← hevents]
  unfold attach warnings warningsOf
  dsimp only
  split <;> simp [List.filterMap_append, Event.warning?]

/-- The connections among the records are warned of where a VRF is missing, each once. -/
theorem warnings_addFrom (index : Nat) (slots : List (Except ConnectionError Connection)) :
    (r.addFrom p index slots).warnings =
      r.warnings ++ (slots.filter (·.isOk)).flatMap fun _ =>
        (r.configuration.missingVrf? p).toList := by
  induction slots generalizing r index with
  | nil => simp [addFrom]
  | cons slot slots ih =>
      rw [addFrom, ih]
      cases slot with
      | error e =>
          have hwarnings : (r.refuse index e).warnings = r.warnings := by
            simp [refuse, warnings, warningsOf, List.filterMap_append, Event.warning?]
          change (r.refuse index e).warnings ++ _ = _
          rw [hwarnings]
          rfl
      | ok c =>
          have hmissing : (r.attach p c).configuration.missingVrf? p =
              r.configuration.missingVrf? p := by
            rw [configuration_attach, Attempt.missingVrf?_perform]
          change (r.attach p c).warnings ++ _ = _
          rw [add, hmissing, warnings_attach, List.append_assoc]
          rfl

end Report

theorem Configuration.contains_foldl_ensureVrf_iff {d : Configuration} {names : List String}
    {name : String} :
    (names.foldl ensureVrf d).vrfs.contains name ↔ name ∈ names ∨ d.vrfs.contains name := by
  induction names generalizing d with
  | nil => simp
  | cons name' names ih =>
      rw [List.foldl_cons, ih, ensureVrf, contains_updateVrf]
      simp only [Bool.or_eq_true, beq_iff_eq, List.mem_cons]
      tauto

theorem Configuration.changes_foldl_ensureVrf (d : Configuration) (names : List String) :
    Changes d (names.foldl ensureVrf d) := by
  induction names generalizing d with
  | nil => exact .refl
  | cons name names ih => exact (d.changes_ensureVrf name).trans (ih (d.ensureVrf name))

namespace Gateway

variable (g : Gateway)

theorem changes_configuration :
    Configuration.Changes (.ofHostname g.hostname) g.configuration := by
  unfold configuration
  dsimp only
  refine .trans ?_ (Configuration.changes_foldl_ensureVrf _ _)
  refine .trans ?_ (Configuration.changes_ensureVrf _ _)
  split
  · exact Configuration.changes_initInfrastructure _
  · exact .refl

/-- The VRFs of the gateway's device are those that the gateway names. -/
theorem contains_configuration_iff (name : String) :
    g.configuration.vrfs.contains name ↔
      name = "default" ∨ name = g.tunnelVrf ∨ name ∈ g.vrfs ∨
        name = "vrf-vpn-underlay" ∧ g.initInfrastructure := by
  have hnew : (Configuration.ofHostname g.hostname).vrfs.contains name = (name == "default") := by
    rw [Configuration.ofHostname, Configuration.ensureVrf, Configuration.contains_updateVrf]
    exact Bool.or_false _
  unfold configuration
  dsimp only
  rw [Configuration.contains_foldl_ensureVrf_iff, Configuration.ensureVrf,
    Configuration.contains_updateVrf]
  cases g.initInfrastructure with
  | false =>
      simp only [Bool.false_eq_true, if_false, hnew, Bool.or_eq_true, beq_iff_eq, and_false,
        or_false]
      tauto
  | true =>
      have hinit : (Configuration.ofHostname g.hostname).initInfrastructure.vrfs.contains name =
          (name == "vrf-vpn-underlay" || name == "default") := by
        rw [← hnew]
        exact Configuration.contains_updateVrf _ Placement.defaultUnderlayVrf id name
      simp only [if_true, hinit, Bool.or_eq_true, beq_iff_eq, and_true]
      tauto

/-- A run leaves the names of VRFs as they are. -/
theorem contains_runSlots (slots : List (Except ConnectionError Connection)) (name : String) :
    (g.runSlots slots).configuration.vrfs.contains name =
      g.configuration.vrfs.contains name := by
  obtain ⟨parts, -, hfinal⟩ := g.exists_parts_of_applied slots
  have htunnel : g.configuration.vrfs.contains g.tunnelVrf :=
    NameMap.contains_of_get? g.get?_vrfs_configuration
  rw [hfinal, Configuration.vrfs_mergeAll g.get?_vrfs_configuration]
  exact Configuration.contains_updateVrf_of_contains htunnel
    (fun _ => ((Vrf.ofName g.tunnelVrf).addBgpPeers _).addStaticRoutes _) name

/-- Where nothing is applied, the device stays as it is. -/
theorem configuration_runSlots_of_none {slots : List (Except ConnectionError Connection)}
    (h : ∀ slot ∈ slots, g.configuration.verdict g.placement slot ≠ .applied) :
    (g.runSlots slots).configuration = g.configuration := by
  obtain ⟨parts, hparts, hfinal⟩ := g.exists_parts_of_applied slots
  have hnone : (g.runSlots slots).appliedAmong slots = [] := by
    rw [appliedAmong_runSlots, List.filter_eq_nil_iff.mpr]
    · rfl
    · intro slot hslot
      simpa using h slot hslot
  rw [hnone] at hparts
  obtain rfl := List.forall₂_nil_left_iff.mp hparts
  exact hfinal

/-- Whether the gateway names no VRF for the outside addresses of connections. -/
def LacksUnderlay (g : Gateway) : Prop :=
  g.initInfrastructure = false ∧ g.tunnelVrf ≠ "vrf-vpn-underlay" ∧ "vrf-vpn-underlay" ∉ g.vrfs

instance : Decidable g.LacksUnderlay := inferInstanceAs (Decidable (_ ∧ _ ∧ _))

theorem hasVrfs_iff : g.configuration.HasVrfs g.placement ↔ ¬ g.LacksUnderlay := by
  have htunnel : g.configuration.vrfs.contains g.tunnelVrf :=
    NameMap.contains_of_get? g.get?_vrfs_configuration
  have hunderlay := g.contains_configuration_iff "vrf-vpn-underlay"
  simp only [String.reduceEq, false_or, true_and] at hunderlay
  change g.configuration.vrfs.contains "vrf-vpn-underlay" ∧
    g.configuration.vrfs.contains g.tunnelVrf ↔ _
  rw [and_iff_left htunnel, hunderlay, LacksUnderlay, ← Bool.not_eq_true]
  tauto

theorem missingVrf?_configuration (h : g.LacksUnderlay) :
    g.configuration.missingVrf? g.placement =
      some (.redFlag ("Underlay VRF does not exist on gateway " ++ g.hostname)) := by
  have hunderlay : g.configuration.vrfs.contains g.placement.underlayVrf = false := by
    by_contra hcontains
    apply g.hasVrfs_iff.mp _ h
    exact ⟨by simpa using hcontains, NameMap.contains_of_get? g.get?_vrfs_configuration⟩
  rw [Configuration.missingVrf?, hunderlay,
    (Configuration.Changes.grows g.changes_configuration).hostname]
  rfl

section Report

variable (slots : List (Except ConnectionError Connection))

theorem warnings_runSlots : (g.runSlots slots).warnings =
    (slots.filter (·.isOk)).flatMap fun _ => (g.configuration.missingVrf? g.placement).toList :=
  Report.warnings_addFrom 0 slots

theorem verdict_of_lacksUnderlay (h : g.LacksUnderlay) (c : Connection) :
    g.configuration.verdict g.placement (.ok c) = .skipped :=
  Configuration.verdict_eq_skipped_iff.mpr ⟨rfl, fun hvrfs => g.hasVrfs_iff.mp hvrfs h⟩

theorem exists_skipped_outcome (h : g.LacksUnderlay) {i : Nat} {c : Connection}
    (hc : slots[i]? = some (.ok c)) :
    ∃ label, (g.runSlots slots).outcomes[i]? = some (label, .skipped) := by
  have hi := congrArg (·[i]?) (g.map_snd_outcomes_of_slots slots)
  simp only [List.getElem?_map, hc, Option.map_some, g.verdict_of_lacksUnderlay h] at hi
  obtain ⟨⟨label, outcome⟩, hget, rfl⟩ := Option.map_eq_some_iff.mp hi
  exact ⟨label, hget⟩

theorem configuration_runSlots_of_lacksUnderlay (h : g.LacksUnderlay) :
    (g.runSlots slots).configuration = g.configuration := by
  apply g.configuration_runSlots_of_none
  intro slot _
  cases slot with
  | error e => exact nofun
  | ok c => simp [g.verdict_of_lacksUnderlay h]

theorem ne_skipped_of_mem_outcomes (h : ¬ g.LacksUnderlay) {outcome : String × Outcome}
    (hmem : outcome ∈ (g.runSlots slots).outcomes) : outcome.2 ≠ .skipped := by
  intro hskipped
  have hmem := List.mem_map_of_mem (f := Prod.snd) hmem
  rw [g.map_snd_outcomes_of_slots slots, hskipped] at hmem
  obtain ⟨slot, -, hslot⟩ := List.mem_map.mp hmem
  exact (Configuration.verdict_eq_skipped_iff.mp hslot).2 (g.hasVrfs_iff.mpr h)

/-- A run changes the device as everything does, so its VRFs keep their names. -/
theorem sound_runSlots : (g.runSlots slots).configuration.Sound := by
  obtain ⟨parts, -, hfinal⟩ := g.exists_parts_of_applied slots
  rw [hfinal]
  have hchanges := g.changes_configuration.trans
    (Configuration.changes_mergeAll g.configuration g.tunnelVrf parts)
  exact Configuration.Changes.sound hchanges (Configuration.sound_ofHostname g.hostname)

end Report

/-- A run skips all of its connections or none. Where the gateway lacks the VRF of outside
addresses, every record that is a connection is skipped, whatever its tokens, with one
warning each, and the device stays as the gateway describes it. Elsewhere no record is
skipped and nothing is warned of. In both cases the final device has the VRFs that the
gateway names, each under its own name. -/
theorem run_skips_all_or_none (g : Gateway) (fallback : Salt) (text : String)
    (slots : List (Except ConnectionError Connection))
    (h : Connection.ofText? (g.saltOr fallback) text = some slots) :
    ∃ report, g.run fallback text = some report ∧
      (g.LacksUnderlay →
        (∀ (i : Nat) c, slots[i]? = some (.ok c) →
          ∃ label, report.outcomes[i]? = some (label, .skipped)) ∧
        report.configuration = g.configuration ∧
        report.warnings = List.replicate (slots.countP (·.isOk))
          (.redFlag ("Underlay VRF does not exist on gateway " ++ g.hostname))) ∧
      (¬ g.LacksUnderlay →
        (∀ outcome ∈ report.outcomes, outcome.2 ≠ .skipped) ∧ report.warnings = []) ∧
      (∀ name, report.configuration.vrfs.contains name ↔
        name = "default" ∨ name = g.tunnelVrf ∨ name ∈ g.vrfs ∨
          name = "vrf-vpn-underlay" ∧ g.initInfrastructure) ∧
      ∀ name v, report.configuration.vrfs.get? name = some v → v.name = name := by
  refine ⟨g.runSlots slots, run_of_slots h, ?lacks, ?names, ?contains, ?names_own⟩
  case lacks =>
    intro hlacks
    refine ⟨fun i c hc => g.exists_skipped_outcome slots hlacks hc,
      g.configuration_runSlots_of_lacksUnderlay slots hlacks, ?_⟩
    rw [g.warnings_runSlots, g.missingVrf?_configuration hlacks, List.countP_eq_length_filter,
      ← List.map_const']
    exact List.flatMap_pure_eq_map ..
  case names =>
    intro hnames
    refine ⟨fun outcome hmem => g.ne_skipped_of_mem_outcomes slots hnames hmem, ?_⟩
    rw [g.warnings_runSlots, Configuration.missingVrf?_eq_none_iff.mpr (g.hasVrfs_iff.mpr hnames)]
    simp
  case contains =>
    intro name
    rw [g.contains_runSlots, g.contains_configuration_iff]
  case names_own => exact (g.sound_runSlots slots).vrf_name

/-- A listing of two connections on a gateway without the VRF and on one that names it. -/
theorem run_skips_all_or_none_two_gateways :
    let bare : Gateway := ⟨"gw", "inner", false, [], none, none, some "s"⟩
    let named : Gateway := ⟨"gw", "inner", false, ["vrf-vpn-underlay"], none, none, some "s"⟩
    Connection.ofText? ⟨"s"⟩ sharedBlockListing = some sharedBlockSlots ∧
    bare.LacksUnderlay ∧
    (∃ report, bare.run ⟨""⟩ sharedBlockListing = some report ∧
      report.configuration = bare.configuration ∧
      report.warnings = List.replicate 2
        (.redFlag "Underlay VRF does not exist on gateway gw")) ∧
    ¬ named.LacksUnderlay ∧
    ∃ report, named.run ⟨""⟩ sharedBlockListing = some report ∧ report.warnings = [] := by
  intro bare named
  have h := ofText?_sharedBlockListing ⟨"s"⟩
  have hbare : bare.LacksUnderlay := by decide
  have hnamed : ¬ named.LacksUnderlay := by decide
  obtain ⟨report, hrun, hskips, -⟩ :=
    bare.run_skips_all_or_none ⟨""⟩ sharedBlockListing sharedBlockSlots h
  obtain ⟨report', hrun', -, hnone, -⟩ :=
    named.run_skips_all_or_none ⟨""⟩ sharedBlockListing sharedBlockSlots h
  obtain ⟨-, hconfiguration, hwarnings⟩ := hskips hbare
  exact ⟨h, hbare, ⟨report, hrun, hconfiguration, hwarnings⟩, hnamed, report', hrun',
    (hnone hnamed).2⟩

end Gateway

end SiteVpn
