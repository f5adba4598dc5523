import SiteVpn.Proofs.DocumentValue
import SiteVpn.Proofs.Isolation

/-!
# What a run applies

The connections that a run applies are those whose records it reports as applied, in the
order of the records. Their parts are all that is merged into the gateway's device, whose
tunnel VRF has neither neighbours nor routes before.
-/

namespace SiteVpn

/-- The connections among the records of a report that it has as applied. -/
def Report.appliedAmong (r : Report) (slots : List (Except ConnectionError Connection)) :
    List Connection :=
  (slots.zip (r.outcomes.map (·.2))).filterMap fun e =>
    if e.2 = .applied then e.1.toOption else none

/-- What holds of the results of steps that succeed. -/
theorem forall₂_filterMap_toOption {ε α β : Type} {R : α → β → Prop} {xs : List (Except ε α)}
    {ys : List β} (h : List.Forall₂ (fun x y => ∃ a, x = .ok a ∧ R a y) xs ys) :
    List.Forall₂ R (xs.filterMap Except.toOption) ys := by
  induction h with
  | nil => exact .nil
  | cons h _ ih =>
      obtain ⟨a, rfl, hR⟩ := h
      exact .cons hR ih

namespace Connection

variable {c : Connection} {p : Placement} {a : Artifacts}

/-- The tunnels that get a neighbour. -/
def bgpTunnels (c : Connection) : List Tunnel := if c.isBgp then c.tunnels else []

theorem bgpPeers_synthesizeFrom {n : Nat} {ts : List Tunnel}
    (h : (c.synthesizeFrom p n ts).value = .ok a) :
    a.bgpPeers = if c.isBgp then ts.map (·.bgpPeer p) else [] := by
  induction ts generalizing n a with
  | nil =>
      obtain rfl : Artifacts.empty = a := Except.ok.inj h
      split <;> rfl
  | cons t ts ih =>
      obtain ⟨e, rest, hr, rfl⟩ := synthesizeFrom_cons_eq_ok h
      change (e.parts c p).bgpPeers ++ rest.bgpPeers = _
      rw [ih hr]
      change (if c.isBgp then [t.bgpPeer p] else []) ++ _ = _
      split <;> rfl

/-- Each tunnel of a connection that uses BGP has its neighbour. -/
theorem bgpPeers_synthesize (h : (c.synthesize p).value = .ok a) :
    a.bgpPeers = c.bgpTunnels.map (·.bgpPeer p) := by
  rw [bgpPeers_synthesizeFrom h, bgpTunnels]
  split <;> rfl

theorem flatMap_bgpPeers {cs : List Connection} {parts : List Artifacts}
    (h : List.Forall₂ (fun c a => (c.synthesize p).value = .ok a) cs parts) :
    parts.flatMap (·.bgpPeers) = (cs.flatMap bgpTunnels).map (·.bgpPeer p) := by
  induction h with
  | nil => rfl
  | cons ha _ ih =>
      rw [List.flatMap_cons, List.flatMap_cons, List.map_append, ih, bgpPeers_synthesize ha]

end Connection

namespace ConnectionRecord

/-- The text of a listing of records. -/
def listingText (entries : List Json) : String :=
  String.ofList (Json.object [(listingName, .array entries)]).compact

/-- A listing has its records, unless they are nested too deep. -/
theorem lists_listingText {entries : List Json} (hplain : ∀ entry ∈ entries, entry.IsPlain)
    (hdepth : ∀ entry ∈ entries, entry.depth ≤ 125) : Lists (listingText entries) entries := by
  have hentries : (Json.array entries).depth ≤ 126 :=
    Nat.succ_le_succ (Json.depthItems_le_iff.mpr hdepth)
  have hdocument : (Json.object [(listingName, .array entries)]).IsDocument := by
    rw [Json.isDocument_iff, Json.isPlain_object_singleton, Json.depth_object_singleton]
    exact ⟨Json.itemsPlain_iff.mpr hplain, Nat.succ_le_succ hentries⟩
  refine ⟨[(listingName, .array entries)], ?_, List.lookup_cons_self⟩
  rw [listingText, String.toList_ofList]
  exact hdocument.readDocument_compact

end ConnectionRecord

namespace Connection

/-- The connections of the records of a listing, each on its own. -/
def slotsOf (salt : Salt) (entries : List Json) : List (Except ConnectionError Connection) :=
  (entries.map ConnectionRecord.ofEntry).map (ofSlot salt)

theorem ofText?_of_lists {salt : Salt} {text : String} {entries : List Json}
    (h : ConnectionRecord.Lists text entries) :
    ofText? salt text = some (slotsOf salt entries) := by
  rw [ofText?, ConnectionRecord.ofText?_of_lists h]
  rfl

end Connection

namespace Configuration

/-- What the VRF of a name is, or would be, is the same when VRFs are created. -/
theorem vrfOrNew_ensureVrf (d : Configuration) (name name' : String) :
    (d.ensureVrf name').vrfOrNew name = d.vrfOrNew name := by
  unfold vrfOrNew ensureVrf updateVrf
  dsimp only
  rw [NameMap.get?_insert]
  split
  · next h => rw [h]; rfl
  · rfl

theorem vrfOrNew_foldl_ensureVrf (d : Configuration) (names : List String) (name : String) :
    (names.foldl ensureVrf d).vrfOrNew name = d.vrfOrNew name := by
  induction names generalizing d with
  | nil => rfl
  | cons name' names ih => rw [List.foldl_cons, ih, vrfOrNew_ensureVrf]

theorem contains_foldl_ensureVrf {d : Configuration} {name : String}
    (h : d.vrfs.contains name) (names : List String) :
    (names.foldl ensureVrf d).vrfs.contains name := by
  induction names generalizing d with
  | nil => exact h
  | cons name' names ih =>
      apply ih
      rw [ensureVrf, contains_updateVrf, h, Bool.or_true]

end Configuration

namespace Gateway

variable {g : Gateway}

/-- The VRFs of a gateway have neither neighbours nor routes before a run. -/
theorem vrfOrNew_configuration (g : Gateway) (name : String) :
    g.configuration.vrfOrNew name = .ofName name := by
  unfold configuration
  dsimp only
  rw [Configuration.vrfOrNew_foldl_ensureVrf, Configuration.vrfOrNew_ensureVrf]
  have hnew : (Configuration.ofHostname g.hostname).vrfOrNew name = .ofName name :=
    Configuration.vrfOrNew_ensureVrf ⟨g.hostname, ∅, ∅, ∅, ∅, ∅, ∅, ∅, ∅, ∅⟩ name _
  split
  · exact (Configuration.vrfOrNew_ensureVrf _ name _).trans hnew
  · exact hnew

theorem get?_vrfs_configuration (g : Gateway) :
    g.configuration.vrfs.get? g.tunnelVrf = some (.ofName g.tunnelVrf) := by
  rw [← g.vrfOrNew_configuration]
  apply Configuration.get?_vrfs_of_contains
  apply Configuration.contains_foldl_ensureVrf
  rw [Configuration.ensureVrf, Configuration.contains_updateVrf, beq_self_eq_true, Bool.true_or]

theorem run_of_slots {fallback : Salt} {text : String}
    {slots : List (Except ConnectionError Connection)}
    (h : Connection.ofText? (g.saltOr fallback) text = some slots) :
    g.run fallback text = some (g.runSlots slots) := by
  rw [run, h]
  rfl

variable (g) (slots : List (Except ConnectionError Connection))

theorem map_snd_outcomes_of_slots :
    (g.runSlots slots).outcomes.map (·.2) = slots.map (g.configuration.verdict g.placement) :=
  Report.map_snd_outcomes_addFrom 0 slots

/-- The applied connections are those that the gateway itself would have applied. -/
theorem appliedAmong_runSlots :
    (g.runSlots slots).appliedAmong slots =
      (slots.filter fun slot => g.configuration.verdict g.placement slot = .applied).filterMap
        Except.toOption := by
  rw [Report.appliedAmong, map_snd_outcomes_of_slots, ← List.map_prod_left_eq_zip,
    List.filterMap_map, List.filterMap_filter]
  simp

/-- The parts of the applied connections are all that is merged into the device. -/
theorem exists_parts_of_applied :
    ∃ parts, List.Forall₂ (fun c a => (c.synthesize g.placement).value = .ok a)
        ((g.runSlots slots).appliedAmong slots) parts ∧
      (g.runSlots slots).configuration = g.configuration.mergeAll g.tunnelVrf parts := by
  obtain ⟨parts, hparts, hfinal⟩ := Report.exists_parts_of_addFrom
    (r := .start g.configuration) (p := g.placement) 0 slots
  refine ⟨parts, ?_, hfinal⟩
  rw [appliedAmong_runSlots]
  exact forall₂_filterMap_toOption hparts

end Gateway

section OneTunnel

/-! ### Connections with one tunnel

Records of which only the name and the block inside the tunnel differ, for runs on listings
that are written out.
-/

/-- The document of a connection with one tunnel. -/
def oneTunnelDocument : String :=
  "<vpn_connection><ipsec_tunnel><customer_gateway><tunnel_outside_address>" ++
    "<ip_address>192.0.2.1</ip_address>" ++
    "</tunnel_outside_address></customer_gateway></ipsec_tunnel></vpn_connection>"

/-- The record of a connection with that document. -/
def oneTunnelRecord (id block : String) : Json :=
  .array
    [.string id, .string "cgw", .null, .string "vgw", .string oneTunnelDocument, .array [],
      .array [],
      .array [.array [.array
        [.array [], .array [], .array [], .array [], .array [], .array [], .array [],
          .string "192.0.2.2", .string block]]]]

/-- Such records are read back from the text of a listing. -/
theorem lists_oneTunnelRecords (tunnels : List (String × String)) :
    let entries := tunnels.map fun t => oneTunnelRecord t.1 t.2
    ConnectionRecord.Lists (ConnectionRecord.listingText entries) entries := by
  apply ConnectionRecord.lists_listingText
  · intro entry hentry
    obtain ⟨t, -, rfl⟩ := List.mem_map.mp hentry
    simp [oneTunnelRecord, Json.IsPlain, Json.ItemsPlain]
  · intro entry hentry
    obtain ⟨t, -, rfl⟩ := List.mem_map.mp hentry
    simp [oneTunnelRecord, Json.depth, Json.depthItems]

/-- The options of its tunnel. -/
def oneTunnelOptions (block : String) : TunnelOptions :=
  ⟨[], [], [], [], [], [], [], some "192.0.2.2", some block, none, none, none⟩

/-- The element of its tunnel. -/
def oneTunnelElement : TunnelElement :=
  { (default : TunnelElement) with customerOutsideAddress := some "192.0.2.1" }

/-- The block inside a tunnel, by its last byte. -/
def linkBlock (x : UInt8) : Cidr := .of ⟨169, 254, 10, x⟩ ⟨30, by decide⟩

/-- The tunnel around a block. -/
def oneTunnel (block : Cidr) : Tunnel :=
  { (default : Tunnel) with
    customerOutside := ⟨192, 0, 2, 1⟩
    customerInside := block.ends.2
    gatewayOutside := ⟨192, 0, 2, 2⟩
    gatewayInside := block.ends.1
    insideLength := block.length
    ikeLifetime := Tunnel.defaultIkeLifetime
    ipsecLifetime := Tunnel.defaultIpsecLifetime }

/-- The connection of the record. -/
def oneTunnelConnection (id : String) (block : Cidr) : Connection :=
  { (default : Connection) with
    id
    customerGateway := "cgw"
    gatewayType := .vpn
    gateway := "vgw"
    isBgp := true
    tunnels := [oneTunnel block] }

theorem read_oneTunnelDocument (id : String) :
    GatewayDocument.read id oneTunnelDocument = .ok ⟨true, [oneTunnelElement]⟩ := by
  have hread : (Xml.Document.read oneTunnelDocument.toList).bind GatewayDocument.ofDocument? =
      some ⟨true, [oneTunnelElement]⟩ := by
    have htext : oneTunnelDocument =
        String.ofList _ ++ String.ofList _ ++ String.ofList _ := rfl
    rw [htext, ← String.ofList_append, ← String.ofList_append, String.toList_ofList]
    decide +kernel
  obtain ⟨document, hdocument, helements⟩ := Option.bind_eq_some_iff.mp hread
  rw [GatewayDocument.read, hdocument]
  dsimp only
  rw [helements]

theorem ofSpec_oneTunnel (id : String) (salt : Salt) {text : String} {block : Cidr}
    (h : Cidr.read text.toList = .ok block) :
    Tunnel.ofSpec id salt ⟨0, oneTunnelElement, oneTunnelOptions text⟩ =
      .ok (oneTunnel block) := by
  have hblock : Tunnel.insideBlock id ⟨0, oneTunnelElement, oneTunnelOptions text⟩ =
      .ok block := by
    simp [Tunnel.insideBlock, oneTunnelOptions, Tunnel.readBlock, h]
  unfold Tunnel.ofSpec
  dsimp only
  rw [hblock]
  rfl

theorem ofSlot_oneTunnelRecord (salt : Salt) (id : String) {text : String} {block : Cidr}
    (h : Cidr.read text.toList = .ok block) :
    Connection.ofSlot salt (ConnectionRecord.ofEntry (oneTunnelRecord id text)) =
      .ok (oneTunnelConnection id block) := by
  have hrecord : ConnectionRecord.ofEntry (oneTunnelRecord id text) = .ok
      ⟨some id, some "cgw", none, some "vgw", some oneTunnelDocument, some [], some [],
        some ⟨[oneTunnelOptions text], false⟩⟩ := rfl
  have hpair : TunnelSpec.pair [oneTunnelElement] [oneTunnelOptions text] =
      .ok [⟨0, oneTunnelElement, oneTunnelOptions text⟩] := rfl
  have htunnels : [⟨0, oneTunnelElement, oneTunnelOptions text⟩].mapM (Tunnel.ofSpec id salt) =
      .ok [oneTunnel block] := by
    apply mapM_eq_ok.mpr
    rw [List.map_singleton, ofSpec_oneTunnel id salt h]
    rfl
  rw [hrecord]
  iterate 7 apply bind_eq_ok.mpr ⟨_, rfl, ?_⟩
  apply bind_eq_ok.mpr ⟨_, read_oneTunnelDocument id, ?_⟩
  apply bind_eq_ok.mpr ⟨_, hpair, ?_⟩
  apply bind_eq_ok.mpr ⟨_, htunnels, ?_⟩
  exact bind_eq_ok.mpr ⟨[], rfl, rfl⟩

end OneTunnel

end SiteVpn
