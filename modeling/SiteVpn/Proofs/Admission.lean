import SiteVpn.Proofs.Fault

/-!
# Which records are admitted

A record makes a connection, or nothing. It has to name what is needed, and its document has to
have as many tunnels as its options. Then the tunnels of the connection are made of the elements
and the options at the same place, and its routes and its telemetry keep their order. Of all that
is wrong with a record the first fault is reported.

## Implementation notes

The faults of a record are a list again. A later part of it, as that of the tunnels, is about
fields that have to be there and a document that can be read. Where they are not, or it cannot,
there was a fault already, and that part is left out.
-/

namespace SiteVpn

namespace TunnelSpec

/-- The elements and options that have each other, by their place from an index on. -/
def pairedFrom (index : Nat) (elements : List TunnelElement) (options : List TunnelOptions) :
    List TunnelSpec :=
  ((elements.zip options).zipIdx index).map fun p => ⟨p.2, p.1.1, p.1.2⟩

/-- The elements and options that have each other. -/
def paired (elements : List TunnelElement) (options : List TunnelOptions) : List TunnelSpec :=
  pairedFrom 0 elements options

/-- What is wrong with a number of elements and a number of options. -/
def pairingFaults (elements options : Nat) : List ConnectionError :=
  if options < elements then [.elementUnpaired options options]
  else if elements < options then [.optionsUnpaired elements options]
  else []

variable {es : List TunnelElement} {os : List TunnelOptions}

theorem getElem?_paired_eq_some_iff {i : Nat} {s : TunnelSpec} :
    (paired es os)[i]? = some s ↔
      ∃ e o, es[i]? = some e ∧ os[i]? = some o ∧ s = ⟨i, e, o⟩ := by
  simp only [paired, pairedFrom, List.getElem?_map, List.getElem?_zipIdx, Option.map_map,
    Option.map_eq_some_iff, List.getElem?_zip_eq_some, Nat.zero_add, Function.comp_apply]
  constructor
  · rintro ⟨⟨e, o⟩, ⟨he, ho⟩, rfl⟩
    exact ⟨e, o, he, ho, rfl⟩
  · rintro ⟨e, o, he, ho, rfl⟩
    exact ⟨(e, o), ⟨he, ho⟩, rfl⟩

theorem length_paired (h : es.length = os.length) : (paired es os).length = es.length := by
  rw [paired, pairedFrom, List.length_map, List.length_zipIdx, List.length_zip, h, Nat.min_self]

/-- Where the lists differ in length, the first index without a partner decides the error: it is
the length of the shorter list. -/
theorem pairFrom_eq (n m i : Nat) (es : List TunnelElement) (os : List TunnelOptions) :
    pairFrom n m i es os =
      if os.length < es.length then .error (.elementUnpaired (i + os.length) m)
      else if es.length < os.length then .error (.optionsUnpaired n m)
      else .ok (pairedFrom i es os) := by
  induction es generalizing i os with
  | nil => cases os <;> rfl
  | cons e es ih =>
      cases os with
      | nil => rfl
      | cons o os =>
          simp only [pairFrom, ih, List.length_cons, Nat.add_lt_add_iff_right]
          have hindex : i + 1 + os.length = i + (os.length + 1) := by omega
          split
          · rw [hindex]; rfl
          · split <;> rfl

theorem failure?_pair (es : List TunnelElement) (os : List TunnelOptions) :
    failure? (pair es os) = (pairingFaults es.length os.length).head? := by
  rw [pair, pairFrom_eq, Nat.zero_add, pairingFaults]
  split
  · rfl
  · split <;> rfl

theorem pairingFaults_eq_nil_iff {elements options : Nat} :
    pairingFaults elements options = [] ↔ elements = options := by
  unfold pairingFaults
  split_ifs <;> simp <;> omega

/-- Elements and options are paired if neither are left over. -/
theorem pair_eq_ok_iff {specs : List TunnelSpec} :
    pair es os = .ok specs ↔ es.length = os.length ∧ specs = paired es os := by
  rw [pair, pairFrom_eq, paired]
  split
  case isTrue h => simp [Nat.ne_of_gt h]
  case isFalse h =>
    split
    case isTrue h => simp [Nat.ne_of_lt h]
    case isFalse h' =>
      have hlength : es.length = os.length := by omega
      simp [hlength, eq_comm]

end TunnelSpec

namespace ConnectionRecord

/-- The fault of a field that is needed and not given. -/
def missing {α : Type} (connection : Option String) (field : RecordField) :
    Option α → List ConnectionError
  | none => [.missingField connection field]
  | some _ => []

/-- What is wrong with the gateways on the provider's side, of which there is to be one. -/
def gatewayFaults (id : String) : Option String → Option String → List ConnectionError
  | none, none => [.missingField (some id) .gateway]
  | some _, some _ => [.gatewayConflict id]
  | _, _ => []

/-- What is wrong with the network of a route. -/
def routeFaults (id : String) (route : RouteRecord) : List ConnectionError :=
  TunnelSpec.unreadable id .routeDestination Cidr.read .block (some route.destination)

/-- What is wrong with the tunnels of a document, with some options. -/
def tunnelFaults (id : String) (document : GatewayDocument) (options : ConnectionOptions) :
    List ConnectionError :=
  TunnelSpec.pairingFaults document.tunnels.length options.tunnels.length ++
    (TunnelSpec.paired document.tunnels options.tunnels).flatMap (·.faults id)

/-- What is wrong with the content of a record that has all its fields. -/
def contentFaults (id : String) :
    Option String → Option (List RouteRecord) → Option ConnectionOptions → List ConnectionError
  | some text, some routes, some options =>
    match GatewayDocument.read id text with
    | .error e => [e]
    | .ok document => tunnelFaults id document options ++ routes.flatMap (routeFaults id)
  | _, _, _ => []

/-- What is wrong with a record of a name. -/
def namedFaults (r : ConnectionRecord) (id : String) : List ConnectionError :=
  missing (some id) .customerGateway r.customerGateway ++
    gatewayFaults id r.transitGateway r.vpnGateway ++
    missing (some id) .document r.document ++
    missing (some id) .routes r.routes ++
    missing (some id) .telemetry r.telemetry ++
    missing (some id) .options r.options ++
    contentFaults id r.document r.routes r.options

/-- What is wrong with a record, in the order in which it is found. -/
def faults (r : ConnectionRecord) : List ConnectionError :=
  missing none .id r.id ++ r.id.elim [] r.namedFaults

/-- A record of which a connection can be made. -/
def IsAcceptable (salt : Salt) (r : ConnectionRecord) : Prop :=
  ∃ id text routes options document,
    r.id = some id ∧ r.customerGateway.isSome ∧
      (r.transitGateway.isSome ↔ ¬ r.vpnGateway.isSome) ∧
      r.document = some text ∧ r.routes = some routes ∧ r.telemetry.isSome ∧
      r.options = some options ∧ GatewayDocument.read id text = .ok document ∧
      document.tunnels.length = options.tunnels.length ∧
      (∀ (i : Nat) e o, document.tunnels[i]? = some e → options.tunnels[i]? = some o →
        ∃ t, Tunnel.ofSpec id salt ⟨i, e, o⟩ = .ok t) ∧
      ∀ route ∈ routes, ∃ block, Cidr.read route.destination.toList = .ok block

/-- What a record says of a connection. -/
structure Describes (salt : Salt) (r : ConnectionRecord) (c : Connection) : Prop where
  id : r.id = some c.id
  customerGateway : r.customerGateway = some c.customerGateway
  /-- The kind and the name are those of the gateway that is given. -/
  gateway :
    (c.gatewayType = .transit ∧ r.transitGateway = some c.gateway ∧ r.vpnGateway = none) ∨
      (c.gatewayType = .vpn ∧ r.transitGateway = none ∧ r.vpnGateway = some c.gateway)
  /-- The tunnels are those of the elements and options at their place. -/
  tunnels : ∃ text options document,
    r.document = some text ∧ r.options = some options ∧
      GatewayDocument.read c.id text = .ok document ∧ c.isBgp = document.isBgp ∧
      c.staticRoutesOnly = options.staticRoutesOnly ∧
      c.tunnels.length = document.tunnels.length ∧ c.tunnels.length = options.tunnels.length ∧
      ∀ (i : Nat) e o, document.tunnels[i]? = some e → options.tunnels[i]? = some o →
        ∃ t, c.tunnels[i]? = some t ∧ Tunnel.ofSpec c.id salt ⟨i, e, o⟩ = .ok t
  routes : ∃ routes, r.routes = some routes ∧ c.routes.length = routes.length ∧
    ∀ (i : Nat) route, routes[i]? = some route →
      ∃ block, c.routes[i]? = some block ∧ Cidr.read route.destination.toList = .ok block
  telemetry : r.telemetry = some c.telemetry

end ConnectionRecord

namespace Connection

open ConnectionRecord (missing gatewayFaults routeFaults tunnelFaults contentFaults Describes)

section Steps

variable {α : Type} (id : String)

theorem require_eq_ok_iff {connection : Option String} {field : RecordField} {o : Option α}
    {a : α} : require connection field o = .ok a ↔ o = some a := by
  cases o <;> simp [require]

theorem failure?_require (connection : Option String) (field : RecordField) (o : Option α) :
    failure? (require connection field o) = (missing connection field o).head? := by
  cases o <;> rfl

theorem failure?_providerGateway (transit vpn : Option String) :
    failure? (providerGateway id transit vpn) = (gatewayFaults id transit vpn).head? := by
  cases transit <;> cases vpn <;> rfl

theorem providerGateway_eq_ok_iff {transit vpn : Option String} {type : GatewayType}
    {gateway : String} :
    providerGateway id transit vpn = .ok (type, gateway) ↔
      (type = .transit ∧ transit = some gateway ∧ vpn = none) ∨
        (type = .vpn ∧ transit = none ∧ vpn = some gateway) := by
  cases transit <;> cases vpn <;> simp [providerGateway, eq_comm]

theorem failure?_routeNetwork (route : RouteRecord) :
    failure? (routeNetwork id route) = (routeFaults id route).head? :=
  Tunnel.failure?_readBlock id .routeDestination route.destination

theorem routeNetwork_eq_ok_iff {route : RouteRecord} {block : Cidr} :
    routeNetwork id route = .ok block ↔ Cidr.read route.destination.toList = .ok block := by
  unfold routeNetwork Tunnel.readBlock
  cases Cidr.read route.destination.toList <;> simp

end Steps

theorem failure?_ofRecord (salt : Salt) (r : ConnectionRecord) :
    failure? (ofRecord salt r) = r.faults.head? := by
  unfold ConnectionRecord.faults
  rw [ofRecord, List.head?_append, ← failure?_require]
  apply failure?_bind_of_ok
  intro id hid
  rw [require_eq_ok_iff.mp hid, Option.elim_some]
  unfold ConnectionRecord.namedFaults
  simp only [List.head?_append, Option.or_assoc]
  rw [← failure?_require]
  apply failure?_bind
  intro customerGateway
  rw [← failure?_providerGateway]
  apply failure?_bind
  intro gateway
  rw [← failure?_require]
  apply failure?_bind_of_ok
  intro text htext
  rw [← failure?_require]
  apply failure?_bind_of_ok
  intro routes hroutes
  rw [← failure?_require]
  apply failure?_bind
  intro telemetry
  rw [← failure?_require]
  apply failure?_bind_of_ok
  intro options hoptions
  rw [require_eq_ok_iff.mp htext, require_eq_ok_iff.mp hroutes, require_eq_ok_iff.mp hoptions]
  dsimp only [contentFaults]
  -- from here on the document is read, which ends the work or gives the elements
  cases GatewayDocument.read id text with
  | error e => rfl
  | ok document =>
      unfold tunnelFaults
      simp only [List.head?_append, Option.or_assoc]
      change failure? (TunnelSpec.pair document.tunnels options.tunnels >>= _) = _
      rw [← TunnelSpec.failure?_pair]
      apply failure?_bind_of_ok
      intro specs hspecs
      rw [(TunnelSpec.pair_eq_ok_iff.mp hspecs).2,
        ← failure?_mapM_flatMap fun s => Tunnel.failure?_ofSpec id s salt]
      apply failure?_bind
      intro tunnels
      rw [failure?_bind (o := none) fun _ => rfl, Option.or_none,
        failure?_mapM_flatMap (failure?_routeNetwork id)]

variable {salt : Salt} {r : ConnectionRecord}

/-- The tunnels of elements and options, one for both of each place. -/
theorem tunnels_eq_ok_iff {id : String} {es : List TunnelElement} {os : List TunnelOptions}
    {tunnels : List Tunnel} :
    (TunnelSpec.pair es os >>= List.mapM (Tunnel.ofSpec id salt)) = .ok tunnels ↔
      tunnels.length = es.length ∧ tunnels.length = os.length ∧
        ∀ (i : Nat) e o, es[i]? = some e → os[i]? = some o →
          ∃ t, tunnels[i]? = some t ∧ Tunnel.ofSpec id salt ⟨i, e, o⟩ = .ok t := by
  rw [bind_eq_ok]
  constructor
  · rintro ⟨specs, hspecs, h⟩
    obtain ⟨hlength, rfl⟩ := TunnelSpec.pair_eq_ok_iff.mp hspecs
    obtain ⟨htunnels, h⟩ := mapM_eq_ok_iff_getElem?.mp h
    rw [TunnelSpec.length_paired hlength] at htunnels
    refine ⟨htunnels, htunnels.trans hlength, ?_⟩
    intro i e o he ho
    exact h i _ (TunnelSpec.getElem?_paired_eq_some_iff.mpr ⟨e, o, he, ho, rfl⟩)
  · rintro ⟨hes, hos, h⟩
    have hlength : es.length = os.length := hes.symm.trans hos
    refine ⟨_, TunnelSpec.pair_eq_ok_iff.mpr ⟨hlength, rfl⟩, ?_⟩
    rw [mapM_eq_ok_iff_getElem?, TunnelSpec.length_paired hlength]
    refine ⟨hes, ?_⟩
    intro i s hs
    obtain ⟨e, o, he, ho, rfl⟩ := TunnelSpec.getElem?_paired_eq_some_iff.mp hs
    exact h i e o he ho

theorem networks_eq_ok_iff {id : String} {routes : List RouteRecord} {blocks : List Cidr} :
    routes.mapM (routeNetwork id) = .ok blocks ↔ blocks.length = routes.length ∧
      ∀ (i : Nat) route, routes[i]? = some route →
        ∃ block, blocks[i]? = some block ∧ Cidr.read route.destination.toList = .ok block := by
  simp only [mapM_eq_ok_iff_getElem?, routeNetwork_eq_ok_iff]

/-- A connection is made of a record if it is the one that the record describes. -/
theorem ofRecord_eq_ok_iff {c : Connection} : ofRecord salt r = .ok c ↔ Describes salt r c := by
  constructor
  · intro h
    obtain ⟨id, hid, h⟩ := bind_eq_ok.mp h
    obtain ⟨customerGateway, hcustomer, h⟩ := bind_eq_ok.mp h
    obtain ⟨⟨gatewayType, gateway⟩, hgateway, h⟩ := bind_eq_ok.mp h
    obtain ⟨text, htext, h⟩ := bind_eq_ok.mp h
    obtain ⟨routes, hroutes, h⟩ := bind_eq_ok.mp h
    obtain ⟨telemetry, htelemetry, h⟩ := bind_eq_ok.mp h
    obtain ⟨options, hoptions, h⟩ := bind_eq_ok.mp h
    obtain ⟨document, hdocument, h⟩ := bind_eq_ok.mp h
    obtain ⟨specs, hspecs, h⟩ := bind_eq_ok.mp h
    obtain ⟨tunnels, htunnels, h⟩ := bind_eq_ok.mp h
    obtain ⟨networks, hnetworks, h⟩ := bind_eq_ok.mp h
    obtain rfl := Except.ok.inj h
    obtain ⟨hes, hos, hplaces⟩ :=
      tunnels_eq_ok_iff.mp (bind_eq_ok.mpr ⟨specs, hspecs, htunnels⟩)
    exact {
      id := require_eq_ok_iff.mp hid
      customerGateway := require_eq_ok_iff.mp hcustomer
      gateway := (providerGateway_eq_ok_iff id).mp hgateway
      tunnels := ⟨text, options, document, require_eq_ok_iff.mp htext,
        require_eq_ok_iff.mp hoptions, hdocument, rfl, rfl, hes, hos, hplaces⟩
      routes := ⟨routes, require_eq_ok_iff.mp hroutes, networks_eq_ok_iff.mp hnetworks⟩
      telemetry := require_eq_ok_iff.mp htelemetry }
  · intro h
    obtain ⟨text, options, document, htext, hoptions, hdocument, hbgp, hstatic, hplaces⟩ :=
      h.tunnels
    obtain ⟨routes, hroutes, hnetworks⟩ := h.routes
    obtain ⟨specs, hspecs, htunnels⟩ := bind_eq_ok.mp (tunnels_eq_ok_iff.mpr hplaces)
    refine bind_eq_ok.mpr ⟨_, require_eq_ok_iff.mpr h.id, ?_⟩
    refine bind_eq_ok.mpr ⟨_, require_eq_ok_iff.mpr h.customerGateway, ?_⟩
    refine bind_eq_ok.mpr ⟨_, (providerGateway_eq_ok_iff c.id).mpr h.gateway, ?_⟩
    refine bind_eq_ok.mpr ⟨_, require_eq_ok_iff.mpr htext, ?_⟩
    refine bind_eq_ok.mpr ⟨_, require_eq_ok_iff.mpr hroutes, ?_⟩
    refine bind_eq_ok.mpr ⟨_, require_eq_ok_iff.mpr h.telemetry, ?_⟩
    refine bind_eq_ok.mpr ⟨_, require_eq_ok_iff.mpr hoptions, ?_⟩
    refine bind_eq_ok.mpr ⟨_, hdocument, ?_⟩
    refine bind_eq_ok.mpr ⟨_, hspecs, ?_⟩
    refine bind_eq_ok.mpr ⟨_, htunnels, ?_⟩
    refine bind_eq_ok.mpr ⟨_, networks_eq_ok_iff.mpr hnetworks, ?_⟩
    rw [← hbgp, ← hstatic]
    rfl

end Connection

namespace ConnectionRecord

section NoFaults

variable (id : String)

theorem missing_eq_nil_iff {α : Type} {connection : Option String} {field : RecordField}
    {o : Option α} : missing connection field o = [] ↔ o.isSome := by
  cases o <;> simp [missing]

theorem gatewayFaults_eq_nil_iff {transit vpn : Option String} :
    gatewayFaults id transit vpn = [] ↔ (transit.isSome ↔ ¬ vpn.isSome) := by
  cases transit <;> cases vpn <;> simp [gatewayFaults]

theorem routeFaults_eq_nil_iff {route : RouteRecord} :
    routeFaults id route = [] ↔ ∃ block, Cidr.read route.destination.toList = .ok block := by
  rw [eq_nil_iff_of_failure? (Connection.failure?_routeNetwork id route)]
  simp only [Connection.routeNetwork_eq_ok_iff]

theorem tunnelFaults_eq_nil_iff (salt : Salt) {document : GatewayDocument}
    {options : ConnectionOptions} :
    tunnelFaults id document options = [] ↔
      document.tunnels.length = options.tunnels.length ∧
        ∀ (i : Nat) e o, document.tunnels[i]? = some e → options.tunnels[i]? = some o →
          ∃ t, Tunnel.ofSpec id salt ⟨i, e, o⟩ = .ok t := by
  rw [tunnelFaults, List.append_eq_nil_iff, TunnelSpec.pairingFaults_eq_nil_iff,
    List.flatMap_eq_nil_iff]
  apply and_congr_right
  intro _
  simp only [eq_nil_iff_of_failure? (Tunnel.failure?_ofSpec id _ salt)]
  constructor
  · intro h i e o he ho
    exact h _ (List.mem_of_getElem? (TunnelSpec.getElem?_paired_eq_some_iff.mpr
      ⟨e, o, he, ho, rfl⟩))
  · intro h s hs
    obtain ⟨i, hi⟩ := List.mem_iff_getElem?.mp hs
    obtain ⟨e, o, he, ho, rfl⟩ := TunnelSpec.getElem?_paired_eq_some_iff.mp hi
    exact h i e o he ho

/-- What is wrong with a record that has all its fields is wrong with its content. -/
theorem faults_of_complete {r : ConnectionRecord} {id : String} (hid : r.id = some id)
    (hcustomer : r.customerGateway.isSome)
    (hgateway : r.transitGateway.isSome ↔ ¬ r.vpnGateway.isSome) (htext : r.document.isSome)
    (hroutes : r.routes.isSome) (htelemetry : r.telemetry.isSome) (hoptions : r.options.isSome) :
    r.faults = contentFaults id r.document r.routes r.options := by
  have hid' : missing none .id r.id = [] := missing_eq_nil_iff.mpr (Option.isSome_of_eq_some hid)
  rw [faults, hid', hid, Option.elim_some, namedFaults, missing_eq_nil_iff.mpr hcustomer,
    (gatewayFaults_eq_nil_iff id).mpr hgateway, missing_eq_nil_iff.mpr htext,
    missing_eq_nil_iff.mpr hroutes, missing_eq_nil_iff.mpr htelemetry,
    missing_eq_nil_iff.mpr hoptions]
  rfl

/-- A record can be accepted if nothing is wrong with it. -/
theorem faults_eq_nil_iff (salt : Salt) (r : ConnectionRecord) :
    r.faults = [] ↔ r.IsAcceptable salt := by
  constructor
  · intro h
    obtain ⟨hid, h⟩ := List.append_eq_nil_iff.mp h
    obtain ⟨id, hid⟩ := Option.isSome_iff_exists.mp (missing_eq_nil_iff.mp hid)
    rw [hid, Option.elim_some, namedFaults] at h
    simp only [List.append_eq_nil_iff, missing_eq_nil_iff, gatewayFaults_eq_nil_iff] at h
    obtain ⟨⟨⟨⟨⟨⟨hcustomer, hgateway⟩, htext⟩, hroutes⟩, htelemetry⟩, hoptions⟩, h⟩ := h
    obtain ⟨text, htext⟩ := Option.isSome_iff_exists.mp htext
    obtain ⟨routes, hroutes⟩ := Option.isSome_iff_exists.mp hroutes
    obtain ⟨options, hoptions⟩ := Option.isSome_iff_exists.mp hoptions
    rw [htext, hroutes, hoptions, contentFaults] at h
    cases hdocument : GatewayDocument.read id text with
    | error e => simp [hdocument] at h
    | ok document =>
        simp only [hdocument, List.append_eq_nil_iff, tunnelFaults_eq_nil_iff id salt,
          List.flatMap_eq_nil_iff, routeFaults_eq_nil_iff] at h
        obtain ⟨⟨hlength, htunnels⟩, hnetworks⟩ := h
        exact ⟨id, text, routes, options, document, hid, hcustomer, hgateway, htext, hroutes,
          htelemetry, hoptions, hdocument, hlength, htunnels, hnetworks⟩
  · rintro ⟨id, text, routes, options, document, hid, hcustomer, hgateway, htext, hroutes,
      htelemetry, hoptions, hdocument, hlength, htunnels, hnetworks⟩
    have hcontent : contentFaults id r.document r.routes r.options = [] := by
      rw [htext, hroutes, hoptions, contentFaults, hdocument]
      exact List.append_eq_nil_iff.mpr
        ⟨(tunnelFaults_eq_nil_iff id salt).mpr ⟨hlength, htunnels⟩,
          List.flatMap_eq_nil_iff.mpr fun route hroute =>
            (routeFaults_eq_nil_iff id).mpr (hnetworks route hroute)⟩
    rw [faults_of_complete hid hcustomer hgateway (Option.isSome_of_eq_some htext)
      (Option.isSome_of_eq_some hroutes) htelemetry (Option.isSome_of_eq_some hoptions),
      hcontent]

end NoFaults

end ConnectionRecord

namespace Connection

/-- A record makes a connection exactly if it can be accepted, and the connection is then the
one that it describes, with every tunnel and every network at its place. Otherwise the first
fault of the record is reported. -/
theorem ofRecord_all_or_nothing (salt : Salt) (r : ConnectionRecord) :
    ((∃ c, ofRecord salt r = .ok c) ↔ r.IsAcceptable salt) ∧
      (∀ c, ofRecord salt r = .ok c ↔ r.Describes salt c) ∧
      ∀ error, ofRecord salt r = .error error ↔ r.faults.head? = some error := by
  refine ⟨?accepted, fun c => ofRecord_eq_ok_iff, ?rejected⟩
  case accepted =>
    rw [← eq_nil_iff_of_failure? (failure?_ofRecord salt r),
      ConnectionRecord.faults_eq_nil_iff]
  case rejected =>
    intro error
    rw [← failure?_eq_some_iff, failure?_ofRecord]

/-- A document with one tunnel is refused where there are no options, and where there are two,
before the network of a route is read. With one entry that network is the first fault. -/
theorem ofRecord_all_or_nothing_lengths :
    let record (options : List TunnelOptions) (routes : List RouteRecord) : ConnectionRecord :=
      { id := some "vpn-1", customerGateway := some "cgw", transitGateway := none,
        vpnGateway := some "vgw", document := some oneTunnelDocument, routes := some routes,
        telemetry := some [], options := some ⟨options, false⟩ }
    let o : TunnelOptions := oneTunnelOptions "169.254.10.0/30"
    ofRecord ⟨"00"⟩ (record [] [⟨"10.0.0.0"⟩]) = .error (.elementUnpaired 0 0) ∧
      ofRecord ⟨"00"⟩ (record [o, o] [⟨"10.0.0.0"⟩]) = .error (.optionsUnpaired 1 2) ∧
      ofRecord ⟨"00"⟩ (record [o] [⟨"10.0.0.0"⟩]) =
        .error (.badValue "vpn-1" .routeDestination "10.0.0.0" (.block .noSlash)) ∧
      ∃ c, ofRecord ⟨"00"⟩ (record [o] []) = .ok c := by
  intro record o
  have hfaults : ∀ options routes, (record options routes).faults =
      ConnectionRecord.tunnelFaults "vpn-1" ⟨true, [oneTunnelElement]⟩ ⟨options, false⟩ ++
        routes.flatMap (ConnectionRecord.routeFaults "vpn-1") := by
    intro options routes
    have hid : (record options routes).id = some "vpn-1" := rfl
    rw [ConnectionRecord.faults_of_complete hid rfl (by simp [record]) rfl rfl rfl rfl,
      ConnectionRecord.contentFaults, read_oneTunnelDocument]
  refine ⟨?none, ?two, ?one, ?accepted⟩
  case none => exact ((ofRecord_all_or_nothing _ _).2.2 _).mpr (by rw [hfaults]; rfl)
  case two => exact ((ofRecord_all_or_nothing _ _).2.2 _).mpr (by rw [hfaults]; rfl)
  case one =>
    apply ((ofRecord_all_or_nothing _ _).2.2 _).mpr
    rw [hfaults]
    rfl
  case accepted =>
    apply (ofRecord_all_or_nothing _ _).1.mpr
    rw [← ConnectionRecord.faults_eq_nil_iff, hfaults]
    rfl

end Connection

end SiteVpn
