import SiteVpn.Proofs.Layout
import SiteVpn.Proofs.XmlText

/-!
# Rendered documents are read back

A document that was written to say something about a connection is read as saying just that,
whatever stands beside it. There is such a document for whatever can be said in the characters
of XML.
-/

namespace SiteVpn

open Xml (Node Markup)

/-! ## Rendered fields -/

namespace Fields

mutual

/-- The fields inside an element, of which absent ones are left out. -/
def markup : Fields → List Markup
  | .value none => []
  | .value (some s) => [.text s.toList]
  | .group members => membersMarkup members

def membersMarkup : List (String × Fields) → List Markup
  | [] => []
  | (name, f) :: ms =>
    if f.isEmpty then membersMarkup ms else .element name [] f.markup :: membersMarkup ms

end

mutual

/-- Whether fields can be written: names differ and nothing is looked for under them, and texts
are made of characters that are read as they are. -/
def IsRenderable : Fields → Prop
  | .value none => True
  | .value (some s) => s.toList ≠ [] ∧ ∀ c ∈ s.toList, Xml.isXmlChar c ∧ c ≠ '\r'
  | .group members => (members.map (·.1)).Nodup ∧ MembersRenderable members

def MembersRenderable : List (String × Fields) → Prop
  | [] => True
  | (name, f) :: ms =>
    (Xml.IsPlainName name ∧ name ∉ GatewayDocument.reservedNames) ∧ f.IsRenderable ∧
      MembersRenderable ms

end

theorem isRenderable_group {members : List (String × Fields)}
    (hnodup : (members.map (·.1)).Nodup) (h : MembersRenderable members) :
    (group members).IsRenderable := ⟨hnodup, h⟩

theorem membersRenderable_cons {name : String} {f : Fields} {ms : List (String × Fields)}
    (hname : Xml.IsPlainName name ∧ name ∉ GatewayDocument.reservedNames)
    (hf : f.IsRenderable) (hms : MembersRenderable ms) : MembersRenderable ((name, f) :: ms) :=
  ⟨hname, hf, hms⟩

mutual

theorem forestWritable_markup : ∀ f : Fields, f.IsRenderable → Markup.ForestWritable f.markup
  | .value none, _ => trivial
  | .value (some _), hf =>
      ⟨⟨hf.1, fun c hc => (hf.2 c hc).1⟩, (fun _ _ h => by cases h), trivial⟩
  | .group members, hf => forestWritable_membersMarkup members hf.2

theorem forestWritable_membersMarkup : ∀ ms : List (String × Fields), MembersRenderable ms →
    Markup.ForestWritable (membersMarkup ms)
  | [], _ => trivial
  | (name, f) :: ms, hms => by
      have htail := forestWritable_membersMarkup ms hms.2.2
      rw [membersMarkup]
      split
      case isTrue => exact htail
      case isFalse =>
        have helement : (Markup.element name [] f.markup).IsWritable :=
          ⟨hms.1.1, Markup.attributesWritable_nil, forestWritable_markup f hms.2.1⟩
        exact ⟨helement, fun h => absurd h Bool.false_ne_true, htail⟩

end

/-- An element that is rendered has the name of a member. -/
theorem mem_names_of_isElement {name : String} {ms : List (String × Fields)}
    {n : Node} (hn : n ∈ Markup.nodes (membersMarkup ms)) (hname : n.isElement name) :
    name ∈ ms.map (·.1) := by
  induction ms with
  | nil => cases hn
  | cons m ms ih =>
      rw [membersMarkup] at hn
      split at hn
      case isTrue => exact List.mem_cons_of_mem _ (ih hn)
      case isFalse =>
        rcases List.mem_cons.mp hn with rfl | hn
        · rw [← eq_of_beq hname]
          exact List.mem_cons_self ..
        · exact List.mem_cons_of_mem _ (ih hn)

mutual

/-- Fields are laid out by their rendering. -/
theorem laidOut_markup : ∀ f : Fields, f.IsRenderable → ¬ f.isEmpty →
    f.LaidOut (Markup.nodes f.markup)
  | .value none, _, hf => absurd rfl hf
  | .value (some s), hf, _ => by
      have htext : Xml.lineEnds (s.toList.map Xml.pieceOf) = s.toList :=
        Xml.lineEnds_map_pieceOf fun h => (hf.2 _ h).2 rfl
      refine ⟨[], [], by simp, by simp, ?_⟩
      simp [markup, Markup.nodes, Markup.node, Node.forestText, Node.textContent, htext]
  | .group members, hf, _ => membersLaidOut_markup members [] hf.1 hf.2 fun _ h => by cases h

/-- The members of a group are laid out by their rendering and nodes with other names. -/
theorem membersLaidOut_markup : ∀ (ms : List (String × Fields)) (before : List Node),
    (ms.map (·.1)).Nodup → MembersRenderable ms →
    (∀ n ∈ before, ∀ name ∈ ms.map (·.1), ¬ n.isElement name) →
    MembersLaidOut ms (before ++ Markup.nodes (membersMarkup ms))
  | [], _, _, _, _ => trivial
  | (name, f) :: ms, before, hnodup, hms, hbefore => by
      obtain ⟨hname, hnodup⟩ := List.nodup_cons.mp hnodup
      have hnone : before.filter (·.isElement name) = [] :=
        List.filter_eq_nil_iff.mpr fun n hn => hbefore n hn name (List.mem_cons_self ..)
      have hrest : (Markup.nodes (membersMarkup ms)).filter (·.isElement name) = [] :=
        List.filter_eq_nil_iff.mpr fun n hn h => hname (mem_names_of_isElement hn h)
      have hother : ∀ n ∈ before, ∀ name ∈ ms.map (·.1), ¬ n.isElement name :=
        fun n hn name hname => hbefore n hn name (List.mem_cons_of_mem _ hname)
      rw [membersMarkup]
      split
      case isTrue hempty =>
        refine ⟨.inl ⟨?_, hempty⟩, membersLaidOut_markup ms before hnodup hms.2.2 hother⟩
        rw [List.filter_append, hnone, hrest]
        rfl
      case isFalse hempty =>
        have hnew : ∀ n ∈ before ++ [.element name (Markup.nodes f.markup)],
            ∀ name ∈ ms.map (·.1), ¬ n.isElement name := by
          intro n hn name' hname' h
          rcases List.mem_append.mp hn with hn | hn
          · exact hother n hn name' hname' h
          · rw [List.mem_singleton.mp hn] at h
            exact hname (eq_of_beq h ▸ hname')
        have htail := membersLaidOut_markup ms _ hnodup hms.2.2 hnew
        rw [List.append_assoc] at htail
        refine ⟨.inr ⟨_, ?_, laidOut_markup f hms.2.1 hempty⟩, htail⟩
        have hself : (Node.element name (Markup.nodes f.markup)).isElement name :=
          beq_self_eq_true name
        change (before ++ (Node.element name (Markup.nodes f.markup) ::
          Markup.nodes (membersMarkup ms))).filter (·.isElement name) = _
        rw [List.filter_append, hnone, List.nil_append, List.filter_cons, if_pos hself, hrest]

end

mutual

/-- Nothing that is looked for at any depth is inside rendered fields. -/
theorem not_isElement_of_mem_markup : ∀ f : Fields, f.IsRenderable →
    ∀ n ∈ Node.forestDescendants (Markup.nodes f.markup),
      ∀ name ∈ GatewayDocument.reservedNames, ¬ n.isElement name
  | .value none, _, _, hn, _, _ => by cases hn
  | .value (some s), _, n, hn, _, _ => by
      rw [List.mem_singleton.mp hn]
      exact Bool.false_ne_true
  | .group members, hf, n, hn, name, hname =>
      not_isElement_of_mem_membersMarkup members hf.2 n hn name hname

theorem not_isElement_of_mem_membersMarkup : ∀ ms : List (String × Fields),
    MembersRenderable ms →
    ∀ n ∈ Node.forestDescendants (Markup.nodes (membersMarkup ms)),
      ∀ name ∈ GatewayDocument.reservedNames, ¬ n.isElement name
  | [], _, _, hn, _, _ => by cases hn
  | (name', f) :: ms, hms, n, hn, name, hname => by
      rw [membersMarkup] at hn
      split at hn
      case isTrue => exact not_isElement_of_mem_membersMarkup ms hms.2.2 n hn name hname
      case isFalse =>
        rcases List.mem_append.mp hn with hn | hn
        · rcases List.mem_cons.mp hn with rfl | hn
          · exact fun h => hms.1.2 (eq_of_beq h ▸ hname)
          · exact not_isElement_of_mem_markup f hms.2.1 n hn name hname
        · exact not_isElement_of_mem_membersMarkup ms hms.2.2 n hn name hname

end

end Fields

/-! ## Rendered documents -/

namespace TunnelElement

/-- Whether the characters of all fields are read as they are. -/
def IsWritable (t : TunnelElement) : Prop :=
  ∀ s, some s ∈ t.fields → ∀ c ∈ s.toList, Xml.isXmlChar c ∧ c ≠ '\r'

theorem isRenderable_layout {t : TunnelElement} (hp : t.IsPresentable) (hw : t.IsWritable) :
    t.layout.IsRenderable := by
  have hvalue (text : Option String) (htext : text ∈ t.fields) :
      (Fields.value text).IsRenderable := by
    cases text with
    | none => trivial
    | some s => exact ⟨(hp s htext).1, hw s htext⟩
  unfold layout
  repeat'
    first
    | exact trivial
    | exact hvalue _ (by simp [fields])
    | refine Fields.isRenderable_group (by simp) ?_
    | refine Fields.membersRenderable_cons
        ⟨Xml.isPlainName_ofList (by decide) (by decide), by decide⟩ ?_ ?_

/-- The element of a tunnel. -/
def markup (t : TunnelElement) : Markup :=
  .element GatewayDocument.tunnelName [] t.layout.markup

end TunnelElement

namespace GatewayDocument

variable {g : GatewayDocument}

/-- What stands in the attributes of a connection. -/
def attributesMarkup (g : GatewayDocument) : List Markup :=
  if g.isBgp then [] else [.element attributesName [] [.text staticText.toList]]

/-- The element of a connection. -/
def markup (g : GatewayDocument) : Markup :=
  .element connectionName [] (g.attributesMarkup ++ g.tunnels.map TunnelElement.markup)

/-- The nodes inside the element of a connection. -/
def contentNodes (g : GatewayDocument) : List Node :=
  (if g.isBgp then [] else [.element attributesName [.text staticText.toList]]) ++
    g.tunnels.map fun t => .element tunnelName (Markup.nodes t.layout.markup)

theorem node_markup (g : GatewayDocument) :
    g.markup.node = .element connectionName g.contentNodes := by
  rw [markup, Markup.node, Markup.nodes_eq_map, contentNodes, List.map_append, List.map_map,
    attributesMarkup]
  cases g.isBgp <;> rfl

theorem filter_contentNodes_attributesName (g : GatewayDocument) :
    g.contentNodes.filter (·.isElement attributesName) =
      if g.isBgp then [] else [.element attributesName [.text staticText.toList]] := by
  have htunnels : (g.tunnels.map fun t =>
      Node.element tunnelName (Markup.nodes t.layout.markup)).filter
        (·.isElement attributesName) = [] := by
    rw [List.filter_eq_nil_iff, List.forall_mem_map]
    intro t _
    exact show ¬ tunnelName == attributesName by decide
  rw [contentNodes, List.filter_append, htunnels, List.append_nil]
  cases g.isBgp <;> rfl

theorem filter_contentNodes_tunnelName (g : GatewayDocument) :
    g.contentNodes.filter (·.isElement tunnelName) =
      g.tunnels.map fun t => .element tunnelName (Markup.nodes t.layout.markup) := by
  have htunnels : (g.tunnels.map fun t =>
      Node.element tunnelName (Markup.nodes t.layout.markup)).filter (·.isElement tunnelName) =
        g.tunnels.map fun t => .element tunnelName (Markup.nodes t.layout.markup) := by
    rw [List.filter_eq_self, List.forall_mem_map]
    exact fun t _ => beq_self_eq_true tunnelName
  rw [contentNodes, List.filter_append, htunnels]
  cases g.isBgp <;> rfl

/-- The rendering of a document says what it should. -/
theorem renders_markup (hp : ∀ t ∈ g.tunnels, t.IsPresentable)
    (hw : ∀ t ∈ g.tunnels, t.IsWritable) : g.Renders ⟨[g.markup.node]⟩ := by
  have hrenderable : ∀ t ∈ g.tunnels, t.layout.IsRenderable :=
    fun t ht => TunnelElement.isRenderable_layout (hp t ht) (hw t ht)
  have hcontent : ∀ n ∈ g.contentNodes,
      n = .element attributesName [.text staticText.toList] ∨
        ∃ t ∈ g.tunnels, n = .element tunnelName (Markup.nodes t.layout.markup) := by
    intro n hn
    rcases List.mem_append.mp hn with hn | hn
    · split at hn
      · cases hn
      · exact .inl (List.mem_singleton.mp hn)
    · obtain ⟨t, ht, rfl⟩ := List.mem_map.mp hn
      exact .inr ⟨t, ht, rfl⟩
  refine ⟨[], g.contentNodes, [], by rw [node_markup]; rfl, (fun _ h => by cases h), ?_⟩
  constructor
  case shallow =>
    intro n hn m hm name hname
    rcases hcontent n hn with rfl | ⟨t, ht, rfl⟩
    · rw [List.mem_singleton.mp hm]
      exact Bool.false_ne_true
    · exact Fields.not_isElement_of_mem_markup t.layout (hrenderable t ht) m hm name hname
  case noConnection =>
    intro n hn
    rcases hcontent n hn with rfl | ⟨t, -, rfl⟩
    · exact show ¬ attributesName == connectionName by decide
    · exact show ¬ tunnelName == connectionName by decide
  case bgp =>
    intro hbgp n hn
    rw [filter_contentNodes_attributesName, if_pos hbgp] at hn
    cases hn
  case static =>
    intro hbgp
    refine ⟨[.text staticText.toList], [], [], ?_, (fun _ h => by cases h),
      (fun _ h => by cases h), ?_⟩
    · rw [filter_contentNodes_attributesName, if_neg hbgp]
    · simp [Node.forestText, Node.textContent]
  case tunnels =>
    rw [filter_contentNodes_tunnelName, List.forall₂_map_right_iff]
    apply List.forall₂_same.mpr
    intro t ht
    have hmembers := Fields.membersLaidOut_markup _ [] (hrenderable t ht).1 (hrenderable t ht).2
      fun _ h => by cases h
    exact ⟨_, rfl, hmembers⟩

theorem isWritable_markup (hp : ∀ t ∈ g.tunnels, t.IsPresentable)
    (hw : ∀ t ∈ g.tunnels, t.IsWritable) : g.markup.IsWritable := by
  refine ⟨Xml.isPlainName_ofList (by decide) (by decide), Markup.attributesWritable_nil,
    Markup.forestWritable_of_elements ?_⟩
  intro m hm
  rcases List.mem_append.mp hm with hm | hm
  · rw [attributesMarkup] at hm
    split at hm
    case isTrue => cases hm
    case isFalse =>
      obtain rfl := List.mem_singleton.mp hm
      have htext : staticText.toList ≠ [] ∧ ∀ c ∈ staticText.toList, Xml.isXmlChar c := by
        rw [show staticText = String.ofList _ from rfl, String.toList_ofList]
        decide
      exact ⟨Markup.isWritable_leaf (Xml.isPlainName_ofList (by decide) (by decide))
        Markup.attributesWritable_nil htext, Bool.false_ne_true⟩
  · obtain ⟨t, ht, rfl⟩ := List.mem_map.mp hm
    have hrenderable := TunnelElement.isRenderable_layout (hp t ht) (hw t ht)
    exact ⟨⟨Xml.isPlainName_ofList (by decide) (by decide), Markup.attributesWritable_nil,
      Fields.forestWritable_markup t.layout hrenderable⟩, Bool.false_ne_true⟩

/-- What a rendered document says is read from it: whether the connection uses BGP, and the
tunnels in their order with the fields that are present. This holds for every text that has a
rendering as its nodes, and so for the text of an element with whatever attributes, blanks and
other elements are in it. There is such a text for all that can be said in characters that are
read as they are. -/
theorem read_rendered (g : GatewayDocument) (hp : ∀ t ∈ g.tunnels, t.IsPresentable) :
    (∀ (id text : String) (d : Xml.Document), Xml.Document.read text.toList = some d →
      g.Renders d → read id text = .ok g) ∧
    (∀ (id : String) (root : Markup) (isDeclared : Bool) (before after : List Char),
      root.IsWritable → g.Renders ⟨[root.node]⟩ → (∀ c ∈ before, Xml.isSpace c) →
      (∀ c ∈ after, Xml.isSpace c) →
      read id (String.ofList (root.documentText isDeclared before after)) = .ok g) ∧
    ((∀ t ∈ g.tunnels, t.IsWritable) →
      g.markup.IsWritable ∧ g.Renders ⟨[g.markup.node]⟩) := by
  have hread (id text : String) (d : Xml.Document)
      (htext : Xml.Document.read text.toList = some d) (hd : g.Renders d) :
      read id text = .ok g := by
    rw [read_eq_ok_iff, htext]
    exact ofDocument?_of_renders hp hd
  refine ⟨hread, ?_, fun hw => ⟨isWritable_markup hp hw, renders_markup hp hw⟩⟩
  intro id root isDeclared before after hroot hrenders hbefore hafter
  refine hread id _ _ ?_ hrenders
  rw [String.toList_ofList]
  cases root with
  | element name attributes content =>
      exact Markup.read_documentText hroot isDeclared hbefore hafter
  | text content =>
      obtain ⟨before', content', after', hnodes, -⟩ := hrenders
      cases before' with
      | nil => cases (List.cons.inj hnodes).1
      | cons n ns => exact absurd (List.cons.inj hnodes).2.symm (by simp)

/-- The two lifetimes of a tunnel are told apart, and blanks, attributes and other elements do
not matter. -/
theorem read_rendered_lifetimes :
    let tunnel : TunnelElement :=
      { (default : TunnelElement) with ikeLifetime := some "28800", ipsecLifetime := some "3600" }
    let root : Markup := .element connectionName [("id", "vpn-1")]
      [.text "\r\n".toList, .element attributesName [] [.text " NoBGPVPNConnection\n".toList],
        .element tunnelName []
          [.element "ipsec" [] [.element "lifetime" [] [.text "3600".toList]],
            .element "ike" []
              [.element "mode" [] [.text "main & more".toList], .text "\n".toList,
                .element "lifetime" [("unit", "s")] [.text "28800 ".toList]]]]
    String.ofList (root.documentText true ['\n'] []) =
      "<?xml version=\"1.0\" encoding=\"UTF-8\"?>\n<vpn_connection id=\"vpn-1\">\r\n" ++
        "<vpn_connection_attributes> NoBGPVPNConnection\n</vpn_connection_attributes>" ++
        "<ipsec_tunnel><ipsec><lifetime>3600</lifetime></ipsec>" ++
        "<ike><mode>main &amp; more</mode>\n<lifetime unit=\"s\">28800 </lifetime></ike>" ++
        "</ipsec_tunnel></vpn_connection>" ∧
      read "vpn-1" (String.ofList (root.documentText true ['\n'] [])) = .ok ⟨false, [tunnel]⟩ := by
  intro tunnel root
  have hp : ∀ t ∈ [tunnel], t.IsPresentable := by
    have hike : IsFieldText "28800" :=
      ⟨by decide, fun c hc => Option.some.inj hc ▸ by decide,
        fun c hc => Option.some.inj hc ▸ by decide⟩
    have hipsec : IsFieldText "3600" :=
      ⟨by decide, fun c hc => Option.some.inj hc ▸ by decide,
        fun c hc => Option.some.inj hc ▸ by decide⟩
    intro t ht s hs
    obtain rfl := List.mem_singleton.mp ht
    have hs : s = "28800" ∨ s = "3600" := by
      simpa [tunnel, TunnelElement.fields, default, instInhabitedTunnelElement.default] using hs
    rcases hs with rfl | rfl
    · exact hike
    · exact hipsec
  have hlaid : tunnel.layout.LaidOut
      [.element "ipsec" [.element "lifetime" [.text "3600".toList]],
        .element "ike"
          [.element "mode" [.text "main & more".toList], .text "\n".toList,
            .element "lifetime" [.text "28800 ".toList]]] := by
    have hike : Fields.LaidOut (.value (some "28800")) [.text "28800 ".toList] :=
      ⟨[], [' '], by decide, by decide, by decide⟩
    have hipsec : Fields.LaidOut (.value (some "3600")) [.text "3600".toList] :=
      ⟨[], [], by decide, by decide, by decide⟩
    exact ⟨.inl ⟨rfl, rfl⟩, .inl ⟨rfl, rfl⟩,
      .inr ⟨_, rfl, .inl ⟨rfl, rfl⟩, .inr ⟨_, rfl, hike⟩, trivial⟩,
      .inr ⟨_, rfl, .inr ⟨_, rfl, hipsec⟩, trivial⟩, trivial⟩
  have hrenders : Renders ⟨false, [tunnel]⟩ ⟨[root.node]⟩ := by
    refine ⟨[], _, [], rfl, (fun _ h => by cases h), ?_⟩
    constructor
    case shallow => decide
    case noConnection => decide
    case bgp => exact fun h => absurd h Bool.false_ne_true
    case static => exact fun _ => ⟨_, [' '], ['\n'], rfl, by decide, by decide, by decide⟩
    case tunnels => exact .cons ⟨_, rfl, hlaid⟩ .nil
  refine ⟨?text, ?read⟩
  case text =>
    -- the characters are compared, since it takes long to encode the texts
    change String.ofList _ = String.ofList _ ++ String.ofList _ ++ String.ofList _ ++
      String.ofList _ ++ String.ofList _
    simp only [← String.ofList_append]
    exact congrArg String.ofList (by decide +kernel)
  case read =>
    exact (read_rendered ⟨false, [tunnel]⟩ hp).2.1 "vpn-1" root true ['\n'] [] (by decide)
      hrenders (by decide) (by decide)

end GatewayDocument

end SiteVpn
