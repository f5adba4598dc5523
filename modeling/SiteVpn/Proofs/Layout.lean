import SiteVpn.Proofs.Provenance

/-!
# The layout of customer gateway documents

What an element holds is a group of values under names, some of them absent, and below a name
there may be a group again. Children of an element lay out a group if each name is the name of
at most one child, which lays out what the group has there and which is missing only where
there is nothing to lay out. Then a value is found by its path, whatever other children there
are and in whatever order.

## Implementation notes

The elements of tunnels and of the attributes of a connection are looked for at any depth. So a
document is a rendering only if such elements stand right inside the element of the connection
and nowhere else.
-/

namespace SiteVpn

open Xml (Node)

/-! ## Texts between blanks -/

/-- A text that is kept where the blanks around it are dropped. -/
def IsFieldText (s : String) : Prop :=
  s.toList ≠ [] ∧ (∀ c ∈ s.toList.head?, ¬ Text.isBlank c) ∧
    ∀ c ∈ s.toList.getLast?, ¬ Text.isBlank c

theorem Text.trimStart_append {before cs : List Char} (hbefore : ∀ c ∈ before, isBlank c)
    (hcs : ∀ c ∈ cs.head?, ¬ isBlank c) : trimStart (before ++ cs) = cs := by
  rw [trimStart, List.dropWhile_append_of_pos hbefore]
  cases cs with
  | nil => rfl
  | cons c cs => rw [List.dropWhile_cons, if_neg (hcs c rfl)]

/-- The blanks around a text are dropped, and nothing else. -/
theorem TunnelElement.fieldText_padded {before after : List Char} {s : String}
    (hbefore : ∀ c ∈ before, Text.isBlank c) (hafter : ∀ c ∈ after, Text.isBlank c)
    (hs : IsFieldText s) : fieldText (before ++ s.toList ++ after) = some s := by
  obtain ⟨hne, hhead, hlast⟩ := hs
  have hhead' : ∀ c ∈ (s.toList ++ after).head?, ¬ Text.isBlank c := by
    rwa [List.head?_append_of_ne_nil _ hne]
  have hlast' : ∀ c ∈ s.toList.reverse.head?, ¬ Text.isBlank c := by
    rwa [List.head?_reverse]
  have htrim : Text.trim (before ++ s.toList ++ after) = s.toList := by
    rw [Text.trim, List.append_assoc, Text.trimStart_append hbefore hhead', Text.trimEnd,
      List.reverse_append, Text.trimStart_append (by simpa using hafter) hlast',
      List.reverse_reverse]
  rw [fieldText, htrim]
  obtain ⟨c, cs, hcs⟩ := List.exists_cons_of_ne_nil hne
  rw [hcs]
  simp only [← hcs, String.ofList_toList]

/-! ## Groups of values -/

/-- A value that may be absent, or a group under names. -/
inductive Fields where
  | value (text : Option String)
  | group (members : List (String × Fields))

namespace Fields

mutual

/-- Whether all values are absent. -/
def isEmpty : Fields → Bool
  | .value text => text.isNone
  | .group members => membersEmpty members

def membersEmpty : List (String × Fields) → Bool
  | [] => true
  | (_, f) :: ms => f.isEmpty && membersEmpty ms

end

mutual

/-- Whether the nodes inside an element hold certain fields: a value stands between blanks, and
every member of a group that is not empty has one element, in whatever order. -/
def LaidOut : Fields → List Node → Prop
  | .value none, _ => False
  | .value (some s), ns =>
    ∃ before after, (∀ c ∈ before, Text.isBlank c) ∧ (∀ c ∈ after, Text.isBlank c) ∧
      Node.forestText ns = before ++ s.toList ++ after
  | .group members, ns => MembersLaidOut members ns

def MembersLaidOut : List (String × Fields) → List Node → Prop
  | [], _ => True
  | (name, f) :: ms, ns =>
    (ns.filter (·.isElement name) = [] ∧ f.isEmpty ∨
      ∃ children, ns.filter (·.isElement name) = [.element name children] ∧
        f.LaidOut children) ∧
      MembersLaidOut ms ns

end

/-- The value at a path. -/
def at? : List String → Fields → Option (Option String)
  | [], .value text => some text
  | name :: path, .group members => (members.lookup name).bind (at? path)
  | _, _ => none

variable {ns children : List Node} {members : List (String × Fields)} {f : Fields}
  {name : String} {path : List String} {text : Option String}

theorem isEmpty_of_lookup (h : membersEmpty members) (hf : members.lookup name = some f) :
    f.isEmpty := by
  induction members with
  | nil => cases hf
  | cons m ms ih =>
      obtain ⟨hm, hms⟩ := Bool.and_eq_true_iff.mp h
      rw [lookup_cons] at hf
      split at hf
      · cases hf
        exact hm
      · exact ih hms hf

theorem eq_none_of_isEmpty (h : f.isEmpty) (hpath : f.at? path = some text) :
    text = none := by
  induction path generalizing f with
  | nil =>
      cases f with
      | value text' =>
          cases hpath
          exact Option.isNone_iff_eq_none.mp h
      | group members => cases hpath
  | cons name path ih =>
      cases f with
      | value text' => cases hpath
      | group members =>
          obtain ⟨f, hf, hpath⟩ := Option.bind_eq_some_iff.mp hpath
          exact ih (isEmpty_of_lookup h hf) hpath

/-- A member is laid out by the only element of its name, or is empty. -/
theorem MembersLaidOut.of_lookup (h : MembersLaidOut members ns)
    (hf : members.lookup name = some f) :
    ns.find? (·.isElement name) = none ∧ f.isEmpty ∨
      ∃ children, ns.find? (·.isElement name) = some (.element name children) ∧
        f.LaidOut children := by
  induction members with
  | nil => cases hf
  | cons m ms ih =>
      obtain ⟨hm, hms⟩ := h
      rw [lookup_cons] at hf
      split at hf
      case h_2 => exact ih hms hf
      case h_1 hname =>
        obtain rfl := eq_of_beq hname
        cases hf
        rw [← List.head?_filter]
        rcases hm with ⟨hnone, hempty⟩ | ⟨children, hone, hchildren⟩
        · exact .inl ⟨by rw [hnone]; rfl, hempty⟩
        · exact .inr ⟨children, by rw [hone]; rfl, hchildren⟩

/-- A value is found at its path. -/
theorem LaidOut.textAt_eq (h : f.LaidOut children) (hpath : f.at? path = some text)
    (htext : ∀ s ∈ text, IsFieldText s) :
    TunnelElement.textAt (.element name children) path = text := by
  induction path generalizing f children name with
  | nil =>
      cases f with
      | group members => cases hpath
      | value text' =>
          cases hpath
          cases text with
          | none => exact h.elim
          | some s =>
              obtain ⟨before, after, hbefore, hafter, hcontent⟩ := h
              change TunnelElement.fieldText (Node.forestText children) = some s
              rw [hcontent]
              exact TunnelElement.fieldText_padded hbefore hafter (htext s rfl)
  | cons step path ih =>
      cases f with
      | value text' => cases hpath
      | group members =>
          obtain ⟨f, hf, hpath⟩ := Option.bind_eq_some_iff.mp hpath
          rw [TunnelElement.textAt, Node.follow, Node.children]
          rcases MembersLaidOut.of_lookup h hf with ⟨hnone, hempty⟩ | ⟨inner, hone, hinner⟩
          · rw [hnone, eq_none_of_isEmpty hempty hpath]
            rfl
          · rw [hone]
            exact ih hinner hpath

end Fields

/-! ## Tunnels -/

namespace TunnelElement

/-- The fields of a tunnel in the groups of its element. -/
def layout (t : TunnelElement) : Fields :=
  .group
    [("customer_gateway", .group
      [("tunnel_outside_address", .group [("ip_address", .value t.customerOutsideAddress)]),
        ("bgp", .group [("asn", .value t.customerAsn)])]),
    ("vpn_gateway", .group
      [("tunnel_outside_address", .group [("ip_address", .value t.gatewayOutsideAddress)]),
        ("tunnel_inside_address", .group
          [("ip_address", .value t.gatewayInsideAddress),
            ("network_cidr", .value t.insidePrefixLength)]),
        ("bgp", .group [("asn", .value t.gatewayAsn)])]),
    ("ike", .group
      [("pre_shared_key", .value t.preSharedKey), ("lifetime", .value t.ikeLifetime)]),
    ("ipsec", .group [("lifetime", .value t.ipsecLifetime)])]

/-- Whether every field that is present is kept where the blanks around it are dropped. -/
def IsPresentable (t : TunnelElement) : Prop := ∀ s, some s ∈ t.fields → IsFieldText s

theorem fields_injective {t t' : TunnelElement} (h : t.fields = t'.fields) : t = t' := by
  cases t
  cases t'
  simpa [fields] using h

/-- The fields of a tunnel are where its layout has them. -/
theorem map_at?_fieldPaths (t : TunnelElement) :
    fieldPaths.map (t.layout.at? ·) = t.fields.map some := rfl

/-- A tunnel is read from an element that lays it out. -/
theorem ofNode_of_laidOut {t : TunnelElement} {name : String} {children : List Node}
    (ht : t.IsPresentable) (h : t.layout.LaidOut children) :
    ofNode (.element name children) = t := by
  have hread (paths : List (List String)) (texts : List (Option String))
      (hpaths : paths.map (t.layout.at? ·) = texts.map some)
      (htexts : ∀ text ∈ texts, text ∈ t.fields) :
      paths.map (textAt (.element name children)) = texts := by
    induction paths generalizing texts with
    | nil =>
        cases texts with
        | nil => rfl
        | cons text texts => cases hpaths
    | cons path paths ih =>
        cases texts with
        | nil => cases hpaths
        | cons text texts =>
            obtain ⟨hpath, hpaths⟩ := List.cons.inj hpaths
            obtain ⟨htext, htexts⟩ := List.forall_mem_cons.mp htexts
            have hfield : ∀ s ∈ text, IsFieldText s := fun s hs => ht s (hs ▸ htext)
            rw [List.map_cons, h.textAt_eq hpath hfield, ih texts hpaths htexts]
  apply fields_injective
  rw [fields_ofNode]
  exact hread fieldPaths t.fields t.map_at?_fieldPaths fun _ htext => htext

end TunnelElement

/-! ## Documents -/

theorem Xml.Node.descendants_eq_cons (n : Node) :
    n.descendants = n :: Node.forestDescendants n.children := by
  cases n <;> rfl

theorem Xml.Node.filter_descendants_element (name name' : String) (children : List Node) :
    (Node.element name children).descendants.filter (·.isElement name') =
      if name == name' then
        .element name children :: (forestDescendants children).filter (·.isElement name')
      else (forestDescendants children).filter (·.isElement name') :=
  List.filter_cons ..

theorem Xml.hasMark_of_append {mark : List Char} (hmark : mark ≠ [])
    (before after : List Char) : hasMark mark (before ++ mark ++ after) := by
  induction before with
  | cons c before ih => exact hasMark_cons c ih
  | nil =>
      obtain ⟨c, cs, rfl⟩ := List.exists_cons_of_ne_nil hmark
      have hstarts : (c :: cs).isPrefixOf (c :: (cs ++ after)) :=
        List.isPrefixOf_iff_prefix.mpr (List.prefix_append (c :: cs) after)
      rw [List.nil_append, List.cons_append, hasMark, breakAt, breakFrom, if_pos hstarts]
      rfl

namespace GatewayDocument

/-- The names of the elements that are looked for at any depth. -/
def reservedNames : List String := [connectionName, attributesName, tunnelName]

/-- What the attributes of a connection with static routing say. -/
def staticText : String := "NoBGPVPNConnection"

/-- Whether the nodes inside the element of a connection say what a document says. -/
structure RendersContent (g : GatewayDocument) (content : List Node) : Prop where
  /-- Below these nodes nothing is looked for at any depth. -/
  shallow : ∀ n ∈ content, ∀ m ∈ Node.forestDescendants n.children,
    ∀ name ∈ reservedNames, ¬ m.isElement name
  noConnection : ∀ n ∈ content, ¬ n.isElement connectionName
  bgp : g.isBgp → ∀ n ∈ content.filter (·.isElement attributesName),
    ¬ Xml.hasMark staticMarker.toList n.textContent
  static : ¬ g.isBgp → ∃ children before after,
    content.filter (·.isElement attributesName) = [.element attributesName children] ∧
      (∀ c ∈ before, Text.isBlank c) ∧ (∀ c ∈ after, Text.isBlank c) ∧
      Node.forestText children = before ++ staticText.toList ++ after
  tunnels : List.Forall₂ (fun t n => ∃ children, n = .element tunnelName children ∧
    t.layout.LaidOut children) g.tunnels (content.filter (·.isElement tunnelName))

/-- Whether a document says what it should: it has the element of one connection, with
nothing but comments and instructions before and after it. -/
def Renders (g : GatewayDocument) (d : Xml.Document) : Prop :=
  ∃ before content after, d.nodes = before ++ .element connectionName content :: after ∧
    (∀ n ∈ before ++ after, ∀ name, ¬ n.isElement name) ∧ g.RendersContent content

variable {g : GatewayDocument} {content : List Node} {d : Xml.Document}

theorem filter_forestDescendants_of_shallow {name : String} (hname : name ∈ reservedNames)
    (h : ∀ n ∈ content, ∀ m ∈ Node.forestDescendants n.children,
      ∀ name ∈ reservedNames, ¬ m.isElement name) :
    (Node.forestDescendants content).filter (·.isElement name) =
      content.filter (·.isElement name) := by
  induction content with
  | nil => rfl
  | cons n ns ih =>
      obtain ⟨hn, hns⟩ := List.forall_mem_cons.mp h
      have hinside : (Node.forestDescendants n.children).filter (·.isElement name) = [] :=
        List.filter_eq_nil_iff.mpr fun m hm => hn m hm name hname
      rw [Node.forestDescendants, List.filter_append, ih hns, n.descendants_eq_cons,
        List.filter_cons, List.filter_cons, hinside]
      split <;> rfl

/-- Outside the element of the connection there are no elements. -/
theorem elements_of_nodes {before after : List Node} (name : String)
    (hnodes : d.nodes = before ++ .element connectionName content :: after)
    (houtside : ∀ n ∈ before ++ after, ∀ name, ¬ n.isElement name) :
    d.elements name =
      (Node.element connectionName content).descendants.filter (·.isElement name) := by
  have hempty {ns : List Node} (hns : ∀ n ∈ ns, ∀ name, ¬ n.isElement name) :
      (Node.forestDescendants ns).filter (·.isElement name) = [] := by
    rw [List.filter_eq_nil_iff, Node.forestDescendants_eq_flatMap]
    intro m hm
    obtain ⟨n, hn, hm⟩ := List.mem_flatMap.mp hm
    cases n with
    | element name' children => exact absurd (beq_self_eq_true name') (hns _ hn name')
    | _ =>
        rw [List.mem_singleton.mp hm]
        exact hns _ hn name
  have hbefore := hempty fun n hn => houtside n (List.mem_append_left after hn)
  have hafter := hempty fun n hn => houtside n (List.mem_append_right before hn)
  rw [Xml.Document.elements, hnodes, Node.forestDescendants_eq_flatMap, List.flatMap_append,
    List.flatMap_cons, ← Node.forestDescendants_eq_flatMap, ← Node.forestDescendants_eq_flatMap,
    List.filter_append, List.filter_append, hbefore, hafter, List.nil_append, List.append_nil]

theorem usesBgp_of_rendersContent (h : g.RendersContent content) :
    usesBgp (.element connectionName content) = g.isBgp := by
  have hfind : (Node.element connectionName content).descendants.find?
      (·.isElement attributesName) = (content.filter (·.isElement attributesName)).head? := by
    have hname : ¬ connectionName == attributesName := by decide
    rw [← List.head?_filter, Node.filter_descendants_element, if_neg hname,
      filter_forestDescendants_of_shallow (by decide) h.shallow]
  rw [usesBgp, hfind]
  cases hbgp : g.isBgp with
  | true =>
      have hmarkless := h.bgp hbgp
      cases hattributes : content.filter (·.isElement attributesName) with
      | nil => rfl
      | cons n ns =>
          have hn := hmarkless n (by rw [hattributes]; exact List.mem_cons_self ..)
          simp only [List.head?_cons, hn]
          rfl
  | false =>
      obtain ⟨children, before, after, hattributes, -, -, htext⟩ := h.static (by simp [hbgp])
      have hsplit : before ++ staticText.toList ++ after =
          before ++ staticMarker.toList ++ ("VPNConnection".toList ++ after) := by
        simp [staticText, staticMarker]
      have hmark : Xml.hasMark staticMarker.toList (Node.forestText children) := by
        rw [htext, hsplit]
        exact Xml.hasMark_of_append (by decide) _ _
      rw [hattributes]
      simp only [List.head?_cons, Node.textContent, hmark]
      rfl

/-- What a document was made to say is read from it. -/
theorem ofDocument?_of_renders (hg : ∀ t ∈ g.tunnels, t.IsPresentable) (h : g.Renders d) :
    ofDocument? d = some g := by
  obtain ⟨before, content, after, hnodes, houtside, hcontent⟩ := h
  have hconnection : d.elements connectionName =
      .element connectionName content ::
        (Node.forestDescendants content).filter (·.isElement connectionName) := by
    have hname : connectionName == connectionName := beq_self_eq_true connectionName
    rw [elements_of_nodes connectionName hnodes houtside, Node.filter_descendants_element,
      if_pos hname]
  have htunnels : d.elements tunnelName = content.filter (·.isElement tunnelName) := by
    have hname : ¬ connectionName == tunnelName := by decide
    rw [elements_of_nodes tunnelName hnodes houtside, Node.filter_descendants_element,
      if_neg hname, filter_forestDescendants_of_shallow (by decide) hcontent.shallow]
  have hread : (content.filter (·.isElement tunnelName)).map TunnelElement.ofNode =
      g.tunnels := by
    have hlaid := hcontent.tunnels
    generalize content.filter (·.isElement tunnelName) = ns at hlaid
    revert hg
    generalize g.tunnels = ts at hlaid
    intro hg
    induction hlaid with
    | nil => rfl
    | cons hn _ ih =>
        obtain ⟨children, rfl, hchildren⟩ := hn
        obtain ⟨ht, hts⟩ := List.forall_mem_cons.mp hg
        rw [List.map_cons, TunnelElement.ofNode_of_laidOut ht hchildren, ih hts]
  rw [ofDocument?, hconnection, htunnels, hread]
  simp only [usesBgp_of_rendersContent hcontent]

end GatewayDocument

end SiteVpn
