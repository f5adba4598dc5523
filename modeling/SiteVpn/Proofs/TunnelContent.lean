import SiteVpn.Proofs.Layout

/-!
# The content of one tunnel

The elements of tunnels are looked for in the whole document, and the attributes that say whether
a connection uses BGP in the whole element of the connection. Still, what the element of a tunnel
holds decides the fields of that tunnel only, as long as there are no elements inside of it that
are looked for in this way, and it is not inside of the attributes or another tunnel itself.

## Implementation notes

Documents that differ in the content of one element are one place with two nodes put there. What
is found in such a document is a list of elements of which those before and after the place are
the same for both nodes.
-/

namespace SiteVpn

open Xml (Node)

namespace Xml

/-- A place for a node in a list of nodes or inside of one of them. -/
inductive Place where
  | head (after : List Node)
  | inside (name : String) (place : Place) (after : List Node)
  | next (n : Node) (place : Place)

namespace Place

/-- The list with a node at the place. -/
def fill : Place → Node → List Node
  | .head after, e => e :: after
  | .inside name place after, e => .element name (place.fill e) :: after
  | .next n place, e => n :: place.fill e

/-- The names of the elements that the place is inside of. -/
def names : Place → List String
  | .head _ => []
  | .inside name place _ => name :: place.names
  | .next _ place => place.names

/-- How many elements of a name begin before the place. -/
def index (name : String) : Place → Nat
  | .head _ => 0
  | .inside name' place _ => place.index name + if name' == name then 1 else 0
  | .next n place => n.descendants.countP (·.isElement name) + place.index name

variable {name : String} {e e' : Node}

/-- Every element that is found in a list is at a place of it. -/
theorem exists_fill_of_getElem? {ns : List Node} {k : Nat}
    (h : ((Node.forestDescendants ns).filter (·.isElement name))[k]? = some e) :
    ∃ place : Place, ns = place.fill e ∧ place.index name = k := by
  match ns with
  | [] => cases h
  | n :: ns =>
      rw [Node.forestDescendants, List.filter_append, List.getElem?_append] at h
      split at h
      case isFalse hk =>
        -- the elements of the first node come before all others
        obtain ⟨place, rfl, hindex⟩ := exists_fill_of_getElem? h
        refine ⟨.next n place, rfl, ?_⟩
        rw [index, hindex, List.countP_eq_length_filter]
        omega
      case isTrue =>
        cases n with
        | element name' children =>
            rw [Node.filter_descendants_element] at h
            split at h
            case isFalse hname =>
              obtain ⟨place, rfl, hindex⟩ := exists_fill_of_getElem? h
              exact ⟨.inside name' place ns, rfl, by rw [index, if_neg hname, hindex, Nat.add_zero]⟩
            case isTrue hname =>
              cases k with
              | zero => exact ⟨.head ns, by rw [Option.some.inj h, fill], rfl⟩
              | succ k =>
                  obtain ⟨place, rfl, hindex⟩ := exists_fill_of_getElem? h
                  exact ⟨.inside name' place ns, rfl, by rw [index, if_pos hname, hindex]⟩
        | _ => cases h

/-- Around a place that is inside of no element of a name, the same elements of that name are
found whichever node is there. -/
theorem exists_filter_fill {place : Place} (hname : name ∉ place.names) :
    ∃ before after, before.length = place.index name ∧ ∀ e,
      (Node.forestDescendants (place.fill e)).filter (·.isElement name) =
        before ++ e.descendants.filter (·.isElement name) ++ after := by
  induction place with
  | head after =>
      refine ⟨[], (Node.forestDescendants after).filter (·.isElement name), rfl, fun e => ?_⟩
      rw [fill, Node.forestDescendants, List.filter_append, List.nil_append]
  | inside name' place after ih =>
      have hne : ¬ name' == name := fun h => hname (eq_of_beq h ▸ List.mem_cons_self ..)
      obtain ⟨first, last, hindex, h⟩ := ih fun h => hname (List.mem_cons_of_mem _ h)
      refine ⟨first, last ++ (Node.forestDescendants after).filter (·.isElement name), ?_, ?_⟩
      · rw [index, if_neg hne, hindex, Nat.add_zero]
      · intro e
        rw [fill, Node.forestDescendants, List.filter_append, Node.filter_descendants_element,
          if_neg hne, h, List.append_assoc _ last]
  | next n place ih =>
      obtain ⟨first, last, hindex, h⟩ := ih hname
      refine ⟨n.descendants.filter (·.isElement name) ++ first, last, ?_, ?_⟩
      · rw [List.length_append, hindex, index, List.countP_eq_length_filter]
      · intro e
        rw [fill, Node.forestDescendants, List.filter_append, h]
        simp only [List.append_assoc]

/-- What is made of the elements of a name around a place can only differ for elements that the
place is inside of. -/
theorem map_filter_fill {α : Type} {f : Node → α} {place : Place}
    (he : e.descendants.filter (·.isElement name) = [])
    (he' : e'.descendants.filter (·.isElement name) = [])
    (hf : ∀ inner : Place, inner.names ⊆ place.names →
      f (.element name (inner.fill e)) = f (.element name (inner.fill e'))) :
    ((Node.forestDescendants (place.fill e)).filter (·.isElement name)).map f =
      ((Node.forestDescendants (place.fill e')).filter (·.isElement name)).map f := by
  induction place with
  | head after =>
      simp only [fill, Node.forestDescendants, List.filter_append, he, he']
  | inside name' place after ih =>
      have hinner := ih fun inner hsubset => hf inner (List.subset_cons_of_subset _ hsubset)
      have hplace := hf place (List.subset_cons_self ..)
      simp only [fill, Node.forestDescendants, List.filter_append, Node.filter_descendants_element,
        List.map_append]
      congr 1
      split
      case isFalse => exact hinner
      case isTrue hname =>
        obtain rfl := eq_of_beq hname
        rw [List.map_cons, List.map_cons, hinner, hplace]
  | next n place ih =>
      simp only [fill, Node.forestDescendants, List.filter_append, List.map_append, ih hf]

end Place

end Xml

namespace GatewayDocument

open Xml (Place)

variable {place : Place} {content content' : List Node}

/-- Whether nothing inside of a list of nodes is looked for at any depth. -/
def IsPlain (content : List Node) : Prop :=
  ∀ n ∈ Node.forestDescendants content, ∀ name ∈ reservedNames, ¬ n.isElement name

instance : Decidable (IsPlain content) :=
  inferInstanceAs (Decidable (∀ n ∈ Node.forestDescendants content, ∀ name ∈ reservedNames,
    ¬ n.isElement name))

/-- The document with the element of a tunnel at a place. -/
def withTunnel (place : Place) (content : List Node) : Xml.Document :=
  ⟨place.fill (.element tunnelName content)⟩

/-- The element of a tunnel is the only one in itself that is looked for at any depth. -/
theorem IsPlain.filter_descendants (h : IsPlain content) {name : String}
    (hname : name ∈ reservedNames) :
    (Node.element tunnelName content).descendants.filter (·.isElement name) =
      if tunnelName == name then [.element tunnelName content] else [] := by
  rw [Node.filter_descendants_element, List.filter_eq_nil_iff.mpr fun n hn => h n hn name hname]

theorem elements_tunnelName_withTunnel (htunnel : tunnelName ∉ place.names) :
    ∃ before after, before.length = place.index tunnelName ∧ ∀ content, IsPlain content →
      (withTunnel place content).elements tunnelName =
        before ++ .element tunnelName content :: after := by
  obtain ⟨before, after, hindex, h⟩ := Place.exists_filter_fill htunnel
  refine ⟨before, after, hindex, fun content hcontent => ?_⟩
  rw [Xml.Document.elements, withTunnel, h, hcontent.filter_descendants (by decide),
    if_pos (by decide), List.append_assoc, List.singleton_append]

/-- Only the attributes in the element of a connection decide whether it uses BGP. -/
theorem usesBgp_congr {c c' : Node}
    (h : c.descendants.filter (·.isElement attributesName) =
      c'.descendants.filter (·.isElement attributesName)) : usesBgp c = usesBgp c' := by
  rw [usesBgp, usesBgp, ← List.head?_filter, ← List.head?_filter, h]

theorem map_usesBgp_withTunnel (hattributes : attributesName ∉ place.names)
    (hcontent : IsPlain content) (hcontent' : IsPlain content') :
    ((withTunnel place content).elements connectionName).map usesBgp =
      ((withTunnel place content').elements connectionName).map usesBgp := by
  have hnone {name : String} {content : List Node} (h : IsPlain content)
      (hname : name ∈ [connectionName, attributesName]) :
      (Node.element tunnelName content).descendants.filter (·.isElement name) = [] := by
    rw [h.filter_descendants (List.mem_append_left [tunnelName] hname), if_neg]
    revert name
    decide
  apply Place.map_filter_fill (hnone hcontent (by decide)) (hnone hcontent' (by decide))
  intro inner hinner
  obtain ⟨before, after, -, h⟩ := Place.exists_filter_fill fun h => hattributes (hinner h)
  apply usesBgp_congr
  rw [Node.filter_descendants_element, Node.filter_descendants_element, h, h,
    hnone hcontent (by decide), hnone hcontent' (by decide)]
  rfl

theorem ofDocument?_eq (d : Xml.Document) :
    ofDocument? d = ((d.elements connectionName).map usesBgp).head?.map
      fun isBgp => ⟨isBgp, (d.elements tunnelName).map .ofNode⟩ := by
  rw [ofDocument?]
  cases d.elements connectionName <;> rfl

/-- Another content of the element of a tunnel changes that tunnel only. -/
theorem ofDocument?_withTunnel (htunnel : tunnelName ∉ place.names)
    (hattributes : attributesName ∉ place.names) (hcontent : IsPlain content)
    (hcontent' : IsPlain content') :
    ofDocument? (withTunnel place content') =
      (ofDocument? (withTunnel place content)).map fun g =>
        { g with tunnels := g.tunnels.set (place.index tunnelName)
                  (.ofNode (.element tunnelName content')) } := by
  obtain ⟨before, after, hindex, helements⟩ := elements_tunnelName_withTunnel htunnel
  rw [ofDocument?_eq, ofDocument?_eq, map_usesBgp_withTunnel hattributes hcontent hcontent',
    helements content hcontent, helements content' hcontent', Option.map_map, ← hindex]
  congr 1
  funext isBgp
  simp

/-- The tunnel is where its place is. -/
theorem getElem?_tunnels_withTunnel {g : GatewayDocument} (htunnel : tunnelName ∉ place.names)
    (hcontent : IsPlain content) (hg : ofDocument? (withTunnel place content) = some g) :
    g.tunnels[place.index tunnelName]? = some (.ofNode (.element tunnelName content)) := by
  obtain ⟨before, after, hindex, helements⟩ := elements_tunnelName_withTunnel htunnel
  rw [ofDocument?_eq, helements content hcontent] at hg
  obtain ⟨isBgp, -, rfl⟩ := Option.map_eq_some_iff.mp hg
  simp [← hindex]

/-- Every tunnel of a document has an element at some place. -/
theorem exists_withTunnel {d : Xml.Document} {e : Node} {k : Nat}
    (h : (d.elements tunnelName)[k]? = some e) :
    ∃ place content, e = .element tunnelName content ∧ d = withTunnel place content ∧
      place.index tunnelName = k := by
  obtain ⟨place, hnodes, hindex⟩ := Place.exists_fill_of_getElem? h
  have he : e.isElement tunnelName := (List.mem_filter.mp (List.mem_of_getElem? h)).2
  cases e with
  | element name content =>
      obtain rfl := eq_of_beq he
      exact ⟨place, content, rfl, congrArg Xml.Document.mk hnodes, hindex⟩
  | _ => cases he

/-- Every tunnel that is found in a document has an element at a place of it. If the place is in
no other such element and not in attributes, and neither the content of the element nor another
one has elements that are looked for at any depth, then the document with the other content is
accepted if the first one is, it uses BGP if the first one does, and it has as many tunnels, of
which all but the one at the place are those of the first one. -/
theorem tunnel_content_is_isolated :
    (∀ id text g, read id text = .ok g ↔
      (Xml.Document.read text.toList).bind ofDocument? = some g) ∧
    (∀ (d : Xml.Document) e k, (d.elements tunnelName)[k]? = some e →
      ∃ place content, e = .element tunnelName content ∧ d = withTunnel place content ∧
        place.index tunnelName = k) ∧
    ∀ place content content' g, tunnelName ∉ place.names → attributesName ∉ place.names →
      IsPlain content → IsPlain content' →
      ofDocument? (withTunnel place content) = some g →
      ∃ g', ofDocument? (withTunnel place content') = some g' ∧ g'.isBgp = g.isBgp ∧
        g'.tunnels.length = g.tunnels.length ∧
        g.tunnels[place.index tunnelName]? = some (.ofNode (.element tunnelName content)) ∧
        g'.tunnels[place.index tunnelName]? = some (.ofNode (.element tunnelName content')) ∧
        ∀ k, k ≠ place.index tunnelName → g'.tunnels[k]? = g.tunnels[k]? := by
  refine ⟨fun _ _ _ => read_eq_ok_iff, fun _ _ _ => exists_withTunnel, ?_⟩
  intro place content content' g htunnel hattributes hcontent hcontent' hg
  have hg' := ofDocument?_withTunnel htunnel hattributes hcontent hcontent'
  rw [hg, Option.map_some] at hg'
  refine ⟨_, hg', rfl, List.length_set, getElem?_tunnels_withTunnel htunnel hcontent hg,
    getElem?_tunnels_withTunnel htunnel hcontent' hg', fun k hk => ?_⟩
  exact List.getElem?_set_ne hk.symm

/-- A document of two tunnels of which the second one is given another address. -/
theorem tunnel_content_is_isolated_second_tunnel :
    let address (a : String) := Node.element "customer_gateway"
      [.element "tunnel_outside_address" [.element "ip_address" [.text a.toList]]]
    let attributes := Node.element attributesName [.text staticText.toList]
    let place := Place.next (.comment []) (.inside connectionName
      (.next attributes (.next (.element tunnelName [address "198.51.100.1"]) (.head []))) [])
    let tunnel (a : String) : TunnelElement :=
      .ofNode (.element tunnelName [address a])
    (∃ place' content, Node.element tunnelName [address "198.51.100.2"] =
        .element tunnelName content ∧
      withTunnel place [address "198.51.100.2"] = withTunnel place' content ∧
      place'.index tunnelName = 1) ∧
    ofDocument? (withTunnel place [address "198.51.100.2"]) =
      some ⟨false, [tunnel "198.51.100.1", tunnel "198.51.100.2"]⟩ ∧
    ∃ g, ofDocument? (withTunnel place [address "203.0.113.9"]) = some g ∧ g.isBgp = false ∧
      g.tunnels.length = 2 ∧ g.tunnels[0]? = some (tunnel "198.51.100.1") ∧
      g.tunnels[1]? = some (tunnel "203.0.113.9") := by
  intro address attributes place tunnel
  obtain ⟨-, hplace, hcontent⟩ := tunnel_content_is_isolated
  refine ⟨hplace _ _ 1 rfl, rfl, ?_⟩
  obtain ⟨g, hg, hbgp, hlength, -, htunnel, hothers⟩ :=
    hcontent place [address "198.51.100.2"] [address "203.0.113.9"] _ (by decide) (by decide)
      (by decide) (by decide) rfl
  exact ⟨g, hg, hbgp, hlength, hothers 0 (by decide), htunnel⟩

end GatewayDocument

end SiteVpn
