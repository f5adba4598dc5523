import Mathlib.Data.List.Forall2
import SiteVpn.Proofs.TunnelContent

/-!
# Remarks in gateway documents

Comments and instructions are remarks: they say nothing about a connection, wherever they stand.
A document that is stripped of some of them says the same, also where a remark split a value and
the two texts beside it are joined. For what is looked for are elements, and no remark is one or
holds one, and what is read of an element is all the text inside of it, in which no remark has a
part.

## Implementation notes

The elements that are found in a document and in a stripped one go in pairs, of which the second
is the first with stripped content. So a path leads to such a pair, too.
-/

namespace SiteVpn

open Xml (Node)

namespace Xml

/-- Whether a node is a comment or an instruction. -/
def Node.isRemark : Node → Bool
  | .comment _ => true
  | .instruction .. => true
  | _ => false

/-- Whether a list of nodes is another one without some of its comments and instructions, at any
depth, and with some texts joined that stand side by side in what is left. -/
inductive Strips : List Node → List Node → Prop
  | nil : Strips [] []
  | drop {n : Node} {ns ns' : List Node} (hn : n.isRemark) (h : Strips ns ns') :
      Strips (n :: ns) ns'
  | keep {n : Node} {ns ns' : List Node} (hn : ∀ name, ¬ n.isElement name) (h : Strips ns ns') :
      Strips (n :: ns) (n :: ns')
  | element {name : String} {children children' ns ns' : List Node}
      (hchildren : Strips children children') (h : Strips ns ns') :
      Strips (.element name children :: ns) (.element name children' :: ns')
  | join {ns ns' : List Node} {before after : List Char}
      (h : Strips ns (.text before :: .text after :: ns')) :
      Strips ns (.text (before ++ after) :: ns')

/-- Whether an element is another one with stripped content. -/
inductive StripsElement : Node → Node → Prop
  | mk {name : String} {children children' : List Node} (h : Strips children children') :
      StripsElement (.element name children) (.element name children')

variable {n e e' : Node} {ns ns' : List Node}

theorem Node.not_isElement_of_isRemark (hn : n.isRemark) (name : String) :
    ¬ n.isElement name := by
  cases n <;> simp_all [isRemark, isElement]

theorem Node.textContent_of_isRemark (hn : n.isRemark) : n.textContent = [] := by
  cases n <;> simp_all [isRemark, textContent]

/-- What is no element has no elements inside. -/
theorem Node.filter_descendants_of_not_isElement (hn : ∀ name, ¬ n.isElement name)
    (name : String) : n.descendants.filter (·.isElement name) = [] := by
  cases n with
  | element name' children => exact absurd (beq_self_eq_true name') (hn name')
  | _ => exact List.filter_cons_of_neg (hn name)

/-- All the text is kept. -/
theorem Strips.forestText_eq (h : Strips ns ns') : Node.forestText ns' = Node.forestText ns := by
  induction h with
  | nil => rfl
  | drop hn _ ih => rw [ih, Node.forestText, Node.textContent_of_isRemark hn, List.nil_append]
  | keep hn _ ih => rw [Node.forestText, Node.forestText, ih]
  | element _ _ ihchildren ih =>
      simp only [Node.forestText, Node.textContent, ihchildren, ih]
  | join _ ih =>
      rw [← ih]
      simp only [Node.forestText, Node.textContent, List.append_assoc]

/-- Elements side by side are kept, each with stripped content. -/
theorem Strips.filter (h : Strips ns ns') (name : String) :
    List.Forall₂ StripsElement (ns.filter (·.isElement name)) (ns'.filter (·.isElement name)) := by
  induction h with
  | nil => exact .nil
  | drop hn _ ih =>
      rw [List.filter_cons_of_neg (Node.not_isElement_of_isRemark hn name)]
      exact ih
  | keep hn _ ih =>
      rw [List.filter_cons_of_neg (hn name), List.filter_cons_of_neg (hn name)]
      exact ih
  | element hchildren _ _ ih =>
      simp only [List.filter_cons, Node.isElement]
      split
      · exact .cons (.mk hchildren) ih
      · exact ih
  | join _ ih => exact ih

/-- So are the elements at any depth, in the order of the document. -/
theorem Strips.filter_forestDescendants (h : Strips ns ns') (name : String) :
    List.Forall₂ StripsElement ((Node.forestDescendants ns).filter (·.isElement name))
      ((Node.forestDescendants ns').filter (·.isElement name)) := by
  induction h with
  | nil => exact .nil
  | drop hn _ ih =>
      have hempty := Node.filter_descendants_of_not_isElement
        (Node.not_isElement_of_isRemark hn) name
      rw [Node.forestDescendants, List.filter_append, hempty, List.nil_append]
      exact ih
  | keep hn _ ih =>
      have hempty := Node.filter_descendants_of_not_isElement hn name
      rw [Node.forestDescendants, Node.forestDescendants, List.filter_append, List.filter_append,
        hempty]
      exact ih
  | element hchildren _ ihchildren ih =>
      rw [Node.forestDescendants, Node.forestDescendants, List.filter_append, List.filter_append,
        Node.filter_descendants_element, Node.filter_descendants_element]
      apply List.rel_append _ ih
      split
      · exact .cons (.mk hchildren) ihchildren
      · exact ihchildren
  | join _ ih => exact ih

theorem StripsElement.textContent_eq (h : StripsElement e e') :
    e'.textContent = e.textContent := by
  cases h with
  | mk h => exact h.forestText_eq

theorem StripsElement.filter_descendants (h : StripsElement e e') (name : String) :
    List.Forall₂ StripsElement (e.descendants.filter (·.isElement name))
      (e'.descendants.filter (·.isElement name)) := by
  cases h with
  | mk h =>
      rw [Node.filter_descendants_element, Node.filter_descendants_element]
      split
      · exact .cons (.mk h) (h.filter_forestDescendants name)
      · exact h.filter_forestDescendants name

/-- The first elements of paired lists are a pair, if there are any. -/
theorem rel_head?_of_forall₂ {es es' : List Node} (h : List.Forall₂ StripsElement es es') :
    Option.Rel StripsElement es.head? es'.head? := by
  cases h with
  | nil => exact .none
  | cons h _ => exact .some h

/-- A path leads to an element in both or in neither. -/
theorem StripsElement.follow (h : StripsElement e e') (path : List String) :
    Option.Rel StripsElement (e.follow path) (e'.follow path) := by
  induction path generalizing e e' with
  | nil => exact .some h
  | cons name path ih =>
      cases h with
      | mk h =>
          have hfirst := rel_head?_of_forall₂ (h.filter name)
          rw [List.head?_filter, List.head?_filter] at hfirst
          rw [Node.follow, Node.follow, Node.children, Node.children]
          revert hfirst
          generalize List.find? _ _ = first
          generalize List.find? _ _ = first'
          rintro (h | ⟨h⟩)
          · exact ih h
          · exact .none

end Xml

open Xml (Strips StripsElement)

variable {e e' : Node}

/-- A field is read off an element as it is off the stripped one. -/
theorem TunnelElement.textAt_eq_of_strips (h : StripsElement e e') (path : List String) :
    textAt e' path = textAt e path := by
  have hfollow := h.follow path
  unfold textAt
  revert hfollow
  generalize e.follow path = n
  generalize e'.follow path = n'
  rintro (h | ⟨h⟩)
  · exact congrArg fieldText h.textContent_eq
  · rfl

theorem TunnelElement.ofNode_eq_of_strips (h : StripsElement e e') : ofNode e' = ofNode e := by
  apply fields_injective
  rw [fields_ofNode, fields_ofNode]
  exact List.map_congr_left fun path _ => textAt_eq_of_strips h path

/-! ## Texts without blanks at their ends -/

namespace Text

variable {cs : List Char} {c : Char}

theorem not_isBlank_of_head?_trimStart (h : c ∈ (trimStart cs).head?) : ¬ isBlank c := by
  have hfirst := List.head?_dropWhile_not isBlank cs
  rw [trimStart, Option.mem_def] at h
  rw [h] at hfirst
  exact Bool.eq_false_iff.mp hfirst

theorem trimEnd_prefix (cs : List Char) : trimEnd cs <+: cs := by
  rw [trimEnd, ← List.reverse_suffix, List.reverse_reverse]
  exact List.dropWhile_suffix isBlank

/-- Trimming leaves no blank at either end. -/
theorem not_isBlank_of_head?_trim (h : c ∈ (trim cs).head?) : ¬ isBlank c := by
  obtain ⟨rest, hrest⟩ := trimEnd_prefix (trimStart cs)
  rw [trim, Option.mem_def] at h
  have hfirst : (trimStart cs).head? = some c := by
    rw [← hrest, List.head?_append, h]
    rfl
  exact not_isBlank_of_head?_trimStart hfirst

theorem not_isBlank_of_getLast?_trim (h : c ∈ (trim cs).getLast?) : ¬ isBlank c := by
  rw [trim, trimEnd, List.getLast?_reverse] at h
  exact not_isBlank_of_head?_trimStart h

end Text

theorem TunnelElement.isFieldText_of_fieldText {content : List Char} {s : String}
    (h : fieldText content = some s) : IsFieldText s := by
  rw [fieldText] at h
  split at h
  case h_1 => cases h
  case h_2 c cs hcs =>
    obtain rfl := Option.some.inj h
    rw [IsFieldText, String.toList_ofList, ← hcs]
    refine ⟨?_, fun _ => Text.not_isBlank_of_head?_trim, fun _ => Text.not_isBlank_of_getLast?_trim⟩
    rw [hcs]
    exact List.cons_ne_nil c cs

theorem TunnelElement.isPresentable_ofNode (e : Node) : (ofNode e).IsPresentable := by
  intro s hs
  rw [fields_ofNode] at hs
  obtain ⟨path, -, hpath⟩ := List.mem_map.mp hs
  obtain ⟨n, -, htext⟩ := Option.bind_eq_some_iff.mp hpath
  exact isFieldText_of_fieldText htext

/-! ## Documents -/

namespace GatewayDocument

variable {d d' : Xml.Document}

theorem usesBgp_eq_of_strips (h : StripsElement e e') : usesBgp e' = usesBgp e := by
  have hfirst := Xml.rel_head?_of_forall₂ (h.filter_descendants attributesName)
  rw [List.head?_filter, List.head?_filter] at hfirst
  rw [usesBgp, usesBgp]
  revert hfirst
  generalize List.find? _ _ = attributes
  generalize List.find? _ _ = attributes'
  rintro (h | ⟨h⟩)
  · simp only [h.textContent_eq]
  · rfl

/-- What is made of the elements of a name is made of those of the stripped document. -/
theorem map_elements_eq_of_strips {α : Type} {f : Node → α} (h : Strips d.nodes d'.nodes)
    (hf : ∀ e e', StripsElement e e' → f e' = f e) (name : String) :
    (d'.elements name).map f = (d.elements name).map f := by
  have hpairs := h.filter_forestDescendants name
  unfold Xml.Document.elements
  revert hpairs
  generalize List.filter _ _ = es
  generalize List.filter _ _ = es'
  intro hpairs
  induction hpairs with
  | nil => rfl
  | cons he _ ih => rw [List.map_cons, List.map_cons, hf _ _ he, ih]

theorem ofDocument?_eq_of_strips (h : Strips d.nodes d'.nodes) :
    ofDocument? d' = ofDocument? d := by
  rw [ofDocument?_eq, ofDocument?_eq,
    map_elements_eq_of_strips h (fun _ _ => usesBgp_eq_of_strips),
    map_elements_eq_of_strips h (fun _ _ => TunnelElement.ofNode_eq_of_strips)]

/-- Remarks do not show in what a document says. A document that is stripped of some of its
comments and instructions, with texts joined that they stood between, says exactly what it said
with them, and so do the texts of the two documents. Every field that it says is a text that is
not empty and has no blanks at its ends. -/
theorem remarks_do_not_show :
    (∀ d d', Strips d.nodes d'.nodes → ofDocument? d' = ofDocument? d) ∧
    (∀ id text text' d d', Xml.Document.read text.toList = some d →
      Xml.Document.read text'.toList = some d' → Strips d.nodes d'.nodes →
      read id text' = read id text) ∧
    ∀ d g, ofDocument? d = some g → ∀ t ∈ g.tunnels, ∀ s, some s ∈ t.fields →
      s ≠ "" ∧ (∀ c ∈ s.toList.head?, ¬ Text.isBlank c) ∧
        ∀ c ∈ s.toList.getLast?, ¬ Text.isBlank c := by
  refine ⟨fun d d' => ofDocument?_eq_of_strips, ?_, ?_⟩
  · intro id text text' d d' hd hd' h
    rw [read, read, hd, hd']
    dsimp only
    rw [ofDocument?_eq_of_strips h]
  · intro d g hg t ht s hs
    rw [ofDocument?_eq] at hg
    obtain ⟨isBgp, -, rfl⟩ := Option.map_eq_some_iff.mp hg
    obtain ⟨e, -, rfl⟩ := List.mem_map.mp ht
    obtain ⟨hne, hhead, hlast⟩ := TunnelElement.isPresentable_ofNode e s hs
    exact ⟨fun h => hne (h ▸ rfl), hhead, hlast⟩

/-- A document in which remarks split the marker of static routing and a key. -/
def splitMarkerDocument : Xml.Document where
  nodes := [.instruction "a".toList "b".toList, .element connectionName
    [.element attributesName
      [.text "No".toList, .comment "c".toList, .text "BGP".toList],
    .element tunnelName
      [.comment "d".toList, .element "ike"
        [.element "pre_shared_key"
          [.text " se".toList, .instruction "e".toList [], .text "cr".toList,
            .comment "f".toList, .text "et ".toList]]]]]

/-- The document with one remark left. -/
def joinedMarkerDocument : Xml.Document where
  nodes := [.element connectionName
    [.element attributesName [.text "NoBGP".toList],
    .element tunnelName
      [.comment "d".toList, .element "ike"
        [.element "pre_shared_key" [.text " secret ".toList]]]]]

/-- The text of a document of one tunnel, in which the start, the marker of the attributes and
the key of the tunnel are left open. -/
def markerDocumentText (start marker key : String) : String :=
  start ++ "<vpn_connection><vpn_connection_attributes>" ++ marker ++
    "</vpn_connection_attributes><ipsec_tunnel><!--d--><ike><pre_shared_key>" ++ key ++
    "</pre_shared_key></ike></ipsec_tunnel></vpn_connection>"

set_option maxRecDepth 4000 in
/-- The marker is found and the key is read, with the remarks and without them. -/
theorem remarks_do_not_show_split_marker :
    let text := markerDocumentText "<?a b?>" "No<!--c-->BGP" " se<?e?>cr<!--f-->et "
    let text' := markerDocumentText "" "NoBGP" " secret "
    let g : GatewayDocument :=
      ⟨false, [{ (default : TunnelElement) with preSharedKey := some "secret" }]⟩
    Strips splitMarkerDocument.nodes joinedMarkerDocument.nodes ∧
    Xml.Document.read text.toList = some splitMarkerDocument ∧
    Xml.Document.read text'.toList = some joinedMarkerDocument ∧
    ofDocument? splitMarkerDocument = some g ∧ ofDocument? joinedMarkerDocument = some g ∧
    read "vpn-1" text' = read "vpn-1" text ∧
    ∀ c ∈ "secret".toList.head?, ¬ Text.isBlank c := by
  intro text text' g
  have htext (content : List Char) (name : String) : ¬ (Node.text content).isElement name :=
    Bool.false_ne_true
  have hmarker : Strips [.text "No".toList, .comment "c".toList, .text "BGP".toList]
      [.text "NoBGP".toList] :=
    .join (.keep (htext _) (.drop rfl (.keep (htext _) .nil)))
  have hkey : Strips
      [.text " se".toList, .instruction "e".toList [], .text "cr".toList,
        .comment "f".toList, .text "et ".toList] [.text " secret ".toList] :=
    @Strips.join _ _ " secr".toList "et ".toList (.join (.keep (htext _) (.drop rfl
      (.keep (htext _) (.drop rfl (.keep (htext _) .nil))))))
  have hstrips : Strips splitMarkerDocument.nodes joinedMarkerDocument.nodes :=
    .drop rfl (.element (.element hmarker (.element (.keep (fun _ => Bool.false_ne_true)
      (.element (.element hkey .nil) .nil)) .nil)) .nil)
  have hread : Xml.Document.read text.toList = some splitMarkerDocument := by
    -- the characters are read, since it takes long to decode the text
    rw [show text = String.ofList _ ++ String.ofList _ ++ String.ofList _ ++ String.ofList _ ++
      String.ofList _ ++ String.ofList _ from rfl]
    simp only [← String.ofList_append, String.toList_ofList]
    rfl
  have hread' : Xml.Document.read text'.toList = some joinedMarkerDocument := by
    rw [show text' = String.ofList _ ++ String.ofList _ ++ String.ofList _ ++ String.ofList _ ++
      String.ofList _ ++ String.ofList _ from rfl]
    simp only [← String.ofList_append, String.toList_ofList]
    rfl
  have hsplit : ofDocument? splitMarkerDocument = some g := by decide +kernel
  obtain ⟨hdocument, htexts, hfields⟩ := remarks_do_not_show
  have hjoined := hdocument _ _ hstrips
  rw [hsplit] at hjoined
  refine ⟨hstrips, hread, hread', hsplit, hjoined,
    htexts "vpn-1" text text' _ _ hread hread' hstrips, ?_⟩
  exact (hfields _ g hsplit _ (List.mem_singleton_self _) "secret" (by decide)).2.1

end GatewayDocument

end SiteVpn
