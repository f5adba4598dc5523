import SiteVpn.Proofs.Application
import SiteVpn.Proofs.Markup

/-!
# Nothing comes from outside a document

A document cannot declare entities, and it can refer to no other than the predefined ones.
So all that is read from it is spelt in it: every character of every field stands in the text
or is what a reference in the text stands for.

## Implementation notes

The characters of a token are spelt by what the token was scanned from. Reading keeps an
invariant on the nodes so far, that all their characters are allowed, and it is enough that
a line feed is allowed where a carriage return is.
-/

namespace SiteVpn.Xml

/-- A character stands in a text, or a reference in the text stands for it. -/
def Spells (text : List Char) (c : Char) : Prop :=
  c ∈ text ∨ ∃ name, '&' :: (name ++ [';']) <:+: text ∧ referent? name = some c

/-- A character is spelt by a text, or is the line feed that a carriage return becomes. -/
def Gives (text : List Char) (c : Char) : Prop :=
  Spells text c ∨ c = '\n' ∧ Spells text '\r'

theorem Spells.mono {text text' : List Char} {c : Char} (h : Spells text c)
    (hpart : text <:+: text') : Spells text' c := by
  rcases h with h | ⟨name, h, hc⟩
  · exact .inl (hpart.subset h)
  · exact .inr ⟨name, h.trans hpart, hc⟩

theorem gives_lineFeed {text : List Char} (h : Gives text '\r') : Gives text '\n' := by
  rcases h with h | ⟨h, -⟩
  · exact .inr ⟨rfl, h⟩
  · exact absurd h (by decide)

/-! ## Character data -/

theorem spells_of_pieces? {cs : List Char} {ps : List Piece} (h : pieces? cs = some ps) :
    ∀ p ∈ ps, Spells cs p.char := by
  induction cs generalizing ps with
  | nil =>
      obtain rfl : [] = ps := Option.some.inj h
      exact fun p hp => absurd hp List.not_mem_nil
  | cons c cs ih =>
      have htail : cs <:+: c :: cs := (List.suffix_cons c cs).isInfix
      by_cases hc : c = '&'
      · subst hc
        obtain ⟨name, after, rest, d, qs, hcs, hd, rfl, hpieces⟩ := pieces?_ampersand_eq_some h
        intro p hp
        rcases List.mem_cons.mp hp with rfl | hp
        · refine .inr ⟨name, ?_, hd⟩
          rw [hcs]
          exact ⟨[], after ++ rest, by simp⟩
        · refine (ih hpieces p ?_).mono htail
          rw [List.map_append, List.append_assoc, List.map_cons]
          exact List.mem_append_right _ (List.mem_cons_of_mem _ hp)
      · rw [pieces?_cons hc] at h
        obtain ⟨qs, hqs, rfl⟩ := Option.map_eq_some_iff.mp h
        intro p hp
        rcases List.mem_cons.mp hp with rfl | hp
        · exact .inl (List.mem_cons_self ..)
        · exact (ih hqs p hp).mono htail

theorem map_char_keepAfterReferences (ps : List Piece) :
    (keepAfterReferences ps).map Piece.char = ps.map Piece.char := by
  fun_induction keepAfterReferences ps with
  | case1 c d ps ih => simp [ih, Piece.char]
  | case2 p ps _ ih => simp [ih]
  | case3 => rfl

/-- Joining lines leaves characters out and turns carriage returns into line feeds. -/
theorem mem_joinLines {ps : List Piece} {c : Char} (h : c ∈ joinLines ps) :
    c ∈ ps.map Piece.char ∨ c = '\n' ∧ '\r' ∈ ps.map Piece.char := by
  have hmono {qs ps : List Piece} (hsub : qs ⊆ ps)
      (h : c ∈ qs.map Piece.char ∨ c = '\n' ∧ '\r' ∈ qs.map Piece.char) :
      c ∈ ps.map Piece.char ∨ c = '\n' ∧ '\r' ∈ ps.map Piece.char :=
    h.imp (List.map_subset _ hsub ·) (And.imp_right (List.map_subset _ hsub ·))
  fun_induction joinLines ps with
  | case1 => cases h
  | case2 p =>
      obtain rfl := List.mem_singleton.mp h
      split
      case isTrue hp => exact .inr ⟨rfl, by simp [hp, Piece.char]⟩
      case isFalse => exact .inl (by simp)
  | case3 p ps hp ih =>
      rcases List.mem_cons.mp h with rfl | h
      · exact .inr ⟨rfl, by simp [hp]⟩
      · exact hmono (fun q hq => by simp [hq]) (ih h)
  | case4 p c' ps hp _ ih =>
      rcases List.mem_cons.mp h with rfl | h
      · exact .inr ⟨rfl, by simp [hp]⟩
      · exact hmono (List.subset_cons_self ..) (ih h)
  | case5 p c' ps _ ih =>
      rcases List.mem_cons.mp h with rfl | h
      · exact .inl (by simp)
      · exact hmono (List.subset_cons_self ..) (ih h)
  | case6 p q ps _ ih =>
      rcases List.mem_cons.mp h with rfl | h
      · exact .inl (by simp)
      · exact hmono (List.subset_cons_self ..) (ih h)

theorem mem_lineEnds {ps : List Piece} {c : Char} (h : c ∈ lineEnds ps) :
    c ∈ ps.map Piece.char ∨ c = '\n' ∧ '\r' ∈ ps.map Piece.char := by
  rw [← map_char_keepAfterReferences ps]
  exact mem_joinLines h

/-! ## Tokens -/

namespace Token

/-- The characters of a token that can become text. -/
def characters : Token → List Char
  | .text pieces => pieces.map Piece.char
  | .cdata content => content
  | _ => []

theorem characters_of_scanTag {fuel : Nat} {cs rest : List Char} {token : Token}
    (h : scanTag fuel cs = some (token, rest)) : token.characters = [] := by
  obtain ⟨_, -, h⟩ := Option.bind_eq_some_iff.mp h
  obtain ⟨⟨attributes, isEmpty, _⟩, -, h⟩ := Option.bind_eq_some_iff.mp h
  cases h
  cases isEmpty <;> rfl

theorem characters_of_scanCloseTag {cs rest : List Char} {token : Token}
    (h : scanCloseTag cs = some (token, rest)) : token.characters = [] := by
  obtain ⟨_, -, h⟩ := Option.bind_eq_some_iff.mp h
  dsimp only at h
  split at h
  case h_1 =>
    cases h
    rfl
  case h_2 => cases h

theorem spells_of_scanText {cs rest : List Char} {token : Token}
    (h : scanText cs = some (token, rest)) :
    rest <:+ cs ∧ ∀ c ∈ token.characters, Spells cs c := by
  rw [scanText_eq] at h
  split at h
  case isTrue => cases h
  case isFalse =>
    obtain ⟨ps, hps, heq⟩ := Option.map_eq_some_iff.mp h
    cases heq
    refine ⟨List.dropWhile_suffix _, fun c hc => ?_⟩
    obtain ⟨p, hp, rfl⟩ := List.mem_map.mp hc
    exact (spells_of_pieces? hps p hp).mono (List.takeWhile_prefix _).isInfix

/-- A token is scanned from the start of a text, which spells its characters. -/
theorem spells_of_scan {fuel : Nat} {cs rest : List Char} {token : Token}
    (h : scan fuel cs = some (token, rest)) :
    rest <:+ cs ∧ ∀ c ∈ token.characters, Spells cs c := by
  have hnone (h : token.characters = []) : ∀ c ∈ token.characters, Spells cs c := by
    rw [h]
    exact fun c hc => absurd hc List.not_mem_nil
  cases scans_of_scan h with
  | @comment cs _ _ h =>
      obtain ⟨content, rfl, hbreak⟩ := breakAt_of_scanComment h
      obtain rfl := breakAt_eq_some hbreak
      exact ⟨(List.suffix_append _ rest).trans (List.suffix_append "<!--".toList _), hnone rfl⟩
  | @cdata cs content _ hbreak =>
      obtain rfl := breakAt_eq_some hbreak
      refine ⟨(List.suffix_append _ rest).trans (List.suffix_append "<![CDATA[".toList _), ?_⟩
      intro c hc
      refine .inl (List.mem_append_right "<![CDATA[".toList ?_)
      exact List.mem_append_left rest (List.mem_append_left _ hc)
  | @instruction cs _ _ h =>
      obtain ⟨before, after, target, content, rfl, -, rfl, hbreak⟩ :=
        breakAt_of_scanInstruction h
      obtain rfl := breakAt_eq_some hbreak
      refine ⟨?_, hnone rfl⟩
      exact ((List.suffix_append _ rest).trans (List.suffix_append before _)).trans
        (List.suffix_append "<?".toList _)
  | @closeTag cs _ _ h =>
      refine ⟨?_, hnone (characters_of_scanCloseTag h)⟩
      have hsuffix := (List.suffix_cons '>' rest).trans (reaches_scanCloseTag h).isSuffix
      exact hsuffix.trans (List.suffix_append "</".toList cs)
  | @tag cs _ _ _ _ h =>
      refine ⟨?_, hnone (characters_of_scanTag h)⟩
      have hsuffix := (List.suffix_cons '>' rest).trans (reaches_scanTag h).isSuffix
      exact hsuffix.trans (List.suffix_cons '<' cs)
  | text _ h => exact spells_of_scanText h

/-- A text spells the characters of all of its tokens. -/
theorem spells_of_scanAll {fuel : Nat} {cs : List Char} {tokens : List Token}
    (h : scanAll fuel cs = some tokens) :
    ∀ token ∈ tokens, ∀ c ∈ token.characters, Spells cs c := by
  induction fuel generalizing cs tokens with
  | zero =>
      cases cs with
      | nil =>
          cases h
          exact fun token htoken => absurd htoken List.not_mem_nil
      | cons c cs => cases h
  | succ fuel ih =>
      cases cs with
      | nil =>
          cases h
          exact fun token htoken => absurd htoken List.not_mem_nil
      | cons c cs =>
          obtain ⟨⟨first, rest⟩, hscan, h⟩ := Option.bind_eq_some_iff.mp h
          obtain ⟨others, hothers, h⟩ := Option.bind_eq_some_iff.mp h
          cases h
          obtain ⟨hsuffix, hfirst⟩ := spells_of_scan hscan
          intro token htoken
          rcases List.mem_cons.mp htoken with rfl | htoken
          · exact hfirst
          · exact fun d hd => (ih hothers token htoken d hd).mono hsuffix.isInfix

theorem isSuffix_of_skipPreamble {cs rest : List Char} (h : skipPreamble cs = some rest) :
    rest <:+ cs := by
  have hmark : skipByteOrderMark cs <:+ cs := by
    unfold skipByteOrderMark
    split
    case h_1 => exact List.suffix_cons _ _
    case h_2 => exact List.suffix_rfl
  rw [skipPreamble] at h
  split at h
  case isTrue =>
    have hdeclaration : rest <:+ '?' :: '>' :: rest := List.suffix_append "?>".toList rest
    have hreached := (reaches_skipDeclaration h).isSuffix.trans (List.drop_suffix 5 _)
    exact (hdeclaration.trans hreached).trans hmark
  case isFalse =>
    cases h
    exact hmark

theorem spells_of_ofText {cs : List Char} {tokens : List Token} (h : ofText cs = some tokens) :
    ∀ token ∈ tokens, ∀ c ∈ token.characters, Spells cs c := by
  rw [ofText] at h
  split at h
  case isFalse => cases h
  case isTrue =>
    obtain ⟨rest, hrest, h⟩ := Option.bind_eq_some_iff.mp h
    have hpart := (isSuffix_of_skipPreamble hrest).isInfix
    exact fun token htoken c hc => (spells_of_scanAll h token htoken c hc).mono hpart

end Token

/-! ## Nodes -/

namespace Node

mutual

theorem mem_textContent_of_descendant {c : Char} {m : Node} :
    ∀ {n : Node}, m ∈ n.descendants → c ∈ m.textContent → c ∈ n.textContent
  | .element name children, hm, hc => by
      rcases List.mem_cons.mp hm with rfl | hm
      · exact hc
      · exact mem_forestText_of_descendant hm hc
  | .text content, hm, hc => by
      obtain rfl := List.mem_singleton.mp hm
      exact hc
  | .comment content, hm, hc => by
      obtain rfl := List.mem_singleton.mp hm
      exact hc
  | .instruction target content, hm, hc => by
      obtain rfl := List.mem_singleton.mp hm
      exact hc

theorem mem_forestText_of_descendant {c : Char} {m : Node} :
    ∀ {ns : List Node}, m ∈ forestDescendants ns → c ∈ m.textContent → c ∈ forestText ns
  | [], hm, _ => absurd hm List.not_mem_nil
  | n :: ns, hm, hc => by
      rw [forestText]
      rcases List.mem_append.mp hm with hm | hm
      · exact List.mem_append_left _ (mem_textContent_of_descendant hm hc)
      · exact List.mem_append_right _ (mem_forestText_of_descendant hm hc)

end

theorem mem_textContent_of_follow {path : List String} {n m : Node} {c : Char}
    (h : follow path n = some m) (hc : c ∈ m.textContent) : c ∈ n.textContent := by
  induction path generalizing n with
  | nil =>
      obtain rfl := Option.some.inj h
      exact hc
  | cons name path ih =>
      obtain ⟨child, hchild, hrest⟩ := Option.bind_eq_some_iff.mp h
      have hmem := List.mem_of_find?_eq_some hchild
      cases n with
      | element name children =>
          rw [textContent, forestText_eq_flatMap]
          exact List.mem_flatMap.mpr ⟨child, hmem, ih hrest⟩
      | text => exact absurd hmem List.not_mem_nil
      | comment => exact absurd hmem List.not_mem_nil
      | instruction => exact absurd hmem List.not_mem_nil

end Node

/-! ## Reading -/

namespace ReadState

/-- All text read so far is made of characters that are allowed. -/
structure Allows (allowed : Char → Prop) (s : ReadState) : Prop where
  outside : ∀ n ∈ s.outside, ∀ c ∈ n.textContent, allowed c
  inside : ∀ e ∈ s.stack, ∀ n ∈ e.before, ∀ c ∈ n.textContent, allowed c

variable {allowed : Char → Prop} {s s' : ReadState}

theorem allows_start : start.Allows allowed where
  outside _ hn := absurd hn List.not_mem_nil
  inside _ he := absurd he List.not_mem_nil

theorem Allows.add (h : s.Allows allowed) {n : Node} (hn : ∀ c ∈ n.textContent, allowed c) :
    (s.add n).Allows allowed := by
  unfold ReadState.add
  split
  case h_1 =>
    refine ⟨fun m hm => ?_, h.inside⟩
    rcases List.mem_cons.mp hm with rfl | hm
    · exact hn
    · exact h.outside m hm
  case h_2 e es hstack =>
    refine ⟨h.outside, fun f hf m hm => ?_⟩
    rcases List.mem_cons.mp hf with rfl | hf
    · rcases List.mem_cons.mp hm with rfl | hm
      · exact hn
      · exact h.inside e (by simp [hstack]) m hm
    · exact h.inside f (by simp [hstack, hf]) m hm

theorem Allows.enter (h : s.Allows allowed) {name : QName} {attributes : List Attribute}
    (henter : s.enter name attributes = some s') : s'.Allows allowed := by
  rw [ReadState.enter] at henter
  split at henter
  case isTrue => cases henter
  case isFalse =>
    obtain ⟨inner, -, heq⟩ := Option.bind_eq_some_iff.mp henter
    cases heq
    refine ⟨h.outside, fun e he => ?_⟩
    rcases List.mem_cons.mp he with rfl | he
    · exact fun n hn => absurd hn List.not_mem_nil
    · exact h.inside e he

theorem Allows.leave (h : s.Allows allowed) {name : QName} (hleave : s.leave name = some s') :
    s'.Allows allowed := by
  rw [ReadState.leave] at hleave
  split at hleave
  case h_1 => cases hleave
  case h_2 e es hstack =>
    split at hleave
    case isFalse => cases hleave
    case isTrue =>
      cases hleave
      have hrest : ({ s with stack := es } : ReadState).Allows allowed :=
        ⟨h.outside, fun f hf => h.inside f (by simp [hstack, hf])⟩
      apply hrest.add
      intro c hc
      rw [Node.textContent, Node.forestText_eq_flatMap] at hc
      obtain ⟨n, hn, hc⟩ := List.mem_flatMap.mp hc
      exact h.inside e (by simp [hstack]) n (List.mem_reverse.mp hn) c hc

/-- Reading a token keeps to the allowed characters. -/
theorem Allows.step (h : s.Allows allowed) (hlines : allowed '\r' → allowed '\n')
    {token : Token} (htoken : ∀ c ∈ token.characters, allowed c)
    (hstep : s.step token = some s') : s'.Allows allowed := by
  have htext {ps : List Piece} (hps : ∀ c ∈ ps.map Piece.char, allowed c) :
      ∀ c ∈ (Node.text (lineEnds ps)).textContent, allowed c := by
    intro c hc
    rcases mem_lineEnds hc with hkept | ⟨hline, hreturn⟩
    · exact hps c hkept
    · rw [hline]
      exact hlines (hps '\r' hreturn)
  cases token with
  | openTag name attributes => exact h.enter hstep
  | emptyTag name attributes =>
      obtain ⟨entered, henter, hleave⟩ := Option.bind_eq_some_iff.mp hstep
      exact (h.enter henter).leave hleave
  | closeTag name => exact h.leave hstep
  | text ps =>
      rw [ReadState.step, ReadState.addText] at hstep
      split at hstep
      case isTrue =>
        split at hstep
        case isTrue =>
          cases hstep
          exact h
        case isFalse => cases hstep
      case isFalse =>
        cases hstep
        exact h.add (htext htoken)
  | cdata content =>
      rw [ReadState.step] at hstep
      split at hstep
      case isTrue => cases hstep
      case isFalse =>
        cases hstep
        have hcontent : (content.map Piece.literal).map Piece.char = content := by
          simp [Piece.char, Function.comp_def]
        apply h.add (htext _)
        rw [hcontent]
        exact htoken
  | comment content =>
      cases hstep
      exact h.add fun c hc => absurd hc List.not_mem_nil
  | instruction target content =>
      cases hstep
      exact h.add fun c hc => absurd hc List.not_mem_nil

theorem Allows.steps (h : s.Allows allowed) (hlines : allowed '\r' → allowed '\n')
    {tokens : List Token} (htokens : ∀ token ∈ tokens, ∀ c ∈ token.characters, allowed c)
    (hsteps : tokens.foldlM ReadState.step s = some s') : s'.Allows allowed := by
  induction tokens generalizing s with
  | nil =>
      cases hsteps
      exact h
  | cons token tokens ih =>
      rw [List.foldlM_cons] at hsteps
      obtain ⟨next, hstep, hrest⟩ := Option.bind_eq_some_iff.mp hsteps
      have hnext := h.step hlines (htokens token (List.mem_cons_self ..)) hstep
      exact ih hnext (fun t ht => htokens t (List.mem_cons_of_mem token ht)) hrest

end ReadState

/-- All the text of a document is given by what the document was read from. -/
theorem gives_of_read {text : List Char} {d : Document} (h : Document.read text = some d) :
    ∀ c ∈ Node.forestText d.nodes, Gives text c := by
  obtain ⟨tokens, htokens, h⟩ := Option.bind_eq_some_iff.mp h
  obtain ⟨s, hs, h⟩ := Option.bind_eq_some_iff.mp h
  split at h
  case isFalse => cases h
  case isTrue =>
    cases h
    have hspells := Token.spells_of_ofText htokens
    have hallows : s.Allows (Gives text) :=
      ReadState.allows_start.steps gives_lineFeed
        (fun token htoken c hc => .inl (hspells token htoken c hc)) hs
    intro c hc
    rw [Node.forestText_eq_flatMap] at hc
    obtain ⟨n, hn, hc⟩ := List.mem_flatMap.mp hc
    exact hallows.outside n (List.mem_reverse.mp hn) c hc

end SiteVpn.Xml

namespace SiteVpn

theorem Text.mem_of_mem_trim {cs : List Char} {c : Char} (h : c ∈ trim cs) : c ∈ cs := by
  rw [trim, trimEnd, List.mem_reverse] at h
  have hend := List.mem_reverse.mp ((List.dropWhile_sublist _).subset h)
  exact (List.dropWhile_sublist _).subset hend

namespace TunnelElement

/-- The fields of a tunnel. -/
def fields (t : TunnelElement) : List (Option String) :=
  [t.customerOutsideAddress, t.customerAsn, t.gatewayOutsideAddress, t.gatewayInsideAddress,
    t.insidePrefixLength, t.gatewayAsn, t.preSharedKey, t.ikeLifetime, t.ipsecLifetime]

/-- Where the fields of a tunnel stand below its element. -/
def fieldPaths : List (List String) :=
  [customerOutsideAddressPath, customerAsnPath, gatewayOutsideAddressPath,
    gatewayInsideAddressPath, insidePrefixLengthPath, gatewayAsnPath, preSharedKeyPath,
    ikeLifetimePath, ipsecLifetimePath]

theorem fields_ofNode (e : Xml.Node) : (ofNode e).fields = fieldPaths.map (textAt e) := rfl

theorem mem_of_textAt {e : Xml.Node} {path : List String} {value : String}
    (h : textAt e path = some value) : ∀ c ∈ value.toList, c ∈ e.textContent := by
  obtain ⟨n, hn, h⟩ := Option.bind_eq_some_iff.mp h
  have htrim : value.toList = Text.trim n.textContent := by
    rw [fieldText] at h
    split at h
    case h_1 => cases h
    case h_2 c cs hcs =>
      obtain rfl := Option.some.inj h
      rw [String.toList_ofList, hcs]
  intro c hc
  rw [htrim] at hc
  exact Xml.Node.mem_textContent_of_follow hn (Text.mem_of_mem_trim hc)

end TunnelElement

namespace GatewayDocument

theorem read_eq_ok_iff {id text : String} {g : GatewayDocument} :
    read id text = .ok g ↔ (Xml.Document.read text.toList).bind ofDocument? = some g := by
  rw [read]
  cases Xml.Document.read text.toList with
  | none => simp
  | some d => cases hg : ofDocument? d <;> simp [hg]

/-- The fields of a tunnel are text of its document. -/
theorem mem_of_fields {d : Xml.Document} {g : GatewayDocument} (hg : ofDocument? d = some g)
    {t : TunnelElement} (ht : t ∈ g.tunnels) {value : String} (hvalue : some value ∈ t.fields) :
    ∀ c ∈ value.toList, c ∈ Xml.Node.forestText d.nodes := by
  have htunnels : g.tunnels = (d.elements tunnelName).map TunnelElement.ofNode := by
    rw [ofDocument?] at hg
    split at hg
    case h_1 => cases hg
    case h_2 =>
      cases hg
      rfl
  rw [htunnels] at ht
  obtain ⟨e, he, rfl⟩ := List.mem_map.mp ht
  rw [TunnelElement.fields_ofNode] at hvalue
  obtain ⟨path, -, hpath⟩ := List.mem_map.mp hvalue
  have hdescendant := (List.mem_filter.mp he).1
  intro c hc
  exact Xml.Node.mem_forestText_of_descendant hdescendant (TunnelElement.mem_of_textAt hpath c hc)

/-- A document with a document type declaration is refused, wherever the declaration stands
outside other markup. In a document that is accepted, every ampersand outside markup starts a
reference to a predefined entity or to a character by its number. All that an accepted
document says is read off text that it gives itself, and so is every field of its tunnels. -/
theorem read_resolves_no_entities (id : String) :
    (∀ preamble content rest, Xml.IsPreamble preamble → Xml.Content content →
      let text := String.ofList (preamble ++ content ++ ("<!DOCTYPE".toList ++ rest))
      read id text = .error (.malformedDocument id text)) ∧
    (∀ preamble content rest g, Xml.IsPreamble preamble → Xml.Content content →
      read id (String.ofList (preamble ++ content ++ '&' :: rest)) = .ok g →
        ∃ name after, rest = name ++ ';' :: after ∧
          (String.ofList name ∈ ["amp", "lt", "gt", "quot", "apos"] ∨
            ∃ digits, name = '#' :: digits)) ∧
    ∀ text g, read id text = .ok g →
      (∃ d, Xml.Document.read text.toList = some d ∧ ofDocument? d = some g ∧
        ∀ c ∈ Xml.Node.forestText d.nodes, Xml.Gives text.toList c) ∧
      ∀ t ∈ g.tunnels, ∀ value, some value ∈ t.fields →
        ∀ c ∈ value.toList, Xml.Gives text.toList c := by
  refine ⟨?doctype, ?reference, ?provenance⟩
  case doctype =>
    intro preamble content rest hpreamble hcontent text
    rw [read, String.toList_ofList]
    cases hd : Xml.Document.read (preamble ++ content ++ ("<!DOCTYPE".toList ++ rest)) with
    | none => rfl
    | some d =>
        have hscan := Xml.scannable_of_read hpreamble hcontent
          (fun h => absurd (List.cons_prefix_cons.mp (List.cons_prefix_cons.mp h).2).1 (by decide))
          (fun h => absurd (Option.some.inj h) (by decide)) hd
        exact absurd hscan (Xml.not_scannable_doctype rest)
  case reference =>
    intro preamble content rest g hpreamble hcontent h
    obtain ⟨d, hd, -⟩ := Option.bind_eq_some_iff.mp (read_eq_ok_iff.mp h)
    rw [String.toList_ofList] at hd
    have hscan := Xml.scannable_of_read hpreamble hcontent
      (fun h => absurd (List.cons_prefix_cons.mp h).1 (by decide))
      (fun h => absurd (Option.some.inj h) (by decide)) hd
    obtain ⟨name, after, c, hname, hc⟩ := Xml.exists_reference_of_scannable hscan
    exact ⟨name, after, hname, Xml.eq_predefined_or_numbered_of_referent? hc⟩
  case provenance =>
    intro text g h
    obtain ⟨d, hd, hg⟩ := Option.bind_eq_some_iff.mp (read_eq_ok_iff.mp h)
    have hgives := Xml.gives_of_read hd
    refine ⟨⟨d, hd, hg, hgives⟩, ?_⟩
    intro t ht value hvalue c hc
    exact hgives c (mem_of_fields hg ht hvalue c hc)

/-- A declaration is found behind a comment and an instruction that look like one, a
predefined entity is let through, and an address is spelt by its document. -/
theorem read_resolves_no_entities_hidden_declaration :
    let preamble := "\ufeff<?xml version='1.0'?>".toList
    let content := "<!--<!DOCTYPE--> <?a <!DOCTYPE?>".toList
    let rest := " a [<!ENTITY b SYSTEM 'c'>]><a>&b;</a>".toList
    let start := "<vpn_connection>".toList
    let text := String.ofList (preamble ++ content ++ ("<!DOCTYPE".toList ++ rest))
    (Xml.IsPreamble preamble ∧ Xml.Content content ∧
      read "vpn-1" text = .error (.malformedDocument "vpn-1" text)) ∧
    (Xml.IsPreamble [] ∧ Xml.Content start ∧
      read "vpn-1" (String.ofList ([] ++ start ++ '&' :: "amp;</vpn_connection>".toList)) =
        .ok ⟨true, []⟩ ∧
      ∃ name after, "amp;</vpn_connection>".toList = name ++ ';' :: after ∧
        (String.ofList name ∈ ["amp", "lt", "gt", "quot", "apos"] ∨
          ∃ digits, name = '#' :: digits)) ∧
    read "vpn-1" oneTunnelDocument = .ok ⟨true, [oneTunnelElement]⟩ ∧
      ∀ c ∈ "192.0.2.1".toList, Xml.Gives oneTunnelDocument.toList c := by
  intro preamble content rest start text
  have hpreamble : Xml.IsPreamble preamble := by
    have hname : Xml.Unstopped '?' "version=".toList :=
      .of_forall (List.forall_iff_forall_mem.mp (by decide))
    have hvalue : Xml.Unstopped '?' ('\'' :: ("1.0".toList ++ '\'' :: [])) :=
      .quoted (by decide) (by decide) (by decide) .nil
    refine ⟨['\ufeff'], "<?xml".toList ++ ' ' :: (_ ++ "?>".toList), .inr rfl,
      .inr ⟨' ', _, rfl, hname.append hvalue, rfl⟩, ?_⟩
    decide +kernel
  have hcontent : Xml.Content content := by
    have hcomment : Xml.ClosedBy "-->".toList "<!DOCTYPE".toList :=
      Xml.closedBy_of_breakAt (by decide)
    have hinstruction : Xml.ClosedBy "?>".toList "a <!DOCTYPE".toList :=
      Xml.closedBy_of_breakAt (by decide)
    have htext : content = "<!--".toList ++ ("<!DOCTYPE".toList ++ "-->".toList ++ ' ' ::
        ("<?".toList ++ ("a <!DOCTYPE".toList ++ "?>".toList ++ []))) := by decide +kernel
    rw [htext]
    exact .comment hcomment (.char (by decide) (.instruction hinstruction (by decide) .nil))
  have hstart : Xml.Content start := by
    have hname : Xml.Unstopped '>' "vpn_connection".toList :=
      .of_forall (List.forall_iff_forall_mem.mp (by decide))
    have htext : start = '<' :: ("vpn_connection".toList ++ '>' :: []) := by decide +kernel
    rw [htext]
    exact .tag hname (by decide) (by decide) .nil
  have hempty : Xml.IsPreamble [] := ⟨[], [], .inl rfl, .inl rfl, rfl⟩
  have haccepted : read "vpn-1" (String.ofList ([] ++ start ++ '&' ::
      "amp;</vpn_connection>".toList)) = .ok ⟨true, []⟩ := by
    rw [read_eq_ok_iff, String.toList_ofList]
    decide +kernel
  obtain ⟨hdoctype, hreference, hprovenance⟩ := read_resolves_no_entities "vpn-1"
  have hread := read_oneTunnelDocument "vpn-1"
  refine ⟨⟨hpreamble, hcontent, hdoctype preamble content rest hpreamble hcontent⟩,
    ⟨hempty, hstart, haccepted, hreference [] start _ _ hempty hstart haccepted⟩, hread, ?_⟩
  exact (hprovenance _ _ hread).2 oneTunnelElement (List.mem_singleton_self _) "192.0.2.1"
    (List.mem_cons_self ..)

end GatewayDocument

end SiteVpn
