import SiteVpn.Proofs.Provenance
import SiteVpn.Proofs.Traversal

/-!
# Elements are read back from their text

An element is written with a tag before and after what is inside it, and the characters of its
texts that could be taken for markup are written as references. Read as a document, its text
gives the element again, with a declaration and blanks before it and blanks after it.

## Implementation notes

A run of characters is read as one text. So two texts may not stand next to each other, and a
text may not be empty. A text is read with its line ends made line feeds, which leaves it as it
is where it has no carriage return.
-/

namespace SiteVpn.Xml

/-- A statement about the characters of a text is decided along the text. -/
instance (priority := 2000) decidableForallMem (cs : List Char) (p : Char → Prop)
    [DecidablePred p] : Decidable (∀ c ∈ cs, p c) :=
  cs.decidableBAll p

/-! ## Characters as references -/

/-- The characters that are written as references, with their names. -/
def references : List (Char × List Char) :=
  [('&', "amp".toList), ('<', "lt".toList), ('>', "gt".toList), ('"', "quot".toList)]

/-- A character as it is written in a text. -/
def escapeChar (c : Char) : List Char :=
  match references.lookup c with
  | none => [c]
  | some name => '&' :: (name ++ [';'])

/-- The piece that a written character is read as. -/
def pieceOf (c : Char) : Piece :=
  if (references.lookup c).isSome then .reference c else .literal c

def escape (cs : List Char) : List Char := cs.flatMap escapeChar

theorem char_pieceOf (c : Char) : (pieceOf c).char = c := by
  unfold pieceOf
  split <;> rfl

/-- What is known about the name of a reference. -/
theorem of_lookup_references {c : Char} {name : List Char}
    (h : references.lookup c = some name) :
    referent? name = some c ∧ ';' ∉ name ∧ '&' ∉ name := by
  have hall : ∀ r ∈ references, referent? r.2 = some r.1 ∧ ';' ∉ r.2 ∧ '&' ∉ r.2 := by decide
  obtain ⟨before, after, hsplit, -⟩ := List.lookup_eq_some_iff.mp h
  exact hall (c, name) (by rw [hsplit]; exact List.mem_append_right _ (List.mem_cons_self ..))

/-- A reference is one piece. -/
theorem pieces?_reference {name : List Char} {c : Char} (hsemicolon : ';' ∉ name)
    (hampersand : '&' ∉ name) (hc : referent? name = some c) (rest : List Char) :
    pieces? ('&' :: (name ++ ';' :: rest)) = (pieces? rest).map (.reference c :: ·) := by
  obtain ⟨first, fields, hfields, -⟩ := exists_prefix_field '&' rest
  have hname (ds : List Char) (hds : '&' ∉ ds) :
      Text.fields '&' (ds ++ ';' :: rest) = (ds ++ ';' :: first) :: fields := by
    induction ds with
    | nil => rw [List.nil_append, Text.fields_cons '&' ';' rest (by decide), hfields]; rfl
    | cons d ds ih =>
        have hd : '&' ≠ d := List.ne_of_not_mem_cons hds
        rw [List.cons_append, Text.fields_cons '&' d _ hd.symm,
          ih (List.not_mem_of_not_mem_cons hds)]
        rfl
  have hspan : (name ++ ';' :: first).span (· != ';') = (name, ';' :: first) :=
    span_append (fun d hd => bne_iff_ne.mpr fun heq => hsemicolon (heq ▸ hd)) (by simp)
  have hpiece : piecesAfterAmpersand (name ++ ';' :: first) =
      some (.reference c :: first.map .literal) := by
    rw [piecesAfterAmpersand, hspan]
    simp only [hc]
    rfl
  rw [pieces?, Text.fields_cons_sep, hname name hampersand, pieces?, hfields]
  simp only [piecesAfter, hpiece, List.map_nil, List.nil_append]
  cases piecesAfter fields <;> rfl

theorem pieces?_escape (cs : List Char) : pieces? (escape cs) = some (cs.map pieceOf) := by
  induction cs with
  | nil => rfl
  | cons c cs ih =>
      rw [escape, List.flatMap_cons, List.map_cons, ← escape]
      cases h : references.lookup c with
      | none =>
          have hne : c ≠ '&' := by
            rintro rfl
            cases h
          have hchar : escapeChar c = [c] := by rw [escapeChar, h]
          have hpiece : pieceOf c = .literal c := by rw [pieceOf, h]; rfl
          rw [hchar, hpiece, List.singleton_append, pieces?_cons hne, ih]
          rfl
      | some name =>
          obtain ⟨hc, hsemicolon, hampersand⟩ := of_lookup_references h
          have hchar : escapeChar c = '&' :: (name ++ [';']) := by rw [escapeChar, h]
          have hpiece : pieceOf c = .reference c := by rw [pieceOf, h]; rfl
          rw [hchar, hpiece, List.cons_append, List.append_assoc, List.singleton_append,
            pieces?_reference hsemicolon hampersand hc, ih]
          rfl

/-- Where there is no carriage return, the characters of a text stay as they are. -/
theorem lineEnds_map_pieceOf {cs : List Char} (h : '\r' ∉ cs) :
    lineEnds (cs.map pieceOf) = cs := by
  have hkept (ps : List Piece) : (keepAfterReferences ps).map Piece.char = ps.map Piece.char := by
    fun_induction keepAfterReferences ps with
    | case1 c d ps ih => simp [Piece.char, ih]
    | case2 p ps _ ih => simp [ih]
    | case3 => rfl
  have hjoined (ps : List Piece) (hps : ∀ p ∈ ps, p.char ≠ '\r') :
      joinLines ps = ps.map Piece.char := by
    fun_induction joinLines ps with
    | case1 => rfl
    | case2 p =>
        have hp : p ≠ .literal '\r' := by
          rintro rfl
          exact hps _ (List.mem_cons_self ..) rfl
        rw [if_neg hp]
        rfl
    | case3 p ps hp => exact absurd hp (hps p (List.mem_cons_self ..))
    | case4 p c ps hp => exact absurd hp (hps p (List.mem_cons_self ..))
    | case5 p c ps _ ih => exact congrArg (p.char :: ·) (ih (List.forall_mem_cons.mp hps).2)
    | case6 p q ps _ ih => exact congrArg (p.char :: ·) (ih (List.forall_mem_cons.mp hps).2)
  have hchars : (cs.map pieceOf).map Piece.char = cs := by
    rw [List.map_map]
    exact List.map_id'' char_pieceOf cs
  have hreturn : ∀ p ∈ keepAfterReferences (cs.map pieceOf), p.char ≠ '\r' := by
    intro p hp heq
    apply h
    rw [← hchars, ← hkept, ← heq]
    exact List.mem_map_of_mem hp
  rw [lineEnds, hjoined _ hreturn, hkept, hchars]

/-- Characters that could be taken for markup are written as references. -/
theorem not_mem_escape {c : Char} (hc : c ∈ ['<', '>', '"']) (cs : List Char) :
    c ∉ escape cs := by
  have hnames : ∀ r ∈ references, ∀ c ∈ ['<', '>', '"'], c ∉ '&' :: (r.2 ++ [';']) := by decide
  have hfound : ∀ c ∈ ['<', '>', '"'], (references.lookup c).isSome := by decide
  intro hmem
  obtain ⟨d, -, hd⟩ := List.mem_flatMap.mp hmem
  rw [escapeChar] at hd
  split at hd
  case h_1 hnone =>
    obtain rfl := List.mem_singleton.mp hd
    have hsome := hfound c hc
    rw [hnone] at hsome
    cases hsome
  case h_2 name hname =>
    obtain ⟨before, after, hsplit, -⟩ := List.lookup_eq_some_iff.mp hname
    have hr : (d, name) ∈ references := by
      rw [hsplit]
      exact List.mem_append_right _ (List.mem_cons_self ..)
    exact hnames (d, name) hr c hc hd

theorem escape_ne_nil {cs : List Char} (h : cs ≠ []) : escape cs ≠ [] := by
  obtain ⟨c, cs, rfl⟩ := List.exists_cons_of_ne_nil h
  rw [escape, List.flatMap_cons]
  apply List.append_ne_nil_of_left_ne_nil
  rw [escapeChar]
  split <;> exact List.cons_ne_nil _ _

/-! ## Names and attributes -/

theorem isXmlChar_of_isNameChar {c : Char} (h : isNameChar c) : isXmlChar c := by
  have heq (d : Char) : c = d ↔ c.toNat = d.toNat := Char.toNat_inj.symm
  have hval : c.val.toNat = c.toNat := rfl
  have hrange : 0x20 ≤ c.toNat ∧ c.toNat ≠ 0xFFFE ∧ c.toNat ≠ 0xFFFF := by
    unfold isNameChar isNameStart isNameLetter Char.isAlpha Char.isUpper Char.isLower Char.isDigit
      at h
    simp only [Bool.or_eq_true, Bool.and_eq_true, decide_eq_true_eq, beq_iff_eq, ge_iff_le,
      UInt32.le_iff_toNat_le, heq, hval, Char.reduceVal, UInt32.reduceToNat, Char.reduceToNat] at h
    omega
  rw [isXmlChar, if_neg (by omega)]
  simp [hrange]

/-- A name without prefix. -/
def IsPlainName (name : String) : Prop :=
  name.toList.head?.any isNameStart ∧ ∀ c ∈ name.toList, isNameChar c ∧ c ≠ ':'

instance (name : String) : Decidable (IsPlainName name) := inferInstanceAs (Decidable (_ ∧ _))

theorem isPlainName_ofList {cs : List Char} (hstart : cs.head?.any isNameStart)
    (hrest : ∀ c ∈ cs, isNameChar c ∧ c ≠ ':') : IsPlainName (String.ofList cs) := by
  rw [IsPlainName, String.toList_ofList]
  exact ⟨hstart, hrest⟩

/-- A name ends before a character that no name goes on with. -/
theorem QName.scan_append {name : String} (hname : IsPlainName name) {rest : List Char}
    (hrest : ∀ c ∈ rest.head?, ¬ isNameChar c) :
    QName.scan (name.toList ++ rest) = some (⟨"", name⟩, rest) := by
  obtain ⟨hhead, hchars⟩ := hname
  obtain ⟨c, hc, hstart⟩ := (Option.any_eq_true ..).mp hhead
  have hspan : (name.toList ++ rest).span isNameChar = (name.toList, rest) :=
    span_append (fun d hd => (hchars d hd).1) hrest
  have hrun : (name.toList ++ []).span (· != ':') = (name.toList, []) :=
    span_append (fun d hd => bne_iff_ne.mpr (hchars d hd).2) fun _ h => by cases h
  have hname : QName.ofRun? name.toList = some ⟨"", name⟩ := by
    have hstarts : startsName name.toList ∧ name.toList ≠ [] := by
      cases h : name.toList with
      | nil =>
          rw [h] at hc
          cases hc
      | cons d ds =>
          rw [h] at hc
          obtain rfl : d = c := Option.some.inj hc
          exact ⟨hstart, List.cons_ne_nil _ _⟩
    rw [List.append_nil] at hrun
    rw [ofRun?, hrun]
    simp only [if_pos hstarts, String.ofList_toList]
  rw [scan, spanWhile, hspan]
  simp only [hname, Option.map_some]

/-- A name starts neither with a blank nor with a mark. -/
theorem IsPlainName.exists_cons {name : String} (h : IsPlainName name) :
    ∃ c cs, name.toList = c :: cs ∧ isSpace c = false ∧ c ∉ ['>', '/', '!', '?'] := by
  obtain ⟨c, hc, hstart⟩ := (Option.any_eq_true ..).mp h.1
  cases hname : name.toList with
  | nil =>
      rw [hname] at hc
      cases hc
  | cons d cs =>
      rw [hname] at hc
      obtain rfl : d = c := Option.some.inj hc
      refine ⟨d, cs, rfl, ?_, ?_⟩
      · rw [Bool.eq_false_iff]
        intro hspace
        simp only [isSpace, Bool.or_eq_true, beq_iff_eq] at hspace
        rcases hspace with ((rfl | rfl) | rfl) | rfl <;> revert hstart <;> decide
      · have hmarks : ∀ d ∈ ['>', '/', '!', '?'], ¬ isNameStart d := by decide
        exact fun hd => hmarks d hd hstart

theorem skipSpaces_of_name {name : String} (h : IsPlainName name) (rest : List Char) :
    skipSpaces (name.toList ++ rest) = name.toList ++ rest := by
  obtain ⟨c, cs, hname, hspace, -⟩ := h.exists_cons
  rw [hname, List.cons_append, skipSpaces, List.dropWhile_cons, hspace]
  rfl

/-- An attribute as it is written, with a blank before it. -/
def attributeText (a : String × String) : List Char :=
  ' ' :: (a.1.toList ++ '=' :: '"' :: (escape a.2.toList ++ ['"']))

/-- A written attribute as it is scanned. -/
def attributeOf (a : String × String) : Attribute := ⟨⟨"", a.1⟩, a.2.toList.map pieceOf⟩

theorem scanAssignment_attribute {name value : String} (hname : IsPlainName name)
    (rest : List Char) :
    scanAssignment (name.toList ++ '=' :: '"' :: (escape value.toList ++ '"' :: rest)) =
      some (⟨"", name⟩, escape value.toList, rest) := by
  have hscan : QName.scan (name.toList ++ '=' :: '"' :: (escape value.toList ++ '"' :: rest)) =
      some (⟨"", name⟩, '=' :: '"' :: (escape value.toList ++ '"' :: rest)) :=
    QName.scan_append hname fun c hc => by
      obtain rfl := Option.some.inj hc
      decide
  have hspan : (escape value.toList ++ '"' :: rest).span (fun c => c != '"' && c != '<') =
      (escape value.toList, '"' :: rest) := by
    refine span_append (fun c hc => ?_) fun c hc => ?_
    · have hquote : c ≠ '"' := fun h => not_mem_escape (by decide) _ (h ▸ hc)
      have hopen : c ≠ '<' := fun h => not_mem_escape (by decide) _ (h ▸ hc)
      simp [hquote, hopen]
    · obtain rfl := Option.some.inj hc
      decide
  have hequals (cs : List Char) : skipSpaces ('=' :: cs) = '=' :: cs := rfl
  have hquote (cs : List Char) : skipSpaces ('"' :: cs) = '"' :: cs := rfl
  rw [scanAssignment, hscan]
  simp only [Option.bind_eq_bind, Option.bind_some, hequals, hquote, hspan]
  rfl

namespace Token

/-- The attributes of a tag are scanned one by one, up to the end of the tag. -/
theorem scanAttributes_attributeText {attributes : List (String × String)}
    (hnames : ∀ a ∈ attributes, IsPlainName a.1) (rest : List Char) {fuel : Nat}
    (hfuel : attributes.length < fuel) :
    scanAttributes fuel (attributes.flatMap attributeText ++ '>' :: rest) =
      some (attributes.map attributeOf, false, rest) := by
  induction attributes generalizing fuel with
  | nil =>
      obtain ⟨fuel, rfl⟩ := Nat.exists_eq_succ_of_ne_zero (Nat.ne_zero_of_lt hfuel)
      rfl
  | cons a as ih =>
      obtain ⟨fuel, rfl⟩ := Nat.exists_eq_succ_of_ne_zero (Nat.ne_zero_of_lt hfuel)
      obtain ⟨hname, hnames⟩ := List.forall_mem_cons.mp hnames
      have htail := ih hnames (Nat.lt_of_succ_lt_succ hfuel)
      obtain ⟨c, cs, hc, -, hmarks⟩ := hname.exists_cons
      have htext : (a :: as).flatMap attributeText ++ '>' :: rest =
          ' ' :: (a.1.toList ++ '=' :: '"' :: (escape a.2.toList ++ '"' ::
            (as.flatMap attributeText ++ '>' :: rest))) := by
        simp [attributeText]
      rw [htext]
      generalize hmore : as.flatMap attributeText ++ '>' :: rest = more at htail ⊢
      have hassignment := @scanAssignment_attribute a.1 a.2 hname more
      have hskip : skipSpaces (' ' :: (a.1.toList ++ '=' :: '"' ::
            (escape a.2.toList ++ '"' :: more))) =
          a.1.toList ++ '=' :: '"' :: (escape a.2.toList ++ '"' :: more) :=
        skipSpaces_of_name hname _
      have hspace (cs : List Char) : startsWithSpace (' ' :: cs) := rfl
      rw [hc, List.cons_append] at hassignment hskip
      rw [hc, List.cons_append, scanAttributes, hskip]
      split
      case h_1 heq =>
        obtain ⟨rfl, -⟩ := List.cons.inj heq
        exact absurd (by decide) hmarks
      case h_2 heq =>
        obtain ⟨rfl, -⟩ := List.cons.inj heq
        exact absurd (by decide) hmarks
      case h_3 =>
        simp only [if_pos (hspace _), hassignment, Option.bind_eq_bind, Option.bind_some,
          pieces?_escape, htail]
        rfl

variable {name : String} {rest : List Char}

theorem scan_openTag (hname : IsPlainName name) {attributes : List (String × String)}
    (hattributes : ∀ a ∈ attributes, IsPlainName a.1) {fuel : Nat}
    (hfuel : attributes.length < fuel) :
    scan fuel ('<' :: (name.toList ++ (attributes.flatMap attributeText ++ '>' :: rest))) =
      some (.openTag ⟨"", name⟩ (attributes.map attributeOf), rest) := by
  have hscan : QName.scan (name.toList ++ (attributes.flatMap attributeText ++ '>' :: rest)) =
      some (⟨"", name⟩, attributes.flatMap attributeText ++ '>' :: rest) := by
    refine QName.scan_append hname fun c hc => ?_
    cases attributes with
    | nil =>
        obtain rfl := Option.some.inj hc
        decide
    | cons a as =>
        obtain rfl := Option.some.inj hc
        decide
  have htag : scanTag fuel (name.toList ++ (attributes.flatMap attributeText ++ '>' :: rest)) =
      some (.openTag ⟨"", name⟩ (attributes.map attributeOf), rest) := by
    rw [scanTag, hscan]
    simp only [Option.bind_eq_bind, Option.bind_some,
      scanAttributes_attributeText hattributes rest hfuel]
    rfl
  obtain ⟨c, cs, hc, -, hmarks⟩ := hname.exists_cons
  rw [hc, List.cons_append] at htag ⊢
  unfold scan
  split
  case h_6 heq =>
    obtain ⟨-, rfl⟩ := List.cons.inj heq
    exact htag
  case h_7 hother => exact absurd rfl (hother _)
  all_goals
    rename_i heq
    obtain ⟨rfl, -⟩ := List.cons.inj (List.cons.inj heq).2
    exact absurd (by decide) hmarks

theorem scan_closeTag (hname : IsPlainName name) (fuel : Nat) :
    scan fuel ('<' :: '/' :: (name.toList ++ '>' :: rest)) =
      some (.closeTag ⟨"", name⟩, rest) := by
  have hscan : QName.scan (name.toList ++ '>' :: rest) = some (⟨"", name⟩, '>' :: rest) :=
    QName.scan_append hname fun c hc => by
      obtain rfl := Option.some.inj hc
      decide
  have hskip : skipSpaces ('>' :: rest) = '>' :: rest := rfl
  change scanCloseTag (name.toList ++ '>' :: rest) = _
  rw [scanCloseTag, hscan]
  simp only [Option.bind_eq_bind, Option.bind_some, hskip]

/-- A text ends before the next tag. -/
theorem scan_text {cs : List Char} (hcs : cs ≠ []) (hrest : ∀ c ∈ rest.head?, c = '<')
    (fuel : Nat) : scan fuel (escape cs ++ rest) = some (.text (cs.map pieceOf), rest) := by
  have hplain : ∀ c ∈ escape cs, c ≠ '<' := fun c hc h => not_mem_escape (by decide) cs (h ▸ hc)
  have hspan : (escape cs ++ rest).span (· != '<') = (escape cs, rest) :=
    span_append (fun c hc => bne_iff_ne.mpr (hplain c hc)) fun c hc => by simp [hrest c hc]
  have hmark : ¬ hasMark "]]>".toList (escape cs) := by
    intro h
    obtain ⟨⟨before, after⟩, hbreak⟩ := Option.isSome_iff_exists.mp h
    apply not_mem_escape (show '>' ∈ ['<', '>', '"'] by decide) cs
    rw [breakAt_eq_some hbreak]
    simp
  have htext : scanText (escape cs ++ rest) = some (.text (cs.map pieceOf), rest) := by
    rw [scanText, spanWhile, hspan]
    simp only [if_neg hmark, pieces?_escape]
    rfl
  obtain ⟨c, escaped, hescape⟩ := List.exists_cons_of_ne_nil (escape_ne_nil hcs)
  have hc : c ≠ '<' := hplain c (by rw [hescape]; exact List.mem_cons_self ..)
  rw [hescape, List.cons_append] at htext ⊢
  rw [scan_of_ne hc, htext]

end Token

/-! ## Texts of elements -/

/-- An element with its attributes, or a text. -/
inductive Markup where
  | element (name : String) (attributes : List (String × String)) (content : List Markup)
  | text (content : List Char)

namespace Markup

mutual

/-- The node that is read. -/
def node : Markup → Node
  | .element name _ content => .element name (nodes content)
  | .text content => .text (lineEnds (content.map pieceOf))

def nodes : List Markup → List Node
  | [] => []
  | m :: ms => m.node :: nodes ms

end

theorem nodes_eq_map (ms : List Markup) : nodes ms = ms.map node := by
  induction ms with
  | nil => rfl
  | cons m ms ih => rw [nodes, ih, List.map_cons]

mutual

def written : Markup → List Char
  | .element name attributes content =>
    '<' :: (name.toList ++ (attributes.flatMap attributeText ++ '>' :: (forestWritten content ++
      '<' :: '/' :: (name.toList ++ ['>']))))
  | .text content => escape content

def forestWritten : List Markup → List Char
  | [] => []
  | m :: ms => m.written ++ forestWritten ms

end

mutual

/-- The tokens that are scanned. -/
def tokens : Markup → List Token
  | .element name attributes content =>
    .openTag ⟨"", name⟩ (attributes.map attributeOf) ::
      (forestTokens content ++ [.closeTag ⟨"", name⟩])
  | .text content => [.text (content.map pieceOf)]

def forestTokens : List Markup → List Token
  | [] => []
  | m :: ms => m.tokens ++ forestTokens ms

end

def isText : Markup → Bool
  | .text _ => true
  | _ => false

/-- Whether the attributes of an element can be written: their names differ, and none declares
what a prefix means. -/
def AttributesWritable (attributes : List (String × String)) : Prop :=
  (attributes.map (·.1)).Nodup ∧
    ∀ a ∈ attributes, IsPlainName a.1 ∧ a.1 ≠ "xmlns" ∧ ∀ c ∈ a.2.toList, isXmlChar c

mutual

/-- Whether a value can be written so that it is read back. -/
def IsWritable : Markup → Prop
  | .element name attributes content =>
    IsPlainName name ∧ AttributesWritable attributes ∧ ForestWritable content
  | .text content => content ≠ [] ∧ ∀ c ∈ content, isXmlChar c

/-- No two texts stand next to each other. -/
def ForestWritable : List Markup → Prop
  | [] => True
  | m :: ms =>
    m.IsWritable ∧ (m.isText → ∀ m' ∈ ms.head?, ¬ m'.isText) ∧ ForestWritable ms

end

instance (attributes : List (String × String)) : Decidable (AttributesWritable attributes) :=
  inferInstanceAs (Decidable (_ ∧ _))

mutual

/-- Whether a value can be written can be found out. -/
instance decidableIsWritable : (m : Markup) → Decidable m.IsWritable
  | .element _ _ content =>
    have := decidableForestWritable content
    inferInstanceAs (Decidable (_ ∧ _ ∧ _))
  | .text _ => inferInstanceAs (Decidable (_ ∧ _))

instance decidableForestWritable : (ms : List Markup) → Decidable (ForestWritable ms)
  | [] => .isTrue trivial
  | m :: ms =>
    have := decidableIsWritable m
    have := decidableForestWritable ms
    inferInstanceAs (Decidable (_ ∧ (_ → _) ∧ _))

end

theorem attributesWritable_nil : AttributesWritable [] :=
  ⟨List.Pairwise.nil, fun _ h => by cases h⟩

theorem isWritable_leaf {name : String} {attributes : List (String × String)}
    {content : List Char} (hname : IsPlainName name) (hattributes : AttributesWritable attributes)
    (hcontent : content ≠ [] ∧ ∀ c ∈ content, isXmlChar c) :
    (element name attributes [.text content]).IsWritable :=
  ⟨hname, hattributes, hcontent, (fun _ _ h => by cases h), trivial⟩

/-- Elements can stand next to each other. -/
theorem forestWritable_of_elements {ms : List Markup}
    (h : ∀ m ∈ ms, m.IsWritable ∧ ¬ m.isText) : ForestWritable ms := by
  induction ms with
  | nil => trivial
  | cons m ms ih =>
      obtain ⟨hm, hms⟩ := List.forall_mem_cons.mp h
      exact ⟨hm.1, fun htext => absurd htext hm.2, ih hms⟩

end Markup

/-- The tokens of a text, whatever fuel there is if it is enough. -/
def Tokenizes (cs : List Char) (ts : List Token) : Prop :=
  ∀ fuel, cs.length ≤ fuel → Token.scanAll fuel cs = some ts

namespace Tokenizes

variable {cs rest : List Char} {ts : List Token} {token : Token}

theorem nil : Tokenizes [] [] := fun fuel _ => by cases fuel <;> rfl

theorem cons (hlength : rest.length < cs.length)
    (hscan : ∀ fuel, cs.length ≤ fuel + 1 → Token.scan fuel cs = some (token, rest))
    (h : Tokenizes rest ts) : Tokenizes cs (token :: ts) := by
  intro fuel hfuel
  obtain ⟨c, cs, rfl⟩ :=
    List.exists_cons_of_ne_nil (List.ne_nil_of_length_pos (Nat.zero_lt_of_lt hlength))
  obtain ⟨fuel, rfl⟩ :=
    Nat.exists_eq_succ_of_ne_zero (Nat.ne_zero_of_lt (Nat.lt_of_lt_of_le hlength hfuel))
  have htail := h fuel (Nat.le_of_lt_succ (Nat.lt_of_lt_of_le hlength hfuel))
  rw [Token.scanAll]
  · simp only [hscan fuel hfuel, Option.bind_eq_bind, Option.bind_some, htail]
    rfl
  · exact List.cons_ne_nil c cs

theorem openTag {name : String} {attributes : List (String × String)}
    (hname : IsPlainName name) (hattributes : ∀ a ∈ attributes, IsPlainName a.1)
    (h : Tokenizes rest ts) :
    Tokenizes ('<' :: (name.toList ++ (attributes.flatMap attributeText ++ '>' :: rest)))
      (.openTag ⟨"", name⟩ (attributes.map attributeOf) :: ts) := by
  have hcount : attributes.length ≤ (attributes.flatMap attributeText).length := by
    clear hattributes
    induction attributes with
    | nil => exact Nat.le_refl 0
    | cons a as ih =>
        simp only [List.flatMap_cons, List.length_append, List.length_cons, attributeText]
        omega
  refine h.cons (by simp; omega) fun fuel hfuel => Token.scan_openTag hname hattributes ?_
  simp only [List.length_cons, List.length_append] at hfuel
  omega

theorem closeTag {name : String} (hname : IsPlainName name) (h : Tokenizes rest ts) :
    Tokenizes ('<' :: '/' :: (name.toList ++ '>' :: rest)) (.closeTag ⟨"", name⟩ :: ts) :=
  h.cons (by simp; omega) fun fuel _ => Token.scan_closeTag hname fuel

theorem text {content : List Char} (hcontent : content ≠ [])
    (hrest : ∀ c ∈ rest.head?, c = '<') (h : Tokenizes rest ts) :
    Tokenizes (escape content ++ rest) (.text (content.map pieceOf) :: ts) := by
  have hpos := List.length_pos_iff.mpr (escape_ne_nil hcontent)
  refine h.cons ?_ fun fuel _ => Token.scan_text hcontent hrest fuel
  rw [List.length_append]
  omega

end Tokenizes

namespace Markup

/-- An element starts with the mark of a tag. -/
theorem head?_written_append {m : Markup} (hm : ¬ m.isText) (rest : List Char) :
    ∀ c ∈ (m.written ++ rest).head?, c = '<' := by
  intro c hc
  cases m with
  | text content => exact absurd rfl hm
  | element name attributes content =>
      rw [written] at hc
      exact (Option.some.inj hc).symm

mutual

theorem tokenizes_written : ∀ (m : Markup) {rest : List Char} {ts : List Token},
    m.IsWritable → (m.isText → ∀ c ∈ rest.head?, c = '<') → Tokenizes rest ts →
    Tokenizes (m.written ++ rest) (m.tokens ++ ts)
  | .text content, rest, ts, hm, hrest, h => by
      rw [written, tokens]
      exact h.text hm.1 (hrest rfl)
  | .element name attributes content, rest, ts, hm, _, h => by
      obtain ⟨hname, hattributes, hcontent⟩ := hm
      have hclose := h.closeTag hname
      have hmark : ∀ c ∈ ('<' :: '/' :: (name.toList ++ '>' :: rest)).head?, c = '<' :=
        fun c hc => (Option.some.inj hc).symm
      have hinside := tokenizes_forestWritten content hcontent hmark hclose
      have hopen := hinside.openTag hname fun a ha => (hattributes.2 a ha).1
      simp only [written, tokens, List.cons_append, List.append_assoc, List.nil_append]
      exact hopen

theorem tokenizes_forestWritten : ∀ (ms : List Markup) {rest : List Char} {ts : List Token},
    ForestWritable ms → (∀ c ∈ rest.head?, c = '<') → Tokenizes rest ts →
    Tokenizes (forestWritten ms ++ rest) (forestTokens ms ++ ts)
  | [], _, _, _, _, h => h
  | m :: ms, rest, ts, hms, hrest, h => by
      have htail := tokenizes_forestWritten ms hms.2.2 hrest h
      rw [forestWritten, forestTokens, List.append_assoc, List.append_assoc]
      refine tokenizes_written m hms.1 (fun hm => ?_) htail
      cases ms with
      | nil => exact hrest
      | cons m' ms =>
          rw [forestWritten, List.append_assoc]
          exact head?_written_append (hms.2.1 hm m' rfl) _

end

end Markup

/-! ## Reading elements -/

/-- Attributes without prefixes declare nothing. -/
theorem tagScope_attributes {attributes : List (String × String)}
    (h : Markup.AttributesWritable attributes) (scope : Scope) (name : String) :
    tagScope scope ⟨"", name⟩ (attributes.map attributeOf) = some scope := by
  obtain ⟨hnodup, hnames⟩ := h
  have hxmlns : ∀ a ∈ attributes, a.1 ≠ "xmlns" := fun a ha => (hnames a ha).2.1
  have hdeclare : (attributes.map attributeOf).foldlM declare [] = some [] := by
    clear hnodup hnames
    induction attributes with
    | nil => rfl
    | cons a as ih =>
        obtain ⟨ha, has⟩ := List.forall_mem_cons.mp hxmlns
        have hspace : (attributeOf a).name.space ≠ "xmlns" := show "" ≠ "xmlns" by decide
        have hbase : (attributeOf a).name.base ≠ "xmlns" := ha
        have hfirst : declare [] (attributeOf a) = some [] := by
          rw [declare, if_neg hspace, if_neg hbase]
        rw [List.map_cons, List.foldlM_cons, hfirst]
        exact ih has
  have hkept : (attributes.map attributeOf).filter (!·.isDeclaration) =
      attributes.map attributeOf := by
    rw [List.filter_eq_self, List.forall_mem_map]
    intro a ha
    simp [Attribute.isDeclaration, attributeOf, hxmlns a ha]
  have hexpanded : (attributes.map attributeOf).mapM (expandedName ([] ++ scope) ·.name) =
      some (attributes.map fun a => (none, a.1)) := by
    clear hnodup hnames hxmlns hdeclare hkept
    induction attributes with
    | nil => rfl
    | cons a as ih =>
        have hfirst : expandedName ([] ++ scope) (attributeOf a).name = some (none, a.1) := rfl
        rw [List.map_cons, List.mapM_cons, hfirst, ih]
        rfl
  have hdistinct : (attributes.map fun a => ((none : Option String), a.1)).Nodup :=
    List.pairwise_map.mpr
      ((List.pairwise_map.mp hnodup).imp fun hne h => hne (Prod.mk.inj h).2)
  rw [tagScope, hdeclare]
  simp only [Option.bind_eq_bind, Option.bind_some, hkept, hexpanded]
  rw [if_pos ⟨hdistinct, by decide, .inl trivial⟩]
  rfl

namespace Markup

open ReadState (step)

mutual

/-- Inside an element, the tokens of a value add its node. -/
theorem foldlM_tokens : ∀ (m : Markup) (ts : List Token) (e : QName) (before : List Node)
    (es : List OpenElement) (outside : List Node), m.IsWritable →
    (m.tokens ++ ts).foldlM step ⟨⟨e, [], before⟩ :: es, outside, true⟩ =
      ts.foldlM step ⟨⟨e, [], m.node :: before⟩ :: es, outside, true⟩
  | .text content, ts, e, before, es, outside, hm => by
      have hstep : step ⟨⟨e, [], before⟩ :: es, outside, true⟩ (.text (content.map pieceOf)) =
          some ⟨⟨e, [], (text content).node :: before⟩ :: es, outside, true⟩ := by
        simp [step, ReadState.addText, ReadState.add, node]
      rw [tokens, List.singleton_append, List.foldlM_cons, hstep]
      rfl
  | .element name attributes content, ts, e, before, es, outside, hm => by
      have hstep : step ⟨⟨e, [], before⟩ :: es, outside, true⟩
            (.openTag ⟨"", name⟩ (attributes.map attributeOf)) =
          some ⟨⟨⟨"", name⟩, [], []⟩ :: ⟨e, [], before⟩ :: es, outside, true⟩ := by
        simp [step, ReadState.enter, tagScope_attributes hm.2.1]
      have hclose : step ⟨⟨⟨"", name⟩, [], (nodes content).reverse ++ []⟩ ::
            ⟨e, [], before⟩ :: es, outside, true⟩ (.closeTag ⟨"", name⟩) =
          some ⟨⟨e, [], .element name (nodes content) :: before⟩ :: es, outside, true⟩ := by
        simp [step, ReadState.leave, ReadState.add]
      rw [tokens, List.cons_append, List.append_assoc, List.foldlM_cons, hstep]
      change (forestTokens content ++ (.closeTag ⟨"", name⟩ :: ts)).foldlM step _ = _
      rw [foldlM_forestTokens content _ _ _ _ _ hm.2.2, List.foldlM_cons, hclose]
      rfl

theorem foldlM_forestTokens : ∀ (ms : List Markup) (ts : List Token) (e : QName)
    (before : List Node) (es : List OpenElement) (outside : List Node), ForestWritable ms →
    (forestTokens ms ++ ts).foldlM step ⟨⟨e, [], before⟩ :: es, outside, true⟩ =
      ts.foldlM step ⟨⟨e, [], (nodes ms).reverse ++ before⟩ :: es, outside, true⟩
  | [], _, _, _, _, _, _ => rfl
  | m :: ms, ts, e, before, es, outside, hms => by
      rw [forestTokens, List.append_assoc, foldlM_tokens m _ _ _ _ _ hms.1,
        foldlM_forestTokens ms _ _ _ _ _ hms.2.2, nodes, List.reverse_cons, List.append_assoc]
      rfl

end

end Markup

/-! ## Documents -/

theorem isXmlChar_of_mem_escape {cs : List Char} (h : ∀ c ∈ cs, isXmlChar c) :
    ∀ c ∈ escape cs, isXmlChar c := by
  have hnames : ∀ r ∈ references, ∀ c ∈ '&' :: (r.2 ++ [';']), isXmlChar c := by decide
  intro c hc
  obtain ⟨d, hd, hc⟩ := List.mem_flatMap.mp hc
  rw [escapeChar] at hc
  split at hc
  case h_1 => exact List.mem_singleton.mp hc ▸ h d hd
  case h_2 name hname =>
    obtain ⟨before, after, hsplit, -⟩ := List.lookup_eq_some_iff.mp hname
    have hr : (d, name) ∈ references := by
      rw [hsplit]
      exact List.mem_append_right _ (List.mem_cons_self ..)
    exact hnames (d, name) hr c hc

theorem IsPlainName.all_isXmlChar {name : String} (h : IsPlainName name) :
    name.toList.all isXmlChar :=
  List.all_eq_true.mpr fun c hc => isXmlChar_of_isNameChar (h.2 c hc).1

namespace Markup

theorem all_isXmlChar_attributes {attributes : List (String × String)}
    (h : AttributesWritable attributes) :
    (attributes.flatMap attributeText).all isXmlChar := by
  rw [List.all_flatMap, List.all_eq_true]
  intro a ha
  obtain ⟨hname, -, hvalue⟩ := h.2 a ha
  have hescaped : (escape a.2.toList).all isXmlChar :=
    List.all_eq_true.mpr (isXmlChar_of_mem_escape hvalue)
  simp only [attributeText, List.all_cons, List.all_append, hname.all_isXmlChar, hescaped]
  rfl

mutual

theorem all_isXmlChar_written : ∀ m : Markup, m.IsWritable → m.written.all isXmlChar
  | .text content, hm => List.all_eq_true.mpr (isXmlChar_of_mem_escape hm.2)
  | .element name attributes content, hm => by
      obtain ⟨hname, hattributes, hcontent⟩ := hm
      simp only [written, List.all_cons, List.all_append, hname.all_isXmlChar,
        all_isXmlChar_attributes hattributes, all_isXmlChar_forestWritten content hcontent]
      rfl

theorem all_isXmlChar_forestWritten :
    ∀ ms : List Markup, ForestWritable ms → (forestWritten ms).all isXmlChar
  | [], _ => rfl
  | m :: ms, hms => by
      rw [forestWritten, List.all_append, all_isXmlChar_written m hms.1,
        all_isXmlChar_forestWritten ms hms.2.2]
      rfl

end

end Markup

/-- The XML declaration of a document. -/
def declarationText : List Char := "<?xml version=\"1.0\" encoding=\"UTF-8\"?>".toList

theorem skipPreamble_declaration (rest : List Char) :
    skipPreamble (declarationText ++ rest) = some rest := rfl

/-- Where there is no declaration, nothing is skipped before the first tag. -/
theorem skipPreamble_of_blanks {blanks rest : List Char} (hblanks : ∀ c ∈ blanks, isSpace c)
    (hrest : ∃ c cs, rest = '<' :: c :: cs ∧ c ≠ '?') :
    skipPreamble (blanks ++ rest) = some (blanks ++ rest) := by
  obtain ⟨c, cs, rfl, hc⟩ := hrest
  cases blanks with
  | nil =>
      have hstart : ¬ "<?xml ".toList.isPrefixOf ('<' :: c :: cs) := by
        rw [List.isPrefixOf_iff_prefix]
        exact fun h => hc (List.cons_prefix_cons.mp (List.cons_prefix_cons.mp h).2).1.symm
      rw [List.nil_append, skipPreamble]
      exact if_neg hstart
  | cons b bs =>
      have hb : isSpace b := hblanks b (List.mem_cons_self ..)
      have hmark : b ≠ '\ufeff' := by
        rintro rfl
        exact absurd hb (by decide)
      have hstart : ¬ "<?xml ".toList.isPrefixOf (b :: (bs ++ '<' :: c :: cs)) := by
        rw [List.isPrefixOf_iff_prefix]
        intro h
        obtain rfl := (List.cons_prefix_cons.mp h).1
        exact absurd hb (by decide)
      have hskip : skipByteOrderMark (b :: (bs ++ '<' :: c :: cs)) =
          b :: (bs ++ '<' :: c :: cs) := by
        unfold skipByteOrderMark
        split
        case h_1 heq => exact absurd (List.cons.inj heq).1 hmark
        case h_2 => rfl
      rw [List.cons_append, skipPreamble, hskip]
      exact if_neg hstart

/-- Blanks outside the root element are not kept. -/
theorem Tokenizes.blanks {blanks rest : List Char} {ts : List Token}
    (hblanks : ∀ c ∈ blanks, isSpace c) (hrest : ∀ c ∈ rest.head?, c = '<')
    (h : Tokenizes rest ts) :
    ∃ ts', Tokenizes (blanks ++ rest) ts' ∧
      ∀ s : ReadState, s.stack = [] →
        ts'.foldlM ReadState.step s = ts.foldlM ReadState.step s := by
  have hplain : ∀ c ∈ blanks, references.lookup c = none := by
    intro c hc
    have hspace := hblanks c hc
    simp only [isSpace, Bool.or_eq_true, beq_iff_eq] at hspace
    rcases hspace with ((rfl | rfl) | rfl) | rfl <;> decide
  by_cases hempty : blanks = []
  · subst hempty
    exact ⟨ts, h, fun _ _ => rfl⟩
  · have hescape : escape blanks = blanks := by
      have hchar : ∀ c ∈ blanks, escapeChar c = [c] := fun c hc => by
        rw [escapeChar, hplain c hc]
      rw [escape, List.flatMap_congr hchar, List.flatMap_singleton']
    have htext := h.text hempty hrest
    rw [hescape] at htext
    refine ⟨_, htext, fun s hs => ?_⟩
    have hall : (blanks.map pieceOf).all fun p => p.isLiteral && isSpace p.char := by
      rw [List.all_map, List.all_eq_true]
      intro c hc
      simp [pieceOf, hplain c hc, Piece.isLiteral, Piece.char, hblanks c hc]
    have hstep : s.step (.text (blanks.map pieceOf)) = some s := by
      simp [ReadState.step, ReadState.addText, hs, hall]
    rw [List.foldlM_cons, hstep]
    rfl

namespace Markup

/-- The text of a document: an element with blanks around it, and before them a declaration
where there is one. -/
def documentText (isDeclared : Bool) (before after : List Char) (root : Markup) : List Char :=
  (if isDeclared then declarationText else []) ++ (before ++ (root.written ++ after))

/-- The tokens of an element outside all others are those of a whole document. -/
theorem foldlM_root {name : String} {attributes : List (String × String)}
    {content : List Markup} (h : (element name attributes content).IsWritable)
    (ts : List Token) :
    ((element name attributes content).tokens ++ ts).foldlM ReadState.step .start =
      ts.foldlM ReadState.step ⟨[], [.element name (nodes content)], true⟩ := by
  have hopen : ReadState.step .start (.openTag ⟨"", name⟩ (attributes.map attributeOf)) =
      some ⟨[⟨⟨"", name⟩, [], []⟩], [], true⟩ := by
    simp [ReadState.step, ReadState.enter, ReadState.start, tagScope_attributes h.2.1]
  have hclose : ReadState.step ⟨[⟨⟨"", name⟩, [], (nodes content).reverse ++ []⟩], [], true⟩
      (.closeTag ⟨"", name⟩) = some ⟨[], [.element name (nodes content)], true⟩ := by
    simp [ReadState.step, ReadState.leave, ReadState.add]
  rw [tokens, List.cons_append, List.append_assoc, List.foldlM_cons, hopen]
  change (forestTokens content ++ (.closeTag ⟨"", name⟩ :: ts)).foldlM ReadState.step _ = _
  rw [foldlM_forestTokens content _ _ _ _ _ h.2.2, List.foldlM_cons, hclose]
  rfl

/-- An element is read back from the text of its document. -/
theorem read_documentText {name : String} {attributes : List (String × String)}
    {content : List Markup} (h : (element name attributes content).IsWritable)
    (isDeclared : Bool) {before after : List Char} (hbefore : ∀ c ∈ before, isSpace c)
    (hafter : ∀ c ∈ after, isSpace c) :
    Document.read ((element name attributes content).documentText isDeclared before after) =
      some ⟨[.element name (nodes content)]⟩ := by
  have hspaces {blanks : List Char} (hblanks : ∀ c ∈ blanks, isSpace c) :
      blanks.all isXmlChar := by
    rw [List.all_eq_true]
    intro c hc
    have hspace := hblanks c hc
    simp only [isSpace, Bool.or_eq_true, beq_iff_eq] at hspace
    rcases hspace with ((rfl | rfl) | rfl) | rfl <;> decide
  have hall : ((element name attributes content).documentText isDeclared before after).all
      isXmlChar := by
    have hdeclaration : (if isDeclared then declarationText else []).all isXmlChar := by
      cases isDeclared <;> decide
    simp only [documentText, List.all_append, hdeclaration, hspaces hbefore, hspaces hafter,
      all_isXmlChar_written _ h]
    rfl
  have htag : ∃ c cs, (element name attributes content).written ++ after = '<' :: c :: cs ∧
      c ≠ '?' := by
    obtain ⟨c, cs, hname, -, hmarks⟩ := h.1.exists_cons
    have hc : c ≠ '?' := by
      rintro rfl
      exact hmarks (by decide)
    rw [written, hname]
    exact ⟨c, _, rfl, hc⟩
  have hskip : skipPreamble
      ((element name attributes content).documentText isDeclared before after) =
        some (before ++ ((element name attributes content).written ++ after)) := by
    cases isDeclared with
    | true => exact skipPreamble_declaration _
    | false =>
        rw [documentText, if_neg Bool.false_ne_true, List.nil_append]
        exact skipPreamble_of_blanks hbefore htag
  have hnot : ¬ (element name attributes content).isText := Bool.false_ne_true
  obtain ⟨last, hlast, hafterStep⟩ :=
    Tokenizes.nil.blanks hafter (fun c hc => by cases hc)
  rw [List.append_nil] at hlast
  have hroot := tokenizes_written _ h (fun htext => absurd htext hnot) hlast
  obtain ⟨all, htokens, hbeforeStep⟩ := hroot.blanks hbefore (head?_written_append hnot after)
  have hofText : Token.ofText
      ((element name attributes content).documentText isDeclared before after) = some all := by
    rw [Token.ofText, if_pos hall, hskip]
    exact htokens _ (Nat.le_refl _)
  have hfold : all.foldlM ReadState.step .start =
      some ⟨[], [.element name (nodes content)], true⟩ := by
    rw [hbeforeStep _ rfl, foldlM_root h, hafterStep _ rfl]
    rfl
  rw [Document.read, hofText, Option.bind_eq_bind, Option.bind_some, Document.ofTokens, hfold]
  rfl

end Markup

end SiteVpn.Xml
