import Mathlib.Data.List.Basic
import Mathlib.Data.List.TakeDrop
import Mathlib.Data.List.TakeWhile
import SiteVpn.Xml.Reader

/-!
# Where markup ends

The parts of a document are told apart here by rules of their own: a tag ends at the first
`>` that is not quoted, and comments, instructions and unparsed text end with their marks.
Every scanner that succeeds stops where these rules say. So from the start of a document that
can be scanned one comes, part by part, to any place between two parts, and what follows
there can be scanned as well.
-/

namespace SiteVpn.Xml

/-- Text without a certain character and without `<`, apart from the certain character
between quotes. -/
inductive Unstopped (stop : Char) : List Char → Prop where
  | nil : Unstopped stop []
  | plain {c : Char} {cs : List Char} (hc : c ∉ [stop, '<', '\'', '"'])
      (h : Unstopped stop cs) : Unstopped stop (c :: cs)
  | quoted {q : Char} {value cs : List Char} (hq : q ∈ ['\'', '"']) (hvalue : q ∉ value)
      (hlt : '<' ∉ value) (h : Unstopped stop cs) :
      Unstopped stop (q :: (value ++ q :: cs))

/-- A mark ends a text where it first occurs. -/
def ClosedBy (mark cs : List Char) : Prop :=
  ∀ before after, cs ++ mark = before ++ mark ++ after → after = []

/-- What may stand before a place between two parts of a document: characters, tags,
comments, unparsed text and instructions, of which none is called `xml`. -/
inductive Content : List Char → Prop where
  | nil : Content []
  | char {c : Char} {cs : List Char} (hc : c ≠ '<') (h : Content cs) : Content (c :: cs)
  | tag {body cs : List Char} (hbody : Unstopped '>' body) (hmark : body.head? ≠ some '!')
      (hinstruction : body.head? ≠ some '?') (h : Content cs) :
      Content ('<' :: (body ++ '>' :: cs))
  | comment {body cs : List Char} (hbody : ClosedBy "-->".toList body) (h : Content cs) :
      Content ("<!--".toList ++ (body ++ "-->".toList ++ cs))
  | cdata {body cs : List Char} (hbody : ClosedBy "]]>".toList body) (h : Content cs) :
      Content ("<![CDATA[".toList ++ (body ++ "]]>".toList ++ cs))
  | instruction {body cs : List Char} (hbody : ClosedBy "?>".toList body)
      (htarget : ¬ "xml ".toList <+: body) (h : Content cs) :
      Content ("<?".toList ++ (body ++ "?>".toList ++ cs))

/-- An XML declaration: after its name and a blank, it ends at the first question mark that
is not quoted. -/
def IsDeclaration (cs : List Char) : Prop :=
  ∃ blank body, isSpace blank ∧ Unstopped '?' body ∧
    cs = "<?xml".toList ++ blank :: (body ++ "?>".toList)

/-- What a document may start with: a byte order mark and an XML declaration, each of which
may be missing. -/
def IsPreamble (cs : List Char) : Prop :=
  ∃ mark declaration, (mark = [] ∨ mark = ['\ufeff']) ∧
    (declaration = [] ∨ IsDeclaration declaration) ∧ cs = mark ++ declaration

/-! ## Quoted text -/

/-- What follows the first occurrence of a character is determined. -/
theorem eq_of_append_cons_eq {c : Char} {as bs xs ys : List Char} (ha : c ∉ as)
    (hb : c ∉ bs) (h : as ++ c :: xs = bs ++ c :: ys) : xs = ys := by
  induction as generalizing bs with
  | nil =>
      cases bs with
      | nil => exact (List.cons.inj h).2
      | cons b bs =>
          obtain ⟨rfl, -⟩ := List.cons.inj h
          exact absurd (List.mem_cons_self ..) hb
  | cons a as ih =>
      cases bs with
      | nil =>
          obtain ⟨rfl, -⟩ := List.cons.inj h
          exact absurd (List.mem_cons_self ..) ha
      | cons b bs =>
          exact ih (List.not_mem_of_not_mem_cons ha) (List.not_mem_of_not_mem_cons hb)
            (List.cons.inj h).2

namespace Unstopped

variable {stop : Char} {as bs cs : List Char}

theorem append (ha : Unstopped stop as) (hb : Unstopped stop bs) :
    Unstopped stop (as ++ bs) := by
  induction ha with
  | nil => exact hb
  | plain hc _ ih => exact .plain hc ih
  | quoted hq hvalue hlt _ ih =>
      rw [List.cons_append, List.append_assoc, List.cons_append]
      exact .quoted hq hvalue hlt ih

theorem of_forall (h : ∀ c ∈ cs, c ∉ [stop, '<', '\'', '"']) : Unstopped stop cs := by
  induction cs with
  | nil => exact .nil
  | cons c cs ih =>
      exact .plain (h c (List.mem_cons_self ..)) (ih fun d hd => h d (List.mem_cons_of_mem c hd))

theorem lt_not_mem (h : Unstopped stop cs) : '<' ∉ cs := by
  induction h with
  | nil => exact List.not_mem_nil
  | plain hc _ ih =>
      intro hmem
      rcases List.mem_cons.mp hmem with rfl | hmem
      · exact hc (by simp)
      · exact ih hmem
  | @quoted q value cs hq _ hlt _ ih =>
      have hqlt : '<' ≠ q := by
        rintro rfl
        exact absurd hq (by decide)
      simp only [List.mem_cons, List.mem_append, not_or]
      exact ⟨hqlt, hlt, hqlt, ih⟩

/-- A text ends at its first stop that is not quoted. -/
theorem eq_of_append_eq {xs ys : List Char} (hstop : stop ∉ ['\'', '"'])
    (ha : Unstopped stop as) (hb : Unstopped stop bs)
    (h : as ++ stop :: xs = bs ++ stop :: ys) : xs = ys := by
  induction ha generalizing bs with
  | nil =>
      cases hb with
      | nil => exact (List.cons.inj h).2
      | plain hc _ =>
          obtain ⟨rfl, -⟩ := List.cons.inj h
          exact absurd (List.mem_cons_self ..) hc
      | quoted hq _ _ _ =>
          obtain ⟨rfl, -⟩ := List.cons.inj h
          exact absurd hq hstop
  | @plain c cs hc _ ih =>
      cases hb with
      | nil =>
          obtain ⟨rfl, -⟩ := List.cons.inj h
          exact absurd (List.mem_cons_self ..) hc
      | plain _ hb => exact ih hb (List.cons.inj h).2
      | quoted hq _ _ _ =>
          obtain ⟨rfl, -⟩ := List.cons.inj h
          exact absurd (by simpa using Or.inr (Or.inr (by simpa using hq))) hc
  | @quoted q value cs hq hvalue _ _ ih =>
      cases hb with
      | nil =>
          obtain ⟨rfl, -⟩ := List.cons.inj h
          exact absurd hq hstop
      | plain hc _ =>
          obtain ⟨rfl, -⟩ := List.cons.inj h
          exact absurd (by simpa using Or.inr (Or.inr (by simpa using hq))) hc
      | quoted _ hvalue' _ hb =>
          simp only [List.cons_append, List.append_assoc, List.cons.injEq] at h
          obtain ⟨rfl, h⟩ := h
          exact ih hb (eq_of_append_cons_eq hvalue hvalue' h)

end Unstopped

/-- From one place of a text another is reached without a stop outside quotes. -/
def Reaches (stop : Char) (cs rest : List Char) : Prop :=
  ∃ used, Unstopped stop used ∧ cs = used ++ rest

namespace Reaches

variable {stop : Char} {as bs cs : List Char}

theorem refl : Reaches stop cs cs := ⟨[], .nil, rfl⟩

theorem trans (h : Reaches stop as bs) (h' : Reaches stop bs cs) : Reaches stop as cs := by
  obtain ⟨used, hused, rfl⟩ := h
  obtain ⟨used', hused', rfl⟩ := h'
  exact ⟨used ++ used', hused.append hused', (List.append_assoc ..).symm⟩

theorem cons {c : Char} (hc : c ∉ [stop, '<', '\'', '"']) : Reaches stop (c :: cs) cs :=
  ⟨[c], .plain hc .nil, rfl⟩

theorem quoted {q : Char} {value : List Char} (hq : q ∈ ['\'', '"']) (hvalue : q ∉ value)
    (hlt : '<' ∉ value) : Reaches stop (q :: (value ++ q :: cs)) cs :=
  ⟨q :: (value ++ [q]), .quoted hq hvalue hlt .nil, by simp⟩

theorem isSuffix (h : Reaches stop as bs) : bs <:+ as := by
  obtain ⟨used, -, rfl⟩ := h
  exact List.suffix_append used bs

/-- The stop that is reached is the one that ends the text. -/
theorem eq_of_unstopped {body xs ys : List Char} (hstop : stop ∉ ['\'', '"'])
    (hbody : Unstopped stop body) (h : Reaches stop (body ++ stop :: xs) (stop :: ys)) :
    xs = ys := by
  obtain ⟨used, hused, heq⟩ := h
  exact hbody.eq_of_append_eq hstop hused heq

end Reaches

/-! ## Scanners that look for a stop -/

theorem span_eq_append {p : Char → Bool} {cs xs ys : List Char} (h : cs.span p = (xs, ys)) :
    cs = xs ++ ys ∧ ∀ c ∈ xs, p c := by
  rw [List.span_eq_takeWhile_dropWhile] at h
  obtain ⟨rfl, rfl⟩ := Prod.mk.inj h
  exact ⟨List.takeWhile_append_dropWhile.symm, fun c hc => List.mem_takeWhile_imp hc⟩

theorem not_of_span_eq_cons {p : Char → Bool} {cs xs ys : List Char} {y : Char}
    (h : cs.span p = (xs, y :: ys)) : ¬ p y := by
  rw [List.span_eq_takeWhile_dropWhile] at h
  have hhead := List.head?_dropWhile_not p cs
  rw [(Prod.mk.inj h).2] at hhead
  simpa using hhead

theorem exists_append_skipSpaces (cs : List Char) :
    ∃ blanks, (∀ c ∈ blanks, isSpace c) ∧ cs = blanks ++ skipSpaces cs := by
  obtain ⟨happend, hspaces⟩ := span_eq_append (List.span_eq_takeWhile_dropWhile isSpace cs)
  exact ⟨_, hspaces, happend⟩

/-- The characters that end tags and XML declarations. -/
def stops : List Char := ['>', '?']

section Stop

variable {stop : Char} (hstop : stop ∈ stops)

include hstop

/-- A test that no stop, no quote and no `<` passes is passed by plain characters only. -/
theorem not_mem_of_test {p : Char → Bool} (hp : ¬ ['>', '?', '<', '\'', '"'].any p)
    {c : Char} (hc : p c) : c ∉ [stop, '<', '\'', '"'] := by
  intro hmem
  rcases List.mem_cons.mp hmem with rfl | hmem
  · exact hp (List.any_eq_true.mpr ⟨c, List.mem_append_left _ hstop, hc⟩)
  · exact hp (List.any_eq_true.mpr ⟨c, List.mem_append_right stops hmem, hc⟩)

theorem not_mem_of_isNameChar {c : Char} (hc : isNameChar c) : c ∉ [stop, '<', '\'', '"'] :=
  not_mem_of_test hstop (by decide) hc

theorem not_mem_of_isSpace {c : Char} (hc : isSpace c) : c ∉ [stop, '<', '\'', '"'] :=
  not_mem_of_test hstop (by decide) hc

theorem reaches_skipSpaces (cs : List Char) : Reaches stop cs (skipSpaces cs) := by
  obtain ⟨blanks, hspaces, happend⟩ := exists_append_skipSpaces cs
  exact ⟨blanks, .of_forall fun c hc => not_mem_of_isSpace hstop (hspaces c hc), happend⟩

theorem reaches_scan {cs rest : List Char} {name : QName}
    (h : QName.scan cs = some (name, rest)) : Reaches stop cs rest := by
  obtain ⟨_, -, heq⟩ := Option.map_eq_some_iff.mp h
  obtain ⟨-, rfl⟩ := Prod.mk.inj heq
  have hspan : cs.span isNameChar = (spanWhile isNameChar cs).map id id := rfl
  obtain ⟨happend, hname⟩ := span_eq_append hspan
  exact ⟨_, .of_forall fun c hc => not_mem_of_isNameChar hstop (hname c hc), happend⟩

theorem reaches_scanAssignment {cs raw rest : List Char} {name : QName}
    (h : scanAssignment cs = some (name, raw, rest)) : Reaches stop cs rest := by
  obtain ⟨⟨n, afterName⟩, hname, h⟩ := Option.bind_eq_some_iff.mp h
  have hequals : '=' ∉ [stop, '<', '\'', '"'] :=
    not_mem_of_test hstop (p := (· == '=')) (by decide) rfl
  dsimp only at h
  split at h
  case h_2 => cases h
  case h_1 afterSign hsign =>
    split at h
    case h_2 => cases h
    case h_1 q afterQuote hquote =>
      split at h
      case isFalse => cases h
      case isTrue hq =>
        split at h
        case h_2 => cases h
        case h_1 value end_ afterValue hspan =>
          split at h
          case isFalse => cases h
          case isTrue hend =>
            subst hend
            obtain ⟨-, heq⟩ := Prod.mk.inj (Option.some.inj h)
            obtain ⟨-, rfl⟩ := Prod.mk.inj heq
            obtain ⟨rfl, hvalue⟩ := span_eq_append hspan
            have hq : end_ ∈ ['\'', '"'] := by simpa using hq
            have hend : end_ ∉ value := fun hmem => by simpa using hvalue end_ hmem
            have hlt : '<' ∉ value := fun hmem => by simpa using hvalue '<' hmem
            apply (reaches_scan hstop hname).trans
            apply (reaches_skipSpaces hstop afterName).trans
            rw [hsign]
            apply (Reaches.cons hequals).trans
            apply (reaches_skipSpaces hstop afterSign).trans
            rw [hquote]
            exact .quoted hq hend hlt

end Stop

/-! ## Tags -/

namespace Token

theorem reaches_scanAttributes {fuel : Nat} {cs rest : List Char} {attributes : List Attribute}
    {isEmpty : Bool} (h : scanAttributes fuel cs = some (attributes, isEmpty, rest)) :
    Reaches '>' cs ('>' :: rest) := by
  have hstop : '>' ∈ stops := by decide
  induction fuel generalizing cs attributes with
  | zero => cases h
  | succ fuel ih =>
      have hskip := reaches_skipSpaces hstop cs
      rw [scanAttributes] at h
      split at h
      case h_1 rest' hspaces =>
        cases h
        rwa [hspaces] at hskip
      case h_2 rest' hspaces =>
        cases h
        rw [hspaces] at hskip
        exact hskip.trans (.cons (by decide))
      case h_3 =>
        split at h
        case isFalse => cases h
        case isTrue =>
          obtain ⟨⟨name, raw, afterValue⟩, hassign, h⟩ := Option.bind_eq_some_iff.mp h
          obtain ⟨value, -, h⟩ := Option.bind_eq_some_iff.mp h
          obtain ⟨⟨others, isEmpty', rest'⟩, hothers, h⟩ := Option.bind_eq_some_iff.mp h
          cases h
          exact (hskip.trans (reaches_scanAssignment hstop hassign)).trans (ih hothers)

theorem reaches_scanTag {fuel : Nat} {cs rest : List Char} {token : Token}
    (h : scanTag fuel cs = some (token, rest)) : Reaches '>' cs ('>' :: rest) := by
  obtain ⟨⟨name, afterName⟩, hname, h⟩ := Option.bind_eq_some_iff.mp h
  obtain ⟨⟨attributes, isEmpty, rest'⟩, hattributes, h⟩ := Option.bind_eq_some_iff.mp h
  cases h
  exact (reaches_scan (by decide) hname).trans (reaches_scanAttributes hattributes)

theorem reaches_scanCloseTag {cs rest : List Char} {token : Token}
    (h : scanCloseTag cs = some (token, rest)) : Reaches '>' cs ('>' :: rest) := by
  obtain ⟨⟨name, afterName⟩, hname, h⟩ := Option.bind_eq_some_iff.mp h
  dsimp only at h
  split at h
  case h_2 => cases h
  case h_1 rest' hspaces =>
    cases h
    have hskip : Reaches '>' afterName (skipSpaces afterName) :=
      reaches_skipSpaces (by decide) afterName
    rw [hspaces] at hskip
    exact (reaches_scan (by decide) hname).trans hskip

/-- The ways in which a token is scanned. -/
inductive Scans (fuel : Nat) : List Char → Token → List Char → Prop where
  | comment {cs rest : List Char} {token : Token}
      (h : scanComment cs = some (token, rest)) :
      Scans fuel ('<' :: '!' :: '-' :: '-' :: cs) token rest
  | cdata {cs content rest : List Char} (h : breakAt "]]>".toList cs = some (content, rest)) :
      Scans fuel ('<' :: '!' :: '[' :: 'C' :: 'D' :: 'A' :: 'T' :: 'A' :: '[' :: cs)
        (.cdata content) rest
  | instruction {cs rest : List Char} {token : Token}
      (h : scanInstruction cs = some (token, rest)) : Scans fuel ('<' :: '?' :: cs) token rest
  | closeTag {cs rest : List Char} {token : Token}
      (h : scanCloseTag cs = some (token, rest)) : Scans fuel ('<' :: '/' :: cs) token rest
  | tag {cs rest : List Char} {token : Token} (hmark : cs.head? ≠ some '!')
      (hinstruction : cs.head? ≠ some '?') (h : scanTag fuel cs = some (token, rest)) :
      Scans fuel ('<' :: cs) token rest
  | text {cs rest : List Char} {token : Token} (hlt : cs.head? ≠ some '<')
      (h : scanText cs = some (token, rest)) : Scans fuel cs token rest

theorem scans_of_scan {fuel : Nat} {cs rest : List Char} {token : Token}
    (h : scan fuel cs = some (token, rest)) : Scans fuel cs token rest := by
  unfold scan at h
  split at h
  case h_1 => exact .comment h
  case h_2 =>
    obtain ⟨⟨content, rest'⟩, hbreak, heq⟩ := Option.map_eq_some_iff.mp h
    cases heq
    exact .cdata hbreak
  case h_3 => cases h
  case h_4 => exact .instruction h
  case h_5 => exact .closeTag h
  case h_6 cs _ _ hmark hinstruction _ =>
    apply Scans.tag _ _ h
    · rintro hhead
      obtain ⟨tail, rfl⟩ := List.head?_eq_some_iff.mp hhead
      exact hmark tail rfl
    · rintro hhead
      obtain ⟨tail, rfl⟩ := List.head?_eq_some_iff.mp hhead
      exact hinstruction tail rfl
  case h_7 hlt =>
    apply Scans.text _ h
    rintro hhead
    obtain ⟨tail, rfl⟩ := List.head?_eq_some_iff.mp hhead
    exact hlt tail rfl

/-- What starts with `<` and is neither a declaration nor an instruction is a tag. -/
theorem reaches_scan_tag {fuel : Nat} {cs rest : List Char} {token : Token}
    (hmark : cs.head? ≠ some '!') (hinstruction : cs.head? ≠ some '?')
    (h : scan fuel ('<' :: cs) = some (token, rest)) : Reaches '>' cs ('>' :: rest) := by
  generalize htext : '<' :: cs = text at h
  cases scans_of_scan h with
  | comment =>
      obtain ⟨-, rfl⟩ := List.cons.inj htext
      exact absurd rfl hmark
  | cdata =>
      obtain ⟨-, rfl⟩ := List.cons.inj htext
      exact absurd rfl hmark
  | instruction =>
      obtain ⟨-, rfl⟩ := List.cons.inj htext
      exact absurd rfl hinstruction
  | closeTag h =>
      obtain ⟨-, rfl⟩ := List.cons.inj htext
      exact Reaches.trans (.cons (by decide)) (reaches_scanCloseTag h)
  | tag _ _ h =>
      obtain ⟨-, rfl⟩ := List.cons.inj htext
      exact reaches_scanTag h
  | text hlt =>
      subst htext
      exact absurd rfl hlt

end Token

/-! ## Marks -/

/-- A text is broken where a mark first occurs in it. -/
theorem breakFrom_eq_some {mark before cs u v : List Char}
    (h : breakFrom mark before cs = some (u, v)) :
    ∃ first, u = before.reverse ++ first ∧ cs = first ++ mark ++ v ∧
      ∀ x y, cs = x ++ mark ++ y → first.length ≤ x.length := by
  induction cs generalizing before with
  | nil => cases h
  | cons c cs ih =>
      rw [breakFrom] at h
      split at h
      case isTrue hstarts =>
        obtain ⟨rfl, rfl⟩ := Prod.mk.inj (Option.some.inj h)
        have happend := List.prefix_iff_eq_append.mp (List.isPrefixOf_iff_prefix.mp hstarts)
        exact ⟨[], (List.append_nil _).symm, happend.symm, fun x y _ => Nat.zero_le _⟩
      case isFalse hstarts =>
        obtain ⟨first, rfl, rfl, hfirst⟩ := ih h
        refine ⟨c :: first, by simp, rfl, fun x y hxy => ?_⟩
        cases x with
        | nil =>
            exfalso
            apply hstarts
            rw [hxy]
            exact List.isPrefixOf_iff_prefix.mpr (List.prefix_append mark y)
        | cons d x =>
            have hx := hfirst x y (List.cons.inj hxy).2
            exact Nat.succ_le_succ hx

theorem breakAt_eq_some {mark cs u v : List Char} (h : breakAt mark cs = some (u, v)) :
    cs = u ++ mark ++ v := by
  obtain ⟨first, rfl, hcs, -⟩ := breakFrom_eq_some h
  exact hcs

/-- Where a mark occurs, a text is broken there or before. -/
theorem breakAt_append {mark xs ys u v : List Char}
    (h : breakAt mark (xs ++ mark ++ ys) = some (u, v)) :
    ∃ between, xs ++ mark = u ++ mark ++ between ∧ v = between ++ ys := by
  obtain ⟨first, rfl, hcs, hfirst⟩ := breakFrom_eq_some h
  have hlength := hfirst xs ys rfl
  rcases List.append_eq_append_iff.mp hcs with ⟨between, hbetween, hys⟩ | ⟨between, hxs, hv⟩
  · have hnil : between = [] := by
      have := congrArg List.length hbetween
      simp only [List.length_append] at this
      exact List.length_eq_zero_iff.mp (by omega)
    subst hnil
    exact ⟨[], by simpa using hbetween.symm, by simpa using hys.symm⟩
  · exact ⟨between, hxs, hv⟩

/-- Whether a mark ends a text where it first occurs can be found out. -/
theorem closedBy_of_breakAt {mark body : List Char}
    (h : breakAt mark (body ++ mark) = some (body, [])) : ClosedBy mark body := by
  obtain ⟨first, rfl, -, hfirst⟩ := breakFrom_eq_some h
  intro before after hafter
  have hlength := congrArg List.length hafter
  have hle := hfirst before after hafter
  simp only [List.length_append] at hlength
  exact List.length_eq_zero_iff.mp (by omega)

theorem ClosedBy.eq_of_breakAt {mark body ys u v : List Char} (hbody : ClosedBy mark body)
    (h : breakAt mark (body ++ mark ++ ys) = some (u, v)) : v = ys := by
  obtain ⟨between, hbetween, rfl⟩ := breakAt_append h
  rw [hbody u between hbetween, List.nil_append]

namespace Token

theorem breakAt_of_scanComment {cs rest : List Char} {token : Token}
    (h : scanComment cs = some (token, rest)) :
    ∃ content, token = .comment content ∧ breakAt "-->".toList cs = some (content, rest) := by
  obtain ⟨⟨content, rest'⟩, hbreak, h⟩ := Option.bind_eq_some_iff.mp h
  dsimp only at h
  split at h
  case isTrue => cases h
  case isFalse =>
    cases h
    exact ⟨content, rfl, hbreak⟩

/-- The target of an instruction and the blanks after it are before the mark that ends it. -/
theorem breakAt_of_scanInstruction {cs rest : List Char} {token : Token}
    (h : scanInstruction cs = some (token, rest)) :
    ∃ before after target content, token = .instruction target content ∧ '?' ∉ before ∧
      cs = before ++ after ∧ breakAt "?>".toList after = some (content, rest) := by
  rw [scanInstruction] at h
  split at h
  case isTrue => cases h
  case isFalse =>
    obtain ⟨⟨target, afterTarget⟩, htarget, h⟩ := Option.bind_eq_some_iff.mp h
    obtain ⟨⟨content, rest'⟩, hbreak, h⟩ := Option.bind_eq_some_iff.mp h
    cases h
    have hspan : cs.span isNameChar = (target, afterTarget) := by
      cases cs with
      | nil => cases htarget
      | cons c cs =>
          rw [scanName] at htarget
          split at htarget
          case isTrue => exact Option.some.inj htarget
          case isFalse => cases htarget
    obtain ⟨rfl, hname⟩ := span_eq_append hspan
    obtain ⟨blanks, hspaces, happend⟩ := exists_append_skipSpaces afterTarget
    have hstart : '?' ∉ target ++ blanks := by
      intro hmem
      rcases List.mem_append.mp hmem with hmem | hmem
      · exact absurd (hname '?' hmem) (by decide)
      · exact absurd (hspaces '?' hmem) (by decide)
    refine ⟨target ++ blanks, skipSpaces afterTarget, target, content, rfl, hstart, ?_, hbreak⟩
    rw [List.append_assoc, ← happend]

/-- An instruction ends where its mark occurs, or before. -/
theorem scanInstruction_append {body ys rest : List Char} {token : Token}
    (h : scanInstruction (body ++ "?>".toList ++ ys) = some (token, rest)) :
    ∃ before between, body ++ "?>".toList = before ++ "?>".toList ++ between ∧
      rest = between ++ ys := by
  obtain ⟨before, after, _, content, -, hbefore, happend, hbreak⟩ :=
    breakAt_of_scanInstruction h
  rw [List.append_assoc] at happend
  have hsplit : ∃ remaining, body = before ++ remaining ∧
      after = remaining ++ ("?>".toList ++ ys) := by
    rcases List.append_eq_append_iff.mp happend with ⟨as, has, hmark⟩ | ⟨as, hbody, hafter⟩
    · cases as with
      | nil => exact ⟨[], by simpa using has.symm, by simpa using hmark.symm⟩
      | cons a as =>
          have hmark : '?' :: '>' :: ys = a :: as ++ after := hmark
          obtain ⟨rfl, -⟩ := List.cons.inj hmark
          exact absurd (by rw [has]; simp) hbefore
    · exact ⟨as, hbody, hafter⟩
  obtain ⟨remaining, rfl, rfl⟩ := hsplit
  rw [← List.append_assoc] at hbreak
  obtain ⟨between, hbetween, rfl⟩ := breakAt_append hbreak
  refine ⟨before ++ content, between, ?_, rfl⟩
  rw [List.append_assoc before, hbetween, List.append_assoc before, List.append_assoc before,
    List.append_assoc content]

end Token

/-! ## Character data -/

/-- The first field of a text stands at its start. -/
theorem exists_prefix_field (sep : Char) (cs : List Char) :
    ∃ first rest, Text.fields sep cs = first :: rest ∧ first <+: cs := by
  induction cs with
  | nil => exact ⟨[], [], rfl, List.prefix_rfl⟩
  | cons c cs ih =>
      obtain ⟨first, rest, hfields, hstarts⟩ := ih
      by_cases hc : c = sep
      · rw [hc, Text.fields_cons_sep]
        exact ⟨[], _, rfl, List.nil_prefix⟩
      · rw [Text.fields_cons sep c cs hc, hfields]
        exact ⟨c :: first, rest, rfl, List.cons_prefix_cons.mpr ⟨rfl, hstarts⟩⟩

theorem pieces?_cons {c : Char} (hc : c ≠ '&') (cs : List Char) :
    pieces? (c :: cs) = (pieces? cs).map (.literal c :: ·) := by
  obtain ⟨first, rest, hfields, -⟩ := exists_prefix_field '&' cs
  rw [pieces?, pieces?, Text.fields_cons '&' c cs hc, hfields]
  cases hrest : piecesAfter rest with
  | none => simp [hrest]
  | some qs => simp [hrest]

theorem piecesAfterAmpersand_eq_some {cs : List Char} {ps : List Piece}
    (h : piecesAfterAmpersand cs = some ps) :
    ∃ name after c, cs = name ++ ';' :: after ∧ referent? name = some c ∧
      ps = .reference c :: after.map .literal := by
  rw [piecesAfterAmpersand] at h
  split at h
  case h_2 => cases h
  case h_1 name mark after hspan =>
    obtain ⟨c, hc, h⟩ := Option.bind_eq_some_iff.mp h
    cases h
    have hmark : mark = ';' := by simpa using not_of_span_eq_cons hspan
    subst hmark
    obtain ⟨rfl, -⟩ := span_eq_append hspan
    exact ⟨name, after, c, rfl, hc, rfl⟩

/-- An ampersand starts a reference, which is closed and refers to something. Without the
ampersand its name would be text. -/
theorem pieces?_ampersand_eq_some {cs : List Char} {ps : List Piece}
    (h : pieces? ('&' :: cs) = some ps) :
    ∃ name after rest c qs, cs = name ++ ';' :: after ++ rest ∧ referent? name = some c ∧
      ps = .reference c :: (after.map .literal ++ qs) ∧
      pieces? cs = some ((name ++ ';' :: after).map .literal ++ qs) := by
  obtain ⟨first, fields, hfields, rest, rfl⟩ := exists_prefix_field '&' cs
  rw [pieces?, Text.fields_cons_sep, hfields] at h
  obtain ⟨_, hfirst, heq⟩ := Option.bind_eq_some_iff.mp h
  obtain ⟨ps', hps, hfirst⟩ := Option.bind_eq_some_iff.mp hfirst
  obtain ⟨qs, hqs, hfirst⟩ := Option.bind_eq_some_iff.mp hfirst
  cases hfirst
  cases heq
  obtain ⟨name, after, c, rfl, hc, rfl⟩ := piecesAfterAmpersand_eq_some hps
  refine ⟨name, after, rest, c, qs, rfl, hc, rfl, ?_⟩
  rw [pieces?, hfields]
  simp [hqs]

theorem isSome_pieces?_of_cons {c : Char} {cs : List Char} (h : (pieces? (c :: cs)).isSome) :
    (pieces? cs).isSome := by
  by_cases hc : c = '&'
  · obtain ⟨ps, hps⟩ := Option.isSome_iff_exists.mp h
    rw [hc] at hps
    obtain ⟨_, _, _, _, _, -, -, -, htail⟩ := pieces?_ampersand_eq_some hps
    rw [htail]
    rfl
  · rw [pieces?_cons hc, Option.isSome_map] at h
    exact h

theorem isSome_breakFrom (mark before before' cs : List Char) :
    (breakFrom mark before cs).isSome = (breakFrom mark before' cs).isSome := by
  induction cs generalizing before before' with
  | nil => rfl
  | cons c cs ih =>
      rw [breakFrom, breakFrom]
      split
      · rfl
      · exact ih _ _

theorem hasMark_cons {mark cs : List Char} (c : Char) (h : hasMark mark cs) :
    hasMark mark (c :: cs) := by
  rw [hasMark, breakAt, breakFrom]
  split
  · rfl
  · rwa [isSome_breakFrom mark [c] []]

/-- The characters before the next tag are scanned as one text. -/
theorem Token.scanText_eq (cs : List Char) :
    scanText cs =
      if hasMark "]]>".toList (cs.takeWhile (· != '<')) then none
      else (pieces? (cs.takeWhile (· != '<'))).map fun ps =>
        (.text ps, cs.dropWhile (· != '<')) := by
  rw [scanText, spanWhile, List.span_eq_takeWhile_dropWhile]
  dsimp only
  split
  · rfl
  · cases pieces? (cs.takeWhile (· != '<')) <;> rfl

theorem Token.scan_of_ne {c : Char} (hc : c ≠ '<') (fuel : Nat) (cs : List Char) :
    scan fuel (c :: cs) = scanText (c :: cs) := by
  unfold scan
  split
  case h_7 => rfl
  all_goals
    rename_i heq
    exact absurd (List.cons.inj heq).1 hc

/-! ## Scannable text -/

/-- Whether all of a text is made of tokens. -/
def Scannable (cs : List Char) : Prop := ∃ fuel tokens, Token.scanAll fuel cs = some tokens

namespace Scannable

variable {c : Char} {cs rest : List Char}

/-- What follows the first token can be scanned as well. -/
theorem exists_scan (h : Scannable (c :: cs)) :
    ∃ fuel token rest, Token.scan fuel (c :: cs) = some (token, rest) ∧ Scannable rest := by
  obtain ⟨fuel, tokens, h⟩ := h
  cases fuel with
  | zero => cases h
  | succ fuel =>
      obtain ⟨⟨token, rest⟩, hscan, h⟩ := Option.bind_eq_some_iff.mp h
      obtain ⟨tokens', hrest, -⟩ := Option.bind_eq_some_iff.mp h
      exact ⟨fuel, token, rest, hscan, fuel, tokens', hrest⟩

theorem of_scanText {token : Token} (hc : c ≠ '<')
    (hscan : Token.scanText (c :: cs) = some (token, rest)) (h : Scannable rest) :
    Scannable (c :: cs) := by
  obtain ⟨fuel, tokens, h⟩ := h
  refine ⟨fuel + 1, token :: tokens, ?_⟩
  change (Token.scan fuel (c :: cs)).bind _ = _
  rw [Token.scan_of_ne hc, hscan, Option.bind_some]
  dsimp only
  rw [h]
  rfl

/-- A character of text can be left out. -/
theorem of_cons (hc : c ≠ '<') (h : Scannable (c :: cs)) : Scannable cs := by
  obtain ⟨fuel, token, rest, hscan, hrest⟩ := h.exists_scan
  rw [Token.scan_of_ne hc] at hscan
  have hrun : (c :: cs).takeWhile (· != '<') = c :: cs.takeWhile (· != '<') :=
    List.takeWhile_cons_of_pos (by simpa using hc)
  have hdrop : (c :: cs).dropWhile (· != '<') = cs.dropWhile (· != '<') :=
    List.dropWhile_cons_of_pos (by simpa using hc)
  rw [Token.scanText_eq, hrun, hdrop] at hscan
  split at hscan
  case isTrue => cases hscan
  case isFalse hmark =>
    obtain ⟨ps, hps, heq⟩ := Option.map_eq_some_iff.mp hscan
    cases heq
    cases cs with
    | nil => exact hrest
    | cons d ds =>
        by_cases hd : d = '<'
        · subst hd
          exact hrest
        · obtain ⟨ps', hps'⟩ := Option.isSome_iff_exists.mp
            (isSome_pieces?_of_cons (Option.isSome_iff_exists.mpr ⟨ps, hps⟩))
          have htext : Token.scanText (d :: ds) =
              some (.text ps', (d :: ds).dropWhile (· != '<')) := by
            rw [Token.scanText_eq, if_neg fun h => hmark (hasMark_cons c h), hps']
            rfl
          exact of_scanText hd htext hrest

/-- Text without tags can be left out. -/
theorem of_append {run : List Char} (hrun : '<' ∉ run) (h : Scannable (run ++ cs)) :
    Scannable cs := by
  induction run with
  | nil => exact h
  | cons c run ih =>
      rw [List.mem_cons, not_or] at hrun
      exact ih hrun.2 (h.of_cons (Ne.symm hrun.1))

/-- What follows a tag can be scanned as well. -/
theorem of_tag {body : List Char} (hbody : Unstopped '>' body) (hmark : body.head? ≠ some '!')
    (hinstruction : body.head? ≠ some '?') (h : Scannable ('<' :: (body ++ '>' :: cs))) :
    Scannable cs := by
  obtain ⟨fuel, token, rest, hscan, hrest⟩ := h.exists_scan
  have hhead (c : Char) (hc : c ≠ '>') (hbody : body.head? ≠ some c) :
      (body ++ '>' :: cs).head? ≠ some c := by
    cases body with
    | nil => simpa using Ne.symm hc
    | cons b body => simpa using hbody
  have hreaches := Token.reaches_scan_tag (hhead '!' (by decide) hmark)
    (hhead '?' (by decide) hinstruction) hscan
  rw [hreaches.eq_of_unstopped (by decide) hbody]
  exact hrest

/-- What follows a comment can be scanned as well. -/
theorem of_comment {body : List Char} (hbody : ClosedBy "-->".toList body)
    (h : Scannable ("<!--".toList ++ (body ++ "-->".toList ++ cs))) : Scannable cs := by
  obtain ⟨fuel, token, rest, hscan, hrest⟩ := h.exists_scan
  obtain ⟨content, -, hbreak⟩ := Token.breakAt_of_scanComment hscan
  rw [← hbody.eq_of_breakAt hbreak]
  exact hrest

/-- What follows unparsed text can be scanned as well. -/
theorem of_cdata {body : List Char} (hbody : ClosedBy "]]>".toList body)
    (h : Scannable ("<![CDATA[".toList ++ (body ++ "]]>".toList ++ cs))) : Scannable cs := by
  obtain ⟨fuel, token, rest, hscan, hrest⟩ := h.exists_scan
  obtain ⟨⟨content, rest'⟩, hbreak, heq⟩ := Option.map_eq_some_iff.mp hscan
  cases heq
  rw [← hbody.eq_of_breakAt hbreak]
  exact hrest

/-- What follows an instruction can be scanned as well, be it from an earlier mark on. -/
theorem exists_of_instruction {body : List Char}
    (h : Scannable ("<?".toList ++ (body ++ "?>".toList ++ cs))) :
    ∃ before between, body ++ "?>".toList = before ++ "?>".toList ++ between ∧
      Scannable (between ++ cs) := by
  obtain ⟨fuel, token, rest, hscan, hrest⟩ := h.exists_scan
  obtain ⟨before, between, hbetween, rfl⟩ := Token.scanInstruction_append hscan
  exact ⟨before, between, hbetween, hrest⟩

/-- From a place in a document that can be scanned on one comes to every later place. -/
theorem of_content {content : List Char} (hcontent : Content content)
    (h : Scannable (content ++ cs)) : Scannable cs := by
  induction hcontent with
  | nil => exact h
  | char hc _ ih => exact ih (of_cons hc h)
  | tag hbody hmark hinstruction _ ih =>
      rw [List.cons_append, List.append_assoc, List.cons_append] at h
      exact ih (of_tag hbody hmark hinstruction h)
  | comment hbody _ ih =>
      rw [List.append_assoc, List.append_assoc] at h
      exact ih (of_comment hbody h)
  | cdata hbody _ ih =>
      rw [List.append_assoc, List.append_assoc] at h
      exact ih (of_cdata hbody h)
  | instruction hbody _ _ ih =>
      rw [List.append_assoc, List.append_assoc] at h
      obtain ⟨before, between, hbetween, h⟩ := exists_of_instruction h
      rw [hbody before between hbetween] at h
      exact ih h

end Scannable

/-! ## Preambles -/

theorem reaches_skipDeclared {cs rest : List Char} (h : skipDeclared cs = some rest) :
    Reaches '?' cs rest := by
  have hskip : Reaches '?' cs (skipSpaces cs) := reaches_skipSpaces (by decide) cs
  rw [skipDeclared] at h
  split at h
  case h_1 rest' hspaces =>
    cases h
    rwa [hspaces] at hskip
  case h_2 =>
    split at h
    case isTrue =>
      cases h
      exact hskip
    case isFalse => cases h

theorem reaches_skipAssignment {keyword : String} {cs rest : List Char}
    (h : skipAssignment keyword cs = some rest) : Reaches '?' cs rest := by
  rw [skipAssignment] at h
  split at h
  case isTrue =>
    obtain ⟨⟨name, raw, rest'⟩, hassign, heq⟩ := Option.map_eq_some_iff.mp h
    cases heq
    exact reaches_scanAssignment (by decide) hassign
  case isFalse =>
    cases h
    exact .refl

theorem reaches_declarationEnd {keyword : String} {cs after rest : List Char}
    (h : skipAssignment keyword cs = some after)
    (hspaces : skipSpaces after = '?' :: '>' :: rest) : Reaches '?' cs ('?' :: '>' :: rest) := by
  have hskip : Reaches '?' after (skipSpaces after) := reaches_skipSpaces (by decide) after
  rw [hspaces] at hskip
  exact (reaches_skipAssignment h).trans hskip

/-- An XML declaration is read up to its end. -/
theorem reaches_skipDeclaration {cs rest : List Char} (h : skipDeclaration cs = some rest) :
    Reaches '?' cs ('?' :: '>' :: rest) := by
  have hstop : '?' ∈ stops := by decide
  rw [skipDeclaration] at h
  dsimp only at h
  split at h
  case isFalse => cases h
  case isTrue =>
    obtain ⟨⟨name, raw, afterVersion⟩, hversion, h⟩ := Option.bind_eq_some_iff.mp h
    obtain ⟨declared, hdeclared, h⟩ := Option.bind_eq_some_iff.mp h
    have hstart : Reaches '?' cs declared :=
      ((reaches_skipSpaces hstop cs).trans (reaches_scanAssignment hstop hversion)).trans
        (reaches_skipDeclared hdeclared)
    split at h
    case isTrue =>
      obtain ⟨afterEncoding, hencoding, h⟩ := Option.bind_eq_some_iff.mp h
      obtain ⟨afterValue, hvalue, hblank⟩ := Option.bind_eq_some_iff.mp hencoding
      have hencoding : Reaches '?' declared afterEncoding :=
        (reaches_skipAssignment hvalue).trans (reaches_skipDeclared hblank)
      obtain ⟨afterStandalone, hstandalone, h⟩ := Option.bind_eq_some_iff.mp h
      split at h
      case h_2 => cases h
      case h_1 hspaces =>
        cases h
        exact (hstart.trans hencoding).trans (reaches_declarationEnd hstandalone hspaces)
    case isFalse =>
      obtain ⟨_, hsame, h⟩ := Option.bind_eq_some_iff.mp h
      cases hsame
      obtain ⟨afterStandalone, hstandalone, h⟩ := Option.bind_eq_some_iff.mp h
      split at h
      case h_2 => cases h
      case h_1 hspaces =>
        cases h
        exact hstart.trans (reaches_declarationEnd hstandalone hspaces)

/-- A mark without a certain character does not reach beyond it. -/
theorem isPrefix_of_isPrefix_append {mark body rest : List Char} {c : Char} (hc : c ∉ mark)
    (h : mark <+: body ++ c :: rest) : mark <+: body := by
  obtain ⟨after, h⟩ := h
  rcases List.append_eq_append_iff.mp h with ⟨more, hbody, -⟩ | ⟨more, hmark, hrest⟩
  · exact ⟨more, hbody.symm⟩
  · cases more with
    | nil => exact ⟨[], by simpa using hmark⟩
    | cons d more =>
        obtain ⟨rfl, -⟩ := List.cons.inj hrest
        exact absurd (by rw [hmark]; simp) hc

/-- Content does not look like an XML declaration. -/
theorem not_isPrefix_content {content rest : List Char} (hcontent : Content content)
    (hrest : ¬ "<?".toList <+: rest) : ¬ "<?xml ".toList <+: content ++ rest := by
  intro hstarts
  have hstart : ['<', '?'] <+: content ++ rest :=
    List.IsPrefix.trans (List.prefix_append ['<', '?'] "xml ".toList) hstarts
  cases hcontent with
  | nil => exact hrest hstart
  | char hc _ => exact hc (List.cons_prefix_cons.mp hstart).1.symm
  | @tag body cs _ _ hinstruction _ =>
      have hsecond := (List.cons_prefix_cons.mp hstart).2
      cases body with
      | nil => exact absurd (List.cons_prefix_cons.mp hsecond).1 (by decide)
      | cons b body =>
          obtain ⟨rfl, -⟩ := List.cons_prefix_cons.mp hsecond
          exact hinstruction rfl
  | comment _ _ =>
      have hsecond := (List.cons_prefix_cons.mp hstart).2
      exact absurd (List.cons_prefix_cons.mp hsecond).1 (by decide)
  | cdata _ _ =>
      have hsecond := (List.cons_prefix_cons.mp hstart).2
      exact absurd (List.cons_prefix_cons.mp hsecond).1 (by decide)
  | @instruction body cs _ htarget _ =>
      have htail : "xml ".toList <+: body ++ "?>".toList ++ cs ++ rest :=
        (List.prefix_append_right_inj "<?".toList).mp (by simpa using hstarts)
      apply htarget
      apply isPrefix_of_isPrefix_append (c := '?') (by decide)
      simpa using htail

/-- The start of a document without its byte order mark. -/
theorem skipByteOrderMark_preamble {preamble content rest : List Char}
    (hpreamble : IsPreamble preamble) (hcontent : Content content)
    (hmark : rest.head? ≠ some '\ufeff') :
    ∃ declaration content', (declaration = [] ∨ IsDeclaration declaration) ∧
      Content content' ∧
      skipByteOrderMark (preamble ++ content ++ rest) = declaration ++ (content' ++ rest) := by
  have hkept {cs : List Char} (hcs : cs.head? ≠ some '\ufeff') : skipByteOrderMark cs = cs := by
    unfold skipByteOrderMark
    split
    case h_1 => exact absurd rfl hcs
    case h_2 => rfl
  obtain ⟨mark, declaration, rfl | rfl, hdeclaration, hcs⟩ := hpreamble
  · rw [hcs, List.nil_append, List.append_assoc]
    rcases hdeclaration with rfl | hdeclaration
    · -- A byte order mark at the start of the content is skipped as well.
      by_cases hhead : (content ++ rest).head? = some '\ufeff'
      · cases hcontent with
        | nil => exact absurd hhead hmark
        | @char c cs _ hcontent =>
            obtain rfl := Option.some.inj hhead
            exact ⟨[], cs, .inl rfl, hcontent, rfl⟩
        | tag => exact absurd (Option.some.inj hhead) (by decide)
        | comment => exact absurd (Option.some.inj hhead) (by decide)
        | cdata => exact absurd (Option.some.inj hhead) (by decide)
        | instruction => exact absurd (Option.some.inj hhead) (by decide)
      · exact ⟨[], content, .inl rfl, hcontent, hkept hhead⟩
    · refine ⟨declaration, content, .inr hdeclaration, hcontent, ?_⟩
      obtain ⟨blank, body, -, -, rfl⟩ := hdeclaration
      exact hkept fun hhead => absurd (Option.some.inj hhead) (by decide)
  · refine ⟨declaration, content, hdeclaration, hcontent, ?_⟩
    rw [hcs, List.append_assoc, List.append_assoc]
    rfl

/-- After another blank than a space, a declaration is scanned as an instruction. -/
theorem Scannable.of_declaration {text rest : List Char} (htext : Unstopped '?' text)
    (h : Scannable ("<?xml".toList ++ (text ++ '?' :: '>' :: rest))) : Scannable rest := by
  have hsplit : "<?xml".toList ++ (text ++ '?' :: '>' :: rest) =
      "<?".toList ++ ("xml".toList ++ text ++ "?>".toList ++ rest) := by
    simp
  rw [hsplit] at h
  obtain ⟨before, between, hbetween, hscan⟩ := h.exists_of_instruction
  have hlt : '<' ∉ "xml".toList ++ text ++ "?>".toList := by
    rw [List.mem_append, List.mem_append, not_or, not_or]
    exact ⟨⟨by decide, htext.lt_not_mem⟩, by decide⟩
  apply hscan.of_append
  intro hmem
  apply hlt
  rw [hbetween]
  exact List.mem_append_right _ hmem

/-- From the start of a document that is made of tokens one comes to every place of it
outside its markup that does not start a declaration. -/
theorem scannable_of_ofText {preamble content rest : List Char} {tokens : List Token}
    (hpreamble : IsPreamble preamble) (hcontent : Content content)
    (hrest : ¬ "<?".toList <+: rest) (hmark : rest.head? ≠ some '\ufeff')
    (h : Token.ofText (preamble ++ content ++ rest) = some tokens) : Scannable rest := by
  obtain ⟨declaration, content', hdeclaration, hcontent', hskip⟩ :=
    skipByteOrderMark_preamble hpreamble hcontent hmark
  rw [Token.ofText] at h
  split at h
  case isFalse => cases h
  case isTrue =>
    obtain ⟨cs, hcs, h⟩ := Option.bind_eq_some_iff.mp h
    have hscan : Scannable cs := ⟨cs.length, tokens, h⟩
    rw [skipPreamble, hskip] at hcs
    apply Scannable.of_content hcontent'
    rcases hdeclaration with rfl | ⟨blank, body, hblank, hbody, rfl⟩
    case inl =>
      rw [List.nil_append, if_neg] at hcs
      · cases hcs
        exact hscan
      · exact fun hstarts =>
          not_isPrefix_content hcontent' hrest (List.isPrefixOf_iff_prefix.mp hstarts)
    case inr =>
      have hbody : Unstopped '?' (blank :: body) :=
        .plain (not_mem_of_isSpace (by decide) hblank) hbody
      have htext : "<?xml".toList ++ blank :: (body ++ "?>".toList) ++ (content' ++ rest) =
          "<?xml".toList ++ (blank :: body ++ '?' :: '>' :: (content' ++ rest)) := by
        simp
      rw [htext] at hcs
      split at hcs
      case isTrue =>
        have hend := (reaches_skipDeclaration hcs).eq_of_unstopped (by decide) hbody
        rw [(List.cons.inj hend).2]
        exact hscan
      case isFalse =>
        cases hcs
        exact hscan.of_declaration hbody

theorem scannable_of_read {preamble content rest : List Char} {d : Document}
    (hpreamble : IsPreamble preamble) (hcontent : Content content)
    (hrest : ¬ "<?".toList <+: rest) (hmark : rest.head? ≠ some '\ufeff')
    (h : Document.read (preamble ++ content ++ rest) = some d) : Scannable rest := by
  obtain ⟨tokens, htokens, -⟩ := Option.bind_eq_some_iff.mp h
  exact scannable_of_ofText hpreamble hcontent hrest hmark htokens

/-- No token starts as a document type declaration does. -/
theorem not_scannable_doctype (rest : List Char) : ¬ Scannable ("<!DOCTYPE".toList ++ rest) := by
  intro h
  obtain ⟨fuel, token, after, hscan, -⟩ := h.exists_scan
  cases hscan

/-- Only the predefined entities and characters given by their numbers can be referred to. -/
theorem eq_predefined_or_numbered_of_referent? {name : List Char} {c : Char}
    (h : referent? name = some c) :
    String.ofList name ∈ ["amp", "lt", "gt", "quot", "apos"] ∨ ∃ digits, name = '#' :: digits := by
  unfold referent? at h
  split at h
  case h_1 digits => exact .inr ⟨_, rfl⟩
  case h_2 digits _ => exact .inr ⟨_, rfl⟩
  case h_3 =>
    obtain ⟨before, after, htable, -⟩ := List.lookup_eq_some_iff.mp h
    have hnames : ["amp", "lt", "gt", "quot", "apos"] =
        (before ++ (String.ofList name, c) :: after).map Prod.fst :=
      congrArg (List.map Prod.fst) htable
    left
    rw [hnames]
    exact List.mem_map_of_mem (List.mem_append_right before (List.mem_cons_self ..))

/-- What an ampersand starts outside markup is a reference. -/
theorem exists_reference_of_scannable {rest : List Char} (h : Scannable ('&' :: rest)) :
    ∃ name after c, rest = name ++ ';' :: after ∧ referent? name = some c := by
  obtain ⟨fuel, token, after, hscan, -⟩ := h.exists_scan
  rw [Token.scan_of_ne (by decide), Token.scanText_eq] at hscan
  split at hscan
  case isTrue => cases hscan
  case isFalse =>
    obtain ⟨ps, hps, -⟩ := Option.map_eq_some_iff.mp hscan
    rw [List.takeWhile_cons_of_pos (by decide)] at hps
    obtain ⟨name, after, more, c, qs, hname, hc, -, -⟩ := pieces?_ampersand_eq_some hps
    refine ⟨name, after ++ more ++ rest.dropWhile (· != '<'), c, ?_, hc⟩
    calc
      rest = rest.takeWhile (· != '<') ++ rest.dropWhile (· != '<') :=
        List.takeWhile_append_dropWhile.symm
      _ = name ++ ';' :: after ++ more ++ rest.dropWhile (· != '<') := by rw [hname]
      _ = name ++ ';' :: (after ++ more ++ rest.dropWhile (· != '<')) := by simp

end SiteVpn.Xml
