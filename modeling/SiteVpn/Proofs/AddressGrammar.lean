import Mathlib.Data.List.Forall2
import SiteVpn.Address.Cidr
import SiteVpn.Proofs.NumeralGrammar
import SiteVpn.Proofs.Traversal

/-!
# The grammar of addresses and blocks

An address is written as four numerals of octets between dots, and a block as an address and the
numeral of a prefix length around the first slash. Just such texts are read. Where one is not,
the error is that of the leftmost part that is wrong, and the number of fields comes last: it is
looked at when every field is the numeral of an octet.
-/

namespace SiteVpn

/-! ## Fields -/

namespace Text

variable {sep : Char} {cs before after : List Char}

theorem fields_eq_splitOn (sep : Char) (cs : List Char) : fields sep cs = cs.splitOn sep := by
  induction cs with
  | nil => rfl
  | cons c cs ih =>
      rw [List.splitOn_cons_eq_if_modifyHead]
      by_cases hc : c = sep
      · rw [hc, fields_cons_sep, ih, if_pos (beq_self_eq_true sep)]
      · obtain ⟨f, fs, hfs⟩ := List.exists_cons_of_ne_nil (List.splitOn_ne_nil sep cs)
        rw [fields_cons sep c cs hc, ih, if_neg (by simpa using hc), hfs]
        rfl

theorem splitAtFirst_of_not_mem (h : sep ∉ cs) : splitAtFirst sep cs = none := by
  induction cs with
  | nil => rfl
  | cons c cs ih =>
      obtain ⟨hc, hcs⟩ := not_or.mp (mt List.mem_cons.mpr h)
      rw [splitAtFirst, if_neg (Ne.symm hc), ih hcs]
      rfl

theorem splitAtFirst_append (h : sep ∉ before) (after : List Char) :
    splitAtFirst sep (before ++ sep :: after) = some (before, after) := by
  induction before with
  | nil => rw [List.nil_append, splitAtFirst, if_pos rfl]
  | cons c before ih =>
      obtain ⟨hc, hbefore⟩ := not_or.mp (mt List.mem_cons.mpr h)
      rw [List.cons_append, splitAtFirst, if_neg (Ne.symm hc), ih hbefore]
      rfl

end Text

/-! ## Addresses -/

namespace Address

/-- The numeral of an octet. -/
def IsOctet (field : List Char) : Prop := ∃ n < 256, Decimal.IsNumeral field n

/-- A text of an address: the numerals of its octets between dots. -/
def IsText (text : List Char) (x : Address) : Prop :=
  ∃ a b c d, text = a ++ '.' :: (b ++ '.' :: (c ++ '.' :: d)) ∧
    Decimal.IsNumeral a x.a.toNat ∧ Decimal.IsNumeral b x.b.toNat ∧
    Decimal.IsNumeral c x.c.toNat ∧ Decimal.IsNumeral d x.d.toNat

/-- Which texts are no addresses, and why. -/
inductive Fault (text : List Char) : ReadError → Prop
  /-- The leftmost field that is no octet decides the error, however many fields there are. -/
  | field {before after : List (List Char)} {f : List Char} {e : Decimal.NumeralError}
      (hfields : text.splitOn '.' = before ++ f :: after) (hbefore : ∀ g ∈ before, IsOctet g)
      (hf : Decimal.NumeralFault 256 f e) : Fault text (.field e)
  | fieldCount (hfields : ∀ f ∈ text.splitOn '.', IsOctet f)
      (hcount : (text.splitOn '.').length ≠ 4) : Fault text (.fieldCount (String.ofList text))

variable {text : List Char} {fs : List (List Char)}

theorem octets_eq_mapM (fs : List (List Char)) :
    octets fs = fs.mapM fun f => (Decimal.read 256 f).map UInt8.ofNat := by
  induction fs with
  | nil => rfl
  | cons f fs ih =>
      rw [octets, ih, List.mapM_cons]
      cases Decimal.read 256 f <;> rfl

theorem octet_eq_ok_iff {f : List Char} {b : UInt8} :
    (Decimal.read 256 f).map UInt8.ofNat = .ok b ↔ Decimal.IsNumeral f b.toNat := by
  have hread := (Decimal.read_eq_iff (show 0 < 256 by decide) f).1
  simp only [map_eq_ok, hread]
  constructor
  · rintro ⟨n, ⟨hn, hf⟩, rfl⟩
    rwa [UInt8.toNat_ofNat_of_lt' hn]
  · intro hf
    exact ⟨b.toNat, ⟨b.toNat_lt, hf⟩, UInt8.ofNat_toNat⟩

theorem octets_eq_ok_iff {bs : List UInt8} :
    octets fs = .ok bs ↔ List.Forall₂ (fun f b => Decimal.IsNumeral f b.toNat) fs bs := by
  rw [octets_eq_mapM, mapM_eq_ok, ← List.forall₂_eq_eq_eq, List.forall₂_map_left_iff,
    List.forall₂_map_right_iff]
  simp only [octet_eq_ok_iff]

theorem failure?_octet_eq_none_iff {f : List Char} :
    failure? ((Decimal.read 256 f).map UInt8.ofNat) = none ↔ IsOctet f := by
  simp only [failure?_eq_none_iff, octet_eq_ok_iff]
  constructor
  · rintro ⟨b, hb⟩
    exact ⟨b.toNat, b.toNat_lt, hb⟩
  · rintro ⟨n, hn, h⟩
    exact ⟨UInt8.ofNat n, by rwa [UInt8.toNat_ofNat_of_lt' hn]⟩

theorem failure?_octet_eq_some_iff {f : List Char} {e : Decimal.NumeralError} :
    failure? ((Decimal.read 256 f).map UInt8.ofNat) = some e ↔ Decimal.NumeralFault 256 f e := by
  rw [← (Decimal.read_eq_iff (by decide) f).2, failure?_eq_some_iff]
  cases Decimal.read 256 f <;> simp [Except.map]

theorem exists_octets_iff : (∃ bs, octets fs = .ok bs) ↔ ∀ f ∈ fs, IsOctet f := by
  rw [octets_eq_mapM, ← failure?_eq_none_iff, failure?_mapM, List.findSome?_eq_none_iff]
  simp only [failure?_octet_eq_none_iff]

theorem octets_eq_error_iff {e : Decimal.NumeralError} :
    octets fs = .error e ↔
      ∃ before f after, fs = before ++ f :: after ∧ Decimal.NumeralFault 256 f e ∧
        ∀ g ∈ before, IsOctet g := by
  rw [octets_eq_mapM, ← failure?_eq_some_iff, failure?_mapM, List.findSome?_eq_some_iff]
  simp only [failure?_octet_eq_none_iff, failure?_octet_eq_some_iff]

theorem splitOn_of_not_mem {a b c d : List Char} (ha : '.' ∉ a) (hb : '.' ∉ b)
    (hc : '.' ∉ c) (hd : '.' ∉ d) :
    (a ++ '.' :: (b ++ '.' :: (c ++ '.' :: d))).splitOn '.' = [a, b, c, d] := by
  rw [List.splitOn_append_cons_self_of_not_mem ha, List.splitOn_append_cons_self_of_not_mem hb,
    List.splitOn_append_cons_self_of_not_mem hc, List.splitOn_eq_singleton hd]

theorem read_of_isText {x : Address} (h : IsText text x) : read text = .ok x := by
  have hdot {f : List Char} {n : Nat} (h : Decimal.IsNumeral f n) : '.' ∉ f :=
    Decimal.not_mem_of_isNumeral (by decide) (by decide) h
  obtain ⟨a, b, c, d, rfl, ha, hb, hc, hd⟩ := h
  have hoctets : octets [a, b, c, d] = .ok [x.a, x.b, x.c, x.d] :=
    octets_eq_ok_iff.mpr (.cons ha (.cons hb (.cons hc (.cons hd .nil))))
  rw [read, Text.fields_eq_splitOn, splitOn_of_not_mem (hdot ha) (hdot hb) (hdot hc) (hdot hd),
    hoctets]

theorem read_of_fault {e : ReadError} (h : Fault text e) : read text = .error e := by
  rw [read, Text.fields_eq_splitOn]
  cases h with
  | field hfields hbefore hf => rw [octets_eq_error_iff.mpr ⟨_, _, _, hfields, hf, hbefore⟩]
  | fieldCount hfields hcount =>
      obtain ⟨bs, hoctets⟩ := exists_octets_iff.mpr hfields
      rw [(octets_eq_ok_iff.mp hoctets).length_eq] at hcount
      rw [hoctets]
      split
      case h_1 heq => cases heq
      case h_2 heq => exact absurd (congrArg List.length (Except.ok.inj heq)) hcount
      case h_3 => rfl

theorem isText_or_fault (text : List Char) : (∃ x, IsText text x) ∨ ∃ e, Fault text e := by
  cases hoctets : octets (text.splitOn '.') with
  | error e =>
      obtain ⟨before, f, after, hfields, hf, hbefore⟩ := octets_eq_error_iff.mp hoctets
      exact .inr ⟨_, .field hfields hbefore hf⟩
  | ok bs =>
      have hfields := octets_eq_ok_iff.mp hoctets
      by_cases hcount : (text.splitOn '.').length = 4
      · have htext : ['.'].intercalate (text.splitOn '.') = text := List.intercalate_splitOn '.'
        obtain ⟨a, b, c, d, hsplit⟩ := List.length_eq_four.mp hcount
        rw [hsplit] at hfields htext
        rcases hfields with _ | ⟨ha, _ | ⟨hb, _ | ⟨hc, _ | ⟨hd, _ | _⟩⟩⟩⟩
        refine .inl ⟨⟨_, _, _, _⟩, a, b, c, d, ?_, ha, hb, hc, hd⟩
        simpa [List.intercalate] using htext.symm
      · exact .inr ⟨_, .fieldCount (exists_octets_iff.mp ⟨bs, hoctets⟩) hcount⟩

theorem read_eq_iff (text : List Char) :
    (∀ x, read text = .ok x ↔ IsText text x) ∧ ∀ e, read text = .error e ↔ Fault text e :=
  eq_iff_of_outcome (fun _ => read_of_isText) (fun _ => read_of_fault) (isText_or_fault text)

example : read "+10.00.0.007".toList = .ok ⟨10, 0, 0, 7⟩ := rfl

/-- The text of an address is one of its texts. -/
theorem isText_text (x : Address) : IsText x.text.toList x := by
  refine ⟨_, _, _, _, ?_, Decimal.isNumeral_digits _, Decimal.isNumeral_digits _,
    Decimal.isNumeral_digits _, Decimal.isNumeral_digits _⟩
  simp [text]

end Address

/-! ## Blocks -/

namespace Cidr

/-- A text of an address and a prefix length: a slash between the two, the first one. -/
def IsText (text : List Char) (x : Address) (p : PrefixLength) : Prop :=
  ∃ before after, text = before ++ '/' :: after ∧ '/' ∉ before ∧ Address.IsText before x ∧
    Decimal.IsNumeral after p.val

/-- Which texts are no blocks, and why. -/
inductive Fault (text : List Char) : ReadError → Prop
  | noSlash (hslash : '/' ∉ text) : Fault text .noSlash
  | address {before after : List Char} {e : Address.ReadError}
      (htext : text = before ++ '/' :: after) (hbefore : '/' ∉ before)
      (haddress : Address.Fault before e) : Fault text (.address e)
  | length {before after : List Char} {x : Address} {e : Decimal.NumeralError}
      (htext : text = before ++ '/' :: after) (hbefore : '/' ∉ before)
      (haddress : Address.IsText before x) (hlength : Decimal.NumeralFault 256 after e) :
      Fault text (.length e)
  | lengthRange {before after : List Char} {x : Address} {n : Nat}
      (htext : text = before ++ '/' :: after) (hbefore : '/' ∉ before)
      (haddress : Address.IsText before x) (hlength : Decimal.IsNumeral after n)
      (hrange : 32 < n) (hwidth : n < 256) : Fault text (.lengthRange n)

variable {text : List Char} {x : Address} {p : PrefixLength}

theorem read_of_isText (h : IsText text x p) : read text = .ok (of x p) := by
  obtain ⟨before, after, rfl, hbefore, hx, hp⟩ := h
  have hnumber : Decimal.read 256 after = .ok p.val :=
    Decimal.read_of_isNumeral hp (Nat.lt_of_le_of_lt p.le (by decide))
  rw [read, Text.splitAtFirst_append hbefore]
  simp only [Address.read_of_isText hx, hnumber, PrefixLength.ofNat?, dif_pos p.le]

theorem read_of_fault {e : ReadError} (h : Fault text e) : read text = .error e := by
  cases h with
  | noSlash hslash => rw [read, Text.splitAtFirst_of_not_mem hslash]
  | address htext hbefore haddress =>
      rw [htext, read, Text.splitAtFirst_append hbefore]
      simp only [Address.read_of_fault haddress]
  | length htext hbefore haddress hlength =>
      rw [htext, read, Text.splitAtFirst_append hbefore]
      simp only [Address.read_of_isText haddress, Decimal.read_of_fault (by decide) hlength]
  | lengthRange htext hbefore haddress hlength hrange hwidth =>
      rw [htext, read, Text.splitAtFirst_append hbefore]
      simp only [Address.read_of_isText haddress, Decimal.read_of_isNumeral hlength hwidth,
        PrefixLength.ofNat?, dif_neg (Nat.not_le.mpr hrange)]

theorem isText_or_fault (text : List Char) :
    (∃ x p, IsText text x p) ∨ ∃ e, Fault text e := by
  by_cases hslash : '/' ∈ text
  case neg => exact .inr ⟨_, .noSlash hslash⟩
  case pos =>
    obtain ⟨before, after, htext, hbefore⟩ := List.eq_append_cons_of_mem hslash
    rcases Address.isText_or_fault before with ⟨x, hx⟩ | ⟨e, he⟩
    case inr => exact .inr ⟨_, .address htext hbefore he⟩
    case inl =>
      rcases Decimal.isNumeral_or_fault 256 after with ⟨n, hn, hnumeral⟩ | ⟨e, he⟩
      case inr => exact .inr ⟨_, .length htext hbefore hx he⟩
      case inl =>
        by_cases hrange : n ≤ 32
        · exact .inl ⟨x, ⟨n, hrange⟩, before, after, htext, hbefore, hx, hnumeral⟩
        · exact .inr ⟨_, .lengthRange htext hbefore hx hnumeral (Nat.not_le.mp hrange) hn⟩

theorem read_eq_iff (text : List Char) :
    (∀ c, read text = .ok c ↔ ∃ x p, IsText text x p ∧ c = of x p) ∧
      ∀ e, read text = .error e ↔ Fault text e := by
  apply eq_iff_of_outcome
  case hresult =>
    rintro c ⟨x, p, htext, rfl⟩
    exact read_of_isText htext
  case hfailure => exact fun e => read_of_fault
  case h =>
    rcases isText_or_fault text with ⟨x, p, htext⟩ | hfault
    · exact .inl ⟨_, x, p, htext, rfl⟩
    · exact .inr hfault

end Cidr

/-- Addresses and blocks are read by their grammar. A text is read as an address if it has four
fields that are numerals of octets, and then as theirs; the leftmost field that is no such
numeral decides the error, and the number of fields only where there is none. A text is read as
a block if there is a slash, before the first one the text of an address, and after it the
numeral of a prefix length; the first of these that is missing decides the error. What is
written for an address is read as that address. -/
theorem read_by_grammar :
    (∀ text x, Address.read text = .ok x ↔ Address.IsText text x) ∧
    (∀ text e, Address.read text = .error e ↔ Address.Fault text e) ∧
    (∀ text, (Address.ReadError.fieldCount text).message = "malformed ip: " ++ text) ∧
    (∀ x : Address, Address.read x.text.toList = .ok x) ∧
    (∀ text c, Cidr.read text = .ok c ↔ ∃ x p, Cidr.IsText text x p ∧ c = .of x p) ∧
    ∀ text e, Cidr.read text = .error e ↔ Cidr.Fault text e :=
  ⟨fun text => (Address.read_eq_iff text).1, fun text => (Address.read_eq_iff text).2,
    fun _ => rfl, fun x => Address.read_of_isText x.isText_text,
    fun text => (Cidr.read_eq_iff text).1, fun text => (Cidr.read_eq_iff text).2⟩

end SiteVpn
