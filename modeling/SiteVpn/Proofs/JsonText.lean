import Mathlib.Data.List.Basic
import SiteVpn.Json.Printer
import SiteVpn.Json.Reader
import SiteVpn.Proofs.Numeral
import SiteVpn.Proofs.Traversal

/-!
# Written values are read back

A value is written as the tokens it is made of, with or without blanks between them, and these
tokens build it up again. Every string is read back as it was, whatever characters it holds.
Numbers are scanned as literals of a certain form, and every literal of this form is read back
from its text, that of an integer included.

## Implementation notes

A number is the only token whose end depends on what follows it. So what is written after a
value has to start with a mark or a new line, which it does inside arrays and objects.
-/

namespace SiteVpn.Json

/-! ## Numbers -/

/-- The characters of which one ends a number. -/
def delimiters : List Char := [',', ']', '\x7d', ' ', '\n', '\t', '\r']

/-- What may follow a number. -/
def Delimited (rest : List Char) : Prop := ∀ c ∈ rest.head?, c ∈ delimiters

theorem delimited_nil : Delimited [] := fun _ h => by cases h

theorem delimited_cons {c : Char} (hc : c ∈ delimiters) (rest : List Char) :
    Delimited (c :: rest) := by
  intro d hd
  obtain rfl : c = d := Option.some.inj hd
  exact hc

theorem delimited_blanks {blanks rest : List Char} (hblanks : ∀ c ∈ blanks, isBlank c)
    (hrest : Delimited rest) : Delimited (blanks ++ rest) := by
  cases blanks with
  | nil => exact hrest
  | cons c cs =>
      have hc : isBlank c := hblanks c (List.mem_cons_self ..)
      refine delimited_cons ?_ (cs ++ rest)
      simp only [isBlank, Bool.or_eq_true, beq_iff_eq] at hc
      rcases hc with ((rfl | rfl) | rfl) | rfl <;> decide

namespace NumberLiteral

/-- Whether digits may stand before a point: a zero alone, or digits that start with none. -/
def IsWhole (digits : List Char) : Prop :=
  digits = ['0'] ∨ (∃ c cs, digits = c :: cs ∧ c ≠ '0') ∧ ∀ c ∈ digits, c.isDigit

/-- Whether a literal is one that a number is scanned as. -/
structure WellFormed (l : NumberLiteral) : Prop where
  whole : IsWhole l.whole
  fraction : ∀ c ∈ l.fraction, c.isDigit
  exponent : ∀ e ∈ l.exponent, e.2 ≠ [] ∧ ∀ c ∈ e.2, c.isDigit

/-- A point and the digits after it, if there are some. -/
def fractionText (fraction : List Char) : List Char :=
  if fraction.isEmpty then [] else '.' :: fraction

/-- An exponent, if there is one. -/
def exponentText : Option (Bool × List Char) → List Char
  | none => []
  | some (true, ds) => 'e' :: '-' :: ds
  | some (false, ds) => 'e' :: ds

theorem text_eq (l : NumberLiteral) :
    l.text = (if l.negative then ['-'] else []) ++
      (l.whole ++ (fractionText l.fraction ++ exponentText l.exponent)) := by
  simp only [← List.append_assoc]
  rfl

/-- The characters of which one ends the digits of a number. -/
def digitEnds : List Char := '.' :: 'e' :: delimiters

variable {l : NumberLiteral} {cs rest : List Char}

theorem IsWhole.isDigit {digits : List Char} (h : IsWhole digits) :
    ∀ c ∈ digits, c.isDigit := by
  rcases h with rfl | ⟨-, h⟩
  · exact List.forall_mem_singleton.mpr rfl
  · exact h

theorem IsWhole.exists_cons {digits : List Char} (h : IsWhole digits) :
    ∃ c cs, digits = c :: cs ∧ c.isDigit := by
  obtain ⟨c, cs, rfl⟩ : ∃ c cs, digits = c :: cs := by
    rcases h with h | ⟨⟨c, cs, h, -⟩, -⟩
    · exact ⟨_, _, h⟩
    · exact ⟨c, cs, h⟩
  exact ⟨c, cs, rfl, h.isDigit c (List.mem_cons_self ..)⟩

theorem spanDigits_append {digits : List Char} (hdigits : ∀ c ∈ digits, c.isDigit)
    (hrest : ∀ c ∈ rest.head?, c ∈ digitEnds) : spanDigits (digits ++ rest) = (digits, rest) := by
  have hmarks : digitEnds.all fun c => !c.isDigit := by decide
  refine span_append hdigits fun c hc => ?_
  simpa using List.all_eq_true.mp hmarks c (hrest c hc)

theorem scanWhole_append {digits : List Char} (hdigits : IsWhole digits)
    (hrest : ∀ c ∈ rest.head?, c ∈ digitEnds) :
    scanWhole (digits ++ rest) = some (digits, rest) := by
  rcases hdigits with rfl | ⟨⟨c, cs, rfl, hc⟩, hall⟩
  · rfl
  · have hdigit : c.isDigit := hall c (List.mem_cons_self ..)
    have hspan := spanDigits_append hall hrest
    rw [List.cons_append] at hspan ⊢
    unfold scanWhole
    split
    case h_1 heq => exact absurd (List.cons.inj heq).1 hc
    case h_2 heq =>
      obtain ⟨rfl, rfl⟩ := List.cons.inj heq
      rw [if_pos hdigit, hspan]
    case h_3 heq => cases heq

theorem scanFraction_append {fraction : List Char} (hfraction : ∀ c ∈ fraction, c.isDigit)
    (hrest : ∀ c ∈ rest.head?, c ∈ 'e' :: delimiters) :
    scanFraction (fractionText fraction ++ rest) = some (fraction, rest) := by
  cases fraction with
  | nil =>
      change scanFraction rest = _
      unfold scanFraction
      split
      case h_1 => exact absurd (hrest '.' rfl) (by decide)
      case h_2 => rfl
  | cons c cs =>
      have hspan := spanDigits_append hfraction fun d hd => List.mem_cons_of_mem _ (hrest d hd)
      change scanFraction ('.' :: (c :: cs ++ rest)) = _
      simp only [scanFraction, hspan]

theorem scanExponentDigits_append {digits : List Char} (negative : Bool)
    (hne : digits ≠ []) (hdigits : ∀ c ∈ digits, c.isDigit) (hrest : Delimited rest) :
    scanExponentDigits negative (digits ++ rest) = some (some (negative, digits), rest) := by
  have hspan := spanDigits_append hdigits fun d hd =>
    List.mem_cons_of_mem _ (List.mem_cons_of_mem _ (hrest d hd))
  obtain ⟨c, cs, rfl⟩ := List.exists_cons_of_ne_nil hne
  simp only [scanExponentDigits, hspan]

theorem scanExponent_append {exponent : Option (Bool × List Char)}
    (hexponent : ∀ e ∈ exponent, e.2 ≠ [] ∧ ∀ c ∈ e.2, c.isDigit) (hrest : Delimited rest) :
    scanExponent (exponentText exponent ++ rest) = some (exponent, rest) := by
  match exponent with
  | none =>
      change scanExponent rest = _
      unfold scanExponent
      split
      case h_1 c cs =>
        have hc := hrest c rfl
        rw [if_neg]
        rintro (rfl | rfl)
        · exact absurd hc (by decide)
        · exact absurd hc (by decide)
      case h_2 => rfl
  | some (true, ds) =>
      obtain ⟨hne, hdigits⟩ := hexponent _ rfl
      exact scanExponentDigits_append true hne hdigits hrest
  | some (false, ds) =>
      obtain ⟨hne, hdigits⟩ := hexponent _ rfl
      have hscan := scanExponentDigits_append false hne hdigits hrest
      obtain ⟨c, cs, rfl⟩ := List.exists_cons_of_ne_nil hne
      have hdigit : c.isDigit := hdigits c (List.mem_cons_self ..)
      change scanExponent ('e' :: c :: (cs ++ rest)) = _
      rw [List.cons_append] at hscan
      unfold scanExponent
      simp only [true_or, if_true]
      split
      case h_1 heq =>
        obtain ⟨rfl, -⟩ := List.cons.inj heq
        exact absurd hdigit (by decide)
      case h_2 heq =>
        obtain ⟨rfl, -⟩ := List.cons.inj heq
        exact absurd hdigit (by decide)
      case h_3 => exact hscan

theorem head_exponentText (exponent : Option (Bool × List Char)) (hrest : Delimited rest) :
    ∀ c ∈ (exponentText exponent ++ rest).head?, c ∈ 'e' :: delimiters := by
  match exponent with
  | none => exact fun c hc => List.mem_cons_of_mem _ (hrest c hc)
  | some (true, _) | some (false, _) =>
      rintro c ⟨⟩
      exact List.mem_cons_self ..

theorem head_fractionText (fraction : List Char)
    (hrest : ∀ c ∈ rest.head?, c ∈ 'e' :: delimiters) :
    ∀ c ∈ (fractionText fraction ++ rest).head?, c ∈ digitEnds := by
  cases fraction with
  | nil => exact fun c hc => List.mem_cons_of_mem _ (hrest c hc)
  | cons _ _ =>
      rintro c ⟨⟩
      exact List.mem_cons_self ..

/-- A number starts with a digit or a sign. -/
theorem WellFormed.exists_text_eq_cons (hl : l.WellFormed) :
    ∃ c cs, l.text = c :: cs ∧ (c.isDigit ∨ c = '-') := by
  rw [text_eq]
  cases l.negative with
  | true => exact ⟨'-', _, rfl, .inr rfl⟩
  | false =>
      obtain ⟨c, cs, hwhole, hc⟩ := hl.whole.exists_cons
      exact ⟨c, _, by rw [hwhole]; rfl, .inl hc⟩

/-- A number is scanned as the literal that was written. -/
theorem WellFormed.scan_text (hl : l.WellFormed) (hrest : Delimited rest) :
    scan (l.text ++ rest) = some (l, rest) := by
  have hexponent := scanExponent_append hl.exponent hrest
  have hfraction := scanFraction_append hl.fraction (head_exponentText l.exponent hrest)
  have hwhole := scanWhole_append hl.whole
    (head_fractionText l.fraction (head_exponentText l.exponent hrest))
  rw [text_eq]
  simp only [List.append_assoc]
  cases hsign : l.negative with
  | true =>
      change scan ('-' :: (l.whole ++ (fractionText l.fraction ++
        (exponentText l.exponent ++ rest)))) = _
      simp only [scan, hwhole, hfraction, hexponent, Option.bind_eq_bind, Option.bind_some,
        ← hsign]
      rfl
  | false =>
      -- The first digit is no sign.
      have hunsigned : ∀ cs, l.whole ++ (fractionText l.fraction ++
          (exponentText l.exponent ++ rest)) ≠ '-' :: cs := by
        obtain ⟨c, ds, hdigits, hc⟩ := hl.whole.exists_cons
        rw [hdigits]
        rintro cs ⟨⟩
        exact absurd hc (by decide)
      change scan (l.whole ++ (fractionText l.fraction ++ (exponentText l.exponent ++ rest))) = _
      rw [scan.eq_2 _ hunsigned]
      simp only [hwhole, hfraction, hexponent, Option.bind_eq_bind, Option.bind_some, ← hsign]
      rfl

theorem isDigit_of_spanDigits {digits : List Char} (h : spanDigits cs = (digits, rest)) :
    ∀ c ∈ digits, c.isDigit := by
  rw [spanDigits, List.span_eq_takeWhile_dropWhile] at h
  obtain ⟨rfl, -⟩ := Prod.mk.inj h
  exact List.all_eq_true.mp List.all_takeWhile

theorem isWhole_of_scanWhole {digits : List Char} (h : scanWhole cs = some (digits, rest)) :
    IsWhole digits := by
  unfold scanWhole at h
  split at h
  case h_1 =>
    cases h
    exact .inl rfl
  case h_2 c cs hzero =>
    split at h
    case isTrue hc =>
      have hspan := Option.some.inj h
      refine .inr ⟨?_, isDigit_of_spanDigits hspan⟩
      rw [spanDigits, List.span_eq_takeWhile_dropWhile, List.takeWhile_cons, if_pos hc] at hspan
      obtain ⟨rfl, -⟩ := Prod.mk.inj hspan
      exact ⟨c, _, rfl, hzero⟩
    case isFalse => cases h
  case h_3 => cases h

theorem isDigit_of_scanFraction {fraction : List Char}
    (h : scanFraction cs = some (fraction, rest)) : ∀ c ∈ fraction, c.isDigit := by
  unfold scanFraction at h
  split at h
  case h_1 =>
    split at h
    case h_1 => cases h
    case h_2 => exact isDigit_of_spanDigits (Option.some.inj h)
  case h_2 =>
    cases h
    exact fun _ hc => nomatch hc

theorem isDigit_of_scanExponentDigits {negative : Bool} {exponent : Option (Bool × List Char)}
    (h : scanExponentDigits negative cs = some (exponent, rest)) :
    ∀ e ∈ exponent, e.2 ≠ [] ∧ ∀ c ∈ e.2, c.isDigit := by
  unfold scanExponentDigits at h
  split at h
  case h_1 => cases h
  case h_2 ds _ hne hspan =>
    cases h
    rintro e ⟨⟩
    exact ⟨hne, isDigit_of_spanDigits hspan⟩

theorem isDigit_of_scanExponent {exponent : Option (Bool × List Char)}
    (h : scanExponent cs = some (exponent, rest)) :
    ∀ e ∈ exponent, e.2 ≠ [] ∧ ∀ c ∈ e.2, c.isDigit := by
  have hnone : ∀ e ∈ (none : Option (Bool × List Char)), e.2 ≠ [] ∧ ∀ c ∈ e.2, c.isDigit :=
    nofun
  unfold scanExponent at h
  split at h
  case h_1 =>
    split at h
    case isTrue => split at h <;> exact isDigit_of_scanExponentDigits h
    case isFalse =>
      cases h
      exact hnone
  case h_2 =>
    cases h
    exact hnone

/-- Numbers are scanned as well-formed literals only. -/
theorem wellFormed_of_scan (h : scan cs = some (l, rest)) : l.WellFormed := by
  unfold scan at h
  obtain ⟨⟨whole, _⟩, hwhole, h⟩ := Option.bind_eq_some_iff.mp h
  obtain ⟨⟨fraction, _⟩, hfraction, h⟩ := Option.bind_eq_some_iff.mp h
  obtain ⟨⟨exponent, _⟩, hexponent, h⟩ := Option.bind_eq_some_iff.mp h
  cases h
  exact ⟨isWhole_of_scanWhole hwhole, isDigit_of_scanFraction hfraction,
    isDigit_of_scanExponent hexponent⟩

/-- The value of a literal is an integer of 64 bits or the literal itself, if it has one. -/
theorem toJson_cases (l : NumberLiteral) :
    (∃ n : Int, l.toJson = .integer n ∧ -0x8000000000000000 ≤ n ∧ n < 0x10000000000000000) ∨
      l.toJson = .decimal (String.ofList l.text) ∨ l.toJson = .unreadable := by
  have hother : (if l.inRange then Json.decimal (String.ofList l.text) else .unreadable) =
        .decimal (String.ofList l.text) ∨
      (if l.inRange then Json.decimal (String.ofList l.text) else .unreadable) =
        .unreadable := by
    split
    · exact .inl rfl
    · exact .inr rfl
  unfold toJson
  dsimp only
  split
  case h_1 =>
    split
    case isTrue =>
      split
      case isTrue hn =>
        refine .inl ⟨_, rfl, ?_⟩
        simp only [UInt64.size] at hn
        omega
      case isFalse => exact .inr hother
    case isFalse =>
      split
      case isTrue hn =>
        refine .inl ⟨_, rfl, ?_⟩
        simp only [UInt64.size] at hn
        omega
      case isFalse => exact .inr hother
  case h_2 => exact .inr hother

/-- The literal of an integer. -/
def ofInteger : Int → NumberLiteral
  | .ofNat n => ⟨false, Decimal.digits n, [], none⟩
  | .negSucc n => ⟨true, Decimal.digits (n + 1), [], none⟩

theorem value_digits (n : Nat) : value (Decimal.digits n) = n := by
  have hdigit : ∀ d < 10, digitValue (Decimal.digitChar d) = d := by decide
  fun_induction Decimal.digits n with
  | case1 n hn => simp [value, hdigit n hn]
  | case2 n hn ih =>
      rw [value] at ih
      rw [value, List.foldl_append, ih, List.foldl_cons, List.foldl_nil,
        hdigit _ (Nat.mod_lt n (by omega))]
      omega

theorem isWhole_digits (n : Nat) : IsWhole (Decimal.digits n) := by
  by_cases hn : n = 0
  · left
    rw [hn, Decimal.digits]
    rfl
  · exact .inr ⟨Decimal.exists_digits_eq_cons hn, fun _ hc => Decimal.isDigit_of_mem_digits hc⟩

theorem wellFormed_ofInteger (n : Int) : (ofInteger n).WellFormed := by
  cases n with
  | ofNat n => exact ⟨isWhole_digits n, nofun, nofun⟩
  | negSucc n => exact ⟨isWhole_digits (n + 1), nofun, nofun⟩

theorem text_ofInteger (n : Int) : (ofInteger n).text = (Decimal.writeInt n).toList := by
  cases n with
  | ofNat n => simp [ofInteger, text, Decimal.writeInt, Decimal.toList_write]
  | negSucc n => simp [ofInteger, text, Decimal.writeInt, Decimal.toList_write]

/-- A literal of 64 bits means its integer. -/
theorem toJson_ofInteger {n : Int} (hmin : -0x8000000000000000 ≤ n)
    (hmax : n < 0x10000000000000000) : (ofInteger n).toJson = .integer n := by
  cases n with
  | ofNat n =>
      have hn : n < UInt64.size := by
        simp only [Int.ofNat_eq_natCast] at hmax
        simp only [UInt64.size]
        omega
      simp [ofInteger, toJson, value_digits, hn]
  | negSucc n =>
      have hn : 0 < n + 1 ∧ n + 1 ≤ UInt64.size / 2 := by
        simp only [UInt64.size]
        omega
      simp only [ofInteger, toJson, value_digits, if_pos hn, if_true]
      rw [Int.negSucc_eq]
      rfl

end NumberLiteral

/-! ## Strings -/

/-- The unit that a quoted character is scanned as. -/
def unitOf (c : Char) : StringUnit :=
  if c.toNat < 0x20 ∧ c ∉ ['\x08', '\x0c', '\n', '\r', '\t'] then .code c.toNat else .char c

theorem scanUnits_plain {c : Char} (before : List StringUnit) (rest : List Char)
    (hquote : c ≠ '"') (hescape : c ≠ '\\') (hcontrol : ¬ c.toNat < 0x20) :
    scanUnits before (c :: rest) = scanUnits (.char c :: before) rest := by
  conv_lhs => unfold scanUnits
  split
  case h_1 heq => exact absurd (List.cons.inj heq).1 hquote
  case h_2 heq => exact absurd (List.cons.inj heq).1 hescape
  case h_3 heq => exact absurd (List.cons.inj heq).1 hescape
  case h_4 heq =>
    obtain ⟨rfl, rfl⟩ := List.cons.inj heq
    rw [if_neg]
    exact not_or.mpr ⟨hescape, hcontrol⟩
  case h_5 heq => cases heq

theorem scanUnits_quoteChar (before : List StringUnit) (c : Char) (rest : List Char) :
    scanUnits before (quoteChar c ++ rest) = scanUnits (unitOf c :: before) rest := by
  have hcode : ∀ n < 0x20,
      Text.valueIn? 16 ['0', '0', hexDigit (n / 16), hexDigit (n % 16)] = some n := by decide
  unfold quoteChar
  split
  case isTrue h => subst h; rfl
  split
  case isTrue h => subst h; rfl
  split
  case isTrue h => subst h; rfl
  split
  case isTrue h => subst h; rfl
  split
  case isTrue h => subst h; rfl
  split
  case isTrue h => subst h; rfl
  split
  case isTrue h => subst h; rfl
  rename_i hquote hescape h8 hc hn hr ht
  split
  case isTrue hcontrol =>
    have hunit : unitOf c = .code c.toNat := by simp [unitOf, hcontrol, h8, hc, hn, hr, ht]
    change scanUnits before ('\\' :: 'u' :: '0' :: '0' :: _ :: _ :: rest) = _
    rw [hunit, scanUnits, hcode _ hcontrol]
  case isFalse hcontrol =>
    have hunit : unitOf c = .char c := by simp [unitOf, hcontrol]
    rw [hunit]
    exact scanUnits_plain before rest hquote hescape hcontrol

theorem scanUnits_quoted (before : List StringUnit) (cs rest : List Char) :
    scanUnits before (cs.flatMap quoteChar ++ '"' :: rest) =
      some (before.reverse ++ cs.map unitOf, rest) := by
  induction cs generalizing before with
  | nil => simp [scanUnits]
  | cons c cs ih =>
      rw [List.flatMap_cons, List.append_assoc, scanUnits_quoteChar, ih]
      simp

theorem contentFrom_unitOf (before : List Char) (c : Char) (us : List StringUnit) :
    contentFrom before (unitOf c :: us) = contentFrom (c :: before) us := by
  unfold unitOf
  split
  case isFalse => rfl
  case isTrue h =>
    have hlow : ¬ (0xD800 ≤ c.toNat ∧ c.toNat ≤ 0xDBFF) ∧
        ¬ (0xDC00 ≤ c.toNat ∧ c.toNat ≤ 0xDFFF) ∧
        ¬ (0xD800 ≤ c.toNat ∧ c.toNat ≤ 0xDFFF) := by omega
    cases us with
    | nil => simp [contentFrom, hlow, Char.ofNat_toNat]
    | cons u us => cases u <;> simp [contentFrom, hlow, Char.ofNat_toNat]

/-- Every string is the content of its units. -/
theorem content?_map_unitOf (cs : List Char) : content? (cs.map unitOf) = some cs := by
  have hfrom (before : List Char) :
      contentFrom before (cs.map unitOf) = some (before.reverse ++ cs) := by
    induction cs generalizing before with
    | nil => simp [contentFrom]
    | cons c cs ih => rw [List.map_cons, contentFrom_unitOf, ih]; simp
  exact hfrom []

/-! ## Tokens -/

namespace Token

theorem scan_quote (s : String) (rest : List Char) :
    scan (quote s.toList ++ rest) = some (.string (some s), rest) := by
  have hunits : scanUnits [] (s.toList.flatMap quoteChar ++ ['"'] ++ rest) =
      some (s.toList.map unitOf, rest) := by
    rw [List.append_assoc]
    exact scanUnits_quoted [] s.toList rest
  rw [quote, List.cons_append]
  simp only [scan, hunits, content?_map_unitOf, Option.bind_eq_bind, Option.bind_some,
    Option.map_some, String.ofList_toList]
  rfl

theorem scan_number {c : Char} (hc : c.isDigit ∨ c = '-') (cs : List Char) :
    scan (c :: cs) = (NumberLiteral.scan (c :: cs)).map fun r => (.scalar r.1.toJson, r.2) := by
  have hne (d : Char) (hd : ¬ (d.isDigit ∨ d = '-')) {ds : List Char}
      (h : c :: cs = d :: ds) : False := by
    rw [(List.cons.inj h).1] at hc
    exact hd hc
  unfold scan
  split
  case h_11 => cases NumberLiteral.scan (c :: cs) <;> rfl
  all_goals
    rename_i heq
    exact (hne _ (by decide) heq).elim

/-- A number is one token. -/
theorem scan_text {l : NumberLiteral} (hl : l.WellFormed) {rest : List Char}
    (hrest : Delimited rest) : scan (l.text ++ rest) = some (.scalar l.toJson, rest) := by
  obtain ⟨c, cs, htext, hc⟩ := hl.exists_text_eq_cons
  have hliteral := hl.scan_text hrest
  rw [htext, List.cons_append] at hliteral ⊢
  rw [scan_number hc, hliteral, Option.map_some]

variable {cs rest : List Char} {ts : List Token}

/-- More fuel reads the same tokens. -/
theorem scanAll_mono {fuel fuel' : Nat} (hfuel : fuel ≤ fuel')
    (h : scanAll fuel cs = some ts) : scanAll fuel' cs = some ts := by
  induction fuel generalizing fuel' cs ts with
  | zero => cases h
  | succ fuel ih =>
      obtain ⟨fuel', rfl⟩ := Nat.exists_eq_succ_of_ne_zero (Nat.ne_zero_of_lt hfuel)
      rw [scanAll] at h ⊢
      split at h
      case h_1 => exact h
      case h_2 =>
        obtain ⟨⟨token, rest⟩, hscan, h⟩ := Option.bind_eq_some_iff.mp h
        obtain ⟨tokens, hrest, h⟩ := Option.bind_eq_some_iff.mp h
        cases h
        have hmore := ih (Nat.le_of_succ_le_succ hfuel) hrest
        simp only [hscan, Option.bind_eq_bind, Option.bind_some, hmore]
        rfl

/-- The tokens of a text are its first token and those of the rest. -/
theorem ofText_of_scan {c : Char} {token : Token} (hc : isBlank c = false)
    (hscan : scan (c :: (cs ++ rest)) = some (token, rest)) (h : ofText rest = some ts) :
    ofText (c :: (cs ++ rest)) = some (token :: ts) := by
  have hdrop : (c :: (cs ++ rest)).dropWhile isBlank = c :: (cs ++ rest) := by
    rw [List.dropWhile_cons, if_neg (by simp [hc])]
  have hlength : rest.length + 1 ≤ (c :: (cs ++ rest)).length := by simp
  rw [ofText, scanAll, hdrop]
  simp only [hscan, Option.bind_eq_bind, Option.bind_some, scanAll_mono hlength h]
  rfl

/-- Blanks before a token do not matter. -/
theorem ofText_blanks {blanks : List Char} (hblanks : ∀ c ∈ blanks, isBlank c)
    (h : ofText rest = some ts) : ofText (blanks ++ rest) = some ts := by
  have hdrop : (blanks ++ rest).dropWhile isBlank = rest.dropWhile isBlank :=
    List.dropWhile_append_of_pos hblanks
  have hlength : rest.length + 1 ≤ (blanks ++ rest).length + 1 := by simp
  have hmore := scanAll_mono hlength h
  rw [scanAll] at hmore
  rw [ofText, scanAll, hdrop]
  exact hmore

end Token

end SiteVpn.Json
