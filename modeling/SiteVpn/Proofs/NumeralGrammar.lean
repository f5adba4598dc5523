import Mathlib.Data.Nat.Digits.Defs
import SiteVpn.Proofs.Numeral
import SiteVpn.Proofs.Traversal

/-!
# The grammar of numerals

A numeral is an optional plus sign and then digits, of which there is at least one, and its
number is the sum of its digits by their places. A text is read as a number if it is a numeral
of one within the limit. Of a text that is not, what was read before the fault decides which
fault it is: digits within the limit before a character that is no digit, or digits that have
left the limit, whatever comes after them.

## Implementation notes

A text that is read has one outcome, and every text has one by the grammar. So it is enough that
texts are read as the grammar says; the converse follows.
-/

namespace SiteVpn.Decimal

/-- The number that a character stands for, as a digit. -/
def digitNumber (c : Char) : Nat := c.toNat - '0'.toNat

/-- The number of digits by their places, the last of which is that of the ones. -/
def number (ds : List Char) : Nat := Nat.ofDigits 10 (ds.reverse.map digitNumber)

/-- What may stand before the digits of a numeral. -/
def IsSign (sign : List Char) : Prop := sign = [] ∨ sign = ['+']

/-- A text that is the numeral of a number. -/
def IsNumeral (text : List Char) (n : Nat) : Prop :=
  ∃ sign ds, text = sign ++ ds ∧ IsSign sign ∧ ds ≠ [] ∧ (∀ d ∈ ds, d.isDigit) ∧ number ds = n

/-- Which texts are no numerals of numbers below a limit, and why. -/
inductive NumeralFault (limit : Nat) : List Char → NumeralError → Prop
  | empty : NumeralFault limit [] .empty
  | loneSign : NumeralFault limit ['+'] .invalidDigit
  /-- The first character that is no digit comes before the digits have left the limit. -/
  | badCharacter {sign ds : List Char} {c : Char} {rest : List Char} (hsign : IsSign sign)
      (hds : ∀ d ∈ ds, d.isDigit) (hwithin : number ds < limit) (hc : ¬ c.isDigit)
      (hfirst : sign ++ ds = [] → c ≠ '+') :
      NumeralFault limit (sign ++ (ds ++ c :: rest)) .invalidDigit
  /-- The digits have left the limit before anything else comes. -/
  | overflow {sign ds rest : List Char} (hsign : IsSign sign) (hds : ∀ d ∈ ds, d.isDigit)
      (hbeyond : limit ≤ number ds) : NumeralFault limit (sign ++ (ds ++ rest)) .tooLarge

section Digits

variable {limit acc : Nat} {c : Char} {ds rest : List Char}

theorem digitValue?_eq (c : Char) :
    digitValue? c = if c.isDigit then some (digitNumber c) else none := by
  have htest : ('0' ≤ c ∧ c ≤ '9') ↔ c.isDigit := by
    simp [Char.isDigit, Char.le_def]
  simp only [digitValue?, htest, digitNumber]

theorem number_cons (d : Char) (ds : List Char) :
    number (d :: ds) = digitNumber d * 10 ^ ds.length + number ds := by
  simp only [number, List.reverse_cons, List.map_append, List.map_cons, List.map_nil,
    Nat.ofDigits_append, Nat.ofDigits_singleton, List.length_map, List.length_reverse]
  ring

/-- The number of digits that go on from a number that was read before. -/
def numberAfter (acc : Nat) (ds : List Char) : Nat := acc * 10 ^ ds.length + number ds

@[simp] theorem numberAfter_nil (acc : Nat) : numberAfter acc [] = acc := by
  simp [numberAfter, number]

@[simp] theorem numberAfter_zero (ds : List Char) : numberAfter 0 ds = number ds := by
  rw [numberAfter, Nat.zero_mul, Nat.zero_add]

theorem numberAfter_cons (acc : Nat) (d : Char) (ds : List Char) :
    numberAfter acc (d :: ds) = numberAfter (acc * 10 + digitNumber d) ds := by
  rw [numberAfter, numberAfter, number_cons, List.length_cons]
  ring

/-- Digits never make a number smaller. -/
theorem le_numberAfter (acc : Nat) (ds : List Char) : acc ≤ numberAfter acc ds :=
  Nat.le_trans (Nat.le_mul_of_pos_right acc (Nat.pow_pos (by decide))) (Nat.le_add_right ..)

theorem readDigits_cons (hc : c.isDigit) :
    readDigits limit acc (c :: rest) =
      if acc * 10 + digitNumber c < limit then readDigits limit (acc * 10 + digitNumber c) rest
      else .error .tooLarge := by
  simp only [readDigits, digitValue?_eq, hc, if_true]

/-- Reading passes over digits as long as their number is within the limit. -/
theorem readDigits_append_of_isDigit (hacc : acc < limit) (hds : ∀ d ∈ ds, d.isDigit) :
    readDigits limit acc (ds ++ rest) =
      if numberAfter acc ds < limit then readDigits limit (numberAfter acc ds) rest
      else .error .tooLarge := by
  induction ds generalizing acc with
  | nil => rw [List.nil_append, numberAfter_nil, if_pos hacc]
  | cons d ds ih =>
      obtain ⟨hd, hds⟩ := List.forall_mem_cons.mp hds
      rw [List.cons_append, readDigits_cons hd, numberAfter_cons]
      by_cases hnext : acc * 10 + digitNumber d < limit
      · rw [if_pos hnext, ih hnext hds]
      · have hle := le_numberAfter (acc * 10 + digitNumber d) ds
        rw [if_neg hnext, if_neg (by omega)]

end Digits

/-! ## Reading by the grammar -/

section Reading

variable {limit n : Nat} {text sign cs : List Char} {e : NumeralError}

theorem read_cons {c : Char} (hc : c ≠ '+') (cs : List Char) :
    read limit (c :: cs) = readDigits limit 0 (c :: cs) := by
  rw [read]
  · exact fun h _ => hc h
  · exact fun _ _ h _ => hc h

/-- A sign is passed over where something follows it. -/
theorem read_append_of_isSign (hsign : IsSign sign) (hcs : cs ≠ [])
    (hfirst : sign = [] → cs.head? ≠ some '+') :
    read limit (sign ++ cs) = readDigits limit 0 cs := by
  obtain ⟨c, cs, rfl⟩ := List.exists_cons_of_ne_nil hcs
  rcases hsign with rfl | rfl
  · exact read_cons (fun h => hfirst rfl (congrArg some h)) cs
  · rfl

theorem head?_ne_plus {ds rest : List Char} (hds : ∀ d ∈ ds, d.isDigit) (hne : ds ≠ []) :
    (ds ++ rest).head? ≠ some '+' := by
  obtain ⟨d, ds, rfl⟩ := List.exists_cons_of_ne_nil hne
  rintro h
  obtain rfl : d = '+' := Option.some.inj h
  exact absurd (hds '+' (List.mem_cons_self ..)) (by decide)

theorem read_of_isNumeral (h : IsNumeral text n) (hn : n < limit) : read limit text = .ok n := by
  obtain ⟨sign, ds, rfl, hsign, hne, hds, rfl⟩ := h
  have hlimit : 0 < limit := Nat.zero_lt_of_lt hn
  have hfirst : (ds ++ []).head? ≠ some '+' := head?_ne_plus hds hne
  have hread : readDigits limit 0 (ds ++ []) = .ok (number ds) := by
    rw [readDigits_append_of_isDigit hlimit hds, numberAfter_zero, if_pos hn]
    rfl
  rw [List.append_nil] at hfirst hread
  rw [read_append_of_isSign hsign hne fun _ => hfirst, hread]

theorem read_of_fault (hlimit : 0 < limit) (h : NumeralFault limit text e) :
    read limit text = .error e := by
  cases h with
  | empty => rfl
  | loneSign => rfl
  | @badCharacter sign ds c rest hsign hds hwithin hc hfirst =>
      have hplus : sign = [] → (ds ++ c :: rest).head? ≠ some '+' := by
        intro hsign
        by_cases hne : ds = []
        · rw [hne]
          exact fun h => hfirst (by rw [hsign, hne]; rfl) (Option.some.inj h)
        · exact head?_ne_plus hds hne
      rw [read_append_of_isSign hsign (by simp) hplus,
        readDigits_append_of_isDigit hlimit hds, numberAfter_zero, if_pos hwithin, readDigits,
        digitValue?_eq, if_neg hc]
  | @overflow sign ds rest hsign hds hbeyond =>
      have hne : ds ≠ [] := by
        rintro rfl
        exact absurd hbeyond (Nat.not_le.mpr hlimit)
      rw [read_append_of_isSign hsign (by simp [hne]) fun _ => head?_ne_plus hds hne,
        readDigits_append_of_isDigit hlimit hds, numberAfter_zero,
        if_neg (Nat.not_lt.mpr hbeyond)]

/-- Every text has an outcome by the grammar: it depends on the digits that it starts with, after
a sign. -/
theorem isNumeral_or_fault (limit : Nat) (text : List Char) :
    (∃ n < limit, IsNumeral text n) ∨ ∃ e, NumeralFault limit text e := by
  obtain ⟨sign, cs, rfl, hsign, hfirst⟩ :
      ∃ sign cs, text = sign ++ cs ∧ IsSign sign ∧ (sign = [] → cs.head? ≠ some '+') := by
    by_cases hplus : text.head? = some '+'
    · obtain ⟨cs, rfl⟩ := List.head?_eq_some_iff.mp hplus
      exact ⟨['+'], cs, rfl, .inr rfl, fun h => by cases h⟩
    · exact ⟨[], text, rfl, .inl rfl, fun _ => hplus⟩
  have hds : ∀ d ∈ cs.takeWhile Char.isDigit, d.isDigit := List.all_eq_true.mp List.all_takeWhile
  have hrest := List.head?_dropWhile_not Char.isDigit cs
  have hcs : cs.takeWhile Char.isDigit ++ cs.dropWhile Char.isDigit = cs :=
    List.takeWhile_append_dropWhile
  rw [← hcs] at hfirst ⊢
  generalize cs.takeWhile Char.isDigit = ds at hds hfirst ⊢
  generalize cs.dropWhile Char.isDigit = rest at hrest hfirst ⊢
  by_cases hwithin : number ds < limit
  case neg => exact .inr ⟨_, .overflow hsign hds (Nat.not_lt.mp hwithin)⟩
  case pos =>
    cases rest with
    | cons c rest =>
        have hc : ¬ c.isDigit := Bool.eq_false_iff.mp hrest
        refine .inr ⟨_, .badCharacter hsign hds hwithin hc ?_⟩
        intro hnil
        obtain ⟨rfl, rfl⟩ := List.append_eq_nil_iff.mp hnil
        exact fun h => hfirst rfl (congrArg some h)
    | nil =>
        rw [List.append_nil]
        by_cases hne : ds = []
        · rw [hne, List.append_nil]
          rcases hsign with rfl | rfl
          · exact .inr ⟨_, .empty⟩
          · exact .inr ⟨_, .loneSign⟩
        · exact .inl ⟨number ds, hwithin, sign, ds, rfl, hsign, hne, hds, rfl⟩

theorem read_eq_iff (hlimit : 0 < limit) (text : List Char) :
    (∀ n, read limit text = .ok n ↔ n < limit ∧ IsNumeral text n) ∧
      ∀ e, read limit text = .error e ↔ NumeralFault limit text e :=
  eq_iff_of_outcome (fun _ h => read_of_isNumeral h.2 h.1) (fun _ => read_of_fault hlimit)
    (isNumeral_or_fault limit text)

theorem digits_ne_nil (n : Nat) : digits n ≠ [] := by
  rw [digits]
  split <;> simp

/-- The digits of a number are a numeral of it. -/
theorem isNumeral_digits (n : Nat) : IsNumeral (digits n) n := by
  have hds : ∀ d ∈ digits n, d.isDigit := fun _ => isDigit_of_mem_digits
  have hread : readDigits (n + 1) 0 (digits n ++ []) = _ :=
    readDigits_append_of_isDigit n.succ_pos hds
  rw [List.append_nil, readDigits_digits n.lt_succ_self, numberAfter_zero] at hread
  refine ⟨[], digits n, rfl, .inl rfl, digits_ne_nil n, hds, ?_⟩
  split at hread
  · exact (Except.ok.inj hread).symm
  · cases hread

/-- Numerals have no separators in them. -/
theorem not_mem_of_isNumeral {sep : Char} (hsep : ¬ sep.isDigit)
    (hplus : sep ≠ '+') (h : IsNumeral text n) : sep ∉ text := by
  obtain ⟨sign, ds, rfl, hsign, -, hds, -⟩ := h
  intro hmem
  rcases List.mem_append.mp hmem with hmem | hmem
  · rcases hsign with rfl | rfl
    · exact absurd hmem List.not_mem_nil
    · exact hplus (List.mem_singleton.mp hmem)
  · exact hsep (hds sep hmem)

end Reading

end SiteVpn.Decimal
