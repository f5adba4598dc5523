import SiteVpn.Text.Decimal

/-!
# Written numerals

The digits of a number are read back as that number, so no two numbers are written
alike. They are digits only, which is why a numeral after a hyphen can be told from
the text before it. What is written is the usual decimal text.
-/

namespace SiteVpn.Decimal

theorem digitValue?_digitChar {d : Nat} (hd : d < 10) : digitValue? (digitChar d) = some d := by
  have h : ∀ e < 10, digitValue? (digitChar e) = some e := by decide
  exact h d hd

theorem digitChar_ne_hyphen {d : Nat} (hd : d < 10) : digitChar d ≠ '-' := by
  have h : ∀ e < 10, digitChar e ≠ '-' := by decide
  exact h d hd

theorem hyphen_not_mem_digits (n : Nat) : '-' ∉ digits n := by
  fun_induction digits n with
  | case1 n hn =>
      intro h
      exact digitChar_ne_hyphen hn (List.mem_singleton.mp h).symm
  | case2 n hn ih =>
      intro h
      rcases List.mem_append.mp h with h | h
      · exact ih h
      · exact digitChar_ne_hyphen (Nat.mod_lt n (by omega)) (List.mem_singleton.mp h).symm

theorem isDigit_of_mem_digits {n : Nat} {c : Char} (h : c ∈ digits n) : c.isDigit := by
  have hdigit : ∀ d < 10, (digitChar d).isDigit := by decide
  fun_induction digits n with
  | case1 n hn =>
      rw [List.mem_singleton.mp h]
      exact hdigit n hn
  | case2 n hn ih =>
      rcases List.mem_append.mp h with h | h
      · exact ih h
      · rw [List.mem_singleton.mp h]
        exact hdigit _ (Nat.mod_lt n (by omega))

/-- Only zero is written with a zero at the start. -/
theorem exists_digits_eq_cons {n : Nat} (hn : n ≠ 0) :
    ∃ c cs, digits n = c :: cs ∧ c ≠ '0' := by
  have hzero : ∀ d < 10, d ≠ 0 → digitChar d ≠ '0' := by decide
  fun_induction digits n with
  | case1 n hlt => exact ⟨_, _, rfl, hzero n hlt hn⟩
  | case2 n hlt ih =>
      obtain ⟨c, cs, hdigits, hc⟩ := ih (by omega)
      exact ⟨c, cs ++ [digitChar (n % 10)], by rw [hdigits]; rfl, hc⟩

theorem readDigits_append (limit acc : Nat) (cs ds : List Char) :
    readDigits limit acc (cs ++ ds) =
      (readDigits limit acc cs).bind fun n => readDigits limit n ds := by
  induction cs generalizing acc with
  | nil => rfl
  | cons c cs ih =>
      simp only [List.cons_append, readDigits]
      cases digitValue? c with
      | none => rfl
      | some d =>
          by_cases h : acc * 10 + d < limit
          · simp only [if_pos h]
            exact ih _
          · simp only [if_neg h]
            rfl

theorem readDigits_digitChar {limit acc d : Nat} (hd : d < 10) (h : acc * 10 + d < limit) :
    readDigits limit acc [digitChar d] = .ok (acc * 10 + d) := by
  simp only [readDigits, digitValue?_digitChar hd, if_pos h]

/-- Written numerals are read as the numbers they are of. -/
theorem readDigits_digits {limit n : Nat} (h : n < limit) :
    readDigits limit 0 (digits n) = .ok n := by
  fun_induction digits n with
  | case1 n hn =>
      have hr : readDigits limit 0 [digitChar n] = .ok (0 * 10 + n) :=
        readDigits_digitChar hn (by omega)
      simpa only [Nat.zero_mul, Nat.zero_add] using hr
  | case2 n hn ih =>
      have hq : n / 10 * 10 + n % 10 = n := Nat.div_add_mod' n 10
      rw [readDigits_append, ih (by omega)]
      change readDigits limit (n / 10) [digitChar (n % 10)] = .ok n
      rw [readDigits_digitChar (Nat.mod_lt n (by omega)) (by omega), hq]

theorem digits_injective : Function.Injective digits := by
  intro m n h
  have hm : readDigits (m + n + 1) 0 (digits m) = .ok m := readDigits_digits (by omega)
  have hn : readDigits (m + n + 1) 0 (digits n) = .ok n := readDigits_digits (by omega)
  rw [h, hn] at hm
  exact (Except.ok.inj hm).symm

theorem write_injective : Function.Injective write := by
  intro m n h
  apply digits_injective
  rw [← toList_write, ← toList_write, h]

theorem digitChar_eq {d : Nat} (hd : d < 10) : digitChar d = d.digitChar := by
  have h : ∀ e < 10, digitChar e = e.digitChar := by decide
  exact h d hd

theorem digits_eq_toDigits (n : Nat) : digits n = Nat.toDigits 10 n := by
  fun_induction digits n with
  | case1 n hn => rw [Nat.toDigits_of_lt_base hn, digitChar_eq hn]
  | case2 n hn ih =>
      rw [Nat.toDigits_of_base_le (by decide) (Nat.le_of_not_lt hn), ih,
        digitChar_eq (Nat.mod_lt n (by decide))]

theorem write_eq_toString (n : Nat) : write n = toString n := by
  rw [write, digits_eq_toDigits]
  exact Nat.repr_eq_ofList_toDigits.symm

theorem writeInt_eq_toString (n : Int) : writeInt n = toString n := by
  cases n with
  | ofNat n => exact write_eq_toString n
  | negSucc n => exact congrArg ("-" ++ ·) (write_eq_toString (n + 1))

end SiteVpn.Decimal
