/-!
# Blank characters

The characters that count as white space around a value are those with the
Unicode property `White_Space`. A value is read after the blanks at both of its
ends are dropped.
-/

namespace SiteVpn.Text

/-- The Unicode property `White_Space`. -/
def isBlank (c : Char) : Bool :=
  let n := c.toNat
  (9 ≤ n && n ≤ 13) || n == 0x20 || n == 0x85 || n == 0xA0 || n == 0x1680 ||
    (0x2000 ≤ n && n ≤ 0x200A) || n == 0x2028 || n == 0x2029 || n == 0x202F ||
    n == 0x205F || n == 0x3000

/-- A text without the blanks at its start. -/
def trimStart (cs : List Char) : List Char := cs.dropWhile isBlank

/-- A text without the blanks at its end. -/
def trimEnd (cs : List Char) : List Char := (trimStart cs.reverse).reverse

/-- A text without the blanks at its two ends. -/
def trim (cs : List Char) : List Char := trimEnd (trimStart cs)

/-- The fields of a text whose first field starts with `field` in reverse. -/
def fieldsFrom (sep : Char) (field : List Char) : List Char → List (List Char)
  | [] => [field.reverse]
  | c :: cs =>
    if c = sep then field.reverse :: fieldsFrom sep [] cs
    else fieldsFrom sep (c :: field) cs

/-- The fields of a text between the occurrences of a separator. A text without
the separator is its own only field. -/
def fields (sep : Char) (cs : List Char) : List (List Char) := fieldsFrom sep [] cs

/-- The parts of a text before and after the first occurrence of a separator. -/
def splitAtFirst (sep : Char) : List Char → Option (List Char × List Char)
  | [] => none
  | c :: cs =>
    if c = sep then some ([], cs)
    else (splitAtFirst sep cs).map fun p => (c :: p.1, p.2)

theorem fieldsFrom_eq (sep : Char) (field cs : List Char) :
    fieldsFrom sep field cs =
      (field.reverse ++ (fieldsFrom sep [] cs).headD []) :: (fieldsFrom sep [] cs).tail := by
  induction cs generalizing field with
  | nil => simp [fieldsFrom]
  | cons c cs ih =>
    rw [fieldsFrom, fieldsFrom]
    split
    · simp
    · rw [ih (c :: field), ih [c]]
      simp

@[simp] theorem fields_nil (sep : Char) : fields sep [] = [[]] := rfl

theorem fields_cons_sep (sep : Char) (cs : List Char) :
    fields sep (sep :: cs) = [] :: fields sep cs := by
  simp [fields, fieldsFrom]

theorem fields_cons (sep c : Char) (cs : List Char) (h : c ≠ sep) :
    fields sep (c :: cs) = (c :: (fields sep cs).headD []) :: (fields sep cs).tail := by
  rw [fields, fieldsFrom, if_neg h, fieldsFrom_eq]
  rfl

end SiteVpn.Text
