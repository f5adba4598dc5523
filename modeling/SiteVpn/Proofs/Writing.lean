import SiteVpn.Proofs.JsonText

/-!
# Values are read back from their texts

Both layouts of a value have the same tokens and differ in the blanks between them. The tokens
drive the reader through the value and leave the arrays and objects around it as they were, so
the value of a whole text is the value that was written. Members may be written in another
order than that of the value.

## Implementation notes

A value is plain if no two members of an object in it have the same name and its numbers are
integers of 64 bits or values of other literals. All values that the program writes of its own
records are plain.
-/

namespace SiteVpn.Json

/-! ## Layouts -/

/-- The blanks of a text: a new line at every level, and a gap after every colon. -/
structure Layout where
  newLine : Nat → List Char
  gap : List Char
  isBlank_newLine : ∀ level, ∀ c ∈ newLine level, isBlank c
  isBlank_gap : ∀ c ∈ gap, isBlank c

namespace Layout

/-- The layout without blanks. -/
def dense : Layout := ⟨fun _ => [], [], by simp, by simp⟩

/-- The layout with a line for every item and member. -/
def indented : Layout where
  newLine := Json.newLine
  gap := [' ']
  isBlank_newLine level c hc := by
    rcases List.mem_cons.mp hc with rfl | hc
    · rfl
    · rw [List.eq_of_mem_replicate hc]
      rfl
  isBlank_gap := List.forall_mem_singleton.mpr rfl

mutual

/-- The text of a value that starts at a level of indentation. -/
def text (l : Layout) (level : Nat) : Json → List Char
  | .null | .unreadable => "null".toList
  | .bool true => "true".toList
  | .bool false => "false".toList
  | .integer n => (Decimal.writeInt n).toList
  | .decimal literal => literal.toList
  | .string s => quote s.toList
  | .array [] => "[]".toList
  | .array (j :: js) =>
    '[' :: (l.newLine (level + 1) ++ (l.text (level + 1) j ++ l.itemsText level js))
  | .object [] => "\x7b\x7d".toList
  | .object ((name, j) :: ms) =>
    '\x7b' :: (l.newLine (level + 1) ++ (quote name.toList ++ ':' :: (l.gap ++
      (l.text (level + 1) j ++ l.membersText level ms))))

def itemsText (l : Layout) (level : Nat) : List Json → List Char
  | [] => l.newLine level ++ [']']
  | j :: js => ',' :: (l.newLine (level + 1) ++ (l.text (level + 1) j ++ l.itemsText level js))

def membersText (l : Layout) (level : Nat) : List (String × Json) → List Char
  | [] => l.newLine level ++ ['\x7d']
  | (name, j) :: ms =>
    ',' :: (l.newLine (level + 1) ++ (quote name.toList ++ ':' :: (l.gap ++
      (l.text (level + 1) j ++ l.membersText level ms))))

end

theorem text_array_cons (l : Layout) (level : Nat) (j : Json) (js : List Json) :
    l.text level (.array (j :: js)) =
      '[' :: (l.newLine (level + 1) ++ (l.text (level + 1) j ++ l.itemsText level js)) := rfl

theorem text_object_cons (l : Layout) (level : Nat) (name : String) (j : Json)
    (ms : List (String × Json)) :
    l.text level (.object ((name, j) :: ms)) =
      '\x7b' :: (l.newLine (level + 1) ++ (quote name.toList ++ ':' :: (l.gap ++
        (l.text (level + 1) j ++ l.membersText level ms)))) := rfl

mutual

/-- Without blanks, a text is the compact one. -/
theorem text_dense (level : Nat) : ∀ j : Json, dense.text level j = j.compact
  | .null | .unreadable | .bool true | .bool false | .integer _ | .decimal _ | .string _
  | .array [] | .object [] => rfl
  | .array (j :: js) => by
      rw [text_array_cons, text_dense (level + 1) j, itemsText_dense level js]
      rfl
  | .object ((name, j) :: ms) => by
      rw [text_object_cons, text_dense (level + 1) j, membersText_dense level ms]
      rfl

theorem itemsText_dense (level : Nat) :
    ∀ js : List Json, dense.itemsText level js = compactItems js
  | [] => rfl
  | j :: js => by
      rw [itemsText, text_dense (level + 1) j, itemsText_dense level js]
      rfl

theorem membersText_dense (level : Nat) :
    ∀ ms : List (String × Json), dense.membersText level ms = compactMembers ms
  | [] => rfl
  | (name, j) :: ms => by
      rw [membersText, text_dense (level + 1) j, membersText_dense level ms]
      rfl

end

mutual

/-- With a line for every item and member, a text is the pretty one. -/
theorem text_indented (level : Nat) : ∀ j : Json, indented.text level j = j.pretty level
  | .null | .unreadable | .bool true | .bool false | .integer _ | .decimal _ | .string _
  | .array [] | .object [] => rfl
  | .array (j :: js) => by
      rw [text_array_cons, text_indented (level + 1) j, itemsText_indented level js,
        ← List.append_assoc]
      rfl
  | .object ((name, j) :: ms) => by
      rw [text_object_cons, text_indented (level + 1) j, membersText_indented level ms,
        ← List.append_assoc]
      rfl

theorem itemsText_indented (level : Nat) :
    ∀ js : List Json, indented.itemsText level js = prettyItems level js
  | [] => rfl
  | j :: js => by
      rw [itemsText, text_indented (level + 1) j, itemsText_indented level js,
        ← List.append_assoc]
      rfl

theorem membersText_indented (level : Nat) :
    ∀ ms : List (String × Json), indented.membersText level ms = prettyMembers level ms
  | [] => rfl
  | (name, j) :: ms => by
      rw [membersText, text_indented (level + 1) j, membersText_indented level ms,
        ← List.append_assoc]
      rfl

end

end Layout

/-! ## Tokens of values -/

mutual

/-- Whether a value is read back as it is written. -/
def IsPlain : Json → Prop
  | .integer n => -0x8000000000000000 ≤ n ∧ n < 0x10000000000000000
  | .array items => ItemsPlain items
  | .object members => (members.map (·.1)).Nodup ∧ MembersPlain members
  | .decimal literal => ∃ l : NumberLiteral, l.WellFormed ∧ l.toJson = .decimal literal
  | .unreadable => False
  | _ => True

def ItemsPlain : List Json → Prop
  | [] => True
  | j :: js => j.IsPlain ∧ ItemsPlain js

def MembersPlain : List (String × Json) → Prop
  | [] => True
  | (_, j) :: ms => j.IsPlain ∧ MembersPlain ms

end

mutual

/-- The tokens of a value. -/
def tokens : Json → List Token
  | .string s => [.string (some s)]
  | .array [] => [.openArray, .closeArray]
  | .array (j :: js) => .openArray :: (j.tokens ++ itemTokens js)
  | .object [] => [.openObject, .closeObject]
  | .object ((name, j) :: ms) =>
    .openObject :: .string (some name) :: .colon :: (j.tokens ++ memberTokens ms)
  | j => [.scalar j]

/-- The tokens of the items after the first one. -/
def itemTokens : List Json → List Token
  | [] => [.closeArray]
  | j :: js => .comma :: (j.tokens ++ itemTokens js)

/-- The tokens of the members after the first one. -/
def memberTokens : List (String × Json) → List Token
  | [] => [.closeObject]
  | (name, j) :: ms =>
    .comma :: .string (some name) :: .colon :: (j.tokens ++ memberTokens ms)

end

section Scanning

variable {rest : List Char} {ts : List Token}

/-- A mark is a token of its own. -/
theorem Token.ofText_mark {c : Char} {mark : Token} (hc : isBlank c = false)
    (hscan : ∀ cs, Token.scan (c :: cs) = some (mark, cs))
    (h : Token.ofText rest = some ts) : Token.ofText (c :: rest) = some (mark :: ts) := by
  change Token.ofText (c :: ([] ++ rest)) = _
  exact Token.ofText_of_scan hc (hscan rest) h

theorem Token.ofText_quote (s : String) (h : Token.ofText rest = some ts) :
    Token.ofText (quote s.toList ++ rest) = some (.string (some s) :: ts) :=
  Token.ofText_of_scan (by decide) (Token.scan_quote s rest) h

theorem Token.ofText_number {l : NumberLiteral} (hl : l.WellFormed) (hrest : Delimited rest)
    (h : Token.ofText rest = some ts) :
    Token.ofText (l.text ++ rest) = some (.scalar l.toJson :: ts) := by
  have hscan := Token.scan_text hl hrest
  obtain ⟨c, cs, htext, hc⟩ := hl.exists_text_eq_cons
  have hblank : isBlank c = false := by
    rw [Bool.eq_false_iff]
    intro hblank
    simp only [isBlank, Bool.or_eq_true, beq_iff_eq] at hblank
    rcases hblank with ((rfl | rfl) | rfl) | rfl <;> revert hc <;> decide
  rw [htext] at hscan ⊢
  exact Token.ofText_of_scan hblank hscan h

theorem Token.ofText_writeInt {n : Int} (hmin : -0x8000000000000000 ≤ n)
    (hmax : n < 0x10000000000000000) (hrest : Delimited rest)
    (h : Token.ofText rest = some ts) :
    Token.ofText ((Decimal.writeInt n).toList ++ rest) = some (.scalar (.integer n) :: ts) := by
  rw [← NumberLiteral.text_ofInteger, ← NumberLiteral.toJson_ofInteger hmin hmax]
  exact Token.ofText_number (NumberLiteral.wellFormed_ofInteger n) hrest h

theorem Token.ofText_decimal {literal : String}
    (hliteral : ∃ l : NumberLiteral, l.WellFormed ∧ l.toJson = .decimal literal)
    (hrest : Delimited rest) (h : Token.ofText rest = some ts) :
    Token.ofText (literal.toList ++ rest) = some (.scalar (.decimal literal) :: ts) := by
  obtain ⟨l, hl, hvalue⟩ := hliteral
  have htext : literal.toList = l.text := by
    rcases l.toJson_cases with ⟨n, hn, -⟩ | hdecimal | hunreadable
    · rw [hn] at hvalue
      cases hvalue
    · rw [hdecimal] at hvalue
      cases hvalue
      exact String.toList_ofList
    · rw [hunreadable] at hvalue
      cases hvalue
  rw [htext, ← hvalue]
  exact Token.ofText_number hl hrest h

end Scanning

namespace Layout

variable (l : Layout)

theorem delimited_itemsText (level : Nat) (js : List Json) (rest : List Char) :
    Delimited (l.itemsText level js ++ rest) := by
  cases js with
  | nil =>
      rw [itemsText, List.append_assoc]
      exact delimited_blanks (l.isBlank_newLine level) (delimited_cons (by decide) rest)
  | cons j js =>
      rw [itemsText, List.cons_append]
      exact delimited_cons (by decide) _

theorem delimited_membersText (level : Nat) (ms : List (String × Json)) (rest : List Char) :
    Delimited (l.membersText level ms ++ rest) := by
  cases ms with
  | nil =>
      rw [membersText, List.append_assoc]
      exact delimited_blanks (l.isBlank_newLine level) (delimited_cons (by decide) rest)
  | cons m ms =>
      rw [membersText, List.cons_append]
      exact delimited_cons (by decide) _

/-- A name on its own line and the colon after it are two tokens. -/
theorem ofText_name (level : Nat) (name : String) {rest : List Char} {ts : List Token}
    (h : Token.ofText rest = some ts) :
    Token.ofText (l.newLine level ++ (quote name.toList ++ ':' :: (l.gap ++ rest))) =
      some (.string (some name) :: .colon :: ts) :=
  have hcolon : Token.ofText (':' :: (l.gap ++ rest)) = some (.colon :: ts) :=
    Token.ofText_mark (by decide) (fun _ => rfl) (Token.ofText_blanks l.isBlank_gap h)
  Token.ofText_blanks (l.isBlank_newLine level) (Token.ofText_quote name hcolon)

mutual

/-- The tokens of a text that starts with a value are those of the value and of the rest. -/
theorem ofText_text (level : Nat) : ∀ (j : Json) {rest : List Char} {ts : List Token},
    j.IsPlain → Delimited rest → Token.ofText rest = some ts →
    Token.ofText (l.text level j ++ rest) = some (j.tokens ++ ts)
  | .null, _, _, _, _, h => Token.ofText_of_scan (by decide) rfl h
  | .bool true, _, _, _, _, h => Token.ofText_of_scan (by decide) rfl h
  | .bool false, _, _, _, _, h => Token.ofText_of_scan (by decide) rfl h
  | .integer _, _, _, hj, hrest, h => Token.ofText_writeInt hj.1 hj.2 hrest h
  | .decimal _, _, _, hj, hrest, h => Token.ofText_decimal hj hrest h
  | .string s, _, _, _, _, h => Token.ofText_quote s h
  | .array [], _, _, _, _, h =>
      Token.ofText_mark (by decide) (fun _ => rfl) (Token.ofText_mark (by decide) (fun _ => rfl) h)
  | .array (j :: js), rest, ts, hj, _, h => by
      have htail := ofText_itemsText level js hj.2 h
      have hitem := ofText_text (level + 1) j hj.1 (l.delimited_itemsText level js rest) htail
      have hline := Token.ofText_blanks (l.isBlank_newLine (level + 1)) hitem
      simp only [text_array_cons, tokens, List.cons_append, List.append_assoc]
      exact Token.ofText_mark (by decide) (fun _ => rfl) hline
  | .object [], _, _, _, _, h =>
      Token.ofText_mark (by decide) (fun _ => rfl) (Token.ofText_mark (by decide) (fun _ => rfl) h)
  | .object ((name, j) :: ms), rest, ts, hj, _, h => by
      have htail := ofText_membersText level ms hj.2.2 h
      have hvalue :=
        ofText_text (level + 1) j hj.2.1 (l.delimited_membersText level ms rest) htail
      simp only [text_object_cons, tokens, List.cons_append, List.append_assoc]
      exact Token.ofText_mark (by decide) (fun _ => rfl) (l.ofText_name (level + 1) name hvalue)

theorem ofText_itemsText (level : Nat) : ∀ (js : List Json) {rest : List Char}
    {ts : List Token}, ItemsPlain js → Token.ofText rest = some ts →
    Token.ofText (l.itemsText level js ++ rest) = some (itemTokens js ++ ts)
  | [], rest, ts, _, h => by
      simp only [itemsText, itemTokens, List.append_assoc]
      exact Token.ofText_blanks (l.isBlank_newLine level)
        (Token.ofText_mark (by decide) (fun _ => rfl) h)
  | j :: js, rest, ts, hjs, h => by
      have htail := ofText_itemsText level js hjs.2 h
      have hitem := ofText_text (level + 1) j hjs.1 (l.delimited_itemsText level js rest) htail
      have hline := Token.ofText_blanks (l.isBlank_newLine (level + 1)) hitem
      simp only [itemsText, itemTokens, List.cons_append, List.append_assoc]
      exact Token.ofText_mark (by decide) (fun _ => rfl) hline

theorem ofText_membersText (level : Nat) : ∀ (ms : List (String × Json)) {rest : List Char}
    {ts : List Token}, MembersPlain ms → Token.ofText rest = some ts →
    Token.ofText (l.membersText level ms ++ rest) = some (memberTokens ms ++ ts)
  | [], rest, ts, _, h => by
      simp only [membersText, memberTokens, List.append_assoc]
      exact Token.ofText_blanks (l.isBlank_newLine level)
        (Token.ofText_mark (by decide) (fun _ => rfl) h)
  | (name, j) :: ms, rest, ts, hms, h => by
      have htail := ofText_membersText level ms hms.2 h
      have hvalue :=
        ofText_text (level + 1) j hms.1 (l.delimited_membersText level ms rest) htail
      simp only [membersText, memberTokens, List.cons_append, List.append_assoc]
      exact Token.ofText_mark (by decide) (fun _ => rfl) (l.ofText_name (level + 1) name hvalue)

end

end Layout

/-! ## Values of tokens -/

/-- The first item of an array starts like any other value. -/
theorem foldlM_itemOrClose (j : Json) (ts : List Token) (stack : List Frame) :
    (j.tokens ++ ts).foldlM step (.itemOrClose, .items [] :: stack) =
      (j.tokens ++ ts).foldlM step (.value, .items [] :: stack) := by
  cases j with
  | array items => cases items <;> rfl
  | object members => cases members <;> rfl
  | _ => rfl

theorem objectOf_reverse (members : List (String × Json)) :
    objectOf (members.map fun m => (some m.1, m.2)).reverse = .object members := by
  have hmap : (members.map fun m => (some m.1, m.2)).map
      (fun m : Option String × Json => (m.1.getD "", m.2)) = members := by
    simp [List.map_map, Function.comp_def]
  simp only [objectOf, List.reverse_reverse, hmap]
  rw [if_pos (by simp)]

mutual

/-- The tokens of a value give the value, inside the same arrays and objects. -/
theorem foldlM_tokens : ∀ (j : Json) (ts : List Token) (stack : List Frame),
    (j.tokens ++ ts).foldlM step (.value, stack) = ts.foldlM step (.none j, stack)
  | .null, _, _ | .unreadable, _, _ | .bool _, _, _ | .integer _, _, _ | .decimal _, _, _
  | .string _, _, _ | .array [], _, _ | .object [], _, _ => rfl
  | .array (j :: js), ts, stack => by
      have hopen : ((Json.array (j :: js)).tokens ++ ts).foldlM step (.value, stack) =
          (j.tokens ++ (itemTokens js ++ ts)).foldlM step (.itemOrClose, .items [] :: stack) := by
        simp only [tokens, List.cons_append, List.append_assoc]
        rfl
      rw [hopen, foldlM_itemOrClose, foldlM_tokens j]
      exact foldlM_itemTokens js j [] ts stack
  | .object ((name, j) :: ms), ts, stack => by
      have hopen : ((Json.object ((name, j) :: ms)).tokens ++ ts).foldlM step (.value, stack) =
          (j.tokens ++ (memberTokens ms ++ ts)).foldlM step
            (.value, .member [] (some name) :: stack) := by
        simp only [tokens, List.cons_append, List.append_assoc]
        rfl
      rw [hopen, foldlM_tokens j]
      exact foldlM_memberTokens ms name j [] ts stack

theorem foldlM_itemTokens : ∀ (js : List Json) (j : Json) (before : List Json)
    (ts : List Token) (stack : List Frame),
    (itemTokens js ++ ts).foldlM step (.none j, .items before.reverse :: stack) =
      ts.foldlM step (.none (.array (before ++ j :: js)), stack)
  | [], j, before, ts, stack => by
      have hclose : (j :: before.reverse).reverse = before ++ [j] := by simp
      rw [← hclose]
      rfl
  | k :: js, j, before, ts, stack => by
      have hcomma : (itemTokens (k :: js) ++ ts).foldlM step
            (.none j, .items before.reverse :: stack) =
          (k.tokens ++ (itemTokens js ++ ts)).foldlM step
            (.value, .items (j :: before.reverse) :: stack) := by
        simp only [itemTokens, List.cons_append, List.append_assoc]
        rfl
      have hbefore : j :: before.reverse = (before ++ [j]).reverse := by simp
      rw [hcomma, foldlM_tokens k, hbefore, foldlM_itemTokens js k (before ++ [j]) ts stack,
        List.append_assoc]
      rfl

theorem foldlM_memberTokens : ∀ (ms : List (String × Json)) (name : String) (j : Json)
    (before : List (String × Json)) (ts : List Token) (stack : List Frame),
    (memberTokens ms ++ ts).foldlM step (.none j,
        .member (before.map fun m => (some m.1, m.2)).reverse (some name) :: stack) =
      ts.foldlM step (.none (.object (before ++ (name, j) :: ms)), stack)
  | [], name, j, before, ts, stack => by
      have hclose : (some name, j) :: (before.map fun m => (some m.1, m.2)).reverse =
          ((before ++ [(name, j)]).map fun m => (some m.1, m.2)).reverse := by simp
      rw [← objectOf_reverse (before ++ [(name, j)]), ← hclose]
      rfl
  | (name', k) :: ms, name, j, before, ts, stack => by
      have hcomma : (memberTokens ((name', k) :: ms) ++ ts).foldlM step (.none j,
            .member (before.map fun m => (some m.1, m.2)).reverse (some name) :: stack) =
          (k.tokens ++ (memberTokens ms ++ ts)).foldlM step (.value,
            .member ((some name, j) :: (before.map fun m => (some m.1, m.2)).reverse)
              (some name') :: stack) := by
        simp only [memberTokens, List.cons_append, List.append_assoc]
        rfl
      have hbefore : (some name, j) :: (before.map fun m => (some m.1, m.2)).reverse =
          ((before ++ [(name, j)]).map fun m => (some m.1, m.2)).reverse := by simp
      rw [hcomma, foldlM_tokens k, hbefore,
        foldlM_memberTokens ms name' k (before ++ [(name, j)]) ts stack, List.append_assoc]
      rfl

end

theorem ofTokens_tokens (j : Json) : ofTokens j.tokens = some j := by
  have hfold := foldlM_tokens j [] []
  rw [List.append_nil] at hfold
  rw [ofTokens, hfold]
  rfl

/-- A plain value is read back from its text, in whatever layout. -/
theorem read_text (l : Layout) {j : Json} (hj : j.IsPlain) :
    read (l.text 0 j) = some j := by
  have htokens : Token.ofText (l.text 0 j ++ []) = some (j.tokens ++ []) :=
    l.ofText_text 0 j hj delimited_nil rfl
  rw [List.append_nil, List.append_nil] at htokens
  rw [read, htokens]
  exact ofTokens_tokens j

/-! ## Documents of their own -/

theorem keepLast_eq_lastOfEach {α : Type} (ms : List (String × α)) :
    keepLast ms = lastOfEach (·.1) ms := by
  induction ms with
  | nil => rfl
  | cons m ms ih =>
      have hrepeated : ms.any (·.1 == m.1) ↔ m.1 ∈ ms.map (·.1) := by simp
      simp only [keepLast, lastOfEach, hrepeated, ih]

mutual

theorem isReadable_of_isPlain : ∀ j : Json, j.IsPlain → j.isReadable
  | .null, _ | .bool _, _ | .integer _, _ | .decimal _, _ | .string _, _ => rfl
  | .array js, hj => itemsReadable_of_itemsPlain js hj
  | .object ms, hj => membersReadable_of_membersPlain ms hj.2

theorem itemsReadable_of_itemsPlain : ∀ js : List Json, ItemsPlain js → itemsReadable js
  | [], _ => rfl
  | j :: js, hjs => by
      rw [itemsReadable, isReadable_of_isPlain j hjs.1, itemsReadable_of_itemsPlain js hjs.2]
      rfl

theorem membersReadable_of_membersPlain :
    ∀ ms : List (String × Json), MembersPlain ms → membersReadable ms
  | [], _ => rfl
  | (_, j) :: ms, hms => by
      rw [membersReadable, isReadable_of_isPlain j hms.1,
        membersReadable_of_membersPlain ms hms.2]
      rfl

end

mutual

theorem settle_of_isPlain : ∀ j : Json, j.IsPlain → j.settle = j
  | .null, _ | .bool _, _ | .integer _, _ | .decimal _, _ | .string _, _ => rfl
  | .array js, hj => by rw [settle, settleItems_of_itemsPlain js hj]
  | .object ms, hj => by
      rw [settle, settleMembers_of_membersPlain ms hj.2, keepLast_eq_lastOfEach,
        lastOfEach_of_nodup hj.1]

theorem settleItems_of_itemsPlain : ∀ js : List Json, ItemsPlain js → settleItems js = js
  | [], _ => rfl
  | j :: js, hjs => by
      rw [settleItems, settle_of_isPlain j hjs.1, settleItems_of_itemsPlain js hjs.2]

theorem settleMembers_of_membersPlain :
    ∀ ms : List (String × Json), MembersPlain ms → settleMembers ms = ms
  | [], _ => rfl
  | (_, j) :: ms, hms => by
      rw [settleMembers, settle_of_isPlain j hms.1, settleMembers_of_membersPlain ms hms.2]

end

/-- A plain value that is not nested too deep is read back as a document of its own. -/
theorem readDocument_text (l : Layout) {j : Json} (hj : j.IsPlain) (hdepth : j.depth ≤ 127) :
    readDocument (l.text 0 j) = some j := by
  rw [readDocument, read_text l hj]
  simp only [settle_of_isPlain j hj]
  exact if_pos ⟨isReadable_of_isPlain j hj, hdepth⟩

/-! ## The order of members -/

theorem itemsPlain_iff {js : List Json} : ItemsPlain js ↔ ∀ j ∈ js, j.IsPlain := by
  induction js with
  | nil => simp [ItemsPlain]
  | cons j js ih => simp [ItemsPlain, ih]

theorem membersPlain_iff {ms : List (String × Json)} :
    MembersPlain ms ↔ ∀ m ∈ ms, m.2.IsPlain := by
  induction ms with
  | nil => simp [MembersPlain]
  | cons m ms ih => simp [MembersPlain, ih]

theorem depthItems_le_iff {js : List Json} {n : Nat} :
    depthItems js ≤ n ↔ ∀ j ∈ js, j.depth ≤ n := by
  induction js with
  | nil => simp [depthItems]
  | cons j js ih => rw [depthItems, Nat.max_le, ih, List.forall_mem_cons]

theorem depthMembers_le_iff {ms : List (String × Json)} {n : Nat} :
    depthMembers ms ≤ n ↔ ∀ m ∈ ms, m.2.depth ≤ n := by
  induction ms with
  | nil => simp [depthMembers]
  | cons m ms ih => rw [depthMembers, Nat.max_le, ih, List.forall_mem_cons]

theorem isPlain_object_singleton {name : String} {j : Json} :
    (Json.object [(name, j)]).IsPlain ↔ j.IsPlain :=
  ⟨fun h => h.2.1, fun h => ⟨List.pairwise_singleton .., h, trivial⟩⟩

theorem depth_object_singleton (name : String) (j : Json) :
    (Json.object [(name, j)]).depth = j.depth + 1 := by
  rw [depth, depthMembers, depthMembers, Nat.max_zero]

/-- A way to arrange the members of an object. -/
structure MemberOrder where
  arrange : List (String × Json) → List (String × Json)
  perm : ∀ ms, (arrange ms).Perm ms

/-- The members as they are. -/
def MemberOrder.given : MemberOrder := ⟨id, fun _ => .refl _⟩

mutual

/-- The value with the members of every object arranged. -/
def inOrder (o : MemberOrder) : Json → Json
  | .array items => .array (itemsInOrder o items)
  | .object members => .object (o.arrange (membersInOrder o members))
  | j => j

def itemsInOrder (o : MemberOrder) : List Json → List Json
  | [] => []
  | j :: js => j.inOrder o :: itemsInOrder o js

def membersInOrder (o : MemberOrder) : List (String × Json) → List (String × Json)
  | [] => []
  | (name, j) :: ms => (name, j.inOrder o) :: membersInOrder o ms

end

theorem itemsInOrder_eq_map (o : MemberOrder) (js : List Json) :
    itemsInOrder o js = js.map (inOrder o) := by
  induction js with
  | nil => rfl
  | cons j js ih => rw [itemsInOrder, ih, List.map_cons]

theorem membersInOrder_eq_map (o : MemberOrder) (ms : List (String × Json)) :
    membersInOrder o ms = ms.map fun m => (m.1, m.2.inOrder o) := by
  induction ms with
  | nil => rfl
  | cons m ms ih => rw [membersInOrder, ih, List.map_cons]

mutual

theorem inOrder_given : ∀ j : Json, j.inOrder .given = j
  | .null | .bool _ | .integer _ | .decimal _ | .string _ | .unreadable => rfl
  | .array js => by rw [inOrder, itemsInOrder_given js]
  | .object ms => by
      rw [inOrder, membersInOrder_given ms]
      rfl

theorem itemsInOrder_given : ∀ js : List Json, itemsInOrder .given js = js
  | [] => rfl
  | j :: js => by rw [itemsInOrder, inOrder_given j, itemsInOrder_given js]

theorem membersInOrder_given : ∀ ms : List (String × Json), membersInOrder .given ms = ms
  | [] => rfl
  | (_, j) :: ms => by rw [membersInOrder, inOrder_given j, membersInOrder_given ms]

end

section Order

variable (o : MemberOrder)

theorem isPlain_object_iff_of_perm {ms ns : List (String × Json)} (h : ms.Perm ns) :
    (Json.object ms).IsPlain ↔ (Json.object ns).IsPlain := by
  simp only [IsPlain, membersPlain_iff, (h.map _).nodup_iff, h.mem_iff]

theorem depth_object_eq_of_perm {ms ns : List (String × Json)} (h : ms.Perm ns) :
    (Json.object ms).depth = (Json.object ns).depth := by
  have hle (n : Nat) : depthMembers ms ≤ n ↔ depthMembers ns ≤ n := by
    simp only [depthMembers_le_iff, h.mem_iff]
  have hdepth : depthMembers ms = depthMembers ns :=
    Nat.le_antisymm ((hle _).mpr (Nat.le_refl _)) ((hle _).mp (Nat.le_refl _))
  rw [depth, depth, hdepth]

mutual

/-- A value stays plain in any order of its members. -/
theorem isPlain_inOrder : ∀ j : Json, j.IsPlain → (j.inOrder o).IsPlain
  | .null, hj | .bool _, hj | .integer _, hj | .decimal _, hj | .string _, hj => hj
  | .array js, hj => itemsPlain_inOrder js hj
  | .object ms, hj => by
      have hnames : (membersInOrder o ms).map (·.1) = ms.map (·.1) := by
        rw [membersInOrder_eq_map, List.map_map]
        rfl
      rw [inOrder, isPlain_object_iff_of_perm (o.perm _), IsPlain, hnames]
      exact ⟨hj.1, membersPlain_inOrder ms hj.2⟩

theorem itemsPlain_inOrder : ∀ js : List Json, ItemsPlain js → ItemsPlain (itemsInOrder o js)
  | [], _ => trivial
  | j :: js, hjs => ⟨isPlain_inOrder j hjs.1, itemsPlain_inOrder js hjs.2⟩

theorem membersPlain_inOrder :
    ∀ ms : List (String × Json), MembersPlain ms → MembersPlain (membersInOrder o ms)
  | [], _ => trivial
  | (_, j) :: ms, hms => ⟨isPlain_inOrder j hms.1, membersPlain_inOrder ms hms.2⟩

end

mutual

/-- A value is nested as deep in any order of its members. -/
theorem depth_inOrder : ∀ j : Json, (j.inOrder o).depth = j.depth
  | .null | .bool _ | .integer _ | .decimal _ | .string _ | .unreadable => rfl
  | .array js => by rw [inOrder, depth, depth, depthItems_inOrder js]
  | .object ms => by
      rw [inOrder, depth_object_eq_of_perm (o.perm _), depth, depth, depthMembers_inOrder ms]

theorem depthItems_inOrder : ∀ js : List Json, depthItems (itemsInOrder o js) = depthItems js
  | [] => rfl
  | j :: js => by rw [itemsInOrder, depthItems, depthItems, depth_inOrder j, depthItems_inOrder js]

theorem depthMembers_inOrder :
    ∀ ms : List (String × Json), depthMembers (membersInOrder o ms) = depthMembers ms
  | [] => rfl
  | (_, j) :: ms => by
      rw [membersInOrder, depthMembers, depthMembers, depth_inOrder j, depthMembers_inOrder ms]

end

end Order

/-! ## Styles -/

/-- How a value is written. -/
structure Style where
  /-- Whether every item and member has its line. -/
  isIndented : Bool
  order : MemberOrder

/-- The text of a value. -/
def written (style : Style) (j : Json) : List Char :=
  if style.isIndented then (j.inOrder style.order).pretty 0 else (j.inOrder style.order).compact

theorem written_eq_text (style : Style) (j : Json) :
    ∃ l : Layout, j.written style = l.text 0 (j.inOrder style.order) := by
  cases h : style.isIndented with
  | true => exact ⟨.indented, by rw [written, h, Layout.text_indented]; rfl⟩
  | false => exact ⟨.dense, by rw [written, h, Layout.text_dense]; rfl⟩

/-- A plain value is read back in the order in which it was written. -/
theorem read_written (style : Style) {j : Json} (hj : j.IsPlain) :
    read (j.written style) = some (j.inOrder style.order) := by
  obtain ⟨l, hl⟩ := written_eq_text style j
  rw [hl, read_text l (isPlain_inOrder style.order j hj)]

theorem readDocument_written (style : Style) {j : Json} (hj : j.IsPlain)
    (hdepth : j.depth ≤ 127) :
    readDocument (j.written style) = some (j.inOrder style.order) := by
  obtain ⟨l, hl⟩ := written_eq_text style j
  rw [hl]
  exact readDocument_text l (isPlain_inOrder style.order j hj) (by rwa [depth_inOrder])

end SiteVpn.Json
