import Mathlib.Algebra.Order.BigOperators.Group.List
import Mathlib.Data.List.TakeWhile
import SiteVpn.Proofs.AddressGrammar
import SiteVpn.Proofs.Traversal
import SiteVpn.Text.Table

/-!
# The lines of a table

Aligning a table replaces each tab by blanks, at least as many as stand between columns, and
leaves everything else as it is. So the line ends of a table are those of its cells and of its
rows, and a row whose cells have no line ends is one line, which begins with the first cell.
-/

namespace SiteVpn.Text

theorem not_mem_of_mem_fields {sep : Char} {cs field : List Char} (h : field ∈ fields sep cs) :
    sep ∉ field := by
  induction cs generalizing field with
  | nil =>
      rw [fields_nil, List.mem_singleton] at h
      subst h
      exact List.not_mem_nil
  | cons c cs ih =>
      by_cases hc : c = sep
      · subst hc
        rw [fields_cons_sep] at h
        rcases List.mem_cons.mp h with rfl | h
        · exact List.not_mem_nil
        · exact ih h
      · obtain ⟨f, fs, hfields⟩ : ∃ f fs, fields sep cs = f :: fs := by
          rw [fields_eq_splitOn]
          exact List.exists_cons_of_ne_nil (List.splitOn_ne_nil sep cs)
        rw [fields_cons sep c cs hc, hfields, List.headD_cons, List.tail_cons] at h
        rw [hfields] at ih
        rcases List.mem_cons.mp h with rfl | h
        · rw [List.mem_cons, not_or]
          exact ⟨fun heq => hc heq.symm, ih (List.mem_cons_self ..)⟩
        · exact ih (List.mem_cons_of_mem _ h)

theorem intercalate_fields (sep : Char) (cs : List Char) :
    [sep].intercalate (fields sep cs) = cs := by
  rw [fields_eq_splitOn, List.intercalate_splitOn]

theorem fields_ne_nil (sep : Char) (cs : List Char) : fields sep cs ≠ [] := by
  rw [fields_eq_splitOn]
  exact List.splitOn_ne_nil sep cs

namespace Table

/-- Whether a text is another one with each of its tabs replaced by blanks, of which there are at
least as many as stand between columns. -/
inductive Padded : List Char → List Char → Prop
  | nil : Padded [] []
  | keep {c : Char} {cs ds : List Char} (hc : c ≠ '\t') (h : Padded cs ds) :
      Padded (c :: cs) (c :: ds)
  | tab {n : Nat} {cs ds : List Char} (hn : gap ≤ n) (h : Padded cs ds) :
      Padded ('\t' :: cs) (List.replicate n ' ' ++ ds)

variable {cs ds out : List Char}

theorem Padded.append_left {as : List Char} (has : '\t' ∉ as) (h : Padded cs ds) :
    Padded (as ++ cs) (as ++ ds) := by
  induction as with
  | nil => exact h
  | cons a as ih =>
      rw [List.mem_cons, not_or] at has
      exact .keep (Ne.symm has.1) (ih has.2)

/-- Text without tabs stays as it is. -/
theorem Padded.refl (h : '\t' ∉ cs) : Padded cs cs := by
  simpa using Padded.append_left h .nil

/-- A text and what follows it are padded apart. -/
theorem Padded.exists_append {as bs : List Char} (h : Padded (as ++ bs) out) :
    ∃ xs ys, out = xs ++ ys ∧ Padded as xs ∧ Padded bs ys := by
  induction as generalizing out with
  | nil => exact ⟨[], out, rfl, .nil, h⟩
  | cons a as ih =>
      cases h with
      | keep hc h =>
          obtain ⟨xs, ys, rfl, hxs, hys⟩ := ih h
          exact ⟨a :: xs, ys, rfl, .keep hc hxs, hys⟩
      | @tab n _ _ hn h =>
          obtain ⟨xs, ys, rfl, hxs, hys⟩ := ih h
          exact ⟨List.replicate n ' ' ++ xs, ys, by rw [List.append_assoc], .tab hn hxs, hys⟩

theorem Padded.append {as bs xs ys : List Char} (ha : Padded as xs) (hb : Padded bs ys) :
    Padded (as ++ bs) (xs ++ ys) := by
  induction ha with
  | nil => exact hb
  | keep hc _ ih => exact .keep hc ih
  | tab hn _ ih =>
      rw [List.append_assoc]
      exact .tab hn ih

theorem Padded.eq_of_no_tab (h : Padded cs ds) (hcs : '\t' ∉ cs) : ds = cs := by
  induction h with
  | nil => rfl
  | keep _ _ ih =>
      rw [List.mem_cons, not_or] at hcs
      rw [ih hcs.2]
  | tab _ _ _ => exact absurd (List.mem_cons_self ..) hcs

/-- No tab is left. -/
theorem Padded.tab_not_mem (h : Padded cs ds) : '\t' ∉ ds := by
  induction h with
  | nil => exact List.not_mem_nil
  | keep hc _ ih =>
      rw [List.mem_cons, not_or]
      exact ⟨Ne.symm hc, ih⟩
  | tab _ _ ih =>
      rw [List.mem_append, not_or]
      exact ⟨fun hmem => absurd (List.eq_of_mem_replicate hmem) (by decide), ih⟩

/-- The line ends are those that were there. -/
theorem Padded.count_lineFeed (h : Padded cs ds) : ds.count '\n' = cs.count '\n' := by
  induction h with
  | nil => rfl
  | keep _ _ ih => rw [List.count_cons, List.count_cons, ih]
  | tab _ _ ih =>
      rw [List.count_append, List.count_replicate, ih, List.count_cons_of_ne (by decide)]
      exact Nat.zero_add _

/-! ## Alignment -/

theorem length_raise (ws below : List Nat) : (raise ws below).length = ws.length := by
  induction ws generalizing below with
  | nil => rfl
  | cons w ws ih =>
      cases below with
      | nil => rfl
      | cons b bs => rw [raise, List.length_cons, List.length_cons, ih]

theorem length_inherit (above ws : List Nat) : (inherit above ws).length = ws.length := by
  induction ws generalizing above with
  | nil => cases above <;> rfl
  | cons w ws ih =>
      cases above with
      | nil => rfl
      | cons a as => rw [inherit, List.length_cons, List.length_cons, ih]

theorem map_length_widthsBelow (lines : List (List Nat)) :
    (widthsBelow lines).map List.length = lines.map List.length := by
  induction lines with
  | nil => rfl
  | cons ws rest ih =>
      rw [widthsBelow, List.map_cons, List.map_cons, ih, length_raise]

theorem map_length_columnWidths (above : List Nat) (lines : List (List Nat)) :
    (columnWidths above lines).map List.length = lines.map List.length := by
  induction lines generalizing above with
  | nil => rfl
  | cons ws rest ih =>
      rw [columnWidths, List.map_cons, List.map_cons, ih, length_inherit]

/-- A line has a width for each cell but the last. -/
theorem map_length_layout (lines : List (List (List Char))) :
    (columnWidths [] (widthsBelow (lines.map cellWidths))).map List.length =
      lines.map fun cells => cells.length - 1 := by
  rw [map_length_columnWidths, map_length_widthsBelow, List.map_map]
  apply List.map_congr_left
  intro cells _
  rw [Function.comp_apply, cellWidths, List.length_map, List.length_dropLast]

/-- A line is padded cell by cell. -/
theorem padded_pad {cells : List (List Char)} {ws : List Nat} (hcells : cells ≠ [])
    (htabs : ∀ cell ∈ cells, '\t' ∉ cell) (hws : ws.length = cells.length - 1) :
    Padded (['\t'].intercalate cells) (pad cells ws) := by
  induction cells generalizing ws with
  | nil => exact absurd rfl hcells
  | cons cell cells ih =>
      obtain ⟨hcell, htabs⟩ := List.forall_mem_cons.mp htabs
      cases cells with
      | nil =>
          obtain rfl := List.eq_nil_of_length_eq_zero hws
          rw [List.intercalate_singleton, pad, List.flatten_cons, List.flatten_nil,
            List.append_nil]
          · exact .refl hcell
          · exact fun _ _ _ _ _ h => by cases h
      | cons next cells =>
          cases ws with
          | nil => cases hws
          | cons w ws =>
              rw [List.intercalate_cons_cons, pad, List.append_assoc, List.append_assoc]
              apply Padded.append_left hcell
              exact .tab (Nat.le_add_left gap _)
                (ih (List.cons_ne_nil next cells) htabs (Nat.succ.inj hws))

theorem padded_intercalate {lines outs : List (List Char)} (h : List.Forall₂ Padded lines outs) :
    Padded (['\n'].intercalate lines) (['\n'].intercalate outs) := by
  induction h with
  | nil => exact .nil
  | @cons line out lines outs hline hlines ih =>
      cases hlines with
      | nil =>
          rw [List.intercalate_singleton, List.intercalate_singleton]
          exact hline
      | cons hnext hrest =>
          rw [List.intercalate_cons_cons, List.intercalate_cons_cons, List.append_assoc,
            List.append_assoc]
          exact hline.append (.keep (by decide) ih)

/-- Alignment replaces tabs by blanks, and changes nothing else. -/
theorem padded_layout (text : List Char) : Padded text (layout text) := by
  have hlines : List.Forall₂ Padded (fields '\n' text)
      (((lines text).zip (columnWidths [] (widthsBelow ((lines text).map cellWidths)))).map
        fun p => pad p.1 p.2) := by
    have hlengths := map_length_layout (lines text)
    generalize columnWidths [] (widthsBelow ((lines text).map cellWidths)) = widths at hlengths
    unfold lines at hlengths ⊢
    generalize fields '\n' text = ls at hlengths
    induction ls generalizing widths with
    | nil => exact .nil
    | cons l ls ih =>
        cases widths with
        | nil => cases hlengths
        | cons ws widths =>
            obtain ⟨hws, hrest⟩ := List.cons.inj hlengths
            refine .cons ?_ (ih widths hrest)
            have hpad := padded_pad (fields_ne_nil '\t' l)
              (fun cell hcell => not_mem_of_mem_fields hcell) hws
            rwa [intercalate_fields] at hpad
  have hpadded := padded_intercalate hlines
  rwa [intercalate_fields] at hpadded

/-! ## Rows -/

/-- The text of some lines, each with its end. -/
def ended (ls : List (List Char)) : List Char := ls.flatMap (· ++ ['\n'])

@[simp] theorem ended_nil : ended [] = [] := rfl

theorem ended_cons (l : List Char) (ls : List (List Char)) :
    ended (l :: ls) = l ++ '\n' :: ended ls := by
  rw [ended, List.flatMap_cons, List.append_assoc]
  rfl

theorem ended_append (ls ls' : List (List Char)) : ended (ls ++ ls') = ended ls ++ ended ls' :=
  List.flatMap_append

theorem count_ended {ls : List (List Char)} (h : ∀ l ∈ ls, '\n' ∉ l) :
    (ended ls).count '\n' = ls.length := by
  induction ls with
  | nil => rfl
  | cons l ls ih =>
      obtain ⟨hl, hls⟩ := List.forall_mem_cons.mp h
      rw [ended_cons, List.count_append, List.count_eq_zero_of_not_mem hl, List.count_cons_self,
        ih hls, Nat.zero_add, List.length_cons]

theorem intercalate_eq_ended {ls : List (List Char)} (h : ls ≠ []) :
    ['\n'].intercalate ls ++ ['\n'] = ended ls := by
  induction ls with
  | nil => exact absurd rfl h
  | cons l ls ih =>
      cases ls with
      | nil => rw [List.intercalate_singleton, ended_cons, ended_nil]
      | cons next ls =>
          rw [List.intercalate_cons_cons, List.append_assoc, ih (List.cons_ne_nil next ls),
            ended_cons l, List.append_assoc]
          rfl

/-- The text of a line end at the end of a text are the lines of the text. -/
theorem ended_fields (cs : List Char) : ended (fields '\n' cs) = cs ++ ['\n'] := by
  rw [← intercalate_eq_ended (fields_ne_nil '\n' cs), intercalate_fields]

theorem Padded.lineFeed_not_mem (h : Padded cs ds) (hcs : '\n' ∉ cs) : '\n' ∉ ds := by
  rw [← List.count_eq_zero, h.count_lineFeed]
  exact List.count_eq_zero_of_not_mem hcs

/-- Lines are padded line by line. -/
theorem Padded.exists_ended {ls : List (List Char)} (h : Padded (ended ls) out) :
    ∃ outs, out = ended outs ∧ List.Forall₂ Padded ls outs := by
  induction ls generalizing out with
  | nil =>
      cases h
      exact ⟨[], rfl, .nil⟩
  | cons l ls ih =>
      rw [ended_cons] at h
      obtain ⟨line, rest, rfl, hline, hrest⟩ := h.exists_append
      cases hrest with
      | keep _ hrest =>
          obtain ⟨outs, rfl, houts⟩ := ih hrest
          exact ⟨line :: outs, (ended_cons line outs).symm, .cons hline houts⟩

theorem prefix_line {start line rest : List Char} (hstart : '\n' ∉ start)
    (h : start <+: line ++ '\n' :: rest) : start <+: line := by
  induction line generalizing start with
  | nil =>
      cases start with
      | nil => exact List.prefix_rfl
      | cons c start =>
          obtain ⟨rfl, -⟩ := List.cons_prefix_cons.mp h
          exact absurd (List.mem_cons_self ..) hstart
  | cons c line ih =>
      cases start with
      | nil => exact List.nil_prefix
      | cons c' start =>
          obtain ⟨rfl, hrest⟩ := List.cons_prefix_cons.mp h
          exact List.cons_prefix_cons.mpr ⟨rfl, ih (mt (List.mem_cons_of_mem _) hstart) hrest⟩

/-- The number of line ends in a text. -/
def lineFeeds (s : String) : Nat := s.toList.count '\n'

theorem lineFeeds_eq_zero_iff {s : String} : lineFeeds s = 0 ↔ '\n' ∉ s.toList :=
  List.count_eq_zero

theorem lineFeeds_sum_eq_zero_iff {cells : List String} :
    (cells.map lineFeeds).sum = 0 ↔ ∀ cell ∈ cells, '\n' ∉ cell.toList := by
  rw [List.sum_eq_zero_iff, List.forall_mem_map]
  simp only [lineFeeds_eq_zero_iff]

/-- A row has the line ends of its cells and its own. -/
theorem count_row (cells : List String) :
    (row cells).count '\n' = (cells.map lineFeeds).sum + 1 := by
  have hcells : (['\t'].intercalate (cells.map String.toList)).count '\n' =
      (cells.map lineFeeds).sum := by
    induction cells with
    | nil => rfl
    | cons cell cells ih =>
        cases cells with
        | nil =>
            rw [List.map_singleton, List.intercalate_singleton, List.map_singleton,
              List.sum_singleton, lineFeeds]
        | cons next cells =>
            rw [List.map_cons, List.map_cons, List.intercalate_cons_cons, List.count_append,
              List.count_append, ← List.map_cons, ih, List.map_cons, List.sum_cons]
            rfl
  rw [row, List.count_append, hcells]
  rfl

/-- The part of a label before its first tab or line end. -/
def labelStart (label : String) : List Char :=
  label.toList.takeWhile fun c => c ≠ '\t' ∧ c ≠ '\n'

theorem labelStart_eq_self {label : String} (htab : '\t' ∉ label.toList)
    (hline : '\n' ∉ label.toList) : labelStart label = label.toList := by
  refine List.takeWhile_eq_self_iff.mpr fun c hc => ?_
  rw [decide_eq_true_eq]
  constructor
  · rintro rfl
    exact htab hc
  · rintro rfl
    exact hline hc

theorem not_mem_labelStart (label : String) :
    '\t' ∉ labelStart label ∧ '\n' ∉ labelStart label := by
  have hstart : ∀ c ∈ labelStart label, c ≠ '\t' ∧ c ≠ '\n' := by
    intro c hc
    have hpass := List.mem_takeWhile_imp (p := fun c : Char => c ≠ '\t' ∧ c ≠ '\n') hc
    exact of_decide_eq_true hpass
  exact ⟨fun h => (hstart _ h).1 rfl, fun h => (hstart _ h).2 rfl⟩

/-- Whether some lines are those of a row: one, and another one for each line end in the cells.
The first of them begins with the label of the row up to its first tab or line end. -/
structure IsBlock (label : String) (cells : List String) (block : List (List Char)) : Prop where
  length : block.length = ((label :: cells).map lineFeeds).sum + 1
  whole : ∀ line ∈ block, '\n' ∉ line
  start : ∀ line ∈ block.head?, labelStart label <+: line

/-- A row whose cells have no line ends is one line. -/
theorem IsBlock.exists_line {label : String} {cells : List String} {block : List (List Char)}
    (h : IsBlock label cells block) (hcells : ∀ cell ∈ label :: cells, '\n' ∉ cell.toList) :
    ∃ line, block = [line] ∧ '\n' ∉ line ∧ labelStart label <+: line := by
  have hlength := h.length
  rw [lineFeeds_sum_eq_zero_iff.mpr hcells] at hlength
  obtain ⟨line, rfl⟩ := List.length_eq_one_iff.mp hlength
  exact ⟨line, rfl, h.whole line (List.mem_singleton_self line), h.start line rfl⟩

theorem exists_block {label : String} {cells : List String}
    (h : Padded (row (label :: cells)) out) :
    ∃ block, out = ended block ∧ IsBlock label cells block := by
  have hrow : row (label :: cells) = ended (fields '\n' (['\t'].intercalate
      ((label :: cells).map String.toList))) := (ended_fields _).symm
  have hcount := h.count_lineFeed
  have hprefix : labelStart label <+: out := by
    have hstart : ∃ rest, row (label :: cells) = labelStart label ++ rest := by
      have hlabel : labelStart label <+: label.toList := List.takeWhile_prefix _
      obtain ⟨rest, hrest⟩ := hlabel
      cases cells with
      | nil => exact ⟨rest ++ ['\n'], by simp [row, ← hrest]⟩
      | cons next cells =>
          refine ⟨rest ++ ['\t'] ++ ['\t'].intercalate ((next :: cells).map String.toList) ++
            ['\n'], ?_⟩
          simp [row, List.intercalate_cons_cons, ← hrest]
    obtain ⟨rest, hrest⟩ := hstart
    rw [hrest] at h
    obtain ⟨xs, ys, rfl, hxs, -⟩ := h.exists_append
    rw [hxs.eq_of_no_tab (not_mem_labelStart label).1]
    exact List.prefix_append ..
  rw [hrow] at h
  obtain ⟨block, rfl, hblock⟩ := h.exists_ended
  have hwhole : ∀ line ∈ block, '\n' ∉ line := by
    intro line hline
    obtain ⟨field, hfield, hpadded⟩ := exists_of_mem_forall₂ hblock hline
    exact hpadded.lineFeed_not_mem (not_mem_of_mem_fields hfield)
  refine ⟨block, rfl, ?_, hwhole, ?_⟩
  · rw [← count_row, ← hcount, count_ended hwhole]
  · intro line hline
    obtain ⟨rest, rfl⟩ := List.head?_eq_some_iff.mp hline
    rw [ended_cons] at hprefix
    exact prefix_line (not_mem_labelStart label).2 hprefix

/-- The text of rows, each of a label and further cells. -/
def rowsText (rows : List (String × List String)) : List Char :=
  rows.flatMap fun r => row (r.1 :: r.2)

/-- The rows of a table are its lines, row by row. -/
theorem exists_blocks {rows : List (String × List String)} (h : Padded (rowsText rows) out) :
    ∃ blocks, out = ended blocks.flatten ∧
      List.Forall₂ (fun r block => IsBlock r.1 r.2 block) rows blocks := by
  induction rows generalizing out with
  | nil =>
      cases h
      exact ⟨[], rfl, .nil⟩
  | cons r rows ih =>
      rw [rowsText, List.flatMap_cons] at h
      obtain ⟨xs, ys, rfl, hxs, hys⟩ := h.exists_append
      obtain ⟨block, rfl, hblock⟩ := exists_block hxs
      obtain ⟨blocks, rfl, hblocks⟩ := ih hys
      exact ⟨block :: blocks, by rw [List.flatten_cons, ended_append], .cons hblock hblocks⟩

/-- Rows of one line each are the lines in their order. -/
theorem lines_of_blocks {rows : List (String × List String)} {blocks : List (List (List Char))}
    (h : List.Forall₂ (fun r block => IsBlock r.1 r.2 block) rows blocks)
    (hrows : ∀ r ∈ rows, '\t' ∉ r.1.toList ∧ ∀ cell ∈ r.1 :: r.2, '\n' ∉ cell.toList) :
    (∀ line ∈ blocks.flatten, '\n' ∉ line) ∧
      List.Forall₂ (fun label line => label.toList <+: line) (rows.map (·.1)) blocks.flatten := by
  induction h with
  | nil => exact ⟨List.forall_mem_nil _, .nil⟩
  | cons hr _ ih =>
      obtain ⟨⟨htab, hcells⟩, hrest⟩ := List.forall_mem_cons.mp hrows
      obtain ⟨line, rfl, hline, hstart⟩ := hr.exists_line hcells
      obtain ⟨hwhole, hlabels⟩ := ih hrest
      rw [labelStart_eq_self htab (hcells _ (List.mem_cons_self ..))] at hstart
      exact ⟨List.forall_mem_cons.mpr ⟨hline, hwhole⟩, .cons hstart hlabels⟩

theorem count_rowsText (rows : List (String × List String)) :
    (rowsText rows).count '\n' =
      (rows.map fun r => ((r.1 :: r.2).map lineFeeds).sum + 1).sum := by
  rw [rowsText, List.count_flatMap]
  exact congrArg List.sum (List.map_congr_left fun r _ => count_row _)

/-- Whether a text is a line for a header, which begins with a title, and one for each label,
which begins with the label. -/
def HasOneLineEach (title : String) (labels : List String) (text : List Char) : Prop :=
  ∃ header rest, text = ended (header :: rest) ∧ (∀ line ∈ header :: rest, '\n' ∉ line) ∧
    List.Forall₂ (fun label line => label.toList <+: line) (title :: labels) (header :: rest)

theorem eq_zero_of_sum_eq_length {α : Type} {f : α → Nat} {xs : List α}
    (h : (xs.map fun x => f x + 1).sum = xs.length) : ∀ x ∈ xs, f x = 0 := by
  have hsum : (xs.map f).sum = 0 := by
    rw [List.sum_map_add] at h
    simpa using h
  exact fun x hx => List.sum_eq_zero_iff.mp hsum _ (List.mem_map_of_mem hx)

/-- The table of rows has one line for each of them, which begins with its label, exactly where
no label has a tab and no cell a line end. -/
theorem hasOneLineEach_iff (title : String) (titles : List String) (htitle : '\t' ∉ title.toList)
    (hheader : ∀ cell ∈ title :: titles, '\n' ∉ cell.toList)
    (rows : List (String × List String)) :
    HasOneLineEach title (rows.map (·.1)) (layout (rowsText ((title, titles) :: rows))) ↔
      ∀ r ∈ rows, '\t' ∉ r.1.toList ∧ ∀ cell ∈ r.1 :: r.2, '\n' ∉ cell.toList := by
  have hpadded := padded_layout (rowsText ((title, titles) :: rows))
  constructor
  · rintro ⟨header, rest, htext, hwhole, hlabels⟩ r hr
    constructor
    · -- A line has no tabs, so neither has a label at its start.
      intro htab
      obtain ⟨line, hline, hprefix⟩ := exists_of_mem_forall₂ (List.Forall₂.flip hlabels)
        (List.mem_cons_of_mem _ (List.mem_map_of_mem hr))
      have hmem : '\t' ∈ layout (rowsText ((title, titles) :: rows)) := by
        rw [htext, ended, List.mem_flatMap]
        exact ⟨line, hline, List.mem_append_left _ (List.IsPrefix.subset hprefix htab)⟩
      exact hpadded.tab_not_mem hmem
    · -- There are as many lines as rows, so there are no line ends but those of the rows.
      have hcount := hpadded.count_lineFeed
      rw [count_rowsText, htext, count_ended hwhole, ← hlabels.length_eq, List.length_cons,
        List.length_map, List.map_cons, List.sum_cons, lineFeeds_sum_eq_zero_iff.mpr hheader,
        Nat.zero_add, Nat.add_comm, Nat.add_left_cancel_iff] at hcount
      exact lineFeeds_sum_eq_zero_iff.mp (eq_zero_of_sum_eq_length hcount.symm r hr)
  · intro h
    obtain ⟨blocks, hblocks, hrows⟩ := exists_blocks hpadded
    have hlines := lines_of_blocks hrows (List.forall_mem_cons.mpr ⟨⟨htitle, hheader⟩, h⟩)
    generalize blocks.flatten = lines at hblocks hlines
    obtain ⟨hwhole, hlabels⟩ := hlines
    cases hlabels with
    | cons hfirst hrest => exact ⟨_, _, hblocks, hwhole, .cons hfirst hrest⟩

end Table

end SiteVpn.Text
