import ReportGrid.Layout
import ReportGrid.Proofs.TextCutting

/-!
# Reading a written layout

A layout is written one row a line, each token in square brackets, with ` | ` between the tokens of
a row.  Blanks may stand around every bracketed token and at the ends of lines, lines may end in
either way, and lines of blanks may stand anywhere.  `WrittenTemplate` holds all these choices
together with the tokens.

Tokens may contain brackets and bars, and may begin or end with them.  Two facts keep them apart
from the written ones:

* `Piece.separator_not_infix` — no separator begins inside a written piece, because a bar of the
  text between the brackets has a character of the token, or a bracket, on at least one side where
  the separator has a blank;
* `stripBrackets_bracketed` — exactly the written pair of brackets is taken off.

`parse_written` says that reading gives back the rows, token by token.
-/

namespace ReportGrid.Layout

/-! ## Rows line by line -/

/-- The row of a line, if the line has a token. -/
def rowOfLine (line : List Char) : Option LayoutRow :=
  LayoutRow.ofTokens? ((lineTokens (Text.trim line)).map String.ofList)

/-- Lines that differ in the blanks at their ends give the same row. -/
theorem rowOfLine_congr {line other : List Char} (h : Text.trim line = Text.trim other) :
    rowOfLine line = rowOfLine other := by
  unfold rowOfLine
  rw [h]

theorem rowOfLine_nil : rowOfLine [] = none := by decide

/-- A carriage return at the end of a line is one of the blanks there. -/
theorem rowOfLine_append_return (line : List Char) :
    rowOfLine (line ++ ['\r']) = rowOfLine line :=
  rowOfLine_congr (Text.trim_append_blanks line (by simp [Text.isBlank]))

/-- The first line of a template gives the first row, or none. -/
theorem rows_append_feed {line : List Char} (h : '\n' ∉ line) (rest : List Char) :
    rows (line ++ '\n' :: rest) = (rowOfLine line).toList ++ rows rest := by
  have hline : rowOfLine (Text.dropReturn line) = rowOfLine line :=
    rowOfLine_congr (Text.trim_dropReturn line)
  change (Text.lines _).filterMap rowOfLine = _ ++ (Text.lines rest).filterMap rowOfLine
  rw [Text.lines_append_feed h, List.filterMap_cons, hline]
  cases rowOfLine line <;> rfl

/-- The last line of a template gives the last row, or none. -/
theorem rows_of_no_feed {line : List Char} (h : '\n' ∉ line) :
    rows line = (rowOfLine line).toList := by
  change (Text.lines line).filterMap rowOfLine = _
  rw [Text.lines_of_no_feed h]
  by_cases hnil : line = []
  · rw [if_pos hnil, hnil, rowOfLine_nil]
    rfl
  · rw [if_neg hnil, List.filterMap_cons]
    cases rowOfLine line <;> rfl

/-! ## Written layouts -/

/-- Blanks that do not end a line. -/
structure Padding where
  chars : List Char
  blank : ∀ c ∈ chars, Text.isBlank c = true
  no_feed : '\n' ∉ chars

/-- A shortcode that can be written between brackets: one line of text with no blank at its ends and
no separator in it. -/
structure Token where
  chars : List Char
  ne_nil : chars ≠ []
  trimmed : Text.trim chars = chars
  no_feed : '\n' ∉ chars
  no_separator : ¬ separator <:+: chars

/-- The shortcode of a token. -/
def Token.name (t : Token) : String :=
  String.ofList t.chars

/-- A token between brackets. -/
def Token.bracketed (t : Token) : List Char :=
  '[' :: (t.chars ++ [']'])

/-- A token between brackets with blanks around it. -/
structure Piece where
  before : Padding
  token : Token
  after : Padding

/-- A piece as it is written. -/
def Piece.text (p : Piece) : List Char :=
  p.before.chars ++ p.token.bracketed ++ p.after.chars

/-- Pieces with separators between them. -/
def joined (pieces : List Piece) : List Char :=
  separator.intercalate (pieces.map Piece.text)

/-- A line of a template: the pieces of a row, or nothing but blanks. -/
inductive WrittenLine where
  | row (first : Piece) (more : List Piece)
  | blank (padding : Padding)

namespace WrittenLine

/-- A line as it is written, without its end. -/
def text : WrittenLine → List Char
  | .row first more => joined (first :: more)
  | .blank padding => padding.chars

/-- The shortcodes of a line that is a row. -/
def tokens? : WrittenLine → Option (List String)
  | .row first more => some ((first :: more).map fun p => p.token.name)
  | .blank _ => none

end WrittenLine

/-- The two ways to end a line. -/
inductive LineEnd where
  | feed
  | returnFeed

/-- The end of a line as it is written. -/
def LineEnd.text : LineEnd → List Char
  | .feed => ['\n']
  | .returnFeed => ['\r', '\n']

/-- A template as it is written: lines with their ends, and a last line without one. -/
structure WrittenTemplate where
  lines : List (WrittenLine × LineEnd)
  last : WrittenLine

namespace WrittenTemplate

/-- The text of a template. -/
def text (w : WrittenTemplate) : String :=
  String.ofList ((w.lines.flatMap fun line => line.1.text ++ line.2.text) ++ w.last.text)

/-- The shortcodes of a template, row by row. -/
def tokens (w : WrittenTemplate) : List (List String) :=
  (w.lines.map Prod.fst ++ [w.last]).filterMap WrittenLine.tokens?

end WrittenTemplate

/-! ## One piece -/

theorem getLast?_bracketed (t : Token) : t.bracketed.getLast? = some ']' := by
  rw [Token.bracketed, ← List.cons_append, List.getLast?_concat]

theorem trim_bracketed (t : Token) : Text.trim t.bracketed = t.bracketed := by
  apply Text.trim_eq_self
  · intro c hc
    obtain rfl : '[' = c := by simpa [Token.bracketed] using hc
    rfl
  · intro c hc
    obtain rfl : ']' = c := Option.some.inj ((getLast?_bracketed t).symm.trans hc)
    rfl

/-- **Brackets.**  Exactly the written pair of brackets is taken off, whatever the token has at its
own ends. -/
theorem stripBrackets_bracketed (t : Token) : stripBrackets t.bracketed = t.chars := by
  have hopening : dropOpening t.bracketed = t.chars ++ [']'] := rfl
  have hclosing : dropClosing (t.chars ++ [']']) = t.chars := by simp [dropClosing]
  rw [stripBrackets, hopening, hclosing, t.trimmed]

namespace Piece

theorem trim_text (p : Piece) : Text.trim p.text = p.token.bracketed := by
  rw [text, Text.trim_pad _ p.before.blank p.after.blank, trim_bracketed]

theorem feed_not_mem_text (p : Piece) : '\n' ∉ p.text := by
  simp [text, Token.bracketed, p.before.no_feed, p.token.no_feed, p.after.no_feed]

/-- **No separator begins inside a piece.**  The brackets are foreign to the separator, so that one
would lie in the blanks before them, in the token, or in the blanks after them; but blanks have no
bar, and the bar of the separator that follows is the last character looked at. -/
theorem separator_not_infix (p : Piece) : ¬ separator <:+: p.text ++ separator.dropLast := by
  have hbar : ∀ s : List Char, '|' ∉ s → ¬ separator <:+: s :=
    fun s hs hinside => hs (hinside.subset (by decide))
  have hblank : ∀ q : Padding, '|' ∉ q.chars := by
    intro q hmem
    exact absurd (q.blank _ hmem) (by decide)
  have hafter : ¬ separator <:+: (p.after.chars ++ [' ']) ++ ['|'] := by
    rw [List.infix_concat_iff]
    rintro (hsuffix | hinside)
    · rw [← List.reverse_prefix, List.reverse_append] at hsuffix
      exact absurd (List.cons_prefix_cons.mp hsuffix).1 (by decide)
    · exact hbar _ (by simp [hblank]) hinside
  intro h
  have hwritten : p.text ++ separator.dropLast = p.before.chars ++
      '[' :: (p.token.chars ++ ']' :: ((p.after.chars ++ [' ']) ++ ['|'])) := by
    simp [text, Token.bracketed, separator]
  rw [hwritten] at h
  rcases Text.infix_of_infix_append_cons (by decide) h with hbefore | hrest
  · exact hbar _ (hblank p.before) hbefore
  · rcases Text.infix_of_infix_append_cons (by decide) hrest with htoken | htail
    · exact p.token.no_separator htoken
    · exact hafter htail

end Piece

/-! ## One line -/

theorem joined_singleton (p : Piece) : joined [p] = p.text :=
  List.intercalate_singleton

theorem joined_cons_cons (first next : Piece) (more : List Piece) :
    joined (first :: next :: more) = first.text ++ separator ++ joined (next :: more) := by
  simp only [joined, List.map_cons, List.intercalate_cons_cons]

/-- **Separators.**  A joined line comes apart into its pieces, and every piece has its token. -/
theorem pieceTokens_joined {pieces : List Piece} (hne : pieces ≠ []) :
    pieceTokens (joined pieces) = pieces.map fun p => p.token.chars := by
  have hsplit : Text.splitOn separator (joined pieces) = pieces.map Piece.text := by
    apply Text.splitOn_intercalate (by decide) (by simpa using hne)
    intro text htext
    obtain ⟨p, -, rfl⟩ := List.mem_map.mp htext
    exact p.separator_not_infix
  have hstrip : ∀ p : Piece, stripBrackets (Text.trim p.text) = p.token.chars := by
    intro p
    rw [p.trim_text, stripBrackets_bracketed]
  unfold pieceTokens
  simp only [hsplit, List.map_map, Function.comp_def, hstrip]
  rw [List.filter_eq_self]
  intro token htoken
  obtain ⟨p, -, rfl⟩ := List.mem_map.mp htoken
  simpa using p.token.ne_nil

/-- No blanks. -/
def Padding.none : Padding :=
  ⟨[], by simp, by simp⟩

/-- The blanks at the end of a joined line belong to its last piece. -/
theorem exists_end_closed (first : Piece) (more : List Piece) :
    ∃ closed rest, (closed :: rest).map Piece.token = (first :: more).map Piece.token ∧
      closed.before = first.before ∧
      (joined (closed :: rest)).getLast? = some ']' ∧
      ∃ after : Padding, joined (first :: more) = joined (closed :: rest) ++ after.chars := by
  induction more generalizing first with
  | nil =>
      refine ⟨{ first with after := Padding.none }, [], rfl, rfl, ?_, first.after, ?_⟩
      · rw [joined_singleton, Piece.text, Padding.none, List.append_nil, List.getLast?_append,
          getLast?_bracketed]
        rfl
      · simp [joined_singleton, Piece.text, Padding.none]
  | cons next more ih =>
      obtain ⟨closed, rest, htokens, -, hlast, after, hjoined⟩ := ih next
      refine ⟨first, closed :: rest, ?_, rfl, ?_, after, ?_⟩
      · simpa using htokens
      · rw [joined_cons_cons, List.getLast?_append, hlast]
        rfl
      · rw [joined_cons_cons, joined_cons_cons, hjoined]
        simp only [List.append_assoc]

/-- The blanks at the start of a joined line belong to its first piece. -/
theorem joined_before (first : Piece) (more : List Piece) :
    joined (first :: more) =
      first.before.chars ++ joined ({ first with before := Padding.none } :: more) := by
  cases more with
  | nil => simp [joined_singleton, Piece.text, Padding.none]
  | cons next more =>
      rw [joined_cons_cons, joined_cons_cons]
      simp [Piece.text, Padding.none]

/-- Trimming a joined line gives a joined line with the same tokens. -/
theorem exists_trim_joined (first : Piece) (more : List Piece) :
    ∃ tight rest, (tight :: rest).map Piece.token = (first :: more).map Piece.token ∧
      Text.trim (joined (first :: more)) = joined (tight :: rest) ∧
      Text.trim (joined (tight :: rest)) = joined (tight :: rest) := by
  obtain ⟨tight, rest, htokens, hbefore, hlast, after, hjoined⟩ :=
    exists_end_closed { first with before := Padding.none } more
  have hhead : (joined (tight :: rest)).head? = some '[' := by
    rw [joined_before, hbefore]
    cases rest <;> simp [joined, Piece.text, Token.bracketed, Padding.none]
  have hself : Text.trim (joined (tight :: rest)) = joined (tight :: rest) := by
    apply Text.trim_eq_self
    · intro c hc
      obtain rfl : '[' = c := Option.some.inj (hhead.symm.trans hc)
      rfl
    · intro c hc
      obtain rfl : ']' = c := Option.some.inj (hlast.symm.trans hc)
      rfl
  refine ⟨tight, rest, by simpa using htokens, ?_, hself⟩
  rw [joined_before, hjoined, ← List.append_assoc, Text.trim_pad _ first.before.blank after.blank,
    hself]

/-- **One row.**  The tokens of a joined line are the tokens of its pieces; a line of one piece is
never taken for several. -/
theorem lineTokens_joined (first : Piece) (more : List Piece) :
    lineTokens (Text.trim (joined (first :: more))) =
      (first :: more).map fun p => p.token.chars := by
  obtain ⟨tight, rest, htokens, htrim, hself⟩ := exists_trim_joined first more
  have hchars : (first :: more).map (fun p => p.token.chars) =
      (tight :: rest).map fun p => p.token.chars := by
    simpa [Function.comp_def] using (congrArg (List.map Token.chars) htokens).symm
  rw [htrim, hchars]
  unfold lineTokens
  rw [pieceTokens_joined (List.cons_ne_nil _ _)]
  cases rest with
  | nil =>
      have hbracketed : joined [tight] = tight.token.bracketed := by
        rw [← hself, joined_singleton, tight.trim_text]
      simp [hbracketed, stripBrackets_bracketed, tight.token.ne_nil]
  | cons next rest => simp

namespace WrittenLine

theorem feed_not_mem_text (line : WrittenLine) : '\n' ∉ line.text := by
  cases line with
  | blank padding => exact padding.no_feed
  | row first more =>
      change '\n' ∉ joined (first :: more)
      induction more generalizing first with
      | nil => simpa [joined_singleton] using first.feed_not_mem_text
      | cons next more ih =>
          rw [joined_cons_cons]
          simp only [List.mem_append, not_or]
          exact ⟨⟨first.feed_not_mem_text, by decide⟩, ih next⟩

/-- A line that is written as a row is read as that row, and a line of blanks as none. -/
theorem map_tokens_rowOfLine (line : WrittenLine) :
    (rowOfLine line.text).map LayoutRow.tokens = line.tokens? := by
  cases line with
  | blank padding =>
      have htrim : Text.trim padding.chars = Text.trim [] := by
        simpa using Text.trim_append_blanks [] padding.blank
      change (rowOfLine padding.chars).map LayoutRow.tokens = none
      rw [rowOfLine_congr htrim, rowOfLine_nil]
      rfl
  | row first more =>
      change (LayoutRow.ofTokens? ((lineTokens (Text.trim (joined (first :: more)))).map _)).map _ =
        some ((first :: more).map fun p => p.token.name)
      rw [lineTokens_joined]
      simp [LayoutRow.ofTokens?, Token.name, Function.comp_def]

end WrittenLine

/-! ## Whole templates -/

/-- A line with either end gives its row, or none, and the rows of what follows. -/
theorem rows_line_append (line : WrittenLine) (ending : LineEnd) (rest : List Char) :
    rows (line.text ++ ending.text ++ rest) = (rowOfLine line.text).toList ++ rows rest := by
  cases ending with
  | feed =>
      rw [List.append_assoc]
      exact rows_append_feed line.feed_not_mem_text rest
  | returnFeed =>
      have hfeed : '\n' ∉ line.text ++ ['\r'] := by simp [line.feed_not_mem_text]
      have hsplit : line.text ++ LineEnd.returnFeed.text ++ rest =
          (line.text ++ ['\r']) ++ '\n' :: rest := by
        simp [LineEnd.text]
      rw [hsplit, rows_append_feed hfeed, rowOfLine_append_return]

/-- **Reading undoes writing.**  Whatever brackets and bars the tokens contain, and whatever blanks,
line ends and lines of blanks stand between them, reading a written template gives its rows, token
by token. -/
theorem parse_written (w : WrittenTemplate) :
    (parse w.text).map LayoutRow.tokens = w.tokens := by
  have hoption : ∀ line : WrittenLine,
      (rowOfLine line.text).toList.map LayoutRow.tokens = line.tokens?.toList := by
    intro line
    rw [← line.map_tokens_rowOfLine]
    cases rowOfLine line.text <;> rfl
  have htokens : w.tokens = (w.lines.map Prod.fst).flatMap (fun line => line.tokens?.toList) ++
      w.last.tokens?.toList := by
    simp [WrittenTemplate.tokens, List.filterMap_eq_flatMap_toList]
  unfold parse WrittenTemplate.text
  rw [String.toList_ofList, htokens]
  induction w.lines with
  | nil =>
      rw [← hoption, ← rows_of_no_feed w.last.feed_not_mem_text]
      rfl
  | cons line lines ih =>
      rw [List.flatMap_cons, List.append_assoc, rows_line_append, List.map_append, hoption, ih]
      simp

end ReportGrid.Layout
