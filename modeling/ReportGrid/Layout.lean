import ReportGrid.Text

/-!
# Layout templates

A template lists the rows of a report, one row a line.  A row names the sections of its cells by
shortcodes in square brackets, with ` | ` between cells.

`Layout.parse` never fails.  Lines without a token are dropped, rows keep the order of their lines,
and a row always has a token.  A line counts as several cells only if at least two of its pieces
have a token; otherwise the whole line is one piece, separators included.
-/

namespace ReportGrid

/-- The width classes of a row. -/
inductive GridColumns where
  | one
  | two
  | three
  | four
deriving DecidableEq, Repr

namespace GridColumns

/-- The width class for a number of cells.  Rows wider than four cells fall back to one column. -/
def ofCount : Nat → GridColumns
  | 2 => .two
  | 3 => .three
  | 4 => .four
  | _ => .one

/-- The number of columns. -/
def count : GridColumns → Nat
  | .one => 1
  | .two => 2
  | .three => 3
  | .four => 4

/-- The name of the style class. -/
def cssClass (g : GridColumns) : String :=
  "grid-cols-" ++ String.ofList (Nat.toDigits 10 g.count)

end GridColumns

/-- A row of a template: the shortcodes of its cells. -/
structure LayoutRow where
  tokens : List String
  tokens_ne_nil : tokens ≠ []
deriving DecidableEq, Repr

namespace LayoutRow

/-- The row with some tokens, if there are any. -/
def ofTokens? (tokens : List String) : Option LayoutRow :=
  if h : tokens = [] then none else some ⟨tokens, h⟩

/-- The width class of a row. -/
def columns (row : LayoutRow) : GridColumns :=
  .ofCount row.tokens.length

/-- Whether a row has several cells. -/
def isMultiColumn (row : LayoutRow) : Bool :=
  1 < row.tokens.length

end LayoutRow

namespace Layout

/-- What stands between the cells of a row. -/
def separator : List Char :=
  " | ".toList

/-- The text without one opening bracket at its start. -/
def dropOpening : List Char → List Char
  | '[' :: rest => rest
  | s => s

/-- The text without one closing bracket at its end. -/
def dropClosing (s : List Char) : List Char :=
  if s.getLast? = some ']' then s.dropLast else s

/-- The token inside a piece: one pair of brackets is taken off, and the blanks inside it. -/
def stripBrackets (s : List Char) : List Char :=
  Text.trim (dropClosing (dropOpening s))

/-- The tokens of the pieces of a line that have one. -/
def pieceTokens (line : List Char) : List (List Char) :=
  ((Text.splitOn separator line).map fun piece => stripBrackets (Text.trim piece)).filter (· ≠ [])

/-- The tokens of a line without blanks at its ends. -/
def lineTokens (line : List Char) : List (List Char) :=
  let tokens := pieceTokens line
  if 2 ≤ tokens.length then tokens else [stripBrackets line].filter (· ≠ [])

/-- The rows of a template, given as characters. -/
def rows (template : List Char) : List LayoutRow :=
  (Text.lines template).filterMap fun line =>
    LayoutRow.ofTokens? ((lineTokens (Text.trim line)).map String.ofList)

/-- The rows of a template. -/
def parse (template : String) : List LayoutRow :=
  rows template.toList

/-- One more shortcode at the end, unless it has been seen before. -/
def addShortcode (seen : List String) (token : String) : List String :=
  if seen.contains token then seen else seen ++ [token]

/-- The shortcodes that rows use, each where it is first used. -/
def shortcodes (rows : List LayoutRow) : List String :=
  (rows.flatMap LayoutRow.tokens).foldl addShortcode []

end Layout

end ReportGrid
