import ReportGrid.Json.Basic
import ReportGrid.Binary.Decimal

/-!
# JSON text

One printer serves both layouts.  `Json.write none` is the compact form.  `Json.write (some n)`
starts every item and field on a line of its own, two blanks deeper than the line of its container,
whose depth is `n`; an empty array or object stays on one line.

Strings escape the quotation mark, the backslash and the control characters and nothing else.
-/

namespace ReportGrid

/-- Doubles are written in place from `0.00001` up to 16 digits before the point. -/
def Number.doubleStyle : DecimalStyle := ⟨-5, 15⟩

/-- Single precision values are written in place from `0.000001` up to 13 digits before the
point. -/
def Number.singleStyle : DecimalStyle := ⟨-6, 12⟩

/-- The numeral of a number. -/
def Number.numeral : Number → Numeral
  | .int n => .ofInt n
  | .double b => b.numeral .double doubleStyle
  | .single b => b.numeral .single singleStyle

/-- The text of a number. -/
def Number.text (n : Number) : List Char :=
  n.numeral.text

namespace Json

/-- How a character is written between quotation marks. -/
def escapeChar (c : Char) : List Char :=
  if c = '"' then ['\\', '"']
  else if c = '\\' then ['\\', '\\']
  else if c = '\x08' then ['\\', 'b']
  else if c = '\x0c' then ['\\', 'f']
  else if c = '\n' then ['\\', 'n']
  else if c = '\r' then ['\\', 'r']
  else if c = '\t' then ['\\', 't']
  else if c.toNat < 0x20 then
    ['\\', 'u', '0', '0', Nat.digitChar (c.toNat / 16), Nat.digitChar (c.toNat % 16)]
  else [c]

/-- A text between quotation marks. -/
def quote (s : List Char) : List Char :=
  '"' :: s.flatMap escapeChar ++ ['"']

/-- What stands before an item: nothing in the compact form, else a new line and its indent. -/
def gap : Option Nat → List Char
  | none => []
  | some depth => '\n' :: List.replicate (2 * depth) ' '

/-- What stands between the name of a field and its value. -/
def fieldMark : Option Nat → List Char
  | none => [':']
  | some _ => [':', ' ']

mutual

/-- The text of a value, compact or laid out from a depth on. -/
def write (layout : Option Nat) : Json → List Char
  | .null => "null".toList
  | .bool true => "true".toList
  | .bool false => "false".toList
  | .number n => n.text
  | .string s => quote s.toList
  | .array [] => ['[', ']']
  | .array (item :: rest) =>
    '[' :: gap (layout.map (· + 1)) ++ write (layout.map (· + 1)) item ++
      writeItems (layout.map (· + 1)) rest ++ gap layout ++ [']']
  | .object [] => ['\x7b', '\x7d']
  | .object ((name, value) :: rest) =>
    '\x7b' :: gap (layout.map (· + 1)) ++ quote name.toList ++ fieldMark layout ++
      write (layout.map (· + 1)) value ++ writeFields (layout.map (· + 1)) rest ++ gap layout ++
      ['\x7d']

/-- The text of the items after the first one. -/
def writeItems (layout : Option Nat) : List Json → List Char
  | [] => []
  | item :: rest => ',' :: gap layout ++ write layout item ++ writeItems layout rest

/-- The text of the fields after the first one. -/
def writeFields (layout : Option Nat) : List (String × Json) → List Char
  | [] => []
  | (name, value) :: rest =>
    ',' :: gap layout ++ quote name.toList ++ fieldMark layout ++ write layout value ++
      writeFields layout rest

end

/-- The text of a value without any blanks between its parts. -/
def compact (v : Json) : String :=
  String.ofList (v.write none)

/-- The text of a value with one item or field a line. -/
def pretty (v : Json) : String :=
  String.ofList (v.write (some 0))

end Json

end ReportGrid
