import ReportGrid.Json.Printer
import ReportGrid.Numeral.Value
import ReportGrid.Text

/-!
# Chart heights

The height of a chart is a single precision value.  It comes from a number of a document or from a
text such as `420px`; both round to the nearest value, and a number too large becomes infinite.

A text is read by `Height.ofText?`: blanks at its ends and every `px` at its end are taken off, and
the rest is a decimal numeral, or infinity or no number in any capitals, with an optional sign.
-/

namespace ReportGrid

/-- The height of a chart. -/
inductive Height where
  | finite (value : Binary)
  | infinite (negative : Bool)
  | nan
deriving DecidableEq, Repr

namespace Height

/-- A rounded value; one that is too large is infinite. -/
def ofRounded (negative : Bool) (rounded : Option Binary) : Height :=
  rounded.elim (.infinite negative) .finite

/-- The height that a number gives. -/
def ofNumber : Number → Height
  | .int n => ofRounded (n < 0) (Format.single.roundInt n)
  | .double b => ofRounded b.negative (b.convert .single)
  | .single b => .finite b

/-- The height that a quantity gives. -/
def ofQuantity : Quantity → Height
  | .number n => ofNumber n
  | .infinite negative => .infinite negative
  | .nan => .nan

/-- The unit that a height may end with. -/
def unit : List Char :=
  "px".toList

/-- A reversed text without the units at its end. -/
def dropUnits : List Char → List Char
  | 'x' :: 'p' :: rest => dropUnits rest
  | s => s

/-- The power of ten at the end of a numeral; none when something else stands there. -/
def exponent? : List Char → Option Int
  | [] => some 0
  | c :: rest =>
    let (sign, digits) := Sign.scan rest
    if (c = 'e' ∨ c = 'E') ∧ digits ≠ [] ∧ digits.all Char.isDigit then
      some (Exponent.value ⟨c, sign, digits⟩)
    else none

/-- The height of a decimal numeral without its sign. -/
def decimal? (negative : Bool) (s : List Char) : Option Height :=
  let whole := s.takeWhile Char.isDigit
  let (fraction, rest) :=
    match s.dropWhile Char.isDigit with
    | '.' :: rest => (rest.takeWhile Char.isDigit, rest.dropWhile Char.isDigit)
    | rest => ([], rest)
  if whole.isEmpty && fraction.isEmpty then none
  else (exponent? rest).map fun exponent =>
    ofRounded negative (Format.single.roundDecimal negative (decimalValue (whole ++ fraction))
      (exponent - fraction.length))

/-- The height of a numeral or of a word for infinity or for no number, without its sign. -/
def unsigned? (negative : Bool) (s : List Char) : Option Height :=
  let word := Text.lower s
  if word = "inf".toList ∨ word = "infinity".toList then some (.infinite negative)
  else if word = "nan".toList then some .nan
  else decimal? negative s

/-- The height of a numeral. -/
def numeral? : List Char → Option Height
  | '+' :: rest => unsigned? false rest
  | '-' :: rest => unsigned? true rest
  | s => unsigned? false s

/-- The height that a text gives. -/
def ofText? (text : String) : Option Height :=
  numeral? (dropUnits (Text.trim text.toList).reverse).reverse

/-- A height as JSON.  Only finite heights are numbers there. -/
def json : Height → Json
  | .finite b => .number (.single b)
  | _ => .null

/-- A height as text. -/
def text : Height → List Char
  | .finite b => (Number.single b).text
  | .infinite false => "inf".toList
  | .infinite true => "-inf".toList
  | .nan => "NaN".toList

end Height

end ReportGrid
