/-!
# Numerals

A numeral is a number as it is written: a sign, and either decimal digits with a fraction and an
exponent, hexadecimal digits, or a name for infinity or for no number at all.  Numbers are printed
through numerals (`Numeral.text`), and documents are read into them.
-/

namespace ReportGrid

/-- The sign of a numeral or of its exponent. -/
inductive Sign where
  | plus
  | minus
deriving DecidableEq, Repr

/-- The exponent of a numeral: the letter that introduces it, its sign and its digits. -/
structure Exponent where
  mark : Char
  sign : Option Sign
  digits : List Char
deriving DecidableEq, Repr

/-- A numeral without its sign. -/
inductive Magnitude where
  | decimal (whole : List Char) (fraction : Option (List Char)) (exponent : Option Exponent)
  | hex (mark : Char) (digits : List Char)
  | infinity
  | nan
deriving DecidableEq, Repr

/-- A number as it stands in a document. -/
structure Numeral where
  sign : Option Sign
  magnitude : Magnitude
deriving DecidableEq, Repr

/-- The value of a hexadecimal digit. -/
def hexDigit? (c : Char) : Option Nat :=
  if '0' ≤ c ∧ c ≤ '9' then some (c.toNat - '0'.toNat)
  else if 'a' ≤ c ∧ c ≤ 'f' then some (c.toNat - 'a'.toNat + 10)
  else if 'A' ≤ c ∧ c ≤ 'F' then some (c.toNat - 'A'.toNat + 10)
  else none

/-- The value of hexadecimal digits. -/
def hexValue (digits : List Char) : Nat :=
  digits.foldl (fun n c => 16 * n + (hexDigit? c).getD 0) 0

/-- The value of decimal digits. -/
def decimalValue (digits : List Char) : Nat :=
  Nat.ofDigitChars 10 digits 0

/-- The sign as it is written. -/
def Sign.text : Sign → List Char
  | .plus => ['+']
  | .minus => ['-']

/-- The exponent as it is written. -/
def Exponent.text (e : Exponent) : List Char :=
  e.mark :: (e.sign.elim [] Sign.text) ++ e.digits

/-- The power of ten that an exponent stands for. -/
def Exponent.value (e : Exponent) : Int :=
  if e.sign = some .minus then -(decimalValue e.digits : Int) else decimalValue e.digits

/-- The magnitude as it is written. -/
def Magnitude.text : Magnitude → List Char
  | .decimal whole fraction exponent =>
    whole ++ (fraction.elim [] ('.' :: ·)) ++ exponent.elim [] Exponent.text
  | .hex mark digits => '0' :: mark :: digits
  | .infinity => "Infinity".toList
  | .nan => "NaN".toList

/-- Reads a sign, if there is one. -/
def Sign.scan : List Char → Option Sign × List Char
  | '+' :: rest => (some .plus, rest)
  | '-' :: rest => (some .minus, rest)
  | rest => (none, rest)

theorem Sign.scan_length (s : List Char) : (Sign.scan s).2.length ≤ s.length := by
  unfold Sign.scan
  split <;> simp

namespace Numeral

/-- The numeral as it is written. -/
def text (n : Numeral) : List Char :=
  n.sign.elim [] Sign.text ++ n.magnitude.text

/-- Whether the numeral has a minus sign. -/
def isNegative (n : Numeral) : Bool :=
  n.sign = some .minus

/-- The numeral of an integer. -/
def ofInt (n : Int) : Numeral :=
  ⟨if n < 0 then some .minus else none, .decimal (Nat.toDigits 10 n.natAbs) none none⟩

end Numeral

end ReportGrid
