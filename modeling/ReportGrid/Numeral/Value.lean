import ReportGrid.Json.Basic
import ReportGrid.Numeral.Basic

/-!
# Values of numerals

The value of a numeral depends on the kind of document it stands in.

* `strict?` keeps integers of 64 bits exact.  Every other numeral becomes a double in single steps:
  digits are collected as long as they fit 64 bits, that integer is rounded to a double, and then it
  is multiplied or divided by powers of ten that are doubles themselves.  The result may be a few
  units off the nearest double, and numerals above all doubles have no value.
* `relaxed?` keeps signed integers of 64 bits exact and takes every other decimal numeral to the
  nearest double; integers beyond 64 bits, hexadecimal numerals beyond 32 bits or with a sign, and
  infinity or no number after a plus sign have no value.
-/

namespace ReportGrid

/-- What a numeral of a relaxed document may stand for. -/
inductive Quantity where
  | number (value : Number)
  | infinite (negative : Bool)
  | nan
deriving DecidableEq, Repr

namespace Numeral

/-- The integers without a sign that are kept exact lie below two to the power of 64. -/
def unsignedLimit : Nat := 18446744073709551616

/-- The magnitude of the least integer with a sign that is kept exact, two to the power of 63. -/
def signedLimit : Nat := 9223372036854775808

/-- Counts lie below two to the power of 32. -/
def countLimit : Nat := 4294967296

/-! ## Strict documents -/

/-- Continues a number of 64 bits with decimal digits as long as it fits; also the number of digits
that are left over. -/
def collect : Nat → List Char → Nat × Nat
  | n, [] => (n, 0)
  | n, c :: rest =>
    let next := 10 * n + (c.toNat - '0'.toNat)
    if next < unsignedLimit then collect next rest else (n, rest.length + 1)

/-- The greatest power of ten that is multiplied or divided by in one step. -/
def greatestStep : Nat := 308

/-- The double nearest to a power of ten up to the greatest step. -/
def powerOfTen (k : Nat) : Binary :=
  (Format.double.round false (tenPow k) 1).getD ⟨false, 0, 0⟩

/-- Multiplies a double with a power of ten in single steps; none when it grows too large. -/
def scale (b : Binary) (exponent : Int) : Option Binary :=
  if exponent < -(greatestStep : Int) then
    if b.mantissa = 0 then some b
    else (b.div .double (powerOfTen greatestStep)).bind fun smaller =>
      scale smaller (exponent + greatestStep)
  else if exponent < 0 then b.div .double (powerOfTen exponent.natAbs)
  else if exponent ≤ greatestStep then b.mul .double (powerOfTen exponent.natAbs)
  else if b.mantissa = 0 then some b
  else none
termination_by (-exponent).toNat
decreasing_by
  simp only [greatestStep] at *
  omega

/-- The double that a decimal numeral is taken to step by step; none when it grows too large. -/
def stepwise? (negative : Bool) (whole : List Char) (fraction : Option (List Char))
    (exponent : Option Exponent) : Option Binary :=
  let digits := fraction.getD []
  let (wholePart, wholeLeft) := collect 0 whole
  let (significand, digitsLeft) := collect wholePart digits
  let shift : Int := wholeLeft - (digits.length - digitsLeft : Nat) + exponent.elim 0 Exponent.value
  ((Format.double.roundInt significand).bind fun start => scale start shift).map fun b =>
    if negative then b.neg else b

/-- The value of a numeral in a strict document. -/
def strict? (n : Numeral) : Option Number :=
  match n.magnitude with
  | .decimal whole none none =>
    let value := decimalValue whole
    if n.isNegative then
      if 0 < value ∧ value ≤ signedLimit then some (.int (-value))
      else (stepwise? true whole none none).map .double
    else if value < unsignedLimit then some (.int value)
    else (stepwise? false whole none none).map .double
  | .decimal whole fraction exponent =>
    (stepwise? n.isNegative whole fraction exponent).map .double
  | _ => none

/-! ## Relaxed documents -/

/-- The double nearest to a decimal numeral; none when that is too large. -/
def nearest? (negative : Bool) (whole : List Char) (fraction : Option (List Char))
    (exponent : Option Exponent) : Option Binary :=
  let digits := fraction.getD []
  Format.double.roundDecimal negative (decimalValue (whole ++ digits))
    (exponent.elim 0 Exponent.value - digits.length)

/-- The value of a numeral in a relaxed document. -/
def relaxed? (n : Numeral) : Option Quantity :=
  match n.magnitude with
  | .decimal whole none none =>
    let value : Int := if n.isNegative then -(decimalValue whole : Int) else decimalValue whole
    if -signedLimit ≤ value ∧ value < signedLimit then some (.number (.int value)) else none
  | .decimal whole fraction exponent =>
    (nearest? n.isNegative whole fraction exponent).map (.number ∘ .double)
  | .hex _ digits =>
    if n.sign = none ∧ hexValue digits < countLimit then some (.number (.int (hexValue digits)))
    else none
  | .infinity => if n.sign = some .plus then none else some (.infinite n.isNegative)
  | .nan => if n.sign = some .plus then none else some .nan

/-- The whole part of a double, without its sign. -/
def truncate (b : Binary) : Nat :=
  b.num / b.den

/-- A numeral of a relaxed document as a count of 32 bits: fractions are cut off, and what lies
outside the range is taken to its nearer end. -/
def saturated? (n : Numeral) : Option Nat :=
  let most := countLimit - 1
  match n.magnitude with
  | .decimal whole fraction exponent =>
    (nearest? n.isNegative whole fraction exponent).map fun b =>
      if b.negative then 0 else min most (truncate b)
  | .hex _ digits =>
    if n.sign = none ∧ hexValue digits ≤ most then some (hexValue digits) else none
  | .infinity =>
    match n.sign with
    | none => some most
    | some .minus => some 0
    | some .plus => none
  | .nan => if n.sign = some .plus then none else some 0

end Numeral

/-- A quantity in a value: infinity and no number have no form of their own there. -/
def Quantity.json : Quantity → Json
  | .number n => .number n
  | _ => .null

end ReportGrid
