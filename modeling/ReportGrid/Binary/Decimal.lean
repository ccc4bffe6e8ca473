import ReportGrid.Binary.Basic
import ReportGrid.Numeral.Basic

/-!
# Shortest decimals of floating-point values

A floating-point value is written with the fewest digits that round to it again, and of the
decimals with so many digits the one nearest to the value.

`Binary.shortest` finds them with exact arithmetic.  The fractions that round to a value form an
interval, whose ends belong to it when the mantissa is even.  For one digit, two digits and so on
the two neighbours of the value on the decimal grid are tried; the first grid that has one of them
in the interval settles the digits.

A `DecimalStyle` says between which leading exponents the point is written in place; beyond them
the numeral has one digit before the point and an exponent with its sign.
-/

namespace ReportGrid

/-- The number `digits · 10 ^ exponent`. -/
structure Decimal where
  digits : Nat
  exponent : Int
deriving DecidableEq, Repr

/-- The least and the greatest exponent of a first digit for which a number is written without an
exponent. -/
structure DecimalStyle where
  least : Int
  greatest : Int
deriving DecidableEq, Repr

namespace Binary

/-- A quarter of the mantissa unit, as numerator and denominator: fine enough to name the ends of
the interval that rounds to a value. -/
def quarterUnit (b : Binary) : Nat × Nat :=
  (twoPow (b.exponent - 2).toNat, twoPow (2 - b.exponent).toNat)

/-- The ends of the interval that rounds to a value, in quarter units.  Below a power of two the
neighbours are twice as close. -/
def ends (f : Format) (b : Binary) : Nat × Nat :=
  let atPower := b.mantissa = twoPow (f.precision - 1) ∧ f.minExponent < b.exponent
  (4 * b.mantissa - (if atPower then 1 else 2), 4 * b.mantissa + 2)

/-- Whether `digits · 10 ^ exponent` rounds to the magnitude of a value. -/
def roundsTo (f : Format) (b : Binary) (digits : Nat) (exponent : Int) : Bool :=
  let (unitNum, unitDen) := b.quarterUnit
  let (low, high) := b.ends f
  let here := digits * tenPow exponent.toNat * unitDen
  let scale := unitNum * tenPow (-exponent).toNat
  if b.mantissa % 2 = 0 then decide (low * scale ≤ here ∧ here ≤ high * scale)
  else decide (low * scale < here ∧ here < high * scale)

/-- The exponent of the first decimal digit of the magnitude of a value other than zero. -/
def leadingDigit (b : Binary) : Int :=
  let places (n : Nat) : Int := (Nat.toDigits 10 n).length
  let e := places b.num - places b.den
  if b.den * tenPow e.toNat ≤ b.num * tenPow (-e).toNat then e else e - 1

/-- The decimal with the given number of digits that rounds to the magnitude of a value and is
nearest to it, if there is one. -/
def withDigits? (f : Format) (b : Binary) (count : Nat) : Option Decimal :=
  let exponent := b.leadingDigit + 1 - count
  let num := b.num * tenPow (-exponent).toNat
  let den := b.den * tenPow exponent.toNat
  let below := num / den
  let hitBelow := b.roundsTo f below exponent
  let hitAbove := b.roundsTo f (below + 1) exponent
  let pick : Option Nat :=
    if hitBelow && hitAbove then some (Format.roundQuotient num den)
    else if hitBelow then some below
    else if hitAbove then some (below + 1)
    else none
  pick.map fun digits =>
    if digits = tenPow count then ⟨1, exponent + count⟩ else ⟨digits, exponent⟩

/-- The most digits that a value of the two formats needs. -/
def mostDigits : Nat := 17

/-- The shortest decimal that rounds to the magnitude of a value other than zero, and the nearest
of these. -/
def shortest (f : Format) (b : Binary) : Decimal :=
  ((List.range mostDigits).findSome? fun i => b.withDigits? f (i + 1)).getD
    ⟨b.mantissa, b.exponent⟩

end Binary

namespace Decimal

/-- The exponent of the first digit. -/
def leading (d : Decimal) : Int :=
  (Nat.toDigits 10 d.digits).length - 1 + d.exponent

/-- The numeral with its point in place. -/
def positional (d : Decimal) : Magnitude :=
  let digits := Nat.toDigits 10 d.digits
  if 0 ≤ d.exponent then
    .decimal (digits ++ List.replicate d.exponent.toNat '0') (some ['0']) none
  else if 0 ≤ d.leading then
    let whole := (d.leading + 1).toNat
    .decimal (digits.take whole) (some (digits.drop whole)) none
  else
    .decimal ['0'] (some (List.replicate (-d.leading - 1).toNat '0' ++ digits)) none

/-- The numeral with one digit before the point, if it needs one, and an exponent. -/
def scientific (d : Decimal) : Magnitude :=
  let digits := Nat.toDigits 10 d.digits
  let sign : Sign := if d.leading < 0 then .minus else .plus
  .decimal (digits.take 1) (if digits.length = 1 then none else some (digits.drop 1))
    (some ⟨'e', some sign, Nat.toDigits 10 d.leading.natAbs⟩)

/-- The numeral of a decimal in a style. -/
def magnitude (style : DecimalStyle) (d : Decimal) : Magnitude :=
  if style.least ≤ d.leading ∧ d.leading ≤ style.greatest then d.positional else d.scientific

end Decimal

/-- The numeral of a floating-point value: its sign, also that of a zero, and its shortest
decimal. -/
def Binary.numeral (f : Format) (style : DecimalStyle) (b : Binary) : Numeral :=
  ⟨if b.negative then some .minus else none,
    if b.mantissa = 0 then .decimal ['0'] (some ['0']) none else (b.shortest f).magnitude style⟩

end ReportGrid
