/-!
# Binary floating-point values

A finite floating-point value is kept exactly, as a sign, a mantissa and a power of two.  A
`Format` says how many bits a mantissa may have and how far the exponent may go.

`Format.round` is the one way into a format: it takes an exact fraction to the nearest value of the
format, a half to the even mantissa, and has no result when the fraction is too large.  Everything
else (integers, decimal fractions, products, quotients, a change of format) is that function on an
exactly computed fraction.
-/

namespace ReportGrid

/-- A binary floating-point format: the bits of a mantissa, and the least and the greatest power of
two that a mantissa may be multiplied with. -/
structure Format where
  precision : Nat
  minExponent : Int
  maxExponent : Int
deriving DecidableEq, Repr

/-- A finite value, `± mantissa · 2 ^ exponent`. -/
structure Binary where
  negative : Bool
  mantissa : Nat
  exponent : Int
deriving DecidableEq, Repr

/-- A power of two. -/
def twoPow (n : Nat) : Nat :=
  Nat.pow 2 n

/-- A power of ten. -/
def tenPow (n : Nat) : Nat :=
  Nat.pow 10 n

namespace Format

/-- The format with 53 bits, in which numbers of documents are kept. -/
def double : Format := ⟨53, -1074, 971⟩

/-- The format with 24 bits, in which chart heights are kept. -/
def single : Format := ⟨24, -149, 104⟩

/-- A quotient rounded to the nearest integer, a half to the even one. -/
def roundQuotient (num den : Nat) : Nat :=
  let floor := num / den
  let rest := num % den
  if 2 * rest < den then floor
  else if den < 2 * rest then floor + 1
  else if floor % 2 = 0 then floor
  else floor + 1

/-- The exponent of the greatest power of two that is not above a positive fraction. -/
def leadingExponent (num den : Nat) : Int :=
  let e : Int := (Nat.log2 num : Int) - Nat.log2 den
  if den * twoPow e.toNat ≤ num * twoPow (-e).toNat then e else e - 1

/-- The exponent of the mantissa unit that the format uses near a positive fraction. -/
def unitExponent (f : Format) (num den : Nat) : Int :=
  max f.minExponent (leadingExponent num den - (f.precision - 1))

/-- The value of the format nearest to a fraction, a half to the even mantissa; none when that is
above the greatest value of the format. -/
def round (f : Format) (negative : Bool) (num den : Nat) : Option Binary :=
  if num = 0 then
    some ⟨negative, 0, f.minExponent⟩
  else
    let e := f.unitExponent num den
    let m := roundQuotient (num * twoPow (-e).toNat) (den * twoPow e.toNat)
    let b : Binary :=
      if m = twoPow f.precision then ⟨negative, twoPow (f.precision - 1), e + 1⟩
      else ⟨negative, m, e⟩
    if b.exponent ≤ f.maxExponent then some b else none

/-- The value nearest to an integer. -/
def roundInt (f : Format) (n : Int) : Option Binary :=
  f.round (n < 0) n.natAbs 1

/-- Powers of ten beyond this are far outside every format, on both sides of one. -/
def decimalReach : Int := 400

/-- The value nearest to `± digits · 10 ^ exponent`. -/
def roundDecimal (f : Format) (negative : Bool) (digits : Nat) (exponent : Int) : Option Binary :=
  let leading : Int := (Nat.toDigits 10 digits).length + exponent
  if digits = 0 ∨ leading < -decimalReach then f.round negative 0 1
  else if decimalReach < leading then none
  else f.round negative (digits * tenPow exponent.toNat) (tenPow (-exponent).toNat)

end Format

namespace Binary

/-- The numerator of the magnitude of a value as a fraction. -/
def num (b : Binary) : Nat :=
  b.mantissa * twoPow b.exponent.toNat

/-- The denominator of the magnitude of a value as a fraction. -/
def den (b : Binary) : Nat :=
  twoPow (-b.exponent).toNat

/-- The value with the other sign. -/
def neg (b : Binary) : Binary :=
  { b with negative := !b.negative }

/-- The value of another format nearest to this one. -/
def convert (f : Format) (b : Binary) : Option Binary :=
  f.round b.negative b.num b.den

/-- The value of the format nearest to a product. -/
def mul (f : Format) (a b : Binary) : Option Binary :=
  f.round (a.negative != b.negative) (a.num * b.num) (a.den * b.den)

/-- The value of the format nearest to a quotient by a value other than zero. -/
def div (f : Format) (a b : Binary) : Option Binary :=
  f.round (a.negative != b.negative) (a.num * b.den) (a.den * b.num)

end Binary

end ReportGrid
