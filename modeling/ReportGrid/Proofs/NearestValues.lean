import ReportGrid.Binary.Basic
import Mathlib.Algebra.Order.Field.Basic
import Mathlib.Algebra.Order.Field.Power
import Mathlib.Data.Rat.Cast.Order
import Mathlib.Tactic.FieldSimp
import Mathlib.Tactic.Linarith
import Mathlib.Tactic.Positivity
import Mathlib.Tactic.Ring

/-!
# Rounding gives the nearest value

A format has the values `± mantissa · 2 ^ exponent` whose mantissa fits and has its leading bit set
unless the exponent is the least one (`Format.IsValue`).  Rounding a fraction gives the value that
is nearest to it among all of them, and of two that are equally near the one with the even mantissa:

* `Format.roundQuotient_spec` — an integer nearest to a quotient;
* `Format.leadingExponent_spec` — the powers of two between which a fraction lies;
* `Format.exists_multiple` — no value of the format is nearer to a fraction than the multiples of
  the mantissa unit that is used near the fraction, so only these count;
* `Format.isNearest_round` — hence the nearest value of the format;
* `Format.round_eq_none_iff` — there is none exactly from half a unit above the greatest value on.
-/

namespace ReportGrid

/-- The sign of a value as a factor. -/
def signFactor (negative : Bool) : ℚ :=
  if negative then -1 else 1

/-- The value as a fraction. -/
def Binary.value (b : Binary) : ℚ :=
  signFactor b.negative * (b.mantissa * 2 ^ b.exponent)

theorem abs_signFactor (negative : Bool) : |signFactor negative| = 1 := by
  cases negative <;> simp [signFactor]

/-- The magnitude of a value has no sign. -/
theorem Binary.abs_value (b : Binary) : |b.value| = b.mantissa * 2 ^ b.exponent := by
  have hpos : (0 : ℚ) ≤ b.mantissa * 2 ^ b.exponent := by positivity
  rw [value, abs_mul, abs_signFactor, one_mul, abs_of_nonneg hpos]

/-- A value is its magnitude with its sign. -/
theorem Binary.signFactor_mul_abs (b : Binary) : signFactor b.negative * |b.value| = b.value := by
  rw [abs_value, value]

namespace Format

/-- Whether a format has two bits of mantissa and an exponent. -/
structure IsProper (f : Format) : Prop where
  two_le_precision : 2 ≤ f.precision
  exponents : f.minExponent ≤ f.maxExponent

/-- Whether a value is one of the format, written in its one way. -/
structure IsValue (f : Format) (b : Binary) : Prop where
  fits : b.mantissa < 2 ^ f.precision
  lowest : f.minExponent ≤ b.exponent
  greatest : b.exponent ≤ f.maxExponent
  leading : b.exponent = f.minExponent ∨ 2 ^ (f.precision - 1) ≤ b.mantissa

/-- Whether a value is the one of a format that is nearest to a fraction, the one with the even
mantissa if another one is as near. -/
structure IsNearest (f : Format) (x : ℚ) (b : Binary) : Prop where
  isValue : f.IsValue b
  nearest : ∀ c, f.IsValue c → |x - b.value| ≤ |x - c.value|
  even : ∀ c, f.IsValue c → |x - b.value| = |x - c.value| → c.value ≠ b.value → Even b.mantissa

/-- Where rounding ends: half a mantissa unit above the greatest value. -/
def limit (f : Format) : ℚ :=
  (2 ^ f.precision - 1 / 2) * 2 ^ f.maxExponent

theorem isProper_single : single.IsProper where
  two_le_precision := by decide
  exponents := by decide

/-! ## Quotients and powers of two -/

theorem twoPow_cast (n : Nat) : (twoPow n : ℚ) = 2 ^ n :=
  Nat.cast_pow 2 n

theorem tenPow_cast (n : Nat) : (tenPow n : ℚ) = 10 ^ n :=
  Nat.cast_pow 10 n

/-- A power with its exponent on the side of the fraction where it is not negative. -/
theorem pow_toNat_div (base : ℚ) (e : Int) : base ^ e.toNat / base ^ (-e).toNat = base ^ e := by
  by_cases he : 0 ≤ e
  · rw [Int.toNat_of_nonpos (show -e ≤ 0 by omega), pow_zero, div_one, ← zpow_natCast,
      Int.toNat_of_nonneg he]
  · rw [Int.toNat_of_nonpos (show e ≤ 0 by omega), pow_zero, one_div, ← zpow_natCast,
      Int.toNat_of_nonneg (show 0 ≤ -e by omega), zpow_neg, inv_inv]

theorem twoPow_div_twoPow (e : Int) :
    (twoPow e.toNat : ℚ) / twoPow (-e).toNat = 2 ^ e := by
  rw [twoPow_cast, twoPow_cast, pow_toNat_div]

theorem tenPow_div_tenPow (e : Int) :
    (tenPow e.toNat : ℚ) / tenPow (-e).toNat = 10 ^ e := by
  rw [tenPow_cast, tenPow_cast, pow_toNat_div]

/-- **Nearest integers.**  A rounded quotient is at most one half away, and even when it is one half
away. -/
theorem roundQuotient_spec (num : Nat) {den : Nat} (hden : 0 < den) :
    |(num : ℚ) / den - roundQuotient num den| ≤ 1 / 2 ∧
      (|(num : ℚ) / den - roundQuotient num den| = 1 / 2 → Even (roundQuotient num den)) := by
  have hdenq : (0 : ℚ) < den := by exact_mod_cast hden
  have hsplit : (num : ℚ) / den = (num / den : Nat) + ((num % den : Nat) : ℚ) / den := by
    have h : ((num / den : Nat) : ℚ) * den + (num % den : Nat) = num := by
      exact_mod_cast Nat.div_add_mod' num den
    field_simp
    linarith
  have hrest : ((num % den : Nat) : ℚ) / den < 1 := by
    rw [div_lt_one hdenq]
    exact_mod_cast Nat.mod_lt num hden
  have hpos : 0 ≤ ((num % den : Nat) : ℚ) / den := by positivity
  have hbelow : 2 * (num % den) < den ↔ ((num % den : Nat) : ℚ) / den < 1 / 2 := by
    rw [div_lt_div_iff₀ hdenq two_pos, one_mul, mul_comm]
    exact_mod_cast Iff.rfl
  have habove : den < 2 * (num % den) ↔ 1 / 2 < ((num % den : Nat) : ℚ) / den := by
    rw [div_lt_div_iff₀ two_pos hdenq, one_mul, mul_comm _ (2 : ℚ)]
    exact_mod_cast Iff.rfl
  simp only [roundQuotient, hbelow, habove]
  rw [hsplit]
  generalize ((num % den : Nat) : ℚ) / den = rest at *
  generalize num / den = floor
  by_cases hlow : rest < 1 / 2
  · rw [if_pos hlow, add_sub_cancel_left, abs_of_nonneg hpos]
    exact ⟨hlow.le, fun h => absurd h hlow.ne⟩
  · rw [if_neg hlow]
    have hup : |(floor : ℚ) + rest - (floor + 1 : Nat)| = 1 - rest := by
      rw [abs_of_nonpos (by push_cast; linarith)]
      push_cast
      ring
    by_cases hhigh : 1 / 2 < rest
    · rw [if_pos hhigh, hup]
      exact ⟨by linarith, fun h => by linarith⟩
    · have hhalf : rest = 1 / 2 := le_antisymm (not_lt.mp hhigh) (not_lt.mp hlow)
      rw [if_neg hhigh]
      by_cases heven : floor % 2 = 0
      · rw [if_pos heven, add_sub_cancel_left, abs_of_nonneg hpos]
        exact ⟨hhalf.le, fun _ => Nat.even_iff.mpr heven⟩
      · rw [if_neg heven, hup]
        exact ⟨by linarith, fun _ => Nat.even_iff.mpr (by omega)⟩

/-- No integer is nearer to a fraction than one that is at most one half away. -/
theorem nearest_of_half {y : ℚ} {m : Nat} (hhalf : |y - m| ≤ 1 / 2)
    (heven : |y - m| = 1 / 2 → Even m) (k : Int) :
    |y - m| ≤ |y - k| ∧ (|y - m| = |y - k| → k ≠ m → Even m) := by
  by_cases hk : k = m
  · subst hk
    exact ⟨by simp, fun _ hne => absurd rfl hne⟩
  · have hstep : (1 : ℚ) ≤ |(k : ℚ) - m| := by
      have hint : (1 : Int) ≤ |k - m| := Int.one_le_abs (sub_ne_zero.mpr hk)
      exact_mod_cast hint
    have htriangle : |(k : ℚ) - m| ≤ |y - k| + |y - m| := by
      rw [abs_sub_comm y k]
      exact abs_sub_le (k : ℚ) y m
    refine ⟨by linarith, fun heq _ => heven ?_⟩
    linarith

/-- **Leading powers of two.**  A positive fraction lies from the power of two with its leading
exponent on and below the next one. -/
theorem leadingExponent_spec {num den : Nat} (hnum : 0 < num) (hden : 0 < den) :
    (2 : ℚ) ^ leadingExponent num den ≤ (num : ℚ) / den ∧
      (num : ℚ) / den < 2 ^ (leadingExponent num den + 1) := by
  have hnumq : (0 : ℚ) < num := by exact_mod_cast hnum
  have hdenq : (0 : ℚ) < den := by exact_mod_cast hden
  have hnumlow : (2 : ℚ) ^ (Nat.log2 num : Int) ≤ num := by
    rw [zpow_natCast]
    exact_mod_cast Nat.log2_self_le hnum.ne'
  have hnumhigh : (num : ℚ) < 2 ^ ((Nat.log2 num : Int) + 1) := by
    rw [← Nat.cast_succ, zpow_natCast]
    exact_mod_cast Nat.lt_log2_self
  have hdenlow : (2 : ℚ) ^ (Nat.log2 den : Int) ≤ den := by
    rw [zpow_natCast]
    exact_mod_cast Nat.log2_self_le hden.ne'
  have hdenhigh : (den : ℚ) < 2 ^ ((Nat.log2 den : Int) + 1) := by
    rw [← Nat.cast_succ, zpow_natCast]
    exact_mod_cast Nat.lt_log2_self
  have hscale : ∀ e : Int, den * twoPow e.toNat ≤ num * twoPow (-e).toNat ↔
      (2 : ℚ) ^ e ≤ (num : ℚ) / den := by
    intro e
    have hpos : (0 : ℚ) < twoPow (-e).toNat := by rw [twoPow_cast]; positivity
    rw [← twoPow_div_twoPow, div_le_div_iff₀ hpos hdenq, mul_comm (twoPow e.toNat : ℚ)]
    exact_mod_cast Iff.rfl
  simp only [leadingExponent, hscale]
  generalize (Nat.log2 num : Int) = top at *
  generalize (Nat.log2 den : Int) = bottom at *
  by_cases h : (2 : ℚ) ^ (top - bottom) ≤ (num : ℚ) / den
  · rw [if_pos h]
    refine ⟨h, ?_⟩
    rw [div_lt_iff₀ hdenq]
    calc (num : ℚ) < 2 ^ (top + 1) := hnumhigh
      _ = 2 ^ (top - bottom + 1) * 2 ^ bottom := by
        rw [← zpow_add₀ two_ne_zero]
        congr 1
        omega
      _ ≤ 2 ^ (top - bottom + 1) * den := by gcongr
  · rw [if_neg h, sub_add_cancel]
    refine ⟨?_, not_le.mp h⟩
    rw [le_div_iff₀ hdenq]
    calc (2 : ℚ) ^ (top - bottom - 1) * den ≤ 2 ^ (top - bottom - 1) * 2 ^ (bottom + 1) := by gcongr
      _ = 2 ^ top := by
        rw [← zpow_add₀ two_ne_zero]
        congr 1
        omega
      _ ≤ num := hnumlow

/-! ## The unit near a fraction -/

section

variable {f : Format} {num den : Nat} {negative : Bool} {b c : Binary}

/-- The mantissa that a fraction is rounded to, in the unit that is used near it. -/
def mantissaNear (f : Format) (num den : Nat) : Nat :=
  let e := f.unitExponent num den
  roundQuotient (num * twoPow (-e).toNat) (den * twoPow e.toNat)

/-- A rounded fraction before its exponent is compared with the greatest one.  A mantissa with one
bit too many is a power of two, and written with the next exponent. -/
def carried (f : Format) (negative : Bool) (num den : Nat) : Binary :=
  let e := f.unitExponent num den
  let m := f.mantissaNear num den
  if m = twoPow f.precision then ⟨negative, twoPow (f.precision - 1), e + 1⟩ else ⟨negative, m, e⟩

theorem round_eq (hnum : 0 < num) :
    f.round negative num den =
      if (f.carried negative num den).exponent ≤ f.maxExponent then
        some (f.carried negative num den)
      else none := by
  rw [round, if_neg hnum.ne']
  rfl

theorem minExponent_le_unitExponent : f.minExponent ≤ f.unitExponent num den :=
  le_max_left _ _

/-- Above the least unit a fraction has all the bits of a mantissa in front of its unit. -/
theorem unitExponent_eq (h : f.minExponent ≠ f.unitExponent num den) :
    f.unitExponent num den = leadingExponent num den - (f.precision - 1) := by
  unfold unitExponent at *
  omega

/-- A fraction has at most the bits of a mantissa in front of its unit. -/
theorem div_lt_unit (hf : f.IsProper) (hnum : 0 < num) (hden : 0 < den) :
    (num : ℚ) / den < 2 ^ f.precision * 2 ^ f.unitExponent num den := by
  have hprecision := hf.two_le_precision
  refine (leadingExponent_spec hnum hden).2.trans_le ?_
  rw [← zpow_natCast, ← zpow_add₀ two_ne_zero]
  refine zpow_le_zpow_right₀ one_le_two ?_
  unfold unitExponent
  omega

/-- Above the least unit a fraction has no fewer bits than a mantissa in front of its unit. -/
theorem unit_le_div (hf : f.IsProper) (hnum : 0 < num) (hden : 0 < den)
    (h : f.minExponent ≠ f.unitExponent num den) :
    2 ^ (f.precision - 1) * 2 ^ f.unitExponent num den ≤ (num : ℚ) / den := by
  have hprecision := hf.two_le_precision
  refine le_trans (le_of_eq ?_) (leadingExponent_spec hnum hden).1
  rw [← zpow_natCast, ← zpow_add₀ two_ne_zero, unitExponent_eq h]
  congr 1
  omega

/-- The mantissa near a fraction is a nearest integer, counted in units. -/
theorem mantissaNear_spec (num : Nat) (hden : 0 < den) :
    |(num : ℚ) / den / 2 ^ f.unitExponent num den - f.mantissaNear num den| ≤ 1 / 2 ∧
      (|(num : ℚ) / den / 2 ^ f.unitExponent num den - f.mantissaNear num den| = 1 / 2 →
        Even (f.mantissaNear num den)) := by
  have hpos : 0 < den * twoPow (f.unitExponent num den).toNat :=
    Nat.mul_pos hden (Nat.pow_pos two_pos)
  have hscaled : (num : ℚ) / den / 2 ^ f.unitExponent num den =
      (num * twoPow (-f.unitExponent num den).toNat : Nat) /
        (den * twoPow (f.unitExponent num den).toNat : Nat) := by
    rw [← twoPow_div_twoPow, Nat.cast_mul, Nat.cast_mul, div_div_eq_mul_div, div_mul_eq_mul_div,
      div_div]
  rw [hscaled]
  exact roundQuotient_spec _ hpos

theorem mantissaNear_le (hf : f.IsProper) (hnum : 0 < num) (hden : 0 < den) :
    f.mantissaNear num den ≤ 2 ^ f.precision := by
  have hunit : (0 : ℚ) < 2 ^ f.unitExponent num den := zpow_pos two_pos _
  have hlt := (div_lt_iff₀ hunit).mpr (div_lt_unit hf hnum hden)
  have hnear := (abs_le.mp (mantissaNear_spec (f := f) num hden).1).1
  have hcast : (f.mantissaNear num den : ℚ) < (2 ^ f.precision : Nat) + 1 := by
    push_cast
    linarith
  exact Nat.lt_succ_iff.mp (by exact_mod_cast hcast)

theorem le_mantissaNear (hf : f.IsProper) (hnum : 0 < num) (hden : 0 < den)
    (h : f.minExponent ≠ f.unitExponent num den) :
    2 ^ (f.precision - 1) ≤ f.mantissaNear num den := by
  have hunit : (0 : ℚ) < 2 ^ f.unitExponent num den := zpow_pos two_pos _
  have hle := (le_div_iff₀ hunit).mpr (unit_le_div hf hnum hden h)
  have hnear := (abs_le.mp (mantissaNear_spec (f := f) num hden).1).2
  have hcast : ((2 ^ (f.precision - 1) : Nat) : ℚ) < f.mantissaNear num den + 1 := by
    push_cast
    linarith
  exact Nat.lt_succ_iff.mp (by exact_mod_cast hcast)

theorem carried_of_full (h : f.mantissaNear num den = twoPow f.precision) :
    f.carried negative num den =
      ⟨negative, twoPow (f.precision - 1), f.unitExponent num den + 1⟩ :=
  if_pos h

theorem carried_of_not_full (h : f.mantissaNear num den ≠ twoPow f.precision) :
    f.carried negative num den = ⟨negative, f.mantissaNear num den, f.unitExponent num den⟩ :=
  if_neg h

theorem negative_carried : (f.carried negative num den).negative = negative := by
  by_cases h : f.mantissaNear num den = twoPow f.precision
  · rw [carried_of_full h]
  · rw [carried_of_not_full h]

/-- Writing a full mantissa with the next exponent changes no value. -/
theorem value_carried (hf : f.IsProper) :
    (f.carried negative num den).value =
      signFactor negative * (f.mantissaNear num den * 2 ^ f.unitExponent num den) := by
  by_cases h : f.mantissaNear num den = twoPow f.precision
  · have hprecision : f.precision = f.precision - 1 + 1 := by
      have := hf.two_le_precision
      omega
    rw [carried_of_full h, h, hprecision]
    simp only [Binary.value, twoPow_cast, Nat.add_sub_cancel]
    rw [zpow_add_one₀ two_ne_zero, pow_succ]
    ring
  · rw [carried_of_not_full h]
    rfl

/-- A rounded fraction is a value of the format if its exponent is not too great. -/
theorem isValue_carried (hf : f.IsProper) (hnum : 0 < num) (hden : 0 < den)
    (h : (f.carried negative num den).exponent ≤ f.maxExponent) :
    f.IsValue (f.carried negative num den) := by
  have hleast : f.minExponent ≤ f.unitExponent num den := minExponent_le_unitExponent
  by_cases hfull : f.mantissaNear num den = twoPow f.precision
  · rw [carried_of_full hfull] at h ⊢
    have hlt : f.precision - 1 < f.precision := by
      have := hf.two_le_precision
      omega
    exact ⟨Nat.pow_lt_pow_right one_lt_two hlt, by simp only; omega, h, Or.inr le_rfl⟩
  · rw [carried_of_not_full hfull] at h ⊢
    refine ⟨lt_of_le_of_ne (mantissaNear_le hf hnum hden) hfull, hleast, h, ?_⟩
    by_cases hunit : f.minExponent = f.unitExponent num den
    · exact Or.inl hunit.symm
    · exact Or.inr (le_mantissaNear hf hnum hden hunit)

/-- An even mantissa stays even when it is written with the next exponent. -/
theorem even_carried (hf : f.IsProper) (h : Even (f.mantissaNear num den)) :
    Even (f.carried negative num den).mantissa := by
  by_cases hfull : f.mantissaNear num den = twoPow f.precision
  · rw [carried_of_full hfull]
    have hne : f.precision - 1 ≠ 0 := by
      have := hf.two_le_precision
      omega
    exact (even_two : Even 2).pow_of_ne_zero hne
  · rw [carried_of_not_full hfull]
    exact h

/-- A value of the format is below all mantissas with one bit more. -/
theorem IsValue.abs_value_lt (h : f.IsValue b) : |b.value| < 2 ^ f.precision * 2 ^ b.exponent := by
  have hunit : (0 : ℚ) < 2 ^ b.exponent := zpow_pos two_pos _
  have hfits : (b.mantissa : ℚ) < 2 ^ f.precision := by exact_mod_cast h.fits
  rw [Binary.abs_value]
  exact mul_lt_mul_of_pos_right hfits hunit

/-- **Only multiples of the unit count.**  Whatever value of the format is compared with a fraction,
some multiple of the unit is as near, and nearer unless it is that value. -/
theorem exists_multiple (hf : f.IsProper) (hnum : 0 < num) (hden : 0 < den) (h : f.IsValue b) :
    ∃ k : Int, |(num : ℚ) / den - k * 2 ^ f.unitExponent num den| ≤ |(num : ℚ) / den - b.value| ∧
      (|(num : ℚ) / den - k * 2 ^ f.unitExponent num den| = |(num : ℚ) / den - b.value| →
        b.value = k * 2 ^ f.unitExponent num den) := by
  by_cases hle : f.unitExponent num den ≤ b.exponent
  · -- the value is a multiple itself
    obtain ⟨d, hd⟩ := Int.le.dest hle
    refine ⟨(if b.negative then -1 else 1) * (b.mantissa * 2 ^ d), ?_⟩
    have hvalue : b.value = ((if b.negative then -1 else 1) * (b.mantissa * 2 ^ d) : Int) *
        2 ^ f.unitExponent num den := by
      rw [Binary.value, signFactor, ← hd, zpow_add₀ two_ne_zero, zpow_natCast]
      split <;> push_cast <;> ring
    rw [← hvalue]
    exact ⟨le_rfl, fun _ => rfl⟩
  · -- the value lies below the power of two that leads the fraction
    have hmin : f.minExponent ≠ f.unitExponent num den := by
      have := h.lowest
      omega
    have hunit := unit_le_div hf hnum hden hmin
    have hbelow : b.value < 2 ^ (f.precision - 1) * 2 ^ f.unitExponent num den := by
      refine (le_abs_self _).trans_lt (h.abs_value_lt.trans_le ?_)
      have hprecision := hf.two_le_precision
      rw [← zpow_natCast, ← zpow_natCast, ← zpow_add₀ two_ne_zero, ← zpow_add₀ two_ne_zero]
      refine zpow_le_zpow_right₀ one_le_two ?_
      omega
    refine ⟨2 ^ (f.precision - 1), ?_⟩
    push_cast
    rw [abs_of_nonneg (sub_nonneg.mpr hunit), abs_of_nonneg (by linarith)]
    exact ⟨by linarith, fun heq => by linarith⟩

/-! ## The nearest value -/

theorem signFactor_mul_self (negative : Bool) : signFactor negative * signFactor negative = 1 := by
  cases negative <;> simp [signFactor]

/-- A sign before both does not change how far two fractions are apart. -/
theorem abs_signFactor_mul_sub (negative : Bool) (x y : ℚ) :
    |signFactor negative * x - y| = |x - signFactor negative * y| := by
  cases negative with
  | false => simp [signFactor]
  | true =>
      simp only [signFactor, if_true]
      rw [← abs_neg]
      ring_nf

/-- A value of the format with another sign is one, too. -/
theorem IsValue.exists_signed (h : f.IsValue b) (negative : Bool) :
    ∃ c, f.IsValue c ∧ c.value = signFactor negative * b.value := by
  cases negative with
  | false => exact ⟨b, h, by simp [signFactor]⟩
  | true =>
      refine ⟨b.neg, ⟨h.fits, h.lowest, h.greatest, h.leading⟩, ?_⟩
      simp only [Binary.value, Binary.neg]
      cases b.negative <;> simp [signFactor]

/-- The mantissa near a fraction, in its unit, is the nearest multiple of the unit. -/
theorem nearest_multiple (num : Nat) (hden : 0 < den) (k : Int) :
    |(num : ℚ) / den - f.mantissaNear num den * 2 ^ f.unitExponent num den| ≤
        |(num : ℚ) / den - k * 2 ^ f.unitExponent num den| ∧
      (|(num : ℚ) / den - f.mantissaNear num den * 2 ^ f.unitExponent num den| =
          |(num : ℚ) / den - k * 2 ^ f.unitExponent num den| →
        k ≠ f.mantissaNear num den → Even (f.mantissaNear num den)) := by
  have hunit : (0 : ℚ) < 2 ^ f.unitExponent num den := zpow_pos two_pos _
  obtain ⟨hhalf, heven⟩ := mantissaNear_spec (f := f) num hden
  obtain ⟨hnearest, htie⟩ := nearest_of_half hhalf heven k
  have hscale : ∀ z : ℚ, |(num : ℚ) / den - z * 2 ^ f.unitExponent num den| =
      |(num : ℚ) / den / 2 ^ f.unitExponent num den - z| * 2 ^ f.unitExponent num den := by
    intro z
    rw [← abs_of_pos hunit, ← abs_mul, abs_of_pos hunit, sub_mul, div_mul_cancel₀ _ hunit.ne']
  rw [hscale, hscale]
  exact ⟨mul_le_mul_of_nonneg_right hnearest hunit.le,
    fun heq hne => htie (mul_right_cancel₀ hunit.ne' heq) hne⟩

theorem value_zero : (⟨negative, 0, f.minExponent⟩ : Binary).value = 0 := by
  simp [Binary.value]

/-- A value of the format other than zero is at least the least unit. -/
theorem IsValue.le_abs_value (h : f.IsValue b) (hne : b.value ≠ 0) :
    2 ^ f.minExponent ≤ |b.value| := by
  have hmantissa : b.mantissa ≠ 0 := by
    intro hzero
    exact hne (by simp [Binary.value, hzero])
  have hone : (1 : ℚ) ≤ b.mantissa := by exact_mod_cast Nat.one_le_iff_ne_zero.mpr hmantissa
  rw [Binary.abs_value]
  calc (2 : ℚ) ^ f.minExponent ≤ 2 ^ b.exponent := zpow_le_zpow_right₀ one_le_two h.lowest
    _ ≤ b.mantissa * 2 ^ b.exponent := le_mul_of_one_le_left (by positivity) hone

/-- Zero is the value nearest to a fraction below half of the least unit. -/
theorem isNearest_zero (hf : f.IsProper) {x : ℚ} (hx : |x| < 2 ^ f.minExponent / 2) :
    f.IsNearest x ⟨negative, 0, f.minExponent⟩ where
  isValue := ⟨Nat.pow_pos two_pos, le_rfl, hf.exponents, Or.inl rfl⟩
  nearest := by
    intro c hc
    rw [value_zero, sub_zero]
    by_cases hzero : c.value = 0
    · rw [hzero, sub_zero]
    · have hfar := abs_sub_abs_le_abs_sub c.value x
      rw [abs_sub_comm] at hfar
      linarith [hc.le_abs_value hzero]
  even := fun _ _ _ _ => Even.zero

/-- **Nearest values.**  A fraction that is rounded becomes the nearest value of the format, of two
such values the one with the even mantissa, and keeps its sign. -/
theorem isNearest_round (hf : f.IsProper) (hden : 0 < den)
    (h : f.round negative num den = some b) :
    f.IsNearest (signFactor negative * (num / den)) b ∧ b.negative = negative := by
  rcases Nat.eq_zero_or_pos num with rfl | hnum
  · rw [round, if_pos rfl] at h
    obtain rfl := Option.some.inj h
    rw [Nat.cast_zero, zero_div, mul_zero]
    exact ⟨isNearest_zero hf (by rw [abs_zero]; positivity), rfl⟩
  · rw [round_eq hnum] at h
    split at h
    case isFalse => exact absurd h (by simp)
    case isTrue hexponent =>
      obtain rfl := Option.some.inj h
      have hhere : |signFactor negative * (num / den) - (f.carried negative num den).value| =
          |(num : ℚ) / den - f.mantissaNear num den * 2 ^ f.unitExponent num den| := by
        rw [value_carried hf, abs_signFactor_mul_sub, ← mul_assoc, signFactor_mul_self, one_mul]
      refine ⟨⟨isValue_carried hf hnum hden hexponent, ?_, ?_⟩, negative_carried⟩
      · intro c hc
        obtain ⟨d, hd, hvalue⟩ := hc.exists_signed negative
        obtain ⟨k, hk, -⟩ := exists_multiple hf hnum hden hd
        rw [hhere, abs_signFactor_mul_sub, ← hvalue]
        exact (nearest_multiple num hden k).1.trans hk
      · intro c hc htie hne
        obtain ⟨d, hd, hvalue⟩ := hc.exists_signed negative
        obtain ⟨k, hk, hmultiple⟩ := exists_multiple hf hnum hden hd
        rw [hhere, abs_signFactor_mul_sub, ← hvalue] at htie
        obtain ⟨hnearest, heven⟩ := nearest_multiple (f := f) num hden k
        -- as near as the value is also the multiple beside it, so it is that multiple
        have hsame := hmultiple (le_antisymm hk (htie ▸ hnearest))
        refine even_carried hf (heven (htie.trans (by rw [hsame])) ?_)
        intro hk
        apply hne
        rw [value_carried hf]
        calc c.value = signFactor negative * d.value := by
              rw [hvalue, ← mul_assoc, signFactor_mul_self, one_mul]
          _ = _ := by rw [hsame, hk, Int.cast_natCast]

/-! ## One nearest value -/

/-- A value of the format that is not greater has no greater exponent. -/
theorem IsValue.exponent_le (hb : f.IsValue b) (hc : f.IsValue c) (hle : |b.value| ≤ |c.value|) :
    b.exponent ≤ c.exponent := by
  by_contra hgreater
  rcases hb.leading with hmin | hleading
  · have hlowest := hc.lowest
    omega
  · -- the leading bit alone stands for more than the other value can
    have hbelow : |c.value| < |b.value| := by
      rw [Binary.abs_value b]
      calc |c.value| < 2 ^ f.precision * 2 ^ c.exponent := hc.abs_value_lt
        _ ≤ 2 ^ (f.precision - 1) * 2 ^ b.exponent := by
            rw [← zpow_natCast, ← zpow_natCast, ← zpow_add₀ two_ne_zero, ← zpow_add₀ two_ne_zero]
            refine zpow_le_zpow_right₀ one_le_two ?_
            omega
        _ ≤ b.mantissa * 2 ^ b.exponent := by
            gcongr
            exact_mod_cast hleading
    exact absurd hle (not_le.mpr hbelow)

/-- **One way of writing.**  Values of the format with one sign that are equal are written alike. -/
theorem IsValue.eq_of_value_eq (hb : f.IsValue b) (hc : f.IsValue c)
    (hsign : b.negative = c.negative) (hvalue : b.value = c.value) : b = c := by
  have hexponent : b.exponent = c.exponent :=
    le_antisymm (hb.exponent_le hc (by rw [hvalue])) (hc.exponent_le hb (by rw [hvalue]))
  have hmantissa : b.mantissa = c.mantissa := by
    have habs := congrArg abs hvalue
    rw [Binary.abs_value, Binary.abs_value, hexponent] at habs
    exact_mod_cast mul_right_cancel₀ (zpow_ne_zero c.exponent two_ne_zero) habs
  cases b
  cases c
  simp_all

/-- A greater value of the format is greater by the unit of the smaller one. -/
theorem IsValue.add_unit_le (hb : f.IsValue b) (hc : f.IsValue c) (hlt : |b.value| < |c.value|) :
    |b.value| + 2 ^ b.exponent ≤ |c.value| := by
  obtain ⟨d, hd⟩ := Int.le.dest (hb.exponent_le hc hlt.le)
  have hunit : (0 : ℚ) < 2 ^ b.exponent := zpow_pos two_pos _
  have hmultiple : |c.value| = (c.mantissa * 2 ^ d : Nat) * 2 ^ b.exponent := by
    rw [Binary.abs_value, ← hd, zpow_add₀ two_ne_zero, zpow_natCast]
    push_cast
    ring
  rw [hmultiple, Binary.abs_value] at hlt ⊢
  have hsucc : b.mantissa + 1 ≤ c.mantissa * 2 ^ d := by
    exact_mod_cast lt_of_mul_lt_mul_right hlt hunit.le
  have hcast : (b.mantissa : ℚ) + 1 ≤ (c.mantissa * 2 ^ d : Nat) := by exact_mod_cast hsucc
  calc (b.mantissa : ℚ) * 2 ^ b.exponent + 2 ^ b.exponent
      = (b.mantissa + 1) * 2 ^ b.exponent := by ring
    _ ≤ _ := mul_le_mul_of_nonneg_right hcast hunit.le

/-- After an even mantissa the format has the next one. -/
theorem IsValue.next (hf : f.IsProper) (h : f.IsValue b) (heven : Even b.mantissa) :
    f.IsValue { b with mantissa := b.mantissa + 1 } where
  fits := by
    have hfull : Even (2 ^ f.precision) :=
      (even_two : Even 2).pow_of_ne_zero (by have := hf.two_le_precision; omega)
    refine lt_of_le_of_ne h.fits fun hend => ?_
    rw [← hend] at hfull
    exact (Nat.even_add_one.mp hfull) heven
  lowest := h.lowest
  greatest := h.greatest
  leading := h.leading.imp_right fun hleading => Nat.le_succ_of_le hleading

/-- Two nearest values with one sign are not apart: between them would be the one with the next
mantissa, which is nearer. -/
theorem IsNearest.not_abs_lt (hf : f.IsProper) {x : ℚ} (hb : f.IsNearest x b)
    (hc : f.IsNearest x c) (hsign : b.negative = c.negative) : ¬ |b.value| < |c.value| := by
  intro hlt
  have htie : |x - b.value| = |x - c.value| :=
    le_antisymm (hb.nearest c hc.isValue) (hc.nearest b hb.isValue)
  have hne : c.value ≠ b.value := fun h => hlt.ne (by rw [h])
  have hbeven := hb.even c hc.isValue htie hne
  have hceven := hc.even b hb.isValue htie.symm hne.symm
  let next : Binary := { b with mantissa := b.mantissa + 1 }
  have hnext : f.IsValue next := hb.isValue.next hf hbeven
  have hunit : (0 : ℚ) < 2 ^ b.exponent := zpow_pos two_pos _
  have hstep : |next.value| = |b.value| + 2 ^ b.exponent := by
    rw [Binary.abs_value, Binary.abs_value, Nat.cast_succ, add_one_mul]
  have hbetween : |next.value| < |c.value| := by
    refine lt_of_le_of_ne (hstep ▸ hb.isValue.add_unit_le hc.isValue hlt) fun hsame => ?_
    -- equal to the other value it would be that value, and its mantissa is odd
    have hvalue : next.value = c.value := by
      rw [← next.signFactor_mul_abs, ← c.signFactor_mul_abs, hsame, ← hsign]
    obtain rfl := hnext.eq_of_value_eq hc.isValue hsign hvalue
    exact (Nat.even_add_one.mp hceven) hbeven
  have hnearest := hb.nearest next hnext
  rw [← b.signFactor_mul_abs, ← c.signFactor_mul_abs, ← hsign] at htie
  rw [← b.signFactor_mul_abs, ← next.signFactor_mul_abs] at hnearest
  change |x - _| ≤ |x - signFactor b.negative * _| at hnearest
  rw [← abs_signFactor_mul_sub, ← abs_signFactor_mul_sub] at htie hnearest
  generalize signFactor b.negative * x = y at htie hnearest
  generalize |b.value| = low at *
  generalize |c.value| = high at *
  generalize |next.value| = between at *
  rcases abs_eq_abs.mp htie with heq | heq
  · linarith
  · have hnearer : |y - between| < y - low := abs_lt.mpr ⟨by linarith, by linarith⟩
    linarith [le_abs_self (y - low)]

/-- **One nearest value.**  Of the values with one sign only one is nearest to a fraction. -/
theorem IsNearest.eq (hf : f.IsProper) {x : ℚ} (hb : f.IsNearest x b) (hc : f.IsNearest x c)
    (hsign : b.negative = c.negative) : b = c := by
  have habs : |b.value| = |c.value| :=
    le_antisymm (not_lt.mp (hc.not_abs_lt hf hb hsign.symm)) (not_lt.mp (hb.not_abs_lt hf hc hsign))
  refine hb.isValue.eq_of_value_eq hc.isValue hsign ?_
  rw [← b.signFactor_mul_abs, ← c.signFactor_mul_abs, habs, hsign]

/-! ## Where rounding ends -/

/-- A fraction fills a mantissa with one bit too many exactly from half a unit below on. -/
theorem mantissaNear_eq_iff (hf : f.IsProper) (hnum : 0 < num) (hden : 0 < den) :
    f.mantissaNear num den = 2 ^ f.precision ↔
      ((2 : ℚ) ^ f.precision - 1 / 2) * 2 ^ f.unitExponent num den ≤ (num : ℚ) / den := by
  have hunit : (0 : ℚ) < 2 ^ f.unitExponent num den := zpow_pos two_pos _
  obtain ⟨hnear, heven⟩ := mantissaNear_spec (f := f) num hden
  have hle := mantissaNear_le hf hnum hden
  rw [← le_div_iff₀ hunit]
  obtain ⟨hlow, hhigh⟩ := abs_le.mp hnear
  constructor
  · intro h
    rw [h] at hlow
    push_cast at hlow
    linarith
  · intro h
    by_contra hne
    have hsucc : f.mantissaNear num den + 1 ≤ 2 ^ f.precision := lt_of_le_of_ne hle hne
    have hcast : (f.mantissaNear num den : ℚ) + 1 ≤ 2 ^ f.precision := by exact_mod_cast hsucc
    -- exactly half a unit below, where the mantissa would have to be even
    have hhalf := heven (le_antisymm hnear (le_abs.mpr (Or.inl (by linarith))))
    have hlast : (f.mantissaNear num den : ℚ) + 1 = (2 ^ f.precision : Nat) := by
      push_cast
      linarith
    have hlast' : f.mantissaNear num den + 1 = 2 ^ f.precision := by exact_mod_cast hlast
    have hpower : Even (2 ^ f.precision) :=
      (even_two : Even 2).pow_of_ne_zero (by have := hf.two_le_precision; omega)
    rw [← hlast', Nat.even_add_one] at hpower
    exact hpower hhalf

theorem two_le_twoPow (hf : f.IsProper) : (2 : ℚ) ≤ 2 ^ f.precision := by
  have hprecision := hf.two_le_precision
  calc (2 : ℚ) = 2 ^ 1 := (pow_one 2).symm
    _ ≤ 2 ^ f.precision := pow_le_pow_right₀ one_le_two (by omega)

theorem limit_pos (hf : f.IsProper) : 0 < f.limit :=
  mul_pos (by linarith [two_le_twoPow hf]) (zpow_pos two_pos _)

/-- A fraction is below the limit while even the next unit is one of the format. -/
theorem div_lt_limit (hf : f.IsProper) (hnum : 0 < num) (hden : 0 < den)
    (h : f.unitExponent num den < f.maxExponent) : (num : ℚ) / den < f.limit := by
  have hpower := two_le_twoPow hf
  refine (div_lt_unit hf hnum hden).trans_le ?_
  calc (2 : ℚ) ^ f.precision * 2 ^ f.unitExponent num den
      ≤ 2 ^ f.precision * 2 ^ (f.maxExponent - 1) := by
        gcongr
        · exact one_le_two
        · omega
    _ = 2 ^ f.precision / 2 * 2 ^ f.maxExponent := by
        rw [zpow_sub_one₀ two_ne_zero]
        ring
    _ ≤ f.limit := by
        unfold limit
        gcongr
        linarith

/-- A fraction is above the limit when its unit is too great for the format. -/
theorem limit_le_div (hf : f.IsProper) (hnum : 0 < num) (hden : 0 < den)
    (h : f.maxExponent < f.unitExponent num den) : f.limit ≤ (num : ℚ) / den := by
  have hmin : f.minExponent ≠ f.unitExponent num den := by
    have := hf.exponents
    omega
  refine le_trans ?_ (unit_le_div hf hnum hden hmin)
  calc f.limit ≤ 2 ^ f.precision * 2 ^ f.maxExponent := by
        unfold limit
        gcongr
        linarith
    _ = 2 ^ (f.precision - 1) * 2 ^ (f.maxExponent + 1) := by
        have hprecision := hf.two_le_precision
        rw [← zpow_natCast, ← zpow_natCast, ← zpow_add₀ two_ne_zero, ← zpow_add₀ two_ne_zero]
        congr 1
        omega
    _ ≤ 2 ^ (f.precision - 1) * 2 ^ f.unitExponent num den := by
        gcongr
        · exact one_le_two
        · omega

/-- **Where rounding ends.**  A fraction has no nearest value exactly when it is at least half a
unit above the greatest one. -/
theorem round_eq_none_iff (hf : f.IsProper) (hden : 0 < den) :
    f.round negative num den = none ↔ f.limit ≤ (num : ℚ) / den := by
  rcases Nat.eq_zero_or_pos num with rfl | hnum
  · rw [round, if_pos rfl, Nat.cast_zero, zero_div]
    simp [limit_pos hf]
  · have hnone : f.round negative num den = none ↔
        f.maxExponent < (f.carried negative num den).exponent := by
      rw [round_eq hnum]
      split <;> simp_all
    have hcarried : (f.carried negative num den).exponent =
        f.unitExponent num den + (if f.mantissaNear num den = 2 ^ f.precision then 1 else 0) := by
      by_cases hfull : f.mantissaNear num den = 2 ^ f.precision
      · rw [carried_of_full hfull, if_pos hfull]
      · rw [carried_of_not_full hfull, if_neg hfull, add_zero]
    rw [hnone, hcarried]
    rcases lt_trichotomy (f.unitExponent num den) f.maxExponent with hlt | heq | hgt
    · -- a full mantissa still fits with the next exponent
      refine iff_of_false ?_ (not_le.mpr (div_lt_limit hf hnum hden hlt))
      split <;> omega
    · rw [limit, ← heq, ← mantissaNear_eq_iff hf hnum hden]
      split <;> simp_all
    · refine iff_of_true ?_ (limit_le_div hf hnum hden hgt)
      split <;> omega

end

end Format

end ReportGrid
