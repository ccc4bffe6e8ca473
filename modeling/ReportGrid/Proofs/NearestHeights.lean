import ReportGrid.Chart.Height
import ReportGrid.Numeral.Value
import ReportGrid.Proofs.NearestValues
import ReportGrid.Proofs.WrittenNumerals

/-!
# Heights nearest to a number

The height of a number is told without rounding (`Height.IsNearest`): it is the single precision
value that is nearest to the number, and infinite from the limit of single precision on, half a unit
above the greatest value.  A number and its sign have one such height (`Height.IsNearest.eq`).

* `Format.roundDecimal_cases` — a decimal is next to nothing, or far above the limit, or rounded as
  a fraction, so that its exponent may be of any size;
* `Height.isNearest_roundDecimal` — decimals become the heights nearest to them;
* `Height.isNearest_ofNumber` — so do the numbers of documents.
-/

namespace ReportGrid

/-! ## Decimals -/

/-- A number other than zero lies between the powers of ten that its digits tell. -/
theorem tenPow_le_of_digits {digits : Nat} (h : digits ≠ 0) (exponent : Int) :
    (10 : ℚ) ^ ((Nat.toDigits 10 digits).length + exponent - 1) ≤ digits * 10 ^ exponent := by
  have hpos : 0 < (Nat.toDigits 10 digits).length := List.length_pos_of_ne_nil Nat.toDigits_ne_nil
  have hdigits : 10 ^ ((Nat.toDigits 10 digits).length - 1) ≤ digits := by
    by_contra hless
    rcases Nat.eq_zero_or_pos ((Nat.toDigits 10 digits).length - 1) with hone | hmore
    · rw [hone, pow_zero] at hless
      omega
    · have hshort := (Nat.length_toDigits_le_iff (by decide) hmore).mpr (not_le.mp hless)
      omega
  have hsplit : (Nat.toDigits 10 digits).length + exponent - 1 =
      ((Nat.toDigits 10 digits).length - 1 : Nat) + exponent := by
    omega
  rw [hsplit, zpow_add₀ (by norm_num), zpow_natCast]
  exact mul_le_mul_of_nonneg_right (by exact_mod_cast hdigits) (by positivity)

theorem lt_tenPow_of_digits (digits : Nat) (exponent : Int) :
    digits * 10 ^ exponent < (10 : ℚ) ^ ((Nat.toDigits 10 digits).length + exponent) := by
  have hpos : 0 < (Nat.toDigits 10 digits).length := List.length_pos_of_ne_nil Nat.toDigits_ne_nil
  have hdigits : digits < 10 ^ (Nat.toDigits 10 digits).length :=
    (Nat.length_toDigits_le_iff (by decide) hpos).mp le_rfl
  rw [zpow_add₀ (by norm_num), zpow_natCast]
  exact mul_lt_mul_of_pos_right (by exact_mod_cast hdigits) (by positivity)

namespace Format

/-- A decimal is next to nothing and becomes zero, or is too great for any format, or is rounded as
a fraction. -/
theorem roundDecimal_cases (f : Format) (negative : Bool) (digits : Nat) (exponent : Int) :
    (f.roundDecimal negative digits exponent = some ⟨negative, 0, f.minExponent⟩ ∧
        digits * 10 ^ exponent < (10 : ℚ) ^ (-400 : Int)) ∨
      (f.roundDecimal negative digits exponent = none ∧
        (10 : ℚ) ^ (400 : Int) ≤ digits * 10 ^ exponent) ∨
      ∃ num den, f.roundDecimal negative digits exponent = f.round negative num den ∧ 0 < den ∧
        (num : ℚ) / den = digits * 10 ^ exponent := by
  unfold roundDecimal decimalReach
  dsimp only
  by_cases hsmall : digits = 0 ∨ ((Nat.toDigits 10 digits).length : Int) + exponent < -400
  · refine .inl ⟨by rw [if_pos hsmall, round, if_pos rfl], ?_⟩
    rcases hsmall with rfl | hsmall
    · rw [Nat.cast_zero, zero_mul]
      positivity
    · exact (lt_tenPow_of_digits digits exponent).trans_le
        (zpow_le_zpow_right₀ (by norm_num) (by omega))
  · obtain ⟨hdigits, -⟩ := not_or.mp hsmall
    rw [if_neg hsmall]
    by_cases hgreat : 400 < ((Nat.toDigits 10 digits).length : Int) + exponent
    · refine .inr (.inl ⟨if_pos hgreat, le_trans ?_ (tenPow_le_of_digits hdigits exponent)⟩)
      exact zpow_le_zpow_right₀ (by norm_num) (by omega)
    · refine .inr (.inr ⟨_, _, if_neg hgreat, Binary.tenPow_pos _, ?_⟩)
      rw [Nat.cast_mul, mul_div_assoc, tenPow_div_tenPow]

theorem limit_single_le_tenPow : single.limit ≤ 10 ^ (400 : Int) := by
  calc single.limit ≤ 10 ^ (39 : Int) := by norm_num [limit, single]
    _ ≤ 10 ^ (400 : Int) := zpow_le_zpow_right₀ (by norm_num) (by decide)

theorem tenPow_lt_half_unit_single : (10 : ℚ) ^ (-400 : Int) < 2 ^ single.minExponent / 2 := by
  calc (10 : ℚ) ^ (-400 : Int) ≤ 10 ^ (-50 : Int) :=
        zpow_le_zpow_right₀ (by norm_num) (by decide)
    _ < 2 ^ single.minExponent / 2 := by norm_num [single]

theorem half_unit_lt_limit_single : 2 ^ single.minExponent / 2 < single.limit := by
  norm_num [limit, single]

/-- **Decimals without a nearest value** are those from the limit on. -/
theorem roundDecimal_eq_none_iff (negative : Bool) (digits : Nat) (exponent : Int) :
    single.roundDecimal negative digits exponent = none ↔
      single.limit ≤ digits * 10 ^ exponent := by
  rcases roundDecimal_cases single negative digits exponent with
    ⟨hround, hsmall⟩ | ⟨hround, hgreat⟩ | ⟨num, den, hround, hden, hvalue⟩
  · rw [hround]
    refine iff_of_false (by simp) (not_le.mpr ?_)
    exact hsmall.trans (tenPow_lt_half_unit_single.trans half_unit_lt_limit_single)
  · exact iff_of_true hround (limit_single_le_tenPow.trans hgreat)
  · rw [hround, round_eq_none_iff isProper_single hden, hvalue]

/-- **Decimals become nearest values** and keep their sign. -/
theorem isNearest_roundDecimal {negative : Bool} {digits : Nat} {exponent : Int} {b : Binary}
    (h : single.roundDecimal negative digits exponent = some b) :
    single.IsNearest (signFactor negative * (digits * 10 ^ exponent)) b ∧
      b.negative = negative := by
  rcases roundDecimal_cases single negative digits exponent with
    ⟨hround, hsmall⟩ | ⟨hround, -⟩ | ⟨num, den, hround, hden, hvalue⟩
  · obtain rfl := Option.some.inj (hround.symm.trans h)
    have hpos : (0 : ℚ) ≤ digits * 10 ^ exponent := by positivity
    refine ⟨isNearest_zero isProper_single ?_, rfl⟩
    rw [abs_mul, abs_signFactor, one_mul, abs_of_nonneg hpos]
    exact hsmall.trans tenPow_lt_half_unit_single
  · exact absurd (hround.symm.trans h) (by simp)
  · rw [← hvalue]
    exact isNearest_round isProper_single hden (hround.symm.trans h)

end Format

/-! ## Numbers -/

/-- The number that a number of a document is. -/
def Number.value : Number → ℚ
  | .int n => n
  | .double b => b.value
  | .single b => b.value

/-- Whether a number of a document has a minus sign; zero may have one. -/
def Number.isNegative : Number → Bool
  | .int n => n < 0
  | .double b => b.negative
  | .single b => b.negative

/-- Numerals of strict documents are no single precision values. -/
theorem Numeral.strict?_ne_single {n : Numeral} {value : Number} (h : n.strict? = some value)
    (b : Binary) : value ≠ .single b := by
  rintro rfl
  simp only [strict?] at h
  repeat' split at h
  all_goals simp at h

/-- The magnitude of a value as a fraction. -/
theorem Binary.num_div_den (b : Binary) : (b.num : ℚ) / b.den = b.mantissa * 2 ^ b.exponent := by
  rw [num, den, Nat.cast_mul, mul_div_assoc, Format.twoPow_div_twoPow]

theorem signFactor_mul_natAbs (n : Int) : signFactor (n < 0) * (n.natAbs : ℚ) = n := by
  rw [Nat.cast_natAbs, signFactor]
  by_cases hn : n < 0
  · simp [hn, abs_of_neg hn]
  · simp [hn, abs_of_nonneg (not_lt.mp hn)]

namespace Height

/-- Whether a height is the one of a number with a sign: the single precision value that is nearest
to the number, or infinite where single precision does not reach. -/
inductive IsNearest (negative : Bool) (x : ℚ) : Height → Prop where
  | finite {b : Binary} (h : Format.single.IsNearest x b) (hsign : b.negative = negative)
      (hreach : |x| < Format.single.limit) : IsNearest negative x (.finite b)
  | infinite (hbeyond : Format.single.limit ≤ |x|) : IsNearest negative x (.infinite negative)

variable {negative : Bool} {x : ℚ} {height other : Height}

/-- **One height.**  A number with a sign has one height. -/
theorem IsNearest.eq (h : IsNearest negative x height) (hother : IsNearest negative x other) :
    height = other := by
  cases h with
  | finite hnearest hsign hreach =>
      cases hother with
      | finite hnearest' hsign' _ =>
          rw [hnearest.eq Format.isProper_single hnearest' (hsign.trans hsign'.symm)]
      | infinite hbeyond => exact absurd hreach (not_lt.mpr hbeyond)
  | infinite hbeyond =>
      cases hother with
      | finite _ _ hreach => exact absurd hreach (not_lt.mpr hbeyond)
      | infinite _ => rfl

/-- A rounded number is the height nearest to it. -/
theorem isNearest_ofRounded {rounded : Option Binary}
    (hnone : rounded = none ↔ Format.single.limit ≤ |x|)
    (hsome : ∀ b, rounded = some b → Format.single.IsNearest x b ∧ b.negative = negative) :
    IsNearest negative x (ofRounded negative rounded) := by
  cases rounded with
  | none => exact .infinite (hnone.mp rfl)
  | some b =>
      obtain ⟨hnearest, hsign⟩ := hsome b rfl
      refine .finite hnearest hsign (not_le.mp fun hbeyond => ?_)
      exact absurd (hnone.mpr hbeyond) (by simp)

/-- A fraction with a sign becomes the height nearest to it. -/
theorem isNearest_round (negative : Bool) (num : Nat) {den : Nat} (hden : 0 < den) :
    IsNearest negative (signFactor negative * (num / den))
      (ofRounded negative (Format.single.round negative num den)) := by
  have hpos : (0 : ℚ) ≤ num / den := by positivity
  refine isNearest_ofRounded ?_ fun b hb => Format.isNearest_round Format.isProper_single hden hb
  rw [Format.round_eq_none_iff Format.isProper_single hden, abs_mul, abs_signFactor, one_mul,
    abs_of_nonneg hpos]

/-- **Decimals** become the heights nearest to them. -/
theorem isNearest_roundDecimal (negative : Bool) (digits : Nat) (exponent : Int) :
    IsNearest negative (signFactor negative * (digits * 10 ^ exponent))
      (ofRounded negative (Format.single.roundDecimal negative digits exponent)) := by
  have hpos : (0 : ℚ) ≤ digits * 10 ^ exponent := by positivity
  refine isNearest_ofRounded ?_ fun b hb => Format.isNearest_roundDecimal hb
  rw [Format.roundDecimal_eq_none_iff, abs_mul, abs_signFactor, one_mul, abs_of_nonneg hpos]

/-- **Numbers of documents** become the heights nearest to them. -/
theorem isNearest_ofNumber {n : Number} (h : ∀ b, n ≠ .single b) :
    IsNearest n.isNegative n.value (ofNumber n) := by
  cases n with
  | int n =>
      have hnearest := isNearest_round (n < 0) n.natAbs one_pos
      rw [Nat.cast_one, div_one, signFactor_mul_natAbs] at hnearest
      exact hnearest
  | double b =>
      have hden : 0 < b.den := Binary.twoPow_pos _
      have hnearest := isNearest_round b.negative b.num hden
      rw [Binary.num_div_den] at hnearest
      exact hnearest
  | single b => exact absurd rfl (h b)

end Height

end ReportGrid
