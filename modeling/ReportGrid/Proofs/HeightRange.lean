import ReportGrid.Json.Reader
import ReportGrid.Proofs.HeightTexts

/-!
# Heights that single precision reaches

A number becomes a finite height exactly when its magnitude is below the limit of single precision
(`Height.IsNearest.isFinite_iff`).  From the limit on a height is infinite, and the words for
infinity and for no number give such heights too.

* `Height.isFinite_ofQuantity` — numbers of documents;
* `Height.isBeyond_iff`, `Height.ofText?_iff` — the texts that give a height beyond single
  precision.
-/

namespace ReportGrid

/-! ## Finite heights -/

/-- Whether a height is a number. -/
def Height.IsFinite (h : Height) : Prop :=
  ∃ b, h = .finite b

/-- Whether a height was given and is no number. -/
def Height.GivesNoNumber (given : Option Height) : Prop :=
  ∃ height, given = some height ∧ ¬ height.IsFinite

/-- The number that a quantity is, if it is one. -/
def Quantity.value? : Quantity → Option ℚ
  | .number n => some n.value
  | _ => none

/-- Whether a quantity is a number that is rounded to a value of a format. -/
def Quantity.IsWithin (f : Format) (q : Quantity) : Prop :=
  ∃ x, q.value? = some x ∧ |x| < f.limit

/-- Documents hold no single precision values. -/
theorem Dialect.quantity?_ne_single {d : Dialect} {n : Numeral} (b : Binary) :
    d.quantity? n ≠ some (.number (.single b)) := by
  intro h
  cases d with
  | strict =>
      obtain ⟨value, hvalue, hsame⟩ := Option.map_eq_some_iff.mp h
      exact Numeral.strict?_ne_single hvalue b (Quantity.number.inj hsame)
  | relaxed =>
      simp only [quantity?, Numeral.relaxed?] at h
      repeat' split at h
      all_goals simp at h

namespace Height

/-- A height that may be left out is finite unless one was given that is no number. -/
theorem isFinite_getD {base : Height} (hbase : base.IsFinite) (given : Option Height) :
    (given.getD base).IsFinite ↔ ¬ GivesNoNumber given := by
  cases given with
  | none => simp [GivesNoNumber, hbase]
  | some height => simp [GivesNoNumber]

/-- The height of a number is finite when single precision reaches the number. -/
theorem IsNearest.isFinite_iff {negative : Bool} {x : ℚ} {height : Height}
    (h : IsNearest negative x height) : height.IsFinite ↔ |x| < Format.single.limit := by
  cases h with
  | finite _ _ hreach => exact iff_of_true ⟨_, rfl⟩ hreach
  | infinite hbeyond => exact iff_of_false (by simp [IsFinite]) (not_lt.mpr hbeyond)

/-- A number of a document gives a finite height when single precision reaches it. -/
theorem isFinite_ofQuantity {d : Dialect} {n : Numeral} {q : Quantity}
    (h : d.quantity? n = some q) : (ofQuantity q).IsFinite ↔ q.IsWithin .single := by
  cases q with
  | number value =>
      have hne : ∀ b, value ≠ .single b := by
        rintro b rfl
        exact Dialect.quantity?_ne_single b h
      rw [ofQuantity, (isNearest_ofNumber hne).isFinite_iff]
      simp [Quantity.IsWithin, Quantity.value?]
  | _ => simp [ofQuantity, IsFinite, Quantity.IsWithin, Quantity.value?]

/-! ## Texts -/

/-- Whether a text without a sign gives a height beyond single precision: a word for infinity or for
no number in any capitals, or a decimal numeral whose number is not below the limit. -/
inductive IsBeyond : List Char → Prop where
  | word {s : List Char} (h : Text.lower s ∈ words) : IsBeyond s
  | decimal {whole : List Char} {fraction : Option (List Char)} {exponent : Option Exponent}
      (h : IsDecimal whole fraction exponent)
      (hnumber : Format.single.limit ≤ decimalNumber whole fraction exponent) :
      IsBeyond (Magnitude.decimal whole fraction exponent).text

/-- The number of a decimal numeral without a sign is not negative. -/
theorem abs_decimalNumber (negative : Bool) (whole : List Char) (fraction : Option (List Char))
    (exponent : Option Exponent) :
    |signFactor negative * decimalNumber whole fraction exponent| =
      decimalNumber whole fraction exponent := by
  have hpos : 0 ≤ decimalNumber whole fraction exponent := by
    unfold decimalNumber
    positivity
  rw [abs_mul, abs_signFactor, one_mul, abs_of_nonneg hpos]

/-- **Texts without a sign.**  The texts beyond single precision are those of the heights that are
not finite. -/
theorem isBeyond_iff (negative : Bool) (s : List Char) :
    IsBeyond s ↔ ∃ height, IsUnsigned negative s height ∧ ¬ height.IsFinite := by
  constructor
  · intro h
    cases h with
    | word h =>
        rcases lower_mem_words_iff.mp h with hinfinity | hnan
        · exact ⟨.infinite negative, .infinity hinfinity, by simp [IsFinite]⟩
        · exact ⟨.nan, .nan hnan, by simp [IsFinite]⟩
    | decimal h hnumber =>
        refine ⟨.infinite negative, .decimal h (.infinite ?_), by simp [IsFinite]⟩
        rwa [abs_decimalNumber]
  · rintro ⟨height, h, hnot⟩
    cases h with
    | infinity h => exact .word (lower_mem_words_iff.mpr (.inl h))
    | nan h => exact .word (lower_mem_words_iff.mpr (.inr h))
    | decimal h hheight =>
        rw [hheight.isFinite_iff, abs_decimalNumber, not_lt] at hnot
        exact .decimal h hnot

/-- **Texts that give a height beyond single precision.** -/
theorem ofText?_iff (text : String) :
    GivesNoNumber (ofText? text) ↔
      ∃ (sign : Option Sign) (rest : List Char),
        IsWritten (sign.elim [] Sign.text ++ rest) text ∧ IsBeyond rest := by
  constructor
  · rintro ⟨height, hheight, hnot⟩
    obtain ⟨core, hcore⟩ := exists_isWritten text
    rw [ofText?_eq hcore] at hheight
    obtain ⟨sign, rest, rfl, hunsigned⟩ := numeral?_eq_some_iff.mp hheight
    exact ⟨sign, rest, hcore, (isBeyond_iff _ rest).mpr ⟨height, hunsigned, hnot⟩⟩
  · rintro ⟨sign, rest, hwritten, hbeyond⟩
    obtain ⟨height, hunsigned, hnot⟩ := (isBeyond_iff (sign = some .minus) rest).mp hbeyond
    refine ⟨height, ?_, hnot⟩
    rw [ofText?_eq hwritten]
    exact numeral?_eq_some_iff.mpr ⟨sign, rest, rfl, hunsigned⟩

end Height

end ReportGrid
