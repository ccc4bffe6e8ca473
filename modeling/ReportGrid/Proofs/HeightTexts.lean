import ReportGrid.Proofs.NearestHeights

/-!
# Texts that are heights

A text gives a height when what is left of it without blanks and units is a numeral or a word for
infinity or for no number, in any capitals and with an optional sign (`Height.IsNumeral`).  Every
text is written so in one way or another, and the grammar says what it gives and when it gives
nothing.

* `Height.decimal?_written`, `Height.exists_decimal` — the decimal numerals, and what they give;
* `Height.unsigned?_eq_some_iff`, `Height.numeral?_eq_some_iff` — words, and then signs;
* `Height.ofText?_eq`, `Height.exists_isWritten` — blanks and units.
-/

namespace ReportGrid

/-! ## Signs -/

/-- A text is its sign and what stands after the sign. -/
theorem Sign.text_scan (s : List Char) :
    (Sign.scan s).1.elim [] Sign.text ++ (Sign.scan s).2 = s := by
  unfold Sign.scan
  split <;> rfl

/-- A text that starts with no sign has none. -/
theorem Sign.scan_eq {s : List Char} (hplus : ∀ rest, s ≠ '+' :: rest)
    (hminus : ∀ rest, s ≠ '-' :: rest) : Sign.scan s = (none, s) := by
  unfold Sign.scan
  split
  · exact absurd rfl (hplus _)
  · exact absurd rfl (hminus _)
  · rfl

namespace Height

/-! ## Decimal numerals in texts -/

/-- Whether a decimal numeral may give a height: there are digits before the point or after it, and
an exponent has digits. -/
structure IsDecimal (whole : List Char) (fraction : Option (List Char))
    (exponent : Option Exponent) : Prop where
  digits : IsDigits (whole ++ fraction.getD [])
  exponent : ∀ e, exponent = some e → (e.mark = 'e' ∨ e.mark = 'E') ∧ IsDigits e.digits

/-- The number that a decimal numeral without a sign stands for: its digits in base ten, with the
point as many places further on as the exponent says. -/
def decimalNumber (whole : List Char) (fraction : Option (List Char))
    (exponent : Option Exponent) : ℚ :=
  let places (e : Exponent) : Int :=
    (if e.sign = some .minus then -1 else 1) * Nat.ofDigitChars 10 e.digits 0
  Nat.ofDigitChars 10 (whole ++ fraction.getD []) 0 *
    10 ^ (exponent.elim 0 places - (fraction.getD []).length)

theorem decimalNumber_eq (whole : List Char) (fraction : Option (List Char))
    (exponent : Option Exponent) :
    decimalNumber whole fraction exponent = decimalValue (whole ++ fraction.getD []) *
      10 ^ (exponent.elim 0 Exponent.value - (fraction.getD []).length) := by
  cases exponent with
  | none => rfl
  | some e =>
      have hvalue : e.value =
          (if e.sign = some .minus then -1 else 1) * Nat.ofDigitChars 10 e.digits 0 := by
        rw [Exponent.value, decimalValue]
        split <;> simp
      rw [Option.elim_some, hvalue]
      rfl

/-- An exponent, or none, is read as its power of ten. -/
theorem exponent?_written {exponent : Option Exponent}
    (h : ∀ e, exponent = some e → (e.mark = 'e' ∨ e.mark = 'E') ∧ IsDigits e.digits) :
    exponent? (exponent.elim [] Exponent.text) = some (exponent.elim 0 Exponent.value) := by
  cases exponent with
  | none => rfl
  | some e =>
      obtain ⟨hmark, hdigits⟩ := h e rfl
      have hscan := Strict.scan_sign e.sign hdigits []
      rw [List.append_nil] at hscan
      have hall : e.digits.all Char.isDigit = true := List.all_eq_true.mpr hdigits.isDigit
      simp only [Option.elim_some, Exponent.text, List.cons_append, exponent?, hscan]
      rw [if_pos ⟨hmark, hdigits.ne_nil, hall⟩]

/-- Only exponents are read as powers of ten. -/
theorem exists_exponent {s : List Char} {value : Int} (h : exponent? s = some value) :
    ∃ exponent : Option Exponent, s = exponent.elim [] Exponent.text ∧
      ∀ e, exponent = some e → (e.mark = 'e' ∨ e.mark = 'E') ∧ IsDigits e.digits := by
  cases s with
  | nil => exact ⟨none, rfl, by simp⟩
  | cons c rest =>
      simp only [exponent?] at h
      split at h
      · rename_i hparts
        obtain ⟨hmark, hne, hall⟩ := hparts
        refine ⟨some ⟨c, (Sign.scan rest).1, (Sign.scan rest).2⟩, ?_, ?_⟩
        · rw [Option.elim_some, Exponent.text, List.cons_append, Sign.text_scan]
        · rintro _ ⟨⟩
          exact ⟨hmark, hne, List.all_eq_true.mp hall⟩
      · exact absurd h (by simp)

/-- What follows the digits of a decimal numeral starts with no digit. -/
theorem head?_exponent {exponent : Option Exponent}
    (h : ∀ e, exponent = some e → (e.mark = 'e' ∨ e.mark = 'E') ∧ IsDigits e.digits) {c : Char}
    (hc : (exponent.elim [] Exponent.text).head? = some c) : c.isDigit = false ∧ c ≠ '.' := by
  cases exponent with
  | none => exact absurd hc (by simp)
  | some e =>
      obtain rfl : e.mark = c := Option.some.inj hc
      rcases (h e rfl).1 with hmark | hmark <;> rw [hmark] <;> decide

/-- The digits of the fraction at the start of a text, and what follows them. -/
def fractionPart : List Char → List Char × List Char
  | '.' :: rest => (rest.takeWhile Char.isDigit, rest.dropWhile Char.isDigit)
  | rest => ([], rest)

/-- The height of a decimal numeral, by its parts. -/
theorem decimal?_eq (negative : Bool) (s : List Char) :
    decimal? negative s =
      let whole := s.takeWhile Char.isDigit
      let (fraction, rest) := fractionPart (s.dropWhile Char.isDigit)
      if whole.isEmpty && fraction.isEmpty then none
      else (exponent? rest).map fun exponent =>
        ofRounded negative (Format.single.roundDecimal negative (decimalValue (whole ++ fraction))
          (exponent - fraction.length)) := by
  unfold decimal? fractionPart
  rfl

/-- A fraction, or none, is read to its end. -/
theorem fractionPart_written {fraction : Option (List Char)} {rest : List Char}
    (h : ∀ c ∈ fraction.getD [], c.isDigit = true)
    (hrest : ∀ c, rest.head? = some c → c.isDigit = false ∧ c ≠ '.') :
    fractionPart (fraction.elim [] ('.' :: ·) ++ rest) = (fraction.getD [], rest) := by
  cases fraction with
  | none =>
      rw [Option.elim_none, List.nil_append, Option.getD_none]
      unfold fractionPart
      split
      · exact absurd rfl (hrest '.' rfl).2
      · rfl
  | some digits =>
      have hdigits : ∀ c ∈ digits, c.isDigit = true := h
      obtain ⟨htake, hdrop⟩ := Text.span_append hdigits (fun c hc => (hrest c hc).1)
      simp only [Option.elim_some, List.cons_append, fractionPart, htake, hdrop, Option.getD_some]

/-- Every text starts with a fraction, or with none. -/
theorem exists_fraction (s : List Char) :
    ∃ fraction : Option (List Char),
      s = fraction.elim [] ('.' :: ·) ++ (fractionPart s).2 ∧
        (fractionPart s).1 = fraction.getD [] ∧ ∀ c ∈ fraction.getD [], c.isDigit = true := by
  unfold fractionPart
  split
  · rename_i rest
    refine ⟨some (rest.takeWhile Char.isDigit), ?_, rfl, ?_⟩
    · rw [Option.elim_some, List.cons_append, List.takeWhile_append_dropWhile]
    · intro c hc
      exact List.mem_takeWhile_imp hc
  · exact ⟨none, rfl, rfl, by simp⟩

/-- What follows the digits before the point starts with no digit. -/
theorem head?_fraction {fraction : Option (List Char)} {exponent : Option Exponent}
    (h : ∀ e, exponent = some e → (e.mark = 'e' ∨ e.mark = 'E') ∧ IsDigits e.digits) {c : Char}
    (hc : (fraction.elim [] ('.' :: ·) ++ exponent.elim [] Exponent.text).head? = some c) :
    c.isDigit = false := by
  cases fraction with
  | none => exact (head?_exponent h hc).1
  | some digits =>
      obtain rfl : '.' = c := Option.some.inj hc
      rfl

/-- **A decimal numeral gives a height.**  Its digits, with the point moved, are rounded. -/
theorem decimal?_written (negative : Bool) {whole : List Char} {fraction : Option (List Char)}
    {exponent : Option Exponent} (h : IsDecimal whole fraction exponent) :
    decimal? negative (Magnitude.decimal whole fraction exponent).text =
      some (ofRounded negative (Format.single.roundDecimal negative
        (decimalValue (whole ++ fraction.getD []))
        (exponent.elim 0 Exponent.value - (fraction.getD []).length))) := by
  have hwhole : ∀ c ∈ whole, c.isDigit = true :=
    fun c hc => h.digits.isDigit c (List.mem_append_left _ hc)
  have hfraction : ∀ c ∈ fraction.getD [], c.isDigit = true :=
    fun c hc => h.digits.isDigit c (List.mem_append_right _ hc)
  have hsome : ¬ (whole.isEmpty && (fraction.getD []).isEmpty) = true := by
    intro hempty
    apply h.digits.ne_nil
    simpa using hempty
  have htext : (Magnitude.decimal whole fraction exponent).text =
      whole ++ (fraction.elim [] ('.' :: ·) ++ exponent.elim [] Exponent.text) :=
    List.append_assoc _ _ _
  have hfollow : ∀ c, (fraction.elim [] ('.' :: ·) ++ exponent.elim [] Exponent.text).head? =
      some c → c.isDigit = false := fun c hc => head?_fraction h.exponent hc
  obtain ⟨htake, hdrop⟩ := Text.span_append hwhole hfollow
  have hpart := fractionPart_written hfraction (fun c hc => head?_exponent h.exponent hc)
  rw [decimal?_eq, htext]
  simp only [htake, hdrop, hpart]
  rw [if_neg hsome, exponent?_written h.exponent, Option.map_some]

/-- Only decimal numerals are read as such. -/
theorem exists_decimal {negative : Bool} {s : List Char} {height : Height}
    (h : decimal? negative s = some height) :
    ∃ whole fraction exponent, IsDecimal whole fraction exponent ∧
      s = (Magnitude.decimal whole fraction exponent).text := by
  rw [decimal?_eq] at h
  obtain ⟨fraction, htext, hdigits, hfraction⟩ := exists_fraction (s.dropWhile Char.isDigit)
  simp only at h
  split at h
  · exact absurd h (by simp)
  · rename_i hsome
    obtain ⟨value, hvalue, -⟩ := Option.map_eq_some_iff.mp h
    obtain ⟨exponent, hrest, hexponent⟩ := exists_exponent hvalue
    refine ⟨s.takeWhile Char.isDigit, fraction, exponent, ⟨⟨?_, ?_⟩, hexponent⟩, ?_⟩
    · intro hnil
      apply hsome
      rw [hdigits]
      simpa using hnil
    · intro c hc
      rcases List.mem_append.mp hc with hc | hc
      · exact List.mem_takeWhile_imp hc
      · exact hfraction c hc
    · rw [hrest] at htext
      calc s = s.takeWhile Char.isDigit ++ s.dropWhile Char.isDigit :=
            List.takeWhile_append_dropWhile.symm
        _ = _ := by rw [htext]; exact (List.append_assoc _ _ _).symm

/-! ## Numerals and words -/

/-- Digits alone are a decimal numeral. -/
theorem IsDecimal.of_isDigits {s : List Char} (h : IsDigits s) : IsDecimal s none none where
  digits := by simpa using h
  exponent := by simp

/-- The first character of a decimal numeral is a digit or the point. -/
theorem head?_decimal {whole : List Char} {fraction : Option (List Char)}
    {exponent : Option Exponent} (h : IsDecimal whole fraction exponent) :
    ∃ c ∈ "0123456789.".toList, ∃ rest,
      (Magnitude.decimal whole fraction exponent).text = c :: rest := by
  cases whole with
  | cons c whole =>
      refine ⟨c, ?_, _, rfl⟩
      have hc := mem_of_isDigit (h.digits.isDigit c (by simp))
      exact List.mem_append_left ['.'] hc
  | nil =>
      cases fraction with
      | none => exact absurd rfl h.digits.ne_nil
      | some digits => exact ⟨'.', by decide, _, rfl⟩

/-- The words for infinity and for no number. -/
def words : List (List Char) :=
  ["inf".toList, "infinity".toList, "nan".toList]

/-- A text is a word for infinity or the one for no number. -/
theorem lower_mem_words_iff {s : List Char} :
    Text.lower s ∈ words ↔
      (s.map Char.toLower = "inf".toList ∨ s.map Char.toLower = "infinity".toList) ∨
        s.map Char.toLower = "nan".toList := by
  simp only [words, Text.lower, List.mem_cons, List.not_mem_nil, or_false, or_assoc]

theorem head?_of_mem_words {word : List Char} (h : word ∈ words) :
    word.head? = some 'i' ∨ word.head? = some 'n' := by
  simp only [words, List.mem_cons, List.not_mem_nil, or_false] at h
  rcases h with rfl | rfl | rfl
  · exact .inl rfl
  · exact .inl rfl
  · exact .inr rfl

/-- No text is a word that starts with another character. -/
theorem lower_cons_not_mem {c : Char} (hi : c.toLower ≠ 'i') (hn : c.toLower ≠ 'n')
    (rest : List Char) : Text.lower (c :: rest) ∉ words := by
  intro h
  rcases head?_of_mem_words h with hhead | hhead
  · exact hi (Option.some.inj hhead)
  · exact hn (Option.some.inj hhead)

/-- Whether a text without a sign stands for a height: a word for infinity or for no number in any
capitals, or a decimal numeral, which gives the height nearest to its number. -/
inductive IsUnsigned (negative : Bool) : List Char → Height → Prop where
  | infinity {s : List Char}
      (h : s.map Char.toLower = "inf".toList ∨ s.map Char.toLower = "infinity".toList) :
      IsUnsigned negative s (.infinite negative)
  | nan {s : List Char} (h : s.map Char.toLower = "nan".toList) : IsUnsigned negative s .nan
  | decimal {whole : List Char} {fraction : Option (List Char)} {exponent : Option Exponent}
      {height : Height} (h : IsDecimal whole fraction exponent)
      (hheight : IsNearest negative
        (signFactor negative * decimalNumber whole fraction exponent) height) :
      IsUnsigned negative (Magnitude.decimal whole fraction exponent).text height

/-- Whether a text stands for a height, with a sign or without one. -/
def IsNumeral (s : List Char) (height : Height) : Prop :=
  ∃ (sign : Option Sign) (rest : List Char), s = sign.elim [] Sign.text ++ rest ∧
    IsUnsigned (sign = some .minus) rest height

/-- What is no word is a decimal numeral or no height. -/
theorem unsigned?_of_not_word (negative : Bool) {s : List Char} (h : Text.lower s ∉ words) :
    unsigned? negative s = decimal? negative s := by
  simp only [words, List.mem_cons, List.not_mem_nil, or_false, not_or] at h
  rw [unsigned?, if_neg (not_or.mpr ⟨h.1, h.2.1⟩), if_neg h.2.2]

/-- No decimal numeral is a word. -/
theorem lower_decimal_not_mem {whole : List Char} {fraction : Option (List Char)}
    {exponent : Option Exponent} (h : IsDecimal whole fraction exponent) :
    Text.lower (Magnitude.decimal whole fraction exponent).text ∉ words := by
  obtain ⟨c, hc, rest, htext⟩ := head?_decimal h
  have hfirst : ∀ c ∈ "0123456789.".toList, c.toLower ≠ 'i' ∧ c.toLower ≠ 'n' :=
    List.all_iff_forall_prop.mp (by decide)
  rw [htext]
  exact lower_cons_not_mem (hfirst c hc).1 (hfirst c hc).2 rest

/-- The words for infinity give an infinite height. -/
theorem unsigned?_infinity (negative : Bool) {s : List Char}
    (h : s.map Char.toLower = "inf".toList ∨ s.map Char.toLower = "infinity".toList) :
    unsigned? negative s = some (.infinite negative) :=
  if_pos h

/-- The word for no number gives that. -/
theorem unsigned?_nan (negative : Bool) {s : List Char}
    (h : s.map Char.toLower = "nan".toList) : unsigned? negative s = some .nan := by
  have hlower : Text.lower s = "nan".toList := h
  rw [unsigned?, hlower]
  rfl

/-- A decimal numeral is the height nearest to its number. -/
theorem isNearest_decimal? (negative : Bool) {whole : List Char} {fraction : Option (List Char)}
    {exponent : Option Exponent} (h : IsDecimal whole fraction exponent) :
    ∃ height, unsigned? negative (Magnitude.decimal whole fraction exponent).text = some height ∧
      IsNearest negative (signFactor negative * decimalNumber whole fraction exponent) height := by
  rw [unsigned?_of_not_word negative (lower_decimal_not_mem h), decimal?_written negative h]
  rw [decimalNumber_eq]
  exact ⟨_, rfl, isNearest_roundDecimal negative _ _⟩

/-- **Texts without a sign** give what they stand for, and nothing else gives a height. -/
theorem unsigned?_eq_some_iff {negative : Bool} {s : List Char} {height : Height} :
    unsigned? negative s = some height ↔ IsUnsigned negative s height := by
  constructor
  · intro h
    by_cases hword : Text.lower s ∈ words
    · rcases lower_mem_words_iff.mp hword with hinfinity | hnan
      · obtain rfl := Option.some.inj ((unsigned?_infinity negative hinfinity).symm.trans h)
        exact .infinity hinfinity
      · obtain rfl := Option.some.inj ((unsigned?_nan negative hnan).symm.trans h)
        exact .nan hnan
    · have hread := h
      rw [unsigned?_of_not_word negative hword] at hread
      obtain ⟨whole, fraction, exponent, hdecimal, rfl⟩ := exists_decimal hread
      obtain ⟨other, hother, hnearest⟩ := isNearest_decimal? negative hdecimal
      obtain rfl := Option.some.inj (hother.symm.trans h)
      exact .decimal hdecimal hnearest
  · intro h
    cases h with
    | infinity h => exact unsigned?_infinity negative h
    | nan h => exact unsigned?_nan negative h
    | decimal h hheight =>
        obtain ⟨other, hother, hnearest⟩ := isNearest_decimal? negative h
        rw [hother, hnearest.eq hheight]

/-- No text that stands for a height without a sign starts with one. -/
theorem IsUnsigned.scan_eq {negative : Bool} {s : List Char} {height : Height}
    (h : IsUnsigned negative s height) : Sign.scan s = (none, s) := by
  have hno : ∀ c : Char, c.toLower ≠ 'i' → c.toLower ≠ 'n' → c ∉ "0123456789.".toList →
      ∀ rest, s ≠ c :: rest := by
    intro c hi hn hdecimal rest heq
    have hword : Text.lower s ∉ words := heq ▸ lower_cons_not_mem hi hn rest
    cases h with
    | infinity h => exact hword (lower_mem_words_iff.mpr (.inl h))
    | nan h => exact hword (lower_mem_words_iff.mpr (.inr h))
    | decimal h =>
        obtain ⟨d, hd, more, htext⟩ := head?_decimal h
        obtain ⟨rfl, -⟩ := List.cons.inj (heq.symm.trans htext)
        exact hdecimal hd
  exact Sign.scan_eq (hno '+' (by decide) (by decide) (by decide))
    (hno '-' (by decide) (by decide) (by decide))

/-- A numeral is read without its sign. -/
theorem numeral?_eq (s : List Char) :
    numeral? s = unsigned? (decide ((Sign.scan s).1 = some .minus)) (Sign.scan s).2 := by
  unfold numeral?
  split
  · rfl
  · rfl
  · rename_i hplus hminus
    rw [Sign.scan_eq hplus hminus]
    rfl

/-- The sign of a text that stands for a height is scanned off. -/
theorem IsUnsigned.scan_append {negative : Bool} {s : List Char} {height : Height}
    (h : IsUnsigned negative s height) (sign : Option Sign) :
    Sign.scan (sign.elim [] Sign.text ++ s) = (sign, s) := by
  cases sign with
  | none => exact h.scan_eq
  | some sign => cases sign <;> rfl

/-- **Texts with a sign or without one** give what they stand for, and nothing else gives a
height. -/
theorem numeral?_eq_some_iff {s : List Char} {height : Height} :
    numeral? s = some height ↔ IsNumeral s height := by
  rw [numeral?_eq, unsigned?_eq_some_iff]
  constructor
  · intro h
    exact ⟨(Sign.scan s).1, (Sign.scan s).2, (Sign.text_scan s).symm, h⟩
  · rintro ⟨sign, rest, rfl, h⟩
    rw [h.scan_append sign]
    exact h

/-! ## Blanks and units -/

/-- Whether a text is a given one with blanks around it and, before the blanks at its end, any
number of units. -/
def IsWritten (core : List Char) (text : String) : Prop :=
  ¬ unit <:+ core ∧ ∃ n, Text.trim text.toList = core ++ (List.replicate n unit).flatten

/-- Reversed units at the start of a text are all dropped. -/
theorem dropUnits_replicate (n : Nat) (s : List Char) :
    dropUnits ((List.replicate n unit.reverse).flatten ++ s) = dropUnits s := by
  induction n with
  | zero => rfl
  | succ n ih =>
      rw [List.replicate_succ, List.flatten_cons, List.append_assoc]
      exact ih

/-- A text without a reversed unit at its start stays as it is. -/
theorem dropUnits_eq_self {s : List Char} (h : ¬ unit.reverse <+: s) : dropUnits s = s := by
  unfold dropUnits
  split
  · rename_i rest
    exact absurd (List.prefix_append unit.reverse rest) h
  · rfl

/-- Reversed units are all that is dropped. -/
theorem exists_dropUnits (s : List Char) :
    ∃ n, s = (List.replicate n unit.reverse).flatten ++ dropUnits s ∧
      ¬ unit.reverse <+: dropUnits s := by
  fun_induction dropUnits s with
  | case1 rest ih =>
      obtain ⟨n, hs, hstart⟩ := ih
      refine ⟨n + 1, ?_, hstart⟩
      rw [List.replicate_succ, List.flatten_cons, List.append_assoc, ← hs]
      rfl
  | case2 s hs =>
      refine ⟨0, rfl, ?_⟩
      rintro ⟨rest, rfl⟩
      exact hs rest rfl

theorem reverse_units (n : Nat) :
    (List.replicate n unit).flatten.reverse = (List.replicate n unit.reverse).flatten := by
  rw [List.reverse_flatten, List.map_replicate, List.reverse_replicate]

/-- **Heights as texts.**  Blanks and units do not count. -/
theorem ofText?_eq {core : List Char} {text : String} (h : IsWritten core text) :
    ofText? text = numeral? core := by
  obtain ⟨hcore, n, htext⟩ := h
  have hstart : ¬ unit.reverse <+: core.reverse := by rwa [List.reverse_prefix]
  rw [ofText?, htext, List.reverse_append, reverse_units, dropUnits_replicate,
    dropUnits_eq_self hstart, List.reverse_reverse]

/-- Every text is written so. -/
theorem exists_isWritten (text : String) : ∃ core, IsWritten core text := by
  obtain ⟨n, htext, hstart⟩ := exists_dropUnits (Text.trim text.toList).reverse
  refine ⟨(dropUnits (Text.trim text.toList).reverse).reverse, ?_, n, ?_⟩
  · rwa [← List.reverse_prefix, List.reverse_reverse]
  · have hreverse := congrArg List.reverse htext
    rwa [List.reverse_reverse, List.reverse_append, ← reverse_units, List.reverse_reverse]
      at hreverse

end Height

end ReportGrid
