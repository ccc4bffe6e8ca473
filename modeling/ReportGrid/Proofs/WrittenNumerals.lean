import ReportGrid.Json.Printer
import ReportGrid.Json.Strict
import ReportGrid.Proofs.TextCutting

/-!
# Written numerals

Every number that is printed is a numeral of a strict document, and a strict document is cut right
after it.

`Numeral.IsStrict` is the grammar of such numerals: no plus sign, digits without a zero in front of
others, then a fraction and an exponent that have digits.  `Number.isStrict_numeral` proves it of
integers and of floating-point values of any size.  The one point where a value matters is the first
digit of a shortest decimal.  It is not zero because zero rounds to no value but zero
(`Binary.shortest_digits_ne_zero`).

`Strict.tokens_numeral` cuts such a numeral off, as long as what follows cannot continue it
(`Strict.EndsNumeral`).
-/

namespace ReportGrid

/-- At least one character, all of them digits. -/
structure IsDigits (s : List Char) : Prop where
  ne_nil : s ≠ []
  isDigit : ∀ c ∈ s, c.isDigit = true

/-- Whether digits may stand before the point of a strict numeral: a zero stands alone. -/
structure IsWhole (s : List Char) : Prop extends IsDigits s where
  zero_alone : s.head? = some '0' → s.length = 1

/-- Whether a magnitude may stand in a strict document. -/
def Magnitude.IsStrict : Magnitude → Prop
  | .decimal whole fraction exponent =>
    IsWhole whole ∧ (∀ digits, fraction = some digits → IsDigits digits) ∧
      ∀ e, exponent = some e → (e.mark = 'e' ∨ e.mark = 'E') ∧ IsDigits e.digits
  | _ => False

/-- Whether a numeral may stand in a strict document. -/
def Numeral.IsStrict (n : Numeral) : Prop :=
  n.sign ≠ some .plus ∧ n.magnitude.IsStrict

/-! ## Digits -/

theorem IsDigits.append {s t : List Char} (hs : IsDigits s) (ht : ∀ c ∈ t, c.isDigit = true) :
    IsDigits (s ++ t) where
  ne_nil := by
    intro hnil
    exact hs.ne_nil (List.append_eq_nil_iff.mp hnil).1
  isDigit := by
    intro c hc
    rcases List.mem_append.mp hc with hc | hc
    · exact hs.isDigit c hc
    · exact ht c hc

/-- A text starts like its first part. -/
theorem head?_append_left {s : List Char} (h : s ≠ []) (t : List Char) :
    (s ++ t).head? = s.head? := by
  obtain ⟨c, rest, rfl⟩ := List.exists_cons_of_ne_nil h
  rfl

theorem isDigits_toDigits (n : Nat) : IsDigits (Nat.toDigits 10 n) :=
  ⟨Nat.toDigits_ne_nil, fun _ hc => Nat.isDigit_of_mem_toDigits (by decide) (by decide) hc⟩

/-- There are ten digits. -/
theorem mem_of_isDigit {c : Char} (h : c.isDigit = true) : c ∈ "0123456789".toList := by
  have hall : ∀ n < 10, Char.ofNat (48 + n) ∈ "0123456789".toList := by decide
  simp only [Char.isDigit, Bool.and_eq_true, decide_eq_true_eq] at h
  have hlow : 48 ≤ c.toNat := h.1
  have hhigh : c.toNat ≤ 57 := h.2
  have hdigit := hall (c.toNat - 48) (by omega)
  rwa [Nat.add_sub_cancel' hlow, Char.ofNat_toNat] at hdigit

/-- The first digit of a number other than zero is not zero. -/
theorem head?_toDigits_ne {n : Nat} (h : n ≠ 0) : (Nat.toDigits 10 n).head? ≠ some '0' := by
  induction n using Nat.strongRecOn with
  | ind n ih =>
      rw [Nat.toDigits_eq_if (by decide)]
      split
      · simpa [Nat.digitChar_eq_zero] using h
      · have hless : n / 10 < n := by omega
        have hfirst := ih (n / 10) hless (by omega)
        rw [head?_append_left Nat.toDigits_ne_nil]
        exact hfirst

theorem isWhole_toDigits (n : Nat) : IsWhole (Nat.toDigits 10 n) where
  toIsDigits := isDigits_toDigits n
  zero_alone := by
    intro hzero
    by_cases hn : n = 0
    · subst hn
      rfl
    · exact (head?_toDigits_ne hn hzero).elim

theorem isWhole_zero : IsWhole ['0'] :=
  isWhole_toDigits 0

/-- Digits that start like those of a number other than zero have no zero in front. -/
theorem isWhole_start {n : Nat} {s : List Char} (hn : n ≠ 0) (hs : IsDigits s)
    (hhead : s.head? = (Nat.toDigits 10 n).head?) : IsWhole s where
  toIsDigits := hs
  zero_alone := by
    intro hzero
    exact (head?_toDigits_ne hn (hhead ▸ hzero)).elim

/-! ## Shortest decimals -/

/-- A quotient is never rounded below its whole part. -/
theorem Format.div_le_roundQuotient (num den : Nat) : num / den ≤ roundQuotient num den := by
  unfold roundQuotient
  dsimp only
  split
  · exact Nat.le_refl _
  · split
    · exact Nat.le_succ _
    · split
      · exact Nat.le_refl _
      · exact Nat.le_succ _

namespace Binary

theorem twoPow_pos (n : Nat) : 0 < twoPow n :=
  Nat.pow_pos (by decide)

theorem tenPow_pos (n : Nat) : 0 < tenPow n :=
  Nat.pow_pos (by decide)

/-- Zero does not round to the magnitude of a value other than zero. -/
theorem roundsTo_zero (f : Format) {b : Binary} (h : b.mantissa ≠ 0) (exponent : Int) :
    b.roundsTo f 0 exponent = false := by
  have hlow : 0 < (b.ends f).1 := by
    unfold ends
    dsimp only
    split <;> omega
  have hscale : 0 < b.quarterUnit.1 * tenPow (-exponent).toNat :=
    Nat.mul_pos (twoPow_pos _) (tenPow_pos _)
  have hpos : 0 < (b.ends f).1 * (b.quarterUnit.1 * tenPow (-exponent).toNat) :=
    Nat.mul_pos hlow hscale
  unfold roundsTo
  dsimp only
  split
  · simp only [Nat.zero_mul, decide_eq_false_iff_not]
    omega
  · simp

/-- The digits that are picked are those of a number that rounds to the value, hence not zero. -/
theorem withDigits?_digits_ne_zero {f : Format} {b : Binary} {count : Nat} {d : Decimal}
    (h : b.mantissa ≠ 0) (hd : b.withDigits? f count = some d) : d.digits ≠ 0 := by
  unfold withDigits? at hd
  dsimp only at hd
  obtain ⟨digits, hpick, rfl⟩ := Option.map_eq_some_iff.mp hd
  have hdigits : digits ≠ 0 := by
    split at hpick
    · rename_i hboth
      rw [Bool.and_eq_true] at hboth
      rw [← Option.some.inj hpick]
      intro hzero
      -- The nearest of two hits is not below the lower one, and zero is no hit.
      have hbelow := Nat.le_zero.mp (hzero ▸ Format.div_le_roundQuotient _ _)
      rw [hbelow, roundsTo_zero f h] at hboth
      simp at hboth
    · split at hpick
      · rename_i hhit
        rw [← Option.some.inj hpick]
        intro hzero
        rw [hzero, roundsTo_zero f h] at hhit
        simp at hhit
      · split at hpick
        · rw [← Option.some.inj hpick]
          exact Nat.succ_ne_zero _
        · simp at hpick
  split
  · exact Nat.one_ne_zero
  · exact hdigits

/-- The shortest decimal of a value other than zero is not zero. -/
theorem shortest_digits_ne_zero (f : Format) {b : Binary} (h : b.mantissa ≠ 0) :
    (b.shortest f).digits ≠ 0 := by
  unfold shortest
  cases hfound : (List.range mostDigits).findSome? fun i => b.withDigits? f (i + 1) with
  | none => exact h
  | some d =>
      obtain ⟨i, -, hi⟩ := List.exists_of_findSome?_eq_some hfound
      exact withDigits?_digits_ne_zero h hi

end Binary

namespace Decimal

/-- A decimal other than zero with its point in place is a strict magnitude. -/
theorem isStrict_positional {d : Decimal} (h : d.digits ≠ 0) : d.positional.IsStrict := by
  have hdigits := isDigits_toDigits d.digits
  have hlength : 0 < (Nat.toDigits 10 d.digits).length := Nat.length_toDigits_pos
  have hzeros : ∀ n, ∀ c ∈ List.replicate n '0', c.isDigit = true := by
    intro n c hc
    rw [List.eq_of_mem_replicate hc]
    rfl
  unfold positional leading
  dsimp only
  split
  · refine ⟨isWhole_start h (hdigits.append (hzeros _)) ?_, ?_, by simp⟩
    · exact head?_append_left hdigits.ne_nil _
    · rintro _ ⟨⟩
      exact isWhole_zero.toIsDigits
  · split
    · -- The point stands between the first digit and the last one.
      refine ⟨isWhole_start h ⟨?_, ?_⟩ ?_, ?_, by simp⟩
      · rw [Ne, List.take_eq_nil_iff]
        rintro (hzero | hnil)
        · omega
        · exact hdigits.ne_nil hnil
      · intro c hc
        exact hdigits.isDigit c (List.mem_of_mem_take hc)
      · rw [List.head?_take, if_neg (by omega)]
      · rintro _ ⟨⟩
        refine ⟨?_, fun c hc => hdigits.isDigit c (List.mem_of_mem_drop hc)⟩
        rw [Ne, List.drop_eq_nil_iff]
        omega
    · refine ⟨isWhole_zero, ?_, by simp⟩
      rintro _ ⟨⟩
      refine ⟨by simp [hdigits.ne_nil], ?_⟩
      intro c hc
      rcases List.mem_append.mp hc with hc | hc
      · exact hzeros _ c hc
      · exact hdigits.isDigit c hc

/-- A decimal other than zero with an exponent is a strict magnitude. -/
theorem isStrict_scientific {d : Decimal} (h : d.digits ≠ 0) : d.scientific.IsStrict := by
  have hdigits := isDigits_toDigits d.digits
  have hlength : 0 < (Nat.toDigits 10 d.digits).length := Nat.length_toDigits_pos
  unfold scientific
  dsimp only
  refine ⟨isWhole_start h ⟨?_, ?_⟩ ?_, ?_, ?_⟩
  · simp [hdigits.ne_nil]
  · intro c hc
    exact hdigits.isDigit c (List.mem_of_mem_take hc)
  · rw [List.head?_take, if_neg (by decide)]
  · intro digits hfraction
    split at hfraction
    · simp at hfraction
    · obtain rfl := Option.some.inj hfraction
      refine ⟨?_, fun c hc => hdigits.isDigit c (List.mem_of_mem_drop hc)⟩
      rw [Ne, List.drop_eq_nil_iff]
      omega
  · rintro _ ⟨⟩
    exact ⟨Or.inl rfl, isDigits_toDigits _⟩

end Decimal

theorem Binary.isStrict_numeral (f : Format) (style : DecimalStyle) (b : Binary) :
    (b.numeral f style).IsStrict := by
  unfold Binary.numeral
  refine ⟨by dsimp only; split <;> simp, ?_⟩
  dsimp only
  split
  · refine ⟨isWhole_zero, ?_, by simp⟩
    rintro _ ⟨⟩
    exact isWhole_zero.toIsDigits
  · rename_i h
    have hdigits := Binary.shortest_digits_ne_zero f h
    unfold Decimal.magnitude
    split
    · exact Decimal.isStrict_positional hdigits
    · exact Decimal.isStrict_scientific hdigits

theorem Numeral.isStrict_ofInt (n : Int) : (Numeral.ofInt n).IsStrict := by
  refine ⟨?_, isWhole_toDigits n.natAbs, by simp, by simp⟩
  unfold Numeral.ofInt
  dsimp only
  split <;> simp

/-- **Every number is printed as a strict numeral.** -/
theorem Number.isStrict_numeral (n : Number) : n.numeral.IsStrict := by
  cases n with
  | int n => exact Numeral.isStrict_ofInt n
  | double b => exact Binary.isStrict_numeral _ _ b
  | single b => exact Binary.isStrict_numeral _ _ b

/-! ## The literal of an integer -/

/-- Digits alone are written as they are. -/
theorem Magnitude.text_digits (s : List Char) : (Magnitude.decimal s none none).text = s :=
  (List.append_nil _).trans (List.append_nil s)

namespace Numeral

/-- The literal of an integer: its digits, after the sign of a negative one. -/
theorem text_ofInt (n : Int) :
    (ofInt n).text = (if n < 0 then ['-'] else []) ++ Nat.toDigits 10 n.natAbs := by
  have hdigits : (ofInt n).magnitude.text = Nat.toDigits 10 n.natAbs := Magnitude.text_digits _
  rw [text, hdigits]
  congr 1
  unfold ofInt
  by_cases hn : n < 0
  · rw [if_pos hn, if_pos hn]
    rfl
  · rw [if_neg hn, if_neg hn]
    rfl

theorem text_ofInt_ne_nil (n : Int) : (ofInt n).text ≠ [] := by
  rw [text_ofInt]
  simp

/-- The literal of an integer is how the integer is shown. -/
theorem ofList_text_ofInt (n : Int) : String.ofList (ofInt n).text = toString n := by
  rw [text_ofInt]
  cases n with
  | ofNat m =>
      have hn : ¬ Int.ofNat m < 0 := Int.not_lt.mpr (Int.natCast_nonneg m)
      rw [if_neg hn, List.nil_append]
      exact Nat.toString_eq_ofList_toDigits.symm
  | negSucc m =>
      rw [if_pos (Int.negSucc_lt_zero m), String.ofList_append]
      exact congrArg ("-" ++ ·) Nat.toString_eq_ofList_toDigits.symm

/-- The characters of the literal of an integer. -/
theorem mem_text_ofInt {n : Int} {c : Char} (h : c ∈ (ofInt n).text) :
    c = '-' ∨ c.isDigit = true := by
  rw [text_ofInt] at h
  rcases List.mem_append.mp h with h | h
  · left
    by_cases hn : n < 0
    · simpa [hn] using h
    · simp [hn] at h
  · exact Or.inr ((isDigits_toDigits n.natAbs).isDigit c h)

/-- The literal of an integer has neither blanks nor letters. -/
theorem plain_of_mem_text_ofInt {n : Int} {c : Char} (h : c ∈ (ofInt n).text) :
    Text.isBlank c = false ∧ c ≠ 'x' := by
  have hall : ∀ c ∈ "-0123456789".toList, Text.isBlank c = false ∧ c ≠ 'x' :=
    List.all_iff_forall_prop.mp (by decide)
  rcases mem_text_ofInt h with rfl | hdigit
  · exact hall _ (by decide)
  · exact hall _ (List.mem_cons_of_mem _ (mem_of_isDigit hdigit))

theorem trim_text_ofInt (n : Int) : Text.trim (ofInt n).text = (ofInt n).text :=
  Text.trim_eq_self (fun _ hc => (plain_of_mem_text_ofInt (List.mem_of_mem_head? hc)).1)
    fun _ hc => (plain_of_mem_text_ofInt (List.mem_of_getLast? hc)).1

end Numeral

/-! ## Cutting a numeral off -/

namespace Strict

open Token (scanExponent)

/-- Whether a numeral that stands before a text ends there. -/
def EndsNumeral (rest : List Char) : Prop :=
  ∀ c, rest.head? = some c → c.isDigit = false ∧ c ≠ '.' ∧ c ≠ 'e' ∧ c ≠ 'E'

/-- A sign is read where digits follow. -/
theorem scan_sign {digits : List Char} (sign : Option Sign) (h : IsDigits digits)
    (rest : List Char) :
    Sign.scan (sign.elim [] Sign.text ++ (digits ++ rest)) = (sign, digits ++ rest) := by
  cases sign with
  | some sign => cases sign <;> rfl
  | none =>
      obtain ⟨c, more, rfl⟩ := List.exists_cons_of_ne_nil h.ne_nil
      have hc := h.isDigit c List.mem_cons_self
      have hplus : c ≠ '+' := by
        rintro rfl
        exact absurd hc (by decide)
      have hminus : c ≠ '-' := by
        rintro rfl
        exact absurd hc (by decide)
      simp [Sign.scan, hplus, hminus]

/-- An exponent, or none, is read to its end. -/
theorem scanExponent_written (sign : Option Sign) (whole : List Char)
    (fraction : Option (List Char)) {exponent : Option Exponent} {rest : List Char}
    (h : ∀ e, exponent = some e → (e.mark = 'e' ∨ e.mark = 'E') ∧ IsDigits e.digits)
    (hrest : EndsNumeral rest) :
    scanExponent sign whole fraction (exponent.elim [] Exponent.text ++ rest) =
      (.number ⟨sign, .decimal whole fraction exponent⟩, rest) := by
  cases exponent with
  | none =>
      cases rest with
      | nil => rfl
      | cons c rest =>
          obtain ⟨-, -, he, hE⟩ := hrest c rfl
          simp [scanExponent, he, hE]
  | some e =>
      obtain ⟨hmark, hdigits⟩ := h e rfl
      obtain ⟨htake, hdrop⟩ :=
        Text.span_append hdigits.isDigit (fun c hc => (hrest c hc).1)
      simp only [Option.elim_some, Exponent.text, List.cons_append, List.append_assoc,
        scanExponent, if_pos hmark, scan_sign e.sign hdigits, htake, hdrop,
        List.isEmpty_iff, if_neg hdigits.ne_nil]

/-- A fraction and an exponent, or neither, are read to their end. -/
theorem scanFraction_written (sign : Option Sign) (whole : List Char)
    {fraction : Option (List Char)} {exponent : Option Exponent} {rest : List Char}
    (hfraction : ∀ digits, fraction = some digits → IsDigits digits)
    (hexponent : ∀ e, exponent = some e → (e.mark = 'e' ∨ e.mark = 'E') ∧ IsDigits e.digits)
    (hrest : EndsNumeral rest) :
    scanFraction sign whole
        (fraction.elim [] ('.' :: ·) ++ (exponent.elim [] Exponent.text ++ rest)) =
      (.number ⟨sign, .decimal whole fraction exponent⟩, rest) := by
  have hscan := fun fraction => scanExponent_written sign whole fraction hexponent hrest
  -- What follows the digits before an exponent starts neither with a digit nor with a point.
  have hfollow : ∀ c, (exponent.elim [] Exponent.text ++ rest).head? = some c →
      c.isDigit = false ∧ c ≠ '.' := by
    intro c hc
    cases exponent with
    | none =>
        obtain ⟨hdigit, hpoint, -, -⟩ := hrest c hc
        exact ⟨hdigit, hpoint⟩
    | some e =>
        obtain rfl : e.mark = c := Option.some.inj hc
        rcases (hexponent e rfl).1 with hmark | hmark <;> rw [hmark] <;> decide
  cases fraction with
  | none =>
      rw [← hscan none, Option.elim_none, List.nil_append]
      unfold scanFraction
      split
      · rename_i more hmore
        exact ((hfollow '.' (by rw [hmore]; rfl)).2 rfl).elim
      · rfl
  | some digits =>
      have hdigits := hfraction digits rfl
      obtain ⟨htake, hdrop⟩ :=
        Text.span_append hdigits.isDigit (fun c hc => (hfollow c hc).1)
      simp only [Option.elim_some, List.cons_append, scanFraction, htake, hdrop,
        List.isEmpty_iff, if_neg hdigits.ne_nil, hscan (some digits)]

/-- A digit is no blank and starts a numeral. -/
theorem scan_digit {c : Char} (h : c.isDigit = true) (rest : List Char) :
    isSpace c = false ∧ scan c rest = scanMagnitude none (c :: rest) := by
  have hne : ∀ d : Char, d.isDigit = false → c ≠ d := by
    rintro d hd rfl
    simp [hd] at h
  constructor
  · simp [isSpace, hne ' ' rfl, hne '\t' rfl, hne '\n' rfl, hne '\r' rfl]
  · have hmark : Token.mark? c = none := by
      simp [Token.mark?, hne '[' rfl, hne ']' rfl, hne '\x7b' rfl, hne '\x7d' rfl, hne ',' rfl,
        hne ':' rfl]
    simp [scan, hmark, scanLong, hne '"' rfl, hne '-' rfl, h]

theorem text_decimal (whole : List Char) (fraction : Option (List Char))
    (exponent : Option Exponent) (rest : List Char) :
    (Magnitude.decimal whole fraction exponent).text ++ rest =
      whole ++ (fraction.elim [] ('.' :: ·) ++ (exponent.elim [] Exponent.text ++ rest)) := by
  change whole ++ _ ++ _ ++ rest = _
  rw [List.append_assoc, List.append_assoc]

/-- A magnitude is read to its end. -/
theorem scanMagnitude_written (sign : Option Sign) {m : Magnitude} {rest : List Char}
    (h : m.IsStrict) (hrest : EndsNumeral rest) :
    scanMagnitude sign (m.text ++ rest) = (.number ⟨sign, m⟩, rest) := by
  cases m with
  | decimal whole fraction exponent =>
      obtain ⟨hwhole, hfraction, hexponent⟩ := h
      have hfollow : ∀ c, (fraction.elim [] ('.' :: ·) ++
          (exponent.elim [] Exponent.text ++ rest)).head? = some c → c.isDigit = false := by
        intro c hc
        cases fraction with
        | some digits =>
            obtain rfl : '.' = c := Option.some.inj hc
            rfl
        | none =>
            cases exponent with
            | none => exact (hrest c hc).1
            | some e =>
                obtain rfl : e.mark = c := Option.some.inj hc
                rcases (hexponent e rfl).1 with hmark | hmark <;> rw [hmark] <;> decide
      obtain ⟨htake, hdrop⟩ := Text.span_append hwhole.isDigit hfollow
      have hnot : ¬ (whole.head? = some '0' ∧ 1 < whole.length) := by
        rintro ⟨hzero, hlong⟩
        have := hwhole.zero_alone hzero
        omega
      simp only [text_decimal, scanMagnitude, htake, hdrop, List.isEmpty_iff,
        if_neg hwhole.ne_nil, if_neg hnot,
        scanFraction_written sign whole hfraction hexponent hrest]
  | _ => exact h.elim

/-- A token is cut off where a text starts with its first character. -/
theorem tokens_cons {c : Char} {rest : List Char} (h : isSpace c = false) :
    tokens (c :: rest) = (scan c rest).1 :: tokens (scan c rest).2 := by
  have hdrop : (c :: rest).dropWhile isSpace = c :: rest := by simp [h]
  rw [tokens]
  split
  · rename_i hnil
    simp [hdrop] at hnil
  · rename_i d more hcons
    rw [hdrop, List.cons.injEq] at hcons
    rw [hcons.1, hcons.2]

/-- **A strict numeral is cut off** in front of what cannot continue it. -/
theorem tokens_numeral {n : Numeral} {rest : List Char} (h : n.IsStrict)
    (hrest : EndsNumeral rest) : tokens (n.text ++ rest) = .number n :: tokens rest := by
  obtain ⟨sign, m⟩ := n
  obtain ⟨hsign, hm⟩ := h
  have hscan := scanMagnitude_written sign hm hrest
  cases sign with
  | some sign =>
      cases sign with
      | plus => exact (hsign rfl).elim
      | minus =>
          have hfirst : scan '-' (m.text ++ rest) = (.number ⟨some .minus, m⟩, rest) := hscan
          have htext : Numeral.text ⟨some .minus, m⟩ ++ rest = '-' :: (m.text ++ rest) := rfl
          rw [htext, tokens_cons (by decide), hfirst]
  | none =>
      obtain ⟨c, more, hc, hmore⟩ : ∃ c more, c.isDigit = true ∧ m.text ++ rest = c :: more := by
        cases m with
        | decimal whole fraction exponent =>
            obtain ⟨c, digits, rfl⟩ := List.exists_cons_of_ne_nil hm.1.ne_nil
            exact ⟨c, _, hm.1.isDigit c List.mem_cons_self, text_decimal _ _ _ _⟩
        | _ => exact hm.elim
      have htext : Numeral.text ⟨none, m⟩ ++ rest = c :: more := hmore
      rw [hmore] at hscan
      obtain ⟨hspace, hdigit⟩ := scan_digit hc more
      rw [htext, tokens_cons hspace, hdigit, hscan]

end Strict

end ReportGrid
