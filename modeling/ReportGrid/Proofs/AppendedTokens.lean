import ReportGrid.Proofs.WrittenDocuments

/-!
# Tokens of a text in front of another one

A strict document is cut into tokens from left to right, and where a token ends depends on what
follows only by the next character.  A text that is cut into whole tokens is therefore cut the same
in front of another text (`Strict.tokens_append`), unless that goes on with a numeral at its end.
There is one lemma for each scan, from the parts of a numeral to a single token.
-/

namespace ReportGrid

/-- Whether a token is not broken off. -/
def Token.IsWhole : Token → Prop
  | .broken _ _ _ => False
  | _ => True

/-- A span ends where it ended before, unless what follows goes on with it. -/
theorem Text.span_append_rest {p : Char → Bool} {rest : List Char}
    (hrest : ∀ c, rest.head? = some c → p c = false) (s : List Char) :
    (s ++ rest).takeWhile p = s.takeWhile p ∧ (s ++ rest).dropWhile p = s.dropWhile p ++ rest := by
  induction s with
  | nil => simpa using span_append (s := []) (by simp) hrest
  | cons c s ih => cases hc : p c <;> simp [hc, ih]

namespace Strict
open Token (noDigit scanExponent)
variable {s rest : List Char}

/-- A numeral without a digit where one must stand is broken off. -/
theorem not_isWhole_noDigit (rest : List Char) : ¬ (noDigit rest).IsWhole := by
  unfold noDigit
  split <;> exact not_false

/-- A text that is closed is closed at the same place. -/
theorem scanText_append (h : (scanText s).fault = none) (rest : List Char) :
    scanText (s ++ rest) = ⟨(scanText s).pieces, none, (scanText s).rest ++ rest⟩ := by
  fun_induction scanText s with
  | case1 => simp [TextScan.stop] at h
  | case2 more => simp [scanText]
  | case3 a b c d more piece hpiece ih =>
      have hscan := ih h
      simp [scanText, hpiece, hscan, TextScan.cons]
  | case4 => simp [TextScan.stop] at h
  | case5 => simp [TextScan.stop] at h
  | case6 c more _ hu e he ih =>
      have hscan := ih h
      rw [List.cons_append, List.cons_append, scanText, he, hscan]
      · rfl
      · exact fun _ _ _ _ _ hc => absurd hc hu
      · exact hu
  | case7 => simp [TextScan.stop] at h
  | case8 => simp [TextScan.stop] at h
  | case9 => simp [TextScan.stop] at h
  | case10 c more hquote _ _ hslash hslash' hcontrol ih =>
      have hscan := ih h
      have hc : c ≠ '\\' := by
        rintro rfl
        cases more with
        | nil => exact hslash' rfl rfl
        | cons d more => exact hslash d more rfl rfl
      rw [List.cons_append, scanText_plain hquote hc hcontrol, hscan]
      rfl

/-- An exponent, or none, ends at the same place. -/
theorem scanExponent_append (sign : Option Sign) (whole : List Char)
    (fraction : Option (List Char)) (hrest : EndsNumeral rest)
    (h : (scanExponent sign whole fraction s).1.IsWhole) :
    scanExponent sign whole fraction (s ++ rest) =
      ((scanExponent sign whole fraction s).1,
        (scanExponent sign whole fraction s).2 ++ rest) := by
  cases s with
  | nil =>
      cases rest with
      | nil => rfl
      | cons c rest =>
          obtain ⟨-, -, he, hE⟩ := hrest c rfl
          simp [scanExponent, he, hE]
  | cons c more =>
      by_cases hc : c = 'e' ∨ c = 'E'
      · simp only [scanExponent, List.cons_append, if_pos hc] at h ⊢
        have hmore : more ≠ [] := by
          rintro rfl
          exact not_isWhole_noDigit [] h
        have hsign : Sign.scan (more ++ rest) =
            ((Sign.scan more).1, (Sign.scan more).2 ++ rest) := by
          obtain ⟨d, more, rfl⟩ := List.exists_cons_of_ne_nil hmore
          simp only [Sign.scan, List.cons_append]
          split <;> simp_all
        obtain ⟨htake, hdrop⟩ :=
          Text.span_append_rest (fun c hc => (hrest c hc).1) (Sign.scan more).2
        simp only [hsign, htake, hdrop]
        split at h
        · exact absurd h (not_isWhole_noDigit _)
        · rename_i hdigits
          simp [hdigits]
      · simp [scanExponent, hc]

/-- So does a fraction with what follows it. -/
theorem scanFraction_append (sign : Option Sign) (whole : List Char) (hrest : EndsNumeral rest)
    (h : (scanFraction sign whole s).1.IsWhole) :
    scanFraction sign whole (s ++ rest) =
      ((scanFraction sign whole s).1, (scanFraction sign whole s).2 ++ rest) := by
  by_cases hpoint : ∃ more, s = '.' :: more
  · obtain ⟨more, rfl⟩ := hpoint
    obtain ⟨htake, hdrop⟩ := Text.span_append_rest (fun c hc => (hrest c hc).1) more
    simp only [scanFraction, List.cons_append, htake, hdrop] at h ⊢
    split at h
    · exact absurd h (not_isWhole_noDigit _)
    · rename_i hdigits
      simpa [hdigits] using scanExponent_append sign whole _ hrest h
  · have hnone : ∀ t : List Char, (∀ more, t ≠ '.' :: more) →
        scanFraction sign whole t = scanExponent sign whole none t := by
      intro t ht
      unfold scanFraction
      split
      · exact absurd rfl (ht _)
      · rfl
    have hs : ∀ more, s ≠ '.' :: more := fun more hmore => hpoint ⟨more, hmore⟩
    have happend : ∀ more, s ++ rest ≠ '.' :: more := by
      intro more hmore
      cases s with
      | nil => exact (hrest '.' (by rw [← List.nil_append rest, hmore]; rfl)).2.1 rfl
      | cons c s => exact hs s (by rw [(List.cons.inj hmore).1])
    rw [hnone s hs] at h ⊢
    rw [hnone _ happend]
    exact scanExponent_append sign whole none hrest h

/-- A whole numeral ends at the same place, as nothing can go on with it. -/
theorem scanMagnitude_append (sign : Option Sign) (hrest : EndsNumeral rest)
    (h : (scanMagnitude sign s).1.IsWhole) :
    scanMagnitude sign (s ++ rest) =
      ((scanMagnitude sign s).1, (scanMagnitude sign s).2 ++ rest) := by
  obtain ⟨htake, hdrop⟩ := Text.span_append_rest (fun c hc => (hrest c hc).1) s
  simp only [scanMagnitude, htake, hdrop] at h ⊢
  split at h
  · exact absurd h (not_isWhole_noDigit _)
  · split at h
    · exact h.elim
    · rename_i hempty hzero
      simpa [hempty, hzero] using scanFraction_append sign _ hrest h

/-- A word ends after its last letter. -/
theorem scanWord_append (word : Keyword) (letters : List Char) (rest : List Char)
    (h : (scanWord word letters s).1.IsWhole) :
    scanWord word letters (s ++ rest) =
      ((scanWord word letters s).1, (scanWord word letters s).2 ++ rest) := by
  by_cases hword : letters <+: s
  · obtain ⟨more, rfl⟩ := hword
    simp [scanWord, List.isPrefixOf_iff_prefix]
  · simp only [scanWord, List.isPrefixOf_iff_prefix, if_neg hword] at h
    split at h <;> exact h.elim

/-- A token of several characters ends at the same place, whichever kind it is. -/
theorem scanLong_append (c : Char) (hrest : EndsNumeral rest)
    (h : (scanLong c s).1.IsWhole) :
    scanLong c (s ++ rest) = ((scanLong c s).1, (scanLong c s).2 ++ rest) := by
  unfold scanLong at h ⊢
  by_cases hquote : c = '"'
  · simp only [if_pos hquote] at h ⊢
    have hclosed : (scanText s).fault = none := by
      cases hfault : (scanText s).fault with
      | none => rfl
      | some fault =>
          simp only [TextScan.token, hfault] at h
          exact h.elim
    simp only [scanText_append hclosed, TextScan.token, hclosed]
  simp only [if_neg hquote] at h ⊢
  by_cases hminus : c = '-'
  · simp only [if_pos hminus] at h ⊢
    exact scanMagnitude_append _ hrest h
  simp only [if_neg hminus] at h ⊢
  by_cases hdigit : c.isDigit = true
  · simp only [if_pos hdigit] at h ⊢
    exact scanMagnitude_append _ hrest h
  simp only [if_neg hdigit] at h ⊢
  by_cases hnull : c = 'n'
  · simp only [if_pos hnull] at h ⊢
    exact scanWord_append _ _ _ h
  simp only [if_neg hnull] at h ⊢
  by_cases htrue : c = 't'
  · simp only [if_pos htrue] at h ⊢
    exact scanWord_append _ _ _ h
  simp only [if_neg htrue] at h ⊢
  by_cases hfalse : c = 'f'
  · simp only [if_pos hfalse] at h ⊢
    exact scanWord_append _ _ _ h
  · rw [if_neg hfalse] at h
    exact h.elim

/-- **One token** ends at the same place. -/
theorem scan_append (c : Char) (hrest : EndsNumeral rest) (h : (scan c s).1.IsWhole) :
    scan c (s ++ rest) = ((scan c s).1, (scan c s).2 ++ rest) := by
  cases hmark : Token.mark? c with
  | some mark => simp only [scan, hmark]
  | none =>
      simp only [scan, hmark] at h ⊢
      exact scanLong_append c hrest h

/-- Blanks at the start are passed over. -/
theorem tokens_dropWhile (s rest : List Char) :
    tokens (s.dropWhile isSpace ++ rest) = tokens (s ++ rest) := by
  induction s with
  | nil => rfl
  | cons c s ih =>
      cases hc : isSpace c with
      | true => rw [List.dropWhile_cons_of_pos hc, List.cons_append, tokens_space hc, ih]
      | false => rw [List.dropWhile_cons_of_neg (by simp [hc])]

/-- **A text is cut the same** in front of another one, which does not go on with its last numeral,
if none of its tokens is broken off. -/
theorem tokens_append (h : ∀ t ∈ tokens s, t.IsWhole) (hrest : EndsNumeral rest) :
    tokens (s ++ rest) = tokens s ++ tokens rest := by
  fun_induction tokens s with
  | case1 s hs => rw [← tokens_dropWhile, hs, List.nil_append, List.nil_append]
  | case2 s c more hs ih =>
      have hspace : isSpace c = false := by
        have hhead := List.head?_dropWhile_not isSpace s
        simpa [hs] using hhead
      have hscan := scan_append c hrest (h _ List.mem_cons_self)
      rw [← tokens_dropWhile, hs, List.cons_append, tokens_cons hspace, hscan,
        ih fun t ht => h t (List.mem_cons_of_mem _ ht), List.cons_append]

end Strict

end ReportGrid
