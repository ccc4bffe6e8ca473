import ReportGrid.Proofs.WrittenDocuments

/-!
# Tokens of relaxed documents

What the printer writes is cut by the relaxed reader too, where it goes on as it may behind an item
(`Json.EndsItem`).  Relaxed words and numerals go on with more characters than strict ones, and a
text ends at two characters that are not escaped.

* `tokens_mark`, `tokens_word`, `tokens_quote`, `tokens_ofInt` cut off what is printed;
* `scan_ne_openObject` — nothing but a brace opens an object.
-/

namespace ReportGrid

/-- Only a brace is the opening mark of an object. -/
theorem Token.eq_brace_of_mark? {c : Char} (h : Token.mark? c = some .openObject) :
    c = '\x7b' := by
  unfold Token.mark? at h
  grind

theorem Token.scanExponent_ne_openObject (sign : Option Sign) (whole : List Char)
    (fraction : Option (List Char)) (s : List Char) :
    (scanExponent sign whole fraction s).1 ≠ .openObject := by
  unfold scanExponent noDigit
  grind

namespace Relaxed

open Token (scanExponent)
open Json (EndsItem)

/-! ## The first token -/

/-- A token is cut off where a text starts with its first character. -/
theorem tokens_cons {c : Char} {rest : List Char} (hspace : isSpace c = false) (hslash : c ≠ '/') :
    tokens (c :: rest) = (scan c rest).1 :: tokens (scan c rest).2 := by
  have hskip : skip .blanks (c :: rest) = some (c :: rest) := by
    rw [skip.eq_def]
    split <;> simp_all
  rw [tokens]
  split
  · rename_i hnone
    simp [hskip] at hnone
  · rename_i hnil
    simp [hskip] at hnil
  · rename_i d more hcons
    rw [hskip, Option.some.injEq, List.cons.injEq] at hcons
    rw [hcons.1, hcons.2]

theorem nameToken_ne_openObject (pieces : List Piece) : nameToken pieces ≠ .openObject := by
  unfold nameToken
  grind

theorem scanNumeral_ne_openObject (sign : Option Sign) (s : List Char) :
    (scanNumeral sign s).1 ≠ .openObject := by
  have hexponent := Token.scanExponent_ne_openObject
  unfold scanNumeral scanHex scanDecimal broken
  grind

theorem scanSigned_ne_openObject (sign : Sign) (s : List Char) :
    (scanSigned sign s).1 ≠ .openObject := by
  unfold scanSigned
  split
  · exact Token.noConfusion
  · split
    · exact Token.noConfusion
    · exact scanNumeral_ne_openObject _ _

/-- **Nothing but a brace opens an object.** -/
theorem scan_ne_openObject {c : Char} (h : c ≠ '\x7b') (rest : List Char) :
    (scan c rest).1 ≠ .openObject := by
  have hmark := @Token.eq_brace_of_mark? c
  have hname := nameToken_ne_openObject
  have hnumeral := scanNumeral_ne_openObject
  have hsigned := scanSigned_ne_openObject
  unfold scan scanLong broken
  grind

/-! ## Blanks, marks and words -/

/-- Blanks are passed over. -/
theorem tokens_space {c : Char} (hspace : isSpace c = true) (hslash : c ≠ '/') (rest : List Char) :
    tokens (c :: rest) = tokens rest := by
  have hskip : skip .blanks (c :: rest) = skip .blanks rest := by
    rw [skip.eq_def]
    split <;> simp_all
  rw [tokens, tokens, hskip]

/-- A mark is a token. -/
theorem tokens_mark {c : Char} {t : Token} (h : Token.mark? c = some t) (rest : List Char) :
    tokens (c :: rest) = t :: tokens rest := by
  have hmarks : c ∈ ['[', ']', '\x7b', '\x7d', ',', ':'] := by
    unfold Token.mark? at h
    grind
  have hall : ∀ d ∈ ['[', ']', '\x7b', '\x7d', ',', ':'], isSpace d = false ∧ d ≠ '/' :=
    List.all_iff_forall_prop.mp (by decide)
  obtain ⟨hspace, hslash⟩ := hall c hmarks
  rw [tokens_cons hspace hslash]
  simp only [scan, h]

/-- A name is read to its end. -/
theorem scanName_append {s rest : List Char} (h : ∀ c ∈ s, isNamePart c = true ∧ c ≠ '\\')
    (hrest : ∀ c, rest.head? = some c → isNamePart c = false ∧ c ≠ '\\') :
    scanName (s ++ rest) = (s.map .char, rest) := by
  have hstep : ∀ (c : Char) (more : List Char), c ≠ '\\' → scanName (c :: more) =
      if isNamePart c then (.char c :: (scanName more).1, (scanName more).2)
      else ([], c :: more) := by
    intro c more hc
    rw [scanName.eq_def]
    split <;> simp_all
  induction s with
  | nil =>
      cases rest with
      | nil => rfl
      | cons c rest =>
          obtain ⟨hpart, hslash⟩ := hrest c rfl
          simp [hstep c rest hslash, hpart]
  | cons c s ih =>
      obtain ⟨hpart, hslash⟩ := h c List.mem_cons_self
      have htail := ih fun d hd => h d (List.mem_cons_of_mem _ hd)
      rw [List.cons_append, hstep c _ hslash, if_pos hpart, htail]
      rfl

/-- A name ends behind an item. -/
theorem not_isNamePart_of_endsItem {rest : List Char} (h : EndsItem rest) {c : Char}
    (hc : rest.head? = some c) : isNamePart c = false ∧ c ≠ '\\' := by
  have hall : ∀ d ∈ [',', ']', '\x7d', '\n'], isNamePart d = false ∧ d ≠ '\\' :=
    List.all_iff_forall_prop.mp (by decide)
  exact hall c (h c hc)

/-- A word is a token. -/
theorem tokens_word (c : Char) (letters : List Char) (word : Keyword) (hc : c ∈ ['n', 't', 'f'])
    (hparts : ∀ d ∈ c :: letters, isNamePart d = true ∧ d ≠ '\\')
    (hword : nameToken ((c :: letters).map .char) = .keyword word) {rest : List Char}
    (hrest : EndsItem rest) : tokens (c :: (letters ++ rest)) = .keyword word :: tokens rest := by
  have hall : ∀ d ∈ ['n', 't', 'f'], isSpace d = false ∧ d ≠ '/' ∧ Token.mark? d = none ∧
      d ∉ ['"', '\x27', '-', '+', '.'] ∧ d.isDigit = false ∧ isNameStart d = true :=
    List.all_iff_forall_prop.mp (by decide)
  obtain ⟨hspace, hslash, hmark, hother, hdigit, hstart⟩ := hall c hc
  simp only [List.mem_cons, List.not_mem_nil, or_false, not_or] at hother
  have hname := scanName_append hparts fun d hd => not_isNamePart_of_endsItem hrest hd
  have hscan : scan c (letters ++ rest) = (.keyword word, rest) := by
    rw [List.cons_append] at hname
    rw [← hword]
    simp [scan, hmark, scanLong, hother, hdigit, hstart, hname]
  rw [tokens_cons hspace hslash, hscan]

/-! ## Texts -/

/-- A character that is neither escaped nor the end of a line is read as it is. -/
theorem scanText_plain {c : Char} (hquote : c ≠ '"') (hslash : c ≠ '\\')
    (hend : isLineEnd c = false) (rest : List Char) :
    scanText '"' (c :: rest) = (scanText '"' rest).map fun (ps, r) => (.char c :: ps, r) := by
  rw [scanText.eq_def]
  split <;> simp_all

/-- A letter after a backslash is read as the character that it stands for. -/
theorem scanText_escaped {letter c : Char} (hletter : letter ∈ ['"', '\\', 'b', 'f', 'n', 'r', 't'])
    (h : escaped? letter = some c) (rest : List Char) :
    scanText '"' ('\\' :: letter :: rest) =
      (scanText '"' rest).map fun (ps, r) => (.char c :: ps, r) := by
  simp only [List.mem_cons, List.not_mem_nil, or_false] at hletter
  rcases hletter with rfl | rfl | rfl | rfl | rfl | rfl | rfl <;> simp [scanText, isLineEnd, h]

/-- **One character.**  What is written for a character is read as one piece, which stands for the
character in front of any text. -/
theorem scanText_escapeChar {c : Char} (h : c ≠ '\u2028' ∧ c ≠ '\u2029') (rest : List Char) :
    ∃ piece, scanText '"' (Json.escapeChar c ++ rest) =
        (scanText '"' rest).map (fun (ps, r) => (piece :: ps, r)) ∧
      ∀ pieces s, Joined.ofPieces .relaxed pieces = .text s →
        Joined.ofPieces .relaxed (piece :: pieces) = .text (c :: s) := by
  have hchar : ∀ pieces s, Joined.ofPieces .relaxed pieces = .text s →
      Joined.ofPieces .relaxed (.char c :: pieces) = .text (c :: s) :=
    fun _ _ hs => Joined.ofPieces_char c hs
  obtain ⟨letter, hletter, hwritten, -, hescaped⟩ | ⟨hcontrol, hwritten⟩ |
    ⟨hquote, hslash, hcontrol, hwritten⟩ := Json.escapeChar_cases c
  · refine ⟨.char c, ?_, hchar⟩
    rw [hwritten, List.cons_append, List.singleton_append, scanText_escaped hletter hescaped]
  · refine ⟨.unit c.toNat, ?_, ?_⟩
    · simp only [hwritten, List.cons_append, List.nil_append]
      rw [scanText, Piece.unit?_control c.toNat hcontrol, Option.bind_some]
    · intro pieces s hs
      rw [Joined.ofPieces_control hcontrol hs, Char.ofNat_toNat]
  · have hfeed : c ≠ '\n' := by
      rintro rfl
      exact hcontrol (by decide)
    have hreturn : c ≠ '\r' := by
      rintro rfl
      exact hcontrol (by decide)
    have hend : isLineEnd c = false := by simp [isLineEnd, hfeed, hreturn, h]
    rw [hwritten]
    exact ⟨.char c, scanText_plain hquote hslash hend rest, hchar⟩

/-- The characters of a text are read up to the closing mark. -/
theorem scanText_quoted {s : List Char} (h : '\u2028' ∉ s ∧ '\u2029' ∉ s) (rest : List Char) :
    ∃ pieces, scanText '"' (s.flatMap Json.escapeChar ++ '"' :: rest) = some (pieces, rest) ∧
      Joined.ofPieces .relaxed pieces = .text s := by
  induction s with
  | nil => exact ⟨[], by simp [scanText], rfl⟩
  | cons c s ih =>
      simp only [List.mem_cons, not_or] at h
      obtain ⟨pieces, hscan, hjoined⟩ := ih ⟨h.1.2, h.2.2⟩
      obtain ⟨piece, hfirst, hcons⟩ := scanText_escapeChar ⟨Ne.symm h.1.1, Ne.symm h.2.1⟩
        (s.flatMap Json.escapeChar ++ '"' :: rest)
      refine ⟨piece :: pieces, ?_, hcons pieces s hjoined⟩
      rw [List.flatMap_cons, List.append_assoc, hfirst, hscan]
      rfl

/-- A quoted text is a token. -/
theorem tokens_quote {s : String} (h : '\u2028' ∉ s.toList ∧ '\u2029' ∉ s.toList)
    (rest : List Char) :
    tokens (Json.quote s.toList ++ rest) = .text (some s) :: tokens rest := by
  obtain ⟨pieces, hscan, hjoined⟩ := scanText_quoted h rest
  have hfirst : scan '"' (s.toList.flatMap Json.escapeChar ++ '"' :: rest) =
      (.text (some s), rest) := by
    have hmark : Token.mark? '"' = none := by decide
    simp [scan, hmark, scanLong, hscan, hjoined, Joined.text?]
  have hquote : Json.quote s.toList ++ rest =
      '"' :: (s.toList.flatMap Json.escapeChar ++ '"' :: rest) := by
    simp [Json.quote]
  rw [hquote, tokens_cons (by decide) (by decide), hfirst]

/-! ## Integers -/

/-- Digits are read to their end. -/
theorem scanDecimal_written (sign : Option Sign) {digits rest : List Char} (h : IsWhole digits)
    (hrest : EndsItem rest) :
    scanDecimal sign (digits ++ rest) = (.number ⟨sign, .decimal digits none none⟩, rest) := by
  obtain ⟨htake, hdrop⟩ := Text.span_append h.isDigit fun c hc => (hrest.endsNumeral c hc).1
  have hnot : ¬ (digits.head? = some '0' ∧ 1 < digits.length) := by
    rintro ⟨hzero, hlong⟩
    have := h.zero_alone hzero
    omega
  have hnone : ∀ e, (none : Option Exponent) = some e →
      (e.mark = 'e' ∨ e.mark = 'E') ∧ IsDigits e.digits := by
    simp
  have hexponent := Strict.scanExponent_written sign digits none hnone hrest.endsNumeral
  have hnil : digits.isEmpty = false := by simpa using h.ne_nil
  unfold scanDecimal
  simp only [htake, hdrop, if_neg hnot, hnil]
  split
  · rename_i more
    exact absurd (hrest '.' rfl) (by decide)
  · simpa using hexponent

/-- The mark of a hexadecimal numeral cannot be found among digits. -/
theorem scanNumeral_written (sign : Option Sign) {digits rest : List Char} (h : IsWhole digits)
    (hrest : EndsItem rest) :
    scanNumeral sign (digits ++ rest) = (.number ⟨sign, .decimal digits none none⟩, rest) := by
  obtain ⟨c, more, rfl⟩ := List.exists_cons_of_ne_nil h.ne_nil
  have hsecond : ∀ d, (more ++ rest).head? = some d → d ≠ 'x' ∧ d ≠ 'X' := by
    have hmarks : ∀ d ∈ [',', ']', '\x7d', '\n'], d ≠ 'x' ∧ d ≠ 'X' :=
      List.all_iff_forall_prop.mp (by decide)
    have hdigits : ∀ d ∈ "0123456789".toList, d ≠ 'x' ∧ d ≠ 'X' :=
      List.all_iff_forall_prop.mp (by decide)
    intro d hd
    cases more with
    | nil => exact hmarks d (hrest d hd)
    | cons e more =>
        obtain rfl : e = d := Option.some.inj hd
        exact hdigits e (mem_of_isDigit (h.isDigit e (by simp)))
  unfold scanNumeral
  split
  · rename_i heq
    rw [List.cons_append, List.cons.injEq] at heq
    exact absurd rfl (hsecond 'x' (by rw [heq.2]; rfl)).1
  · rename_i heq
    rw [List.cons_append, List.cons.injEq] at heq
    exact absurd rfl (hsecond 'X' (by rw [heq.2]; rfl)).2
  · exact scanDecimal_written sign h hrest

/-- Digits with or without a minus sign are a token. -/
theorem tokens_digits {sign : Option Sign} (hsign : sign ≠ some .plus) {digits rest : List Char}
    (h : IsWhole digits) (hrest : EndsItem rest) :
    tokens (sign.elim [] Sign.text ++ (digits ++ rest)) =
      .number ⟨sign, .decimal digits none none⟩ :: tokens rest := by
  have hnumeral := scanNumeral_written sign h hrest
  obtain ⟨c, more, rfl⟩ := List.exists_cons_of_ne_nil h.ne_nil
  have hmem : c ∈ "0123456789".toList := mem_of_isDigit (h.isDigit c List.mem_cons_self)
  rw [List.cons_append] at hnumeral ⊢
  cases sign with
  | none =>
      have hall : ∀ d ∈ "0123456789".toList, isSpace d = false ∧ d ≠ '/' ∧
          Token.mark? d = none ∧ d ∉ ['"', '\x27', '-', '+'] ∧ d.isDigit = true :=
        List.all_iff_forall_prop.mp (by decide)
      obtain ⟨hspace, hslash, hmark, hother, hdigit⟩ := hall c hmem
      simp only [List.mem_cons, List.not_mem_nil, or_false, not_or] at hother
      have hscan : scan c (more ++ rest) =
          (.number ⟨none, .decimal (c :: more) none none⟩, rest) := by
        simp [scan, hmark, scanLong, hother, hdigit, hnumeral]
      rw [Option.elim_none, List.nil_append, tokens_cons hspace hslash, hscan]
  | some sign =>
      cases sign with
      | plus => exact (hsign rfl).elim
      | minus =>
          -- A digit starts neither of the words that may follow a sign.
          have hall : ∀ d ∈ "0123456789".toList, d ≠ 'I' ∧ d ≠ 'N' :=
            List.all_iff_forall_prop.mp (by decide)
          obtain ⟨hinfinity, hnan⟩ := hall c hmem
          have hscan : scan '-' (c :: (more ++ rest)) =
              (.number ⟨some .minus, .decimal (c :: more) none none⟩, rest) := by
            change scanSigned .minus (c :: (more ++ rest)) = _
            rw [scanSigned, if_neg (by simp [hinfinity.symm]), if_neg (by simp [hnan.symm]),
              hnumeral]
          change tokens ('-' :: c :: (more ++ rest)) = _
          rw [tokens_cons (by decide) (by decide), hscan]

/-- An integer is a token. -/
theorem tokens_ofInt (n : Int) {rest : List Char} (hrest : EndsItem rest) :
    tokens ((Numeral.ofInt n).text ++ rest) = .number (.ofInt n) :: tokens rest := by
  obtain ⟨sign, hsign, hn⟩ : ∃ sign, sign ≠ some .plus ∧
      Numeral.ofInt n = ⟨sign, .decimal (Nat.toDigits 10 n.natAbs) none none⟩ :=
    ⟨_, (Numeral.isStrict_ofInt n).1, rfl⟩
  have htext : (Numeral.ofInt n).text ++ rest =
      sign.elim [] Sign.text ++ (Nat.toDigits 10 n.natAbs ++ rest) := by
    rw [hn, Numeral.text, List.append_assoc, Strict.text_decimal]
    rfl
  rw [htext, hn, tokens_digits hsign (isWhole_toDigits n.natAbs) hrest]

end Relaxed

end ReportGrid
