import ReportGrid.Json.Token
import ReportGrid.Text.Letters

/-!
# Tokens of relaxed documents

`Relaxed.tokens` cuts a relaxed document into tokens.  Beyond strict documents there are comments,
more blanks, texts between apostrophes, more escapes and control characters in texts, names that
are not quoted, and more numerals.  Nobody asks for the kind of a fault here, so every broken token
is malformed.

Every token takes at least one character (`scan_length`), so the cutting comes to an end.
-/

namespace ReportGrid.Relaxed

open Token (scanExponent dropWhile_length scanExponent_length)

/-- The characters that end a line. -/
def isLineEnd (c : Char) : Bool :=
  c = '\n' || c = '\r' || c = '\u2028' || c = '\u2029'

/-- The blanks between tokens: the ends of lines, the blanks of the ASCII characters, the byte order
mark, and the separators of Unicode. -/
def isSpace (c : Char) : Bool :=
  isLineEnd c || c = '\t' || c = '\x0b' || c = '\x0c' || c = ' ' || c = '\u00a0' ||
    c = '\ufeff' || c = '\u1680' || ('\u2000' ≤ c && c ≤ '\u200a') || c = '\u202f' ||
    c = '\u205f' || c = '\u3000'

/-- Where in the blanks and comments between tokens a reader is. -/
inductive Gap where
  | blanks
  | line
  | block

/-- What follows blanks and comments; none when a comment is not closed. -/
def skip : Gap → List Char → Option (List Char)
  | .blanks, '/' :: '/' :: rest => skip .line rest
  | .blanks, '/' :: '*' :: rest => skip .block rest
  | .blanks, c :: rest => if isSpace c then skip .blanks rest else some (c :: rest)
  | .blanks, [] => some []
  | .line, c :: rest => if isLineEnd c then skip .blanks rest else skip .line rest
  | .line, [] => some []
  | .block, '*' :: '/' :: rest => skip .blanks rest
  | .block, _ :: rest => skip .block rest
  | .block, [] => none

/-- The token of something that is none. -/
def broken : Token :=
  .broken false .malformed .malformed

/-- The character that a character after a backslash stands for; digits other than zero stand for
none. -/
def escaped? (c : Char) : Option Char :=
  if c = 'b' then some '\x08'
  else if c = 'f' then some '\x0c'
  else if c = 'n' then some '\n'
  else if c = 'r' then some '\r'
  else if c = 't' then some '\t'
  else if c = 'v' then some '\x0b'
  else if c = '0' then some '\x00'
  else if c.isDigit ∨ c = 'x' ∨ c = 'u' then none
  else some c

/-- The character that two hexadecimal digits stand for. -/
def byte? (a b : Char) : Option Piece :=
  if (hexDigit? a).isSome && (hexDigit? b).isSome then some (.char (Char.ofNat (hexValue [a, b])))
  else none

/-- The pieces of a text after its opening mark, and what follows its closing mark; none when there
is no such text.  A backslash at the end of a line joins the line to the next one. -/
def scanText (mark : Char) : List Char → Option (List Piece × List Char)
  | [] => none
  | '\\' :: 'u' :: a :: b :: c :: d :: rest =>
    (Piece.unit? a b c d).bind fun piece => (scanText mark rest).map fun (ps, r) => (piece :: ps, r)
  | '\\' :: 'x' :: a :: b :: rest =>
    (byte? a b).bind fun piece => (scanText mark rest).map fun (ps, r) => (piece :: ps, r)
  | '\\' :: '\r' :: '\n' :: rest => scanText mark rest
  | '\\' :: c :: rest =>
    if isLineEnd c then scanText mark rest
    else (escaped? c).bind fun e => (scanText mark rest).map fun (ps, r) => (.char e :: ps, r)
  | c :: rest =>
    if c = mark then some ([], rest)
    else if c = '\\' ∨ isLineEnd c then none
    else (scanText mark rest).map fun (ps, r) => (.char c :: ps, r)

/-- Whether a name may start with a character. -/
def isNameStart (c : Char) : Bool :=
  Text.isLetter c || c = '$' || c = '_'

/-- Whether a name may go on with a character. -/
def isNamePart (c : Char) : Bool :=
  isNameStart c || Text.isMark c || c = '\u200c' || c = '\u200d'

/-- The longest start of a text that may go on a name, and what follows it. -/
def scanName : List Char → List Piece × List Char
  | [] => ([], [])
  | '\\' :: 'u' :: a :: b :: c :: d :: rest =>
    match Piece.unit? a b c d with
    | some piece => (piece :: (scanName rest).1, (scanName rest).2)
    | none => ([], '\\' :: 'u' :: a :: b :: c :: d :: rest)
  | c :: rest =>
    if isNamePart c then (.char c :: (scanName rest).1, (scanName rest).2) else ([], c :: rest)

/-- The token of a name.  Only a name without escapes is a word with a meaning. -/
def nameToken (pieces : List Piece) : Token :=
  let content := (Joined.ofPieces .relaxed pieces).text?
  let word :=
    if pieces.all fun p => p matches .char _ then content.bind Keyword.ofSpelling? else none
  match word with
  | some keyword => .keyword keyword
  | none => .name content

/-- Reads a hexadecimal numeral after its mark. -/
def scanHex (sign : Option Sign) (mark : Char) (s : List Char) : Token × List Char :=
  let isHex := fun c => (hexDigit? c).isSome
  let digits := s.takeWhile isHex
  if digits.isEmpty then (broken, []) else (.number ⟨sign, .hex mark digits⟩, s.dropWhile isHex)

/-- Reads a decimal numeral.  The whole part or the fraction may lack its digits, not both. -/
def scanDecimal (sign : Option Sign) (s : List Char) : Token × List Char :=
  let whole := s.takeWhile Char.isDigit
  if whole.head? = some '0' ∧ 1 < whole.length then (broken, [])
  else
    match s.dropWhile Char.isDigit with
    | '.' :: rest =>
      let fraction := rest.takeWhile Char.isDigit
      if whole.isEmpty && fraction.isEmpty then (broken, [])
      else scanExponent sign whole (some fraction) (rest.dropWhile Char.isDigit)
    | rest => if whole.isEmpty then (broken, []) else scanExponent sign whole none rest

/-- Reads a numeral after its sign. -/
def scanNumeral (sign : Option Sign) (s : List Char) : Token × List Char :=
  match s with
  | '0' :: 'x' :: rest => scanHex sign 'x' rest
  | '0' :: 'X' :: rest => scanHex sign 'X' rest
  | _ => scanDecimal sign s

/-- Reads what follows a sign: a numeral, infinity or no number. -/
def scanSigned (sign : Sign) (s : List Char) : Token × List Char :=
  if "Infinity".toList.isPrefixOf s then (.number ⟨some sign, .infinity⟩, s.drop 8)
  else if "NaN".toList.isPrefixOf s then (.number ⟨some sign, .nan⟩, s.drop 3)
  else scanNumeral (some sign) s

/-- Reads a token other than a single mark, after its first character. -/
def scanLong (c : Char) (rest : List Char) : Token × List Char :=
  if c = '"' ∨ c = '\x27' then
    match scanText c rest with
    | some (pieces, more) => (.text (Joined.ofPieces .relaxed pieces).text?, more)
    | none => (broken, [])
  else if c = '-' then scanSigned .minus rest
  else if c = '+' then scanSigned .plus rest
  else if c.isDigit ∨ c = '.' then scanNumeral none (c :: rest)
  else if isNameStart c ∨ c = '\\' then
    match scanName (c :: rest) with
    | ([], _) => (broken, [])
    | (pieces, more) => (nameToken pieces, more)
  else (broken, [])

/-- The first token of a text that does not start with a blank, and what follows it. -/
def scan (c : Char) (rest : List Char) : Token × List Char :=
  match Token.mark? c with
  | some mark => (mark, rest)
  | none => scanLong c rest

theorem skip_length (gap : Gap) (s r : List Char) (h : skip gap s = some r) :
    r.length ≤ s.length := by
  fun_induction skip gap s generalizing r <;> grind

theorem scanText_length (mark : Char) (s : List Char) (ps : List Piece) (r : List Char)
    (h : scanText mark s = some (ps, r)) : r.length ≤ s.length := by
  fun_induction scanText mark s generalizing ps r <;>
    grind [Option.map_eq_some_iff, Option.bind_eq_some_iff]

theorem scanName_length (s : List Char) :
    (scanName s).2.length ≤ s.length ∧
      ((scanName s).1 ≠ [] → (scanName s).2.length < s.length) := by
  fun_induction scanName s <;> grind

theorem scanHex_length (sign : Option Sign) (mark : Char) (s : List Char) :
    (scanHex sign mark s).2.length ≤ s.length := by
  simp only [scanHex]
  split
  · simp
  · exact dropWhile_length _ s

theorem scanDecimal_length (sign : Option Sign) (s : List Char) :
    (scanDecimal sign s).2.length ≤ s.length - 1 := by
  have hd := dropWhile_length Char.isDigit s
  simp only [scanDecimal]
  split
  · simp
  · split
    · rename_i rest hrest
      simp only [hrest, List.length_cons] at hd
      split
      · simp
      · have h1 := scanExponent_length sign (s.takeWhile Char.isDigit)
          (some (rest.takeWhile Char.isDigit)) (rest.dropWhile Char.isDigit)
        have h2 := dropWhile_length Char.isDigit rest
        omega
    · split
      · simp
      · have h1 := scanExponent_length sign (s.takeWhile Char.isDigit) none
          (s.dropWhile Char.isDigit)
        have h2 : (s.dropWhile Char.isDigit).length + 1 ≤ s.length := by
          cases s with
          | nil => simp_all
          | cons c rest =>
            have := dropWhile_length Char.isDigit rest
            by_cases hc : c.isDigit <;> simp_all
        omega

theorem scanNumeral_length (sign : Option Sign) (s : List Char) :
    (scanNumeral sign s).2.length ≤ s.length - 1 := by
  unfold scanNumeral
  split
  · rename_i rest
    have := scanHex_length sign 'x' rest
    simp only [List.length_cons]
    omega
  · rename_i rest
    have := scanHex_length sign 'X' rest
    simp only [List.length_cons]
    omega
  · exact scanDecimal_length sign s

theorem scanSigned_length (sign : Sign) (s : List Char) :
    (scanSigned sign s).2.length ≤ s.length := by
  have := scanNumeral_length (some sign) s
  unfold scanSigned
  split
  · simp
  · split
    · simp
    · omega

theorem scanLong_length (c : Char) (rest : List Char) :
    (scanLong c rest).2.length ≤ rest.length := by
  have h1 := scanText_length c rest
  have h2 := scanNumeral_length none (c :: rest)
  have h3 := scanName_length (c :: rest)
  simp only [List.length_cons] at h2 h3
  unfold scanLong
  split
  · split
    · rename_i pieces more hscan
      exact h1 _ _ hscan
    · simp
  · split
    · exact scanSigned_length .minus rest
    · split
      · exact scanSigned_length .plus rest
      · split
        · omega
        · split
          · split
            · simp
            · grind
          · simp

/-- What follows a token is no longer than what follows its first character. -/
theorem scan_length (c : Char) (rest : List Char) : (scan c rest).2.length ≤ rest.length := by
  unfold scan
  split
  · exact Nat.le_refl _
  · exact scanLong_length c rest

/-- What follows the first token of a text is shorter than the text. -/
theorem rest_length {s rest : List Char} {c : Char} (h : skip .blanks s = some (c :: rest)) :
    (scan c rest).2.length < s.length := by
  have hs := skip_length .blanks s _ h
  have hr := scan_length c rest
  simp only [List.length_cons] at hs
  omega

/-- The tokens of a relaxed document. -/
def tokens (s : List Char) : List Token :=
  match _h : skip .blanks s with
  | none => [broken]
  | some [] => []
  | some (c :: rest) => (scan c rest).1 :: tokens (scan c rest).2
termination_by s.length
decreasing_by exact rest_length _h

end ReportGrid.Relaxed
