import ReportGrid.Json.Token

/-!
# Tokens of strict documents

`Strict.tokens` cuts a strict document into tokens.  The blanks are space, tab, line feed and
carriage return; texts stand between quotation marks and hold no control characters; numerals have
no plus sign and no zero in front of other digits.

The first thing that is no token ends the list with a broken one.  Two rules decide whether it
counts as the end of the document or as a malformed part:

* an escape of four hexadecimal digits needs four more bytes before the digits are looked at;
* a numeral that stops where a digit has to follow is incomplete when its value is wanted, and
  malformed when it is passed over.

Every token takes at least one character (`scan_length`), so the cutting comes to an end.
-/

namespace ReportGrid.Strict

open Token (noDigit scanExponent dropWhile_length scanExponent_length)

/-- The blanks between tokens. -/
def isSpace (c : Char) : Bool :=
  c = ' ' || c = '\t' || c = '\n' || c = '\r'

/-- The character that a letter after a backslash stands for. -/
def escaped? (c : Char) : Option Char :=
  if c = '"' ∨ c = '\\' ∨ c = '/' then some c
  else if c = 'b' then some '\x08'
  else if c = 'f' then some '\x0c'
  else if c = 'n' then some '\n'
  else if c = 'r' then some '\r'
  else if c = 't' then some '\t'
  else none

/-- A text after its opening mark: its pieces up to the closing mark or to a fault, and what
follows. -/
structure TextScan where
  pieces : List Piece
  fault : Option Fault
  rest : List Char

/-- A scan that stops at a fault. -/
def TextScan.stop (fault : Fault) : TextScan :=
  ⟨[], some fault, []⟩

/-- A scan with one more piece in front. -/
def TextScan.cons (p : Piece) (s : TextScan) : TextScan :=
  { s with pieces := p :: s.pieces }

/-- The fault of an escape that is not followed by four hexadecimal digits. -/
def shortEscape (following : List Char) : Fault :=
  if following.foldl (fun bytes c => bytes + c.utf8Size) 0 < 4 then .incomplete else .malformed

/-- Reads a text after its opening mark. -/
def scanText : List Char → TextScan
  | [] => .stop .incomplete
  | '"' :: rest => ⟨[], none, rest⟩
  | '\\' :: 'u' :: a :: b :: c :: d :: rest =>
    match Piece.unit? a b c d with
    | some piece => (scanText rest).cons piece
    | none => .stop (shortEscape [a, b, c, d])
  | '\\' :: 'u' :: short => .stop (shortEscape short)
  | '\\' :: c :: rest =>
    match escaped? c with
    | some e => (scanText rest).cons (.char e)
    | none => .stop .malformed
  | ['\\'] => .stop .incomplete
  | c :: rest => if c.toNat < 0x20 then .stop .malformed else (scanText rest).cons (.char c)

/-- The token of a text.  A half character that stands alone is a fault for a reader who wants the
text, and comes before a fault at the end. -/
def TextScan.token (s : TextScan) : Token :=
  let joined := Joined.ofPieces .strict s.pieces
  match s.fault with
  | none => .text joined.text?
  | some fault => .broken true fault (if joined = .lone then .malformed else fault)

/-- Reads what follows the whole part of a numeral. -/
def scanFraction (sign : Option Sign) (whole : List Char) : List Char → Token × List Char
  | '.' :: rest =>
    let digits := rest.takeWhile Char.isDigit
    if digits.isEmpty then (noDigit rest, [])
    else scanExponent sign whole (some digits) (rest.dropWhile Char.isDigit)
  | rest => scanExponent sign whole none rest

/-- Reads a numeral after its sign. -/
def scanMagnitude (sign : Option Sign) (s : List Char) : Token × List Char :=
  let whole := s.takeWhile Char.isDigit
  let rest := s.dropWhile Char.isDigit
  if whole.isEmpty then (noDigit rest, [])
  else if whole.head? = some '0' ∧ 1 < whole.length then (.broken false .malformed .malformed, [])
  else scanFraction sign whole rest

/-- Reads a word after its first letter. -/
def scanWord (word : Keyword) (letters rest : List Char) : Token × List Char :=
  if letters.isPrefixOf rest then (.keyword word, rest.drop letters.length)
  else if rest.isPrefixOf letters then (.broken false .incomplete .incomplete, [])
  else (.broken false .malformed .malformed, [])

/-- Reads a token other than a single mark, after its first character. -/
def scanLong (c : Char) (rest : List Char) : Token × List Char :=
  if c = '"' then ((scanText rest).token, (scanText rest).rest)
  else if c = '-' then scanMagnitude (some .minus) rest
  else if c.isDigit then scanMagnitude none (c :: rest)
  else if c = 'n' then scanWord .null "ull".toList rest
  else if c = 't' then scanWord .true "rue".toList rest
  else if c = 'f' then scanWord .false "alse".toList rest
  else (.broken false .malformed .malformed, [])

/-- The first token of a text that does not start with a blank, and what follows it. -/
def scan (c : Char) (rest : List Char) : Token × List Char :=
  match Token.mark? c with
  | some mark => (mark, rest)
  | none => scanLong c rest

theorem scanText_length (s : List Char) : (scanText s).rest.length ≤ s.length := by
  fun_induction scanText s <;> simp_all [TextScan.stop, TextScan.cons] <;> omega

theorem scanFraction_length (sign : Option Sign) (whole s : List Char) :
    (scanFraction sign whole s).2.length ≤ s.length := by
  unfold scanFraction
  split
  · rename_i rest
    have hd := dropWhile_length Char.isDigit rest
    have he := scanExponent_length sign whole (some (rest.takeWhile Char.isDigit))
      (rest.dropWhile Char.isDigit)
    dsimp only
    split
    · simp
    · simp only [List.length_cons]
      omega
  · exact scanExponent_length sign whole none s

theorem scanMagnitude_length (sign : Option Sign) (s : List Char) :
    (scanMagnitude sign s).2.length ≤ s.length - 1 := by
  simp only [scanMagnitude]
  split
  · simp
  · split
    · simp
    · have hd : (s.dropWhile Char.isDigit).length + 1 ≤ s.length := by
        cases s with
        | nil => simp_all
        | cons c rest =>
          have := dropWhile_length Char.isDigit rest
          by_cases hc : c.isDigit <;> simp_all
      have := scanFraction_length sign (s.takeWhile Char.isDigit) (s.dropWhile Char.isDigit)
      omega

theorem scanWord_length (word : Keyword) (letters rest : List Char) :
    (scanWord word letters rest).2.length ≤ rest.length := by
  unfold scanWord
  split
  · simp
  · split <;> simp

theorem scanLong_length (c : Char) (rest : List Char) :
    (scanLong c rest).2.length ≤ rest.length := by
  have h1 := scanText_length rest
  have h2 := scanMagnitude_length (some .minus) rest
  have h3 := scanMagnitude_length none (c :: rest)
  have h4 := fun word letters => scanWord_length word letters rest
  simp only [List.length_cons] at h3
  unfold scanLong
  repeat' split
  all_goals first
    | exact h1
    | exact h4 _ _
    | exact Nat.zero_le _
    | omega

/-- What follows a token is no longer than what follows its first character. -/
theorem scan_length (c : Char) (rest : List Char) : (scan c rest).2.length ≤ rest.length := by
  unfold scan
  split
  · exact Nat.le_refl _
  · exact scanLong_length c rest

/-- What follows the first token of a text is shorter than the text. -/
theorem rest_length {s rest : List Char} {c : Char} (h : s.dropWhile isSpace = c :: rest) :
    (scan c rest).2.length < s.length := by
  have hs := dropWhile_length isSpace s
  have hr := scan_length c rest
  simp only [h, List.length_cons] at hs
  omega

/-- The tokens of a strict document. -/
def tokens (s : List Char) : List Token :=
  match _h : s.dropWhile isSpace with
  | [] => []
  | c :: rest => (scan c rest).1 :: tokens (scan c rest).2
termination_by s.length
decreasing_by exact rest_length _h

end ReportGrid.Strict
