import ReportGrid.Numeral.Value

/-!
# Tokens of a document

A document is read in two steps: its characters become tokens, and the tokens are put together.
Two dialects share the tokens, strict documents and relaxed ones.

A text between quotation marks may name characters beyond the basic plane by two escapes, one for
each half.  `Joined.ofPieces` puts the halves together and finds the ones that stand alone.

The end of a numeral, from its exponent on, is read in the same way in both dialects.

The first fault of a strict document has to be told apart from later ones, and what counts as a
fault depends on whether a reader wants the value or passes over it.  A token that is broken off
therefore carries both verdicts, and is always the last one.
-/

namespace ReportGrid

/-- The two ways of writing a document. -/
inductive Dialect where
  | strict
  | relaxed
deriving DecidableEq, Repr

/-- Why a document cannot be read: it ends early, it is no document, or it holds a value of another
kind than its reader wants. -/
inductive Fault where
  | incomplete
  | malformed
  | mismatch
deriving DecidableEq, Repr

/-- A word with a meaning of its own. -/
inductive Keyword where
  | null
  | true
  | false
  | infinity
  | nan
deriving DecidableEq, Repr

/-- The spelling of a word with a meaning. -/
def Keyword.spelling : Keyword → String
  | .null => "null"
  | .true => "true"
  | .false => "false"
  | .infinity => "Infinity"
  | .nan => "NaN"

/-- The word with a spelling. -/
def Keyword.ofSpelling? (s : String) : Option Keyword :=
  [.null, .true, .false, .infinity, .nan].find? fun k => k.spelling == s

/-- A part of a document.  A text or a name whose escapes stand for no text has no content. -/
inductive Token where
  | openArray
  | closeArray
  | openObject
  | closeObject
  | comma
  | colon
  | text (content : Option String)
  | name (content : Option String)
  | keyword (word : Keyword)
  | number (numeral : Numeral)
  | broken (isText : Bool) (skipped demanded : Fault)
deriving DecidableEq, Repr

/-- The tokens of a single character. -/
def Token.mark? (c : Char) : Option Token :=
  if c = '[' then some .openArray
  else if c = ']' then some .closeArray
  else if c = '\x7b' then some .openObject
  else if c = '\x7d' then some .closeObject
  else if c = ',' then some .comma
  else if c = ':' then some .colon
  else none

/-- A part of a text as it is written: a character, or a code unit of 16 bits given by an escape. -/
inductive Piece where
  | char (c : Char)
  | unit (n : Nat)
deriving DecidableEq, Repr

/-- Whether a code unit is the first half of a character. -/
def Piece.isHigh (n : Nat) : Bool :=
  0xD800 ≤ n && n ≤ 0xDBFF

/-- Whether a code unit is the second half of a character. -/
def Piece.isLow (n : Nat) : Bool :=
  0xDC00 ≤ n && n ≤ 0xDFFF

/-- The character with two halves.  Strict documents count from the first character beyond the basic
plane.  Relaxed documents set that bit instead of adding it, so it is lost for every second
plane. -/
def Dialect.pair (d : Dialect) (high low : Nat) : Char :=
  match d with
  | .strict => Char.ofNat (0x10000 + (((high - 0xD800) <<< 10) ||| (low - 0xDC00)))
  | .relaxed => Char.ofNat (((high - 0xD800) <<< 10) ||| (0x10000 + (low - 0xDC00)))

/-- What pieces stand for: a text, a text whose last character lacks its second half, or nothing
because a half stands alone. -/
inductive Joined where
  | text (s : List Char)
  | half
  | lone
deriving DecidableEq, Repr

/-- Puts a character in front. -/
def Joined.cons (c : Char) : Joined → Joined
  | .text s => .text (c :: s)
  | other => other

/-- What pieces stand for in a dialect. -/
def Joined.ofPieces (d : Dialect) : List Piece → Joined
  | [] => .text []
  | .char c :: rest => (ofPieces d rest).cons c
  | .unit n :: rest =>
    if Piece.isLow n then .lone
    else if Piece.isHigh n then
      match rest with
      | [] => .half
      | .unit m :: more => if Piece.isLow m then (ofPieces d more).cons (d.pair n m) else .lone
      | .char _ :: _ => .lone
    else (ofPieces d rest).cons (Char.ofNat n)

/-- The text, when all halves have found each other. -/
def Joined.text? : Joined → Option String
  | .text s => some (String.ofList s)
  | _ => none

/-- The code unit that four hexadecimal digits stand for. -/
def Piece.unit? (a b c d : Char) : Option Piece :=
  if [a, b, c, d].all fun x => (hexDigit? x).isSome then some (.unit (hexValue [a, b, c, d]))
  else none

namespace Token

/-- A numeral that stops where a digit has to follow. -/
def noDigit (rest : List Char) : Token :=
  if rest.isEmpty then .broken false .malformed .incomplete
  else .broken false .malformed .malformed

/-- Reads the exponent of a numeral, if there is one, and gives the numeral. -/
def scanExponent (sign : Option Sign) (whole : List Char) (fraction : Option (List Char)) :
    List Char → Token × List Char
  | [] => (.number ⟨sign, .decimal whole fraction none⟩, [])
  | c :: rest =>
    if c = 'e' ∨ c = 'E' then
      let (expSign, more) := Sign.scan rest
      let digits := more.takeWhile Char.isDigit
      if digits.isEmpty then (noDigit more, [])
      else (.number ⟨sign, .decimal whole fraction (some ⟨c, expSign, digits⟩)⟩,
        more.dropWhile Char.isDigit)
    else (.number ⟨sign, .decimal whole fraction none⟩, c :: rest)

theorem dropWhile_length (p : Char → Bool) (s : List Char) : (s.dropWhile p).length ≤ s.length :=
  (List.dropWhile_sublist p).length_le

theorem scanExponent_length (sign : Option Sign) (whole : List Char) (fraction : Option (List Char))
    (s : List Char) : (scanExponent sign whole fraction s).2.length ≤ s.length := by
  cases s with
  | nil => simp [scanExponent]
  | cons c rest =>
    have hs := Sign.scan_length rest
    have hd := dropWhile_length Char.isDigit (Sign.scan rest).2
    simp only [scanExponent]
    split
    · split
      · simp
      · simp only [List.length_cons]
        omega
    · simp

end Token

end ReportGrid
