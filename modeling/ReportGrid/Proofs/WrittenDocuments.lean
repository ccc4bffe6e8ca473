import ReportGrid.Json.Reader
import ReportGrid.Proofs.WrittenNumerals

/-!
# What the printer writes

`Json.tree` is a value as it is written: numbers by their numerals, strings by their content, fields
in their order.  There is no fault in it (`Json.pass_tree`).

`Json.writeWith` is the printer with a choice: a last comma may stand in front of the closing mark
of every array and object that is not empty, as relaxed documents allow it.  Without the choice it
is the printer (`Json.writeWith_false`).

The rest is about single parts of a text.  `Json.escapeChar_cases` says how a character stands
between quotation marks, `Json.EndsItem` what may follow an item, and the lemmas about
`Strict.tokens` cut off what is printed, one token each.
-/

namespace ReportGrid

/-! ## Values as they are written -/

namespace Json

mutual

/-- A value as it is written. -/
def tree : Json → Tree
  | .null => .null
  | .bool value => .bool value
  | .number n => .number n.numeral
  | .string s => .text (some s)
  | .array items => .array (trees items) .closed
  | .object fields => .object (fieldTrees fields) .closed

/-- Items as they are written. -/
def trees : List Json → List Tree
  | [] => []
  | item :: rest => item.tree :: trees rest

/-- Fields as they are written. -/
def fieldTrees : List (String × Json) → List (Option String × Tree)
  | [] => []
  | (name, value) :: rest => (some name, value.tree) :: fieldTrees rest

end

@[simp] theorem trees_eq_map (items : List Json) : trees items = items.map tree := by
  induction items with
  | nil => rfl
  | cons item rest ih => rw [trees, ih, List.map_cons]

@[simp] theorem fieldTrees_eq_map (fields : List (String × Json)) :
    fieldTrees fields = fields.map fun field => (some field.1, field.2.tree) := by
  induction fields with
  | nil => rfl
  | cons field rest ih => rw [fieldTrees, ih, List.map_cons]

mutual

/-- There is no fault in a value as it is written. -/
theorem pass_tree (v : Json) : v.tree.pass = .ok () := by
  match v with
  | .null | .bool _ | .number _ | .string _ => rfl
  | .array items =>
      simp [tree, Tree.pass, passItems_map_tree items, Ending.skipped, bind, Except.bind]
  | .object fields =>
      simp [tree, Tree.pass, passFields_map_tree fields, Ending.skipped, bind, Except.bind]

theorem passItems_map_tree (items : List Json) : Tree.passItems (items.map tree) = .ok () := by
  match items with
  | [] => rfl
  | item :: rest =>
      simp [Tree.passItems, pass_tree item, passItems_map_tree rest, bind, Except.bind]

theorem passFields_map_tree (fields : List (String × Json)) :
    Tree.passFields (fields.map fun field => (some field.1, field.2.tree)) = .ok () := by
  match fields with
  | [] => rfl
  | (name, value) :: rest =>
      simp [Tree.passFields, pass_tree value, passFields_map_tree rest, bind, Except.bind]

end

end Json

/-! ## A last comma -/

namespace Json

/-- A last comma, or none. -/
def lastComma : Bool → List Char
  | true => [',']
  | false => []

mutual

/-- The text of a value, with or without last commas. -/
def writeWith (last : Bool) (layout : Option Nat) : Json → List Char
  | .null => "null".toList
  | .bool true => "true".toList
  | .bool false => "false".toList
  | .number n => n.text
  | .string s => quote s.toList
  | .array [] => ['[', ']']
  | .array (item :: rest) =>
    '[' :: gap (layout.map (· + 1)) ++ writeWith last (layout.map (· + 1)) item ++
      writeItemsWith last (layout.map (· + 1)) rest ++ lastComma last ++ gap layout ++ [']']
  | .object [] => ['\x7b', '\x7d']
  | .object ((name, value) :: rest) =>
    '\x7b' :: gap (layout.map (· + 1)) ++ quote name.toList ++ fieldMark layout ++
      writeWith last (layout.map (· + 1)) value ++
      writeFieldsWith last (layout.map (· + 1)) rest ++ lastComma last ++ gap layout ++ ['\x7d']

/-- The text of the items after the first one. -/
def writeItemsWith (last : Bool) (layout : Option Nat) : List Json → List Char
  | [] => []
  | item :: rest =>
    ',' :: gap layout ++ writeWith last layout item ++ writeItemsWith last layout rest

/-- The text of the fields after the first one. -/
def writeFieldsWith (last : Bool) (layout : Option Nat) : List (String × Json) → List Char
  | [] => []
  | (name, value) :: rest =>
    ',' :: gap layout ++ quote name.toList ++ fieldMark layout ++ writeWith last layout value ++
      writeFieldsWith last layout rest

end

mutual

/-- **Without last commas** the text is what the printer writes. -/
theorem writeWith_false (layout : Option Nat) (v : Json) :
    v.writeWith false layout = v.write layout := by
  match v with
  | .null | .bool true | .bool false | .number _ | .string _ | .array [] | .object [] => rfl
  | .array (item :: rest) =>
      rw [writeWith, write, writeWith_false _ item, writeItemsWith_false _ rest, lastComma,
        List.append_nil]
  | .object ((name, value) :: rest) =>
      rw [writeWith, write, writeWith_false _ value, writeFieldsWith_false _ rest, lastComma,
        List.append_nil]

theorem writeItemsWith_false (layout : Option Nat) (items : List Json) :
    writeItemsWith false layout items = writeItems layout items := by
  match items with
  | [] => rfl
  | item :: rest =>
      rw [writeItemsWith, writeItems, writeWith_false _ item, writeItemsWith_false _ rest]

theorem writeFieldsWith_false (layout : Option Nat) (fields : List (String × Json)) :
    writeFieldsWith false layout fields = writeFields layout fields := by
  match fields with
  | [] => rfl
  | (name, value) :: rest =>
      rw [writeFieldsWith, writeFields, writeWith_false _ value, writeFieldsWith_false _ rest]

end

end Json

/-! ## What may follow an item -/

/-- Whether a text goes on as it may behind an item: with the mark after it or a new line, or not at
all. -/
def Json.EndsItem (rest : List Char) : Prop :=
  ∀ c, rest.head? = some c → c ∈ [',', ']', '\x7d', '\n']

namespace Json

theorem endsItem_nil : EndsItem [] := by
  intro c hc
  simp at hc

theorem endsItem_cons {c : Char} (h : c ∈ [',', ']', '\x7d', '\n']) (rest : List Char) :
    EndsItem (c :: rest) := by
  intro d hd
  obtain rfl : c = d := Option.some.inj hd
  exact h

/-- A numeral ends there. -/
theorem EndsItem.endsNumeral {rest : List Char} (h : EndsItem rest) :
    Strict.EndsNumeral rest := by
  have hall : ∀ d ∈ [',', ']', '\x7d', '\n'],
      d.isDigit = false ∧ d ≠ '.' ∧ d ≠ 'e' ∧ d ≠ 'E' :=
    List.all_iff_forall_prop.mp (by decide)
  exact fun c hc => hall c (h c hc)

end Json

/-! ## Strings -/

/-- Four digits that write a control character stand for it. -/
theorem Piece.unit?_control :
    ∀ n < 32, Piece.unit? '0' '0' (Nat.digitChar (n / 16)) (Nat.digitChar (n % 16)) =
      some (.unit n) := by
  decide

/-- How a character is written: by a letter after a backslash, which stands for it in both dialects,
by the digits of its number, or as it is. -/
theorem Json.escapeChar_cases (c : Char) :
    (∃ letter ∈ ['"', '\\', 'b', 'f', 'n', 'r', 't'], escapeChar c = ['\\', letter] ∧
      Strict.escaped? letter = some c ∧ Relaxed.escaped? letter = some c) ∨
    (c.toNat < 0x20 ∧ escapeChar c =
      ['\\', 'u', '0', '0', Nat.digitChar (c.toNat / 16), Nat.digitChar (c.toNat % 16)]) ∨
    (c ≠ '"' ∧ c ≠ '\\' ∧ ¬ c.toNat < 0x20 ∧ escapeChar c = [c]) := by
  by_cases hletter : c ∈ ['"', '\\', '\x08', '\x0c', '\n', '\r', '\t']
  · simp only [List.mem_cons, List.not_mem_nil, or_false] at hletter
    rcases hletter with rfl | rfl | rfl | rfl | rfl | rfl | rfl <;>
      exact Or.inl ⟨_, by decide, rfl, rfl, rfl⟩
  · simp only [List.mem_cons, List.not_mem_nil, or_false, not_or] at hletter
    by_cases hcontrol : c.toNat < 0x20
    · exact Or.inr (Or.inl ⟨hcontrol, by simp [escapeChar, hletter, hcontrol]⟩)
    · exact Or.inr (Or.inr ⟨hletter.1, hletter.2.1, hcontrol,
        by simp [escapeChar, hletter, hcontrol]⟩)

namespace Joined

variable {d : Dialect} {pieces : List Piece} {s : List Char}

/-- A control character is no half of another one. -/
theorem ofPieces_control {n : Nat} (h : n < 32) (hs : ofPieces d pieces = .text s) :
    ofPieces d (.unit n :: pieces) = .text (Char.ofNat n :: s) := by
  have hlow : Piece.isLow n = false := by
    simp only [Piece.isLow, Bool.and_eq_false_iff, decide_eq_false_iff_not]
    omega
  have hhigh : Piece.isHigh n = false := by
    simp only [Piece.isHigh, Bool.and_eq_false_iff, decide_eq_false_iff_not]
    omega
  rw [ofPieces.eq_def]
  simp [hlow, hhigh, hs, cons]

theorem ofPieces_char (c : Char) (hs : ofPieces d pieces = .text s) :
    ofPieces d (.char c :: pieces) = .text (c :: s) := by
  rw [ofPieces, hs, cons]

end Joined

namespace Strict

/-- A character that is neither escaped nor a control character is read as it is. -/
theorem scanText_plain {c : Char} (hquote : c ≠ '"') (hslash : c ≠ '\\')
    (hcontrol : ¬ c.toNat < 0x20) (rest : List Char) :
    scanText (c :: rest) = (scanText rest).cons (.char c) := by
  rw [scanText.eq_def]
  split
  case h_1 heq => exact absurd heq (List.cons_ne_nil c rest)
  case h_2 heq => exact absurd (List.cons.inj heq).1 hquote
  case h_7 heq =>
    obtain ⟨rfl, rfl⟩ := List.cons.inj heq
    exact if_neg hcontrol
  all_goals
    next heq => exact absurd (List.cons.inj heq).1 hslash

/-- A letter after a backslash is read as the character that it stands for. -/
theorem scanText_escaped {letter c : Char} (hletter : letter ∈ ['"', '\\', 'b', 'f', 'n', 'r', 't'])
    (h : escaped? letter = some c) (rest : List Char) :
    scanText ('\\' :: letter :: rest) = (scanText rest).cons (.char c) := by
  simp only [List.mem_cons, List.not_mem_nil, or_false] at hletter
  rcases hletter with rfl | rfl | rfl | rfl | rfl | rfl | rfl <;> simp [scanText, h]

/-- **One character.**  What is written for a character is read as one piece, which stands for the
character in front of any text. -/
theorem scanText_escapeChar (c : Char) (rest : List Char) :
    ∃ piece, scanText (Json.escapeChar c ++ rest) = (scanText rest).cons piece ∧
      ∀ pieces s, Joined.ofPieces .strict pieces = .text s →
        Joined.ofPieces .strict (piece :: pieces) = .text (c :: s) := by
  have hchar : ∀ pieces s, Joined.ofPieces .strict pieces = .text s →
      Joined.ofPieces .strict (.char c :: pieces) = .text (c :: s) :=
    fun _ _ hs => Joined.ofPieces_char c hs
  obtain ⟨letter, hletter, hwritten, hescaped, -⟩ | ⟨hcontrol, hwritten⟩ |
    ⟨hquote, hslash, hcontrol, hwritten⟩ := Json.escapeChar_cases c
  · refine ⟨.char c, ?_, hchar⟩
    rw [hwritten, List.cons_append, List.singleton_append, scanText_escaped hletter hescaped]
  · refine ⟨.unit c.toNat, ?_, ?_⟩
    · simp only [hwritten, List.cons_append, List.nil_append]
      rw [scanText, Piece.unit?_control c.toNat hcontrol]
    · intro pieces s hs
      rw [Joined.ofPieces_control hcontrol hs, Char.ofNat_toNat]
  · rw [hwritten]
    exact ⟨.char c, scanText_plain hquote hslash hcontrol rest, hchar⟩

/-- The characters of a text are read up to the closing mark. -/
theorem scanText_quoted (s rest : List Char) :
    ∃ pieces, scanText (s.flatMap Json.escapeChar ++ '"' :: rest) = ⟨pieces, none, rest⟩ ∧
      Joined.ofPieces .strict pieces = .text s := by
  induction s with
  | nil => exact ⟨[], by simp [scanText], rfl⟩
  | cons c s ih =>
      obtain ⟨pieces, hscan, hjoined⟩ := ih
      obtain ⟨piece, hfirst, hcons⟩ :=
        scanText_escapeChar c (s.flatMap Json.escapeChar ++ '"' :: rest)
      refine ⟨piece :: pieces, ?_, hcons pieces s hjoined⟩
      rw [List.flatMap_cons, List.append_assoc, hfirst, hscan, TextScan.cons]

/-! ## Single tokens -/

/-- Blanks are passed over. -/
theorem tokens_space {c : Char} (h : isSpace c = true) (rest : List Char) :
    tokens (c :: rest) = tokens rest := by
  have hdrop : (c :: rest).dropWhile isSpace = rest.dropWhile isSpace := by simp [h]
  rw [tokens, tokens, hdrop]

/-- A mark is a token. -/
theorem tokens_mark {c : Char} {t : Token} (h : Token.mark? c = some t) (rest : List Char) :
    tokens (c :: rest) = t :: tokens rest := by
  have hspace : isSpace c = false := by
    cases hblank : isSpace c with
    | false => rfl
    | true =>
        simp only [isSpace, Bool.or_eq_true, decide_eq_true_eq] at hblank
        rcases hblank with ((rfl | rfl) | rfl) | rfl <;> simp [Token.mark?] at h
  rw [tokens_cons hspace]
  simp only [scan, h]

/-- A quoted text is a token. -/
theorem tokens_quote (s rest : List Char) :
    tokens (Json.quote s ++ rest) = .text (some (String.ofList s)) :: tokens rest := by
  obtain ⟨pieces, hscan, hjoined⟩ := scanText_quoted s rest
  have hfirst : scan '"' (s.flatMap Json.escapeChar ++ '"' :: rest) =
      (.text (some (String.ofList s)), rest) := by
    change (TextScan.token (scanText _), TextScan.rest (scanText _)) = _
    simp only [hscan, TextScan.token, hjoined, Joined.text?]
  have hquote : Json.quote s ++ rest = '"' :: (s.flatMap Json.escapeChar ++ '"' :: rest) := by
    simp [Json.quote]
  rw [hquote, tokens_cons (by decide), hfirst]

/-- A word is a token. -/
theorem tokens_word (c : Char) (letters : List Char) (word : Keyword)
    (hspace : isSpace c = false)
    (hscan : ∀ rest, scan c rest = scanWord word letters rest) (rest : List Char) :
    tokens (c :: (letters ++ rest)) = .keyword word :: tokens rest := by
  have hstarts : letters.isPrefixOf (letters ++ rest) = true := by
    rw [List.isPrefixOf_iff_prefix]
    exact List.prefix_append letters rest
  rw [tokens_cons hspace, hscan, scanWord, if_pos hstarts, List.drop_left']
  rfl

end Strict

end ReportGrid
