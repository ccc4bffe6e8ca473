import ReportGrid.Proofs.LayoutRoundTrip
import ReportGrid.Proofs.VisibleText
import Mathlib.Data.List.Forall2

/-!
# The rows of any template

What a template gives is told here line by line, for any text and not only for written layouts.

* `Layout.isBare_iff` — a line gives no row exactly when there is no token between its brackets
  (`IsBare`), so that every other line gives one (`Layout.gives_of_not_isBare`);
* `Layout.letters_lineTokens` — neither the cut at the separators nor the way back to the whole line
  loses anything but blanks, brackets and bars;
* `Layout.parse_lines` — the rows of a template, in one-to-one order with its lines.

Separators are cut at from left to right, and pieces without a token are dropped.  They had nothing
but blanks and brackets, which is why nothing is lost with them.
-/

namespace ReportGrid.Layout

/-! ## Brackets -/

/-- An opening bracket is taken off, or nothing. -/
theorem exists_opening (s : List Char) :
    ∃ opening, (opening = [] ∨ opening = ['[']) ∧ s = opening ++ dropOpening s := by
  unfold dropOpening
  split
  · exact ⟨['['], Or.inr rfl, rfl⟩
  · exact ⟨[], Or.inl rfl, rfl⟩

/-- A closing bracket is taken off, or nothing. -/
theorem exists_closing (s : List Char) :
    ∃ closing, (closing = [] ∨ closing = [']']) ∧ s = dropClosing s ++ closing := by
  unfold dropClosing
  split
  · rename_i hlast
    obtain ⟨start, rfl⟩ := List.getLast?_eq_some_iff.mp hlast
    exact ⟨[']'], Or.inr rfl, by rw [List.dropLast_concat]⟩
  · exact ⟨[], Or.inl rfl, (List.append_nil s).symm⟩

/-- **What is taken off** a text are brackets and blanks at its ends. -/
theorem exists_stripped (s : List Char) :
    ∃ opening before after closing, s = opening ++ (before ++ stripBrackets s ++ after) ++ closing ∧
      (opening = [] ∨ opening = ['[']) ∧ (∀ c ∈ before, Text.isBlank c = true) ∧
      (∀ c ∈ after, Text.isBlank c = true) ∧ (closing = [] ∨ closing = [']']) := by
  obtain ⟨opening, hopening, hs⟩ := exists_opening s
  obtain ⟨closing, hclosing, hinside⟩ := exists_closing (dropOpening s)
  obtain ⟨before, after, hpad, hbefore, hafter⟩ :=
    Text.exists_trim_pad (dropClosing (dropOpening s))
  refine ⟨opening, before, after, closing, ?_, hopening, hbefore, hafter, hclosing⟩
  rw [stripBrackets, ← hpad, List.append_assoc, ← hinside, ← hs]

theorem stripBrackets_isInfix (s : List Char) : stripBrackets s <:+: s := by
  obtain ⟨opening, before, after, closing, hs, -⟩ := exists_stripped s
  exact ⟨opening ++ before, after ++ closing, by simpa using hs.symm⟩

/-- Whether a line has no token: without the blanks at its ends it is nothing but blanks between at
most one opening and at most one closing bracket. -/
def IsBare (line : List Char) : Prop :=
  ∃ opening blanks closing, Text.trim line = opening ++ blanks ++ closing ∧
    (opening = [] ∨ opening = ['[']) ∧ (∀ c ∈ blanks, Text.isBlank c = true) ∧
    (closing = [] ∨ closing = [']'])

/-- Brackets with nothing but blanks between them have no token. -/
theorem stripBrackets_blanks {opening blanks closing : List Char}
    (hopening : opening = [] ∨ opening = ['[']) (hblanks : ∀ c ∈ blanks, Text.isBlank c = true)
    (hclosing : closing = [] ∨ closing = [']']) :
    stripBrackets (opening ++ blanks ++ closing) = [] := by
  have hbracket : ∀ c ∈ blanks, c ≠ '[' ∧ c ≠ ']' := by
    intro c hc
    constructor <;> rintro rfl <;> exact absurd (hblanks _ hc) (by decide)
  have hinside : dropOpening (opening ++ blanks ++ closing) = blanks ++ closing := by
    rcases hopening with rfl | rfl
    · cases blanks with
      | nil => rcases hclosing with rfl | rfl <;> rfl
      | cons c blanks =>
          have hc := (hbracket c List.mem_cons_self).1
          simp [dropOpening, hc]
    · rfl
  have hleft : dropClosing (blanks ++ closing) = blanks := by
    rcases hclosing with rfl | rfl
    · have hlast : blanks.getLast? ≠ some ']' :=
        fun hmem => (hbracket ']' (List.mem_of_getLast? hmem)).2 rfl
      rw [List.append_nil, dropClosing, if_neg hlast]
    · simp [dropClosing]
  rw [stripBrackets, hinside, hleft, Text.trim_eq_nil_iff]
  exact hblanks

/-- **Lines without a token**, told by what is left between the brackets. -/
theorem isBare_iff (line : List Char) : IsBare line ↔ stripBrackets (Text.trim line) = [] := by
  constructor
  · rintro ⟨opening, blanks, closing, hline, hopening, hblanks, hclosing⟩
    rw [hline, stripBrackets_blanks hopening hblanks hclosing]
  · intro h
    obtain ⟨opening, before, after, closing, hline, hopening, hbefore, hafter, hclosing⟩ :=
      exists_stripped (Text.trim line)
    rw [h, List.append_nil] at hline
    refine ⟨opening, before ++ after, closing, hline, hopening, ?_, hclosing⟩
    exact fun c hc => (List.mem_append.mp hc).elim (hbefore c) (hafter c)

instance (line : List Char) : Decidable (IsBare line) :=
  decidable_of_iff _ (isBare_iff line).symm

/-! ## Tokens of a line -/

/-- A line without a token is never cut into several. -/
theorem pieceTokens_length_of_stripBrackets {line : List Char} (h : stripBrackets line = []) :
    (pieceTokens line).length ≤ 1 := by
  obtain ⟨opening, before, after, closing, hline, hopening, hbefore, hafter, hclosing⟩ :=
    exists_stripped line
  have hbar : '|' ∉ line := by
    have hblank : ∀ s : List Char, (∀ c ∈ s, Text.isBlank c = true) → '|' ∉ s :=
      fun s hs hmem => absurd (hs '|' hmem) (by decide)
    have hfirst : '|' ∉ opening := by rcases hopening with rfl | rfl <;> decide
    have hlast : '|' ∉ closing := by rcases hclosing with rfl | rfl <;> decide
    rw [hline, h]
    simp [hfirst, hlast, hblank before hbefore, hblank after hafter]
  have hseparator : ¬ separator <:+: line := fun hinside => hbar (hinside.subset (by decide))
  have hone : (Text.splitOn separator line).length = 1 := by
    rw [Text.splitOn_of_not_infix hseparator]
    rfl
  have hfilter := List.length_filter_le (· ≠ [])
    ((Text.splitOn separator line).map fun piece => stripBrackets (Text.trim piece))
  rwa [List.length_map, hone] at hfilter

/-- The tokens of a line: those of several pieces, or the one of the whole line. -/
theorem lineTokens_cases (line : List Char) :
    (2 ≤ (pieceTokens line).length ∧ lineTokens line = pieceTokens line) ∨
    (stripBrackets line ≠ [] ∧ lineTokens line = [stripBrackets line]) ∨
    (stripBrackets line = [] ∧ lineTokens line = []) := by
  unfold lineTokens
  dsimp only
  split
  · exact Or.inl ⟨‹_›, rfl⟩
  · by_cases h : stripBrackets line = []
    · exact Or.inr (Or.inr ⟨h, by simp [h]⟩)
    · exact Or.inr (Or.inl ⟨h, by simp [h]⟩)

theorem lineTokens_eq_nil_iff (line : List Char) :
    lineTokens line = [] ↔ stripBrackets line = [] := by
  rcases lineTokens_cases line with ⟨hlength, h⟩ | ⟨hstrip, h⟩ | ⟨hstrip, h⟩
  · rw [h]
    constructor
    · intro hnil
      rw [hnil] at hlength
      simp at hlength
    · intro hstrip
      have := pieceTokens_length_of_stripBrackets hstrip
      omega
  · simp [h, hstrip]
  · simp [h, hstrip]

/-- A token of a line is what is left of a part of the line between brackets. -/
theorem exists_part_of_mem_lineTokens {line token : List Char} (h : token ∈ lineTokens line) :
    token ≠ [] ∧ ∃ part, part <:+: line ∧ token = stripBrackets part ∧
      (2 ≤ (lineTokens line).length → ¬ separator <:+: part) := by
  rcases lineTokens_cases line with ⟨-, heq⟩ | ⟨hstrip, heq⟩ | ⟨-, heq⟩
  · rw [heq, pieceTokens, List.mem_filter, List.mem_map] at h
    obtain ⟨⟨piece, hpiece, rfl⟩, hne⟩ := h
    obtain ⟨before, after, hpad, -, -⟩ := Text.exists_trim_pad piece
    have htrim : Text.trim piece <:+: piece := ⟨before, after, hpad.symm⟩
    have hinside : piece <:+: line := Text.infix_of_mem_splitOn (by decide) hpiece
    refine ⟨by simpa using hne, Text.trim piece, htrim.trans hinside, rfl, ?_⟩
    intro _ hseparator
    exact Text.not_infix_of_mem_splitAfter (by decide) hpiece (hseparator.trans htrim)
  · rw [heq, List.mem_singleton] at h
    exact ⟨h ▸ hstrip, line, List.infix_rfl, h, by simp [heq]⟩
  · simp [heq] at h

/-! ## Nothing is lost -/

/-- The characters of a text other than blanks, brackets and bars. -/
def letters (s : List Char) : List Char :=
  s.filter fun c => !Text.isBlank c && c ∉ ['[', ']', '|']

theorem letters_append (s t : List Char) : letters (s ++ t) = letters s ++ letters t :=
  List.filter_append s t

/-- Blanks are no letters. -/
theorem isLetter_blank (c : Char) (h : Text.isBlank c = true) :
    (!Text.isBlank c && c ∉ ['[', ']', '|']) = false := by
  rw [h]
  rfl

theorem letters_blanks {s : List Char} (h : ∀ c ∈ s, Text.isBlank c = true) : letters s = [] :=
  Text.filter_blanks isLetter_blank h

theorem letters_trim (s : List Char) : letters (Text.trim s) = letters s :=
  Text.filter_trim isLetter_blank s

theorem letters_stripBrackets (s : List Char) : letters (stripBrackets s) = letters s := by
  obtain ⟨opening, before, after, closing, hs, hopening, hbefore, hafter, hclosing⟩ :=
    exists_stripped s
  have hfirst : letters opening = [] := by rcases hopening with rfl | rfl <;> rfl
  have hlast : letters closing = [] := by rcases hclosing with rfl | rfl <;> rfl
  conv_rhs => rw [hs]
  simp only [letters_append, hfirst, hlast, letters_blanks hbefore, letters_blanks hafter,
    List.nil_append, List.append_nil]

/-- Separators have no letters. -/
theorem letters_intercalate (pieces : List (List Char)) :
    letters (separator.intercalate pieces) = pieces.flatMap letters :=
  Text.filter_intercalate (by decide) pieces

/-- The pieces of a line have its letters, also without the ones that have no token. -/
theorem letters_pieceTokens (line : List Char) :
    (pieceTokens line).flatMap letters = letters line := by
  have hline := Text.intercalate_splitOn (by decide : separator ≠ []) line
  conv_rhs => rw [← hline]
  rw [pieceTokens, Text.flatMap_filter_ne_nil rfl, List.flatMap_map, letters_intercalate]
  simp only [letters_stripBrackets, letters_trim]

/-- **Nothing is lost.**  The tokens of a line have its letters, in its order. -/
theorem letters_lineTokens (line : List Char) :
    (lineTokens line).flatMap letters = letters line := by
  rcases lineTokens_cases line with ⟨-, h⟩ | ⟨-, h⟩ | ⟨hstrip, h⟩
  · rw [h, letters_pieceTokens]
  · simp [h, letters_stripBrackets]
  · rw [h, ← letters_stripBrackets, hstrip]
    rfl

/-! ## Rows and lines -/

/-- What a line gives a row: all of its tokens, of which there is at least one.  A token is a
trimmed part of the line, holds a separator only where the whole line is one token, and the tokens
together have the letters of the line. -/
structure Gives (line : List Char) (row : LayoutRow) : Prop where
  tokens : row.tokens.map String.toList = lineTokens (Text.trim line)
  tokens_ne_nil : lineTokens (Text.trim line) ≠ []
  token_ne_empty : ∀ token ∈ row.tokens, token ≠ ""
  trimmed : ∀ token ∈ row.tokens, Text.trim token.toList = token.toList
  no_feed : ∀ token ∈ row.tokens, '\n' ∉ token.toList
  no_separator : 2 ≤ row.tokens.length → ∀ token ∈ row.tokens, ¬ " | ".toList <:+: token.toList
  letters : letters (row.tokens.flatMap String.toList) = letters line

/-- **A line with a token** gives its row. -/
theorem gives_of_not_isBare {line : List Char} (hbare : ¬ IsBare line) (hfeed : '\n' ∉ line) :
    ∃ row, rowOfLine line = some row ∧ Gives line row := by
  have hne : lineTokens (Text.trim line) ≠ [] :=
    fun h => hbare ((isBare_iff line).mpr ((lineTokens_eq_nil_iff _).mp h))
  have hmap : (lineTokens (Text.trim line)).map String.ofList ≠ [] := by simpa using hne
  refine ⟨⟨_, hmap⟩, by rw [rowOfLine, LayoutRow.ofTokens?, dif_neg hmap], ?_⟩
  have hpart : ∀ token ∈ (lineTokens (Text.trim line)).map String.ofList,
      token.toList ≠ [] ∧ ∃ part, part <:+: Text.trim line ∧ token.toList = stripBrackets part ∧
        (2 ≤ (lineTokens (Text.trim line)).length → ¬ separator <:+: part) := by
    intro token htoken
    obtain ⟨chars, hchars, rfl⟩ := List.mem_map.mp htoken
    rw [String.toList_ofList]
    exact exists_part_of_mem_lineTokens hchars
  constructor
  · simp [Function.comp_def]
  · exact hne
  · rintro token htoken rfl
    exact (hpart "" htoken).1 rfl
  · intro token htoken
    obtain ⟨-, part, -, hstrip, -⟩ := hpart token htoken
    rw [hstrip, stripBrackets, Text.trim_trim]
  · intro token htoken hmem
    obtain ⟨-, part, hinside, hstrip, -⟩ := hpart token htoken
    rw [hstrip] at hmem
    exact hfeed (Text.trim_subset _ (hinside.subset ((stripBrackets_isInfix part).subset hmem)))
  · intro hlength token htoken hseparator
    obtain ⟨-, part, -, hstrip, hnone⟩ := hpart token htoken
    rw [List.length_map] at hlength
    rw [hstrip] at hseparator
    exact hnone hlength (hseparator.trans (stripBrackets_isInfix part))
  · rw [Layout.letters, List.filter_flatMap, List.flatMap_map]
    simp only [String.toList_ofList]
    exact (letters_lineTokens _).trans (letters_trim line)

/-- A line without a token gives no row. -/
theorem rowOfLine_of_isBare {line : List Char} (h : IsBare line) : rowOfLine line = none := by
  have hnil := (lineTokens_eq_nil_iff _).mpr ((isBare_iff line).mp h)
  rw [rowOfLine, hnil]
  rfl

/-- **The rows of a template** are those of its lines, in one-to-one order, up to the lines that
have no token. -/
theorem parse_lines (template : String) :
    List.Forall₂ Gives ((Text.lines template.toList).filter fun line => ¬ IsBare line)
      (parse template) := by
  have hfeed : ∀ line ∈ Text.lines template.toList, '\n' ∉ line :=
    fun _ => Text.feed_not_mem_of_mem_lines
  change List.Forall₂ Gives _ ((Text.lines template.toList).filterMap rowOfLine)
  generalize Text.lines template.toList = lines at hfeed ⊢
  induction lines with
  | nil => exact .nil
  | cons line lines ih =>
      obtain ⟨hline, hlines⟩ := List.forall_mem_cons.mp hfeed
      by_cases hbare : IsBare line
      · rw [List.filter_cons_of_neg (by simpa using hbare),
          List.filterMap_cons_none (rowOfLine_of_isBare hbare)]
        exact ih hlines
      · obtain ⟨row, hrow, hgives⟩ := gives_of_not_isBare hbare hline
        rw [List.filter_cons_of_pos (by simpa using hbare), List.filterMap_cons_some hrow]
        exact .cons hgives (ih hlines)

example : (parse "[a] | []\n[]\n[ ]\nx |[b]").map LayoutRow.tokens = [["a] | ["], ["x |[b"]] := by
  decide

end ReportGrid.Layout
