import ReportGrid.Text
import ReportGrid.Proofs.WrittenDocuments

/-!
# Walks over the text of a document

A `Spot` says whether a character of a document is outside strings and how many brackets are open
there.  `Spot.squeeze` takes away the blanks outside strings and `Spot.cut` cuts at marks outside
strings and brackets; both walk over the characters alone.

`Spot.Passes` says what a walk does over a text that is in front of any other.  The fact that
everything rests on is `Spot.passes_write`: the walk over the text of a value ends at the spot where
it starts, is cut at no comma and no colon, and leaves the compact form of the value.
-/

namespace ReportGrid

/-- Where a character of a document stands: outside strings with some brackets open, in a string, or
in a string right behind a backslash. -/
inductive Spot where
  | outside (depth : Nat)
  | quoted (depth : Nat)
  | escaped (depth : Nat)
deriving DecidableEq

namespace Spot

/-- The spot behind a character. -/
def next (c : Char) : Spot → Spot
  | .outside depth =>
    if c = '"' then .quoted depth
    else if c = '[' ∨ c = '\x7b' then .outside (depth + 1)
    else if c = ']' ∨ c = '\x7d' then .outside (depth - 1)
    else .outside depth
  | .quoted depth =>
    if c = '"' then .outside depth
    else if c = '\\' then .escaped depth
    else .quoted depth
  | .escaped depth => .quoted depth

/-- Whether a spot is outside strings. -/
def isOutside : Spot → Bool
  | .outside _ => true
  | _ => false

/-- The text from a spot on without the blanks outside strings. -/
def squeeze : Spot → List Char → List Char
  | _, [] => []
  | spot, c :: rest =>
    if spot.isOutside && Strict.isSpace c then squeeze spot rest
    else c :: squeeze (spot.next c) rest

/-- The pieces of a text from a spot on, between the marks that stand outside strings and
brackets. -/
def cut (mark : Char) : Spot → List Char → List (List Char)
  | _, [] => [[]]
  | spot, c :: rest =>
    if spot = .outside 0 ∧ c = mark then [] :: cut mark spot rest
    else Text.consFirst c (cut mark (spot.next c) rest)

end Spot

/-! ## Characters of numerals -/

/-- A character that stands in numerals and words: no blank and no mark of a document. -/
def Spot.isPlain (c : Char) : Bool :=
  !Text.isBlank c && !Strict.isSpace c && c ∉ ['"', '[', ']', '\x7b', '\x7d', ',', ':']

theorem Spot.isPlain_of_isDigit {c : Char} (h : c.isDigit = true) : isPlain c = true := by
  have hall : ∀ d ∈ "0123456789".toList, isPlain d = true :=
    List.all_iff_forall_prop.mp (by decide)
  exact hall c (mem_of_isDigit h)

theorem Sign.isPlain_of_mem_text {sign : Option Sign} {c : Char} (h : c ∈ sign.elim [] text) :
    Spot.isPlain c = true := by
  rcases sign with _ | _ | _
  · exact absurd h List.not_mem_nil
  · obtain rfl := List.mem_singleton.mp h
    decide
  · obtain rfl := List.mem_singleton.mp h
    decide

/-- A strict numeral is made of digits, signs, a point and the letter of an exponent. -/
theorem Numeral.IsStrict.isPlain_of_mem_text {n : Numeral} (h : n.IsStrict) {c : Char}
    (hc : c ∈ n.text) : Spot.isPlain c = true := by
  have hdigits : ∀ {s : List Char}, IsDigits s → c ∈ s → Spot.isPlain c = true := fun hs hc =>
    Spot.isPlain_of_isDigit (hs.isDigit c hc)
  obtain ⟨sign, magnitude⟩ := n
  cases magnitude with
  | decimal whole fraction exponent =>
      obtain ⟨-, hwhole, hfraction, hexponent⟩ := h
      change c ∈ _ ++ (whole ++ fraction.elim [] ('.' :: ·) ++ exponent.elim [] Exponent.text) at hc
      simp only [List.mem_append] at hc
      rcases hc with hc | (hc | hc) | hc
      · exact Sign.isPlain_of_mem_text hc
      · exact hdigits hwhole.toIsDigits hc
      · cases fraction with
        | none => exact absurd hc List.not_mem_nil
        | some digits =>
            rcases List.mem_cons.mp hc with rfl | hc
            · decide
            · exact hdigits (hfraction digits rfl) hc
      · cases exponent with
        | none => exact absurd hc List.not_mem_nil
        | some e =>
            obtain ⟨hmark, hpower⟩ := hexponent e rfl
            simp only [Option.elim_some, Exponent.text, List.mem_append, List.mem_cons] at hc
            rcases hc with (rfl | hc) | hc
            · rcases hmark with hmark | hmark <;> rw [hmark] <;> decide
            · exact Sign.isPlain_of_mem_text hc
            · exact hdigits hpower hc
  | _ => exact h.2.elim

namespace Spot

/-! ## Walks over a text -/

/-- Puts text in front of the first piece. -/
def prepend (s : List Char) : List (List Char) → List (List Char)
  | [] => [s]
  | piece :: more => (s ++ piece) :: more

theorem prepend_append (s t : List Char) (pieces : List (List Char)) :
    prepend (s ++ t) pieces = prepend s (prepend t pieces) := by
  cases pieces <;> simp [prepend]

theorem cut_ne_nil (mark : Char) (a : Spot) (s : List Char) : a.cut mark s ≠ [] := by
  cases s with
  | nil => simp [cut]
  | cons c rest =>
      rw [cut]
      split
      · simp
      · cases cut mark (a.next c) rest <;> simp [Text.consFirst]

theorem prepend_nil_cut (mark : Char) (a : Spot) (s : List Char) :
    prepend [] (a.cut mark s) = a.cut mark s := by
  cases h : a.cut mark s with
  | nil => exact absurd h (cut_ne_nil mark a s)
  | cons piece more => rfl

/-- A text that is passed over from one spot to another.  It is never cut, and what is kept of it
without its blanks is given. -/
structure Passes (a b : Spot) (s kept : List Char) : Prop where
  cut : ∀ mark ∈ [',', ':'], ∀ rest, a.cut mark (s ++ rest) = prepend s (b.cut mark rest)
  squeeze : ∀ rest, a.squeeze (s ++ rest) = kept ++ b.squeeze rest

theorem Passes.nil (a : Spot) : Passes a a [] [] where
  cut := fun mark _ rest => (prepend_nil_cut mark a rest).symm
  squeeze := fun _ => rfl

/-- One walk after the other. -/
theorem Passes.append {a b c : Spot} {s t kept more : List Char} (hs : Passes a b s kept)
    (ht : Passes b c t more) : Passes a c (s ++ t) (kept ++ more) where
  cut := by
    intro mark hmark rest
    rw [List.append_assoc, hs.cut mark hmark, ht.cut mark hmark, prepend_append]
  squeeze := by
    intro rest
    rw [List.append_assoc, hs.squeeze, ht.squeeze, List.append_assoc]

/-- A step over a character that is not cut at. -/
theorem cut_char {mark c : Char} {a : Spot} (h : ¬ (a = .outside 0 ∧ c = mark))
    (rest : List Char) : a.cut mark ([c] ++ rest) = prepend [c] ((a.next c).cut mark rest) := by
  rw [List.singleton_append, cut, if_neg h]
  cases hrest : (a.next c).cut mark rest with
  | nil => exact absurd hrest (cut_ne_nil _ _ _)
  | cons piece more => rfl

/-- A step over a character that is kept. -/
theorem passes_char {a b : Spot} {c : Char} (hnext : a.next c = b)
    (hblank : (a.isOutside && Strict.isSpace c) = false)
    (hmark : a = .outside 0 → c ∉ [',', ':']) : Passes a b [c] [c] where
  cut := by
    intro mark hmem rest
    have hcut : ¬ (a = .outside 0 ∧ c = mark) := by
      rintro ⟨ha, rfl⟩
      exact hmark ha hmem
    rw [cut_char hcut rest, hnext]
  squeeze := by
    intro rest
    simp [Spot.squeeze, hblank, hnext]

/-- A step over a blank outside strings. -/
theorem passes_blank {c : Char} (h : Strict.isSpace c = true) (depth : Nat) :
    Passes (.outside depth) (.outside depth) [c] [] := by
  have hplain : c ∉ [',', ':'] ∧ next c (.outside depth) = .outside depth := by
    simp only [Strict.isSpace, Bool.or_eq_true, decide_eq_true_eq] at h
    rcases h with ((rfl | rfl) | rfl) | rfl <;> simp [next]
  obtain ⟨hmarks, hnext⟩ := hplain
  constructor
  · intro mark hmem rest
    have hcut : ¬ (Spot.outside depth = .outside 0 ∧ c = mark) := by
      rintro ⟨-, rfl⟩
      exact hmarks hmem
    rw [cut_char hcut rest, hnext]
  · intro rest
    simp [Spot.squeeze, isOutside, h]

theorem passes_plain {s : List Char} (h : ∀ c ∈ s, isPlain c = true) (depth : Nat) :
    Passes (.outside depth) (.outside depth) s s := by
  induction s with
  | nil => exact .nil _
  | cons c s ih =>
      have hc := h c List.mem_cons_self
      simp only [isPlain, Bool.and_eq_true, Bool.not_eq_true', decide_eq_true_eq] at hc
      obtain ⟨hspace, hmarks⟩ := hc
      have hnext : next c (.outside depth) = .outside depth := by
        simp only [List.mem_cons, not_or] at hmarks
        simp [next, hmarks]
      have hcut : c ∉ [',', ':'] := by
        intro hmem
        simp_all
      have hchar : Passes (.outside depth) (.outside depth) [c] [c] :=
        passes_char hnext (by simp [hspace]) fun _ => hcut
      exact hchar.append (ih fun d hd => h d (List.mem_cons_of_mem _ hd))

theorem passes_word {s : List Char} (h : s.all isPlain = true) (depth : Nat) :
    Passes (.outside depth) (.outside depth) s s :=
  passes_plain (List.all_eq_true.mp h) depth

/-- A character in a string that neither ends the string nor starts an escape. -/
theorem passes_quoted {c : Char} (hquote : c ≠ '"') (hslash : c ≠ '\\') (depth : Nat) :
    Passes (.quoted depth) (.quoted depth) [c] [c] := by
  have hnext : next c (.quoted depth) = .quoted depth := by
    rw [next, if_neg hquote, if_neg hslash]
  exact passes_char hnext rfl (by simp)

/-- An escape of two characters. -/
theorem passes_pair (c : Char) (depth : Nat) :
    Passes (.quoted depth) (.quoted depth) ['\\', c] ['\\', c] := by
  have hslash : Passes (.quoted depth) (.escaped depth) ['\\'] ['\\'] :=
    passes_char rfl rfl (by simp)
  have hchar : Passes (.escaped depth) (.quoted depth) [c] [c] :=
    passes_char rfl rfl (by simp)
  exact hslash.append hchar

theorem passes_digit {n : Nat} (h : n < 16) (depth : Nat) :
    Passes (.quoted depth) (.quoted depth) [Nat.digitChar n] [Nat.digitChar n] := by
  have hplain : ∀ n < 16, Nat.digitChar n ≠ '"' ∧ Nat.digitChar n ≠ '\\' := by decide
  exact passes_quoted (hplain n h).1 (hplain n h).2 depth

/-- What is written for a character stays in its string. -/
theorem passes_escapeChar (c : Char) (depth : Nat) :
    Passes (.quoted depth) (.quoted depth) (Json.escapeChar c) (Json.escapeChar c) := by
  have hzero : Passes (.quoted depth) (.quoted depth) ['0'] ['0'] :=
    passes_quoted (by decide) (by decide) depth
  unfold Json.escapeChar
  split
  · exact passes_pair _ depth
  split
  · exact passes_pair _ depth
  split
  · exact passes_pair _ depth
  split
  · exact passes_pair _ depth
  split
  · exact passes_pair _ depth
  split
  · exact passes_pair _ depth
  split
  · exact passes_pair _ depth
  split
  · exact (passes_pair 'u' depth).append (hzero.append (hzero.append
      ((passes_digit (by omega) depth).append (passes_digit (by omega) depth))))
  · rename_i hquote hslash _ _ _ _ _ _
    exact passes_quoted hquote hslash depth

/-- A string is passed over as it is. -/
theorem passes_quote (s : List Char) (depth : Nat) :
    Passes (.outside depth) (.outside depth) (Json.quote s) (Json.quote s) := by
  have hinside : Passes (.quoted depth) (.quoted depth) (s.flatMap Json.escapeChar)
      (s.flatMap Json.escapeChar) := by
    induction s with
    | nil => exact .nil _
    | cons c s ih =>
        rw [List.flatMap_cons]
        exact (passes_escapeChar c depth).append ih
  have hopen : Passes (.outside depth) (.quoted depth) ['"'] ['"'] :=
    passes_char rfl rfl fun _ => by decide
  have hclose : Passes (.quoted depth) (.outside depth) ['"'] ['"'] :=
    passes_char rfl rfl (by simp)
  exact (hopen.append hinside).append hclose

/-- What stands before an item is passed over and leaves nothing. -/
theorem passes_gap (layout : Option Nat) (depth : Nat) :
    Passes (.outside depth) (.outside depth) (Json.gap layout) [] := by
  cases layout with
  | none => exact .nil _
  | some indent =>
      have hspaces : ∀ n, Passes (.outside depth) (.outside depth) (List.replicate n ' ') [] := by
        intro n
        induction n with
        | zero => exact .nil _
        | succ n ih => exact (passes_blank (by decide) depth).append ih
      exact (passes_blank (by decide) depth).append (hspaces _)

/-- A mark between brackets is passed over. -/
theorem passes_mark {c : Char} (h : c ∈ [',', ':']) (depth : Nat) :
    Passes (.outside (depth + 1)) (.outside (depth + 1)) [c] [c] := by
  have hstep : ∀ c ∈ [',', ':'], next c (.outside (depth + 1)) = .outside (depth + 1) ∧
      Strict.isSpace c = false := by
    simp [next, Strict.isSpace]
  exact passes_char (hstep c h).1 (by simp [(hstep c h).2]) fun hzero => by simp at hzero

/-- What stands between the name of a field and its value is passed over between brackets. -/
theorem passes_fieldMark (layout : Option Nat) (depth : Nat) :
    Passes (.outside (depth + 1)) (.outside (depth + 1)) (Json.fieldMark layout) [':'] := by
  have hcolon := passes_mark (c := ':') (by decide) depth
  cases layout with
  | none => exact hcolon
  | some indent => exact hcolon.append (passes_blank (by decide) (depth + 1))

theorem passes_open {c : Char} (h : c ∈ ['[', '\x7b']) (depth : Nat) :
    Passes (.outside depth) (.outside (depth + 1)) [c] [c] := by
  simp only [List.mem_cons, List.not_mem_nil, or_false] at h
  rcases h with rfl | rfl <;> exact passes_char rfl rfl fun _ => by decide

theorem passes_close {c : Char} (h : c ∈ [']', '\x7d']) (depth : Nat) :
    Passes (.outside (depth + 1)) (.outside depth) [c] [c] := by
  simp only [List.mem_cons, List.not_mem_nil, or_false] at h
  rcases h with rfl | rfl <;> exact passes_char rfl rfl fun hzero => by simp at hzero

mutual

/-- **One value.**  The text of a value is passed over, and without its blanks it is the compact
form. -/
theorem passes_write (v : Json) (layout : Option Nat) (depth : Nat) :
    Passes (.outside depth) (.outside depth) (v.write layout) (v.write none) := by
  match v with
  | .null => exact passes_word (s := "null".toList) (by decide) depth
  | .bool true => exact passes_word (s := "true".toList) (by decide) depth
  | .bool false => exact passes_word (s := "false".toList) (by decide) depth
  | .number n => exact passes_plain (fun _ => n.isStrict_numeral.isPlain_of_mem_text) depth
  | .string s => exact passes_quote s.toList depth
  | .array [] =>
      exact (passes_open (c := '[') (by decide) depth).append
        (passes_close (c := ']') (by decide) depth)
  | .array (item :: rest) =>
      -- Between the brackets the walk is one deeper, where the commas are not cut at.
      have hbody := (passes_gap (layout.map (· + 1)) (depth + 1)).append
        ((passes_write item (layout.map (· + 1)) (depth + 1)).append
          ((passes_writeItems rest (layout.map (· + 1)) depth).append
            (passes_gap layout (depth + 1))))
      have hall := (passes_open (c := '[') (by decide) depth).append
        (hbody.append (passes_close (c := ']') (by decide) depth))
      simpa [Json.write, Json.gap] using hall
  | .object [] =>
      exact (passes_open (c := '\x7b') (by decide) depth).append
        (passes_close (c := '\x7d') (by decide) depth)
  | .object ((name, value) :: rest) =>
      have hfield := (passes_quote name.toList (depth + 1)).append
        ((passes_fieldMark layout depth).append
          (passes_write value (layout.map (· + 1)) (depth + 1)))
      have hbody := (passes_gap (layout.map (· + 1)) (depth + 1)).append
        (hfield.append ((passes_writeFields rest (layout.map (· + 1)) depth).append
          (passes_gap layout (depth + 1))))
      have hall := (passes_open (c := '\x7b') (by decide) depth).append
        (hbody.append (passes_close (c := '\x7d') (by decide) depth))
      simpa [Json.write, Json.gap, Json.fieldMark] using hall

/-- The items after the first one are passed over between brackets. -/
theorem passes_writeItems (items : List Json) (layout : Option Nat) (depth : Nat) :
    Passes (.outside (depth + 1)) (.outside (depth + 1)) (Json.writeItems layout items)
      (Json.writeItems none items) := by
  match items with
  | [] => exact .nil _
  | item :: rest =>
      have hall := (passes_mark (c := ',') (by decide) depth).append
        ((passes_gap layout (depth + 1)).append ((passes_write item layout (depth + 1)).append
          (passes_writeItems rest layout depth)))
      simpa [Json.writeItems, Json.gap] using hall

/-- The fields after the first one are passed over between brackets. -/
theorem passes_writeFields (fields : List (String × Json)) (layout : Option Nat) (depth : Nat) :
    Passes (.outside (depth + 1)) (.outside (depth + 1)) (Json.writeFields layout fields)
      (Json.writeFields none fields) := by
  match fields with
  | [] => exact .nil _
  | (name, value) :: rest =>
      have hfield := (passes_quote name.toList (depth + 1)).append
        ((passes_fieldMark layout depth).append (passes_write value layout (depth + 1)))
      have hall := (passes_mark (c := ',') (by decide) depth).append
        ((passes_gap layout (depth + 1)).append
          (hfield.append (passes_writeFields rest layout depth)))
      simpa [Json.writeFields, Json.gap, Json.fieldMark] using hall

end

end Spot

end ReportGrid
