import ReportGrid.Text
import Mathlib.Data.Bool.AllAny
import Mathlib.Data.List.DropRight
import Mathlib.Data.List.TakeWhile

/-!
# Trimming, lines and separators

The ways in which texts are cut, each with the law by which what was put together comes apart again.

* `trim_pad` — blanks around a text do not change its trimmed form;
* `trim_eq_self`, `trim_trim` — a text with no blank at its ends is its own trimmed form, and a
  trimmed text is such a text;
* `exists_trim_pad`, `trim_eq_nil_iff` — what is taken off are blanks, and nothing is left only of
  blanks;
* `trim_subset`, `splitAfter_subset` — cutting adds no character;
* `span_append`, `afterOpening?_eq_some_iff`, `beforeEnding?_eq_some_iff` — where a stretch of
  characters ends, and what is left of a text without its opening or its ending;
* `lines_append_feed`, `lines_of_no_feed` — a line feed ends the first line, up to a carriage
  return that trimming removes; `lineInduction` is the induction that goes with it;
* `splitOn_intercalate` — pieces joined by a separator come apart at the written separators, as
  long as the separator does not begin inside a piece;
* `intercalate_splitOn`, `not_infix_of_mem_splitAfter` — the pieces of any text joined again are the
  text, and none of them holds a separator.
-/

namespace ReportGrid.Text

theorem trimEnd_eq_rdropWhile (s : List Char) : trimEnd s = s.rdropWhile isBlank := rfl

/-- Blanks after a text do not change its trimmed form. -/
theorem trim_append_blanks (s : List Char) {after : List Char}
    (h : ∀ c ∈ after, isBlank c = true) : trim (s ++ after) = trim s := by
  unfold trim trimStart trimEnd
  rw [List.dropWhile_append]
  split
  · rename_i hempty
    rw [List.isEmpty_iff.mp hempty, List.dropWhile_eq_nil_iff.mpr h]
  · have hreverse : ∀ c ∈ after.reverse, isBlank c = true := by simpa using h
    rw [List.reverse_append, List.dropWhile_append_of_pos hreverse]

/-- Blanks before a text do not change its trimmed form. -/
theorem trim_blanks_append {before : List Char} (s : List Char)
    (h : ∀ c ∈ before, isBlank c = true) : trim (before ++ s) = trim s := by
  unfold trim trimStart
  rw [List.dropWhile_append_of_pos h]

/-- **Padding.**  Blanks around a text do not change its trimmed form. -/
theorem trim_pad {before after : List Char} (s : List Char)
    (hbefore : ∀ c ∈ before, isBlank c = true) (hafter : ∀ c ∈ after, isBlank c = true) :
    trim (before ++ s ++ after) = trim s := by
  rw [trim_append_blanks _ hafter, trim_blanks_append _ hbefore]

/-- A text with no blank at its ends is its own trimmed form. -/
theorem trim_eq_self {s : List Char} (hfirst : ∀ c, s.head? = some c → isBlank c = false)
    (hlast : ∀ c, s.getLast? = some c → isBlank c = false) : trim s = s := by
  have hstart : trimStart s = s := by
    unfold trimStart
    cases s with
    | nil => rfl
    | cons c rest => simp [hfirst c rfl]
  unfold trim
  rw [hstart, trimEnd_eq_rdropWhile, List.rdropWhile_eq_self_iff]
  intro hne
  simp [hlast (s.getLast hne) (List.getLast?_eq_getLast_of_ne_nil hne)]

/-- A trimmed text has no blank at its start. -/
theorem head?_trim {s : List Char} {c : Char} (h : (trim s).head? = some c) :
    isBlank c = false := by
  have hstarts : trim s <+: trimStart s := List.rdropWhile_prefix isBlank _
  have hhead : (trimStart s).head? = some c := by
    obtain ⟨rest, hrest⟩ := hstarts
    rw [← hrest, List.head?_append, h, Option.some_or]
  have hnot := List.head?_dropWhile_not isBlank s
  rw [show s.dropWhile isBlank = trimStart s from rfl, hhead] at hnot
  simpa using hnot

/-- A trimmed text has no blank at its end. -/
theorem getLast?_trim {s : List Char} {c : Char} (h : (trim s).getLast? = some c) :
    isBlank c = false := by
  have hne : trim s ≠ [] := by
    intro hnil
    simp [hnil] at h
  have hlast : ¬ isBlank ((trim s).getLast hne) = true :=
    List.rdropWhile_last_not isBlank (trimStart s) hne
  rw [List.getLast?_eq_getLast_of_ne_nil hne] at h
  obtain rfl := Option.some.inj h
  simpa using hlast

/-- Trimming adds no character. -/
theorem trim_subset (s : List Char) : trim s ⊆ s := by
  have hstarts : trim s <+: trimStart s := List.rdropWhile_prefix isBlank _
  exact List.Subset.trans hstarts.subset (List.dropWhile_suffix isBlank).subset

/-- Trimming what is trimmed changes nothing. -/
theorem trim_trim (s : List Char) : trim (trim s) = trim s :=
  trim_eq_self (fun _ => head?_trim) (fun _ => getLast?_trim)

/-- A text is its trimmed form with the blanks around it. -/
theorem exists_trim_pad (s : List Char) :
    ∃ before after, s = before ++ trim s ++ after ∧ (∀ c ∈ before, isBlank c = true) ∧
      ∀ c ∈ after, isBlank c = true := by
  refine ⟨s.takeWhile isBlank, (trimStart s).rtakeWhile isBlank, ?_,
    fun _ => List.mem_takeWhile_imp, ?_⟩
  · have hend : trim s ++ (trimStart s).rtakeWhile isBlank = trimStart s := by
      rw [trim, trimEnd_eq_rdropWhile, List.rdropWhile_append_rtakeWhile]
    rw [List.append_assoc, hend, trimStart, List.takeWhile_append_dropWhile]
  · intro c hc
    exact List.mem_rtakeWhile_imp hc

/-- Nothing is left of a text by trimming when it is all blank. -/
theorem trim_eq_nil_iff {s : List Char} : trim s = [] ↔ ∀ c ∈ s, isBlank c = true := by
  constructor
  · intro h
    obtain ⟨before, after, hs, hbefore, hafter⟩ := exists_trim_pad s
    rw [h, List.append_nil] at hs
    intro c hc
    rw [hs] at hc
    exact (List.mem_append.mp hc).elim (hbefore c) (hafter c)
  · intro h
    exact trim_append_blanks [] h

/-! ## Stretches, openings and endings -/

/-- A stretch of characters of a kind ends before the first character that is not of the kind. -/
theorem span_append {p : Char → Bool} {s rest : List Char} (h : ∀ c ∈ s, p c = true)
    (hrest : ∀ c, rest.head? = some c → p c = false) :
    (s ++ rest).takeWhile p = s ∧ (s ++ rest).dropWhile p = rest := by
  rw [List.takeWhile_append_of_pos h, List.dropWhile_append_of_pos h]
  cases rest with
  | nil => simp
  | cons c rest => simp [hrest c rfl]

/-- What follows an opening is all of the text behind it. -/
theorem afterOpening?_eq_some_iff {opening s rest : List Char} :
    afterOpening? opening s = some rest ↔ s = opening ++ rest := by
  induction opening generalizing s with
  | nil => simp [afterOpening?]
  | cons o opening ih =>
      cases s with
      | nil => simp [afterOpening?]
      | cons c s =>
          by_cases h : o = c
          · simp [afterOpening?, h, ih]
          · simp [afterOpening?, h, Ne.symm h]

/-- What stands before an ending is all of the text in front of it. -/
theorem beforeEnding?_eq_some_iff {ending s before : List Char} :
    beforeEnding? ending s = some before ↔ s = before ++ ending := by
  unfold beforeEnding?
  rw [Option.map_eq_some_iff]
  simp only [afterOpening?_eq_some_iff]
  constructor
  · rintro ⟨rest, hs, rfl⟩
    rw [← List.reverse_reverse s, hs, List.reverse_append, List.reverse_reverse]
  · rintro rfl
    exact ⟨before.reverse, List.reverse_append, List.reverse_reverse before⟩

/-! ## Lines -/

/-- A line without the carriage return at its end, if it has one. -/
def dropReturn (line : List Char) : List Char :=
  if line.getLast? = some '\r' then line.dropLast else line

/-- Trimming does not tell a line from the line without its carriage return. -/
theorem trim_dropReturn (line : List Char) : trim (dropReturn line) = trim line := by
  unfold dropReturn
  split
  · rename_i hlast
    obtain ⟨start, rfl⟩ := List.getLast?_eq_some_iff.mp hlast
    rw [List.dropLast_concat, trim_append_blanks]
    intro c hc
    rw [List.mem_singleton.mp hc]
    rfl
  · rfl

/-- A character that ends no line goes in front of the first line. -/
theorem lines_cons {c : Char} {rest : List Char} (hfeed : c ≠ '\n')
    (hreturn : c = '\r' → rest.head? ≠ some '\n') :
    lines (c :: rest) = consFirst c (lines rest) := by
  rw [lines]
  · intro hc
    exact hfeed hc
  · intro tail hc hrest
    exact hreturn hc (by rw [hrest]; rfl)

/-- **A line feed ends the first line**, together with a carriage return before it. -/
theorem lines_append_feed {line : List Char} (h : '\n' ∉ line) (rest : List Char) :
    lines (line ++ '\n' :: rest) = dropReturn line :: lines rest := by
  induction line with
  | nil => rfl
  | cons c line ih =>
      have hc : c ≠ '\n' := fun heq => h (heq ▸ List.mem_cons_self)
      have hline : '\n' ∉ line := fun hmem => h (List.mem_cons_of_mem _ hmem)
      cases line with
      | nil =>
          by_cases hreturn : c = '\r'
          · subst hreturn
            rfl
          · rw [List.cons_append, lines_cons hc (fun heq => (hreturn heq).elim), ih hline]
            simp [dropReturn, consFirst, hreturn]
      | cons d line =>
          have hd : (d :: line ++ '\n' :: rest).head? ≠ some '\n' := by
            intro heq
            exact hline (Option.some.inj heq ▸ List.mem_cons_self)
          rw [List.cons_append, lines_cons hc (fun _ => hd), ih hline]
          simp only [dropReturn, List.getLast?_cons_cons]
          split <;> simp [consFirst]

/-- A text without a line feed is one line, unless it is empty. -/
theorem lines_of_no_feed {line : List Char} (h : '\n' ∉ line) :
    lines line = if line = [] then [] else [line] := by
  induction line with
  | nil => rfl
  | cons c line ih =>
      have hc : c ≠ '\n' := fun heq => h (heq ▸ List.mem_cons_self)
      have hline : '\n' ∉ line := fun hmem => h (List.mem_cons_of_mem _ hmem)
      have hhead : line.head? ≠ some '\n' := fun heq => hline (List.mem_of_head? heq)
      rw [lines_cons hc (fun _ => hhead), ih hline]
      by_cases hnil : line = [] <;> simp [hnil, consFirst]

/-- **Induction over lines.**  A text is a line without a line feed, or such a line in front of the
line feed that ends it and of the rest. -/
@[elab_as_elim]
theorem lineInduction {motive : List Char → Prop} (last : ∀ line, '\n' ∉ line → motive line)
    (first : ∀ line rest, '\n' ∉ line → motive rest → motive (line ++ '\n' :: rest))
    (s : List Char) : motive s := by
  induction hn : s.length using Nat.strongRecOn generalizing s with
  | ind n ih =>
      by_cases hfeed : '\n' ∈ s
      · obtain ⟨line, rest, rfl, hline⟩ := List.eq_append_cons_of_mem hfeed
        rw [List.length_append, List.length_cons] at hn
        exact first line rest hline (ih rest.length (by omega) rest rfl)
      · exact last s hfeed

/-- No line has a line feed in it. -/
theorem feed_not_mem_of_mem_lines {s line : List Char} (h : line ∈ lines s) : '\n' ∉ line := by
  induction s using lineInduction with
  | last s hs =>
      rw [lines_of_no_feed hs] at h
      split at h
      · exact absurd h List.not_mem_nil
      · rwa [List.mem_singleton.mp h]
  | first start rest hstart ih =>
      rw [lines_append_feed hstart] at h
      rcases List.mem_cons.mp h with rfl | hrest
      · unfold dropReturn
        split
        · exact fun hmem => hstart (List.dropLast_subset _ hmem)
        · exact hstart
      · exact ih hrest

/-! ## Separators -/

/-- What a text starts with ends before the first character that is foreign to it. -/
theorem prefix_of_prefix_append_cons {part left right : List Char} {c : Char} (hc : c ∉ part)
    (h : part <+: left ++ c :: right) : part <+: left := by
  induction left generalizing part with
  | nil =>
      cases part with
      | nil => exact List.nil_prefix
      | cons d part =>
          rw [List.nil_append, List.cons_prefix_cons] at h
          exact (hc (h.1 ▸ List.mem_cons_self)).elim
  | cons e left ih =>
      cases part with
      | nil => exact List.nil_prefix
      | cons d part =>
          rw [List.cons_append, List.cons_prefix_cons] at h
          obtain ⟨rfl, htail⟩ := h
          rw [List.cons_prefix_cons]
          exact ⟨rfl, ih (fun hmem => hc (List.mem_cons_of_mem _ hmem)) htail⟩

/-- A part of a text lies on one side of a character that is foreign to it. -/
theorem infix_of_infix_append_cons {part left right : List Char} {c : Char} (hc : c ∉ part)
    (h : part <:+: left ++ c :: right) : part <:+: left ∨ part <:+: right := by
  induction left with
  | nil =>
      rcases List.infix_cons_iff.mp h with hstarts | hright
      · have hfirst : part <+: [] ++ c :: right := hstarts
        exact Or.inl (prefix_of_prefix_append_cons hc hfirst).isInfix
      · exact Or.inr hright
  | cons d left ih =>
      rcases List.infix_cons_iff.mp h with hstarts | hrest
      · have hfirst : part <+: d :: left ++ c :: right := hstarts
        exact Or.inl (prefix_of_prefix_append_cons hc hfirst).isInfix
      · exact (ih hrest).imp_left List.infix_cons

/-- What belongs to a separator that has been found is passed over. -/
theorem splitAfter_length (separator passed rest : List Char) :
    splitAfter separator passed.length (passed ++ rest) = splitAfter separator 0 rest := by
  induction passed with
  | nil => rfl
  | cons c passed ih => simpa [splitAfter] using ih

/-- A separator that stands at the start is cut at. -/
theorem splitOn_separator_append {separator : List Char} (hne : separator ≠ [])
    (rest : List Char) :
    splitOn separator (separator ++ rest) = [] :: splitOn separator rest := by
  obtain ⟨c, tail, rfl⟩ := List.exists_cons_of_ne_nil hne
  have hstarts : (c :: tail).isPrefixOf (c :: (tail ++ rest)) = true := by
    rw [List.isPrefixOf_iff_prefix]
    exact List.prefix_append (c :: tail) rest
  unfold splitOn
  rw [List.cons_append, splitAfter, if_pos hstarts]
  exact congrArg _ (splitAfter_length (c :: tail) tail rest)

/-- The characters of a piece are characters of the text. -/
theorem splitAfter_subset {separator piece s : List Char} {skip : Nat}
    (h : piece ∈ splitAfter separator skip s) : piece ⊆ s := by
  induction s generalizing skip piece with
  | nil =>
      simp only [splitAfter, List.mem_singleton] at h
      rw [h]
      exact List.nil_subset _
  | cons c rest ih =>
      cases skip with
      | succ skip => exact List.subset_cons_of_subset c (ih h)
      | zero =>
          rw [splitAfter] at h
          split at h
          · rcases List.mem_cons.mp h with rfl | hlater
            · exact List.nil_subset _
            · exact List.subset_cons_of_subset c (ih hlater)
          · obtain ⟨first, more, hpieces⟩ :=
              List.exists_cons_of_ne_nil (splitAfter_ne_nil separator 0 rest)
            have hrest : ∀ p ∈ first :: more, p ⊆ rest := fun p hp => ih (hpieces ▸ hp)
            rw [hpieces, consFirst] at h
            rcases List.mem_cons.mp h with rfl | hlater
            · exact List.cons_subset_cons c (hrest first List.mem_cons_self)
            · exact List.subset_cons_of_subset c (hrest piece (List.mem_cons_of_mem _ hlater))

/-- Where no separator starts, the first character goes to the first piece. -/
theorem splitOn_cons {separator : List Char} {c : Char} {rest : List Char}
    (h : ¬ separator <+: c :: rest) :
    splitOn separator (c :: rest) = consFirst c (splitOn separator rest) := by
  have hstarts : ¬ separator.isPrefixOf (c :: rest) = true := by
    rwa [List.isPrefixOf_iff_prefix]
  unfold splitOn
  rw [splitAfter, if_neg hstarts]

/-- A text in which the separator does not occur is one piece. -/
theorem splitOn_of_not_infix {separator s : List Char} (h : ¬ separator <:+: s) :
    splitOn separator s = [s] := by
  induction s with
  | nil => rfl
  | cons c rest ih =>
      rw [splitOn_cons (fun hstarts => h hstarts.isInfix),
        ih (fun hinside => h (List.infix_cons hinside))]
      rfl

/-- A piece ends at the separator that is written after it, as long as no separator begins inside
the piece. -/
theorem splitOn_append_separator {separator piece : List Char} (hne : separator ≠ [])
    (h : ¬ separator <:+: piece ++ separator.dropLast) (rest : List Char) :
    splitOn separator (piece ++ (separator ++ rest)) = piece :: splitOn separator rest := by
  induction piece with
  | nil => exact splitOn_separator_append hne rest
  | cons c piece ih =>
      have hstart : ¬ separator <+: c :: (piece ++ (separator ++ rest)) := by
        -- An occurrence here would be over before the last character of the written separator.
        intro hstarts
        have hsplit : c :: (piece ++ (separator ++ rest)) =
            (c :: piece ++ separator.dropLast) ++ ([separator.getLast hne] ++ rest) := by
          conv_lhs => rw [← List.dropLast_append_getLast hne]
          simp only [List.cons_append, List.append_assoc]
        rw [hsplit] at hstarts
        refine h (List.prefix_of_prefix_length_le hstarts (List.prefix_append _ _) ?_).isInfix
        simp only [List.cons_append, List.length_cons, List.length_append, List.length_dropLast]
        omega
      have hpiece : ¬ separator <:+: piece ++ separator.dropLast :=
        fun hinside => h (List.infix_cons hinside)
      rw [List.cons_append, splitOn_cons hstart, ih hpiece]
      rfl

/-- **Cutting undoes joining.**  Pieces joined by a separator come apart at the written separators,
as long as no separator begins inside a piece. -/
theorem splitOn_intercalate {separator : List Char} (hne : separator ≠ [])
    {pieces : List (List Char)} (hpieces : pieces ≠ [])
    (h : ∀ piece ∈ pieces, ¬ separator <:+: piece ++ separator.dropLast) :
    splitOn separator (separator.intercalate pieces) = pieces := by
  induction pieces with
  | nil => exact (hpieces rfl).elim
  | cons piece more ih =>
      have hpiece := h piece List.mem_cons_self
      cases more with
      | nil =>
          rw [List.intercalate_singleton]
          exact splitOn_of_not_infix
            (fun hinside => hpiece (List.infix_append_of_infix_left hinside))
      | cons next more =>
          rw [List.intercalate_cons_cons, List.append_assoc, splitOn_append_separator hne hpiece,
            ih (List.cons_ne_nil _ _) (fun q hq => h q (List.mem_cons_of_mem _ hq))]

/-- Joining the pieces with a character in front of the first one. -/
theorem intercalate_consFirst (separator : List Char) (c : Char) {pieces : List (List Char)}
    (h : pieces ≠ []) :
    separator.intercalate (consFirst c pieces) = c :: separator.intercalate pieces := by
  match pieces, h with
  | [piece], _ => simp [consFirst, List.intercalate_singleton]
  | piece :: next :: more, _ => simp [consFirst, List.intercalate_cons_cons]

theorem intercalate_splitAfter {separator : List Char} (hne : separator ≠ []) (skip : Nat)
    (s : List Char) : separator.intercalate (splitAfter separator skip s) = s.drop skip := by
  induction s generalizing skip with
  | nil => simp [splitAfter]
  | cons c rest ih =>
      cases skip with
      | succ skip => simpa [splitAfter] using ih skip
      | zero =>
          rw [splitAfter]
          split
          · rename_i hstarts
            obtain ⟨first, more, hpieces⟩ :=
              List.exists_cons_of_ne_nil (splitAfter_ne_nil separator (separator.length - 1) rest)
            obtain ⟨tail, htail⟩ := List.isPrefixOf_iff_prefix.mp hstarts
            obtain ⟨d, letters, rfl⟩ := List.exists_cons_of_ne_nil hne
            obtain ⟨rfl, rfl⟩ := List.cons.inj htail
            rw [hpieces, List.intercalate_cons_cons, ← hpieces, ih]
            simp
          · rw [intercalate_consFirst _ _ (splitAfter_ne_nil _ _ _), ih]
            rfl

/-- **Joining undoes cutting.**  The pieces of a text with the separator between them are the
text. -/
theorem intercalate_splitOn {separator : List Char} (hne : separator ≠ []) (s : List Char) :
    separator.intercalate (splitOn separator s) = s :=
  intercalate_splitAfter hne 0 s

/-- A piece is a part of the text that is cut. -/
theorem infix_of_mem_splitOn {separator piece s : List Char} (hne : separator ≠ [])
    (h : piece ∈ splitOn separator s) : piece <:+: s := by
  obtain ⟨i, hi⟩ := List.mem_iff_getElem?.mp h
  have hjoined : ((splitOn separator s).intersperse separator)[2 * i]? = some piece :=
    List.getElem?_intersperse_two_mul.trans hi
  have hinside := List.infix_of_mem_flatten (List.mem_of_getElem? hjoined)
  rwa [← List.intercalate, intercalate_splitOn hne] at hinside

/-- **No separator is left in a piece**, since the first one in it would have been cut at. -/
theorem not_infix_of_mem_splitAfter {separator piece s : List Char} {skip : Nat}
    (hne : separator ≠ []) (h : piece ∈ splitAfter separator skip s) :
    ¬ separator <:+: piece := by
  induction s generalizing skip piece with
  | nil =>
      rw [splitAfter, List.mem_singleton] at h
      simpa [h] using hne
  | cons c rest ih =>
      cases skip with
      | succ skip => exact ih h
      | zero =>
          rw [splitAfter] at h
          split at h
          · rcases List.mem_cons.mp h with rfl | hlater
            · simpa using hne
            · exact ih hlater
          · rename_i hstarts
            rw [List.isPrefixOf_iff_prefix] at hstarts
            have hjoined := intercalate_splitAfter hne 0 rest
            cases hpieces : splitAfter separator 0 rest with
            | nil => exact absurd hpieces (splitAfter_ne_nil separator 0 rest)
            | cons first more =>
                rw [hpieces] at h hjoined
                rcases List.mem_cons.mp h with rfl | hlater
                · have hfirst : first <+: rest := by
                    rw [← List.drop_zero (l := rest), ← hjoined]
                    cases more with
                    | nil => exact (List.intercalate_singleton ▸ List.prefix_rfl)
                    | cons next more =>
                        rw [List.intercalate_cons_cons, List.append_assoc]
                        exact List.prefix_append _ _
                  rw [List.infix_cons_iff]
                  rintro (hbegins | hinside)
                  · exact hstarts (hbegins.trans (List.cons_prefix_cons.mpr ⟨rfl, hfirst⟩))
                  · exact ih (hpieces ▸ List.mem_cons_self) hinside
                · exact ih (hpieces ▸ List.mem_cons_of_mem _ hlater)

end ReportGrid.Text
