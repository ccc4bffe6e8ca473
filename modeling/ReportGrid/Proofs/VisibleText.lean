import ReportGrid.Proofs.TextCutting

/-!
# What cutting a text keeps

Trimming, lines and separators take characters off a text.  What they take off between the cuts are
blanks, so that the visible characters stay, in order.

* `visible_trim`, `visible_lines`, `visible_intercalate` — each way of cutting keeps `visible`;
* `length_lines` — a text that ends in no line feed has one line more than it has line feeds;
* `cutsInto_iff` — cutting at a separator from left to right, told without the cut: each piece ends
  at the first separator behind its start.
-/

namespace ReportGrid.Text

/-! ## Characters that cutting keeps -/

section Filter

variable {keep : Char → Bool}

/-- Blanks hold none of the characters that are kept, if blanks are not among these. -/
theorem filter_blanks (h : ∀ c, isBlank c = true → keep c = false) {s : List Char}
    (hs : ∀ c ∈ s, isBlank c = true) : s.filter keep = [] := by
  rw [List.filter_eq_nil_iff]
  intro c hc
  simp [h c (hs c hc)]

/-- Trimming loses none of them. -/
theorem filter_trim (h : ∀ c, isBlank c = true → keep c = false) (s : List Char) :
    (trim s).filter keep = s.filter keep := by
  obtain ⟨before, after, hpad, hbefore, hafter⟩ := exists_trim_pad s
  conv_rhs => rw [hpad]
  rw [List.filter_append, List.filter_append, filter_blanks h hbefore, filter_blanks h hafter,
    List.nil_append, List.append_nil]

/-- Joining adds none of the characters that are kept, if they are not in the separator. -/
theorem filter_intercalate {separator : List Char} (h : separator.filter keep = [])
    (pieces : List (List Char)) :
    (separator.intercalate pieces).filter keep = pieces.flatMap fun piece => piece.filter keep := by
  induction pieces with
  | nil => rfl
  | cons piece more ih =>
      cases more with
      | nil => simp [List.intercalate_singleton]
      | cons next more =>
          rw [List.intercalate_cons_cons, List.filter_append, List.filter_append, h, ih,
            List.append_nil]
          rfl

end Filter

/-- The characters of a text other than blanks. -/
def visible (s : List Char) : List Char :=
  s.filter fun c => !isBlank c

@[simp] theorem visible_nil : visible [] = [] := rfl

@[simp] theorem visible_append (s t : List Char) : visible (s ++ t) = visible s ++ visible t :=
  List.filter_append s t

theorem visible_eq_nil_iff {s : List Char} : visible s = [] ↔ ∀ c ∈ s, isBlank c = true := by
  simp [visible]

theorem visible_trim (s : List Char) : visible (trim s) = visible s :=
  filter_trim (by simp) s

/-- Joining with blanks adds nothing visible. -/
theorem visible_intercalate {separator : List Char} (h : ∀ c ∈ separator, isBlank c = true)
    (pieces : List (List Char)) :
    visible (separator.intercalate pieces) = pieces.flatMap visible :=
  filter_intercalate (visible_eq_nil_iff.mpr h) pieces

theorem visible_dropReturn (line : List Char) : visible (dropReturn line) = visible line := by
  rw [← visible_trim, trim_dropReturn, visible_trim]

/-- The lines of a text have its visible characters. -/
theorem visible_lines (s : List Char) : visible (lines s).flatten = visible s := by
  induction s using lineInduction with
  | last line h =>
      rw [lines_of_no_feed h]
      by_cases hnil : line = [] <;> simp [hnil]
  | first line rest h ih =>
      have hfeed : visible ('\n' :: rest) = visible rest := rfl
      rw [lines_append_feed h, List.flatten_cons, visible_append, visible_append, ih,
        visible_dropReturn, hfeed]

/-- **Lines are counted by line feeds.**  A text that does not end in a line feed has one line more
than it has line feeds. -/
theorem length_lines {s : List Char} (hne : s ≠ []) (hlast : s.getLast? ≠ some '\n') :
    (lines s).length = s.count '\n' + 1 := by
  induction s using lineInduction with
  | last line h => simp [lines_of_no_feed h, hne, List.count_eq_zero_of_not_mem h]
  | first line rest h ih =>
      have hrest : rest ≠ [] := by
        rintro rfl
        simp at hlast
      have hend : rest.getLast? ≠ some '\n' := by
        rw [List.getLast?_append_cons, List.getLast?_cons_of_ne_nil hrest] at hlast
        exact hlast
      rw [lines_append_feed h, List.length_cons, ih hrest hend, List.count_append,
        List.count_eq_zero_of_not_mem h, List.count_cons_self]
      omega

/-- Empty texts add nothing to what is made of some texts. -/
theorem flatMap_filter_ne_nil {f : List Char → List Char} (h : f [] = [])
    (texts : List (List Char)) : (texts.filter (· ≠ [])).flatMap f = texts.flatMap f := by
  induction texts with
  | nil => rfl
  | cons text texts ih =>
      by_cases hnil : text = [] <;> simp_all

/-! ## Cuts at a separator -/

/-- The pieces of a text between separators, where each piece ends at the first separator behind its
start. -/
inductive CutsInto (separator : List Char) : List Char → List (List Char) → Prop where
  | last {s : List Char} (h : ¬ separator <:+: s) : CutsInto separator s [s]
  | first {piece rest : List Char} {pieces : List (List Char)}
      (h : ¬ separator <:+: piece ++ separator.dropLast) (more : CutsInto separator rest pieces) :
      CutsInto separator (piece ++ (separator ++ rest)) (piece :: pieces)

/-- A text has a first occurrence of each of its parts. -/
theorem exists_first_infix {part s : List Char} (hne : part ≠ []) (h : part <:+: s) :
    ∃ before after, s = before ++ (part ++ after) ∧ ¬ part <:+: before ++ part.dropLast := by
  induction s with
  | nil => exact absurd (List.eq_nil_of_infix_nil h) hne
  | cons c s ih =>
      by_cases hstarts : part <+: c :: s
      · obtain ⟨after, hafter⟩ := hstarts
        refine ⟨[], after, hafter.symm, ?_⟩
        intro hshort
        have hlength := hshort.length_le
        have hpos := List.length_pos_iff.mpr hne
        rw [List.nil_append, List.length_dropLast] at hlength
        omega
      · have hlater : part <:+: s := (List.infix_cons_iff.mp h).resolve_left hstarts
        obtain ⟨before, after, rfl, hnone⟩ := ih hlater
        refine ⟨c :: before, after, rfl, ?_⟩
        rw [List.cons_append, List.infix_cons_iff]
        rintro (hbegins | hinside)
        · have hfirst : before ++ part.dropLast <+: before ++ (part ++ after) :=
            (List.prefix_append_right_inj before).mpr
              ((List.dropLast_prefix part).trans (List.prefix_append part after))
          exact hstarts (hbegins.trans (List.cons_prefix_cons.mpr ⟨rfl, hfirst⟩))
        · exact hnone hinside

/-- **Cutting** gives the pieces between separators, and nothing else does. -/
theorem cutsInto_iff {separator s : List Char} (hne : separator ≠ [])
    {pieces : List (List Char)} : CutsInto separator s pieces ↔ splitOn separator s = pieces := by
  constructor
  · intro h
    induction h with
    | last h => exact splitOn_of_not_infix h
    | first h _ ih => rw [splitOn_append_separator hne h, ih]
  · rintro rfl
    induction hn : s.length using Nat.strongRecOn generalizing s with
    | ind n ih =>
        by_cases hinside : separator <:+: s
        · obtain ⟨piece, rest, rfl, hpiece⟩ := exists_first_infix hne hinside
          have hpos := List.length_pos_iff.mpr hne
          rw [List.length_append, List.length_append] at hn
          rw [splitOn_append_separator hne hpiece]
          exact .first hpiece (ih rest.length (by omega) rfl)
        · have hone : splitOn separator s = [s] := splitOn_of_not_infix hinside
          rw [hone]
          exact .last hinside

end ReportGrid.Text
