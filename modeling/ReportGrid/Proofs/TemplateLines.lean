import ReportGrid.Page.Basic
import ReportGrid.Proofs.LayoutRoundTrip
import ReportGrid.Proofs.PlanMirror

/-!
# Templates line by line

A template gives its rows line by line, a plan its cells row by row, and a page its text row by row.
Templates written one under the other therefore have rows, plans and pages that are put together the
same way, whatever the templates look like: empty, with a line end at the end, or with a carriage
return there that the line feed between them then makes a part of the line end.

* `Layout.rows_append` — the rows of templates one under the other, by induction over the lines of
  the first;
* `Layout.rows_returns`, `Layout.rows_blanks` — neither the kind of the line ends nor blanks at the
  ends of a line belong to a row;
* `Reformatted.rows_eq` — so that no run of such changes is seen;
* `RenderPlan.compile_joins` — plans and fragments are put together row by row.
-/

namespace ReportGrid

/-! ## Replaced characters -/

namespace Text

variable {c : Char} {replacement s : List Char}

theorem replaceChar_append (c : Char) (replacement s t : List Char) :
    replaceChar c replacement (s ++ t) =
      replaceChar c replacement s ++ replaceChar c replacement t :=
  List.flatMap_append

theorem replaceChar_cons_self :
    replaceChar c replacement (c :: s) = replacement ++ replaceChar c replacement s := by
  rw [replaceChar, List.flatMap_cons, if_pos rfl]
  rfl

/-- A text without the character stays as it is. -/
theorem replaceChar_of_not_mem (h : c ∉ s) : replaceChar c replacement s = s := by
  have hchars : ∀ d ∈ s, (if d = c then replacement else [d]) = [d] := by
    intro d hd
    have hother : d ≠ c := fun hsame => h (hsame ▸ hd)
    rw [if_neg hother]
  rw [replaceChar, List.flatMap_congr hchars, List.flatMap_singleton']

end Text

namespace Layout

/-! ## Rows of templates one under the other -/

/-- **Rows compose.**  The rows of two templates with a line feed between them are the rows of the
one and then those of the other. -/
theorem rows_append (first second : List Char) :
    rows (first ++ '\n' :: second) = rows first ++ rows second := by
  induction first using Text.lineInduction with
  | last line hline => rw [rows_append_feed hline, rows_of_no_feed hline]
  | first line rest hline ih =>
      rw [List.append_assoc, List.cons_append, rows_append_feed hline, rows_append_feed hline, ih,
        List.append_assoc]

/-! ## Line ends and blanks -/

/-- Carriage returns before the line feeds change no row. -/
theorem rows_returns (template : List Char) :
    rows (Text.replaceChar '\n' ['\r', '\n'] template) = rows template := by
  induction template using Text.lineInduction with
  | last line hline => rw [Text.replaceChar_of_not_mem hline]
  | first line rest hline ih =>
      have hsplit : Text.replaceChar '\n' ['\r', '\n'] (line ++ '\n' :: rest) =
          (line ++ ['\r']) ++ '\n' :: Text.replaceChar '\n' ['\r', '\n'] rest := by
        rw [Text.replaceChar_append, Text.replaceChar_of_not_mem hline, Text.replaceChar_cons_self,
          List.append_assoc]
        rfl
      have hfeed : '\n' ∉ line ++ ['\r'] := by simp [hline]
      rw [hsplit, rows_append_feed hfeed, rows_append_feed hline, rowOfLine_append_return, ih]

/-- A place in a template where a line starts or ends: between these two parts of it. -/
def IsLineEdge (before after : List Char) : Prop :=
  before = [] ∨ before.getLast? = some '\n' ∨
    after = [] ∨ after.head? = some '\n' ∨ ['\r', '\n'] <+: after

namespace IsLineEdge

variable {line rest before after : List Char}

/-- Behind the first line feed the places are those of the rest. -/
theorem of_append_feed (h : IsLineEdge (line ++ '\n' :: before) after) :
    IsLineEdge before after := by
  obtain hnil | hstart | hend := h
  · simp at hnil
  · cases before with
    | nil => exact Or.inl rfl
    | cons c before =>
        rw [List.getLast?_append, List.getLast?_cons_cons] at hstart
        exact Or.inr (Or.inl (by simpa using hstart))
  · exact Or.inr (Or.inr hend)

/-- The places in a first line: at its start, at its end, or before a carriage return there. -/
theorem in_first (h : IsLineEdge before (line ++ '\n' :: rest)) (hbefore : '\n' ∉ before)
    (hline : '\n' ∉ line) : before = [] ∨ line = [] ∨ line = ['\r'] := by
  obtain hnil | hlast | hnil | hhead | hreturn := h
  · exact Or.inl hnil
  · exact absurd (List.mem_of_getLast? hlast) hbefore
  · simp at hnil
  · cases line with
    | nil => exact Or.inr (Or.inl rfl)
    | cons c line =>
        obtain rfl : c = '\n' := by simpa using hhead
        exact absurd List.mem_cons_self hline
  · match line, hline, hreturn with
    | [], _, hreturn => simp at hreturn
    | [c], _, hreturn =>
        obtain rfl : '\r' = c := (List.cons_prefix_cons.mp hreturn).1
        exact Or.inr (Or.inr rfl)
    | c :: d :: line, hline, hreturn =>
        have htail := (List.cons_prefix_cons.mp hreturn).2
        obtain rfl : '\n' = d := (List.cons_prefix_cons.mp htail).1
        simp at hline

/-- The places in a last line: at its start or at its end. -/
theorem in_last (h : IsLineEdge before after) (hbefore : '\n' ∉ before) (hafter : '\n' ∉ after) :
    before = [] ∨ after = [] := by
  obtain hnil | hlast | hnil | hhead | hreturn := h
  · exact Or.inl hnil
  · exact absurd (List.mem_of_getLast? hlast) hbefore
  · exact Or.inr hnil
  · exact absurd (List.mem_of_head? hhead) hafter
  · exact absurd (hreturn.subset (by simp)) hafter

end IsLineEdge

/-- Blanks in a line at its start, at its end or before a carriage return at its end. -/
theorem rowOfLine_blanks {before after : List Char} (p : Padding)
    (h : before = [] ∨ after = [] ∨ after = ['\r']) :
    rowOfLine (before ++ p.chars ++ after) = rowOfLine (before ++ after) := by
  apply rowOfLine_congr
  rcases h with rfl | rfl | rfl
  · rw [List.nil_append, List.nil_append, Text.trim_blanks_append _ p.blank]
  · rw [List.append_nil, List.append_nil, Text.trim_append_blanks _ p.blank]
  · have hreturn : ∀ c ∈ ['\r'], Text.isBlank c = true := by simp [Text.isBlank]
    rw [Text.trim_append_blanks _ hreturn, Text.trim_append_blanks _ hreturn,
      Text.trim_append_blanks _ p.blank]

/-- **Blanks at the ends of a line change no row**, wherever the line stands in its template. -/
theorem rows_blanks {before after : List Char} (p : Padding) (h : IsLineEdge before after) :
    rows (before ++ p.chars ++ after) = rows (before ++ after) := by
  induction before using Text.lineInduction with
  | first line before hline ih =>
      simp only [List.append_assoc, List.cons_append] at ih ⊢
      rw [rows_append_feed hline, rows_append_feed hline, ih h.of_append_feed]
  | last before hbefore =>
      -- What is left of the line decides with the text behind the place where it ends.
      induction after using Text.lineInduction with
      | last after hafter =>
          have hline : before = [] ∨ after = [] ∨ after = ['\r'] :=
            (h.in_last hbefore hafter).imp_right Or.inl
          have hold : '\n' ∉ before ++ after := by simp [hbefore, hafter]
          have hnew : '\n' ∉ before ++ p.chars ++ after := by simp [hbefore, hafter, p.no_feed]
          rw [rows_of_no_feed hnew, rows_of_no_feed hold, rowOfLine_blanks p hline]
      | first line rest hline _ =>
          have hold : '\n' ∉ before ++ line := by simp [hbefore, hline]
          have hnew : '\n' ∉ before ++ p.chars ++ line := by simp [hbefore, hline, p.no_feed]
          rw [← List.append_assoc, ← List.append_assoc, rows_append_feed hnew,
            rows_append_feed hold, rowOfLine_blanks p (h.in_first hbefore hline)]

/-- Templates that come from a template by writing all its line ends with carriage returns, and by
writing blanks at the start or at the end of a line, any number of times. -/
inductive Reformatted (template : List Char) : List Char → Prop where
  | unchanged : Reformatted template template
  | returns {other : List Char} (earlier : Reformatted template other) :
      Reformatted template (Text.replaceChar '\n' ['\r', '\n'] other)
  | blanks {before after : List Char} (p : Padding)
      (earlier : Reformatted template (before ++ after)) (edge : IsLineEdge before after) :
      Reformatted template (before ++ p.chars ++ after)

/-- **Every run of changes.**  A reformatted template has the same rows. -/
theorem Reformatted.rows_eq {template other : List Char} (h : Reformatted template other) :
    rows other = rows template := by
  induction h with
  | unchanged => rfl
  | returns _ ih => rw [rows_returns, ih]
  | blanks p _ edge ih => rw [rows_blanks p edge, ih]

end Layout

/-! ## Plans and fragments row by row -/

theorem Markup.writeAll_append (parts more : List Markup) :
    writeAll (parts ++ more) = writeAll parts ++ writeAll more := by
  induction parts with
  | nil => rfl
  | cons part parts ih => simp only [List.cons_append, writeAll, ih, List.append_assoc]

namespace Page

/-- The text of the rows of a plan, one after the other. -/
def rowsText (theme : ChartTheme) (rows : List RenderRow) : String :=
  String.ofList (rows.flatMap fun row => Markup.writeAll (rowElement theme row))

/-- The text of a fragment is that of its rows between the two tags of its element. -/
theorem fragment_eq (plan : RenderPlan) (theme : ChartTheme) :
    fragment plan theme =
      "<main class=\"report\">\n" ++ rowsText theme plan.rows ++ "</main>\n" := by
  have hrows : Markup.writeAll (plan.rows.flatMap (rowElement theme)) =
      plan.rows.flatMap fun row => Markup.writeAll (rowElement theme row) := by
    induction plan.rows with
    | nil => rfl
    | cons row rows ih =>
        rw [List.flatMap_cons, List.flatMap_cons, Markup.writeAll_append, ih]
  have hopening : Markup.openTag "main" [("class", "report")] ++ Markup.write Markup.newline =
      "<main class=\"report\">\n".toList := by decide
  have hclosing : Markup.closeTag "main" ++ Markup.write Markup.newline =
      "</main>\n".toList := by decide
  apply String.toList_injective
  simp only [fragment, rowsText, mainElement, Markup.writeAll, Markup.write, hrows,
    String.toList_append, String.toList_ofList, ← hopening, ← hclosing, List.append_assoc,
    List.append_nil]

end Page

namespace RenderPlan

/-- A plan is put together from two others: its rows are theirs one after the other, its summary
counts their cells together, and its fragment has between its tags what the one has there and then
what the other has there. -/
structure Joins (joined first second : RenderPlan) : Prop where
  rows : joined.rows = first.rows ++ second.rows
  resolved : joined.summary.resolved = first.summary.resolved + second.summary.resolved
  missing : joined.summary.missing = first.summary.missing + second.summary.missing
  unresolved : joined.summary.unresolved = first.summary.unresolved + second.summary.unresolved
  fragment : ∀ theme,
    Page.fragment first theme =
        "<main class=\"report\">\n" ++ Page.rowsText theme first.rows ++ "</main>\n" ∧
      Page.fragment second theme =
        "<main class=\"report\">\n" ++ Page.rowsText theme second.rows ++ "</main>\n" ∧
      Page.fragment joined theme =
        "<main class=\"report\">\n" ++ Page.rowsText theme first.rows ++
          Page.rowsText theme second.rows ++ "</main>\n"

/-- The plan of some rows and of more is put together from their plans. -/
theorem compile_joins (first second : List LayoutRow) (sections : Sections) :
    (compile (first ++ second) sections).Joins (compile first sections)
      (compile second sections) := by
  have hrows : (compile (first ++ second) sections).rows =
      (compile first sections).rows ++ (compile second sections).rows := List.map_append
  have hcells : (compile (first ++ second) sections).cells =
      (compile first sections).cells ++ (compile second sections).cells := by
    rw [cells, hrows, List.flatMap_append]
    rfl
  refine ⟨hrows, ?_, ?_, ?_, ?_⟩
  · simp only [summary_eq, hcells, List.countP_append]
  · simp only [summary_eq, hcells, List.countP_append]
  · simp only [summary_eq, hcells, List.countP_append]
  · intro theme
    have htexts : Page.rowsText theme (compile (first ++ second) sections).rows =
        Page.rowsText theme (compile first sections).rows ++
          Page.rowsText theme (compile second sections).rows := by
      rw [Page.rowsText, hrows, List.flatMap_append, String.ofList_append]
      rfl
    refine ⟨Page.fragment_eq _ theme, Page.fragment_eq _ theme, ?_⟩
    rw [Page.fragment_eq, htexts, ← String.append_assoc]

/-- **Reports compose line by line.**  Two templates one under the other have the rows of the one
and then those of the other, and the plan and the fragment are put together accordingly.  Line ends
with carriage returns, and blanks at the ends of lines, change nothing. -/
theorem ofTexts_byLines (payload : String) :
    (∀ first second : String,
      Layout.parse (first ++ "\n" ++ second) = Layout.parse first ++ Layout.parse second ∧
      (ofTexts (first ++ "\n" ++ second) payload).Joins (ofTexts first payload)
        (ofTexts second payload)) ∧
    ∀ template other : String, Layout.Reformatted template.toList other.toList →
      Layout.parse other = Layout.parse template ∧
      ofTexts other payload = ofTexts template payload ∧
      ∀ theme, Page.fragment (ofTexts other payload) theme =
        Page.fragment (ofTexts template payload) theme := by
  constructor
  · intro first second
    have hparse : Layout.parse (first ++ "\n" ++ second) =
        Layout.parse first ++ Layout.parse second := by
      have hchars : (first ++ "\n" ++ second).toList =
          first.toList ++ '\n' :: second.toList := by simp
      rw [Layout.parse, hchars, Layout.rows_append]
      rfl
    refine ⟨hparse, ?_⟩
    rw [ofTexts, hparse]
    exact compile_joins _ _ _
  · intro template other h
    have hparse : Layout.parse other = Layout.parse template := h.rows_eq
    have hplan : ofTexts other payload = ofTexts template payload := by
      rw [ofTexts, ofTexts, hparse]
    exact ⟨hparse, hplan, fun theme => by rw [hplan]⟩

end RenderPlan

end ReportGrid
