import ReportGrid.Command.Run
import ReportGrid.Proofs.PlanMirror

/-!
# Absent shortcodes

A run logs the shortcodes of its layout that no section has.  The plan shows them again, as missing
cells.  The two come about in different ways: the run goes through all tokens, keeps those that it
has not seen before, and looks up what it has kept; the plan looks up every token, each time that it
stands in the layout.

* `Layout.foldl_addShortcode` — what is kept of some tokens are those tokens without repeats, since
  one more token keeps it so (`Layout.addShortcode_distinct`);
* `RenderPlan.missingShortcodes_compile` — the missing cells of a plan are the tokens that no
  section has, with repeats;
* `Command.absent_eq` — without repeats they are the absent shortcodes, because repeats and tokens
  that a section has may be left out in either order (`Text.distinct_filter`).

So the absent shortcodes can be told from the plan alone (`Command.absent_agreesWithPlan`), and with
them what a run logs (`Command.logInputs_eq`).
-/

namespace ReportGrid

/-! ## Shortcodes in use -/

namespace Layout

/-- Reading one more token keeps the tokens read so far without repeats. -/
theorem addShortcode_distinct (read : List String) (token : String) :
    addShortcode (Text.distinct read) token = Text.distinct (read ++ [token]) := by
  rw [addShortcode, Text.contains_distinct, Text.distinct_concat]

/-- Reading more tokens keeps all tokens without repeats. -/
theorem foldl_addShortcode (read more : List String) :
    more.foldl addShortcode (Text.distinct read) = Text.distinct (read ++ more) := by
  induction more generalizing read with
  | nil => simp
  | cons token more ih =>
      rw [List.foldl_cons, addShortcode_distinct, ih, List.append_assoc, List.singleton_append]

/-- The shortcodes of a layout are its tokens without repeats. -/
theorem shortcodes_eq_distinct (rows : List LayoutRow) :
    shortcodes rows = Text.distinct (rows.flatMap LayoutRow.tokens) :=
  foldl_addShortcode [] _

example : shortcodes (parse "[a] | [b]\n[a]\n[c] | [b]") = ["a", "b", "c"] := by decide +kernel

theorem mem_shortcodes_iff {rows : List LayoutRow} {code : String} :
    code ∈ shortcodes rows ↔ ∃ row ∈ rows, code ∈ row.tokens := by
  rw [shortcodes_eq_distinct, Text.mem_distinct, List.mem_flatMap]

end Layout

/-! ## Missing cells -/

namespace RenderCell

/-- The shortcode of a missing cell. -/
def missing? : RenderCell → Option String
  | .missing code => some code
  | _ => none

/-- A token gives a missing cell when no section has it. -/
theorem missing?_resolve (sections : Sections) (token : String) :
    (resolve sections token).missing? =
      if (sections.get? token).isNone then some token else none := by
  rcases resolve_cases sections token with
    ⟨hget, h⟩ | ⟨m, hget, -, h⟩ | ⟨m, hget, -, h⟩ <;>
    simp [h, hget, missing?]

/-- A cell is missing when the name of its outcome says so. -/
theorem isSome_missing? (cell : RenderCell) :
    cell.missing?.isSome = decide (cell.variant = "missing") := by
  cases cell <;> rfl

end RenderCell

namespace RenderPlan

/-- The shortcodes of the missing cells of a plan in order, with repeats. -/
def missingShortcodes (plan : RenderPlan) : List String :=
  plan.cells.filterMap RenderCell.missing?

/-- The missing cells of a plan are the tokens that no section has. -/
theorem missingShortcodes_compile (rows : List LayoutRow) (sections : Sections) :
    (compile rows sections).missingShortcodes =
      (rows.flatMap LayoutRow.tokens).filter fun token => (sections.get? token).isNone := by
  have hcell : RenderCell.missing? ∘ RenderCell.resolve sections =
      fun token => if (sections.get? token).isNone then some token else none :=
    funext (RenderCell.missing?_resolve sections)
  rw [missingShortcodes, cells_compile, List.filterMap_map, hcell]
  exact congrFun List.filterMap_eq_filter _

/-- The summary counts the missing cells, each time that a shortcode is missing. -/
theorem length_missingShortcodes (plan : RenderPlan) :
    plan.missingShortcodes.length = plan.summary.missing := by
  rw [missingShortcodes, List.length_filterMap_eq_countP, summary_eq]
  exact List.countP_congr fun cell _ => by rw [RenderCell.isSome_missing?]

end RenderPlan

/-! ## What a run tells -/

namespace Command

/-- A shortcode is absent when a row uses it and no section has it. -/
theorem mem_absent_iff {rows : List LayoutRow} {sections : Sections} {code : String} :
    code ∈ absent rows sections ↔
      (∃ row ∈ rows, code ∈ row.tokens) ∧ ∀ m ∈ sections.toList, m.shortcode ≠ code := by
  rw [absent, List.mem_filter, Layout.mem_shortcodes_iff, Option.isNone_iff_eq_none,
    Sections.get?_eq_none_iff]

/-- The absent shortcodes are those of the missing cells of the plan without repeats. -/
theorem absent_eq (rows : List LayoutRow) (sections : Sections) :
    absent rows sections = Text.distinct (RenderPlan.compile rows sections).missingShortcodes := by
  rw [absent, Layout.shortcodes_eq_distinct, ← Text.distinct_filter,
    RenderPlan.missingShortcodes_compile]

/-- No shortcode is absent exactly when the plan counts no missing cell. -/
theorem absent_eq_nil_iff (rows : List LayoutRow) (sections : Sections) :
    absent rows sections = [] ↔ (RenderPlan.compile rows sections).summary.missing = 0 := by
  rw [absent_eq, Text.distinct_eq_nil_iff, ← RenderPlan.length_missingShortcodes,
    List.length_eq_zero_iff]

/-- **What a run logs can be told from its plan**: whether it has no rows, and in a verbose run the
shortcodes of its missing cells, if it counts any. -/
theorem logInputs_eq {m : Type → Type} [Monad m] (w : Workspace m) (verbose : Bool)
    (template payload : String) :
    logInputs w verbose template payload = (do
      let plan := RenderPlan.ofTexts template payload
      if plan.rows.isEmpty then w.note "template has no layout rows"
      if verbose && plan.summary.missing != 0 then
        w.note ("template references shortcodes missing from the payload: " ++
          (Json.strings (Text.distinct plan.missingShortcodes)).compact)) := by
  have hrows : (RenderPlan.ofTexts template payload).rows.isEmpty =
      (Layout.parse template).isEmpty := by
    rw [RenderPlan.ofTexts, RenderPlan.compile, List.isEmpty_map]
  have habsent : (!(absent (Layout.parse template) (Payload.ofText payload)).isEmpty) =
      ((RenderPlan.ofTexts template payload).summary.missing != 0) := by
    rw [Bool.eq_iff_iff, Bool.not_eq_true', ← Bool.not_eq_true, List.isEmpty_iff,
      absent_eq_nil_iff, bne_iff_ne, RenderPlan.ofTexts]
  dsimp only
  rw [logInputs, hrows, habsent, absent_eq, ← RenderPlan.ofTexts]

/-- The shortcodes that rows use, and those of them that a plan misses.

The first list is told from the rows alone.  The second one is told twice, from the sections, which
say what it holds, and from the plan, which gives it as it is. -/
structure AgreesWithPlan (rows : List LayoutRow) (sections : Sections) (plan : RenderPlan)
    (used missed : List String) : Prop where
  nodup : used.Nodup
  mem_iff : ∀ code : String, code ∈ used ↔ ∃ row ∈ rows, code ∈ row.tokens
  /-- Shortcodes stand in the order of their first uses. -/
  ordered : used.Pairwise fun a b =>
    (rows.flatMap LayoutRow.tokens).idxOf a < (rows.flatMap LayoutRow.tokens).idxOf b
  missed_iff : ∀ code : String,
    code ∈ missed ↔ code ∈ used ∧ ∀ m ∈ sections.toList, m.shortcode ≠ code
  /-- They are the missing cells in the order of the plan, without repeats. -/
  missed_eq : missed = Text.distinct plan.missingShortcodes
  isEmpty_iff : missed.isEmpty = true ↔ plan.summary.missing = 0

/-- **The absent shortcodes are the missing cells**, whatever the rows and the sections are. -/
theorem absent_agreesWithPlan (rows : List LayoutRow) (sections : Sections) :
    AgreesWithPlan rows sections (RenderPlan.compile rows sections) (Layout.shortcodes rows)
      (absent rows sections) where
  nodup := by
    rw [Layout.shortcodes_eq_distinct]
    exact Text.nodup_distinct _
  mem_iff := by
    intro code
    exact Layout.mem_shortcodes_iff
  ordered := by
    rw [Layout.shortcodes_eq_distinct]
    exact Text.pairwise_idxOf_distinct _
  missed_iff := by
    intro code
    rw [mem_absent_iff, Layout.mem_shortcodes_iff]
  missed_eq := absent_eq rows sections
  isEmpty_iff := by
    rw [List.isEmpty_iff]
    exact absent_eq_nil_iff rows sections

end Command

end ReportGrid
