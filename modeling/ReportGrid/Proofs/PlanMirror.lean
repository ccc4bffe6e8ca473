import ReportGrid.Plan.Basic
import ReportGrid.Proofs.SectionPushes

/-!
# Plans mirror layouts

A plan has the rows of its layout and, in each row, one cell for each token.  `RenderPlan.Mirrors`
says this for any plan, layout and collection of sections, together with what decides the outcome of
a cell and what the summary counts; `RenderPlan.ofTexts_mirrors` proves it of every report.

The one step that is not plain mapping is the shortcode of a resolved cell.  It is not the token
that was looked up but the shortcode inside the section that was found, and the two are equal
because sections are kept under their own shortcodes (`RenderCell.resolve_shortcode`).

* `RenderCell.resolve_cases` — the three outcomes of a token;
* `RenderPlan.mem_cells_compile` — every cell of a plan is the outcome of its own shortcode;
* `RenderPlan.summary_eq` — the summary counts the outcomes.
-/

namespace ReportGrid

theorem Section.kind_eq_unknown_iff {m : Section} :
    m.kind = .unknown ↔ ∃ tag, m.body = .unknown tag := by
  unfold Section.kind
  cases m.body <;> simp [SectionBody.kind]

namespace RenderCell

@[simp] theorem variant_resolved (m : Section) : (resolved m).variant = "resolved" := rfl

@[simp] theorem variant_missing (code : String) : (missing code).variant = "missing" := rfl

@[simp] theorem variant_unresolved (code reason : String) :
    (unresolved code reason).variant = "unresolved" := rfl

/-- The outcomes of a token: no section is found, one of an unknown kind, or one that is shown. -/
theorem resolve_cases (sections : Sections) (token : String) :
    (sections.get? token = none ∧ resolve sections token = .missing token) ∨
    (∃ m, sections.get? token = some m ∧ m.kind = .unknown ∧
      resolve sections token = .unresolved token unknownKind) ∨
    (∃ m, sections.get? token = some m ∧ m.kind ≠ .unknown ∧
      resolve sections token = .resolved m) := by
  unfold resolve
  cases hget : sections.get? token with
  | none => exact Or.inl ⟨rfl, rfl⟩
  | some m =>
      by_cases hkind : m.kind = .unknown
      · exact Or.inr (Or.inl ⟨m, rfl, hkind, by simp [hkind]⟩)
      · exact Or.inr (Or.inr ⟨m, rfl, hkind, by simp [hkind]⟩)

/-- **The shortcode of a cell is its token**, also where it is read from the section. -/
theorem resolve_shortcode (sections : Sections) (token : String) :
    (resolve sections token).shortcode = token := by
  rcases resolve_cases sections token with ⟨-, h⟩ | ⟨m, -, -, h⟩ | ⟨m, hget, -, h⟩
  · rw [h, shortcode]
  · rw [h, shortcode]
  · rw [h, shortcode]
    exact (Sections.get?_eq_some_iff.mp hget).2

theorem resolve_eq_missing_iff (sections : Sections) (token : String) :
    resolve sections token = .missing token ↔ ∀ m ∈ sections.toList, m.shortcode ≠ token := by
  rw [← Sections.get?_eq_none_iff]
  rcases resolve_cases sections token with ⟨hget, h⟩ | ⟨m, hget, -, h⟩ | ⟨m, hget, -, h⟩ <;>
    simp [h, hget]

theorem resolve_eq_unresolved_iff (sections : Sections) (token : String) :
    resolve sections token = .unresolved token unknownKind ↔
      ∃ m ∈ sections.toList, m.shortcode = token ∧ ∃ tag, m.body = .unknown tag := by
  have hfound : (∃ m ∈ sections.toList, m.shortcode = token ∧ ∃ tag, m.body = .unknown tag) ↔
      ∃ m, sections.get? token = some m ∧ m.kind = .unknown := by
    simp only [Sections.get?_eq_some_iff, Section.kind_eq_unknown_iff, and_assoc]
  rw [hfound]
  rcases resolve_cases sections token with
    ⟨hget, h⟩ | ⟨m, hget, hkind, h⟩ | ⟨m, hget, hkind, h⟩
  · simp [h, hget]
  · simp [h, hget, hkind]
  · simp [h, hget, hkind]

theorem resolve_eq_resolved_iff (sections : Sections) (token : String) (m : Section) :
    resolve sections token = .resolved m ↔
      m ∈ sections.toList ∧ m.shortcode = token ∧ ∀ tag, m.body ≠ .unknown tag := by
  have hknown : (∀ tag, m.body ≠ .unknown tag) ↔ m.kind ≠ .unknown := by
    rw [ne_eq, Section.kind_eq_unknown_iff, not_exists]
  rw [← and_assoc, ← Sections.get?_eq_some_iff, hknown]
  rcases resolve_cases sections token with
    ⟨hget, h⟩ | ⟨n, hget, hkind, h⟩ | ⟨n, hget, hkind, h⟩
  · simp [h, hget]
  · rw [h, hget]
    simp only [reduceCtorEq, Option.some.injEq, false_iff, not_and, not_not]
    rintro rfl
    exact hkind
  · rw [h, hget]
    simp only [resolved.injEq, Option.some.injEq]
    exact ⟨fun heq => ⟨heq, heq ▸ hkind⟩, fun hand => hand.1⟩

end RenderCell

/-- The number of columns of a row of cells: as many as cells up to four, else one. -/
theorem GridColumns.count_ofCount {n : Nat} (h : n ≠ 0) :
    (GridColumns.ofCount n).count = if n ≤ 4 then n else 1 := by
  match n, h with
  | 1, _ | 2, _ | 3, _ | 4, _ => rfl
  | n + 5, _ => simp [ofCount, count]

namespace RenderPlan

/-- A plan has the rows and tokens of a layout and takes its cells from given sections.

Rows and cells are compared as lists, so that their number and their order agree.  The outcome of a
cell is told from the sections alone, not from how one is looked up. -/
structure Mirrors (plan : RenderPlan) (layout : List LayoutRow) (sections : Sections) : Prop where
  shortcodes : plan.rows.map (fun row => row.cells.map RenderCell.shortcode) =
    layout.map LayoutRow.tokens
  columns : plan.rows.map (fun row => row.columns.count) =
    layout.map fun row => if row.tokens.length ≤ 4 then row.tokens.length else 1
  missing_iff : ∀ cell ∈ plan.cells, cell = .missing cell.shortcode ↔
    ∀ m ∈ sections.toList, m.shortcode ≠ cell.shortcode
  unresolved_iff : ∀ cell ∈ plan.cells,
    cell = .unresolved cell.shortcode RenderCell.unknownKind ↔
      ∃ m ∈ sections.toList, m.shortcode = cell.shortcode ∧ ∃ tag, m.body = .unknown tag
  resolved_iff : ∀ cell ∈ plan.cells, ∀ m, cell = .resolved m ↔
    m ∈ sections.toList ∧ m.shortcode = cell.shortcode ∧ ∀ tag, m.body ≠ .unknown tag
  same_token : ∀ cell ∈ plan.cells, ∀ other ∈ plan.cells,
    cell.shortcode = other.shortcode → cell = other
  summary_resolved : plan.summary.resolved =
    plan.cells.countP fun cell => cell.variant = "resolved"
  summary_missing : plan.summary.missing = plan.cells.countP fun cell => cell.variant = "missing"
  summary_unresolved : plan.summary.unresolved =
    plan.cells.countP fun cell => cell.variant = "unresolved"
  summary_total : plan.summary.resolved + plan.summary.missing + plan.summary.unresolved =
    (layout.flatMap LayoutRow.tokens).length

/-- The cells of a plan are the outcomes of all tokens in order. -/
theorem cells_compile (rows : List LayoutRow) (sections : Sections) :
    (compile rows sections).cells =
      (rows.flatMap LayoutRow.tokens).map (RenderCell.resolve sections) := by
  simp [cells, compile, List.flatMap_map, List.map_flatMap]

/-- The shortcodes of the cells of a plan are all tokens in order. -/
theorem shortcodes_compile (rows : List LayoutRow) (sections : Sections) :
    (compile rows sections).cells.map RenderCell.shortcode = rows.flatMap LayoutRow.tokens := by
  simp [cells_compile, Function.comp_def, RenderCell.resolve_shortcode]

/-- Every cell of a plan is the outcome of its own shortcode. -/
theorem mem_cells_compile {rows : List LayoutRow} {sections : Sections} {cell : RenderCell}
    (h : cell ∈ (compile rows sections).cells) :
    RenderCell.resolve sections cell.shortcode = cell := by
  rw [cells_compile] at h
  obtain ⟨token, -, rfl⟩ := List.mem_map.mp h
  rw [RenderCell.resolve_shortcode]

/-- One pass over some cells adds the number of cells of each outcome to the counts. -/
theorem foldl_add (start : PlanSummary) (cells : List RenderCell) :
    cells.foldl PlanSummary.add start =
      ⟨start.resolved + cells.countP (fun cell => cell.variant = "resolved"),
        start.missing + cells.countP (fun cell => cell.variant = "missing"),
        start.unresolved + cells.countP (fun cell => cell.variant = "unresolved")⟩ := by
  induction cells generalizing start with
  | nil => rfl
  | cons cell rest ih =>
      rw [List.foldl_cons, ih]
      cases cell <;> simp [PlanSummary.add, Nat.add_assoc, Nat.add_comm 1]

/-- The summary counts the outcomes. -/
theorem summary_eq (plan : RenderPlan) :
    plan.summary =
      ⟨plan.cells.countP fun cell => cell.variant = "resolved",
        plan.cells.countP fun cell => cell.variant = "missing",
        plan.cells.countP fun cell => cell.variant = "unresolved"⟩ := by
  simpa [summary] using foldl_add ⟨0, 0, 0⟩ plan.cells

/-- Every cell has one of three outcomes. -/
theorem countP_variants (cells : List RenderCell) :
    cells.countP (fun cell => cell.variant = "resolved") +
      cells.countP (fun cell => cell.variant = "missing") +
      cells.countP (fun cell => cell.variant = "unresolved") = cells.length := by
  induction cells with
  | nil => rfl
  | cons cell rest ih =>
      cases cell <;> simp <;> omega

/-- Joining any rows with any sections gives a plan that mirrors the rows. -/
theorem compile_mirrors (rows : List LayoutRow) (sections : Sections) :
    (compile rows sections).Mirrors rows sections where
  shortcodes := by
    simp [compile, RenderCell.resolve_shortcode, Function.comp_def]
  columns := by
    simp only [compile, List.map_map]
    apply List.map_congr_left
    intro row _
    exact GridColumns.count_ofCount (by simpa using row.tokens_ne_nil)
  missing_iff := by
    intro cell hcell
    have h := RenderCell.resolve_eq_missing_iff sections cell.shortcode
    rwa [mem_cells_compile hcell] at h
  unresolved_iff := by
    intro cell hcell
    have h := RenderCell.resolve_eq_unresolved_iff sections cell.shortcode
    rwa [mem_cells_compile hcell] at h
  resolved_iff := by
    intro cell hcell m
    have h := RenderCell.resolve_eq_resolved_iff sections cell.shortcode m
    rwa [mem_cells_compile hcell] at h
  same_token := by
    intro cell hcell other hother hcode
    rw [← mem_cells_compile hcell, hcode, mem_cells_compile hother]
  summary_resolved := by rw [summary_eq]
  summary_missing := by rw [summary_eq]
  summary_unresolved := by rw [summary_eq]
  summary_total := by
    rw [summary_eq, countP_variants, cells_compile, List.length_map]

/-- **The plan of a report mirrors its template**, whatever the template and the payload say. -/
theorem ofTexts_mirrors (template payload : String) :
    (ofTexts template payload).Mirrors (Layout.parse template) (Payload.ofText payload) :=
  compile_mirrors _ _

end RenderPlan

end ReportGrid
