import ReportGrid.Plan.Dump
import ReportGrid.Proofs.ReadDocuments
import Mathlib.Data.List.Forall2

/-!
# What the dump of a plan says

The dump of a plan is a strict document that loses nothing of the plan.  `RenderPlan.dump_reads`
reads its text and finds an entry for each row and in it one for each cell, in order.

`RenderCell.Entry` says which fields the entry of a cell has and what they hold, by the outcome of
the cell.  Sections and charts are compared as they are written, so that the digits of every number
count (`Document.read_write`).
-/

namespace ReportGrid

/-- A record that was read: an object with named fields. -/
def Tree.ofRecord (fields : List (String × Tree)) : Tree :=
  .object (fields.map fun field => (some field.1, field.2)) .closed

/-- An object is read as the record of its fields. -/
theorem Json.tree_object (fields : List (String × Json)) :
    (Json.object fields).tree = .ofRecord (fields.map fun field => (field.1, field.2.tree)) := by
  simp [Json.tree, Tree.ofRecord]

/-- The names that fields of a cell may have. -/
def RenderCell.fieldNames : List String :=
  ["variant", "shortcode", "reason", "placeholder", "section", "chart"]

/-- What the entry of a cell in a dump holds.  No field stands there twice, and there are no fields
but these. -/
structure RenderCell.Entry (theme : ChartTheme) (cell : RenderCell)
    (fields : List (String × Tree)) : Prop where
  nodup : (fields.map Prod.fst).Nodup
  names : ∀ field ∈ fields, field.1 ∈ fieldNames
  variant : ∀ t, ("variant", t) ∈ fields ↔
    (∃ m, cell = .resolved m ∧ t = .text (some "resolved")) ∨
      (∃ code, cell = .missing code ∧ t = .text (some "missing")) ∨
        ∃ code reason, cell = .unresolved code reason ∧ t = .text (some "unresolved")
  shortcode : ∀ t, ("shortcode", t) ∈ fields ↔
    (∃ m, cell = .resolved m ∧ t = .text (some m.shortcode)) ∨
      (∃ code, cell = .missing code ∧ t = .text (some code)) ∨
        ∃ code reason, cell = .unresolved code reason ∧ t = .text (some code)
  reason : ∀ t, ("reason", t) ∈ fields ↔
    ∃ code reason, cell = .unresolved code reason ∧ t = .text (some reason)
  placeholder : ∀ t, ("placeholder", t) ∈ fields ↔
    (∃ code, cell = .missing code ∧ t = .text (some ("[Missing: " ++ code ++ "]"))) ∨
      ∃ code reason, cell = .unresolved code reason ∧
        t = .text (some ("[Unknown type: " ++ code ++ "]"))
  content : ∀ t, ("section", t) ∈ fields ↔ ∃ m, cell = .resolved m ∧ t = m.json.tree
  /-- Every resolved graph has a chart, and nothing else has one. -/
  chart : ∀ t, ("chart", t) ∈ fields ↔ ∃ m data kind, cell = .resolved m ∧
    m.body = .graph data kind ∧ t = (ChartSpec.build data kind m.title theme).json.tree

/-- **One cell.**  A cell is written as its entry. -/
theorem RenderCell.exists_entry (theme : ChartTheme) (cell : RenderCell) :
    ∃ fields, (cell.json theme).tree = .ofRecord fields ∧ cell.Entry theme fields := by
  refine ⟨_, Json.tree_object _, ?_⟩
  cases cell with
  | resolved m =>
      -- Whether there is a chart depends on the body.
      obtain ⟨id, code, title, body⟩ := m
      cases body <;> constructor <;>
        simp [Json.fieldIfSome, Json.tree, variant, shortcode, reason?, placeholder?, content?,
          chart?, ChartSpec.ofSection?, fieldNames]
  | _ =>
      constructor <;>
        simp [Json.fieldIfSome, Json.tree, variant, shortcode, reason?, placeholder?, content?,
          chart?, fieldNames]

/-- What the entry of a row in a dump holds: its width and the entries of its cells in order. -/
def RenderRow.IsEntry (theme : ChartTheme) (row : RenderRow) (entry : Tree) : Prop :=
  ∃ cells, entry = .ofRecord [("columns", .number (.ofInt row.columns.count)),
      ("cells", .array cells .closed)] ∧
    List.Forall₂ (fun (cell : RenderCell) entry =>
      ∃ fields, entry = .ofRecord fields ∧ cell.Entry theme fields) row.cells cells

/-- **One row.**  A row is written as its entry. -/
theorem RenderRow.isEntry_tree (theme : ChartTheme) (row : RenderRow) :
    row.IsEntry theme (row.json theme).tree := by
  refine ⟨row.cells.map fun cell => (cell.json theme).tree, ?_, ?_⟩
  · simp [RenderRow.json, Json.tree_object, Json.tree, Json.int, Number.numeral,
      Function.comp_def]
  · rw [List.forall₂_map_right_iff, List.forall₂_same]
    exact fun cell _ => cell.exists_entry theme

namespace RenderPlan

/-- **The dump of a plan can be read and loses nothing.**  Its text is a strict document without a
fault, which holds one entry for each row and in it one for each cell, in order. -/
theorem dump_reads (plan : RenderPlan) (theme : ChartTheme) :
    ∃ rows, Document.read .strict (plan.dump theme).toList =
        ⟨.ofRecord [("rows", .array rows .closed)], false⟩ ∧
      (Document.read .strict (plan.dump theme).toList).root.pass = .ok () ∧
      List.Forall₂ (RenderRow.IsEntry theme) plan.rows rows := by
  have hread : Document.read .strict (plan.dump theme).toList =
      ⟨(plan.json theme).tree, false⟩ := by
    rw [dump, Json.pretty, String.toList_ofList, Document.read_write]
  refine ⟨plan.rows.map fun row => (row.json theme).tree, ?_, ?_, ?_⟩
  · rw [hread]
    simp [RenderPlan.json, Json.tree_object, Json.tree, Function.comp_def]
  · rw [hread]
    exact Json.pass_tree _
  · rw [List.forall₂_map_right_iff, List.forall₂_same]
    exact fun row _ => row.isEntry_tree theme

end RenderPlan

end ReportGrid
