import ReportGrid.Proofs.DocumentPlaces
import ReportGrid.Proofs.PageDump

/-!
# Places in the dump of a plan

The dump of a plan is read as what the plan is as JSON (`RenderPlan.read_dump`).  What is written at
a place inside the entry of a cell is found in the cell (`RenderPlan.at?_cell`), and further inside
in its section or its chart.  The page holds the same chart as the value of an attribute
(`Page.chartTexts_cellBox`).
-/

namespace ReportGrid

/-- The place of the entry of a cell in the dump of a plan. -/
def RenderPlan.cellPlace (i j : Nat) : List Step :=
  [.field "rows", .item i, .field "cells", .item j]

/-- The dump of a plan is a strict document without a fault. -/
theorem RenderPlan.read_dump (plan : RenderPlan) (theme : ChartTheme) :
    Document.read .strict (plan.dump theme).toList = ⟨(plan.json theme).tree, false⟩ := by
  rw [dump, Json.pretty, String.toList_ofList, Document.read_write]

/-- An item of an array stands at its place. -/
theorem Json.step?_item {items : List Json} {i : Nat} {value : Json} (h : items[i]? = some value) :
    (Json.array items).tree.step? (.item i) = some value.tree := by
  simp [tree, Tree.step?, h]

/-- What stands inside the entry of a cell stands in the cell. -/
theorem RenderPlan.at?_cell {plan : RenderPlan} {row : RenderRow} {cell : RenderCell} {i j : Nat}
    (hrow : plan.rows[i]? = some row) (hcell : row.cells[j]? = some cell) (theme : ChartTheme)
    (steps : List Step) :
    (plan.json theme).tree.at? (cellPlace i j ++ steps) = (cell.json theme).tree.at? steps := by
  have hentry : (plan.rows.map (RenderRow.json theme))[i]? = some (row.json theme) := by
    simp [hrow]
  have hinner : (row.cells.map (RenderCell.json theme))[j]? = some (cell.json theme) := by
    simp [hcell]
  refine (Tree.at?_cons rfl _).trans ?_
  refine (Tree.at?_cons (Json.step?_item hentry) _).trans ?_
  refine (Tree.at?_cons rfl _).trans ?_
  exact Tree.at?_cons (Json.step?_item hinner) _

/-- What stands inside the section of a cell stands in the section. -/
theorem RenderCell.at?_section (m : Section) (theme : ChartTheme) (steps : List Step) :
    ((resolved m).json theme).tree.at? (.field "section" :: steps) = m.json.tree.at? steps := by
  obtain ⟨id, code, title, body⟩ := m
  cases body <;> exact Tree.at?_cons rfl steps

/-- What stands inside the chart of a cell stands in the chart. -/
theorem RenderCell.at?_chart {m : Section} {theme : ChartTheme} {spec : ChartSpec}
    (h : ChartSpec.ofSection? m theme = some spec) (steps : List Step) :
    ((resolved m).json theme).tree.at? (.field "chart" :: steps) = spec.json.tree.at? steps := by
  obtain ⟨id, code, title, body⟩ := m
  cases body with
  | graph data kind =>
      obtain rfl := Option.some.inj h
      exact Tree.at?_cons rfl steps
  | _ => exact absurd h (by simp [ChartSpec.ofSection?])

namespace Page

open Markup

/-- The texts of the charts in an element of a page. -/
def chartTexts (box : Markup) : List String :=
  box.elements.filterMap (attribute? "data-chart")

/-- The element of a graph has the text of its chart. -/
theorem chartTexts_cellBox {m : Section} {data : GraphData} {kind : ChartKind}
    (h : m.body = .graph data kind) (theme : ChartTheme) :
    chartTexts (cellBox theme (.resolved m)).join =
      [(ChartSpec.build data kind m.title theme).json.compact] := by
  rw [chartTexts, charts_join, charts_cellBox h]

/-- The text of a chart is read as the chart. -/
theorem read_compact (value : Json) :
    Document.read .strict value.compact.toList = ⟨value.tree, false⟩ := by
  rw [Json.compact, String.toList_ofList, Document.read_write]

end Page

end ReportGrid
