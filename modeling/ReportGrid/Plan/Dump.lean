import ReportGrid.Plan.Basic
import ReportGrid.Chart.Spec

/-!
# Plans as JSON

The dump of a plan lists its rows with their width and their cells.  A cell has its outcome and its
shortcode; a resolved one also its section and, for a graph, its chart; every other one what is
shown in its place, and an unresolved one the reason.
-/

namespace ReportGrid

/-- A field that is left out when it has no value. -/
def Json.fieldIfSome {α : Type} (name : String) (json : α → Json) (value : Option α) :
    List (String × Json) :=
  (value.map fun v => (name, json v)).toList

/-- The chart of a resolved cell that holds a graph. -/
def RenderCell.chart? (theme : ChartTheme) (cell : RenderCell) : Option ChartSpec :=
  cell.content?.bind fun content => ChartSpec.ofSection? content theme

/-- A cell as JSON. -/
def RenderCell.json (theme : ChartTheme) (cell : RenderCell) : Json :=
  .object ([("variant", .string cell.variant), ("shortcode", .string cell.shortcode)] ++
    Json.fieldIfSome "reason" .string cell.reason? ++
    Json.fieldIfSome "placeholder" .string cell.placeholder? ++
    Json.fieldIfSome "section" Section.json cell.content? ++
    Json.fieldIfSome "chart" ChartSpec.json (cell.chart? theme))

/-- A row as JSON. -/
def RenderRow.json (theme : ChartTheme) (row : RenderRow) : Json :=
  .object [("columns", .int row.columns.count),
    ("cells", .array (row.cells.map (RenderCell.json theme)))]

namespace RenderPlan

/-- A plan as JSON. -/
def json (theme : ChartTheme) (plan : RenderPlan) : Json :=
  .object [("rows", .array (plan.rows.map (RenderRow.json theme)))]

/-- The text of the dump of a plan. -/
def dump (plan : RenderPlan) (theme : ChartTheme) : String :=
  (plan.json theme).pretty

end RenderPlan

end ReportGrid
