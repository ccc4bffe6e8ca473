import ReportGrid.Layout
import ReportGrid.Payload

/-!
# Render plans

A plan joins the rows of a layout with sections.  It has a row for each row of the layout and a
cell for each token.  A token that no section has as its shortcode gives a missing cell, and a
section of an unknown kind an unresolved one; every other cell is resolved with its section.
-/

namespace ReportGrid

/-- A cell of a plan. -/
inductive RenderCell where
  | resolved (content : Section)
  | missing (shortcode : String)
  | unresolved (shortcode reason : String)
deriving Repr

namespace RenderCell

/-- The shortcode of a cell. -/
def shortcode : RenderCell → String
  | .resolved content => content.shortcode
  | .missing shortcode => shortcode
  | .unresolved shortcode _ => shortcode

/-- The name of the outcome of a cell. -/
def variant : RenderCell → String
  | .resolved _ => "resolved"
  | .missing _ => "missing"
  | .unresolved _ _ => "unresolved"

/-- The section of a resolved cell. -/
def content? : RenderCell → Option Section
  | .resolved content => some content
  | _ => none

/-- Why a cell is unresolved. -/
def reason? : RenderCell → Option String
  | .unresolved _ reason => some reason
  | _ => none

/-- What is shown in place of a cell that has no section to show. -/
def placeholder? : RenderCell → Option String
  | .resolved _ => none
  | .missing shortcode => some ("[Missing: " ++ shortcode ++ "]")
  | .unresolved shortcode _ => some ("[Unknown type: " ++ shortcode ++ "]")

/-- The reason of cells whose section has a kind that cannot be shown. -/
def unknownKind : String :=
  "unknown kind"

/-- The cell of a token. -/
def resolve (sections : Sections) (token : String) : RenderCell :=
  match sections.get? token with
  | none => .missing token
  | some content =>
    if content.kind = .unknown then .unresolved token unknownKind else .resolved content

end RenderCell

/-- A row of a plan. -/
structure RenderRow where
  columns : GridColumns
  cells : List RenderCell
deriving Repr

/-- The rows and cells of a report. -/
structure RenderPlan where
  rows : List RenderRow
deriving Repr

/-- How many cells of a plan have each outcome. -/
structure PlanSummary where
  resolved : Nat
  missing : Nat
  unresolved : Nat
deriving DecidableEq, Repr

namespace PlanSummary

/-- Counts one more cell. -/
def add (s : PlanSummary) : RenderCell → PlanSummary
  | .resolved _ => { s with resolved := s.resolved + 1 }
  | .missing _ => { s with missing := s.missing + 1 }
  | .unresolved _ _ => { s with unresolved := s.unresolved + 1 }

end PlanSummary

namespace RenderPlan

/-- The plan of rows and sections. -/
def compile (rows : List LayoutRow) (sections : Sections) : RenderPlan :=
  ⟨rows.map fun row => ⟨row.columns, row.tokens.map (RenderCell.resolve sections)⟩⟩

/-- The plan of a template and a payload. -/
def ofTexts (template payload : String) : RenderPlan :=
  compile (Layout.parse template) (Payload.ofText payload)

/-- The cells of all rows in order. -/
def cells (plan : RenderPlan) : List RenderCell :=
  plan.rows.flatMap RenderRow.cells

/-- How many cells have each outcome. -/
def summary (plan : RenderPlan) : PlanSummary :=
  plan.cells.foldl PlanSummary.add ⟨0, 0, 0⟩

end RenderPlan

end ReportGrid
