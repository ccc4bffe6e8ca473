import ReportGrid.Chart.Height

/-!
# Chart themes

A theme is the styling that all charts of a report share.  Two themes have names; the default one
has several.
-/

namespace ReportGrid

/-- The styling that all charts of a report share. -/
structure ChartTheme where
  fontFamily : String
  palette : List String
  height : Height
  titleAlign : String
  responsiveBreakpoint : Nat
  responsiveWidth : String
  legendPosition : String
deriving DecidableEq, Repr

namespace ChartTheme

/-- The theme of charts unless another one is named. -/
def default : ChartTheme where
  fontFamily := "Helvetica, Arial, sans-serif"
  palette := ["#008FFB", "#00E396", "#FEB019", "#FF4560", "#775DD0", "#546E7A"]
  height := .ofNumber (.int 350)
  titleAlign := "left"
  responsiveBreakpoint := 480
  responsiveWidth := "100%"
  legendPosition := "bottom"

/-- The theme with another font and quieter colours. -/
def modern : ChartTheme :=
  { default with
    fontFamily := "Inter, Segoe UI, system-ui, -apple-system, sans-serif"
    palette := ["#4E79A7", "#F28E2C", "#E15759", "#76B7B2", "#59A14F", "#EDC949"] }

/-- The names of themes. -/
def named : List (String × ChartTheme) :=
  [("modern", modern), ("default", default), ("apex", default), ("base", default)]

/-- The theme with a name. -/
def ofName? (name : String) : Option ChartTheme :=
  named.lookup name

/-- A theme that is found has the name it was looked up by. -/
theorem mem_named {name : String} {theme : ChartTheme} (h : ofName? name = some theme) :
    (name, theme) ∈ named := by
  obtain ⟨before, after, hnamed, -⟩ := List.lookup_eq_some_iff.mp h
  rw [hnamed]
  exact List.mem_append_right _ List.mem_cons_self

end ChartTheme

end ReportGrid
