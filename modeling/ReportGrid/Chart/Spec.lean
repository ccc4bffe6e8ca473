import ReportGrid.Chart.Theme
import ReportGrid.Section.Basic

/-!
# Chart specifications

A chart is specified by its series and its options.  The shape of a kind decides how labels and
values become series (`ChartSpec.build`).  The options that come from the theme and the title are
the same for every kind; only categorical charts list categories, and only flat ones list labels.
-/

namespace ReportGrid

/-- The series of a chart: bare values, one named series of values, or one named series of points
that pair a label with a value. -/
inductive ChartSeries where
  | flat (values : List DataValue)
  | named (name : String) (values : List DataValue)
  | points (name : String) (pairs : List (String × DataValue))
deriving Repr

/-- A chart: its series, and what its options are made from. -/
structure ChartSpec where
  series : ChartSeries
  kind : ChartKind
  title : String
  labels : Option (List String)
  categories : Option (List String)
  theme : ChartTheme
deriving Repr

namespace ChartSeries

/-- Every label with the value at its place, or with zero when there are fewer values. -/
def paired : List String → List DataValue → List (String × DataValue)
  | [], _ => []
  | label :: labels, [] => (label, .number (.int 0)) :: paired labels []
  | label :: labels, value :: values => (label, value) :: paired labels values

/-- A point as JSON. -/
def pointJson (point : String × DataValue) : Json :=
  .object [("x", .string point.1), ("y", point.2.json)]

/-- A named series as JSON. -/
def namedJson (name : String) (data : List Json) : Json :=
  .array [.object [("name", .string name), ("data", .array data)]]

/-- Series as JSON. -/
def json : ChartSeries → Json
  | .flat values => .array (values.map DataValue.json)
  | .named name values => namedJson name (values.map DataValue.json)
  | .points name pairs => namedJson name (pairs.map pointJson)

end ChartSeries

namespace ChartSpec

/-- The chart of labels and values. -/
def build (data : GraphData) (kind : ChartKind) (title : String) (theme : ChartTheme) : ChartSpec :=
  match kind.shape with
  | .categorical => ⟨.named title data.values, kind, title, none, some data.labels, theme⟩
  | .flat => ⟨.flat data.values, kind, title, some data.labels, none, theme⟩
  | .treemap =>
    ⟨.points title (ChartSeries.paired data.labels data.values), kind, title, none, none, theme⟩
  | .raw => ⟨.named title data.values, kind, title, none, none, theme⟩

/-- The chart of labels and values whose kind is named by a text. -/
def buildForTag (data : GraphData) (tag title : String) (theme : ChartTheme) : ChartSpec :=
  build data (.ofTag tag) title theme

/-- The chart of a section, titled like the section; only graphs have one. -/
def ofSection? (s : Section) (theme : ChartTheme) : Option ChartSpec :=
  match s.body with
  | .graph data kind => some (build data kind s.title theme)
  | _ => none

/-- The rule for narrow screens. -/
def responsiveJson (theme : ChartTheme) : Json :=
  .object [
    ("breakpoint", .int theme.responsiveBreakpoint),
    ("options", .object [
      ("chart", .object [("width", .string theme.responsiveWidth)]),
      ("legend", .object [("position", .string theme.legendPosition)])])]

/-- The options of a chart as JSON. -/
def optionsJson (spec : ChartSpec) : Json :=
  let theme := spec.theme
  .object ([
    ("chart", .object [
      ("type", .string spec.kind.rendererType),
      ("height", theme.height.json),
      ("fontFamily", .string theme.fontFamily)]),
    ("title", .object [("text", .string spec.title), ("align", .string theme.titleAlign)]),
    ("colors", .strings theme.palette)] ++
    (spec.labels.map fun labels => ("labels", Json.strings labels)).toList ++
    (spec.categories.map fun categories =>
      ("xaxis", Json.object [("categories", .strings categories)])).toList ++
    [("responsive", .array [responsiveJson theme])])

/-- A chart as JSON. -/
def json (spec : ChartSpec) : Json :=
  .object [("series", spec.series.json), ("options", spec.optionsJson)]

end ChartSpec

end ReportGrid
