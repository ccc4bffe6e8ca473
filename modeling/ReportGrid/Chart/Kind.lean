import ReportGrid.Text

/-!
# Kinds of charts

A chart kind is named by a tag.  Reading a tag takes blanks at its ends and ASCII capitals lightly,
and a text that is no tag stands for a bar chart.  The kind decides how values and labels become
series (`SeriesShape`).
-/

namespace ReportGrid

/-- The kinds of charts. -/
inductive ChartKind where
  | bar
  | line
  | area
  | pie
  | donut
  | scatter
  | radar
  | radialBar
  | heatmap
  | treemap
  | boxPlot
  | candlestick
  | bubble
deriving DecidableEq, Repr

/-- How labels and values become series: one series over the labels, the bare values with the
labels beside them, points that pair labels with values, or one series of the values alone. -/
inductive SeriesShape where
  | categorical
  | flat
  | treemap
  | raw
deriving DecidableEq, Repr

namespace ChartKind

/-- Every kind. -/
def all : List ChartKind :=
  [.bar, .line, .area, .pie, .donut, .scatter, .radar, .radialBar, .heatmap, .treemap, .boxPlot,
    .candlestick, .bubble]

/-- The tag of a kind in payloads and in the plan. -/
def tag : ChartKind → String
  | .bar => "bar"
  | .line => "line"
  | .area => "area"
  | .pie => "pie"
  | .donut => "donut"
  | .scatter => "scatter"
  | .radar => "radar"
  | .radialBar => "radialbar"
  | .heatmap => "heatmap"
  | .treemap => "treemap"
  | .boxPlot => "boxplot"
  | .candlestick => "candlestick"
  | .bubble => "bubble"

/-- The kind whose tag a text is, apart from blanks at its ends and ASCII capitals. -/
def ofTag? (text : String) : Option ChartKind :=
  all.find? fun kind => kind.tag.toList == Text.lower (Text.trim text.toList)

/-- The kind that a text stands for; a bar chart when the text is no tag. -/
def ofTag (text : String) : ChartKind :=
  (ofTag? text).getD .bar

/-- The name of a kind in the options of a chart. -/
def rendererType : ChartKind → String
  | .radialBar => "radialBar"
  | .boxPlot => "boxPlot"
  | kind => kind.tag

/-- How a kind makes series of labels and values. -/
def shape : ChartKind → SeriesShape
  | .bar | .line | .area | .scatter | .radar | .heatmap | .boxPlot => .categorical
  | .pie | .donut | .radialBar => .flat
  | .treemap => .treemap
  | .candlestick | .bubble => .raw

end ChartKind

end ReportGrid
