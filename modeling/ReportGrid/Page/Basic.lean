import ReportGrid.Page.Markup
import ReportGrid.Plan.Basic
import ReportGrid.Chart.Spec
import ReportGrid.Config

/-!
# Pages

A page shows a plan: one grid for each row, and in it one element for each cell.  A resolved cell
is a section with its heading and its text, chart or table; every other cell shows its placeholder.

Charts are drawn by the reader of a page: the element of a chart carries the chart as compact JSON.
-/

namespace ReportGrid

namespace Page

open Markup

/-- The paragraphs of a text: its pieces between empty lines, without blanks at their ends and
without those that are blank. -/
def paragraphs (content : String) : List (List Char) :=
  ((Text.splitOn "\n\n".toList content.toList).map Text.trim).filter (· ≠ [])

/-- The lines of a paragraph with breaks between them. -/
def withBreaks (paragraph : List Char) : List Markup :=
  ((Text.lines paragraph).map fun line => Markup.text (String.ofList line)).intersperse
    (.void "br" [])

/-- A text as paragraphs. -/
def textBody (content : String) : List Markup :=
  (paragraphs content).flatMap fun paragraph =>
    [.element "p" [] (withBreaks paragraph), newline]

/-- A chart as an element that carries it. -/
def chartBody (kind : ChartKind) (spec : ChartSpec) : List Markup :=
  [.element "div" [("class", "report-chart"), ("data-chart-type", kind.tag),
    ("data-chart", spec.json.compact)] [], newline]

/-- The head of a table; there is none without headers. -/
def tableHead (headers : List String) : List Markup :=
  if headers.isEmpty then []
  else
    [.element "thead" [] [.element "tr" [] (headers.map (textElement "th" []))], newline]

/-- A row of a table. -/
def tableRow (cells : List CellValue) : List Markup :=
  [.element "tr" [] (cells.map fun cell => textElement "td" [] cell.display), newline]

/-- A table. -/
def tableBody (headers : List String) (rows : List (List CellValue)) : List Markup :=
  [.element "table" [] (newline :: tableHead headers ++
    [.element "tbody" [] (newline :: rows.flatMap tableRow), newline]), newline]

/-- The heading of a section; an empty title has none. -/
def heading (title : String) : List Markup :=
  if title = "" then [] else [textElement "h2" [] title, newline]

/-- The name of the style class of a kind of section. -/
def kindClass (kind : SectionKind) : String :=
  "report-" ++ kind.name

/-- What a section shows below its heading. -/
def sectionBody (s : Section) (theme : ChartTheme) : List Markup :=
  match s.body with
  | .text content => textBody content
  | .graph data kind => chartBody kind (.build data kind s.title theme)
  | .table headers rows => tableBody headers rows
  | .unknown _ => []

/-- A section.  One of an unknown kind shows nothing. -/
def sectionElement (s : Section) (theme : ChartTheme) : List Markup :=
  if s.kind = .unknown then []
  else
    [.element "section" [("class", "report-cell " ++ kindClass s.kind),
      ("data-shortcode", s.shortcode)]
      (newline :: heading s.title ++ sectionBody s theme), newline]

/-- A cell. -/
def cellElement (theme : ChartTheme) (cell : RenderCell) : List Markup :=
  match cell.content?, cell.placeholder? with
  | some s, _ => sectionElement s theme
  | none, some placeholder =>
    [textElement "div" [("class", "report-cell report-placeholder report-" ++ cell.variant),
      ("data-shortcode", cell.shortcode)] placeholder, newline]
  | none, none => []

/-- A row. -/
def rowElement (theme : ChartTheme) (row : RenderRow) : List Markup :=
  [.element "div" [("class", "report-row grid " ++ row.columns.cssClass)]
    (newline :: row.cells.flatMap (cellElement theme)), newline]

/-- The rows of a plan. -/
def mainElement (theme : ChartTheme) (plan : RenderPlan) : List Markup :=
  [.element "main" [("class", "report")] (newline :: plan.rows.flatMap (rowElement theme)), newline]

/-- The page of a plan. -/
def pageElement (config : Config) (plan : RenderPlan) : List Markup :=
  [.element "html" [] [newline,
    .element "head" [] [newline, .void "meta" [("charset", "utf-8")], newline,
      textElement "title" [] config.htmlTitle, newline], newline,
    .element "body" [] (newline :: mainElement config.chart plan), newline], newline]

/-- The line that every page starts with. -/
def doctype : List Char :=
  "<!DOCTYPE html>\n".toList

/-- The text of the rows of a plan alone. -/
def fragment (plan : RenderPlan) (theme : ChartTheme) : String :=
  String.ofList (writeAll (mainElement theme plan))

/-- The text of the page of a plan. -/
def html (plan : RenderPlan) (config : Config) : String :=
  String.ofList (doctype ++ writeAll (pageElement config plan))

end Page

end ReportGrid
