import ReportGrid.Chart.Kind
import ReportGrid.Json.Printer

/-!
# Sections

A section is a part of the content of a report: text, a graph, a table, or something of an unknown
kind.  Sections are made from the records of a payload and written into the plan.

Values of graphs and cells of tables keep the form they have in the payload.  `Json.plainText` is
the one rule that turns any value into text: a string as it is, null as nothing, and every other
value as its compact JSON text.
-/

namespace ReportGrid

/-- A value as text: strings as they are, null as nothing, everything else as compact JSON. -/
def Json.plainText : Json → String
  | .string text => text
  | .null => ""
  | value => value.compact

/-- A value of a graph: a number, or a point that is kept as it is. -/
inductive DataValue where
  | number (value : Number)
  | point (value : Json)
deriving Repr

/-- A value of a graph from a value of a payload. -/
def DataValue.ofJson : Json → DataValue
  | .number n => .number n
  | value => .point value

/-- A value of a graph as JSON. -/
def DataValue.json : DataValue → Json
  | .number n => .number n
  | .point value => value

/-- The labels and values of a graph. -/
structure GraphData where
  labels : List String
  values : List DataValue
deriving Repr

/-- The labels and values as JSON. -/
def GraphData.json (data : GraphData) : Json :=
  .object [("labels", .strings data.labels), ("values", .array (data.values.map DataValue.json))]

/-- A cell of a table. -/
inductive CellValue where
  | text (value : String)
  | number (value : Number)
  | bool (value : Bool)
  | empty
deriving DecidableEq, Repr

namespace CellValue

/-- A cell from a value of a payload; arrays and objects become text. -/
def ofJson : Json → CellValue
  | .null => .empty
  | .bool value => .bool value
  | .number n => .number n
  | .string value => .text value
  | value => .text value.compact

/-- A cell as JSON. -/
def json : CellValue → Json
  | .text value => .string value
  | .number n => .number n
  | .bool value => .bool value
  | .empty => .null

/-- What a cell shows. -/
def display : CellValue → String
  | .text value => value
  | .number n => String.ofList n.text
  | .bool true => "true"
  | .bool false => "false"
  | .empty => ""

end CellValue

/-- The kinds of sections. -/
inductive SectionKind where
  | text
  | graph
  | table
  | unknown
deriving DecidableEq, Repr

/-- The name of a kind of section. -/
def SectionKind.name : SectionKind → String
  | .text => "text"
  | .graph => "graph"
  | .table => "table"
  | .unknown => "unknown"

/-- What a section holds. -/
inductive SectionBody where
  | text (content : String)
  | graph (data : GraphData) (kind : ChartKind)
  | table (headers : List String) (rows : List (List CellValue))
  | unknown (tag : String)
deriving Repr

/-- The kind of a body. -/
def SectionBody.kind : SectionBody → SectionKind
  | .text _ => .text
  | .graph _ _ => .graph
  | .table _ _ => .table
  | .unknown _ => .unknown

/-- The fields of a body as JSON. -/
def SectionBody.fields : SectionBody → List (String × Json)
  | .text content => [("content", .string content)]
  | .graph data kind => [("data", data.json), ("type", .string kind.tag)]
  | .table headers rows =>
    [("headers", .strings headers),
      ("rows", .array (rows.map fun cells => .array (cells.map CellValue.json)))]
  | .unknown tag => [("tag", .string tag)]

/-- A part of the content of a report. -/
structure Section where
  id : String
  shortcode : String
  title : String
  body : SectionBody
deriving Repr

namespace Section

/-- The kind of a section. -/
def kind (s : Section) : SectionKind :=
  s.body.kind

/-- The fields of a section, those of its body last. -/
def fields (s : Section) : List (String × Json) :=
  [("id", .string s.id), ("shortcode", .string s.shortcode), ("title", .string s.title),
    ("section_type", .string s.kind.name)] ++ s.body.fields

/-- A section as JSON. -/
def json (s : Section) : Json :=
  .object s.fields

end Section

end ReportGrid
