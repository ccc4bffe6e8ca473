import ReportGrid.Section.Collection
import ReportGrid.Json.Reader
import ReportGrid.Text

/-!
# Payloads

A payload is the content of a report as a JSON document.  It is an object with an array `sections`,
whose records name their kind in `section_type`; older payloads have the arrays `text_sections`,
`graph_sections` and `table_sections` instead, and the kind of a record is that of its array.

`Payload.sections?` reads a value.  It fails only on a value that is no object: records that are no
objects or have no shortcode are passed over, of several records with a shortcode the first counts,
and a field of the wrong kind affects nothing but what it is meant for.

`Payload.ofText` reads a text, strict or relaxed, which may stand between the fences of a Markdown
code block.  A text that is no payload gives no sections.
-/

namespace ReportGrid

/-- Why a value is no payload: it is a value of the named kind. -/
inductive PayloadError where
  | notObject (found : String)
deriving DecidableEq, Repr

/-- The message for a reader. -/
def PayloadError.message : PayloadError → String
  | .notObject found => "Content payload must be a JSON object, found " ++ found

/-- The name of the kind of a value. -/
def Json.kindName : Json → String
  | .null => "null"
  | .bool _ => "a boolean"
  | .number _ => "a number"
  | .string _ => "a string"
  | .array _ => "an array"
  | .object _ => "an object"

/-- The items of a field that holds an array; no items otherwise. -/
def Json.itemsAt (name : String) (value : Json) : List Json :=
  ((value.field? name).bind Json.items?).getD []

/-- The labels and values of a graph from its data.  Either may be missing or no array without
harm to the other. -/
def GraphData.ofJson (data : Json) : GraphData where
  labels := (data.itemsAt "labels").map Json.plainText
  values := (data.itemsAt "values").map DataValue.ofJson

namespace Record

/-- A field as text; a missing field is empty. -/
def textAt (name : String) (fields : List (String × Json)) : String :=
  ((Json.lookup name fields).map Json.plainText).getD ""

/-- The body of a text record. -/
def textBody (fields : List (String × Json)) : SectionBody :=
  .text (textAt "content" fields)

/-- The fields that may name the kind of a chart; the first that holds a string counts. -/
def chartKindFields : List String :=
  ["type", "graphType", "graph_type"]

/-- The kind of the chart of a graph record. -/
def chartKind (fields : List (String × Json)) : ChartKind :=
  ((chartKindFields.findSome? fun name => (Json.lookup name fields).bind Json.string?).map
    ChartKind.ofTag).getD .bar

/-- The body of a graph record. -/
def graphBody (fields : List (String × Json)) : SectionBody :=
  .graph (.ofJson ((Json.lookup "data" fields).getD .null)) (chartKind fields)

/-- The cells of a row of a table; a row that is no array is one cell. -/
def rowCells : Json → List CellValue
  | .array cells => cells.map CellValue.ofJson
  | value => [.ofJson value]

/-- The body of a table record. -/
def tableBody (fields : List (String × Json)) : SectionBody :=
  let record := Json.object fields
  .table ((record.itemsAt "headers").map Json.plainText) ((record.itemsAt "rows").map rowCells)

/-- The body that the kind of a record gives it. -/
def bodyOfKind (kind : SectionKind) (fields : List (String × Json)) : SectionBody :=
  match kind with
  | .text => textBody fields
  | .graph => graphBody fields
  | .table => tableBody fields
  | .unknown => .unknown (textAt "section_type" fields)

/-- The kind of a record by its own field.  A record without the field is text. -/
def kind (fields : List (String × Json)) : SectionKind :=
  match Json.lookup "section_type" fields with
  | none | some .null => .text
  | some tag =>
    let tag := String.ofList (Text.lower (Text.trim tag.plainText.toList))
    if tag = "text" then .text
    else if tag = "graph" then .graph
    else if tag = "table" then .table
    else .unknown

/-- The shortcode of a record; empty when it has none. -/
def shortcode (fields : List (String × Json)) : String :=
  String.ofList (Text.trim (textAt "shortcode" fields).toList)

/-- The id of a record; its shortcode when it has none. -/
def id (fields : List (String × Json)) : String :=
  match Json.lookup "id" fields with
  | none | some .null => shortcode fields
  | some value => value.plainText

/-- The section of a record whose kind may be given by the array it is in.  There is none when the
record is no object or has no shortcode. -/
def section? (group : Option SectionKind) : Json → Option Section
  | .object fields =>
    if shortcode fields = "" then none
    else some ⟨id fields, shortcode fields, textAt "title" fields,
      bodyOfKind (group.getD (kind fields)) fields⟩
  | _ => none

end Record

namespace Payload

/-- The arrays of older payloads with the kind of their records, in the order in which they are
read. -/
def groups : List (String × SectionKind) :=
  [("text_sections", .text), ("graph_sections", .graph), ("table_sections", .table)]

/-- The records of a payload in order, each with the kind that its array gives it. -/
def records (payload : Json) : List (Option SectionKind × Json) :=
  match (payload.field? "sections").bind Json.items? with
  | some records => records.map fun record => (none, record)
  | none =>
    groups.flatMap fun group =>
      (payload.itemsAt group.1).map fun record => (some group.2, record)

/-- The sections of a payload; only a value that is no object is refused. -/
def sections? (payload : Json) : Except PayloadError Sections :=
  match payload with
  | .object _ =>
    .ok (.ofList ((records payload).filterMap fun record => Record.section? record.1 record.2))
  | value => .error (.notObject value.kindName)

/-- The marks that open and close a code block. -/
def fence : List Char :=
  "\x60\x60\x60".toList

/-- Whether a character may stand in the tag after an opening fence. -/
def isTagChar (c : Char) : Bool :=
  c.isAlphanum || c = '_' || c = '-'

/-- What follows the line end that a text starts with. -/
def afterLineEnd? : List Char → Option (List Char)
  | '\n' :: rest => some rest
  | '\r' :: '\n' :: rest => some rest
  | _ => none

/-- A text without one line end at its end: a line feed, a carriage return, or both. -/
def dropLineEnd (s : List Char) : List Char :=
  match Text.beforeEnding? ['\n'] s with
  | some rest => (Text.beforeEnding? ['\r'] rest).getD rest
  | none => (Text.beforeEnding? ['\r'] s).getD s

/-- What stands between the fences of a code block that is the whole text.  The opening fence may
have a tag and blanks after it on its line. -/
def unfenced? (s : List Char) : Option (List Char) := do
  let line ← Text.afterOpening? fence s
  let blanks := line.dropWhile isTagChar
  let rest ← afterLineEnd? (blanks.dropWhile fun c => c = ' ' || c = '\t')
  let inside ← Text.beforeEnding? fence rest
  return dropLineEnd inside

/-- The document of a payload text, without blanks around it and without fences. -/
def body (text : List Char) : List Char :=
  let trimmed := Text.trim text
  (unfenced? trimmed).getD trimmed

/-- The value of a payload text: strict, or else relaxed. -/
def document? (text : List Char) : Option Json :=
  match Json.parse .strict (body text) with
  | .ok value => some value
  | .error _ => (Json.parse .relaxed (body text)).toOption

/-- The sections of a payload text; none when it is no payload. -/
def ofText (text : String) : Sections :=
  match (document? text.toList).map sections? with
  | some (.ok sections) => sections
  | _ => .empty

end Payload

end ReportGrid
