import ReportGrid.Embed
import ReportGrid.Proofs.NestedTexts
import ReportGrid.Proofs.PageDump
import ReportGrid.Proofs.PayloadInfluence
import ReportGrid.Proofs.SectionReread

/-!
# Charts by themselves and charts of a report

A page that embeds reports may ask for a chart by itself, with a text of its data, the tag of its
kind and its title.  It gets the chart that a report has for a record with the same data, tag and
title.

* `Payload.sections?_chart` — of both shapes of a payload, the section of such a record has the
  chart, whatever its data are and whatever its tag is;
* `ChartRequest.document?_payloadText` — the text of such a payload, with the text of the data in
  it as it is written, has that value;
* `Embed.chart_agrees` — the chart by itself is the compact text of the chart in the plan.
-/

namespace ReportGrid

/-- A chart that is asked for, apart from its data: the shortcode of its record, its title, and the
tag of its kind. -/
structure ChartRequest where
  code : String
  title : String
  kind : String

/-- Where the record of a chart stands in a payload: among all sections, where it names its kind, or
among the graphs of an older payload. -/
inductive ChartPlace where
  | sections
  | graphs

namespace ChartPlace

/-- The name of the array. -/
def array : ChartPlace → String
  | .sections => "sections"
  | .graphs => "graph_sections"

/-- The kind that the array gives its records. -/
def group : ChartPlace → Option SectionKind
  | .sections => none
  | .graphs => some .graph

end ChartPlace

namespace ChartRequest

variable (r : ChartRequest)

/-- The token of a template that stands for the record. -/
def token : String :=
  String.ofList (Text.trim r.code.toList)

/-- The fields of the record, as values or as texts. -/
def fields {α : Type} (place : ChartPlace) (string : String → α) (data : α) : List (String × α) :=
  let named := [("shortcode", string r.code), ("title", string r.title), ("data", data),
    ("type", string r.kind)]
  match place with
  | .sections => ("section_type", string "graph") :: named
  | .graphs => named

/-- Whether fields are those of a record for the chart. -/
structure IsRecord (place : ChartPlace) (data : Json) (fields : List (String × Json)) : Prop where
  section_type : place = .sections → Json.lookup "section_type" fields = some (.string "graph")
  shortcode : Json.lookup "shortcode" fields = some (.string r.code)
  title : Json.lookup "title" fields = some (.string r.title)
  data : Json.lookup "data" fields = some data
  type : Json.lookup "type" fields = some (.string r.kind)

variable {r} {place : ChartPlace} {data : Json}

theorem isRecord_fields : r.IsRecord place data (r.fields place .string data) := by
  cases place <;> constructor <;> simp [fields, Json.lookup]

/-- Only lookups count. -/
theorem IsRecord.congr {fields others : List (String × Json)} (h : r.IsRecord place data fields)
    (hlookup : ∀ name, Json.lookup name others = Json.lookup name fields) :
    r.IsRecord place data others where
  section_type := fun hplace => (hlookup _).trans (h.section_type hplace)
  shortcode := (hlookup _).trans h.shortcode
  title := (hlookup _).trans h.title
  data := (hlookup _).trans h.data
  type := (hlookup _).trans h.type

theorem isRecord_sorted :
    r.IsRecord place data (Json.sorted (r.fields place .string data)) := by
  have hnodup : ((r.fields place .string data).map Prod.fst).Nodup := by
    cases place <;> simp [fields]
  exact isRecord_fields.congr (Json.lookup_perm (Json.sorted_perm hnodup) hnodup)

/-- **The section of the record** has the data, the kind and the title. -/
theorem IsRecord.section? {fields : List (String × Json)} (h : r.IsRecord place data fields)
    (htoken : r.token ≠ "") : ∃ id,
      Record.section? place.group (.object fields) =
        some ⟨id, r.token, r.title, .graph (.ofJson data) (.ofTag r.kind)⟩ := by
  have hkind : place.group.getD (Record.kind fields) = .graph := by
    cases place with
    | sections => exact Record.kind_eq_of_lookup (h.section_type rfl)
    | graphs => rfl
  have hcode : Record.shortcode fields = r.token := by
    rw [Record.shortcode, Record.textAt, h.shortcode]
    rfl
  have hbody : Record.graphBody fields = .graph (.ofJson data) (.ofTag r.kind) := by
    simp [Record.graphBody, Record.chartKind, Record.chartKindFields, h.data, h.type, Json.string?]
  refine ⟨Record.id fields, ?_⟩
  rw [Record.section?, hcode, if_neg htoken, hkind, Record.textAt, h.title, Record.bodyOfKind,
    hbody]
  rfl

end ChartRequest

/-! ## The chart of a payload -/

namespace Payload

variable {r : ChartRequest} {place : ChartPlace} {data : Json}

/-- Whether an object is a payload in which the record of a chart is the first of its shortcode. -/
def HoldsChart (r : ChartRequest) (place : ChartPlace) (data : Json)
    (top : List (String × Json)) : Prop :=
  ∃ (before after : List Entry) (fields : List (String × Json)),
    recordList top = before ++ (place.group, .object fields) :: after ∧
      r.IsRecord place data fields ∧ ∀ entry ∈ before, entry.code? ≠ some r.token

/-- A payload may consist of the array with the record alone. -/
theorem holdsChart_array {values : List Json} (more : List Json) {fields : List (String × Json)}
    (hrecord : r.IsRecord place data fields)
    (hfirst : ∀ value ∈ values, Record.acceptedAs? value ≠ some r.token) :
    HoldsChart r place data [(place.array, .array (values ++ .object fields :: more))] := by
  refine ⟨values.map fun value => (place.group, value), more.map fun value => (place.group, value),
    fields, ?_, hrecord, ?_⟩
  · cases place <;>
      simp [recordList, groupRecords, Json.lookup, ChartPlace.array, ChartPlace.group]
  · intro entry hentry
    obtain ⟨value, hvalue, rfl⟩ := List.mem_map.mp hentry
    exact hfirst value hvalue

/-- **The chart of a section.**  The section of the record has the chart of its data, its tag and
its title. -/
theorem sections?_chart {top : List (String × Json)} (htoken : r.token ≠ "")
    (h : HoldsChart r place data top) :
    ∃ s m, sections? (.object top) = .ok s ∧ s.get? r.token = some m ∧ m.shortcode = r.token ∧
      ∀ theme, ChartSpec.ofSection? m theme =
        some (.buildForTag (.ofJson data) r.kind r.title theme) := by
  obtain ⟨before, after, fields, htop, hrecord, hbefore⟩ := h
  obtain ⟨id, hsection⟩ := hrecord.section? htoken
  have hcode : Entry.code? (place.group, .object fields) = some r.token := by
    rw [Entry.code?_eq, Entry.section?, hsection]
    rfl
  have hfirst : firstSection? (recordList top) r.token =
      some ⟨id, r.token, r.title, .graph (.ofJson data) (.ofTag r.kind)⟩ := by
    rw [htop, firstSection?_append, firstSection?_eq_none_iff.mpr hbefore, Option.none_or,
      firstSection?, List.find?_cons_of_pos (by simp [hcode]), Option.bind_some]
    exact hsection
  exact ⟨_, _, sections?_eq_takeAll top, (get?_takeAll _ _).trans hfirst, rfl, fun theme => rfl⟩

end Payload

/-! ## The text of a payload -/

namespace ChartRequest

open Strict (Gives GivesField arrayText objectText gives_quote)

variable (r : ChartRequest) (place : ChartPlace)

/-- The text of the record, with the text of its data as it is written. -/
def recordText (data : List Char) : List Char :=
  objectText (r.fields place (fun s => Json.quote s.toList) data)

/-- The text of a payload with the record among others. -/
def payloadText (data : List Char) (before after : List (List Char)) : List Char :=
  objectText [(place.array, arrayText (before ++ r.recordText place data :: after))]

/-- Whether texts are those of other records, of which none in front of the record has its
shortcode. -/
structure AreOthers (before after : List (List Char)) : Prop where
  before : ∃ values, List.Forall₂ (Gives · 125 ·) before values ∧
    ∀ value ∈ values, Record.acceptedAs? value ≠ some r.token
  after : ∃ values, List.Forall₂ (Gives · 125 ·) after values

variable {r place} {text : List Char} {data : Json} {before after : List (List Char)}

/-- The text of the record stands for its fields. -/
theorem gives_recordText (h : Gives text 124 data) :
    Gives (r.recordText place text) 125 (.object (Json.sorted (r.fields place .string data))) := by
  have hquote : ∀ s : String, Gives (Json.quote s.toList) 124 (.string s) :=
    fun s => (gives_quote s).mono (by decide)
  refine Gives.object ?_ (by decide)
  cases place with
  | sections =>
      exact .cons ⟨rfl, hquote _⟩ (.cons ⟨rfl, hquote _⟩ (.cons ⟨rfl, hquote _⟩
        (.cons ⟨rfl, h⟩ (.cons ⟨rfl, hquote _⟩ .nil))))
  | graphs =>
      exact .cons ⟨rfl, hquote _⟩ (.cons ⟨rfl, hquote _⟩ (.cons ⟨rfl, h⟩
        (.cons ⟨rfl, hquote _⟩ .nil)))

/-- The text of an object is its own document. -/
theorem body_objectText (fields : List (String × List Char)) :
    Payload.body (objectText fields) = objectText fields := by
  have htight : IsTight (objectText fields) :=
    IsTight.append (.singleton (c := '\x7b') (by decide))
      (.singleton (c := '\x7d') (by decide)) _
  exact Payload.body_of_not_fence htight.trim (by simp [Payload.fence, objectText])

/-- **The text of the payload** holds the record. -/
theorem document?_payloadText (h : Gives text 124 data) (hothers : r.AreOthers before after) :
    ∃ top, Payload.document? (r.payloadText place text before after) = some (.object top) ∧
      Payload.HoldsChart r place data top := by
  obtain ⟨⟨values, hbefore, hfirst⟩, more, hafter⟩ := hothers
  let records := values ++ .object (Json.sorted (r.fields place .string data)) :: more
  have hrecords : Gives (arrayText (before ++ r.recordText place text :: after)) 126
      (.array records) :=
    Gives.array (List.rel_append hbefore (.cons (gives_recordText h) hafter)) (by decide)
  have hfield : GivesField 126
      (place.array, arrayText (before ++ r.recordText place text :: after))
      (place.array, .array records) := ⟨rfl, hrecords⟩
  have htop := (Gives.object (.cons hfield .nil) (by decide)).1
  refine ⟨_, ?_, Payload.holdsChart_array more isRecord_sorted hfirst⟩
  simp only [Payload.document?, payloadText, body_objectText, htop]
  rfl

end ChartRequest

/-! ## The two charts -/

/-- What a chart by itself and a plan have in common.

Both are refused for the same options, and for them only.  Otherwise every cell of the plan for the
token of the record has a chart, which is the chart by itself without the blanks outside strings. -/
structure ChartRequest.Agrees (r : ChartRequest) (template : String) (options : Option String)
    (chart plan : Except Fault String) : Prop where
  refused : ∀ fault, EmbedOptions.parse options = .error fault →
    chart = .error fault ∧ plan = .error fault
  shown : ∀ given, EmbedOptions.parse options = .ok given →
    ∃ text dump, chart = .ok text ∧ plan = .ok dump ∧
      ∀ i row j, (Layout.parse template)[i]? = some row → row.tokens[j]? = some r.token →
        ∃ entry written, RenderPlan.entryText? dump.toList i j = some entry ∧
          Json.fieldText? "chart" entry = some written ∧ Json.squeeze written = text.toList

/-- A section with a chart is shown. -/
theorem RenderCell.resolve_of_chart {s : Sections} {token : String} {m : Section}
    {theme : ChartTheme} {spec : ChartSpec} (hget : s.get? token = some m)
    (h : ChartSpec.ofSection? m theme = some spec) : resolve s token = .resolved m := by
  have hkind : m.kind ≠ .unknown := by
    intro hunknown
    unfold ChartSpec.ofSection? at h
    split at h
    · rename_i hbody
      simp [Section.kind, hbody, SectionBody.kind] at hunknown
    · simp at h
  simp [resolve, hget, hkind]

namespace Embed

variable {r : ChartRequest} {place : ChartPlace} {data : String} {value : Json}

/-- **A payload that holds the chart.**  The plan has it in every cell for the token of its
record. -/
theorem agrees_of_holdsChart {payload : String} {top : List (String × Json)}
    (htoken : r.token ≠ "") (hdata : Json.parse .strict data.toList = .ok value)
    (hpayload : Payload.document? payload.toList = some (.object top))
    (h : Payload.HoldsChart r place value top) (template : String) (options : Option String) :
    r.Agrees template options (chart data r.kind r.title options)
      (plan template payload options) where
  refused := by
    intro fault hoptions
    simp [chart, plan, hoptions, bind, Except.bind]
  shown := by
    intro given hoptions
    obtain ⟨s, m, hsections, hget, -, hchart⟩ := Payload.sections?_chart htoken h
    have hspec := hchart given.chartTheme
    have hfound : Payload.ofText payload = s :=
      Payload.ofText_eq_of_document? hpayload hsections
    refine ⟨_, _, by simp only [chart, hoptions, hdata, bind, Except.bind]; rfl,
      by simp only [plan, hoptions, bind, Except.bind]; rfl, ?_⟩
    intro i row j hrow hcell
    have hplan : (RenderPlan.ofTexts template payload).rows[i]? =
        some ⟨row.columns, row.tokens.map (RenderCell.resolve s)⟩ := by
      simp [RenderPlan.ofTexts, RenderPlan.compile, hfound, hrow]
    have hresolved : (row.tokens.map (RenderCell.resolve s))[j]? = some (.resolved m) := by
      simp [hcell, RenderCell.resolve_of_chart hget hspec]
    refine ⟨_, _, RenderPlan.entryText?_dump given.chartTheme hplan hresolved,
      RenderCell.fieldText?_chart hspec, ?_⟩
    rw [Json.squeeze_write, Json.compact, String.toList_ofList]
    rfl

/-- **Charts by themselves are the charts of a report.**

The section of a record with the data, the tag and the title of a chart has that chart, in both
shapes of a payload, whatever the data and the tag are.  Where the text of the data stands in the
text of the payload, the chart by itself is the compact text of the chart in the plan. -/
theorem chart_agrees (r : ChartRequest) (place : ChartPlace) (htoken : r.token ≠ "") :
    (∀ value top, Payload.HoldsChart r place value top →
      ∃ s m, Payload.sections? (.object top) = .ok s ∧ s.get? r.token = some m ∧
        m.shortcode = r.token ∧ ∀ theme, ChartSpec.ofSection? m theme =
          some (.buildForTag (.ofJson value) r.kind r.title theme)) ∧
    ∀ (data : String) value before after, Strict.Gives data.toList 124 value →
      r.AreOthers before after → ∀ template options,
        r.Agrees template options (chart data r.kind r.title options)
          (plan template (String.ofList (r.payloadText place data.toList before after))
            options) := by
  refine ⟨fun value top h => Payload.sections?_chart htoken h, ?_⟩
  intro data value before after hdata hothers template options
  obtain ⟨top, hdocument, hholds⟩ := ChartRequest.document?_payloadText hdata hothers
  rw [← String.toList_ofList (l := r.payloadText place data.toList before after)] at hdocument
  exact agrees_of_holdsChart htoken hdata.1 hdocument hholds template options

/-- A pie chart whose tag has capitals and blanks. -/
def sampleRequest : ChartRequest :=
  ⟨" g ", "Sales", " PIE "⟩

/-- The text of its data, whose labels are no array. -/
def sampleData : List Char :=
  Strict.objectText [("labels", Json.quote "none".toList),
    ("values", Strict.arrayText [Json.quote "7".toList])]

/-- The chart of these data is the one in the plan of an older payload, where a text stands in front
of the record. -/
theorem chart_agrees_sample : sampleRequest.token ≠ "" ∧
    ∃ text dump, chart (String.ofList sampleData) " PIE " "Sales" none = .ok text ∧
      plan "[g]" (String.ofList (sampleRequest.payloadText .graphs sampleData
        [Json.quote "note".toList] [])) none = .ok dump ∧
      ∃ entry written, RenderPlan.entryText? dump.toList 0 0 = some entry ∧
        Json.fieldText? "chart" entry = some written ∧ Json.squeeze written = text.toList := by
  have htoken : sampleRequest.token ≠ "" := by decide
  have hvalues : Strict.Gives (Strict.arrayText [Json.quote "7".toList]) 1
      (.array [.string "7"]) :=
    Strict.Gives.array (.cons (Strict.gives_quote "7") .nil) (by decide)
  have hfields : List.Forall₂ (Strict.GivesField 1)
      [("labels", Json.quote "none".toList),
        ("values", Strict.arrayText [Json.quote "7".toList])]
      [("labels", .string "none"), ("values", .array [.string "7"])] :=
    .cons ⟨rfl, (Strict.gives_quote "none").mono (by decide)⟩ (.cons ⟨rfl, hvalues⟩ .nil)
  have hdata : Strict.Gives (String.ofList sampleData).toList 124 (.object (Json.sorted
      [("labels", .string "none"), ("values", .array [.string "7"])])) := by
    rw [String.toList_ofList]
    exact (Strict.Gives.object hfields (by decide)).mono (by decide)
  have hothers : sampleRequest.AreOthers [Json.quote "note".toList] [] :=
    ⟨⟨[.string "note"], .cons ((Strict.gives_quote "note").mono (by decide)) .nil,
      by simp [Record.acceptedAs?]⟩, [], .nil⟩
  obtain ⟨-, hagrees⟩ := chart_agrees sampleRequest .graphs htoken
  obtain ⟨text, dump, hchart, hplan, hcells⟩ :=
    (hagrees _ _ _ _ hdata hothers "[g]" none).shown EmbedOptions.empty rfl
  rw [String.toList_ofList] at hplan
  have hrow : ∃ row, (Layout.parse "[g]")[0]? = some row ∧
      row.tokens[0]? = some sampleRequest.token := ⟨_, rfl, rfl⟩
  obtain ⟨row, hrow, hcell⟩ := hrow
  exact ⟨htoken, text, dump, hchart, hplan, hcells 0 row 0 hrow hcell⟩

end Embed

end ReportGrid
