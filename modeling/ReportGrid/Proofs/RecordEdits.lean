import ReportGrid.Proofs.FirstAccepted
import ReportGrid.Proofs.SectionReread

/-!
# Editing a field of a record

A `RecordEdit` puts any value into one field of a record, or into one field of its data, or takes
the field away.  The two fields that decide whether a record is accepted and as what are not among
those that an edit can be in.

A section is made from its record component by component, and `Component` says which fields feed
which component.  An edit leaves every lookup of another field (`lookup_apply`) and, when it is
inside the data, every lookup of another field there (`itemsAt_data_apply`).  Hence the section of
an edited record agrees with the section before in all components that the edit does not feed
(`agreesBut_section?`), and it is accepted under the same shortcode (`acceptedAs?_record`).
-/

namespace ReportGrid

namespace Json

/-- The fields of an object where one of them has a new value or is left out. -/
def withField (name : String) (value? : Option Json) (fields : List (String × Json)) :
    List (String × Json) :=
  match value? with
  | some value => setField name value fields
  | none => fields.filter fun field => field.1 ≠ name

theorem lookup_withField (name other : String) (value? : Option Json)
    (fields : List (String × Json)) :
    lookup other (withField name value? fields) =
      if other = name then value? else lookup other fields := by
  cases value? with
  | some value => exact lookup_setField name other value fields
  | none =>
      rw [withField, lookup, List.find?_filter]
      by_cases hname : other = name
      · subst hname
        simp
      · rw [if_neg hname, lookup]
        congr 1
        apply List.find?_congr
        intro field _
        by_cases hfield : field.1 = other <;> simp [hfield, hname]

end Json

/-- An edit of one field: of a record, or of the object that the record has as its data.  What
decides whether and as what a record is accepted is left alone. -/
inductive RecordEdit where
  | field (name : String) (value? : Option Json) (free : name ∉ ["shortcode", "section_type"])
  | inData (name : String) (value? : Option Json)

namespace RecordEdit

/-- The field of the record that an edit is in. -/
def target : RecordEdit → String
  | field name _ _ => name
  | inData _ _ => "data"

/-- The fields after an edit.  An edit inside data that is no object changes nothing. -/
def apply : RecordEdit → List (String × Json) → List (String × Json)
  | field name value? _, fields => Json.withField name value? fields
  | inData name value?, fields =>
    match Json.lookup "data" fields with
    | some (.object data) =>
      Json.setField "data" (.object (Json.withField name value? data)) fields
    | _ => fields

/-- A record after an edit. -/
def record (edit : RecordEdit) : Json → Json
  | .object fields => .object (edit.apply fields)
  | value => value

end RecordEdit

/-- The components of sections that are fed by records' fields. -/
inductive Component where
  | id
  | title
  | content
  | labels
  | values
  | chartKind
  | headers
  | rows

namespace Component

/-- The fields of a record that feed a component. -/
def fields : Component → List String
  | id => ["id"]
  | title => ["title"]
  | content => ["content"]
  | labels => ["data"]
  | values => ["data"]
  | chartKind => Record.chartKindFields
  | headers => ["headers"]
  | rows => ["rows"]

/-- The field of the data that feeds a component. -/
def dataField? : Component → Option String
  | labels => some "labels"
  | values => some "values"
  | _ => none

end Component

/-- Whether an edit is in a field that feeds a component. -/
def RecordEdit.Feeds : RecordEdit → Component → Prop
  | field name _ _, component => name ∈ component.fields
  | inData name _, component => component.dataField? = some name

/-- Components that are fed by one edit are fed by the same fields. -/
theorem RecordEdit.fields_eq_of_feeds (edit : RecordEdit) {first second : Component}
    (hfirst : edit.Feeds first) (hsecond : edit.Feeds second) : first.fields = second.fields := by
  cases edit with
  | field name value? free =>
      have hdisjoint : first.fields = second.fields ∨
          ∀ name ∈ first.fields, name ∉ second.fields := by
        cases first <;> cases second <;> decide
      exact hdisjoint.resolve_right fun h => h name hfirst hsecond
  | inData name value? =>
      have hdata : ∀ component : Component, component.dataField? = some name →
          component.fields = ["data"] := by
        intro component hcomponent
        cases component with
        | labels => rfl
        | values => rfl
        | _ => simp [Component.dataField?] at hcomponent
      rw [hdata first hfirst, hdata second hsecond]

/-- Whether bodies are of one kind and agree in what an edit does not feed. -/
inductive SectionBody.AgreesBut (edit : RecordEdit) : SectionBody → SectionBody → Prop where
  | text {content content' : String} (hcontent : ¬ edit.Feeds .content → content' = content) :
      AgreesBut edit (.text content) (.text content')
  | graph {data data' : GraphData} {kind kind' : ChartKind}
      (hlabels : ¬ edit.Feeds .labels → data'.labels = data.labels)
      (hvalues : ¬ edit.Feeds .values → data'.values = data.values)
      (hkind : ¬ edit.Feeds .chartKind → kind' = kind) :
      AgreesBut edit (.graph data kind) (.graph data' kind')
  | table {headers headers' : List String} {rows rows' : List (List CellValue)}
      (hheaders : ¬ edit.Feeds .headers → headers' = headers)
      (hrows : ¬ edit.Feeds .rows → rows' = rows) :
      AgreesBut edit (.table headers rows) (.table headers' rows')
  | unknown (tag : String) : AgreesBut edit (.unknown tag) (.unknown tag)

/-- Whether sections agree in what an edit does not feed. -/
structure Section.AgreesBut (edit : RecordEdit) (m n : Section) : Prop where
  shortcode : n.shortcode = m.shortcode
  id : ¬ edit.Feeds .id → n.id = m.id
  title : ¬ edit.Feeds .title → n.title = m.title
  body : m.body.AgreesBut edit n.body

/-! ## Reading an edited record -/

namespace RecordEdit

variable (edit : RecordEdit) (fields : List (String × Json))

/-- All fields but the one that an edit is in stay as they are. -/
theorem lookup_apply {other : String} (h : other ≠ edit.target) :
    Json.lookup other (edit.apply fields) = Json.lookup other fields := by
  cases edit with
  | field name value? free =>
      rw [apply, Json.lookup_withField]
      exact if_neg h
  | inData name value? =>
      rw [apply]
      split
      · rw [Json.lookup_setField]
        exact if_neg h
      · rfl

theorem textAt_apply {other : String} (h : other ≠ edit.target) :
    Record.textAt other (edit.apply fields) = Record.textAt other fields :=
  Record.textAt_congr (lookup_apply edit fields h)

theorem itemsAt_apply {other : String} (h : other ≠ edit.target) :
    (Json.object (edit.apply fields)).itemsAt other = (Json.object fields).itemsAt other :=
  Json.itemsAt_congr (lookup_apply edit fields h)

/-! ## What decides about a record -/

theorem ne_target {name : String} (h : name ∈ ["shortcode", "section_type"]) :
    name ≠ edit.target := by
  cases edit with
  | field other value? free => exact ne_of_mem_of_not_mem h free
  | inData other value? =>
      have hdata : "data" ∉ ["shortcode", "section_type"] := by decide
      exact ne_of_mem_of_not_mem h hdata

theorem shortcode_apply : Record.shortcode (edit.apply fields) = Record.shortcode fields :=
  Record.shortcode_congr (lookup_apply edit fields (edit.ne_target (by decide)))

theorem kind_apply : Record.kind (edit.apply fields) = Record.kind fields := by
  rw [Record.kind, lookup_apply edit fields (edit.ne_target (by decide)), Record.kind]

/-! ## What a record is read as -/

variable {edit} {component : Component}

/-- An edit that does not feed a component is in none of its fields, unless these are the data. -/
theorem ne_target_of_not_feeds (h : ¬ edit.Feeds component) (hdata : "data" ∉ component.fields)
    {name : String} (hname : name ∈ component.fields) : name ≠ edit.target := by
  rintro rfl
  cases edit with
  | field name value? free => exact h hname
  | inData name value? => exact hdata hname

/-- An edit that does not feed a component leaves what the component takes from the data. -/
theorem itemsAt_data_apply (h : ¬ edit.Feeds component) (hdata : "data" ∈ component.fields)
    {name : String} (hname : component.dataField? = some name) :
    ((Json.lookup "data" (edit.apply fields)).getD .null).itemsAt name =
      ((Json.lookup "data" fields).getD .null).itemsAt name := by
  cases edit with
  | field other value? free =>
      have hother : "data" ≠ other := by
        rintro rfl
        exact h hdata
      rw [lookup_apply _ fields hother]
  | inData other value? =>
      have hother : name ≠ other := by
        rintro rfl
        exact h hname
      rw [apply]
      split
      · rename_i data hlookup
        have hitem := Json.lookup_withField other name value? data
        rw [if_neg hother] at hitem
        rw [Json.lookup_setField, if_pos rfl, hlookup]
        exact Json.itemsAt_congr hitem
      · rfl

variable (edit)

/-- Bodies that are read before and after an edit agree in what it does not feed. -/
theorem agreesBut_bodyOfKind (kind : SectionKind) :
    (Record.bodyOfKind kind fields).AgreesBut edit
      (Record.bodyOfKind kind (edit.apply fields)) := by
  cases kind with
  | text =>
      refine .text fun h => ?_
      exact textAt_apply edit fields (ne_target_of_not_feeds h (by decide) (by decide))
  | graph =>
      refine .graph (fun h => ?_) (fun h => ?_) (fun h => ?_)
      · exact congrArg (List.map _) (itemsAt_data_apply fields h (by decide) rfl)
      · exact congrArg (List.map _) (itemsAt_data_apply fields h (by decide) rfl)
      · apply Record.chartKind_congr
        intro name hname
        exact lookup_apply edit fields (ne_target_of_not_feeds h (by decide) hname)
  | table =>
      refine .table (fun h => ?_) (fun h => ?_)
      · exact congrArg (List.map _)
          (itemsAt_apply edit fields (ne_target_of_not_feeds h (by decide) (by decide)))
      · exact congrArg (List.map _)
          (itemsAt_apply edit fields (ne_target_of_not_feeds h (by decide) (by decide)))
  | unknown =>
      have htag : Record.textAt "section_type" (edit.apply fields) =
          Record.textAt "section_type" fields :=
        textAt_apply edit fields (edit.ne_target (by decide))
      rw [Record.bodyOfKind, Record.bodyOfKind, htag]
      exact .unknown _

/-- **One record.**  What is read from a record after an edit agrees with what was read before, but
for what the edit feeds. -/
theorem agreesBut_section? {group : Option SectionKind} {value : Json} {m : Section}
    (h : Record.section? group value = some m) :
    ∃ n, Record.section? group (edit.record value) = some n ∧ m.AgreesBut edit n := by
  cases value with
  | object fields =>
      rw [Record.section?] at h
      split at h
      · simp at h
      · rename_i hcode
        obtain rfl := Option.some.inj h
        rw [record, Record.section?, shortcode_apply, kind_apply, if_neg hcode]
        refine ⟨_, rfl, rfl, fun h => ?_, fun h => ?_, agreesBut_bodyOfKind edit fields _⟩
        · have hid := lookup_apply edit fields (ne_target_of_not_feeds h (by decide)
            (List.mem_singleton_self "id"))
          simp only [Record.id, hid, shortcode_apply]
        · exact textAt_apply edit fields (ne_target_of_not_feeds h (by decide) (by decide))
  | _ => simp [Record.section?] at h

-- Labels that are no array are lost, and the values beside them are not.
example : Record.bodyOfKind .graph ((inData "labels" (some (.string "oops"))).apply
    [("data", .object [("labels", .array [.string "a"]), ("values", .array [.bool true])])]) =
      .graph ⟨[], [.point (.bool true)]⟩ .bar := rfl

/-- An edit leaves the shortcode that a record is accepted under, if it is accepted. -/
theorem acceptedAs?_record (value : Json) :
    Record.acceptedAs? (edit.record value) = Record.acceptedAs? value := by
  rw [Record.acceptedAs?_eq none, Record.acceptedAs?_eq none]
  cases value with
  | object fields =>
      by_cases hcode : Record.shortcode fields = "" <;>
        simp [record, Record.section?, shortcode_apply, hcode]
  | _ => rfl

end RecordEdit

end ReportGrid
