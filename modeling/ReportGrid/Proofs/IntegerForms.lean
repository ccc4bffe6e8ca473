import ReportGrid.Proofs.ChartSeries
import ReportGrid.Proofs.DumpPlaces
import ReportGrid.Proofs.PayloadFences
import ReportGrid.Proofs.PayloadInfluence
import ReportGrid.Proofs.ReadValues
import ReportGrid.Proofs.RecordFields
import ReportGrid.Proofs.ShownTables
import ReportGrid.Proofs.WrittenPayloads
import Mathlib.Algebra.Ring.Int.Defs

/-!
# Integers keep their form

An integer of 64 bits that is written in a payload is found again with the same digits wherever the
payload puts it: in the section, in the dump of the plan, in the chart on the page and in the table
on the page.

A `RecordSpot` is a place in a record where a number may stand, and says where the number goes.

* `Payload.get?_of_isKept` — the record that is kept under a shortcode is the one whose section is
  found under it;
* `RecordSpot.section_at?` — the section of a record has the integer at the spot;
* `RecordSpot.chart_at?` — so has its chart;
* `RecordSpot.isShown_table` — and its table on the page;
* `Payload.integers_keep_form` — all of this for the texts of payloads and templates.
-/

namespace ReportGrid

/-! ## Kept records -/

namespace Payload

/-- The places of the records of an array of a payload. -/
def arrayPlaces (fields : List (String × Json)) (name : String) : List (List Step) :=
  match Json.lookup name fields with
  | some (.array records) => (List.range records.length).map fun i => [.field name, .item i]
  | _ => []

/-- The places of the records of a payload, in the order in which they are read. -/
def recordPlaces (fields : List (String × Json)) : List (List Step) :=
  match Json.lookup "sections" fields with
  | some (.array _) => arrayPlaces fields "sections"
  | _ => arrayPlaces fields "text_sections" ++ arrayPlaces fields "graph_sections" ++
      arrayPlaces fields "table_sections"

/-- Whether the record at a place of a payload is the first that is accepted under a shortcode. -/
def IsKept (fields : List (String × Json)) (place : List Step) (entry : Entry) (code : String) :
    Prop :=
  ∃ i : Nat, (recordPlaces fields)[i]? = some place ∧ (recordList fields)[i]? = some entry ∧
    entry.code? = some code ∧ ∀ earlier ∈ (recordList fields).take i, earlier.code? ≠ some code

/-- The records of an array stand at the places of the array. -/
theorem at?_places {fields : List (String × Json)} {name : String} {records : List Json}
    (hname : Json.lookup name fields = some (.array records)) (kind : Option SectionKind) :
    List.Forall₂ (fun place (entry : Entry) => (Json.object fields).at? place = some entry.2)
      ((List.range records.length).map fun i => [.field name, .item i])
      (records.map fun record => (kind, record)) := by
  rw [List.forall₂_map_left_iff, List.forall₂_map_right_iff, List.forall₂_iff_get]
  refine ⟨List.length_range, ?_⟩
  intro i hrange hi
  simp [Json.at?, Json.step?, hname, hi]

theorem at?_arrayPlaces (fields : List (String × Json)) (name : String) (kind : SectionKind) :
    List.Forall₂ (fun place (entry : Entry) => (Json.object fields).at? place = some entry.2)
      (arrayPlaces fields name) (groupRecords fields name kind) := by
  unfold arrayPlaces groupRecords
  cases hname : Json.lookup name fields with
  | none => exact .nil
  | some value =>
      cases value with
      | array records => exact at?_places hname (some kind)
      | _ => exact .nil

/-- **Every record stands at its place.** -/
theorem at?_recordPlaces (fields : List (String × Json)) :
    List.Forall₂ (fun place (entry : Entry) => (Json.object fields).at? place = some entry.2)
      (recordPlaces fields) (recordList fields) := by
  have hgroups := List.rel_append (List.rel_append
    (at?_arrayPlaces fields "text_sections" .text)
    (at?_arrayPlaces fields "graph_sections" .graph))
    (at?_arrayPlaces fields "table_sections" .table)
  unfold recordPlaces recordList
  cases hname : Json.lookup "sections" fields with
  | none => exact hgroups
  | some value =>
      cases value with
      | array records =>
          simp only [arrayPlaces, hname]
          exact at?_places hname none
      | _ => exact hgroups

theorem IsKept.code?_eq {fields : List (String × Json)} {place : List Step} {entry : Entry}
    {code : String} (h : IsKept fields place entry code) : entry.code? = some code := by
  obtain ⟨_, -, -, hcode, -⟩ := h
  exact hcode

/-- The record that is kept stands at its place. -/
theorem IsKept.at?_eq {fields : List (String × Json)} {place : List Step} {entry : Entry}
    {code : String} (h : IsKept fields place entry code) :
    (Json.object fields).at? place = some entry.2 := by
  obtain ⟨i, hplace, hentry, -, -⟩ := h
  obtain ⟨hi, rfl⟩ := List.getElem?_eq_some_iff.mp hplace
  obtain ⟨hj, rfl⟩ := List.getElem?_eq_some_iff.mp hentry
  exact (at?_recordPlaces fields).get hi hj

/-- **The record that is kept** under a shortcode is the one whose section is found under it. -/
theorem get?_of_isKept {fields : List (String × Json)} {place : List Step} {entry : Entry}
    {code : String} (h : IsKept fields place entry code) :
    (takeAll (recordList fields)).get? code = entry.section? := by
  obtain ⟨i, -, hentry, hcode, hearlier⟩ := h
  obtain ⟨hi, hget⟩ := List.getElem?_eq_some_iff.mp hentry
  have hsplit : recordList fields = (recordList fields).take i ++
      (entry :: (recordList fields).drop (i + 1)) := by
    rw [← hget, List.getElem_cons_drop, List.take_append_drop]
  have hnone : firstSection? ((recordList fields).take i) code = none :=
    firstSection?_eq_none_iff.mpr hearlier
  rw [get?_takeAll, hsplit, firstSection?_append, hnone, Option.none_or, firstSection?,
    List.find?_cons_of_pos (by simp [hcode]), Option.bind_some]

end Payload

/-! ## Spots of a record -/

/-- A place in a record where a number may stand.  A row of a table that is no array is one cell. -/
inductive RecordSpot where
  | id
  | title
  | shortcode
  | label (k : Nat)
  | value (k : Nat)
  | header (k : Nat)
  | cell (r c : Nat)
  | loneCell (r : Nat)

namespace RecordSpot

/-- The place of a spot in its record. -/
def place : RecordSpot → List Step
  | id => [.field "id"]
  | title => [.field "title"]
  | shortcode => [.field "shortcode"]
  | label k => [.field "data", .field "labels", .item k]
  | value k => [.field "data", .field "values", .item k]
  | header k => [.field "headers", .item k]
  | cell r c => [.field "rows", .item r, .item c]
  | loneCell r => [.field "rows", .item r]

/-- The place where the section of the record has what stands at a spot. -/
def sectionPlace : RecordSpot → List Step
  | loneCell r => [.field "rows", .item r, .item 0]
  | spot => spot.place

/-- The kind that a record must have for a spot to count. -/
def kind? : RecordSpot → Option SectionKind
  | label _ | value _ => some .graph
  | header _ | cell _ _ | loneCell _ => some .table
  | id | title | shortcode => none

/-- How an integer at a spot is written in the plan: values of graphs and cells of tables are
numbers, and everything else is a text. -/
def written (n : Int) : RecordSpot → Tree
  | value _ | cell _ _ | loneCell _ => .number (.ofInt n)
  | id | title | shortcode | label _ | header _ => .text (some (toString n))

/-- The place where the chart of a graph has what stands at a spot.  A treemap has only the values
that have a label, and the kinds with values of their own have no labels. -/
def chartPlace? (data : GraphData) (kind : ChartKind) : RecordSpot → Option (List Step)
  | value k =>
    match kind.shape with
    | .flat => some [.field "series", .item k]
    | .categorical | .raw => some [.field "series", .item 0, .field "data", .item k]
    | .treemap =>
      if k < data.labels.length then
        some [.field "series", .item 0, .field "data", .item k, .field "y"]
      else none
  | label k =>
    match kind.shape with
    | .categorical => some [.field "options", .field "xaxis", .field "categories", .item k]
    | .flat => some [.field "options", .field "labels", .item k]
    | .treemap => some [.field "series", .item 0, .field "data", .item k, .field "x"]
    | .raw => none
  | _ => none

/-- Whether a table on a page has an integer at the place of a spot. -/
def IsShownIn (n : Int) (table : Markup) : RecordSpot → Prop
  | header k => ∃ cells, Page.rowsIn "thead" table = [(some "tr", cells)] ∧
      cells[k]? = some (some "th", toString n)
  | cell r c => ∃ cells, (Page.rowsIn "tbody" table)[r]? = some (some "tr", cells) ∧
      cells[c]? = some (some "td", toString n)
  | loneCell r => (Page.rowsIn "tbody" table)[r]? = some (some "tr", [(some "td", toString n)])
  | _ => True

end RecordSpot

/-! ## What a section has at a spot -/

/-- Whether a section has an integer where a spot puts it. -/
def Section.HasInt (n : Int) (m : Section) : RecordSpot → Prop
  | .id => m.id = toString n
  | .title => m.title = toString n
  | .shortcode => m.shortcode = toString n
  | .label k => ∃ data kind, m.body = .graph data kind ∧ data.labels[k]? = some (toString n)
  | .value k => ∃ data kind, m.body = .graph data kind ∧ data.values[k]? = some (.number (.int n))
  | .header k => ∃ headers rows, m.body = .table headers rows ∧ headers[k]? = some (toString n)
  | .cell r c => ∃ headers rows cells, m.body = .table headers rows ∧ rows[r]? = some cells ∧
      cells[c]? = some (.number (.int n))
  | .loneCell r => ∃ headers rows, m.body = .table headers rows ∧
      rows[r]? = some [.number (.int n)]

/-- An integer as text is its literal. -/
theorem Json.plainText_int (n : Int) : (Json.int n).plainText = toString n :=
  Numeral.ofList_text_ofInt n

/-- An item of an array in a field. -/
theorem Json.itemsAt_of_at? {value item : Json} {name : String} {i : Nat} {steps : List Step}
    (h : value.at? (.field name :: .item i :: steps) = some item) :
    ∃ inner, (value.itemsAt name)[i]? = some inner ∧ inner.at? steps = some item := by
  obtain ⟨array, harray, hrest⟩ := Option.bind_eq_some_iff.mp h
  obtain ⟨inner, hinner, hitem⟩ := Option.bind_eq_some_iff.mp hrest
  refine ⟨inner, ?_, hitem⟩
  cases value with
  | object fields =>
      cases array with
      | array items =>
          have hlookup : Json.lookup name fields = some (.array items) := harray
          simpa [itemsAt, field?, hlookup, items?, step?] using hinner
      | _ => exact absurd hinner (by simp [step?])
  | _ => exact absurd harray (by simp [step?])

/-- A field of a record that holds an integer is read as its literal. -/
theorem Record.textAt_int {fields : List (String × Json)} {name : String} {n : Int}
    (h : (Json.object fields).at? [.field name] = some (.int n)) :
    textAt name fields = toString n := by
  have hlookup : Json.lookup name fields = some (.int n) := by
    simpa [Json.at?, Json.step?] using h
  rw [textAt, hlookup]
  exact Json.plainText_int n

/-- An array in the data of a record. -/
theorem Record.itemsAt_data {fields : List (String × Json)} {name : String} {k : Nat}
    {value : Json}
    (h : (Json.object fields).at? [.field "data", .field name, .item k] = some value) :
    (((Json.lookup "data" fields).getD .null).itemsAt name)[k]? = some value := by
  obtain ⟨data, hdata, hrest⟩ := Option.bind_eq_some_iff.mp h
  obtain ⟨inner, hinner, hvalue⟩ := Json.itemsAt_of_at? hrest
  have hlookup : Json.lookup "data" fields = some data := hdata
  rw [hlookup, Option.getD_some, hinner]
  exact hvalue

/-- A body has the kind that it is made for. -/
theorem Record.kind_bodyOfKind (kind : SectionKind) (fields : List (String × Json)) :
    (bodyOfKind kind fields).kind = kind := by
  cases kind <;> rfl

namespace RecordSpot

variable {n : Int} {group : Option SectionKind} {fields : List (String × Json)} {m : Section}

/-- **The section of a record has the integer at the spot.** -/
theorem hasInt {spot : RecordSpot} (hsection : Record.section? group (.object fields) = some m)
    (hkind : ∀ kind, spot.kind? = some kind → m.kind = kind)
    (h : (Json.object fields).at? spot.place = some (.int n)) : m.HasInt n spot := by
  have hm : m = ⟨Record.id fields, Record.shortcode fields, Record.textAt "title" fields,
      Record.bodyOfKind (group.getD (Record.kind fields)) fields⟩ := by
    rw [Record.section?] at hsection
    split at hsection
    · exact absurd hsection (by simp)
    · exact (Option.some.inj hsection).symm
  have hbody : ∀ kind, spot.kind? = some kind → m.body = Record.bodyOfKind kind fields := by
    intro kind hspot
    have hsame := hkind kind hspot
    rw [hm, Section.kind, Record.kind_bodyOfKind] at hsame
    rw [hm, hsame]
  cases spot with
  | id =>
      have hlookup : Json.lookup "id" fields = some (.int n) := by
        simpa [place, Json.at?, Json.step?] using h
      rw [Section.HasInt, hm, Record.id, hlookup]
      exact Json.plainText_int n
  | title =>
      rw [Section.HasInt, hm]
      exact Record.textAt_int h
  | shortcode =>
      rw [Section.HasInt, hm, Record.shortcode, Record.textAt_int h, ← Numeral.ofList_text_ofInt,
        String.toList_ofList, Numeral.trim_text_ofInt]
  | label k =>
      have hitem := Record.itemsAt_data h
      refine ⟨_, _, hbody .graph rfl, ?_⟩
      rw [GraphData.ofJson, List.getElem?_map, hitem]
      exact congrArg some (Json.plainText_int n)
  | value k =>
      have hitem := Record.itemsAt_data h
      refine ⟨_, _, hbody .graph rfl, ?_⟩
      rw [GraphData.ofJson, List.getElem?_map, hitem]
      rfl
  | header k =>
      obtain ⟨inner, hinner, hvalue⟩ := Json.itemsAt_of_at? h
      obtain rfl : inner = .int n := Option.some.inj hvalue
      refine ⟨_, _, hbody .table rfl, ?_⟩
      rw [List.getElem?_map, hinner]
      exact congrArg some (Json.plainText_int n)
  | cell r c =>
      obtain ⟨row, hrow, hitem⟩ := Json.itemsAt_of_at? h
      obtain ⟨inner, hinner, hvalue⟩ := Option.bind_eq_some_iff.mp hitem
      obtain rfl : inner = .int n := Option.some.inj hvalue
      refine ⟨_, _, Record.rowCells row, hbody .table rfl, ?_, ?_⟩
      · rw [List.getElem?_map, hrow]
        rfl
      · cases row with
        | array cells =>
            have hcell : cells[c]? = some (.int n) := hinner
            rw [Record.rowCells, List.getElem?_map, hcell]
            rfl
        | _ => exact absurd hinner (by simp [Json.step?])
  | loneCell r =>
      obtain ⟨row, hrow, hvalue⟩ := Json.itemsAt_of_at? h
      obtain rfl : row = .int n := Option.some.inj hvalue
      refine ⟨_, _, hbody .table rfl, ?_⟩
      rw [List.getElem?_map, hrow]
      rfl

/-! ## Where it is written -/

/-- A text among texts. -/
theorem step?_strings {texts : List String} {k : Nat} {text : String} (h : texts[k]? = some text) :
    (Json.strings texts).tree.step? (.item k) = some (.text (some text)) := by
  have hitem : (texts.map Json.string)[k]? = some (.string text) := by
    rw [List.getElem?_map, h]
    rfl
  exact Json.step?_item hitem

/-- An integer among values of a graph. -/
theorem step?_values {values : List DataValue} {k : Nat}
    (h : values[k]? = some (.number (.int n))) :
    (Json.array (values.map DataValue.json)).tree.step? (.item k) = some (.number (.ofInt n)) := by
  have hitem : (values.map DataValue.json)[k]? = some (.int n) := by
    rw [List.getElem?_map, h]
    rfl
  exact Json.step?_item hitem

/-- A cell among cells of a table. -/
theorem step?_rows {rows : List (List CellValue)} {r : Nat} {cells : List CellValue}
    (h : rows[r]? = some cells) :
    (Json.array (rows.map fun cells => .array (cells.map CellValue.json))).tree.step? (.item r) =
      some (Json.array (cells.map CellValue.json)).tree := by
  have hitem : (rows.map fun cells => Json.array (cells.map CellValue.json))[r]? =
      some (.array (cells.map CellValue.json)) := by
    rw [List.getElem?_map, h]
    rfl
  exact Json.step?_item hitem

/-- What stands in the data of a named series. -/
theorem at?_namedJson (name : String) (data : List Json) (steps : List Step) :
    (ChartSeries.namedJson name data).tree.at? (.item 0 :: .field "data" :: steps) =
      (Json.array data).tree.at? steps :=
  (Tree.at?_cons rfl _).trans (Tree.at?_cons rfl _)

/-- A point of a treemap, by the place of its label. -/
theorem step?_points {labels : List String} {values : List DataValue} {k : Nat} {label : String}
    (h : labels[k]? = some label) :
    (Json.array ((ChartSeries.paired labels values).map ChartSeries.pointJson)).tree.step?
        (.item k) =
      some (ChartSeries.pointJson (label, values[k]?.getD (.number (.int 0)))).tree := by
  have hitem : ((ChartSeries.paired labels values).map ChartSeries.pointJson)[k]? =
      some (ChartSeries.pointJson (label, values[k]?.getD (.number (.int 0)))) := by
    rw [List.getElem?_map, ChartSeries.getElem?_paired, h]
    rfl
  exact Json.step?_item hitem

/-- **The section as it is written has the integer.** -/
theorem section_at? {spot : RecordSpot} (h : m.HasInt n spot) :
    m.json.tree.at? spot.sectionPlace = some (spot.written n) := by
  obtain ⟨id, code, title, body⟩ := m
  cases spot with
  | id =>
      obtain rfl : id = toString n := h
      exact Tree.at?_cons (by cases body <;> rfl) []
  | title =>
      obtain rfl : title = toString n := h
      exact Tree.at?_cons (by cases body <;> rfl) []
  | shortcode =>
      obtain rfl : code = toString n := h
      exact Tree.at?_cons (by cases body <;> rfl) []
  | label k =>
      obtain ⟨data, kind, rfl, hlabel⟩ := h
      refine (Tree.at?_cons rfl _).trans ?_
      refine (Tree.at?_cons rfl _).trans ?_
      exact Tree.at?_cons (step?_strings hlabel) []
  | value k =>
      obtain ⟨data, kind, rfl, hvalue⟩ := h
      refine (Tree.at?_cons rfl _).trans ?_
      refine (Tree.at?_cons rfl _).trans ?_
      exact Tree.at?_cons (step?_values hvalue) []
  | header k =>
      obtain ⟨headers, rows, rfl, hheader⟩ := h
      refine (Tree.at?_cons rfl _).trans ?_
      exact Tree.at?_cons (step?_strings hheader) []
  | cell r c =>
      obtain ⟨headers, rows, cells, rfl, hrow, hcell⟩ := h
      refine (Tree.at?_cons rfl _).trans ?_
      refine (Tree.at?_cons (step?_rows hrow) _).trans ?_
      have hitem : (cells.map CellValue.json)[c]? = some (.int n) := by
        rw [List.getElem?_map, hcell]
        rfl
      exact Tree.at?_cons (Json.step?_item hitem) []
  | loneCell r =>
      obtain ⟨headers, rows, rfl, hrow⟩ := h
      refine (Tree.at?_cons rfl _).trans ?_
      exact Tree.at?_cons (step?_rows hrow) _

/-- **The chart as it is written has the integer.** -/
theorem chart_at? {spot : RecordSpot} {data : GraphData} {kind : ChartKind}
    (hbody : m.body = .graph data kind) (h : m.HasInt n spot) {steps : List Step}
    (hplace : spot.chartPlace? data kind = some steps) (theme : ChartTheme) :
    (ChartSpec.build data kind m.title theme).json.tree.at? steps = some (spot.written n) := by
  cases spot with
  | label k =>
      obtain ⟨data, kind, hsame, hlabel⟩ := h
      obtain ⟨rfl, rfl⟩ := SectionBody.graph.inj (hbody.symm.trans hsame)
      unfold ChartSpec.build
      simp only [chartPlace?] at hplace
      cases hshape : kind.shape <;> simp only [hshape] at hplace
      case categorical =>
        obtain rfl := Option.some.inj hplace
        refine (Tree.at?_cons rfl _).trans ?_
        refine (Tree.at?_cons rfl _).trans ?_
        refine (Tree.at?_cons rfl _).trans ?_
        exact Tree.at?_cons (step?_strings hlabel) []
      case flat =>
        obtain rfl := Option.some.inj hplace
        refine (Tree.at?_cons rfl _).trans ?_
        refine (Tree.at?_cons rfl _).trans ?_
        exact Tree.at?_cons (step?_strings hlabel) []
      case treemap =>
        obtain rfl := Option.some.inj hplace
        refine (Tree.at?_cons rfl _).trans ?_
        refine (at?_namedJson _ _ _).trans ?_
        exact Tree.at?_cons (step?_points hlabel) _
      case raw => exact absurd hplace (by simp)
  | value k =>
      obtain ⟨data, kind, hsame, hvalue⟩ := h
      obtain ⟨rfl, rfl⟩ := SectionBody.graph.inj (hbody.symm.trans hsame)
      unfold ChartSpec.build
      simp only [chartPlace?] at hplace
      cases hshape : kind.shape <;> simp only [hshape] at hplace
      case flat =>
        obtain rfl := Option.some.inj hplace
        refine (Tree.at?_cons rfl _).trans ?_
        exact Tree.at?_cons (step?_values hvalue) []
      case treemap =>
        by_cases hlabel : k < data.labels.length
        · rw [if_pos hlabel] at hplace
          obtain rfl := Option.some.inj hplace
          refine (Tree.at?_cons rfl _).trans ?_
          refine (at?_namedJson _ _ _).trans ?_
          refine (Tree.at?_cons (step?_points (List.getElem?_eq_getElem hlabel)) _).trans ?_
          rw [hvalue]
          exact Tree.at?_cons rfl []
        · rw [if_neg hlabel] at hplace
          exact absurd hplace (by simp)
      -- one series of all values
      all_goals
        obtain rfl := Option.some.inj hplace
        refine (Tree.at?_cons rfl _).trans ?_
        refine (at?_namedJson _ _ _).trans ?_
        exact Tree.at?_cons (step?_values hvalue) []
  | _ => exact absurd hplace (by simp [chartPlace?])

/-- **The table on the page has the integer.** -/
theorem isShown_table {spot : RecordSpot} {headers : List String} {rows : List (List CellValue)}
    (hbody : m.body = .table headers rows) (h : m.HasInt n spot) (theme : ChartTheme) :
    ∃ table, Page.tablesIn (Page.cellBox theme (.resolved m)).join = [table] ∧
      spot.IsShownIn n table := by
  have hshows := (Page.showsTable_tableElement headers rows).join
  refine ⟨_, by rw [Page.tablesIn_join, Page.tablesIn_cellBox hbody]; rfl, ?_⟩
  cases spot with
  | header k =>
      obtain ⟨others, _, hsame, hheader⟩ := h
      obtain ⟨rfl, -⟩ := SectionBody.table.inj (hbody.symm.trans hsame)
      refine ⟨headers.map fun text => (some "th", text), ?_, ?_⟩
      · rw [hshows.head, if_neg]
        intro hnil
        simp [hnil] at hheader
      · rw [List.getElem?_map, hheader]
        rfl
  | cell r c =>
      obtain ⟨_, others, cells, hsame, hrow, hcell⟩ := h
      obtain ⟨-, rfl⟩ := SectionBody.table.inj (hbody.symm.trans hsame)
      refine ⟨_, by rw [hshows.body, List.getElem?_map, List.getElem?_map, hrow]; rfl, ?_⟩
      rw [List.getElem?_map, List.getElem?_map, hcell]
      exact congrArg (fun text => some (some "td", text)) (Numeral.ofList_text_ofInt n)
  | loneCell r =>
      obtain ⟨_, others, hsame, hrow⟩ := h
      obtain ⟨-, rfl⟩ := SectionBody.table.inj (hbody.symm.trans hsame)
      rw [IsShownIn, hshows.body, List.getElem?_map, List.getElem?_map, hrow]
      exact congrArg (fun text => some (some "tr", [(some "td", text)]))
        (Numeral.ofList_text_ofInt n)
  | _ => trivial

/-- Whether an integer at a spot is found again in the entry of a cell of a dump and in the element
of the cell on the page: in the section, in the chart of a graph on both sides, and in the table of
the page. -/
structure Reappears (spot : RecordSpot) (n : Int) (m : Section) (i j : Nat) (dump : Tree)
    (box : Markup) : Prop where
  content : dump.at? (RenderPlan.cellPlace i j ++ .field "section" :: spot.sectionPlace) =
    some (spot.written n)
  chart : ∀ data kind, m.body = .graph data kind →
    ∀ place, spot.chartPlace? data kind = some place →
      dump.at? (RenderPlan.cellPlace i j ++ .field "chart" :: place) = some (spot.written n) ∧
        ∃ text chart, Page.chartTexts box = [text] ∧
          Document.read .strict text.toList = ⟨chart, false⟩ ∧
          chart.at? place = some (spot.written n)
  table : ∀ headers rows, m.body = .table headers rows →
    ∃ table, Page.tablesIn box = [table] ∧ spot.IsShownIn n table

/-- **One cell.**  What a section has at a spot is found again in its cell. -/
theorem reappears {spot : RecordSpot} (h : m.HasInt n spot) {plan : RenderPlan} {row : RenderRow}
    {i j : Nat} (hrow : plan.rows[i]? = some row) (hcell : row.cells[j]? = some (.resolved m))
    (theme : ChartTheme) :
    spot.Reappears n m i j (plan.json theme).tree (Page.cellBox theme (.resolved m)).join where
  content := by
    rw [RenderPlan.at?_cell hrow hcell, RenderCell.at?_section]
    exact section_at? h
  chart := by
    intro data kind hbody place hplace
    have hspec : ChartSpec.ofSection? m theme = some (.build data kind m.title theme) := by
      rw [ChartSpec.ofSection?, hbody]
    have hchart := chart_at? hbody h hplace theme
    refine ⟨?_, _, _, Page.chartTexts_cellBox hbody theme, Page.read_compact _, hchart⟩
    rw [RenderPlan.at?_cell hrow hcell, RenderCell.at?_chart hspec]
    exact hchart
  table := by
    intro headers rows hbody
    exact isShown_table hbody h theme

end RecordSpot

/-! ## Payloads -/

namespace Payload

/-- The sections of a strict payload are what its records give. -/
theorem ofText_eq_takeAll {payload : String} {root : Tree} {fields : List (String × Json)}
    (hread : Document.read .strict (body payload.toList) = ⟨root, false⟩)
    (hvalue : root.json .strict Dialect.strict.room = .ok (.object fields)) :
    ofText payload = takeAll (recordList fields) := by
  have hparse : Json.parse .strict (body payload.toList) = .ok (.object fields) :=
    Document.decode_eq hread hvalue
  exact ofText_eq_of_document? (by rw [document?, hparse]) (sections?_eq_takeAll fields)

/-- **The section of a kept record** has the integer that is written at a spot of the record. -/
theorem exists_hasInt {payload : String} {root : Tree} {fields : List (String × Json)}
    (hread : Document.read .strict (body payload.toList) = ⟨root, false⟩)
    (hvalue : root.json .strict Dialect.strict.room = .ok (.object fields))
    {place : List Step} {entry : Entry} {code : String} (hkept : IsKept fields place entry code)
    {spot : RecordSpot} {n : Int} (hn : Dialect.strict.KeepsInt n)
    (hwritten : root.at? (place ++ spot.place) = some (.number (.ofInt n))) :
    ∃ m, (ofText payload).get? code = some m ∧
      ((∀ kind, spot.kind? = some kind → m.kind = kind) → m.HasInt n spot) := by
  have hget := get?_of_isKept hkept
  obtain ⟨m, hm⟩ := Option.isSome_iff_exists.mp (Entry.isSome_section? hkept.code?_eq)
  rw [hm, ← ofText_eq_takeAll hread hvalue] at hget
  refine ⟨m, hget, ?_⟩
  intro hkind
  -- the record has as its value there what was read from the literal
  obtain ⟨inside, value, hinteger, hat⟩ := Tree.json_at? hvalue hwritten
  have hint : value = .int n := by
    have hquantity : Tree.json .strict inside (.number (.ofInt n)) = .ok (.int n) := by
      rw [Tree.json, Tree.quantity, Dialect.quantity?_ofInt hn]
      rfl
    exact Except.ok.inj (hinteger.symm.trans hquantity)
  rw [hint, Json.at?_append, hkept.at?_eq, Option.bind_some] at hat
  obtain ⟨group, record⟩ := entry
  cases record with
  | object record => exact RecordSpot.hasInt hm hkind hat
  | _ => exact absurd hm (by simp [Entry.section?, Record.section?])

/-- **Wherever a section is shown** by a plan, what it has at a spot is found again. -/
theorem reappears_ofTexts {payload code : String} {m : Section} {spot : RecordSpot} {n : Int}
    (hget : (ofText payload).get? code = some m) (hshown : m.kind ≠ .unknown)
    (hhas : m.HasInt n spot) (template : String) (config : Config) :
    ∃ dump parts,
      Document.read .strict
        ((RenderPlan.ofTexts template payload).dump config.chart).toList = ⟨dump, false⟩ ∧
      Markup.read? (Page.html (RenderPlan.ofTexts template payload) config).toList = some parts ∧
      ∀ (i : Nat) row (j : Nat), (Layout.parse template)[i]? = some row →
        row.tokens[j]? = some code →
          ∃ box, Page.box? parts i j = some box ∧ spot.Reappears n m i j dump box := by
  have hall := RenderPlan.isShown_compile (Layout.parse template) (ofText payload)
  refine ⟨_, _, RenderPlan.read_dump _ config.chart, Page.read?_html config hall, ?_⟩
  intro i row j hrow htoken
  have hplan : (RenderPlan.ofTexts template payload).rows[i]? =
      some ⟨row.columns, row.tokens.map (RenderCell.resolve (ofText payload))⟩ := by
    simp [RenderPlan.ofTexts, RenderPlan.compile, hrow]
  have hcell : (row.tokens.map (RenderCell.resolve (ofText payload)))[j]? =
      some (.resolved m) := by
    simp [htoken, RenderCell.resolve, hget, hshown]
  exact ⟨_, Page.box?_readParts config hall hplan hcell,
    RecordSpot.reappears hhas hplan hcell config.chart⟩

/-- **Integers keep their form.**  Take an integer of 64 bits whose literal stands at a spot of a
record that is kept, in a strict payload.  The section of the record has the same literal there, as
a number or as a text.  Wherever the section is shown by a plan, so have the dump of the plan, the
chart on the page and the table on the page. -/
theorem integers_keep_form {payload : String} {root : Tree} {fields : List (String × Json)}
    (hread : Document.read .strict (body payload.toList) = ⟨root, false⟩)
    (hvalue : root.json .strict Dialect.strict.room = .ok (.object fields))
    {place : List Step} {entry : Entry} {code : String} (hkept : IsKept fields place entry code)
    {spot : RecordSpot} {n : Int} (hn : -2 ^ 63 ≤ n ∧ n < 2 ^ 64)
    (hwritten : root.at? (place ++ spot.place) = some (.number (.ofInt n))) :
    (Numeral.ofInt n).text = (toString n).toList ∧
      ∃ m, (ofText payload).get? code = some m ∧
        ((∀ kind, spot.kind? = some kind → m.kind = kind) →
          m.json.tree.at? spot.sectionPlace = some (spot.written n) ∧
          (m.kind ≠ .unknown → ∀ (template : String) (config : Config), ∃ dump parts,
            Document.read .strict
              ((RenderPlan.ofTexts template payload).dump config.chart).toList = ⟨dump, false⟩ ∧
            Markup.read? (Page.html (RenderPlan.ofTexts template payload) config).toList =
              some parts ∧
            ∀ (i : Nat) row (j : Nat), (Layout.parse template)[i]? = some row →
              row.tokens[j]? = some code →
                ∃ box, Page.box? parts i j = some box ∧ spot.Reappears n m i j dump box)) := by
  have hkeeps : Dialect.strict.KeepsInt n := ⟨by omega, by simpa using hn.2⟩
  obtain ⟨m, hget, hhas⟩ := exists_hasInt hread hvalue hkept hkeeps hwritten
  refine ⟨by rw [← Numeral.ofList_text_ofInt, String.toList_ofList], m, hget, ?_⟩
  intro hkind
  refine ⟨RecordSpot.section_at? (hhas hkind), ?_⟩
  intro hshown template config
  exact reappears_ofTexts hget hshown (hhas hkind) template config

/-- The largest integer, in the chart of a treemap: a value with a label. -/
theorem integers_keep_form_treemap :
    let record : Json := .object [("data", .object [("labels", .strings ["a"]),
      ("values", .array [.int 18446744073709551615])]), ("section_type", .string "graph"),
      ("shortcode", .string "g"), ("type", .string "treemap")]
    let fields : List (String × Json) := [("sections", .array [record])]
    let payload := (Json.object fields).compact
    let plan := RenderPlan.ofTexts "[g]" payload
    Document.read .strict (body payload.toList) = ⟨(Json.object fields).tree, false⟩ ∧
      (Json.object fields).tree.json .strict Dialect.strict.room = .ok (.object fields) ∧
      IsKept fields [.field "sections", .item 0] (none, record) "g" ∧
      (-2 ^ 63 ≤ (18446744073709551615 : Int) ∧ (18446744073709551615 : Int) < 2 ^ 64) ∧
      (Json.object fields).tree.at? ([.field "sections", .item 0] ++ (RecordSpot.value 0).place) =
        some (.number (.ofInt 18446744073709551615)) ∧
      ∃ m dump parts box, (ofText payload).get? "g" = some m ∧
        Document.read .strict (plan.dump Config.default.chart).toList = ⟨dump, false⟩ ∧
        Markup.read? (Page.html plan Config.default).toList = some parts ∧
        Page.box? parts 0 0 = some box ∧
        (RecordSpot.value 0).Reappears 18446744073709551615 m 0 0 dump box := by
  intro record fields payload plan
  have hread : Document.read .strict (body payload.toList) =
      ⟨(Json.object fields).tree, false⟩ := by
    have hbody : body payload.toList = (Json.object fields).write none := by
      rw [← body_write]
      exact congrArg body String.toList_ofList
    rw [hbody]
    exact Document.read_write _ none
  have hvalue : (Json.object fields).tree.json .strict Dialect.strict.room =
      .ok (.object fields) := rfl
  have hkept : IsKept fields [.field "sections", .item 0] (none, record) "g" := by
    refine ⟨0, rfl, rfl, rfl, ?_⟩
    intro earlier hearlier
    exact absurd hearlier (by simp)
  have hn : -2 ^ 63 ≤ (18446744073709551615 : Int) ∧ (18446744073709551615 : Int) < 2 ^ 64 := by
    omega
  have hwritten : (Json.object fields).tree.at? ([.field "sections", .item 0] ++
      (RecordSpot.value 0).place) = some (.number (.ofInt 18446744073709551615)) := rfl
  refine ⟨hread, hvalue, hkept, hn, hwritten, ?_⟩
  obtain ⟨-, m, hm, hplaces⟩ := integers_keep_form hread hvalue hkept hn hwritten
  have hkind : m.kind = .graph := by
    rw [ofText_eq_takeAll hread hvalue, get?_of_isKept hkept] at hm
    obtain rfl := Option.some.inj hm
    rfl
  obtain ⟨-, hplans⟩ := hplaces (fun kind hspot => hkind.trans (Option.some.inj hspot))
  obtain ⟨dump, parts, hdump, hparts, hcells⟩ := hplans (by rw [hkind]; decide) "[g]" .default
  obtain ⟨box, hbox, hreappears⟩ := hcells 0 ⟨["g"], by simp⟩ 0 rfl rfl
  exact ⟨m, dump, parts, box, hm, hdump, hparts, hbox, hreappears⟩

end Payload

end ReportGrid
