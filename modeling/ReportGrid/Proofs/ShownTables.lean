import ReportGrid.Proofs.PageDump

/-!
# Tables on a page

The section of a table record is shown as a table with a head, if there are headers, and with a row
for each entry of its rows.  `Page.rowsIn` reads such a table back from a page by its tags, and
`RenderPlan.html_showsTables` says that the values of the record are all found there as texts, in
their places, whatever they are.

The texts are told from the fields of the record by cases (`Json.shownText`, `Record.headerTexts`,
`Record.rowTexts`).  Headers become texts when a record is read, and cells only when they are shown.
Both ways give these texts (`Json.plainText_eq`, `CellValue.display_ofJson`).
-/

namespace ReportGrid

/-! ## Values as texts -/

/-- The text of a value: a string as it is, null as nothing, and everything else in its compact
form. -/
def Json.shownText : Json → String
  | .string text => text
  | .null => ""
  | .bool true => "true"
  | .bool false => "false"
  | value => value.compact

/-- A value shows its text as a header. -/
theorem Json.plainText_eq (value : Json) : value.plainText = value.shownText := by
  cases value with
  | bool value => cases value <;> rfl
  | _ => rfl

/-- A value shows its text as a cell. -/
theorem CellValue.display_ofJson (value : Json) :
    (CellValue.ofJson value).display = value.shownText := by
  cases value with
  | bool value => cases value <;> rfl
  | _ => rfl

namespace Record

/-- The headers of a table record as texts: those of an array, and none without one. -/
def headerTexts (fields : List (String × Json)) : List String :=
  match Json.lookup "headers" fields with
  | some (.array headers) => headers.map Json.shownText
  | _ => []

/-- A row of a table as texts: those of an array, and one text for any other value. -/
def cellTexts : Json → List String
  | .array cells => cells.map Json.shownText
  | value => [value.shownText]

/-- The rows of a table record as texts: those of an array, and none without one. -/
def rowTexts (fields : List (String × Json)) : List (List String) :=
  match Json.lookup "rows" fields with
  | some (.array rows) => rows.map cellTexts
  | _ => []

/-- What is read of a field that holds an array is each item, and nothing of any other field. -/
theorem map_itemsAt {α : Type} (read : Json → α) (name : String) (fields : List (String × Json)) :
    ((Json.object fields).itemsAt name).map read =
      match Json.lookup name fields with
      | some (.array items) => items.map read
      | _ => [] := by
  rw [Json.itemsAt, Json.field?]
  cases Json.lookup name fields with
  | none => rfl
  | some value => cases value <;> rfl

/-- The headers that are read show the texts of the record. -/
theorem map_plainText_headers (fields : List (String × Json)) :
    ((Json.object fields).itemsAt "headers").map Json.plainText = headerTexts fields := by
  rw [show Json.plainText = Json.shownText from funext Json.plainText_eq]
  exact map_itemsAt _ _ _

/-- The cells of a row show the texts of its values. -/
theorem map_display_rowCells (row : Json) :
    (rowCells row).map CellValue.display = cellTexts row := by
  have hcell : CellValue.display ∘ CellValue.ofJson = Json.shownText :=
    funext CellValue.display_ofJson
  cases row with
  | array cells => rw [rowCells, cellTexts, List.map_map, hcell]
  | _ => exact congrArg (fun text => [text]) (CellValue.display_ofJson _)

/-- The rows that are read show the texts of the record. -/
theorem map_display_rows (fields : List (String × Json)) :
    (((Json.object fields).itemsAt "rows").map rowCells).map
      (fun cells => cells.map CellValue.display) = rowTexts fields := by
  have hrow : (fun cells => cells.map CellValue.display) ∘ rowCells = cellTexts :=
    funext map_display_rowCells
  rw [List.map_map, hrow]
  exact map_itemsAt _ _ _

end Record

namespace Page

open Markup

/-! ## Reading a table -/

/-- The tables right inside an element. -/
def tablesIn (box : Markup) : List Markup :=
  box.childElements.filter fun part => part.tag? = some "table"

/-- The cells of a row: the elements right inside it, with their tags and texts. -/
def cellsOf (row : Markup) : List (Option String × String) :=
  row.childElements.map fun cell => (cell.tag?, String.ofList cell.content)

/-- The rows in the parts of a table that have a tag, with their own tags and their cells. -/
def rowsIn (tag : String) (table : Markup) : List (Option String × List (Option String × String)) :=
  ((table.childElements.filter fun part => part.tag? = some tag).flatMap childElements).map
    fun row => (row.tag?, cellsOf row)

/-- What is read from a table: a head with the headers, if there are any, and a body with the rows,
cell for cell. -/
structure ShowsTable (headers : List String) (rows : List (List String)) (table : Markup) :
    Prop where
  parts : table.childElements.map tag? =
    if headers = [] then [some "tbody"] else [some "thead", some "tbody"]
  head : rowsIn "thead" table =
    if headers = [] then [] else [(some "tr", headers.map fun text => (some "th", text))]
  body : rowsIn "tbody" table =
    rows.map fun cells => (some "tr", cells.map fun text => (some "td", text))

theorem cellsOf_join (row : Markup) : cellsOf row.join = cellsOf row := by
  simp [cellsOf, childElements_join]

/-- Joining texts keeps the rows of a table. -/
theorem rowsIn_join (tag : String) (table : Markup) : rowsIn tag table.join = rowsIn tag table := by
  simp [rowsIn, childElements_join, List.filter_map, List.flatMap_map, Function.comp_def,
    List.map_flatMap, cellsOf_join]

theorem ShowsTable.join {headers : List String} {rows : List (List String)} {table : Markup}
    (h : ShowsTable headers rows table) : ShowsTable headers rows table.join where
  parts := by
    rw [childElements_join, List.map_map, ← h.parts]
    exact List.map_congr_left fun part _ => tag?_join part
  head := by rw [rowsIn_join, h.head]
  body := by rw [rowsIn_join, h.body]

/-! ## Writing a table -/

/-- The element of a table. -/
def tableElement (headers : List String) (rows : List (List CellValue)) : Markup :=
  .element "table" [] (newline :: tableHead headers ++
    [.element "tbody" [] (newline :: rows.flatMap tableRow), newline])

/-- Elements that hold one text each are read as cells with these texts. -/
theorem cellsOf_texts {α : Type} (tag : String) (f : α → String) (l : List α) :
    cellsOf (.element "tr" [] (l.map fun a => textElement tag [] (f a))) =
      l.map fun a => (some tag, f a) := by
  have helements : (l.map fun a => textElement tag [] (f a)).filter isElement =
      l.map fun a => textElement tag [] (f a) := by
    rw [List.filter_eq_self]
    intro part hpart
    obtain ⟨a, -, rfl⟩ := List.mem_map.mp hpart
    rfl
  rw [cellsOf, childElements, children, helements, List.map_map]
  apply List.map_congr_left
  intro a _
  simp [textElement, tag?, content, contentAll]

/-- The elements of the head of a table. -/
theorem filter_isElement_tableHead (headers : List String) :
    (tableHead headers).filter isElement =
      if headers = [] then []
      else [.element "thead" [] [.element "tr" [] (headers.map (textElement "th" []))]] := by
  cases headers <;> rfl

theorem childElements_tableElement (headers : List String) (rows : List (List CellValue)) :
    (tableElement headers rows).childElements = (tableHead headers).filter isElement ++
      [.element "tbody" [] (newline :: rows.flatMap tableRow)] := by
  simp [tableElement, childElements, children, newline, isElement, List.filter_cons]

/-- **A table is written cell for cell.** -/
theorem showsTable_tableElement (headers : List String) (rows : List (List CellValue)) :
    ShowsTable headers (rows.map fun cells => cells.map CellValue.display)
      (tableElement headers rows) := by
  have hrows : (rows.flatMap tableRow).filter isElement =
      rows.map fun cells => .element "tr" [] (cells.map fun cell =>
        textElement "td" [] cell.display) := by
    rw [List.filter_flatMap, List.map_eq_flatMap]
    rfl
  constructor
  · rw [childElements_tableElement, filter_isElement_tableHead]
    cases headers <;> rfl
  · rw [rowsIn, childElements_tableElement, filter_isElement_tableHead]
    cases headers with
    | nil => rfl
    | cons header headers =>
        change [(some "tr", cellsOf (.element "tr" [] ((header :: headers).map fun text =>
          textElement "th" [] text)))] = _
        rw [cellsOf_texts, if_neg (List.cons_ne_nil _ _)]
  · have hbody : (childElements (.element "tbody" [] (newline :: rows.flatMap tableRow))) =
        rows.map fun cells => .element "tr" [] (cells.map fun cell =>
          textElement "td" [] cell.display) := hrows
    have hfilter : (tableElement headers rows).childElements.filter
        (fun part => part.tag? = some "tbody") =
          [.element "tbody" [] (newline :: rows.flatMap tableRow)] := by
      rw [childElements_tableElement, filter_isElement_tableHead]
      cases headers <;> rfl
    rw [rowsIn, hfilter, List.flatMap_singleton, hbody, List.map_map, List.map_map]
    apply List.map_congr_left
    intro cells _
    rw [Function.comp_apply, Function.comp_apply, cellsOf_texts, List.map_map]
    rfl

theorem tablesIn_join (box : Markup) : tablesIn box.join = (tablesIn box).map join := by
  simp [tablesIn, childElements_join, List.filter_map, Function.comp_def]

/-- The element of a cell with a table has that table and no other. -/
theorem tablesIn_cellBox {m : Section} {headers : List String} {rows : List (List CellValue)}
    (h : m.body = .table headers rows) (theme : ChartTheme) :
    tablesIn (cellBox theme (.resolved m)) = [tableElement headers rows] := by
  have hheading : (heading m.title).filter (fun part => part.tag? = some "table") = [] := by
    unfold heading
    split <;> rfl
  have hbody : sectionBody m theme = [tableElement headers rows, newline] := by
    rw [sectionBody, h]
    rfl
  change ((newline :: heading m.title ++ sectionBody m theme).filter isElement).filter _ = _
  rw [List.filter_comm, List.cons_append, List.filter_cons_of_neg (by decide), List.filter_append,
    hheading, hbody]
  rfl

end Page

/-- **Tables are shown cell for cell.**  A record of a table is accepted whatever its headers and
rows are.  Wherever a plan shows its section, the table that is read there has the headers and rows
of the record, each value as its text; and a value shows the same text as a cell and as a header. -/
theorem RenderPlan.html_showsTables (group : Option SectionKind) (fields : List (String × Json))
    (hcode : Record.shortcode fields ≠ "") (hkind : group.getD (Record.kind fields) = .table) :
    (∃ m, Record.section? group (.object fields) = some m ∧
      ∀ rows sections config, ∃ parts,
        Markup.read? (Page.html (compile rows sections) config).toList = some parts ∧
        ∀ i row, (compile rows sections).rows[i]? = some row →
          ∀ j, row.cells[j]? = some (.resolved m) →
            ∃ box table, Page.box? parts i j = some box ∧ Page.tablesIn box = [table] ∧
              Page.ShowsTable (Record.headerTexts fields) (Record.rowTexts fields) table) ∧
      ∀ value, (CellValue.ofJson value).display = value.shownText ∧
        value.plainText = value.shownText := by
  refine ⟨⟨_, by rw [Record.section?, if_neg hcode, hkind], ?_⟩,
    fun value => ⟨CellValue.display_ofJson value, value.plainText_eq⟩⟩
  intro rows sections config
  have hshown := isShown_compile rows sections
  refine ⟨_, Page.read?_html config hshown, ?_⟩
  intro i row hrow j hcell
  have hread := Page.box?_readParts config hshown hrow hcell
  have htable : Page.ShowsTable (Record.headerTexts fields) (Record.rowTexts fields)
      (Page.tableElement (((Json.object fields).itemsAt "headers").map Json.plainText)
        (((Json.object fields).itemsAt "rows").map Record.rowCells)) := by
    rw [← Record.map_plainText_headers, ← Record.map_display_rows]
    exact Page.showsTable_tableElement _ _
  refine ⟨_, _, hread, ?_, htable.join⟩
  rw [Page.tablesIn_join, Page.tablesIn_cellBox rfl]
  rfl

/-- A table with a header that looks like markup, and with rows of all kinds. -/
def raggedTable : List (String × Json) :=
  [("headers", .array [.string "<b>", .null]),
    ("rows", .array [.array [.int 1, .array [.string "&"]], .bool true, .array []]),
    ("shortcode", .string " t ")]

/-- Its section. -/
def raggedSection : Section :=
  ⟨"t", "t", "", .table ["<b>", ""] [[.number (.int 1), .text "[\"&\"]"], [.bool true], []]⟩

/-- Such a record has a table, which is read back from a page that shows it. -/
theorem RenderPlan.html_showsTables_ragged :
    Record.shortcode raggedTable ≠ "" ∧
      (some SectionKind.table).getD (Record.kind raggedTable) = .table ∧
      ∃ parts box table,
        Markup.read? (Page.html (compile [⟨["t"], by simp⟩] (.ofList [raggedSection]))
          .default).toList = some parts ∧
        Page.box? parts 0 0 = some box ∧ Page.tablesIn box = [table] ∧
        Page.ShowsTable ["<b>", ""] [["1", "[\"&\"]"], ["true"], []] table := by
  have hcode : Record.shortcode raggedTable ≠ "" := by decide
  have hsection : Record.section? (some .table) (.object raggedTable) = some raggedSection :=
    rfl
  obtain ⟨⟨m, hm, hpages⟩, -⟩ := html_showsTables (some .table) raggedTable hcode rfl
  obtain rfl := Option.some.inj (hsection.symm.trans hm)
  obtain ⟨parts, hread, hcells⟩ :=
    hpages [⟨["t"], by simp⟩] (.ofList [raggedSection]) .default
  have hcell : RenderCell.resolve (.ofList [raggedSection]) "t" = .resolved raggedSection := rfl
  obtain ⟨box, table, hbox, htable, hshows⟩ := hcells 0
    ⟨.one, [.resolve (.ofList [raggedSection]) "t"]⟩ rfl 0 (congrArg some hcell)
  have hheaders : Record.headerTexts raggedTable = ["<b>", ""] := by decide
  have hrows : Record.rowTexts raggedTable = [["1", "[\"&\"]"], ["true"], []] := by
    decide
  rw [hheaders, hrows] at hshows
  exact ⟨hcode, rfl, parts, box, table, hread, hbox, htable, hshows⟩

end ReportGrid
