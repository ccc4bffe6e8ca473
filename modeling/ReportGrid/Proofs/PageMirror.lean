import ReportGrid.Page.Basic
import ReportGrid.Proofs.PageStretches
import ReportGrid.Proofs.PlanMirror

/-!
# Pages mirror plans

A page shows every row of its plan as one grid and every cell as one element in it, and what texts
the template, the payload and the configuration hold cannot change that.  `RenderPlan.html_mirrors`
says so of the characters of a page: they are read back by `Markup.read?`, and the elements that are
found there are those of the plan.

The argument looks at the tree of a page.  `Page.cellBox` is the element of a cell that is shown,
`Page.IsInside` says that a part is taken for no cell and no row, and
`Page.elementsAll_pageElement` lists the elements of a page.  What holds of the tree holds of what
is read, because reading only joins texts (`Page.read?_html`).
-/

namespace ReportGrid

/-- Whether a cell has something to show: no section of an unknown kind is in it. -/
def RenderCell.IsShown (cell : RenderCell) : Prop :=
  ∀ m, cell = .resolved m → m.kind ≠ .unknown

/-- Whether all cells of a plan have something to show. -/
def RenderPlan.IsShown (plan : RenderPlan) : Prop :=
  ∀ row ∈ plan.rows, ∀ cell ∈ row.cells, cell.IsShown

/-- A cell with a section of an unknown kind is unresolved and holds no section. -/
theorem RenderCell.isShown_resolve (sections : Sections) (token : String) :
    (resolve sections token).IsShown := by
  rintro m hm
  rcases resolve_cases sections token with ⟨-, h⟩ | ⟨n, -, -, h⟩ | ⟨n, -, hkind, h⟩
  · rw [h] at hm
    contradiction
  · rw [h] at hm
    contradiction
  · rw [h] at hm
    cases hm
    exact hkind

/-- A plan never holds a section of an unknown kind. -/
theorem RenderPlan.isShown_compile (rows : List LayoutRow) (sections : Sections) :
    (compile rows sections).IsShown := by
  intro row hrow cell hcell
  obtain ⟨layoutRow, -, rfl⟩ := List.mem_map.mp hrow
  obtain ⟨token, -, rfl⟩ := List.mem_map.mp hcell
  exact RenderCell.isShown_resolve sections token

namespace Page

open Markup

/-! ## Inside a cell -/

/-- Whether a part can stand inside a cell without being taken for a cell or a row. -/
structure IsInside (m : Markup) : Prop where
  tagged : m.IsTagged
  shortcode : m.attribute? "data-shortcode" = none
  row : "report-row" ∉ m.classes

/-- Whether all elements of some parts have known tags and no attributes. -/
def AreBare (parts : List Markup) : Prop :=
  ∀ m ∈ elementsAll parts, m.IsTagged ∧ m.attributes = []

/-- Without attributes an element has neither a shortcode nor the class of a row. -/
theorem AreBare.isInside {parts : List Markup} (h : AreBare parts) {m : Markup}
    (hm : m ∈ elementsAll parts) : IsInside m where
  tagged := (h m hm).1
  shortcode := by rw [attribute?, (h m hm).2, List.lookup_nil]
  row := by simp [classes, attribute?, (h m hm).2]

/-- Two lists of bare parts are bare together, and only then. -/
theorem areBare_append {parts more : List Markup} :
    AreBare (parts ++ more) ↔ AreBare parts ∧ AreBare more := by
  simp only [AreBare, elementsAll_append, List.forall_mem_append]

/-- Parts that are made of a list are bare if what is made of each item is. -/
theorem areBare_flatMap {α : Type} {f : α → List Markup} {l : List α} (h : ∀ a ∈ l, AreBare (f a)) :
    AreBare (l.flatMap f) := by
  intro m hm
  rw [elementsAll_flatMap] at hm
  obtain ⟨a, ha, hm⟩ := List.mem_flatMap.mp hm
  exact h a ha m hm

/-- An element without attributes in front of more parts. -/
theorem areBare_cons {tag : String} {children rest : List Markup} (htag : tag ∈ elementTags)
    (hchildren : AreBare children) (hrest : AreBare rest) :
    AreBare (.element tag [] children :: rest) := by
  refine List.forall_mem_cons.mpr ⟨⟨⟨htag, ?_⟩, rfl⟩, List.forall_mem_append.mpr ⟨hchildren, hrest⟩⟩
  exact List.forall_mem_nil _

theorem areBare_nil : AreBare [] :=
  List.forall_mem_nil _

/-- A text in front of bare parts. -/
theorem areBare_text (content : String) {rest : List Markup} (h : AreBare rest) :
    AreBare (.text content :: rest) :=
  h

/-- The lines of a paragraph, with breaks between them. -/
theorem areBare_withBreaks (paragraph : List Char) : AreBare (withBreaks paragraph) := by
  unfold withBreaks
  induction Text.lines paragraph with
  | nil => exact areBare_nil
  | cons line rest ih =>
      cases rest with
      | nil => exact areBare_text _ areBare_nil
      | cons next rest =>
          -- A break stands between the line and the next one.
          refine areBare_text _ (List.forall_mem_cons.mpr ⟨⟨⟨by decide, ?_⟩, rfl⟩, ih⟩)
          exact List.forall_mem_nil _

/-- The paragraphs of a text. -/
theorem areBare_textBody (content : String) : AreBare (textBody content) :=
  areBare_flatMap fun paragraph _ =>
    areBare_cons (by decide) (areBare_withBreaks paragraph) areBare_nil

/-- A title, or nothing in the place of an empty one. -/
theorem areBare_heading (title : String) : AreBare (heading title) := by
  unfold heading
  split
  · exact areBare_nil
  · exact areBare_cons (by decide) areBare_nil areBare_nil

/-- A row of a table, in its head or its body. -/
theorem areBare_texts {α : Type} {tag : String} (htag : tag ∈ elementTags) (f : α → String)
    (l : List α) : AreBare (l.map fun a => textElement tag [] (f a)) := by
  induction l with
  | nil => exact areBare_nil
  | cons a rest ih => exact areBare_cons htag areBare_nil ih

/-- A table, with a head or without one. -/
theorem areBare_tableBody (headers : List String) (rows : List (List CellValue)) :
    AreBare (tableBody headers rows) := by
  have hhead : AreBare (tableHead headers) := by
    unfold tableHead
    split
    · exact areBare_nil
    · refine areBare_cons (by decide) (areBare_cons (by decide) ?_ areBare_nil) areBare_nil
      exact areBare_texts (by decide) id headers
  have hrows : AreBare (rows.flatMap tableRow) :=
    areBare_flatMap fun cells _ =>
      areBare_cons (by decide) (areBare_texts (by decide) _ cells) areBare_nil
  refine areBare_cons (by decide) (areBare_append.mpr ⟨hhead, ?_⟩) areBare_nil
  exact areBare_cons (by decide) hrows areBare_nil

/-- Nothing inside a section is taken for a cell or a row; a chart is the only element there with
attributes. -/
theorem isInside_sectionBody {s : Section} {theme : ChartTheme} {m : Markup}
    (hm : m ∈ elementsAll (heading s.title ++ sectionBody s theme)) : IsInside m := by
  rw [elementsAll_append] at hm
  rcases List.mem_append.mp hm with hm | hm
  · exact (areBare_heading s.title).isInside hm
  · unfold sectionBody at hm
    split at hm
    · exact (areBare_textBody _).isInside hm
    · obtain rfl := List.mem_singleton.mp hm
      refine ⟨⟨by decide, ?_⟩, rfl, ?_⟩
      · simp [IsNamed, attributeNames]
      · change "report-row" ∉ (Text.splitOn [' '] "report-chart".toList).map String.ofList
        decide
    · exact (areBare_tableBody _ _).isInside hm
    · exact absurd hm List.not_mem_nil

/-! ## Cells and rows -/

/-- The element of a cell that is shown. -/
def cellBox (theme : ChartTheme) (cell : RenderCell) : Markup :=
  match cell.content? with
  | some s =>
    .element "section" [("class", "report-cell " ++ kindClass s.kind),
      ("data-shortcode", s.shortcode)] (newline :: heading s.title ++ sectionBody s theme)
  | none =>
    textElement "div" [("class", "report-cell report-placeholder report-" ++ cell.variant),
      ("data-shortcode", cell.shortcode)] (cell.placeholder?.getD "")

/-- **One element.**  A cell that is shown is one element and a new line. -/
theorem cellElement_eq {cell : RenderCell} (h : cell.IsShown) (theme : ChartTheme) :
    cellElement theme cell = [cellBox theme cell, newline] := by
  cases cell with
  | resolved m =>
      change sectionElement m theme = _
      rw [sectionElement, if_neg (h m rfl)]
      rfl
  | _ => rfl

/-- The element of a cell has the shortcode of the cell. -/
theorem attribute?_cellBox (theme : ChartTheme) (cell : RenderCell) :
    (cellBox theme cell).attribute? "data-shortcode" = some cell.shortcode := by
  cases cell <;> rfl

theorem isElement_cellBox (theme : ChartTheme) (cell : RenderCell) :
    (cellBox theme cell).isElement = true := by
  cases cell <;> rfl

/-- The tag and the attributes of a cell are among the known ones. -/
theorem isTagged_cellBox (theme : ChartTheme) (cell : RenderCell) :
    (cellBox theme cell).IsTagged := by
  cases cell <;>
    exact ⟨by decide, by simp [IsNamed, attributeNames]⟩

/-- A cell is no row. -/
theorem row_notMem_cellBox (theme : ChartTheme) (cell : RenderCell) :
    "report-row" ∉ (cellBox theme cell).classes := by
  have hkind : ∀ kind, "report-row" ∉
      (Text.splitOn [' '] ("report-cell " ++ kindClass kind).toList).map String.ofList := by
    intro kind
    cases kind <;> decide
  cases cell with
  | resolved m => exact hkind m.kind
  | missing code =>
      change "report-row" ∉ (Text.splitOn [' ']
        ("report-cell report-placeholder report-" ++ "missing").toList).map String.ofList
      decide
  | unresolved code reason =>
      change "report-row" ∉ (Text.splitOn [' ']
        ("report-cell report-placeholder report-" ++ "unresolved").toList).map String.ofList
      decide

/-- Nothing inside the element of a cell is taken for another cell or a row. -/
theorem isInside_cellBox {theme : ChartTheme} {cell : RenderCell} {m : Markup}
    (hm : m ∈ elementsAll (cellBox theme cell).children) : IsInside m := by
  cases cell with
  | resolved s => exact isInside_sectionBody hm
  | _ => exact absurd hm List.not_mem_nil

/-- The elements of a cell that is shown: its own, and those inside it. -/
theorem elementsAll_cellElement {cell : RenderCell} (h : cell.IsShown) (theme : ChartTheme) :
    elementsAll (cellElement theme cell) =
      cellBox theme cell :: elementsAll (cellBox theme cell).children := by
  rw [cellElement_eq h]
  cases cell <;> simp [elementsAll, cellBox, RenderCell.content?, elements, children, textElement]

/-- The grid of a row. -/
def rowDiv (theme : ChartTheme) (row : RenderRow) : Markup :=
  .element "div" [("class", "report-row grid " ++ row.columns.cssClass)]
    (newline :: row.cells.flatMap (cellElement theme))

/-- The classes of a row end with the width of its grid. -/
theorem classes_rowDiv (theme : ChartTheme) (row : RenderRow) :
    (rowDiv theme row).classes =
      ["report-row", "grid", "grid-cols-" ++ toString row.columns.count] := by
  change (Text.splitOn [' '] ("report-row grid " ++ row.columns.cssClass).toList).map String.ofList
    = _
  cases row.columns <;> decide

/-- The elements right inside a row are those of its cells. -/
theorem childElements_rowDiv {row : RenderRow} (h : ∀ cell ∈ row.cells, cell.IsShown)
    (theme : ChartTheme) : (rowDiv theme row).childElements = row.cells.map (cellBox theme) := by
  change (newline :: row.cells.flatMap (cellElement theme)).filter isElement = _
  rw [List.filter_cons_of_neg (by decide), List.filter_flatMap, List.map_eq_flatMap]
  refine List.flatMap_congr fun cell hcell => ?_
  rw [cellElement_eq (h cell hcell), List.filter_cons_of_pos (isElement_cellBox theme cell)]
  rfl

/-- The elements of a row: its grid, and then those of its cells in order. -/
theorem elementsAll_rowElement {row : RenderRow} (h : ∀ cell ∈ row.cells, cell.IsShown)
    (theme : ChartTheme) :
    elementsAll (rowElement theme row) = rowDiv theme row :: row.cells.flatMap fun cell =>
      cellBox theme cell :: elementsAll (cellBox theme cell).children := by
  have hcells : elementsAll (row.cells.flatMap (cellElement theme)) = row.cells.flatMap fun cell =>
      cellBox theme cell :: elementsAll (cellBox theme cell).children := by
    rw [elementsAll_flatMap]
    exact List.flatMap_congr fun cell hcell => elementsAll_cellElement (h cell hcell) theme
  rw [← hcells]
  simp [rowElement, rowDiv, elementsAll, elements]

/-! ## Pages -/

/-- The elements of a page are those of its rows and a few before them. -/
theorem elementsAll_pageElement (config : Config) (plan : RenderPlan) :
    ∃ frame, (∀ m ∈ frame, IsInside m) ∧
      elementsAll (pageElement config plan) =
        frame ++ plan.rows.flatMap fun row => elementsAll (rowElement config.chart row) := by
  have hbare : ∀ {tag : String} (children : List Markup), tag ∈ elementTags →
      IsInside (.element tag [] children) := fun children htag =>
    ⟨⟨htag, List.forall_mem_nil _⟩, rfl, List.not_mem_nil⟩
  have hmeta : IsInside (.void "meta" [("charset", "utf-8")]) :=
    ⟨⟨by decide, by simp [IsNamed, attributeNames]⟩, rfl, List.not_mem_nil⟩
  have hmain : ∀ children, IsInside (.element "main" [("class", "report")] children) := by
    refine fun children => ⟨⟨by decide, by simp [IsNamed, attributeNames]⟩, rfl, ?_⟩
    change "report-row" ∉ (Text.splitOn [' '] "report".toList).map String.ofList
    decide
  obtain ⟨html, head, title, body, main, hall⟩ : ∃ html head title body main,
      elementsAll (pageElement config plan) =
        [.element "html" [] html, .element "head" [] head, .void "meta" [("charset", "utf-8")],
          .element "title" [] title, .element "body" [] body,
          .element "main" [("class", "report")] main] ++
        elementsAll (plan.rows.flatMap (rowElement config.chart)) := by
    simp only [pageElement, mainElement, elementsAll, elements, newline, textElement,
      List.nil_append, List.append_nil, List.cons_append]
    exact ⟨_, _, _, _, _, rfl⟩
  refine ⟨_, ?_, by rw [hall, elementsAll_flatMap]⟩
  simp only [List.forall_mem_cons]
  exact ⟨hbare _ (by decide), hbare _ (by decide), hmeta, hbare _ (by decide), hbare _ (by decide),
    hmain _, List.forall_mem_nil _⟩

/-- The elements of some parts that are grids of rows. -/
def rowDivs (parts : List Markup) : List Markup :=
  (elementsAll parts).filter fun m => m.tag? = some "div" ∧ "report-row" ∈ m.classes

/-- All tags and attributes of a page are known ones. -/
theorem isTagged_pageElement (config : Config) {plan : RenderPlan} (h : plan.IsShown) :
    ∀ m ∈ elementsAll (pageElement config plan), IsTagged m := by
  obtain ⟨frame, hframe, hall⟩ := elementsAll_pageElement config plan
  intro m hm
  rw [hall] at hm
  rcases List.mem_append.mp hm with hm | hm
  · exact (hframe m hm).tagged
  obtain ⟨row, hrow, hm⟩ := List.mem_flatMap.mp hm
  rw [elementsAll_rowElement (h row hrow)] at hm
  rcases List.mem_cons.mp hm with rfl | hm
  · exact ⟨by decide, by simp [IsNamed, attributeNames]⟩
  obtain ⟨cell, -, hm⟩ := List.mem_flatMap.mp hm
  rcases List.mem_cons.mp hm with rfl | hm
  · exact isTagged_cellBox _ cell
  · exact (isInside_cellBox hm).tagged

/-- The grids of a page are those of its rows. -/
theorem rowDivs_pageElement (config : Config) {plan : RenderPlan} (h : plan.IsShown) :
    rowDivs (pageElement config plan) = plan.rows.map (rowDiv config.chart) := by
  obtain ⟨frame, hframe, hall⟩ := elementsAll_pageElement config plan
  have hinside : ∀ parts : List Markup, (∀ m ∈ parts, "report-row" ∉ m.classes) →
      parts.filter (fun m => m.tag? = some "div" ∧ "report-row" ∈ m.classes) = [] := by
    intro parts hparts
    simp only [List.filter_eq_nil_iff, decide_eq_true_eq, not_and]
    exact fun m hm _ => hparts m hm
  rw [rowDivs, hall, List.filter_append, hinside frame fun m hm => (hframe m hm).row,
    List.nil_append, List.filter_flatMap, List.map_eq_flatMap]
  refine List.flatMap_congr fun row hrow => ?_
  have htag : (rowDiv config.chart row).tag? = some "div" := rfl
  rw [elementsAll_rowElement (h row hrow),
    List.filter_cons_of_pos (by simp [htag, classes_rowDiv]), hinside]
  intro m hm
  obtain ⟨cell, -, hm⟩ := List.mem_flatMap.mp hm
  rcases List.mem_cons.mp hm with rfl | hm
  · exact row_notMem_cellBox _ cell
  · exact (isInside_cellBox hm).row

/-- The shortcodes on a page are those of the cells. -/
theorem shortcodes_pageElement (config : Config) {plan : RenderPlan} (h : plan.IsShown) :
    (elementsAll (pageElement config plan)).filterMap (attribute? "data-shortcode") =
      plan.cells.map RenderCell.shortcode := by
  obtain ⟨frame, hframe, hall⟩ := elementsAll_pageElement config plan
  have hinside : ∀ parts : List Markup, (∀ m ∈ parts, IsInside m) →
      parts.filterMap (attribute? "data-shortcode") = [] := by
    intro parts hparts
    rw [List.filterMap_eq_nil_iff]
    exact fun m hm => (hparts m hm).shortcode
  rw [hall, List.filterMap_append, hinside frame hframe, List.nil_append, List.filterMap_flatMap,
    RenderPlan.cells, List.map_flatMap]
  refine List.flatMap_congr fun row hrow => ?_
  rw [elementsAll_rowElement (h row hrow), List.filterMap_cons_none (by rfl),
    List.filterMap_flatMap, List.map_eq_flatMap]
  refine List.flatMap_congr fun cell _ => ?_
  rw [List.filterMap_cons_some (attribute?_cellBox _ cell), hinside _ fun m => isInside_cellBox]

/-! ## What is read -/

/-- The parts that are read from a page. -/
def readParts (config : Config) (plan : RenderPlan) : List Markup :=
  .void "!DOCTYPE" [("html", "")] :: joinAll ['\n'] (pageElement config plan)

/-- **A page can be read**, and gives its tree with the texts joined. -/
theorem read?_html (config : Config) {plan : RenderPlan} (h : plan.IsShown) :
    read? (html plan config).toList = some (readParts config plan) := by
  have hdoctype : Reader.after doctype ⟨[], [], .text []⟩ =
      some ⟨[], [.void "!DOCTYPE" [("html", "")]], .text (escape ['\n'])⟩ := by
    rfl
  rw [html, String.toList_ofList, read?_append_writeAll hdoctype (isTagged_pageElement config h)]
  rfl

/-- The elements that are read from a page: its type, and then those that were written. -/
theorem elementsAll_readParts (config : Config) (plan : RenderPlan) :
    elementsAll (readParts config plan) =
      .void "!DOCTYPE" [("html", "")] :: (elementsAll (pageElement config plan)).map join := by
  rw [readParts, elementsAll, elementsAll_joinAll]
  rfl

/-- The grids that are read are those of the rows. -/
theorem rowDivs_readParts (config : Config) {plan : RenderPlan} (h : plan.IsShown) :
    rowDivs (readParts config plan) = plan.rows.map fun row => (rowDiv config.chart row).join := by
  have hjoin : ((fun m : Markup => decide (m.tag? = some "div" ∧ "report-row" ∈ m.classes)) ∘ join)
      = fun m => decide (m.tag? = some "div" ∧ "report-row" ∈ m.classes) := by
    funext m
    simp
  rw [rowDivs, elementsAll_readParts, List.filter_cons_of_neg (by decide), List.filter_map, hjoin,
    ← rowDivs, rowDivs_pageElement config h, List.map_map]
  rfl

/-- What is found in the parts of a page: the grids of the rows with their widths, right inside each
an element for each cell, and in all the tokens as shortcodes. -/
structure Shows (plan : RenderPlan) (tokens : List String) (parts : List Markup) : Prop where
  rows : (rowDivs parts).map classes =
    plan.rows.map fun row => ["report-row", "grid", "grid-cols-" ++ toString row.columns.count]
  cells : (rowDivs parts).map (fun div => div.childElements.map (attribute? "data-shortcode")) =
    plan.rows.map fun row => row.cells.map fun cell => some cell.shortcode
  shortcodes : (elementsAll parts).filterMap (attribute? "data-shortcode") = tokens

/-- What is read from a page shows its plan. -/
theorem shows_readParts (config : Config) {plan : RenderPlan} (h : plan.IsShown) :
    Shows plan (plan.cells.map RenderCell.shortcode) (readParts config plan) where
  rows := by
    rw [rowDivs_readParts config h, List.map_map]
    refine List.map_congr_left fun row _ => ?_
    rw [Function.comp_apply, classes_join, classes_rowDiv]
  cells := by
    rw [rowDivs_readParts config h, List.map_map]
    refine List.map_congr_left fun row hrow => ?_
    rw [Function.comp_apply, childElements_join, childElements_rowDiv (h row hrow), List.map_map,
      List.map_map]
    refine List.map_congr_left fun cell _ => ?_
    rw [Function.comp_apply, Function.comp_apply, attribute?_join, attribute?_cellBox]
  shortcodes := by
    rw [elementsAll_readParts, List.filterMap_cons_none (by rfl), List.filterMap_map,
      ← shortcodes_pageElement config h]
    refine List.filterMap_congr fun m _ => ?_
    rw [Function.comp_apply, attribute?_join]

/-- The stretches of a page. -/
def stretches (config : Config) (plan : RenderPlan) : List Stretch :=
  .own doctype :: stretchesAll (pageElement config plan)

/-- What is said of a page of a plan whose tokens are given.

Its marks are in stretches of its own, it can be read by its tags, and what is found there shows the
plan.  The shortcodes are compared as the values of attributes, which are read back from how they
are written. -/
structure Mirrors (config : Config) (plan : RenderPlan) (tokens : List String) : Prop where
  written : (stretches config plan).flatMap Stretch.write = (html plan config).toList
  own : ∀ s, .own s ∈ stretches config plan → s ∈ doctype :: ownTexts
  inserted : ∀ s, .inserted s ∈ stretches config plan →
    ∀ c ∈ (Stretch.inserted s).write, isMark c = false
  read : ∃ parts, read? (html plan config).toList = some parts ∧ Shows plan tokens parts
  cells : ∀ cell ∈ plan.cells, writeAll (cellElement config.chart cell) ≠ []

/-- No cell that is shown is left out of the text. -/
theorem writeAll_cellElement_ne_nil {cell : RenderCell} (h : cell.IsShown) (theme : ChartTheme) :
    writeAll (cellElement theme cell) ≠ [] := by
  rw [cellElement_eq h]
  cases cell <;> simp [cellBox, RenderCell.content?, textElement, writeAll, write, openTag]

/-- A plan whose cells can all be shown is mirrored. -/
theorem mirrors_of_isShown (config : Config) {plan : RenderPlan} (h : plan.IsShown) :
    Mirrors config plan (plan.cells.map RenderCell.shortcode) where
  written := by
    rw [stretches, List.flatMap_cons, flatMap_write_stretchesAll, html, String.toList_ofList]
    rfl
  own := by
    intro s hs
    rcases List.mem_cons.mp hs with hs | hs
    · cases hs
      exact List.mem_cons_self
    · exact List.mem_cons_of_mem _ (own_mem_stretchesAll _ (isTagged_pageElement config h) hs)
  inserted := fun _ _ _ => isMark_of_mem_escape
  read := ⟨readParts config plan, read?_html config h, shows_readParts config h⟩
  cells := by
    intro cell hcell
    obtain ⟨row, hrow, hcell⟩ := List.mem_flatMap.mp hcell
    exact writeAll_cellElement_ne_nil (h row hrow cell hcell) _

end Page

/-- **The page of a report mirrors its plan**, whatever the template, the payload and the
configuration say. -/
theorem RenderPlan.html_mirrors (template payload : String) (config : Config) :
    Page.Mirrors config (ofTexts template payload)
      ((Layout.parse template).flatMap LayoutRow.tokens) := by
  have hmirrors := Page.mirrors_of_isShown config
    (isShown_compile (Layout.parse template) (Payload.ofText payload))
  rwa [shortcodes_compile] at hmirrors

end ReportGrid
