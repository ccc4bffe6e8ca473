import ReportGrid.Plan.Dump
import ReportGrid.Proofs.PageMirror
import ReportGrid.Proofs.ReadDocuments
import ReportGrid.Proofs.WrittenParts

/-!
# Pages and dumps of one plan agree

The page of a plan and its dump are written apart, and each holds the charts and the placeholders of
the plan in its own way: the page as the value of an attribute and as text, the dump as the texts of
two fields.  `RenderPlan.html_agrees_dump` compares the two texts cell by cell.  The page is read by
its tags and the dump is cut at its brackets and commas, so that the chart of the dump is compared
as it is written.
-/

namespace ReportGrid

open Markup

/-- The text of the entry of a cell in the text of a dump, by its row and its place in it. -/
def RenderPlan.entryText? (dump : List Char) (i j : Nat) : Option (List Char) := do
  let rows ← Json.fieldText? "rows" dump
  let row ← (Json.itemTexts rows)[i]?
  let cells ← Json.fieldText? "cells" row
  (Json.itemTexts cells)[j]?

/-- The element of a cell among the parts of a page, by its row and its place in it. -/
def Page.box? (parts : List Markup) (i j : Nat) : Option Markup := do
  let div ← (rowDivs parts)[i]?
  div.childElements[j]?

/-- What the element of a cell on a page and the text of its entry in a dump have in common.

A graph has one chart on the page, which is the one of the dump without the blanks outside strings.
A cell that is not resolved shows the text that its placeholder in the dump is read as. -/
structure RenderCell.Agrees (cell : RenderCell) (box : Markup) (entry : List Char) : Prop where
  chart : ∀ m data kind, cell = .resolved m → m.body = .graph data kind →
    ∃ text, Json.fieldText? "chart" entry = some text ∧ Json.squeeze text ≠ [] ∧
      box.elements.filterMap (attribute? "data-chart") = [String.ofList (Json.squeeze text)]
  placeholder : (∀ m, cell ≠ .resolved m) →
    ∃ text shown, Json.fieldText? "placeholder" entry = some text ∧
      Document.read .strict text = ⟨.text (some shown), false⟩ ∧ box.content = shown.toList

/-- What is said of a plan: its page can be read, and every cell of it has an element there and an
entry in the dump that agree. -/
def RenderPlan.Agrees (plan : RenderPlan) (config : Config) : Prop :=
  ∃ parts, read? (Page.html plan config).toList = some parts ∧
    ∀ i row, plan.rows[i]? = some row → ∀ j cell, row.cells[j]? = some cell →
      ∃ box entry, Page.box? parts i j = some box ∧
        entryText? (plan.dump config.chart).toList i j = some entry ∧ cell.Agrees box entry

/-- **The entry of a cell** stands in the dump as it is written there. -/
theorem RenderPlan.entryText?_dump {plan : RenderPlan} (theme : ChartTheme) {i j : Nat}
    {row : RenderRow} {cell : RenderCell} (hrow : plan.rows[i]? = some row)
    (hcell : row.cells[j]? = some cell) :
    entryText? (plan.dump theme).toList i j = some ((cell.json theme).write (some 4)) := by
  have hrows : Json.fieldText? "rows" (plan.dump theme).toList =
      some ((Json.array (plan.rows.map (RenderRow.json theme))).write (some 1)) := by
    rw [dump, Json.pretty, String.toList_ofList, RenderPlan.json, Json.fieldText?_write]
    rfl
  have hcells : Json.fieldText? "cells" ((row.json theme).write (some 2)) =
      some ((Json.array (row.cells.map (RenderCell.json theme))).write (some 3)) := by
    rw [RenderRow.json, Json.fieldText?_write]
    rfl
  simp [entryText?, hrows, Json.itemTexts_write_array, hrow, hcells, hcell]

/-- The chart of a section stands in the entry of its cell as it is written there. -/
theorem RenderCell.fieldText?_chart {m : Section} {theme : ChartTheme} {spec : ChartSpec}
    (h : ChartSpec.ofSection? m theme = some spec) :
    Json.fieldText? "chart" (((RenderCell.resolved m).json theme).write (some 4)) =
      some (spec.json.write (some 5)) := by
  rw [RenderCell.json, Json.fieldText?_write]
  simp [Json.lookup, Json.fieldIfSome, RenderCell.reason?, RenderCell.placeholder?,
    RenderCell.content?, RenderCell.chart?, h]

/-- The element of a cell stands on the page. -/
theorem Page.box?_readParts {plan : RenderPlan} (config : Config) (h : plan.IsShown) {i j : Nat}
    {row : RenderRow} {cell : RenderCell} (hrow : plan.rows[i]? = some row)
    (hcell : row.cells[j]? = some cell) :
    box? (readParts config plan) i j = some (cellBox config.chart cell).join := by
  have hshown := h row (List.mem_of_getElem? hrow)
  simp [box?, rowDivs_readParts config h, hrow, childElements_join, childElements_rowDiv hshown,
    hcell]

namespace Page

/-- Joined texts leave the charts in an element as they are. -/
theorem charts_join (box : Markup) :
    box.join.elements.filterMap (attribute? "data-chart") =
      box.elements.filterMap (attribute? "data-chart") := by
  have hjoin : attribute? "data-chart" ∘ join = attribute? "data-chart" :=
    funext (attribute?_join _)
  rw [elements_join, List.filterMap_map, hjoin]

/-- A graph has one chart. -/
theorem charts_cellBox {m : Section} {data : GraphData} {kind : ChartKind}
    (h : m.body = .graph data kind) (theme : ChartTheme) :
    (cellBox theme (.resolved m)).elements.filterMap (attribute? "data-chart") =
      [(ChartSpec.build data kind m.title theme).json.compact] := by
  have hheading : (elementsAll (heading m.title)).filterMap (attribute? "data-chart") = [] := by
    rw [List.filterMap_eq_nil_iff]
    intro part hpart
    rw [attribute?, (areBare_heading m.title part hpart).2, List.lookup_nil]
  have hbody : sectionBody m theme = chartBody kind (.build data kind m.title theme) := by
    rw [sectionBody, h]
  change List.filterMap _ (_ :: elementsAll (newline :: heading m.title ++ sectionBody m theme)) = _
  rw [List.filterMap_cons_none (by rfl), hbody, List.cons_append, elementsAll, elements_newline,
    List.nil_append, elementsAll_append, List.filterMap_append, hheading]
  rfl

/-- **One cell.**  Its element and its entry agree. -/
theorem agrees_cellBox (theme : ChartTheme) (cell : RenderCell) :
    cell.Agrees (cellBox theme cell).join ((cell.json theme).write (some 4)) where
  chart := by
    rintro m data kind rfl hbody
    have hspec : ChartSpec.ofSection? m theme = some (.build data kind m.title theme) := by
      rw [ChartSpec.ofSection?, hbody]
    refine ⟨_, RenderCell.fieldText?_chart hspec, ?_, ?_⟩
    · rw [Json.squeeze_write]
      exact (Json.isTight_write _ none).ne_nil
    · rw [Json.squeeze_write, charts_join, charts_cellBox hbody]
      rfl
  placeholder := by
    intro hcell
    have hshown : ∃ shown, cell.placeholder? = some shown ∧ cell.content? = none := by
      cases cell with
      | resolved m => exact absurd rfl (hcell m)
      | _ => exact ⟨_, rfl, rfl⟩
    obtain ⟨shown, hplaceholder, hcontent⟩ := hshown
    refine ⟨(Json.string shown).write (some 5), shown, ?_, ?_, ?_⟩
    · rw [RenderCell.json, Json.fieldText?_write]
      cases hreason : cell.reason? <;>
        simp [Json.lookup, Json.fieldIfSome, hplaceholder]
    · exact Document.read_write (.string shown) (some 5)
    · rw [content_join, cellBox, hcontent, hplaceholder]
      simp [textElement, content, contentAll]

end Page

/-- **The page and the dump of a report agree** on every chart and every placeholder, whatever the
template, the payload and the configuration say. -/
theorem RenderPlan.html_agrees_dump (template payload : String) (config : Config) :
    (ofTexts template payload).Agrees config := by
  have hshown := isShown_compile (Layout.parse template) (Payload.ofText payload)
  refine ⟨_, Page.read?_html config hshown, ?_⟩
  intro i row hrow j cell hcell
  exact ⟨_, _, Page.box?_readParts config hshown hrow hcell,
    entryText?_dump config.chart hrow hcell, Page.agrees_cellBox config.chart cell⟩

end ReportGrid
