import ReportGrid.Proofs.SectionReread
import ReportGrid.Proofs.WrittenPayloads

/-!
# The two shapes of a payload

An older payload keeps its records in three arrays and takes the kind of a record from its array.
`Payload.inCurrentShape` writes such a payload in the current shape: one array, in which every
record names its kind.

Both shapes have the same sections in the same order (`Payload.sections?_inCurrentShape`).  The
records are compared one by one: a record that names a kind is read as the record in the array of
that kind (`Record.section?_tagged`), whatever kind it named before and whatever its fields hold.
The rest is that the records stand in the same order in both shapes.
-/

namespace ReportGrid

namespace Record

/-- A record with the name of a kind.  The name takes the place of any other; a record that is no
object stays as it is. -/
def tagged (kind : String) : Json → Json
  | .object fields => .object (Json.setField "section_type" (.string kind) fields)
  | record => record

/-- The kind of a record is not among what a body of another kind is read from. -/
theorem section_type_not_mem {kind : SectionKind} (h : kind ≠ .unknown) :
    "section_type" ∉ ["id", "shortcode", "title"] ++ bodyFields kind := by
  cases kind with
  | unknown => exact absurd rfl h
  | _ => decide

/-- **One record.**  A record that names a kind is read as the record in the array of that kind. -/
theorem section?_tagged {kind : SectionKind} (hkind : kind ≠ .unknown) (record : Json) :
    Record.section? none (tagged kind.name record) = section? (some kind) record := by
  cases record with
  | object fields =>
      have hread := Json.lookup_setField "section_type"
      have hnamed : Record.kind (Json.setField "section_type" (.string kind.name) fields) = kind :=
        kind_eq_of_lookup (by simp [hread])
      have hsame : Record.section? (some kind)
            (.object (Json.setField "section_type" (.string kind.name) fields)) =
          Record.section? (some kind) (.object fields) := by
        apply section?_some_congr
        intro name hname
        rw [hread, if_neg (ne_of_mem_of_not_mem hname (section_type_not_mem hkind))]
      rw [← hsame]
      simp only [tagged, section?, hnamed, Option.getD_none, Option.getD_some]
  | _ => rfl

end Record

namespace Payload

/-- The records of a field that holds an array; none otherwise. -/
def arrayAt (name : String) (fields : List (String × Json)) : List Json :=
  match Json.lookup name fields with
  | some (.array records) => records
  | _ => []

/-- An older payload in the current shape: the records of its three arrays one after the other, each
with the name of the kind of its array. -/
def inCurrentShape (fields : List (String × Json)) : Json :=
  .object [("sections", .array (
    (arrayAt "text_sections" fields).map (Record.tagged "text") ++
    (arrayAt "graph_sections" fields).map (Record.tagged "graph") ++
    (arrayAt "table_sections" fields).map (Record.tagged "table")))]

theorem groupRecords_eq_map (fields : List (String × Json)) (name : String) (kind : SectionKind) :
    groupRecords fields name kind =
      (arrayAt name fields).map fun record => (some kind, record) := by
  unfold groupRecords arrayAt
  cases Json.lookup name fields with
  | none => rfl
  | some value => cases value <;> rfl

/-- The sections of an array of an older payload are those of its records with the name of the
kind. -/
theorem filterMap_groupRecords {kind : SectionKind} (hkind : kind ≠ .unknown)
    (fields : List (String × Json)) (name : String) :
    (groupRecords fields name kind).filterMap Entry.section? =
      ((arrayAt name fields).map (Record.tagged kind.name)).filterMap (Record.section? none) := by
  rw [groupRecords_eq_map, List.filterMap_map, List.filterMap_map]
  congr 1
  funext record
  exact (Record.section?_tagged hkind record).symm

/-- **The two shapes agree.**  A payload without an array `sections` has the same sections as the
payload that it becomes in the current shape, and every template compiles to the same plan with a
text of either. -/
theorem sections?_inCurrentShape (fields : List (String × Json))
    (h : ∀ records, Json.lookup "sections" fields ≠ some (.array records)) :
    ∃ s, sections? (.object fields) = .ok s ∧ sections? (inCurrentShape fields) = .ok s ∧
      ∀ older newer : String, document? older.toList = some (.object fields) →
        document? newer.toList = some (inCurrentShape fields) →
        ∀ template, RenderPlan.ofTexts template newer = RenderPlan.ofTexts template older := by
  have hrecords : recordList fields = groupRecords fields "text_sections" .text ++
      groupRecords fields "graph_sections" .graph ++
      groupRecords fields "table_sections" .table := by
    unfold recordList
    split
    · rename_i records hsections
      exact (h records hsections).elim
    · rfl
  have holder : sections? (.object fields) =
      .ok (.ofList ((recordList fields).filterMap Entry.section?)) := by
    rw [sections?, records_eq_recordList]
    rfl
  have hnewer : sections? (inCurrentShape fields) =
      .ok (.ofList ((recordList fields).filterMap Entry.section?)) := by
    rw [inCurrentShape, sections?_records, hrecords]
    simp only [List.filterMap_append]
    rw [filterMap_groupRecords (by decide), filterMap_groupRecords (by decide),
      filterMap_groupRecords (by decide)]
    rfl
  refine ⟨_, holder, hnewer, ?_⟩
  intro older newer hdocument hdocument' template
  rw [RenderPlan.ofTexts, RenderPlan.ofTexts, ofText_eq_of_document? hdocument holder,
    ofText_eq_of_document? hdocument' hnewer]

/-- An older payload with one shortcode in two arrays, and a graph that calls itself a text. -/
def misnamed : List (String × Json) :=
  [("graph_sections", .array [.object [("section_type", .string "text"),
      ("shortcode", .string "g")]]),
    ("text_sections", .array [.null, .object [("shortcode", .string " g ")]])]

/-- Its text. -/
def misnamedText : String :=
  "\x7b\"graph_sections\":[\x7b\"section_type\":\"text\",\"shortcode\":\"g\"\x7d]," ++
    "\"text_sections\":[null,\x7b\"shortcode\":\" g \"\x7d]\x7d"

/-- Its text in the current shape. -/
def renamedText : String :=
  "\x7b\"sections\":[null,\x7b\"section_type\":\"text\",\"shortcode\":\" g \"\x7d," ++
    "\x7b\"section_type\":\"graph\",\"shortcode\":\"g\"\x7d]\x7d"

/-- Such a payload has no array `sections`, both texts are texts of it, and they compile alike. -/
theorem sections?_inCurrentShape_misnamed :
    (∀ records, Json.lookup "sections" misnamed ≠ some (.array records)) ∧
      document? misnamedText.toList = some (.object misnamed) ∧
      document? renamedText.toList = some (inCurrentShape misnamed) ∧
      (∃ s, sections? (.object misnamed) = .ok s ∧ sections? (inCurrentShape misnamed) = .ok s) ∧
      ∀ template, RenderPlan.ofTexts template renamedText =
        RenderPlan.ofTexts template misnamedText := by
  have habsent : ∀ records, Json.lookup "sections" misnamed ≠ some (.array records) := by
    intro records hsections
    simp [Json.lookup, misnamed] at hsections
  have holder : document? misnamedText.toList = some (.object misnamed) :=
    document?_compact (v := .object misnamed) rfl
  have hnewer : document? renamedText.toList = some (inCurrentShape misnamed) :=
    document?_compact (v := inCurrentShape misnamed) rfl
  obtain ⟨s, hs, hs', hplans⟩ := sections?_inCurrentShape misnamed habsent
  exact ⟨habsent, holder, hnewer, ⟨s, hs, hs'⟩, hplans _ _ holder hnewer⟩

end Payload

end ReportGrid
