import ReportGrid.Proofs.FirstAccepted
import ReportGrid.Proofs.PlanMirror
import ReportGrid.Proofs.TextCutting

/-!
# Sections that are written and read again

The sections of a payload can be written as the records of a payload.  Reading those gives the same
sections again, except that a section of an unknown kind loses its tag: it is written under the kind
`unknown`, and this is the tag that is read (`Section.reread`).

Not every section would come back.  Reading trims a shortcode, and a point of a graph that is a bare
number would come back as a number.  `Section.Readable` says that a section is none of these; the
sections that reading gives are readable (`Record.section?_readable`), and readable sections come
back (`Record.section?_written`).

A record need not list its fields in the order in which they are written.  A document keeps the
fields of an object sorted by name, and no lookup tells the two orders apart (`Json.lookup_perm`).
-/

namespace ReportGrid

/-! ## Fields of an object -/

namespace Json

/-- A field that is set is found under its name, and all other names are found as before. -/
theorem lookup_setField (name other : String) (value : Json)
    (fields : List (String × Json)) :
    lookup other (setField name value fields) =
      if other = name then some value else lookup other fields := by
  induction fields with
  | nil =>
      by_cases hname : other = name
      · simp [setField, lookup, hname]
      · simp [setField, lookup, hname, Ne.symm hname]
  | cons field rest ih =>
      obtain ⟨k, v⟩ := field
      rw [setField]
      split
      · by_cases hname : other = name
        · simp [lookup, hname]
        · simp [lookup, hname, Ne.symm hname]
      · split
        · rename_i hk
          subst hk
          by_cases hname : other = name
          · simp [lookup, hname]
          · simp [lookup, hname, Ne.symm hname]
        · rename_i hk
          unfold lookup at ih ⊢
          by_cases hother : k = other
          · subst hother
            simp [Ne.symm hk]
          · simpa [hother] using ih

/-- A field with a new name is put somewhere between the others. -/
theorem setField_perm {name : String} {fields : List (String × Json)} (value : Json)
    (h : name ∉ fields.map Prod.fst) :
    (setField name value fields).Perm ((name, value) :: fields) := by
  induction fields with
  | nil => exact List.Perm.refl _
  | cons field rest ih =>
      obtain ⟨k, v⟩ := field
      rw [List.map_cons, List.mem_cons, not_or] at h
      obtain ⟨hne, hrest⟩ := h
      rw [setField]
      split
      · exact List.Perm.refl _
      · exact ((ih hrest).cons (k, v)).trans (List.Perm.swap _ _ rest)

/-- Where no name is used twice, sorting the fields only puts them in another order. -/
theorem sorted_perm {fields : List (String × Json)} (h : (fields.map Prod.fst).Nodup) :
    (sorted fields).Perm fields := by
  induction fields using List.reverseRecOn with
  | nil => exact List.Perm.refl _
  | append_singleton fields field ih =>
      have hstep : sorted (fields ++ [field]) = setField field.1 field.2 (sorted fields) := by
        rw [sorted, List.foldl_append]
        rfl
      rw [List.map_append, List.map_singleton, List.nodup_append] at h
      obtain ⟨hnodup, -, hdisjoint⟩ := h
      have hperm := ih hnodup
      have hnew : field.1 ∉ (sorted fields).map Prod.fst := by
        intro hmem
        exact hdisjoint _ ((hperm.map Prod.fst).subset hmem) _ (List.mem_singleton_self _) rfl
      rw [hstep]
      calc
        List.Perm (setField field.1 field.2 (sorted fields)) (field :: sorted fields) :=
          setField_perm field.2 hnew
        List.Perm _ (field :: fields) := hperm.cons field
        List.Perm _ (fields ++ [field]) := (List.perm_append_singleton field fields).symm

/-- Where no name is used twice, a lookup does not depend on the order of the fields. -/
theorem lookup_perm {fields others : List (String × Json)} (h : fields.Perm others)
    (hnodup : (others.map Prod.fst).Nodup) (name : String) :
    lookup name fields = lookup name others := by
  unfold lookup
  congr 1
  apply List.find?_eq_find?_of_perm h
  rintro first ⟨hfirst, hname⟩ second ⟨hsecond, hname'⟩
  have hsame : first.1 = second.1 := by
    rw [beq_iff_eq] at hname hname'
    exact hname.trans hname'.symm
  exact List.inj_on_of_nodup_map hnodup (h.subset hfirst) (h.subset hsecond) hsame

theorem itemsAt_congr {name : String} {fields others : List (String × Json)}
    (h : lookup name fields = lookup name others) :
    (Json.object fields).itemsAt name = (Json.object others).itemsAt name := by
  rw [itemsAt, field?, h, itemsAt, field?]

end Json

/-! ## Written sections -/

namespace Section

/-- No field of a section is written twice. -/
theorem nodup_fields (m : Section) : (m.fields.map Prod.fst).Nodup := by
  unfold fields SectionBody.fields
  cases m.body <;> simp

/-- A record that writes a section: an object with the fields of the section, in any order. -/
def IsWrittenAs (m : Section) (record : Json) : Prop :=
  ∃ fields, record = .object fields ∧ fields.Perm m.fields

/-- The printer writes a section so. -/
theorem isWrittenAs_json (m : Section) : m.IsWrittenAs m.json :=
  ⟨m.fields, rfl, List.Perm.refl _⟩

/-- A section as it comes back when it is written and read again. -/
def reread (m : Section) : Section :=
  match m.body with
  | .unknown _ => { m with body := .unknown SectionKind.unknown.name }
  | _ => m

@[simp] theorem shortcode_reread (m : Section) : m.reread.shortcode = m.shortcode := by
  unfold reread
  split <;> rfl

@[simp] theorem kind_reread (m : Section) : m.reread.kind = m.kind := by
  unfold reread kind
  cases hbody : m.body <;> simp [hbody, SectionBody.kind]

/-- A section that is not of an unknown kind comes back as it is. -/
theorem reread_of_kind_ne {m : Section} (h : m.kind ≠ .unknown) : m.reread = m := by
  unfold kind at h
  unfold reread
  cases hbody : m.body with
  | unknown tag => exact (h (by rw [hbody]; rfl)).elim
  | _ => rfl

/-- Whether reading what is written of a section gives the section back, unless its kind is unknown.
The shortcode is one that reading leaves as it is, and no point of a graph is a bare number. -/
structure Readable (m : Section) : Prop where
  shortcode_ne : m.shortcode ≠ ""
  shortcode_trimmed : Text.trim m.shortcode.toList = m.shortcode.toList
  no_number_point : ∀ data kind, m.body = .graph data kind →
    ∀ n : Number, .point (.number n) ∉ data.values

end Section

/-! ## Parts of a section -/

/-- A value of a graph that is not a bare number under the name of a point comes back. -/
theorem DataValue.ofJson_json {value : DataValue} (h : ∀ n : Number, value ≠ .point (.number n)) :
    ofJson value.json = value := by
  cases value with
  | number n => rfl
  | point point =>
      cases point with
      | number n => exact (h n rfl).elim
      | _ => rfl

/-- Reading calls every bare number a number. -/
theorem DataValue.ofJson_ne_number_point (value : Json) (n : Number) :
    ofJson value ≠ .point (.number n) := by
  cases value <;> simp [ofJson]

/-- Every cell comes back. -/
theorem CellValue.ofJson_json (cell : CellValue) : ofJson cell.json = cell := by
  cases cell <;> rfl

/-- The kind of a chart comes back from its tag. -/
theorem ChartKind.ofTag_tag (kind : ChartKind) : ofTag kind.tag = kind := by
  cases kind <;> decide

/-- Texts come back. -/
theorem Json.map_plainText_strings (texts : List String) :
    (texts.map Json.string).map Json.plainText = texts := by
  have htext : Function.LeftInverse Json.plainText Json.string := fun _ => rfl
  exact htext.list_map texts

/-- The labels and values of a graph come back. -/
theorem GraphData.ofJson_json {data : GraphData}
    (h : ∀ n : Number, .point (.number n) ∉ data.values) : ofJson data.json = data := by
  have hvalues : (data.values.map DataValue.json).map DataValue.ofJson = data.values := by
    rw [List.map_map]
    refine (List.map_congr_left ?_).trans (List.map_id data.values)
    intro value hvalue
    exact DataValue.ofJson_json fun n heq => h n (heq ▸ hvalue)
  change GraphData.mk ((data.labels.map Json.string).map Json.plainText)
    ((data.values.map DataValue.json).map DataValue.ofJson) = data
  rw [Json.map_plainText_strings, hvalues]

namespace Record

section Congr

variable {fields others : List (String × Json)}

theorem textAt_congr {name : String} (h : Json.lookup name fields = Json.lookup name others) :
    textAt name fields = textAt name others := by
  rw [textAt, h, textAt]

theorem shortcode_congr (h : Json.lookup "shortcode" fields = Json.lookup "shortcode" others) :
    shortcode fields = shortcode others := by
  rw [shortcode, textAt_congr h, shortcode]

theorem chartKind_congr
    (h : ∀ name ∈ chartKindFields, Json.lookup name fields = Json.lookup name others) :
    chartKind fields = chartKind others := by
  simp only [chartKindFields, List.forall_mem_cons] at h
  obtain ⟨hfirst, hsecond, hthird, -⟩ := h
  simp only [chartKind, chartKindFields, List.findSome?_cons, hfirst, hsecond, hthird,
    List.findSome?_nil]

/-- The fields that a body of a kind is read from. -/
def bodyFields : SectionKind → List String
  | .text => ["content"]
  | .graph => "data" :: chartKindFields
  | .table => ["headers", "rows"]
  | .unknown => ["section_type"]

/-- A body is read from the fields of its kind and from no others. -/
theorem bodyOfKind_congr {kind : SectionKind}
    (h : ∀ name ∈ bodyFields kind, Json.lookup name fields = Json.lookup name others) :
    bodyOfKind kind fields = bodyOfKind kind others := by
  cases kind with
  | text => exact congrArg SectionBody.text (textAt_congr (h "content" (by decide)))
  | graph =>
      obtain ⟨hdata, hkind⟩ := List.forall_mem_cons.mp h
      rw [bodyOfKind, graphBody, hdata, chartKind_congr hkind, bodyOfKind, graphBody]
  | table =>
      simp only [bodyOfKind, tableBody, Json.itemsAt_congr (h "headers" (by decide)),
        Json.itemsAt_congr (h "rows" (by decide))]
  | unknown => exact congrArg SectionBody.unknown (textAt_congr (h "section_type" (by decide)))

/-- A record whose kind is known is read from the fields of that kind and from three others. -/
theorem section?_some_congr {kind : SectionKind}
    (h : ∀ name ∈ ["id", "shortcode", "title"] ++ bodyFields kind,
      Json.lookup name fields = Json.lookup name others) :
    Record.section? (some kind) (.object fields) = section? (some kind) (.object others) := by
  obtain ⟨hfixed, hbody⟩ := List.forall_mem_append.mp h
  have hcode := shortcode_congr (hfixed "shortcode" (by decide))
  have hid : id fields = id others := by
    rw [id, hfixed "id" (by decide), hcode, id]
  simp only [section?, hcode, hid, textAt_congr (hfixed "title" (by decide)), Option.getD_some,
    bodyOfKind_congr hbody]

/-- The kind that a record names takes the place of the one that an array may give it. -/
theorem section?_eq_some (group : Option SectionKind) (fields : List (String × Json)) :
    Record.section? group (.object fields) =
      Record.section? (some (group.getD (kind fields))) (.object fields) := rfl

/-- A record is read by looking fields up and in no other way. -/
theorem section?_congr (group : Option SectionKind)
    (h : ∀ name, Json.lookup name fields = Json.lookup name others) :
    Record.section? group (.object fields) = section? group (.object others) := by
  have hkind : kind fields = kind others := by
    rw [kind, h, kind]
  rw [section?_eq_some, section?_eq_some, hkind]
  exact section?_some_congr fun name _ => h name

end Congr

/-- Every section that reading gives is readable. -/
theorem section?_readable {group : Option SectionKind} {record : Json} {m : Section}
    (h : section? group record = some m) : m.Readable := by
  cases record with
  | object fields =>
      rw [section?] at h
      split at h
      · simp at h
      · rename_i hcode
        obtain rfl := Option.some.inj h
        refine ⟨hcode, ?_, ?_⟩
        · simp only [shortcode, String.toList_ofList]
          exact Text.trim_trim _
        · intro data kind hbody n hmem
          cases hk : group.getD (Record.kind fields) with
          | graph =>
              simp only [hk, bodyOfKind, graphBody] at hbody
              cases hbody
              obtain ⟨value, -, hvalue⟩ := List.mem_map.mp hmem
              exact DataValue.ofJson_ne_number_point value n hvalue
          | _ => simp [hk, bodyOfKind, textBody, tableBody] at hbody
  | _ => simp [section?] at h

/-- A kind is read from its own name. -/
theorem kind_eq_of_lookup {fields : List (String × Json)} {k : SectionKind}
    (h : Json.lookup "section_type" fields = some (.string k.name)) : kind fields = k := by
  have hname : String.ofList (Text.lower (Text.trim k.name.toList)) = k.name := by
    cases k <;> decide
  rw [kind, h]
  simp only [Json.plainText, hname]
  cases k <;> rfl

/-- The rows of a table come back. -/
theorem map_rowCells_json (rows : List (List CellValue)) :
    (rows.map fun cells => Json.array (cells.map CellValue.json)).map rowCells = rows := by
  have hcell : Function.LeftInverse CellValue.ofJson CellValue.json := CellValue.ofJson_json
  have hrow : Function.LeftInverse rowCells fun cells => .array (cells.map CellValue.json) :=
    hcell.list_map
  exact hrow.list_map rows

/-- The body of a readable section comes back, but for the tag of an unknown kind. -/
theorem bodyOfKind_fields {m : Section} (h : m.Readable) :
    bodyOfKind m.kind m.fields = m.reread.body := by
  obtain ⟨id, code, title, body⟩ := m
  cases body with
  | text content => rfl
  | graph data kind =>
      have hdata : GraphData.ofJson data.json = data :=
        GraphData.ofJson_json (h.no_number_point data kind rfl)
      change SectionBody.graph (.ofJson data.json) (ChartKind.ofTag kind.tag) = .graph data kind
      rw [hdata, ChartKind.ofTag_tag]
  | table headers rows =>
      change SectionBody.table ((headers.map Json.string).map Json.plainText)
        ((rows.map fun cells => Json.array (cells.map CellValue.json)).map rowCells) =
          .table headers rows
      rw [Json.map_plainText_strings, map_rowCells_json]
  | unknown tag => rfl

/-- **One section.**  A record that writes a readable section is read as that section, but for the
tag of an unknown kind. -/
theorem section?_written {m : Section} {record : Json} (h : m.Readable)
    (hrecord : m.IsWrittenAs record) : section? none record = some m.reread := by
  obtain ⟨fields, rfl, hperm⟩ := hrecord
  have hcode : shortcode m.fields = m.shortcode := by
    change String.ofList (Text.trim m.shortcode.toList) = m.shortcode
    rw [h.shortcode_trimmed, String.ofList_toList]
  have hkind : kind m.fields = m.kind := kind_eq_of_lookup rfl
  rw [section?_congr none (Json.lookup_perm hperm m.nodup_fields), section?,
    if_neg (hcode ▸ h.shortcode_ne), hcode, Option.getD_none, hkind, bodyOfKind_fields h]
  obtain ⟨id, code, title, body⟩ := m
  cases body <;> rfl

end Record

/-! ## Collections -/

/-- Records that write readable sections are read as those sections. -/
theorem Record.filterMap_section?_written {members : List Section} {records : List Json}
    (hreadable : ∀ m ∈ members, m.Readable)
    (hwritten : List.Forall₂ Section.IsWrittenAs members records) :
    records.filterMap (Record.section? none) = members.map Section.reread := by
  induction hwritten with
  | nil => rfl
  | @cons m record members records hfirst hmore ih =>
      have hrest : ∀ n ∈ members, n.Readable := fun n hn => hreadable n (List.mem_cons_of_mem _ hn)
      rw [List.filterMap_cons, Record.section?_written (hreadable m List.mem_cons_self) hfirst,
        ih hrest, List.map_cons]

/-- What comes back for a token is what was there, since a cell does not show the tag of an unknown
kind. -/
theorem RenderCell.resolve_reread {s t : Sections} (h : t.toList = s.toList.map Section.reread)
    (token : String) : resolve t token = resolve s token := by
  have hget : t.get? token = (s.get? token).map Section.reread := by
    rw [Sections.get?_eq_find?, Sections.get?_eq_find?, h, List.find?_map]
    simp
  unfold resolve
  rw [hget]
  cases s.get? token with
  | none => rfl
  | some m =>
      by_cases hkind : m.kind = .unknown
      · simp [hkind]
      · rw [Option.map_some, Section.reread_of_kind_ne hkind]

namespace Payload

/-- A payload of the current shape gives the sections of its records. -/
theorem sections?_records (records : List Json) :
    sections? (.object [("sections", .array records)]) =
      .ok (.ofList (records.filterMap (Record.section? none))) := by
  change Except.ok (Sections.ofList ((records.map _).filterMap _)) = _
  rw [List.filterMap_map]
  rfl

/-- Every section of a payload is readable. -/
theorem readable_takeAll {entries : List Entry} {m : Section}
    (h : m ∈ (takeAll entries).toList) : m.Readable := by
  have hmem : some m ∈ (firstAccepted entries).map Entry.section? :=
    (read_takeAll entries).toList ▸ List.mem_map_of_mem h
  obtain ⟨entry, -, hsection⟩ := List.mem_map.mp hmem
  exact Record.section?_readable hsection

/-- **Writing and reading again.**  The sections of a payload, written as the records of a new
payload, are read as the same sections in the same order, but for the tags of unknown kinds.  Every
layout gives the same plan with the new sections.  It does not matter whether the records are as the
printer writes them, or have their fields in another order. -/
theorem sections?_reread (fields : List (String × Json)) :
    ∃ s, sections? (.object fields) = .ok s ∧
      ∀ records, records = s.toList.map Section.json ∨
          List.Forall₂ Section.IsWrittenAs s.toList records →
        ∃ t, sections? (.object [("sections", .array records)]) = .ok t ∧
          t.shortcodes = s.shortcodes ∧
          t.toList = s.toList.map Section.reread ∧
          ∀ rows, RenderPlan.compile rows t = RenderPlan.compile rows s := by
  refine ⟨takeAll (recordList fields), sections?_eq_takeAll fields, ?_⟩
  intro records hrecords
  have hwritten : List.Forall₂ Section.IsWrittenAs (takeAll (recordList fields)).toList
      records := by
    rcases hrecords with rfl | hwritten
    · rw [List.forall₂_map_right_iff, List.forall₂_same]
      exact fun m _ => m.isWrittenAs_json
    · exact hwritten
  have hread := Record.filterMap_section?_written (fun _ hm => readable_takeAll hm) hwritten
  generalize takeAll (recordList fields) = s at *
  have hcodes : (s.toList.map Section.reread).map Section.shortcode = s.shortcodes := by
    rw [List.map_map, Sections.shortcodes_eq_map]
    exact List.map_congr_left fun m _ => m.shortcode_reread
  have hlist : (Sections.ofList (s.toList.map Section.reread)).toList =
      s.toList.map Section.reread := by
    apply Sections.toList_ofList_of_nodup
    rw [hcodes]
    exact s.nodup
  refine ⟨_, by rw [sections?_records, hread], ?_, hlist, ?_⟩
  · rw [Sections.shortcodes_eq_map, hlist, hcodes]
  · intro rows
    have hcells : RenderCell.resolve (Sections.ofList (s.toList.map Section.reread)) =
        RenderCell.resolve s := funext fun token => RenderCell.resolve_reread hlist token
    rw [RenderPlan.compile, hcells, ← RenderPlan.compile]

end Payload

end ReportGrid
