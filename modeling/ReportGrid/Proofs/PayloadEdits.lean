import ReportGrid.Proofs.PayloadInfluence
import ReportGrid.Proofs.RecordEdits

/-!
# Payloads with an edited record

Editing one record of a payload changes at most one entry of the list of records that are read
(`recordList_edited`): no array is read twice, and an edit of an array that is not read is not seen.
The entry is accepted under the same shortcode as before.  So the shortcodes stay
(`EditsEntry.shortcodes_eq`), the other sections stay (`EditsEntry.get?_eq`), and the section of the
entry, when it is the one that is kept, changes as its record does (`EditsEntry.effect`).
-/

namespace ReportGrid

namespace Payload

/-! ## Editing a record of a payload -/

/-- An entry whose record is edited. -/
def Entry.edited (edit : RecordEdit) (entry : Entry) : Entry :=
  (entry.1, edit.record entry.2)

/-- Whether two lists of entries differ in one place, where the second has an entry of the first
edited. -/
structure EditsEntry (edit : RecordEdit) (earlier : List Entry) (entry : Entry)
    (later entries others : List Entry) : Prop where
  before : entries = earlier ++ entry :: later
  after : others = earlier ++ entry.edited edit :: later

/-- The place stays a place of the list when more entries stand around it. -/
theorem EditsEntry.between {edit : RecordEdit} {entry : Entry}
    {earlier later entries others : List Entry}
    (h : EditsEntry edit earlier entry later entries others) (before after : List Entry) :
    EditsEntry edit (before ++ earlier) entry (later ++ after) (before ++ (entries ++ after))
      (before ++ (others ++ after)) := by
  constructor
  · rw [h.before]
    simp only [List.append_assoc, List.cons_append]
  · rw [h.after]
    simp only [List.append_assoc, List.cons_append]

/-- The record at a place of an array of a payload. -/
def recordAt? (key : String) (i : Nat) (fields : List (String × Json)) : Option Json :=
  ((Json.object fields).itemsAt key)[i]?

/-- A payload in which the record at a place of an array is edited.  Where there is no such record
nothing changes. -/
def edited (key : String) (i : Nat) (edit : RecordEdit) (fields : List (String × Json)) :
    List (String × Json) :=
  match Json.lookup key fields with
  | some (.array records) => Json.setField key (.array (records.modify i edit.record)) fields
  | _ => fields

/-- The arrays that are read of a payload, each with the kind that it gives to its records. -/
def arrays (fields : List (String × Json)) : List (String × Option SectionKind) :=
  match Json.lookup "sections" fields with
  | some (.array _) => [("sections", none)]
  | _ => groups.map fun group => (group.1, some group.2)

/-- The entries of an array of a payload. -/
def entriesOf (fields : List (String × Json)) (array : String × Option SectionKind) : List Entry :=
  ((Json.object fields).itemsAt array.1).map fun record => (array.2, record)

/-- No array is read twice. -/
theorem nodup_arrays (fields : List (String × Json)) : ((arrays fields).map Prod.fst).Nodup := by
  unfold arrays
  split
  · decide
  · decide

/-- The records of a payload are those of the arrays that are read. -/
theorem recordList_eq_flatMap (fields : List (String × Json)) :
    recordList fields = (arrays fields).flatMap (entriesOf fields) := by
  rw [← records_eq_recordList, records, arrays, Json.field?]
  cases hlookup : Json.lookup "sections" fields with
  | none => simp [entriesOf, List.flatMap_map]
  | some value =>
      cases value <;>
        simp [Json.items?, entriesOf, Json.itemsAt, Json.field?, hlookup, List.flatMap_map]

variable (key : String) (i : Nat) (edit : RecordEdit) (fields : List (String × Json))

theorem arrays_edited : arrays (edited key i edit fields) = arrays fields := by
  rw [edited]
  split
  · rename_i records hlookup
    rw [arrays, arrays, Json.lookup_setField]
    by_cases hkey : "sections" = key
    · subst hkey
      simp [hlookup]
    · rw [if_neg hkey]
  · rfl

/-- The array that the edit is in has one record edited, and all others are as before. -/
theorem itemsAt_edited (name : String) :
    (Json.object (edited key i edit fields)).itemsAt name =
      if name = key then ((Json.object fields).itemsAt name).modify i edit.record
      else (Json.object fields).itemsAt name := by
  rw [edited]
  split
  · rename_i records hlookup
    rw [Json.itemsAt, Json.field?, Json.lookup_setField]
    by_cases hname : name = key
    · subst hname
      simp [Json.itemsAt, Json.field?, Json.items?, hlookup]
    · rw [if_neg hname, if_neg hname, Json.itemsAt, Json.field?]
  · rename_i hnone
    have hitems : (Json.object fields).itemsAt key = [] := by
      rw [Json.itemsAt, Json.field?]
      cases hlookup : Json.lookup key fields with
      | none => rfl
      | some value =>
          cases value with
          | array records => exact absurd hlookup (hnone records)
          | _ => rfl
    split
    · rename_i hname
      rw [hname, hitems, List.modify_nil]
    · rfl

/-- The entries of the edited array: one of them is edited, or none when there is no such place. -/
theorem entriesOf_edited (group : Option SectionKind) :
    entriesOf (edited key i edit fields) (key, group) = entriesOf fields (key, group) ∨
      ∃ earlier entry later, recordAt? key i fields = some entry.2 ∧
        EditsEntry edit earlier entry later (entriesOf fields (key, group))
          (entriesOf (edited key i edit fields) (key, group)) := by
  rw [entriesOf, entriesOf, itemsAt_edited, if_pos rfl, recordAt?]
  generalize (Json.object fields).itemsAt key = records
  by_cases hplace : i < records.length
  · obtain ⟨before, record, after, hrecords, hlength, hmodify⟩ :=
      List.exists_of_modify edit.record hplace
    right
    refine ⟨before.map (group, ·), (group, record), after.map (group, ·), ?_, ?_, ?_⟩
    · simp [hrecords, ← hlength]
    · rw [hrecords, List.map_append, List.map_cons]
    · rw [hmodify, List.map_append, List.map_cons, Entry.edited]
  · left
    rw [List.modify_eq_self (Nat.le_of_not_lt hplace)]

variable {key} in
/-- The entries of arrays among which the edited one is not stay. -/
theorem flatMap_entriesOf_edited {arrays : List (String × Option SectionKind)}
    (h : key ∉ arrays.map Prod.fst) :
    arrays.flatMap (entriesOf (edited key i edit fields)) = arrays.flatMap (entriesOf fields) := by
  apply List.flatMap_congr
  intro array harray
  have hne : array.1 ≠ key := by
    intro heq
    exact h (heq ▸ List.mem_map_of_mem harray)
  rw [entriesOf, itemsAt_edited, if_neg hne, entriesOf]

/-- **The records of an edited payload.**  Of the records that are read one is edited, or none when
the edited array is not read. -/
theorem recordList_edited :
    recordList (edited key i edit fields) = recordList fields ∨
      ∃ earlier entry later, recordAt? key i fields = some entry.2 ∧
        EditsEntry edit earlier entry later (recordList fields)
          (recordList (edited key i edit fields)) := by
  rw [recordList_eq_flatMap, recordList_eq_flatMap, arrays_edited]
  by_cases hread : key ∈ (arrays fields).map Prod.fst
  · obtain ⟨⟨name, group⟩, harray, hname⟩ := List.mem_map.mp hread
    obtain rfl : name = key := hname
    obtain ⟨before, after, harrays⟩ := List.append_of_mem harray
    have hnodup := nodup_arrays fields
    rw [harrays, List.map_append, List.map_cons, List.nodup_middle, List.nodup_cons,
      List.mem_append, not_or] at hnodup
    obtain ⟨⟨hbefore, hafter⟩, -⟩ := hnodup
    rw [harrays, List.flatMap_append, List.flatMap_append, List.flatMap_cons, List.flatMap_cons,
      flatMap_entriesOf_edited i edit fields hbefore, flatMap_entriesOf_edited i edit fields hafter]
    obtain hsame | ⟨earlier, entry, later, hrecord, hplace⟩ :=
      entriesOf_edited name i edit fields group
    · left
      rw [hsame]
    · right
      exact ⟨_, entry, _, hrecord, hplace.between _ _⟩
  · left
    exact flatMap_entriesOf_edited i edit fields hread

/-! ## The sections of an edited payload -/

/-- A shortcode is looked up at the first entry when that is accepted under it. -/
theorem firstSection?_cons (entry : Entry) (entries : List Entry) (code : String) :
    firstSection? (entry :: entries) code =
      if entry.code? = some code then entry.section? else firstSection? entries code := by
  unfold firstSection?
  rw [List.find?_cons]
  by_cases hcode : entry.code? = some code
  · simp [hcode]
  · simp [hcode]

theorem Entry.code?_edited (entry : Entry) : (entry.edited edit).code? = entry.code? :=
  edit.acceptedAs?_record entry.2

/-- What an edit does to the sections of a payload: nothing when its record is not read or is
passed over, and else it changes the section of its record in what the edit feeds. -/
inductive EditEffect (edit : RecordEdit) (record? : Option Json) (entries others : List Entry)
    (s t : Sections) : Prop where
  | unread (records : others = entries) (sections : t = s)
  | passedOver {earlier later : List Entry} {entry : Entry} (record : record? = some entry.2)
      (place : EditsEntry edit earlier entry later entries others)
      (skipped : entry.code? = none ∨ ∃ other ∈ earlier, other.code? = entry.code?)
      (sections : t = s)
  | kept {earlier later : List Entry} {entry : Entry} {m n : Section}
      (record : record? = some entry.2)
      (place : EditsEntry edit earlier entry later entries others)
      (first : ∀ other ∈ earlier, other.code? ≠ entry.code?)
      (before : entry.section? = some m ∧ s.get? m.shortcode = some m)
      (after : (entry.edited edit).section? = some n ∧ t.get? m.shortcode = some n)
      (agrees : m.AgreesBut edit n)

variable {edit} {earlier later entries others : List Entry} {entry : Entry}

namespace EditsEntry

/-- The shortcodes that entries are accepted under stay. -/
theorem shortcodes_eq (h : EditsEntry edit earlier entry later entries others) :
    (takeAll others).shortcodes = (takeAll entries).shortcodes := by
  rw [shortcodes_takeAll, shortcodes_takeAll, h.before, h.after]
  simp only [List.filterMap_append, List.filterMap_cons, Entry.code?_edited]

/-- Where the edited entry is not accepted under a shortcode, the same section is found. -/
theorem get?_eq (h : EditsEntry edit earlier entry later entries others) {code : String}
    (hcode : entry.code? ≠ some code) :
    (takeAll others).get? code = (takeAll entries).get? code := by
  rw [get?_takeAll, get?_takeAll, h.before, h.after, firstSection?_append,
    firstSection?_append, firstSection?_cons, firstSection?_cons, Entry.code?_edited,
    if_neg hcode, if_neg hcode]

end EditsEntry

/-- The first entry under a shortcode is the one that is found. -/
theorem get?_takeAll_of_first {m : Section} (later : List Entry)
    (hfirst : ∀ other ∈ earlier, other.code? ≠ entry.code?) (hm : entry.section? = some m) :
    (takeAll (earlier ++ entry :: later)).get? m.shortcode = some m := by
  have hcode : entry.code? = some m.shortcode := by
    rw [entry.code?_eq, hm, Option.map_some]
  have hnone : firstSection? earlier m.shortcode = none := by
    rw [firstSection?_eq_none_iff]
    intro other hother
    rw [← hcode]
    exact hfirst other hother
  rw [get?_takeAll, firstSection?_append, hnone, Option.none_or, firstSection?_cons, if_pos hcode,
    hm]

/-- **One entry.**  Editing an entry of a list does nothing to the sections, or it changes the one
section of that entry. -/
theorem EditsEntry.effect {record? : Option Json} (hrecord : record? = some entry.2)
    (h : EditsEntry edit earlier entry later entries others) :
    EditEffect edit record? entries others (takeAll entries) (takeAll others) := by
  by_cases hskip : entry.code? = none ∨ ∃ other ∈ earlier, other.code? = entry.code?
  · refine .passedOver hrecord h hskip ?_
    rw [h.before, h.after, takeAll_skip later hskip]
    apply takeAll_skip
    rwa [Entry.code?_edited]
  · rw [not_or] at hskip
    obtain ⟨haccepted, hfirst⟩ := hskip
    have hfirst : ∀ other ∈ earlier, other.code? ≠ entry.code? := by
      intro other hother hsame
      exact hfirst ⟨other, hother, hsame⟩
    obtain ⟨code, hcode⟩ := Option.ne_none_iff_exists'.mp haccepted
    obtain ⟨m, hm⟩ := Option.isSome_iff_exists.mp (Entry.isSome_section? hcode)
    obtain ⟨n, hn, hagrees⟩ := edit.agreesBut_section? hm
    refine .kept hrecord h hfirst ⟨hm, ?_⟩ ⟨hn, ?_⟩ hagrees
    · rw [h.before]
      exact get?_takeAll_of_first later hfirst hm
    · rw [h.after, ← hagrees.shortcode]
      refine get?_takeAll_of_first later ?_ hn
      rwa [Entry.code?_edited]

/-- **Edits are contained.**  Whatever is put into a field of a record other than the two that
decide about it, or into a field of its data, the payload has sections with the same shortcodes in
the same order.  The section under any shortcode that the record is not accepted under is the same,
and the section of the record, if it is the kept one, differs only in what the edit feeds: one
component, or two that are fed by the same fields. -/
theorem sections?_edited (key : String) (i : Nat) (edit : RecordEdit)
    (fields : List (String × Json)) :
    ∃ s t, sections? (.object fields) = .ok s ∧
      sections? (.object (edited key i edit fields)) = .ok t ∧
      t.shortcodes = s.shortcodes ∧
      (∀ code, (recordAt? key i fields).bind Record.acceptedAs? ≠ some code →
        t.get? code = s.get? code) ∧
      EditEffect edit (recordAt? key i fields) (recordList fields)
        (recordList (edited key i edit fields)) s t ∧
      ∀ first second, edit.Feeds first → edit.Feeds second → first.fields = second.fields := by
  refine ⟨_, _, sections?_eq_takeAll fields, sections?_eq_takeAll _, ?_⟩
  obtain hsame | ⟨earlier, entry, later, hrecord, hplace⟩ := recordList_edited key i edit fields
  · rw [hsame]
    exact ⟨rfl, fun _ _ => rfl, .unread rfl rfl, fun _ _ => edit.fields_eq_of_feeds⟩
  · refine ⟨hplace.shortcodes_eq, ?_, hplace.effect hrecord, fun _ _ => edit.fields_eq_of_feeds⟩
    intro code hcode
    rw [hrecord] at hcode
    exact hplace.get?_eq hcode

end Payload

end ReportGrid
