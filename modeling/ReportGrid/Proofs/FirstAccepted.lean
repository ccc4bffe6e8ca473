import ReportGrid.Payload
import ReportGrid.Proofs.SectionPushes

/-!
# First accepted records

Which records of a payload become sections is told here without the reader: `Payload.recordList`
lists the records of both payload shapes, `Record.acceptedAs?` says under which shortcode a record
is accepted, if at all, and `Payload.firstAccepted` picks the records that are accepted under a
shortcode for the first time.

The reader goes over the list once.  `Payload.Read` relates the sections it holds to the records it
has read; one more record preserves the relation (`Read.step`), so that it holds after all of them
(`read_takeAll`).  The rest of the module reads the collection off that relation:

* `takeAll_skip` — a record that is not accepted, or not for the first time, changes nothing;
* `sections?_firstAccepted` — the sections of a payload are those of its first accepted records.
-/

namespace ReportGrid

namespace Record

/-- The shortcode under which a record is accepted.  A record is accepted when it is an object whose
`shortcode`, turned to text and without the blanks at its ends, is not empty. -/
def acceptedAs? : Json → Option String
  | .object fields =>
    let text := match Json.lookup "shortcode" fields with
      | none | some .null => ""
      | some (.string text) => text
      | some other => other.compact
    let code := String.ofList (Text.trim text.toList)
    if code = "" then none else some code
  | _ => none

/-- A record gives a section exactly when it is accepted, under the shortcode of the section and
whatever array it is in. -/
theorem acceptedAs?_eq (group : Option SectionKind) (record : Json) :
    acceptedAs? record = (section? group record).map Section.shortcode := by
  cases record with
  | object fields =>
      have htext : (match Json.lookup "shortcode" fields with
          | none | some .null => ""
          | some (.string text) => text
          | some other => other.compact) = textAt "shortcode" fields := by
        unfold textAt
        cases Json.lookup "shortcode" fields with
        | none => rfl
        | some value => cases value <;> rfl
      simp only [acceptedAs?, htext, section?]
      change (if shortcode fields = "" then none else some (shortcode fields)) = _
      by_cases hcode : shortcode fields = "" <;> simp [hcode]
  | _ => rfl

end Record

namespace Payload

/-- A record of a payload with the kind that its array gives it, if it gives one. -/
abbrev Entry := Option SectionKind × Json

/-- The section of an entry. -/
def Entry.section? (entry : Entry) : Option Section :=
  Record.section? entry.1 entry.2

/-- The shortcode under which an entry is accepted. -/
def Entry.code? (entry : Entry) : Option String :=
  Record.acceptedAs? entry.2

theorem Entry.code?_eq (entry : Entry) :
    entry.code? = entry.section?.map Section.shortcode :=
  Record.acceptedAs?_eq entry.1 entry.2

/-- The records of an array of an older payload. -/
def groupRecords (fields : List (String × Json)) (name : String) (kind : SectionKind) :
    List Entry :=
  match Json.lookup name fields with
  | some (.array records) => records.map fun record => (some kind, record)
  | _ => []

/-- The records of a payload: those of `sections` when that is an array, else those of the three
arrays of an older payload one after the other. -/
def recordList (fields : List (String × Json)) : List Entry :=
  match Json.lookup "sections" fields with
  | some (.array records) => records.map fun record => (none, record)
  | _ => groupRecords fields "text_sections" .text ++ groupRecords fields "graph_sections" .graph ++
      groupRecords fields "table_sections" .table

/-- The entries that are accepted under a shortcode under which no earlier entry of the list is. -/
def firstAccepted (entries : List Entry) : List Entry :=
  (entries.zipIdx.filter fun numbered =>
    numbered.1.code? ≠ none ∧
      ∀ earlier ∈ entries.take numbered.2, earlier.code? ≠ numbered.1.code?).map Prod.fst

/-- Reading one more entry. -/
def take (s : Sections) (entry : Entry) : Sections :=
  match entry.section? with
  | none => s
  | some m => s.push m

/-- Reading entries one after the other. -/
def takeAll (entries : List Entry) : Sections :=
  entries.foldl take .empty

theorem takeAll_concat (entries : List Entry) (entry : Entry) :
    takeAll (entries ++ [entry]) = take (takeAll entries) entry := by
  simp [takeAll]

private theorem itemsAt_eq_groupRecords (fields : List (String × Json)) (name : String)
    (kind : SectionKind) :
    ((Json.object fields).itemsAt name).map (fun record => (some kind, record)) =
      groupRecords fields name kind := by
  unfold groupRecords
  cases hname : Json.lookup name fields with
  | none => simp [Json.itemsAt, Json.field?, hname]
  | some value => cases value <;> simp [Json.itemsAt, Json.field?, Json.items?, hname]

theorem records_eq_recordList (fields : List (String × Json)) :
    records (.object fields) = recordList fields := by
  unfold records recordList
  cases hsections : Json.lookup "sections" fields with
  | none => simp [Json.field?, hsections, groups, itemsAt_eq_groupRecords]
  | some value =>
      cases value <;>
        simp [Json.field?, hsections, Json.items?, groups, itemsAt_eq_groupRecords]

/-- Reading entries one after the other is pushing the sections that they have. -/
theorem takeAll_eq_ofList (entries : List Entry) :
    takeAll entries = .ofList (entries.filterMap Entry.section?) := by
  rw [Sections.ofList, List.foldl_filterMap, takeAll]
  congr 1
  funext s entry
  unfold take
  cases entry.section? <;> rfl

/-- The sections of an object are what reading its records one after the other gives. -/
theorem sections?_eq_takeAll (fields : List (String × Json)) :
    sections? (.object fields) = .ok (takeAll (recordList fields)) := by
  rw [takeAll_eq_ofList, ← records_eq_recordList]
  rfl

/-- The shortcodes after reading are those that entries are accepted under, without repeats. -/
theorem shortcodes_takeAll (entries : List Entry) :
    (takeAll entries).shortcodes = Text.distinct (entries.filterMap Entry.code?) := by
  have hcode : Entry.code? = fun entry => entry.section?.map Section.shortcode :=
    funext Entry.code?_eq
  rw [takeAll_eq_ofList, Sections.shortcodes_ofList, List.map_filterMap, hcode]

/-- One more entry is accepted for the first time, or nothing changes. -/
theorem firstAccepted_concat (entries : List Entry) (entry : Entry) :
    firstAccepted (entries ++ [entry]) = firstAccepted entries ++
      if entry.code? ≠ none ∧ ∀ earlier ∈ entries, earlier.code? ≠ entry.code? then [entry]
      else [] := by
  unfold firstAccepted
  rw [List.zipIdx_append, List.filter_append, List.map_append]
  congr 1
  · congr 1
    apply List.filter_congr
    rintro ⟨e, i⟩ hmem
    -- The place of an entry of the list lies inside the list, where the new entry is not.
    have hi : i ≤ entries.length := by
      have := List.mem_zipIdx' hmem
      omega
    rw [List.take_append_of_le_length hi]
  · simp only [List.zipIdx_cons, List.zipIdx_nil, Nat.zero_add, List.filter_cons, List.filter_nil,
      List.take_left']
    split <;> simp_all

/-- **The relation that reading preserves.**  The sections that are held are those of the first
accepted entries, and a shortcode is looked up at the first entry that is accepted under it. -/
structure Read (entries : List Entry) (s : Sections) : Prop where
  toList : s.toList.map some = (firstAccepted entries).map Entry.section?
  get? : ∀ code, (s.get? code).map some =
    (entries.find? fun entry => entry.code? = some code).map Entry.section?

/-- A shortcode is taken exactly when an entry that was read is accepted under it. -/
theorem Read.contains_iff {entries : List Entry} {s : Sections} (h : Read entries s)
    {code : String} :
    s.contains code = true ↔ ∃ entry ∈ entries, entry.code? = some code := by
  have hfound : (s.get? code).isSome =
      (entries.find? fun entry => entry.code? = some code).isSome := by
    simpa using congrArg Option.isSome (h.get? code)
  have hcontains : s.contains code = (s.get? code).isSome := by
    rw [Bool.eq_iff_iff, Sections.contains_iff, Sections.get?_eq_find?, List.find?_isSome]
    simp
  rw [hcontains, hfound, List.find?_isSome]
  simp

/-- **One step.**  Reading one more entry preserves the relation. -/
theorem Read.step {entries : List Entry} {s : Sections} (h : Read entries s) (entry : Entry) :
    Read (entries ++ [entry]) (take s entry) := by
  have hcode := entry.code?_eq
  unfold take
  cases hsection : entry.section? with
  | none =>
      rw [hsection] at hcode
      refine ⟨?_, ?_⟩
      · simpa [firstAccepted_concat, hcode] using h.toList
      · intro code
        simpa [List.find?_append, hcode] using h.get? code
  | some m =>
      rw [hsection] at hcode
      refine ⟨?_, ?_⟩
      · rw [Sections.toList_push, firstAccepted_concat]
        by_cases htaken : s.contains m.shortcode = true
        · obtain ⟨earlier, hmem, hearlier⟩ := h.contains_iff.mp htaken
          rw [if_pos htaken, if_neg, List.append_nil]
          · exact h.toList
          · intro hfirst
            exact hfirst.2 earlier hmem (hearlier.trans hcode.symm)
        · rw [if_neg htaken, if_pos]
          · simp [h.toList, hsection]
          · refine ⟨by simp [hcode], ?_⟩
            intro earlier hmem hsame
            exact htaken (h.contains_iff.mpr ⟨earlier, hmem, hsame.trans hcode⟩)
      · intro code
        rw [Sections.get?_push, List.find?_append, Option.map_or, Option.map_or, h.get? code]
        by_cases hm : m.shortcode = code <;> simp [hcode, hm, hsection]

/-- **Every run.**  After reading any entries the relation holds. -/
theorem read_takeAll (entries : List Entry) : Read entries (takeAll entries) := by
  induction entries using List.reverseRecOn with
  | nil => exact ⟨rfl, fun _ => rfl⟩
  | append_singleton entries entry ih =>
      rw [takeAll_concat]
      exact ih.step entry

/-- An entry that is not accepted, or not for the first time, changes nothing. -/
theorem takeAll_skip {before : List Entry} {entry : Entry} (after : List Entry)
    (h : entry.code? = none ∨ ∃ earlier ∈ before, earlier.code? = entry.code?) :
    takeAll (before ++ entry :: after) = takeAll (before ++ after) := by
  have hcode := entry.code?_eq
  have hskip : take (takeAll before) entry = takeAll before := by
    unfold take
    cases hsection : entry.section? with
    | none => rfl
    | some m =>
        rw [hsection] at hcode
        obtain hnone | ⟨earlier, hmem, hsame⟩ := h
        · simp [hnone] at hcode
        · have htaken : (takeAll before).contains m.shortcode = true :=
            (read_takeAll before).contains_iff.mpr ⟨earlier, hmem, hsame.trans hcode⟩
          apply Sections.ext_toList
          rw [Sections.toList_push, if_pos htaken]
  unfold takeAll at hskip ⊢
  rw [List.foldl_append, List.foldl_append, List.foldl_cons, hskip]

/-- **The sections of a payload.**  Every object has sections.  In order they are those of the first
accepted records, and a shortcode is looked up at the first record that is accepted under it.  A
record that is not accepted, or not for the first time, might as well be missing: every payload
whose records are the others has the same sections. -/
theorem sections?_firstAccepted (fields : List (String × Json)) :
    ∃ s, sections? (.object fields) = .ok s ∧
      s.toList.map some = (firstAccepted (recordList fields)).map Entry.section? ∧
      (∀ code, (s.get? code).map some =
        ((recordList fields).find? fun entry => entry.code? = some code).map Entry.section?) ∧
      ∀ before entry after others,
        recordList fields = before ++ entry :: after → recordList others = before ++ after →
        (entry.code? = none ∨ ∃ earlier ∈ before, earlier.code? = entry.code?) →
        sections? (.object others) = .ok s := by
  have hread := read_takeAll (recordList fields)
  refine ⟨_, sections?_eq_takeAll fields, hread.toList, hread.get?, ?_⟩
  intro before entry after others hfields hothers hskip
  rw [sections?_eq_takeAll, hothers, hfields, takeAll_skip after hskip]

end Payload

end ReportGrid
