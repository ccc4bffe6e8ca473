import ReportGrid.Page.Basic
import ReportGrid.Plan.Dump
import ReportGrid.Proofs.FirstAccepted
import ReportGrid.Proofs.PayloadFences
import ReportGrid.Proofs.PlanMirror
import Mathlib.Data.List.Find
import Mathlib.Data.List.Forall2
import Mathlib.Data.List.Pairwise

/-!
# What of a payload can be seen in a report

A plan asks its sections for the tokens of its template and for nothing else, and a section is
looked up at the first record that is accepted under its shortcode.  Two payloads whose first
records agree on the tokens of a template therefore give the same report, although the collections
they are read into may hold different sections in a different order.

* `get?_takeAll` — what a lookup finds is `firstSection?`, told from the records alone;
* `Unseen` — changes to a list of records that no token can tell, one after the other:
  `Unseen.firstSection?_eq` carries the agreement through any run of them;
* `firstSection?_append` — records at the end are found only where nothing was found before them;
* `RenderPlan.compile_congr`, `RenderPlan.compile_isFilled` — what agreement and what more records
  mean for the cells of a plan.
-/

namespace ReportGrid

namespace Payload

variable {entries others : List Entry} {tokens : List String} {code token : String}

/-! ## The first record of a shortcode -/

/-- The section of the first record that is accepted under a shortcode. -/
def firstSection? (entries : List Entry) (code : String) : Option Section :=
  (entries.find? fun entry => entry.code? = some code).bind Entry.section?

/-- **Lookup.**  After reading, a shortcode is looked up at its first record. -/
theorem get?_takeAll (entries : List Entry) (code : String) :
    (takeAll entries).get? code = firstSection? entries code := by
  have hread := (read_takeAll entries).get? code
  unfold firstSection?
  cases hfound : entries.find? fun entry => entry.code? = some code with
  | none => simpa [hfound] using hread
  | some entry =>
      rw [hfound] at hread
      obtain ⟨m, hm, hentry⟩ := Option.map_eq_some_iff.mp hread
      rw [hm, hentry, Option.bind_some]

/-- An entry that is accepted has a section. -/
theorem Entry.isSome_section? {entry : Entry} (h : entry.code? = some code) :
    entry.section?.isSome := by
  rw [entry.code?_eq] at h
  obtain ⟨m, hm, -⟩ := Option.map_eq_some_iff.mp h
  exact Option.isSome_of_eq_some hm

/-- There is no first record of a shortcode exactly when no record is accepted under it. -/
theorem firstSection?_eq_none_iff :
    firstSection? entries code = none ↔ ∀ entry ∈ entries, entry.code? ≠ some code := by
  unfold firstSection?
  cases hfound : entries.find? fun entry => entry.code? = some code with
  | none => simpa using hfound
  | some entry =>
      have hcode : entry.code? = some code := by simpa using List.find?_some hfound
      have hsome := Entry.isSome_section? hcode
      constructor
      · intro hnone
        rw [Option.bind_some] at hnone
        simp [hnone] at hsome
      · intro hall
        exact absurd hcode (hall entry (List.mem_of_find?_eq_some hfound))

/-- Records at the end are looked at only where the earlier ones have nothing. -/
theorem firstSection?_append (entries more : List Entry) (code : String) :
    firstSection? (entries ++ more) code =
      (firstSection? entries code).or (firstSection? more code) := by
  cases hfound : firstSection? entries code with
  | none =>
      have hnone := firstSection?_eq_none_iff.mp hfound
      have hfind : (entries.find? fun entry => entry.code? = some code) = none := by
        simpa using hnone
      rw [firstSection?, List.find?_append, hfind, Option.none_or, Option.none_or]
      rfl
  | some m =>
      obtain ⟨entry, hfind, hm⟩ := Option.bind_eq_some_iff.mp hfound
      rw [firstSection?, List.find?_append, hfind, Option.some_or, Option.some_or,
        Option.bind_some, hm]

/-! ## Changes that no token can tell -/

/-- Whether an entry is accepted under one of some tokens. -/
def Entry.isUsed (tokens : List String) (entry : Entry) : Bool :=
  tokens.any fun token => entry.code? = some token

/-- Lists of records that come from a list by changes that tokens cannot tell, any number of times:
records under other shortcodes come, go and change; neighbours with different shortcodes change
places; and a record is put behind an earlier one with its shortcode. -/
inductive Unseen (tokens : List String) (entries : List Entry) : List Entry → Prop where
  | unchanged : Unseen tokens entries entries
  | unused {others changed : List Entry} (earlier : Unseen tokens entries others)
      (used : changed.filter (Entry.isUsed tokens) = others.filter (Entry.isUsed tokens)) :
      Unseen tokens entries changed
  | permuted {before block moved after : List Entry}
      (earlier : Unseen tokens entries (before ++ block ++ after)) (perm : moved.Perm block)
      (distinct : (block.filterMap Entry.code?).Nodup) :
      Unseen tokens entries (before ++ moved ++ after)
  | repeated {before after : List Entry} (entry : Entry)
      (earlier : Unseen tokens entries (before ++ after))
      (taken : ∃ first ∈ before, first.code? = entry.code?) :
      Unseen tokens entries (before ++ entry :: after)

/-- The first record of a token is one of those that are used. -/
theorem firstSection?_filter_isUsed (htoken : token ∈ tokens) (entries : List Entry) :
    firstSection? (entries.filter (Entry.isUsed tokens)) token = firstSection? entries token := by
  unfold firstSection?
  rw [List.find?_filter]
  congr 1
  apply List.find?_congr
  intro entry _
  rw [Bool.eq_iff_iff]
  simp only [decide_eq_true_eq, Entry.isUsed, List.any_eq_true]
  exact ⟨And.right, fun hcode => ⟨⟨token, htoken, hcode⟩, hcode⟩⟩

/-- Where no shortcode is repeated, the order of the records does not matter. -/
theorem firstSection?_perm {block moved : List Entry} (hperm : moved.Perm block)
    (hdistinct : (block.filterMap Entry.code?).Nodup) (code : String) :
    firstSection? moved code = firstSection? block code := by
  have hpairs : block.Pairwise fun entry other =>
      ∀ c, entry.code? = some c → ∀ d, other.code? = some d → c ≠ d :=
    List.pairwise_filterMap.mp hdistinct
  have hsymm : Std.Symm fun entry other : Entry =>
      ∀ c, entry.code? = some c → ∀ d, other.code? = some d → c ≠ d :=
    ⟨fun _ _ hpair d hd c hc => (hpair c hc d hd).symm⟩
  have hone : {entry ∈ block | decide (entry.code? = some code) = true}.Subsingleton := by
    rintro entry ⟨hentry, hcode⟩ other ⟨hother, hsame⟩
    by_contra hne
    exact hpairs.forall hentry hother hne code (by simpa using hcode) code
      (by simpa using hsame) rfl
  unfold firstSection?
  rw [List.find?_eq_find?_of_perm hperm.symm hone]

/-- **Every run of changes.**  A token has the same first record before and after. -/
theorem Unseen.firstSection?_eq (h : Unseen tokens entries others) (htoken : token ∈ tokens) :
    firstSection? others token = firstSection? entries token := by
  induction h with
  | unchanged => rfl
  | unused _ hused ih =>
      rw [← ih, ← firstSection?_filter_isUsed htoken, hused, firstSection?_filter_isUsed htoken]
  | permuted _ hperm hdistinct ih =>
      rw [← ih]
      simp only [firstSection?_append, firstSection?_perm hperm hdistinct]
  | repeated entry _ htaken ih =>
      rw [← ih, ← get?_takeAll, ← get?_takeAll, takeAll_skip _ (Or.inr htaken)]

end Payload

/-! ## Cells and plans -/

namespace RenderCell

/-- A cell after more records: one that had a section is as it was, and one that had none has got a
section exactly when one of those records has its shortcode. -/
structure IsFilled (more : List Payload.Entry) (cell after : RenderCell) : Prop where
  shortcode : after.shortcode = cell.shortcode
  kept : cell.variant ≠ "missing" → after = cell
  changed_iff : after ≠ cell ↔
    cell = .missing cell.shortcode ∧ ∃ entry ∈ more, entry.code? = some cell.shortcode
  outcome : after ≠ cell → after.variant = "resolved" ∨ after.variant = "unresolved"

/-- The cell of a token depends on what a lookup finds. -/
theorem resolve_congr {s t : Sections} {token : String} (h : s.get? token = t.get? token) :
    resolve s token = resolve t token := by
  unfold resolve
  rw [h]

theorem resolve_eq_missing_iff_get? {s : Sections} {token : String} :
    resolve s token = .missing token ↔ s.get? token = none := by
  rw [resolve_eq_missing_iff, Sections.get?_eq_none_iff]

/-- **One cell.**  More records at the end are seen only by a token that was missing. -/
theorem resolve_isFilled (entries more : List Payload.Entry) (token : String) :
    IsFilled more (resolve (Payload.takeAll entries) token)
      (resolve (Payload.takeAll (entries ++ more)) token) := by
  have hget := Payload.get?_takeAll (entries ++ more) token
  rw [Payload.firstSection?_append, ← Payload.get?_takeAll entries] at hget
  cases hbefore : (Payload.takeAll entries).get? token with
  | some m =>
      have hsame : resolve (Payload.takeAll (entries ++ more)) token =
          resolve (Payload.takeAll entries) token :=
        resolve_congr (by rw [hget, hbefore, Option.some_or])
      have hfound : resolve (Payload.takeAll entries) token ≠ .missing token := by
        simp [resolve_eq_missing_iff_get?, hbefore]
      rw [hsame]
      exact ⟨rfl, fun _ => rfl, by simp [resolve_shortcode, hfound], by simp⟩
  | none =>
      rw [hbefore, Option.none_or] at hget
      have hchanged : resolve (Payload.takeAll (entries ++ more)) token ≠ .missing token ↔
          ∃ entry ∈ more, entry.code? = some token := by
        rw [ne_eq, resolve_eq_missing_iff_get?, hget, Payload.firstSection?_eq_none_iff]
        simp
      rw [resolve_eq_missing_iff_get?.mpr hbefore]
      refine ⟨resolve_shortcode _ token, by simp, ?_, ?_⟩
      · simpa [RenderCell.shortcode] using hchanged
      · intro hne
        rcases resolve_cases (Payload.takeAll (entries ++ more)) token with
          ⟨-, hcell⟩ | ⟨n, -, -, hcell⟩ | ⟨n, -, -, hcell⟩
        · exact absurd hcell hne
        · exact Or.inr (by rw [hcell, variant_unresolved])
        · exact Or.inl (by rw [hcell, variant_resolved])

end RenderCell

namespace RenderPlan

/-- The plans of a template for two payloads, given as the objects they hold or as texts, are
related. -/
structure Relates (relation : RenderPlan → RenderPlan → Prop) (template : String)
    (fields others : List (String × Json)) : Prop where
  objects : ∃ s t, Payload.sections? (.object fields) = .ok s ∧
    Payload.sections? (.object others) = .ok t ∧
    relation (compile (Layout.parse template) s) (compile (Layout.parse template) t)
  texts : ∀ first second : String, Payload.document? first.toList = some (.object fields) →
    Payload.document? second.toList = some (.object others) →
    relation (ofTexts template first) (ofTexts template second)

/-- Two plans that no output tells apart. -/
structure SameReport (first second : RenderPlan) : Prop where
  plan : first = second
  dump : ∀ theme, first.dump theme = second.dump theme
  html : ∀ config, Page.html first config = Page.html second config

/-- A plan after more records: its rows and cells with some cells filled. -/
def IsFilled (more : List Payload.Entry) (plan after : RenderPlan) : Prop :=
  List.Forall₂ (fun row new => new.columns = row.columns ∧
    List.Forall₂ (RenderCell.IsFilled more) row.cells new.cells) plan.rows after.rows

/-- A plan asks for nothing but the tokens of its rows. -/
theorem compile_congr {rows : List LayoutRow} {s t : Sections}
    (h : ∀ token ∈ rows.flatMap LayoutRow.tokens, s.get? token = t.get? token) :
    compile rows s = compile rows t := by
  unfold compile
  congr 1
  apply List.map_congr_left
  intro row hrow
  congr 1
  apply List.map_congr_left
  intro token htoken
  exact RenderCell.resolve_congr (h token (List.mem_flatMap.mpr ⟨row, hrow, htoken⟩))

/-- **One plan.**  More records at the end of a payload fill cells and do nothing else. -/
theorem compile_isFilled (rows : List LayoutRow) (entries more : List Payload.Entry) :
    IsFilled more (compile rows (Payload.takeAll entries))
      (compile rows (Payload.takeAll (entries ++ more))) := by
  unfold IsFilled compile
  rw [List.forall₂_map_left_iff, List.forall₂_map_right_iff, List.forall₂_same]
  intro row _
  refine ⟨rfl, ?_⟩
  rw [List.forall₂_map_left_iff, List.forall₂_map_right_iff, List.forall₂_same]
  intro token _
  exact RenderCell.resolve_isFilled entries more token

/-- What holds of the plans for the sections of two payloads holds of all their plans. -/
theorem relates_of_takeAll {relation : RenderPlan → RenderPlan → Prop} {template : String}
    {fields others : List (String × Json)}
    (h : relation
      (compile (Layout.parse template) (Payload.takeAll (Payload.recordList fields)))
      (compile (Layout.parse template) (Payload.takeAll (Payload.recordList others)))) :
    Relates relation template fields others where
  objects :=
    ⟨_, _, Payload.sections?_eq_takeAll fields, Payload.sections?_eq_takeAll others, h⟩
  texts := by
    intro first second hfirst hsecond
    rw [ofTexts, ofTexts,
      Payload.ofText_eq_of_document? hfirst (Payload.sections?_eq_takeAll fields),
      Payload.ofText_eq_of_document? hsecond (Payload.sections?_eq_takeAll others)]
    exact h

/-- **What a report can show of its payload.**  Payloads in which the first record of every token
gives the same section have the same report, so that changes which no token can tell are not seen.
Records at the end of a payload only fill missing cells. -/
theorem relates_recordList (template : String) (fields others : List (String × Json)) :
    ((∀ token ∈ (Layout.parse template).flatMap LayoutRow.tokens,
        Payload.firstSection? (Payload.recordList fields) token =
          Payload.firstSection? (Payload.recordList others) token) →
      Relates SameReport template fields others) ∧
    (Payload.Unseen ((Layout.parse template).flatMap LayoutRow.tokens)
        (Payload.recordList fields) (Payload.recordList others) →
      Relates SameReport template fields others) ∧
    ∀ more, Payload.recordList others = Payload.recordList fields ++ more →
      Relates (IsFilled more) template fields others := by
  have hsame : (∀ token ∈ (Layout.parse template).flatMap LayoutRow.tokens,
      Payload.firstSection? (Payload.recordList fields) token =
        Payload.firstSection? (Payload.recordList others) token) →
      Relates SameReport template fields others := by
    intro hagree
    apply relates_of_takeAll
    have hplan : compile (Layout.parse template) (Payload.takeAll (Payload.recordList fields)) =
        compile (Layout.parse template) (Payload.takeAll (Payload.recordList others)) := by
      apply compile_congr
      intro token htoken
      rw [Payload.get?_takeAll, Payload.get?_takeAll, hagree token htoken]
    exact ⟨hplan, fun theme => by rw [hplan], fun config => by rw [hplan]⟩
  refine ⟨hsame, ?_, ?_⟩
  · intro hunseen
    exact hsame fun token htoken => (hunseen.firstSection?_eq htoken).symm
  · intro more hmore
    apply relates_of_takeAll
    rw [hmore]
    exact compile_isFilled _ _ more

end RenderPlan

end ReportGrid
