import ReportGrid.Section.Basic

/-!
# Collections of sections

`Sections` keeps sections under their shortcodes, in the order in which they came.  No shortcode is
used twice: the first section with a shortcode is kept, and later ones leave the collection as it
is.

Sections are looked up by the shortcode they are kept under, never by what they hold.  That the two
agree is the field `keyed`, which `push` carries on together with `nodup`.
-/

namespace ReportGrid

/-- Sections under their shortcodes, in the order in which they came. -/
structure Sections where
  entries : List (String × Section)
  nodup : (entries.map Prod.fst).Nodup
  keyed : ∀ entry ∈ entries, entry.1 = entry.2.shortcode
deriving Repr

namespace Sections

/-- No sections. -/
def empty : Sections :=
  ⟨[], by simp, by simp⟩

/-- The sections in order. -/
def toList (s : Sections) : List Section :=
  s.entries.map Prod.snd

/-- The shortcodes in order. -/
def shortcodes (s : Sections) : List String :=
  s.entries.map Prod.fst

/-- The number of sections. -/
def length (s : Sections) : Nat :=
  s.entries.length

/-- Whether there are no sections. -/
def isEmpty (s : Sections) : Bool :=
  s.entries.isEmpty

/-- The section under a shortcode. -/
def get? (s : Sections) (shortcode : String) : Option Section :=
  (s.entries.find? fun entry => entry.1 == shortcode).map Prod.snd

/-- Whether a shortcode is taken. -/
def contains (s : Sections) (shortcode : String) : Bool :=
  s.shortcodes.contains shortcode

private theorem nodup_concat (s : Sections) {member : Section}
    (h : ¬ s.contains member.shortcode = true) :
    ((s.entries ++ [(member.shortcode, member)]).map Prod.fst).Nodup := by
  have hfree : member.shortcode ∉ s.entries.map Prod.fst := by
    simpa [contains, shortcodes] using h
  rw [List.map_append, List.nodup_append]
  refine ⟨s.nodup, by simp, ?_⟩
  intro a ha b hb hab
  have hb' : b = member.shortcode := by simpa using hb
  exact hfree (hb' ▸ hab ▸ ha)

private theorem keyed_concat (s : Sections) (member : Section) :
    ∀ entry ∈ s.entries ++ [(member.shortcode, member)], entry.1 = entry.2.shortcode := by
  intro entry hentry
  rcases List.mem_append.mp hentry with hold | hnew
  · exact s.keyed entry hold
  · rw [List.mem_singleton.mp hnew]

/-- Adds a section at the end unless its shortcode is taken. -/
def push (s : Sections) (member : Section) : Sections :=
  if h : s.contains member.shortcode then s
  else
    ⟨s.entries ++ [(member.shortcode, member)], nodup_concat s h, keyed_concat s member⟩

/-- Whether a section that is pushed is kept. -/
def keeps (s : Sections) (member : Section) : Bool :=
  !s.contains member.shortcode

/-- The collection that pushing sections one by one gives. -/
def ofList (members : List Section) : Sections :=
  members.foldl push empty

end Sections

end ReportGrid
