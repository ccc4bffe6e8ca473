import ReportGrid.Proofs.TagReader

/-!
# Whose characters those of a page are

`Markup.stretchesAll` cuts the text of a page where a text was put in.  The stretches in between are
the page's own and come from a fixed list (`Markup.own_mem_stretchesAll`), whatever was put in.  A
text that was put in is escaped and has none of the marks that tags are made of
(`Markup.isMark_of_mem_escape`), so every mark of a page is in a text of its own.
-/

namespace ReportGrid.Markup

/-- A stretch of a page: a text of the page's own, or one that was put in. -/
inductive Stretch where
  | own (s : List Char)
  | inserted (s : List Char)

/-- The characters of a stretch. -/
def Stretch.write : Stretch → List Char
  | .own s => s
  | .inserted s => escape s

/-- The stretches of an attribute. -/
def attributeStretches (item : String × String) : List Stretch :=
  [.own (' ' :: item.1.toList ++ ['=', '"']), .inserted item.2.toList, .own ['"']]

/-- The stretches of an opening tag. -/
def openStretches (tag : String) (attributes : List (String × String)) : List Stretch :=
  .own ('<' :: tag.toList) :: attributes.flatMap attributeStretches ++ [.own ['>']]

mutual

/-- The stretches of a part of a page. -/
def stretches : Markup → List Stretch
  | .text content => [.inserted content.toList]
  | .void tag attributes => openStretches tag attributes
  | .element tag attributes children =>
    openStretches tag attributes ++ stretchesAll children ++ [.own (closeTag tag)]

/-- The stretches of some parts of a page. -/
def stretchesAll : List Markup → List Stretch
  | [] => []
  | part :: rest => stretches part ++ stretchesAll rest

end

/-- The texts of pages' own: the starts and ends of tags and what stands around a value. -/
def ownTexts : List (List Char) :=
  [['>'], ['"']] ++ (voidTags ++ elementTags).map (fun tag => '<' :: tag.toList) ++
    elementTags.map closeTag ++ attributeNames.map fun name => ' ' :: name.toList ++ ['=', '"']

theorem flatMap_write_openStretches (tag : String) (attributes : List (String × String)) :
    (openStretches tag attributes).flatMap Stretch.write = openTag tag attributes := by
  have hitem : ∀ item, (attributeStretches item).flatMap Stretch.write = writeAttribute item := by
    intro item
    simp [attributeStretches, Stretch.write, writeAttribute]
  simp [openStretches, openTag, Stretch.write, List.flatMap_assoc, hitem]

/-- The stretches make up what is written. -/
theorem flatMap_write_stretchesAll (parts : List Markup) :
    (stretchesAll parts).flatMap Stretch.write = writeAll parts := by
  match parts with
  | [] => rfl
  | .text content :: rest =>
      simp [stretchesAll, stretches, writeAll, write, Stretch.write,
        flatMap_write_stretchesAll rest]
  | .void tag attributes :: rest =>
      simp [stretchesAll, stretches, writeAll, write, flatMap_write_openStretches,
        flatMap_write_stretchesAll rest]
  | .element tag attributes children :: rest =>
      simp [stretchesAll, stretches, writeAll, write, flatMap_write_openStretches, Stretch.write,
        flatMap_write_stretchesAll rest, flatMap_write_stretchesAll children]

theorem own_mem_openStretches {tag : String} {attributes : List (String × String)}
    (htag : tag ∈ voidTags ++ elementTags) (hnamed : IsNamed attributes) {s : List Char}
    (h : .own s ∈ openStretches tag attributes) : s ∈ ownTexts := by
  simp only [openStretches, List.cons_append, List.mem_cons, List.mem_append, List.mem_flatMap,
    Stretch.own.injEq, List.not_mem_nil, or_false] at h
  rcases h with rfl | ⟨item, hitem, hs⟩ | rfl
  · simp only [ownTexts, List.mem_append, List.mem_map]
    exact Or.inl (Or.inl (Or.inr ⟨tag, List.mem_append.mp htag, rfl⟩))
  · simp only [attributeStretches, List.mem_cons, Stretch.own.injEq, reduceCtorEq,
      List.not_mem_nil, or_false, false_or] at hs
    rcases hs with rfl | rfl
    · exact List.mem_append_right _ (List.mem_map_of_mem (hnamed item hitem))
    · decide
  · decide

/-- **The page's own texts** come from a fixed list. -/
theorem own_mem_stretchesAll (parts : List Markup) (h : ∀ m ∈ elementsAll parts, IsTagged m)
    {s : List Char} (hs : .own s ∈ stretchesAll parts) : s ∈ ownTexts := by
  match parts with
  | [] => simp [stretchesAll] at hs
  | .text content :: rest =>
      rcases List.mem_append.mp hs with hs | hs
      · simp [stretches] at hs
      · exact own_mem_stretchesAll rest h hs
  | .void tag attributes :: rest =>
      obtain ⟨⟨htag, hnamed⟩, hrest⟩ := List.forall_mem_cons.mp h
      rcases List.mem_append.mp hs with hs | hs
      · exact own_mem_openStretches (List.mem_append_left _ htag) hnamed hs
      · exact own_mem_stretchesAll rest hrest hs
  | .element tag attributes children :: rest =>
      obtain ⟨⟨htag, hnamed⟩, hinner⟩ := List.forall_mem_cons.mp h
      obtain ⟨hchildren, hrest⟩ := List.forall_mem_append.mp hinner
      rcases List.mem_append.mp hs with hs | hs
      · simp only [stretches, List.mem_append, List.mem_singleton, Stretch.own.injEq] at hs
        rcases hs with (hs | hs) | rfl
        · exact own_mem_openStretches (List.mem_append_right _ htag) hnamed hs
        · exact own_mem_stretchesAll children hchildren hs
        · simp only [ownTexts, List.mem_append]
          exact Or.inl (Or.inr (List.mem_map_of_mem htag))
      · exact own_mem_stretchesAll rest hrest hs

end ReportGrid.Markup
