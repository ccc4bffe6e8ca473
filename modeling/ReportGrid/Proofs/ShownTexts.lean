import ReportGrid.Proofs.PageMirror
import ReportGrid.Proofs.VisibleText

/-!
# Texts on a page

A text is shown as paragraphs.  It is cut at empty lines, its pieces are trimmed and cut into lines,
and every line is escaped; `Page.showsText_writeAll` says what comes of it for any text at all.

* `Markup.unescape_outsideTags` — what is written for a tree, without its tags and with its entities
  read back, is the text inside the tree;
* `Page.visible_contentAll_textBody` — that text has the visible characters of the text that is
  shown, because each cut takes off nothing but blanks;
* `Page.isParagraph_element` — a piece that is not blank gives a paragraph that is not empty, with a
  break for each line feed that is left inside the piece.
-/

namespace ReportGrid

namespace Markup

/-! ## Text outside tags -/

/-- The characters of a text outside tags.  The text starts inside a tag or outside. -/
def outsideTags : Bool → List Char → List Char
  | _, [] => []
  | true, c :: rest => outsideTags (c ≠ '>') rest
  | false, c :: rest => if c = '<' then outsideTags true rest else c :: outsideTags false rest

/-- Characters up to the next tag stay. -/
theorem outsideTags_text {s : List Char} (h : '<' ∉ s) (rest : List Char) :
    outsideTags false (s ++ rest) = s ++ outsideTags false rest := by
  induction s with
  | nil => rfl
  | cons c s ih =>
      rw [List.mem_cons, not_or] at h
      simp [outsideTags, Ne.symm h.1, ih h.2]

/-- Characters up to the end of a tag are passed over. -/
theorem outsideTags_tag {s : List Char} (h : '>' ∉ s) (rest : List Char) :
    outsideTags true (s ++ '>' :: rest) = outsideTags false rest := by
  induction s with
  | nil => rfl
  | cons c s ih =>
      rw [List.mem_cons, not_or] at h
      have hc : decide (c ≠ '>') = true := by simpa using Ne.symm h.1
      rw [List.cons_append, outsideTags, hc, ih h.2]

/-- An opening tag is passed over. -/
theorem outsideTags_openTag {tag : String} {attributes : List (String × String)}
    (htag : '>' ∉ tag.toList) (h : IsNamed attributes) (rest : List Char) :
    outsideTags false (openTag tag attributes ++ rest) = outsideTags false rest := by
  have hattribute : ∀ item ∈ attributes, '>' ∉ writeAttribute item := by
    intro item hitem
    have hname : '>' ∉ item.1.toList := by
      intro hmem
      have hplain := (plain_of_mem_attributeNames (h item hitem) '>' hmem).1
      simp [isMark] at hplain
    have hvalue : '>' ∉ escape item.2.toList := not_mem_escape (by decide) _
    simp [writeAttribute, hname, hvalue]
  have hinside : '>' ∉ tag.toList ++ attributes.flatMap writeAttribute := by
    rw [List.mem_append, List.mem_flatMap]
    rintro (hmem | ⟨item, hitem, hmem⟩)
    · exact htag hmem
    · exact hattribute item hitem hmem
  have hwritten : openTag tag attributes ++ rest =
      '<' :: ((tag.toList ++ attributes.flatMap writeAttribute) ++ '>' :: rest) := by
    simp [openTag]
  rw [hwritten, outsideTags, if_pos rfl, outsideTags_tag hinside]

/-- A closing tag is passed over. -/
theorem outsideTags_closeTag {tag : String} (htag : '>' ∉ tag.toList) (rest : List Char) :
    outsideTags false (closeTag tag ++ rest) = outsideTags false rest := by
  have hinside : '>' ∉ '/' :: tag.toList := by simp [htag]
  have hwritten : closeTag tag ++ rest = '<' :: ('/' :: tag.toList ++ '>' :: rest) := by
    simp [closeTag]
  rw [hwritten, outsideTags, if_pos rfl, outsideTags_tag hinside]

/-- The names of tags do not hold the mark that ends them. -/
theorem not_mem_of_mem_tags {tag : String} (h : tag ∈ voidTags ++ elementTags) :
    '>' ∉ tag.toList := by
  intro hmem
  have hplain := ((plain_of_mem_tags h).2 '>' hmem).1
  simp [isMark] at hplain

/-- **What is outside the tags** of some parts is the text inside them, escaped. -/
theorem outsideTags_writeAll (parts : List Markup) (h : ∀ m ∈ elementsAll parts, IsTagged m)
    (rest : List Char) :
    outsideTags false (writeAll parts ++ rest) =
      escape (contentAll parts) ++ outsideTags false rest := by
  match parts with
  | [] => rfl
  | .text words :: parts =>
      rw [writeAll, write, List.append_assoc, outsideTags_text (not_mem_escape (by decide) _),
        outsideTags_writeAll parts h, contentAll, content, escape_append, List.append_assoc]
  | .void tag attributes :: parts =>
      obtain ⟨⟨htag, hnamed⟩, hrest⟩ := List.forall_mem_cons.mp h
      have hplain := not_mem_of_mem_tags (List.mem_append_left _ htag)
      rw [writeAll, write, List.append_assoc, outsideTags_openTag hplain hnamed,
        outsideTags_writeAll parts hrest, contentAll, content, List.nil_append]
  | .element tag attributes children :: parts =>
      obtain ⟨⟨htag, hnamed⟩, hinner⟩ := List.forall_mem_cons.mp h
      obtain ⟨hchildren, hrest⟩ := List.forall_mem_append.mp hinner
      have hplain := not_mem_of_mem_tags (List.mem_append_right _ htag)
      rw [writeAll, write, List.append_assoc, List.append_assoc, List.append_assoc,
        outsideTags_openTag hplain hnamed, outsideTags_writeAll children hchildren,
        outsideTags_closeTag hplain, outsideTags_writeAll parts hrest, contentAll, content,
        escape_append, List.append_assoc]

/-- **Text without tags.**  Without the tags, and with entities read back, what is written is the
text. -/
theorem unescape_outsideTags {parts : List Markup} (h : ∀ m ∈ elementsAll parts, IsTagged m) :
    unescape (outsideTags false (writeAll parts)) = contentAll parts := by
  have hwritten := outsideTags_writeAll parts h []
  rw [List.append_nil, outsideTags, List.append_nil] at hwritten
  rw [hwritten, unescape_escape]

end Markup

namespace Page

open Markup

/-! ## One paragraph -/

theorem AreBare.isTagged {parts : List Markup} (h : AreBare parts) :
    ∀ m ∈ elementsAll parts, IsTagged m :=
  fun m hm => (h m hm).1

/-- The text of a paragraph is that of its lines. -/
theorem contentAll_withBreaks (paragraph : List Char) :
    contentAll (withBreaks paragraph) = (Text.lines paragraph).flatten := by
  unfold withBreaks
  induction Text.lines paragraph with
  | nil => rfl
  | cons line rest ih =>
      cases rest with
      | nil => simp [contentAll, content]
      | cons next rest =>
          rw [List.map_cons] at ih
          rw [List.map_cons, List.map_cons, List.intersperse_cons_cons, contentAll, contentAll, ih]
          simp [content]

/-- A paragraph has a break between any two of its lines. -/
theorem filter_isElement_withBreaks (paragraph : List Char) :
    (withBreaks paragraph).filter isElement =
      List.replicate ((Text.lines paragraph).length - 1) (.void "br" []) := by
  unfold withBreaks
  induction Text.lines paragraph with
  | nil => rfl
  | cons line rest ih =>
      cases rest with
      | nil => rfl
      | cons next rest =>
          rw [List.map_cons] at ih
          rw [List.map_cons, List.map_cons, List.intersperse_cons_cons,
            List.filter_cons_of_neg (by simp [isElement]), List.filter_cons_of_pos (by rfl), ih]
          simp [List.replicate_succ]

/-- What a piece of a text is on a page: a paragraph that is not empty, with a break for each line
feed inside the piece and with the characters of the piece up to blanks. -/
structure IsParagraph (piece : List Char) (part : Markup) : Prop where
  tag : part.tag? = some "p"
  visible : Text.visible part.content = Text.visible piece
  not_blank : ∃ c ∈ part.content, Text.isBlank c = false
  breaks : part.childElements = List.replicate ((Text.trim piece).count '\n') (.void "br" [])

theorem isParagraph_element {piece : List Char} (h : ¬ ∀ c ∈ piece, Text.isBlank c = true) :
    IsParagraph piece (Markup.element "p" [] (withBreaks (Text.trim piece))).join := by
  have hne : Text.trim piece ≠ [] := by rwa [ne_eq, Text.trim_eq_nil_iff]
  have hlast : (Text.trim piece).getLast? ≠ some '\n' := by
    intro hfeed
    exact absurd (Text.getLast?_trim hfeed) (by decide)
  have hvisible : Text.visible (Markup.element "p" [] (withBreaks (Text.trim piece))).join.content =
      Text.visible piece := by
    rw [content_join, content, contentAll_withBreaks, Text.visible_lines, Text.visible_trim]
  refine ⟨rfl, hvisible, ?_, ?_⟩
  · by_contra hblank
    apply h
    rw [← Text.visible_eq_nil_iff, ← hvisible, Text.visible_eq_nil_iff]
    intro c hc
    by_contra hnot
    exact hblank ⟨c, hc, by simpa using hnot⟩
  · rw [childElements_join]
    change ((withBreaks (Text.trim piece)).filter isElement).map join = _
    rw [filter_isElement_withBreaks, Text.length_lines hne hlast, Nat.add_sub_cancel,
      List.map_replicate]
    rfl

/-! ## A text -/

/-- The paragraphs of a text are its pieces that are not blank, without the blanks at their ends. -/
theorem paragraphs_eq (content : String) :
    paragraphs content =
      ((Text.splitOn "\n\n".toList content.toList).filter fun piece =>
        !piece.all Text.isBlank).map Text.trim := by
  rw [paragraphs, List.filter_map]
  refine congrArg (List.map Text.trim) (List.filter_congr ?_)
  intro piece _
  rw [Bool.eq_iff_iff]
  simp [Text.trim_eq_nil_iff]

/-- Neither the cut at empty lines nor trimming loses anything visible. -/
theorem visible_paragraphs (content : String) :
    (paragraphs content).flatMap Text.visible = Text.visible content.toList := by
  have hjoined := Text.intercalate_splitOn (by decide : "\n\n".toList ≠ []) content.toList
  have hblank : ∀ c ∈ "\n\n".toList, Text.isBlank c = true := by
    rw [← List.all_eq_true]
    decide
  conv_rhs => rw [← hjoined]
  rw [paragraphs, Text.flatMap_filter_ne_nil rfl, List.flatMap_map, Text.visible_intercalate hblank]
  simp only [Text.visible_trim]

/-- **Nothing is lost**, and nothing is shown twice or in another order. -/
theorem visible_contentAll_textBody (content : String) :
    Text.visible (contentAll (textBody content)) = Text.visible content.toList := by
  have hone : ∀ paragraph, Text.visible
      (contentAll [.element "p" [] (withBreaks paragraph), newline]) = Text.visible paragraph := by
    intro paragraph
    have hline : contentAll [newline] = ['\n'] := rfl
    have hblank : Text.visible ['\n'] = [] := rfl
    rw [contentAll, hline, Text.visible_append, hblank, Markup.content, contentAll_withBreaks,
      Text.visible_lines, List.append_nil]
  rw [textBody, contentAll_flatMap, Text.visible, List.filter_flatMap, ← visible_paragraphs]
  exact List.flatMap_congr fun paragraph _ => hone paragraph

/-- What is written for a text: all that is visible in the text, in order, and a paragraph for each
piece between empty lines that is not blank. -/
structure ShowsText (content : String) (written : List Char) : Prop where
  visible : Text.visible (unescape (outsideTags false written)) = Text.visible content.toList
  paragraphs : ∃ pieces parts, Text.CutsInto "\n\n".toList content.toList pieces ∧
    read? written = some parts ∧
    List.Forall₂ IsParagraph (pieces.filter fun piece => !piece.all Text.isBlank)
      (parts.filter isElement)

/-- **Texts are shown whole**, paragraph by paragraph and line by line, whatever they hold. -/
theorem showsText_writeAll (content : String) :
    ShowsText content (writeAll (textBody content)) := by
  have htagged := (areBare_textBody content).isTagged
  refine ⟨?_, _, _, (Text.cutsInto_iff (by decide)).mpr rfl, read?_writeAll htagged, ?_⟩
  · rw [unescape_outsideTags htagged, visible_contentAll_textBody]
  · have helements : (textBody content).filter isElement =
        (paragraphs content).map fun paragraph => .element "p" [] (withBreaks paragraph) := by
      rw [textBody, List.filter_flatMap, List.map_eq_flatMap]
      rfl
    rw [filter_isElement_joinAll, helements, paragraphs_eq, List.map_map, List.map_map,
      List.forall₂_map_right_iff, List.forall₂_same]
    intro piece hpiece
    exact isParagraph_element (by simpa using List.of_mem_filter hpiece)

-- A third line feed belongs to the next piece, where it is trimmed.
example : writeAll (textBody "a\nb\n\n\n <c> ") = "<p>a<br>b</p>\n<p>&lt;c&gt;</p>\n".toList := by
  cbv

end Page

end ReportGrid
