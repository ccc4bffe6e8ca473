import ReportGrid.Proofs.Escaping
import ReportGrid.Proofs.MarkupParts

/-!
# Reading a page by its tags

`Markup.read?` reads the text of a page back to a tree, from left to right and with a stack of open
elements.  It is strict: it knows the tags of pages and no others, an element has to be closed in
order, attribute values stand in quotation marks, and the marks of tags may stand nowhere else.  A
page that it reads is therefore well nested, and every mark in it belongs to a tag.

Text between tags is one part, however many parts it was written from, so reading what is written
gives the tree with its neighbouring texts joined (`Markup.read?_writeAll`).
-/

namespace ReportGrid.Markup

/-! ## The reader -/

/-- The tags that are never closed. -/
def voidTags : List String :=
  ["!DOCTYPE", "meta", "br"]

/-- The tags that are closed again. -/
def elementTags : List String :=
  ["html", "head", "title", "body", "main", "div", "section", "h2", "p", "table", "thead", "tbody",
    "tr", "th", "td"]

/-- An element that is still open: its tag, and the parts before it. -/
structure Pending where
  tag : String
  attributes : List (String × String)
  before : List Markup

/-- A tag that is still open: its name and the attributes that have been read. -/
structure TagStart where
  name : List Char
  attributes : List (String × String)

/-- Where a reader is, with what it has read there as it is written: in text, in the name of a tag,
in the name of an attribute, after its equals sign, in its value, or after the value. -/
inductive Place where
  | text (written : List Char)
  | tag (written : List Char)
  | attribute (start : TagStart) (written : List Char)
  | equals (start : TagStart) (name : List Char)
  | value (start : TagStart) (name written : List Char)
  | afterValue (start : TagStart)

/-- A reader: the open elements, the parts of the innermost one, and the place. -/
structure Reader where
  stack : List Pending
  parts : List Markup
  place : Place

namespace TagStart

/-- The tag with one more attribute. -/
def add (start : TagStart) (name value : List Char) : TagStart :=
  { start with attributes := start.attributes ++ [(String.ofList name, String.ofList value)] }

/-- The end of a tag.  A closing tag ends the innermost open element and has no attributes. -/
def finish (start : TagStart) (stack : List Pending) (parts : List Markup) : Option Reader :=
  match start.name with
  | '/' :: name =>
    match stack with
    | [] => none
    | pending :: stack =>
      if pending.tag.toList = name ∧ start.attributes = [] then
        some ⟨stack, pending.before ++ [.element pending.tag pending.attributes parts], .text []⟩
      else none
  | name =>
    if String.ofList name ∈ voidTags then
      some ⟨stack, parts ++ [.void (String.ofList name) start.attributes], .text []⟩
    else if String.ofList name ∈ elementTags then
      some ⟨⟨String.ofList name, start.attributes, parts⟩ :: stack, [], .text []⟩
    else none

end TagStart

namespace Reader

/-- Takes one character.  An attribute without a value has the empty one. -/
def step (r : Reader) (c : Char) : Option Reader :=
  match r.place with
  | .text written =>
    if c = '<' then some ⟨r.stack, r.parts ++ textPart (unescape written), .tag []⟩
    else if isMark c then none
    else some { r with place := .text (written ++ [c]) }
  | .tag written =>
    if c = '>' then TagStart.finish ⟨written, []⟩ r.stack r.parts
    else if c = ' ' then some { r with place := .attribute ⟨written, []⟩ [] }
    else if isMark c then none
    else some { r with place := .tag (written ++ [c]) }
  | .attribute start written =>
    if c = '>' then (start.add written []).finish r.stack r.parts
    else if c = '=' then some { r with place := .equals start written }
    else if isMark c || c = ' ' then none
    else some { r with place := .attribute start (written ++ [c]) }
  | .equals start name =>
    if c = '"' then some { r with place := .value start name [] } else none
  | .value start name written =>
    if c = '"' then some { r with place := .afterValue (start.add name (unescape written)) }
    else if isMark c then none
    else some { r with place := .value start name (written ++ [c]) }
  | .afterValue start =>
    if c = '>' then start.finish r.stack r.parts
    else if c = ' ' then some { r with place := .attribute start [] }
    else none

/-- The reader behind a text. -/
def after (s : List Char) (r : Reader) : Option Reader :=
  s.foldlM step r

/-- The parts that have been read, where no element and no tag is open. -/
def result? (r : Reader) : Option (List Markup) :=
  match r.stack, r.place with
  | [], .text written => some (r.parts ++ textPart (unescape written))
  | _, _ => none

end Reader

/-- Reads the text of a page. -/
def read? (s : List Char) : Option (List Markup) :=
  (Reader.after s ⟨[], [], .text []⟩).bind Reader.result?

/-! ## What can be read -/

/-- The names of attributes. -/
def attributeNames : List String :=
  ["charset", "class", "data-shortcode", "data-chart-type", "data-chart"]

/-- Whether attributes have names of pages. -/
def IsNamed (attributes : List (String × String)) : Prop :=
  ∀ item ∈ attributes, item.1 ∈ attributeNames

/-- Whether the tag of a part is known and its attributes are named. -/
def IsTagged : Markup → Prop
  | .text _ => True
  | .void tag attributes => tag ∈ voidTags ∧ IsNamed attributes
  | .element tag attributes _ => tag ∈ elementTags ∧ IsNamed attributes

/-! ## Reading what is written -/

/-- The names of tags hold nothing that ends a name or starts a closing tag. -/
theorem plain_of_mem_tags {tag : String} (h : tag ∈ voidTags ++ elementTags) :
    tag.toList.head? ≠ some '/' ∧ ∀ c ∈ tag.toList, isMark c = false ∧ c ≠ ' ' := by
  have hall : (voidTags ++ elementTags).all (fun tag => tag.toList.head? ≠ some '/' &&
      tag.toList.all fun c => !isMark c && c ≠ ' ') = true := by decide
  simpa using List.all_eq_true.mp hall tag h

/-- The names of attributes hold nothing that ends a name. -/
theorem plain_of_mem_attributeNames {name : String} (h : name ∈ attributeNames) :
    ∀ c ∈ name.toList, isMark c = false ∧ c ≠ ' ' ∧ c ≠ '=' := by
  have hall : attributeNames.all (fun name =>
      name.toList.all fun c => !isMark c && (c ≠ ' ' && c ≠ '=')) = true := by decide
  simpa using List.all_eq_true.mp hall name h

namespace TagStart

/-- The end of a tag that is no closing one. -/
theorem finish_opening {tag : String} (h : tag.toList.head? ≠ some '/')
    (attributes : List (String × String)) (stack : List Pending) (parts : List Markup) :
    finish ⟨tag.toList, attributes⟩ stack parts =
      if tag ∈ voidTags then some ⟨stack, parts ++ [.void tag attributes], .text []⟩
      else if tag ∈ elementTags then some ⟨⟨tag, attributes, parts⟩ :: stack, [], .text []⟩
      else none := by
  unfold finish
  split
  next name hname =>
    change tag.toList = '/' :: name at hname
    simp [hname] at h
  next => simp

theorem finish_void {tag : String} (h : tag ∈ voidTags) (attributes : List (String × String))
    (stack : List Pending) (parts : List Markup) :
    finish ⟨tag.toList, attributes⟩ stack parts =
      some ⟨stack, parts ++ [.void tag attributes], .text []⟩ := by
  rw [finish_opening (plain_of_mem_tags (List.mem_append_left _ h)).1, if_pos h]

theorem finish_element {tag : String} (h : tag ∈ elementTags) (attributes : List (String × String))
    (stack : List Pending) (parts : List Markup) :
    finish ⟨tag.toList, attributes⟩ stack parts =
      some ⟨⟨tag, attributes, parts⟩ :: stack, [], .text []⟩ := by
  have hvoid : ∀ tag ∈ elementTags, tag ∉ voidTags := by decide
  rw [finish_opening (plain_of_mem_tags (List.mem_append_right _ h)).1, if_neg (hvoid tag h),
    if_pos h]

end TagStart

namespace Reader

theorem after_append (s t : List Char) (r : Reader) :
    after (s ++ t) r = (after s r).bind (after t) :=
  List.foldlM_append

theorem after_cons (c : Char) (s : List Char) (r : Reader) :
    after (c :: s) r = (step r c).bind (after s) :=
  List.foldlM_cons

/-- Characters that a place takes as they are written are added to it. -/
theorem after_written {stack : List Pending} {parts : List Markup} (place : List Char → Place)
    {s : List Char} (h : ∀ written, ∀ c ∈ s,
      step ⟨stack, parts, place written⟩ c = some ⟨stack, parts, place (written ++ [c])⟩)
    (written : List Char) :
    after s ⟨stack, parts, place written⟩ = some ⟨stack, parts, place (written ++ s)⟩ := by
  induction s generalizing written with
  | nil => simp [after]
  | cons c s ih =>
      rw [after_cons, h written c List.mem_cons_self, Option.bind_some,
        ih fun written d hd => h written d (List.mem_cons_of_mem _ hd)]
      simp

/-- Characters that a place takes as they are written are all that is read there. -/
theorem after_whole {stack : List Pending} {parts : List Markup} (place : List Char → Place)
    {s : List Char} (h : ∀ written, ∀ c ∈ s,
      step ⟨stack, parts, place written⟩ c = some ⟨stack, parts, place (written ++ [c])⟩) :
    after s ⟨stack, parts, place []⟩ = some ⟨stack, parts, place s⟩ :=
  after_written place h []

/-- Escaped text is added to the text. -/
theorem after_escape (stack : List Pending) (parts : List Markup) (written s : List Char) :
    after (escape s) ⟨stack, parts, .text written⟩ =
      some ⟨stack, parts, .text (written ++ escape s)⟩ := by
  refine after_written .text ?_ written
  intro written c hc
  have hmark := isMark_of_mem_escape hc
  have hless : c ≠ '<' := by
    rintro rfl
    simp [isMark] at hmark
  simp [step, hless, hmark]

/-- An attribute is added to the tag. -/
theorem after_writeAttribute {stack : List Pending} {parts : List Markup} {place : Place}
    {start : TagStart} (item : String × String)
    (hplace : step ⟨stack, parts, place⟩ ' ' = some ⟨stack, parts, .attribute start []⟩)
    (hname : item.1 ∈ attributeNames) :
    after (writeAttribute item) ⟨stack, parts, place⟩ =
      some ⟨stack, parts, .afterValue ⟨start.name, start.attributes ++ [item]⟩⟩ := by
  obtain ⟨name, value⟩ := item
  have hread : after name.toList ⟨stack, parts, .attribute start []⟩ =
      some ⟨stack, parts, .attribute start name.toList⟩ := by
    refine after_whole (.attribute start) ?_
    intro written c hc
    obtain ⟨hmark, hspace, hequals⟩ := plain_of_mem_attributeNames hname c hc
    have hgreater : c ≠ '>' := by
      rintro rfl
      simp [isMark] at hmark
    simp [step, hmark, hspace, hequals, hgreater]
  have hvalue : after (escape value.toList) ⟨stack, parts, .value start name.toList []⟩ =
      some ⟨stack, parts, .value start name.toList (escape value.toList)⟩ := by
    refine after_whole (.value start name.toList) ?_
    intro written c hc
    have hmark := isMark_of_mem_escape hc
    have hquote : c ≠ '"' := by
      rintro rfl
      simp [isMark] at hmark
    simp [step, hmark, hquote]
  have hwritten : writeAttribute (name, value) =
      ' ' :: (name.toList ++ ('=' :: '"' :: (escape value.toList ++ ['"']))) := by
    simp [writeAttribute]
  have hequals : step ⟨stack, parts, .attribute start name.toList⟩ '=' =
      some ⟨stack, parts, .equals start name.toList⟩ := rfl
  have hopening : step ⟨stack, parts, .equals start name.toList⟩ '"' =
      some ⟨stack, parts, .value start name.toList []⟩ := rfl
  rw [hwritten, after_cons, hplace, Option.bind_some, after_append, hread, Option.bind_some,
    after_cons, hequals, Option.bind_some, after_cons, hopening, Option.bind_some, after_append,
    hvalue, Option.bind_some, after_cons]
  simp [step, after, TagStart.add, unescape_escape]

/-- Attributes are added to the tag one after the other. -/
theorem after_attributes {stack : List Pending} {parts : List Markup}
    {attributes : List (String × String)} (start : TagStart) (h : IsNamed attributes) :
    after (attributes.flatMap writeAttribute) ⟨stack, parts, .afterValue start⟩ =
      some ⟨stack, parts, .afterValue ⟨start.name, start.attributes ++ attributes⟩⟩ := by
  induction attributes generalizing start with
  | nil => simp [after]
  | cons item rest ih =>
      rw [List.flatMap_cons, after_append,
        after_writeAttribute item rfl (h item List.mem_cons_self), Option.bind_some,
        ih _ fun other hother => h other (List.mem_cons_of_mem _ hother)]
      simp

/-- An opening tag ends the text before it and is read to its end. -/
theorem after_openTag {tag : String} {attributes : List (String × String)} (stack : List Pending)
    (parts : List Markup) (written : List Char)
    (htag : ∀ c ∈ tag.toList, isMark c = false ∧ c ≠ ' ') (h : IsNamed attributes) :
    after (openTag tag attributes) ⟨stack, parts, .text written⟩ =
      TagStart.finish ⟨tag.toList, attributes⟩ stack (parts ++ textPart (unescape written)) := by
  have hname : after tag.toList ⟨stack, parts ++ textPart (unescape written), .tag []⟩ =
      some ⟨stack, parts ++ textPart (unescape written), .tag tag.toList⟩ := by
    refine after_whole .tag ?_
    intro written c hc
    obtain ⟨hmark, hspace⟩ := htag c hc
    have hgreater : c ≠ '>' := by
      rintro rfl
      simp [isMark] at hmark
    simp [step, hmark, hspace, hgreater]
  have hwritten : openTag tag attributes =
      '<' :: (tag.toList ++ (attributes.flatMap writeAttribute ++ ['>'])) := by
    simp [openTag]
  rw [hwritten, after_cons]
  change after _ ⟨stack, parts ++ textPart (unescape written), .tag []⟩ = _
  rw [after_append, hname, Option.bind_some]
  cases attributes with
  | nil =>
      change (TagStart.finish _ _ _).bind some = _
      exact Option.bind_fun_some _
  | cons item rest =>
      rw [List.flatMap_cons, List.append_assoc, after_append,
        after_writeAttribute item rfl (h item List.mem_cons_self), Option.bind_some, after_append,
        after_attributes _ fun other hother => h other (List.mem_cons_of_mem _ hother),
        Option.bind_some]
      change (TagStart.finish _ _ _).bind some = _
      exact Option.bind_fun_some _

/-- The closing tag of the innermost open element ends that element. -/
theorem after_closeTag {tag : String} (attributes : List (String × String)) (stack : List Pending)
    (before parts : List Markup) (written : List Char)
    (htag : ∀ c ∈ tag.toList, isMark c = false ∧ c ≠ ' ') :
    after (closeTag tag) ⟨⟨tag, attributes, before⟩ :: stack, parts, .text written⟩ =
      some ⟨stack, before ++ [.element tag attributes (parts ++ textPart (unescape written))],
        .text []⟩ := by
  have hwritten : closeTag tag = openTag (String.ofList ('/' :: tag.toList)) [] := by
    simp [closeTag, openTag]
  have hname : ∀ c ∈ (String.ofList ('/' :: tag.toList)).toList, isMark c = false ∧ c ≠ ' ' := by
    simpa using ⟨by decide, htag⟩
  rw [hwritten, after_openTag _ _ _ hname (by simp [IsNamed])]
  simp [TagStart.finish]

/-- **A run over a tree.**  The parts are added with their texts joined; a text at the end stays
open. -/
theorem after_writeAll (parts : List Markup) (h : ∀ m ∈ elementsAll parts, IsTagged m)
    (stack : List Pending) (before : List Markup) (pending : List Char) :
    ∃ done rest,
      after (writeAll parts) ⟨stack, before, .text (escape pending)⟩ =
        some ⟨stack, done, .text (escape rest)⟩ ∧
      done ++ textPart rest = before ++ joinAll pending parts := by
  -- The text that is open waits for the next tag, so it is carried along as what it stands for.
  match parts with
  | [] => exact ⟨before, pending, rfl, by simp [joinAll]⟩
  | .text content :: parts =>
      obtain ⟨done, rest, hread, hparts⟩ :=
        after_writeAll parts h stack before (pending ++ content.toList)
      refine ⟨done, rest, ?_, by simpa [joinAll] using hparts⟩
      rw [writeAll, write, after_append, after_escape, Option.bind_some, ← escape_append, hread]
  | .void tag attributes :: parts =>
      obtain ⟨⟨htag, hnamed⟩, hrest⟩ := List.forall_mem_cons.mp h
      obtain ⟨done, rest, hread, hparts⟩ := after_writeAll parts hrest stack
        (before ++ textPart pending ++ [.void tag attributes]) []
      refine ⟨done, rest, ?_, by simpa [joinAll] using hparts⟩
      have hplain := (plain_of_mem_tags (List.mem_append_left _ htag)).2
      rw [writeAll, write, after_append, after_openTag _ _ _ hplain hnamed, unescape_escape,
        TagStart.finish_void htag, Option.bind_some, ← hread, escape_nil]
  | .element tag attributes children :: parts =>
      obtain ⟨⟨htag, hnamed⟩, hinner⟩ := List.forall_mem_cons.mp h
      obtain ⟨hchildren, hrest⟩ := List.forall_mem_append.mp hinner
      obtain ⟨inside, last, hinside, hjoined⟩ := after_writeAll children hchildren
        (⟨tag, attributes, before ++ textPart pending⟩ :: stack) [] []
      obtain ⟨done, rest, hread, hparts⟩ := after_writeAll parts hrest stack
        (before ++ textPart pending ++ [.element tag attributes (joinAll [] children)]) []
      refine ⟨done, rest, ?_, by simpa [joinAll] using hparts⟩
      have hplain := (plain_of_mem_tags (List.mem_append_right _ htag)).2
      rw [List.nil_append] at hjoined
      rw [writeAll, write, after_append, after_append, after_append,
        after_openTag _ _ _ hplain hnamed, unescape_escape, TagStart.finish_element htag,
        Option.bind_some]
      rw [escape_nil] at hinside hread
      rw [hinside, Option.bind_some, after_closeTag _ _ _ _ _ hplain, unescape_escape, hjoined,
        Option.bind_some]
      exact hread

end Reader

/-- **Reading what is written** gives the tree with its texts joined, also behind a start that has
been read to some parts and a text. -/
theorem read?_append_writeAll {start : List Char} {before : List Markup} {pending : List Char}
    (hstart : Reader.after start ⟨[], [], .text []⟩ = some ⟨[], before, .text (escape pending)⟩)
    {parts : List Markup} (h : ∀ m ∈ elementsAll parts, IsTagged m) :
    read? (start ++ writeAll parts) = some (before ++ joinAll pending parts) := by
  obtain ⟨done, rest, hread, hparts⟩ := Reader.after_writeAll parts h [] before pending
  rw [read?, Reader.after_append, hstart, Option.bind_some, hread, Option.bind_some,
    ← hparts]
  simp [Reader.result?, unescape_escape]

theorem read?_writeAll {parts : List Markup} (h : ∀ m ∈ elementsAll parts, IsTagged m) :
    read? (writeAll parts) = some (joinAll [] parts) := by
  have hstart : Reader.after [] ⟨[], [], .text []⟩ = some ⟨[], [], .text (escape [])⟩ := rfl
  exact read?_append_writeAll hstart h

-- Elements that are not closed in order and marks outside tags are never read.
example : read? "<div><p></div></p>".toList = none := by rfl

example : read? "<p>1 > 0</p>".toList = none := by rfl

end ReportGrid.Markup
