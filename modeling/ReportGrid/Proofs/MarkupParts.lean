import ReportGrid.Page.Markup

/-!
# The parts of a page

What can be asked about a tree: its elements at any depth (`Markup.elementsAll`, in the order of
their opening tags), their attributes and style classes, the elements right inside an element, and
the text inside a part.

A page that is read back cannot tell neighbouring texts apart.  `Markup.joinAll` joins them, and the
lemmas named after it say that no answer depends on that.
-/

namespace ReportGrid.Markup

/-! ## Questions about a tree -/

/-- The tag of a part.  Text has none. -/
def tag? : Markup → Option String
  | .text _ => none
  | .void tag _ => some tag
  | .element tag _ _ => some tag

/-- The attributes of a part.  Text has none. -/
def attributes : Markup → List (String × String)
  | .text _ => []
  | .void _ attributes => attributes
  | .element _ attributes _ => attributes

/-- The value of an attribute. -/
def attribute? (name : String) (part : Markup) : Option String :=
  part.attributes.lookup name

/-- The style classes of a part. -/
def classes (part : Markup) : List String :=
  match part.attribute? "class" with
  | none => []
  | some names => (Text.splitOn [' '] names.toList).map String.ofList

/-- The parts inside a part. -/
def children : Markup → List Markup
  | .element _ _ children => children
  | _ => []

/-- Whether a part is an element or a void element. -/
def isElement : Markup → Bool
  | .text _ => false
  | _ => true

/-- The elements right inside a part. -/
def childElements (part : Markup) : List Markup :=
  part.children.filter isElement

mutual

/-- A part and everything inside it, without the texts. -/
def elements : Markup → List Markup
  | .text _ => []
  | .void tag attributes => [.void tag attributes]
  | .element tag attributes children => .element tag attributes children :: elementsAll children

/-- The elements of some parts at any depth. -/
def elementsAll : List Markup → List Markup
  | [] => []
  | part :: rest => elements part ++ elementsAll rest

end

mutual

/-- The text inside a part. -/
def content : Markup → List Char
  | .text words => words.toList
  | .void _ _ => []
  | .element _ _ children => contentAll children

/-- The text of some parts. -/
def contentAll : List Markup → List Char
  | [] => []
  | part :: rest => content part ++ contentAll rest

end

/-- The elements of two lists of parts follow each other. -/
theorem elementsAll_append (parts more : List Markup) :
    elementsAll (parts ++ more) = elementsAll parts ++ elementsAll more := by
  induction parts with
  | nil => rfl
  | cons part parts ih => simp [elementsAll, ih]

/-- The elements of some parts are those of each part in turn. -/
theorem elementsAll_eq_flatMap (parts : List Markup) :
    elementsAll parts = parts.flatMap elements := by
  induction parts with
  | nil => rfl
  | cons part parts ih => rw [elementsAll, List.flatMap_cons, ih]

/-- Parts that are made of a list have the elements of what is made of each item. -/
theorem elementsAll_flatMap {α : Type} (f : α → List Markup) (l : List α) :
    elementsAll (l.flatMap f) = l.flatMap fun a => elementsAll (f a) := by
  simp [elementsAll_eq_flatMap, List.flatMap_assoc]

@[simp] theorem elements_newline : elements newline = [] := rfl

/-! ## Joined texts -/

/-- A text as a part; an empty text is none. -/
def textPart (s : List Char) : List Markup :=
  if s = [] then [] else [.text (String.ofList s)]

mutual

/-- A part with the neighbouring texts inside it joined. -/
def join : Markup → Markup
  | .text content => .text content
  | .void tag attributes => .void tag attributes
  | .element tag attributes children => .element tag attributes (joinAll [] children)

/-- Parts behind some text, with neighbouring texts joined. -/
def joinAll (before : List Char) : List Markup → List Markup
  | [] => textPart before
  | .text content :: rest => joinAll (before ++ content.toList) rest
  | .void tag attributes :: rest => textPart before ++ .void tag attributes :: joinAll [] rest
  | .element tag attributes children :: rest =>
    textPart before ++ .element tag attributes (joinAll [] children) :: joinAll [] rest

end

/-- Joining texts keeps the tag of a part. -/
@[simp] theorem tag?_join (part : Markup) : part.join.tag? = part.tag? := by
  cases part <;> rfl

/-- Joining texts keeps the attributes of a part. -/
@[simp] theorem attributes_join (part : Markup) : part.join.attributes = part.attributes := by
  cases part <;> rfl

@[simp] theorem attribute?_join (name : String) (part : Markup) :
    part.join.attribute? name = part.attribute? name := by
  simp [attribute?]

@[simp] theorem classes_join (part : Markup) : part.join.classes = part.classes := by
  simp [classes]

/-- What is inside a joined part is joined with nothing in front. -/
@[simp] theorem children_join (part : Markup) : part.join.children = joinAll [] part.children := by
  cases part <;> simp [join, children, joinAll, textPart]

/-- A text has no elements. -/
@[simp] theorem elementsAll_textPart (s : List Char) : elementsAll (textPart s) = [] := by
  unfold textPart
  split <;> rfl

@[simp] theorem filter_isElement_textPart (s : List Char) : (textPart s).filter isElement = [] := by
  unfold textPart
  split <;> rfl

/-- The text of a text part is the text it was made of, be it empty or not. -/
@[simp] theorem contentAll_textPart (s : List Char) : contentAll (textPart s) = s := by
  unfold textPart
  split
  · next h => rw [h, contentAll]
  · simp [contentAll, content]

/-- The texts of two lists of parts follow each other. -/
theorem contentAll_append (parts more : List Markup) :
    contentAll (parts ++ more) = contentAll parts ++ contentAll more := by
  induction parts with
  | nil => rfl
  | cons part parts ih => simp [contentAll, ih]

/-- Parts that are made of a list have the texts of what is made of each item. -/
theorem contentAll_flatMap {α : Type} (f : α → List Markup) (l : List α) :
    contentAll (l.flatMap f) = l.flatMap fun a => contentAll (f a) := by
  induction l with
  | nil => rfl
  | cons a l ih => rw [List.flatMap_cons, contentAll_append, ih, List.flatMap_cons]

/-- **Joining texts keeps the elements**, at every depth and in order. -/
theorem elementsAll_joinAll (before : List Char) (parts : List Markup) :
    elementsAll (joinAll before parts) = (elementsAll parts).map join := by
  match parts with
  | [] => simp [joinAll, elementsAll]
  | .text content :: rest =>
      rw [joinAll, elementsAll_joinAll _ rest]
      rfl
  | .void tag attributes :: rest =>
      simp [joinAll, elementsAll_append, elementsAll, elements, elementsAll_joinAll [] rest, join]
  | .element tag attributes children :: rest =>
      simp [joinAll, elementsAll_append, elementsAll, elements, elementsAll_joinAll [] rest,
        elementsAll_joinAll [] children, join]

/-- The elements of a joined part are its elements, joined. -/
theorem elements_join (part : Markup) : elements part.join = (elements part).map join := by
  cases part with
  | element tag attributes children => simp [join, elements, elementsAll_joinAll]
  | _ => rfl

/-- Joining texts keeps the elements of a list, one level deep. -/
theorem filter_isElement_joinAll (before : List Char) (parts : List Markup) :
    (joinAll before parts).filter isElement = (parts.filter isElement).map join := by
  induction parts generalizing before with
  | nil => simp [joinAll]
  | cons part rest ih => cases part <;> simp [joinAll, ih, List.filter_cons, isElement, join]

/-- Joining texts keeps the elements right inside a part. -/
theorem childElements_join (part : Markup) :
    part.join.childElements = part.childElements.map join := by
  rw [childElements, children_join, filter_isElement_joinAll, childElements]

/-- Joining texts keeps the text. -/
theorem contentAll_joinAll (before : List Char) (parts : List Markup) :
    contentAll (joinAll before parts) = before ++ contentAll parts := by
  match parts with
  | [] => simp [joinAll, contentAll]
  | .text content :: rest =>
      rw [joinAll, contentAll_joinAll _ rest, List.append_assoc]
      rfl
  | .void tag attributes :: rest =>
      simp [joinAll, contentAll_append, contentAll, content, contentAll_joinAll [] rest]
  | .element tag attributes children :: rest =>
      simp [joinAll, contentAll_append, contentAll, content, contentAll_joinAll [] rest,
        contentAll_joinAll [] children]

/-- Joining texts keeps the text of a part. -/
@[simp] theorem content_join (part : Markup) : part.join.content = part.content := by
  cases part with
  | element tag attributes children => simp [join, content, contentAll_joinAll]
  | _ => rfl

end ReportGrid.Markup
