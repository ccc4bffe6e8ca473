import ReportGrid.Text

/-!
# Markup

A page is a tree of elements with attributes, void elements and text.  Printing a tree is the only
way from it to characters, and it escapes every text and every attribute value, so the marks
`<`, `>` and `"` of the result are those of tags.
-/

namespace ReportGrid

/-- A part of a page. -/
inductive Markup where
  | text (content : String)
  | void (tag : String) (attributes : List (String × String))
  | element (tag : String) (attributes : List (String × String)) (children : List Markup)
deriving Repr

namespace Markup

/-- The characters that are written as entities, with their entities, in the order in which they are
replaced.  The ampersand comes first because it starts every entity. -/
def entities : List (Char × String) :=
  [('&', "&amp;"), ('<', "&lt;"), ('>', "&gt;"), ('"', "&quot;"), ('\x27', "&#39;")]

/-- A text with its special characters written as entities. -/
def escape (s : List Char) : List Char :=
  entities.foldl (fun done entity => Text.replaceChar entity.1 entity.2.toList done) s

/-- An attribute as it stands in a tag. -/
def writeAttribute (item : String × String) : List Char :=
  ' ' :: item.1.toList ++ ['=', '"'] ++ escape item.2.toList ++ ['"']

/-- The tag that opens an element. -/
def openTag (tag : String) (attributes : List (String × String)) : List Char :=
  '<' :: tag.toList ++ attributes.flatMap writeAttribute ++ ['>']

/-- The tag that closes an element. -/
def closeTag (tag : String) : List Char :=
  ['<', '/'] ++ tag.toList ++ ['>']

mutual

/-- The characters of a part of a page. -/
def write : Markup → List Char
  | .text content => escape content.toList
  | .void tag attributes => openTag tag attributes
  | .element tag attributes children =>
    openTag tag attributes ++ writeAll children ++ closeTag tag

/-- The characters of some parts of a page. -/
def writeAll : List Markup → List Char
  | [] => []
  | part :: rest => write part ++ writeAll rest

end

/-- The end of a line. -/
def newline : Markup :=
  .text "\n"

/-- An element that holds text. -/
def textElement (tag : String) (attributes : List (String × String)) (content : String) : Markup :=
  .element tag attributes [.text content]

end Markup

end ReportGrid
