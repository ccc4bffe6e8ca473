import ReportGrid.Json.Strict
import ReportGrid.Json.Relaxed

/-!
# Documents as they are written

`Document.read` puts the tokens of a text together to a `Tree`, which keeps what is written:
numerals with their digits, fields in their order with repeated names.

A text that is no document still gives a tree, cut off at the first fault.  The fault stands where
it was met: in place of a value (`Tree.cut`) or of the mark that should follow an item (`Ending`).
Readers walk a tree from left to right, so they meet a value of the wrong kind before or after the
fault just as it stands in the text.  A fault is given twice: for readers that pass over the place
and for readers that want a value there.

The reader of tokens is a machine with a stack of open containers, `State.step`, run over the tokens
once.
-/

namespace ReportGrid

/-- How a container ends: with its closing mark, or where the text stops being a document. -/
inductive Ending where
  | closed
  | broken (skipped demanded : Fault)
deriving DecidableEq, Repr

/-- A value as it is written.  The text of a string or of a name is missing when its escapes stand
for no text. -/
inductive Tree where
  | null
  | bool (value : Bool)
  | number (numeral : Numeral)
  | text (content : Option String)
  | array (items : List Tree) (ending : Ending)
  | object (fields : List (Option String × Tree)) (ending : Ending)
  | cut (skipped demanded : Fault)
deriving Repr

/-- A text read as a document: its value, and whether anything follows the value. -/
structure Document where
  root : Tree
  trailing : Bool

/-- A container that is still open; its items or fields are in reverse order.  An object may wait
for the value of a field. -/
inductive Open where
  | array (items : List Tree)
  | object (fields : List (Option String × Tree))
  | field (fields : List (Option String × Tree)) (name : Option String)

/-- What may come next: a value, the name of a field, the colon after a name, or the mark after an
item.  A value or a name may be left out where the container may be closed instead. -/
inductive Expected where
  | value (closable : Bool)
  | name (closable : Bool)
  | colon (fields : List (Option String × Tree)) (name : Option String)
  | mark

/-- The machine that puts tokens together. -/
inductive State where
  | reading (expected : Expected) (stack : List Open)
  | finished (document : Document)

namespace State

/-- Adds a container as an item to the open container around it. -/
def enclose (ending : Ending) (inner : Tree) : Open → Tree
  | .array items => .array (items.reverse ++ [inner]) ending
  | .object fields => .object fields.reverse ending
  | .field fields name => .object (fields.reverse ++ [(name, inner)]) ending

/-- Ends every open container after its last item, from the innermost on. -/
def abandon (ending : Ending) (inner : Tree) (stack : List Open) : Tree :=
  stack.foldl (enclose ending) inner

/-- The document with a fault in place of a value. -/
def cutValue (skipped demanded : Fault) (stack : List Open) : Document :=
  ⟨abandon (.broken skipped demanded) (.cut skipped demanded) stack, false⟩

/-- The document with a fault where the innermost container should go on or end. -/
def cutInside (skipped demanded : Fault) : List Open → Document
  | [] => ⟨.cut skipped demanded, false⟩
  | .array items :: stack =>
    let ending := .broken skipped demanded
    ⟨abandon ending (.array items.reverse ending) stack, false⟩
  | .object fields :: stack =>
    let ending := .broken skipped demanded
    ⟨abandon ending (.object fields.reverse ending) stack, false⟩
  | .field fields name :: stack => cutValue skipped demanded (.field fields name :: stack)

/-- Puts a finished value where it belongs. -/
def deliver (v : Tree) : List Open → State
  | [] => .finished ⟨v, false⟩
  | .array items :: stack => .reading .mark (.array (v :: items) :: stack)
  | .field fields name :: stack => .reading .mark (.object ((name, v) :: fields) :: stack)
  | .object fields :: stack => .reading .mark (.object fields :: stack)

/-- The value of a word. -/
def ofKeyword : Keyword → Tree
  | .null => .null
  | .true => .bool true
  | .false => .bool false
  | .infinity => .number ⟨none, .infinity⟩
  | .nan => .number ⟨none, .nan⟩

/-- The name of a field that a token gives.  Strict documents name fields by texts only. -/
def fieldName? (d : Dialect) : Token → Option (Option String)
  | .text content => some content
  | .name content => if d = .relaxed then some content else none
  | .keyword word => if d = .relaxed then some (some word.spelling) else none
  | _ => none

/-- A token where a value may start. -/
def stepValue (closable : Bool) (stack : List Open) : Token → State
  | .openArray => .reading (.value true) (.array [] :: stack)
  | .openObject => .reading (.name true) (.object [] :: stack)
  | .text content => deliver (.text content) stack
  | .number numeral => deliver (.number numeral) stack
  | .keyword word => deliver (ofKeyword word) stack
  | .closeArray =>
    match closable, stack with
    | true, .array items :: stack => deliver (.array items.reverse .closed) stack
    | _, _ => .finished (cutValue .malformed .malformed stack)
  | .broken _ skipped demanded => .finished (cutValue skipped demanded stack)
  | _ => .finished (cutValue .malformed .malformed stack)

/-- A token where a name may stand. -/
def stepName (d : Dialect) (closable : Bool) (stack : List Open) (t : Token) : State :=
  match fieldName? d t, stack with
  | some name, .object fields :: stack => .reading (.colon fields name) stack
  | _, _ =>
    match t, closable, stack with
    | .closeObject, true, .object fields :: stack =>
      deliver (.object fields.reverse .closed) stack
    | .broken true skipped demanded, _, _ => .finished (cutInside skipped demanded stack)
    | _, _, _ => .finished (cutInside .malformed .malformed stack)

/-- A token after an item of a container.  Relaxed documents may close a container after a comma. -/
def stepMark (d : Dialect) : List Open → Token → State
  | .array items :: stack, .comma => .reading (.value (d = .relaxed)) (.array items :: stack)
  | .object fields :: stack, .comma => .reading (.name (d = .relaxed)) (.object fields :: stack)
  | .array items :: stack, .closeArray => deliver (.array items.reverse .closed) stack
  | .object fields :: stack, .closeObject => deliver (.object fields.reverse .closed) stack
  | stack, _ => .finished (cutInside .malformed .malformed stack)

/-- Takes one token. -/
def step (d : Dialect) : State → Token → State
  | .finished document, _ => .finished { document with trailing := true }
  | .reading (.value closable) stack, t => stepValue closable stack t
  | .reading (.name closable) stack, t => stepName d closable stack t
  | .reading .mark stack, t => stepMark d stack t
  | .reading (.colon fields name) stack, .colon =>
    .reading (.value false) (.field fields name :: stack)
  | .reading (.colon fields name) stack, _ =>
    .finished (cutValue .malformed .malformed (.field fields name :: stack))

/-- The document when the tokens are used up. -/
def document : State → Document
  | .finished document => document
  | .reading (.value _) stack => cutValue .incomplete .incomplete stack
  | .reading (.colon fields name) stack =>
    cutValue .incomplete .incomplete (.field fields name :: stack)
  | .reading _ stack => cutInside .incomplete .incomplete stack

end State

/-- The tokens of a text in a dialect. -/
def Dialect.tokens : Dialect → List Char → List Token
  | .strict => Strict.tokens
  | .relaxed => Relaxed.tokens

/-- The document that tokens make up. -/
def Document.ofTokens (d : Dialect) (tokens : List Token) : Document :=
  (tokens.foldl (State.step d) (.reading (.value false) [])).document

/-- Reads a text as a document. -/
def Document.read (d : Dialect) (s : List Char) : Document :=
  ofTokens d (d.tokens s)

end ReportGrid
