import ReportGrid.Json.Tree

/-!
# Reading documents

Readers walk a tree from left to right and report the first fault they meet.

* `Tree.json` gives the value of a tree; it wants every part of it.
* `Tree.pass` passes over a tree and only looks for the place where it is cut off.
* `Tree.record` reads a record from an object or from the array of its fields in their order.

Strict documents may nest 127 containers.  The limit counts only where values are wanted: passing
over a tree has none.
-/

namespace ReportGrid

/-- How many more containers may be opened; none stands for any number. -/
abbrev Room := Option Nat

/-- Opens a container. -/
def Room.enter : Room → Except Fault Room
  | none => .ok none
  | some 0 => .error .malformed
  | some (n + 1) => .ok (some n)

/-- How many containers a document of a dialect may nest. -/
def Dialect.room : Dialect → Room
  | .strict => some 127
  | .relaxed => none

/-- What a numeral stands for in a dialect; none when it has no value. -/
def Dialect.quantity? (d : Dialect) (n : Numeral) : Option Quantity :=
  match d with
  | .strict => n.strict?.map .number
  | .relaxed => n.relaxed?

/-- The end of a container, for readers that want its items. -/
def Ending.demanded : Ending → Except Fault Unit
  | .closed => .ok ()
  | .broken _ demanded => .error demanded

/-- The end of a container, for readers that pass over it. -/
def Ending.skipped : Ending → Except Fault Unit
  | .closed => .ok ()
  | .broken skipped _ => .error skipped

namespace Tree

/-- What a numeral stands for; one without a value is a fault of the document. -/
def quantity (d : Dialect) (n : Numeral) : Except Fault Quantity :=
  (d.quantity? n).elim (.error .malformed) .ok

/-- A text whose escapes stand for no text is a fault of the document. -/
def content (written : Option String) : Except Fault String :=
  written.elim (.error .malformed) .ok

mutual

/-- The value of a tree.  Fields are sorted by name, and of several with one name the last
counts. -/
def json (d : Dialect) (room : Room) : Tree → Except Fault Json
  | .null => .ok .null
  | .bool value => .ok (.bool value)
  | .number n => (quantity d n).map Quantity.json
  | .text written => (content written).map Json.string
  | .array items ending => do
    let inside ← room.enter
    let values ← jsonItems d inside items
    ending.demanded
    return .array values
  | .object fields ending => do
    let inside ← room.enter
    let values ← jsonFields d inside fields
    ending.demanded
    return .object (Json.sorted values)
  | .cut _ demanded => .error demanded

/-- The values of items. -/
def jsonItems (d : Dialect) (room : Room) : List Tree → Except Fault (List Json)
  | [] => .ok []
  | item :: rest => do
    let value ← json d room item
    let values ← jsonItems d room rest
    return value :: values

/-- The names and values of fields. -/
def jsonFields (d : Dialect) (room : Room) :
    List (Option String × Tree) → Except Fault (List (String × Json))
  | [] => .ok []
  | (written, tree) :: rest => do
    let name ← content written
    let value ← json d room tree
    let values ← jsonFields d room rest
    return (name, value) :: values

end

mutual

/-- Passes over a tree. -/
def pass : Tree → Except Fault Unit
  | .array items ending => do
    passItems items
    ending.skipped
  | .object fields ending => do
    passFields fields
    ending.skipped
  | .cut skipped _ => .error skipped
  | _ => .ok ()

/-- Passes over items. -/
def passItems : List Tree → Except Fault Unit
  | [] => .ok ()
  | item :: rest => do
    pass item
    passItems rest

/-- Passes over fields. -/
def passFields : List (Option String × Tree) → Except Fault Unit
  | [] => .ok ()
  | (_, tree) :: rest => do
    pass tree
    passFields rest

end

/-- The fault of a tree of a kind that its reader does not want.  A number or a text is read to its
end first; a container is refused at its opening mark. -/
def unwanted (d : Dialect) : Tree → Fault
  | .number n => if (d.quantity? n).isSome then .mismatch else .malformed
  | .text none => .malformed
  | .cut _ demanded => demanded
  | _ => .mismatch

/-- A text. -/
def string (d : Dialect) : Tree → Except Fault String
  | .text (some written) => .ok written
  | tree => .error (tree.unwanted d)

/-- A list of texts. -/
def strings (d : Dialect) (room : Room) : Tree → Except Fault (List String)
  | .array items ending => do
    let _ ← room.enter
    let texts ← items.mapM (string d)
    ending.demanded
    return texts
  | tree => .error (tree.unwanted d)

/-- A count of 32 bits.  Strict documents give it as an integer in the range; relaxed documents may
give any number, which is taken to the range. -/
def count32 (d : Dialect) : Tree → Except Fault Nat
  | .number n =>
    match d with
    | .strict =>
      match n.strict? with
      | none => .error .malformed
      | some (.int value) =>
        if 0 ≤ value ∧ value < Numeral.countLimit then .ok value.toNat else .error .mismatch
      | some _ => .error .mismatch
    | .relaxed => n.saturated?.elim (.error .malformed) .ok
  | tree => .error (tree.unwanted d)

/-- A value that may be left out; null leaves it out too. -/
def optional {α : Type} (read : Tree → Except Fault α) : Tree → Except Fault (Option α)
  | .null => .ok none
  | tree => (read tree).map some

/-- Passes over a field of no meaning.  Relaxed documents give every value a meaning first. -/
def ignore (d : Dialect) (room : Room) (tree : Tree) : Except Fault Unit :=
  match d with
  | .strict => tree.pass
  | .relaxed => (tree.json d room).map fun _ => ()

section Record

variable {σ : Type} (d : Dialect) (room : Room) (names : List String)
  (read : String → Tree → σ → Except Fault σ)

/-- Reads the fields of a record from an object.  A name that has been read already is refused
before its value is looked at; other names are passed over. -/
def recordFields : List String → σ → List (Option String × Tree) → Except Fault σ
  | _, found, [] => .ok found
  | seen, found, (written, tree) :: rest => do
    let name ← content written
    if names.contains name then
      if seen.contains name then .error .mismatch
      else
        let found ← read name tree found
        recordFields (name :: seen) found rest
    else
      ignore d room tree
      recordFields seen found rest

/-- Reads the fields of a record from the items of an array; also the items that are left over. -/
def recordItems (ending : Ending) : σ → List String → List Tree → Except Fault (σ × List Tree)
  | found, [], items => .ok (found, items)
  | found, name :: names, item :: items => do
    let found ← read name item found
    recordItems ending found names items
  | _, _ :: _, [] => do
    ending.demanded
    .error .mismatch

/-- The end of an array that gives a record.  Strict documents have nothing after the last field;
relaxed documents may have anything. -/
def recordEnd (ending : Ending) (surplus : List Tree) : Except Fault Unit :=
  match d, surplus with
  | _, [] => ending.demanded
  | .strict, _ => .error .malformed
  | .relaxed, _ => do
    passItems surplus
    ending.skipped

/-- Reads a record whose fields have the given names; `read` takes the value of a field. -/
def record (start : σ) : Tree → Except Fault σ
  | .object fields ending => do
    let found ← recordFields d room names read [] start fields
    ending.demanded
    return found
  | .array items ending => do
    let (found, surplus) ← recordItems read ending start names items
    recordEnd d ending surplus
    return found
  | tree => .error (tree.unwanted d)

end Record

end Tree

/-- Reads a whole text with a reader for its value; nothing may follow the value. -/
def Document.decode {α : Type} (d : Dialect) (read : Tree → Except Fault α) (s : List Char) :
    Except Fault α := do
  let document := Document.read d s
  let value ← read document.root
  if document.trailing then .error .malformed else .ok value

/-- The value of a text in a dialect. -/
def Json.parse (d : Dialect) (s : List Char) : Except Fault Json :=
  Document.decode d (Tree.json d d.room) s

end ReportGrid
