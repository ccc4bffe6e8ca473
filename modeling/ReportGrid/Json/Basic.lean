import ReportGrid.Binary.Basic

/-!
# JSON values

A value of a document, as far as reading and writing it can tell values apart: numbers keep
whether they are integers, and an object is the list of its fields.  Objects that were read have
their fields sorted by name, each name once (`sorted` builds such a list, the last value of a name
wins); objects that the program makes list their fields in the order in which they are written.
-/

namespace ReportGrid

/-- A number of a document: an integer, a double, or a single precision value. -/
inductive Number where
  | int (value : Int)
  | double (value : Binary)
  | single (value : Binary)
deriving DecidableEq, Repr

/-- A value of a document. -/
inductive Json where
  | null
  | bool (value : Bool)
  | number (value : Number)
  | string (value : String)
  | array (items : List Json)
  | object (fields : List (String × Json))
deriving Repr

namespace Json

/-- An integer as a value. -/
def int (n : Int) : Json :=
  .number (.int n)

/-- A list of texts as a value. -/
def strings (texts : List String) : Json :=
  .array (texts.map .string)

/-- Sets a field in a list of fields that is sorted by name. -/
def setField (name : String) (value : Json) : List (String × Json) → List (String × Json)
  | [] => [(name, value)]
  | (k, v) :: rest =>
    if name < k then (name, value) :: (k, v) :: rest
    else if name = k then (name, value) :: rest
    else (k, v) :: setField name value rest

/-- The fields sorted by name; of several with one name the last is kept. -/
def sorted (fields : List (String × Json)) : List (String × Json) :=
  fields.foldl (fun done field => setField field.1 field.2 done) []

/-- The value of the first field with a name. -/
def lookup (name : String) (fields : List (String × Json)) : Option Json :=
  (fields.find? fun field => field.1 == name).map (·.2)

/-- A field of an object; other values have none. -/
def field? (name : String) : Json → Option Json
  | .object fields => lookup name fields
  | _ => none

/-- The items of an array. -/
def items? : Json → Option (List Json)
  | .array items => some items
  | _ => none

/-- The text of a string. -/
def string? : Json → Option String
  | .string text => some text
  | _ => none

mutual

/-- How deeply arrays and objects are nested; a value without any has depth zero. -/
def depth : Json → Nat
  | .array items => depthOfItems items + 1
  | .object fields => depthOfFields fields + 1
  | _ => 0

/-- The greatest depth of some items. -/
def depthOfItems : List Json → Nat
  | [] => 0
  | item :: rest => max item.depth (depthOfItems rest)

/-- The greatest depth of the values of some fields. -/
def depthOfFields : List (String × Json) → Nat
  | [] => 0
  | (_, value) :: rest => max value.depth (depthOfFields rest)

end

end Json

end ReportGrid
