/-!
# Command-line arguments

The command takes a template and a payload, and optionally an output, a format and a configuration.
Options have a short name of one letter and a long name.  The value of a short option may be the
rest of its argument, with or without an equals sign; that of a long option may follow an equals
sign; otherwise it is the next argument, which then must not look like an option.

Arguments are read from left to right, and reading stops at the first thing that is wrong or at a
request for help or for the version.
-/

namespace ReportGrid

/-- The formats of the output. -/
inductive OutputFormat where
  | json
  | html
deriving DecidableEq, Repr

/-- The format with a name. -/
def OutputFormat.ofName? (name : String) : Option OutputFormat :=
  [("json", .json), ("html", .html)].lookup name

/-- What the command is asked to do. -/
structure Arguments where
  template : String
  payload : String
  output : Option String
  format : OutputFormat
  config : Option String
  verbose : Bool
deriving DecidableEq, Repr

/-- Why there is nothing to run: the arguments are wrong, or ask for help or for the version. -/
inductive ArgumentStop where
  | usage
  | help
  | version
deriving DecidableEq, Repr

namespace Arguments

/-- The options that take a value. -/
inductive ValueOption where
  | template
  | payload
  | output
  | format
  | config
deriving DecidableEq, Repr

/-- The names of arguments. -/
inductive Name where
  | value (name : ValueOption)
  | verbose
  | help
  | version
deriving DecidableEq, Repr

/-- The argument with a letter. -/
def Name.ofLetter? : Char → Option Name
  | 't' => some (.value .template)
  | 'p' => some (.value .payload)
  | 'o' => some (.value .output)
  | 'e' => some (.value .format)
  | 'c' => some (.value .config)
  | 'v' => some .verbose
  | 'h' => some .help
  | 'V' => some .version
  | _ => none

/-- The argument with a long name. -/
def Name.ofLong? (name : String) : Option Name :=
  [("template", .value .template), ("payload", .value .payload), ("output", .value .output),
    ("outputFormat", .value .format), ("configFile", .value .config), ("verbose", .verbose),
    ("help", .help), ("version", .version)].lookup name

/-- The arguments read so far. -/
structure Draft where
  template : Option String
  payload : Option String
  output : Option String
  format : Option OutputFormat
  config : Option String
  verbose : Bool
deriving DecidableEq, Repr

namespace Draft

/-- Before the first argument. -/
def empty : Draft :=
  ⟨none, none, none, none, none, false⟩

/-- Puts a value in an empty place. -/
def fill {α : Type} (place : Option α) (value : α) : Except ArgumentStop (Option α) :=
  if place.isSome then .error .usage else .ok (some value)

/-- Sets an option.  An empty value, a second value and an unknown format are wrong. -/
def set (found : Draft) (name : ValueOption) (value : String) : Except ArgumentStop Draft :=
  if value = "" then .error .usage
  else
    match name with
    | .template => (fill found.template value).map fun v => { found with template := v }
    | .payload => (fill found.payload value).map fun v => { found with payload := v }
    | .output => (fill found.output value).map fun v => { found with output := v }
    | .config => (fill found.config value).map fun v => { found with config := v }
    | .format => do
      let format ← (OutputFormat.ofName? value).elim (.error .usage) .ok
      (fill found.format format).map fun v => { found with format := v }

/-- Sets what takes no value. -/
def setFlag (found : Draft) : Name → Except ArgumentStop Draft
  | .verbose => if found.verbose then .error .usage else .ok { found with verbose := true }
  | .help => .error .help
  | .version => .error .version
  | .value _ => .error .usage

/-- The arguments, when the template and the payload are there. -/
def finish (found : Draft) : Except ArgumentStop Arguments :=
  match found.template, found.payload with
  | some template, some payload =>
    .ok ⟨template, payload, found.output, found.format.getD .json, found.config, found.verbose⟩
  | _, _ => .error .usage

end Draft

/-- Reads an argument of letters.  The last letter may leave an option that still needs a value. -/
def readLetters (found : Draft) : List Char → Except ArgumentStop (Draft × Option ValueOption)
  | [] => .ok (found, none)
  | letter :: rest =>
    match Name.ofLetter? letter with
    | none => .error .usage
    | some (.value name) =>
      match rest with
      | [] => .ok (found, some name)
      | '=' :: value => (found.set name (String.ofList value)).map (·, none)
      | value => (found.set name (String.ofList value)).map (·, none)
    | some flag => do
      let found ← found.setFlag flag
      readLetters found rest

/-- Reads an argument with a long name, which may hold a value after an equals sign. -/
def readLong (found : Draft) (s : List Char) :
    Except ArgumentStop (Draft × Option ValueOption) :=
  let value := (s.dropWhile (· ≠ '=')).tail?
  match Name.ofLong? (String.ofList (s.takeWhile (· ≠ '='))), value with
  | none, _ => .error .usage
  | some (.value name), none => .ok (found, some name)
  | some (.value name), some value => (found.set name (String.ofList value)).map (·, none)
  | some flag, none => (found.setFlag flag).map (·, none)
  | some _, some _ => .error .usage

/-- Whether an argument may be the value of the option before it. -/
def isValue (arg : String) : Bool :=
  arg == "-" || !(['-'].isPrefixOf arg.toList)

/-- Reads arguments. -/
def read (found : Draft) : List String → Except ArgumentStop Draft
  | [] => .ok found
  | arg :: rest => do
    let (found, pending) ←
      match arg.toList with
      | ['-', '-'] => if rest.isEmpty then .ok (found, none) else .error .usage
      | '-' :: '-' :: name => readLong found name
      | '-' :: letter :: letters => readLetters found (letter :: letters)
      | _ => .error .usage
    match pending, rest with
    | none, rest => read found rest
    | some name, value :: rest =>
      if isValue value then do
        let found ← found.set name value
        read found rest
      else .error .usage
    | some _, [] => .error .usage

/-- Reads a command line. -/
def parse (args : List String) : Except ArgumentStop Arguments := do
  (← read .empty args).finish

end Arguments

end ReportGrid
