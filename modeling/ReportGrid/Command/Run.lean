import ReportGrid.Command.Arguments
import ReportGrid.Command.Path
import ReportGrid.Command.Workspace
import ReportGrid.Page.Basic
import ReportGrid.Plan.Dump

/-!
# Running the command

A run reads the configuration, the template and the payload, in this order, and then writes the
plan or the page.  It fails if both inputs are standard input, if one of the three cannot be read,
if the configuration is refused, or if the output cannot be written; nothing is written before all
inputs have been read.  What the template and the payload say never makes it fail.

`Command.start` is the whole program: it reads the command line and runs what it asks for.
-/

namespace ReportGrid

/-- Why a run fails. -/
inductive RunError where
  | bothFromInput
  | config (error : ConfigError)
  | file (error : FileError)
deriving DecidableEq, Repr

/-- The message for a reader. -/
def RunError.message : RunError → String
  | .bothFromInput => "Template and payload cannot both be read from stdin"
  | .config error => error.message
  | .file error => error.message

/-- How the program ends: without an error, with one, or without a run. -/
inductive Outcome where
  | done
  | failed (error : RunError)
  | stopped (reason : ArgumentStop)
deriving DecidableEq, Repr

/-- The number that the program ends with. -/
def Outcome.exitCode : Outcome → UInt32
  | .done => 0
  | .failed _ => 1
  | .stopped .usage => 2
  | .stopped _ => 0

namespace Command

/-- The line that a request for the version prints. -/
def versionLine : String :=
  "rplan 0.1.0\n"

/-- The shortcodes of a layout that no section has, each where it is first used. -/
def absent (rows : List LayoutRow) (sections : Sections) : List String :=
  (Layout.shortcodes rows).filter fun shortcode => (sections.get? shortcode).isNone

/-- What is written for a template and a payload. -/
def output (format : OutputFormat) (config : Config) (template payload : String) : String :=
  let plan := RenderPlan.ofTexts template payload
  match format with
  | .json => plan.dump config.chart
  | .html => Page.html plan config

/-- What is printed when no file is named: the plan ends its line, the page has ended it. -/
def printed (format : OutputFormat) (text : String) : String :=
  match format with
  | .json => text ++ "\n"
  | .html => text

section

variable {m : Type → Type} [Monad m] (w : Workspace m)

/-- Reads a text from a file. -/
def readText (path : String) : ExceptT RunError m String := do
  match ← (w.readFile path : m _) with
  | .error error => throw (.file error)
  | .ok bytes =>
    match decodeText bytes with
    | .error error => throw (.file error)
    | .ok text => return text

/-- Reads a template or a payload, from standard input if its path says so. -/
def readInput (path : String) : ExceptT RunError m String := do
  if Path.isStandardInput path then
    match decodeText (← (w.readInput : m _)) with
    | .error error => throw (.file error)
    | .ok text => return text
  else readText w path

/-- Reads the configuration; without a path it is the default one. -/
def loadConfig : Option String → ExceptT RunError m Config
  | none => return .default
  | some path => do
    match Config.parse (← readText w path) with
    | .error error => throw (.config error)
    | .ok config => return config

/-- Logs what is odd about the inputs. -/
def logInputs (verbose : Bool) (template payload : String) : m Unit := do
  let rows := Layout.parse template
  let missing := absent rows (Payload.ofText payload)
  if rows.isEmpty then w.note "template has no layout rows"
  if verbose && !missing.isEmpty then
    w.note ("template references shortcodes missing from the payload: " ++
      (Json.strings missing).compact)

/-- Writes the output to a file, or prints it. -/
def writeOutput (args : Arguments) (text : String) : ExceptT RunError m Unit := do
  match args.output with
  | none => (w.print (printed args.format text) : m _)
  | some path =>
    match ← (w.writeFile path text : m _) with
    | .error error => throw (.file error)
    | .ok () => return ()

/-- Runs the command. -/
def run (args : Arguments) : ExceptT RunError m Unit := do
  if Path.isStandardInput args.template && Path.isStandardInput args.payload then
    throw .bothFromInput
  let config ← loadConfig w args.config
  let template ← readInput w args.template
  let payload ← readInput w args.payload
  (logInputs w args.verbose template payload : m _)
  writeOutput w args (output args.format config template payload)

/-- Runs the program with the arguments of its command line. -/
def start (args : List String) : m Outcome := do
  match Arguments.parse args with
  | .error reason =>
    if reason = .version then w.print versionLine
    return .stopped reason
  | .ok args =>
    match ← (run w args).run with
    | .ok () => return .done
    | .error error => return .failed error

end

end Command

end ReportGrid
