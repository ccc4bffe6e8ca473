import ReportGrid.Chart.Theme
import ReportGrid.Json.Reader

/-!
# Configuration

A configuration document sets what a report looks like: a named theme, single properties of its
charts, and the title of its page.  What it does not set keeps the value of the theme, or of the
defaults.

The document may be strict or relaxed.  A text that is neither is refused for the fault that it has
as a strict document.  Apart from that, only an unknown theme and an empty palette are refused, in
this order (`Config.ofFile`).
-/

namespace ReportGrid

/-- What a report looks like. -/
structure Config where
  chart : ChartTheme
  htmlTitle : String
deriving DecidableEq, Repr

/-- The look of a report that is not configured. -/
def Config.default : Config :=
  ⟨.default, "Report"⟩

/-- Why a configuration is refused. -/
inductive ConfigError where
  | unreadable (fault : Fault)
  | unknownTheme (name : String)
  | emptyPalette
deriving DecidableEq, Repr

/-- The message for a reader. -/
def ConfigError.message : ConfigError → String
  | .unreadable .incomplete => "configuration ends early"
  | .unreadable .malformed => "configuration is no JSON document"
  | .unreadable .mismatch => "configuration holds a value of the wrong kind"
  | .unknownTheme name => "Invalid config: unknown theme \x60" ++ name ++ "\x60"
  | .emptyPalette => "Invalid config: chart.palette must not be empty"

/-- The height of a chart as a document gives it. -/
inductive HeightSetting where
  | number (height : Height)
  | text (value : String)
deriving DecidableEq, Repr

/-- The height that a setting gives; a text that is no height gives none. -/
def HeightSetting.height? : HeightSetting → Option Height
  | .number height => some height
  | .text value => Height.ofText? value

/-- The properties of charts that a document sets. -/
structure ChartSettings where
  fontFamily : Option String
  palette : Option (List String)
  height : Option HeightSetting
  titleAlign : Option String
  responsiveBreakpoint : Option Nat
  responsiveWidth : Option String
  legendPosition : Option String
deriving DecidableEq, Repr

/-- What a configuration document sets. -/
structure ConfigFile where
  theme : Option String
  chart : Option ChartSettings
  htmlTitle : Option String
deriving DecidableEq, Repr

namespace Tree

/-- A height: a number, or a text.  The whole value is read before another kind is refused. -/
def height (d : Dialect) (room : Room) : Tree → Except Fault HeightSetting
  | .number n => (quantity d n).map fun q => .number (.ofQuantity q)
  | tree => do
    match ← tree.json d room with
    | .string value => return .text value
    | _ => .error .mismatch

end Tree

namespace ChartSettings

/-- No settings. -/
def none : ChartSettings :=
  ⟨.none, .none, .none, .none, .none, .none, .none⟩

/-- The names of the settings, in the order in which an array gives them. -/
def names : List String :=
  ["fontFamily", "palette", "height", "titleAlign", "responsiveBreakpoint", "responsiveWidth",
    "legendPosition"]

/-- Reads the value of one setting. -/
def readField (d : Dialect) (room : Room) (name : String) (tree : Tree) (found : ChartSettings) :
    Except Fault ChartSettings :=
  let string := tree.optional (Tree.string d)
  match name with
  | "fontFamily" => string.map fun v => { found with fontFamily := v }
  | "palette" => (tree.optional (Tree.strings d room)).map fun v => { found with palette := v }
  | "height" => (tree.optional (Tree.height d room)).map fun v => { found with height := v }
  | "titleAlign" => string.map fun v => { found with titleAlign := v }
  | "responsiveBreakpoint" =>
    (tree.optional (Tree.count32 d)).map fun v => { found with responsiveBreakpoint := v }
  | "responsiveWidth" => string.map fun v => { found with responsiveWidth := v }
  | "legendPosition" => string.map fun v => { found with legendPosition := v }
  | _ => .ok found

/-- Reads the settings of charts. -/
def read (d : Dialect) (room : Room) (tree : Tree) : Except Fault ChartSettings := do
  let inside ← room.enter
  Tree.record d inside names (readField d inside) none tree

/-- A theme with the settings in place of its own values. -/
def apply (s : ChartSettings) (theme : ChartTheme) : ChartTheme where
  fontFamily := s.fontFamily.getD theme.fontFamily
  palette := s.palette.getD theme.palette
  height := (s.height.bind HeightSetting.height?).getD theme.height
  titleAlign := s.titleAlign.getD theme.titleAlign
  responsiveBreakpoint := s.responsiveBreakpoint.getD theme.responsiveBreakpoint
  responsiveWidth := s.responsiveWidth.getD theme.responsiveWidth
  legendPosition := s.legendPosition.getD theme.legendPosition

end ChartSettings

namespace ConfigFile

/-- A document that sets nothing. -/
def empty : ConfigFile :=
  ⟨none, none, none⟩

/-- Reads the settings of the page: its title. -/
def readPage (d : Dialect) (room : Room) (tree : Tree) : Except Fault (Option String) := do
  let inside ← room.enter
  Tree.record d inside ["title"] (fun _ tree _ => tree.optional (Tree.string d)) none tree

/-- Reads the value of one part of the document. -/
def readField (d : Dialect) (room : Room) (name : String) (tree : Tree) (found : ConfigFile) :
    Except Fault ConfigFile :=
  match name with
  | "theme" => (tree.optional (Tree.string d)).map fun v => { found with theme := v }
  | "chart" => (tree.optional (ChartSettings.read d room)).map fun v => { found with chart := v }
  | "html" => (tree.optional (readPage d room)).map fun v => { found with htmlTitle := v.join }
  | _ => .ok found

/-- The names of the parts, in the order in which an array gives them. -/
def names : List String :=
  ["theme", "chart", "html"]

/-- Reads the value of a document. -/
def read (d : Dialect) (tree : Tree) : Except Fault ConfigFile := do
  let inside ← d.room.enter
  Tree.record d inside names (readField d inside) empty tree

/-- What a text sets: as a strict document, or else as a relaxed one. -/
def parse (text : String) : Except ConfigError ConfigFile :=
  match Document.decode .strict (read .strict) text.toList with
  | .ok file => .ok file
  | .error fault =>
    match Document.decode .relaxed (read .relaxed) text.toList with
    | .ok file => .ok file
    | .error _ => .error (.unreadable fault)

end ConfigFile

namespace Config

/-- The configuration that a document gives. -/
def ofFile (file : ConfigFile) : Except ConfigError Config := do
  let base ←
    match file.theme with
    | none => .ok ChartTheme.default
    | some name => (ChartTheme.ofName? name).elim (.error (.unknownTheme name)) .ok
  let settings := file.chart.getD .none
  if settings.palette = some [] then .error .emptyPalette
  else .ok ⟨settings.apply base, file.htmlTitle.getD default.htmlTitle⟩

/-- The configuration that a text gives. -/
def parse (text : String) : Except ConfigError Config := do
  ofFile (← ConfigFile.parse text)

end Config

end ReportGrid
