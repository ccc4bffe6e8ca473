import ReportGrid.Plan.Dump
import ReportGrid.Config

/-!
# Embedding

A page that builds reports itself asks for plans and charts by texts.  Its options are a strict
document with the theme, the font, the palette and the height of charts.  Unlike a configuration
they are lenient about values: an unknown theme is the default one, and an empty palette is that of
the theme.
-/

namespace ReportGrid

/-- The options of a page that embeds reports. -/
structure EmbedOptions where
  theme : Option String
  fontFamily : Option String
  palette : Option (List String)
  chartHeight : Option Height
deriving DecidableEq, Repr

namespace EmbedOptions

/-- Options that set nothing. -/
def empty : EmbedOptions :=
  ⟨none, none, none, none⟩

/-- The names of the options, in the order in which an array gives them. -/
def names : List String :=
  ["theme", "fontFamily", "palette", "chartHeight"]

/-- A height given as a number. -/
def height : Tree → Except Fault Height
  | .number n => (Tree.quantity .strict n).map .ofQuantity
  | tree => .error (tree.unwanted .strict)

/-- Reads the value of one option. -/
def readField (room : Room) (name : String) (tree : Tree) (found : EmbedOptions) :
    Except Fault EmbedOptions :=
  let string := tree.optional (Tree.string .strict)
  match name with
  | "theme" => string.map fun v => { found with theme := v }
  | "fontFamily" => string.map fun v => { found with fontFamily := v }
  | "palette" =>
    (tree.optional (Tree.strings .strict room)).map fun v => { found with palette := v }
  | "chartHeight" => (tree.optional height).map fun v => { found with chartHeight := v }
  | _ => .ok found

/-- Reads the value of options. -/
def read (tree : Tree) : Except Fault EmbedOptions := do
  let inside ← Dialect.strict.room.enter
  Tree.record .strict inside names (readField inside) empty tree

/-- The options that a text gives; without a text they set nothing. -/
def parse (text : Option String) : Except Fault EmbedOptions :=
  text.elim (.ok empty) fun text => Document.decode .strict read text.toList

/-- The theme that options ask for. -/
def chartTheme (options : EmbedOptions) : ChartTheme :=
  let base := (options.theme.bind ChartTheme.ofName?).getD .default
  { base with
    fontFamily := options.fontFamily.getD base.fontFamily
    palette := (options.palette.filter (· ≠ [])).getD base.palette
    height := options.chartHeight.getD base.height }

end EmbedOptions

namespace Embed

/-- The dump of the plan of a template and a payload. -/
def plan (template payload : String) (options : Option String) : Except Fault String := do
  let options ← EmbedOptions.parse options
  return (RenderPlan.ofTexts template payload).dump options.chartTheme

/-- The chart of a data document, as compact JSON.  A text that is no document has no data. -/
def chart (data kind title : String) (options : Option String) : Except Fault String := do
  let options ← EmbedOptions.parse options
  let value := ((Json.parse .strict data.toList).toOption).getD .null
  return (ChartSpec.buildForTag (.ofJson value) kind title options.chartTheme).json.compact

end Embed

end ReportGrid
