import ReportGrid.Embed
import ReportGrid.Proofs.OverlaidSettings

/-!
# Styling that is written down

A theme, a font, a palette and the height of charts can be asked for in two places: in a
configuration, where all but the theme stand in a part for charts, and in the options of a page that
embeds reports.  `Styling` is what can be asked for in both, and `IsConfigText` and `IsOptionsText`
say of a strict document that it asks for a styling: in whatever order its fields are, each of them
missing, null or a value.

* `Styling.IsConfig.isDocument` — a configuration that asks for a styling gives the properties of
  the styling, so that it is read as an overlay;
* `Config.parse_usable`, `Config.parse_unknownTheme`, `Config.parse_emptyPalette` — a configuration
  asks for its styling, or for something that is refused;
* `EmbedOptions.parse_eq`, `Styling.chartTheme_options` — options ask for the part of their styling
  that can be used;
* `Styling.isConfigText_write`, `Styling.isOptionsText_write` — a styling is asked for by the
  documents that have all its fields, with null for those that have no value.
-/

namespace ReportGrid

/-! ## Styling -/

/-- The styling that configurations and options can both ask for.  A height is a number. -/
structure Styling where
  theme : Option String
  fontFamily : Option String
  palette : Option (List String)
  height : Option Number

namespace Styling

/-- No styling. -/
def unset : Styling :=
  ⟨none, none, none, none⟩

/-- The settings that ask for a styling. -/
def given (st : Styling) : GivenSettings where
  theme := st.theme
  fontFamily := st.fontFamily
  palette := st.palette
  height := st.height.map .ofNumber
  titleAlign := none
  responsiveBreakpoint := none
  responsiveWidth := none
  legendPosition := none
  pageTitle := none

/-- The options that ask for a styling. -/
def options (st : Styling) : EmbedOptions :=
  ⟨st.theme, st.fontFamily, st.palette, st.height.map .ofNumber⟩

/-- The theme of a styling: a known theme, or else the default one, with the other properties in
place of its own. -/
def chartTheme (st : Styling) : ChartTheme :=
  let base := (st.theme.bind ChartTheme.ofName?).getD .default
  { base with
    fontFamily := st.fontFamily.getD base.fontFamily
    palette := st.palette.getD base.palette
    height := (st.height.map .ofNumber).getD base.height }

/-- Whether the theme of a styling is known, if it has one. -/
def HasKnownTheme (st : Styling) : Prop :=
  ∀ name, st.theme = some name → ChartTheme.ofName? name ≠ none

/-- Whether a styling can be used: its theme is known and its palette has a colour. -/
def IsUsable (st : Styling) : Prop :=
  st.HasKnownTheme ∧ st.palette ≠ some []

/-- A styling without the theme that is not known and without the palette that has no colour. -/
def usable (st : Styling) : Styling :=
  { st with
    theme := st.theme.filter fun name => (ChartTheme.ofName? name).isSome
    palette := st.palette.filter (· ≠ []) }

/-- The part of a styling that is read with some names, given the name of the height. -/
def upTo (heightName : String) (seen : List String) (st : Styling) : Styling where
  theme := if "theme" ∈ seen then st.theme else none
  fontFamily := if "fontFamily" ∈ seen then st.fontFamily else none
  palette := if "palette" ∈ seen then st.palette else none
  height := if heightName ∈ seen then st.height else none

/-- A styling that can be used loses nothing. -/
theorem usable_eq_self {st : Styling} (h : st.IsUsable) : st.usable = st := by
  obtain ⟨theme, fontFamily, palette, height⟩ := st
  obtain ⟨hknown, hpalette⟩ := h
  have htheme : theme.filter (fun name => (ChartTheme.ofName? name).isSome) = theme := by
    cases theme with
    | none => rfl
    | some name => simpa [Option.isSome_iff_ne_none] using hknown name rfl
  have hcolours : palette.filter (· ≠ []) = palette := by
    cases palette with
    | none => rfl
    | some colours => simpa using hpalette
  simp only [usable, htheme, hcolours]

/-- **What options ask for** is the part of their styling that can be used. -/
theorem chartTheme_options (st : Styling) : st.options.chartTheme = st.usable.chartTheme := by
  have htheme : (st.theme.filter fun name => (ChartTheme.ofName? name).isSome).bind
      ChartTheme.ofName? = st.theme.bind ChartTheme.ofName? := by
    cases st.theme with
    | none => rfl
    | some name => cases hname : ChartTheme.ofName? name <;> simp [Option.filter, hname]
  simp only [EmbedOptions.chartTheme, options, chartTheme, usable, htheme]

/-- Dropping what cannot be used leaves nothing to drop. -/
theorem usable_usable (st : Styling) : st.usable.usable = st.usable := by
  apply usable_eq_self
  constructor
  · intro name hname
    have hsome := (Option.filter_eq_some_iff.mp hname).2
    exact Option.isSome_iff_ne_none.mp hsome
  · intro hpalette
    simpa using (Option.filter_eq_some_iff.mp hpalette).2

end Styling

/-! ## Configurations -/

/-- Whether a tree is the part for charts of a configuration that asks for a styling. -/
def Tree.IsChartPart (tree : Tree) (st : Styling) : Prop :=
  ∃ fields, tree = .object fields .closed ∧
    AreNamed ["fontFamily", "palette", "height"] fields ∧
    Sets IsText (fields.lookup (some "fontFamily")) st.fontFamily ∧
    Sets AreTexts (fields.lookup (some "palette")) st.palette ∧
    Sets IsNumber (fields.lookup (some "height")) st.height

namespace Styling

variable (st : Styling)

/-- Whether fields are those of a configuration that asks for a styling.  A part for charts that is
left out asks for nothing. -/
structure IsConfig (fields : List (Option String × Tree)) : Prop where
  named : Tree.AreNamed ["theme", "chart"] fields
  theme : Tree.Sets Tree.IsText (fields.lookup (some "theme")) st.theme
  chart : ∃ part : Option Styling,
    Tree.Sets Tree.IsChartPart (fields.lookup (some "chart")) part ∧
      part.getD unset = { st with theme := none }

/-- Whether a text is a configuration that asks for a styling. -/
def IsConfigText (text : String) : Prop :=
  ∃ fields, Document.read .strict text.toList = ⟨.object fields .closed, false⟩ ∧
    st.IsConfig fields

/-- Whether fields are those of options that ask for a styling. -/
structure IsOptions (fields : List (Option String × Tree)) : Prop where
  named : Tree.AreNamed ["theme", "fontFamily", "palette", "chartHeight"] fields
  theme : Tree.Sets Tree.IsText (fields.lookup (some "theme")) st.theme
  fontFamily : Tree.Sets Tree.IsText (fields.lookup (some "fontFamily")) st.fontFamily
  palette : Tree.Sets Tree.AreTexts (fields.lookup (some "palette")) st.palette
  height : Tree.Sets Tree.IsNumber (fields.lookup (some "chartHeight")) st.height

/-- Whether options ask for a styling; without a text they ask for none. -/
def IsOptionsText : Option String → Prop
  | none => st = unset
  | some text => ∃ fields, Document.read .strict text.toList = ⟨.object fields .closed, false⟩ ∧
      st.IsOptions fields

end Styling

variable {st : Styling}

/-- A height that is a number is given by the field of the number. -/
theorem Tree.Sets.setsHeight {field : Option Tree} {value : Option Number}
    (h : Sets IsNumber field value) : SetsHeight field (value.map .ofNumber) := by
  cases h with
  | missing => exact .missing
  | null => exact .null
  | value hnumber =>
      obtain ⟨numeral, rfl, hn⟩ := hnumber
      exact .number hn (Height.isNearest_ofNumber (Numeral.strict?_ne_single hn))

/-- The part for charts gives the properties of its styling. -/
theorem Tree.IsChartPart.isChart {tree : Tree} (h : tree.IsChartPart st) :
    ∃ fields, tree = .object fields .closed ∧ st.given.IsChart fields := by
  obtain ⟨fields, rfl, hnamed, hfont, hpalette, hheight⟩ := h
  have hmissing : ∀ name ∉ ["fontFamily", "palette", "height"],
      ∀ {α : Type} {standsFor : Tree → α → Prop},
        Sets standsFor (fields.lookup (some name)) none := by
    intro name hname α standsFor
    rw [hnamed.lookup_eq_none hname]
    exact .missing
  exact ⟨fields, rfl, hnamed.isRecord, hfont, hpalette, hheight.setsHeight,
    hmissing _ (by decide), hmissing _ (by decide), hmissing _ (by decide), hmissing _ (by decide)⟩

/-- A configuration gives the properties of its styling. -/
theorem Styling.IsConfig.isDocument {fields : List (Option String × Tree)}
    (h : st.IsConfig fields) : st.given.IsDocument fields := by
  obtain ⟨hnamed, htheme, part, hchart, hpart⟩ := h
  refine ⟨hnamed.isRecord, htheme, ?_, [], ?_, ⟨by simp, by decide⟩, .missing⟩
  · have hunset : part = none → st.given.IsChart [] := by
      rintro rfl
      obtain ⟨theme, fontFamily, palette, height⟩ := st
      simp only [unset, Option.getD_none, mk.injEq] at hpart
      obtain ⟨-, rfl, rfl, rfl⟩ := hpart
      exact ⟨⟨by simp, by decide⟩, .missing, .missing, .missing, .missing, .missing, .missing,
        .missing⟩
    generalize fields.lookup (some "chart") = field at hchart ⊢
    cases hchart with
    | missing => exact ⟨[], .missing, hunset rfl⟩
    | null => exact ⟨[], .null, hunset rfl⟩
    | @value tree charts h =>
        have hcharts : tree.IsChartPart st := by
          rw [show charts = { st with theme := none } from hpart] at h
          exact h
        obtain ⟨inner, rfl, hinner⟩ := hcharts.isChart
        exact ⟨inner, .object inner, hinner⟩
  · rw [hnamed.lookup_eq_none (by decide)]
    exact .missing

namespace Tree

/-- Fields are passed over where those that are found by the names are. -/
theorem AreNamed.passFields_eq_ok {names : List String} {fields : List (Option String × Tree)}
    (h : AreNamed names fields)
    (hpass : ∀ name ∈ names, ∀ tree, fields.lookup (some name) = some tree → tree.pass = .ok ()) :
    passFields fields = .ok () := by
  rw [Tree.passFields_eq_ok]
  rintro ⟨written, tree⟩ hmem
  obtain ⟨name, hname, rfl⟩ := h.known _ hmem
  exact hpass name hname tree (h.lookup_eq hmem)

/-- A field that may be left out is passed over where its value is. -/
theorem Sets.pass_eq_ok {α : Type} {standsFor : Tree → α → Prop} {field : Option Tree}
    {value : Option α} (h : Sets standsFor field value)
    (hpass : ∀ tree a, standsFor tree a → tree.pass = .ok ()) (tree : Tree)
    (hfield : field = some tree) : tree.pass = .ok () := by
  subst hfield
  cases h with
  | null => rfl
  | value hstands => exact hpass _ _ hstands

theorem IsText.pass_eq_ok {tree : Tree} {text : String} (h : IsText tree text) :
    tree.pass = .ok () := by
  obtain rfl := h
  rfl

theorem AreTexts.pass_eq_ok {tree : Tree} {texts : List String} (h : AreTexts tree texts) :
    tree.pass = .ok () := by
  have htree : tree = (Json.strings texts).tree := h.trans (areTexts_strings texts).symm
  rw [htree]
  exact Json.pass_tree _

theorem IsNumber.pass_eq_ok {tree : Tree} {n : Number} (h : IsNumber tree n) :
    tree.pass = .ok () := by
  obtain ⟨numeral, rfl, -⟩ := h
  rfl

/-- The part for charts has no fault. -/
theorem IsChartPart.pass_eq_ok {tree : Tree} (h : tree.IsChartPart st) : tree.pass = .ok () := by
  obtain ⟨fields, rfl, hnamed, hfont, hpalette, hheight⟩ := h
  refine bind_eq_ok.mpr ⟨(), hnamed.passFields_eq_ok fun name hname => ?_, rfl⟩
  simp only [List.mem_cons, List.not_mem_nil, or_false] at hname
  rcases hname with rfl | rfl | rfl
  · exact hfont.pass_eq_ok fun _ _ => IsText.pass_eq_ok
  · exact hpalette.pass_eq_ok fun _ _ => AreTexts.pass_eq_ok
  · exact hheight.pass_eq_ok fun _ _ => IsNumber.pass_eq_ok

end Tree

/-- A configuration that asks for a styling has no fault. -/
theorem Styling.IsConfig.pass_eq_ok {fields : List (Option String × Tree)}
    (h : st.IsConfig fields) : (Tree.object fields .closed).pass = .ok () := by
  obtain ⟨part, hchart, -⟩ := h.chart
  refine bind_eq_ok.mpr ⟨(), h.named.passFields_eq_ok fun name hname => ?_, rfl⟩
  simp only [List.mem_cons, List.not_mem_nil, or_false] at hname
  rcases hname with rfl | rfl
  · exact h.theme.pass_eq_ok fun _ _ => Tree.IsText.pass_eq_ok
  · exact hchart.pass_eq_ok fun _ _ => Tree.IsChartPart.pass_eq_ok

namespace Config

/-- A configuration that asks for a styling is the one with the properties of the styling. -/
theorem parse_eq_given {text : String} (h : st.IsConfigText text) :
    parse text = st.given.config := by
  obtain ⟨fields, hread, hconfig⟩ := h
  exact parse_eq_config ⟨hread, hconfig.pass_eq_ok⟩ hconfig.isDocument

/-- A configuration with a theme that nobody knows is refused for it. -/
theorem parse_unknownTheme {text name : String} (h : st.IsConfigText text)
    (hname : st.theme = some name) (hunknown : ChartTheme.ofName? name = none) :
    parse text = .error (.unknownTheme name) := by
  rw [parse_eq_given h]
  exact st.given.config_of_unknown hname hunknown

/-- A configuration with an empty palette is refused for it, unless its theme is. -/
theorem parse_emptyPalette {text : String} (h : st.IsConfigText text) (hknown : st.HasKnownTheme)
    (hpalette : st.palette = some []) : parse text = .error .emptyPalette := by
  rw [parse_eq_given h]
  rcases st.given.base_or_unknown with ⟨base, hbase⟩ | ⟨name, hname, hunknown⟩
  · exact st.given.overlays_config.empty_palette base hbase hpalette
  · exact absurd hunknown (hknown name hname)

/-- **What a configuration asks for** is the theme of its styling. -/
theorem parse_usable {text : String} (h : st.IsConfigText text) (husable : st.IsUsable) :
    parse text = .ok ⟨st.chartTheme, Config.default.htmlTitle⟩ := by
  rw [parse_eq_given h]
  rcases st.given.base_or_unknown with ⟨base, hbase⟩ | ⟨name, hname, hunknown⟩
  · have hpalette : st.given.palette ≠ some [] := husable.2
    have htheme : (st.theme.bind ChartTheme.ofName?).getD .default = base.chart ∧
        base.htmlTitle = Config.default.htmlTitle := by
      cases hbase with
      | default h =>
          rw [show st.theme = none from h]
          exact ⟨rfl, rfl⟩
      | named h hname =>
          rw [show st.theme = some _ from h, Option.bind_some,
            ChartTheme.ofName?_eq_some_iff.mpr hname]
          exact ⟨rfl, rfl⟩
    rw [st.given.config_eq hbase, if_neg hpalette]
    simp only [GivenSettings.file, Styling.given, ChartSettings.apply, Styling.chartTheme, htheme,
      HeightSetting.bind_map_number, Option.getD_some, Option.getD_none]
  · exact absurd hunknown (husable.1 name hname)

end Config

/-! ## Options -/

theorem Tree.optional_chartHeight {tree : Tree} {value : Option Number}
    (h : Sets IsNumber (some tree) value) :
    optional EmbedOptions.height tree = .ok (value.map Height.ofNumber) := by
  cases h with
  | null => rfl
  | value hnumber =>
      obtain ⟨numeral, rfl, hn⟩ := hnumber
      simp [optional, EmbedOptions.height, quantity_number hn, Except.map, Height.ofQuantity]

/-- Options are read as those of their styling. -/
theorem EmbedOptions.parse_eq {text : Option String} (h : st.IsOptionsText text) :
    EmbedOptions.parse text = .ok st.options := by
  cases text with
  | none =>
      rw [show st = .unset from h]
      rfl
  | some text =>
      obtain ⟨fields, hread, hnamed, htheme, hfont, hpalette, hheight⟩ := h
      have hstep : ∀ name tree seen, (some name, tree) ∈ fields →
          readField (some 126) name tree (st.upTo "chartHeight" seen).options =
            .ok (st.upTo "chartHeight" (name :: seen)).options := by
        intro name tree seen hmem
        have hname := hnamed.mem_names hmem
        simp only [List.mem_cons, List.not_mem_nil, or_false] at hname
        rcases hname with rfl | rfl | rfl | rfl
        · have hset := hnamed.sets_field hmem htheme
          simp [readField, Tree.optional_string hset, Except.map, Styling.upTo, Styling.options]
        · have hset := hnamed.sets_field hmem hfont
          simp [readField, Tree.optional_string hset, Except.map, Styling.upTo, Styling.options]
        · have hset := hnamed.sets_field hmem hpalette
          simp [readField, Tree.optional_strings hset, Except.map, Styling.upTo,
            Styling.options]
        · have hset := hnamed.sets_field hmem hheight
          simp [readField, Tree.optional_chartHeight hset, Except.map, Styling.upTo,
            Styling.options]
      have hrecord : Tree.record .strict (some 126) EmbedOptions.names (readField (some 126))
          (st.upTo "chartHeight" []).options (.object fields .closed) =
          .ok (st.upTo "chartHeight" (Tree.knownNames EmbedOptions.names fields).reverse).options :=
        Tree.record_eq hnamed (by decide) hstep
      have hall :
          st.upTo "chartHeight" (Tree.knownNames EmbedOptions.names fields).reverse = st := by
        simp only [Styling.upTo, htheme.ite_eq EmbedOptions.names (by decide),
          hfont.ite_eq EmbedOptions.names (by decide),
          hpalette.ite_eq EmbedOptions.names (by decide),
          hheight.ite_eq EmbedOptions.names (by decide)]
      rw [hall] at hrecord
      exact Document.decode_eq hread hrecord

/-! ## Documents with all fields -/

/-- A value that may be missing, as JSON with null in its place. -/
def Json.orNull {α : Type} (json : α → Json) (value : Option α) : Json :=
  value.elim .null json

theorem Tree.sets_orNull {α : Type} {standsFor : Tree → α → Prop} {json : α → Json}
    {value : Option α} (h : ∀ a, value = some a → standsFor (json a).tree a) :
    Sets standsFor (some (Json.orNull json value).tree) value := by
  cases value with
  | none => exact .null
  | some a => exact .value (h a rfl)

namespace Styling

/-- The configuration with all fields of a styling. -/
def configDocument (st : Styling) : Json :=
  .object [("theme", .orNull .string st.theme), ("chart", .object [
    ("fontFamily", .orNull .string st.fontFamily), ("palette", .orNull .strings st.palette),
    ("height", .orNull .number st.height)])]

/-- The options with all fields of a styling. -/
def optionsDocument (st : Styling) : Json :=
  .object [("theme", .orNull .string st.theme), ("fontFamily", .orNull .string st.fontFamily),
    ("palette", .orNull .strings st.palette), ("chartHeight", .orNull .number st.height)]

/-- A configuration with all fields of a styling asks for it. -/
theorem isConfigText_write (hheight : ∀ n, st.height = some n → n.numeral.strict? = some n)
    (layout : Option Nat) : st.IsConfigText (String.ofList (st.configDocument.write layout)) := by
  rw [IsConfigText, String.toList_ofList, Document.read_write]
  refine ⟨_, rfl, ⟨by simp, by simp⟩, Tree.sets_orNull fun _ _ => rfl, ?_⟩
  refine ⟨some { st with theme := none }, .value ?_, rfl⟩
  exact ⟨_, rfl, ⟨by simp, by simp⟩, Tree.sets_orNull fun _ _ => rfl,
    Tree.sets_orNull fun texts _ => Tree.areTexts_strings texts,
    Tree.sets_orNull fun n hn => ⟨_, rfl, hheight n hn⟩⟩

/-- Options with all fields of a styling ask for it. -/
theorem isOptionsText_write (hheight : ∀ n, st.height = some n → n.numeral.strict? = some n)
    (layout : Option Nat) :
    st.IsOptionsText (some (String.ofList (st.optionsDocument.write layout))) := by
  rw [IsOptionsText, String.toList_ofList, Document.read_write]
  exact ⟨_, rfl, ⟨by simp, by simp⟩, Tree.sets_orNull fun _ _ => rfl,
    Tree.sets_orNull fun _ _ => rfl, Tree.sets_orNull fun texts _ => Tree.areTexts_strings texts,
    Tree.sets_orNull fun n hn => ⟨_, rfl, hheight n hn⟩⟩

end Styling

end ReportGrid
