import ReportGrid.Proofs.GivenSettings

/-!
# A configuration over a theme

The configuration that a document stands for has the properties that the document gives in place of
those of its theme or of the defaults, and nothing else is changed.

* `GivenSettings.overlays_config` — what is given stands over the theme, unless the theme is unknown
  or the palette has no colour;
* `ConfigFile.Rearranged.isDocument` — fields in another order, null for a missing value and fields
  of other names give the same;
* `Config.palette_ne_nil` — no text is a configuration without a colour;
* `Config.parse_overlays` — all of this for the texts of such documents.
-/

namespace ReportGrid

/-! ## Over a theme -/

/-- Whether a value stands in another one's place, or that one is kept where there is none. -/
inductive Replaces {α : Type} : Option α → α → α → Prop where
  | kept {old : α} : Replaces none old old
  | given {old : α} (new : α) : Replaces (some new) old new

theorem replaces_getD {α : Type} (value : Option α) (old : α) :
    Replaces value old (value.getD old) := by
  cases value with
  | none => exact .kept
  | some new => exact .given new

theorem Replaces.eq_getD {α : Type} {value : Option α} {old new : α} (h : Replaces value old new) :
    new = value.getD old := by
  cases h with
  | kept => rfl
  | given => rfl

/-- A height that is given as a number is that height. -/
theorem HeightSetting.bind_map_number (height : Option Height) :
    (height.map number).bind height? = height := by
  cases height <;> rfl

/-- Whether a theme has a name; the default one has several. -/
inductive ChartTheme.IsNamed : String → ChartTheme → Prop where
  | modern : IsNamed "modern" .modern
  | default {name : String} (h : name ∈ ["default", "apex", "base"]) : IsNamed name .default

/-- **Names of themes.**  A theme is found by its names. -/
theorem ChartTheme.ofName?_eq_some_iff {name : String} {theme : ChartTheme} :
    ofName? name = some theme ↔ IsNamed name theme := by
  constructor
  · intro h
    have hmem := mem_named h
    simp only [named, List.mem_cons, Prod.mk.injEq, List.not_mem_nil, or_false] at hmem
    rcases hmem with ⟨rfl, rfl⟩ | ⟨rfl, rfl⟩ | ⟨rfl, rfl⟩ | ⟨rfl, rfl⟩
    · exact .modern
    all_goals exact .default (by decide)
  · intro h
    cases h with
    | modern => rfl
    | default h =>
        simp only [List.mem_cons, List.not_mem_nil, or_false] at h
        rcases h with rfl | rfl | rfl <;> rfl

/-- No theme is found by another name. -/
theorem ChartTheme.ofName?_eq_none_iff {name : String} :
    ofName? name = none ↔ ∀ theme, ¬ IsNamed name theme := by
  simp only [Option.eq_none_iff_forall_ne_some, ne_eq, ofName?_eq_some_iff]

namespace GivenSettings

variable (g : GivenSettings)

/-- What the given properties stand over: the defaults, or a named theme with the default title. -/
inductive IsBase : Config → Prop where
  | default (h : g.theme = none) : IsBase Config.default
  | named {name : String} {theme : ChartTheme} (h : g.theme = some name)
      (hname : ChartTheme.IsNamed name theme) : IsBase { Config.default with chart := theme }

/-- Whether a configuration has the given properties, and all others from a base. -/
structure IsOverlay (base config : Config) : Prop where
  fontFamily : Replaces g.fontFamily base.chart.fontFamily config.chart.fontFamily
  palette : Replaces g.palette base.chart.palette config.chart.palette
  height : Replaces g.height base.chart.height config.chart.height
  titleAlign : Replaces g.titleAlign base.chart.titleAlign config.chart.titleAlign
  responsiveBreakpoint : Replaces g.responsiveBreakpoint base.chart.responsiveBreakpoint
    config.chart.responsiveBreakpoint
  responsiveWidth : Replaces g.responsiveWidth base.chart.responsiveWidth
    config.chart.responsiveWidth
  legendPosition : Replaces g.legendPosition base.chart.legendPosition config.chart.legendPosition
  pageTitle : Replaces g.pageTitle base.htmlTitle config.htmlTitle

/-- What a document gives is made a configuration over its base, or refused: for its theme if that
is unknown, and else for its palette if that has no colour. -/
structure Overlays (result : Except ConfigError Config) : Prop where
  overlay : ∀ base, g.IsBase base → g.palette ≠ some [] →
    ∃ config, result = .ok config ∧ g.IsOverlay base config
  unknown_theme : ∀ name, g.theme = some name → (∀ theme, ¬ ChartTheme.IsNamed name theme) →
    result = .error (.unknownTheme name)
  empty_palette : ∀ base, g.IsBase base → g.palette = some [] → result = .error .emptyPalette
  error_iff : (∃ e, result = .error e) ↔
    (∃ name, g.theme = some name ∧ ∀ theme, ¬ ChartTheme.IsNamed name theme) ∨
      g.palette = some []

/-- The document with the given properties. -/
def file : ConfigFile where
  theme := g.theme
  chart := some ⟨g.fontFamily, g.palette, g.height.map .number, g.titleAlign,
    g.responsiveBreakpoint, g.responsiveWidth, g.legendPosition⟩
  htmlTitle := g.pageTitle

/-- The configuration with the given properties. -/
def config : Except ConfigError Config :=
  Config.ofFile g.file

/-- Documents that give the same are the same configuration. -/
theorem ofFile_eq_config {file : ConfigFile} (h : file.Gives g) :
    Config.ofFile file = g.config := by
  obtain ⟨htheme, hchart, hpage⟩ := h
  have hpalette : (file.chart.getD .none).palette = (g.file.chart.getD .none).palette :=
    hchart.palette
  have happly : (file.chart.getD .none).apply = (g.file.chart.getD .none).apply := by
    funext base
    simp only [ChartSettings.apply, hchart.fontFamily, hchart.palette, hchart.height,
      hchart.titleAlign, hchart.responsiveBreakpoint, hchart.responsiveWidth,
      hchart.legendPosition, GivenSettings.file, Option.getD_some, HeightSetting.bind_map_number]
  simp only [config, Config.ofFile, htheme, hpalette, happly, hpage]
  rfl

/-- The configuration over a base whose theme is known. -/
theorem config_eq {base : Config} (h : g.IsBase base) :
    g.config = if g.palette = some [] then .error .emptyPalette
      else .ok ⟨(g.file.chart.getD .none).apply base.chart, g.pageTitle.getD base.htmlTitle⟩ := by
  cases h with
  | default h => simp [config, Config.ofFile, file, h, Config.default, bind, Except.bind]
  | named h hname =>
      simp [config, Config.ofFile, file, h, ChartTheme.ofName?_eq_some_iff.mpr hname,
        Config.default, bind, Except.bind]

/-- A theme is missing, known or unknown. -/
theorem base_or_unknown :
    (∃ base, g.IsBase base) ∨ ∃ name, g.theme = some name ∧ ChartTheme.ofName? name = none := by
  cases htheme : g.theme with
  | none => exact .inl ⟨_, .default htheme⟩
  | some name =>
      cases hname : ChartTheme.ofName? name with
      | none => exact .inr ⟨name, rfl, hname⟩
      | some theme => exact .inl ⟨_, .named htheme (ChartTheme.ofName?_eq_some_iff.mp hname)⟩

/-- A theme that is unknown is no base. -/
theorem IsBase.theme_known {base : Config} (h : g.IsBase base) {name : String}
    (hname : g.theme = some name) : ChartTheme.ofName? name ≠ none := by
  cases h with
  | default h => simp [h] at hname
  | named h htheme =>
      obtain rfl := Option.some.inj (h.symm.trans hname)
      simp [ChartTheme.ofName?_eq_some_iff.mpr htheme]

theorem config_of_unknown {name : String} (htheme : g.theme = some name)
    (hname : ChartTheme.ofName? name = none) : g.config = .error (.unknownTheme name) := by
  simp [config, Config.ofFile, file, htheme, hname, bind, Except.bind]

/-- **Over the base.**  What is given is in its place, and nothing else is changed. -/
theorem overlays_config : g.Overlays g.config where
  overlay := by
    intro base hbase hpalette
    rw [config_eq g hbase, if_neg hpalette]
    refine ⟨_, rfl, replaces_getD _ _, replaces_getD _ _, ?_, replaces_getD _ _, replaces_getD _ _,
      replaces_getD _ _, replaces_getD _ _, replaces_getD _ _⟩
    simp only [file, Option.getD_some, ChartSettings.apply, HeightSetting.bind_map_number]
    exact replaces_getD _ _
  unknown_theme := fun name htheme hname =>
    g.config_of_unknown htheme (ChartTheme.ofName?_eq_none_iff.mpr hname)
  empty_palette := by
    intro base hbase hpalette
    rw [config_eq g hbase, if_pos hpalette]
  error_iff := by
    simp only [← ChartTheme.ofName?_eq_none_iff]
    rcases g.base_or_unknown with ⟨base, hbase⟩ | ⟨name, htheme, hname⟩
    · have hknown : ¬ ∃ name, g.theme = some name ∧ ChartTheme.ofName? name = none := by
        rintro ⟨name, htheme, hname⟩
        exact hbase.theme_known g htheme hname
      rw [config_eq g hbase]
      by_cases hpalette : g.palette = some [] <;> simp [hpalette, hknown]
    · rw [g.config_of_unknown htheme hname]
      exact ⟨fun _ => .inl ⟨name, htheme, hname⟩, fun _ => ⟨_, rfl⟩⟩

end GivenSettings

/-- The themes with names have colours. -/
theorem ChartTheme.palette_ne_nil {name : String} {theme : ChartTheme}
    (h : ofName? name = some theme) : theme.palette ≠ [] := by
  cases ofName?_eq_some_iff.mp h <;> simp [ChartTheme.modern, ChartTheme.default]

namespace Config

/-- A configuration that is made has the settings over the defaults or a named theme. -/
theorem ofFile_eq_ok {file : ConfigFile} {config : Config} (h : ofFile file = .ok config) :
    ∃ theme : ChartTheme, theme.palette ≠ [] ∧ (file.chart.getD .none).palette ≠ some [] ∧
      config.chart = (file.chart.getD .none).apply theme := by
  obtain ⟨theme, htheme, hrest⟩ : ∃ theme : ChartTheme, theme.palette ≠ [] ∧
      (if (file.chart.getD .none).palette = some [] then .error .emptyPalette
        else .ok ⟨(file.chart.getD .none).apply theme, file.htmlTitle.getD default.htmlTitle⟩) =
      (.ok config : Except ConfigError Config) := by
    cases hname : file.theme with
    | none =>
        rw [ofFile, hname] at h
        exact ⟨.default, by decide, h⟩
    | some name =>
        rw [ofFile, hname] at h
        obtain ⟨theme, hfound, hrest⟩ := bind_eq_ok.mp h
        have hnamed : ChartTheme.ofName? name = some theme := by
          cases hsome : ChartTheme.ofName? name <;> simp_all
        exact ⟨theme, ChartTheme.palette_ne_nil hnamed, hrest⟩
  split at hrest
  · cases hrest
  · rename_i hpalette
    exact ⟨theme, htheme, hpalette, by rw [← Except.ok.inj hrest]⟩

/-- **Every configuration has a colour.** -/
theorem palette_ne_nil {text : String} {config : Config} (h : parse text = .ok config) :
    config.chart.palette ≠ [] := by
  obtain ⟨file, -, hfile⟩ := bind_eq_ok.mp h
  obtain ⟨theme, htheme, hgiven, heq⟩ := ofFile_eq_ok hfile
  rw [heq, ChartSettings.apply]
  cases hcolours : (file.chart.getD .none).palette with
  | none => exact htheme
  | some colours =>
      rintro rfl
      exact hgiven hcolours

end Config

/-! ## Documents that say the same -/

namespace Tree

variable {field other : Option Tree}

theorem SameValue.sets {α : Type} {standsFor : Tree → α → Prop} {value : Option α}
    (h : SameValue field other) (hset : Sets standsFor field value) :
    Sets standsFor other value := by
  cases h with
  | same => exact hset
  | null =>
      cases hset
      exact .null

theorem SameValue.setsHeight {value : Option Height} (h : SameValue field other)
    (hset : SetsHeight field value) : SetsHeight other value := by
  cases h with
  | same => exact hset
  | null =>
      cases hset
      exact .null

theorem SameValue.hasFields {fields : List (Option String × Tree)} (h : SameValue field other)
    (hfields : HasFields field fields) : HasFields other fields := by
  cases h with
  | same => exact hfields
  | null =>
      cases hfields
      exact .null

/-- An object that stands in the place of another one is found there. -/
theorem HasFields.replace {names : List String} {before after inner : List (Option String × Tree)}
    {fields : List (Option String × Tree)} {key : String} (hkey : key ∈ names)
    (hrecord : IsRecord names (before ++ (some key, .object inner .closed) :: after))
    (h : HasFields ((before ++ (some key, .object inner .closed) :: after).lookup (some key))
      fields)
    (others : List (Option String × Tree)) :
    fields = inner ∧ HasFields
      ((before ++ (some key, .object others .closed) :: after).lookup (some key)) others := by
  have hfound := (hrecord.lookup_eq_some_iff hkey).mpr
    (List.mem_append_right before (List.mem_cons_self ..))
  have hother := ((hrecord.replace (.object others .closed)).lookup_eq_some_iff hkey).mpr
    (List.mem_append_right before (List.mem_cons_self ..))
  rw [hfound] at h
  rw [hother]
  cases h
  exact ⟨rfl, .object others⟩

end Tree

namespace GivenSettings

open ReportGrid.Tree (Rearranged)

variable {g : GivenSettings} {fields others : List (Option String × Tree)}

theorem IsChart.rearranged (h : g.IsChart fields)
    (hother : Rearranged ChartSettings.names fields others) : g.IsChart others where
  record := hother.isRecord h.record
  fontFamily := (hother.sameValue h.record (by decide)).sets h.fontFamily
  palette := (hother.sameValue h.record (by decide)).sets h.palette
  height := (hother.sameValue h.record (by decide)).setsHeight h.height
  titleAlign := (hother.sameValue h.record (by decide)).sets h.titleAlign
  responsiveBreakpoint := (hother.sameValue h.record (by decide)).sets h.responsiveBreakpoint
  responsiveWidth := (hother.sameValue h.record (by decide)).sets h.responsiveWidth
  legendPosition := (hother.sameValue h.record (by decide)).sets h.legendPosition

theorem IsPage.rearranged (h : g.IsPage fields) (hother : Rearranged ["title"] fields others) :
    g.IsPage others where
  record := hother.isRecord h.record
  title := (hother.sameValue h.record (by decide)).sets h.title

end GivenSettings

namespace ConfigFile

/-- Fields of a document that come from others by rearranging them, or those of the part for charts
or of the part for the page. -/
inductive Rearranged : List (Option String × Tree) → List (Option String × Tree) → Prop where
  | document {fields others : List (Option String × Tree)}
      (h : Tree.Rearranged names fields others) : Rearranged fields others
  | chart {before after inner others : List (Option String × Tree)}
      (h : Tree.Rearranged ChartSettings.names inner others) :
      Rearranged (before ++ (some "chart", .object inner .closed) :: after)
        (before ++ (some "chart", .object others .closed) :: after)
  | page {before after inner others : List (Option String × Tree)}
      (h : Tree.Rearranged ["title"] inner others) :
      Rearranged (before ++ (some "html", .object inner .closed) :: after)
        (before ++ (some "html", .object others .closed) :: after)
  | trans {fields others more : List (Option String × Tree)} (h : Rearranged fields others)
      (hmore : Rearranged others more) : Rearranged fields more

/-- **Rearranged documents** give the same. -/
theorem Rearranged.isDocument {g : GivenSettings} {fields others : List (Option String × Tree)}
    (h : Rearranged fields others) (hgives : g.IsDocument fields) : g.IsDocument others := by
  induction h with
  | document h =>
      obtain ⟨inner, hinner, hchart⟩ := hgives.chart
      obtain ⟨title, htitle, hpage⟩ := hgives.page
      exact ⟨h.isRecord hgives.record,
        (h.sameValue hgives.record (by decide)).sets hgives.theme,
        ⟨inner, (h.sameValue hgives.record (by decide)).hasFields hinner, hchart⟩,
        ⟨title, (h.sameValue hgives.record (by decide)).hasFields htitle, hpage⟩⟩
  | chart h =>
      obtain ⟨inner, hinner, hchart⟩ := hgives.chart
      obtain ⟨rfl, hother⟩ := hinner.replace (by decide) hgives.record _
      refine ⟨hgives.record.replace _, ?_, ⟨_, hother, hchart.rearranged h⟩, ?_⟩
      · rw [Tree.lookup_replace (by decide)]
        exact hgives.theme
      · rw [Tree.lookup_replace (by decide)]
        exact hgives.page
  | page h =>
      obtain ⟨title, htitle, hpage⟩ := hgives.page
      obtain ⟨rfl, hother⟩ := htitle.replace (by decide) hgives.record _
      refine ⟨hgives.record.replace _, ?_, ?_, ⟨_, hother, hpage.rearranged h⟩⟩
      · rw [Tree.lookup_replace (by decide)]
        exact hgives.theme
      · rw [Tree.lookup_replace (by decide)]
        exact hgives.chart
  | trans _ _ ih ihmore => exact ihmore (ih hgives)

end ConfigFile

namespace Config

variable {g : GivenSettings} {text : String} {fields : List (Option String × Tree)}

/-- A document is the configuration of what it gives. -/
theorem parse_eq_config (htext : IsStrictObject text fields) (h : g.IsDocument fields) :
    parse text = g.config := by
  obtain ⟨file, hfile, hgives⟩ := ConfigFile.parse_gives htext h
  rw [parse, hfile]
  exact g.ofFile_eq_config hgives

/-- **A configuration is an overlay.**  What a document gives stands over its theme or the defaults;
it is refused only for an unknown theme, and else for an empty palette.  The order of fields, null
for a missing one and fields of other names do not count.  No configuration is without a colour. -/
theorem parse_overlays (htext : IsStrictObject text fields) (h : g.IsDocument fields) :
    g.Overlays (parse text) ∧
      (∀ other others, ConfigFile.Rearranged fields others → IsStrictObject other others →
        parse other = parse text) ∧
      ∀ any config, parse any = .ok config → config.chart.palette ≠ [] := by
  refine ⟨?_, ?_, fun any config => palette_ne_nil⟩
  · rw [parse_eq_config htext h]
    exact g.overlays_config
  · intro other others hothers hother
    rw [parse_eq_config htext h, parse_eq_config hother (hothers.isDocument h)]

/-- A note, a theme, a part for charts with a palette, a height as text and a flag, and no page. -/
def sampleDocument : List (String × Json) :=
  [("note", .array [.null]), ("html", .null), ("theme", .string "modern"),
    ("chart", .object [("height", .string " 420px "), ("zoom", .bool true), ("fontFamily", .null),
      ("palette", .strings ["#111111"])])]

/-- What the document gives. -/
def sampleSettings : GivenSettings where
  theme := some "modern"
  fontFamily := none
  palette := some ["#111111"]
  height := some (.finite ⟨false, 13762560, -15⟩)
  titleAlign := none
  responsiveBreakpoint := none
  responsiveWidth := none
  legendPosition := none
  pageTitle := none

/-- The colours and the height of the document stand in the theme that it names.  The height is 420
in single precision. -/
theorem parse_overlays_sample :
    ∃ config, parse (String.ofList ((Json.object sampleDocument).write none)) = .ok config ∧
      config.chart.palette = ["#111111"] ∧
        config.chart.height = .finite ⟨false, 13762560, -15⟩ ∧
          config.chart.fontFamily = ChartTheme.modern.fontFamily ∧
            config.htmlTitle = Config.default.htmlTitle := by
  have hwritten : Height.IsWritten "420".toList " 420px " := ⟨by decide, 1, by decide⟩
  have hheight : Height.IsNumeral "420".toList (.finite ⟨false, 13762560, -15⟩) :=
    Height.numeral?_eq_some_iff.mp rfl
  have hchart : sampleSettings.IsChart
      [(some "height", .text (some " 420px ")), (some "zoom", .bool true),
        (some "fontFamily", .null), (some "palette", (Json.strings ["#111111"]).tree)] :=
    ⟨⟨by simp, by decide⟩, .null, .value (Tree.areTexts_strings _), .text hwritten hheight,
      .missing, .missing, .missing, .missing⟩
  have hpage : sampleSettings.IsPage [] := ⟨⟨by simp, by decide⟩, .missing⟩
  have hgiven : sampleSettings.IsDocument (Json.fieldTrees sampleDocument) :=
    ⟨⟨by simp [sampleDocument], by decide⟩, .value rfl, ⟨_, .object _, hchart⟩, ⟨_, .null, hpage⟩⟩
  obtain ⟨hoverlays, -, -⟩ := parse_overlays (isStrictObject_write sampleDocument none) hgiven
  obtain ⟨config, hconfig, hover⟩ := hoverlays.overlay _ (.named rfl .modern) (by decide)
  exact ⟨config, hconfig, hover.palette.eq_getD, hover.height.eq_getD, hover.fontFamily.eq_getD,
    hover.pageTitle.eq_getD⟩

end Config

end ReportGrid
