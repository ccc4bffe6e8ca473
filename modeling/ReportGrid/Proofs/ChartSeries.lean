import ReportGrid.Chart.Spec
import Mathlib.Data.List.Forall2

/-!
# What a chart shows

A chart kind is named by a text, or is the bar chart where the text names none
(`ChartKind.isMeantBy_iff`).  `ChartSpec.Shows` says what is written of labels and values for each
kind: which of the four series they become, where the labels go, and that no kind drops, adds or
changes a value, but for points without a value, which are at zero.

All that is left of a chart besides these places is the same for every kind and all data
(`ChartSpec.shared_json`).
-/

namespace ReportGrid

/-! ## Kinds and their tags -/

namespace ChartKind

/-- Whether a text names a kind: without blanks at its ends, and with small letters for ASCII
capitals, it is the tag of the kind. -/
def IsNamedBy (kind : ChartKind) (text : String) : Prop :=
  kind.tag.toList = Text.lower (Text.trim text.toList)

/-- Whether a text means a kind: it names the kind, or it names none and the kind is the bar
chart. -/
def IsMeantBy (kind : ChartKind) (text : String) : Prop :=
  kind.IsNamedBy text ∨ (kind = .bar ∧ ∀ other : ChartKind, ¬ other.IsNamedBy text)

theorem mem_all (kind : ChartKind) : kind ∈ all := by
  cases kind <;> decide

/-- Tags are told apart. -/
theorem tag_injective {kind other : ChartKind} (h : kind.tag = other.tag) : kind = other := by
  have hall : ∀ a ∈ all, ∀ b ∈ all, a.tag = b.tag → a = b := by decide
  exact hall kind (mem_all kind) other (mem_all other) h

/-- **Tags.**  A text is read as the kind that it names. -/
theorem ofTag?_eq_some_iff {text : String} {kind : ChartKind} :
    ofTag? text = some kind ↔ kind.IsNamedBy text := by
  constructor
  · intro h
    simpa [IsNamedBy] using List.find?_some h
  · intro h
    cases hfound : ofTag? text with
    | none =>
        have hnot := List.find?_eq_none.mp hfound kind (mem_all kind)
        exact absurd h (by simpa [IsNamedBy] using hnot)
    | some other =>
        have hother : other.IsNamedBy text := by simpa [IsNamedBy] using List.find?_some hfound
        rw [tag_injective (String.toList_injective (hother.trans h.symm))]

theorem ofTag?_eq_none_iff {text : String} :
    ofTag? text = none ↔ ∀ kind : ChartKind, ¬ kind.IsNamedBy text := by
  simp only [← ofTag?_eq_some_iff]
  exact Option.eq_none_iff_forall_ne_some

/-- **The kind that a text means** is the one that it is read as, and no other. -/
theorem isMeantBy_iff {text : String} {kind : ChartKind} :
    kind.IsMeantBy text ↔ kind = ofTag text := by
  rw [IsMeantBy, ← ofTag?_eq_some_iff, ← ofTag?_eq_none_iff, ofTag]
  cases ofTag? text with
  | none => simp
  | some other => simp [eq_comm]

/-- A text that names no kind is read as the tag of the bar chart. -/
theorem ofTag_of_not_isNamedBy {text : String} (h : ∀ kind : ChartKind, ¬ kind.IsNamedBy text) :
    ofTag text = ofTag "bar" := by
  have hbar : ofTag "bar" = .bar := by decide
  rw [hbar, ofTag, ofTag?_eq_none_iff.mpr h, Option.getD_none]

end ChartKind

/-! ## Points -/

namespace ChartSeries

theorem length_paired (labels : List String) (values : List DataValue) :
    (paired labels values).length = labels.length := by
  induction labels generalizing values with
  | nil => rfl
  | cons label labels ih => cases values <;> simp [paired, ih]

/-- **Points.**  Each label has the value at its place, or zero where there is none. -/
theorem getElem?_paired (labels : List String) (values : List DataValue) (i : Nat) :
    (paired labels values)[i]? =
      labels[i]?.map fun label => (label, values[i]?.getD (.number (.int 0))) := by
  induction labels generalizing values i with
  | nil => rfl
  | cons label labels ih =>
      cases values <;> cases i <;> simp [paired, ih]

end ChartSeries

/-! ## Charts as JSON -/

/-- The kinds whose labels and values become series in the same way. -/
def SeriesShape.kinds : SeriesShape → List ChartKind
  | .categorical => [.bar, .line, .area, .scatter, .radar, .heatmap, .boxPlot]
  | .flat => [.pie, .donut, .radialBar]
  | .treemap => [.treemap]
  | .raw => [.candlestick, .bubble]

theorem SeriesShape.mem_kinds_iff {shape : SeriesShape} {kind : ChartKind} :
    kind ∈ shape.kinds ↔ kind.shape = shape := by
  cases shape <;> cases kind <;> decide

namespace Json

/-- An object without the fields of some names. -/
def without (names : List String) : Json → Json
  | .object fields => .object (fields.filter fun field => field.1 ∉ names)
  | value => value

/-- An object in which the fields of a name have another value. -/
def alter (name : String) (f : Json → Json) : Json → Json
  | .object fields =>
    .object (fields.map fun field => if field.1 = name then (name, f field.2) else field)
  | value => value

end Json

namespace ChartSpec

/-- An option of a chart that is given as JSON. -/
def option? (name : String) (chart : Json) : Option Json :=
  (chart.field? "options").bind (Json.field? name)

/-- Whether JSON is a value of a graph as it was given: a number is the number, and a point is the
point as it is. -/
inductive IsValue : DataValue → Json → Prop where
  | number (n : Number) : IsValue (.number n) (.number n)
  | point (given : Json) : IsValue (.point given) given

/-- Whether a chart that is given as JSON has a single series, which has the title as its name. -/
def HasOneSeries (title : String) (items : List Json) (chart : Json) : Prop :=
  chart.field? "series" =
    some (.array [.object [("name", .string title), ("data", .array items)]])

/-- What a chart that is given as JSON shows of labels and values, by its kind.  All values and all
labels are there, in order.  Only points are counted by the labels: each is at its label, and at the
value in the same place or at zero. -/
structure Shows (data : GraphData) (kind : ChartKind) (title : String) (chart : Json) : Prop where
  categorical : kind ∈ SeriesShape.categorical.kinds →
    (∃ items, HasOneSeries title items chart ∧ List.Forall₂ IsValue data.values items) ∧
      option? "xaxis" chart =
        some (.object [("categories", .array (data.labels.map Json.string))])
  flat : kind ∈ SeriesShape.flat.kinds →
    (∃ items, chart.field? "series" = some (.array items) ∧
      List.Forall₂ IsValue data.values items) ∧
      option? "labels" chart = some (.array (data.labels.map Json.string))
  raw : kind ∈ SeriesShape.raw.kinds →
    ∃ items, HasOneSeries title items chart ∧ List.Forall₂ IsValue data.values items
  treemap : kind ∈ SeriesShape.treemap.kinds →
    ∃ points, HasOneSeries title points chart ∧ points.length = data.labels.length ∧
      ∀ (i : Nat) label, data.labels[i]? = some label →
        ∃ y, points[i]? = some (.object [("x", .string label), ("y", y)]) ∧
          (∀ value, data.values[i]? = some value → IsValue value y) ∧
            (data.values[i]? = none → y = .number (.int 0))
  xaxis_iff : option? "xaxis" chart ≠ none ↔ kind ∈ SeriesShape.categorical.kinds
  labels_iff : option? "labels" chart ≠ none ↔ kind ∈ SeriesShape.flat.kinds

/-- A chart that is given as JSON without its series, the type of chart, the axis and the labels. -/
def shared (chart : Json) : Json :=
  (chart.without ["series"]).alter "options" fun options =>
    (options.without ["xaxis", "labels"]).alter "chart" fun frame => frame.without ["type"]

/-! ### One specification -/

/-- A value stands in a chart as it was given. -/
theorem isValue_json (value : DataValue) : IsValue value value.json := by
  cases value with
  | number n => exact .number n
  | point given => exact .point given

/-- All values stand in a chart in order. -/
theorem forall₂_isValue (values : List DataValue) :
    List.Forall₂ IsValue values (values.map DataValue.json) := by
  rw [List.forall₂_map_right_iff, List.forall₂_same]
  exact fun value _ => isValue_json value

/-- The options of a chart are found under their names. -/
theorem option?_json (spec : ChartSpec) :
    option? "xaxis" spec.json = spec.categories.map (fun categories =>
        .object [("categories", .strings categories)]) ∧
      option? "labels" spec.json = spec.labels.map .strings := by
  obtain ⟨series, kind, title, labels, categories, theme⟩ := spec
  cases labels <;> cases categories <;>
    simp [option?, json, optionsJson, Json.field?, Json.lookup]

theorem series_json (spec : ChartSpec) : spec.json.field? "series" = some spec.series.json := rfl

/-- What is shared is made of the title and the theme. -/
theorem shared_json (spec : ChartSpec) :
    shared spec.json = .object [("options", .object [
      ("chart", .object [("height", spec.theme.height.json),
        ("fontFamily", .string spec.theme.fontFamily)]),
      ("title", .object [("text", .string spec.title), ("align", .string spec.theme.titleAlign)]),
      ("colors", .strings spec.theme.palette),
      ("responsive", .array [responsiveJson spec.theme])])] := by
  obtain ⟨series, kind, title, labels, categories, theme⟩ := spec
  cases labels <;> cases categories <;>
    simp [shared, json, optionsJson, Json.without, Json.alter]

/-! ### Labels and values -/

section

variable (data : GraphData) (kind : ChartKind) (title : String) (theme : ChartTheme)

theorem series_build : (build data kind title theme).series = match kind.shape with
    | .flat => .flat data.values
    | .treemap => .points title (ChartSeries.paired data.labels data.values)
    | .categorical | .raw => .named title data.values := by
  unfold build
  cases kind.shape <;> rfl

theorem categories_build : (build data kind title theme).categories =
    if kind.shape = .categorical then some data.labels else none := by
  unfold build
  cases kind.shape <;> rfl

theorem labels_build : (build data kind title theme).labels =
    if kind.shape = .flat then some data.labels else none := by
  unfold build
  cases kind.shape <;> rfl

theorem title_theme_build : (build data kind title theme).title = title ∧
    (build data kind title theme).theme = theme := by
  unfold build
  cases kind.shape <;> exact ⟨rfl, rfl⟩

/-- **What a chart shows** of labels and values. -/
theorem shows_build : Shows data kind title (build data kind title theme).json := by
  obtain ⟨hxaxis, hlabels⟩ := option?_json (build data kind title theme)
  have hseries := series_json (build data kind title theme)
  rw [categories_build] at hxaxis
  rw [labels_build] at hlabels
  rw [series_build] at hseries
  have hvalues := forall₂_isValue data.values
  constructor
  · intro h
    rw [SeriesShape.mem_kinds_iff] at h
    rw [h] at hxaxis hseries
    exact ⟨⟨_, hseries, hvalues⟩, hxaxis⟩
  · intro h
    rw [SeriesShape.mem_kinds_iff] at h
    rw [h] at hlabels hseries
    exact ⟨⟨_, hseries, hvalues⟩, hlabels⟩
  · intro h
    rw [SeriesShape.mem_kinds_iff] at h
    rw [h] at hseries
    exact ⟨_, hseries, hvalues⟩
  · intro h
    rw [SeriesShape.mem_kinds_iff] at h
    rw [h] at hseries
    refine ⟨_, hseries, by simp [ChartSeries.length_paired], ?_⟩
    intro i label hlabel
    refine ⟨(data.values[i]?.getD (.number (.int 0))).json, ?_, ?_, ?_⟩
    · rw [List.getElem?_map, ChartSeries.getElem?_paired, hlabel]
      rfl
    · intro value hvalue
      rw [hvalue]
      exact isValue_json value
    · intro hnone
      rw [hnone]
      rfl
  · rw [hxaxis, SeriesShape.mem_kinds_iff]
    simp
  · rw [hlabels, SeriesShape.mem_kinds_iff]
    simp

end

/-- **The chart of data under a tag.**  Its kind is the one that the tag means, and it shows the
labels and values as that kind does.  Charts of other data and tags with the same title and theme
differ in their series, their types, their axes and their labels alone, and a tag that names no kind
stands for the bar chart. -/
theorem buildForTag_shows (data : GraphData) (tag title : String) (theme : ChartTheme) :
    (∀ kind : ChartKind, kind.IsMeantBy tag ↔ kind = .ofTag tag) ∧
      Shows data (.ofTag tag) title (buildForTag data tag title theme).json ∧
      (∀ (other : GraphData) (otherTag : String),
        shared (buildForTag other otherTag title theme).json =
          shared (buildForTag data tag title theme).json) ∧
      ((∀ kind : ChartKind, ¬ kind.IsNamedBy tag) →
        buildForTag data tag title theme = buildForTag data "bar" title theme) := by
  refine ⟨fun kind => ChartKind.isMeantBy_iff, shows_build data _ title theme, ?_, ?_⟩
  · intro other otherTag
    simp only [buildForTag, shared_json, title_theme_build]
  · intro hnone
    rw [buildForTag, ChartKind.ofTag_of_not_isNamedBy hnone]
    rfl

example : ChartKind.ofTag " PIE\n" = .pie ∧ ChartKind.ofTag "pies" = .bar := by decide

end ChartSpec

end ReportGrid
