import ReportGrid.Embed
import ReportGrid.Proofs.DumpPlaces
import ReportGrid.Proofs.HeightRange
import ReportGrid.Proofs.IntegerHeights
import ReportGrid.Proofs.WrittenPayloads

/-!
# Heights in charts

A chart has its height as a number when the height is finite, and as null otherwise.  No theme of
its own has any other height, so a height that is no number was given by a document: as a number
that single precision does not reach, or as a text for one (`Tree.IsBeyondHeight`).

* `ConfigFile.givesNoNumber_iff`, `EmbedOptions.givesNoNumber_iff` — a document gives such a height
  exactly under the names of its height;
* `Config.isFinite_height_iff`, `EmbedOptions.isFinite_height_iff` — hence when a height is finite;
* `RenderPlan.dumpShows`, `RenderPlan.pageShows`, `Embed.exists_chart` — how it stands in every
  chart.
-/

namespace ReportGrid

open ReportGrid.Height (GivesNoNumber)

/-! ## One value -/

/-- Whether a value gives a height that is no number: it is a number that single precision does not
reach, or a text for one. -/
inductive Tree.IsBeyondHeight (d : Dialect) : Tree → Prop where
  | number {n : Numeral} {q : Quantity} (h : d.quantity? n = some q)
      (hbeyond : ¬ q.IsWithin .single) : IsBeyondHeight d (.number n)
  | text {text : String} {sign : Option Sign} {rest : List Char}
      (h : Height.IsWritten (sign.elim [] Sign.text ++ rest) text)
      (hbeyond : Height.IsBeyond rest) : IsBeyondHeight d (.text (some text))

/-- Nothing gives no height. -/
theorem Height.not_givesNoNumber_none : ¬ GivesNoNumber none := by
  simp [GivesNoNumber]

namespace Tree

/-- Null gives no height. -/
theorem not_isBeyondHeight_null (d : Dialect) : ¬ Tree.null.IsBeyondHeight d := by
  intro h
  cases h

/-- A number of a document as a height. -/
theorem givesNoNumber_ofQuantity {d : Dialect} {n : Numeral} {q : Quantity}
    (h : quantity d n = .ok q) :
    GivesNoNumber (some (.ofQuantity q)) ↔ (Tree.number n).IsBeyondHeight d := by
  have hquantity : d.quantity? n = some q := by
    unfold quantity at h
    cases hvalue : d.quantity? n with
    | none => exact absurd h (by simp [hvalue])
    | some other =>
        rw [hvalue] at h
        exact congrArg some (Except.ok.inj h)
  have hfinite := Height.isFinite_ofQuantity hquantity
  constructor
  · rintro ⟨_, hsame, hnot⟩
    obtain rfl := Option.some.inj hsame
    exact .number hquantity (fun hwithin => hnot (hfinite.mpr hwithin))
  · intro hbeyond
    cases hbeyond with
    | number hother hnot =>
        obtain rfl := Option.some.inj (hquantity.symm.trans hother)
        exact ⟨_, rfl, fun hheight => hnot (hfinite.mp hheight)⟩

/-- A text as a height. -/
theorem givesNoNumber_ofText? (d : Dialect) (text : String) :
    GivesNoNumber (Height.ofText? text) ↔ (Tree.text (some text)).IsBeyondHeight d := by
  rw [Height.ofText?_iff]
  constructor
  · rintro ⟨sign, rest, hwritten, hbeyond⟩
    exact .text hwritten hbeyond
  · intro h
    cases h with
    | text hwritten hbeyond => exact ⟨_, _, hwritten, hbeyond⟩

/-- Only a text has a text as its value. -/
theorem eq_text_of_json {d : Dialect} {room : Room} {tree : Tree} {value : String}
    (h : tree.json d room = .ok (.string value)) : tree = .text (some value) := by
  cases tree with
  | text written =>
      cases written with
      | none => exact absurd h (by simp [json, content, Except.map])
      | some other =>
          obtain rfl := Json.string.inj (Except.ok.inj h)
          rfl
  | number n =>
      rw [json] at h
      obtain ⟨q, -, hq⟩ := map_eq_ok.mp h
      cases q <;> exact absurd hq (by simp [Quantity.json])
  | array items ending =>
      obtain ⟨inside, -, hitems⟩ := bind_eq_ok.mp h
      obtain ⟨values, -, hend⟩ := bind_eq_ok.mp hitems
      obtain ⟨_, -, hvalue⟩ := bind_eq_ok.mp hend
      exact absurd (Except.ok.inj hvalue) (by simp)
  | object fields ending =>
      obtain ⟨inside, -, hfields⟩ := bind_eq_ok.mp h
      obtain ⟨values, -, hend⟩ := bind_eq_ok.mp hfields
      obtain ⟨_, -, hvalue⟩ := bind_eq_ok.mp hend
      exact absurd (Except.ok.inj hvalue) (by simp)
  | _ => exact absurd h (by simp [json])

/-- **The height of a configuration**, where it may be left out. -/
theorem givesNoNumber_height {d : Dialect} {room : Room} {tree : Tree}
    {setting : Option HeightSetting} (h : tree.optional (Tree.height d room) = .ok setting) :
    GivesNoNumber (setting.bind HeightSetting.height?) ↔ tree.IsBeyondHeight d := by
  rcases optional_cases h with ⟨rfl, rfl⟩ | ⟨given, hgiven, rfl⟩
  · exact iff_of_false Height.not_givesNoNumber_none (not_isBeyondHeight_null d)
  · rw [Option.bind_some]
    cases tree with
    | number n =>
        obtain ⟨q, hq, rfl⟩ := map_eq_ok.mp hgiven
        exact givesNoNumber_ofQuantity hq
    | _ =>
        obtain ⟨value, hvalue, hkind⟩ := bind_eq_ok.mp hgiven
        cases value with
        | string text =>
            obtain rfl := Except.ok.inj hkind
            rw [eq_text_of_json hvalue]
            exact givesNoNumber_ofText? d text
        | _ => exact absurd hkind (by simp)

/-- **The height among options**, where it may be left out: no text is one. -/
theorem givesNoNumber_chartHeight {tree : Tree} {given : Option Height}
    (h : tree.optional EmbedOptions.height = .ok given) :
    GivesNoNumber given ↔ tree.IsBeyondHeight .strict := by
  rcases optional_cases h with ⟨rfl, rfl⟩ | ⟨height, hheight, rfl⟩
  · exact iff_of_false Height.not_givesNoNumber_none (not_isBeyondHeight_null .strict)
  · cases tree with
    | number n =>
        obtain ⟨q, hq, rfl⟩ := map_eq_ok.mp hheight
        exact givesNoNumber_ofQuantity hq
    | _ => exact absurd hheight (by simp [EmbedOptions.height])

end Tree

/-! ## Documents -/

/-- Settings of other names do not change the height. -/
theorem ChartSettings.height_of_readField {d : Dialect} {room : Room} {name : String}
    (hname : name ≠ "height") (tree : Tree) (found next : ChartSettings)
    (h : readField d room name tree found = .ok next) : next.height = found.height := by
  unfold readField at h
  split at h
  case h_3 => exact absurd rfl hname
  case h_8 => rw [Except.ok.inj h]
  all_goals
    obtain ⟨_, -, rfl⟩ := map_eq_ok.mp h
    rfl

/-- What settings of charts give as a height that is no number stands under its name. -/
theorem ChartSettings.givesNoNumber_iff {d : Dialect} {room : Room} {tree : Tree}
    {settings : ChartSettings} (h : read d room tree = .ok settings) :
    GivesNoNumber (settings.height.bind HeightSetting.height?) ↔
      ∃ value, Tree.IsMember names "height" tree value ∧ value.IsBeyondHeight d := by
  obtain ⟨inside, -, hrecord⟩ := bind_eq_ok.mp h
  have hstart : ¬ GivesNoNumber (ChartSettings.none.height.bind HeightSetting.height?) :=
    Height.not_givesNoNumber_none
  refine Tree.record_iff_exists_isMember (P := fun setting =>
    GivesNoNumber (setting.bind HeightSetting.height?)) ChartSettings.height
    (fun _ hother tree found next => height_of_readField hother tree found next)
    (by decide) (by decide) hstart ?_ hrecord
  intro value before after hread
  obtain ⟨setting, hsetting, rfl⟩ := map_eq_ok.mp hread
  exact Tree.givesNoNumber_height hsetting

/-- Whether a configuration document has a value as the height of charts. -/
def ConfigFile.GivesHeight (root value : Tree) : Prop :=
  ∃ chart, Tree.IsMember names "chart" root chart ∧
    Tree.IsMember ChartSettings.names "height" chart value

/-- **What a configuration document gives** as a height that is no number stands under the name of
the height, in the part for charts. -/
theorem ConfigFile.givesNoNumber_iff {d : Dialect} {root : Tree} {file : ConfigFile}
    (h : read d root = .ok file) :
    GivesNoNumber ((file.chart.getD .none).height.bind HeightSetting.height?) ↔
      ∃ value, GivesHeight root value ∧ value.IsBeyondHeight d := by
  obtain ⟨inside, -, hrecord⟩ := bind_eq_ok.mp h
  have hstart : ¬ GivesNoNumber
      ((empty.chart.getD ChartSettings.none).height.bind HeightSetting.height?) :=
    Height.not_givesNoNumber_none
  have hcharts : GivesNoNumber ((file.chart.getD .none).height.bind HeightSetting.height?) ↔
      ∃ chart, Tree.IsMember names "chart" root chart ∧ ∃ value,
        Tree.IsMember ChartSettings.names "height" chart value ∧ value.IsBeyondHeight d := by
    refine Tree.record_iff_exists_isMember (P := fun chart =>
      GivesNoNumber ((chart.getD ChartSettings.none).height.bind HeightSetting.height?))
      ConfigFile.chart (fun _ hother tree found next => chart_of_readField hother tree found next)
      (by decide) (by decide) hstart ?_ hrecord
    intro chart before after hread
    obtain ⟨part, hpart, rfl⟩ := map_eq_ok.mp hread
    rcases Tree.optional_cases hpart with ⟨rfl, rfl⟩ | ⟨settings, hsettings, rfl⟩
    · refine iff_of_false Height.not_givesNoNumber_none ?_
      rintro ⟨value, hmember, -⟩
      cases hmember
    · exact ChartSettings.givesNoNumber_iff hsettings
  rw [hcharts]
  constructor
  · rintro ⟨chart, hchart, value, hvalue, hbeyond⟩
    exact ⟨value, ⟨chart, hchart, hvalue⟩, hbeyond⟩
  · rintro ⟨value, ⟨chart, hchart, hvalue⟩, hbeyond⟩
    exact ⟨chart, hchart, value, hvalue, hbeyond⟩

/-- Options of other names do not change the height. -/
theorem EmbedOptions.chartHeight_of_readField {room : Room} {name : String}
    (hname : name ≠ "chartHeight") (tree : Tree) (found next : EmbedOptions)
    (h : readField room name tree found = .ok next) : next.chartHeight = found.chartHeight := by
  unfold readField at h
  split at h
  case h_4 => exact absurd rfl hname
  case h_5 => rw [Except.ok.inj h]
  all_goals
    obtain ⟨_, -, rfl⟩ := map_eq_ok.mp h
    rfl

/-- **What options give** as a height that is no number stands under its name. -/
theorem EmbedOptions.givesNoNumber_iff {root : Tree} {options : EmbedOptions}
    (h : read root = .ok options) :
    GivesNoNumber options.chartHeight ↔
      ∃ value, Tree.IsMember names "chartHeight" root value ∧ value.IsBeyondHeight .strict := by
  obtain ⟨inside, -, hrecord⟩ := bind_eq_ok.mp h
  refine Tree.record_iff_exists_isMember (P := GivesNoNumber) EmbedOptions.chartHeight
    (fun _ hother tree found next => chartHeight_of_readField hother tree found next)
    (by decide) (by decide) Height.not_givesNoNumber_none ?_ hrecord
  intro value before after hread
  obtain ⟨given, hgiven, rfl⟩ := map_eq_ok.mp hread
  exact Tree.givesNoNumber_chartHeight hgiven

/-! ## Texts -/

/-- A text that is decoded is read as a document with nothing after it. -/
theorem Document.exists_root {α : Type} {d : Dialect} {read : Tree → Except Fault α}
    {s : List Char} {value : α} (h : decode d read s = .ok value) :
    ∃ root, Document.read d s = ⟨root, false⟩ ∧ read root = .ok value := by
  obtain ⟨found, hfound, hend⟩ := bind_eq_ok.mp h
  cases hread : Document.read d s with
  | mk root trailing =>
      rw [hread] at hfound hend
      cases trailing with
      | true => exact absurd hend (by simp)
      | false => exact ⟨root, rfl, Except.ok.inj hend ▸ hfound⟩

/-- A configuration text is a document. -/
theorem ConfigFile.exists_isReadAs {text : String} {file : ConfigFile} (h : parse text = .ok file) :
    ∃ d root, IsReadAs d text root ∧ read d root = .ok file := by
  unfold parse at h
  split at h
  · rename_i found hstrict
    obtain rfl := Except.ok.inj h
    obtain ⟨root, hread, hfile⟩ := Document.exists_root hstrict
    exact ⟨.strict, root, ⟨hread, by simp⟩, hfile⟩
  · rename_i fault hstrict
    split at h
    · rename_i found hrelaxed
      obtain rfl := Except.ok.inj h
      obtain ⟨root, hread, hfile⟩ := Document.exists_root hrelaxed
      exact ⟨.relaxed, root, ⟨hread, fun _ => ⟨fault, hstrict⟩⟩, hfile⟩
    · exact absurd h (by simp)

namespace ChartTheme

theorem isFinite_default : default.height.IsFinite :=
  ⟨_, rfl⟩

/-- Every theme with a name has the height of the default one. -/
theorem isFinite_ofName? {name : String} {theme : ChartTheme} (h : ofName? name = some theme) :
    theme.height.IsFinite := by
  have hall : ∀ entry ∈ named, entry.2.height = default.height := by
    simp [named, modern]
  rw [hall _ (mem_named h)]
  exact isFinite_default

end ChartTheme

/-- **When the height of a configuration is finite.** -/
theorem Config.isFinite_height_iff {text : String} {config : Config}
    (h : parse text = .ok config) :
    ∃ d root, ConfigFile.IsReadAs d text root ∧ (∃ file, ConfigFile.read d root = .ok file) ∧
      (config.chart.height.IsFinite ↔
        ∀ value, ConfigFile.GivesHeight root value → ¬ value.IsBeyondHeight d) := by
  obtain ⟨file, hfile, hconfig⟩ := bind_eq_ok.mp h
  obtain ⟨d, root, hread, hroot⟩ := ConfigFile.exists_isReadAs hfile
  refine ⟨d, root, hread, ⟨file, hroot⟩, ?_⟩
  rw [ofFile_eq] at hconfig
  obtain ⟨base, hbase, hrest⟩ := bind_eq_ok.mp hconfig
  have hfinite : base.height.IsFinite := by
    unfold themeOf at hbase
    cases hname : file.theme with
    | none =>
        rw [hname] at hbase
        obtain rfl := Except.ok.inj hbase
        exact ChartTheme.isFinite_default
    | some name =>
        rw [hname, Option.elim_some] at hbase
        cases htheme : ChartTheme.ofName? name with
        | none => exact absurd hbase (by simp [htheme])
        | some theme =>
            obtain rfl : theme = base := by simpa [htheme] using hbase
            exact ChartTheme.isFinite_ofName? htheme
  split at hrest
  · exact absurd hrest (by simp)
  · obtain rfl := Except.ok.inj hrest
    change (((file.chart.getD .none).height.bind HeightSetting.height?).getD base.height).IsFinite ↔
      _
    rw [Height.isFinite_getD hfinite, ConfigFile.givesNoNumber_iff hroot]
    simp

/-- **When the height of options is finite.** -/
theorem EmbedOptions.isFinite_height_iff {text : Option String} {options : EmbedOptions}
    (h : parse text = .ok options) :
    options.chartTheme.height.IsFinite ↔ ∀ given root value, text = some given →
      Document.read .strict given.toList = ⟨root, false⟩ →
        Tree.IsMember names "chartHeight" root value → ¬ value.IsBeyondHeight .strict := by
  have hfinite : ((options.theme.bind ChartTheme.ofName?).getD .default).height.IsFinite := by
    cases htheme : options.theme.bind ChartTheme.ofName? with
    | none => exact ChartTheme.isFinite_default
    | some theme =>
        obtain ⟨name, -, hname⟩ := Option.bind_eq_some_iff.mp htheme
        exact ChartTheme.isFinite_ofName? hname
  change ((options.chartHeight.getD _).IsFinite) ↔ _
  rw [Height.isFinite_getD hfinite]
  cases text with
  | none =>
      obtain rfl := Except.ok.inj h
      simp [Height.not_givesNoNumber_none, empty]
  | some given =>
      obtain ⟨root, hread, hroot⟩ := Document.exists_root h
      rw [givesNoNumber_iff hroot]
      constructor
      · rintro hno _ other value ⟨⟩ hother hmember hbeyond
        obtain rfl : root = other := congrArg Document.root (hread.symm.trans hother)
        exact hno ⟨value, hmember, hbeyond⟩
      · rintro hno ⟨value, hmember, hbeyond⟩
        exact hno given root value rfl hread hmember hbeyond

/-! ## Charts -/

/-- The place of the height in a chart. -/
def ChartSpec.heightPlace : List Step :=
  [.field "options", .field "chart", .field "height"]

namespace Height

/-- Whether a value shows a height: a finite one as a number, and any other as null. -/
structure IsShownAs (h : Height) (shown : Tree) : Prop where
  number : h.IsFinite ↔ ∃ n, shown = .number n
  null : ¬ h.IsFinite ↔ shown = .null

theorem isShownAs_json (h : Height) : h.IsShownAs h.json.tree := by
  cases h with
  | finite b => constructor <;> simp [IsFinite, json, Json.tree]
  | _ => constructor <;> simp [IsFinite, json, Json.tree]

/-- Whether the chart at a place of a document shows a height. -/
def StandsAt (h : Height) (chart : List Step) (document : Tree) : Prop :=
  ∃ shown, document.at? (chart ++ ChartSpec.heightPlace) = some shown ∧ h.IsShownAs shown

end Height

/-- A chart shows the height of its theme. -/
theorem ChartSpec.standsAt (spec : ChartSpec) : spec.theme.height.StandsAt [] spec.json.tree := by
  refine ⟨_, ?_, Height.isShownAs_json _⟩
  obtain ⟨series, kind, title, labels, categories, theme⟩ := spec
  refine (Tree.at?_cons rfl _).trans ?_
  -- whether there are labels and categories shows in the record of the options
  cases labels <;> cases categories <;>
    exact (Tree.at?_cons rfl _).trans (Tree.at?_cons rfl [])

theorem ChartSpec.theme_build (data : GraphData) (kind : ChartKind) (title : String)
    (theme : ChartTheme) : (build data kind title theme).theme = theme := by
  unfold build
  split <;> rfl

namespace RenderPlan

/-- Whether a text is the dump of a plan and all charts in it show a height. -/
def DumpShows (plan : RenderPlan) (height : Height) (text : String) : Prop :=
  ∃ dump, Document.read .strict text.toList = ⟨dump, false⟩ ∧
    ∀ (i : Nat) row (j : Nat) m data kind, plan.rows[i]? = some row →
      row.cells[j]? = some (.resolved m) → m.body = .graph data kind →
        height.StandsAt (cellPlace i j ++ [.field "chart"]) dump

/-- Whether a text is the page of a plan and all charts in it show a height. -/
def PageShows (plan : RenderPlan) (height : Height) (text : String) : Prop :=
  ∃ parts, Markup.read? text.toList = some parts ∧
    ∀ (i : Nat) row (j : Nat) m data kind, plan.rows[i]? = some row →
      row.cells[j]? = some (.resolved m) → m.body = .graph data kind →
        ∃ box written chart, Page.box? parts i j = some box ∧ Page.chartTexts box = [written] ∧
          Document.read .strict written.toList = ⟨chart, false⟩ ∧ height.StandsAt [] chart

/-- **In the dump of a plan** the charts show the height of the theme. -/
theorem dumpShows (plan : RenderPlan) (theme : ChartTheme) :
    plan.DumpShows theme.height (plan.dump theme) := by
  refine ⟨_, read_dump plan theme, ?_⟩
  intro i row j m data kind hrow hcell hbody
  have hspec : ChartSpec.ofSection? m theme = some (.build data kind m.title theme) := by
    rw [ChartSpec.ofSection?, hbody]
  obtain ⟨shown, hshown, hheight⟩ := (ChartSpec.build data kind m.title theme).standsAt
  rw [ChartSpec.theme_build] at hheight
  refine ⟨shown, ?_, hheight⟩
  rw [List.append_assoc, at?_cell hrow hcell]
  exact (RenderCell.at?_chart hspec _).trans hshown

/-- **On the page of a plan** the charts show the height of the theme. -/
theorem pageShows {plan : RenderPlan} (h : plan.IsShown) (config : Config) :
    plan.PageShows config.chart.height (Page.html plan config) := by
  refine ⟨_, Page.read?_html config h, ?_⟩
  intro i row j m data kind hrow hcell hbody
  have hheight := (ChartSpec.build data kind m.title config.chart).standsAt
  rw [ChartSpec.theme_build] at hheight
  exact ⟨_, _, _, Page.box?_readParts config h hrow hcell,
    Page.chartTexts_cellBox hbody config.chart, Page.read_compact _, hheight⟩

end RenderPlan

/-- **A chart that is asked for by texts** shows the height of the options. -/
theorem Embed.exists_chart {text : Option String} {options : EmbedOptions}
    (h : EmbedOptions.parse text = .ok options) (data kind title : String) :
    ∃ out chart, Embed.chart data kind title text = .ok out ∧
      Document.read .strict out.toList = ⟨chart, false⟩ ∧
        options.chartTheme.height.StandsAt [] chart := by
  let graph : GraphData := .ofJson ((Json.parse .strict data.toList).toOption.getD .null)
  have hheight := (ChartSpec.build graph (.ofTag kind) title options.chartTheme).standsAt
  rw [ChartSpec.theme_build] at hheight
  refine ⟨_, _, ?_, Page.read_compact _, hheight⟩
  rw [Embed.chart, h]
  rfl

/-- **A height is a number in charts** unless the document gives another one.  The height of an
accepted configuration, and of accepted options, is finite exactly when the document gives no height
beyond single precision.  In the charts of every plan, in its dump and on its page, and in every
chart that is asked for by texts, a finite height is a number and any other is null. -/
theorem ChartTheme.height_shown :
    (∀ text config, Config.parse text = .ok config →
      (∃ d root, ConfigFile.IsReadAs d text root ∧ (∃ file, ConfigFile.read d root = .ok file) ∧
        (config.chart.height.IsFinite ↔
          ∀ value, ConfigFile.GivesHeight root value → ¬ value.IsBeyondHeight d)) ∧
      ∀ template payload,
        let plan := RenderPlan.ofTexts template payload
        plan.DumpShows config.chart.height (plan.dump config.chart) ∧
          plan.PageShows config.chart.height (Page.html plan config)) ∧
    ∀ text options, EmbedOptions.parse text = .ok options →
      (options.chartTheme.height.IsFinite ↔ ∀ given root value, text = some given →
        Document.read .strict given.toList = ⟨root, false⟩ →
          Tree.IsMember EmbedOptions.names "chartHeight" root value →
            ¬ value.IsBeyondHeight .strict) ∧
      (∀ template payload, ∃ out, Embed.plan template payload text = .ok out ∧
        (RenderPlan.ofTexts template payload).DumpShows options.chartTheme.height out) ∧
      ∀ data kind title, ∃ out chart, Embed.chart data kind title text = .ok out ∧
        Document.read .strict out.toList = ⟨chart, false⟩ ∧
          options.chartTheme.height.StandsAt [] chart := by
  constructor
  · intro text config h
    refine ⟨Config.isFinite_height_iff h, ?_⟩
    intro template payload
    have hshown := RenderPlan.isShown_compile (Layout.parse template) (Payload.ofText payload)
    exact ⟨RenderPlan.dumpShows _ config.chart, RenderPlan.pageShows hshown config⟩
  · intro text options h
    refine ⟨EmbedOptions.isFinite_height_iff h, ?_, Embed.exists_chart h⟩
    intro template payload
    refine ⟨_, ?_, RenderPlan.dumpShows _ options.chartTheme⟩
    rw [Embed.plan, h]
    rfl

/-- A payload with one graph. -/
def Payload.oneGraph : Json :=
  .object [("sections", .array [.object [
    ("data", .object [("labels", .strings ["x"]), ("values", .array [.int 1])]),
    ("section_type", .string "graph"), ("shortcode", .string "g")]])]

/-- A template that names the graph has it in its plan. -/
theorem RenderPlan.rows_oneGraph : (ofTexts "[g]" Payload.oneGraph.compact).rows =
    [⟨.one, [.resolved ⟨"g", "g", "", .graph ⟨["x"], [.number (.int 1)]⟩ .bar⟩]⟩] := by
  have hdocument : Payload.document? Payload.oneGraph.compact.toList = some Payload.oneGraph :=
    Payload.document?_compact rfl
  rw [ofTexts, Payload.ofText_eq_of_document? hdocument rfl]
  rfl

/-- Infinity with a sign, in capitals and with a unit, given for a configuration, and an integer
given among options.  The height of the one chart on the page is null. -/
theorem ChartTheme.height_shown_infinite :
    let text := (Json.object [("chart", .object [("height", .string " -INFpx ")])]).compact
    let config : Config := { Config.default with
      chart := { ChartTheme.default with height := .infinite true } }
    let given := (Json.object [("chartHeight", .int 420)]).compact
    let options : EmbedOptions := { EmbedOptions.empty with
      chartHeight := some (.ofNumber (.int 420)) }
    let plan := RenderPlan.ofTexts "[g]" Payload.oneGraph.compact
    Config.parse text = .ok config ∧ ¬ config.chart.height.IsFinite ∧
      (∃ d root value, ConfigFile.IsReadAs d text root ∧ ConfigFile.GivesHeight root value ∧
        value.IsBeyondHeight d) ∧
      (∃ parts box written chart, Markup.read? (Page.html plan config).toList = some parts ∧
        Page.box? parts 0 0 = some box ∧ Page.chartTexts box = [written] ∧
          Document.read .strict written.toList = ⟨chart, false⟩ ∧
            chart.at? ChartSpec.heightPlace = some .null) ∧
      EmbedOptions.parse (some given) = .ok options ∧ options.chartTheme.height.IsFinite ∧
      ∃ out chart n, Embed.chart "" "bar" "Empty" (some given) = .ok out ∧
        Document.read .strict out.toList = ⟨chart, false⟩ ∧
          chart.at? ChartSpec.heightPlace = some (.number n) := by
  intro text config given options plan
  have hread : ∀ value : Json, Document.read .strict value.compact.toList = ⟨value.tree, false⟩ :=
    Page.read_compact
  have hfile : ConfigFile.read .strict
      (Json.object [("chart", .object [("height", .string " -INFpx ")])]).tree =
        .ok ⟨none, some { ChartSettings.none with height := some (.text " -INFpx ") }, none⟩ := rfl
  have hparse : Config.parse text = .ok config := by
    have hreadAs : ConfigFile.IsReadAs .strict text _ := ⟨hread _, by simp⟩
    rw [Config.parse, hreadAs.parse_eq hfile]
    rfl
  have hoptions : EmbedOptions.parse (some given) = .ok options :=
    Document.decode_eq (hread _) rfl
  have hinfinite : ¬ config.chart.height.IsFinite := by
    simp [config, Height.IsFinite]
  have hfinite : options.chartTheme.height.IsFinite := ⟨_, rfl⟩
  obtain ⟨⟨d, root, hreadAs, -, hheight⟩, hplans⟩ := ChartTheme.height_shown.1 text config hparse
  obtain ⟨-, -, hcharts⟩ := ChartTheme.height_shown.2 (some given) options hoptions
  have hbeyond : ∃ value, ConfigFile.GivesHeight root value ∧ value.IsBeyondHeight d := by
    by_contra hno
    apply hinfinite
    rw [hheight]
    intro value hvalue hbeyond
    exact hno ⟨value, hvalue, hbeyond⟩
  obtain ⟨value, hvalue, hbeyond⟩ := hbeyond
  obtain ⟨-, parts, hparts, hpage⟩ := hplans "[g]" Payload.oneGraph.compact
  obtain ⟨box, written, drawn, hbox, hwritten, hdrawn, shown, hplace, hnull⟩ :=
    hpage 0 _ 0 _ _ _ (by rw [RenderPlan.rows_oneGraph]; rfl) rfl rfl
  obtain rfl := hnull.null.mp hinfinite
  obtain ⟨out, chart, hout, hchart, shown, hshown, hnumber⟩ := hcharts "" "bar" "Empty"
  obtain ⟨n, rfl⟩ := hnumber.number.mp hfinite
  exact ⟨hparse, hinfinite, ⟨d, root, value, hreadAs, hvalue, hbeyond⟩,
    ⟨parts, box, written, drawn, hparts, hbox, hwritten, hdrawn, hplace⟩, hoptions, hfinite, out,
    chart, n, hout, hchart, hshown⟩

/-- A configuration may give infinity as its height, which is null in every chart. -/
theorem Config.parse_infinite_height :
    ∃ config, parse "\x7b\"chart\":\x7b\"height\":\"inf\"\x7d\x7d" = .ok config ∧
      ¬ config.chart.height.IsFinite ∧
        ∀ data kind title, (ChartSpec.build data kind title config.chart).json.tree.at?
          ChartSpec.heightPlace = some .null := by
  have htext : "\x7b\"chart\":\x7b\"height\":\"inf\"\x7d\x7d" =
      (Json.object [("chart", .object [("height", .string "inf")])]).compact := rfl
  have hfile : ConfigFile.read .strict
      (Json.object [("chart", .object [("height", .string "inf")])]).tree =
        .ok ⟨none, some { ChartSettings.none with height := some (.text "inf") }, none⟩ := rfl
  have hreadAs : ConfigFile.IsReadAs .strict "\x7b\"chart\":\x7b\"height\":\"inf\"\x7d\x7d" _ :=
    ⟨htext ▸ Page.read_compact _, by simp⟩
  refine ⟨{ Config.default with
    chart := { ChartTheme.default with height := .infinite false } }, ?_, ?_, ?_⟩
  · rw [parse, hreadAs.parse_eq hfile]
    rfl
  · simp [Height.IsFinite]
  · intro data kind title
    obtain ⟨shown, hshown, hheight⟩ := (ChartSpec.build data kind title
      { ChartTheme.default with height := .infinite false }).standsAt
    rw [ChartSpec.theme_build] at hheight
    rw [← hheight.null.mp (by simp [Height.IsFinite])]
    exact hshown

end ReportGrid
