import ReportGrid.Proofs.CommandRuns
import ReportGrid.Proofs.ReadDocuments
import ReportGrid.Proofs.WrittenPayloads
import ReportGrid.Proofs.WrittenSettings

/-!
# Runs of the command and embedded plans

The command with a configuration and a page with options make the same plan in two places.  For the
same styling they give the same text, byte by byte, whatever the template and the payload are.  They
differ only in a styling that cannot be used: the command refuses it, and the page leaves out what
it cannot use.

* `Embed.plan_eq` — options always give a plan, with the part of their styling that can be used;
* `Disk.config_usable`, `Disk.config_unknownTheme`, `Disk.config_emptyPalette` — a configuration
  gives its styling or is refused;
* `Command.run_writes`, `Command.run_refused` — a run whose inputs can be read, and whose output can
  be created, gives out what it makes of them if it gets its configuration.
-/

namespace ReportGrid

variable {st : Styling}

/-- **Embedded plans.**  A page with options gets the dump of the plan, with all of its styling that
can be used. -/
theorem Embed.plan_eq {options : Option String} (h : st.IsOptionsText options)
    (template payload : String) :
    Embed.plan template payload options =
      .ok ((RenderPlan.ofTexts template payload).dump st.usable.chartTheme) := by
  rw [Embed.plan, EmbedOptions.parse_eq h, ← st.chartTheme_options]
  rfl

namespace Disk

variable {disk : Disk} {path : Option String}

/-- Written text is read back. -/
theorem textOfBytes_toUTF8 (text : String) : textOfBytes text.toUTF8 = .ok text := by
  rw [textOfBytes, String.fromUTF8?, String.toUTF8_eq_toByteArray, dif_pos text.isValidUTF8]
  rfl

/-- Whether the file of a configuration asks for a styling; without a path it asks for none. -/
def Configures (disk : Disk) (st : Styling) : Option String → Prop
  | none => st = .unset
  | some path => ∃ text, disk.text path = .ok text ∧ st.IsConfigText text

/-- The configuration of a styling that can be used. -/
theorem config_usable (h : disk.Configures st path) (husable : st.IsUsable) :
    disk.config path = .ok ⟨st.chartTheme, Config.default.htmlTitle⟩ := by
  cases path with
  | none =>
      rw [show st = .unset from h]
      rfl
  | some path =>
      obtain ⟨text, htext, hconfig⟩ := h
      simp [config, htext, Config.parse_usable hconfig husable, Except.mapError, bind, Except.bind]

/-- A configuration with an unknown theme is refused. -/
theorem config_unknownTheme {name : String} (h : disk.Configures st path)
    (hname : st.theme = some name) (hunknown : ChartTheme.ofName? name = none) :
    disk.config path = .error (.config (.unknownTheme name)) := by
  cases path with
  | none =>
      obtain rfl : st = .unset := h
      simp [Styling.unset] at hname
  | some path =>
      obtain ⟨text, htext, hconfig⟩ := h
      simp [config, htext, Config.parse_unknownTheme hconfig hname hunknown, Except.mapError, bind,
        Except.bind]

/-- A configuration with an empty palette is refused. -/
theorem config_emptyPalette (h : disk.Configures st path) (hknown : st.HasKnownTheme)
    (hpalette : st.palette = some []) : disk.config path = .error (.config .emptyPalette) := by
  cases path with
  | none =>
      obtain rfl : st = .unset := h
      simp [Styling.unset] at hpalette
  | some path =>
      obtain ⟨text, htext, hconfig⟩ := h
      simp [config, htext, Config.parse_emptyPalette hconfig hknown hpalette, Except.mapError, bind,
        Except.bind]

end Disk

namespace Command

variable {args : Arguments} {before : Disk} {template payload : String}

/-- Whether the template and the payload of a run can be read and its output can be created. -/
structure IsReady (args : Arguments) (disk : Disk) (template payload : String) : Prop where
  one_input : (Path.isStandardInput args.template && Path.isStandardInput args.payload) = false
  template : disk.inputText args.template = .ok template
  payload : disk.inputText args.payload = .ok payload
  output : ∀ path, args.output = some path → ∃ place, disk.destination path = .ok place

/-- A run that gets its configuration gives out what it makes of its inputs. -/
theorem run_writes {config : Config} (hready : IsReady args before template payload)
    (hconfig : before.config args.config = .ok config) :
    ∃ after, (run Disk.workspace args).run.run before = (.ok (), after) ∧
      IsGivenOut args (output args.format config template payload) before after := by
  have hrun : (run Disk.workspace args).run.run before =
      (writeOutput Disk.workspace args
        (output args.format config template payload)).run.run before := by
    rw [run, if_neg (by simp [hready.one_input]), run_bind_ok _ (reads_loadConfig hconfig),
      run_bind_ok _ (reads_readInput hready.template),
      run_bind_ok _ (reads_readInput hready.payload),
      run_bind_ok _ (reads_logInputs before args.verbose template payload)]
  rw [hrun]
  cases houtput : args.output with
  | none => exact isGivenOut_printed houtput _ before
  | some path =>
      obtain ⟨place, hplace⟩ := hready.output path houtput
      exact ⟨_, writeOutput_ok houtput hplace _, isGivenOut_put houtput hplace _⟩

/-- A run that does not get its configuration changes nothing. -/
theorem run_refused {e : RunError} (hready : IsReady args before template payload)
    (hconfig : before.config args.config = .error e) :
    (run Disk.workspace args).run.run before = (.error e, before) := by
  rw [run, if_neg (by simp [hready.one_input]), run_bind_error _ (reads_loadConfig hconfig)]

/-- What a run with a configuration does beside an embedded plan with options for the same styling.
Where the styling can be used, the run gives out the text of the plan.  Otherwise the run is
refused, and the plan is the one for what can be used of the styling. -/
structure Agrees (args : Arguments) (before : Disk) (template payload : String)
    (options : Option String) (st : Styling) (text : String) : Prop where
  plan : Embed.plan template payload options = .ok text
  dump : text = (RenderPlan.ofTexts template payload).dump st.usable.chartTheme
  given_out : st.IsUsable → ∃ after,
    (run Disk.workspace args).run.run before = (.ok (), after) ∧ IsGivenOut args text before after
  unknown_theme : ∀ name, st.theme = some name → ChartTheme.ofName? name = none →
    (run Disk.workspace args).run.run before = (.error (.config (.unknownTheme name)), before)
  empty_palette : st.HasKnownTheme → st.palette = some [] →
    (run Disk.workspace args).run.run before = (.error (.config .emptyPalette), before)
  left_out : ∀ other, st.usable.IsOptionsText other →
    Embed.plan template payload other = .ok text

/-- **The command and embedded plans agree.**  A run that writes JSON with a configuration gives out
the text of the embedded plan with options for the same styling, byte by byte.  The two differ in
the styling that cannot be used, and in nothing else. -/
theorem run_agrees_plan {options : Option String} (hready : IsReady args before template payload)
    (hformat : args.format = .json) (hconfig : before.Configures st args.config)
    (hoptions : st.IsOptionsText options) :
    ∃ text, Agrees args before template payload options st text := by
  refine ⟨_, Embed.plan_eq hoptions template payload, rfl, ?_, ?_, ?_, ?_⟩
  · intro husable
    have hwritten := run_writes hready (Disk.config_usable hconfig husable)
    rwa [hformat, output, ← Styling.usable_eq_self husable] at hwritten
  · intro name hname hunknown
    exact run_refused hready (Disk.config_unknownTheme hconfig hname hunknown)
  · intro hknown hpalette
    exact run_refused hready (Disk.config_emptyPalette hconfig hknown hpalette)
  · intro other hother
    have hplan := Embed.plan_eq hother template payload
    rwa [Styling.usable_usable] at hplan

/-- A styling with all its properties. -/
def sampleStyling : Styling :=
  ⟨some "modern", some "Georgia", some ["#4E79A7"], some (.int 420)⟩

/-- A payload with one graph. -/
def sampleDocument : Json :=
  .object [("sections", .array [.object [
    ("data", .object [("labels", .strings ["x"]), ("values", .array [.int 1])]),
    ("section_type", .string "graph"), ("shortcode", .string "a"), ("type", .string "bar")]])]

/-- Its text. -/
def samplePayload : String :=
  sampleDocument.compact

/-- The section of its graph. -/
def sampleSection : Section :=
  ⟨"a", "a", "", .graph ⟨["x"], [.number (.int 1)]⟩ .bar⟩

/-- Files for a run: a template, a payload and a configuration. -/
def sampleDisk (config : String) : Disk :=
  .ofFiles [("t", "[a] | [b]".toUTF8), ("p", samplePayload.toUTF8), ("c", config.toUTF8)] .empty

/-- A run on these files that writes another one. -/
def sampleArguments : Arguments :=
  ⟨"t", "p", some "o", .json, some "c", true⟩

theorem files_sample (config : String) :
    (sampleDisk config).files = [(⟨.above 0, [['t']]⟩, "[a] | [b]".toUTF8),
      (⟨.above 0, [['p']]⟩, samplePayload.toUTF8), (⟨.above 0, [['c']]⟩, config.toUTF8)] := by
  have ht : Path.parts "t" = [['t']] := by decide
  have hp : Path.parts "p" = [['p']] := by decide
  have hc : Path.parts "c" = [['c']] := by decide
  simp only [sampleDisk, Disk.ofFiles, List.map_cons, List.map_nil, ht, hp, hc]

theorem isDirectory_sample (config : String) (c : Char) :
    (sampleDisk config).isDirectory (Location.working.child [c]) = false := by
  have hletters : (c = 't' → 't' = c) ∧ (c = 'p' → 'p' = c) ∧ (c = 'c' → 'c' = c) :=
    ⟨Eq.symm, Eq.symm, Eq.symm⟩
  simpa [Disk.isDirectory, files_sample, Location.working, Location.child, Location.isBelow]
    using hletters

theorem text_sample (config : String) :
    (sampleDisk config).text "t" = .ok "[a] | [b]" ∧
      (sampleDisk config).text "p" = .ok samplePayload ∧
        (sampleDisk config).text "c" = .ok config := by
  have htext : ∀ path c text, (sampleDisk config).target path = .ok (.entry .working [c]) →
      Path.endsWithSlash path = false → Path.isLongName [c] = false →
      (sampleDisk config).files.lookup ⟨.above 0, [[c]]⟩ = some text.toUTF8 →
      (sampleDisk config).text path = .ok text := by
    intro path c text htarget hslash hname hbytes
    have hdirectory := isDirectory_sample config c
    rw [Disk.text, Disk.read_of_target rfl htarget hslash hname hdirectory hbytes]
    exact Disk.textOfBytes_toUTF8 text
  rw [files_sample] at htext
  exact ⟨htext _ 't' _ rfl rfl rfl rfl, htext _ 'p' _ rfl rfl rfl rfl,
    htext _ 'c' _ rfl rfl rfl rfl⟩

theorem isReady_sample (config : String) :
    IsReady sampleArguments (sampleDisk config) "[a] | [b]" samplePayload := by
  obtain ⟨htemplate, hpayload, -⟩ := text_sample config
  refine ⟨by decide, htemplate, hpayload, ?_⟩
  rintro path ⟨⟩
  exact ⟨_, Disk.destination_of_target rfl rfl rfl rfl (isDirectory_sample config 'o')⟩

/-- The plan of these files has the graph in its first cell. -/
theorem rows_sample : (RenderPlan.ofTexts "[a] | [b]" samplePayload).rows =
    [⟨.two, [.resolved sampleSection, .missing "b"]⟩] := by
  have hdocument : Payload.document? samplePayload.toList = some sampleDocument :=
    Payload.document?_compact rfl
  rw [RenderPlan.ofTexts, Payload.ofText_eq_of_document? hdocument rfl]
  rfl

/-- What the charts look like with this styling. -/
def sampleTheme : ChartTheme :=
  { ChartTheme.modern with
    fontFamily := "Georgia", palette := ["#4E79A7"], height := .finite ⟨false, 13762560, -15⟩ }

/-- A run and a plan for one styling.  There is a chart to show all of it. -/
theorem run_agrees_plan_sample :
    ∃ config options, IsReady sampleArguments (sampleDisk config) "[a] | [b]" samplePayload ∧
      sampleArguments.format = .json ∧
      (sampleDisk config).Configures sampleStyling sampleArguments.config ∧
      sampleStyling.IsOptionsText (some options) ∧ sampleStyling.IsUsable ∧
      (RenderPlan.ofTexts "[a] | [b]" samplePayload).rows =
        [⟨.two, [.resolved sampleSection, .missing "b"]⟩] ∧
      ∃ text, Agrees sampleArguments (sampleDisk config) "[a] | [b]" samplePayload (some options)
        sampleStyling text ∧
          text = (RenderPlan.ofTexts "[a] | [b]" samplePayload).dump sampleTheme := by
  have hheight : ∀ n, sampleStyling.height = some n → n.numeral.strict? = some n := by
    rintro n ⟨⟩
    rfl
  have hwritten := Styling.isConfigText_write hheight (some 0)
  have hoptions := Styling.isOptionsText_write hheight none
  have husable : sampleStyling.IsUsable := by
    refine ⟨?_, by decide⟩
    rintro name ⟨⟩
    decide
  have hconfig : (sampleDisk _).Configures sampleStyling sampleArguments.config :=
    ⟨_, (text_sample _).2.2, hwritten⟩
  obtain ⟨text, hagrees⟩ := run_agrees_plan (isReady_sample _) rfl hconfig hoptions
  have htheme : sampleStyling.usable.chartTheme = sampleTheme := rfl
  exact ⟨_, _, isReady_sample _, rfl, hconfig, hoptions, husable, rows_sample, text, hagrees,
    htheme ▸ hagrees.dump⟩

end Command

end ReportGrid
