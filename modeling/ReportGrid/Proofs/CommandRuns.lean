import ReportGrid.Command.Run
import ReportGrid.Proofs.DiskWrites

/-!
# Runs of the command

A run on a disk changes nothing or gives out one text.  What it needs is read before anything is
written: `Disk.config` and `Disk.inputText` are the configuration and the texts that a disk gives,
and `Command.checks` lists what may stop a run, in the order in which it is found out.

* `Command.Reads` says of a part of a run that it gives a result and leaves the disk as it is.
  Every part but the last one does, whatever the disk is.
* `Command.run_isAllOrNothing` puts the parts together.  A run fails with the first check that does,
  and then the disk is as it was.  Otherwise the dump or the page of the plan of what the inputs
  held before the run is printed, or is what the output file holds, and nothing else has changed.
-/

namespace ReportGrid

/-! ## What a disk gives -/

namespace Disk

variable (disk : Disk)

/-- The text that bytes are in UTF-8, if they are one. -/
def textOfBytes (bytes : ByteArray) : Except FileError String :=
  match String.fromUTF8? bytes with
  | some text => .ok text
  | none => .error .notText

/-- The text of a file. -/
def text (path : String) : Except FileError String := do
  textOfBytes (← disk.read path)

/-- The text of a template or a payload, from standard input if its path says so. -/
def inputText (path : String) : Except FileError String :=
  if Path.isStandardInput path then textOfBytes disk.input else disk.text path

/-- The configuration in a file; without a path it is the default one. -/
def config : Option String → Except RunError Config
  | none => .ok .default
  | some path => do
    (Config.parse (← (disk.text path).mapError .file)).mapError .config

end Disk

namespace Command

variable {α β : Type} {disk : Disk}

/-- The error of a result, if it is one. -/
def error? {ε : Type} : Except ε α → Option ε
  | .error e => some e
  | .ok _ => none

/-- The checks of a run in their order, each with the error that it gives if it fails. -/
def checks (disk : Disk) (args : Arguments) : List (Option RunError) :=
  [if Path.isStandardInput args.template && Path.isStandardInput args.payload then
      some .bothFromInput
    else none,
    error? (disk.config args.config),
    (error? (disk.inputText args.template)).map .file,
    (error? (disk.inputText args.payload)).map .file,
    (args.output.bind fun path => error? (disk.destination path)).map .file]

/-! ## Parts that only read -/

/-- Bytes are decoded as the text that they are in UTF-8. -/
theorem decodeText_eq (bytes : ByteArray) : decodeText bytes = Disk.textOfBytes bytes := by
  rw [decodeText, Disk.textOfBytes]
  cases String.fromUTF8? bytes <;> rfl

/-- Whether a part of a run gives a result and leaves the disk as it is. -/
def Reads (part : ExceptT RunError (StateM Disk) α) (disk : Disk) (result : Except RunError α) :
    Prop :=
  part.run.run disk = (result, disk)

section

variable {part : ExceptT RunError (StateM Disk) α} {before after : Disk}
  (rest : α → ExceptT RunError (StateM Disk) β)

/-- A run goes on behind a part that gives a result. -/
theorem run_bind_ok {a : α} (h : part.run.run before = (.ok a, after)) :
    (part >>= rest).run.run before = (rest a).run.run after := by
  rw [ExceptT.run_bind, StateT.run_bind, h]
  rfl

/-- The error of a part is that of the run. -/
theorem run_bind_error {e : RunError} (h : part.run.run before = (.error e, after)) :
    (part >>= rest).run.run before = (.error e, after) := by
  rw [ExceptT.run_bind, StateT.run_bind, h]
  rfl

/-- What the disk does is a part of a run that gives a result. -/
theorem run_lift {action : StateM Disk α} {a : α} (h : action.run before = (a, after)) :
    (action : ExceptT RunError (StateM Disk) α).run.run before = (.ok a, after) := by
  rw [ExceptT.run_liftM, StateT.run_map, h]
  rfl

end

theorem reads_readText {path : String} {result : Except FileError String}
    (h : disk.text path = result) :
    Reads (readText Disk.workspace path) disk (result.mapError .file) := by
  have hread : Reads (Disk.workspace.readFile path) disk (.ok (disk.read path)) := rfl
  rw [← h, Reads, readText, run_bind_ok _ hread, Disk.text]
  cases disk.read path with
  | error e => rfl
  | ok bytes =>
      dsimp only [bind, Except.bind]
      rw [decodeText_eq]
      cases Disk.textOfBytes bytes <;> rfl

theorem reads_readInput {path : String} {result : Except FileError String}
    (h : disk.inputText path = result) :
    Reads (readInput Disk.workspace path) disk (result.mapError .file) := by
  by_cases hstandard : Path.isStandardInput path = true
  · have hread : Reads (Disk.workspace.readInput : StateM Disk ByteArray) disk
        (.ok disk.input) := rfl
    rw [← h, Reads, readInput, if_pos hstandard, run_bind_ok _ hread, Disk.inputText,
      if_pos hstandard, decodeText_eq]
    cases Disk.textOfBytes disk.input <;> rfl
  · rw [Disk.inputText, if_neg hstandard] at h
    rw [readInput, if_neg hstandard]
    exact reads_readText h

theorem reads_loadConfig {path : Option String} {result : Except RunError Config}
    (h : disk.config path = result) : Reads (loadConfig Disk.workspace path) disk result := by
  subst h
  cases path with
  | none => rfl
  | some path =>
      rw [Reads, loadConfig, Disk.config]
      cases htext : disk.text path with
      | error e => exact run_bind_error _ (reads_readText htext)
      | ok text =>
          rw [run_bind_ok _ (reads_readText htext)]
          dsimp only [Except.mapError, bind, Except.bind]
          cases Config.parse text <;> rfl

theorem reads_logInputs (disk : Disk) (verbose : Bool) (template payload : String) :
    Reads (logInputs Disk.workspace verbose template payload : StateM Disk Unit) disk (.ok ()) := by
  unfold logInputs
  dsimp only
  split <;> split <;> rfl

/-! ## The output -/

/-- Whether a text has been given out and nothing else has changed: it has been printed, a plan with
a line feed after it and a page as it is, or it is what the output file holds. -/
def IsGivenOut (args : Arguments) (text : String) (before after : Disk) : Prop :=
  match args.output with
  | none => after = { before with
      printed := before.printed ++ text ++ if args.format = .json then "\n" else "" }
  | some path => ∃ place, before.destination path = .ok place ∧
      after.IsWritten before place text.toUTF8 ∧
      (before.barred .reading path = none → after.read path = .ok text.toUTF8)

variable {args : Arguments} {before : Disk}

theorem run_writeFile_error {path : String} {e : FileError}
    (h : before.destination path = .error e) (text : String) :
    (Disk.workspace.writeFile path text).run before = (.error e, before) := by
  have hwrite : before.write path text = .error e := by
    rw [Disk.write, h]
    rfl
  simp only [Disk.workspace, StateT.run_bind, StateT.run_get, pure_bind, hwrite]
  rfl

theorem run_writeFile_ok {path : String} {place : Location}
    (h : before.destination path = .ok place) (text : String) :
    (Disk.workspace.writeFile path text).run before =
      (.ok (), before.put place text.toUTF8) := by
  have hwrite : before.write path text = .ok (before.put place text.toUTF8) := by
    rw [Disk.write, h]
    rfl
  simp only [Disk.workspace, StateT.run_bind, StateT.run_get, pure_bind, hwrite]
  rfl

/-- A plan is printed with a line feed after it, and a page as it is. -/
theorem printed_eq (format : OutputFormat) (text : String) :
    printed format text = text ++ if format = .json then "\n" else "" := by
  cases format with
  | json => rfl
  | html => simp [printed]

/-- Without an output file the text is printed. -/
theorem isGivenOut_printed (houtput : args.output = none) (text : String) (before : Disk) :
    ∃ after, (writeOutput Disk.workspace args text).run.run before = (.ok (), after) ∧
      IsGivenOut args text before after := by
  rw [writeOutput, houtput]
  refine ⟨_, rfl, ?_⟩
  rw [IsGivenOut, houtput]
  change { before with printed := before.printed ++ printed args.format text } = _
  rw [printed_eq, String.append_assoc]

/-- A file that cannot be created is not touched. -/
theorem writeOutput_error {path : String} {e : FileError} (houtput : args.output = some path)
    (hplace : before.destination path = .error e) (text : String) :
    (writeOutput Disk.workspace args text).run.run before = (.error (.file e), before) := by
  rw [writeOutput, houtput]
  exact run_bind_ok _ (run_lift (run_writeFile_error hplace text))

theorem writeOutput_ok {path : String} {place : Location} (houtput : args.output = some path)
    (hplace : before.destination path = .ok place) (text : String) :
    (writeOutput Disk.workspace args text).run.run before =
      (.ok (), before.put place text.toUTF8) := by
  rw [writeOutput, houtput]
  exact run_bind_ok _ (run_lift (run_writeFile_ok hplace text))

theorem isGivenOut_put {path : String} {place : Location} (houtput : args.output = some path)
    (hplace : before.destination path = .ok place) (text : String) :
    IsGivenOut args text before (before.put place text.toUTF8) := by
  rw [IsGivenOut, houtput]
  exact ⟨place, hplace, before.isWritten_put place text.toUTF8, Disk.read_put hplace⟩

/-! ## Whole runs -/

/-- What a run does to a disk: all or nothing.  It fails with the first of its checks that does,
without a change, or it gives out the dump or the page of the plan that its inputs stood for before
it. -/
structure IsAllOrNothing (args : Arguments) (before : Disk)
    (outcome : Except RunError Unit × Disk) : Prop where
  fails_iff : ∀ e, outcome.1 = .error e ↔ (checks before args).findSome? id = some e
  unchanged : ∀ e, outcome.1 = .error e → outcome.2 = before
  givenOut : outcome.1 = .ok () → ∃ config template payload text,
    before.config args.config = .ok config ∧
      before.inputText args.template = .ok template ∧
      before.inputText args.payload = .ok payload ∧
      (args.format = .json → text = (RenderPlan.ofTexts template payload).dump config.chart) ∧
      (args.format = .html → text = Page.html (RenderPlan.ofTexts template payload) config) ∧
      IsGivenOut args text before outcome.2

/-- A run that fails a check. -/
theorem isAllOrNothing_error {e : RunError} (h : (checks before args).findSome? id = some e) :
    IsAllOrNothing args before (.error e, before) where
  fails_iff := by simp [h]
  unchanged := fun _ _ => rfl
  givenOut := by simp

/-- A run that gives out what it makes of its inputs. -/
theorem isAllOrNothing_ok {config : Config} {template payload : String} {after : Disk}
    (hchecks : (checks before args).findSome? id = none)
    (hconfig : before.config args.config = .ok config)
    (htemplate : before.inputText args.template = .ok template)
    (hpayload : before.inputText args.payload = .ok payload)
    (hout : IsGivenOut args (output args.format config template payload) before after) :
    IsAllOrNothing args before (.ok (), after) where
  fails_iff := by simp [hchecks]
  unchanged := by simp
  givenOut := by
    intro _
    refine ⟨config, template, payload, _, hconfig, htemplate, hpayload, ?_, ?_, hout⟩
    · intro hformat
      rw [hformat, output]
    · intro hformat
      rw [hformat, output]

/-- The end of a run: all inputs have been read, and only the output can fail. -/
theorem isAllOrNothing_writeOutput {config : Config} {template payload : String}
    (hboth : (Path.isStandardInput args.template && Path.isStandardInput args.payload) = false)
    (hconfig : before.config args.config = .ok config)
    (htemplate : before.inputText args.template = .ok template)
    (hpayload : before.inputText args.payload = .ok payload) :
    IsAllOrNothing args before
      ((writeOutput Disk.workspace args
        (output args.format config template payload)).run.run before) := by
  have hchecks : (checks before args).findSome? id =
      (args.output.bind fun path => error? (before.destination path)).map .file := by
    simp [checks, error?, hboth, hconfig, htemplate, hpayload]
  cases houtput : args.output with
  | none =>
      obtain ⟨after, hrun, hout⟩ :=
        isGivenOut_printed houtput (output args.format config template payload) before
      rw [hrun]
      exact isAllOrNothing_ok (by simp [hchecks, houtput]) hconfig htemplate hpayload hout
  | some path =>
      cases hplace : before.destination path with
      | error e =>
          rw [writeOutput_error houtput hplace]
          exact isAllOrNothing_error (by simp [hchecks, houtput, hplace, error?])
      | ok place =>
          rw [writeOutput_ok houtput hplace]
          exact isAllOrNothing_ok (by simp [hchecks, houtput, hplace, error?]) hconfig htemplate
            hpayload (isGivenOut_put houtput hplace _)

/-- **A run changes nothing or gives out one text**, whatever its arguments and the disk are. -/
theorem run_isAllOrNothing (args : Arguments) (before : Disk) :
    IsAllOrNothing args before ((run Disk.workspace args).run.run before) := by
  -- The cases follow the order in which a run reads, each on the unchanged disk.
  cases hboth : Path.isStandardInput args.template && Path.isStandardInput args.payload with
  | true =>
      rw [run, if_pos hboth]
      exact isAllOrNothing_error (by simp [checks, hboth])
  | false =>
      rw [run, if_neg (by simp [hboth])]
      cases hconfig : before.config args.config with
      | error e =>
          rw [run_bind_error _ (reads_loadConfig hconfig)]
          exact isAllOrNothing_error (by simp [checks, error?, hboth, hconfig])
      | ok config =>
          rw [run_bind_ok _ (reads_loadConfig hconfig)]
          cases htemplate : before.inputText args.template with
          | error e =>
              rw [run_bind_error _ (reads_readInput htemplate)]
              exact isAllOrNothing_error (by simp [checks, error?, hboth, hconfig, htemplate])
          | ok template =>
              rw [run_bind_ok _ (reads_readInput htemplate)]
              cases hpayload : before.inputText args.payload with
              | error e =>
                  rw [run_bind_error _ (reads_readInput hpayload)]
                  exact isAllOrNothing_error
                    (by simp [checks, error?, hboth, hconfig, htemplate, hpayload])
              | ok payload =>
                  rw [run_bind_ok _ (reads_readInput hpayload),
                    run_bind_ok _ (reads_logInputs before args.verbose template payload)]
                  exact isAllOrNothing_writeOutput hboth hconfig htemplate hpayload

end Command

end ReportGrid
