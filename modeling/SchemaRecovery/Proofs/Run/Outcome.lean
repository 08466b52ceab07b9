import SchemaRecovery.CommandLine.Run
import SchemaRecovery.Proofs.Layout.Completeness
import SchemaRecovery.Proofs.Run.Files

set_option autoImplicit false

namespace SchemaRecovery.CommandLine

open Recovery (Failure)
open FileSystem (Keeps Holds)

def effective (setting : Option String) (argument : Option Value) (usual : String) : String :=
  setting.getD ((argument.map Value.shown).getD usual)

section
variable (invocation : Invocation) (options : Options)

def effectiveVersion : String := effective (invocation.environment.lookup "PW_VERSION") options.version "latest"

def effectiveOutput : String :=
  effective (invocation.environment.lookup "PW_OUTPUT_FILE") options.output "proto/whatsapp.proto"

def outputPlace (files : FileSystem) : Location :=
  files.locate (files.absolute (Path.ofText (effectiveOutput invocation options)))

def dumpPlaces (files : FileSystem) : List Location :=
  ((options.dumpCatalog.bind Value.present?).map fun path => files.locate (Path.ofText path)).toList

end

inductive Reported : Failure → Prop where
  | unparsed (source : String) (fault : Script.Fault) (judged : fault ≠ .headlessTemplate) :
    Reported (.unparsed source fault)
  | noModules (why : Recovery.NoModules) : Reported (.noModules why)
  | noOwner (why : Recovery.NoOwner) : Reported (.noOwner why)

theorem reported_iff (why : Failure) : Reported why ↔ ∃ message, why.message? = some message := by
  constructor
  · rintro (⟨source, fault, judged⟩ | why | why)
    · cases fault with
      | refused line column complaint => exact ⟨_, rfl⟩
      | tooDeep => exact ⟨_, rfl⟩
      | headlessTemplate => exact absurd rfl judged
    · exact ⟨_, rfl⟩
    · exact ⟨_, rfl⟩
  · rintro ⟨message, told⟩
    cases why with
    | badPatch fault => cases told
    | unparsed source fault =>
        refine .unparsed source fault ?_
        rintro rfl
        cases told
    | noModules why => exact .noModules why
    | noOwner why => exact .noOwner why

def extraction (invocation : Invocation) (options : Options) (settings : Settings) (source : String) :
    Except Failure Extraction :=
  (Extraction.ofSource settings ⟨effectiveVersion invocation options, invocation.now⟩ (!options.noCheck) source).value

structure Extracts (invocation : Invocation) (options : Options) (files : FileSystem)
    (value : Except Failure Extraction) : Prop where
  arguments : Options.ofArguments invocation.arguments = .ok options
  value : ∃ input settings source, inputOf invocation.environment options = some input ∧
    Settings.ofEnvironment invocation.environment = .ok settings ∧ files.Readable input source ∧
    extraction invocation options settings source = value

inductive Refused (invocation : Invocation) (files : FileSystem) : Prop where
  | arguments (fault : UsageFault) (rejected : Options.ofArguments invocation.arguments = .error (.fault fault))
  | input (options : Options) (read : Options.ofArguments invocation.arguments = .ok options)
    (missing : inputOf invocation.environment options = none)
  | bundle (options : Options) (input : String) (settings : Settings)
    (read : Options.ofArguments invocation.arguments = .ok options)
    (given : inputOf invocation.environment options = some input)
    (set : Settings.ofEnvironment invocation.environment = .ok settings)
    (unreadable : ∀ source, ¬ files.Readable input source)
  | extraction (options : Options) (why : Failure) (reported : Reported why)
    (failed : Extracts invocation options files (.error why))

structure Wrote (invocation : Invocation) (options : Options) (before after : FileSystem) (result : Extraction) :
    Prop where
  -- What has been written by a run that returns.
  extracted : Extracts invocation options before (.ok result)
  output : outputPlace invocation options before ∉ dumpPlaces options before →
    ∃ plain, Text.Utf8.Spells plain result.document ∧
      after.entry? (outputPlace invocation options before) = some (.file (Text.Utf8.encode plain))
  others : Keeps (outputPlace invocation options before :: dumpPlaces options before) before after

structure Plan.Ready (plan : Plan) (invocation : Invocation) (options : Options) (settings : Settings) (source : String) :
    Prop where
  source : plan.extractor.source = some source
  settings : plan.extractor.settings = settings
  version : plan.extractor.version = effectiveVersion invocation options
  check : plan.extractor.check = !options.noCheck
  output : plan.extractor.output = effectiveOutput invocation options
  dump : plan.dump = options.dumpCatalog.bind Value.present?

section Plan
variable (plan : Plan) (invocation : Invocation) (options : Options) (settings : Settings) (source : String)
  (ready : plan.Ready invocation options settings source) (files : FileSystem)
include ready

theorem extract_and_write_failed (why : Failure) (failed : extraction invocation options settings source = .error why) :
    ∃ log, extractAndWrite plan invocation.now files =
      match why.message? with
      | some message => Outcome.fails files 1 log ["Error: " ++ message]
      | none => Outcome.breaks files log (.unreported why) := by
  refine ⟨((plan.extractor.extract invocation.now).2).log, ?_⟩
  rw [extraction] at failed
  cases told : why.message? <;>
    simp only [extractAndWrite, Extractor.extract, ready.source, ready.settings, ready.version, ready.check, failed, told]

theorem extract_and_write_result (result : Extraction)
    (succeeded : extraction invocation options settings source = .ok result) :
    extractAndWrite plan invocation.now files =
      let log := (plan.extractor.extract invocation.now).2.log
      if plan.hasOutput then
        match Extractor.write { plan.extractor with result := some result } files with
        | .ok written => finish plan log result written
        | .error .notExtracted => Outcome.fails files 1 log ["Error: " ++ notExtractedMessage]
        | .error (.path fault) => Outcome.breaks files log (.path fault)
        | .error (.unencodable fault left) => Outcome.breaks left.files log (.unencodable fault)
      else Outcome.breaks files log .noOutput := by
  obtain ⟨log, extracts⟩ : ∃ log, plan.extractor.extract invocation.now =
      ({ plan.extractor with result := some result }, ⟨.ok result, log⟩) := by
    rw [extraction] at succeeded
    simp [Extractor.extract, ready.source, ready.settings, ready.version, ready.check, succeeded]
  rcases wrote : Extractor.write { plan.extractor with result := some result } files with
    (_ | fault | ⟨fault, left⟩) | written
  all_goals simp only [extractAndWrite, extracts, wrote]

end Plan

theorem finish_ends (plan : Plan) (log : List String) (result : Extraction) (before : FileSystem)
    (written : Written) (place : Location) (bytes : List UInt8)
    (holds : Holds place bytes before written.files) :
    (finish plan log result written).uncaught ≠ none ∧ (finish plan log result written).exitCode ≠ 0 ∨
      (finish plan log result written).exitCode = 0 ∧
        let dumps := (plan.dump.map fun path => before.locate (Path.ofText path)).toList
        (place ∉ dumps → FileSystem.entry? (finish plan log result written).files place = some (.file bytes)) ∧
          Keeps (place :: dumps) before (finish plan log result written).files := by
  unfold finish
  cases plan.dump with
  | none => exact .inr ⟨rfl, fun _ => holds.file, holds.others⟩
  | some path =>
      dsimp only
      cases dumped : dumpCatalog written.files path result.catalog with
      | error fault => exact .inl ⟨nofun, nofun⟩
      | ok files =>
          have dump := FileSystem.write_within_holds written.files files (Path.ofText path) _ dumped
          have same : written.files.locate (Path.ofText path) = before.locate (Path.ofText path) := by
            simp only [FileSystem.locate, FileSystem.startOf, holds.others.working]
          rw [same] at dump
          refine .inr ⟨rfl, fun apart => ?_, FileSystem.keeps_trans _ _ _ _ _ holds.others dump.others⟩
          rcases dump.others.entries place apart with kept | ⟨missing, _⟩
          · exact kept.trans holds.file
          · rw [holds.file] at missing
            cases missing

def loadedPlan (invocation : Invocation) (options : Options) (input : String) (settings : Settings) (source : String) :
    Plan :=
  let plan := planOf invocation.environment options input settings
  { plan with extractor := { plan.extractor with source := some source } }

theorem loaded_plan_ready (invocation : Invocation) (options : Options) (input : String) (settings : Settings)
    (source : String) :
    (loadedPlan invocation options input settings source).Ready invocation options settings source := by
  have shown (setting : Option String) (argument : Option Value) (usual : String) :
      ((setting.map Value.text).getD (argument.getD (.text usual))).shown = effective setting argument usual := by
    cases setting <;> cases argument <;> rfl
  exact ⟨rfl, rfl, shown _ _ _, rfl, shown _ _ _, rfl⟩

variable (invocation : Invocation) (files : FileSystem)

section Loaded
variable (options : Options) (input : String) (settings : Settings) (source : String)
  (arguments : Options.ofArguments invocation.arguments = .ok options)
  (given : inputOf invocation.environment options = some input)
  (set : Settings.ofEnvironment invocation.environment = .ok settings) (readable : files.Readable input source)
include arguments given set readable

theorem run_loaded : run invocation files =
    extractAndWrite (loadedPlan invocation options input settings source) invocation.now files := by
  have bundle := (files.read_bundle_iff input source).mpr readable
  have load : (planOf invocation.environment options input settings).extractor.input = input := rfl
  simp only [run, arguments, runOptions, given, set, Extractor.load, load, bundle, loadedPlan]

end Loaded

theorem run_refused (refused : Refused invocation files) :
    (run invocation files).exitCode ≠ 0 ∧ (run invocation files).uncaught = none ∧
      (run invocation files).files = files := by
  cases refused with
  | arguments fault rejected =>
      rw [run, rejected]
      exact ⟨nofun, rfl, rfl⟩
  | input options read missing =>
      rw [run, read]
      dsimp only [runOptions]
      rw [missing]
      exact ⟨nofun, rfl, rfl⟩
  | bundle options input settings read given set unreadable =>
      obtain ⟨fault, unread⟩ := (files.read_bundle_fails_iff input).mpr unreadable
      have load : (planOf invocation.environment options input settings).extractor.input = input := rfl
      rw [run, read]
      simp only [runOptions, given, set, Extractor.load, load, unread]
      exact ⟨nofun, rfl, rfl⟩
  | extraction options why reported failed =>
      obtain ⟨read, input, settings, source, given, set, readable, value⟩ := failed
      obtain ⟨message, told⟩ := (reported_iff why).mp reported
      obtain ⟨log, ended⟩ := extract_and_write_failed _ invocation options settings source
        (loaded_plan_ready invocation options input settings source) files why value
      rw [run_loaded invocation files options input settings source read given set readable, ended, told]
      exact ⟨nofun, rfl, rfl⟩

inductive Ends (outcome : Outcome) : Prop where
  -- A run is refused, or breaks off, or only shows its help, or writes what it is to write.
  | refused (refused : Refused invocation files)
  | breaks (exitCode : outcome.exitCode ≠ 0) (uncaught : outcome.uncaught ≠ none)
  | help (shown : Options.ofArguments invocation.arguments = .error .help) (exitCode : outcome.exitCode = 0)
  | returns (options : Options) (result : Extraction) (exitCode : outcome.exitCode = 0)
    (wrote : Wrote invocation options files outcome.files result)

theorem extract_and_write_ends (plan : Plan) (options : Options) (settings : Settings) (source : String)
    (ready : plan.Ready invocation options settings source)
    (extracts : Extracts invocation options files (extraction invocation options settings source)) :
    Ends invocation files (extractAndWrite plan invocation.now files) := by
  cases value : extraction invocation options settings source with
  | error why =>
      rw [value] at extracts
      obtain ⟨log, ended⟩ := extract_and_write_failed plan invocation options settings source ready files why value
      rw [ended]
      cases told : why.message? with
      | none => exact .breaks nofun nofun
      | some message => exact .refused (.extraction options why ((reported_iff why).mpr ⟨message, told⟩) extracts)
  | ok result =>
      rw [value] at extracts
      have ends := Extractor.write_ends { plan.extractor with result := some result } files result rfl
      rw [ready.output] at ends
      rw [extract_and_write_result plan invocation options settings source ready files result value]
      generalize Extractor.write { plan.extractor with result := some result } files = outcome at ends ⊢
      dsimp only
      split
      · cases ends with
        | written plain spells changed done =>
            have holds := FileSystem.write_within_holds files changed _ _ done
            have finished := finish_ends plan (plan.extractor.extract invocation.now).2.log result files
              ⟨outputPlace invocation options files, changed⟩ _ _ holds
            rw [ready.dump] at finished
            rcases finished with ⟨uncaught, exitCode⟩ | ⟨exitCode, kept, others⟩
            · exact .breaks exitCode uncaught
            · exact .returns options result exitCode ⟨extracts, fun apart => ⟨plain, spells, kept apart⟩, others⟩
        | emptied fault halved left done => exact .breaks nofun nofun
        | path bytes fault failed => exact .breaks nofun nofun
      · exact .breaks nofun nofun

theorem run_ends : Ends invocation files (run invocation files) := by
  cases arguments : Options.ofArguments invocation.arguments with
  | error stop =>
      cases stop with
      | help =>
          refine .help arguments ?_
          rw [run, arguments]
      | fault fault => exact .refused (.arguments fault arguments)
  | ok options =>
      cases given : inputOf invocation.environment options with
      | none => exact .refused (.input options arguments given)
      | some input =>
          cases set : Settings.ofEnvironment invocation.environment with
          | error bad =>
              simp only [run, arguments, runOptions, given, set]
              exact .breaks nofun nofun
          | ok settings =>
              by_cases readable : ∃ source, files.Readable input source
              · obtain ⟨source, readable⟩ := readable
                rw [run_loaded invocation files options input settings source arguments given set readable]
                exact extract_and_write_ends invocation files _ options settings source
                  (loaded_plan_ready invocation options input settings source)
                  ⟨arguments, input, settings, source, given, set, readable, rfl⟩
              · exact .refused (.bundle options input settings arguments given set (not_exists.mp readable))

structure AllOrNothing (outcome : Outcome) : Prop where
  -- What is promised of a run: it writes nothing when it is refused, and all of its files when
  -- it returns. No run reports an error in another way than by a refusal.
  refused : Refused invocation files → outcome.exitCode ≠ 0 ∧ outcome.uncaught = none ∧ outcome.files = files
  reported : outcome.exitCode ≠ 0 → outcome.uncaught = none → Refused invocation files
  returned : ∀ options, Options.ofArguments invocation.arguments = .ok options → outcome.exitCode = 0 →
    ∃ result, Wrote invocation options files outcome.files result

theorem run_all_or_nothing : AllOrNothing invocation files (run invocation files) := by
  have ends := run_ends invocation files
  constructor
  case refused => exact run_refused invocation files
  case reported =>
    intro failed told
    cases ends with
    | refused refused => exact refused
    | breaks _ uncaught => exact absurd told uncaught
    | help _ exitCode => exact absurd exitCode failed
    | returns _ _ exitCode => exact absurd exitCode failed
  case returned =>
    intro options read succeeded
    cases ends with
    | refused refused => exact absurd succeeded (run_refused invocation files refused).1
    | breaks exitCode => exact absurd succeeded exitCode
    | help shown => cases shown.symm.trans read
    | returns other result _ wrote =>
        cases wrote.extracted.arguments.symm.trans read
        exact ⟨result, wrote⟩

def smallBundle : String := "f(function(){c={};i.A=c;c.internalSpec={}})"

def smallInvocation : Invocation where
  arguments := ["--input=bundle.js", "-oout/a.proto", "--dump", "a.json", "--no-check"]
  environment := [("PW_VERSION", "2.3")]
  now := "2024-01-31T12:00:00.000Z"

def smallFiles : FileSystem := { entries := [(["bundle.js"], .file (Text.Utf8.encode smallBundle))] }

def smallOptions : Options where
  input := some (.text "bundle.js")
  output := some (.text "out/a.proto")
  dumpCatalog := some (.text "a.json")
  noCheck := true

def smallDefinition : Schema.Definition where
  name := "A"
  localName := some "c"
  members := some []
  module := some "<module 0>"

theorem small_bundle_recovers : (Recovery.recover {} smallBundle).value.toOption.isSome = true := by decide +kernel

def smallCatalog : Schema.Catalog := (Recovery.recover {} smallBundle).value.toOption.get small_bundle_recovers

def smallResult : Extraction := (Extraction.ofCatalog {} ⟨"2.3", smallInvocation.now⟩ false smallCatalog).value

def smallDocument : String :=
  "syntax = \"proto3\";\npackage proto;\n\n/// WhatsApp Version: 2.3\n/// Generated on: 2024-01-31T12:00:00.000Z\n"
    ++ "/// Entities found: 1\n\nmessage A \x7b\n\x7d\n"

theorem small_catalog_read :
    (smallCatalog.byName, smallCatalog.nesting) = ([smallDefinition], ⟨[("A", "")], []⟩) := by decide +kernel

theorem small_result_document : smallResult.document = smallDocument := by
  have single : smallCatalog.byName = [smallDefinition] := congrArg Prod.fst small_catalog_read
  have nesting : smallCatalog.nesting = ⟨[("A", "")], []⟩ := congrArg Prod.snd small_catalog_read
  have layout := Proto.single_layout smallCatalog smallDefinition single (by rw [nesting]; decide +kernel)
  rw [nesting] at layout
  rw [smallResult, Extraction.ofCatalog, Proto.Document.ofCatalog, layout]
  decide +kernel

theorem small_extraction : extraction smallInvocation smallOptions {} smallBundle = .ok smallResult :=
  Extraction.of_source_recovered {} _ _ smallBundle smallCatalog (Option.some_get small_bundle_recovers).symm

theorem small_run_returns : (run smallInvocation smallFiles).exitCode = 0 := by
  have readable : smallFiles.Readable "bundle.js" smallBundle := ⟨smallBundle, by decide +kernel, by decide +kernel⟩
  rw [run_loaded smallInvocation smallFiles smallOptions "bundle.js" {} smallBundle (by decide +kernel) (by decide +kernel)
    rfl readable]
  rw [extract_and_write_result _ smallInvocation smallOptions {} smallBundle
    (loaded_plan_ready smallInvocation smallOptions "bundle.js" {} smallBundle) smallFiles smallResult small_extraction]
  simp only [Extractor.write, small_result_document]
  decide +kernel

theorem run_all_or_nothing_small :
    Options.ofArguments smallInvocation.arguments = .ok smallOptions ∧ (run smallInvocation smallFiles).exitCode = 0 ∧
      outputPlace smallInvocation smallOptions smallFiles = ["out", "a.proto"] ∧
      dumpPlaces smallOptions smallFiles = [["a.json"]] ∧
      (∃ result, Wrote smallInvocation smallOptions smallFiles (run smallInvocation smallFiles).files result) ∧
      (run { smallInvocation with arguments := [] } smallFiles).files = smallFiles := by
  have read : Options.ofArguments smallInvocation.arguments = .ok smallOptions := by decide +kernel
  have missing : Refused { smallInvocation with arguments := [] } smallFiles := .input {} rfl rfl
  exact ⟨read, small_run_returns, by decide +kernel, by decide +kernel,
    (run_all_or_nothing smallInvocation smallFiles).returned smallOptions read small_run_returns,
    ((run_all_or_nothing _ smallFiles).refused missing).2.2⟩

end SchemaRecovery.CommandLine
