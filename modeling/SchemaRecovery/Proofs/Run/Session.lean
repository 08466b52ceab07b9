import SchemaRecovery.Extractor
import SchemaRecovery.Proofs.Layout.Completeness
import SchemaRecovery.Proofs.Run.Directories

set_option autoImplicit false

namespace SchemaRecovery

section History
variable {α β : Type} (success : List β → β → Option α)

def Latest (moves : List β) (value : α) : Prop :=
  -- What came of the last move that succeeded, where a success may depend on all moves before.
  ∃ before move after, moves = before ++ move :: after ∧ success before move = some value ∧
    ∀ middle other later, after = middle ++ other :: later → success (before ++ move :: middle) other = none

def Never (moves : List β) : Prop :=
  ∀ before move after, moves = before ++ move :: after → success before move = none

theorem never_snoc (moves : List β) (last : β) :
    Never success (moves ++ [last]) ↔ success moves last = none ∧ Never success moves := by
  constructor
  · intro never
    refine ⟨never moves last [] rfl, fun before move after whole => ?_⟩
    exact never before move (after ++ [last]) (by rw [whole, List.append_assoc, List.cons_append])
  · rintro ⟨failed, never⟩ before move after whole
    rcases List.eq_nil_or_concat after with rfl | ⟨middle, final, rfl⟩
    · obtain ⟨rfl, same⟩ := List.append_inj' whole rfl
      rw [← (List.cons.inj same).1]
      exact failed
    · rw [List.concat_eq_append, ← List.cons_append, ← List.append_assoc] at whole
      exact never before move middle (List.append_inj' whole rfl).1

theorem latest_snoc (moves : List β) (last : β) (value : α) : Latest success (moves ++ [last]) value ↔
    success moves last = some value ∨ success moves last = none ∧ Latest success moves value := by
  constructor
  · rintro ⟨before, move, after, whole, succeeded, since⟩
    rcases List.eq_nil_or_concat after with rfl | ⟨middle, final, rfl⟩
    · obtain ⟨rfl, same⟩ := List.append_inj' whole rfl
      rw [(List.cons.inj same).1]
      exact .inl succeeded
    · rw [List.concat_eq_append] at whole since
      rw [← List.cons_append, ← List.append_assoc] at whole
      obtain ⟨rfl, same⟩ := List.append_inj' whole rfl
      obtain rfl := (List.cons.inj same).1
      refine .inr ⟨since middle last [] rfl, before, move, middle, rfl, succeeded, fun earlier other later split => ?_⟩
      exact since earlier other (later ++ [last]) (by rw [split, List.append_assoc, List.cons_append])
  · rintro (succeeded | ⟨failed, before, move, after, rfl, succeeded, since⟩)
    · exact ⟨moves, last, [], rfl, succeeded, fun middle other later split => by simp at split⟩
    · refine ⟨before, move, after ++ [last], by simp, succeeded, fun middle other later split => ?_⟩
      rcases List.eq_nil_or_concat later with rfl | ⟨between, final, rfl⟩
      · obtain ⟨rfl, same⟩ := List.append_inj' split rfl
        rw [← (List.cons.inj same).1]
        exact failed
      · rw [List.concat_eq_append, ← List.cons_append, ← List.append_assoc] at split
        exact since middle other between (List.append_inj' split rfl).1

theorem stored_latest (stored : List β → Option α) (start : stored [] = none)
    (step : ∀ moves last, stored (moves ++ [last]) = (success moves last).or (stored moves)) (moves : List β) :
    (∀ value, stored moves = some value ↔ Latest success moves value) ∧ (stored moves = none ↔ Never success moves) := by
  -- What a move comes to depends on those before it, so the last one is taken off.
  induction moves using List.reverseRecOn with
  | nil =>
      rw [start]
      constructor
      · simp [Latest]
      · simp [Never]
  | append_singleton moves last ih =>
      obtain ⟨some, none⟩ := ih
      rw [step]
      constructor
      · intro value
        rw [latest_snoc, ← some]
        cases success moves last <;> simp
      · rw [never_snoc, ← none]
        cases success moves last <;> simp

end History

structure Session where
  extractor : Extractor
  files : FileSystem

inductive Move where
  | load
  | extract (now : String)
  | write
  | input (path : String)
  | output (path : String)
  | version (version : String)
  | check (check : Bool)
  | verbose (verbose : Bool)
  | files (files : FileSystem)

namespace Session

def move (session : Session) : Move → Session
  | .load => { session with extractor := (session.extractor.load session.files).1 }
  | .extract now => { session with extractor := (session.extractor.extract now).1 }
  | .write =>
    match session.extractor.write session.files with
    | .ok written => { session with files := written.files }
    | .error (.unencodable _ left) => { session with files := left.files }
    | .error _ => session
  | .input path => { session with extractor := { session.extractor with input := path } }
  | .output path => { session with extractor := { session.extractor with output := path } }
  | .version version => { session with extractor := { session.extractor with version := version } }
  | .check check => { session with extractor := { session.extractor with check := check } }
  | .verbose verbose => { session with extractor := { session.extractor with verbose := verbose } }
  | .files files => { session with files := files }

def run (session : Session) (moves : List Move) : Session := moves.foldl move session

theorem run_snoc (session : Session) (moves : List Move) (last : Move) :
    session.run (moves ++ [last]) = (session.run moves).move last := by
  simp [run]

def readAt (start : Session) (before : List Move) : Move → Option String
  | .load => (readBundle (start.run before).files (start.run before).extractor.input).toOption
  | _ => none

def extractedAt (start : Session) (before : List Move) : Move → Option Extraction
  | .extract now => ((start.run before).extractor.extract now).2.value.toOption
  | _ => none

end Session

namespace Extractor

theorem load_source (extractor : Extractor) (files : FileSystem) :
    (extractor.load files).1.source = (readBundle files extractor.input).toOption.or extractor.source ∧
      (extractor.load files).1.result = extractor.result := by
  unfold load
  cases readBundle files extractor.input <;> exact ⟨rfl, rfl⟩

theorem extract_result (extractor : Extractor) (now : String) :
    (extractor.extract now).1.result = (extractor.extract now).2.value.toOption.or extractor.result ∧
      (extractor.extract now).1.source = extractor.source := by
  unfold extract
  split
  · exact ⟨rfl, rfl⟩
  · dsimp only
    split <;> exact ⟨rfl, rfl⟩

theorem load_iff (extractor : Extractor) (files : FileSystem) :
    (extractor.load files).2 = .ok () ↔ ∃ text, files.Readable extractor.input text := by
  simp only [← FileSystem.read_bundle_iff]
  unfold load
  cases readBundle files extractor.input <;> simp

theorem load_fails (extractor : Extractor) (files : FileSystem) (fault : LoadFault)
    (failed : (extractor.load files).2 = .error fault) : (extractor.load files).1 = extractor := by
  unfold load at failed ⊢
  split at failed
  · cases failed
  · rfl

theorem extract_fails (extractor : Extractor) (now : String) (fault : ExtractFault)
    (failed : (extractor.extract now).2.value = .error fault) : (extractor.extract now).1 = extractor := by
  revert failed
  unfold extract
  split
  · exact fun _ => rfl
  · dsimp only
    split
    · exact fun failed => nomatch failed
    · exact fun _ => rfl

theorem extract_value (extractor : Extractor) (now : String) : (extractor.extract now).2.value =
    match extractor.source with
    | none => .error .notLoaded
    | some text =>
      (Extraction.ofSource extractor.settings ⟨extractor.version, now⟩ extractor.check text).value.mapError .failure := by
  unfold extract
  cases extractor.source with
  | none => rfl
  | some text =>
      dsimp only
      cases (Extraction.ofSource extractor.settings ⟨extractor.version, now⟩ extractor.check text).value <;> rfl

theorem write_unextracted_iff (extractor : Extractor) (files : FileSystem) :
    extractor.write files = .error .notExtracted ↔ extractor.result = none := by
  cases extracted : extractor.result with
  | none =>
      rw [write, extracted]
      exact iff_of_true rfl rfl
  | some result =>
      have ends := extractor.write_ends files result extracted
      refine iff_of_false (fun failed => ?_) (Option.some_ne_none result)
      rw [failed] at ends
      cases ends

end Extractor

namespace Session

variable (start : Session)

theorem stores_snoc (moves : List Move) (last : Move) :
    (start.run (moves ++ [last])).extractor.source =
        (start.readAt moves last).or (start.run moves).extractor.source ∧
      (start.run (moves ++ [last])).extractor.result =
        (start.extractedAt moves last).or (start.run moves).extractor.result := by
  rw [run_snoc]
  cases last with
  | load => exact Extractor.load_source _ _
  | extract now => exact (Extractor.extract_result _ now).symm
  | write =>
      simp only [move, readAt, extractedAt, Option.none_or]
      split <;> exact ⟨rfl, rfl⟩
  | input path => exact ⟨rfl, rfl⟩
  | output path => exact ⟨rfl, rfl⟩
  | version version => exact ⟨rfl, rfl⟩
  | check check => exact ⟨rfl, rfl⟩
  | verbose verbose => exact ⟨rfl, rfl⟩
  | files files => exact ⟨rfl, rfl⟩

structure Writes (extractor : Extractor) (files : FileSystem) (text : String) : Prop where
  whole : files.Free (files.locate (Path.ofText extractor.output)) → Text.Utf8.Whole text →
    ∃ plain written, Text.Utf8.Spells plain text ∧ extractor.write files = .ok written ∧
      written.location = files.locate (Path.ofText extractor.output) ∧
      FileSystem.Holds written.location (Text.Utf8.encode plain) files written.files
  halved : files.Free (files.locate (Path.ofText extractor.output)) → ¬ Text.Utf8.Whole text →
    ∃ fault left, extractor.write files = .error (.unencodable fault left) ∧
      left.location = files.locate (Path.ofText extractor.output) ∧
      FileSystem.Holds left.location [] files left.files
  taken : ¬ files.Free (files.locate (Path.ofText extractor.output)) → ∃ fault, extractor.write files = .error (.path fault)

theorem writes_result (extractor : Extractor) (files : FileSystem) (result : Extraction)
    (extracted : extractor.result = some result) (inward : ∀ part ∈ files.working, FileSystem.Inward part) :
    Writes extractor files result.document := by
  have writable := files.write_within_iff _ (files.locate_inward inward (Path.ofText extractor.output))
  have located := files.locate_absolute inward (Path.ofText extractor.output)
  have ends := extractor.write_ends files result extracted
  generalize came : extractor.write files = outcome at ends
  cases ends with
  | written plain spells changed done =>
      have holds := FileSystem.write_within_holds files changed _ _ done
      have whole := Text.Utf8.spelled_whole plain result.document spells
      exact ⟨fun _ _ => ⟨plain, _, spells, came, located, holds⟩, fun _ halved => absurd whole halved,
        fun taken => absurd ((writable _).mp ⟨changed, done⟩) taken⟩
  | emptied fault halved left done =>
      have holds := FileSystem.write_within_holds files left _ _ done
      exact ⟨fun _ whole => absurd whole halved, fun _ _ => ⟨fault, _, came, located, holds⟩,
        fun taken => absurd ((writable _).mp ⟨left, done⟩) taken⟩
  | path bytes fault failed =>
      have taken : ¬ files.Free (files.locate (Path.ofText extractor.output)) := by
        intro free
        obtain ⟨changed, done⟩ := (writable bytes).mpr free
        cases failed.symm.trans done
      exact ⟨fun free => absurd free taken, fun free => absurd free taken, fun _ => ⟨fault, came⟩⟩

structure Recalls (moves : List Move) (extractor : Extractor) (files : FileSystem) : Prop where
  -- What the extractor of a session does after its moves, for whatever they have been.
  unloaded : ∀ now, (extractor.extract now).2.value = .error .notLoaded ↔ Never start.readAt moves
  loaded : ¬ Never start.readAt moves → ∃ text, Latest start.readAt moves text ∧ ∀ now, (extractor.extract now).2.value =
    (Extraction.ofSource extractor.settings ⟨extractor.version, now⟩ extractor.check text).value.mapError .failure
  unextracted : extractor.write files = .error .notExtracted ↔ Never start.extractedAt moves
  extracted : ¬ Never start.extractedAt moves → ∃ result, Latest start.extractedAt moves result ∧
    ((∀ part ∈ files.working, FileSystem.Inward part) → Writes extractor files result.document)
  loads : (extractor.load files).2 = .ok () ↔ ∃ text, files.Readable extractor.input text
  failedLoad : ∀ fault, (extractor.load files).2 = .error fault → (extractor.load files).1 = extractor
  failedExtract : ∀ now fault, (extractor.extract now).2.value = .error fault → (extractor.extract now).1 = extractor

def mislaid : Session where
  extractor := { input := "bundle.js" }
  files := { entries := [(["bundle.js"], .file (Text.Utf8.encode "var a;"))] }

def halvedBundle : String :=
  "f(function(e,i)\x7bc=\x7b\x7d;i.A=c;c.internalSpec=\x7b\"\\ud800\":[1,e.TYPES.INT32]\x7d\x7d)"

def halved : Session where
  extractor := { input := "bundle.js", output := "a.proto" }
  files := { entries := [(["bundle.js"], .file (Text.Utf8.encode halvedBundle))] }

def halvedDefinition : Schema.Definition where
  name := "A"
  localName := some "c"
  members := some [.field { name := String.ofList (Text.held [0xD800]), id := some 1, type := some "int32" }]
  module := some "<module 0>"

theorem halved_bundle_recovers : ∃ catalog, (Recovery.recover {} halvedBundle).value.toOption = some catalog ∧
    catalog.byName = [halvedDefinition] ∧ catalog.nesting = ⟨[("A", "")], []⟩ := by
  have found : (Recovery.recover {} halvedBundle).value.toOption.map (fun catalog => (catalog.byName, catalog.nesting)) =
      some ([halvedDefinition], ⟨[("A", "")], []⟩) := by decide +kernel
  obtain ⟨catalog, recovered, parts⟩ := Option.map_eq_some_iff.mp found
  exact ⟨catalog, recovered, congrArg Prod.fst parts, congrArg Prod.snd parts⟩

def halvedResult (catalog : Schema.Catalog) : Extraction :=
  (Extraction.ofCatalog {} ⟨"latest", "2024"⟩ true catalog).value

theorem halved_result_halved (catalog : Schema.Catalog) (single : catalog.byName = [halvedDefinition])
    (nesting : catalog.nesting = ⟨[("A", "")], []⟩) : ¬ Text.Utf8.Whole (halvedResult catalog).document := by
  have layout := Proto.single_layout catalog halvedDefinition single (by rw [nesting]; decide +kernel)
  rw [nesting] at layout
  have found : (Text.codes (halvedResult catalog).document.toList).any Text.isHalf = true := by
    simp only [halvedResult, Extraction.ofCatalog, Proto.Document.ofCatalog, layout]
    decide +kernel
  intro whole
  obtain ⟨code, inside, half⟩ := List.any_eq_true.mp found
  rw [whole code inside] at half
  cases half

def halvedLoaded : Session where
  extractor := { halved.extractor with source := some halvedBundle }
  files := halved.files

theorem halved_loads : halved.run [.load] = halvedLoaded := by
  have read : readBundle halved.files halved.extractor.input = .ok halvedBundle :=
    (halved.files.read_bundle_iff _ _).mpr ⟨halvedBundle, by decide +kernel, by decide +kernel⟩
  simp only [run, List.foldl_cons, List.foldl_nil, move, Extractor.load, read]
  rfl

theorem halved_extracts (catalog : Schema.Catalog)
    (recovered : (Recovery.recover {} halvedBundle).value.toOption = some catalog) :
    halvedLoaded.extractor.extract "2024" =
      ({ halvedLoaded.extractor with result := some (halvedResult catalog) }, ⟨.ok (halvedResult catalog), []⟩) := by
  have extracted := Extraction.of_source_recovered halvedLoaded.extractor.settings
    ⟨halvedLoaded.extractor.version, "2024"⟩ halvedLoaded.extractor.check halvedBundle catalog recovered
  have source : halvedLoaded.extractor.source = some halvedBundle := rfl
  have quiet : halvedLoaded.extractor.verbose = false := rfl
  simp only [Extractor.extract, source, extracted, quiet]
  rfl

end Session

end SchemaRecovery
