import Mathlib.Data.List.Basic
import SchemaRecovery.Extractor
import SchemaRecovery.Proofs.Text.Utf8

set_option autoImplicit false

namespace SchemaRecovery.FileSystem

structure Keeps (places : List Location) (before after : FileSystem) : Prop where
  -- Everything outside some places is as before, except that there may be directories where
  -- nothing was.
  working : after.working = before.working
  entries : ∀ location ∉ places, after.entry? location = before.entry? location ∨
    before.entry? location = none ∧ after.entry? location = some .directory

theorem keeps_same (places : List Location) (files : FileSystem) : Keeps places files files :=
  ⟨rfl, fun _ _ => .inl rfl⟩

theorem keeps_trans (places others : List Location) (first second third : FileSystem)
    (left : Keeps places first second) (right : Keeps others second third) : Keeps (places ++ others) first third := by
  refine ⟨right.working.trans left.working, fun location outside => ?_⟩
  rw [List.mem_append, not_or] at outside
  rcases left.entries location outside.1 with same | ⟨absent, made⟩
  · rw [← same]
    exact right.entries location outside.2
  · rcases right.entries location outside.2 with kept | ⟨missing, _⟩
    · exact .inr ⟨absent, kept.trans made⟩
    · rw [made] at missing
      cases missing

theorem lookup_put_entry (location other : Location) (entry : Entry) (entries : List (Location × Entry)) :
    (putEntry location entry entries).lookup other = if other = location then some entry else entries.lookup other := by
  have unlike (place : Location) (different : other ≠ place) : (other == place) = false := by simp [different]
  induction entries with
  | nil =>
      by_cases hit : other = location
      · simp [putEntry, hit]
      · simp [putEntry, List.lookup_cons, unlike location hit, hit]
  | cons first rest ih =>
      obtain ⟨place, old⟩ := first
      by_cases same : place = location
      · by_cases hit : other = location
        · simp [putEntry, same, hit]
        · simp [putEntry, List.lookup_cons, same, unlike location hit, hit]
      · by_cases hit : other = place
        · simp [putEntry, same, hit]
        · simp only [putEntry, if_neg same, List.lookup_cons, unlike place hit, ih]

theorem entry_of_put (files : FileSystem) (location other : Location) (entry : Entry) (inner : location ≠ []) :
    entry? (files.put location entry) other = if other = location then some entry else files.entry? other := by
  simp only [ entry?, put, lookup_put_entry]
  by_cases root : other = []
  · simp [root, Ne.symm inner]
  · simp [root]

def Target.location? : Target → Option Location
  | .found location _ => some location
  | .vacant location => some location
  | .unreachable _ => none

section
variable (files : FileSystem)

theorem follow_location (here : Location) (parts : List String) (location : Location)
    (reached : (files.follow here parts).location? = some location) : location = parts.foldl stepInto here := by
  induction parts generalizing here with
  | nil => exact (Option.some.inj reached).symm
  | cons part rest ih =>
      rw [List.foldl_cons]
      simp only [follow] at reached
      by_cases stays : part = "" ∨ part = "."
      · rw [if_pos stays] at reached
        rw [stepInto, if_pos stays]
        exact ih here reached
      · by_cases leaves : part = ".."
        · rw [if_neg stays, if_pos leaves] at reached
          rw [stepInto, if_neg stays, if_pos leaves]
          exact ih here.dropLast reached
        · rw [if_neg stays, if_neg leaves] at reached
          rw [stepInto, if_neg stays, if_neg leaves]
          split at reached
          · exact ih (here ++ [part]) reached
          · split at reached
            · rename_i last
              subst last
              exact (Option.some.inj reached).symm
            · cases reached
          · split at reached
            · rename_i last
              subst last
              exact (Option.some.inj reached).symm
            · cases reached

theorem follow_entry (here : Location) (parts : List String) (location : Location) :
    (∀ bytes, files.follow here parts = .found location (.file bytes) → files.entry? location = some (.file bytes)) ∧
      (files.follow here parts = .vacant location → files.entry? location = none) := by
  induction parts generalizing here with
  | nil => simp [follow]
  | cons part rest ih =>
      simp only [follow]
      by_cases stays : part = "" ∨ part = "."
      · rw [if_pos stays]
        exact ih here
      · rw [if_neg stays]
        by_cases leaves : part = ".."
        · rw [if_pos leaves]
          exact ih here.dropLast
        · rw [if_neg leaves]
          cases known : files.entry? (here ++ [part]) with
          | none =>
              by_cases last : rest = []
              · simp only [if_pos last, reduceCtorEq, Target.vacant.injEq, false_implies, implies_true, true_and]
                rintro rfl
                exact known
              · simp [last]
          | some entry =>
              cases entry with
              | directory => exact ih (here ++ [part])
              | file content =>
                  by_cases last : rest = []
                  · simp only [if_pos last, reduceCtorEq, Target.found.injEq, false_implies, and_true]
                    rintro bytes ⟨rfl, ⟨⟩⟩
                    exact known
                  · simp [last]

theorem target_location (path : Path) (location : Location) (reached : (files.target path).location? = some location) :
    location = files.locate path := by
  unfold target at reached
  split at reached
  · cases reached
  · exact files.follow_location _ _ location reached

theorem target_entry (path : Path) (location : Location) :
    (∀ bytes, files.target path = .found location (.file bytes) → files.entry? location = some (.file bytes)) ∧
      (files.target path = .vacant location → files.entry? location = none) := by
  unfold target
  split
  · simp
  · exact files.follow_entry _ _ location

theorem inner_of_entry (location : Location) (other : files.entry? location ≠ some .directory) : location ≠ [] := by
  rintro rfl
  exact other rfl

theorem make_directory_keeps (path : Path) (changed : FileSystem) (made : files.makeDirectory path = .ok changed) :
    Keeps [] files changed := by
  unfold makeDirectory at made
  split at made
  · rename_i location reached
    cases made
    have vacant := (files.target_entry path location).2 reached
    have inner := files.inner_of_entry location (by simp [vacant])
    refine ⟨rfl, fun other _ => ?_⟩
    rw [files.entry_of_put location other .directory inner]
    by_cases hit : other = location
    · exact .inr ⟨hit ▸ vacant, if_pos hit⟩
    · exact .inl (if_neg hit)
  · cases made
  · cases made

end

theorem make_reversed_keeps (files changed : FileSystem) (rooted : Bool) (parts : List String)
    (made : files.makeReversed rooted parts = .ok changed) : Keeps [] files changed := by
  induction parts generalizing changed with
  | nil =>
      cases made
      exact keeps_same [] files
  | cons part outer ih =>
      have last (prepared : FileSystem) (stays : Prop) [Decidable stays] (path : Path) (made :
          (if stays then .ok prepared else if prepared.isDirectory path then .ok prepared
            else prepared.makeDirectory path) = .ok changed) : Keeps [] prepared changed := by
        split at made
        · cases made
          exact keeps_same [] _
        · split at made
          · cases made
            exact keeps_same [] _
          · exact make_directory_keeps prepared path changed made
      simp only [makeReversed] at made
      split at made
      · exact last files _ _ made
      · cases around : files.makeReversed rooted outer with
        | error fault =>
            rw [around] at made
            cases made
        | ok prepared =>
            rw [around] at made
            exact keeps_trans [] [] _ _ _ (ih prepared around) (last prepared _ _ made)

theorem make_directories_keeps (files changed : FileSystem) (path : Path)
    (made : files.makeDirectories path = .ok changed) : Keeps [] files changed := by
  unfold makeDirectories at made
  split at made
  · cases made
    exact keeps_same [] files
  · exact make_reversed_keeps files changed _ _ made

structure Holds (place : Location) (bytes : List UInt8) (before after : FileSystem) : Prop where
  file : after.entry? place = some (.file bytes)
  others : Keeps [place] before after

theorem put_holds (files : FileSystem) (location : Location) (bytes : List UInt8) (inner : location ≠ []) :
    Holds location bytes files (files.put location (.file bytes)) := by
  refine ⟨?_, rfl, fun other outside => .inl ?_⟩
  · rw [entry_of_put _ _ _ _ inner, if_pos rfl]
  · rw [entry_of_put _ _ _ _ inner, if_neg (by simpa using outside)]

theorem write_holds (files changed : FileSystem) (path : Path) (bytes : List UInt8)
    (written : files.write path bytes = .ok changed) : Holds (files.locate path) bytes files changed := by
  unfold write at written
  split at written
  · rename_i location content reached
    cases written
    have known := (files.target_entry path location).1 content reached
    rw [← files.target_location path location (by rw [reached]; rfl)]
    exact put_holds files location bytes (files.inner_of_entry location (by simp [known]))
  · cases written
  · rename_i location reached
    cases written
    have known := (files.target_entry path location).2 reached
    rw [← files.target_location path location (by rw [reached]; rfl)]
    exact put_holds files location bytes (files.inner_of_entry location (by simp [known]))
  · cases written

theorem write_within_holds (files changed : FileSystem) (path : Path) (bytes : List UInt8)
    (written : files.writeWithin path bytes = .ok changed) : Holds (files.locate path) bytes files changed := by
  unfold writeWithin at written
  cases made : files.makeDirectories path.directory with
  | error fault =>
      rw [made] at written
      cases written
  | ok prepared =>
      rw [made] at written
      have before := make_directories_keeps files prepared _ made
      have holds := write_holds prepared changed path bytes written
      have same : prepared.locate path = files.locate path := by
        simp only [locate, startOf, before.working]
      rw [same] at holds
      exact ⟨holds.file, keeps_trans [] _ _ _ _ before holds.others⟩

def Readable (files : FileSystem) (path source : String) : Prop :=
  ∃ text, files.read (Path.ofText path) = .ok (Text.Utf8.encode text) ∧
    source = String.ofList (Text.normalizeNewlines text.toList)

theorem read_bundle_iff (files : FileSystem) (path source : String) :
    readBundle files path = .ok source ↔ Readable files path source := by
  unfold readBundle Readable
  cases files.read (Path.ofText path) with
  | error fault => cases fault <;> exact iff_of_false nofun (fun ⟨_, read, _⟩ => nomatch read)
  | ok bytes =>
      dsimp only
      simp only [Except.ok.injEq, ← Text.Utf8.decode_iff]
      cases Text.Utf8.decode bytes with
      | error fault => exact iff_of_false nofun (fun ⟨_, read, _⟩ => nomatch read)
      | ok text => simp [eq_comm]

theorem read_bundle_fails_iff (files : FileSystem) (path : String) :
    (∃ fault, readBundle files path = .error fault) ↔ ∀ source, ¬ Readable files path source := by
  simp only [← read_bundle_iff]
  cases readBundle files path <;> simp

end SchemaRecovery.FileSystem

namespace SchemaRecovery.Extraction

theorem of_source_recovered (settings : Settings) (edition : Proto.Edition) (check : Bool) (source : String)
    (catalog : Schema.Catalog) (recovered : (Recovery.recover settings source).value.toOption = some catalog) :
    (ofSource settings edition check source).value = .ok (ofCatalog settings edition check catalog).value := by
  rw [ofSource]
  cases value : (Recovery.recover settings source).value with
  | error why =>
      rw [value] at recovered
      cases recovered
  | ok other =>
      rw [value] at recovered
      cases recovered
      rfl

end SchemaRecovery.Extraction

namespace SchemaRecovery.Extractor

inductive WriteEnds (files : FileSystem) (path : Path) (text : String) : Except WriteFault Written → Prop where
  | written (plain : String) (spells : Text.Utf8.Spells plain text) (changed : FileSystem)
    (done : files.writeWithin path (Text.Utf8.encode plain) = .ok changed) :
    WriteEnds files path text (.ok ⟨files.locate path, changed⟩)
  | emptied (fault : Text.Utf8.Unencodable) (halved : ¬ Text.Utf8.Whole text) (left : FileSystem)
    (done : files.writeWithin path [] = .ok left) :
    WriteEnds files path text (.error (.unencodable fault ⟨files.locate path, left⟩))
  | path (bytes : List UInt8) (fault : PathFault) (failed : files.writeWithin path bytes = .error fault) :
    WriteEnds files path text (.error (.path fault))

theorem write_ends (extractor : Extractor) (files : FileSystem) (result : Extraction)
    (extracted : extractor.result = some result) :
    WriteEnds files (files.absolute (Path.ofText extractor.output)) result.document (extractor.write files) := by
  rw [write, extracted]
  dsimp only
  cases encoded : Text.Utf8.bytes result.document with
  | ok bytes =>
      obtain ⟨plain, spells, rfl⟩ := (Text.Utf8.bytes_iff _ bytes).mp encoded
      dsimp only
      cases done : files.writeWithin (files.absolute (Path.ofText extractor.output)) (Text.Utf8.encode plain) with
      | ok changed => exact .written plain spells changed done
      | error fault => exact .path _ fault done
  | error fault =>
      have halved := (Text.Utf8.bytes_fail_iff result.document).mp ⟨fault, encoded⟩
      dsimp only
      cases done : files.writeWithin (files.absolute (Path.ofText extractor.output)) [] with
      | ok left => exact .emptied fault halved left done
      | error fault => exact .path [] fault done

end SchemaRecovery.Extractor
