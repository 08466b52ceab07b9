import SchemaRecovery.CommandLine.Run
import SchemaRecovery.Timestamp
import Std.Time.DateTime.Timestamp

set_option autoImplicit false

namespace SchemaRecovery.CommandLine

def settingNames : List String := [
  "PW_INPUT_FILE", "PW_OUTPUT_FILE", "PW_VERSION", "PW_VERBOSE", "PW_PACKAGE", "PW_INDENT_SIZE",
  "PW_CLIENT_LABEL", "PW_SPEC_PROPERTY"]

def readEnvironment : IO Settings.Environment :=
  settingNames.filterMapM fun name => do return (← IO.getEnv name).map fun value => (name, value)

def readClock : IO Timestamp := do
  let nanoseconds := (← Std.Time.Timestamp.now).toNanosecondsSinceUnixEpoch.val
  return ⟨nanoseconds / 1000⟩

def readEntry (location : Location) : IO (Option Entry) := do
  let path := (← IO.currentDir) / location.text
  if ← path.isDir then return some .directory
  if ← path.pathExists then
    return some (.file (← IO.FS.readBinFile path).toList)
  return none

def readFiles (paths : List String) : IO FileSystem := do
  let working : Location := (Path.ofText (← IO.currentDir).toString).parts.filter (· ≠ "")
  let start : FileSystem := { working := working }
  let onTheWay := ("." :: paths).flatMap fun path => start.waypoints (Path.ofText path)
  let ancestors := (List.range (working.length + 1)).map working.take
  let mut files := start
  for location in (ancestors ++ onTheWay).eraseDups do
    if let some entry ← readEntry location then
      files := files.put location entry
  return files

def writeEntry (location : Location) (entry : Entry) : IO Unit :=
  match entry with
  | .directory => IO.FS.createDirAll location.text
  | .file bytes => IO.FS.writeBinFile location.text (ByteArray.mk bytes.toArray)

def execute (arguments : List String) : IO UInt32 := do
  let invocation : Invocation := {
    arguments := arguments
    environment := ← readEnvironment
    now := (← readClock).text?.getD "" }
  let files ← readFiles (touchedPaths invocation)
  let outcome := run invocation files
  for (location, entry) in outcome.files.changesSince files do
    writeEntry location entry
  for line in outcome.stdout do
    IO.println line
  for line in outcome.stderr do
    IO.eprintln line
  if let some uncaught := outcome.uncaught then
    IO.eprintln ("Error: " ++ uncaught.message)
  return UInt32.ofNat outcome.exitCode

end SchemaRecovery.CommandLine

def main (arguments : List String) : IO UInt32 :=
  SchemaRecovery.CommandLine.execute arguments
