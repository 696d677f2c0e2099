import SteadyTask.CommandLine
import SteadyTask.Storage.Records
import Std.Time.DateTime.Timestamp

/-!
# The program

Collects what the command line needs to know, and does what its report says.
-/

namespace SteadyTask.Program

/-- The names of all variables that can matter. -/
def variableNames : List String :=
  [CommandLine.fileVariable, Llm.Selection.deepSeekVariable, Llm.Selection.compatibleVariable] ++
    Config.Settings.layout.kind.names.map Config.variableName

/-- The variables that are set. -/
def readVariables : IO (List (String × String)) :=
  variableNames.filterMapM fun name => do
    return (← IO.getEnv name).map fun value => (name, value)

/-- The paths of all files with settings that can matter. -/
def settingsPaths (place : Storage.Place) (environment : List (String × String)) :
    List Storage.Path :=
  (Config.defaultNames ++ (environment.lookup CommandLine.fileVariable).toList).flatMap fun name =>
    place.path name :: Config.formats.filterMap fun format =>
      (place.path name).withEnding? format.1

/-- The number by which the system tells that a folder cannot be read as a file. -/
def folderCode : UInt32 := 21

/-- Adds to a tree what names lead to, if anything is there. -/
def survey (f : Storage.Folder) (names : List String) : IO Storage.Folder := do
  let place := Storage.Place.ofNames names
  try
    return f.withFile place (← IO.FS.readFile (Storage.Path.ofNames names).text)
  catch
    | .inappropriateType _ code _ => return if code = folderCode then f.addFolder place else f
    | _ => return f

/-- What is at the end of some paths, and on the way to them. -/
def surveyAll (paths : List Storage.Path) : IO Storage.Folder :=
  let ways := paths.flatMap fun p => (List.range (p.names.length + 1)).map fun n => p.names.take n
  ways.foldlM survey ⟨[], []⟩

/-- A random name of 32 hexadecimal digits in five groups, marked as a random one. -/
def randomTrace : IO String := do
  let bytes ← IO.getRandomBytes 16
  let marked := bytes.toList.mapIdx fun place b =>
    if place = 6 then 64 + b.toNat % 16 else if place = 8 then 128 + b.toNat % 64 else b.toNat
  let digits := marked.flatMap fun n => [Json.hexDigit (n / 16), Json.hexDigit (n % 16)]
  let group (start count : Nat) := String.ofList ((digits.drop start).take count)
  return Text.join "-" [group 0 8, group 8 4, group 12 4, group 16 4, group 20 12]

/-- The time of the calendar. -/
def calendarTime : IO Timestamp := do
  let now ← Std.Time.Timestamp.now
  return .ofNanos now.toNanosecondsSinceUnixEpoch.toInt

/-- Adds records to their file; folders above it that are missing are made. -/
def store (p : Storage.Path) (records : List Reflection.Entry) : IO Unit := do
  try
    IO.FS.createDirAll (Storage.Path.ofNames p.names.dropLast).text
    IO.FS.withFile p.text .append fun handle =>
      records.forM fun e => handle.putStr (Storage.recordLine e)
  catch e => IO.eprintln ("reflection write failed: " ++ toString e)

end SteadyTask.Program

open SteadyTask

/-- Executes the request that the arguments make. -/
def main (args : List String) : IO UInt32 := do
  let environment ← Program.readVariables
  let start : Storage.Path := ⟨toString (← IO.currentDir)⟩
  let place := Storage.Place.ofNames start.names
  let folder ← Program.surveyAll (start :: Program.settingsPaths place environment)
  let report := CommandLine.run args
    ⟨environment, folder, place, ← Program.randomTrace, ← Program.calendarTime⟩
  report.output.forM IO.println
  report.errors.forM fun line => IO.eprintln line
  match report.store with
  | some p => Program.store p report.records
  | none => pure ()
  return report.exitCode.toUInt32
