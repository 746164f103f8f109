import Seedbed.Command.Run
import Seedbed.Generator.Primitive
import Std.Time.DateTime.Timestamp

/-!
# The program

The program reads the files that a run may ask for, runs, prints what the run printed, and writes
the files that the run changed.
-/

namespace Seedbed.Program

/-- The disk with what stands under a path. -/
def loadEntry (disk : Disk) (path : String) : IO Disk := do
  if path.isEmpty then return disk
  try
    return disk.put path (← IO.FS.readBinFile path)
  catch
    | .inappropriateType .. => return disk.putDirectory path
    | _ => return disk

/-- The disk with what stands under a path, and the directories above it. -/
def loadPath (disk : Disk) (path : String) : IO Disk := do
  let parts := pathParts path
  let starts := (List.range parts.length).map fun n => String.intercalate "/" (parts.take n)
  (starts ++ [path]).foldlM loadEntry disk

/-- The names in a directory. -/
def namesIn (path : String) : IO (List String) := do
  try
    let entries ← ((← IO.currentDir) / path).readDir
    return (entries.map fun (entry : IO.FS.DirEntry) => entry.fileName).toList
  catch _ => return []

/-- The disk with what a call may ask for: the settings and their draft, the log, the definitions
and the files that it names. -/
def loadFiles (call : Call) (disk : Disk) : IO Disk := do
  let disk ← loadPath disk call.settings
  let disk ← loadPath disk (call.settings ++ ".tmp")
  let disk ← call.log.elim (pure disk) (loadPath disk)
  let settings := match (disk.readText call.settings).toOption.map Settings.read with
    | some (.ok settings) => settings
    | _ => {}
  let directory := settings.directory call.settings
  let disk ← loadPath disk directory
  let listed := (← namesIn directory).map (joinPath directory)
  let ordered := settings.seedOrder.map fun table => joinPath directory (table ++ ".json")
  let named := match call.command with
    | .validate files => files
    | _ => []
  (listed ++ ordered ++ named).foldlM loadPath disk

/-- The path of an entry of the disk. -/
def pathOf (parts : List String) : String :=
  "/" ++ String.intercalate "/" parts

/-- Writes the entries of a disk that another disk does not have, and removes the files that only
the other has. -/
def writeChanges (before after : Disk) : IO Unit := do
  for (parts, entry) in after.entries do
    match entry, before.entry? parts with
    | .directory, some .directory => continue
    | .directory, _ => IO.FS.createDirAll (pathOf parts)
    | .file content, some (.file old) =>
      unless content.toList = old.toList do IO.FS.writeBinFile (pathOf parts) content
    | .file content, _ => IO.FS.writeBinFile (pathOf parts) content
  for (parts, entry) in before.entries do
    match entry, after.entry? parts with
    | .file _, none => IO.FS.removeFile (pathOf parts)
    | _, _ => continue

/-- The day that starts the count of seconds of the clock, as a day number. -/
def clockStart : Int := 719468

/-- The date and the time of the clock. -/
def readClock : IO (Date × String) := do
  let seconds := (← Std.Time.Timestamp.now).toSecondsSinceUnixEpoch.val
  let date := (Date.ofNumber? (clockStart + seconds / 86400)).getD ⟨0, by decide, by decide⟩
  let ofDay := (seconds % 86400).toNat
  let part (n : Nat) : String := String.ofList (Number.digitsPadded 2 n)
  return (date, date.toText ++ "T" ++ part (ofDay / 3600) ++ ":" ++ part (ofDay / 60 % 60) ++ ":" ++
    part (ofDay % 60) ++ "Z")

/-- The environment variables that a call may ask for. -/
def readEnvironment (names : List String) : IO (Fields String) :=
  names.filterMapM fun name => do return (← IO.getEnv name).map (name, ·)

/-- The id of a run. -/
def runId : IO String := do
  let bytes := (← IO.getRandomBytes 16).toList.map UInt8.toNat
  return String.ofList (Primitive.identifierText (Primitive.markIdentifier bytes))

/-- Runs the program. -/
def run (arguments : List String) : IO UInt32 := do
  let started ← IO.monoMsNow
  let environment ← readEnvironment ["DATABASE_URL", "RUST_LOG", "NO_COLOR"]
  let root ← IO.currentDir
  let working := (pathParts root.toString).filter fun part => !isIdle part
  let disk := Disk.empty working
  let call := Arguments.read (Fields.get? "DATABASE_URL" environment) arguments
  let disk ← call.toOption.elim (pure disk) (loadFiles · disk)
  let settings := (call.toOption.bind fun call =>
    (disk.readText call.settings).toOption.bind fun text => (Settings.read text).toOption).getD {}
  let more ← readEnvironment [settings.connectionVariable]
  let (today, now) ← readClock
  let id ← runId
  let report := runProgram arguments
    { environment := environment ++ more, disk, today, now, run := id }
  let milliseconds := toString ((← IO.monoMsNow) - started)
  for line in report.printed do
    IO.println (line.render milliseconds id)
  IO.eprint report.told
  writeChanges disk report.disk
  return UInt32.ofNat report.exitCode

end Seedbed.Program

/-- Runs the program with its arguments and gives its exit code. -/
def main (arguments : List String) : IO UInt32 :=
  Seedbed.Program.run arguments
