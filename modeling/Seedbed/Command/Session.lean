import Seedbed.Command.Basic
import Seedbed.Files.Disk
import Seedbed.Log.Line
import Seedbed.Log.Rule
import Seedbed.Settings

/-!
# Sessions

While a command runs it changes files, prints lines, and is heard by the log. An event is appended
to the log file as it happens, so a file that is read later is seen with what was logged to it; the
log follows its file when that is moved. Settings are read from their file, which is made with the
default settings if it is missing: first as a draft beside its place, so that it is never seen half
written.
-/

namespace Seedbed

/-- What a run of the program finds around it. -/
structure Surroundings where
  environment : Fields String
  disk : Disk
  today : Date
  /-- The time for the lines of the log. -/
  now : String
  /-- The id of the run. -/
  run : String

namespace Surroundings

/-- The value of an environment variable. -/
def environmentValue? (surroundings : Surroundings) (name : String) : Option String :=
  Fields.get? name surroundings.environment

/-- The rules of the log, if they can be read. -/
def logRules? (surroundings : Surroundings) : Option LogRules :=
  (surroundings.environmentValue? "RUST_LOG").elim (some LogRules.default) LogRules.read?

/-- Whether lines for people use the styles of a terminal. -/
def hasStyles (surroundings : Surroundings) : Bool :=
  ((surroundings.environmentValue? "NO_COLOR").getD "").isEmpty

end Surroundings

/-- Why a command stopped. -/
inductive CommandFailure
  | files (cause : ReadFailure)
  | settings (error : Toml.ReadError)
  | settingsPath (path : String)
  | order (error : OrderError)
  | noConnection (name : String)
  | invalidDefinitions (count : Nat)
  | run (failure : RunFailure)

namespace CommandFailure

def message : CommandFailure → String
  | files cause => "io error: " ++ cause.message
  | settings error => "could not read settings: " ++ error.message
  | settingsPath path => "invalid configuration: invalid settings path " ++ path
  | order error => error.message
  | noConnection name => "no database url: pass --database-url or set " ++ name
  | invalidDefinitions count => toString count ++ " definition file(s) failed validation"
  | run failure => failure.message

/-- The failed checks that are printed with a failure. -/
def checks : CommandFailure → List DefinitionCheck
  | run (.loading (.invalidDefinitions checks)) => checks
  | _ => []

end CommandFailure

/-- The files, what was printed so far, and the log: the parts of its file, if there is one, the
time of its lines, and its rules. -/
structure Session where
  disk : Disk
  printed : List Line := []
  log : Option (List String)
  now : String
  rules : LogRules

/-- Appends the events that are shown to the log file. -/
def Session.hear (events : List Event) (session : Session) : Session :=
  match session.log with
  | none => session
  | some parts =>
    let lines := String.join ((events.filter session.rules.shows).map (·.line session.now))
    { session with disk := session.disk.append parts lines.toUTF8 }

/-- Work of a command. -/
abbrev Task := Work CommandFailure Session

namespace Task

variable {σ α : Type}

/-- Prints lines. -/
def print (lines : List Line) : Task Unit :=
  Work.update fun session => { session with printed := session.printed ++ lines }

/-- Notes an event, which the log hears. -/
def note (event : Event) : Task Unit :=
  Work.heard Session.hear (Work.note event)

/-- Changes files. -/
def onDisk (change : Disk.Change α) : Task α :=
  Work.on Session.disk (fun disk session => { session with disk }) (Work.mapError .files change)

/-- Work of a run on a state of its own, which starts with `state` and comes with the value. The log
hears its events once it is done; it reads no files meanwhile. -/
def onState (state : σ) (work : Work RunFailure σ α) : Task (α × σ) :=
  Work.heard Session.hear fun session =>
    let outcome := work state
    { result := (outcome.result.mapError .run).map (·, outcome.state), state := session
      journal := outcome.journal }

/-- Moves a file; a log in it goes with it. -/
def moveFile (path target : String) : Task Unit := do
  let (source, parts) ← onDisk (Disk.moveFile path target)
  Work.update fun session =>
    { session with log := if session.log = some source then some parts else session.log }

/-- Writes the default settings to a path where there is nothing. The directories above it are
made. -/
def writeDefaultSettings (path : String) : Task Unit := do
  let directory := (parentPath? path).getD ""
  onDisk (Disk.createDirectories directory)
  match fileName? path with
  | none => Work.fail (.settingsPath path)
  | some name => do
    let draft := joinPath directory (name ++ ".tmp")
    onDisk (Disk.write draft Settings.defaultText.toUTF8)
    moveFile draft path

/-- Reads the settings at a path, or writes the default ones if nothing is there. -/
def loadSettings (path : String) : Task Settings := do
  let session ← Work.state
  if session.disk.contains path then
    let text ← Work.ofExcept ((session.disk.readText path).mapError .files)
    Work.ofExcept ((Settings.read text).mapError .settings)
  else
    writeDefaultSettings path
    note (.settingsWritten path)
    return {}

end Task

end Seedbed
