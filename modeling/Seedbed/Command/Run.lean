import Seedbed.Command.Arguments
import Seedbed.Command.Session
import Seedbed.Connection
import Seedbed.Generator.BuiltIn
import Seedbed.Seeding.Run

/-!
# Running the program

A run of the program is a function of its arguments, its environment, the files and the date. It
opens the log first, then reads the settings, or writes the default ones where there are none, and
then does what the command says. What it prints, what it tells of its progress and its failure, its
exit code and the files afterwards are its `ProgramReport`.

A command prints only once it has succeeded, with two exceptions: `validate` prints every check,
and a command that stops because of invalid definitions prints the checks that failed.
-/

namespace Seedbed

/-- What is left of a run of the program. -/
structure ProgramReport where
  exitCode : Nat
  printed : List Line
  /-- What is told beside the printed lines: the events that are shown, and what went wrong. -/
  told : String
  disk : Disk

/-- The lines for the check of a definition: its outcome, then its errors and its warnings. -/
def DefinitionCheck.lines (check : DefinitionCheck) : List Line :=
  .text ((if check.isOk then "OK: " else "FAILED: ") ++ check.file) ::
    (check.report.errors ++ check.report.warnings).map fun issue => .text ("  " ++ issue.text)

namespace Command

/-- What a command works with. -/
structure Context where
  settings : Settings
  order : TableOrder
  /-- The directory of the definitions. -/
  directory : String
  today : Date
  run : String
  connection : Option String

/-- A connection string, unless it is blank. -/
def nonBlank (connection : Option String) : Option String :=
  connection.filter fun text => !Text.isAllBlank text.toList

/-- Reads the settings and prepares what a command works with. The connection string of the call
comes before that of the variable that the settings name. -/
def prepare (call : Call) (surroundings : Surroundings) : Task Context := do
  let settings ← Task.loadSettings call.settings
  let order ← Work.ofExcept ((TableOrder.ofSeed settings.seedOrder).mapError .order)
  return {
    settings
    order
    directory := settings.directory call.settings
    today := surroundings.today
    run := surroundings.run
    connection := nonBlank call.connection <|>
      nonBlank (surroundings.environmentValue? settings.connectionVariable) }

namespace Context

/-- What a run needs, with the definitions as they stand on a disk. -/
def setupOn (context : Context) (disk : Disk) : Setup :=
  { registry := Registry.builtIn
    order := context.order
    library := disk.library context.directory
    today := context.today
    run := context.run }

/-- What a run needs, with the definitions as they stand now. -/
def setup (context : Context) : Task Setup := do
  return context.setupOn (← Work.state).disk

/-- The tenant that is named, or else that of the settings. -/
def tenant (context : Context) (named : Option String) : String :=
  named.getD context.settings.tenant

/-- Connects to the database, which fails. -/
def connect {α : Type} (context : Context) : Task α :=
  match context.connection with
  | none => Work.fail (.noConnection context.settings.connectionVariable)
  | some text => do return (← Task.onState () (Connection.connect text)).1

/-- The store of dry runs. -/
def memory : Backend MemoryStore :=
  MemoryStore.backend none

/-- Checks definition files and prints every check. -/
def validate (context : Context) (files : List String) : Task Unit := do
  let session ← Work.state
  let setup ← context.setup
  let files ← if files.isEmpty then
      Work.ofExcept ((session.disk.definitionFiles context.directory).mapError .files)
    else pure files
  let checks := files.map fun file => setup.library.checkFile setup.known file (fileStem? file)
  Task.print (checks.flatMap DefinitionCheck.lines)
  let failed := checks.filter fun check => !check.isOk
  if !failed.isEmpty then Work.fail (.invalidDefinitions failed.length)

/-- Makes the rows of a table from its definition as it stands now. The log hears of it before the
next definition is read. -/
def makeNow (context : Context) (count : Option Nat) (table : String) :
    Work RunFailure (Session × PassState) (List Row) :=
  Work.heard (fun events (session, making) => (session.hear events, making)) do
    let (session, _) ← Work.state
    Work.on Prod.snd (fun making (session, _) => (session, making))
      ((context.setupOn session.disk).loadAndMake count table)

/-- Prints the rows of a table. -/
def generate (context : Context) (table : String) (tenant : Option String) (count : Option Nat) :
    Task Unit := do
  let setup ← context.setup
  let rows ← Work.on (fun session => (session, setup.start (context.tenant tenant)))
    (fun (session, _) _ => session)
    (Work.mapError .run (setup.previewWith context.makeNow table count))
  Task.print [.text (Json.array (rows.map Json.object)).pretty]

/-- Makes and stores the rows of all tables, which a store in memory has or has not. The definitions
are read once the log has heard of the start. -/
def seedFrom (context : Context) (tenant : String) (store : MemoryStore) : Task SeedReport := do
  let (_, store) ← Task.onState store ((← context.setup).noteSeeding memory tenant)
  let (report, _) ← Task.onState store ((← context.setup).seedTables memory tenant)
  return report

/-- Makes and stores the rows of all tables. -/
def seed (context : Context) (named : Option String) (dryRun : Bool) : Task Unit :=
  if dryRun then do
    let report ← context.seedFrom (context.tenant named) MemoryStore.empty
    Task.print (Line.ofSeed report memory.name)
  else context.connect

/-- Resets, then seeds. -/
def reseed (context : Context) (named : Option String) (dryRun : Bool) : Task Unit :=
  if dryRun then do
    let tenant := context.tenant named
    let (cleared, store) ← Task.onState MemoryStore.empty
      ((← context.setup).reset memory tenant)
    let report ← context.seedFrom tenant store
    Task.print (Line.ofReset cleared ++ Line.ofSeed report memory.name)
  else context.connect

end Context

/-- Does what a command says. -/
def perform (context : Context) : Command → Task Unit
  | validate files => context.validate files
  | generate table tenant count => context.generate table tenant count
  | seed tenant dryRun => context.seed tenant dryRun
  | reset _ => context.connect
  | reseed tenant dryRun => context.reseed tenant dryRun
  | tenants => context.connect
  | generators => Task.print (Registry.builtIn.ids.map .text)

end Command

namespace Call

/-- What is told of a failure. -/
def failureLine (message : String) : String :=
  "error: " ++ message ++ "\n"

/-- Opens the log of a call. -/
def openLog (call : Call) : Disk.Change (Option (List String)) :=
  match call.log with
  | none => return none
  | some path => do return some (← Disk.openToWrite path)

/-- Does what a call says, with the log open. A failure is the last event. -/
def perform (call : Call) (surroundings : Surroundings) : Task Unit := fun session =>
  let task : Task Unit := do
    Command.perform (← Command.prepare call surroundings) call.command
  let outcome := task session
  match outcome.result with
  | .ok () => outcome
  | .error failure =>
    let last := Task.note (.commandFailed failure.message) outcome.state
    { outcome with state := last.state, journal := outcome.journal ++ last.journal }

/-- Runs a call whose log has rules. -/
def runWith (call : Call) (surroundings : Surroundings) (rules : LogRules) : ProgramReport :=
  match call.openLog surroundings.disk with
  | { result := .error cause, state := disk, .. } =>
    { exitCode := 1, printed := [], told := failureLine (CommandFailure.files cause).message, disk }
  | { result := .ok log, state := disk, .. } =>
    let outcome := call.perform surroundings { disk, log, now := surroundings.now, rules }
    let (exitCode, told, checks) := match outcome.result with
      | .ok () => (0, "", [])
      | .error failure => (1, failureLine failure.message, failure.checks)
    let events := (outcome.journal.filter rules.shows).map
      (·.shownLine surroundings.now surroundings.hasStyles)
    { exitCode
      printed := outcome.state.printed ++ checks.flatMap DefinitionCheck.lines
      told := String.join events ++ told
      disk := outcome.state.disk }

/-- The exit code of a program that gives up. -/
def givenUp : Nat := 101

/-- Runs a call. It gives up before anything else if the rules of the log cannot be read. -/
def run (call : Call) (surroundings : Surroundings) : ProgramReport :=
  match surroundings.logRules? with
  | some rules => call.runWith surroundings rules
  | none => { exitCode := givenUp, printed := [], told := "", disk := surroundings.disk }

end Call

/-- Runs the program with its arguments. Wrong arguments are told by the exit code two. -/
def runProgram (arguments : List String) (surroundings : Surroundings) : ProgramReport :=
  match Arguments.read (surroundings.environmentValue? "DATABASE_URL") arguments with
  | .ok call => call.run surroundings
  | .error interruption =>
    let (exitCode, printed, told) := match interruption with
      | .wrong => (2, [], Arguments.usage ++ "\n")
      | .help => (0, [Line.text Arguments.usage], "")
      | .version => (0, [Line.text Arguments.version], "")
    { exitCode, printed, told, disk := surroundings.disk }

end Seedbed
