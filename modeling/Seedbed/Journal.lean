import Seedbed.Validation.Issue

/-!
# The journal

What happens while definitions are loaded, rows are made and a store is changed is noted as events.
Each event has a level, an origin, which is the part of the program that noted it, a message, and
details under names.
-/

namespace Seedbed

/-- How much an event matters, from most to least. -/
inductive Level
  | error
  | warn
  | info
  | debug
  | trace
  deriving DecidableEq, Repr

namespace Level

/-- The name of a level in the log. -/
def label : Level → String
  | error => "ERROR"
  | warn => "WARN"
  | info => "INFO"
  | debug => "DEBUG"
  | trace => "TRACE"

/-- The rank of a level: the higher, the less it matters. -/
def rank : Level → Nat
  | error => 1
  | warn => 2
  | info => 3
  | debug => 4
  | trace => 5

end Level

/-- Something that happened. -/
inductive Event
  | seedStarted (run tenant store : String) (tables : Nat)
  | definitionWarning (file : String) (issue : Issue)
  | definitionLoaded (table file : String)
  | generatingTable (table : String) (rows : Nat)
  | relationColumnMissing (table path parent column : String)
  | tableGenerated (table tenant : String) (rows : Nat)
  | rowsInserted (run table tenant : String) (rows : Nat)
  | nothingToInsert (table tenant : String)
  | seedCompleted (run tenant : String) (rows : Nat)
  | rowsDeleted (table tenant : String) (rows : Nat)
  | connecting (database : String)
  | parameterIgnored (name value : String)
  | settingsWritten (path : String)
  | commandFailed (error : String)

/-- A detail of an event: a text as it is, a text in quotes, or a number. -/
inductive Detail
  | plain (text : String)
  | quoted (text : String)
  | number (n : Nat)

namespace Event

def level : Event → Level
  | definitionWarning _ _ => .warn
  | relationColumnMissing _ _ _ _ => .warn
  | parameterIgnored _ _ => .warn
  | definitionLoaded _ _ => .debug
  | generatingTable _ _ => .debug
  | commandFailed _ => .error
  | _ => .info

/-- The part of the program that notes an event. -/
def origin : Event → String
  | definitionWarning _ _ => "mockseed_generate::loader"
  | definitionLoaded _ _ => "mockseed_generate::loader"
  | generatingTable _ _ => "mockseed_generate::engine"
  | tableGenerated _ _ _ => "mockseed_generate::engine"
  | relationColumnMissing _ _ _ _ => "mockseed_generate::evaluate"
  | connecting _ => "mockseed_load::postgres"
  | parameterIgnored _ _ => "sqlx_postgres::options::parse"
  | settingsWritten _ => "mockseed::config"
  | commandFailed _ => "mockseed"
  | _ => "mockseed_load::pipeline"

def message : Event → String
  | seedStarted _ _ _ _ => "seed started"
  | definitionWarning _ issue => issue.finding.message
  | definitionLoaded _ _ => "definition loaded"
  | generatingTable _ _ => "generating table"
  | relationColumnMissing _ _ _ _ => "relation column missing from parent row"
  | tableGenerated _ _ _ => "table generated"
  | rowsInserted _ table tenant rows =>
    "Inserted " ++ toString rows ++ " rows into " ++ table ++ " for tenant " ++ tenant
  | nothingToInsert _ _ => "no rows to insert"
  | seedCompleted _ _ _ => "seed completed"
  | rowsDeleted table tenant _ => "Deleted rows from " ++ table ++ " for tenant " ++ tenant
  | connecting _ => "connecting to database"
  | parameterIgnored _ _ => "ignoring unrecognized connect parameter"
  | settingsWritten _ => "wrote default settings"
  | commandFailed _ => "command failed"

/-- The details of an event behind its message, by name. Times are not part of what happens; those
in the details are zero. -/
def details : Event → Fields Detail
  | seedStarted run tenant store tables =>
    [("run_id", .plain run), ("tenant", .plain tenant), ("store", .quoted store),
      ("tables", .number tables)]
  | definitionWarning file issue =>
    [("file", .plain file), ("code", .plain issue.finding.code), ("path", .plain issue.path)]
  | definitionLoaded table file => [("table", .quoted table), ("file", .plain file)]
  | generatingTable table rows => [("table", .plain table), ("rows", .number rows)]
  | relationColumnMissing table path parent column =>
    [("table", .plain table), ("path", .plain path), ("target", .plain parent),
      ("column", .plain column)]
  | tableGenerated table tenant rows =>
    [("table", .plain table), ("tenant", .plain tenant), ("rows", .number rows),
      ("duration_ms", .number 0)]
  | rowsInserted run table tenant rows =>
    [("run_id", .plain run), ("table", .plain table), ("tenant", .plain tenant),
      ("rows", .number rows)]
  | nothingToInsert table tenant => [("table", .plain table), ("tenant", .plain tenant)]
  | seedCompleted run tenant rows =>
    [("run_id", .plain run), ("tenant", .plain tenant), ("rows", .number rows),
      ("duration_ms", .number 0)]
  | rowsDeleted table tenant rows =>
    [("table", .plain table), ("tenant", .plain tenant), ("rows", .number rows)]
  | connecting database => [("database", .plain database)]
  | parameterIgnored name value => [("key", .plain name), ("value", .plain value)]
  | settingsWritten path => [("path", .plain path)]
  | commandFailed error => [("error", .plain error)]

/-- The name under which the message of an event stands beside its details. -/
def messageName : String := "message"

/-- Whether an event has a field of a name: its message or a detail. -/
def hasField (event : Event) (name : String) : Bool :=
  name == messageName || Fields.has name event.details

end Event

end Seedbed
