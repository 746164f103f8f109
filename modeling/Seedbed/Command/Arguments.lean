import Seedbed.Command.Basic
import Seedbed.Number.Integer
import Seedbed.Text.Split

/-!
# Arguments

The arguments of the program are options, the name of a command, and the options and operands of
the command. The options `--config`, `--database-url` and `--log-file` may stand before and behind
the name; there the later one counts, while an option that is repeated on one side is refused.
Arguments are taken in order, and the first that is wrong, or asks for help, ends the reading.
-/

namespace Seedbed

/-- Why the program is not run. -/
inductive Interruption
  | wrong
  | help
  | version
  deriving DecidableEq, Repr

namespace Arguments

/-- What may stand among arguments. -/
structure Accepted where
  /-- The options with a value, each with a check of the value. -/
  options : List (String × (String → Bool))
  flags : List String := []
  /-- How many operands may stand, if that is limited, and the check of each. -/
  limit : Option Nat := some 0
  isOperand : String → Bool := fun _ => true
  /-- The names of commands, which end these arguments. -/
  commands : List String := []

/-- What stood among arguments. -/
structure Given where
  options : List (String × String) := []
  flags : List String := []
  operands : List String := []
  /-- The name of a command and what follows it. -/
  command : Option (String × List String) := none

namespace Given

/-- Adds an option with its value. -/
def addOption (given : Given) (accepted : Accepted) (name value : String) :
    Except Interruption Given :=
  match accepted.options.find? (·.1 == name) with
  | none => .error .wrong
  | some (_, isGood) =>
    if given.options.any (·.1 == name) || !isGood value then .error .wrong
    else .ok { given with options := given.options ++ [(name, value)] }

/-- Adds a flag. -/
def addFlag (given : Given) (accepted : Accepted) (name : String) : Except Interruption Given :=
  if accepted.flags.contains name && !given.flags.contains name then
    .ok { given with flags := given.flags ++ [name] }
  else .error .wrong

/-- Adds an operand. -/
def addOperand (given : Given) (accepted : Accepted) (operand : String) :
    Except Interruption Given :=
  if accepted.limit.all (given.operands.length < ·) && accepted.isOperand operand then
    .ok { given with operands := given.operands ++ [operand] }
  else .error .wrong

/-- The value of an option. -/
def option? (given : Given) (name : String) : Option String :=
  (given.options.find? (·.1 == name)).map Prod.snd

end Given

/-- The kinds of arguments by their dashes. -/
inductive Kind
  | separator
  /-- Two dashes, a name, and perhaps a value behind an equals sign. -/
  | long (name : String) (value : Option String)
  /-- One dash and a letter. -/
  | short (letter : Char)
  | plain

/-- The kind of an argument. A lone dash is plain. -/
def Kind.of (argument : String) : Kind :=
  match argument.toList with
  | ['-', '-'] => .separator
  | '-' :: '-' :: name =>
    match Text.splitFirst '=' name with
    | some (name, value) => .long (String.ofList name) (some (String.ofList value))
    | none => .long (String.ofList name) none
  | '-' :: letter :: _ => .short letter
  | _ => .plain

/-- Whether an argument may be the value of the option before it. -/
def isValue (argument : String) : Bool :=
  match Kind.of argument with
  | .plain => true
  | _ => false

/-- Takes arguments in order. -/
def scan (accepted : Accepted) (given : Given) : List String → Except Interruption Given
  | [] => .ok given
  | argument :: rest =>
    if accepted.commands.contains argument then
      .ok { given with command := some (argument, rest) }
    else
      match Kind.of argument with
      | .separator => rest.foldlM (fun given operand => given.addOperand accepted operand) given
      | .short 'h' => .error .help
      | .short 'V' => .error (if accepted.commands.isEmpty then .wrong else .version)
      | .short _ => .error .wrong
      | .long "help" none => .error .help
      | .long "version" none => .error (if accepted.commands.isEmpty then .wrong else .version)
      | .long name (some value) => do scan accepted (← given.addOption accepted name value) rest
      | .long name none =>
        if accepted.options.any (·.1 == name) then
          match rest with
          | value :: rest =>
            if isValue value then do
              scan accepted (← given.addOption accepted name value) rest
            else .error .wrong
          | [] => .error .wrong
        else do scan accepted (← given.addFlag accepted name) rest
      | .plain => do scan accepted (← given.addOperand accepted argument) rest

/-- Whether a text may be a path. -/
def isPath (text : String) : Bool :=
  !text.isEmpty

/-- The options that every command takes. -/
def sharedOptions : List (String × (String → Bool)) :=
  [("config", isPath), ("database-url", fun _ => true), ("log-file", isPath)]

/-- The commands, each with what may stand behind its name. -/
def commands : List (String × Accepted) :=
  let shared : Accepted := { options := sharedOptions }
  let seed : Accepted := { shared with flags := ["dry-run"], limit := some 1 }
  [("validate", { shared with limit := none, isOperand := isPath }),
    ("generate",
      { shared with
        options := sharedOptions ++ [("tenant", fun _ => true),
          ("count", fun text => (Number.readNatural 64 text.toList).isSome)]
        limit := some 1 }),
    ("seed", seed),
    ("reset", { shared with limit := some 1 }),
    ("reseed", seed),
    ("tenants", shared),
    ("generators", shared)]

/-- What may stand in front of the name of a command. -/
def leading : Accepted :=
  { options := sharedOptions, commands := commands.map Prod.fst ++ ["help"] }

/-- The command of a name with what stood behind it. -/
def command (name : String) (given : Given) : Except Interruption Command :=
  let dryRun := given.flags.contains "dry-run"
  match name, given.operands with
  | "validate", files => .ok (.validate files)
  | "generate", [table] =>
    .ok (.generate table (given.option? "tenant")
      ((given.option? "count").bind fun text => Number.readNatural 64 text.toList))
  | "seed", operands => .ok (.seed operands.head? dryRun)
  | "reset", operands => .ok (.reset operands.head?)
  | "reseed", operands => .ok (.reseed operands.head? dryRun)
  | "tenants", _ => .ok .tenants
  | "generators", _ => .ok .generators
  | _, _ => .error .wrong

/-- Whether help was asked for by the names of commands behind the word. -/
def helpFor (names : List String) : Interruption :=
  match names with
  | [] => .help
  | [name] => if leading.commands.contains name then .help else .wrong
  | _ => .wrong

/-- Reads the arguments of the program. The connection string may also come from the environment. -/
def read (connection : Option String) (arguments : List String) : Except Interruption Call := do
  let outer ← scan leading {} arguments
  match outer.command with
  | none => throw .wrong
  | some (name, rest) =>
    match commands.find? (·.1 == name) with
    | none => throw (helpFor rest)
    | some (_, accepted) =>
      let inner ← scan accepted {} rest
      let command ← command name inner
      let shared (option : String) := inner.option? option <|> outer.option? option
      let defaults : Call := { command }
      return { defaults with
        settings := (shared "config").getD defaults.settings
        connection := shared "database-url" <|> connection
        log := shared "log-file" }

/-- How the program is called. -/
def usage : String :=
  "Seed multi-tenant mock data from table definitions\n\n" ++
  "Usage: mockseed [OPTIONS] <COMMAND>\n\n" ++
  "Commands:\n" ++
  "  validate [FILES]...   Validate definition files (all of them when none are given)\n" ++
  "  generate <TABLE>      Print generated rows for one table without touching the database\n" ++
  "  seed [TENANT]         Generate and insert every table for a tenant\n" ++
  "  reset [TENANT]        Delete a tenant's rows, children first\n" ++
  "  reseed [TENANT]       Reset, then seed\n" ++
  "  tenants               List tenants present in the database\n" ++
  "  generators            List registered library generators\n\n" ++
  "Options:\n" ++
  "  --config <CONFIG>              Settings file; created with defaults when missing\n" ++
  "  --database-url <DATABASE_URL>  Database connection string\n" ++
  "  --log-file <LOG_FILE>          Append JSON log lines to this file\n" ++
  "  --tenant <TENANT>              Tenant of the rows (generate)\n" ++
  "  --count <COUNT>                Override the row count of the definition (generate)\n" ++
  "  --dry-run                      Use an in-memory store instead of the database (seed, reseed)\n"

/-- The version of the program. -/
def version : String := "mockseed 0.1.0"

end Arguments

end Seedbed
