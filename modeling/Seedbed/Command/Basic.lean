import Seedbed.Seeding.Basic

/-!
# Commands

What the program is called for, and what it prints: lines of text, and the last line of a seeding,
which also shows how long it took and an id of the run.
-/

namespace Seedbed

/-- What the program does. -/
inductive Command
  /-- Checks definition files, or all of them if none are named. -/
  | validate (files : List String)
  /-- Prints the rows of a table. -/
  | generate (table : String) (tenant : Option String) (count : Option Nat)
  /-- Makes and stores the rows of all tables, in memory only for a dry run. -/
  | seed (tenant : Option String) (dryRun : Bool)
  | reset (tenant : Option String)
  | reseed (tenant : Option String) (dryRun : Bool)
  | tenants
  | generators
  deriving DecidableEq, Repr

/-- A command with the options that every command takes. -/
structure Call where
  settings : String := "mockseed.toml"
  connection : Option String := none
  log : Option String := none
  command : Command
  deriving DecidableEq, Repr

/-- A line that the program prints. -/
inductive Line
  | text (text : String)
  | seeded (report : SeedReport) (store : String)

namespace Line

/-- A text in a field that is at least `width` wide, at its left end. -/
def leftIn (width : Nat) (text : String) : String :=
  text ++ String.ofList (List.replicate (width - text.length) ' ')

/-- A number in a field that is at least `width` wide, at its right end. -/
def rightIn (width : Nat) (n : Nat) : String :=
  let digits := toString n
  String.ofList (List.replicate (width - digits.length) ' ') ++ digits

/-- A table with a number of rows. -/
def counted (what : String) (entry : String × Nat) : Line :=
  .text (leftIn 24 entry.1 ++ " " ++ rightIn 6 entry.2 ++ " " ++ what)

/-- The lines of a seeding. -/
def ofSeed (report : SeedReport) (store : String) : List Line :=
  report.tables.map (counted "rows") ++ [.seeded report store]

/-- The lines of a reset. -/
def ofReset (report : ResetReport) : List Line :=
  report.tables.map (counted "deleted") ++ [.text ("reset tenant '" ++ report.tenant ++ "'")]

/-- A line as it is printed, with the time that a run took and its id. -/
def render (milliseconds run : String) : Line → String
  | .text content => content
  | .seeded report store =>
    "seeded tenant '" ++ report.tenant ++ "' into " ++ store ++ ": " ++ toString report.total ++
      " rows in " ++ milliseconds ++ " ms (run " ++ run ++ ")"

end Line

end Seedbed
