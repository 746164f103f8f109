import Seedbed.Definition.Compiler
import Seedbed.Validation.Check
import Seedbed.Files.Path
import Seedbed.Work

/-!
# Definition files

The definition of a table stands in a file named after it. A file is checked, which reports all that
is wrong with it, or loaded, which gives the compiled definition. Several definitions are loaded
together: all are checked first, so that every bad file is reported and none is used (`compileAll`).
-/

namespace Seedbed

/-- Why a file was not read. -/
inductive ReadFailure
  | notFound
  | isDirectory
  | notDirectory
  | notText
  | alreadyExists
  | nameTooLong
  | zeroInName
  | other (message : String)
  deriving DecidableEq, Repr

def ReadFailure.message : ReadFailure → String
  | notFound => "No such file or directory (os error 2)"
  | isDirectory => "Is a directory (os error 21)"
  | notDirectory => "Not a directory (os error 20)"
  | notText => "stream did not contain valid UTF-8"
  | alreadyExists => "File exists (os error 17)"
  | nameTooLong => "File name too long (os error 36)"
  | zeroInName => "file name contained an unexpected NUL byte"
  | other message => message

/-- The outcome of checking a file: the table that it defines, or should define. -/
structure DefinitionCheck where
  table : Option String
  file : String
  report : Report
  deriving DecidableEq

/-- Whether a file has no errors. -/
def DefinitionCheck.isOk (check : DefinitionCheck) : Bool :=
  check.report.isOk

/-- Why a definition was not loaded. -/
inductive LoadFailure
  | unreadable (cause : ReadFailure)
  | json (error : Json.ReadError)
  | definition (error : CompileError)
  | tableMismatch (file expected found : String)
  | invalidDefinitions (checks : List DefinitionCheck)
  deriving DecidableEq

def LoadFailure.message : LoadFailure → String
  | unreadable cause => "io error: " ++ cause.message
  | json error => "json error: " ++ error.message
  | definition error => error.message
  | tableMismatch file expected found =>
    "definition " ++ file ++ ": table field is '" ++ found ++ "', expected '" ++ expected ++ "'"
  | invalidDefinitions checks =>
    toString checks.length ++ " definition file(s) failed validation"

/-- The text of a definition file, or why it was not read. -/
structure DefinitionText where
  table : String
  file : String
  text : Except ReadFailure String

/-- The table that a value says it defines. -/
def declaredTable? (value : Json) : Option String :=
  (value.member? "table").bind Json.text?

/-- An error when a file defines another table than the one it is named after. -/
def checkTableName (expected declared : Option String) : List Issue :=
  match expected, declared with
  | some expected, some declared =>
    if expected = declared then []
    else [{ path := "$.table", finding := .tableMismatch declared expected }]
  | _, _ => []

/-- Checks the text of a file. A text that was not read, or is not JSON, is reported like any other
issue. -/
def checkText (known : Catalog) (file : String) (text : Except ReadFailure String)
    (expected : Option String) : DefinitionCheck :=
  let broken (finding : Finding) : DefinitionCheck :=
    { table := expected, file, report := ⟨[{ path := "$", finding }]⟩ }
  match text with
  | .error cause => broken (.fileUnreadable cause.message)
  | .ok text =>
    match Json.parse text with
    | .error error => broken (.invalidJson error)
    | .ok value =>
      let declared := declaredTable? value
      { table := declared <|> expected
        file
        report := ⟨(validate known value).issues ++ checkTableName expected declared⟩ }

/-- Checks the definition of a table. -/
def DefinitionText.check (source : DefinitionText) (known : Catalog) : DefinitionCheck :=
  checkText known source.file source.text (some source.table)

/-- The events for the warnings of the report on a file. -/
def warningEvents (file : String) (report : Report) : List Event :=
  report.warnings.map fun issue => .definitionWarning file issue

/-- Compiles a value that was read from the file of a table. -/
def compileValue (known : Catalog) (table file : String) (value : Json) :
    Except LoadFailure Compiled :=
  let report := validate known value
  if !report.isOk then
    .error (.invalidDefinitions [{ table := some table, file, report }])
  else
    match Definition.compile value with
    | .error error => .error (.definition error)
    | .ok definition =>
      if definition.table = table then .ok definition
      else .error (.tableMismatch file table definition.table)

/-- The result of loading the text of a file. -/
def DefinitionText.compile (source : DefinitionText) (known : Catalog) :
    Except LoadFailure Compiled :=
  match source.text with
  | .error cause => .error (.unreadable cause)
  | .ok text =>
    match Json.parse text with
    | .error error => .error (.json error)
    | .ok value => compileValue known source.table source.file value

/-- The events of loading the text of a file: its warnings, and that it was loaded. -/
def DefinitionText.events (source : DefinitionText) (known : Catalog) : List Event :=
  match source.text with
  | .error _ => []
  | .ok text =>
    match Json.parse text with
    | .error _ => []
    | .ok value =>
      warningEvents source.file (validate known value) ++
        match compileValue known source.table source.file value with
        | .ok _ => [.definitionLoaded source.table source.file]
        | .error _ => []

/-- Loads the text of a file. -/
def DefinitionText.load {σ : Type} (source : DefinitionText) (known : Catalog) :
    Work LoadFailure σ Compiled := do
  Work.noteAll (source.events known)
  Work.ofExcept (source.compile known)

/-- The checks that found errors. -/
def failedChecks (known : Catalog) (sources : List DefinitionText) : List DefinitionCheck :=
  (sources.map (·.check known)).filter fun check => !check.isOk

/-- Loads several definitions: fails with all failed checks if there are any, before any definition
is compiled. -/
def compileAll {σ : Type} (known : Catalog) (sources : List DefinitionText) :
    Work LoadFailure σ (List Compiled) :=
  match failedChecks known sources with
  | [] => Work.forEach (·.load known) sources
  | checks => Work.fail (.invalidDefinitions checks)

/-- Where the definitions of tables are read from. -/
structure Library where
  directory : String
  /-- The text of the file at a path. -/
  read : String → Except ReadFailure String

namespace Library

/-- The file of a table. -/
def pathFor (library : Library) (table : String) : String :=
  joinPath library.directory (table ++ ".json")

/-- The text of the file of a table. -/
def source (library : Library) (table : String) : DefinitionText :=
  let file := library.pathFor table
  { table, file, text := library.read file }

/-- Checks the definition of a table. -/
def check (library : Library) (known : Catalog) (table : String) : DefinitionCheck :=
  (library.source table).check known

/-- Checks a file. -/
def checkFile (library : Library) (known : Catalog) (file : String) (expected : Option String) :
    DefinitionCheck :=
  checkText known file (library.read file) expected

/-- Loads the definition of a table. -/
def load {σ : Type} (library : Library) (known : Catalog) (table : String) :
    Work LoadFailure σ Compiled :=
  (library.source table).load known

/-- Loads the definitions of several tables. -/
def loadAll {σ : Type} (library : Library) (known : Catalog) (tables : List String) :
    Work LoadFailure σ (List Compiled) :=
  compileAll known (tables.map library.source)

/-- The report of a file, or why it has none. -/
def validateFile (library : Library) (known : Catalog) (file : String) :
    Except LoadFailure Report :=
  match library.read file with
  | .error cause => .error (.unreadable cause)
  | .ok text =>
    match Json.parse text with
    | .error error => .error (.json error)
    | .ok value => .ok (validate known value)

end Library

end Seedbed
