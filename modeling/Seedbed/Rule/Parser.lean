import Seedbed.Rule.Form
import Seedbed.Rule.Template
import Seedbed.Number.Real
import Seedbed.Calendar.Text

/-!
# Parsing a rule

`parse` reads the text of a rule by its form (`Seedbed.Rule.formOf`). An argument is cut from blanks
before it is read; an argument that is left out, or empty, takes its default where it has one. The
bounds of a rule are checked here, so that its evaluation never meets an empty range.

The key of a placeholder is parsed as a rule of its own. It holds no closing brace, so a key that
looks like a template has no placeholder and is one literal (`parseKey`).
-/

namespace Seedbed.Rule

/-- The argument at an index, unless it is left out or empty. -/
def argument? (arguments : List (List Char)) (index : Nat) : Option (List Char) :=
  arguments[index]?.filter fun value => !value.isEmpty

section

variable (text : List Char)

/-- Refuses a value of an argument. -/
def invalid {α : Type} (name : String) (value : List Char) (expected : String) :
    Except RuleError α :=
  .error (.invalidArgument (String.ofList text) name (String.ofList value) expected)

/-- Refuses more than `max` arguments. -/
def limitArguments (arguments : List (List Char)) (max : Nat) : Except RuleError Unit :=
  if max < arguments.length then .error (.tooManyArguments (String.ofList text) max) else .ok ()

/-- Refuses bounds in the wrong order. -/
def checkOrdered (inverted : Bool) : Except RuleError Unit :=
  if inverted then .error (.invertedRange (String.ofList text)) else .ok ()

/-- The argument at an index, which must be there. -/
def required (arguments : List (List Char)) (index : Nat) (name : String) :
    Except RuleError (List Char) :=
  match argument? arguments index with
  | some value => .ok value
  | none => .error (.missingArgument (String.ofList text) name)

/-- Reads an argument, cut from blanks, with a given reader. -/
def readArgument {α : Type} (read : List Char → Option α) (name : String) (value : List Char)
    (expected : String) : Except RuleError α :=
  match read (Text.trim value) with
  | some result => .ok result
  | none => invalid text name value expected

/-- Reads a whole number of a signed 64 bit word. -/
def readInt (name : String) (value : List Char) : Except RuleError Int :=
  readArgument text (Number.readInteger 64) name value "an integer"

/-- Reads a length. -/
def readLength (name : String) (value : List Char) : Except RuleError Nat :=
  readArgument text (Number.readNatural 64) name value "a non-negative integer"

/-- Reads a real that is neither an infinity nor a NaN. -/
def readFinite (name : String) (value : List Char) : Except RuleError Float := do
  let number ← readArgument text Number.readReal name value "a number"
  if Number.isFinite number then return number
  else invalid text name value "a finite number"

/-- Reads a number of places. -/
def readPlaces (value : List Char) : Except RuleError Nat := do
  let places ← readArgument text (Number.readNatural 32) "decimals" value "a non-negative integer"
  if places ≤ maxPlaces then return places
  else invalid text "decimals" value "at most 15"

/-- Reads an offset in days. -/
def readOffset (name : String) (value : List Char) : Except RuleError Int := do
  let days ← readInt text name value
  if -maxDayOffset ≤ days ∧ days ≤ maxDayOffset then return days
  else invalid text name value "an offset of at most 1000000 days"

/-- Reads a date. -/
def readDate (name : String) (value : List Char) : Except RuleError Date :=
  readArgument text Date.read? name value "a YYYY-MM-DD date"

/-- Reads an argument that has a default. -/
def readOr {α : Type} (value : Option (List Char)) (default : α)
    (read : List Char → Except RuleError α) : Except RuleError α :=
  match value with
  | some value => read value
  | none => .ok default

/-- A relation names a table and a column, separated by a dot. -/
def parseRelation (path : List Char) : Except RuleError Rule :=
  match Text.splitOn '.' path with
  | [table, column] =>
    if table.isEmpty || column.isEmpty then .error (.invalidRelation (String.ofList text))
    else .ok (.relation (String.ofList table) (String.ofList column))
  | _ => .error (.invalidRelation (String.ofList text))

/-- A choice has at least one candidate; they are separated by colons. -/
def parseChoice (candidates : List Char) : Except RuleError Rule :=
  if candidates.isEmpty then .error (.emptyChoice (String.ofList text))
  else .ok (.choice ((Text.splitOn ':' candidates).map String.ofList))

/-- Without arguments the range of whole numbers is the default one. -/
def parseInt (arguments : List (List Char)) : Except RuleError Rule :=
  if arguments.isEmpty then .ok (.int 0 defaultIntMax)
  else do
    limitArguments text arguments 2
    let min ← readInt text "min" (← required text arguments 0 "min")
    let max ← readInt text "max" (← required text arguments 1 "max")
    checkOrdered text (max < min)
    return .int min max

/-- A range of reals and a number of places. The distance of the bounds must be finite. -/
def parseRealRange (arguments : List (List Char)) (default : Float × Float) :
    Except RuleError (Float × Float × Nat) :=
  if arguments.isEmpty then .ok (default.1, default.2, defaultPlaces)
  else do
    limitArguments text arguments 3
    let min ← readFinite text "min" (← required text arguments 0 "min")
    let maxText ← required text arguments 1 "max"
    let max ← readFinite text "max" maxText
    checkOrdered text (max < min)
    if !Number.isFinite (max - min) then
      invalid text "max" maxText "a bound whose distance from min is finite"
    else
      let places ← readOr (argument? arguments 2) defaultPlaces (readPlaces text)
      return (min, max, places)

/-- A range of dates. -/
def parseDateBetween (arguments : List (List Char)) : Except RuleError Rule := do
  limitArguments text arguments 2
  let first ← readDate text "start" (← required text arguments 0 "start")
  let last ← readDate text "end" (← required text arguments 1 "end")
  checkOrdered text (last.number < first.number)
  return .dateBetween first last

/-- A column and a range of days. -/
def parseDateAfter (arguments : List (List Char)) : Except RuleError Rule := do
  limitArguments text arguments 3
  let column ← required text arguments 0 "column"
  let minDays ← readOr (argument? arguments 1) defaultMinDays (readOffset text "minDays")
  let maxDays ← readOr (argument? arguments 2) defaultMaxDays (readOffset text "maxDays")
  checkOrdered text (maxDays < minDays)
  return .dateAfter (String.ofList column) minDays maxDays

/-- Without arguments a numeric text has one digit; an empty length is missing. -/
def parseNumeric (arguments : List (List Char)) : Except RuleError Rule := do
  limitArguments text arguments 1
  if arguments.isEmpty then return .numeric 1
  else return .numeric (← readLength text "length" (← required text arguments 0 "length"))

/-- Parses a text without placeholders. -/
def parsePlain : Except RuleError Rule :=
  match formOf text with
  | .context =>
    if text = tenantIdText then .ok .tenantId
    else .error (.unknownContextField (String.ofList text))
  | .relation path => parseRelation text path
  | .choice candidates => parseChoice text candidates
  | .int arguments => parseInt text arguments
  | .float arguments => do
    let (min, max, places) ← parseRealRange text arguments defaultFloatRange
    return .float min max places
  | .amount arguments => do
    let (min, max, places) ← parseRealRange text arguments defaultAmountRange
    return .amount min max places
  | .dateBetween arguments => parseDateBetween text arguments
  | .dateAfter arguments => parseDateAfter text arguments
  | .numeric arguments => parseNumeric text arguments
  | .lookup => .ok (.lookup (String.ofList text))

/-- Parses the key of a placeholder. -/
def parseKey : Except RuleError Rule :=
  if Template.hasOpening text then .ok (.template [.literal (String.ofList text)])
  else parsePlain text

end

/-- The segment of a piece. -/
def segmentOf : Template.Piece → Segment
  | .literal text => .literal (String.ofList text)
  | .placeholder key =>
    match parseKey key with
    | .ok rule => .placeholder (String.ofList key) rule
    | .error e => .columnOnly (String.ofList key) e

/-- Parses a text given by its characters. -/
def parseChars (text : List Char) : Except RuleError Rule :=
  if Template.hasOpening text then .ok (.template ((Template.pieces text).map segmentOf))
  else parsePlain text

/-- Parses a rule. -/
def parse (text : String) : Except RuleError Rule :=
  parseChars text.toList

end Seedbed.Rule
