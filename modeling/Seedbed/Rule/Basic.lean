import Seedbed.Calendar.Date

/-!
# Rules

A rule says how a value is made. Its text is parsed once (`Seedbed.Rule.parse`); what it means is
said by its evaluation. A template holds a rule for each of its placeholders, or the error of a text
that is no rule: a column of the row with the name of the placeholder wins over both, so such a
template may still be filled.
-/

namespace Seedbed

/-- Why a text is not a rule. Each error carries the text of the rule. -/
inductive RuleError
  | invalidRelation (rule : String)
  | unknownContextField (rule : String)
  | missingArgument (rule argument : String)
  | invalidArgument (rule argument value expected : String)
  | invertedRange (rule : String)
  | tooManyArguments (rule : String) (max : Nat)
  | emptyChoice (rule : String)
  deriving DecidableEq, Repr

def RuleError.message : RuleError → String
  | invalidRelation rule =>
    "invalid relation rule \"" ++ rule ++ "\": expected relation.<table>.<column>"
  | unknownContextField rule =>
    "unknown context field in \"" ++ rule ++ "\": only context.tenant_id is available"
  | missingArgument rule argument =>
    "rule \"" ++ rule ++ "\" is missing its " ++ argument ++ " argument"
  | invalidArgument rule argument value expected =>
    "invalid " ++ argument ++ " \"" ++ value ++ "\" in rule \"" ++ rule ++ "\": expected " ++
      expected
  | invertedRange rule =>
    "rule \"" ++ rule ++ "\" has its lower bound above its upper bound"
  | tooManyArguments rule max =>
    "rule \"" ++ rule ++ "\" takes at most " ++ toString max ++ " arguments"
  | emptyChoice rule =>
    "rule \"" ++ rule ++ "\" needs at least one candidate"

mutual

/-- How a value is made. -/
inductive Rule
  /-- A text with placeholders. -/
  | template (segments : List Segment)
  /-- The id of the tenant. -/
  | tenantId
  /-- A column of some row of another table. -/
  | relation (table column : String)
  /-- One of the candidates. -/
  | choice (candidates : List String)
  /-- A whole number in a range. -/
  | int (min max : Int)
  /-- A real in a range, rounded to some places. -/
  | float (min max : Float) (places : Nat)
  /-- An amount of money in a range, rounded to some places. -/
  | amount (min max : Float) (places : Nat)
  /-- A date in a range. -/
  | dateBetween (first last : Date)
  /-- A date some days after the date in an earlier column. -/
  | dateAfter (column : String) (minDays maxDays : Int)
  /-- A text of digits. -/
  | numeric (length : Nat)
  /-- A generator by its path, or the text itself. -/
  | lookup (text : String)

/-- A piece of a template. -/
inductive Segment
  /-- Text that stands as it is. -/
  | literal (text : String)
  /-- The value of a column, or else of the rule. -/
  | placeholder (key : String) (rule : Rule)
  /-- The value of a column; the key is not the text of a rule. -/
  | columnOnly (key : String) (error : RuleError)

end

instance : Inhabited Rule := ⟨.tenantId⟩

/-- The key of a placeholder. -/
def Segment.key? : Segment → Option String
  | literal _ => none
  | placeholder key _ => some key
  | columnOnly key _ => some key

namespace Rule

/-- The largest number of an `int` rule without arguments. -/
def defaultIntMax : Int := 2147483647

/-- The range of a `float` rule without arguments. -/
def defaultFloatRange : Float × Float := (0.0, 1.0)

/-- The range of an `amount` rule without arguments. -/
def defaultAmountRange : Float × Float := (0.0, 1000.0)

/-- The places of a `float` or `amount` rule that gives none. -/
def defaultPlaces : Nat := 2

/-- The largest number of places. -/
def maxPlaces : Nat := 15

/-- The days of a `dateAfter` rule that gives none. -/
def defaultMinDays : Int := 1

/-- The days of a `dateAfter` rule that gives no upper bound. -/
def defaultMaxDays : Int := 365

/-- The largest offset of a `dateAfter` rule, in either direction. -/
def maxDayOffset : Int := 1000000

/-- The placeholder keys of a template, in order. -/
def keys : Rule → List String
  | template segments => segments.filterMap Segment.key?
  | _ => []

end Rule

end Seedbed
