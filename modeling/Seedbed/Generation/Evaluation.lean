import Seedbed.Generation.Cache
import Seedbed.Generation.Failure
import Seedbed.Definition.Basic
import Seedbed.Number.Binary
import Seedbed.Json.Printer
import Seedbed.Work
import Seedbed.Text.Split

/-!
# Evaluating rules

A rule is evaluated in a scene, which does not change while a table is made: the tenant, the date of
the day, the generators, and the rows of the tables made before. It also sees the columns of its row
that stand before it. All that evaluation changes is the random source.
-/

namespace Seedbed

/-- What the rules of a table see. -/
structure Scene where
  registry : Registry
  tenant : String
  today : Date
  cache : Cache
  /-- The table that is made. -/
  table : String

/-- Work that draws from a random source. -/
abbrev Making := Work GenerationFailure Random.Source

namespace Scene

variable (scene : Scene)

/-- The value of a column of some row of a table; `null` when the row has no such column. -/
def relation (table column path : String) : Making Json := do
  match ← Work.ofState (scene.cache.pick? table) with
  | none => Work.fail (.missingRelation scene.table path table)
  | some row =>
    match Fields.get? column row with
    | some value => return value
    | none =>
      Work.note (.relationColumnMissing scene.table path table column)
      return .null

/-- The date that a rule counts from: the one in a column, or the day's when the column is absent or
empty. -/
def baseDate (column path : String) (row : Row) : Except GenerationFailure Date :=
  let invalid (value : Json) : Except GenerationFailure Date :=
    .error (.invalidBaseDate scene.table path column value.inText)
  match Fields.get? column row with
  | none => .ok scene.today
  | some .null => .ok scene.today
  | some (.string text) =>
    if text.isEmpty then .ok scene.today
    else
      match Date.readTimestamp? text.toList with
      | some date => .ok date
      | none => invalid (.string text)
  | some value => invalid value

/-- A date some days after the base date. -/
def dateAfter (column : String) (minDays maxDays : Int) (path : String) (row : Row) :
    Making Json := do
  let base ← Work.ofExcept (scene.baseDate column path row)
  let days ← Work.ofState (Random.Draw.int minDays maxDays)
  match base.addDays? days with
  | some date => return .string date.toText
  | none =>
    let value := base.toText ++ " + " ++ String.ofList (Number.integerText days) ++ " days"
    Work.fail (.invalidBaseDate scene.table path column value)

/-- A date from one date to another. -/
def dateBetween (first last : Date) : Making Json := do
  let days ← Work.ofState (Random.Draw.int 0 (first.daysTo last))
  return .string ((first.addDays? days).getD first).toText

/-- One of the candidates. -/
def choice (candidates : List String) : Making Json := do
  match ← Work.ofState (Random.Draw.index? candidates.length) with
  | none => return .null
  | some i => return (candidates[i]?.map Json.string).getD .null

/-- A real in a range, rounded; `null` when it has no JSON text. -/
def real (min max : Float) (places : Nat) : Making Json := do
  let value := Number.roundToPlaces (← Work.ofState (Random.Draw.real min max)) places
  return if Number.isFinite value then .real value else .null

/-- A digit, not zero at the first place. -/
def digit (first : Bool) : Random.Draw Char := do
  return Nat.digitChar (← Random.Draw.int (if first then 1 else 0) 9).toNat

/-- Digits, the first one not zero. -/
def digits : Nat → Random.Draw (List Char)
  | 0 => return []
  | n + 1 => do
    let first ← digit true
    let rest ← Random.Draw.times n (digit false)
    return first :: rest

/-- Runs a generator. -/
def generate (generator : Generator) (arguments : List String) : Making Json :=
  Work.mapError .generator
    (Work.ofFallible (generator.run { arguments, today := scene.today }))

/-- The value of the generator with the whole text as its path; else of the generator with the part
before the first colon, the rest being its arguments; else the text itself. -/
def lookup (text : String) : Making Json :=
  match scene.registry.find? text with
  | some generator => scene.generate generator []
  | none =>
    match Text.splitFirst ':' text.toList with
    | none => return .string text
    | some (head, rest) =>
      match scene.registry.find? (String.ofList head) with
      | some generator =>
        scene.generate generator ((Text.splitOn ':' rest).map String.ofList)
      | none => return .string text

mutual

/-- The value of a rule at a path, beside the columns of its row so far. -/
def scalar (path : String) (row : Row) : Rule → Making Json
  | .template segments => do
    return .string (← fill path row segments)
  | .tenantId => return .string scene.tenant
  | .relation table column => scene.relation table column path
  | .choice candidates => choice candidates
  | .int min max => do
    return .integer (← Work.ofState (Random.Draw.int min max))
  | .float min max places => real min max places
  | .amount min max places => real min max places
  | .dateBetween first last => dateBetween first last
  | .dateAfter column minDays maxDays => scene.dateAfter column minDays maxDays path row
  | .numeric length => do
    return .string (String.ofList (← Work.ofState (digits length)))
  | .lookup text => scene.lookup text

/-- The text of a template: a column with the key of a placeholder wins over its rule. -/
def fill (path : String) (row : Row) : List Segment → Making String
  | [] => return ""
  | .literal text :: rest => do
    return text ++ (← fill path row rest)
  | .placeholder key rule :: rest => do
    let value ← match Fields.get? key row with
      | some value => pure value
      | none => scalar path row rule
    return value.inText ++ (← fill path row rest)
  | .columnOnly key error :: rest => do
    let value ← match Fields.get? key row with
      | some value => pure value
      | none => Work.fail (.rule scene.table path error)
    return value.inText ++ (← fill path row rest)

end

mutual

/-- The value of a tree of rules. -/
def node (path : String) (row : Row) : Node Rule → Making Json
  | .scalar rule => scene.scalar path row rule
  | .array items count => do
    let n ← Work.ofState (Random.Draw.count count.bounds.1 count.bounds.2)
    return .array (← Work.repeated n (node (itemsPath path) row items))
  | .object properties => do
    return .object (← members path row properties)

/-- The values of the properties of an object. -/
def members (path : String) (row : Row) : List (String × Node Rule) → Making Row
  | [] => return []
  | (name, tree) :: rest => do
    let value ← node (propertyPath path name) row tree
    return (name, value) :: (← members path row rest)

end

/-- The columns of a row behind those in `row`, each of which sees the columns before it. -/
def columns (row : Row) : Fields (Node Rule) → Making Row
  | [] => return row
  | (name, tree) :: rest => do
    let value ← scene.node (columnPath name) row tree
    columns (Fields.put name value row) rest

end Scene

end Seedbed
