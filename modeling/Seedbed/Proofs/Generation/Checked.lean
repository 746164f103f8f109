import Seedbed.Generation.Table
import Seedbed.Proofs.Converting

/-!
# Evaluation that stops at a fault

Some operations of an evaluation have no answer for some of their arguments: a draw from a range
without numbers, an element beyond the end of a list, a date of a range beyond the calendar. The
evaluation takes no notice of this. `Checked` is the same evaluation with a check in front of each
of these operations: it stops with a `Fault` where an operation has no answer, and with the failure
of the evaluation where that fails. A date that is counted from a column and a generator may fail
in their own right; neither is a fault.
-/

namespace Seedbed

/-- An operation that has no answer. -/
inductive Fault
  /-- A draw from a range without numbers. -/
  | emptyRange
  /-- A draw from a range of reals that is longer than every double. -/
  | endlessRange
  /-- An element beyond the end of a list. -/
  | outOfBounds
  /-- A date of a range that the calendar does not have. -/
  | offCalendar
  deriving DecidableEq, Repr

/-- Why an evaluation with checks stops. -/
inductive Stop
  | fault (fault : Fault)
  | failure (failure : GenerationFailure)
  deriving DecidableEq, Repr

namespace Checked

/-- Work that draws from a random source and stops at a fault. -/
abbrev Making := Work Stop Random.Source

variable {α : Type}

/-! ## Draws and elements -/

/-- A number from `min` to `max`, when there is one. -/
def int (min max : Int) : Making Int :=
  if min ≤ max then Work.ofState (Random.Draw.int min max) else Work.fail (.fault .emptyRange)

/-- A count from `min` to `max`, when there is one. -/
def count (min max : Nat) : Making Nat :=
  if min ≤ max then Work.ofState (Random.Draw.count min max) else Work.fail (.fault .emptyRange)

/-- A real from `min` to `max`, when there is one and their distance is a double; `min` itself when
there is none below it. -/
def real (min max : Float) : Making Float :=
  if max ≤ min then return min
  else if ¬min ≤ max then Work.fail (.fault .emptyRange)
  else if Number.isFinite (max - min) then Work.ofState (Random.Draw.real min max)
  else Work.fail (.fault .endlessRange)

/-- The element at an index, when there is one. -/
def element (items : List α) (index : Nat) : Making α :=
  match items[index]? with
  | some item => return item
  | none => Work.fail (.fault .outOfBounds)

/-- One row of a table; nothing when the table is missing or has no rows. -/
def pick? (cache : Cache) (table : String) : Making (Option Row) := do
  match cache.rows? table with
  | none => return none
  | some rows =>
    match ← Work.ofState (Random.Draw.index? rows.length) with
    | none => return none
    | some index => return some (← element rows index)

/-! ## Rules -/

/-- A digit, not zero at the first place. -/
def digit (first : Bool) : Making Char := do
  return Nat.digitChar (← int (if first then 1 else 0) 9).toNat

/-- Digits, the first one not zero. -/
def digits : Nat → Making (List Char)
  | 0 => return []
  | n + 1 => do
    let first ← digit true
    let rest ← Work.repeated n (digit false)
    return first :: rest

/-- One of the candidates: the first one when no index was drawn. -/
def choice (candidates : List String) : Making Json := do
  let index ← Work.ofState (Random.Draw.index? candidates.length)
  return .string (← element candidates (index.getD 0))

/-- A real in a range, rounded; `null` when it has no JSON text. -/
def roundedReal (min max : Float) (places : Nat) : Making Json := do
  let value := Number.roundToPlaces (← real min max) places
  return if Number.isFinite value then .real value else .null

/-- A date from one date to another. -/
def dateBetween (first last : Date) : Making Json := do
  let days ← int 0 (first.daysTo last)
  match first.addDays? days with
  | some date => return .string date.toText
  | none => Work.fail (.fault .offCalendar)

variable (scene : Scene)

/-- The value of a column of some row of a table. -/
def relation (table column path : String) : Making Json := do
  match ← pick? scene.cache table with
  | none => Work.fail (.failure (.missingRelation scene.table path table))
  | some row =>
    match Fields.get? column row with
    | some value => return value
    | none =>
      Work.note (.relationColumnMissing scene.table path table column)
      return .null

/-- A date some days after the base date; a date beyond the calendar is a failure of its own. -/
def dateAfter (column : String) (minDays maxDays : Int) (path : String) (row : Row) :
    Making Json := do
  let base ← Work.mapError .failure (Work.ofExcept (scene.baseDate column path row))
  let days ← int minDays maxDays
  match base.addDays? days with
  | some date => return .string date.toText
  | none =>
    let value := base.toText ++ " + " ++ String.ofList (Number.integerText days) ++ " days"
    Work.fail (.failure (.invalidBaseDate scene.table path column value))

mutual

/-- The value of a rule. -/
def scalar (path : String) (row : Row) : Rule → Making Json
  | .template segments => do
    return .string (← fill path row segments)
  | .tenantId => return .string scene.tenant
  | .relation table column => relation scene table column path
  | .choice candidates => choice candidates
  | .int min max => do
    return .integer (← int min max)
  | .float min max places => roundedReal min max places
  | .amount min max places => roundedReal min max places
  | .dateBetween first last => dateBetween first last
  | .dateAfter column minDays maxDays => dateAfter scene column minDays maxDays path row
  | .numeric length => do
    return .string (String.ofList (← digits length))
  | .lookup text => Work.mapError .failure (scene.lookup text)

/-- The text of a template. -/
def fill (path : String) (row : Row) : List Segment → Making String
  | [] => return ""
  | .literal text :: rest => do
    return text ++ (← fill path row rest)
  | .placeholder key rule :: rest => do
    let value ← match Fields.get? key row with
      | some value => pure value
      | none => scalar path row rule
    return value.inText ++ (← fill path row rest)
  | .columnOnly key error :: rest => do
    let value ← match Fields.get? key row with
      | some value => pure value
      | none => Work.fail (.failure (.rule scene.table path error))
    return value.inText ++ (← fill path row rest)

end

/-! ## Trees, rows and tables -/

mutual

/-- The value of a tree of rules. -/
def node (path : String) (row : Row) : Node Rule → Making Json
  | .scalar rule => scalar scene path row rule
  | .array items n => do
    let n ← count n.bounds.1 n.bounds.2
    return .array (← Work.repeated n (node (itemsPath path) row items))
  | .object properties => do
    return .object (← members path row properties)

/-- The values of the properties of an object. -/
def members (path : String) (row : Row) : List (String × Node Rule) → Making Row
  | [] => return []
  | (name, tree) :: rest => do
    let value ← node (propertyPath path name) row tree
    return (name, value) :: (← members path row rest)

end

/-- The columns of a row behind those in `row`. -/
def columns (row : Row) : Fields (Node Rule) → Making Row
  | [] => return row
  | (name, tree) :: rest => do
    let value ← node scene (columnPath name) row tree
    columns (Fields.put name value row) rest

/-- The rows of a table in a scene. -/
def rows (definition : Compiled) : Making (List Row) := do
  let n ← count definition.count.bounds.1 definition.count.bounds.2
  Work.note (.generatingTable definition.table n)
  let rows ← Work.repeated n (columns scene [] definition.columns)
  Work.note (.tableGenerated definition.table scene.tenant rows.length)
  return rows

/-- Makes the rows of a table and keeps them. -/
def makeTable (registry : Registry) (definition : Compiled) : Work Stop PassState (List Row) := do
  let state ← Work.state
  let rows ← Work.on PassState.source (fun source state => { state with source })
    (rows (state.pass.scene registry definition.table) definition)
  Work.update fun state =>
    { state with pass.cache := state.pass.cache.insert definition.table rows }
  return rows

end Checked

end Seedbed
