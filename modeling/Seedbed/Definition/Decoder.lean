import Seedbed.Definition.Basic
import Seedbed.Json.Basic

/-!
# Decoding a definition

A definition is a JSON object with a table name, a count and columns. The decoder stops at the first
member that does not have its form and names it by its path. Members with other names are ignored,
the order of the members is free, and the properties of an object may also be called its fields.
-/

namespace Seedbed

/-- What is wrong at a place of a definition. -/
inductive ShapeProblem
  | notAnObject
  | tableName
  | countMissing
  | countForm
  | countInverted (min max : Nat)
  | countBounds
  | columnsForm
  | nodeType
  | nodeForm
  | itemsMissing
  | arrayCountForm
  | arrayCountMissing
  | arrayCountConflict
  | arrayRangePartial
  | containerChoice
  | containerForm
  deriving DecidableEq, Repr

def ShapeProblem.message : ShapeProblem → String
  | notAnObject => "definition must be a JSON object"
  | tableName => "must be a non-empty string"
  | countMissing => "is required"
  | countForm => "must be a non-negative integer or an object with min and max"
  | countInverted min max =>
    "min " ++ toString min ++ " is greater than max " ++ toString max
  | countBounds => "range needs non-negative integer min and max"
  | columnsForm => "must be a non-empty object"
  | nodeType => "unknown node type in object"
  | nodeForm => "unsupported rule node"
  | itemsMissing => "array must contain \"items\""
  | arrayCountForm => "array count must be a non-negative integer"
  | arrayCountMissing => "array needs either count or min and max"
  | arrayCountConflict => "array count cannot be combined with min/max"
  | arrayRangePartial => "array min and max must be provided together"
  | containerChoice => "object needs exactly one of \"properties\" or \"fields\""
  | containerForm => "object properties must be an object"

/-- A problem and the path of the place. -/
structure ShapeError where
  path : String
  problem : ShapeProblem
  deriving DecidableEq, Repr

def ShapeError.message (e : ShapeError) : String :=
  "invalid schema at " ++ e.path ++ ": " ++ e.problem.message

namespace Decoder

/-- Refuses the place at a path. -/
def refuse {α : Type} (path : String) (problem : ShapeProblem) : Except ShapeError α :=
  .error { path, problem }

/-- The bounds of a range, members of an object. -/
def decodeRange (members : Fields Json) (path : String) : Except ShapeError Count :=
  match (Fields.get? "min" members).bind Json.natural?,
      (Fields.get? "max" members).bind Json.natural? with
  | some min, some max =>
    if min ≤ max then .ok (.range min max) else refuse path (.countInverted min max)
  | _, _ => refuse path .countBounds

/-- A number of rows: a whole number or a range. -/
def decodeCount (value : Json) (path : String) : Except ShapeError Count :=
  match value.natural? with
  | some count => .ok (.fixed count)
  | none =>
    match value.members? with
    | some members => decodeRange members path
    | none => refuse path .countForm

/-- The number of items of an array: a whole number, or two bounds. -/
def decodeArrayCount (members : Fields Json) (path : String) : Except ShapeError Count :=
  match Fields.get? "count" members, Fields.get? "min" members, Fields.get? "max" members with
  | some count, none, none =>
    match count.natural? with
    | some count => .ok (.fixed count)
    | none => refuse path .arrayCountForm
  | none, some _, some _ => decodeRange members path
  | none, none, none => refuse path .arrayCountMissing
  | some _, _, _ => refuse path .arrayCountConflict
  | _, _, _ => refuse path .arrayRangePartial

/-- The names under which an object node holds its properties. -/
def containerKeys : List String := ["properties", "fields"]

/-- The one container of an object node. -/
def container? (members : Fields Json) : Option String :=
  match containerKeys.filter fun key => Fields.has key members with
  | [key] => some key
  | _ => none

mutual

/-- The tree of a value. -/
def decodeNode (path : String) : Json → Except ShapeError (Node String)
  | .string text => .ok (.scalar text)
  | .object members =>
    match (Fields.get? "type" members).bind Json.text? with
    | some "array" => do
      let items ← decodeItems path members
      let count ← decodeArrayCount members path
      return .array items count
    | some "object" =>
      match container? members with
      | none => refuse path .containerChoice
      | some key => do
        let properties ← decodeContainer path key members
        return .object properties
    | _ => refuse path .nodeType
  | _ => refuse path .nodeForm

/-- The tree under the items of an array node. -/
def decodeItems (path : String) : List (String × Json) → Except ShapeError (Node String)
  | [] => refuse path .itemsMissing
  | (name, value) :: rest =>
    if name = "items" then decodeNode (itemsPath path) value else decodeItems path rest

/-- The trees under the container of an object node. -/
def decodeContainer (path key : String) :
    List (String × Json) → Except ShapeError (List (String × Node String))
  | [] => .ok []
  | (name, value) :: rest =>
    if name = key then
      match value with
      | .object properties => decodeProperties path properties
      | _ => refuse (path ++ "." ++ key) .containerForm
    else decodeContainer path key rest

/-- The trees of the properties of an object node. -/
def decodeProperties (path : String) :
    List (String × Json) → Except ShapeError (List (String × Node String))
  | [] => .ok []
  | (name, value) :: rest => do
    let node ← decodeNode (propertyPath path name) value
    let rest ← decodeProperties path rest
    return (name, node) :: rest

end

/-- The trees of the columns. -/
def decodeColumns : Fields Json → Except ShapeError (Fields (Node String))
  | [] => .ok []
  | (name, value) :: rest => do
    let node ← decodeNode (columnPath name) value
    let rest ← decodeColumns rest
    return (name, node) :: rest

end Decoder

/-- Decodes a definition; its scalars are texts. -/
def Definition.decode (value : Json) : Except ShapeError (Definition String) := do
  let some members := value.members? | Decoder.refuse "$" .notAnObject
  let table ← match (Fields.get? "table" members).bind Json.text? with
    | some table =>
      if table.isEmpty then Decoder.refuse "$.table" .tableName else pure table
    | none => Decoder.refuse "$.table" .tableName
  let count ← match Fields.get? "count" members with
    | none => Decoder.refuse "$.count" .countMissing
    | some count => Decoder.decodeCount count "$.count"
  match (Fields.get? "columns" members).bind Json.members? with
  | some (column :: columns) =>
    return { table, count, columns := ← Decoder.decodeColumns (column :: columns) }
  | _ => Decoder.refuse "$.columns" .columnsForm

end Seedbed
