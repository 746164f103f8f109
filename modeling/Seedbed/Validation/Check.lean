import Seedbed.Validation.Issue
import Seedbed.Definition.Decoder
import Seedbed.Rule.Parser

/-!
# Validating a definition

`validate` walks the whole of a JSON value and lists what is wrong with it as a definition: every
member without its form, every scalar that is no rule, every generator path that the catalog does
not know. It goes on behind an error, so the items of an array are examined also when its count is
missing. Where the decoder stops, an error is listed; errors about generators and placeholders are
only found here.
-/

namespace Seedbed

/-- Which generator paths are known. -/
abbrev Catalog := String → Bool

namespace Validation

/-- One issue. -/
def found (path : String) (finding : Finding) : List Issue :=
  [{ path, finding }]

/-- The members of a definition. -/
def topLevelKeys : List String := ["table", "count", "columns"]

/-- The members of an array node. -/
def arrayKeys : List String := ["type", "items", "count", "min", "max"]

/-- The members of an object node. -/
def objectKeys : List String := "type" :: Decoder.containerKeys

/-- A warning for each member of a node with an unknown name. -/
def unknownKeys (allowed : List String) (path : String) (members : Fields Json) : List Issue :=
  (Fields.names members).filter (· ∉ allowed) |>.map fun key =>
    { path := path ++ "." ++ key, finding := .unknownKey key }

/-- Whether a text is one or more ASCII letters, digits and underscores. -/
def isIdentifier (cs : List Char) : Bool :=
  !cs.isEmpty && cs.all fun c => c.isAlphanum || c == '_'

/-- Whether a text looks like the path of a generator: two identifiers with a dot between them, the
first of which starts with a letter. -/
def looksLikePath (text : List Char) : Bool :=
  match Text.splitOn '.' text with
  | [category, name] =>
    isIdentifier category && isIdentifier name && (category.head?.any Char.isAlpha)
  | _ => false

/-- Examines a text that is looked up: a path with arguments must be known, and a text that looks
like a path is doubtful when it is not. -/
def checkLookup (known : Catalog) (text path : String) : List Issue :=
  if known text then []
  else
    match Text.splitFirst ':' text.toList with
    | some (head, _) =>
      let head := String.ofList head
      if known head then [] else found path (.unknownGenerator head text)
    | none => if looksLikePath text.toList then found path (.literalFallback text) else []

/-- Examines a segment of a template: a key that is no rule must be a column. -/
def checkSegment (declared : List String) (path : String) : Segment → List Issue
  | .columnOnly key error =>
    if key ∈ declared then [] else found path (.invalidPlaceholder key error)
  | _ => []

/-- Examines a scalar. -/
def checkScalar (known : Catalog) (declared : List String) (text path : String) : List Issue :=
  match Rule.parse text with
  | .error error => found path (.invalidRule error)
  | .ok (.template segments) => segments.flatMap (checkSegment declared path)
  | .ok (.lookup text) => checkLookup known text path
  | .ok (.dateAfter column _ _) =>
    if column ∈ declared then [] else found path (.baseColumnUnknown column)
  | .ok _ => []

/-- Examines the name of the table. -/
def checkTable (members : Fields Json) : List Issue :=
  match Fields.get? "table" members with
  | some (.string table) =>
    if Text.isAllBlank table.toList then found "$.table" .tableInvalid else []
  | some _ => found "$.table" .tableInvalid
  | none => found "$.table" .tableMissing

/-- Examines a number of rows. -/
def checkCount (count : Json) : List Issue :=
  match count.natural? with
  | some _ => []
  | none =>
    match count.members? with
    | none => found "$.count" .countInvalid
    | some range =>
      match (Fields.get? "min" range).bind Json.natural?,
          (Fields.get? "max" range).bind Json.natural? with
      | some min, some max => if max < min then found "$.count" (.countInverted min max) else []
      | _, _ => found "$.count" .countIncomplete

/-- Examines the number of items of an array. -/
def checkArrayCount (members : Fields Json) (path : String) : List Issue :=
  let count := Fields.get? "count" members
  let countIssues := match count with
    | some count =>
      if count.natural?.isNone then found (path ++ ".count") .arrayCountInvalid else []
    | none => []
  let rangeIssues := match Fields.get? "min" members, Fields.get? "max" members with
    | some min, some max =>
      let bounds := match min.natural?, max.natural? with
        | some min, some max => if max < min then found path (.arrayInverted min max) else []
        | _, _ => found path .arrayRangeInvalid
      bounds ++ (if count.isSome then found path .arrayCountConflict else [])
    | some _, none => found path .arrayRangeIncomplete
    | none, some _ => found path .arrayRangeIncomplete
    | none, none => if count.isNone then found path .arrayCountMissing else []
  countIssues ++ rangeIssues

section

variable (known : Catalog) (declared : List String)

mutual

/-- Examines a node. -/
def checkNode (path : String) : Json → List Issue
  | .string text => checkScalar known declared text path
  | .object members =>
    match (Fields.get? "type" members).bind Json.text? with
    | some "array" =>
      unknownKeys arrayKeys path members ++ checkItems path members ++
        checkArrayCount members path
    | some "object" =>
      unknownKeys objectKeys path members ++
        match Decoder.containerKeys.filter fun key => Fields.has key members with
        | [key] => checkContainer path key members
        | [] => found path .containerMissing
        | _ => found path .containerConflict
    | type => found path (.unknownNodeType type)
  | _ => found path .unsupportedNode

/-- Examines the items of an array node. -/
def checkItems (path : String) : List (String × Json) → List Issue
  | [] => found path .itemsMissing
  | (name, value) :: rest =>
    if name = "items" then checkNode (itemsPath path) value else checkItems path rest

/-- Examines the container of an object node. -/
def checkContainer (path key : String) : List (String × Json) → List Issue
  | [] => []
  | (name, value) :: rest =>
    if name = key then
      match value with
      | .object properties => checkProperties path properties
      | _ => found (path ++ "." ++ key) .containerInvalid
    else checkContainer path key rest

/-- Examines the properties of an object node. -/
def checkProperties (path : String) : List (String × Json) → List Issue
  | [] => []
  | (name, value) :: rest =>
    checkNode (propertyPath path name) value ++ checkProperties path rest

end

end

/-- Examines the columns. -/
def checkColumns (known : Catalog) (members : Fields Json) : List Issue :=
  match Fields.get? "columns" members with
  | some (.object []) => found "$.columns" .columnsEmpty
  | some (.object columns) =>
    columns.flatMap fun (name, value) =>
      checkNode known (Fields.names columns) (columnPath name) value
  | some _ => found "$.columns" .columnsInvalid
  | none => found "$.columns" .columnsMissing

/-- Examines the members of a definition. -/
def checkMembers (known : Catalog) (members : Fields Json) : List Issue :=
  let unknown := (Fields.names members).filter (· ∉ topLevelKeys) |>.map fun key =>
    { path := "$." ++ key, finding := .unknownTopLevelKey key }
  let count := match Fields.get? "count" members with
    | none => found "$.count" .countMissing
    | some count => checkCount count
  unknown ++ checkTable members ++ count ++ checkColumns known members

end Validation

/-- Lists what is wrong with a value as a definition. -/
def validate (known : Catalog) (value : Json) : Report :=
  match value.members? with
  | none => { issues := Validation.found "$" .notAnObject }
  | some members => { issues := Validation.checkMembers known members }

end Seedbed
