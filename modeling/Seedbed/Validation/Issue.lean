import Seedbed.Rule.Basic
import Seedbed.Json.Reader

/-!
# Issues of a definition

Validation reports everything that is wrong with a definition at once. What was found is a
`Finding`; its severity, code, wording and hint are functions of it. An error keeps the definition
from being used, a warning does not.
-/

namespace Seedbed

/-- How much an issue matters. -/
inductive Severity
  | error
  | warning
  deriving DecidableEq, Repr

def Severity.label : Severity → String
  | error => "error"
  | warning => "warning"

/-- What was found at a place of a definition. -/
inductive Finding
  | notAnObject
  | unknownTopLevelKey (key : String)
  | unknownKey (key : String)
  | tableInvalid
  | tableMissing
  | countMissing
  | countInvalid
  | countInverted (min max : Nat)
  | countIncomplete
  | columnsEmpty
  | columnsInvalid
  | columnsMissing
  | unknownNodeType (type : Option String)
  | unsupportedNode
  | itemsMissing
  | arrayCountInvalid
  | arrayInverted (min max : Nat)
  | arrayRangeInvalid
  | arrayCountConflict
  | arrayRangeIncomplete
  | arrayCountMissing
  | containerInvalid
  | containerMissing
  | containerConflict
  | invalidRule (error : RuleError)
  | baseColumnUnknown (column : String)
  | invalidPlaceholder (key : String) (error : RuleError)
  | unknownGenerator (head text : String)
  | literalFallback (text : String)
  | fileUnreadable (message : String)
  | invalidJson (error : Json.ReadError)
  | tableMismatch (found expected : String)
  deriving DecidableEq

namespace Finding

def severity : Finding → Severity
  | unknownTopLevelKey _ => .warning
  | unknownKey _ => .warning
  | baseColumnUnknown _ => .warning
  | literalFallback _ => .warning
  | _ => .error

/-- The short name of a finding. -/
def code : Finding → String
  | notAnObject => "not_an_object"
  | unknownTopLevelKey _ => "unknown_key"
  | unknownKey _ => "unknown_key"
  | tableInvalid => "table_invalid"
  | tableMissing => "table_missing"
  | countMissing => "count_missing"
  | countInvalid => "count_invalid"
  | countInverted _ _ => "count_range_inverted"
  | countIncomplete => "count_range_incomplete"
  | columnsEmpty => "columns_empty"
  | columnsInvalid => "columns_invalid"
  | columnsMissing => "columns_missing"
  | unknownNodeType _ => "unknown_node_type"
  | unsupportedNode => "unsupported_node"
  | itemsMissing => "array_items_missing"
  | arrayCountInvalid => "array_count_invalid"
  | arrayInverted _ _ => "array_range_inverted"
  | arrayRangeInvalid => "array_range_invalid"
  | arrayCountConflict => "array_count_conflict"
  | arrayRangeIncomplete => "array_range_incomplete"
  | arrayCountMissing => "array_count_missing"
  | containerInvalid => "object_container_invalid"
  | containerMissing => "object_container_missing"
  | containerConflict => "object_container_conflict"
  | invalidRule _ => "invalid_rule"
  | baseColumnUnknown _ => "base_column_unknown"
  | invalidPlaceholder _ _ => "invalid_placeholder"
  | unknownGenerator _ _ => "unknown_generator"
  | literalFallback _ => "literal_fallback"
  | fileUnreadable _ => "file_unreadable"
  | invalidJson _ => "invalid_json"
  | tableMismatch _ _ => "table_mismatch"

def message : Finding → String
  | notAnObject => "definition must be a JSON object"
  | unknownTopLevelKey key => "unknown top-level key '" ++ key ++ "' is ignored"
  | unknownKey key => "unknown key '" ++ key ++ "' is ignored"
  | tableInvalid => "table must be a non-empty string"
  | tableMissing => "table is required"
  | countMissing => "count is required"
  | countInvalid => "count must be a non-negative integer or an object with min and max"
  | countInverted min max =>
    "count min " ++ toString min ++ " is greater than max " ++ toString max
  | countIncomplete => "count range needs non-negative integer min and max"
  | columnsEmpty => "columns must declare at least one column"
  | columnsInvalid => "columns must be an object"
  | columnsMissing => "columns is required"
  | unknownNodeType (some type) => "unknown node type '" ++ type ++ "'"
  | unknownNodeType none => "object node must carry a \"type\" of array or object"
  | unsupportedNode => "rule must be a string, an array node or an object node"
  | itemsMissing => "array must contain \"items\""
  | arrayCountInvalid => "array count must be a non-negative integer"
  | arrayInverted min max =>
    "array min " ++ toString min ++ " is greater than max " ++ toString max
  | arrayRangeInvalid => "array min and max must be non-negative integers"
  | arrayCountConflict => "array count cannot be combined with min/max"
  | arrayRangeIncomplete => "array min and max must be provided together"
  | arrayCountMissing => "array needs either count or min and max"
  | containerInvalid => "object properties must be an object"
  | containerMissing => "object node needs its properties"
  | containerConflict => "object node must use only one of \"properties\" or \"fields\""
  | invalidRule error => error.message
  | baseColumnUnknown column =>
    "column '" ++ column ++ "' is not declared; today is used as the base date"
  | invalidPlaceholder key error =>
    "placeholder '$\x7b" ++ key ++ "\x7d': " ++ error.message
  | unknownGenerator head text =>
    "'" ++ head ++ "' in rule '" ++ text ++ "' is not a known generator"
  | literalFallback text =>
    "'" ++ text ++ "' is not a registered generator and will be used verbatim"
  | fileUnreadable message => message
  | invalidJson error => error.message
  | tableMismatch found expected =>
    "table is '" ++ found ++ "' but the file defines '" ++ expected ++ "'"

/-- What may be done about a finding. -/
def hint? : Finding → Option String
  | tableMissing => some "name the table this file generates"
  | countMissing => some "use a number or \x7b\"min\": .., \"max\": ..\x7d"
  | unknownNodeType (some _) => some "use \"array\" or \"object\""
  | arrayRangeIncomplete => some "add the missing bound or use count"
  | containerMissing => some "add \"properties\" (or \"fields\")"
  | invalidPlaceholder _ _ => some "reference a declared column or a valid rule"
  | unknownGenerator _ _ => some "check the rule name or use a registered generator path"
  | tableMismatch _ expected =>
    some ("rename the file or set table to '" ++ expected ++ "'")
  | _ => none

end Finding

/-- A finding and the path of its place. -/
structure Issue where
  path : String
  finding : Finding
  deriving DecidableEq

/-- An issue on one line. -/
def Issue.text (issue : Issue) : String :=
  let line := issue.path ++ ": " ++ issue.finding.message
  match issue.finding.hint? with
  | some hint => line ++ " (" ++ hint ++ ")"
  | none => line

/-- The issues of a definition, in the order in which they were found. -/
structure Report where
  issues : List Issue
  deriving DecidableEq

namespace Report

def errors (report : Report) : List Issue :=
  report.issues.filter fun issue => issue.finding.severity = .error

def warnings (report : Report) : List Issue :=
  report.issues.filter fun issue => issue.finding.severity = .warning

/-- Whether there are no errors. -/
def isOk (report : Report) : Bool :=
  report.errors.isEmpty

/-- Whether an error has a code. -/
def hasError (report : Report) (code : String) : Bool :=
  report.errors.any fun issue => issue.finding.code = code

end Report

end Seedbed
