import Seedbed.Generator.Basic
import Seedbed.Rule.Basic

/-!
# Failures of a generation

Making the rows of a table fails when a template names neither a column nor a rule, when a relation
has no row to pick, when a date is asked for beside something that is no date or beyond the
calendar, or when a generator fails. All but the last name the table and the path of the scalar.
-/

namespace Seedbed

/-- Why the rows of a table were not made. -/
inductive GenerationFailure
  | rule (table path : String) (error : RuleError)
  | missingRelation (table path target : String)
  | invalidBaseDate (table path column value : String)
  | generator (failure : GeneratorFailure)
  deriving DecidableEq, Repr

def GenerationFailure.message : GenerationFailure → String
  | rule table path error =>
    "table '" ++ table ++ "' at " ++ path ++ ": " ++ error.message
  | missingRelation table path target =>
    "table '" ++ table ++ "' at " ++ path ++ ": relation requested before table '" ++ target ++
      "' was generated (check the seed order)"
  | invalidBaseDate table path column value =>
    "table '" ++ table ++ "' at " ++ path ++ ": base column '" ++ column ++ "' holds '" ++ value ++
      "', which is not a date"
  | generator failure => failure.text

end Seedbed
