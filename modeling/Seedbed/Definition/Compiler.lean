import Seedbed.Definition.Decoder
import Seedbed.Rule.Parser

/-!
# Compiling a definition

A definition is compiled by decoding it and parsing each of its scalars as a rule, in document
order. The first scalar that is no rule fails the definition, at its path.
-/

namespace Seedbed

/-- Why a JSON value is not a definition. -/
inductive CompileError
  | shape (error : ShapeError)
  | rule (path : String) (error : RuleError)
  deriving DecidableEq, Repr

def CompileError.message : CompileError → String
  | shape error => error.message
  | rule path error => path ++ ": " ++ error.message

/-- A definition whose scalars are rules. -/
abbrev Compiled := Definition Rule

/-- Parses the scalar at a path. -/
def parseAt (path text : String) : Except CompileError Rule :=
  (Rule.parse text).mapError (.rule path)

/-- Decodes a definition and parses its rules. -/
def Definition.compile (value : Json) : Except CompileError Compiled := do
  let definition ← (Definition.decode value).mapError .shape
  definition.traverse parseAt

end Seedbed
