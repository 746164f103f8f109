import Seedbed.Definition.Basic
import Seedbed.Json.Reader

/-!
# The text of a count

A count alone may be given as a JSON text: a whole number, or an object with two bounds. Unlike in a
definition, the bounds need not be in order here, but each may be given only once.
-/

namespace Seedbed

/-- Why a text is not a count. -/
inductive CountTextError
  | json (error : Json.ReadError)
  | form
  deriving DecidableEq, Repr

def CountTextError.message : CountTextError → String
  | json error => error.message
  | form => "data did not match any variant of untagged enum Count"

namespace Count

/-- The one whole number under a name. -/
def bound? (name : String) (members : Fields Json) : Option Nat :=
  match members.filter fun member => member.1 == name with
  | [(_, value)] => value.natural?
  | _ => none

/-- The count that a value stands for; its objects hold all members as they were written. -/
def ofJson? (value : Json) : Option Count :=
  match value.natural? with
  | some count => some (.fixed count)
  | none => do
    let members ← value.members?
    return .range (← bound? "min" members) (← bound? "max" members)

/-- Reads a count. What stands behind the value is looked at only if the value is a count. -/
def read (text : String) : Except CountTextError Count :=
  match Json.readAll text with
  | .error error => .error (.json error)
  | .ok front =>
    match ofJson? front.value, front.surplus with
    | none, _ => .error .form
    | some _, some error => .error (.json error)
    | some count, none => .ok count

end Count

end Seedbed
