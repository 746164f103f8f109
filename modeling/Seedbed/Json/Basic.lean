import Seedbed.Fields
import Seedbed.Number.Power

/-!
# JSON values

Definitions, generated values and rows are JSON values. Numbers are kept in two kinds, because a
definition may only count with whole numbers: `integer` for those that fit a 64 bit word, signed or
unsigned, and `real` for all others, also for a whole number that is written with a point.
-/

namespace Seedbed

/-- A JSON value; the members of an object are kept in order. -/
inductive Json
  | null
  | bool (value : Bool)
  | integer (value : Int)
  | real (value : Float)
  | string (text : String)
  | array (items : List Json)
  | object (members : List (String × Json))

instance : Inhabited Json := ⟨.null⟩

/-- A row of a table: its columns in declaration order. -/
abbrev Row := Fields Json

namespace Json

/-- The whole number of an unsigned 64 bit word. -/
def natural? : Json → Option Nat
  | integer i => if 0 ≤ i ∧ i < 2 ^ 64 then some i.toNat else none
  | _ => none

/-- The text of a string. -/
def text? : Json → Option String
  | string text => some text
  | _ => none

/-- The members of an object. -/
def members? : Json → Option (Fields Json)
  | object members => some members
  | _ => none

/-- Whether a value is `null`. -/
def isNull : Json → Bool
  | null => true
  | _ => false

/-- The member of an object under a name. -/
def member? (name : String) (value : Json) : Option Json :=
  value.members?.bind (Fields.get? name)

/-- A list of strings as an array. -/
def strings (texts : List String) : Json :=
  array (texts.map string)

/-- A value is read as a natural number when it is an integer that a word of 64 bits can hold. -/
theorem natural?_eq_some_iff {value : Json} {n : Nat} :
    value.natural? = some n ↔ value = integer n ∧ n < 2 ^ 64 := by
  cases value with
  | integer i =>
    simp only [natural?, Option.ite_none_right_eq_some, Option.some.injEq, integer.injEq]
    omega
  | _ => simp [natural?]

/-- A value is read as a text when it is a string. -/
theorem text?_eq_some_iff {value : Json} {text : String} :
    value.text? = some text ↔ value = string text := by
  cases value <;> simp [text?]

/-- A value that may be missing is read as a text when it is there and is a string. -/
theorem bind_text?_eq_some_iff {value? : Option Json} {text : String} :
    value?.bind text? = some text ↔ value? = some (string text) := by
  simp only [Option.bind_eq_some_iff, text?_eq_some_iff, exists_eq_right]

end Json

end Seedbed
