import Seedbed.Text.Split

/-!
# The form of a rule text

A text that opens a placeholder anywhere is a template. The form of any other text is told by what
it begins with, before any argument is read: the reserved beginnings and names are tried in a fixed
order, and whatever is left is looked up. A name is followed by nothing or by a colon and
arguments, so `number.integer` is not the name `number.int`.
-/

namespace Seedbed.Rule

/-- What kind of rule a text without placeholders writes, with the part of the text that its kind
leaves to be read. -/
inductive Form
  | context
  | relation (path : List Char)
  | choice (candidates : List Char)
  | int (arguments : List (List Char))
  | float (arguments : List (List Char))
  | amount (arguments : List (List Char))
  | dateBetween (arguments : List (List Char))
  | dateAfter (arguments : List (List Char))
  | numeric (arguments : List (List Char))
  | lookup
  deriving DecidableEq, Repr

/-- The beginning of rules about the context. -/
def contextStart : List Char := "context.".toList

/-- The one rule about the context. -/
def tenantIdText : List Char := "context.tenant_id".toList

/-- The beginning of a relation. -/
def relationStart : List Char := "relation.".toList

/-- The beginning of a choice. -/
def choiceStart : List Char := "helpers.arrayElement:".toList

def intName : List Char := "number.int".toList

def floatName : List Char := "number.float".toList

def amountName : List Char := "finance.amount".toList

def dateBetweenName : List Char := "date.between".toList

def dateAfterName : List Char := "date.afterColumn".toList

def numericName : List Char := "string.numeric".toList

/-- The arguments of a name that is followed by a colon. -/
def colonArguments? (name text : List Char) : Option (List (List Char)) :=
  ((name ++ [':']).isPrefixOf? text).map (Text.splitOn ':')

/-- The arguments of a name that stands alone or is followed by a colon. -/
def arguments? (name text : List Char) : Option (List (List Char)) :=
  if text = name then some [] else colonArguments? name text

/-- The names with the forms they make, in the order in which they are tried. A date rule needs its
colon; without one its name is looked up. -/
def namedForm? (text : List Char) : Option Form :=
  (arguments? intName text).map .int <|>
  (arguments? floatName text).map .float <|>
  (arguments? amountName text).map .amount <|>
  (colonArguments? dateBetweenName text).map .dateBetween <|>
  (colonArguments? dateAfterName text).map .dateAfter <|>
  (arguments? numericName text).map .numeric

/-- The form of a text without placeholders. -/
def formOf (text : List Char) : Form :=
  if contextStart.isPrefixOf text then .context
  else
    match relationStart.isPrefixOf? text with
    | some path => .relation path
    | none =>
      match choiceStart.isPrefixOf? text with
      | some candidates => .choice candidates
      | none => (namedForm? text).getD .lookup

end Seedbed.Rule
