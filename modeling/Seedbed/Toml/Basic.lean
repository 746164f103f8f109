import Seedbed.Fields

/-!
# TOML documents

A document is a table: members by name, each with the place where it was written. Members come from
lines `key = value`, whose key may lead down by dots, and tables are opened by headers. A table may
be written only once, so it is kept how each one came to be (`TableForm`): `openTable`,
`openElement` and `insertDotted` refuse what would write to a table, or to a name, a second time.
-/

namespace Seedbed.Toml

/-- How a table came to be: by a header of its own, as a table above one with a header, or by the
dots of a key. -/
inductive TableForm
  | headed
  | implied
  | dotted
  deriving DecidableEq, Repr

/-- A value of a document. Of numbers, truth values and dates only their place is kept. Places count
the characters that are left of the text. -/
inductive Value
  | string (text : String)
  | plain
  | array (items : List (Nat × Value))
  | inlineTable (members : List (String × (Nat × Value)))
  | table (form : TableForm) (members : List (String × (Nat × Value)))
  /-- The tables of headers in double brackets, last first. -/
  | tables (elements : List (List (String × (Nat × Value))))

/-- A part of a key and its place. -/
structure KeyPart where
  name : String
  place : Nat

/-- The members of a table: names with places and values. -/
abbrev Members := Fields (Nat × Value)

namespace Members

/-- The members with one more, unless its name is taken. -/
def add? (name : String) (place : Nat) (value : Value) (members : Members) : Option Members :=
  if Fields.has name members then none else some (members ++ [(name, (place, value))])

/-- Changes the members of the table that the parts of a header lead to. Tables that are not there
yet are implied; among several tables of one name the last is meant. -/
def within (change : Members → Option Members) : List KeyPart → Members → Option Members
  | [], members => change members
  | part :: rest, members =>
    match Fields.get? part.name members with
    | none => do
      let inner ← within change rest []
      return members ++ [(part.name, (part.place, .table .implied inner))]
    | some (place, .table form inner) => do
      let inner ← within change rest inner
      return Fields.put part.name (place, .table form inner) members
    | some (place, .tables (last :: others)) => do
      let last ← within change rest last
      return Fields.put part.name (place, .tables (last :: others)) members
    | some _ => none

/-- Opens a table by its header: a new one, or one that was only implied so far. -/
def openTable (place : Nat) (name : String) (members : Members) : Option Members :=
  match Fields.get? name members with
  | none => members.add? name place (.table .headed [])
  | some (_, .table .implied inner) =>
    some (members.filter (·.1 ≠ name) ++ [(name, (place, .table .headed inner))])
  | some _ => none

/-- Opens one more table of a name by its header. -/
def openElement (place : Nat) (name : String) (members : Members) : Option Members :=
  match Fields.get? name members with
  | none => members.add? name place (.tables [[]])
  | some (first, .tables elements) =>
    some (Fields.put name (first, .tables ([] :: elements)) members)
  | some _ => none

/-- Inserts a value under a key, which leads through tables that were made by dots. Such a key may
not reach into a table with a header of its own, nor end in one that is implied by a header. -/
def insertDotted (place : Nat) (value : Value) : KeyPart → List KeyPart → Members → Option Members
  | part, [], members => members.add? part.name place value
  | part, next :: rest, members =>
    match Fields.get? part.name members with
    | none => do
      let inner ← insertDotted place value next rest []
      return members ++ [(part.name, (part.place, .table .dotted inner))]
    | some (at_, .table form inner) =>
      if form = .headed ∨ (rest = [] ∧ form = .implied) then none
      else do
        let inner ← insertDotted place value next rest inner
        return Fields.put part.name (at_, .table form inner) members
    | some (at_, .tables (last :: others)) =>
      if rest = [] then none
      else do
        let last ← insertDotted place value next rest last
        return Fields.put part.name (at_, .tables (last :: others)) members
    | some _ => none

/-- The members of a table in braces: keys with values, in order. -/
def ofPairs (pairs : List (KeyPart × List KeyPart × Nat × Value)) : Option Members :=
  pairs.foldlM (fun members (part, rest, place, value) =>
    insertDotted place value part rest members) []

end Members

end Seedbed.Toml
