import Seedbed.Text.Hex

/-!
# Tables by codes of characters

A property of characters is a table of ranges of codes that ascend and lie apart. A table is written
in lines of words, which blanks separate; a word holds hexadecimal numbers with hyphens between
them. In a set of codes, `41-5A` is a range and `AA` is a single code.

A code is looked up by halving the table, and only a row whose range holds the code is found.
-/

namespace Seedbed.Unicode

/-- What a table says of the codes from `first` to `last`. -/
structure CodeRow (α : Type) where
  first : Nat
  last : Nat
  value : α
  deriving Repr

/-- Rows of ranges that ascend and lie apart. -/
structure CodeTable (α : Type) where
  rows : Array (CodeRow α)

/-- A set of codes. -/
abbrev CodeSet := CodeTable Unit

/-- The value of a hexadecimal number. -/
def hexNumber (digits : List Char) : Nat :=
  digits.foldl (fun n c => n * 16 + (Text.hexValue? c).getD 0) 0

/-- The numbers of the words in lines, a list for each word. -/
def rowsOf (lines : List String) : List (List Nat) :=
  (lines.flatMap (·.splitOn " ")).map fun word =>
    (word.splitOn "-").map fun digits => hexNumber digits.toList

namespace CodeTable

variable {α : Type}

/-- The table of the words that are rows. -/
def ofRows (row? : List Nat → Option (CodeRow α)) (words : List (List Nat)) : CodeTable α :=
  { rows := (words.filterMap row?).toArray }

/-- Looks a code up in the rows from `low` to before `high`. -/
def findBetween (table : CodeTable α) (code low high : Nat) : Option (CodeRow α) :=
  if _h : low < high then
    let middle := (low + high) / 2
    match table.rows[middle]? with
    | none => none
    | some row =>
      if code < row.first then table.findBetween code low middle
      else if row.last < code then table.findBetween code (middle + 1) high
      else some row
  else none
termination_by high - low

/-- The row for a code. -/
def find? (table : CodeTable α) (code : Nat) : Option (CodeRow α) :=
  table.findBetween code 0 table.rows.size

end CodeTable

namespace CodeSet

/-- The set that is written in lines. -/
def ofLines (lines : List String) : CodeSet :=
  CodeTable.ofRows (fun
    | [code] => some ⟨code, code, ()⟩
    | [first, last] => some ⟨first, last, ()⟩
    | _ => none) (rowsOf lines)

/-- Whether a character's code is in a set. -/
def contains (codes : CodeSet) (c : Char) : Bool :=
  (codes.find? c.toNat).isSome

end CodeSet

end Seedbed.Unicode
