import Seedbed.Json.Basic
import Seedbed.Random.Source

/-!
# The rows of a pass

A pass keeps the rows of the tables that it has made so far; relations pick their rows from here.
Storing rows under a table replaces what was there (`rows?_insert_self`) and leaves the other tables
alone (`rows?_insert_of_ne`).
-/

namespace Seedbed

/-- Rows under table names. -/
structure Cache where
  tables : List (String × List Row)

namespace Cache

/-- The cache at the start of a pass. -/
def empty : Cache := ⟨[]⟩

/-- The rows of a table. -/
def rows? (cache : Cache) (table : String) : Option (List Row) :=
  Fields.get? table cache.tables

/-- Keeps rows under a table, in place of those that were there. -/
def insert (cache : Cache) (table : String) (rows : List Row) : Cache :=
  ⟨Fields.put table rows cache.tables⟩

/-- Whether a table is kept, perhaps without rows. -/
def contains (cache : Cache) (table : String) : Bool :=
  Fields.has table cache.tables

/-- The names of the tables, sorted. -/
def names (cache : Cache) : List String :=
  (Fields.names cache.tables).mergeSort fun a b => decide (a ≤ b)

/-- One row of a table; nothing, and no draw, when the table is missing or has no rows. -/
def pick? (cache : Cache) (table : String) : Random.Draw (Option Row) := do
  match cache.rows? table with
  | none => return none
  | some rows =>
    match ← Random.Draw.index? rows.length with
    | none => return none
    | some i => return rows[i]?

@[simp] theorem rows?_empty (table : String) : empty.rows? table = none := rfl

@[simp] theorem rows?_insert_self (cache : Cache) (table : String) (rows : List Row) :
    (cache.insert table rows).rows? table = some rows :=
  Fields.get?_put_self table rows cache.tables

/-- Rows that are added for a table leave the rows of other tables. -/
theorem rows?_insert_of_ne {table other : String} (h : table ≠ other) (cache : Cache)
    (rows : List Row) : (cache.insert table rows).rows? other = cache.rows? other :=
  Fields.get?_put_of_ne h rows cache.tables

end Cache

end Seedbed
