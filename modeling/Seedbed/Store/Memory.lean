import Seedbed.Store.Basic

/-!
# The store in memory

A table in memory keeps its rows in the order in which they were inserted, and counts the ids that
it has given out. A row without an id gets the next number, as a serial key would give it; a number
is never given twice, also after its row was deleted.
-/

namespace Seedbed

/-- A table in memory. -/
structure StoredTable where
  /-- How many ids were given out. -/
  assigned : Nat
  rows : List Row

/-- Tables in memory by name. -/
structure MemoryStore where
  tables : Fields StoredTable

namespace StoredTable

/-- The table that nothing was inserted into. -/
def empty : StoredTable := ⟨0, []⟩

/-- Rows with ids: those without one get the numbers after `assigned`, in order. The last number
that was given comes with them. -/
def giveIds (assigned : Nat) : List Row → Nat × List Row
  | [] => (assigned, [])
  | row :: rest =>
    if hasId row then
      let (last, stored) := giveIds assigned rest
      (last, row :: stored)
    else
      let (last, stored) := giveIds (assigned + 1) rest
      (last, Fields.put idColumn (.integer (assigned + 1 : Nat)) row :: stored)

/-- Inserts rows; they come back as they are stored. -/
def insert (table : StoredTable) (rows : List Row) : List Row × StoredTable :=
  let (assigned, stored) := giveIds table.assigned rows
  (stored, { assigned, rows := table.rows ++ stored })

/-- Deletes the rows of a tenant and counts them. -/
def delete (table : StoredTable) (tenant : String) : Nat × StoredTable :=
  let kept := table.rows.filter fun row => tenantOf? row ≠ some tenant
  (table.rows.length - kept.length, { table with rows := kept })

end StoredTable

namespace MemoryStore

/-- The store without rows. -/
def empty : MemoryStore := ⟨[]⟩

/-- A table; one that was never inserted into is empty. -/
def table (store : MemoryStore) (name : String) : StoredTable :=
  (Fields.get? name store.tables).getD StoredTable.empty

/-- The rows of a table. -/
def rows (store : MemoryStore) (name : String) : List Row :=
  (store.table name).rows

/-- The number of rows of all tables. -/
def size (store : MemoryStore) : Nat :=
  (store.tables.map fun (_, table) => table.rows.length).foldr (· + ·) 0

/-- Replaces a table. -/
def setTable (store : MemoryStore) (name : String) (table : StoredTable) : MemoryStore :=
  ⟨Fields.put name table store.tables⟩

/-- Inserts rows into a table. -/
def insert (store : MemoryStore) (name : String) (rows : List Row) : List Row × MemoryStore :=
  let (stored, table) := (store.table name).insert rows
  (stored, store.setTable name table)

/-- Deletes the rows of a tenant from a table. A table that does not exist is not made. -/
def delete (store : MemoryStore) (name tenant : String) : Nat × MemoryStore :=
  match Fields.get? name store.tables with
  | none => (0, store)
  | some table =>
    let (count, table) := table.delete tenant
    (count, store.setTable name table)

/-- A list of texts, sorted, each once. -/
def sortedOnce (texts : List String) : List String :=
  (texts.mergeSort fun a b => decide (a ≤ b)).eraseReps

/-- The tenants of the rows of a table. -/
def tenants (store : MemoryStore) (name : String) : List String :=
  sortedOnce ((store.rows name).filterMap tenantOf?)

/-- The store in memory as a backend; inserts into one table may be rejected. -/
def backend (rejecting : Option String) : Backend MemoryStore where
  name := "memory"
  insert name rows store :=
    if rejecting = some name then (.error { table := name, message := "insert rejected" }, store)
    else
      let (stored, store) := store.insert name rows
      (.ok stored, store)
  delete name tenant store :=
    let (count, store) := store.delete name tenant
    (.ok count, store)
  tenants name store := .ok (store.tenants name)

@[simp] theorem table_setTable_self (store : MemoryStore) (name : String) (table : StoredTable) :
    (store.setTable name table).table name = table := by
  simp [MemoryStore.table, setTable]

/-- Replacing a table leaves the other tables. -/
theorem table_setTable_of_ne {name other : String} (h : name ≠ other) (store : MemoryStore)
    (table : StoredTable) : (store.setTable name table).table other = store.table other := by
  simp [MemoryStore.table, setTable, Fields.get?_put_of_ne h]

end MemoryStore

end Seedbed
