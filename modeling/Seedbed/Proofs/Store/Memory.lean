import Seedbed.Store.Memory
import Seedbed.Proofs.Fields

/-!
# What the store in memory does to its rows

An insert appends the rows as they are stored to one table, a delete keeps the rows of the other
tenants of one table, and both leave the other tables alone. A row is stored as it was made, except
that it may get an id.
-/

namespace Seedbed

/-! ## Stored rows -/

/-- A row is stored as another one: the columns other than the id are the same. -/
def StoredAs (row stored : Row) : Prop :=
  ∀ name, name ≠ idColumn → Fields.get? name stored = Fields.get? name row

/-- A row is stored as itself. -/
theorem StoredAs.refl (row : Row) : StoredAs row row :=
  fun _ _ => rfl

/-- A row is stored as it was made when it has an id, and else with a number as its id. -/
def IdFilled (row stored : Row) : Prop :=
  if hasId row then stored = row else ∃ n : Nat, stored = Fields.put idColumn (.integer n) row

/-- A row with its id filled in keeps its other columns. -/
theorem IdFilled.storedAs {row stored : Row} (h : IdFilled row stored) : StoredAs row stored := by
  intro name hname
  unfold IdFilled at h
  split at h
  · rw [h]
  · obtain ⟨n, rfl⟩ := h
    exact Fields.get?_put_of_ne (Ne.symm hname) _ _

/-- A row is a tenant's when it has the id of the tenant in the column for it. -/
def OwnedBy (tenant : String) (row : Row) : Prop :=
  Fields.get? tenantColumn row = some (.string tenant)

instance (tenant : String) : DecidablePred (OwnedBy tenant) := fun _ =>
  decidable_of_iff _ tenantOf?_eq_some_iff

/-- A row is stored with its tenant. -/
theorem StoredAs.ownedBy_iff {row stored : Row} {tenant : String} (h : StoredAs row stored) :
    OwnedBy tenant stored ↔ OwnedBy tenant row := by
  rw [OwnedBy, OwnedBy, h tenantColumn (by decide)]

/-- A row with an id has the column for it. -/
theorem mem_names_of_hasId {row : Row} (h : hasId row = true) :
    idColumn ∈ Fields.names row := by
  by_contra hmem
  rw [hasId, Fields.get?_eq_none_iff.2 hmem] at h
  cases h

/-- A row is stored with its columns, and with the one for the id at the end when it had none. -/
theorem IdFilled.names_eq {row stored : Row} (h : IdFilled row stored) :
    Fields.names stored =
      if idColumn ∈ Fields.names row then Fields.names row
      else Fields.names row ++ [idColumn] := by
  unfold IdFilled at h
  split at h
  · next hid => rw [h, if_pos (mem_names_of_hasId hid)]
  · obtain ⟨n, rfl⟩ := h
    exact Fields.names_put _ _ _

namespace StoredTable

/-- Rows are stored one by one, with their ids. -/
theorem giveIds_filled (assigned : Nat) (rows : List Row) :
    List.Forall₂ IdFilled rows (giveIds assigned rows).2 := by
  induction rows generalizing assigned with
  | nil => exact .nil
  | cons row rest ih =>
    rw [giveIds]
    split
    · next hid =>
      refine .cons ?_ (ih assigned)
      rw [IdFilled, if_pos hid]
    · next hid =>
      refine .cons ?_ (ih (assigned + 1))
      rw [IdFilled, if_neg hid]
      exact ⟨assigned + 1, rfl⟩

/-- A delete keeps the rows of the other tenants and counts those that it takes. -/
theorem delete_eq (table : StoredTable) (tenant : String) :
    table.delete tenant =
      (table.rows.length - (table.rows.filter fun row => ¬OwnedBy tenant row).length,
        { table with rows := table.rows.filter fun row => ¬OwnedBy tenant row }) := by
  have hkept : (table.rows.filter fun row => tenantOf? row ≠ some tenant) =
      table.rows.filter fun row => ¬OwnedBy tenant row :=
    List.filter_congr fun row _ => decide_eq_decide.2 (not_congr tenantOf?_eq_some_iff)
  simp only [delete, hkept]

end StoredTable

namespace MemoryStore

variable {store : MemoryStore} {name other tenant : String} {rows : List Row}

/-! ## Inserts -/

/-- The rows that an insert gives back are the rows that were inserted, with their ids. -/
theorem insert_filled : List.Forall₂ IdFilled rows (store.insert name rows).1 :=
  StoredTable.giveIds_filled _ _

/-- Each row that an insert gives back is one of the rows that were inserted. -/
theorem exists_of_mem_insert {stored : Row} (h : stored ∈ (store.insert name rows).1) :
    ∃ row ∈ rows, StoredAs row stored := by
  obtain ⟨row, hrow, hfilled⟩ := exists_mem_of_forall₂ insert_filled h
  exact ⟨row, hrow, hfilled.storedAs⟩

/-- An insert gives back as many rows as were inserted. -/
theorem length_insert : (store.insert name rows).1.length = rows.length :=
  insert_filled.length_eq.symm

/-- An insert changes its table as an insert into the table. -/
theorem table_insert_self :
    (store.insert name rows).2.table name = ((store.table name).insert rows).2 :=
  table_setTable_self _ _ _

/-- An insert leaves the other tables alone. -/
theorem table_insert_of_ne (h : name ≠ other) :
    (store.insert name rows).2.table other = store.table other :=
  table_setTable_of_ne h _ _

/-- An insert appends the rows that it gives back. -/
theorem rows_insert_self :
    (store.insert name rows).2.rows name = store.rows name ++ (store.insert name rows).1 :=
  congrArg StoredTable.rows table_insert_self

/-- An insert leaves the rows of the other tables alone. -/
theorem rows_insert_of_ne (h : name ≠ other) :
    (store.insert name rows).2.rows other = store.rows other :=
  congrArg StoredTable.rows (table_insert_of_ne h)

/-- The store grows by the rows that are inserted. -/
theorem size_insert : (store.insert name rows).2.size = store.size + rows.length := by
  have hsum : (store.insert name rows).2.size +
      ((Fields.get? name store.tables).map fun table => table.rows.length).getD 0 =
        store.size + ((store.table name).insert rows).2.rows.length :=
    Fields.foldr_put (fun table : StoredTable => table.rows.length) name _ store.tables
  have hold : (store.table name).rows.length =
      ((Fields.get? name store.tables).map fun table => table.rows.length).getD 0 := by
    rw [MemoryStore.table]
    cases Fields.get? name store.tables <;> rfl
  have hnew : ((store.table name).insert rows).2.rows.length =
      (store.table name).rows.length + rows.length := by
    simp [StoredTable.insert, ← (StoredTable.giveIds_filled _ rows).length_eq]
  omega

/-- An insert loses no row. -/
theorem mem_rows_insert {row : Row} (h : row ∈ store.rows other) :
    row ∈ (store.insert name rows).2.rows other := by
  by_cases hn : name = other
  · subst hn
    rw [rows_insert_self]
    exact List.mem_append_left _ h
  · rwa [rows_insert_of_ne hn]

/-- When the backend inserts, it gives back and leaves what an insert does. -/
theorem backend_insert_eq {rejecting : Option String} {stored : List Row} {after : MemoryStore}
    (h : (backend rejecting).insert name rows store = (.ok stored, after)) :
    (store.insert name rows).1 = stored ∧ (store.insert name rows).2 = after := by
  simp only [backend] at h
  split at h
  · cases h
  · simpa [Prod.ext_iff] using h

/-- An insert that is rejected leaves the store as it was. -/
theorem backend_insert_error {rejecting : Option String} {e : StoreFailure} {after : MemoryStore}
    (h : (backend rejecting).insert name rows store = (.error e, after)) : after = store := by
  simp only [backend] at h
  split at h
  · exact (Prod.ext_iff.1 h).2.symm
  · cases h

/-! ## Deletes -/

/-- A table that is not there is not made by a delete. -/
theorem delete_of_none (h : Fields.get? name store.tables = none) :
    store.delete name tenant = (0, store) := by
  rw [delete, h]

/-- A delete replaces a table that is there. -/
theorem delete_of_some {table : StoredTable} (h : Fields.get? name store.tables = some table) :
    store.delete name tenant =
      ((table.delete tenant).1, store.setTable name (table.delete tenant).2) := by
  rw [delete, h]

/-- The table under a name is the one that is stored there. -/
theorem table_of_some {table : StoredTable} (h : Fields.get? name store.tables = some table) :
    store.table name = table := by
  rw [MemoryStore.table, h]
  rfl

/-- What a delete finds under the name of its table, it leaves without the rows of the tenant. -/
theorem get?_delete_self : Fields.get? name (store.delete name tenant).2.tables =
    (Fields.get? name store.tables).map fun table => (table.delete tenant).2 := by
  cases hfound : Fields.get? name store.tables with
  | none => rw [delete_of_none hfound, hfound, Option.map_none]
  | some table =>
    rw [delete_of_some hfound]
    exact Fields.get?_put_self _ _ _

/-- What a delete finds under another name, it leaves as it was. -/
theorem get?_delete_of_ne (h : name ≠ other) :
    Fields.get? other (store.delete name tenant).2.tables = Fields.get? other store.tables := by
  cases hfound : Fields.get? name store.tables with
  | none => rw [delete_of_none hfound]
  | some table =>
    rw [delete_of_some hfound]
    exact Fields.get?_put_of_ne h _ _

/-- A delete changes its table as a delete from the table, also when there is no such table. -/
theorem table_delete_self :
    (store.delete name tenant).2.table name = ((store.table name).delete tenant).2 := by
  rw [MemoryStore.table, get?_delete_self, MemoryStore.table]
  cases Fields.get? name store.tables <;> rfl

/-- A delete leaves the other tables alone. -/
theorem table_delete_of_ne (h : name ≠ other) :
    (store.delete name tenant).2.table other = store.table other := by
  rw [MemoryStore.table, get?_delete_of_ne h, MemoryStore.table]

/-- A delete keeps the rows of the other tenants. -/
theorem rows_delete_self : (store.delete name tenant).2.rows name =
    (store.rows name).filter fun row => ¬OwnedBy tenant row := by
  rw [MemoryStore.rows, table_delete_self, StoredTable.delete_eq, MemoryStore.rows]

/-- A delete leaves the rows of the other tables alone. -/
theorem rows_delete_of_ne (h : name ≠ other) :
    (store.delete name tenant).2.rows other = store.rows other :=
  congrArg StoredTable.rows (table_delete_of_ne h)

/-- A delete counts the rows that it takes from its table. -/
theorem count_delete (store : MemoryStore) (name tenant : String) :
    (store.rows name).length =
      (store.delete name tenant).1 + ((store.delete name tenant).2.rows name).length := by
  have hle := List.length_filter_le (fun row => ¬OwnedBy tenant row) (store.rows name)
  have hcount : (store.delete name tenant).1 = (store.rows name).length -
      ((store.rows name).filter fun row => ¬OwnedBy tenant row).length := by
    cases hfound : Fields.get? name store.tables with
    | none =>
      rw [delete_of_none hfound, MemoryStore.rows, MemoryStore.table, hfound]
      rfl
    | some table =>
      rw [delete_of_some hfound, StoredTable.delete_eq, MemoryStore.rows, table_of_some hfound]
  rw [rows_delete_self, hcount]
  omega

/-- A delete counts the rows of its tenant. -/
theorem delete_fst_eq (store : MemoryStore) (name tenant : String) : (store.delete name tenant).1 =
    ((store.rows name).filter fun row => OwnedBy tenant row).length := by
  have hcount := count_delete store name tenant
  rw [rows_delete_self] at hcount
  have hsplit := List.length_eq_length_filter_add (l := store.rows name)
    fun row => decide (OwnedBy tenant row)
  simp only [← decide_not] at hsplit
  omega

/-- A row that a delete leaves in some table was there before, and in the table of the delete it is
of another tenant. -/
theorem mem_rows_delete_iff {row : Row} : row ∈ (store.delete name tenant).2.rows other ↔
    row ∈ store.rows other ∧ (name = other → ¬OwnedBy tenant row) := by
  by_cases hn : name = other
  · subst hn
    rw [rows_delete_self, List.mem_filter, decide_eq_true_eq]
    simp
  · rw [rows_delete_of_ne hn]
    simp [hn]

end MemoryStore

end Seedbed
