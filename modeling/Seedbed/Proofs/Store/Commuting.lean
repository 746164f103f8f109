import Seedbed.Proofs.Store.Memory

/-!
# Deletes beside inserts

Deleting the rows of one tenant and inserting rows of others can be done in either order: the store
ends up the same, down to the order of its rows and the ids that it gave out, and both calls answer
the same (`delete_insert`). A delete keeps the count of the ids, so the inserted rows get the same
ones; and it does not see the inserted rows.
-/

namespace Seedbed

namespace StoredTable

variable {rows : List Row} {tenant : String}

/-- Rows of others are inserted into a table behind a delete as they are in front of it. -/
theorem delete_insert (table : StoredTable)
    (hrows : ∀ row ∈ rows, ¬OwnedBy tenant row) :
    ((table.insert rows).2.delete tenant).1 = (table.delete tenant).1 ∧
      ((table.insert rows).2.delete tenant).2 = ((table.delete tenant).2.insert rows).2 := by
  have hstored : ∀ row ∈ (giveIds table.assigned rows).2, ¬OwnedBy tenant row := by
    intro row hrow
    obtain ⟨made, hmade, hfilled⟩ := exists_mem_of_forall₂ (giveIds_filled table.assigned rows) hrow
    exact hfilled.storedAs.ownedBy_iff.not.2 (hrows made hmade)
  have hkept : (giveIds table.assigned rows).2.filter (fun row => ¬OwnedBy tenant row) =
      (giveIds table.assigned rows).2 :=
    List.filter_eq_self.2 fun row hrow => decide_eq_true (hstored row hrow)
  simp only [insert, delete_eq, List.filter_append, hkept, List.length_append, and_true]
  omega

end StoredTable

namespace MemoryStore

variable {store : MemoryStore} {name other tenant : String} {rows : List Row}

/-- The id count of a table is not changed by a delete. -/
theorem assigned_delete :
    ((store.delete other tenant).2.table name).assigned = (store.table name).assigned := by
  by_cases hname : other = name
  · subst hname
    rw [table_delete_self]
    rfl
  · rw [table_delete_of_ne hname]

/-- An insert answers behind a delete what it answers in front of it. -/
theorem insert_delete_fst :
    ((store.delete other tenant).2.insert name rows).1 = (store.insert name rows).1 := by
  simp only [insert, StoredTable.insert, assigned_delete]

/-- Of two tables set under one name the later one counts. -/
theorem setTable_setTable_self (table old : StoredTable) :
    (store.setTable name old).setTable name table = store.setTable name table :=
  congrArg MemoryStore.mk (Fields.put_put_self name table old store.tables)

/-- A delete in the table of an insert can be done before or behind it. -/
theorem delete_insert_self (hrows : ∀ row ∈ rows, ¬OwnedBy tenant row) :
    ((store.insert name rows).2.delete name tenant).1 = (store.delete name tenant).1 ∧
      ((store.insert name rows).2.delete name tenant).2 =
        ((store.delete name tenant).2.insert name rows).2 := by
  obtain ⟨hcount, htable⟩ := StoredTable.delete_insert (store.table name) hrows
  have hinserted : Fields.get? name (store.insert name rows).2.tables =
      some ((store.table name).insert rows).2 := Fields.get?_put_self _ _ _
  rw [delete_of_some hinserted]
  cases hfound : Fields.get? name store.tables with
  | none =>
    -- The insert makes the table, and the delete finds none of its rows.
    have hempty : store.table name = StoredTable.empty := by
      rw [MemoryStore.table, hfound]
      rfl
    rw [delete_of_none hfound]
    rw [hempty] at hcount htable ⊢
    refine ⟨hcount, ?_⟩
    rw [htable, insert, setTable_setTable_self, hempty]
    rfl
  | some table =>
    rw [delete_of_some hfound]
    rw [table_of_some hfound] at hcount htable ⊢
    refine ⟨hcount, ?_⟩
    simp only [insert, table_setTable_self, setTable_setTable_self, htable]

/-- A delete in another table than the one of an insert can be done before or behind it. -/
theorem delete_insert_of_ne (hname : name ≠ other) :
    ((store.insert name rows).2.delete other tenant).1 = (store.delete other tenant).1 ∧
      ((store.insert name rows).2.delete other tenant).2 =
        ((store.delete other tenant).2.insert name rows).2 := by
  have hother : Fields.get? other (store.insert name rows).2.tables =
      Fields.get? other store.tables := Fields.get?_put_of_ne hname _ _
  cases hfound : Fields.get? other store.tables with
  | none =>
    rw [delete_of_none (hother.trans hfound), delete_of_none hfound]
    exact ⟨rfl, rfl⟩
  | some table =>
    rw [delete_of_some (hother.trans hfound), delete_of_some hfound]
    refine ⟨rfl, ?_⟩
    have hmem : other ∈ Fields.names store.tables :=
      List.mem_map.2 ⟨_, Fields.mem_of_get? hfound, rfl⟩
    simp only [insert, table_setTable_of_ne (Ne.symm hname)]
    exact congrArg MemoryStore.mk (Fields.put_comm_of_mem (Ne.symm hname) hmem _ _)

/-- **Deleting the rows of a tenant and inserting rows of others** can be done in either order. -/
theorem delete_insert (store : MemoryStore) (name other : String)
    (hrows : ∀ row ∈ rows, ¬OwnedBy tenant row) :
    ((store.insert name rows).2.delete other tenant).1 = (store.delete other tenant).1 ∧
      ((store.insert name rows).2.delete other tenant).2 =
        ((store.delete other tenant).2.insert name rows).2 := by
  by_cases hname : name = other
  · exact hname ▸ delete_insert_self hrows
  · exact delete_insert_of_ne hname

end MemoryStore

end Seedbed
