import Mathlib.Data.List.Nodup
import Seedbed.Seeding.Run
import Seedbed.Proofs.Ending
import Seedbed.Proofs.Store.Memory

/-!
# What a reset does to a store in memory

A reset deletes the rows of a tenant from one table after another and never fails
(`ends_reset_of_step`). So it counts in each table of the order the rows of the tenant that were
there, it leaves the rows of the others, and it changes no other table (`ends_reset_rows`).
-/

namespace Seedbed.Setup

variable {setup : Setup} {rejecting : Option String} {tenant : String} {store : MemoryStore}

/-- **What holds along a reset.** What holds when no table is done, and is kept by the delete in the
next table, holds when all tables are done. -/
theorem ends_reset_of_step (invariant : List String → List (String × Nat) → MemoryStore → Prop)
    (hbegin : invariant [] [] store)
    (hstep : ∀ done table rest entries s, setup.order.reset = done ++ table :: rest →
      invariant done entries s →
        invariant (done ++ [table]) (entries ++ [(table, (s.delete table tenant).1)])
          (s.delete table tenant).2) :
    (setup.reset (MemoryStore.backend rejecting) tenant).Ends store
      (fun report s => report.tenant = tenant ∧ invariant setup.order.reset report.tables s)
      fun _ _ => False := by
  simp only [reset, Work.ends_bind, Work.ends_pure]
  refine (Work.ends_forEach invariant (fun done table rest he entries s hs => ?_) hbegin).mono
    (fun _ _ h => ⟨trivial, h⟩) (fun _ _ => id)
  simp only [resetTable, Work.ends_bind, Work.ends_mapError, Work.ends_note, Work.ends_pure,
    Work.ends_ofFallible, MemoryStore.backend]
  exact hstep done table rest entries s he hs

/-- The rows of a tenant in a table. -/
def tenantRows (store : MemoryStore) (tenant table : String) : List Row :=
  (store.rows table).filter fun row => OwnedBy tenant row

/-- The rows of the other tenants in a table. -/
def otherRows (store : MemoryStore) (tenant table : String) : List Row :=
  (store.rows table).filter fun row => ¬OwnedBy tenant row

/-- When a table holds the rows of others and then rows of the tenant, these are the rows of the
tenant, and those are the rows of the others. -/
theorem split_rows {after : MemoryStore} {table : String} {made : List Row}
    (hrows : after.rows table = otherRows store tenant table ++ made)
    (hmade : ∀ row ∈ made, OwnedBy tenant row) :
    tenantRows after tenant table = made ∧
      otherRows after tenant table = otherRows store tenant table := by
  have hothers : ∀ row ∈ otherRows store tenant table, ¬OwnedBy tenant row :=
    fun row hrow => of_decide_eq_true (List.mem_filter.1 hrow).2
  constructor
  · rw [tenantRows, hrows, List.filter_append, List.filter_eq_nil_iff.2 (by simpa using hothers),
      List.filter_eq_self.2 (by simpa using hmade), List.nil_append]
  · rw [otherRows, hrows, List.filter_append, List.filter_eq_self.2 (by simpa using hothers),
      List.filter_eq_nil_iff.2 (by simpa using hmade), List.append_nil]

/-- **A reset** reports for each table of the order, the last one first, the number of rows of the
tenant. It leaves each of these tables as a delete leaves it, and the other tables as they were. -/
theorem ends_reset_tables (setup : Setup) (rejecting : Option String) (tenant : String)
    (store : MemoryStore) :
    (setup.reset (MemoryStore.backend rejecting) tenant).Ends store
      (fun report s => report = ⟨tenant, setup.order.reset.map fun table =>
          (table, (tenantRows store tenant table).length)⟩ ∧
        ∀ table, Fields.get? table s.tables =
          if table ∈ setup.order.seed then
            (Fields.get? table store.tables).map fun stored => (stored.delete tenant).2
          else Fields.get? table store.tables)
      fun _ _ => False := by
  refine (ends_reset_of_step (fun done entries s =>
    entries = done.map (fun table => (table, (tenantRows store tenant table).length)) ∧
      ∀ table, Fields.get? table s.tables =
        if table ∈ done then
          (Fields.get? table store.tables).map fun stored => (stored.delete tenant).2
        else Fields.get? table store.tables)
    ⟨rfl, fun table => by simp⟩ ?_).mono ?_ (fun _ _ => id)
  · rintro done table rest entries s hreset ⟨rfl, htables⟩
    have hnodup : (done ++ table :: rest).Nodup := hreset ▸ List.nodup_reverse.2 setup.order.nodup
    have hnew : table ∉ done := fun hmem =>
      (List.nodup_append.1 hnodup).2.2 _ hmem _ (List.mem_cons_self ..) rfl
    have hself : Fields.get? table s.tables = Fields.get? table store.tables := by
      rw [htables, if_neg hnew]
    refine ⟨?_, fun other => ?_⟩
    · have hrows : s.rows table = store.rows table := by
        rw [MemoryStore.rows, MemoryStore.rows, MemoryStore.table, MemoryStore.table, hself]
      rw [MemoryStore.delete_fst_eq, hrows, List.map_append]
      rfl
    · by_cases hname : table = other
      · subst hname
        rw [MemoryStore.get?_delete_self, hself, if_pos (by simp)]
      · rw [MemoryStore.get?_delete_of_ne hname, htables]
        simp [Ne.symm hname]
  · rintro ⟨_, _⟩ s ⟨htenant, hentries, htables⟩
    refine ⟨congrArg₂ ResetReport.mk htenant hentries, fun table => ?_⟩
    rw [htables, TableOrder.reset]
    simp

/-- Of the tables of the order a reset leaves the rows of the others, and the rows of the other
tables as they were. -/
theorem ends_reset_rows (setup : Setup) (rejecting : Option String) (tenant : String)
    (store : MemoryStore) :
    (setup.reset (MemoryStore.backend rejecting) tenant).Ends store
      (fun report s => report.tables = setup.order.reset.map (fun table =>
          (table, (tenantRows store tenant table).length)) ∧
        ∀ table, s.rows table =
          if table ∈ setup.order.seed then otherRows store tenant table else store.rows table)
      fun _ _ => False := by
  refine (ends_reset_tables setup rejecting tenant store).mono ?_ (fun _ _ => id)
  rintro _ s ⟨rfl, htables⟩
  refine ⟨rfl, fun table => ?_⟩
  rw [otherRows, MemoryStore.rows, MemoryStore.table, htables, MemoryStore.rows, MemoryStore.table]
  split
  · cases Fields.get? table store.tables with
    | none => rfl
    | some stored => exact congrArg (fun deleted => deleted.2.rows) (stored.delete_eq tenant)
  · rfl

end Seedbed.Setup
