import Mathlib.Data.List.Nodup
import Seedbed.Proofs.Seeding.Definitions
import Seedbed.Proofs.Store.Memory

/-!
# References between stored rows

A column whose rule is a relation makes its row refer to a row of another table. A store is sound
when each row has a tenant and each of its references leads to a row of that tenant in a table
before its own (`Setup.Sound`). The order matters for deletes: rows can only be deleted from a
table when the tables behind it have no rows of the tenant (`Sound.delete`). Inserts take no
reference away, so they only have to bring sound rows (`Sound.insert`).
-/

namespace Seedbed

/-! ## The order of the tables -/

/-- A table stands before another one in the seed order. -/
def TableOrder.Precedes (order : TableOrder) (parent table : String) : Prop :=
  [parent, table].Sublist order.seed

/-- In a list without repetitions, what comes before an element is in front of it. -/
theorem mem_of_pair_sublist {α : Type} {a b : α} {before after : List α}
    (hn : (before ++ b :: after).Nodup) (h : [a, b].Sublist (before ++ b :: after)) :
    a ∈ before := by
  have hb : b ∉ after := (List.nodup_cons.1 (List.nodup_append.1 hn).2.1).1
  obtain ⟨front, back, he, hfront, hback⟩ := List.sublist_append_iff.1 h
  cases front with
  | nil =>
    -- The whole pair would stand behind the front, and `b` a second time behind itself.
    rw [List.nil_append] at he
    subst he
    cases hback with
    | cons _ hback => exact absurd (hback.subset (by simp)) hb
    | cons_cons _ hback => exact absurd (hback.subset (by simp)) hb
  | cons c front =>
    obtain ⟨rfl, -⟩ := List.cons.inj he
    exact hfront.subset (List.mem_cons_self ..)

namespace TableOrder

variable {order : TableOrder} {parent table : String} {done rest : List String}

/-- The tables that are seeded already stand before the next one. -/
theorem precedes_of_mem (h : order.seed = done ++ table :: rest) (hp : parent ∈ done) :
    order.Precedes parent table := by
  have hfront : [parent].Sublist done := List.singleton_sublist.2 hp
  have hback : [table].Sublist (table :: rest) := List.singleton_sublist.2 (List.mem_cons_self ..)
  unfold Precedes
  rw [h]
  exact hfront.append hback

/-- When a table is reset, the tables that it precedes are reset already. -/
theorem Precedes.mem_reset (hp : order.Precedes parent table)
    (h : order.reset = done ++ parent :: rest) : table ∈ done := by
  have hn : (done ++ parent :: rest).Nodup := h ▸ List.nodup_reverse.2 order.nodup
  have hreverse : [table, parent].Sublist order.reset := List.Sublist.reverse hp
  exact mem_of_pair_sublist hn (h ▸ hreverse)

end TableOrder

/-! ## Sound stores -/

/-- A table holds a row of a tenant with a value in a column. -/
def MemoryStore.Resolves (store : MemoryStore) (tenant table column : String) (value : Json) :
    Prop :=
  ∃ row ∈ store.rows table, Fields.get? tenantColumn row = some (.string tenant) ∧
    Fields.get? column row = some value

namespace Setup

variable (setup : Setup)

/-- A row of a table refers to the rows of another table with a value in a column: a column of the
row, other than the id, is defined as this relation and holds the value, which is not null. -/
def Refers (table : String) (row : Row) (target column : String) (value : Json) : Prop :=
  ∃ definition key, setup.Defines table definition ∧ key ≠ idColumn ∧
    (key, .scalar (.relation target column)) ∈ definition.columns ∧
    Fields.get? key row = some value ∧ value ≠ .null

/-- A row of a table is sound in a store: it has a tenant, and its references lead to rows of the
tenant in tables before its own. -/
def SoundRow (store : MemoryStore) (table : String) (row : Row) : Prop :=
  ∃ tenant, Fields.get? tenantColumn row = some (.string tenant) ∧
    ∀ target column value, setup.Refers table row target column value →
      setup.order.Precedes target table ∧ store.Resolves tenant target column value

/-- All rows of a store are sound in it. -/
def Sound (store : MemoryStore) : Prop :=
  ∀ table, ∀ row ∈ store.rows table, setup.SoundRow store table row

variable {setup} {store : MemoryStore} {name tenant : String}

/-- The empty store is sound. -/
theorem sound_empty : setup.Sound MemoryStore.empty :=
  fun _ _ h => absurd h List.not_mem_nil

/-- A row stays sound when rows are added. -/
theorem SoundRow.mono {store' : MemoryStore} {table : String} {row : Row}
    (h : setup.SoundRow store table row)
    (hgrow : ∀ table, ∀ row ∈ store.rows table, row ∈ store'.rows table) :
    setup.SoundRow store' table row := by
  obtain ⟨tenant, htenant, hrefers⟩ := h
  refine ⟨tenant, htenant, fun target column value href => ?_⟩
  obtain ⟨hprecedes, parent, hparent, hvalue⟩ := hrefers target column value href
  exact ⟨hprecedes, parent, hgrow target parent hparent, hvalue⟩

/-- An insert of rows that are sound beside the rows of a sound store keeps it sound. -/
theorem Sound.insert (h : setup.Sound store) {rows : List Row}
    (hrows : ∀ stored ∈ (store.insert name rows).1, setup.SoundRow store name stored) :
    setup.Sound (store.insert name rows).2 := by
  have hgrow : ∀ table, ∀ row ∈ store.rows table, row ∈ (store.insert name rows).2.rows table :=
    fun _ _ => MemoryStore.mem_rows_insert
  intro table row hrow
  by_cases hn : name = table
  · subst hn
    rw [MemoryStore.rows_insert_self] at hrow
    rcases List.mem_append.1 hrow with hold | hnew
    · exact (h name row hold).mono hgrow
    · exact (hrows row hnew).mono hgrow
  · rw [MemoryStore.rows_insert_of_ne hn] at hrow
    exact (h table row hrow).mono hgrow

/-- **Deleting parents last is sound**: a delete keeps a store sound when the tables behind its
table have no rows of the tenant. -/
theorem Sound.delete (h : setup.Sound store)
    (hbehind : ∀ table, setup.order.Precedes name table → ∀ row ∈ store.rows table,
      ¬OwnedBy tenant row) :
    setup.Sound (store.delete name tenant).2 := by
  intro table row hrow
  obtain ⟨hrow, -⟩ := MemoryStore.mem_rows_delete_iff.1 hrow
  obtain ⟨owner, howner, hrefers⟩ := h table row hrow
  refine ⟨owner, howner, fun target column value href => ?_⟩
  obtain ⟨hprecedes, parent, hparent, hof, hvalue⟩ := hrefers target column value href
  refine ⟨hprecedes, parent, MemoryStore.mem_rows_delete_iff.2 ⟨hparent, ?_⟩, hof, hvalue⟩
  -- A parent that is deleted is of the tenant, and so would be the row that refers to it.
  rintro rfl hdeleted
  rw [OwnedBy, hof, ← howner] at hdeleted
  exact hbehind table hprecedes row hrow hdeleted

end Setup

end Seedbed
