import Mathlib.Data.String.Basic
import Seedbed.Proofs.Store.Memory

/-!
# The tenants of stored rows

The tenants of a table are listed in order and each once. A tenant is listed exactly when a delete
takes some row of the table, whatever the rows hold in their tenant column
(`mem_tenants_iff_delete`): a row without the column, or with something else than a text in it, is
neither listed nor taken. A delete that takes no row changes nothing (`delete_eq_self`).
-/

namespace Seedbed

namespace MemoryStore

variable {store : MemoryStore} {name tenant : String}

/-! ## Lists of texts, sorted, each once -/

/-- Of a sorted list the repetitions are left out. `kept` is what was kept so far, last text
first. -/
theorem eraseReps_loop_spec {text : String} {texts kept : List String}
    (hsorted : (text :: texts).Pairwise (· ≤ ·)) (hkept : kept.Pairwise (· > ·))
    (hbelow : ∀ k ∈ kept, k < text) :
    (List.eraseRepsBy.loop (· == ·) text texts kept).Pairwise (· < ·) ∧
      ∀ t, t ∈ List.eraseRepsBy.loop (· == ·) text texts kept ↔ t ∈ kept ∨ t ∈ text :: texts := by
  induction texts generalizing text kept with
  | nil =>
    refine ⟨?_, fun t => by simp [List.eraseRepsBy.loop, or_comm]⟩
    rw [List.eraseRepsBy.loop, List.pairwise_reverse]
    exact List.pairwise_cons.2 ⟨hbelow, hkept⟩
  | cons next texts ih =>
    obtain ⟨hle, hrest⟩ := List.pairwise_cons.1 hsorted
    rw [List.eraseRepsBy.loop]
    split
    · next heq =>
      obtain rfl : text = next := eq_of_beq heq
      obtain ⟨hpairwise, hmem⟩ := ih hrest hkept hbelow
      exact ⟨hpairwise, fun t => by simp [hmem]⟩
    · next hne =>
      have hlt : text < next :=
        lt_of_le_of_ne (hle next (List.mem_cons_self ..)) (ne_of_beq_false hne)
      have hkept' : (text :: kept).Pairwise (· > ·) := List.pairwise_cons.2 ⟨hbelow, hkept⟩
      have hbelow' : ∀ k ∈ text :: kept, k < next :=
        List.forall_mem_cons.2 ⟨hlt, fun k hk => (hbelow k hk).trans hlt⟩
      obtain ⟨hpairwise, hmem⟩ := ih hrest hkept' hbelow'
      exact ⟨hpairwise, fun t => by simp [hmem, or_assoc, or_left_comm]⟩

/-- Sorting keeps every text once, in ascending order. -/
theorem sortedOnce_spec (texts : List String) :
    (sortedOnce texts).Pairwise (· < ·) ∧ ∀ t, t ∈ sortedOnce texts ↔ t ∈ texts := by
  have hsorted : (texts.mergeSort fun a b => decide (a ≤ b)).Pairwise (· ≤ ·) :=
    (List.pairwise_mergeSort (by simpa using fun a b c => le_trans) (by simpa using le_total)
      texts).imp of_decide_eq_true
  have hmem : ∀ t, t ∈ texts.mergeSort (fun a b => decide (a ≤ b)) ↔ t ∈ texts :=
    fun _ => List.mem_mergeSort
  unfold sortedOnce
  cases hm : texts.mergeSort fun a b => decide (a ≤ b) with
  | nil => simpa [hm, List.eraseReps, List.eraseRepsBy] using hmem
  | cons text rest =>
    rw [hm] at hsorted hmem
    obtain ⟨hpairwise, hloop⟩ := eraseReps_loop_spec hsorted .nil (by simp)
    exact ⟨hpairwise, fun t => (hloop t).trans (by simp [← hmem t])⟩

/-! ## Listing and deleting -/

/-- The tenants of a table are listed in order, each once. -/
theorem pairwise_tenants (store : MemoryStore) (name : String) :
    (store.tenants name).Pairwise (· < ·) :=
  (sortedOnce_spec _).1

/-- The tenants of a table are those of its rows. -/
theorem mem_tenants_iff :
    tenant ∈ store.tenants name ↔ ∃ row ∈ store.rows name, OwnedBy tenant row := by
  rw [tenants, (sortedOnce_spec _).2, List.mem_filterMap]
  simp only [tenantOf?_eq_some_iff, OwnedBy]

/-- **A listing and a delete agree**: a tenant is listed when a delete of its rows takes some. -/
theorem mem_tenants_iff_delete :
    tenant ∈ store.tenants name ↔ 0 < (store.delete name tenant).1 := by
  rw [mem_tenants_iff, delete_fst_eq, List.length_pos_iff_exists_mem]
  simp

/-- Where there is no row of the tenant, a delete changes nothing. -/
theorem delete_eq_self (h : ∀ row ∈ store.rows name, ¬OwnedBy tenant row) :
    store.delete name tenant = (0, store) := by
  cases hfound : Fields.get? name store.tables with
  | none => exact delete_of_none hfound
  | some table =>
    rw [MemoryStore.rows, table_of_some hfound] at h
    have hkept : table.rows.filter (fun row => ¬OwnedBy tenant row) = table.rows :=
      List.filter_eq_self.2 fun row hrow => decide_eq_true (h row hrow)
    have htable : table.delete tenant = (0, table) := by
      simp only [StoredTable.delete_eq, hkept, Nat.sub_self]
    rw [delete_of_some hfound, htable, setTable, Fields.put_of_get? hfound]

end MemoryStore

end Seedbed
