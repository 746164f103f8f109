import Seedbed.Proofs.Seeding.Resetting
import Seedbed.Proofs.Store.Tenants

/-!
# What is left of a tenant

A reset is exact: it tells how many rows of the tenant each table of the order had, the tables last
one first, and takes these rows and nothing else. It is complete: no table of the order lists the
tenant behind it. So a second reset finds nothing, and leaves the store as the first one did
(`ends_reset_again`).
-/

namespace Seedbed.Setup

variable {setup : Setup} {tenant : String} {store : MemoryStore}

/-- A reset of a tenant that has no rows in the tables of the order deletes nothing. -/
theorem ends_reset_again (rejecting : Option String)
    (hnone : ∀ table ∈ setup.order.seed, ∀ row ∈ store.rows table, ¬OwnedBy tenant row) :
    (setup.reset (MemoryStore.backend rejecting) tenant).Ends store
      (fun report s => report = ⟨tenant, setup.order.reset.map fun table => (table, 0)⟩ ∧ s = store)
      fun _ _ => False := by
  refine (ends_reset_of_step (fun done entries s =>
    entries = done.map (fun table => (table, 0)) ∧ s = store) ⟨rfl, rfl⟩ ?_).mono ?_ (fun _ _ => id)
  · rintro done table rest entries s hreset ⟨rfl, rfl⟩
    have htable : table ∈ setup.order.seed := by
      rw [← List.mem_reverse, ← TableOrder.reset, hreset]
      exact List.mem_append_right _ (List.mem_cons_self ..)
    rw [MemoryStore.delete_eq_self (hnone table htable)]
    exact ⟨by simp, rfl⟩
  · rintro ⟨_, _⟩ s ⟨htenant, hentries, rfl⟩
    exact ⟨congrArg₂ ResetReport.mk htenant hentries, rfl⟩

/-- **A reset is exact, complete and idempotent.** It reports the tables in the reverse of the seed
order, each with the number of its rows of the tenant; it takes these rows from the tables of the
order and changes neither their other rows nor another table nor a count of given ids; no table of
the order lists the tenant behind it, and a second reset deletes nothing. Any table lists its
tenants in order and each once, and they are those of which a delete takes a row. -/
theorem reset_erases (setup : Setup) (rejecting : Option String) (tenant : String)
    (store : MemoryStore) :
    let backend := MemoryStore.backend rejecting
    let reset := setup.reset backend tenant store
    let again := setup.reset backend tenant reset.state
    reset.result = .ok ⟨tenant, setup.order.seed.reverse.map fun table =>
        (table, (tenantRows store tenant table).length)⟩ ∧
      (∀ table ∈ setup.order.seed, reset.state.rows table = otherRows store tenant table) ∧
      (∀ table ∉ setup.order.seed,
        Fields.get? table reset.state.tables = Fields.get? table store.tables) ∧
      (∀ table, (reset.state.table table).assigned = (store.table table).assigned) ∧
      again.result = .ok ⟨tenant, setup.order.seed.reverse.map fun table => (table, 0)⟩ ∧
      again.state = reset.state ∧
      (∀ table ∈ setup.order.seed, ∃ listed,
        backend.tenants table reset.state = .ok listed ∧ tenant ∉ listed) ∧
      ∀ table, ∃ listed, backend.tenants table store = .ok listed ∧
        listed.Pairwise (· < ·) ∧
        ∀ other, other ∈ listed ↔
          ∃ count after, backend.delete table other store = (.ok count, after) ∧ 0 < count := by
  intro backend reset again
  obtain ⟨_, hresult, rfl, htables⟩ := (ends_reset_tables setup rejecting tenant store).succeeds
  obtain ⟨_, hrowsResult, -, hrows⟩ := (ends_reset_rows setup rejecting tenant store).succeeds
  have hkept : ∀ table ∈ setup.order.seed, reset.state.rows table = otherRows store tenant table :=
    fun table htable => (hrows table).trans (if_pos htable)
  have hnone : ∀ table ∈ setup.order.seed, ∀ row ∈ reset.state.rows table,
      ¬OwnedBy tenant row := by
    intro table htable row hrow
    rw [hkept table htable] at hrow
    exact of_decide_eq_true (List.mem_filter.1 hrow).2
  obtain ⟨_, hagain, rfl, hstate⟩ := (ends_reset_again rejecting hnone).succeeds
  refine ⟨hresult, hkept, fun table htable => ?_, fun table => ?_, hagain, hstate,
    fun table htable => ⟨_, rfl, fun hlisted => ?_⟩,
    fun table => ⟨_, rfl, store.pairwise_tenants table, fun other => ?_⟩⟩
  · rw [htables table, if_neg htable]
  · rw [MemoryStore.table, htables table, MemoryStore.table]
    split
    · cases Fields.get? table store.tables <;> rfl
    · rfl
  · obtain ⟨row, hrow, hof⟩ := MemoryStore.mem_tenants_iff.1 hlisted
    exact hnone table htable row hrow hof
  · have hcount : (backend.delete table other store).1 = .ok (store.delete table other).1 := rfl
    rw [MemoryStore.mem_tenants_iff_delete]
    constructor
    · exact fun hpos => ⟨_, _, rfl, hpos⟩
    · rintro ⟨count, after, hdelete, hpos⟩
      rw [hdelete] at hcount
      exact Except.ok.inj hcount ▸ hpos

end Seedbed.Setup
