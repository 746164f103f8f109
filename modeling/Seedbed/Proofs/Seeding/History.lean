import Seedbed.Proofs.Seeding.Following

/-!
# The states that a store goes through

A recorded store remembers the state after each insert and each delete. The runs are the same
programs on it as on any other store, and they do the same to it (`store_recorded_calls`), so
`Setup.history` lists every state that a sequence of calls leads through, also within a call and
within one that fails.
-/

namespace Seedbed

variable {σ : Type}

/-- A store with the states that it had after each insert and each delete, in order. -/
structure Recorded (σ : Type) where
  store : σ
  history : List σ

/-- The recorded store with its next state. -/
def Recorded.next (recorded : Recorded σ) (store : σ) : Recorded σ :=
  { store, history := recorded.history ++ [store] }

/-- The backend on recorded stores. -/
def Backend.recorded (backend : Backend σ) : Backend (Recorded σ) where
  name := backend.name
  insert table rows recorded :=
    let (result, store) := backend.insert table rows recorded.store
    (result, recorded.next store)
  delete table tenant recorded :=
    let (result, store) := backend.delete table tenant recorded.store
    (result, recorded.next store)
  tenants table recorded := backend.tenants table recorded.store

/-- An insert does to the store what it does without the record, and the state that it leaves is
recorded. -/
theorem Backend.recorded_insert_iff {backend : Backend σ} {table : String} {rows : List Row}
    {before after : Recorded σ} {result : Except StoreFailure (List Row)} :
    backend.recorded.insert table rows before = (result, after) ↔
      ∃ store, backend.insert table rows before.store = (result, store) ∧
        before.next store = after := by
  simp only [Backend.recorded, Prod.ext_iff]
  constructor
  · rintro ⟨hresult, rfl⟩
    exact ⟨_, ⟨hresult, rfl⟩, rfl⟩
  · rintro ⟨_, ⟨hresult, rfl⟩, rfl⟩
    exact ⟨hresult, rfl⟩

/-- A call for a tenant: its tables are seeded on some day, or reset. -/
inductive TenantCall
  | seed (today : Date) (tenant : String)
  | reset (tenant : String)

namespace Setup

variable (setup : Setup) (backend : Backend σ)

/-- The store behind a call, whether it succeeded or failed. -/
def call (store : σ) : TenantCall → σ
  | .seed today tenant => (seed { setup with today } backend tenant store).state
  | .reset tenant => (setup.reset backend tenant store).state

/-- The store behind calls one after another. -/
def calls (store : σ) (calls : List TenantCall) : σ :=
  calls.foldl (setup.call backend) store

/-- Every state of a store in memory, empty at first, that calls lead through. Inserts into one
table may be rejected. -/
def history (rejecting : Option String) (calls : List TenantCall) : List MemoryStore :=
  (setup.calls (MemoryStore.backend rejecting).recorded ⟨MemoryStore.empty, []⟩ calls).history

variable {setup backend}

/-! ## Recording changes nothing -/

/-- A recorded store follows the store. -/
theorem recorded_follows : Backend.Follows Recorded.store backend.recorded backend where
  insert _ _ _ := ⟨rfl, rfl⟩
  delete _ _ _ := ⟨rfl, rfl⟩

/-- A call does to a recorded store what it does to the store. -/
theorem store_recorded_call (recorded : Recorded σ) (call : TenantCall) :
    (setup.call backend.recorded recorded call).store = setup.call backend recorded.store call := by
  cases call with
  | seed today tenant => exact (follows_seed recorded_follows tenant recorded).2
  | reset tenant => exact (follows_reset recorded_follows tenant recorded).2

/-- **Recording changes nothing**: calls on a recorded store lead to the store that they lead to
without the record. -/
theorem store_recorded_calls (recorded : Recorded σ) (calls : List TenantCall) :
    (setup.calls backend.recorded recorded calls).store =
      setup.calls backend recorded.store calls := by
  induction calls generalizing recorded with
  | nil => rfl
  | cons call rest ih =>
    show (setup.calls backend.recorded (setup.call backend.recorded recorded call) rest).store =
      setup.calls backend (setup.call backend recorded.store call) rest
    rw [ih, store_recorded_call]

end Setup

end Seedbed
