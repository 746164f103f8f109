import Seedbed.Proofs.Seeding.Following
import Seedbed.Proofs.Seeding.Integrity
import Seedbed.Proofs.Seeding.Resetting
import Seedbed.Proofs.Seeding.Truncation
import Seedbed.Proofs.Store.Commuting

/-!
# Resetting one tenant beside seeding another

Rows of one tenant can be reset before or after rows of another tenant are inserted
(`reset_insert`), and the insert gives back the same rows (`insert_reset_fst`). So a seeding on a
store in which another tenant was reset follows the seeding on the store as it was, insert by
insert. What it leaves is what the reset leaves behind that seeding, and both tell the same in
either order, also when the seeding fails (`reset_seed_comm`).
-/

namespace Seedbed.Setup

variable {setup : Setup} {rejecting : Option String} {tenant other table : String}
  {definition : Compiled} {rows : List Row}

/-! ## Resets beside one insert -/

/-- **A reset** answers the same before and after rows of other tenants are inserted, and leaves
the same store. -/
theorem reset_insert (hrows : ∀ row ∈ rows, ¬OwnedBy other row) (store : MemoryStore) :
    (setup.reset (MemoryStore.backend rejecting) other store).result =
        (setup.reset (MemoryStore.backend rejecting) other (store.insert table rows).2).result ∧
      ((setup.reset (MemoryStore.backend rejecting) other store).state.insert table rows).2 =
        (setup.reset (MemoryStore.backend rejecting) other (store.insert table rows).2).state := by
  have hfollows : Work.Follows (fun s : MemoryStore => (s.insert table rows).2)
      (setup.reset (MemoryStore.backend rejecting) other)
      (setup.reset (MemoryStore.backend rejecting) other) := by
    refine follows_reset_of_delete fun name s => ?_
    obtain ⟨hcount, hstore⟩ := s.delete_insert table name hrows
    exact ⟨congrArg Except.ok hcount.symm, hstore.symm⟩
  exact hfollows store

/-- An insert gives back the same rows behind a reset. -/
theorem insert_reset_fst (store : MemoryStore) :
    ((setup.reset (MemoryStore.backend rejecting) other store).state.insert table rows).1 =
      (store.insert table rows).1 := by
  have hreset : (setup.reset (MemoryStore.backend rejecting) other).Ends store
      (fun _ s => (s.insert table rows).1 = (store.insert table rows).1) fun _ _ => False := by
    refine (ends_reset_of_step (fun _ _ s => (s.insert table rows).1 = (store.insert table rows).1)
      rfl fun _ _ _ _ _ _ hs => ?_).mono (fun _ _ hs => hs.2) (fun _ _ => id)
    exact MemoryStore.insert_delete_fst.trans hs
  exact (hreset.mono (fun _ _ => id) (fun _ _ => False.elim)).state_of

/-- **An insert follows behind a reset** of another tenant, also when it is rejected. -/
theorem followsFrom_insert (hrows : ∀ row ∈ rows, ¬OwnedBy other row)
    (store : MemoryStore) :
    Work.FollowsFrom (fun s => (setup.reset (MemoryStore.backend rejecting) other s).state)
      (Work.ofFallible ((MemoryStore.backend rejecting).insert table rows))
      (Work.ofFallible ((MemoryStore.backend rejecting).insert table rows)) store := by
  by_cases hreject : rejecting = some table
  · simp only [Work.FollowsFrom, Work.ofFallible, MemoryStore.backend, if_pos hreject, and_self]
  · simp only [Work.FollowsFrom, Work.ofFallible, MemoryStore.backend, if_neg hreject]
    exact ⟨congrArg Except.ok (insert_reset_fst store).symm, (reset_insert hrows store).2.symm⟩

/-! ## Resets beside a seeding -/

section
variable {state after : SeedState MemoryStore} {making : PassState} {entry : String × Nat}

/-- The rows that are made are not those of another tenant than that of the pass. -/
theorem not_ownedBy_of_gives (hdefines : setup.Defines table definition)
    (htenant : (tenantColumn, .scalar .tenantId) ∈ definition.columns)
    (hne : other ≠ state.making.pass.tenant)
    (hmade : (makeTable setup.registry definition).Gives state.making rows making) :
    ∀ row ∈ rows, ¬OwnedBy other row := by
  intro row hrow hother
  have hown := ownedBy_of_gives hdefines htenant hmade row hrow
  rw [OwnedBy, hother] at hown
  exact hne (Json.string.inj (Option.some.inj hown))

/-- Behind a table that is seeded, a reset of another tenant tells what it tells before. -/
theorem SeedsTable.reset_result (hdefines : setup.Defines table definition)
    (htenant : (tenantColumn, .scalar .tenantId) ∈ definition.columns)
    (hne : other ≠ state.making.pass.tenant)
    (hstep : setup.SeedsTable (MemoryStore.backend rejecting) definition state entry after) :
    (setup.reset (MemoryStore.backend rejecting) other after.store).result =
      (setup.reset (MemoryStore.backend rejecting) other state.store).result := by
  cases hstep with
  | empty hmade => rfl
  | stored hmade hrows hinsert =>
    obtain ⟨-, rfl⟩ := MemoryStore.backend_insert_eq hinsert
    have hothers := not_ownedBy_of_gives hdefines htenant hne hmade
    exact (reset_insert hothers state.store).1.symm

end

/-- **A seeding follows behind a reset** of another tenant. -/
theorem followsFrom_seed_reset (hdeclares : setup.DeclaresTenants) (rejecting : Option String)
    (hne : other ≠ tenant) (store : MemoryStore) :
    Work.FollowsFrom (fun s => (setup.reset (MemoryStore.backend rejecting) other s).state)
      (setup.seed (MemoryStore.backend rejecting) tenant)
      (setup.seed (MemoryStore.backend rejecting) tenant) store := by
  refine followsFrom_seed (fun state => state.making.pass.tenant = tenant) rfl
    fun table htable definition hdefines state hstate => ⟨?_, ?_⟩
  · intro rows making hmade
    have hdeclared := hdeclares table htable definition hdefines
    exact followsFrom_insert (not_ownedBy_of_gives hdefines hdeclared (hstate ▸ hne) hmade) _
  · intro entry after hstep
    exact (hstep.tenant_eq hdefines).trans hstate

/-- **Behind a seeding, a reset of another tenant** tells what it tells before, however the seeding
ends. -/
theorem reset_result_seed (hdeclares : setup.DeclaresTenants) (hne : other ≠ tenant)
    (store : MemoryStore) :
    (setup.reset (MemoryStore.backend rejecting) other
        (setup.seed (MemoryStore.backend rejecting) tenant store).state).result =
      (setup.reset (MemoryStore.backend rejecting) other store).result := by
  refine Work.Ends.state_of (p := fun s =>
    (setup.reset (MemoryStore.backend rejecting) other s).result =
      (setup.reset (MemoryStore.backend rejecting) other store).result)
    ((ends_seed_of_step _ tenant store (fun _ _ state => state.making.pass.tenant = tenant ∧
      (setup.reset (MemoryStore.backend rejecting) other state.store).result =
        (setup.reset (MemoryStore.backend rejecting) other store).result) ⟨rfl, rfl⟩ ?_).mono ?_ ?_)
  · rintro done table rest definition _ state _ after hseed hdefines ⟨htenant, hreset⟩ hstep
    have hdeclared := hdeclares table (by simp [hseed]) definition hdefines
    exact ⟨(hstep.tenant_eq hdefines).trans htenant,
      (hstep.reset_result hdefines hdeclared (htenant ▸ hne)).trans hreset⟩
  · rintro _ _ ⟨state, ⟨-, hreset⟩, rfl⟩
    exact hreset
  · rintro _ _ (⟨-, rfl⟩ | ⟨_, _, _, _, _, state, failed, -, -, ⟨-, hreset⟩, hfails, rfl⟩)
    · rfl
    · rwa [hfails.store_eq]

/-! ## Resets and seedings -/

/-- **Resetting one tenant and seeding another can be done in either order.** The reset ends well
and reports the same, the seeding reports the same or fails with the same error, and the store is
the same in the end, with its rows in the same order and the same ids given out. -/
theorem reset_seed_comm (hdeclares : setup.DeclaresTenants) (rejecting : Option String)
    (hne : other ≠ tenant) (store : MemoryStore) :
    let backend := MemoryStore.backend rejecting
    let reset := setup.reset backend other store
    let seeded := setup.seed backend tenant store
    (∃ report, reset.result = .ok report) ∧
      (setup.reset backend other seeded.state).result = reset.result ∧
      (setup.seed backend tenant reset.state).result = seeded.result ∧
      (setup.seed backend tenant reset.state).state =
        (setup.reset backend other seeded.state).state := by
  intro backend reset seeded
  obtain ⟨hresult, hstate⟩ := followsFrom_seed_reset hdeclares rejecting hne store
  obtain ⟨report, hreport, -⟩ := (ends_reset_rows setup rejecting other store).succeeds
  exact ⟨⟨report, hreport⟩, reset_result_seed hdeclares hne store, hresult.symm, hstate.symm⟩

/-- A store with a market of a tenant. -/
def globexStore : MemoryStore :=
  (MemoryStore.empty.insert "markets" [[(tenantColumn, .string "globex")]]).2

/-- A seeding that stops at the accounts commutes with a reset of the tenant of the market that was
there. -/
theorem reset_seed_comm_markets :
    let backend := MemoryStore.backend (some "accounts")
    let reset := accountSetup.reset backend "globex" globexStore
    let seeded := accountSetup.seed backend "acme" globexStore
    accountSetup.DeclaresTenants ∧ "globex" ≠ "acme" ∧ seeded.result.toBool = false ∧
      (seeded.state.rows "markets").length = 3 ∧
      (accountSetup.reset backend "globex" seeded.state).result = reset.result ∧
      (accountSetup.seed backend "acme" reset.state).result = seeded.result ∧
      (accountSetup.seed backend "acme" reset.state).state =
        (accountSetup.reset backend "globex" seeded.state).state := by
  intro backend reset seeded
  have hrun : (!seeded.result.toBool && (seeded.state.rows "markets").length == 3) = true := by
    decide +kernel
  obtain ⟨hfails, hrows⟩ := Bool.and_eq_true_iff.1 hrun
  obtain ⟨-, hcomm⟩ := reset_seed_comm accountSetup_declaresTenants (some "accounts")
    (by decide : "globex" ≠ "acme") globexStore
  exact ⟨accountSetup_declaresTenants, by decide, by simpa using hfails, by simpa using hrows,
    hcomm⟩

end Seedbed.Setup
