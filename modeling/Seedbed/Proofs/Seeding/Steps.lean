import Seedbed.Proofs.Giving
import Seedbed.Proofs.TableOrder
import Seedbed.Proofs.Seeding.Definitions

/-!
# The steps of a seeding

A seeding loads the definitions of all tables and then seeds one table after another. How a table
is seeded, and how this fails, is said once (`SeedsTable`, `FailsTable`): its rows are made, and
unless there are none they are stored and take the place of the rows as they were made. What each
table that is seeded keeps holds along the whole seeding (`ends_seed_of_step`). A seeding whose
definitions are all there is the loop over them (`ends_seed_of_defines`); one that lacks a
definition fails and leaves the store alone (`ends_seed_of_undefined`).
-/

namespace Seedbed

namespace Setup

variable {σ : Type} (setup : Setup) (backend : Backend σ)

/-! ## One table -/

/-- How a table is seeded: its rows are made; unless there are none they are stored, and the pass
keeps them as they are stored. -/
inductive SeedsTable (definition : Compiled) (state : SeedState σ) :
    String × Nat → SeedState σ → Prop
  | empty {making : PassState}
    (hmade : (makeTable setup.registry definition).Gives state.making [] making) :
    SeedsTable definition state (definition.table, 0) { state with making }
  | stored {making : PassState} {rows stored : List Row} {store : σ}
    (hmade : (makeTable setup.registry definition).Gives state.making rows making)
    (hrows : rows ≠ [])
    (hinsert : backend.insert definition.table rows state.store = (.ok stored, store)) :
    SeedsTable definition state (definition.table, stored.length)
      { store
        making := { making with
          pass.cache := making.pass.cache.insert definition.table stored } }

/-- How seeding a table fails: its rows are not made, or the store refuses them. -/
inductive FailsTable (definition : Compiled) (state : SeedState σ) :
    RunFailure → SeedState σ → Prop
  | making {e : GenerationFailure} {making : PassState}
    (hfails : (makeTable setup.registry definition).Stops state.making e making) :
    FailsTable definition state (.generation e) { state with making }
  | storing {making : PassState} {rows : List Row} {e : StoreFailure} {store : σ}
    (hmade : (makeTable setup.registry definition).Gives state.making rows making)
    (hrows : rows ≠ [])
    (hinsert : backend.insert definition.table rows state.store = (.error e, store)) :
    FailsTable definition state (.store e) { store, making }

variable {setup backend}

/-- **Seeding a table** goes well or fails in one of these ways. -/
theorem seedTable_steps (tenant : String) (definition : Compiled) (state : SeedState σ) :
    (setup.seedTable backend tenant definition).Ends state
      (fun entry after => setup.SeedsTable backend definition state entry after)
      fun e after => setup.FailsTable backend definition state e after := by
  simp only [seedTable, Work.ends_bind, Work.ends_on, Work.ends_mapError]
  refine (Work.ends_as_it_does _ state.making).mono (fun rows making hmade => ?_)
    fun e making hfails => .making hfails
  split
  · next hempty =>
    rw [List.isEmpty_iff.1 hempty] at hmade
    simp only [Work.ends_bind, Work.ends_note, Work.ends_pure]
    exact .empty hmade
  · next hempty =>
    have hrows : rows ≠ [] := fun h => hempty (List.isEmpty_iff.2 h)
    simp only [storeRows, Work.ends_bind, Work.ends_on, Work.ends_mapError, Work.ends_update,
      Work.ends_note, Work.ends_pure, Work.ends_ofFallible]
    split
    · next stored hstored => exact .stored hmade hrows (Prod.ext hstored rfl)
    · next e hrefused => exact .storing hmade hrows (Prod.ext hrefused rfl)

/-- A table that is seeded leaves the pass with its tenant. -/
theorem SeedsTable.tenant_eq {table : String} {definition : Compiled} {state after : SeedState σ}
    {entry : String × Nat} (h : setup.SeedsTable backend definition state entry after)
    (hdefines : setup.Defines table definition) :
    after.making.pass.tenant = state.making.pass.tenant := by
  have hends := ends_makeTable setup.registry hdefines.fit state.making
  cases h with
  | empty hmade => rw [(hends.of_gives hmade).2]
  | stored hmade hrows hinsert => rw [(hends.of_gives hmade).2]

/-! ## All tables -/

/-- The state of a seeding when no table is done. -/
def begin (setup : Setup) (tenant : String) (store : σ) : SeedState σ :=
  { store, making := setup.start tenant }

/-- **A seeding whose definitions are there** seeds one table after another. -/
theorem ends_seed_of_defines {definitions : List Compiled}
    (h : List.Forall₂ setup.Defines setup.order.seed definitions) (backend : Backend σ)
    (tenant : String) (store : σ) :
    (setup.seed backend tenant).Ends store
      (fun report after => report.tenant = tenant ∧ ∃ state,
        (Work.forEach (setup.seedTable backend tenant) definitions).Gives
          (setup.begin tenant store) report.tables state ∧ after = state.store)
      fun e after => ∃ state, (Work.forEach (setup.seedTable backend tenant) definitions).Stops
        (setup.begin tenant store) e state ∧ after = state.store := by
  simp only [seed, noteSeeding, seedTables, Work.ends_bind, Work.ends_note, Work.ends_on,
    Work.ends_pure]
  refine (ends_definitions_of_defines h store).mono ?_ (fun _ _ => False.elim)
  rintro _ _ ⟨rfl, rfl⟩
  refine (Work.ends_as_it_does _ _).mono (fun tables state hgives => ?_) fun e state hstops => ?_
  · exact ⟨trivial, state, hgives, rfl⟩
  · exact ⟨state, hstops, rfl⟩

/-- What a seeding does to the store when the library has the definitions of all tables. -/
theorem seed_of_defines {definitions : List Compiled}
    (h : List.Forall₂ setup.Defines setup.order.seed definitions) (backend : Backend σ)
    (tenant : String) (store : σ) :
    (setup.seed backend tenant store).state =
      (Work.forEach (setup.seedTable backend tenant) definitions
        { store, making := setup.start tenant }).state.store := by
  refine Work.Ends.state_of (p := fun s => s = _)
    ((ends_seed_of_defines h backend tenant store).mono ?_ ?_)
  · rintro report _ ⟨-, state, hgives, rfl⟩
    exact congrArg SeedState.store hgives.2.symm
  · rintro e _ ⟨state, hstops, rfl⟩
    exact congrArg SeedState.store hstops.2.symm

/-- A seeding that lacks a definition fails and leaves the store alone. -/
theorem ends_seed_of_undefined {table : String} (htable : table ∈ setup.order.seed)
    (hnone : ∀ definition, ¬ setup.Defines table definition) (backend : Backend σ)
    (tenant : String) (store : σ) :
    (setup.seed backend tenant).Ends store (fun _ _ => False) fun _ after => after = store := by
  simp only [seed, noteSeeding, seedTables, Work.ends_bind, Work.ends_note]
  refine (ends_definitions setup store).mono (fun definitions s h => ?_) fun _ s h => h.1
  obtain ⟨definition, -, hdefines⟩ := exists_mem_of_defines h.2 htable
  exact absurd hdefines (hnone definition)

/-- A seeding that ends well has the definitions of all tables. -/
theorem exists_definitions_of_ok {tenant : String} {store : σ} {report : SeedReport}
    (h : (setup.seed backend tenant store).result = .ok report) :
    ∃ definitions, List.Forall₂ setup.Defines setup.order.seed definitions := by
  refine exists_forall₂ fun table htable => ?_
  by_contra hnone
  have hundefined : ∀ definition, ¬setup.Defines table definition :=
    fun definition hdefines => hnone ⟨definition, hdefines⟩
  exact (ends_seed_of_undefined htable hundefined backend tenant store).of_ok h

/-- **What holds along a seeding.** What holds when no table is done, and is kept by each table that
is seeded, holds when all tables are done. A seeding that fails cannot load its definitions and
leaves the store alone, or it fails at one of its tables when this holds of the tables before it. -/
theorem ends_seed_of_step (backend : Backend σ) (tenant : String) (store : σ)
    (invariant : List String → List (String × Nat) → SeedState σ → Prop)
    (hbegin : invariant [] [] (setup.begin tenant store))
    (hstep : ∀ done table rest definition entries state entry after,
      setup.order.seed = done ++ table :: rest → setup.Defines table definition →
        invariant done entries state → setup.SeedsTable backend definition state entry after →
          invariant (done ++ [table]) (entries ++ [entry]) after) :
    (setup.seed backend tenant).Ends store
      (fun report after => ∃ state,
        invariant setup.order.seed report.tables state ∧ after = state.store)
      fun e after => (∃ failure, e = .loading failure) ∧ after = store ∨
        ∃ done table rest definition entries state failed,
          setup.order.seed = done ++ table :: rest ∧ setup.Defines table definition ∧
            invariant done entries state ∧ setup.FailsTable backend definition state e failed ∧
              after = failed.store := by
  simp only [seed, noteSeeding, seedTables, Work.ends_bind, Work.ends_note, Work.ends_on,
    Work.ends_pure]
  refine (ends_definitions setup store).mono (fun definitions s hs => ?_)
    fun _ s hs => .inl ⟨hs.2.1, hs.1⟩
  obtain ⟨rfl, hdefinitions⟩ := hs
  have htables := tables_of_defines hdefinitions
  refine (Work.ends_forEach (fun (done : List Compiled) entries s =>
    invariant (done.map (·.table)) entries s) (fun done definition rest he entries state h => ?_)
    hbegin).mono (fun entries state h => ⟨state, htables ▸ h, rfl⟩) (fun _ _ h => .inr h)
  obtain ⟨table, -, hdefines⟩ :=
    exists_mem_of_forall₂ hdefinitions (he ▸ List.mem_append_right done (List.mem_cons_self ..))
  obtain rfl := hdefines.table_eq
  have hseed : setup.order.seed =
      done.map (·.table) ++ definition.table :: rest.map (·.table) := by
    rw [← htables, he, List.map_append, List.map_cons]
  refine (seedTable_steps tenant definition state).mono (fun entry after hstepped => ?_)
    fun e failed hfails =>
      ⟨_, _, _, definition, entries, state, failed, hseed, hdefines, h, hfails, rfl⟩
  rw [List.map_append]
  exact hstep _ _ _ _ _ _ _ _ hseed hdefines h hstepped

end Setup

end Seedbed
