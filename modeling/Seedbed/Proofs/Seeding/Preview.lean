import Seedbed.Proofs.Generation.Alike
import Seedbed.Proofs.Seeding.Following
import Seedbed.Proofs.Seeding.Steps

/-!
# A preview shows what a seeding makes

A preview of a table makes the tables before it and then the table, as a seeding does, but it keeps
the rows as they were made where the seeding keeps them as they are stored, with their ids. When no
definition has a relation to an id this makes no difference: the passes of both stay alike from
table to table (`Previews.step`). So behind a seeding that ends well each table of the order has a
preview, which shows the rows that the seeding handed to the store, and the store has grown by these
rows with their ids (`preview_of_seed`).
-/

namespace Seedbed

variable {σ : Type}

/-! ## What is handed to a store -/

/-- A store with the rows that were last handed to it for each table. -/
structure Handed (σ : Type) where
  store : σ
  last : Fields (List Row)

/-- The rows that were handed over for a table; none without an insert. -/
def Handed.rows (handed : Handed σ) (table : String) : List Row :=
  (Fields.get? table handed.last).getD []

/-- The backend on stores that remember what was handed to them. -/
def Backend.handed (backend : Backend σ) : Backend (Handed σ) where
  name := backend.name
  insert table rows handed :=
    let (result, store) := backend.insert table rows handed.store
    (result, { store, last := Fields.put table rows handed.last })
  delete table tenant handed :=
    let (result, store) := backend.delete table tenant handed.store
    (result, { handed with store })
  tenants table handed := backend.tenants table handed.store

/-- Remembering what was handed over changes nothing. -/
theorem Backend.handed_follows (backend : Backend σ) :
    Backend.Follows Handed.store backend.handed backend where
  insert _ _ _ := ⟨rfl, rfl⟩
  delete _ _ _ := ⟨rfl, rfl⟩

/-- An insert does to the store what it does without remembering, and its rows are remembered. -/
theorem Backend.handed_insert_iff {backend : Backend σ} {table : String} {rows : List Row}
    {before after : Handed σ} {result : Except StoreFailure (List Row)} :
    backend.handed.insert table rows before = (result, after) ↔
      backend.insert table rows before.store = (result, after.store) ∧
        after.last = Fields.put table rows before.last := by
  obtain ⟨store, last⟩ := after
  simp only [Backend.handed, Prod.ext_iff, Handed.mk.injEq, and_assoc, eq_comm (a := last)]

namespace Handed

variable {before after : Handed MemoryStore} {table : String}

/-- A store took the rows of a table: it has grown by them, with their ids, and nothing happened to
the other tables. -/
structure Takes (table : String) (before after : Handed MemoryStore) : Prop where
  stored : ∃ stored, after.store.rows table = before.store.rows table ++ stored ∧
    List.Forall₂ IdFilled (after.rows table) stored
  others : ∀ other, table ≠ other →
    after.rows other = before.rows other ∧ after.store.rows other = before.store.rows other

/-- A table without rows is taken without an insert. -/
theorem takes_nothing (h : before.rows table = []) : Takes table before before where
  stored := ⟨[], (List.append_nil _).symm, by rw [h]; exact .nil⟩
  others _ _ := ⟨rfl, rfl⟩

/-- An insert that goes well hands over its rows, and the store takes them. -/
theorem takes_of_insert {rejecting : Option String} {rows stored : List Row}
    (h : (MemoryStore.backend rejecting).handed.insert table rows before = (.ok stored, after)) :
    after.rows table = rows ∧ List.Forall₂ IdFilled rows stored ∧ Takes table before after := by
  obtain ⟨hinsert, hlast⟩ := Backend.handed_insert_iff.1 h
  obtain ⟨rfl, hstore⟩ := MemoryStore.backend_insert_eq hinsert
  have hrows : after.rows table = rows := by
    rw [Handed.rows, hlast, Fields.get?_put_self]
    rfl
  have hfilled : List.Forall₂ IdFilled rows (before.store.insert table rows).1 :=
    MemoryStore.insert_filled
  have hself : after.store.rows table =
      before.store.rows table ++ (before.store.insert table rows).1 := by
    rw [← hstore]
    exact MemoryStore.rows_insert_self
  refine ⟨hrows, hfilled, ⟨_, hself, by rwa [hrows]⟩, fun other hne => ⟨?_, ?_⟩⟩
  · rw [Handed.rows, hlast, Fields.get?_put_of_ne hne]
    rfl
  · rw [← hstore]
    exact MemoryStore.rows_insert_of_ne hne

end Handed

namespace Setup

variable {setup : Setup} {rejecting : Option String} {tenant table : String}
  {definition : Compiled}

/-- The rows that a seeding makes for a table: those that it hands to the store, since it hands over
all rows that it makes but no empty list. -/
def generated (setup : Setup) (backend : Backend σ) (tenant : String) (store : σ) (table : String) :
    List Row :=
  (setup.seed backend.handed tenant ⟨store, []⟩).state.rows table

/-! ## One table -/

/-- **A table that is seeded** is made alike by a preview, whose rows are handed to the store, and
the passes of both stay alike. -/
theorem SeedsTable.previewed {state after : SeedState (Handed MemoryStore)} {entry : String × Nat}
    (h : setup.SeedsTable (MemoryStore.backend rejecting).handed definition state entry after)
    (hdefinition : definition.relatesTo idColumn = false)
    (hnew : state.store.rows definition.table = []) {preview : PassState}
    (halike : preview.Alike state.making) :
    ∃ preview', (makeTable setup.registry definition).Gives preview
        (after.store.rows definition.table) preview' ∧
      preview'.Alike after.making ∧ Handed.Takes definition.table state.store after.store := by
  cases h with
  | empty hmade =>
    obtain ⟨preview', hpreview, halike'⟩ := makeTable_alike halike hdefinition hmade
    have hnothing := Handed.takes_nothing hnew
    rw [← hnew] at hpreview
    exact ⟨preview', hpreview, halike', hnothing⟩
  | stored hmade hrows hinsert =>
    obtain ⟨preview', hpreview, halike'⟩ := makeTable_alike halike hdefinition hmade
    obtain ⟨rfl, hfilled, htakes⟩ := Handed.takes_of_insert hinsert
    refine ⟨preview', hpreview, ?_, htakes⟩
    -- The preview keeps the rows as they were made, the seeding as they were stored.
    have hstoredAs := hfilled.imp fun _ _ => IdFilled.storedAs
    have hkept := rows?_of_gives_makeTable hpreview
    exact ⟨halike'.tenant_eq, halike'.today_eq, halike'.source_eq,
      halike'.cache.replace hkept hstoredAs⟩

/-! ## All tables -/

/-- A preview of a table shows the rows that were handed over for it, and by these rows, with their
ids, the table has grown. -/
structure Shows (setup : Setup) (tenant : String) (store : MemoryStore)
    (handed : Handed MemoryStore) (table : String) : Prop where
  preview : ∃ preview, (setup.previewWith setup.loadAndMake table none).Gives (setup.start tenant)
    (handed.rows table) preview
  grown : ∃ stored, handed.store.rows table = store.rows table ++ stored ∧
    List.Forall₂ IdFilled (handed.rows table) stored

/-- What holds of a seeding when some tables are done: a preview has made the same tables and is
alike, the tables that are done are shown, and nothing happened to the others. -/
structure Previews (setup : Setup) (tenant : String) (store : MemoryStore) (done : List String)
    (state : SeedState (Handed MemoryStore)) : Prop where
  reached : ∃ made preview, (Work.forEach (setup.loadAndMake none) done).Gives
    (setup.start tenant) made preview ∧ preview.Alike state.making
  shown : ∀ table ∈ done, setup.Shows tenant store state.store table
  untouched : ∀ table, table ∉ done →
    state.store.rows table = [] ∧ state.store.store.rows table = store.rows table

/-- A definition of the library is loaded and its table is made. -/
theorem gives_loadAndMake (hdefines : setup.Defines table definition) {preview after : PassState}
    {rows : List Row} (h : (makeTable setup.registry definition).Gives preview rows after) :
    (setup.loadAndMake none table).Gives preview rows after := by
  have hload : (setup.library.load setup.known table).Gives preview definition preview :=
    ⟨hdefines, rfl⟩
  rw [loadAndMake, Work.gives_bind_iff]
  exact ⟨definition, preview, Work.gives_mapError_iff.2 hload, Work.gives_mapError_iff.2 h⟩

section
variable {store : MemoryStore} {done rest : List String}
  {state after : SeedState (Handed MemoryStore)} {entry : String × Nat}

/-- Before the first table nothing was previewed or stored. -/
theorem Previews.begin (setup : Setup) (tenant : String) (store : MemoryStore) :
    setup.Previews tenant store [] (setup.begin tenant ⟨store, []⟩) where
  reached := ⟨[], setup.start tenant, by simp, .refl _⟩
  shown _ h := absurd h List.not_mem_nil
  untouched _ _ := ⟨rfl, rfl⟩

/-- **The next table** that is seeded has its preview, and the tables that are done keep theirs. -/
theorem Previews.step (h : setup.Previews tenant store done state)
    (hseed : setup.order.seed = done ++ table :: rest) (hdefines : setup.Defines table definition)
    (hdefinition : definition.relatesTo idColumn = false)
    (hstep : setup.SeedsTable (MemoryStore.backend rejecting).handed definition state entry after) :
    setup.Previews tenant store (done ++ [table]) after := by
  obtain rfl := hdefines.table_eq
  have hnew := TableOrder.not_mem_before hseed
  obtain ⟨made, preview, hmade, halike⟩ := h.reached
  obtain ⟨hempty, hbefore⟩ := h.untouched definition.table hnew
  obtain ⟨preview', hgives, halike', htakes⟩ := hstep.previewed hdefinition hempty halike
  have hload := gives_loadAndMake hdefines hgives
  obtain ⟨stored, hstored, hfilled⟩ := htakes.stored
  refine ⟨⟨made ++ [after.store.rows definition.table], preview', ?_, halike'⟩,
    fun other hother => ?_, fun other hother => ?_⟩
  · refine Work.gives_forEach_append_iff.2 ⟨_, _, _, rfl, hmade, ?_⟩
    exact Work.gives_forEach_cons_iff.2 ⟨_, [], _, rfl, hload, by simp⟩
  · rcases List.mem_append.1 hother with hother | hother
    · have hne : definition.table ≠ other := by
        rintro rfl
        exact hnew hother
      obtain ⟨hrows, hstore⟩ := htakes.others other hne
      obtain ⟨hshown, hgrown⟩ := h.shown other hother
      rw [← hrows] at hshown hgrown
      rw [← hstore] at hgrown
      exact ⟨hshown, hgrown⟩
    · obtain rfl := List.mem_singleton.1 hother
      refine ⟨⟨preview', ?_⟩, stored, by rw [hstored, hbefore], hfilled⟩
      rw [previewWith, TableOrder.predecessors?_of_split hseed]
      exact Work.gives_bind_iff.2 ⟨made, preview, hmade, hload⟩
  · rw [List.mem_append, List.mem_singleton, not_or] at hother
    obtain ⟨hrows, hstore⟩ := htakes.others other (Ne.symm hother.2)
    rw [hrows, hstore]
    exact h.untouched other hother.1

end

/-- **A preview shows what a seeding makes.** When no definition has a relation to an id, then
behind a seeding that ends well each table of the order has a preview, from any state, with exactly
the rows that the seeding made for it; and the seeding appended these rows to the table, each as it
is if it has an id, and else with a number as its id. -/
theorem preview_of_seed (setup : Setup) (rejecting : Option String) (tenant : String)
    (store : MemoryStore) (hrelations : ∀ table ∈ setup.order.seed, ∀ definition,
      setup.Defines table definition → definition.relatesTo idColumn = false)
    {report : SeedReport}
    (hseed : (setup.seed (MemoryStore.backend rejecting) tenant store).result = .ok report) :
    ∀ table ∈ setup.order.seed,
      (∀ (τ : Type) (state : τ), (setup.preview table tenant none state).result =
        .ok (setup.generated (MemoryStore.backend rejecting) tenant store table)) ∧
      ∃ stored, (setup.seed (MemoryStore.backend rejecting) tenant store).state.rows table =
          store.rows table ++ stored ∧
        List.Forall₂ IdFilled (setup.generated (MemoryStore.backend rejecting) tenant store table)
          stored := by
  intro table htable
  obtain ⟨hresult, hstate⟩ :=
    follows_seed (Backend.handed_follows (MemoryStore.backend rejecting)) tenant ⟨store, []⟩
  have hends := ends_seed_of_step (MemoryStore.backend rejecting).handed tenant ⟨store, []⟩
    (fun done _ state => setup.Previews tenant store done state) (Previews.begin setup tenant store)
    fun done table rest definition entries state entry after hseed hdefines h hstep =>
      h.step hseed hdefines (hrelations table (by simp [hseed]) definition hdefines) hstep
  obtain ⟨state, hpreviews, hafter⟩ := hends.of_ok (hresult.trans hseed)
  obtain ⟨⟨preview, hpreview⟩, hgrown⟩ := hpreviews.shown table htable
  rw [generated, hafter]
  refine ⟨fun _ _ => hpreview.1, ?_⟩
  rw [← hstate, hafter]
  exact hgrown

/-- A library with two markets with codes, and three accounts that name the code of a market. -/
def codedSetup : Setup :=
  { accountSetup with
    library := {
      directory := "defs"
      read := fun file =>
        if file = "defs/markets.json" then
          .ok ("\x7b\"table\":\"markets\",\"count\":2," ++
            "\"columns\":\x7b\"code\":\"string.numeric:4\"\x7d\x7d")
        else
          .ok ("\x7b\"table\":\"accounts\",\"count\":3," ++
            "\"columns\":\x7b\"id\":\"relation.markets.code\"," ++
            "\"label\":\"at $\x7brelation.markets.code\x7d\"\x7d\x7d") } }

/-- The previews of `codedSetup` show the rows that are seeded into a store with a market. -/
theorem preview_of_seed_coded :
    let backend := MemoryStore.backend none
    let store := (MemoryStore.empty.insert "markets" [[("code", .string "1000")]]).2
    ∃ report, (codedSetup.seed backend "acme" store).result = .ok report ∧
      ∀ table ∈ codedSetup.order.seed,
        (codedSetup.preview table "acme" none ()).result =
          .ok (codedSetup.generated backend "acme" store table) ∧
        ∃ stored, (codedSetup.seed backend "acme" store).state.rows table =
            store.rows table ++ stored ∧
          List.Forall₂ IdFilled (codedSetup.generated backend "acme" store table) stored := by
  intro backend store
  have hchecked : codedSetup.order.seed.all (fun table =>
      ((codedSetup.library.source table).compile codedSetup.known).toOption.all fun definition =>
        !definition.relatesTo idColumn) = true := by
    decide +kernel
  have hrelations : ∀ table ∈ codedSetup.order.seed, ∀ definition,
      codedSetup.Defines table definition → definition.relatesTo idColumn = false := by
    intro table htable definition hdefines
    have hdefinition := hdefines.of_all hchecked htable
    simpa using hdefinition
  have hrun : (codedSetup.seed backend "acme" store).result.isOk = true := by
    decide +kernel
  cases hseed : (codedSetup.seed backend "acme" store).result with
  | error e =>
    rw [hseed] at hrun
    cases hrun
  | ok report =>
    refine ⟨report, rfl, fun table htable => ?_⟩
    obtain ⟨hpreview, hgrown⟩ :=
      preview_of_seed codedSetup none "acme" store hrelations hseed table htable
    exact ⟨hpreview Unit (), hgrown⟩

end Setup

end Seedbed
