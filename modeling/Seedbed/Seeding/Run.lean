import Seedbed.Seeding.Basic
import Seedbed.Store.Memory

/-!
# Seeding, resetting and previewing

Seeding loads all definitions before it changes the store. Then each table is made and stored,
parents first; the rows as they are stored take the place of the rows as they were made, so
relations refer to real ids. A run that fails leaves the tables it has stored. Resetting deletes
the rows of a tenant, children first. A preview makes the rows of a table and of the tables before
it, without a store.
-/

namespace Seedbed

variable {σ : Type}

/-- The state of a seeding: the store, and the pass with its random source. -/
structure SeedState (σ : Type) where
  store : σ
  making : PassState

namespace Setup

/-- The generator paths that definitions may use. -/
def known (setup : Setup) : Catalog :=
  setup.registry.knows

/-- The pass of a tenant at its start, with its random source. -/
def start (setup : Setup) (tenant : String) : PassState :=
  let pass := Pass.start tenant setup.today
  { pass, source := pass.source }

/-- Stores the rows of a table and keeps them as they are stored. -/
def storeRows (setup : Setup) (backend : Backend σ) (table tenant : String) (rows : List Row) :
    Work RunFailure (SeedState σ) Nat := do
  let stored ← Work.on SeedState.store (fun store state => { state with store })
    (Work.mapError .store (Work.ofFallible (backend.insert table rows)))
  Work.update fun state =>
    { state with making.pass.cache := state.making.pass.cache.insert table stored }
  Work.note (.rowsInserted setup.run table tenant stored.length)
  return stored.length

/-- Makes and stores the rows of a table; a table without rows is not stored. -/
def seedTable (setup : Setup) (backend : Backend σ) (tenant : String) (definition : Compiled) :
    Work RunFailure (SeedState σ) (String × Nat) := do
  let rows ← Work.on SeedState.making (fun making state => { state with making })
    (Work.mapError .generation (makeTable setup.registry definition))
  if rows.isEmpty then
    Work.note (.nothingToInsert definition.table tenant)
    return (definition.table, 0)
  else
    return (definition.table, ← setup.storeRows backend definition.table tenant rows)

/-- The definitions of all tables of the order, in seed order. -/
def definitions (setup : Setup) : Work RunFailure σ (List Compiled) :=
  Work.mapError .loading (setup.library.loadAll setup.known setup.order.seed)

/-- Notes that a seeding starts. -/
def noteSeeding (setup : Setup) (backend : Backend σ) (tenant : String) :
    Work RunFailure σ Unit :=
  Work.note (.seedStarted setup.run tenant backend.name setup.order.seed.length)

/-- Makes and stores the rows of all tables for a tenant, once the start is noted. -/
def seedTables (setup : Setup) (backend : Backend σ) (tenant : String) :
    Work RunFailure σ SeedReport := do
  let definitions ← setup.definitions
  let tables ← Work.on (fun store => { store, making := setup.start tenant })
    (fun state _ => state.store)
    (Work.forEach (setup.seedTable backend tenant) definitions)
  let report : SeedReport := { tenant, tables }
  Work.note (.seedCompleted setup.run tenant report.total)
  return report

/-- Makes and stores the rows of all tables for a tenant. -/
def seed (setup : Setup) (backend : Backend σ) (tenant : String) :
    Work RunFailure σ SeedReport := do
  setup.noteSeeding backend tenant
  setup.seedTables backend tenant

/-- Deletes the rows of a tenant from a table. -/
def resetTable (backend : Backend σ) (tenant table : String) :
    Work RunFailure σ (String × Nat) := do
  let count ← Work.mapError .store (Work.ofFallible (backend.delete table tenant))
  Work.note (.rowsDeleted table tenant count)
  return (table, count)

/-- Deletes the rows of a tenant from all tables. -/
def reset (setup : Setup) (backend : Backend σ) (tenant : String) :
    Work RunFailure σ ResetReport := do
  let tables ← Work.forEach (resetTable backend tenant) setup.order.reset
  return { tenant, tables }

/-- Resets, then seeds. -/
def reseed (setup : Setup) (backend : Backend σ) (tenant : String) :
    Work RunFailure σ (ResetReport × SeedReport) := do
  let reset ← setup.reset backend tenant
  let seed ← setup.seed backend tenant
  return (reset, seed)

/-- Loads the definition of a table and makes its rows, with another count if one is given. -/
def loadAndMake (setup : Setup) (count : Option Nat) (table : String) :
    Work RunFailure PassState (List Row) := do
  let definition ← Work.mapError .loading (setup.library.load setup.known table)
  let definition := match count with
    | some count => { definition with count := .fixed count }
    | none => definition
  Work.mapError .generation (makeTable setup.registry definition)

/-- The rows of a table, made behind those of the tables before it. `make` makes one table, with
another count if one is given. -/
def previewWith (setup : Setup) (make : Option Nat → String → Work RunFailure σ (List Row))
    (table : String) (count : Option Nat) : Work RunFailure σ (List Row) :=
  match setup.order.predecessors? table with
  | none => Work.fail (.unknownTable table)
  | some parents => do
    let _ ← Work.forEach (make none) parents
    make count table

/-- The rows of a table for a tenant, made behind the tables before it. -/
def preview (setup : Setup) (table tenant : String) (count : Option Nat) :
    Work RunFailure σ (List Row) :=
  Work.on (fun _ => setup.start tenant) (fun _ state => state)
    (setup.previewWith setup.loadAndMake table count)

end Setup

/-- The tenants of one table, added to a listing. -/
def listTable (backend : Backend σ) (store : σ) (listing : TenantListing) (table : String) :
    TenantListing :=
  match backend.tenants table store with
  | .ok tenants => { listing with perTable := Fields.put table tenants listing.perTable }
  | .error failure =>
    { listing with failures := listing.failures ++ [(table, failure.text)] }

/-- The tenants of tables. A table that cannot be asked is reported and skipped. -/
def listTenants (backend : Backend σ) (tables : List String) (store : σ) : TenantListing :=
  tables.foldl (listTable backend store) { perTable := [], failures := [] }

/-- All tenants of a listing, sorted, each once. -/
def TenantListing.all (listing : TenantListing) : List String :=
  MemoryStore.sortedOnce (listing.perTable.flatMap Prod.snd)

/-- The tables of a listing, sorted, with their tenants. -/
def TenantListing.sorted (listing : TenantListing) : List (String × List String) :=
  listing.perTable.mergeSort fun a b => decide (a.1 ≤ b.1)

end Seedbed
