import Seedbed.Definition.File
import Seedbed.Generation.Table
import Seedbed.Store.Basic
import Seedbed.TableOrder

/-!
# What a run needs and what it tells

A run seeds, resets or previews the tables of an order for one tenant. It needs the generators, the
order, the library of definitions and the date of the day, and fails for one of the reasons of its
parts.
-/

namespace Seedbed

/-- What a run needs besides a store and a tenant. -/
structure Setup where
  registry : Registry
  order : TableOrder
  library : Library
  today : Date
  /-- The id under which the journal tells of a seeding. -/
  run : String := ""

/-- Why a run stopped. -/
inductive RunFailure
  | loading (failure : LoadFailure)
  | generation (failure : GenerationFailure)
  | store (failure : StoreFailure)
  | unknownTable (table : String)
  | connection (target cause : String)

def RunFailure.message : RunFailure → String
  | loading failure => failure.message
  | generation failure => failure.message
  | store failure => failure.text
  | unknownTable table => "table '" ++ table ++ "' is not part of the configured seed order"
  | connection target cause => "could not connect to " ++ target ++ ": " ++ cause

/-- The tables that a run seeded, in order, with the number of rows it stored in each. -/
structure SeedReport where
  tenant : String
  tables : List (String × Nat)
  deriving DecidableEq, Repr

/-- The number of rows that a run stored. -/
def SeedReport.total (report : SeedReport) : Nat :=
  (report.tables.map Prod.snd).foldr (· + ·) 0

/-- The tables that a run reset, in order, with the number of rows it deleted from each. -/
structure ResetReport where
  tenant : String
  tables : List (String × Nat)
  deriving DecidableEq, Repr

/-- The tenants of each table, and the tables whose tenants could not be listed. -/
structure TenantListing where
  perTable : List (String × List String)
  failures : List (String × String)
  deriving DecidableEq, Repr

end Seedbed
