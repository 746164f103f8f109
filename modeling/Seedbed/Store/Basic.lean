import Seedbed.Json.Basic

/-!
# Stores

A store keeps the rows of tables. What the program asks of one is a `Backend` over a state of its
own: rows are inserted and come back as they are stored, the rows of a tenant are deleted, and the
tenants of a table are listed.
-/

namespace Seedbed

/-- Why a store refused to do something to a table. -/
structure StoreFailure where
  table : String
  message : String
  deriving DecidableEq, Repr

def StoreFailure.text (failure : StoreFailure) : String :=
  "table '" ++ failure.table ++ "': " ++ failure.message

/-- A kind of store with states `σ`. -/
structure Backend (σ : Type) where
  name : String
  /-- Inserts rows into a table and gives them as they are stored. -/
  insert : String → List Row → σ → Except StoreFailure (List Row) × σ
  /-- Deletes the rows of a tenant from a table and gives their number. -/
  delete : String → String → σ → Except StoreFailure Nat × σ
  /-- The tenants of a table, sorted, each once. -/
  tenants : String → σ → Except StoreFailure (List String)

/-- The column that identifies a row of a table. -/
def idColumn : String := "id"

/-- The column that names the tenant of a row. -/
def tenantColumn : String := "tenant_id"

/-- The tenant of a row, if it is a text. -/
def tenantOf? (row : Row) : Option String :=
  (Fields.get? tenantColumn row).bind Json.text?

/-- A row is of a tenant when the tenant column holds its identifier as a string. -/
theorem tenantOf?_eq_some_iff {row : Row} {tenant : String} :
    tenantOf? row = some tenant ↔ Fields.get? tenantColumn row = some (.string tenant) :=
  Json.bind_text?_eq_some_iff

/-- Whether a row brings its own id. -/
def hasId (row : Row) : Bool :=
  match Fields.get? idColumn row with
  | some id => !id.isNull
  | none => false

end Seedbed
