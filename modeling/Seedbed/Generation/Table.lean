import Seedbed.Generation.Evaluation
import Seedbed.Definition.Compiler

/-!
# Making a table

The number of rows is drawn first, then the rows are made one after another from the same random
source. Only when all of them are made are they kept in the cache of the pass: a table that fails
changes nothing but the source.
-/

namespace Seedbed

/-- A pass over the tables of one tenant. -/
structure Pass where
  tenant : String
  today : Date
  cache : Cache

namespace Pass

/-- The pass of a tenant at its start. -/
def start (tenant : String) (today : Date) : Pass :=
  { tenant, today, cache := Cache.empty }

/-- The seed of the tenant. -/
def seed (pass : Pass) : Nat :=
  Random.tenantSeed pass.tenant

/-- The random source that the pass starts from. -/
def source (pass : Pass) : Random.Source :=
  Random.Source.ofSeed (UInt64.ofNat pass.seed)

/-- What the rules of a table see in the pass. -/
def scene (pass : Pass) (registry : Registry) (table : String) : Scene :=
  { registry, tenant := pass.tenant, today := pass.today, cache := pass.cache, table }

end Pass

/-- The rows of a table in a scene. -/
def Scene.rows (scene : Scene) (definition : Compiled) : Making (List Row) := do
  let n ← Work.ofState
    (Random.Draw.count definition.count.bounds.1 definition.count.bounds.2)
  Work.note (.generatingTable definition.table n)
  let rows ← Work.repeated n (scene.columns [] definition.columns)
  Work.note (.tableGenerated definition.table scene.tenant rows.length)
  return rows

/-- A pass and its random source. -/
structure PassState where
  pass : Pass
  source : Random.Source

/-- Makes the rows of a table and keeps them. -/
def makeTable (registry : Registry) (definition : Compiled) :
    Work GenerationFailure PassState (List Row) := do
  let state ← Work.state
  let rows ← Work.on PassState.source (fun source state => { state with source })
    ((state.pass.scene registry definition.table).rows definition)
  Work.update fun state =>
    { state with pass.cache := state.pass.cache.insert definition.table rows }
  return rows

end Seedbed
