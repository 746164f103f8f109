import Seedbed.Fields

/-!
# Table definitions

A definition names a table, says how many rows it has and gives each column a tree of rules. The
leaves of a tree are scalars: texts in a definition that was just decoded, rules once it is
compiled. `traverse` converts the scalars one after another, each with its path, and keeps
everything else; `scalars` lists them in the same order.
-/

namespace Seedbed

/-- How many rows a table or how many items an array has. -/
inductive Count
  | fixed (count : Nat)
  | range (min max : Nat)
  deriving DecidableEq, Repr

namespace Count

/-- The smallest and the largest number. -/
def bounds : Count → Nat × Nat
  | fixed count => (count, count)
  | range min max => (min, max)

/-- A range whose bounds are in order. -/
def range? (min max : Nat) : Option Count :=
  if min ≤ max then some (range min max) else none

end Count

/-- A tree of rules with scalars of a given kind. -/
inductive Node (α : Type)
  | scalar (value : α)
  | array (items : Node α) (count : Count)
  | object (properties : List (String × Node α))

instance {α : Type} [Inhabited α] : Inhabited (Node α) := ⟨.scalar default⟩

/-- A table with its columns in declaration order. -/
structure Definition (α : Type) where
  table : String
  count : Count
  columns : Fields (Node α)

/-- The path of the items of an array. -/
def itemsPath (path : String) : String :=
  path ++ ".items"

/-- The path of a property of an object. -/
def propertyPath (path name : String) : String :=
  path ++ ".properties." ++ name

/-- The path of a column. -/
def columnPath (name : String) : String :=
  "$.columns." ++ name

namespace Node

variable {α β : Type}

mutual

/-- The scalars of a tree with their paths, in document order. -/
def scalars (path : String) : Node α → List (String × α)
  | scalar value => [(path, value)]
  | array items _ => scalars (itemsPath path) items
  | object properties => propertyScalars path properties

/-- The scalars of the properties of an object. -/
def propertyScalars (path : String) : List (String × Node α) → List (String × α)
  | [] => []
  | (name, node) :: rest => scalars (propertyPath path name) node ++ propertyScalars path rest

end

variable {m : Type → Type} [Monad m] (f : String → α → m β)

mutual

/-- The tree with every scalar converted. -/
def traverse (path : String) : Node α → m (Node β)
  | scalar value => return scalar (← f path value)
  | array items count => return array (← traverse (itemsPath path) items) count
  | object properties => return object (← traverseProperties path properties)

/-- The properties of an object with every scalar converted. -/
def traverseProperties (path : String) : List (String × Node α) → m (List (String × Node β))
  | [] => return []
  | (name, node) :: rest => do
    let node ← traverse (propertyPath path name) node
    let rest ← traverseProperties path rest
    return (name, node) :: rest

end

end Node

namespace Definition

variable {α β : Type}

/-- The names of the columns. -/
def columnNames (definition : Definition α) : List String :=
  Fields.names definition.columns

/-- The scalars of a list of columns with their paths. -/
def columnScalars (columns : Fields (Node α)) : List (String × α) :=
  columns.flatMap fun (name, node) => node.scalars (columnPath name)

/-- The scalars of a definition with their paths, in document order. -/
def scalars (definition : Definition α) : List (String × α) :=
  columnScalars definition.columns

variable {m : Type → Type} [Monad m] (f : String → α → m β)

/-- The columns with every scalar converted. -/
def traverseColumns : Fields (Node α) → m (Fields (Node β))
  | [] => return []
  | (name, node) :: rest => do
    let node ← node.traverse f (columnPath name)
    let rest ← traverseColumns rest
    return (name, node) :: rest

/-- The definition with every scalar converted, column by column. -/
def traverse (definition : Definition α) : m (Definition β) := do
  let columns ← traverseColumns f definition.columns
  return { table := definition.table, count := definition.count, columns }

end Definition

end Seedbed
