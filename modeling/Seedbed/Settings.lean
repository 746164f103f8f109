import Seedbed.Files.Path
import Seedbed.TableOrder
import Seedbed.Toml.Reader

/-!
# Settings

The settings of a project: where its definitions are, its tenant, the environment variable with the
connection string, and its tables in seed order. They are read from a TOML document, where each may
be left out and other names are ignored; a project without settings gets those of `defaultText`.
-/

namespace Seedbed

/-- The settings of a project. -/
structure Settings where
  /-- Relative to the directory of the settings. -/
  definitions : String := "definitions"
  tenant : String := "design"
  /-- The environment variable that holds the connection string. -/
  connectionVariable : String := "DATABASE_URL"
  seedOrder : List String := TableOrder.defaultSeed
  deriving DecidableEq, Repr

namespace Settings

/-- The document with the default settings. None of their texts needs an escape. -/
def defaultText : String :=
  let settings : Settings := {}
  let quoted (text : String) : String := "\"" ++ text ++ "\""
  "definitions_dir = " ++ quoted settings.definitions ++ "\n" ++
    "default_tenant = " ++ quoted settings.tenant ++ "\n" ++
    "database_url_env = " ++ quoted settings.connectionVariable ++ "\n" ++
    "seed_order = [\n" ++
    String.join (settings.seedOrder.map fun table => "    " ++ quoted table ++ ",\n") ++ "]\n"

/-- A text, or the place of a value that is none. -/
def textAt (placed : Nat × Toml.Value) : Except Nat String :=
  match placed with
  | (_, .string text) => .ok text
  | (place, _) => .error place

/-- A list of texts, or the place of a value that is none. -/
def textsAt (placed : Nat × Toml.Value) : Except Nat (List String) :=
  match placed with
  | (_, .array items) => items.mapM textAt
  | (place, _) => .error place

/-- Sets the setting of a name. -/
def set (settings : Settings) (member : String × (Nat × Toml.Value)) : Except Nat Settings := do
  let (name, placed) := member
  match name with
  | "definitions_dir" => return { settings with definitions := ← textAt placed }
  | "default_tenant" => return { settings with tenant := ← textAt placed }
  | "database_url_env" => return { settings with connectionVariable := ← textAt placed }
  | "seed_order" => return { settings with seedOrder := ← textsAt placed }
  | _ => return settings

/-- Reads settings. A setting of the wrong kind is refused at its value. -/
def read (text : String) : Except Toml.ReadError Settings := do
  let members ← Toml.parse text.toList
  (members.foldlM set {}).mapError (Toml.ReadError.ofPlace text.toList)

/-- The directory of the definitions, for settings in the file at `path`. -/
def directory (settings : Settings) (path : String) : String :=
  joinPath ((parentPath? path).getD "") settings.definitions

end Settings

end Seedbed
