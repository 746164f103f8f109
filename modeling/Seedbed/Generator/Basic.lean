import Seedbed.Json.Basic
import Seedbed.Calendar.Text
import Seedbed.Number.Real
import Seedbed.Random.Source

/-!
# Generators

A generator makes a value from a random source. It is known by a path such as `company.name`, may be
given arguments and the date of the day, and may fail. A registry holds generators sorted by their
paths, each path once.
-/

namespace Seedbed

/-- What a generator is told. -/
structure Request where
  /-- The arguments behind its path. -/
  arguments : List String
  today : Date

/-- The argument at an index, cut from blanks and read; the default when it is left out or cannot be
read. -/
def Request.argumentOr {α : Type} (request : Request) (read : List Char → Option α) (index : Nat)
    (default : α) : α :=
  (request.arguments[index]?.bind fun argument => read (Text.trim argument.toList)).getD default

/-- Reads a truth value. -/
def readBool (cs : List Char) : Option Bool :=
  if cs = "true".toList then some true
  else if cs = "false".toList then some false
  else none

/-- Why a generator made no value. -/
structure GeneratorFailure where
  id : String
  message : String
  deriving DecidableEq, Repr

def GeneratorFailure.text (failure : GeneratorFailure) : String :=
  "generator '" ++ failure.id ++ "' failed: " ++ failure.message

/-- A generator. Draws that it made before a failure stay made. -/
structure Generator where
  id : String
  run : Request → Random.Source → Except GeneratorFailure Json × Random.Source

/-- A generator that draws a value and never fails. -/
def Generator.drawing (id : String) (draw : Request → Random.Draw Json) : Generator where
  id
  run request source :=
    let (value, source) := draw request source
    (.ok value, source)

/-- A generator that draws a text. -/
def Generator.text (id : String) (draw : Request → Random.Draw String) : Generator :=
  .drawing id fun request => Json.string <$> draw request

/-- Generators sorted by their paths. -/
structure Registry where
  generators : List Generator

namespace Registry

/-- The registry without generators. -/
def empty : Registry := ⟨[]⟩

/-- Adds a generator to a sorted list, in place of one with the same path. -/
def insertSorted (generator : Generator) : List Generator → List Generator
  | [] => [generator]
  | other :: rest =>
    if generator.id = other.id then generator :: rest
    else if generator.id < other.id then generator :: other :: rest
    else other :: insertSorted generator rest

/-- Adds a generator, in place of one with the same path. -/
def insert (registry : Registry) (generator : Generator) : Registry :=
  ⟨insertSorted generator registry.generators⟩

/-- Adds generators one after another. -/
def insertAll (registry : Registry) (generators : List Generator) : Registry :=
  generators.foldl insert registry

/-- The generator with a path. -/
def find? (registry : Registry) (id : String) : Option Generator :=
  registry.generators.find? fun generator => generator.id == id

/-- Whether a path is known. -/
def knows (registry : Registry) (id : String) : Bool :=
  (registry.find? id).isSome

/-- The paths, sorted. -/
def ids (registry : Registry) : List String :=
  registry.generators.map Generator.id

/-- The number of generators. -/
def size (registry : Registry) : Nat :=
  registry.generators.length

/-- The registry on one line, for diagnosis. -/
def summary (registry : Registry) : String :=
  "GeneratorRegistry \x7b generators: [" ++
    String.intercalate ", " (registry.ids.map fun id => "\"" ++ id ++ "\"") ++ "] \x7d"

end Registry

end Seedbed
