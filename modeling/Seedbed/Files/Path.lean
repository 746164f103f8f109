import Seedbed.Text.Split

/-!
# Paths

A path is a text whose parts are separated by slashes. `joinPath` puts a relative path below a
directory; the other functions take the last part of a path apart.
-/

namespace Seedbed

/-- Whether a path starts at the root. -/
def isAbsolute (path : String) : Bool :=
  path.toList.head? == some '/'

/-- A path below a directory; an absolute path stands for itself. -/
def joinPath (directory path : String) : String :=
  if isAbsolute path || directory.isEmpty then path
  else if directory.toList.getLast? == some '/' then directory ++ path
  else directory ++ "/" ++ path

/-- Whether a part of a path stays where it is. -/
def isIdle (part : String) : Bool :=
  part = "" || part = "."

/-- The parts of a path, from which those that are idle are left out at the end. The first part
always counts: it may stand for the root, or for the working directory. -/
def trimIdle : List String → List String
  | [] => []
  | first :: rest => first :: (rest.reverse.dropWhile isIdle).reverse

/-- The parts of a path between its slashes. -/
def pathParts (path : String) : List String :=
  (Text.splitOn '/' path.toList).map String.ofList

/-- The text without slashes at its end. -/
def trimSlashes (cs : List Char) : List Char :=
  (cs.reverse.dropWhile (· == '/')).reverse

/-- The directory that a path lies in: empty for a single part, nothing for no part at all. -/
def parentPath? (path : String) : Option String :=
  match trimIdle (pathParts path) with
  | [] | [""] => none
  | [_] => some ""
  | parts =>
    match trimIdle parts.dropLast with
    | [""] => some "/"
    | parts => some (String.intercalate "/" parts)

/-- The last part of a path, unless it leads up. -/
def fileName? (path : String) : Option String :=
  match ((pathParts path).filter fun part => !isIdle part).getLast? with
  | none => none
  | some name => if name = ".." then none else some name

/-- A file name before and behind its last dot; a name that only starts with a dot is not cut. -/
def splitExtension (name : String) : String × Option String :=
  match Text.splitLast '.' name.toList with
  | some (stem@(_ :: _), extension) => (String.ofList stem, some (String.ofList extension))
  | _ => (name, none)

/-- The last part of a path without its extension. -/
def fileStem? (path : String) : Option String :=
  (fileName? path).map fun name => (splitExtension name).1

end Seedbed
