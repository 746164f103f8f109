import Seedbed.Definition.File

/-!
# Files and directories

The files that the program works on are a value: directories and files under the parts of their
paths. A relative path starts at the working directory. Paths are walked part by part, as a file
system does, so every part but the last must be a directory, also in front of one that leads up.

What changes files is work on the disk (`Disk.Change`): where it fails, what it did before stays.
-/

namespace Seedbed

/-- What stands under a path. -/
inductive DiskEntry
  | directory
  | file (content : ByteArray)

/-- Directories and files by the parts of their paths from the root, and the parts of the working
directory. -/
structure Disk where
  entries : List (List String × DiskEntry)
  working : List String := []

namespace Disk

/-- Work that changes files. -/
abbrev Change (α : Type) := Work ReadFailure Disk α

/-- The entry under parts; the root is always there. -/
def entry? (disk : Disk) (parts : List String) : Option DiskEntry :=
  if parts = [] then some .directory
  else (disk.entries.find? fun entry => entry.1 == parts).map Prod.snd

/-- The disk without the entry under parts. -/
def erase (disk : Disk) (parts : List String) : Disk :=
  { disk with entries := disk.entries.filter fun other => other.1 != parts }

/-- Replaces the entry under parts. -/
def setEntry (disk : Disk) (parts : List String) (entry : DiskEntry) : Disk :=
  { disk with entries := (disk.erase parts).entries ++ [(parts, entry)] }

/-- How many bytes a path may have at most. -/
def longestPath : Nat := 4095

/-- How many bytes a part of a path may have at most. -/
def longestPart : Nat := 255

/-- Fails unless a directory stands under parts. -/
def checkDirectory (disk : Disk) (parts : List String) : Except ReadFailure Unit :=
  match disk.entry? parts with
  | some .directory => .ok ()
  | some (.file _) => .error .notDirectory
  | none => .error .notFound

/-- Goes from a place, which must be a directory, to what a part of a path names there. -/
def enter (disk : Disk) (place : List String) (part : String) :
    Except ReadFailure (List String) := do
  disk.checkDirectory place
  if isIdle part then return place
  else if part = ".." then return place.dropLast
  else if longestPart < part.utf8ByteSize then throw .nameTooLong
  else return place ++ [part]

/-- The place where a path starts and its parts; there are none in an empty path. -/
def start (disk : Disk) (path : String) : Except ReadFailure (List String × List String) :=
  if path.contains (Char.ofNat 0) then .error .zeroInName
  else if path.isEmpty then .error .notFound
  else if longestPath < path.utf8ByteSize then .error .nameTooLong
  else if isAbsolute path then .ok ([], (pathParts path).drop 1)
  else .ok (disk.working, pathParts path)

/-- The parts of the place that a path leads to. -/
def resolve (disk : Disk) (path : String) : Except ReadFailure (List String) := do
  let (place, parts) ← disk.start path
  parts.foldlM disk.enter place

/-- Where something new would stand: its directory and its name. The last part of a path is no name
if it stays in its directory or leads up. A path that ends in a slash is one of a directory. -/
structure Site where
  directory : List String
  name : Option String
  ofDirectory : Bool

/-- The parts of a site that has a name. -/
def Site.parts? (site : Site) : Option (List String) :=
  site.name.map fun name => site.directory ++ [name]

/-- The site of a path, whose directory must be there. -/
def site (disk : Disk) (path : String) : Except ReadFailure Site := do
  let (place, parts) ← disk.start path
  let named := (parts.reverse.dropWhile (·.isEmpty)).reverse
  let directory ← named.dropLast.foldlM disk.enter place
  let last := named.getLast?.filter fun part => !isIdle part && part ≠ ".."
  let _ ← disk.enter directory (last.getD ".")
  return { directory, name := last, ofDirectory := named.length < parts.length }

/-- The bytes of a file. -/
def readBytes (disk : Disk) (path : String) : Except ReadFailure ByteArray := do
  match disk.entry? (← disk.resolve path) with
  | some (.file content) => return content
  | some .directory => throw .isDirectory
  | none => throw .notFound

/-- The text of a file. -/
def readText (disk : Disk) (path : String) : Except ReadFailure String := do
  match String.fromUTF8? (← disk.readBytes path) with
  | some text => return text
  | none => throw .notText

/-- Whether something stands under a path. -/
def contains (disk : Disk) (path : String) : Bool :=
  match disk.resolve path with
  | .ok parts => (disk.entry? parts).isSome
  | .error _ => false

/-- Whether a directory stands under a path. -/
def containsDirectory (disk : Disk) (path : String) : Bool :=
  match disk.resolve path with
  | .ok parts => (disk.checkDirectory parts).toBool
  | .error _ => false

/-- The names in a directory. -/
def list (disk : Disk) (path : String) : Except ReadFailure (List String) := do
  let parts ← disk.resolve path
  disk.checkDirectory parts
  return disk.entries.filterMap fun (other, _) =>
    if other.dropLast = parts then other.getLast? else none

/-- Makes the directory under parts and those above it, where there is nothing yet. -/
def makeDirectories (disk : Disk) (parts : List String) : Disk :=
  (List.range (parts.length + 1)).foldl (fun disk n =>
    let start := parts.take n
    if (disk.entry? start).isSome then disk else disk.setEntry start .directory) disk

/-- A disk with nothing but a working directory. -/
def empty (working : List String) : Disk :=
  ({ entries := [], working } : Disk).makeDirectories working

/-- The parts of the place that a path names if every part before one that leads up is a
directory. -/
def placeOf (disk : Disk) (path : String) : List String :=
  let place := if isAbsolute path then [] else disk.working
  (pathParts path).foldl (fun place part =>
    if isIdle part then place else if part = ".." then place.dropLast else place ++ [part]) place

/-- Puts a file under a path, with the directories above it. A directory in its place stays, and so
does a file in the place of a directory above it. -/
def put (disk : Disk) (path : String) (content : ByteArray) : Disk :=
  let parts := disk.placeOf path
  let made := disk.makeDirectories parts.dropLast
  match made.checkDirectory parts.dropLast, made.entry? parts with
  | .error _, _ | _, some .directory => disk
  | .ok (), _ => made.setEntry parts (.file content)

/-- Puts a directory under a path, with the directories above it. -/
def putDirectory (disk : Disk) (path : String) : Disk :=
  disk.makeDirectories (disk.placeOf path)

/-- Removes the file under a path. A directory stays. -/
def remove (disk : Disk) (path : String) : Disk :=
  match disk.resolve path with
  | .error _ => disk
  | .ok parts =>
    match disk.entry? parts with
    | some (.file _) => disk.erase parts
    | _ => disk

/-- The site of a path, as work. -/
def siteOf (path : String) : Change Site := do
  let disk ← Work.state
  Work.ofExcept (disk.site path)

/-- Opens a file to write to it, and gives its parts. Makes it where there is nothing yet. -/
def openToWrite (path : String) : Change (List String) := do
  let site ← siteOf path
  let disk ← Work.state
  match site.parts?, site.ofDirectory with
  | some parts, false =>
    match disk.entry? parts with
    | some .directory => Work.fail .isDirectory
    | some (.file _) => return parts
    | none => do
      Work.update (·.setEntry parts (.file .empty))
      return parts
  | _, _ => Work.fail .isDirectory

/-- Writes a file from its start. -/
def write (path : String) (content : ByteArray) : Change Unit := do
  let parts ← openToWrite path
  Work.update (·.setEntry parts (.file content))

/-- Appends bytes to the file under parts. -/
def append (disk : Disk) (parts : List String) (more : ByteArray) : Disk :=
  match disk.entry? parts with
  | some (.file content) => disk.setEntry parts (.file (content ++ more))
  | _ => disk

/-- Moves a file over another path, and gives the parts that it had and those that it has. -/
def moveFile (path target : String) : Change (List String × List String) := do
  let disk ← Work.state
  let source ← Work.ofExcept (disk.resolve path)
  let content ← Work.ofExcept (disk.readBytes path)
  let site ← siteOf target
  match site.parts?, site.ofDirectory with
  | some parts, false =>
    match disk.entry? parts with
    | some .directory => Work.fail .isDirectory
    | _ => do
      Work.update fun disk => (disk.erase source).setEntry parts (.file content)
      return (source, parts)
  | _, _ => Work.fail .notDirectory

/-- Makes a directory in one that is there. -/
def createDirectory (path : String) : Change Unit := do
  let site ← siteOf path
  let disk ← Work.state
  match site.parts? with
  | none => Work.fail .alreadyExists
  | some parts =>
    if (disk.entry? parts).isSome then Work.fail .alreadyExists
    else Work.update (·.setEntry parts .directory)

/-- Makes a directory, and does something else instead if the one that it lies in is missing. A
directory that is there already will do. -/
def createDirectoryOr (path : String) (missing : Change Unit) : Change Unit := fun disk =>
  match createDirectory path disk with
  | { result := .error .notFound, state, .. } => missing state
  | { result := .error cause, state, .. } =>
    if disk.containsDirectory path then (pure () : Change Unit) state else Work.fail cause state
  | made => made

/-- Makes a directory and those above it that are missing, at most `n` of them. -/
def createDirectoriesUpTo : Nat → String → Change Unit
  | 0, _ => Work.fail .notFound
  | n + 1, path =>
    if path.isEmpty then return
    else
      createDirectoryOr path do
        match parentPath? path with
        | none => Work.fail .notFound
        | some parent => do
          createDirectoriesUpTo n parent
          createDirectoryOr path (Work.fail .notFound)

/-- Makes a directory and those above it that are missing. -/
def createDirectories (path : String) : Change Unit :=
  createDirectoriesUpTo (path.length + 1) path

/-- The definitions in a directory of the disk. -/
def library (disk : Disk) (directory : String) : Library :=
  { directory, read := disk.readText }

/-- The names of the files in a directory with the extension of definitions, sorted. -/
def definitionNames (disk : Disk) (directory : String) : Except ReadFailure (List String) := do
  let names ← disk.list directory
  let names := names.filter fun name => (splitExtension name).2 == some "json"
  return names.mergeSort fun a b => decide (a ≤ b)

/-- The files of a directory with the extension of definitions, sorted. -/
def definitionFiles (disk : Disk) (directory : String) : Except ReadFailure (List String) := do
  return (← disk.definitionNames directory).map (joinPath directory)

end Disk

end Seedbed
