import Seedbed.Pattern.Brackets
import Seedbed.Unicode.Alphanumeric

/-!
# Patterns

A pattern is a sequence of symbols, classes in brackets and groups in parentheses; a sign behind one
of them says how often it may come, and bars separate alternatives. A group may have a name, and
flags at its start, which also stand alone for the rest of the group they are in.

`isPattern` tells whether a text is a pattern that is not nested too deep. It is for texts without a
closing brace, in which a brace never says how often something may come.
-/

namespace Seedbed.Pattern

/-- A part of a sequence: how deep it is nested, and whether it is only flags. -/
structure Part where
  depth : Nat
  isFlags : Bool := false

/-- An open group, or the pattern itself: the parts of the sequence so far, last first, the depths
of the alternatives in front of it, and the modes outside. -/
structure OpenGroup where
  parts : List Part := []
  alternatives : List Nat := []
  outside : Modes := {}

namespace OpenGroup

/-- Adds a part. -/
def add (group : OpenGroup) (part : Part) : OpenGroup :=
  { group with parts := part :: group.parts }

/-- Goes on with another alternative. -/
def alternated (group : OpenGroup) : OpenGroup :=
  { group with
    parts := []
    alternatives := depthOf (group.parts.map Part.depth) :: group.alternatives }

/-- How deep the parts so far are nested. -/
def depth (group : OpenGroup) : Nat :=
  depthOf group.alternated.alternatives

/-- Lets the last part come more than once, or not at all. Flags cannot. -/
def repeated (group : OpenGroup) : Option OpenGroup :=
  match group.parts with
  | { depth, isFlags := false } :: parts =>
    some { group with parts := { depth := depth + 1 } :: parts }
  | _ => none

end OpenGroup

/-- Where the reading of a pattern stands. -/
structure State where
  modes : Modes := {}
  group : OpenGroup := {}
  outer : List OpenGroup := []
  names : List (List Char) := []

namespace State

/-- Adds a part. -/
def add (state : State) (part : Part) : State :=
  { state with group := state.group.add part }

/-- Opens a group in which some modes count. -/
def opened (state : State) (modes : Modes) : State :=
  { state with
    modes
    group := { outside := state.modes }
    outer := state.group :: state.outer }

/-- Closes a group. -/
def closed (state : State) : Option State :=
  match state.outer with
  | [] => none
  | group :: outer =>
    some { state with
      modes := state.group.outside
      group := group.add { depth := 1 + state.group.depth }
      outer }

end State

/-- Whether a character may stand in the name of a group. -/
def isNameChar (isFirst : Bool) (c : Char) : Bool :=
  c = '_' || if isFirst then Unicode.isAlphabetic c
    else c = '.' || c = '[' || c = ']' || Unicode.isAlphanumeric c

/-- Reads the name of a group up to its closing angle bracket. -/
def readName (text : List Char) : Option (List Char × List Char) :=
  match text.takeWhile (· != '>'), text.dropWhile (· != '>') with
  | first :: name, '>' :: rest =>
    if isNameChar true first && name.all (isNameChar false) then some (first :: name, rest)
    else none
  | _, _ => none

/-- The flags. They are for ignoring case, many lines, dots that stand for line ends, the order in
which lengths are tried, line ends of two characters, wide patterns, and spaces. -/
def flags : List Char := "imsURux".toList

/-- The modes with a flag set or, behind a hyphen, taken back. -/
def Modes.flagged (modes : Modes) (flag : Char) (isSet : Bool) : Modes :=
  if flag = 'x' then { modes with isSpaced := isSet }
  else if flag = 'u' then { modes with isWide := isSet }
  else modes

/-- Reads flags, each of which comes once, up to a colon or the end of the group: the modes then,
the signs, last first, and what stands from their end on. Behind a hyphen flags are taken back. -/
def readFlags (modes : Modes) (seen : List Char) :
    List Char → Option (Modes × List Char × List Char)
  | [] => none
  | c :: rest =>
    if c = ':' || c = ')' then
      if seen.head? = some '-' then none else some (modes, seen, c :: rest)
    else if seen.contains c then none
    else if c = '-' then readFlags modes (c :: seen) rest
    else if flags.contains c then
      readFlags (modes.flagged c (!seen.contains '-')) (c :: seen) rest
    else none

/-- Opens a group behind its name. -/
def openNamed (state : State) (text : List Char) : Option (State × List Char) := do
  let (name, rest) ← readName text
  if state.names.contains name then none
  else return ({ state.opened state.modes with names := name :: state.names }, rest)

/-- Opens a group behind its parenthesis, or sets flags for the rest of the group around it. -/
def openGroup (state : State) (text : List Char) : Option (State × List Char) :=
  match state.modes.skip text with
  | '?' :: 'P' :: '<' :: rest | '?' :: '<' :: rest => openNamed state rest
  | '?' :: rest => do
    match ← readFlags state.modes [] rest with
    | (modes, _, ':' :: rest) => return (state.opened modes, rest)
    | (_, [], _) => none
    | (modes, _, rest) =>
      return ({ state.add { depth := 0, isFlags := true } with modes }, rest.drop 1)
  | rest => some (state.opened state.modes, rest)

/-- Reads the next part of a pattern, from its first character on. -/
def readPart (state : State) (c : Char) (rest : List Char) : Option (State × List Char) :=
  let symbol (found : Symbol × List Char) : Option (State × List Char) :=
    if found.1.mayStand state.modes then some (state.add { depth := 0 }, found.2) else none
  match c with
  | '(' => openGroup state rest
  | ')' => do return (← state.closed, rest)
  | '|' => some ({ state with group := state.group.alternated }, rest)
  | '[' => do
    let (depth, rest) ← readBrackets state.modes rest
    return (state.add { depth }, rest)
  | '?' | '*' | '+' => do
    let group ← state.group.repeated
    return ({ state with group }, if rest.head? = some '?' then rest.drop 1 else rest)
  | '\x7b' => none
  | '\\' => do symbol (← readEscape state.modes rest)
  | '.' => if state.modes.isWide then some (state.add { depth := 0 }, rest) else none
  | '^' | '$' => symbol (.edge, rest)
  | c => symbol (.character c false, rest)

/-- How deep a pattern is nested, which is read in at most `n` steps. -/
def readUpTo (state : State) : Nat → List Char → Option Nat
  | 0, _ => none
  | n + 1, text =>
    match state.modes.skip text with
    | [] => if state.outer.isEmpty then some state.group.depth else none
    | c :: rest => do
      let (state, rest) ← readPart state c rest
      readUpTo state n rest

/-- How deep a pattern may be nested. -/
def depthLimit : Nat := 250

/-- Whether a text is a pattern. -/
def isPattern (text : List Char) : Bool :=
  (readUpTo {} (text.length + 1) text).any (· ≤ depthLimit)

end Seedbed.Pattern
