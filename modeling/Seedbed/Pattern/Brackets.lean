import Seedbed.Pattern.Symbol

/-!
# Classes in brackets

A class in brackets holds characters, ranges of them, and other classes, by their names or in
brackets themselves; two operands may be joined by `&&`, `--` or `~~`. Behind `[` a `^` takes all
others, and a `]` or hyphens stand for themselves. `readBrackets` gives how deep a class is nested.
-/

namespace Seedbed.Pattern

/-- How deep several parts are nested together: a part alone as deep as it is. -/
def depthOf : List Nat → Nat
  | [] => 0
  | [depth] => depth
  | depths => 1 + depths.foldl max 0

/-- An open bracket: how deep the operand in front of an operator is nested, and the members behind
it. -/
structure OpenBracket where
  left : Option Nat := none
  members : List Nat := []

namespace OpenBracket

/-- How deep the members and operands so far are nested. -/
def depth (bracket : OpenBracket) : Nat :=
  match bracket.left with
  | none => depthOf bracket.members
  | some left => 1 + max left (depthOf bracket.members)

/-- Adds a member. -/
def add (bracket : OpenBracket) (depth : Nat) : OpenBracket :=
  { bracket with members := depth :: bracket.members }

/-- Goes on behind an operator. -/
def operated (bracket : OpenBracket) : OpenBracket :=
  { left := some bracket.depth }

end OpenBracket

/-- The names that classes have in brackets. -/
def classNames : List String :=
  ["alnum", "alpha", "ascii", "blank", "cntrl", "digit", "graph", "lower", "print", "punct",
    "space", "upper", "word", "xdigit"]

/-- Reads a class by its name between colons behind a bracket: whether it is negated, and what
follows. -/
def readNamed (text : List Char) : Option (Bool × List Char) :=
  match text with
  | ':' :: text =>
    let (isNegated, text) := match text with
      | '^' :: text => (true, text)
      | text => (false, text)
    match text.dropWhile (· != ':') with
    | ':' :: ']' :: rest =>
      if classNames.contains (String.ofList (text.takeWhile (· != ':'))) then
        some (isNegated, rest)
      else none
    | _ => none
  | _ => none

/-- Adds the hyphens at the start of a text, at most `n`. -/
def readHyphens (modes : Modes) (bracket : OpenBracket) :
    Nat → List Char → OpenBracket × List Char
  | n + 1, '-' :: rest => readHyphens modes (bracket.add 0) n (modes.skip rest)
  | _, text => (bracket, text)

/-- Reads what stands for itself behind an opening bracket. -/
def openBracket (modes : Modes) (text : List Char) : Option (OpenBracket × List Char) :=
  let (isNegated, text) := match modes.skip text with
    | '^' :: rest => (true, modes.skip rest)
    | text => (false, text)
  if isNegated && !modes.isWide then none
  else
    match text with
    | ']' :: rest => some (({} : OpenBracket).add 0, rest)
    | text => some (readHyphens modes {} text.length text)

/-- Reads a symbol in brackets. -/
def readSymbol (modes : Modes) : List Char → Option (Symbol × List Char)
  | [] => none
  | '\\' :: rest => readEscape modes rest
  | c :: rest => some (.character c false, rest)

/-- The next sign, for a look behind a hyphen. A remark counts up to its first sign only. -/
def nextSign (modes : Modes) (text : List Char) : Option Char :=
  if modes.isSpaced then
    match text.dropWhile Text.isBlank with
    | '#' :: rest => (rest.dropWhile Text.isBlank).head?
    | text => text.head?
  else text.head?

/-- Reads a symbol or a range of characters in brackets. A hyphen in front of a closing bracket or
of another one makes no range. -/
def readMember (modes : Modes) (text : List Char) : Option (List Char) := do
  let (first, rest) ← readSymbol modes text
  let alone (rest : List Char) : Option (List Char) :=
    if first.mayBeMember modes then some rest else none
  match modes.skip rest with
  | '-' :: behind =>
    let next := nextSign modes behind
    if next = some ']' || next = some '-' then alone ('-' :: behind)
    else
      let (last, rest) ← readSymbol modes (modes.skip behind)
      match first, last with
      | .character a _, .character b _ =>
        if first.mayBeMember modes && last.mayBeMember modes && a ≤ b then some rest else none
      | _, _ => none
  | rest => alone rest

/-- Reads in at most `n` steps up to the bracket that closes the outermost one: how deep the class
is nested, and what follows. -/
def readBracketsUpTo (modes : Modes) (bracket : OpenBracket) (outer : List OpenBracket) :
    Nat → List Char → Option (Nat × List Char)
  | 0, _ => none
  | n + 1, text =>
    match modes.skip text with
    | [] => none
    | '[' :: rest =>
      match readNamed rest with
      | some (isNegated, rest) =>
        if modes.isWide || !isNegated then
          readBracketsUpTo modes (bracket.add 0) outer n rest
        else none
      | none => do
        let (inner, rest) ← openBracket modes rest
        readBracketsUpTo modes inner (bracket :: outer) n rest
    | ']' :: rest =>
      let depth := 1 + bracket.depth
      match outer with
      | [] => some (depth, rest)
      | bracket :: outer => readBracketsUpTo modes (bracket.add depth) outer n rest
    | '&' :: '&' :: rest | '-' :: '-' :: rest | '~' :: '~' :: rest =>
      readBracketsUpTo modes bracket.operated outer n rest
    | text => do readBracketsUpTo modes (bracket.add 0) outer n (← readMember modes text)

/-- Reads a class behind its opening bracket: how deep it is nested, and what follows. -/
def readBrackets (modes : Modes) (text : List Char) : Option (Nat × List Char) := do
  let (bracket, rest) ← openBracket modes text
  readBracketsUpTo modes bracket [] (rest.length + 1) rest

end Seedbed.Pattern
