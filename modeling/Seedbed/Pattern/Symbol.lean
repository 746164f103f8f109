import Seedbed.Text.Blank
import Seedbed.Text.Hex

/-!
# The symbols of a pattern

A pattern says which texts are meant. Its smallest parts are symbols: a character, a class of
characters by its name, or an edge where a text or a word starts or ends. Behind a backslash signs
stand for themselves and letters for other characters, classes and edges (`readEscape`).

How a pattern is read depends on two modes. A pattern with spaces passes over blanks and remarks. A
narrow pattern knows ASCII only, and may not say anything that would cut other characters apart; a
wide one may not ask for the edges of words, which are not known for all scripts.
-/

namespace Seedbed.Pattern

/-- How a pattern is read from a place on. -/
structure Modes where
  isSpaced : Bool := false
  isWide : Bool := true
  deriving DecidableEq, Repr

/-- The text behind blanks and remarks. A remark goes from a `#` to the end of its line. -/
def skipBlanks (inRemark : Bool) : List Char → List Char
  | [] => []
  | c :: rest =>
    if inRemark then skipBlanks (c != '\n') rest
    else if Text.isBlank c then skipBlanks false rest
    else if c = '#' then skipBlanks true rest
    else c :: rest

/-- The text from the next sign on. -/
def Modes.skip (modes : Modes) (text : List Char) : List Char :=
  if modes.isSpaced then skipBlanks false text else text

/-- The smallest parts of a pattern. A character may be written by the number of a byte, and a class
may hold all characters but those of its name. -/
inductive Symbol
  | character (c : Char) (isByte : Bool)
  | named (isNegated : Bool)
  | category
  | edge
  | wordEdge
  deriving DecidableEq, Repr

namespace Symbol

/-- Whether a symbol may stand on its own. -/
def mayStand (modes : Modes) : Symbol → Bool
  | character c isByte => modes.isWide || !isByte || c.toNat < 0x80
  | named isNegated => modes.isWide || !isNegated
  | category => modes.isWide
  | edge => true
  | wordEdge => !modes.isWide

/-- Whether a symbol may stand in brackets. -/
def mayBeMember (modes : Modes) : Symbol → Bool
  | character c _ => modes.isWide || c.toNat < 0x80
  | named isNegated => modes.isWide || !isNegated
  | category => modes.isWide
  | edge | wordEdge => false

end Symbol

/-- Reads so many hexadecimal digits behind the number that `n` is the value of. -/
def readHex (modes : Modes) (n : Nat) : Nat → List Char → Option (Nat × List Char)
  | 0, text => some (n, text)
  | _ + 1, [] => none
  | count + 1, c :: rest => do
    readHex modes (n * 16 + (← Text.hexValue? c)) count (modes.skip rest)

/-- Reads the code of a character with so many digits. -/
def readCode (modes : Modes) (count : Nat) (isByte : Bool) (text : List Char) :
    Option (Symbol × List Char) := do
  let (code, rest) ← readHex modes 0 count (modes.skip text)
  if code.isValidChar then return (.character (Char.ofNat code) isByte, rest) else none

/-- Reads the letter of a category of characters. -/
def readCategory (modes : Modes) (text : List Char) : Option (Symbol × List Char) :=
  match modes.skip text with
  | c :: rest => if "clmnpsz".toList.contains c.toLower then some (.category, rest) else none
  | [] => none

/-- Whether a sign stands for itself behind a backslash. -/
def isEscapable (c : Char) : Bool :=
  c.toNat < 0x80 && !c.isAlphanum && c != '<' && c != '>'

/-- Reads a symbol behind a backslash. -/
def readEscape (modes : Modes) : List Char → Option (Symbol × List Char)
  | [] => none
  | 'x' :: rest => readCode modes 2 true rest
  | 'u' :: rest => readCode modes 4 false rest
  | 'U' :: rest => readCode modes 8 false rest
  | 'p' :: rest | 'P' :: rest => readCategory modes rest
  | c :: rest =>
    if isEscapable c then some (.character c false, rest)
    else
      match c with
      | 'd' | 's' | 'w' => some (.named false, rest)
      | 'D' | 'S' | 'W' => some (.named true, rest)
      | 'a' => some (.character '\x07' false, rest)
      | 't' => some (.character '\t' false, rest)
      | 'n' => some (.character '\n' false, rest)
      | 'v' => some (.character '\x0b' false, rest)
      | 'f' => some (.character '\x0c' false, rest)
      | 'r' => some (.character '\r' false, rest)
      | 'A' | 'z' => some (.edge, rest)
      | 'b' | 'B' | '<' | '>' => some (.wordEdge, rest)
      | _ => none

end Seedbed.Pattern
