import Seedbed.Text.Hex
import Seedbed.Text.Split
import Seedbed.Number.Power

/-!
# Network addresses

An address of four bytes is written as four decimal numbers between dots; one of sixteen bytes as
groups of up to four hexadecimal digits between colons, of which two colons in a row leave out some.
The last two groups may be written like an address of four bytes.

A host of a URL may also write an address of four bytes with fewer and larger numbers, in the bases
eight, ten and sixteen (`isLooseShort`).
-/

namespace Seedbed.Address

/-- Whether a text is a number below 256 without zeros in front. -/
def isByte (cs : List Char) : Bool :=
  !cs.isEmpty && cs.all Char.isDigit && (cs.length = 1 || cs.head? ≠ some '0') &&
    Nat.ofDigitChars 10 cs 0 < 256

/-- Whether a text is an address of four bytes. -/
def isShort (cs : List Char) : Bool :=
  let parts := Text.splitOn '.' cs
  parts.length = 4 && parts.all isByte

/-- Whether a text is a group of up to four hexadecimal digits. -/
def isGroup (cs : List Char) : Bool :=
  !cs.isEmpty && cs.length ≤ 4 && cs.all Text.isHexDigit

/-- How many groups a text between colons has; the last may be a short address if `mayBeShort`. -/
def groups? (mayBeShort : Bool) (cs : List Char) : Option Nat :=
  if cs.isEmpty then some 0
  else
    let parts := Text.splitOn ':' cs
    match parts.getLast? with
    | none => none
    | some last =>
      if !parts.dropLast.all isGroup then none
      else if isGroup last then some parts.length
      else if mayBeShort && isShort last then some (parts.length + 1)
      else none

/-- Whether a text is an address of sixteen bytes. -/
def isLong (cs : List Char) : Bool :=
  match Text.splitFirstMark [':', ':'] cs with
  | none => groups? true cs == some 8
  | some (before, after) =>
    match groups? false before, groups? true after with
    | some m, some n => m + n < 8
    | _, _ => false

/-- A number in the notation of its base: `0x` in front of one in the base sixteen, and a zero in
front of one in the base eight. -/
def looseNumber? (cs : List Char) : Option Nat :=
  let read (base : Nat) (digits : List Char) : Option Nat :=
    digits.foldlM (fun n c => do
      let digit ← Text.hexValue? c
      if digit < base then return n * base + digit else none) 0
  match cs with
  | [] => none
  | '0' :: 'x' :: digits | '0' :: 'X' :: digits => read 16 digits
  | '0' :: digit :: digits => read 8 (digit :: digits)
  | digits => read 10 digits

/-- The parts of a name between its dots; a dot at the end separates nothing. -/
def labels (name : List Char) : List (List Char) :=
  let parts := Text.splitOn '.' name
  if parts.getLast? = some [] then parts.dropLast else parts

/-- Whether a name ends like an address, in a number. -/
def endsInNumber (name : List Char) : Bool :=
  match (labels name).getLast? with
  | none => false
  | some last => (!last.isEmpty && last.all Char.isDigit) || (looseNumber? last).isSome

/-- Whether a name that ends in a number is an address of four bytes: up to four numbers, of which
the last fills the bytes that the others leave. -/
def isLooseShort (name : List Char) : Bool :=
  match (labels name).mapM looseNumber? with
  | none => false
  | some numbers =>
    match numbers.reverse with
    | [] => false
    | last :: others =>
      others.length < 4 && last < 256 ^ (4 - others.length) && others.all (· < 256)

end Seedbed.Address
