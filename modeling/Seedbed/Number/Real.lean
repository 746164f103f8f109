import Seedbed.Number.Integer
import Seedbed.Number.Binary

/-!
# Reading a real number

The grammar of a real argument: an optional sign, then either digits with an optional point (digits
on at least one side of it) and an optional exponent, or one of the words `inf`, `infinity` and
`nan` in any case. The value is the nearest double; too large becomes an infinity and too small a
zero.
-/

namespace Seedbed.Number

/-- The double nearest to `m · 10 ^ e`. Far outside the range of doubles the power is not formed. -/
def ofDecimal (m : Nat) (e : Int) : Float :=
  let lead := ((digits m).length : Int) + e
  if m = 0 || lead < -400 then 0.0
  else if 400 < lead then 1.0 / 0.0
  else Float.ofScientific m (decide (e < 0)) e.natAbs

/-- Splits a text behind its leading ASCII digits. -/
def spanDigits (cs : List Char) : List Char × List Char :=
  (cs.takeWhile Char.isDigit, cs.dropWhile Char.isDigit)

/-- Reads an exponent: nothing at all, or `e` with an optional sign and digits up to the end. -/
def readExponent : List Char → Option Int
  | [] => some 0
  | c :: cs =>
    if c = 'e' || c = 'E' then
      match cs with
      | '-' :: ds => (readDigits ds).map fun n => -(n : Int)
      | '+' :: ds => (readDigits ds).map Int.ofNat
      | ds => (readDigits ds).map Int.ofNat
    else none

/-- Reads digits with an optional point and exponent. -/
def readPlainReal (cs : List Char) : Option Float :=
  let (whole, rest) := spanDigits cs
  let (fraction, tail) := match rest with
    | '.' :: rest => spanDigits rest
    | rest => ([], rest)
  if whole.isEmpty && fraction.isEmpty then none
  else
    (readExponent tail).map fun e =>
      ofDecimal (Nat.ofDigitChars 10 (whole ++ fraction) 0) (e - fraction.length)

/-- Reads a real number without its sign. -/
def readMagnitude (cs : List Char) : Option Float :=
  let word := String.ofList (cs.map Char.toLower)
  if word = "inf" || word = "infinity" then some (1.0 / 0.0)
  else if word = "nan" then some (0.0 / 0.0)
  else readPlainReal cs

/-- Reads a real number as the nearest double. -/
def readReal (cs : List Char) : Option Float :=
  match cs with
  | '-' :: ds => (readMagnitude ds).map fun x => -x
  | '+' :: ds => readMagnitude ds
  | ds => readMagnitude ds

end Seedbed.Number
