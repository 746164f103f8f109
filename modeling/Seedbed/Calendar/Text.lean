import Seedbed.Calendar.Date
import Seedbed.Number.Integer
import Seedbed.Text.Blank

/-!
# Dates as text

A date is written `YYYY-MM-DD`; a year outside 0 to 9999 carries its sign and has at least four
digits. Reading is more generous: a month or day may have one digit, blanks may stand before each
number, and a year may have one to four digits, or any number of them behind a sign.
-/

namespace Seedbed

namespace Date

/-- The text of a year. -/
def yearText (year : Int) : List Char :=
  if 0 ≤ year ∧ year ≤ 9999 then Number.digitsPadded 4 year.toNat
  else (if year < 0 then '-' else '+') :: Number.digitsPadded 4 year.natAbs

/-- The text of a date. -/
def text (d : Date) : List Char :=
  let c := d.civil
  yearText c.year ++ '-' :: (Number.digitsPadded 2 c.month ++ '-' :: Number.digitsPadded 2 c.day)

/-- The text of a date as a string. -/
def toText (d : Date) : String :=
  String.ofList d.text

/-- Reads one to `limit` digits at the start of a text, and gives the rest. -/
def readDigitsUpTo (limit : Nat) (cs : List Char) : Option (Nat × List Char) :=
  let ds := (cs.take limit).takeWhile Char.isDigit
  if ds.isEmpty then none else some (Nat.ofDigitChars 10 ds 0, cs.drop ds.length)

/-- Reads a year at the start of a text. -/
def readYear (cs : List Char) : Option (Int × List Char) :=
  match Text.trimStart cs with
  | '-' :: cs => (readDigitsUpTo cs.length cs).map fun (n, rest) => (-(n : Int), rest)
  | '+' :: cs => (readDigitsUpTo cs.length cs).map fun (n, rest) => ((n : Int), rest)
  | cs => (readDigitsUpTo 4 cs).map fun (n, rest) => ((n : Int), rest)

/-- Reads a hyphen and a month or day at the start of a text. -/
def readPart : List Char → Option (Nat × List Char)
  | '-' :: cs => readDigitsUpTo 2 (Text.trimStart cs)
  | _ => none

/-- Reads a date that is the whole text. -/
def read? (cs : List Char) : Option Date := do
  let (year, cs) ← readYear cs
  let (month, cs) ← readPart cs
  let (day, cs) ← readPart cs
  if cs.isEmpty then ofCivil? { year, month, day } else none

/-- The longest start of a text that takes exactly `bytes` bytes; nothing when the text is shorter
or the cut falls inside a character. -/
def takeBytes (bytes : Nat) : List Char → Option (List Char)
  | [] => if bytes = 0 then some [] else none
  | c :: cs =>
    if bytes = 0 then some []
    else if c.utf8Size ≤ bytes then (takeBytes (bytes - c.utf8Size) cs).map (c :: ·)
    else none

/-- The date at the start of a timestamp: its first ten bytes are read. -/
def readTimestamp? (cs : List Char) : Option Date :=
  (takeBytes 10 cs).bind read?

end Date

end Seedbed
