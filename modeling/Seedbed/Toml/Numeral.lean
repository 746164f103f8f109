import Seedbed.Calendar.Date
import Seedbed.Number.Integer
import Seedbed.Number.Real
import Seedbed.Toml.Quoted

/-!
# Numbers, dates and times

These values are only taken off the text and checked: the digits and marks that they consist of, and
the range of an integer, of a real number, and of each part of a date or a time.
-/

namespace Seedbed.Toml

open Reading

/-- Takes more digits of a number. An underscore must stand between two digits. -/
def moreDigits (isGood : Char → Bool) : Reading Unit
  | '_' :: c :: rest =>
    if isGood c then moreDigits isGood rest else .error { rest := c :: rest, firm := true }
  | ['_'] => .error { rest := [], firm := true }
  | c :: rest => if isGood c then moreDigits isGood rest else .ok ((), c :: rest)
  | [] => .ok ((), [])

/-- Takes digits, at least one. -/
def someDigits (isGood : Char → Bool) : Reading Unit := do
  let _ ← accept isGood
  moreDigits isGood

/-- Takes a sign if there is one. -/
def optionalSign : Reading Unit := do
  let _ ← optional (accept fun c => c == '+' || c == '-')

/-- Takes a decimal integer: a zero stands alone. -/
def decimalInteger : Reading Unit := do
  optionalSign
  let first ← accept Char.isDigit
  if first ≠ '0' then moreDigits Char.isDigit

/-- Takes an exponent. -/
def exponent : Reading Unit := do
  let _ ← accept fun c => c == 'e' || c == 'E'
  optionalSign
  firmly (someDigits Char.isDigit)

/-- Takes a fraction. -/
def fraction : Reading Unit := do
  let _ ← expect '.'
  firmly (someDigits Char.isDigit)

/-- What a reading takes off the text, without underscores. -/
def taken (reading : Reading Unit) : Reading (List Char) := fun text =>
  match reading text with
  | .error refusal => .error refusal
  | .ok (_, rest) => .ok ((text.take (text.length - rest.length)).filter (· != '_'), rest)

/-- A value, refused firmly where the reading began if it is not in range. -/
def inRange {α : Type} (reading : Reading α) (isGood : α → Bool) : Reading Unit := fun text =>
  match reading text with
  | .error refusal => .error refusal
  | .ok (value, rest) =>
    if isGood value then .ok ((), rest) else .error { rest := text, firm := true }

/-- Takes an integer in a base that its second character names. -/
def basedInteger (base : Nat) (isGood : Char → Bool) : Reading Unit :=
  inRange
    (taken do
      continueWith ((← rest).drop 2)
      firmly (someDigits isGood))
    fun chars =>
      (chars.drop 2).foldl (fun value c => value * base + (Text.hexValue? c).getD 0) 0 < 2 ^ 63

/-- Takes an integer of 64 bits. -/
def integer : Reading Unit := do
  match ← rest with
  | '0' :: 'x' :: _ => basedInteger 16 Text.isHexDigit
  | '0' :: 'o' :: _ => basedInteger 8 fun c => '0' ≤ c && c ≤ '7'
  | '0' :: 'b' :: _ => basedInteger 2 fun c => c == '0' || c == '1'
  | _ => inRange (taken decimalInteger) fun chars => (Number.readInteger 64 chars).isSome

/-- Takes a real number with a fraction, an exponent or both. It may not be larger than all
doubles. -/
def plainReal : Reading Unit :=
  inRange
    (taken do
      decimalInteger
      orElse exponent do
        fraction
        let _ ← optional exponent)
    fun chars => (Number.readReal chars).any (· < 1.0 / 0.0)

/-- Takes a real number. -/
def real : Reading Unit :=
  orElse plainReal do
    optionalSign
    orElse (expectWord ['i', 'n', 'f']) (expectWord ['n', 'a', 'n'])

/-- Takes `n` digits whose value is in a range. -/
def digitsBetween (n low high : Nat) : Reading Nat :=
  choose
    (fun text =>
      if (text.take n).length = n ∧ (text.take n).all Char.isDigit then
        .ok (text.take n, text.drop n)
      else .error { rest := text, firm := false })
    fun digits =>
      let value := Nat.ofDigitChars 10 digits 0
      if low ≤ value ∧ value ≤ high then some value else none

/-- Takes a date. -/
def date : Reading Unit := do
  let year ← digitsBetween 4 0 9999
  let _ ← expect '-'
  firmly do
    let month ← digitsBetween 2 1 12
    let _ ← expect '-'
    let _ ← digitsBetween 2 1 (Civil.monthLength year month)

/-- Takes a time of the day. -/
def time : Reading Unit := do
  let _ ← digitsBetween 2 0 23
  let _ ← expect ':'
  firmly do
    let _ ← digitsBetween 2 0 59
    let _ ← expect ':'
    let _ ← digitsBetween 2 0 60
    let _ ← optional do
      let _ ← expect '.'
      let _ ← accept Char.isDigit
      takeWhile Char.isDigit

/-- Takes the distance of a time from universal time. -/
def offset : Reading Unit :=
  orElse (do let _ ← accept fun c => c == 'Z' || c == 'z') do
    let _ ← accept fun c => c == '+' || c == '-'
    firmly do
      let _ ← digitsBetween 2 0 23
      let _ ← expect ':'
      let _ ← digitsBetween 2 0 59

/-- Takes a date, a time, or both. -/
def moment : Reading Unit :=
  orElse
    (do
      date
      let _ ← optional do
        let _ ← accept fun c => c == 'T' || c == 't' || c == ' '
        time
        optional offset)
    time

/-- Takes a value that starts with a digit or a sign. -/
def numeral : Reading Unit :=
  orElse moment (orElse real integer)

end Seedbed.Toml
