import Seedbed.Generator.Basic

/-!
# Primitive generators

Identifiers, truth values, texts over an alphabet and dates near the base date. The length of a text
and the span of days are the first argument, or a default, and are held within fixed bounds.
-/

namespace Seedbed.Primitive

open Seedbed.Random

/-- The longest text, and the largest number of words, that an argument can ask for. -/
def maxLength : Nat := 10000

/-- The largest span of days. -/
def maxSpan : Int := 1000000

/-- A number held between two bounds. -/
def clamp (low high value : Int) : Int :=
  if value < low then low else if high < value then high else value

/-- Two lower-case hexadecimal digits. -/
def hexByte (b : Nat) : List Char :=
  [(Nat.toDigits 16 (b / 16 % 16)).headD '0', (Nat.toDigits 16 (b % 16)).headD '0']

/-- Marks sixteen bytes as a random identifier of version 4. -/
def markIdentifier (bytes : List Nat) : List Nat :=
  bytes.zipIdx.map fun (b, i) =>
    if i = 6 then b % 16 + 64
    else if i = 8 then b % 64 + 128
    else b

/-- Sixteen bytes as text, in groups with hyphens between them. -/
def identifierText (bytes : List Nat) : List Char :=
  let hex (from_ count : Nat) := (bytes.drop from_ |>.take count).flatMap hexByte
  hex 0 4 ++ '-' :: (hex 4 2 ++ '-' :: (hex 6 2 ++ '-' :: (hex 8 2 ++ '-' :: hex 10 6)))

/-- A random identifier. -/
def uuid : Generator :=
  .text "string.uuid" fun _ => do
    let bytes ← Draw.bytes 16
    return String.ofList (identifierText (markIdentifier bytes))

/-- A truth value. -/
def boolean : Generator :=
  .drawing "datatype.boolean" fun _ => Json.bool <$> Draw.coin

/-- The letters. -/
def letters : Array Char :=
  "abcdefghijklmnopqrstuvwxyzABCDEFGHIJKLMNOPQRSTUVWXYZ".toList.toArray

/-- The letters and the digits. -/
def lettersAndDigits : Array Char :=
  letters ++ "0123456789".toList.toArray

/-- The length that a request asks for. -/
def lengthOf (request : Request) : Nat :=
  min (request.argumentOr (Number.readNatural 64) 0 1) maxLength

/-- A text over an alphabet. -/
def overAlphabet (id : String) (alphabet : Array Char) : Generator :=
  .text id fun request => do
    let cs ← Draw.times (lengthOf request) (Draw.charOf alphabet)
    return String.ofList cs

/-- A text over an alphabet is as many characters of it, drawn one after another, as a request asks
for. -/
theorem overAlphabet_run (id : String) (alphabet : Array Char) (request : Request)
    (source : Source) :
    (overAlphabet id alphabet).run request source =
      let drawn := Draw.times (lengthOf request) (Draw.charOf alphabet) source
      (.ok (.string (String.ofList drawn.1)), drawn.2) :=
  rfl

def alpha : Generator := overAlphabet "string.alpha" letters

def alphanumeric : Generator := overAlphabet "string.alphanumeric" lettersAndDigits

/-- On which side of the base date a date lies. -/
inductive Direction
  | before
  | after
  deriving DecidableEq

/-- A number of days in a direction. -/
def Direction.days : Direction → Int → Int
  | before, n => -n
  | after, n => n

/-- The span of days that a request asks for. -/
def spanOf (request : Request) (default : Int) : Int :=
  clamp 1 maxSpan (request.argumentOr (Number.readInteger 64) 0 default)

/-- A date at least one day and at most a span of days before or after the base date. -/
def relativeDate (id : String) (direction : Direction) (default : Int) : Generator where
  id
  run request source :=
    let (distance, source) := Draw.int 1 (spanOf request default) source
    let days := direction.days distance
    match request.today.addDays? days with
    | some date => (.ok (.string date.toText), source)
    | none =>
      let message := String.ofList (Number.integerText days) ++ " days from " ++
        request.today.toText ++ " is out of range"
      (.error { id, message }, source)

def datePast : Generator := relativeDate "date.past" .before 365

def dateRecent : Generator := relativeDate "date.recent" .before 7

def dateFuture : Generator := relativeDate "date.future" .after 365

def dateSoon : Generator := relativeDate "date.soon" .after 7

/-- The primitive generators. -/
def generators : List Generator :=
  [uuid, boolean, alpha, alphanumeric, datePast, dateRecent, dateFuture, dateSoon]

end Seedbed.Primitive
