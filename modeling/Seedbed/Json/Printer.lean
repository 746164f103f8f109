import Seedbed.Json.Basic
import Seedbed.Number.Shortest
import Seedbed.Number.Integer

/-!
# The text of a JSON value

`render` writes a value without spaces and `pretty` with two spaces of indentation. A real is
written with the fewest digits that read back (`Seedbed.Number.Binary.shortest`); `realText` fixes
the rest of its form: positional from `1e-5` up to below `1e16` and always with a point, else with
an exponent that carries its sign. Infinities and NaN have no JSON text and are written `null`.
-/

namespace Seedbed.Json

/-- A lower-case hexadecimal digit. -/
def hexDigit (n : Nat) : Char :=
  (Nat.toDigits 16 (n % 16)).headD '0'

/-- The escape of one character in a string: quotes, backslashes and control characters. -/
def escape (c : Char) : List Char :=
  match c with
  | '"' => ['\\', '"']
  | '\\' => ['\\', '\\']
  | '\n' => ['\\', 'n']
  | '\r' => ['\\', 'r']
  | '\t' => ['\\', 't']
  | c =>
    if c.toNat = 8 then ['\\', 'b']
    else if c.toNat = 12 then ['\\', 'f']
    else if c.toNat < 32 then
      ['\\', 'u', '0', '0', hexDigit (c.toNat / 16), hexDigit c.toNat]
    else [c]

/-- A text as a JSON string. -/
def quote (text : String) : String :=
  String.ofList ('"' :: (text.toList.flatMap escape ++ ['"']))

/-- The smallest and the largest decimal exponent that is written positionally. -/
def positionalExponents : Int × Int := (-5, 15)

/-- The text of a decimal: `digits` without zeros at its end, times a power of ten. -/
def decimalText (d : Number.Decimal) : List Char :=
  let ds := Number.digits d.digits
  let lead : Int := (ds.length : Int) - 1 + d.exponent
  if positionalExponents.1 ≤ lead ∧ lead ≤ positionalExponents.2 then
    if 0 ≤ d.exponent then ds ++ List.replicate d.exponent.toNat '0' ++ ['.', '0']
    else if 0 ≤ lead then
      ds.take (lead.toNat + 1) ++ '.' :: ds.drop (lead.toNat + 1)
    else '0' :: '.' :: (List.replicate (-lead - 1).toNat '0' ++ ds)
  else
    let fraction := match ds.drop 1 with
      | [] => []
      | rest => '.' :: rest
    let sign := if lead < 0 then '-' else '+'
    ds.take 1 ++ fraction ++ 'e' :: sign :: Number.digits lead.natAbs

/-- The text of a real number. -/
def realText (x : Float) : List Char :=
  match Number.decode x with
  | none => "null".toList
  | some b =>
    let text := decimalText b.shortest
    if b.negative then '-' :: text else text

/-- The text of a value without children; containers are left to `render` and `pretty`. -/
def leafText : Json → String
  | null => "null"
  | bool true => "true"
  | bool false => "false"
  | integer i => String.ofList (Number.integerText i)
  | real x => String.ofList (realText x)
  | string text => quote text
  | array _ => "[]"
  | object _ => "\x7b\x7d"

mutual

/-- The text of a value without spaces. -/
def render : Json → String
  | array items => "[" ++ renderItems items ++ "]"
  | object members => "\x7b" ++ renderMembers members ++ "\x7d"
  | value => leafText value

/-- The items of an array, separated by commas. -/
def renderItems : List Json → String
  | [] => ""
  | [item] => render item
  | item :: items => render item ++ "," ++ renderItems items

/-- The members of an object, separated by commas. -/
def renderMembers : Fields Json → String
  | [] => ""
  | [(name, value)] => quote name ++ ":" ++ render value
  | (name, value) :: members => quote name ++ ":" ++ render value ++ "," ++ renderMembers members

end

/-- A new line with `depth` levels of indentation. -/
def newLine (depth : Nat) : String :=
  String.ofList ('\n' :: List.replicate (2 * depth) ' ')

mutual

/-- The text of a value on lines of its own, at a depth of indentation; an empty container stays on
one line. -/
def prettyAt (depth : Nat) : Json → String
  | array [] => "[]"
  | array items =>
    "[" ++ newLine (depth + 1) ++ prettyItems (depth + 1) items ++ newLine depth ++ "]"
  | object [] => "\x7b\x7d"
  | object members =>
    "\x7b" ++ newLine (depth + 1) ++ prettyMembers (depth + 1) members ++ newLine depth ++ "\x7d"
  | value => leafText value

/-- The items of an array, each on its line. -/
def prettyItems (depth : Nat) : List Json → String
  | [] => ""
  | [item] => prettyAt depth item
  | item :: items => prettyAt depth item ++ "," ++ newLine depth ++ prettyItems depth items

/-- The members of an object, each on its line. -/
def prettyMembers (depth : Nat) : Fields Json → String
  | [] => ""
  | [(name, value)] => quote name ++ ": " ++ prettyAt depth value
  | (name, value) :: members =>
    quote name ++ ": " ++ prettyAt depth value ++ "," ++ newLine depth ++
      prettyMembers depth members

end

/-- The text of a value on lines of its own. -/
def pretty (value : Json) : String :=
  prettyAt 0 value

/-- A value inside a text: a string as it is, any other value as its JSON text. -/
def inText : Json → String
  | string text => text
  | value => render value

end Seedbed.Json
