import Seedbed.Text.Hex

/-!
# Percent escapes

In a URL a percent sign with two hexadecimal digits stands for a byte; every other character stands
for the bytes that code it.
-/

namespace Seedbed.Url

/-- The bytes of an escape behind its percent sign, with what follows it. -/
def escape? : List Char → Option (UInt8 × List Char)
  | a :: b :: rest => do
    return (UInt8.ofNat ((← Text.hexValue? a) * 16 + (← Text.hexValue? b)), rest)
  | _ => none

/-- The bytes that a text stands for, in at most `n` steps. -/
def unescapeUpTo : Nat → List Char → List UInt8
  | 0, _ => []
  | _ + 1, [] => []
  | n + 1, c :: rest =>
    let escaped := if c = '%' then escape? rest else none
    match escaped with
    | some (byte, rest) => byte :: unescapeUpTo n rest
    | none => String.utf8EncodeChar c ++ unescapeUpTo n rest

/-- The bytes that a text stands for. -/
def unescape (text : List Char) : List UInt8 :=
  unescapeUpTo text.length text

end Seedbed.Url
