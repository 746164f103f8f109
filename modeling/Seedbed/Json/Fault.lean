/-!
# Faults of a JSON text

A text that is no JSON value is refused with a fault and a position: the line and the column up to
which the text was taken, which is one byte into the character that was refused, or the whole text
when it ends too early. Columns are counted in bytes (`position`).
-/

namespace Seedbed.Json

/-- Why a text is not a JSON value. -/
inductive Fault
  | endInValue
  | endInString
  | endInArray
  | endInObject
  | expectedValue
  | expectedWord
  | expectedColon
  | expectedArrayEnd
  | expectedObjectEnd
  | keyNotString
  | invalidNumber
  | numberOutOfRange
  | invalidEscape
  | controlCharacter
  | loneSurrogate
  | unexpectedEscapeEnd
  | trailingComma
  | trailingCharacters
  | tooDeep
  /-- A value that is no text where the text of an embedded value must stand. -/
  | notEmbedded (found : String)
  deriving DecidableEq, Repr

/-- The wording of a fault. -/
def Fault.message : Fault → String
  | endInValue => "EOF while parsing a value"
  | endInString => "EOF while parsing a string"
  | endInArray => "EOF while parsing a list"
  | endInObject => "EOF while parsing an object"
  | expectedValue => "expected value"
  | expectedWord => "expected ident"
  | expectedColon => "expected `:`"
  | expectedArrayEnd => "expected `,` or `]`"
  | expectedObjectEnd => "expected `,` or `\x7d`"
  | keyNotString => "key must be a string"
  | invalidNumber => "invalid number"
  | numberOutOfRange => "number out of range"
  | invalidEscape => "invalid escape"
  | controlCharacter => "control character (\\u0000-\\u001F) found while parsing a string"
  | loneSurrogate => "lone leading surrogate in hex escape"
  | unexpectedEscapeEnd => "unexpected end of hex escape"
  | trailingComma => "trailing comma"
  | trailingCharacters => "trailing characters"
  | tooDeep => "recursion limit exceeded"
  | notEmbedded found => "invalid type: " ++ found ++ ", expected raw value"

/-- A fault and where it was found. -/
structure ReadError where
  fault : Fault
  line : Nat
  column : Nat
  deriving DecidableEq, Repr

def ReadError.message (e : ReadError) : String :=
  e.fault.message ++ " at line " ++ toString e.line ++ " column " ++ toString e.column

/-- The line and the column, counted in bytes, at which the first `limit` bytes of a text end; the
walk has reached `offset`, and the last line started at `start`. -/
def position (limit : Nat) (line start offset : Nat) : List Char → Nat × Nat
  | [] => (line, limit - start)
  | c :: cs =>
    if limit ≤ offset then (line, limit - start)
    else if c = '\n' then position limit (line + 1) (offset + 1) (offset + 1) cs
    else position limit line start (offset + c.utf8Size) cs

/-- The error of a fault up to which `taken` bytes of a text were taken. -/
def ReadError.ofFault (cs : List Char) (fault : Fault) (taken : Nat) : ReadError :=
  let (line, column) := position taken 1 0 0 cs
  { fault, line, column }

end Seedbed.Json
