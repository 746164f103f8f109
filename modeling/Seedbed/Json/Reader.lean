import Seedbed.Json.Fault
import Seedbed.Json.Numeral
import Seedbed.Json.Printer
import Seedbed.Text.Hex

/-!
# Reading a JSON text

A text is read one character at a time by a machine (`Reader`) that keeps the containers that are
still open and what may stand next. `Reader.step` takes one character; nothing is read twice, so a
text is read by a plain recursion over its characters.

How objects are read is a parameter (`Style`): `Json.parse` lets a repeated name keep its first
position and its last value, and knows objects that embed the text of another value;
`Json.readAll` keeps every member.
-/

namespace Seedbed.Json

/-- How objects are read: what becomes of the members of one, and how the text that one embeds is
read, if there are objects that embed a text. -/
structure Style where
  join : Fields Json → Fields Json
  embedded : Option (String → Except ReadError Json) := none

/-- The first key of an object that stands for the value whose text is under that key. -/
def embeddingKey : String := "$serde_json::private::RawValue"

/-- The name of the kind of a value, with its text where it is short. -/
def kindOf : Json → String
  | .null => "null"
  | .bool value => "boolean `" ++ (if value then "true" else "false") ++ "`"
  | .integer value => "integer `" ++ (Json.integer value).render ++ "`"
  | .real value => "floating point `" ++ (Json.real value).render ++ "`"
  | .string _ => "string"
  | .array _ => "sequence"
  | .object _ => "map"

/-- A container that is still open, its contents last first. `member` stands for an object whose
last key still awaits its value, `embedding` for an object that awaits the text it embeds, and
`embedded` for one whose embedded value is complete. -/
inductive Frame
  | array (items : List Json)
  | object (members : Fields Json)
  | member (members : Fields Json) (key : String)
  | embedding
  | embedded (value : Json)

/-- Where a value is awaited. -/
inductive ValuePlace
  | document
  | firstItem
  | nextItem
  | member
  | embedding
  deriving DecidableEq

/-- Where in an escape of a string the reader stands. `hex` awaits that many more bytes of a four
digit code, has seen only hexadecimal digits if `good`, and remembers the first half of a pair. -/
inductive EscapePlace
  | none
  | letter
  | hex (awaited : Nat) (good : Bool) (code : Nat) (high : Option Nat)
  | pairBackslash (high : Nat)
  | pairLetter (high : Nat)

/-- What may stand next. `string` and `number` are in the middle of their token. -/
inductive Mode
  | value (place : ValuePlace)
  | key (first : Bool)
  | colon (key : String)
  | next
  | word (rest : List Char) (value : Json)
  | number (n : Numeral)
  | string (isKey : Bool) (chars : List Char) (escape : EscapePlace)
  | ended (value : Json)

/-- The state of the reader. -/
structure Reader where
  frames : List Frame := []
  mode : Mode := .value .document

/-- Why the reader stops at a character. -/
inductive Stop
  /-- A fault, and how many bytes of the character were taken before it was found. -/
  | fault (fault : Fault) (taken : Nat)
  /-- The fault of an embedded text. -/
  | embedded (error : ReadError)
  /-- The document is complete and this character does not belong to it. -/
  | surplus (value : Json)

/-- A step of the reader: its next state, or why it stops. -/
abbrev ReaderStep := Except Stop Reader

/-- A fault that is found at a character. -/
def refuse (fault : Fault) : ReaderStep :=
  .error (.fault fault 1)

/-- The white space of JSON. -/
def isSpace (c : Char) : Bool :=
  c = ' ' || c = '\n' || c = '\t' || c = '\r'

/-- How many containers may be open at once. -/
def largestDepth : Nat := 127

namespace Reader

/-- The reader once a value is complete, `taken` bytes into a character. -/
def accept (style : Style) (r : Reader) (value : Json) (taken : Nat) : ReaderStep :=
  match r.frames with
  | [] => .ok { r with mode := .ended value }
  | .array items :: frames => .ok { frames := .array (value :: items) :: frames, mode := .next }
  | .member members key :: frames =>
    .ok { frames := .object ((key, value) :: members) :: frames, mode := .next }
  | .embedding :: frames =>
    match style.embedded, value with
    | some read, .string text =>
      match read text with
      | .ok value => .ok { frames := .embedded value :: frames, mode := .next }
      | .error error => .error (.embedded error)
    | _, _ => .error (.fault (.notEmbedded (kindOf value)) taken)
  | .object _ :: _ | .embedded _ :: _ => .ok { r with mode := .next }

/-- Opens a container. -/
def openFrame (r : Reader) (frame : Frame) (mode : Mode) : ReaderStep :=
  if r.frames.length < largestDepth then .ok { frames := frame :: r.frames, mode }
  else refuse .tooDeep

/-- Closes the innermost container, which holds what was read into it. -/
def close (style : Style) (r : Reader) : ReaderStep :=
  match r.frames with
  | .array items :: frames => { r with frames }.accept style (.array items.reverse) 1
  | .object members :: frames =>
    { r with frames }.accept style (.object (style.join members.reverse)) 1
  | .embedded value :: frames => { r with frames }.accept style value 1
  | _ => .ok r

/-- The reader behind the sign or the first digit of a number. -/
def startNumber (r : Reader) (c : Char) : ReaderStep :=
  if c = '-' then .ok { r with mode := .number { negative := true, place := .sign } }
  else
    match Numeral.digit { place := .sign } (Number.digitValue c) with
    | .more n => .ok { r with mode := .number n }
    | _ => refuse .expectedValue

/-- A character where a value must start. -/
def startValue (style : Style) (r : Reader) (place : ValuePlace) (c : Char) : ReaderStep :=
  if isSpace c then .ok r
  else if c = '"' then .ok { r with mode := .string false [] .none }
  else if c = '[' then r.openFrame (.array []) (.value .firstItem)
  else if c = '\x7b' then r.openFrame (.object []) (.key true)
  else if c = 't' then .ok { r with mode := .word "rue".toList (.bool true) }
  else if c = 'f' then .ok { r with mode := .word "alse".toList (.bool false) }
  else if c = 'n' then .ok { r with mode := .word "ull".toList .null }
  else if c = '-' || c.isDigit then r.startNumber c
  else if c = ']' then
    match place with
    | .firstItem => r.close style
    | .nextItem => refuse .trailingComma
    | _ => refuse .expectedValue
  else refuse .expectedValue

/-- A character where the text of an embedded value must start. A container is refused in front of
its bracket, any other value behind its end. -/
def startEmbedded (style : Style) (r : Reader) (c : Char) : ReaderStep :=
  if c = '[' then .error (.fault (.notEmbedded (kindOf (.array []))) 0)
  else if c = '\x7b' then .error (.fault (.notEmbedded (kindOf (.object []))) 0)
  else r.startValue style .embedding c

/-- A character where a key must start. -/
def startKey (style : Style) (r : Reader) (first : Bool) (c : Char) : ReaderStep :=
  if isSpace c then .ok r
  else if c = '"' then .ok { r with mode := .string true [] .none }
  else if c = '\x7d' then if first then r.close style else refuse .trailingComma
  else refuse .keyNotString

/-- Whether an object with these members before a key embeds a text under it. -/
def embeds (style : Style) (members : Fields Json) (key : String) : Bool :=
  style.embedded.isSome && members.isEmpty && key == embeddingKey

/-- A character between a key and its value. -/
def awaitColon (style : Style) (r : Reader) (key : String) (c : Char) : ReaderStep :=
  if isSpace c then .ok r
  else if c = ':' then
    match r.frames with
    | .object members :: frames =>
      if embeds style members key then
        .ok { frames := .embedding :: frames, mode := .value .embedding }
      else .ok { frames := .member members key :: frames, mode := .value .member }
    | _ => refuse .expectedColon
  else refuse .expectedColon

/-- A character behind a value inside a container. -/
def afterValue (style : Style) (r : Reader) (c : Char) : ReaderStep :=
  if isSpace c then .ok r
  else
    match r.frames with
    | .array _ :: _ =>
      if c = ',' then .ok { r with mode := .value .nextItem }
      else if c = ']' then r.close style
      else refuse .expectedArrayEnd
    | .embedded _ :: _ =>
      if c = '\x7d' then r.close style
      else if c = ',' then refuse .trailingComma
      else refuse .trailingCharacters
    | _ =>
      if c = ',' then .ok { r with mode := .key false }
      else if c = '\x7d' then r.close style
      else refuse .expectedObjectEnd

/-- A character behind the document. -/
def afterDocument (r : Reader) (value : Json) (c : Char) : ReaderStep :=
  if isSpace c then .ok r else .error (.surplus value)

/-- A character behind a value, inside a container or not. -/
def settled (style : Style) (c : Char) (r : Reader) : ReaderStep :=
  match r.mode with
  | .ended value => r.afterDocument value c
  | _ => r.afterValue style c

/-- A character inside a number. The character that ends it is taken as what follows the number. -/
def inNumber (style : Style) (r : Reader) (n : Numeral) (c : Char) : ReaderStep :=
  match n.step c with
  | .more n => .ok { r with mode := .number n }
  | .invalid => refuse .invalidNumber
  | .outOfRange => refuse .numberOutOfRange
  | .done =>
    match n.value with
    | none => .error (.fault .numberOutOfRange 0)
    | some value => r.accept style value 0 >>= settled style c

/-- The character that an escape letter stands for. -/
def escaped? (c : Char) : Option Char :=
  match c with
  | '"' => some '"'
  | '\\' => some '\\'
  | '/' => some '/'
  | 'b' => some (Char.ofNat 8)
  | 'f' => some (Char.ofNat 12)
  | 'n' => some '\n'
  | 'r' => some '\r'
  | 't' => some '\t'
  | _ => none

/-- Whether a code is the first half of a surrogate pair. -/
def isHighHalf (code : Nat) : Bool :=
  0xD800 ≤ code && code ≤ 0xDBFF

/-- Whether a code is the second half of a surrogate pair. -/
def isLowHalf (code : Nat) : Bool :=
  0xDC00 ≤ code && code ≤ 0xDFFF

/-- The end of a four digit code, found `taken` bytes into a character. -/
def endCode (r : Reader) (isKey : Bool) (chars : List Char) (code : Nat) (high : Option Nat)
    (taken : Nat) : ReaderStep :=
  match high with
  | some high =>
    if isLowHalf code then
      let c := Char.ofNat (0x10000 + (high - 0xD800) * 0x400 + (code - 0xDC00))
      .ok { r with mode := .string isKey (c :: chars) .none }
    else .error (.fault .loneSurrogate taken)
  | none =>
    if isLowHalf code then .error (.fault .loneSurrogate taken)
    else if isHighHalf code then .ok { r with mode := .string isKey chars (.pairBackslash code) }
    else .ok { r with mode := .string isKey (Char.ofNat code :: chars) .none }

/-- A character inside a string, its characters so far last first. -/
def inString (style : Style) (r : Reader) (isKey : Bool) (chars : List Char) (place : EscapePlace)
    (c : Char) : ReaderStep :=
  match place with
  | .none =>
    if c = '"' then
      let text := String.ofList chars.reverse
      if isKey then .ok { r with mode := .colon text } else r.accept style (.string text) 1
    else if c = '\\' then .ok { r with mode := .string isKey chars .letter }
    else if c.toNat < 0x20 then refuse .controlCharacter
    else .ok { r with mode := .string isKey (c :: chars) .none }
  | .letter =>
    if c = 'u' then .ok { r with mode := .string isKey chars (.hex 4 true 0 none) }
    else
      match escaped? c with
      | some e => .ok { r with mode := .string isKey (e :: chars) .none }
      | none => refuse .invalidEscape
  | .hex awaited good code high =>
    let digit := Text.hexValue? c
    let good := good && digit.isSome
    let code := code * 16 + digit.getD 0
    if awaited ≤ c.utf8Size then
      if good then r.endCode isKey chars code high awaited
      else .error (.fault .invalidEscape awaited)
    else .ok { r with mode := .string isKey chars (.hex (awaited - c.utf8Size) good code high) }
  | .pairBackslash high =>
    if c = '\\' then .ok { r with mode := .string isKey chars (.pairLetter high) }
    else refuse .unexpectedEscapeEnd
  | .pairLetter high =>
    if c = 'u' then .ok { r with mode := .string isKey chars (.hex 4 true 0 (some high)) }
    else refuse .unexpectedEscapeEnd

/-- A character inside one of the words `true`, `false` and `null`. -/
def inWord (style : Style) (r : Reader) (rest : List Char) (value : Json) (c : Char) :
    ReaderStep :=
  match rest with
  | [] => refuse .expectedWord
  | e :: rest =>
    if c ≠ e then refuse .expectedWord
    else if rest.isEmpty then r.accept style value 1
    else .ok { r with mode := .word rest value }

/-- Takes one character. -/
def step (style : Style) (r : Reader) (c : Char) : ReaderStep :=
  match r.mode with
  | .value .embedding => r.startEmbedded style c
  | .value place => r.startValue style place c
  | .key first => r.startKey style first c
  | .colon key => r.awaitColon style key c
  | .next => r.afterValue style c
  | .word rest value => r.inWord style rest value c
  | .number n => r.inNumber style n c
  | .string isKey chars place => r.inString style isKey chars place c
  | .ended value => r.afterDocument value c

/-- The fault of a text that ends inside a container. -/
def endInFrame (r : Reader) : Fault :=
  match r.frames with
  | .array _ :: _ => .endInArray
  | _ => .endInObject

/-- The value of a text that ends here. -/
def finish (style : Style) (r : Reader) : Except Stop Json :=
  let refuse (fault : Fault) : Except Stop Json := .error (.fault fault 0)
  match r.mode with
  | .ended value => .ok value
  | .value .firstItem => refuse .endInArray
  | .value _ => refuse .endInValue
  | .key first => refuse (if first then .endInObject else .endInValue)
  | .colon _ => refuse .endInObject
  | .next => refuse r.endInFrame
  | .word _ _ => refuse .endInValue
  | .string _ _ _ => refuse .endInString
  | .number n =>
    if !n.complete then refuse .endInValue
    else
      match n.value with
      | none => refuse .numberOutOfRange
      | some value => do
        match (← r.accept style value 0).mode with
        | .ended value => return value
        | _ => refuse r.endInFrame

/-- Takes the characters of a text from a byte offset on. The document may end before the text does:
the offset of what is left comes with its value. Otherwise the reader stops with its offset. -/
def run (style : Style) (r : Reader) (offset : Nat) :
    List Char → Except (Stop × Nat) (Json × Option Nat)
  | [] => (r.finish style).map (·, none) |>.mapError (·, offset)
  | c :: cs =>
    match r.step style c with
    | .ok r => r.run style (offset + c.utf8Size) cs
    | .error (.surplus value) => .ok (value, some offset)
    | .error stop => .error (stop, offset)

end Reader

/-- The error of a text at which the reader stopped at a byte offset. -/
def ReadError.ofStop (cs : List Char) (stop : Stop) (offset : Nat) : ReadError :=
  match stop with
  | .fault fault taken => .ofFault cs fault (offset + taken)
  | .embedded error => error
  | .surplus _ => .ofFault cs .trailingCharacters (offset + 1)

/-- A value that stands at the front of a text, and the error of what is left, if that is not
blank. -/
structure Front where
  value : Json
  surplus : Option ReadError

/-- Reads the value at the front of a text. -/
def readFront (style : Style) (text : String) : Except ReadError Front :=
  let cs := text.toList
  match ({} : Reader).run style 0 cs with
  | .error (stop, offset) => .error (.ofStop cs stop offset)
  | .ok (value, surplus) =>
    .ok { value, surplus := surplus.map fun offset => .ofStop cs (.surplus value) offset }

/-- The value of a text that holds nothing else. -/
def Front.alone (front : Front) : Except ReadError Json :=
  match front.surplus with
  | some error => .error error
  | none => .ok front.value

/-- The style of texts in which, of a repeated name, the last value counts, at the first position,
and in which texts may be embedded up to `depth` times in each other. -/
def Style.standard : Nat → Style
  | 0 => { join := Fields.ofMembers }
  | depth + 1 =>
    { join := Fields.ofMembers
      embedded := some fun text => readFront (standard depth) text >>= Front.alone }

/-- The style for a text. An embedded text is shorter than the text around it, so its length is
depth enough. -/
def Style.of (text : String) : Style :=
  .standard text.length

/-- Reads a text. -/
def parse (text : String) : Except ReadError Json :=
  readFront (.of text) text >>= Front.alone

/-- Reads the value at the front of a text, with every member of its objects. -/
def readAll (text : String) : Except ReadError Front :=
  readFront { join := id } text

end Seedbed.Json
