import Seedbed.Toml.Basic
import Seedbed.Toml.Numeral

/-!
# Reading a TOML document

A document is read line by line: comments, headers, and keys with values. It is refused at the place
where the reading stopped; a key or a header that writes something a second time is refused where it
starts. Fewer than 80 values hold one another.
-/

namespace Seedbed.Toml

open Reading

/-- Where a document is wrong. -/
structure ReadError where
  line : Nat
  column : Nat
  deriving DecidableEq, Repr

def ReadError.message (e : ReadError) : String :=
  "TOML parse error at line " ++ toString e.line ++ ", column " ++ toString e.column

/-- The place in a text where `left` characters are left. Columns count characters; at a character
of more than one byte they count bytes. The end of a text lies in its last line, behind its last
character, also when that ends a line. -/
def ReadError.ofPlace (text : List Char) (left : Nat) : ReadError :=
  let index := min (text.length - left) (text.length - 1)
  let before := text.take index
  let line := (before.reverse.takeWhile (· != '\n')).reverse
  let wide := left ≠ 0 ∧ (text[index]?).any (0x80 ≤ ·.toNat)
  let width := if wide then (line.map Char.utf8Size).foldr (· + ·) 0 else line.length
  { line := before.count '\n' + 1
    column := width + (text.length - left - index) + 1 }

/-- There are fewer values that hold one another than this, and fewer parts of a key. -/
def depthLimit : Nat := 80

/-- Whether a character is a blank inside a line. -/
def isInlineBlank (c : Char) : Bool :=
  c == ' ' || c == '\t'

/-- Whether a character may stand in a key without quotes. -/
def isBareKeyChar (c : Char) : Bool :=
  c.isAlphanum || c == '-' || c == '_'

/-- Takes the blanks that stand in front. -/
def blanks : Reading Unit := do
  let _ ← takeWhile isInlineBlank

/-- Takes a comment. -/
def comment : Reading Unit := do
  let _ ← expect '#'
  let _ ← takeWhile isTextChar

/-- Takes the end of a line. Another character is refused behind it. -/
def newLine : Reading Unit
  | '\n' :: rest => .ok ((), rest)
  | '\r' :: '\n' :: rest => .ok ((), rest)
  | _ :: rest => .error { rest, firm := false }
  | [] => .error { rest := [], firm := false }

/-- Takes the end of a line, which may be the end of the text. -/
def lineEnd : Reading Unit := fun text =>
  match text, newLine text with
  | [], _ => .ok ((), [])
  | _, .ok result => .ok result
  | _, .error _ => .error { rest := text, firm := false }

/-- Takes what may stand behind a value or a header: blanks, a comment, and the end of the line. -/
def trailing : Reading Unit := do
  blanks
  let _ ← optional comment
  lineEnd

/-- Takes blanks, line ends and comments, in at most `n` steps. -/
def gap : Nat → Reading Unit
  | 0 => return
  | n + 1 => do
    blanks
    match ← rest with
    | '#' :: _ => do
      comment
      newLine
      gap n
    | '\n' :: _ | '\r' :: _ => do
      newLine
      gap n
    | _ => return

/-- Takes one part of a key. -/
def keyPart : Reading KeyPart := do
  blanks
  let place := (← rest).length
  let name ← match ← rest with
    | '"' :: _ => readQuoted '"'
    | '\'' :: _ => readQuoted '\''
    | _ => choose (takeWhile isBareKeyChar) fun cs =>
      if cs.isEmpty then none else some (String.ofList cs)
  blanks
  return { name, place }

/-- Takes a key: its first part and the others. -/
def key : Reading (KeyPart × List KeyPart) := fun text =>
  choose (separated '.' keyPart (text.length + 1))
    (fun parts =>
      match parts with
      | part :: rest => if parts.length < depthLimit then some (part, rest) else none
      | [] => none)
    text

/-- A value and its place. -/
abbrev Placed := Nat × Value

/-- Takes an element of an array and the gap behind it. One that is refused openly is refused where
it starts, since the array might have ended there. -/
def element (value : Reading Placed) : Reading Placed := fun text =>
  match (do let placed ← value; gap (text.length + 1); return placed : Reading Placed) text with
  | .error { firm := false, .. } => .error { rest := text, firm := false }
  | result => result

/-- Takes the elements of an array, up to its bracket, in at most `n` steps. -/
def elements (value : Reading Placed) : Nat → Reading (List Placed)
  | 0 => refuse
  | n + 1 => fun text => do
    let (_, start) ← gap (text.length + 1) text
    match start with
    | ']' :: rest => return ([], rest)
    | _ => do
      let (first, rest) ← element value start
      match rest with
      | ',' :: rest => do
        let (others, rest) ← elements value n rest
        return (first :: others, rest)
      | ']' :: rest => return ([first], rest)
      | _ => .error { rest, firm := false }

/-- Takes an array behind its opening bracket. -/
def arrayItems (value : Reading Placed) : Reading Value := do
  let items ← firmly fun text => elements value (text.length + 1) text
  return .array items

/-- Takes a key with its value, in a table in braces. -/
def pair (value : Reading Placed) : Reading (KeyPart × List KeyPart × Nat × Value) := do
  let (part, parts) ← key
  firmly do
    let _ ← expect '='
    blanks
    let placed ← value
    blanks
    return (part, parts, placed)

/-- Takes a table behind its opening brace. A name that is given twice is refused at the start. -/
def inlineMembers (value : Reading Placed) : Reading Value :=
  firmly do
    let members ← choose
      (do
        let pairs ← optional fun text => separated ',' (pair value) (text.length + 1) text
        blanks
        return pairs.getD [])
      Members.ofPairs
    let _ ← expect '\x7d'
    return .inlineTable members

/-- Takes a value; `nested` takes the values inside it, if it may hold any. -/
def valueWith (nested : Option (Reading Placed)) : Reading Value := do
  match ← rest with
  | '"' :: _ => return .string (← readString '"')
  | '\'' :: _ => return .string (← readString '\'')
  | '[' :: inside =>
    match nested with
    | some value => do
      continueWith inside
      return ← arrayItems value
    | none => firmly refuse
  | '\x7b' :: inside =>
    match nested with
    | some value => do
      continueWith inside
      return ← inlineMembers value
    | none => firmly refuse
  | 't' :: _ => firmly (expectWord ['t', 'r', 'u', 'e'])
  | 'f' :: _ => firmly (expectWord ['f', 'a', 'l', 's', 'e'])
  | 'i' :: _ => expectWord ['i', 'n', 'f']
  | 'n' :: _ => expectWord ['n', 'a', 'n']
  | c :: _ => if c.isDigit ∨ c = '+' ∨ c = '-' then numeral else refuse
  | [] => refuse
  return .plain

/-- Takes a value with its place. -/
def placed (reading : Reading Value) : Reading Placed := do
  let place := (← rest).length
  return (place, ← reading)

/-- Takes a value that may hold others `depth` deep. -/
def value : Nat → Reading Placed
  | 0 => placed (valueWith none)
  | depth + 1 => placed (valueWith (some (value depth)))

/-- The members that were read so far, and the header under which lines stand. -/
structure Document where
  members : Members
  header : List KeyPart

/-- Takes a key with its value, on a line. -/
def keyLine (document : Document) : Reading Document :=
  choose
    (do
      let (part, parts) ← key
      firmly do
        let _ ← expect '='
        blanks
        let placed ← value (depthLimit - 1)
        trailing
        return (part, parts, placed))
    fun (part, parts, place, value) =>
      (document.members.within (Members.insertDotted place value part parts) document.header).map
        fun members => { document with members }

/-- Takes the header of a table, or of one of several tables of a name. A bracket that nothing
follows is refused. -/
def headerLine (document : Document) : Reading Document := fun text =>
  if text.length < 2 then .error { rest := text, firm := true } else
  let double := ['[', '['].isPrefixOf text
  let openMember := if double then Members.openElement else Members.openTable
  choose
    (do
      continueWith (text.drop (if double then 2 else 1))
      let (part, parts) ← key
      expectWord (if double then [']', ']'] else [']'])
      trailing
      return part :: parts)
    (fun header =>
      match header.getLast? with
      | none => none
      | some last =>
        (document.members.within (openMember text.length last.name) header.dropLast).map
          fun members => { members, header })
    text

/-- Takes the lines of a document, at most `n` of them. -/
def lines : Nat → Document → Reading Document
  | 0, document => return document
  | n + 1, document => do
    blanks
    match ← rest with
    | [] => return document
    | '#' :: _ => do
      comment
      lineEnd
      lines n document
    | '[' :: _ => do lines n (← headerLine document)
    | '\n' :: _ | '\r' :: _ => do
      lineEnd
      lines n document
    | _ => do lines n (← keyLine document)

/-- The mark that may stand in front of a text. -/
def byteOrderMark : Char := Char.ofNat 0xFEFF

/-- The members of a document. -/
def parse (text : List Char) : Except ReadError Members :=
  let body := if text.head? = some byteOrderMark then text.drop 1 else text
  match lines (body.length + 1) { members := [], header := [] } body with
  | .ok (document, _) => .ok document.members
  | .error refusal => .error (.ofPlace text refusal.rest.length)

end Seedbed.Toml
