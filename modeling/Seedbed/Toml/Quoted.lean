import Seedbed.Text.Hex
import Seedbed.Toml.Reading

/-!
# Quoted texts

A text in double quotes may hold escapes; one in single quotes stands for itself. Three quotes open
a text of several lines, which may also hold one or two quotes in a row.
-/

namespace Seedbed.Toml

/-- Whether a character may stand in a quoted text; the quote and the backslash aside. -/
def isTextChar (c : Char) : Bool :=
  c == '\t' || (0x20 ≤ c.toNat && c.toNat ≠ 0x7F)

/-- The character with the code that the next `n` digits give. -/
def readCode (n : Nat) : Reading Char := fun text =>
  let digits := text.take n
  let code := digits.foldl (fun code c => code * 16 + (Text.hexValue? c).getD 0) 0
  if digits.length = n ∧ digits.all Text.isHexDigit ∧ code.isValidChar then
    .ok (Char.ofNat code, text.drop n)
  else .error { rest := text, firm := true }

/-- The character that an escape stands for, behind its backslash. A letter that makes no escape is
refused behind it, and before it if it takes more than one byte. -/
def readEscape : Reading Char
  | 'b' :: rest => .ok ('\x08', rest)
  | 'f' :: rest => .ok ('\x0c', rest)
  | 'n' :: rest => .ok ('\n', rest)
  | 'r' :: rest => .ok ('\r', rest)
  | 't' :: rest => .ok ('\t', rest)
  | '\\' :: rest => .ok ('\\', rest)
  | '"' :: rest => .ok ('"', rest)
  | 'u' :: rest => readCode 4 rest
  | 'U' :: rest => readCode 8 rest
  | c :: rest => .error { rest := if c.toNat < 0x80 then rest else c :: rest, firm := true }
  | [] => .error { rest := [], firm := false }

/-- The text behind a line end, if one comes next. -/
def afterLineEnd? : List Char → Option (List Char)
  | '\n' :: rest => some rest
  | '\r' :: '\n' :: rest => some rest
  | _ => none

/-- The text behind blanks and line ends. -/
def skipBlankLines : List Char → List Char
  | '\r' :: '\n' :: rest => skipBlankLines rest
  | c :: rest => if c == ' ' || c == '\t' || c == '\n' then skipBlankLines rest else c :: rest
  | [] => []

/-- The rest of a text on one line, up to its quote, in at most `n` steps; `chars` are the
characters so far, last first. -/
def readLineText (quote : Char) : Nat → List Char → Reading String
  | 0, _, text => .error { rest := text, firm := true }
  | n + 1, chars, text =>
    match text with
    | [] => .error { rest := [], firm := true }
    | c :: rest =>
      if c = quote then .ok (String.ofList chars.reverse, rest)
      else if c = '\\' ∧ quote = '"' then
        match readEscape rest with
        | .ok (escaped, rest) => readLineText quote n (escaped :: chars) rest
        | .error { firm := true, rest } => .error { rest, firm := true }
        | .error _ => .error { rest := text, firm := true }
      else if isTextChar c then readLineText quote n (c :: chars) rest
      else .error { rest := text, firm := true }

/-- Whether the text behind one or two quotes inside a text of several lines can go on with it. In
double quotes anything can, though it may be refused on its own. -/
def goesOn (quote : Char) (text : List Char) : Bool :=
  match text with
  | [] => false
  | c :: _ => quote = '"' || isTextChar c || (afterLineEnd? text).isSome

/-- The rest of a text of several lines, up to its three quotes, in at most `n` steps. Up to two
quotes in front of the last three belong to the text; others are refused if nothing goes on behind
them. -/
def readBlockText (quote : Char) : Nat → List Char → Reading String
  | 0, _, text => .error { rest := text, firm := true }
  | n + 1, chars, text =>
    match text with
    | [] => .error { rest := [], firm := true }
    | c :: rest =>
      if c = quote then
        let quotes := (text.takeWhile (· == quote)).length
        if 3 ≤ quotes then
          let inner := min (quotes - 3) 2
          .ok (String.ofList (chars.reverse ++ List.replicate inner quote), text.drop (inner + 3))
        else if goesOn quote (text.drop quotes) then
          readBlockText quote n (List.replicate quotes quote ++ chars) (text.drop quotes)
        else .error { rest := text, firm := true }
      else if c = '\\' ∧ quote = '"' then
        match afterLineEnd? (rest.dropWhile fun c => c == ' ' || c == '\t') with
        | some next => readBlockText quote n chars (skipBlankLines next)
        | none =>
          match readEscape rest with
          | .ok (escaped, rest) => readBlockText quote n (escaped :: chars) rest
          | .error { firm := true, rest } => .error { rest, firm := true }
          | .error _ => .error { rest := text, firm := true }
      else if isTextChar c then readBlockText quote n (c :: chars) rest
      else
        match afterLineEnd? text with
        | some next => readBlockText quote n ('\n' :: chars) next
        | none => .error { rest := text, firm := true }

/-- A text in quotes on one line. -/
def readQuoted (quote : Char) : Reading String := do
  let _ ← Reading.expect quote
  let text ← Reading.rest
  readLineText quote (text.length + 1) []

/-- A text in quotes, on one line or between three quotes each. -/
def readString (quote : Char) : Reading String := fun text =>
  if [quote, quote, quote].isPrefixOf text then
    let body := text.drop 3
    let body := (afterLineEnd? body).getD body
    readBlockText quote (body.length + 1) [] body
  else readQuoted quote text

end Seedbed.Toml
