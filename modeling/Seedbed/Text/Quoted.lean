import Seedbed.Unicode.Unmarked

/-!
# Quoted texts in messages

A message shows a text that it was given between double quotes, with quotes and backslashes escaped,
so that the reader sees where it ends. Characters that leave no mark of their own on a page are
written as escapes too: by a letter if they have one, else by their code.
-/

namespace Seedbed.Text

/-- The code of a character as an escape. -/
def codeEscape (c : Char) : List Char :=
  "\\u\x7b".toList ++ Nat.toDigits 16 c.toNat ++ ['\x7d']

/-- A character inside a quoted text. -/
def quotedChar (c : Char) : List Char :=
  match c with
  | '"' => ['\\', '"']
  | '\\' => ['\\', '\\']
  | '\t' => ['\\', 't']
  | '\n' => ['\\', 'n']
  | '\r' => ['\\', 'r']
  | '\x00' => ['\\', '0']
  | c => if Unicode.isUnmarked c then codeEscape c else [c]

/-- A text between double quotes. -/
def quoted (text : String) : String :=
  String.ofList ('"' :: (text.toList.flatMap quotedChar ++ ['"']))

end Seedbed.Text
