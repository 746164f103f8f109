import Seedbed.Journal
import Seedbed.Json.Printer
import Seedbed.Text.Quoted

/-!
# The lines of a log

An event is written in two forms: as a line of JSON for the log file (`Event.line`), and as a line
for people (`Event.shownLine`), where control characters that could steer a terminal are replaced by
their codes; a line break is kept.
-/

namespace Seedbed

namespace Detail

/-- A detail in a line of JSON. -/
def toJson : Detail → Json
  | plain text => .string text
  | quoted text => .string text
  | number n => .integer n

/-- A detail in a line for people. -/
def shown : Detail → String
  | plain text => text
  | quoted text => Text.quoted text
  | number n => toString n

end Detail

/-- The line of the log file for an event. -/
def Event.line (event : Event) (time : String) : String :=
  let details := event.details.map fun (name, detail) => (name, detail.toJson)
  (Json.object [("timestamp", .string time), ("level", .string event.level.label),
    ("fields", .object ((messageName, .string event.message) :: details)),
    ("target", .string event.origin)]).render ++ "\n"

namespace Terminal

/-- The text that switches a style of a terminal on. -/
def mark (code : String) : String :=
  "\x1b[" ++ code ++ "m"

/-- A text in a style of a terminal. -/
def styled (code text : String) : String :=
  mark code ++ text ++ mark "0"

end Terminal

/-- A character of a line for people: a control that could steer a terminal becomes a code. -/
def safeChar (c : Char) : List Char :=
  if c.toNat = 0x1B || c.toNat = 7 || c.toNat = 8 || c.toNat = 12 || c.toNat = 0x7F then
    "\\x".toList ++ [Json.hexDigit (c.toNat / 16), Json.hexDigit c.toNat]
  else if 0x80 ≤ c.toNat && c.toNat ≤ 0x9F then Text.codeEscape c
  else [c]

/-- A text in a line for people. -/
def safeText (text : String) : String :=
  String.ofList (text.toList.flatMap safeChar)

/-- The style of the label of a level. -/
def Level.styleCode : Level → String
  | .error => "31"
  | .warn => "33"
  | .info => "32"
  | .debug => "34"
  | .trace => "35"

/-- The line for people for an event, with styles of a terminal if they are wanted. -/
def Event.shownLine (event : Event) (time : String) (styles : Bool) : String :=
  let inStyle (code text : String) : String := if styles then Terminal.styled code text else text
  let label := event.level.label
  let label := if label.length < 5 then " " ++ label else label
  let details := event.details.map fun (name, detail) =>
    " " ++ inStyle "3" name ++ inStyle "2" "=" ++ safeText detail.shown
  inStyle "2" time ++ " " ++ inStyle event.level.styleCode label ++ " " ++
    safeText event.message ++ String.join details ++ "\n"

end Seedbed
