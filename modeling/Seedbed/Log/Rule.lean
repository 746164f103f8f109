import Seedbed.Journal
import Seedbed.Number.Real
import Seedbed.Pattern.Basic
import Seedbed.Text.Blank
import Seedbed.Text.Split
import Seedbed.Text.Utf8

/-!
# Which events a log shows

A list of rules says which events are shown. A rule shows the events up to a level, or none: those
of all origins or of the origins that start with a text, and of all kinds or of those that have a
field of a name. Of the rules for an event the closest one counts (`LogRules.shows`).

A rule is written `origin[selector]=level`, each part of which may be left out. A selector names a
span `name`, a field `{name}` or `{name=value}`, or both. Nothing in this program runs in a span,
and fields are only known by their names, so a rule that asks for a span or for the value of a field
shows nothing; such a value must still be a number or a pattern.

A rule is read from its first character that is no blank, but its parts are taken from places that
are counted in bytes from its start. A part that would start or end inside a character stops the
program.
-/

namespace Seedbed

/-- How much of which events is shown: all up to a level, or none. -/
structure LogRule where
  origin : Option String := none
  field : Option String := none
  level : Option Level
  deriving DecidableEq, Repr

/-- Why rules are not read: one of them is malformed, or a part of one starts or ends inside a
character. -/
inductive LogFault
  | malformed
  | cutInside
  deriving DecidableEq, Repr

namespace LogRule

/-- Whether a rule is for an event. -/
def covers (rule : LogRule) (event : Event) : Bool :=
  rule.origin.all (·.isPrefixOf event.origin) && rule.field.all event.hasField

/-- How closely a rule names its origins. -/
def closeness (rule : LogRule) : Nat :=
  rule.origin.elim 0 (·.utf8ByteSize + 1)

/-- The order of rules by how closely they say what they are for: first by the length of the origin,
then by whether they ask for a field. The order of the texts decides between equals. -/
def order (a b : LogRule) : Ordering :=
  (compare a.closeness b.closeness).then <|
    (compare a.field.isSome b.field.isSome).then <|
      (compare (a.origin.getD "") (b.origin.getD "")).then
        (compare (a.field.getD "") (b.field.getD ""))

/-- The level of a word: a name in any case, or a number from zero for none at all. -/
def readLevel (word : List Char) : Option (Option Level) :=
  match String.ofList (word.map Char.toLower) with
  | "off" => some none
  | "error" => some (some .error)
  | "warn" => some (some .warn)
  | "info" => some (some .info)
  | "debug" => some (some .debug)
  | "trace" => some (some .trace)
  | _ =>
    match Number.readNatural 64 word with
    | some 0 => some none
    | some 1 => some (some .error)
    | some 2 => some (some .warn)
    | some 3 => some (some .info)
    | some 4 => some (some .debug)
    | some 5 => some (some .trace)
    | _ => none

/-- Whether a rule may start with a character, other than with the bracket of a selector. -/
def mayStart (c : Char) : Bool :=
  c == '-' || c == ':' || c == '_' || Unicode.isAlphanumeric c

/-- The level of a word behind an equals sign; nothing at all stands for every level. -/
def levelBehind (word : List Char) : Except LogFault (Option Level) :=
  if word.isEmpty then .ok (some .trace)
  else
    match readLevel word with
    | some level => .ok level
    | none => .error .malformed

/-- Whether a text can be the value of a field: a number or a pattern. -/
def isValue (text : List Char) : Bool :=
  (Number.readReal text).isSome || Pattern.isPattern text

/-- What a selector asks for: a field of a name, or something that no event has. -/
inductive Selector
  | field (name : String)
  | unmet

/-- The selector of a span, if it has a name, and a field. A field may have a value behind an equals
sign. -/
def Selector.of (span field : List Char) : Except LogFault Selector :=
  match Text.splitOn '=' field with
  | _ :: value :: _ => if isValue value then .ok .unmet else .error .malformed
  | _ =>
    if field.isEmpty then .error .malformed
    else if span.isEmpty then .ok (.field (String.ofList field))
    else .ok .unmet

/-- The part of a rule that is as long as `part` and as far from its start as `part` is behind
`front`. It is `part` itself unless blanks stand in front of the rule. -/
def takePart (written front part : List Char) : Except LogFault (List Char) :=
  match (Text.dropBytes? (Text.byteLength front) written).bind
      (Text.takeBytes? (Text.byteLength part)) with
  | some text => .ok text
  | none => .error .cutInside

/-- The rest of a rule that is as far from its start as what follows `front`. -/
def takeRest (written front : List Char) : Except LogFault (List Char) :=
  match Text.dropBytes? (Text.byteLength front) written with
  | some text => .ok text
  | none => .error .cutInside

/-- Reads a selector behind its opening bracket: what it asks for, its text up to the closing
bracket, and what follows that. -/
def readSelector (written front text : List Char) :
    Except LogFault (Selector × List Char × List Char) := do
  let span := text.takeWhile fun c => c != ']' && c != '\x7b'
  match text.dropWhile fun c => c != ']' && c != '\x7b' with
  | ']' :: rest =>
    let _ ← takePart written front span
    return (.unmet, span, rest)
  | '\x7b' :: inside =>
    let spanPart ← takePart written front span
    let front := front ++ span ++ ['\x7b']
    match Text.splitFirst '\x7d' inside with
    | some (field, rest) =>
      let selector ← Selector.of spanPart (← takePart written front field)
      match rest with
      | ']' :: rest => return (selector, span ++ '\x7b' :: field ++ ['\x7d'], rest)
      | _ => throw .malformed
    | none => throw .malformed
  | _ => throw .malformed

/-- Reads what follows a selector: a level behind an equals sign, or nothing but blanks. -/
def readEnd (written front rest : List Char) : Except LogFault (Option Level) :=
  match rest with
  | '=' :: _ => do levelBehind (← takeRest written (front ++ ['=']))
  | _ => if Text.isAllBlank rest then .ok (some .trace) else .error .malformed

/-- Reads a rule, the blanks in front of which are dropped in `text`; no rule if it shows nothing. A
text without a sign or a selector is a level, or else an origin of which every level is shown. -/
def readParts (written text : List Char) : Except LogFault (Option LogRule) := do
  let name := text.takeWhile fun c => c != '=' && c != '['
  match text.dropWhile fun c => c != '=' && c != '[' with
  | '=' :: _ =>
    let origin ← takePart written [] name
    let level ← levelBehind (← takeRest written (name ++ ['=']))
    return some { origin := some (String.ofList origin), level }
  | '[' :: inside =>
    let origin ← takePart written [] name
    let (selector, selected, rest) ← readSelector written (name ++ ['[']) inside
    let level ← readEnd written (name ++ '[' :: selected ++ [']']) rest
    match selector with
    | .unmet => return none
    | .field field =>
      let origin := if origin.isEmpty then none else some (String.ofList origin)
      return some { origin, field := some field, level }
  | _ =>
    match readLevel written with
    | some level => return some { level }
    | none => return some { origin := some (String.ofList written), level := some .trace }

/-- Reads a rule. Blanks in front of it count for the places of its parts, so that such a rule names
other parts than those it is read by. -/
def read (written : List Char) : Except LogFault (Option LogRule) :=
  match Text.trimStart written with
  | [] => .error .malformed
  | first :: rest =>
    if first = '[' || mayStart first then readParts written (first :: rest) else .error .malformed

end LogRule

/-- The rules of a log. -/
abbrev LogRules := List LogRule

namespace LogRules

/-- The rules of a log for which none are given. -/
def default : LogRules := [{ level := some .info }]

/-- Reads rules, which commas separate. If one is malformed, the default counts. There are none if a
part starts or ends inside a character. -/
def read? (text : String) : Option LogRules :=
  match ((Text.splitOn ',' text.toList).filter (!·.isEmpty)).mapM LogRule.read with
  | .ok rules => some (rules.filterMap id)
  | .error .malformed => some default
  | .error .cutInside => none

/-- The closer of two rules; of rules for the same events the later one. -/
def closer (best : Option LogRule) (rule : LogRule) : Option LogRule :=
  match best with
  | some other => if (LogRule.order other rule).isLE then some rule else best
  | none => some rule

/-- Whether an event is shown. -/
def shows (rules : LogRules) (event : Event) : Bool :=
  match (rules.filter (·.covers event)).foldl closer none with
  | some { level := some level, .. } => event.level.rank ≤ level.rank
  | _ => false

end LogRules

end Seedbed
