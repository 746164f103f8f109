import Seedbed.Unicode.Composition
import Seedbed.Unicode.Mark

/-!
# The normal form of texts

A text can be written in several ways that mean the same: with composed characters or with their
parts, and with marks of different classes in any order. `normalize` gives all of them one form: it
takes the characters apart, orders the marks behind each character by their classes, and puts
together what can be put together.

Characters that are never put together are left as they are, so the form is normal for texts
without them.
-/

namespace Seedbed.Unicode

/-- The two parts of a composed character. -/
def parts? (c : Char) : Option (Char × Char) :=
  let codes? := Hangul.parts? c.toNat <|> (compositions.find? c.toNat).map CodeRow.value
  codes?.map fun (base, mark) => (Char.ofNat base, Char.ofNat mark)

/-- The character that two others in a row make up. -/
def compose? (base next : Char) : Option Char :=
  let code? := Hangul.compose? base.toNat next.toNat <|>
    (compositions.rows.find? fun row => row.value = (base.toNat, next.toNat)).map CodeRow.first
  code?.map Char.ofNat

/-- The parts of a character that is composed of others at most `n` times over. -/
def partsUpTo : Nat → Char → List Char
  | 0, c => [c]
  | n + 1, c =>
    match parts? c with
    | some (base, mark) => partsUpTo n base ++ [mark]
    | none => [c]

/-- How often the parts of a character may be composed themselves. -/
def compositionDepth : Nat := 3

/-- Puts a mark behind the characters of a text, last first, in front of the marks of higher classes
at its end. -/
def insertMark (mark : Char) : List Char → List Char
  | [] => [mark]
  | c :: rest =>
    if combiningClass mark < combiningClass c then c :: insertMark mark rest
    else mark :: c :: rest

/-- The text with the marks behind each character in the order of their classes. -/
def orderMarks (text : List Char) : List Char :=
  (text.foldl (fun ordered c =>
    if combiningClass c = 0 then c :: ordered else insertMark c ordered) []).reverse

/-- The characters in front of the next one: those that are done, last first, then the last one of
class zero with the marks behind it, last first. -/
structure Composing where
  done : List Char := []
  base : Option Char := none
  marks : List Char := []

namespace Composing

/-- The text so far, last first. -/
def reversed (state : Composing) : List Char :=
  state.marks ++ state.base.toList ++ state.done

/-- Whether a mark in front of a character keeps it from the base: one of its class or a higher
one. -/
def isBlocked (state : Composing) (c : Char) : Bool :=
  state.marks.head?.any fun mark => combiningClass c ≤ combiningClass mark

/-- Takes the next character: it is put together with the base if they make up a character and
nothing between them keeps them apart. -/
def take (state : Composing) (c : Char) : Composing :=
  let composed? := if state.isBlocked c then none else state.base.bind (compose? · c)
  match composed? with
  | some composed => { state with base := some composed }
  | none =>
    if combiningClass c = 0 then { done := state.reversed, base := some c }
    else { state with marks := c :: state.marks }

end Composing

/-- The text with characters in place of the parts that make them up. -/
def composeAll (text : List Char) : List Char :=
  (text.foldl Composing.take {}).reversed.reverse

/-- The normal form of a text. -/
def normalize (text : List Char) : List Char :=
  composeAll (orderMarks (text.flatMap (partsUpTo compositionDepth)))

end Seedbed.Unicode
