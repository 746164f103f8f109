import Seedbed.Domain.Mapping
import Seedbed.Domain.Punycode
import Seedbed.Unicode.Joining
import Seedbed.Unicode.Normal

/-!
# The labels of a domain

A label is a part of a domain between its dots. One with a character beyond ASCII starts with no
mark, is not too long, and has a joiner only where a script needs one (`isSound`). A label in ASCII
that starts with `xn--` stands for another one, which holds what such a label may hold, and nothing
that could be written without that start (`Label.read?`).
-/

namespace Seedbed.Domain

open Unicode

/-- A part of a domain between its dots. -/
abbrev Label := List Char

namespace Label

/-- Whether a character is of ASCII. -/
def isAscii (c : Char) : Bool :=
  c.toNat < 0x80

/-- What a label that stands for another one starts with. -/
def coded : List Char := "xn--".toList

/-- The sign that keeps two letters from joining. -/
def nonJoiner : Char := Char.ofNat 0x200C

/-- The sign that makes two letters join. -/
def joiner : Char := Char.ofNat 0x200D

/-- Whether the first of some characters that is not joined across joins in one of two ways. -/
def joinsBy (way : Joining) : List Char → Bool
  | [] => false
  | c :: rest =>
    match joining c with
    | .transparent => joinsBy way rest
    | kind => kind = way || kind = .both

/-- Whether a joiner may stand between some characters, those in front last first: behind a sign
that takes away a vowel, or, to keep them apart, between letters that would join. -/
def mayJoin (c : Char) (before after : List Char) : Bool :=
  match before with
  | [] => false
  | last :: _ =>
    combiningClass last = vowelKillerClass ||
      (c = nonJoiner && joinsBy .left before && joinsBy .right after)

/-- Whether all joiners of a text may stand where they do; `before` is what stands in front of it,
last first. -/
def joinersFit (before : List Char) : List Char → Bool
  | [] => true
  | c :: rest =>
    ((c ≠ nonJoiner && c ≠ joiner) || mayJoin c before rest) && joinersFit (c :: before) rest

/-- How long a label beyond ASCII may be. -/
def lengthLimit : Nat := 1000

/-- How long what stands for a label beyond ASCII may be. -/
def codedLimit : Nat := 2000

/-- Whether a label may be written as it is. -/
def isSound (label : Label) : Bool :=
  label.all isAscii ||
    (!label.head?.any isMark && joinersFit [] label && label.length ≤ lengthLimit)

/-- The label that a text behind `xn--` stands for. -/
def decode? (text : List Char) : Option Label := do
  if text.isEmpty || text.getLast? = some '-' || codedLimit < text.length then none
  else if !text.all isAscii then none
  else
    let label ← Punycode.decode? text
    if label.all isPlain && normalize label = label && isSound label then some label else none

/-- The label that a text stands for. -/
def read? (text : List Char) : Option Label :=
  match coded.isPrefixOf? text with
  | some text => decode? text
  | none => if isSound text then some text else none

end Label

end Seedbed.Domain
