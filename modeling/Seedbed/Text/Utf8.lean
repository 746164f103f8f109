import Seedbed.Number.Power

/-!
# Bytes as a text

A text is coded in bytes by UTF-8. `decode` reads bytes back and names the first sequence that codes
no character; `decodeLossily` puts the replacement character in place of each such sequence. A
sequence that is broken off counts up to the byte that no longer belongs to it.

`dropBytes?` and `takeBytes?` cut a text at a number of bytes, unless that is inside a character.
-/

namespace Seedbed.Text

/-- What stands at the front of some bytes: a character with the bytes behind it, a sequence of some
length that codes none, or the start of a sequence that ends too early. -/
inductive CodedFront
  | char (c : Char) (rest : List UInt8)
  | invalid (length : Nat)
  | incomplete

/-- Whether a byte goes on a sequence. -/
def isContinuation (b : UInt8) : Bool :=
  0x80 ≤ b && b ≤ 0xBF

/-- The range of the second byte of a sequence by its first, which keeps out codes that have a
shorter sequence, halves of pairs, and codes beyond the last character. -/
def secondRange (first : UInt8) : UInt8 × UInt8 :=
  if first = 0xE0 then (0xA0, 0xBF)
  else if first = 0xED then (0x80, 0x9F)
  else if first = 0xF0 then (0x90, 0xBF)
  else if first = 0xF4 then (0x80, 0x8F)
  else (0x80, 0xBF)

/-- How many bytes a sequence has by its first; zero if none starts so. -/
def sequenceLength (first : UInt8) : Nat :=
  if first < 0x80 then 1
  else if first < 0xC2 then 0
  else if first < 0xE0 then 2
  else if first < 0xF0 then 3
  else if first < 0xF5 then 4
  else 0

/-- Goes on with a sequence of which `seen` bytes give `code` so far and `awaited` are to come. -/
def continueSequence (code seen : Nat) : Nat → List UInt8 → CodedFront
  | 0, rest => .char (Char.ofNat code) rest
  | _ + 1, [] => .incomplete
  | awaited + 1, b :: rest =>
    if isContinuation b then
      continueSequence (code * 64 + (b.toNat - 0x80)) (seen + 1) awaited rest
    else .invalid seen

/-- What stands at the front of bytes that start with `first`. -/
def codedFront (first : UInt8) (rest : List UInt8) : CodedFront :=
  match sequenceLength first with
  | 0 => .invalid 1
  | 1 => .char (Char.ofNat first.toNat) rest
  | n + 1 =>
    match rest with
    | [] => .incomplete
    | second :: _ =>
      let (low, high) := secondRange first
      if low ≤ second && second ≤ high then
        continueSequence (first.toNat % 2 ^ (6 - n)) 1 n rest
      else .invalid 1

/-- Where bytes are no text: the number of bytes in front, and the length of the sequence that codes
no character, unless it only ends too early. -/
structure CodingFault where
  offset : Nat
  length : Option Nat
  deriving DecidableEq, Repr

def CodingFault.message (fault : CodingFault) : String :=
  match fault.length with
  | some length =>
    "invalid utf-8 sequence of " ++ toString length ++ " bytes from index " ++
      toString fault.offset
  | none => "incomplete utf-8 byte sequence from index " ++ toString fault.offset

/-- The text of bytes from an offset on, in at most `n` characters; `chars` are those so far, last
first. -/
def decodeFrom (offset : Nat) (chars : List Char) :
    Nat → List UInt8 → Except CodingFault (List Char)
  | 0, _ => .ok chars.reverse
  | _ + 1, [] => .ok chars.reverse
  | n + 1, first :: rest =>
    match codedFront first rest with
    | .char c rest => decodeFrom (offset + c.utf8Size) (c :: chars) n rest
    | .invalid length => .error { offset, length := some length }
    | .incomplete => .error { offset, length := none }

/-- The text of bytes. -/
def decode (bytes : List UInt8) : Except CodingFault (List Char) :=
  decodeFrom 0 [] bytes.length bytes

/-- The character that stands for a sequence that codes none. -/
def replacement : Char := Char.ofNat 0xFFFD

/-- The text of bytes, in at most `n` characters. -/
def decodeLossilyUpTo : Nat → List UInt8 → List Char
  | 0, _ => []
  | _ + 1, [] => []
  | n + 1, first :: rest =>
    match codedFront first rest with
    | .char c rest => c :: decodeLossilyUpTo n rest
    | .invalid length => replacement :: decodeLossilyUpTo n (rest.drop (length - 1))
    | .incomplete => [replacement]

/-- The text of bytes, with a replacement for each sequence that codes no character. -/
def decodeLossily (bytes : List UInt8) : List Char :=
  decodeLossilyUpTo bytes.length bytes

/-- How many bytes a text takes. -/
def byteLength (text : List Char) : Nat :=
  (text.map Char.utf8Size).foldr (· + ·) 0

/-- The characters behind the first `n` bytes, which end with a character. -/
def dropBytes? (n : Nat) : List Char → Option (List Char)
  | [] => if n = 0 then some [] else none
  | c :: rest =>
    if n = 0 then some (c :: rest)
    else if c.utf8Size ≤ n then dropBytes? (n - c.utf8Size) rest
    else none

/-- The characters in the first `n` bytes, which end with a character. -/
def takeBytes? (n : Nat) : List Char → Option (List Char)
  | [] => if n = 0 then some [] else none
  | c :: rest =>
    if n = 0 then some []
    else if c.utf8Size ≤ n then (takeBytes? (n - c.utf8Size) rest).map (c :: ·)
    else none

end Seedbed.Text
