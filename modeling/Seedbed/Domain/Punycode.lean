import Seedbed.Text.Split
import Seedbed.Number.Power

/-!
# Labels in ASCII

A label with characters beyond ASCII can be written in ASCII: first its ASCII characters, then
behind a hyphen the others in the order of their codes, each by how far on from the one before it
stands. Such a distance counts in one number both the codes and the places that are passed. It is
written in digits from `a` to `z` and `0` to `9` with the lowest first, and each digit below the
threshold of its place is the last one. The thresholds follow the sizes of the distances so far.

`Punycode.decode?` reads such a label. Numbers are those of 32 bits.
-/

namespace Seedbed.Domain.Punycode

/-- How many digits there are. -/
def base : Nat := 36

/-- The value of a digit. -/
def digit? (c : Char) : Option Nat :=
  if c.isDigit then some (c.toNat - '0'.toNat + 26)
  else if c.isAlpha then some (c.toLower.toNat - 'a'.toNat)
  else none

/-- The threshold of a place, which is counted in steps of the base. -/
def threshold (bias place : Nat) : Nat :=
  if place ≤ bias then 1 else min (place - bias) 26

/-- A number that may be counted with. -/
def number? (n : Nat) : Option Nat :=
  if n < 2 ^ 32 then some n else none

/-- Reads a distance from a place on and adds it to `sum`, with what follows it. -/
def readDistance (bias place weight sum : Nat) : List Char → Option (Nat × List Char)
  | [] => none
  | c :: rest => do
    let digit ← digit? c
    let part ← number? (digit * weight)
    let sum ← number? (sum + part)
    let t := threshold bias place
    if digit < t then return (sum, rest)
    let weight ← number? (weight * (base - t))
    readDistance bias (place + base) weight sum rest

/-- A distance takes at least a digit. -/
theorem length_lt_of_readDistance {bias place weight sum : Nat} {text : List Char}
    {found : Nat × List Char} (h : readDistance bias place weight sum text = some found) :
    found.2.length < text.length := by
  induction text generalizing place weight sum with
  | nil => simp [readDistance] at h
  | cons c rest ih =>
    simp only [readDistance, Option.bind_eq_bind, Option.bind_eq_some_iff] at h
    obtain ⟨digit, _, part, _, sum, _, h⟩ := h
    split at h
    · obtain rfl := Option.some.inj h
      simp
    · simp only [Option.bind_eq_some_iff] at h
      obtain ⟨weight, _, h⟩ := h
      exact Nat.lt_succ_of_lt (ih h)

/-- Counts the places that a distance takes up: it is divided until it is small. -/
def spread (places distance : Nat) : Nat :=
  if 455 < distance then spread (places + base) (distance / 35)
  else places + base * distance / (distance + 38)
termination_by distance
decreasing_by omega

/-- The bias behind a distance, by the length of the label then. The first distance is large. -/
def adapt (distance length : Nat) (isFirst : Bool) : Nat :=
  let distance := if isFirst then distance / 700 else distance / 2
  spread 0 (distance + distance / length)

/-- Puts characters into a label by their distances from a code and a place on. -/
def insertAll (code place bias : Nat) (label : List Char) (text : List Char) :
    Option (List Char) :=
  if text.isEmpty then some label
  else
    match h : readDistance bias base 1 place text with
    | none => none
    | some (sum, rest) =>
      have : rest.length < text.length := length_lt_of_readDistance h
      let length := label.length + 1
      let code := code + sum / length
      let bias := adapt (sum - place) length (place = 0)
      if code.isValidChar then
        insertAll code (sum % length + 1) bias
          (label.insertIdx (sum % length) (Char.ofNat code)) rest
      else none
termination_by text.length

/-- The code in front of which there are only those of ASCII. -/
def firstCode : Nat := 128

/-- The bias for the first distance. -/
def firstBias : Nat := 72

/-- Reads a label. A hyphen behind no character is out of place. -/
def decode? (text : List Char) : Option (List Char) :=
  match Text.splitLast '-' text with
  | none => insertAll firstCode 0 firstBias [] text
  | some ([], _) => none
  | some (plain, rest) => insertAll firstCode 0 firstBias plain rest

end Seedbed.Domain.Punycode
