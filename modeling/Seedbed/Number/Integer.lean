import Seedbed.Number.Power

/-!
# Reading and writing whole numbers

A whole number is written as an optional sign and at least one ASCII digit, and must fit its word:
`readNatural` and `readInteger` take the word's size and refuse what does not fit. Writing is
`Nat.toDigits 10` under a sign, and what is written reads back (`readDigits_digits`).
-/

namespace Seedbed.Number

/-- The decimal digits of `n`, most significant first, without leading zeros. -/
def digits (n : Nat) : List Char :=
  Nat.toDigits 10 n

/-- `n` with zeros in front up to `width` digits. -/
def digitsPadded (width n : Nat) : List Char :=
  let ds := digits n
  List.replicate (width - ds.length) '0' ++ ds

/-- The text of a whole number: a sign only when it is negative. -/
def integerText (i : Int) : List Char :=
  if i < 0 then '-' :: digits i.natAbs else digits i.natAbs

/-- The value of one ASCII digit. -/
def digitValue (c : Char) : Nat :=
  c.toNat - '0'.toNat

/-- The number that a text of ASCII digits writes; nothing for any other text. -/
def readDigits (cs : List Char) : Option Nat :=
  if !cs.isEmpty && cs.all Char.isDigit then some (Nat.ofDigitChars 10 cs 0) else none

/-- Reads a number of an unsigned word with `bits` bits; a plus sign may stand in front. -/
def readNatural (bits : Nat) (cs : List Char) : Option Nat :=
  let ds := match cs with
    | '+' :: ds => ds
    | ds => ds
  (readDigits ds).filter (· < 2 ^ bits)

/-- Reads a number of a signed word with `bits` bits; either sign may stand in front. -/
def readInteger (bits : Nat) (cs : List Char) : Option Int :=
  match cs with
  | '-' :: ds => ((readDigits ds).filter (· ≤ 2 ^ (bits - 1))).map fun n => -(n : Int)
  | '+' :: ds => ((readDigits ds).filter (· < 2 ^ (bits - 1))).map Int.ofNat
  | ds => ((readDigits ds).filter (· < 2 ^ (bits - 1))).map Int.ofNat

/-- The digits of a number are decimal digits. -/
theorem isDigit_of_mem_digits {n : Nat} {c : Char} (h : c ∈ digits n) : c.isDigit = true :=
  Nat.isDigit_of_mem_toDigits (by decide) (by decide) h

/-- Every number has a digit. -/
theorem digits_ne_nil (n : Nat) : digits n ≠ [] := by
  intro h
  have := Nat.ofDigitChars_toDigits (b := 10) (n := n) (by decide) (by decide)
  cases n with
  | zero => simp [digits] at h
  | succ n => rw [show Nat.toDigits 10 (n + 1) = [] from h] at this; simp at this

/-- The digits of a number read back. -/
theorem readDigits_digits (n : Nat) : readDigits (digits n) = some n := by
  have hall : (digits n).all Char.isDigit = true :=
    List.all_eq_true.2 fun _ hc => isDigit_of_mem_digits hc
  have hne : (digits n).isEmpty = false := by
    simpa using digits_ne_nil n
  simp [readDigits, hall, hne]
  exact Nat.ofDigitChars_toDigits (by decide) (by decide)

/-- What is read fits its unsigned word. -/
theorem readNatural_lt {bits n : Nat} {cs : List Char} (h : readNatural bits cs = some n) :
    n < 2 ^ bits := by
  simpa using (Option.filter_eq_some_iff.1 h).2

end Seedbed.Number
