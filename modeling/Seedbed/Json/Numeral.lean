import Seedbed.Json.Basic
import Seedbed.Number.Binary
import Seedbed.Number.Integer

/-!
# Numbers in a JSON text

A number is read digit by digit. Its significand keeps the leading digits that fit an unsigned
64 bit word; later digits only move the power of ten, or are dropped behind the point. Without a
point, an exponent and such a loss, the number is whole. All others are doubles: the significand,
rounded to a double, is scaled by a power of ten in floating point, so that the result may differ
from the nearest double in its last place.
-/

namespace Seedbed.Json

/-- Where in a number the reader stands: `sign`, `point`, `mark` and `markSign` await a digit. -/
inductive NumberPlace
  | sign
  | zero
  | whole
  | lost
  | point
  | fraction
  | dropped
  | mark
  | markSign
  | exponent
  deriving DecidableEq

/-- A number that is being read: its value is `significand · 10 ^ scale`, times ten to the power
`power` with its sign. -/
structure Numeral where
  negative : Bool := false
  place : NumberPlace
  significand : Nat := 0
  scale : Int := 0
  powerNegative : Bool := false
  power : Nat := 0
  real : Bool := false

/-- What a character does to a number: it belongs to it, it ends it, it must not stand there, or it
takes the exponent out of every range. -/
inductive NumberStep
  | more (n : Numeral)
  | done
  | invalid
  | outOfRange

/-- Whether a digit can be appended to a significand without leaving its word. -/
def fitsWord (significand digit : Nat) : Bool :=
  significand * 10 + digit < 2 ^ 64

/-- The largest exponent that is kept; a larger one is out of range, or makes a zero. -/
def largestPower : Nat := 2 ^ 31 - 1

/-- A digit of the exponent. Once the exponent is too large, further digits leave it so. -/
def Numeral.powerDigit (n : Numeral) (digit : Nat) : NumberStep :=
  let power := n.power * 10 + digit
  if power ≤ largestPower then .more { n with place := .exponent, power }
  else if n.significand ≠ 0 ∧ !n.powerNegative then .outOfRange
  else .more { n with place := .exponent, significand := 0, power := n.power }

/-- One digit. -/
def Numeral.digit (n : Numeral) (digit : Nat) : NumberStep :=
  match n.place with
  | .sign =>
    if digit = 0 then .more { n with place := .zero }
    else .more { n with place := .whole, significand := digit }
  | .zero => .invalid
  | .whole =>
    if fitsWord n.significand digit then
      .more { n with significand := n.significand * 10 + digit }
    else .more { n with place := .lost, scale := n.scale + 1, real := true }
  | .lost => .more { n with scale := n.scale + 1 }
  | .point | .fraction =>
    if fitsWord n.significand digit then
      .more { n with
        place := .fraction, significand := n.significand * 10 + digit, scale := n.scale - 1 }
    else .more { n with place := .dropped }
  | .dropped => .more n
  | .mark | .markSign | .exponent => n.powerDigit digit

/-- One character. -/
def Numeral.step (n : Numeral) (c : Char) : NumberStep :=
  if c.isDigit then n.digit (Number.digitValue c)
  else
    match n.place with
    | .sign | .point | .markSign => .invalid
    | .mark =>
      if c = '+' then .more { n with place := .markSign }
      else if c = '-' then .more { n with place := .markSign, powerNegative := true }
      else .invalid
    | .exponent => .done
    | .zero | .whole | .lost =>
      if c = '.' then .more { n with place := .point, real := true }
      else if c = 'e' ∨ c = 'E' then .more { n with place := .mark, real := true }
      else .done
    | .fraction | .dropped =>
      if c = 'e' ∨ c = 'E' then .more { n with place := .mark, real := true } else .done

/-- Whether a number may end where it stands. -/
def Numeral.complete (n : Numeral) : Bool :=
  match n.place with
  | .sign | .point | .mark | .markSign => false
  | _ => true

/-- The largest power of ten that is a double. -/
def largestScale : Nat := 308

/-- Divides by a power of ten, in steps of at most `largestScale`. -/
def scaleDown (x : Float) (e : Nat) : Float :=
  if e ≤ largestScale then x / Number.powerOfTen e
  else if x == 0.0 then x
  else scaleDown (x / Number.powerOfTen largestScale) (e - largestScale)
termination_by e
decreasing_by simp only [largestScale] at *; omega

/-- Multiplies by a power of ten; nothing when the result is no double. -/
def scaleUp (x : Float) (e : Nat) : Option Float :=
  if e ≤ largestScale then
    let y := x * Number.powerOfTen e
    if Number.isFinite y then some y else none
  else if x == 0.0 then some x
  else none

/-- The value of a number that is complete; nothing when it lies beyond the doubles. -/
def Numeral.value (n : Numeral) : Option Json :=
  if n.real then
    let scale := if n.powerNegative then n.scale - n.power else n.scale + n.power
    let magnitude :=
      if 0 ≤ scale then scaleUp (Float.ofNat n.significand) scale.toNat
      else some (scaleDown (Float.ofNat n.significand) (-scale).toNat)
    magnitude.map fun x => .real (if n.negative then -x else x)
  else if !n.negative then some (.integer n.significand)
  else if 0 < n.significand ∧ n.significand ≤ 2 ^ 63 then some (.integer (-n.significand))
  else some (.real (-(Float.ofNat n.significand)))

end Seedbed.Json
