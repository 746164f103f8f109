import Seedbed.Number.Power

/-!
# Finite doubles as whole numbers times powers of two

`decode` reads a finite double as a sign, a whole mantissa `m` and an exponent `q`, so that its
magnitude is `m · 2 ^ q`. All decisions about doubles that must be exact (the shortest text,
rounding to a whole number) are taken on `m` and `q` in whole numbers, not in floating point.
-/

namespace Seedbed.Number

/-- A finite double as sign, mantissa and power of two. -/
structure Binary where
  negative : Bool
  mantissa : Nat
  exponent : Int
  deriving Repr, DecidableEq

/-- Bits of the fraction field of a double. -/
def fractionBits : Nat := 52

/-- The sign, mantissa and exponent of a double; nothing for an infinity or a NaN. -/
def decode (x : Float) : Option Binary :=
  let bits := x.toBits.toNat
  let field : Nat := bits / 2 ^ fractionBits % 2 ^ 11
  let fraction := bits % 2 ^ fractionBits
  let negative := decide (2 ^ 63 ≤ bits)
  if field = 2047 then none
  else if field = 0 then some ⟨negative, fraction, -1074⟩
  else some ⟨negative, 2 ^ fractionBits + fraction, (field : Int) - 1075⟩

/-- Whether a double is neither an infinity nor a NaN. -/
def isFinite (x : Float) : Bool :=
  (decode x).isSome

/-- The magnitude as a fraction: `m · 2 ^ q` is `numerator / denominator`. -/
def Binary.numerator (b : Binary) : Nat :=
  b.mantissa * 2 ^ b.exponent.toNat

/-- The denominator that belongs to `Binary.numerator`, a power of two. -/
def Binary.denominator (b : Binary) : Nat :=
  2 ^ (-b.exponent).toNat

/-- The nearest whole number to `num / den`, a half going up. -/
def roundDiv (num den : Nat) : Nat :=
  (2 * num + den) / (2 * den)

/-- A double rounded to a whole number, halves away from zero. A double with a nonnegative exponent
is whole already, and so are the infinities and NaN as far as rounding goes. -/
def roundToWhole (x : Float) : Float :=
  match decode x with
  | none => x
  | some b =>
    if 0 ≤ b.exponent then x
    else
      let whole := Float.ofNat (roundDiv b.numerator b.denominator)
      if b.negative then -whole else whole

/-- A power of ten as a double, correctly rounded. -/
def powerOfTen (e : Nat) : Float :=
  Float.ofScientific 1 false e

/-- A double rounded to `places` digits behind the point, halves away from zero; one that is too
large to be scaled is returned as it is. -/
def roundToPlaces (x : Float) (places : Nat) : Float :=
  let factor := powerOfTen places
  let scaled := x * factor
  if isFinite scaled then roundToWhole scaled / factor else x

/-- A rounded quotient lies within half a unit of the exact one. -/
theorem roundDiv_bounds {num den : Nat} (h : 0 < den) :
    2 * num ≤ 2 * den * roundDiv num den + den ∧ 2 * den * roundDiv num den ≤ 2 * num + den := by
  unfold roundDiv
  have h1 := Nat.div_add_mod (2 * num + den) (2 * den)
  have h2 := Nat.mod_lt (2 * num + den) (show 0 < 2 * den by omega)
  omega

end Seedbed.Number
