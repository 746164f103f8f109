import Seedbed.Number.Binary

/-!
# The shortest decimal of a double

The reals that read back as a given double form an interval around it, whose ends belong to it when
the mantissa is even. `shortest` gives the decimal with the fewest digits in that interval: for one
digit, two digits and so on it tries the two decimals around the double on that grid, and the first
grid with a hit wins. Of two hits the nearer one is taken, and an even last digit on a tie.
-/

namespace Seedbed.Number

/-- A decimal `digits · 10 ^ exponent`. -/
structure Decimal where
  digits : Nat
  exponent : Int
  deriving Repr, DecidableEq

/-- The interval of a double in quarters of its last binary place, as numerators over a common
denominator: its lower end, the double and its upper end. -/
structure Interval where
  lower : Nat
  middle : Nat
  upper : Nat
  denominator : Nat
  closed : Bool

/-- The interval of the reals that read back as `b`. Below a power of two the doubles lie twice as
dense, so there the lower end is nearer; not so at the lowest exponent. -/
def Binary.interval (b : Binary) : Interval :=
  let scale := 2 ^ (b.exponent - 2).toNat
  let nearer := b.mantissa = 2 ^ fractionBits ∧ b.exponent ≠ -1074
  { lower := (4 * b.mantissa - (if nearer then 1 else 2)) * scale
    middle := 4 * b.mantissa * scale
    upper := (4 * b.mantissa + 2) * scale
    denominator := 2 ^ (2 - b.exponent).toNat
    closed := b.mantissa % 2 = 0 }

/-- Whether the decimal `num / den` lies in an interval. -/
def Interval.contains (i : Interval) (num den : Nat) : Bool :=
  let x := num * i.denominator
  if i.closed then i.lower * den ≤ x && x ≤ i.upper * den
  else i.lower * den < x && x < i.upper * den

/-- The exponent `e` with `10 ^ e ≤ num / den < 10 ^ (e + 1)`, for positive `num` and `den`. -/
def leadingExponent (num den : Nat) : Int :=
  if den ≤ num then ((Nat.toDigits 10 (num / den)).length : Int) - 1
  else
    let places := (Nat.toDigits 10 (den / num)).length
    if den ≤ num * 10 ^ (places - 1) then 1 - (places : Int) else -(places : Int)

/-- The decimal of the grid `10 ^ e` that lies in the interval, the nearer of two. -/
def Interval.onGrid (i : Interval) (e : Int) : Option Decimal :=
  let up := 10 ^ e.toNat
  let down := 10 ^ (-e).toNat
  let below := i.middle * down / (i.denominator * up)
  let above := below + 1
  let hitBelow := i.contains (below * up) down
  let hitAbove := i.contains (above * up) down
  -- twice the middle against the sum of the two neighbours
  let twice := 2 * i.middle * down
  let sum := (below + above) * (i.denominator * up)
  if hitBelow && hitAbove then
    if twice < sum || (twice == sum && below % 2 == 0) then some ⟨below, e⟩ else some ⟨above, e⟩
  else if hitBelow then some ⟨below, e⟩
  else if hitAbove then some ⟨above, e⟩
  else none

/-- Tries the grids of `count` digits, `count + 1` digits and so on, `fuel` of them. -/
def Interval.search (i : Interval) (lead : Int) (count : Nat) : Nat → Option Decimal
  | 0 => none
  | fuel + 1 =>
    match i.onGrid (lead - count + 1) with
    | some d => some d
    | none => i.search lead (count + 1) fuel

/-- A decimal without zeros at the end of its digits; at most `fuel` of them are dropped. -/
def Decimal.strip (d : Decimal) : Nat → Decimal
  | 0 => d
  | fuel + 1 =>
    if d.digits ≠ 0 ∧ d.digits % 10 = 0 then
      Decimal.strip ⟨d.digits / 10, d.exponent + 1⟩ fuel
    else d

/-- The decimal with the fewest digits that reads back as `b`. Seventeen digits tell all doubles
apart, so a grid of at most that many digits has a hit. -/
def Binary.shortest (b : Binary) : Decimal :=
  if b.mantissa = 0 then ⟨0, 0⟩
  else
    let i := b.interval
    match i.search (leadingExponent i.middle i.denominator) 1 17 with
    | some d => d.strip 17
    | none => ⟨0, 0⟩

end Seedbed.Number
