/-!
# The seed of a tenant

A tenant's seed is the polynomial hash of its id in base 31 over the UTF-16 units, in signed 32 bit
arithmetic, without its sign. The same tenant has the same seed in every run.
-/

namespace Seedbed.Random

/-- The UTF-16 units of a character: one, or a pair for a character beyond `U+FFFF`. -/
def units16 (c : Char) : List Nat :=
  let n := c.toNat
  if n < 0x10000 then [n]
  else [0xD800 + (n - 0x10000) / 0x400, 0xDC00 + (n - 0x10000) % 0x400]

/-- The UTF-16 units of a text. -/
def unitsOf (text : String) : List Nat :=
  text.toList.flatMap units16

/-- Appends a unit to a hash: the hash times 31 plus the unit, by a shift and a subtraction. -/
def hashUnit (hash : Int32) (unit : Nat) : Int32 :=
  (hash <<< 5) - hash + Int32.ofNat unit

/-- The signed hash of a text. -/
def tenantHash (text : String) : Int32 :=
  (unitsOf text).foldl hashUnit 0

/-- The seed of a tenant. -/
def tenantSeed (tenant : String) : Nat :=
  (tenantHash tenant).toInt.natAbs

end Seedbed.Random
