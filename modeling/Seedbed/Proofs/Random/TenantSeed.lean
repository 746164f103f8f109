import Mathlib.Algebra.BigOperators.Fin
import Mathlib.Data.Int.ModEq
import Mathlib.Tactic.Ring
import Seedbed.Number.Power
import Seedbed.Random.TenantSeed

/-!
# The seed of a tenant is a polynomial

The signed hash of a text is computed in words of 32 bits that wrap. `polynomial` is the same hash
without a bound: the units of the text are the coefficients of a polynomial in 31, the first unit at
the highest power. Hashing goes on from the word of a number to the word of the number times 31 plus
the unit (`hashUnit_ofInt`), so what it comes to is the word of the polynomial
(`tenantHash_eq_ofInt`). All else is said of the polynomial: the hash is its residue of least
absolute value modulo `2 ^ 32`, and the hash of two texts joined is made of the hashes of the two.
-/

namespace Seedbed.Random

/-- The polynomial in 31 with the units as coefficients, the first one at the highest power. -/
def polynomial (units : List Nat) : Int :=
  ∑ i : Fin units.length, (units[i] : Int) * 31 ^ (units.length - 1 - i)

/-- The polynomial of no units is zero. -/
theorem polynomial_nil : polynomial [] = 0 := rfl

/-- The first unit is at the power that counts the units behind it. -/
theorem polynomial_cons (unit : Nat) (units : List Nat) :
    polynomial (unit :: units) = unit * 31 ^ units.length + polynomial units := by
  have hpower (i : Fin units.length) : units.length - (i + 1) = units.length - 1 - i := by omega
  simp only [polynomial, List.length_cons]
  rw [Fin.sum_univ_succ]
  simp [hpower]

/-- Units in front are moved up by the number of units behind them. -/
theorem polynomial_append (units more : List Nat) :
    polynomial (units ++ more) = polynomial units * 31 ^ more.length + polynomial more := by
  induction units with
  | nil => simp [polynomial_nil]
  | cons unit units ih =>
    rw [List.cons_append, polynomial_cons, polynomial_cons, ih, List.length_append, pow_add]
    ring

/-! ## Hashing in words -/

/-- Moving a word up by five bits multiplies it by 32. -/
theorem shiftLeft_five (word : Int32) : word <<< 5 = word * 32 := by
  apply Int32.toBitVec_inj.1
  rw [Int32.toBitVec_shiftLeft]
  exact BitVec.shiftLeft_eq_mul_twoPow word.toBitVec 5

/-- A unit behind the word of a number makes the word of the number times 31 plus the unit. -/
theorem hashUnit_ofInt (hash : Int) (unit : Nat) :
    hashUnit (.ofInt hash) unit = .ofInt (hash * 31 + unit) := by
  calc hashUnit (.ofInt hash) unit
      = .ofInt hash * .ofInt 32 - .ofInt hash + .ofInt unit := by
        rw [hashUnit, shiftLeft_five, Int32.ofInt_eq_ofNat]
        rfl
    _ = .ofInt (hash * 32 - hash + unit) := by
        rw [← Int32.ofInt_mul, ← Int32.ofInt_sub, ← Int32.ofInt_add]
    _ = .ofInt (hash * 31 + unit) := by
        congr 1
        ring

/-- Units behind the word of a number make the word of the number, moved up by their number, plus
their polynomial. -/
theorem foldl_hashUnit (hash : Int) (units : List Nat) :
    units.foldl hashUnit (.ofInt hash) =
      .ofInt (hash * 31 ^ units.length + polynomial units) := by
  induction units generalizing hash with
  | nil => simp [polynomial_nil]
  | cons unit units ih =>
    rw [List.foldl_cons, hashUnit_ofInt, ih, polynomial_cons, List.length_cons]
    congr 1
    ring

/-- The hash of a text is the word of its polynomial. -/
theorem tenantHash_eq_ofInt (text : String) :
    tenantHash text = .ofInt (polynomial (unitsOf text)) := by
  have hfold := foldl_hashUnit 0 (unitsOf text)
  rw [zero_mul, zero_add] at hfold
  exact hfold

/-- The hash of a text is the residue of its polynomial. -/
theorem toInt_tenantHash (text : String) :
    (tenantHash text).toInt = (polynomial (unitsOf text)).bmod (2 ^ 32) := by
  rw [tenantHash_eq_ofInt]
  exact Int32.toInt_ofInt

/-- The hash of a text is the polynomial of its units modulo `2 ^ 32`. -/
theorem tenantHash_modEq (text : String) :
    (tenantHash text).toInt ≡ polynomial (unitsOf text) [ZMOD 2 ^ 32] := by
  rw [toInt_tenantHash]
  exact Int.bmod_emod

/-! ## The seed -/

/-- The units of a text with more behind it are those of both. -/
theorem unitsOf_append (text more : String) :
    unitsOf (text ++ more) = unitsOf text ++ unitsOf more := by
  simp [unitsOf]

/-- The hash of two texts joined is the hash of the first, moved up by the units of the second, plus
the hash of the second, modulo `2 ^ 32`. -/
theorem tenantHash_append_modEq (text more : String) :
    (tenantHash (text ++ more)).toInt ≡
      (tenantHash text).toInt * 31 ^ (unitsOf more).length + (tenantHash more).toInt
      [ZMOD 2 ^ 32] := by
  have hjoined := tenantHash_modEq (text ++ more)
  rw [unitsOf_append, polynomial_append] at hjoined
  have hparts := ((tenantHash_modEq text).mul_right (31 ^ (unitsOf more).length)).add
    (tenantHash_modEq more)
  exact hjoined.trans hparts.symm

/-- **The seed of a tenant is the polynomial hash of its id** over the UTF-16 units, with the sign
of the residue dropped. It is at most `2 ^ 31`; only the residue `-2 ^ 31`, whose absolute value is
no signed word, makes it so large, and there is a tenant with that seed. Hashes of ids joined are
made of the hashes of the ids. -/
theorem tenantSeed_polynomial :
    (∀ text : String,
      tenantSeed text = ((polynomial (unitsOf text)).bmod (2 ^ 32)).natAbs ∧
        tenantSeed text ≤ 2 ^ 31 ∧
        (tenantSeed text = 2 ^ 31 ↔ (polynomial (unitsOf text)).bmod (2 ^ 32) = -2 ^ 31)) ∧
      (∃ text, tenantSeed text = 2 ^ 31) ∧
      ∀ text more : String, (tenantHash (text ++ more)).toInt ≡
        (tenantHash text).toInt * 31 ^ (unitsOf more).length + (tenantHash more).toInt
        [ZMOD 2 ^ 32] := by
  refine ⟨fun text => ?_, ⟨"polygenelubricants", by decide⟩, tenantHash_append_modEq⟩
  have hseed : tenantSeed text = ((polynomial (unitsOf text)).bmod (2 ^ 32)).natAbs := by
    rw [tenantSeed, toInt_tenantHash]
  have hlow : -2 ^ 31 ≤ (polynomial (unitsOf text)).bmod (2 ^ 32) := Int.le_bmod (by decide)
  have hhigh : (polynomial (unitsOf text)).bmod (2 ^ 32) < 2 ^ 31 := Int.bmod_lt (by decide)
  exact ⟨hseed, by omega, by omega⟩

/-- A character beyond `U+FFFF` has two units. -/
example : unitsOf "a😀" = [0x61, 0xD83D, 0xDE00] ∧ tenantSeed "a😀" = 1866116 := by
  decide

end Seedbed.Random
