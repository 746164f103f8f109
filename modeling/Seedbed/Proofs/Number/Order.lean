import Mathlib
import Seedbed.Number.Binary

/-!
# The order of finite doubles

Two doubles that are no NaN can be compared, and the other way round they compare the other way
round. So of two finite doubles one is at most the other, unless it is above it (`le_of_not_lt`).
-/

namespace Seedbed.Number

open Float.Model (UnpackedFloat)

/-- Doubles that are swapped compare the other way round. -/
theorem compare_swap (a b : UnpackedFloat) : b.compare a = (a.compare b).map Ordering.swap := by
  -- two finite doubles of one sign compare by their exponents and then by their mantissas
  have hthen (e e' : Int) (m m' : Nat) :
      (compare e' e).then (compare m' m) = ((compare e e').then (compare m m')).swap := by
    rw [Ordering.swap_then, ← Std.OrientedOrd.eq_swap, ← Std.OrientedOrd.eq_swap]
  rcases a with (_ | _) | _ | _ | ⟨_ | _, m, e, -⟩ <;>
    rcases b with (_ | _) | _ | _ | ⟨_ | _, m', e', -⟩ <;>
      first
      | rfl
      | simp [UnpackedFloat.compare, hthen e e' m m']

/-- Only a NaN cannot be compared. -/
theorem exists_compare {a b : UnpackedFloat} (ha : a.isNaN = false) (hb : b.isNaN = false) :
    ∃ order, a.compare b = some order := by
  refine Option.isSome_iff_exists.1 ?_
  rcases a with (_ | _) | _ | _ | ⟨_ | _, _, _, -⟩ <;>
    rcases b with (_ | _) | _ | _ | ⟨_ | _, _, _, -⟩ <;>
      first
      | rfl
      | exact Bool.noConfusion ha
      | exact Bool.noConfusion hb

/-- The field of the exponent in the bits of a double. -/
theorem toNat_unpackExponent (x : Float) :
    (@UnpackedFloat.unpackExponent .binary64 x.toModel.toBits.toBitVec).toNat =
      x.toBits.toNat / 2 ^ fractionBits % 2 ^ 11 := by
  simp only [UnpackedFloat.unpackExponent, BitVec.toNat_cast, BitVec.extractLsb_toNat,
    Nat.shiftRight_eq_div_pow]
  rfl

/-- A finite double is no NaN. -/
theorem isNaN_of_isFinite {x : Float} (h : isFinite x = true) :
    x.toModel.unpack.isNaN = false := by
  have hfield : x.toBits.toNat / 2 ^ fractionBits % 2 ^ 11 ≠ 2047 := by
    intro hfield
    simp [isFinite, decode, hfield] at h
  have hexponent :
      @UnpackedFloat.unpackExponent .binary64 x.toModel.toBits.toBitVec ≠ -1#11 := by
    intro he
    have hnat := congrArg BitVec.toNat he
    rw [toNat_unpackExponent] at hnat
    exact hfield hnat
  rw [Float.Model.unpack, UnpackedFloat.unpack]
  simp only [if_neg hexponent]
  split
  · split <;> rfl
  · rfl

/-- Of two finite doubles the first is at most the second, unless the second is below it. -/
theorem le_of_not_lt {x y : Float} (hx : isFinite x = true) (hy : isFinite y = true)
    (h : ¬y < x) : x ≤ y := by
  obtain ⟨order, horder⟩ := exists_compare (isNaN_of_isFinite hx) (isNaN_of_isFinite hy)
  have hne : (y.toModel.unpack.compare x.toModel.unpack == some .lt) = false :=
    Bool.eq_false_iff.2 fun hlt => h (decide_eq_true hlt)
  have hle : ((x.toModel.unpack.compare y.toModel.unpack).any (·.isLE)) = true := by
    rw [compare_swap x.toModel.unpack, horder] at hne
    rw [horder]
    cases order with
    | lt => rfl
    | eq => rfl
    | gt => simp at hne
  exact decide_eq_true hle

end Seedbed.Number
