import Mathlib.Tactic.Ring
import Seedbed.Random.Source

/-!
# Draws stay in their range

Every number that is drawn from a range lies in it, from every state of the source. The one case
that asks for an argument is the correction of `Draw.below`: it adds one to a quotient only when the
remainder is so large that the quotient is not the last number of the range. A range of one number
takes a draw as well, whatever the number is (`count_self`).
-/

namespace Seedbed.Random.Draw

/-- A draw that goes on is the rest from what was drawn and the source behind it. -/
theorem bind_apply {α β : Type} (draw : Draw α) (next : α → Draw β) (source : Source) :
    (draw >>= next) source = next (draw source).1 (draw source).2 := rfl

@[simp] theorem pure_apply {α : Type} (value : α) (source : Source) :
    (pure value : Draw α) source = (value, source) := rfl

/-! ## Words -/

/-- A draw of 32 bits is smaller than `2 ^ 32`. -/
theorem bits32_lt (source : Source) : (bits32 source).1 < 2 ^ 32 :=
  (word source).1.toNat_lt

/-- Two words make a number of 64 bits. -/
theorem bits64_lt (source : Source) : (bits64 source).1 < 2 ^ 64 := by
  have hlow := bits32_lt source
  have hhigh := bits32_lt (bits32 source).2
  simp only [bits64, bind_apply, pure_apply]
  omega

/-- A draw of a width has no more bits than the width. -/
theorem ofWidth_lt (width : Width) (source : Source) :
    (ofWidth width source).1 < 2 ^ width.bits := by
  cases width with
  | narrow => exact bits32_lt source
  | wide => exact bits64_lt source

/-! ## Ranges -/

/-- The quotient of a word times a size by the number of words is below the size. -/
theorem quotient_lt {n words size : Nat} (hn : n < words) (hs : 0 < size) :
    n * size / words < size :=
  Nat.div_lt_of_lt_mul (Nat.mul_lt_mul_of_pos_right hn hs)

/-- The quotient is not the last number below the size when its remainder is so large that a carry
may be lost, so it can be corrected by one. -/
theorem quotient_succ_lt {n words size : Nat} (hn : n < words)
    (hr : words - size < n * size % words) : n * size / words + 1 < size := by
  by_contra hlast
  have hle : size ≤ n * size / words + 1 := Nat.le_of_not_lt hlast
  have hsplit := Nat.div_add_mod (n * size) words
  have hprod : (n + 1) * size ≤ words * size := Nat.mul_le_mul_right size hn
  have hq : words * size ≤ words * (n * size / words) + words := by
    calc words * size ≤ words * (n * size / words + 1) := Nat.mul_le_mul_left words hle
      _ = words * (n * size / words) + words := by ring
  have hexpand : (n + 1) * size = n * size + size := by ring
  omega

/-- A number below a size is below it, also when the size is larger than the number of words. -/
theorem below_lt (width : Width) (size : Nat) (hpos : 0 < size) (source : Source) :
    (below width size source).1 < size := by
  have hn := ofWidth_lt width source
  simp only [below, bind_apply]
  split
  · next hr =>
    simp only [bind_apply, pure_apply]
    split
    · exact quotient_succ_lt hn hr
    · exact quotient_lt hn hpos
  · exact quotient_lt hn hpos

/-- A number between two words of a width lies between them. -/
theorem between_bounds (width : Width) {min max : Nat} (hle : min ≤ max)
    (hmax : max < 2 ^ width.bits) (source : Source) :
    min ≤ (between width min max source).1 ∧ (between width min max source).1 ≤ max := by
  simp only [between]
  split
  · next hall =>
    have hn := ofWidth_lt width source
    omega
  · have hb := below_lt width (max - min + 1) (by omega) source
    simp only [bind_apply, pure_apply]
    omega

/-- A count lies between its bounds. -/
theorem count_bounds {min max : Nat} (hle : min ≤ max) (hmax : max < 2 ^ 64) (source : Source) :
    min ≤ (count min max source).1 ∧ (count min max source).1 ≤ max :=
  between_bounds .wide hle hmax source

/-- A number below one is drawn from one word, whatever the word is. -/
theorem below_one (width : Width) (source : Source) :
    below width 1 source = (0, (ofWidth width source).2) := by
  have hn := ofWidth_lt width source
  have hmod := Nat.mod_eq_of_lt hn
  simp only [below, bind_apply, Nat.mul_one]
  rw [if_neg (by omega), Nat.div_eq_of_lt hn]
  rfl

/-- **A count between equal bounds** is that bound and draws one number of 64 bits, whatever the
bound is. -/
theorem count_self (n : Nat) (source : Source) :
    count n n source = (n, (bits64 source).2) := by
  have hsize : n - n + 1 = 1 := by omega
  rw [count, between, hsize, if_neg (by decide), bind_apply, below_one]
  rfl

/-- A signed number lies between its bounds, also when these are all signed words. -/
theorem int_bounds {min max : Int} (hle : min ≤ max) (hmin : -2 ^ 63 ≤ min) (hmax : max < 2 ^ 63)
    (source : Source) : min ≤ (int min max source).1 ∧ (int min max source).1 ≤ max := by
  simp only [int]
  split
  · next hall =>
    have hn := bits64_lt source
    simp only [bind_apply, pure_apply]
    split <;> omega
  · next hall =>
    have hb := below_lt .wide (max - min + 1).toNat (by omega) source
    simp only [bind_apply, pure_apply]
    omega

/-- An index is below the length, and there is one unless the length is 0. -/
theorem index?_lt {length : Nat} (hpos : 0 < length) (source : Source) :
    ∃ i, (index? length source).1 = some i ∧ i < length := by
  refine ⟨(below (indexWidth length) length source).1, ?_, below_lt _ _ hpos source⟩
  simp only [index?, if_neg (Nat.ne_of_gt hpos)]
  rfl

/-- Drawing `n` times gives `n` results, each of which the draw can give. -/
theorem times_spec {α : Type} {draw : Draw α} {p : α → Prop} (h : ∀ source, p (draw source).1)
    (n : Nat) (source : Source) :
    (times n draw source).1.length = n ∧ ∀ a ∈ (times n draw source).1, p a := by
  induction n generalizing source with
  | zero => simp [times]
  | succ n ih =>
    obtain ⟨hlength, hall⟩ := ih (draw source).2
    simp only [times, List.replicate_succ, List.mapM_cons, bind_apply, pure_apply] at hlength hall ⊢
    exact ⟨by simp [hlength], List.forall_mem_cons.2 ⟨h source, hall⟩⟩

end Seedbed.Random.Draw
