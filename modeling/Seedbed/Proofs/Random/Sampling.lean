import Seedbed.Proofs.Random.Bounds

/-!
# Draws in words that wrap

A number from a range is drawn with numbers that have no bound. The range may as well be given in
words of a width: then its size is a word too, which is 0 for the range of all words, and all that
is done to draw from it wraps (`sampled`). Both are the same draw (`between_eq_sampled`,
`int_eq_sampled`): the correction by one never reaches the size of the range, so that neither it nor
the lower bound that is added at the end goes beyond the word, whatever the sign of the bounds is.
-/

namespace Seedbed.Random.Draw

/-- A word of a width. -/
def wordOf (width : Width) : Draw (BitVec width.bits) := do
  return BitVec.ofNat width.bits (← ofWidth width)

/-- The upper half of the product of two words; the lower half is their product that wraps. -/
def upperHalf {bits : Nat} (x y : BitVec bits) : BitVec bits :=
  BitVec.ofNat bits (x.toNat * y.toNat / 2 ^ bits)

/-- A word from `low` to `high`, in operations that wrap: the upper half of a word times the size of
the range, one more where the lower half and the upper half of a second such product carry. -/
def sampled (width : Width) (low high : BitVec width.bits) : Draw (BitVec width.bits) := do
  let size := high - low + 1
  let first ← wordOf width
  if size = 0 then return first
  else if -size < first * size then
    let second ← wordOf width
    let carries := BitVec.uaddOverflow (first * size) (upperHalf second size)
    return low + (upperHalf first size + if carries then 1 else 0)
  else
    return low + upperHalf first size

/-- A converted draw leaves the source that the draw leaves. -/
theorem map_apply {α β : Type} (convert : α → β) (draw : Draw α) (source : Source) :
    (convert <$> draw) source = (convert (draw source).1, (draw source).2) := rfl

/-! ## Words and numbers -/

variable {bits : Nat} {width : Width}

/-- The number that is drawn of all words is the word that is drawn. -/
theorem ofWidth_eq (width : Width) : ofWidth width = BitVec.toNat <$> wordOf width := by
  funext source
  have hlt := ofWidth_lt width source
  simp only [wordOf, map_apply, bind_apply, pure_apply, BitVec.toNat_ofNat, Nat.mod_eq_of_lt hlt]
  rfl

/-- The upper half of a product does not wrap. -/
theorem toNat_upperHalf (x y : BitVec bits) :
    (upperHalf x y).toNat = x.toNat * y.toNat / 2 ^ bits := by
  have hlt : x.toNat * y.toNat / 2 ^ bits < 2 ^ bits :=
    Nat.div_lt_of_lt_mul (Nat.mul_lt_mul'' x.isLt y.isLt)
  rw [upperHalf, BitVec.toNat_ofNat, Nat.mod_eq_of_lt hlt]

/-- The lower half is above the negative of the size where the product may lose a carry. -/
theorem neg_lt_mul_iff (first size : BitVec bits) (hpos : 0 < size.toNat) :
    -size < first * size ↔
      2 ^ bits - size.toNat < first.toNat * size.toNat % 2 ^ bits := by
  have hlt := size.isLt
  rw [BitVec.lt_def, BitVec.toNat_neg, Nat.mod_eq_of_lt (by omega), BitVec.toNat_mul]

/-- The correction by one is made where the two halves do not fit a word. -/
theorem upperHalf_add_carry (first second size : BitVec bits) :
    upperHalf first size +
        (if BitVec.uaddOverflow (first * size) (upperHalf second size) then 1 else 0) =
      BitVec.ofNat bits
        (if 2 ^ bits ≤ first.toNat * size.toNat % 2 ^ bits + second.toNat * size.toNat / 2 ^ bits
          then first.toNat * size.toNat / 2 ^ bits + 1
          else first.toNat * size.toNat / 2 ^ bits) := by
  simp only [BitVec.uaddOverflow, BitVec.toNat_mul, toNat_upperHalf, ge_iff_le, decide_eq_true_iff]
  split
  · rw [BitVec.ofNat_add]
    rfl
  · exact BitVec.add_zero _

/-! ## One draw, described twice -/

/-- From a range that is not the range of all words, a word is drawn as a number below the size of
the range. -/
theorem sampled_eq_below (low high : BitVec width.bits) (hsize : high - low + 1 ≠ 0) :
    sampled width low high =
      (fun n => low + BitVec.ofNat width.bits n) <$> below width (high - low + 1).toNat := by
  funext source
  have hpos : 0 < (high - low + 1).toNat := by
    rw [Nat.pos_iff_ne_zero]
    exact fun h => hsize (BitVec.eq_of_toNat_eq h)
  simp only [sampled, below, ofWidth_eq, bind_map_left, bind_apply, map_apply, if_neg hsize]
  generalize high - low + 1 = size at hpos
  by_cases h : -size < (wordOf width source).1 * size
  · rw [if_pos h, if_pos ((neg_lt_mul_iff _ size hpos).1 h)]
    simp only [bind_apply, pure_apply, upperHalf_add_carry]
  · rw [if_neg h, if_neg (mt (neg_lt_mul_iff _ size hpos).2 h)]
    simp only [pure_apply, upperHalf]

/-- From a word to the word at a distance, a word is drawn as a number up to the distance; when
these are all words, as a word. -/
theorem sampled_of_distance (low : BitVec width.bits) {distance : Nat}
    (hlt : distance < 2 ^ width.bits) :
    sampled width low (low + BitVec.ofNat width.bits distance) =
      if distance + 1 = 2 ^ width.bits then wordOf width
      else (fun n => low + BitVec.ofNat width.bits n) <$> below width (distance + 1) := by
  have hsize : low + BitVec.ofNat width.bits distance - low + 1 =
      BitVec.ofNat width.bits (distance + 1) := by
    rw [BitVec.add_comm low, BitVec.add_sub_cancel, BitVec.ofNat_add]
    rfl
  split
  · next hall =>
    have hzero : low + BitVec.ofNat width.bits distance - low + 1 = 0 := by
      have htoNat : (BitVec.ofNat width.bits (2 ^ width.bits)).toNat = 0 :=
        (BitVec.toNat_ofNat _ _).trans (Nat.mod_self _)
      rw [hsize, hall]
      exact BitVec.eq_of_toNat_eq (htoNat.trans BitVec.toNat_zero.symm)
    simp only [sampled, hzero, if_true, bind_pure]
  · next hsome =>
    have htoNat : (BitVec.ofNat width.bits (distance + 1)).toNat = distance + 1 := by
      rw [BitVec.toNat_ofNat, Nat.mod_eq_of_lt (by omega)]
    have hne : BitVec.ofNat width.bits (distance + 1) ≠ 0 := by
      intro h
      rw [h] at htoNat
      simp at htoNat
    rw [sampled_eq_below low _ (hsize ▸ hne), hsize, htoNat]

/-- **A number between two words** is drawn in operations that wrap. -/
theorem between_eq_sampled (low high : BitVec width.bits) (hle : low.toNat ≤ high.toNat) :
    between width low.toNat high.toNat = BitVec.toNat <$> sampled width low high := by
  have hhigh : high = low + BitVec.ofNat width.bits (high.toNat - low.toNat) := by
    apply BitVec.eq_of_toNat_eq
    have hlt := high.isLt
    rw [BitVec.toNat_add, BitVec.toNat_ofNat, Nat.add_mod_mod, Nat.add_sub_cancel' hle,
      Nat.mod_eq_of_lt hlt]
  funext source
  rw [between]
  conv_rhs => rw [hhigh, sampled_of_distance low (by omega)]
  split
  · rw [ofWidth_eq]
  · have hbelow := below_lt width (high.toNat - low.toNat + 1) (by omega) source
    have hlt := high.isLt
    simp only [bind_apply, pure_apply, map_apply, BitVec.toNat_add, BitVec.toNat_ofNat,
      Nat.add_mod_mod]
    rw [Nat.mod_eq_of_lt (by omega)]

/-- A word read as a signed number. -/
theorem toInt_eq_ite (x : BitVec Width.wide.bits) :
    x.toInt = if x.toNat < 2 ^ 63 then (x.toNat : Int) else (x.toNat : Int) - 2 ^ 64 := by
  have hread : x.toInt = if 2 * x.toNat < 2 ^ 64 then (x.toNat : Int)
      else (x.toNat : Int) - ((2 ^ 64 : Nat) : Int) := BitVec.toInt_eq_toNat_cond x
  rw [hread]
  split <;> split <;> omega

/-- A signed word and a distance that stays below the largest signed word. -/
theorem toInt_add_ofNat (low : BitVec Width.wide.bits) {n : Nat} (h : low.toInt + n < 2 ^ 63) :
    (low + BitVec.ofNat Width.wide.bits n).toInt = low.toInt + n := by
  have hlow : -2 ^ 63 ≤ low.toInt := BitVec.le_toInt low
  rw [BitVec.toInt_add, ← BitVec.ofInt_natCast, BitVec.toInt_ofInt, Int.add_bmod_bmod]
  apply Int.bmod_eq_of_le
  · show -(2 ^ 64 / 2) ≤ low.toInt + n
    omega
  · show low.toInt + n < (2 ^ 64 + 1) / 2
    omega

/-- **A number between two signed words** is drawn in operations that wrap. -/
theorem int_eq_sampled (low high : BitVec Width.wide.bits) (hle : low.toInt ≤ high.toInt) :
    int low.toInt high.toInt = BitVec.toInt <$> sampled .wide low high := by
  have hlow : -2 ^ 63 ≤ low.toInt := BitVec.le_toInt low
  have hhigh : high.toInt < 2 ^ 63 := BitVec.toInt_lt
  obtain ⟨distance, hdistance⟩ := Int.le.dest hle
  have hsize : (high.toInt - low.toInt + 1).toNat = distance + 1 := by omega
  have heq : high = low + BitVec.ofNat Width.wide.bits distance := by
    apply BitVec.eq_of_toInt_eq
    rw [toInt_add_ofNat low (by omega), hdistance]
  have hlt : distance < 2 ^ Width.wide.bits := by
    show distance < 2 ^ 64
    omega
  have hsampled := sampled_of_distance low hlt
  rw [← heq] at hsampled
  funext source
  rw [int, hsize, hsampled]
  by_cases hall : distance + 1 = 2 ^ 64
  · have hword : bits64 = BitVec.toNat <$> wordOf .wide := ofWidth_eq .wide
    rw [if_pos hall, if_pos (show distance + 1 = 2 ^ Width.wide.bits from hall), hword]
    simp only [bind_apply, pure_apply, map_apply, toInt_eq_ite]
    rfl
  · have hbelow := below_lt .wide (distance + 1) (by omega) source
    rw [if_neg hall, if_neg (show ¬distance + 1 = 2 ^ Width.wide.bits from hall)]
    simp only [bind_apply, pure_apply, map_apply]
    rw [toInt_add_ofNat low (by omega)]

/-- A number below a size is a number from 0 to the one in front of the size. -/
theorem between_zero {size : Nat} (hpos : 0 < size) (hlt : size < 2 ^ width.bits) :
    between width 0 (size - 1) = below width size := by
  have hsize : size - 1 - 0 + 1 = size := by omega
  rw [between, hsize, if_neg (by omega)]
  simp only [Nat.zero_add, bind_pure]

/-- **An index below a length** is drawn in operations that wrap, as a word up to the last index. -/
theorem index?_eq_sampled {length : Nat} (hpos : 0 < length) (hlt : length < 2 ^ 64) :
    index? length = (fun last : BitVec _ => some last.toNat) <$>
      sampled (indexWidth length) 0 (BitVec.ofNat _ (length - 1)) := by
  have hwidth : length < 2 ^ (indexWidth length).bits := by
    unfold indexWidth
    split
    · next hnarrow => exact hnarrow
    · exact hlt
  have hfirst : (0 : BitVec (indexWidth length).bits).toNat = 0 := BitVec.toNat_zero
  have hlast : (BitVec.ofNat (indexWidth length).bits (length - 1)).toNat = length - 1 := by
    rw [BitVec.toNat_ofNat, Nat.mod_eq_of_lt (by omega)]
  have hbetween := @between_eq_sampled (indexWidth length) 0 (BitVec.ofNat _ (length - 1)) (by simp)
  rw [hfirst, hlast, between_zero hpos hwidth] at hbetween
  rw [index?, if_neg (Nat.ne_of_gt hpos), hbetween]
  simp only [bind_pure_comp, Functor.map_map]

/-- **Draws are in range from every state of the source**, whatever the bounds are, and they are the
draws of a sampler in words that wrap. Of nothing there is no index, and no draw. -/
theorem draws_in_range (source : Source) :
    (∀ min max : Int64, min ≤ max →
      int min.toInt max.toInt source =
          (BitVec.toInt <$> sampled .wide min.toBitVec max.toBitVec) source ∧
        min.toInt ≤ (int min.toInt max.toInt source).1 ∧
        (int min.toInt max.toInt source).1 ≤ max.toInt) ∧
      (∀ min max : UInt64, min ≤ max →
        count min.toNat max.toNat source =
            (BitVec.toNat <$> sampled .wide min.toBitVec max.toBitVec) source ∧
          min.toNat ≤ (count min.toNat max.toNat source).1 ∧
          (count min.toNat max.toNat source).1 ≤ max.toNat) ∧
      (∀ length : Nat, 0 < length →
        (length < 2 ^ 64 →
          index? length source = ((fun last : BitVec _ => some last.toNat) <$>
            sampled (indexWidth length) 0 (BitVec.ofNat _ (length - 1))) source) ∧
          ∃ i < length, (index? length source).1 = some i) ∧
      index? 0 source = (none, source) := by
  refine ⟨fun min max hle => ?_, fun min max hle => ?_, fun length hpos => ?_, rfl⟩
  · have hle' : min.toInt ≤ max.toInt := Int64.le_iff_toInt_le.1 hle
    refine ⟨congrFun (int_eq_sampled min.toBitVec max.toBitVec hle') source, ?_⟩
    exact int_bounds hle' min.le_toInt max.toInt_lt source
  · have hle' : min.toNat ≤ max.toNat := UInt64.le_iff_toNat_le.1 hle
    refine ⟨congrFun (@between_eq_sampled .wide min.toBitVec max.toBitVec hle') source, ?_⟩
    exact count_bounds hle' max.toNat_lt source
  · obtain ⟨i, hindex, hi⟩ := index?_lt hpos source
    exact ⟨fun hlt => congrFun (index?_eq_sampled hpos hlt) source, i, hi, hindex⟩

/-- The ranges of all words, and of one index. -/
theorem draws_in_range_of_all_words :
    (Int64.minValue ≤ Int64.maxValue ∧
      -2 ^ 63 ≤ (int (-2 ^ 63) (2 ^ 63 - 1) (.ofSeed 7)).1 ∧
      (int (-2 ^ 63) (2 ^ 63 - 1) (.ofSeed 7)).1 ≤ 2 ^ 63 - 1) ∧
    ((0 : UInt64) ≤ 18446744073709551615 ∧
      (count 0 (2 ^ 64 - 1) (.ofSeed 7)).1 ≤ 2 ^ 64 - 1) ∧
    ((0 < 1 ∧ 1 < 2 ^ 64) ∧
      index? 1 (.ofSeed 7) = ((fun last : BitVec _ => some last.toNat) <$>
        sampled (indexWidth 1) 0 (BitVec.ofNat _ (1 - 1))) (.ofSeed 7) ∧
      ∃ i < 1, (index? 1 (.ofSeed 7)).1 = some i) := by
  obtain ⟨hint, hcount, hindex, -⟩ := draws_in_range (.ofSeed 7)
  exact ⟨⟨by decide, (hint Int64.minValue Int64.maxValue (by decide)).2⟩,
    ⟨by decide, (hcount 0 18446744073709551615 (by decide)).2.2⟩,
    ⟨by decide, (hindex 1 (by decide)).1 (by decide), (hindex 1 (by decide)).2⟩⟩

end Seedbed.Random.Draw
