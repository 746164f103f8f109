import Mathlib.Tactic.IntervalCases
import Seedbed.Calendar.Text
import Seedbed.Proofs.Calendar.Civil

/-!
# Reading dates that were written

Every date of the calendar is read back from its whole text (`Date.read?_text`), so no two dates
have one text (`Date.toText_injective`). A timestamp is read by its first ten bytes, and these are
the text of a date only in the years 0 to 9999. In front of them the sign takes the place of the
last digit of the day, and behind them no day is left: `Date.readTimestamp?_text` says what is read
over the whole calendar.
-/

namespace Seedbed

namespace Number

/-! ## Padded digits -/

variable {width n : Nat}

/-- Padded digits are decimal digits, those that pad among them. -/
theorem isDigit_of_mem_digitsPadded {c : Char} (h : c ∈ digitsPadded width n) :
    c.isDigit = true := by
  rw [digitsPadded, List.mem_append] at h
  rcases h with h | h
  · rw [(List.mem_replicate.1 h).2]
    rfl
  · exact isDigit_of_mem_digits h

/-- Zeros in front leave the number as it is. -/
theorem ofDigitChars_digitsPadded (width n : Nat) :
    Nat.ofDigitChars 10 (digitsPadded width n) 0 = n := by
  rw [digitsPadded, Nat.ofDigitChars_append, Nat.ofDigitChars_replicate_zero, Nat.mul_zero]
  exact Nat.ofDigitChars_toDigits (by decide) (by decide)

/-- Digits are padded to a width, and longer ones are not cut. -/
theorem length_digitsPadded (width n : Nat) :
    (digitsPadded width n).length = max width (digits n).length := by
  simp only [digitsPadded, List.length_append, List.length_replicate]
  omega

/-- A number has at most `k` digits exactly when it is smaller than `10 ^ k`. -/
theorem length_digits_le_iff {k : Nat} (hk : 0 < k) : (digits n).length ≤ k ↔ n < 10 ^ k :=
  Nat.length_toDigits_le_iff (by decide) hk

/-- A number that fits is padded to the width. -/
theorem length_digitsPadded_of_lt (hw : 0 < width) (h : n < 10 ^ width) :
    (digitsPadded width n).length = width := by
  rw [length_digitsPadded, max_eq_left ((length_digits_le_iff hw).2 h)]

/-- A month or day is written as its tens and its ones. -/
theorem digitsPadded_two : ∀ n < 100,
    digitsPadded 2 n = [Nat.digitChar (n / 10), Nat.digitChar (n % 10)] := by
  decide

end Number

namespace Text

/-- A digit is no blank. -/
theorem not_isBlank_of_isDigit {c : Char} (h : c.isDigit = true) : isBlank c = false := by
  have hrange : 48 ≤ c.toNat ∧ c.toNat ≤ 57 := by
    simp only [Char.isDigit, Bool.and_eq_true, decide_eq_true_eq, ge_iff_le,
      UInt32.le_iff_toNat_le] at h
    exact h
  simp only [isBlank, Bool.or_eq_false_iff, Bool.and_eq_false_iff, decide_eq_false_iff_not,
    beq_eq_false_iff_ne]
  omega

/-- A text that starts with no blank loses nothing at its start. -/
theorem trimStart_cons {c : Char} (h : isBlank c = false) (cs : List Char) :
    trimStart (c :: cs) = c :: cs := by
  simp [trimStart, h]

end Text

namespace Date

open Number (digitsPadded)

/-! ## Numbers in a text -/

/-- A padded number begins with a digit. -/
theorem digitsPadded_eq_cons {width : Nat} (hw : 0 < width) (n : Nat) :
    ∃ c ds, digitsPadded width n = c :: ds ∧ c.isDigit = true := by
  cases hds : digitsPadded width n with
  | nil =>
    have hlength := Number.length_digitsPadded width n
    simp only [hds, List.length_nil] at hlength
    omega
  | cons c ds =>
    have hmem : c ∈ digitsPadded width n := hds ▸ List.mem_cons_self ..
    exact ⟨c, ds, rfl, Number.isDigit_of_mem_digitsPadded hmem⟩

/-- A text does not go on with a digit. -/
def StopsDigits (cs : List Char) : Prop :=
  ∀ c ∈ cs.head?, c.isDigit = false

/-- Digits are read up to the limit, or to where they stop. -/
theorem readDigitsUpTo_append {limit : Nat} {ds rest : List Char} (hne : ds ≠ [])
    (hds : ∀ c ∈ ds, c.isDigit = true) (hlength : ds.length ≤ limit)
    (hstop : ds.length = limit ∨ StopsDigits rest) :
    readDigitsUpTo limit (ds ++ rest) = some (Nat.ofDigitChars 10 ds 0, rest) := by
  have htaken : ((ds ++ rest).take limit).takeWhile Char.isDigit = ds := by
    rw [List.take_append, List.take_of_length_le hlength, List.takeWhile_append_of_pos hds]
    rcases hstop with hfull | hstop
    · simp [hfull]
    · cases rest with
      | nil => simp
      | cons c rest =>
        have hc : c.isDigit = false := hstop c rfl
        cases limit - ds.length with
        | zero => simp
        | succ k => simp [hc]
  simp only [readDigitsUpTo, htaken, List.isEmpty_iff, if_neg hne, List.drop_left]

/-- A padded number of at most the limit's digits is read. -/
theorem readDigitsUpTo_digitsPadded {limit width n : Nat} {rest : List Char} (hw : 0 < width)
    (hlength : (digitsPadded width n).length ≤ limit)
    (hstop : (digitsPadded width n).length = limit ∨ StopsDigits rest) :
    readDigitsUpTo limit (digitsPadded width n ++ rest) = some (n, rest) := by
  have hne : digitsPadded width n ≠ [] := by
    obtain ⟨c, ds, hds, -⟩ := digitsPadded_eq_cons hw n
    simp [hds]
  rw [readDigitsUpTo_append hne (fun _ => Number.isDigit_of_mem_digitsPadded) hlength hstop,
    Number.ofDigitChars_digitsPadded]

/-! ## Years, months and days -/

/-- A year is read back from a text that goes on behind its digits. -/
theorem readYear_yearText (year : Int) {rest : List Char} (hstop : StopsDigits rest) :
    readYear (yearText year ++ rest) = some (year, rest) := by
  have hsigned (sign : Char) (hsign : sign = '-' ∨ sign = '+') (n : Nat) :
      readYear (sign :: digitsPadded 4 n ++ rest) =
        some (if sign = '-' then -(n : Int) else n, rest) := by
    have hread : readDigitsUpTo (digitsPadded 4 n ++ rest).length (digitsPadded 4 n ++ rest) =
        some (n, rest) :=
      readDigitsUpTo_digitsPadded (by decide) (by simp) (.inr hstop)
    rcases hsign with rfl | rfl
    · rw [List.cons_append, readYear, Text.trimStart_cons (by decide)]
      simp only [hread]
      rfl
    · rw [List.cons_append, readYear, Text.trimStart_cons (by decide)]
      simp only [hread]
      rfl
  unfold yearText
  split
  · next hrange =>
    have hfits : (digitsPadded 4 year.toNat).length = 4 :=
      Number.length_digitsPadded_of_lt (by decide) (by omega)
    have hread : readDigitsUpTo 4 (digitsPadded 4 year.toNat ++ rest) =
        some (year.toNat, rest) :=
      readDigitsUpTo_digitsPadded (by decide) (by omega) (.inl hfits)
    obtain ⟨c, ds, hds, hdigit⟩ := digitsPadded_eq_cons (by decide : 0 < 4) year.toNat
    rw [hds, List.cons_append] at hread
    rw [hds, List.cons_append, readYear, Text.trimStart_cons (Text.not_isBlank_of_isDigit hdigit)]
    split
    · next h =>
      cases h
      cases hdigit
    · next h =>
      cases h
      cases hdigit
    · rw [hread, Option.map_some]
      simp only [Int.toNat_of_nonneg hrange.1]
  · next hrange =>
    split
    · next hneg =>
      rw [hsigned '-' (.inl rfl), if_pos rfl]
      congr 2
      omega
    · next hpos =>
      rw [hsigned '+' (.inr rfl), if_neg (by decide)]
      congr 2
      omega

/-- A month or day is read back from its two digits. -/
theorem readPart_digitsPadded {n : Nat} (h : n < 100) (rest : List Char) :
    readPart ('-' :: (digitsPadded 2 n ++ rest)) = some (n, rest) := by
  have hlength : (digitsPadded 2 n).length = 2 :=
    Number.length_digitsPadded_of_lt (by decide) h
  obtain ⟨c, ds, hds, hdigit⟩ := digitsPadded_eq_cons (by decide : 0 < 2) n
  have hblank := Text.not_isBlank_of_isDigit hdigit
  have htrim : Text.trimStart (digitsPadded 2 n ++ rest) = digitsPadded 2 n ++ rest := by
    rw [hds, List.cons_append, Text.trimStart_cons hblank]
  rw [readPart, htrim]
  exact readDigitsUpTo_digitsPadded (by decide) (by omega) (.inl hlength)

/-- The first digit of a day alone is read as its tens. -/
theorem readPart_tens {n : Nat} (h : n < 100) :
    readPart ['-', Nat.digitChar (n / 10)] = some (n / 10, []) := by
  have hten : ∀ k < 10, readPart ['-', Nat.digitChar k] = some (k, []) := by decide
  exact hten (n / 10) (by omega)

/-! ## Whole texts -/

/-- Month and day of a date have at most two digits. -/
theorem month_day_lt (d : Date) : d.civil.month < 100 ∧ d.civil.day < 100 := by
  obtain ⟨⟨-, hmonth⟩, -, hday⟩ := Civil.exists?_iff.1 d.exists?_civil
  have hlength := Civil.monthLength_bounds d.civil.year d.civil.month
  omega

/-- A text that begins with the year and the month of a date goes on with its day. -/
theorem read?_yearText_append (d : Date) (rest : List Char) :
    read? (yearText d.civil.year ++ '-' :: (digitsPadded 2 d.civil.month ++ rest)) =
      (readPart rest).bind fun (day, cs) =>
        if cs.isEmpty then ofCivil? { d.civil with day } else none := by
  have hhyphen : StopsDigits ('-' :: (digitsPadded 2 d.civil.month ++ rest)) := by
    rintro c ⟨⟩
    rfl
  have hmonth := readPart_digitsPadded d.month_day_lt.1 rest
  simp only [read?, readYear_yearText _ hhyphen, hmonth, Option.bind_eq_bind, Option.bind_some]

/-- Every date is read back from its text. -/
theorem read?_text (d : Date) : read? d.text = some d := by
  have hday := readPart_digitsPadded d.month_day_lt.2 []
  rw [List.append_nil] at hday
  have h := read?_yearText_append d ('-' :: digitsPadded 2 d.civil.day)
  rw [hday] at h
  exact h.trans d.ofCivil?_civil

/-- No two dates have one text. -/
theorem toText_injective {d e : Date} (h : d.toText = e.toText) : d = e := by
  have htext : d.text = e.text := String.ofList_injective h
  have hread := read?_text d
  rw [htext, read?_text] at hread
  exact (Option.some.inj hread).symm

/-- The text of a date is not empty. -/
theorem text_ne_nil (d : Date) : d.text ≠ [] := by
  simp [text]

/-- A date is written with signs and digits. -/
theorem eq_sign_or_isDigit_of_mem_text {d : Date} {c : Char} (h : c ∈ d.text) :
    c = '-' ∨ c = '+' ∨ c.isDigit = true := by
  have hyear {year : Int} (h : c ∈ yearText year) : c = '-' ∨ c = '+' ∨ c.isDigit = true := by
    unfold yearText at h
    split at h
    · exact .inr (.inr (Number.isDigit_of_mem_digitsPadded h))
    · rcases List.mem_cons.1 h with rfl | h
      · split <;> simp
      · exact .inr (.inr (Number.isDigit_of_mem_digitsPadded h))
  simp only [text, List.mem_append, List.mem_cons] at h
  rcases h with h | rfl | h | rfl | h
  · exact hyear h
  · exact .inl rfl
  · exact .inr (.inr (Number.isDigit_of_mem_digitsPadded h))
  · exact .inl rfl
  · exact .inr (.inr (Number.isDigit_of_mem_digitsPadded h))

/-- No blank stands in the text of a date. -/
theorem not_isBlank_of_mem_text {d : Date} {c : Char} (h : c ∈ d.text) :
    Text.isBlank c = false := by
  rcases eq_sign_or_isDigit_of_mem_text h with rfl | rfl | hdigit
  · rfl
  · rfl
  · exact Text.not_isBlank_of_isDigit hdigit

/-! ## The first ten bytes -/

/-- A text of characters of one byte is cut behind as many of them. -/
theorem takeBytes_of_ascii {cs : List Char} (hascii : ∀ c ∈ cs, c.utf8Size = 1) {bytes : Nat}
    (hle : bytes ≤ cs.length) : takeBytes bytes cs = some (cs.take bytes) := by
  induction cs generalizing bytes with
  | nil =>
    obtain rfl : bytes = 0 := by simpa using hle
    rfl
  | cons c cs ih =>
    obtain ⟨hc, hcs⟩ := List.forall_mem_cons.1 hascii
    cases bytes with
    | zero => rfl
    | succ bytes =>
      have hrest : takeBytes bytes cs = some (cs.take bytes) := ih hcs (by simpa using hle)
      simp [takeBytes, hc, hrest]

/-- A decimal digit takes one byte. -/
theorem utf8Size_of_isDigit {c : Char} (h : c.isDigit = true) : c.utf8Size = 1 := by
  simp only [Char.isDigit, Bool.and_eq_true, decide_eq_true_eq, ge_iff_le] at h
  rw [Char.utf8Size, if_pos (UInt32.le_trans h.2 (by decide))]

/-- Every character in the text of a date takes one byte. -/
theorem utf8Size_of_mem_text {d : Date} {c : Char} (h : c ∈ d.text) : c.utf8Size = 1 := by
  rcases eq_sign_or_isDigit_of_mem_text h with rfl | rfl | hdigit
  · rfl
  · rfl
  · exact utf8Size_of_isDigit hdigit

/-- How many bytes a year takes: four digits in the years 0 to 9999, and else its sign and at
least four digits, five from 10000 on. -/
theorem length_yearText (year : Int) :
    (0 ≤ year ∧ year ≤ 9999 → (yearText year).length = 4) ∧
      (year < 0 ∧ -9999 ≤ year → (yearText year).length = 5) ∧
      (year < -9999 ∨ 9999 < year → 6 ≤ (yearText year).length) := by
  refine ⟨fun h => ?_, fun h => ?_, fun h => ?_⟩
  · rw [yearText, if_pos h]
    exact Number.length_digitsPadded_of_lt (by decide) (by omega)
  · rw [yearText, if_neg (by omega), List.length_cons,
      Number.length_digitsPadded_of_lt (by decide) (by omega)]
  · have hdigits : ¬(Number.digits year.natAbs).length ≤ 4 := by
      rw [Number.length_digits_le_iff (by decide)]
      omega
    rw [yearText, if_neg (by omega), List.length_cons, Number.length_digitsPadded]
    omega

/-- The years of the calendar take at most seven bytes. -/
theorem length_yearText_civil (d : Date) : (yearText d.civil.year).length ≤ 7 := by
  have hyear := d.year_bounds
  have hdigits : (Number.digits d.civil.year.natAbs).length ≤ 6 :=
    (Number.length_digits_le_iff (by decide)).2 (by omega)
  rw [yearText]
  split
  · rw [Number.length_digitsPadded_of_lt (by decide) (by omega)]
    omega
  · rw [List.length_cons, Number.length_digitsPadded]
    omega

/-- The first ten bytes of the text of a date hold its year and its month, and what is left of them
for the day. -/
theorem take_text (d : Date) : d.text.take 10 =
    yearText d.civil.year ++ '-' :: (digitsPadded 2 d.civil.month ++
      ('-' :: digitsPadded 2 d.civil.day).take (7 - (yearText d.civil.year).length)) := by
  have hyear := d.length_yearText_civil
  have hmonth : (digitsPadded 2 d.civil.month).length = 2 :=
    Number.length_digitsPadded_of_lt (by decide) d.month_day_lt.1
  obtain ⟨k, hk⟩ : ∃ k, 10 - (yearText d.civil.year).length = k + 3 :=
    ⟨7 - (yearText d.civil.year).length, by omega⟩
  have hrest : 7 - (yearText d.civil.year).length = k := by omega
  rw [text, List.take_append, List.take_of_length_le (by omega), hk, hrest, List.take_succ_cons,
    List.take_append, List.take_of_length_le (by omega), hmonth]
  rfl

/-- **What is read in the first ten bytes of a date that was written**: the date, in the years 0 to
9999; the day of its month that the first digit of its day names, in the years -9999 to -1; and no
date beyond them. -/
theorem readTimestamp?_text (d : Date) :
    (0 ≤ d.civil.year ∧ d.civil.year ≤ 9999 → readTimestamp? d.text = some d) ∧
      (d.civil.year < 0 ∧ -9999 ≤ d.civil.year →
        readTimestamp? d.text = ofCivil? { d.civil with day := d.civil.day / 10 }) ∧
      (d.civil.year < -9999 ∨ 9999 < d.civil.year → readTimestamp? d.text = none) := by
  have hday : (digitsPadded 2 d.civil.day).length = 2 :=
    Number.length_digitsPadded_of_lt (by decide) d.month_day_lt.2
  have hmonth : (digitsPadded 2 d.civil.month).length = 2 :=
    Number.length_digitsPadded_of_lt (by decide) d.month_day_lt.1
  obtain ⟨hplain, hsigned, hwide⟩ := length_yearText d.civil.year
  have hlength : 10 ≤ d.text.length := by
    have hfour : 4 ≤ (yearText d.civil.year).length := by omega
    simp only [text, List.length_append, List.length_cons]
    omega
  have hread : readTimestamp? d.text = (readPart (('-' :: digitsPadded 2 d.civil.day).take
      (7 - (yearText d.civil.year).length))).bind fun (day, cs) =>
        if cs.isEmpty then ofCivil? { d.civil with day } else none := by
    rw [readTimestamp?, takeBytes_of_ascii (fun _ => utf8Size_of_mem_text) hlength,
      Option.bind_some, take_text, read?_yearText_append]
  refine ⟨fun h => ?_, fun h => ?_, fun h => ?_⟩
  · have hwhole := readPart_digitsPadded d.month_day_lt.2 []
    rw [List.append_nil] at hwhole
    rw [hread, hplain h, List.take_of_length_le (by simp [hday]), hwhole]
    exact d.ofCivil?_civil
  · have htens := readPart_tens d.month_day_lt.2
    rw [hread, hsigned h, Number.digitsPadded_two _ d.month_day_lt.2]
    show (readPart ['-', Nat.digitChar (d.civil.day / 10)]).bind _ = _
    rw [htens]
    rfl
  · have hshort : 7 - (yearText d.civil.year).length ≤ 1 := by
      have := hwide h
      omega
    rw [hread]
    interval_cases 7 - (yearText d.civil.year).length <;> rfl

end Date

end Seedbed
