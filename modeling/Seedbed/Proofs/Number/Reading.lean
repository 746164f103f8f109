import Seedbed.Proofs.Calendar.Text

/-!
# Reading numbers that were written

A whole number that fits its word is read back from its text (`readInteger_integerText`,
`readNatural_digits`). The text holds no blanks, so it is what is left when blanks around it are cut
off (`Text.trim_spaced`).
-/

namespace Seedbed

/-! ## Blanks around a text -/

namespace Text

/-- A text with any blanks before and behind it. -/
def Spaced (core text : List Char) : Prop :=
  ∃ before after, (∀ c ∈ before, isBlank c = true) ∧ (∀ c ∈ after, isBlank c = true) ∧
    text = before ++ core ++ after

variable {core text : List Char}

/-- A text is itself without blanks around it. -/
theorem Spaced.refl (core : List Char) : Spaced core core :=
  ⟨[], [], by simp, by simp, by simp⟩

/-- A text with blanks around it is not empty when the text within them is not. -/
theorem Spaced.ne_nil (h : Spaced core text) (hne : core ≠ []) : text ≠ [] := by
  obtain ⟨before, after, -, -, rfl⟩ := h
  simp [hne]

/-- A mark that is no blank does not come with the blanks. -/
theorem Spaced.not_mem (h : Spaced core text) {c : Char} (hblank : isBlank c = false)
    (hcore : c ∉ core) : c ∉ text := by
  obtain ⟨before, after, hbefore, hafter, rfl⟩ := h
  have hnot (blanks : List Char) (hall : ∀ b ∈ blanks, isBlank b = true) : c ∉ blanks := fun hc =>
    absurd (hall c hc) (by simp [hblank])
  simp [hnot before hbefore, hcore, hnot after hafter]

/-- Cutting off blanks ends at the first character that is none. -/
theorem dropWhile_blanks {blanks rest : List Char} (hblanks : ∀ c ∈ blanks, isBlank c = true)
    (hrest : ∀ c ∈ rest.head?, isBlank c = false) :
    (blanks ++ rest).dropWhile isBlank = rest := by
  rw [List.dropWhile_append_of_pos hblanks]
  cases rest with
  | nil => rfl
  | cons c rest => simp [hrest c rfl]

/-- A text without blanks is left when the blanks around it are cut off. -/
theorem trim_spaced (h : Spaced core text) (hne : core ≠ [])
    (hcore : ∀ c ∈ core, isBlank c = false) : trim text = core := by
  obtain ⟨before, after, hbefore, hafter, rfl⟩ := h
  have hstart : trimStart (before ++ core ++ after) = core ++ after := by
    rw [trimStart, List.append_assoc]
    refine dropWhile_blanks hbefore fun c hc => hcore c ?_
    rw [List.head?_append, Option.or_of_isSome (by simpa using hne)] at hc
    exact List.mem_of_mem_head? hc
  have hend : (core ++ after).reverse.dropWhile isBlank = core.reverse := by
    rw [List.reverse_append]
    refine dropWhile_blanks (by simpa using hafter) fun c hc => hcore c ?_
    exact List.mem_reverse.1 (List.mem_of_mem_head? hc)
  rw [trim, hstart, trimEnd, hend, List.reverse_reverse]

end Text

/-! ## Whole numbers -/

namespace Number

variable {bits : Nat}

/-- The digits of a number start with a decimal digit. -/
theorem digits_eq_cons (n : Nat) : ∃ c ds, digits n = c :: ds ∧ c.isDigit = true := by
  obtain ⟨c, ds, hds⟩ := List.exists_cons_of_ne_nil (digits_ne_nil n)
  exact ⟨c, ds, hds, isDigit_of_mem_digits (hds ▸ List.mem_cons_self ..)⟩

/-- A number that fits is read back from its digits. -/
theorem readNatural_digits {n : Nat} (h : n < 2 ^ bits) : readNatural bits (digits n) = some n := by
  obtain ⟨c, ds, hds, hdigit⟩ := digits_eq_cons n
  have hread := readDigits_digits n
  rw [hds] at hread ⊢
  unfold readNatural
  split
  · next heq =>
    cases heq
    cases hdigit
  · simp only [hread, Option.filter_some, decide_eq_true h, if_true]

/-- A number of a signed word is read back from its text. -/
theorem readInteger_integerText {i : Int} (hlower : -2 ^ (bits - 1) ≤ i)
    (hupper : i < 2 ^ (bits - 1)) : readInteger bits (integerText i) = some i := by
  have hcast : ((2 ^ (bits - 1) : Nat) : Int) = 2 ^ (bits - 1) := by simp
  unfold integerText
  split
  · next hneg =>
    have hle : i.natAbs ≤ 2 ^ (bits - 1) := by omega
    simp only [readInteger, readDigits_digits, Option.filter_some, decide_eq_true hle, if_true,
      Option.bind_eq_bind, Option.bind_some, Option.pure_def, Option.map_some, Option.some.injEq]
    omega
  · next hpos =>
    have hlt : i.natAbs < 2 ^ (bits - 1) := by omega
    obtain ⟨c, ds, hds, hdigit⟩ := digits_eq_cons i.natAbs
    have hread := readDigits_digits i.natAbs
    rw [hds] at hread ⊢
    unfold readInteger
    split
    · next heq =>
      cases heq
      cases hdigit
    · next heq =>
      cases heq
      cases hdigit
    · rw [hread, Option.filter_some, if_pos (decide_eq_true hlt), Option.map_some]
      congr 1
      simp only [Int.ofNat_eq_natCast]
      omega

/-- The text of an integer is not empty. -/
theorem integerText_ne_nil (i : Int) : integerText i ≠ [] := by
  unfold integerText
  split
  · simp
  · exact digits_ne_nil _

/-- A number is written with digits and a hyphen. -/
theorem eq_or_isDigit_of_mem_integerText {i : Int} {c : Char} (h : c ∈ integerText i) :
    c = '-' ∨ c.isDigit = true := by
  unfold integerText at h
  split at h
  · exact (List.mem_cons.1 h).imp_right isDigit_of_mem_digits
  · exact .inr (isDigit_of_mem_digits h)

/-- No blank stands in the text of an integer. -/
theorem not_isBlank_of_mem_integerText {i : Int} {c : Char} (h : c ∈ integerText i) :
    Text.isBlank c = false := by
  rcases eq_or_isDigit_of_mem_integerText h with rfl | hdigit
  · rfl
  · exact Text.not_isBlank_of_isDigit hdigit

end Number

end Seedbed
