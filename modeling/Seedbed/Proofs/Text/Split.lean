import Mathlib.Data.List.Basic
import Seedbed.Text.Split

/-!
# Texts that were put together are cut where they were joined

A text is cut at its last separator (`splitLast_append`) and at the first occurrence of a mark
(`splitFirstMark_append`). Pieces without the separator that were joined by it are given back
(`splitOn_joinWith`).
-/

namespace Seedbed.Text

variable {sep : Char}

/-! ## One cut -/

/-- A text without the separator is not cut. -/
theorem splitLast_of_not_mem {cs : List Char} (h : sep ∉ cs) : splitLast sep cs = none := by
  induction cs with
  | nil => rfl
  | cons c cs ih =>
    obtain ⟨hc, hcs⟩ : sep ≠ c ∧ sep ∉ cs := by simpa using h
    simp [splitLast, ih hcs, Ne.symm hc]

/-- A text is cut at its last separator. -/
theorem splitLast_append {after : List Char} (h : sep ∉ after) (before : List Char) :
    splitLast sep (before ++ sep :: after) = some (before, after) := by
  induction before with
  | nil => simp [splitLast, splitLast_of_not_mem h]
  | cons b before ih => simp [splitLast, ih]

/-- A text is cut at the first occurrence of a mark. -/
theorem splitFirstMark_append {mark before after : List Char} (hne : mark ≠ [])
    (hfirst : ∀ front back, before ++ mark ++ after = front ++ mark ++ back →
      before.length ≤ front.length) :
    splitFirstMark mark (before ++ mark ++ after) = some (before, after) := by
  induction before with
  | nil =>
    have hhere : mark.isPrefixOf? (mark ++ after) = some after :=
      List.isPrefixOf?_eq_some_iff_append_eq.2 rfl
    cases mark with
    | nil => exact absurd rfl hne
    | cons m mark =>
      rw [List.nil_append, List.cons_append, splitFirstMark, ← List.cons_append, hhere]
  | cons b before ih =>
    have hlater : mark.isPrefixOf? (b :: (before ++ mark ++ after)) = none := by
      cases hp : mark.isPrefixOf? (b :: (before ++ mark ++ after)) with
      | none => rfl
      | some back =>
        have hat : mark ++ back = b :: (before ++ mark ++ after) :=
          List.isPrefixOf?_eq_some_iff_append_eq.1 hp
        have hlength := hfirst [] back (by simpa using hat.symm)
        simp at hlength
    have hrest : splitFirstMark mark (before ++ mark ++ after) = some (before, after) := by
      refine ih fun front back he => ?_
      have hlength := hfirst (b :: front) back (by simpa using he)
      simpa using hlength
    rw [List.cons_append, List.cons_append, splitFirstMark, hlater, hrest, Option.map_some]

/-- A text without the mark is not cut. -/
theorem splitFirstMark_of_not_infix {mark cs : List Char} (h : ¬mark <:+: cs) :
    splitFirstMark mark cs = none := by
  induction cs with
  | nil => rfl
  | cons c cs ih =>
    obtain ⟨hhere, hlater⟩ := not_or.1 (List.infix_cons_iff.not.1 h)
    have hnone : mark.isPrefixOf? (c :: cs) = none := by
      cases hp : mark.isPrefixOf? (c :: cs) with
      | none => rfl
      | some back => exact absurd ⟨back, List.isPrefixOf?_eq_some_iff_append_eq.1 hp⟩ hhere
    rw [splitFirstMark, hnone]
    exact congrArg (Option.map _) (ih hlater)

/-! ## All cuts -/

/-- A text without the separator is one piece. -/
theorem splitOn_of_not_mem {cs : List Char} (h : sep ∉ cs) : splitOn sep cs = [cs] := by
  induction cs with
  | nil => rfl
  | cons c cs ih =>
    obtain ⟨hc, hcs⟩ : sep ≠ c ∧ sep ∉ cs := by simpa using h
    simp [splitOn, ih hcs, Ne.symm hc]

/-- The first piece ends at the first separator. -/
theorem splitOn_append {piece : List Char} (h : sep ∉ piece) (rest : List Char) :
    splitOn sep (piece ++ sep :: rest) = piece :: splitOn sep rest := by
  induction piece with
  | nil => simp [splitOn]
  | cons c piece ih =>
    obtain ⟨hc, hpiece⟩ : sep ≠ c ∧ sep ∉ piece := by simpa using h
    simp [splitOn, ih hpiece, Ne.symm hc]

/-- A piece holds no separator. -/
theorem not_mem_of_mem_splitOn {cs piece : List Char} (h : piece ∈ splitOn sep cs) :
    sep ∉ piece := by
  induction cs generalizing piece with
  | nil =>
    obtain rfl : piece = [] := by simpa [splitOn] using h
    exact List.not_mem_nil
  | cons c cs ih =>
    rw [splitOn] at h
    split at h
    · rcases List.mem_cons.1 h with rfl | h
      · exact List.not_mem_nil
      · exact ih h
    · next hc =>
      split at h
      · obtain rfl : piece = [c] := by simpa using h
        simp [Ne.symm hc]
      · next first rest hsplit =>
        rw [hsplit] at ih
        rcases List.mem_cons.1 h with rfl | h
        · have hfirst : sep ∉ first := ih (List.mem_cons_self ..)
          simp [Ne.symm hc, hfirst]
        · exact ih (List.mem_cons_of_mem _ h)

/-- Joining pieces is intercalating the separator between them. -/
theorem joinWith_eq_intercalate (sep : List Char) (pieces : List (List Char)) :
    joinWith sep pieces = sep.intercalate pieces := by
  induction pieces with
  | nil => simp [joinWith]
  | cons piece rest ih =>
    cases rest with
    | nil => simp [joinWith]
    | cons next rest => simp [joinWith, ih]

/-- Pieces without the separator are given back by cutting what they were joined to. -/
theorem splitOn_joinWith {pieces : List (List Char)} (hne : pieces ≠ [])
    (h : ∀ piece ∈ pieces, sep ∉ piece) : splitOn sep (joinWith [sep] pieces) = pieces := by
  induction pieces with
  | nil => exact absurd rfl hne
  | cons piece rest ih =>
    obtain ⟨hpiece, hrest⟩ := List.forall_mem_cons.1 h
    cases rest with
    | nil => exact splitOn_of_not_mem hpiece
    | cons next rest =>
      have hjoin : joinWith [sep] (piece :: next :: rest) =
          piece ++ sep :: joinWith [sep] (next :: rest) := by
        simp [joinWith]
      rw [hjoin, splitOn_append hpiece, ih (by simp) hrest]

end Seedbed.Text
