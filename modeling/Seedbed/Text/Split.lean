/-!
# Cutting a text at a separator

Texts are cut as lists of characters. `splitOn` gives every piece between the occurrences of a
separator and loses nothing (`joinWith_splitOn`); `splitFirst` and `splitLast` cut at one
occurrence and give nothing when there is none.
-/

namespace Seedbed.Text

/-- The pieces of a text between the occurrences of `sep`: one piece more than occurrences, so a
text without `sep` is one piece, also when it is empty. -/
def splitOn (sep : Char) : List Char → List (List Char)
  | [] => [[]]
  | c :: cs =>
    if c = sep then [] :: splitOn sep cs
    else
      match splitOn sep cs with
      | [] => [[c]]
      | piece :: pieces => (c :: piece) :: pieces

/-- The pieces with `sep` between each two. -/
def joinWith (sep : List Char) : List (List Char) → List Char
  | [] => []
  | [piece] => piece
  | piece :: pieces => piece ++ sep ++ joinWith sep pieces

/-- The text before and after the first `sep`. -/
def splitFirst (sep : Char) : List Char → Option (List Char × List Char)
  | [] => none
  | c :: cs =>
    if c = sep then some ([], cs)
    else (splitFirst sep cs).map fun (before, after) => (c :: before, after)

/-- The text before and after the last `sep`. -/
def splitLast (sep : Char) : List Char → Option (List Char × List Char)
  | [] => none
  | c :: cs =>
    match splitLast sep cs with
    | some (before, after) => some (c :: before, after)
    | none => if c = sep then some ([], cs) else none

/-- The text before and after the first occurrence of the mark `sep`. -/
def splitFirstMark (sep : List Char) : List Char → Option (List Char × List Char)
  | [] => none
  | c :: cs =>
    match sep.isPrefixOf? (c :: cs) with
    | some after => some ([], after)
    | none => (splitFirstMark sep cs).map fun (before, after) => (c :: before, after)

/-- A text is split into at least one piece. -/
theorem splitOn_ne_nil (sep : Char) (cs : List Char) : splitOn sep cs ≠ [] := by
  cases cs with
  | nil => simp [splitOn]
  | cons c cs =>
    simp only [splitOn]
    split
    · simp
    · split <;> simp

/-- Joining the pieces gives the text back. -/
theorem joinWith_splitOn (sep : Char) (cs : List Char) :
    joinWith [sep] (splitOn sep cs) = cs := by
  induction cs with
  | nil => rfl
  | cons c cs ih =>
    simp only [splitOn]
    split
    · next h =>
      subst h
      cases hp : splitOn c cs with
      | nil => exact absurd hp (splitOn_ne_nil c cs)
      | cons piece pieces => rw [hp] at ih; simp [joinWith, ih]
    · cases hp : splitOn sep cs with
      | nil => exact absurd hp (splitOn_ne_nil sep cs)
      | cons piece pieces =>
        rw [hp] at ih
        cases pieces with
        | nil => simpa [joinWith] using ih
        | cons next rest => simpa [joinWith] using ih

/-- A cut at the first separator loses nothing, and the part before it holds no separator. -/
theorem splitFirst_eq_some_iff {sep : Char} {cs before after : List Char} :
    splitFirst sep cs = some (before, after) ↔ cs = before ++ sep :: after ∧ sep ∉ before := by
  induction cs generalizing before with
  | nil => simp [splitFirst]
  | cons c cs ih =>
    simp only [splitFirst]
    split
    · next h =>
      subst h
      cases before with
      | nil => simp
      | cons b before => simp; intro hb; simp [hb]
    · next h =>
      cases before with
      | nil => simp [h]
      | cons b before =>
        simp only [Option.map_eq_some_iff, Prod.exists, Prod.mk.injEq, List.cons.injEq,
          List.cons_append, List.mem_cons, not_or]
        constructor
        · rintro ⟨x, y, hx, ⟨rfl, rfl⟩, rfl⟩
          obtain ⟨rfl, hn⟩ := ih.1 hx
          exact ⟨⟨rfl, rfl⟩, fun hc => h hc.symm, hn⟩
        · rintro ⟨⟨rfl, rfl⟩, _, hn⟩
          exact ⟨before, after, ih.2 ⟨rfl, hn⟩, ⟨rfl, rfl⟩, rfl⟩

/-- There is no cut exactly in a text without the separator. -/
theorem splitFirst_eq_none_iff {sep : Char} {cs : List Char} :
    splitFirst sep cs = none ↔ sep ∉ cs := by
  induction cs with
  | nil => simp [splitFirst]
  | cons c cs ih =>
    simp only [splitFirst]
    split
    · next h => simp [h]
    · next h => simp [ih, Ne.symm h]

end Seedbed.Text
