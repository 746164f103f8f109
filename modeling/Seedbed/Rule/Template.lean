import Seedbed.Rule.Basic

/-!
# Templates

A placeholder of a text is `$`, an opening brace, a key of one or more characters other than a
closing brace, and a closing brace. `pieces` cuts a text into literals and placeholders from left
to right in one walk (`scan`). What begins like a placeholder and is none, because its key would be
empty or is not closed, stays part of a literal. Writing the pieces gives the text back
(`write_pieces`).
-/

namespace Seedbed.Template

/-- A piece of a template before its keys are parsed. -/
inductive Piece
  | literal (text : List Char)
  | placeholder (key : List Char)
  deriving DecidableEq, Repr

/-- What begins a placeholder. -/
def opening : List Char := ['$', '\x7b']

/-- Whether a text holds the mark that begins a placeholder. -/
def hasOpening : List Char → Bool
  | [] => false
  | c :: cs => opening.isPrefixOf (c :: cs) || hasOpening cs

/-- A literal piece, unless it is empty. -/
def literalPiece (text : List Char) : List Piece :=
  if text.isEmpty then [] else [.literal text]

/-- Walks over a text. Without a key it collects a literal, with a key the key of a placeholder
behind that literal; both are kept last character first. -/
def scan (literal : List Char) : Option (List Char) → List Char → List Piece
  | none, [] => literalPiece literal.reverse
  | none, '$' :: '\x7b' :: cs => scan literal (some []) cs
  | none, c :: cs => scan (c :: literal) none cs
  | some key, [] => literalPiece (literal.reverse ++ opening ++ key.reverse)
  | some [], '\x7d' :: cs => scan ('\x7d' :: '\x7b' :: '$' :: literal) none cs
  | some (k :: key), '\x7d' :: cs =>
    literalPiece literal.reverse ++ .placeholder (k :: key).reverse :: scan [] none cs
  | some key, c :: cs => scan literal (some (c :: key)) cs

/-- The pieces of a text. -/
def pieces (text : List Char) : List Piece :=
  scan [] none text

/-- A piece as it is written. -/
def Piece.write : Piece → List Char
  | literal text => text
  | placeholder key => opening ++ key ++ ['\x7d']

/-- The text of pieces. -/
def write (ps : List Piece) : List Char :=
  ps.flatMap Piece.write

/-- A literal is written as it is, and so is an empty one. -/
theorem write_literalPiece (text : List Char) : write (literalPiece text) = text := by
  unfold literalPiece
  split
  · next h => simp_all [write]
  · simp [write, Piece.write]

/-- Pieces with more pieces behind them are written one after the other. -/
theorem write_append (ps qs : List Piece) : write (ps ++ qs) = write ps ++ write qs := by
  simp [write]

/-- The text that a key in progress stands for. -/
def openText : Option (List Char) → List Char
  | none => []
  | some key => opening ++ key.reverse

/-- Scanning loses nothing of what is open and of what is left. -/
theorem write_scan (literal : List Char) (key : Option (List Char)) (cs : List Char) :
    write (scan literal key cs) = literal.reverse ++ openText key ++ cs := by
  fun_induction scan literal key cs with
  | case1 => simp [write_literalPiece, openText]
  | case2 _ _ ih => simp [ih, openText, opening]
  | case3 _ _ _ _ ih => simp [ih, openText]
  | case4 => simp [write_literalPiece, openText]
  | case5 _ _ ih => simp [ih, openText, opening]
  | case6 _ _ _ _ ih =>
    rw [write_append, write_literalPiece]
    simp only [write, List.flatMap_cons] at ih ⊢
    rw [ih]
    simp [Piece.write, openText]
  | case7 _ _ _ _ _ _ ih => simp [ih, openText]

/-- Cutting a text into pieces loses nothing. -/
theorem write_pieces (text : List Char) : write (pieces text) = text := by
  simp [pieces, write_scan, openText]

end Seedbed.Template
