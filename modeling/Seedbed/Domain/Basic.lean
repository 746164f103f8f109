import Seedbed.Domain.Label
import Seedbed.Unicode.Direction

/-!
# Domains

The name of a domain may be written with characters of all scripts. `read?` gives the labels that a
name stands for: its characters are replaced by what they stand for, the text gets its normal form,
and each part between dots is read as a label. If a character is written from right to left, all
labels must keep to one direction each (`keepsDirection`), so that none is taken for another one.
-/

namespace Seedbed.Domain

open Unicode

/-- Whether characters of a class are written from right to left, or are digits of such scripts. -/
def isRightToLeft (c : Char) : Bool :=
  match directionClass c with
  | .rightToLeft | .arabicLetter | .arabicNumber => true
  | _ => false

/-- The classes that a label from left to right may hold. -/
def leftToRightClasses : List DirectionClass :=
  [.leftToRight, .europeanNumber, .europeanSeparator, .commonSeparator, .europeanTerminator,
    .otherNeutral, .boundaryNeutral, .nonspacingMark]

/-- The classes that a label from right to left may hold. -/
def rightToLeftClasses : List DirectionClass :=
  [.rightToLeft, .arabicLetter, .arabicNumber, .europeanNumber, .europeanSeparator,
    .commonSeparator, .europeanTerminator, .otherNeutral, .boundaryNeutral, .nonspacingMark]

/-- The classes that a label from left to right may end with, but for marks. -/
def leftToRightEnds : List DirectionClass :=
  [.leftToRight, .europeanNumber]

/-- The classes that a label from right to left may end with, but for marks. -/
def rightToLeftEnds : List DirectionClass :=
  [.rightToLeft, .arabicLetter, .europeanNumber, .arabicNumber]

/-- The characters up to the last one that is no mark, last first. -/
def withoutMarks (label : Label) : List Char :=
  label.reverse.dropWhile fun c => directionClass c = .nonspacingMark

/-- Whether the classes behind the first character of a label are among some, the last of them that
is no mark among others. -/
def fits (classes ends : List DirectionClass) (rest : List Char) : Bool :=
  match withoutMarks rest with
  | [] => true
  | last :: inner =>
    ends.contains (directionClass last) && inner.all fun c => classes.contains (directionClass c)

/-- Whether a label keeps to one direction. From right to left it has digits of one kind only. -/
def keepsDirection : Label → Bool
  | [] => true
  | first :: rest =>
    match directionClass first with
    | .leftToRight => fits leftToRightClasses leftToRightEnds rest
    | .rightToLeft | .arabicLetter =>
      let has (kind : DirectionClass) : Bool := rest.any fun c => directionClass c = kind
      fits rightToLeftClasses rightToLeftEnds rest && !(has .europeanNumber && has .arabicNumber)
    | _ => false

/-- The labels that the name of a domain stands for. -/
def read? (name : List Char) : Option (List Label) := do
  let standing ← name.mapM standing
  let labels ← (Text.splitOn '.' (normalize standing.flatten)).mapM Label.read?
  if labels.any (·.any isRightToLeft) && !labels.all keepsDirection then none else some labels

end Seedbed.Domain
