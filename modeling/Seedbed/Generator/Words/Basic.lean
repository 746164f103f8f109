/-!
# Word lists

The words of a list are written in lines with bars between them, in the order in which they are
indexed.
-/

namespace Seedbed.Words

/-- The words of the lines, which stand between bars. -/
def wordsOf (lines : List String) : Array String :=
  (lines.flatMap (·.splitOn "|")).toArray

end Seedbed.Words
