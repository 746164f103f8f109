/-!
# Reading a text from its front

A `Reading` takes something off the front of a text or refuses it. A refusal keeps the text that
was left where it was found. It is either open, so that something else may be tried from where the
reading began (`orElse`, `optional`), or firm.
-/

namespace Seedbed.Toml

/-- Where a text was refused, and whether nothing else may be tried. -/
structure Refusal where
  rest : List Char
  firm : Bool

/-- Takes a value off the front of a text. -/
abbrev Reading (α : Type) := List Char → Except Refusal (α × List Char)

namespace Reading

variable {α β : Type}

instance : Monad Reading where
  pure value := fun text => .ok (value, text)
  bind reading next := fun text => do
    let (value, rest) ← reading text
    next value rest

/-- The text that is left. -/
def rest : Reading (List Char) := fun text => .ok (text, text)

/-- Goes on with another text. -/
def continueWith (text : List Char) : Reading Unit := fun _ => .ok ((), text)

/-- Refuses what comes next. -/
def refuse : Reading α := fun text => .error { rest := text, firm := false }

/-- Makes every refusal firm. -/
def firmly (reading : Reading α) : Reading α := fun text =>
  (reading text).mapError fun refusal => { refusal with firm := true }

/-- Tries another reading if the first refuses openly. -/
def orElse (first second : Reading α) : Reading α := fun text =>
  match first text with
  | .error { firm := false, .. } => second text
  | result => result

/-- A reading, or nothing if it refuses openly. -/
def optional (reading : Reading α) : Reading (Option α) :=
  orElse (do return some (← reading)) (return none)

/-- A value out of a reading, refused where the reading began if there is none. -/
def choose (reading : Reading α) (pick : α → Option β) : Reading β := fun text =>
  match reading text with
  | .error refusal => .error refusal
  | .ok (value, rest) =>
    match pick value with
    | some value => .ok (value, rest)
    | none => .error { rest := text, firm := false }

/-- Takes a character of a class. -/
def accept (isGood : Char → Bool) : Reading Char
  | c :: rest => if isGood c then .ok (c, rest) else .error { rest := c :: rest, firm := false }
  | [] => .error { rest := [], firm := false }

/-- Takes a given character. -/
def expect (c : Char) : Reading Char :=
  accept (· == c)

/-- Takes the characters of a class that stand in front. -/
def takeWhile (isGood : Char → Bool) : Reading (List Char) := fun text =>
  .ok (text.takeWhile isGood, text.dropWhile isGood)

/-- Takes a given word. -/
def expectWord (word : List Char) : Reading Unit := fun text =>
  if word.isPrefixOf text then .ok ((), text.drop word.length)
  else .error { rest := text, firm := false }

/-- Readings of one kind with a mark between each two, at most `n` of them. A mark that nothing
follows is left. -/
def separated (mark : Char) (item : Reading α) : Nat → Reading (List α)
  | 0 => return []
  | n + 1 => do
    let first ← item
    let others ← optional do
      let _ ← expect mark
      separated mark item n
    return first :: others.getD []

end Reading

end Seedbed.Toml
