/-!
# Tokens of a statement

`tokens?` reads the text of a statement as SQL reads it: every token is as long as it can be. A
quoted name begins at a double quote and ends at the next one that is not followed by another; two
of them stand for one. Outside of quotes there are words, numbers, parameters and marks. What no
statement here has outside of quotes (string constants, comments, the end of a statement) is
refused.

A text is read part by part. `Lexes` says which tokens a part stands for, and before which
characters it is complete; parts are put together by `Lexes.append`.
-/

namespace Seedbed.Statement

/-- A token of a statement. -/
inductive Token
  /-- A keyword, or a name without quotes. -/
  | word (text : String)
  /-- A name in double quotes, without the quotes. -/
  | quoted (name : String)
  | number (digits : String)
  /-- A parameter by its number. -/
  | parameter (digits : String)
  /-- What stands for itself: a bracket, a separator, an operator. -/
  | mark (text : String)
  deriving DecidableEq, Repr

/-- What the reader is in the middle of, with the characters of it, last one first. -/
inductive Reading
  | between
  | word (cs : List Char)
  /-- Inside the quotes of a name. -/
  | quoted (cs : List Char)
  /-- Behind a double quote that ends a name, unless another one follows. -/
  | closed (cs : List Char)
  | number (cs : List Char)
  | parameter (cs : List Char)
  | mark (cs : List Char)
  deriving DecidableEq, Repr

namespace Reading

/-- The tokens of what was read, when it is complete. -/
def finish? : Reading → Option (List Token)
  | between => some []
  | word cs => some [.word (String.ofList cs.reverse)]
  | quoted _ => none
  | closed cs => some [.quoted (String.ofList cs.reverse)]
  | number cs => some [.number (String.ofList cs.reverse)]
  | parameter cs => if cs.isEmpty then none else some [.parameter (String.ofList cs.reverse)]
  | mark cs => some [.mark (String.ofList cs.reverse)]

/-- Takes a character that belongs to the token that is being read. -/
def extend? : Reading → Char → Option Reading
  | between, _ => none
  | word cs, c => if c.isAlphanum || c == '_' || c == '$' then some (word (c :: cs)) else none
  | quoted cs, c => some (if c = '"' then closed cs else quoted (c :: cs))
  | closed cs, c => if c = '"' then some (quoted (c :: cs)) else none
  | number cs, c => if c.isDigit then some (number (c :: cs)) else none
  | parameter cs, c => if c.isDigit then some (parameter (c :: cs)) else none
  | mark cs, c => if cs == [':'] && c == ':' then some (mark (c :: cs)) else none

/-- The characters that are marks. -/
def marks : List Char := ['(', ')', ',', '.', '=', '*', ':']

/-- Takes the first character of a token, or one between tokens. -/
def start? (c : Char) : Option Reading :=
  if c = '"' then some (quoted [])
  else if c = '$' then some (parameter [])
  else if c.isAlpha || c == '_' then some (word [c])
  else if c.isDigit then some (number [c])
  else if c.isWhitespace then some between
  else if c ∈ marks then some (mark [c])
  else none

/-- Takes a character, with the tokens that are complete before it. -/
def step (reading : Reading) (c : Char) : Option (List Token × Reading) :=
  match reading.extend? c with
  | some reading => some ([], reading)
  | none => do
    let tokens ← reading.finish?
    let reading ← start? c
    return (tokens, reading)

/-- Takes the characters of a text one after another. -/
def run (reading : Reading) : List Char → Option (List Token × Reading)
  | [] => some ([], reading)
  | c :: cs => do
    let (tokens, reading) ← reading.step c
    let (more, reading) ← run reading cs
    return (tokens ++ more, reading)

variable {reading : Reading} {front back : List Char}

/-- A text is read in two parts. -/
theorem run_append {tokens : List Token} {mid : Reading}
    (h : reading.run front = some (tokens, mid)) :
    reading.run (front ++ back) =
      (mid.run back).map fun (more, reading) => (tokens ++ more, reading) := by
  induction front generalizing reading tokens with
  | nil =>
    obtain ⟨rfl, rfl⟩ : [] = tokens ∧ reading = mid := by simpa [run] using h
    simp
  | cons c cs ih =>
    simp only [run, Option.bind_eq_bind, Option.bind_eq_some_iff] at h
    obtain ⟨⟨first, next⟩, hstep, ⟨more, last⟩, hrun, he⟩ := h
    obtain ⟨rfl, rfl⟩ : first ++ more = tokens ∧ last = mid := by simpa using he
    simp only [List.cons_append, run, hstep, ih hrun, Option.bind_eq_bind, Option.bind_some]
    cases last.run back <;> simp

/-- A character that does not belong to what was read completes it and begins something new. -/
theorem step_of_finish {c : Char} {last : List Token} (hextend : reading.extend? c = none)
    (hfinish : reading.finish? = some last) :
    reading.step c = (start? c).map fun next => (last, next) := by
  rw [step, hextend, hfinish]
  cases start? c <;> rfl

/-- What follows behind something complete is read as it is read at the start of a text. -/
theorem run_cons_of_finish {c : Char} {last : List Token} (hextend : reading.extend? c = none)
    (hfinish : reading.finish? = some last) (cs : List Char) :
    reading.run (c :: cs) =
      (between.run (c :: cs)).map fun (more, reading) => (last ++ more, reading) := by
  have hbetween : between.step c = (start? c).map fun next => ([], next) :=
    step_of_finish rfl rfl
  rw [run, run, step_of_finish hextend hfinish, hbetween]
  cases start? c with
  | none => rfl
  | some next =>
    simp only [Option.map_some, Option.bind_eq_bind, Option.bind_some]
    cases next.run cs <;> simp

end Reading

/-- The tokens of a statement. -/
def tokens? (text : String) : Option (List Token) := do
  let (tokens, reading) ← Reading.between.run text.toList
  return tokens ++ (← reading.finish?)

/-- A part of a text stands for tokens, and is complete at the end of the text and before the
characters of a kind. -/
def Lexes (text : List Char) (tokens : List Token) (next : Char → Prop) : Prop :=
  ∃ before reading last, Reading.between.run text = some (before, reading) ∧
    reading.finish? = some last ∧ tokens = before ++ last ∧
    ∀ c, next c → reading.extend? c = none

variable {front back text : List Char} {tokens more : List Token} {next next' : Char → Prop}

/-- A part that ends between two tokens is complete before every character. -/
theorem Lexes.of_between (h : Reading.between.run text = some (tokens, .between)) :
    Lexes text tokens fun _ => True :=
  ⟨tokens, .between, [], h, rfl, by simp, fun _ _ => rfl⟩

/-- Parts of a text are read one after another, if the first one is complete before the second. -/
theorem Lexes.append (hfront : Lexes front tokens next) (hback : Lexes back more next') {c : Char}
    (hfirst : back.head? = some c) (hnext : next c) :
    Lexes (front ++ back) (tokens ++ more) next' := by
  obtain ⟨before, reading, last, hrun, hfinish, rfl, hstops⟩ := hfront
  obtain ⟨before', reading', last', hrun', hfinish', rfl, hstops'⟩ := hback
  obtain ⟨cs, rfl⟩ := List.head?_eq_some_iff.1 hfirst
  refine ⟨before ++ (last ++ before'), reading', last', ?_, hfinish', by simp, hstops'⟩
  rw [Reading.run_append hrun, Reading.run_cons_of_finish (hstops c hnext) hfinish, hrun']
  rfl

/-- A text that was read to its end stands for its tokens. -/
theorem Lexes.tokens?_eq {text : String} (h : Lexes text.toList tokens next) :
    tokens? text = some tokens := by
  obtain ⟨before, reading, last, hrun, hfinish, rfl, -⟩ := h
  simp [tokens?, hrun, hfinish]

end Seedbed.Statement
