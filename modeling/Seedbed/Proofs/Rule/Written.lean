import Seedbed.Proofs.Accepting
import Seedbed.Proofs.Number.Reading
import Seedbed.Proofs.Rule.Template
import Seedbed.Proofs.Text.Split

/-!
# Rules that were written are read back

`Rule.Written` says how a rule is written: a range of numbers or of dates, an offset from a column,
a text of digits, a relation and a choice, each behind its name. A text that is written in this way
is parsed to the rule it was written for (`Rule.parse_of_written`), unless a name or a candidate
brings the mark that makes the text a template.
-/

namespace Seedbed.Rule

open Number (integerText digits)

/-- A name with its arguments behind colons. -/
def named (name : List Char) (arguments : List (List Char)) : List Char :=
  name ++ ':' :: Text.joinWith [':'] arguments

/-- How a rule is written. Blanks may stand around each number. -/
inductive Written : Rule → List Char → Prop
  | int {min max : Int} {minText maxText : List Char} (lower : -2 ^ 63 ≤ min)
      (ordered : min ≤ max) (upper : max < 2 ^ 63) (first : Text.Spaced (integerText min) minText)
      (last : Text.Spaced (integerText max) maxText) :
      Written (.int min max) (named intName [minText, maxText])
  | dateBetween {first last : Date} (ordered : first.number ≤ last.number) :
      Written (.dateBetween first last) (named dateBetweenName [first.text, last.text])
  | dateAfter {column minText maxText : List Char} {minDays maxDays : Int} (ne : column ≠ [])
      (plain : ':' ∉ column) (lower : -maxDayOffset ≤ minDays) (ordered : minDays ≤ maxDays)
      (upper : maxDays ≤ maxDayOffset) (first : Text.Spaced (integerText minDays) minText)
      (last : Text.Spaced (integerText maxDays) maxText) :
      Written (.dateAfter (String.ofList column) minDays maxDays)
        (named dateAfterName [column, minText, maxText])
  | numeric {length : Nat} {lengthText : List Char} (fits : length < 2 ^ 64)
      (spaced : Text.Spaced (digits length) lengthText) :
      Written (.numeric length) (named numericName [lengthText])
  | relation {table column : List Char} (tableNe : table ≠ []) (columnNe : column ≠ [])
      (tablePlain : '.' ∉ table) (columnPlain : '.' ∉ column) :
      Written (.relation (String.ofList table) (String.ofList column))
        (relationStart ++ Text.joinWith ['.'] [table, column])
  | choice {candidates : List (List Char)} (ne : candidates ≠ []) (neEmpty : candidates ≠ [[]])
      (plain : ∀ candidate ∈ candidates, ':' ∉ candidate) :
      Written (.choice (candidates.map String.ofList))
        (choiceStart ++ Text.joinWith [':'] candidates)

/-! ## The form of what is written -/

section

variable (rest : List Char)

/-- The form behind the name of integers and a colon is that of an integer rule. -/
theorem formOf_int : formOf (intName ++ ':' :: rest) = .int (Text.splitOn ':' rest) := rfl

/-- The form behind the name of dates between others and a colon is that of its rule. -/
theorem formOf_dateBetween :
    formOf (dateBetweenName ++ ':' :: rest) = .dateBetween (Text.splitOn ':' rest) := rfl

/-- The form behind the name of dates after a column and a colon is that of its rule. -/
theorem formOf_dateAfter :
    formOf (dateAfterName ++ ':' :: rest) = .dateAfter (Text.splitOn ':' rest) := rfl

/-- The form behind the name of numeric texts and a colon is that of its rule. -/
theorem formOf_numeric :
    formOf (numericName ++ ':' :: rest) = .numeric (Text.splitOn ':' rest) := rfl

/-- The form behind the start of relations is that of a relation. -/
theorem formOf_relation : formOf (relationStart ++ rest) = .relation rest := rfl

/-- The form behind the start of choices is that of a choice. -/
theorem formOf_choice : formOf (choiceStart ++ rest) = .choice rest := rfl

end

/-! ## The arguments of what is written -/

section

variable {text value : List Char} {arguments : List (List Char)} {index : Nat}

/-- An argument that is not empty is there. -/
theorem argument?_eq_some (hat : arguments[index]? = some value) (hne : value ≠ []) :
    argument? arguments index = some value := by
  simp [argument?, hat, hne]

/-- A required argument that is not empty is given. -/
theorem required_eq (hat : arguments[index]? = some value) (hne : value ≠ []) (name : String) :
    required text arguments index name = .ok value := by
  rw [required, argument?_eq_some hat hne]

/-- Arguments within the limit pass. -/
theorem limitArguments_eq {max : Nat} (h : arguments.length ≤ max) :
    limitArguments text arguments max = .ok () := by
  rw [limitArguments, if_neg (Nat.not_lt.2 h)]

/-- Bounds in order pass. -/
theorem checkOrdered_eq {inverted : Prop} [Decidable inverted] (h : ¬inverted) :
    checkOrdered text inverted = .ok () := by
  rw [checkOrdered, decide_eq_false h, if_neg (by simp)]

/-- An argument is read as what its text without blanks around it is read as. -/
theorem readArgument_eq {α : Type} {read : List Char → Option α} {a : α}
    (h : read (Text.trim value) = some a) (name expected : String) :
    readArgument text read name value expected = .ok a := by
  rw [readArgument, h]

/-- A number of a word is read from its text between blanks. -/
theorem readInt_spaced {i : Int} (h : Text.Spaced (integerText i) value) (hlower : -2 ^ 63 ≤ i)
    (hupper : i < 2 ^ 63) (name : String) : readInt text name value = .ok i := by
  have htrim : Text.trim value = integerText i :=
    Text.trim_spaced h (Number.integerText_ne_nil i) fun _ => Number.not_isBlank_of_mem_integerText
  refine readArgument_eq ?_ name _
  rw [htrim]
  exact Number.readInteger_integerText hlower hupper

/-- An offset in days is read from its text between blanks. -/
theorem readOffset_spaced {days : Int} (h : Text.Spaced (integerText days) value)
    (hlower : -maxDayOffset ≤ days) (hupper : days ≤ maxDayOffset) (name : String) :
    readOffset text name value = .ok days := by
  have hbound : (maxDayOffset : Int) < 2 ^ 63 := by decide
  rw [readOffset, readInt_spaced h (by omega) (by omega)]
  exact if_pos ⟨hlower, hupper⟩

/-- A length is read from its digits between blanks. -/
theorem readLength_spaced {length : Nat} (h : Text.Spaced (digits length) value)
    (hfits : length < 2 ^ 64) (name : String) : readLength text name value = .ok length := by
  have htrim : Text.trim value = digits length :=
    Text.trim_spaced h (Number.digits_ne_nil length) fun _ hc =>
      Text.not_isBlank_of_isDigit (Number.isDigit_of_mem_digits hc)
  refine readArgument_eq ?_ name _
  rw [htrim]
  exact Number.readNatural_digits hfits

/-- A date is read from its text. -/
theorem readDate_text (d : Date) (name : String) : readDate text name d.text = .ok d := by
  have htrim : Text.trim d.text = d.text :=
    Text.trim_spaced (.refl _) d.text_ne_nil fun _ => d.not_isBlank_of_mem_text
  refine readArgument_eq ?_ name _
  rw [htrim]
  exact d.read?_text

end

/-! ## What is written is read back -/

section

variable {text minText maxText : List Char}

/-- The bounds of an integer rule are parsed with blanks around them. -/
theorem parseInt_spaced {min max : Int} (hmin : Text.Spaced (integerText min) minText)
    (hmax : Text.Spaced (integerText max) maxText) (hlower : -2 ^ 63 ≤ min) (hordered : min ≤ max)
    (hupper : max < 2 ^ 63) : parseInt text [minText, maxText] = .ok (.int min max) := by
  rw [parseInt, if_neg (by simp)]
  simp only [bind_eq_ok]
  have hminNe : minText ≠ [] := hmin.ne_nil (Number.integerText_ne_nil min)
  have hmaxNe : maxText ≠ [] := hmax.ne_nil (Number.integerText_ne_nil max)
  exact ⟨(), limitArguments_eq (by simp), minText, required_eq rfl hminNe _, min,
    readInt_spaced hmin hlower (by omega) _, maxText, required_eq rfl hmaxNe _, max,
    readInt_spaced hmax (by omega) hupper _, (), checkOrdered_eq (by omega), rfl⟩

/-- The dates of a rule are parsed from their texts. -/
theorem parseDateBetween_text {first last : Date} (hordered : first.number ≤ last.number) :
    parseDateBetween text [first.text, last.text] = .ok (.dateBetween first last) := by
  simp only [parseDateBetween, bind_eq_ok]
  exact ⟨(), limitArguments_eq (by simp), first.text, required_eq rfl first.text_ne_nil _, first,
    readDate_text first _, last.text, required_eq rfl last.text_ne_nil _, last,
    readDate_text last _, (), checkOrdered_eq (by omega), rfl⟩

/-- The days of a rule are parsed with blanks around them, behind the column as it stands. -/
theorem parseDateAfter_spaced {column : List Char} {minDays maxDays : Int}
    (hmin : Text.Spaced (integerText minDays) minText)
    (hmax : Text.Spaced (integerText maxDays) maxText) (hcolumn : column ≠ [])
    (hlower : -maxDayOffset ≤ minDays) (hordered : minDays ≤ maxDays)
    (hupper : maxDays ≤ maxDayOffset) :
    parseDateAfter text [column, minText, maxText] =
      .ok (.dateAfter (String.ofList column) minDays maxDays) := by
  have hminAt : argument? [column, minText, maxText] 1 = some minText :=
    argument?_eq_some rfl (hmin.ne_nil (Number.integerText_ne_nil minDays))
  have hmaxAt : argument? [column, minText, maxText] 2 = some maxText :=
    argument?_eq_some rfl (hmax.ne_nil (Number.integerText_ne_nil maxDays))
  simp only [parseDateAfter, bind_eq_ok, hminAt, hmaxAt, readOr]
  exact ⟨(), limitArguments_eq (by simp), column, required_eq rfl hcolumn _, minDays,
    readOffset_spaced hmin hlower (by omega) _, maxDays,
    readOffset_spaced hmax (by omega) hupper _, (), checkOrdered_eq (by omega), rfl⟩

/-- The length of a numeric text is parsed with blanks around it. -/
theorem parseNumeric_spaced {length : Nat} {lengthText : List Char}
    (h : Text.Spaced (digits length) lengthText) (hfits : length < 2 ^ 64) :
    parseNumeric text [lengthText] = .ok (.numeric length) := by
  have hne : lengthText ≠ [] := h.ne_nil (Number.digits_ne_nil length)
  simp only [parseNumeric, bind_eq_ok]
  refine ⟨(), limitArguments_eq (by simp), ?_⟩
  rw [if_neg (by simp)]
  simp only [bind_eq_ok]
  exact ⟨lengthText, required_eq rfl hne _, length, readLength_spaced h hfits _, rfl⟩

/-- A relation is parsed from a table and a column with a point between them. -/
theorem parseRelation_joined {table column : List Char} (htable : table ≠ [])
    (hcolumn : column ≠ []) (htablePlain : '.' ∉ table) (hcolumnPlain : '.' ∉ column) :
    parseRelation text (Text.joinWith ['.'] [table, column]) =
      .ok (.relation (String.ofList table) (String.ofList column)) := by
  have hsplit : Text.splitOn '.' (Text.joinWith ['.'] [table, column]) = [table, column] :=
    Text.splitOn_joinWith (by simp) (by simp [htablePlain, hcolumnPlain])
  simp [parseRelation, hsplit, htable, hcolumn]

/-- A choice is parsed from its candidates with colons between them. -/
theorem parseChoice_joined {candidates : List (List Char)} (hne : candidates ≠ [])
    (hneEmpty : candidates ≠ [[]]) (hplain : ∀ candidate ∈ candidates, ':' ∉ candidate) :
    parseChoice text (Text.joinWith [':'] candidates) =
      .ok (.choice (candidates.map String.ofList)) := by
  have hsplit := Text.splitOn_joinWith hne hplain
  have hjoined : Text.joinWith [':'] candidates ≠ [] := by
    intro h
    rw [h] at hsplit
    exact hneEmpty hsplit.symm
  simp [parseChoice, hsplit, hjoined]

end

/-- No colon stands in the text of an integer. -/
theorem colon_not_mem_integerText (i : Int) : ':' ∉ integerText i := fun h => by
  rcases Number.eq_or_isDigit_of_mem_integerText h with h | h <;> cases h

/-- No colon stands in the digits of a number. -/
theorem colon_not_mem_digits (n : Nat) : ':' ∉ digits n := fun h => by
  cases Number.isDigit_of_mem_digits h

/-- No colon stands in the text of a date. -/
theorem colon_not_mem_date (d : Date) : ':' ∉ d.text := fun h => by
  rcases Date.eq_sign_or_isDigit_of_mem_text h with h | h | h <;> cases h

variable {rule : Rule} {text : List Char}

/-- Every form of a rule that is written is found, and its arguments are given back. -/
theorem parsePlain_of_written (h : Written rule text) : parsePlain text = .ok rule := by
  cases h with
  | @int min max minText maxText lower ordered upper first last =>
    have hplain : ∀ value ∈ [minText, maxText], ':' ∉ value := by
      simp [first.not_mem rfl (colon_not_mem_integerText min),
        last.not_mem rfl (colon_not_mem_integerText max)]
    rw [parsePlain, named, formOf_int, Text.splitOn_joinWith (by simp) hplain]
    exact parseInt_spaced first last lower ordered upper
  | @dateBetween first last ordered =>
    have hplain : ∀ value ∈ [first.text, last.text], ':' ∉ value := by
      simp [colon_not_mem_date]
    rw [parsePlain, named, formOf_dateBetween, Text.splitOn_joinWith (by simp) hplain]
    exact parseDateBetween_text ordered
  | @dateAfter column minText maxText minDays maxDays ne plain lower ordered upper first last =>
    have hplain : ∀ value ∈ [column, minText, maxText], ':' ∉ value := by
      simp [plain, first.not_mem rfl (colon_not_mem_integerText minDays),
        last.not_mem rfl (colon_not_mem_integerText maxDays)]
    rw [parsePlain, named, formOf_dateAfter, Text.splitOn_joinWith (by simp) hplain]
    exact parseDateAfter_spaced first last ne lower ordered upper
  | @numeric length lengthText fits spaced =>
    have hplain : ∀ value ∈ [lengthText], ':' ∉ value := by
      simp [spaced.not_mem rfl (colon_not_mem_digits length)]
    rw [parsePlain, named, formOf_numeric, Text.splitOn_joinWith (by simp) hplain]
    exact parseNumeric_spaced spaced fits
  | relation tableNe columnNe tablePlain columnPlain =>
    rw [parsePlain, formOf_relation]
    exact parseRelation_joined tableNe columnNe tablePlain columnPlain
  | choice ne neEmpty plain =>
    rw [parsePlain, formOf_choice]
    exact parseChoice_joined ne neEmpty plain

/-- **What is written is read back.** The text that a rule is written with is parsed to this very
rule, unless it holds the mark of a placeholder. -/
theorem parse_of_written (h : Written rule text) (hopening : ¬Template.opening <:+: text) :
    parse (String.ofList text) = .ok rule := by
  have hplain : ¬Template.hasOpening text = true := fun h =>
    hopening (Template.hasOpening_iff.1 h)
  rw [parse, String.toList_ofList, parseChars, if_neg hplain]
  exact parsePlain_of_written h

/-- Offsets of both signs, with a blank beside each. -/
theorem parse_of_written_offsets :
    let rule := Rule.dateAfter "due" (-5) 30
    let text := "date.afterColumn:due: -5:30\t"
    Written rule text.toList ∧ ¬Template.opening <:+: text.toList ∧ parse text = .ok rule := by
  have hwritten : Written (.dateAfter (String.ofList "due".toList) (-5) 30)
      "date.afterColumn:due: -5:30\t".toList :=
    .dateAfter (by decide) (by decide) (by decide) (by decide) (by decide)
      ⟨[' '], [], List.forall_mem_singleton.2 rfl, by simp, rfl⟩
      ⟨[], ['\t'], by simp, List.forall_mem_singleton.2 rfl, rfl⟩
  have hopening : ¬Template.opening <:+: "date.afterColumn:due: -5:30\t".toList := by
    decide
  have hparsed := parse_of_written hwritten hopening
  simp only [String.ofList_toList] at hwritten hparsed
  exact ⟨hwritten, hopening, hparsed⟩

end Seedbed.Rule
