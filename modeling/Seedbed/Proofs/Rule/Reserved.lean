import Seedbed.Proofs.Rule.Template

/-!
# Reserved texts

A text is reserved when it holds the mark of a placeholder, begins like a rule about the context, a
relation or a choice, or is one of the names of a rule, with or without arguments (`Rule.Reserved`).
A text is looked up exactly when it is not reserved, and then it is looked up as it stands
(`parse_eq_lookup_iff`): a reserved text is a rule of another kind or an error.
-/

namespace Seedbed.Rule

/-- The beginnings that are rules whatever follows. -/
def reservedStarts : List (List Char) :=
  ["context.".toList, "relation.".toList, "helpers.arrayElement:".toList]

/-- The names that are rules without arguments. -/
def bareNames : List (List Char) :=
  ["number.int".toList, "number.float".toList, "finance.amount".toList, "string.numeric".toList]

/-- The names that are rules with arguments. Those of dates need some. -/
def argumentNames : List (List Char) :=
  ["number.int".toList, "number.float".toList, "finance.amount".toList, "date.between".toList,
    "date.afterColumn".toList, "string.numeric".toList]

/-- The starts that are reserved are those that the parser looks for. -/
theorem reservedStarts_eq : reservedStarts = [contextStart, relationStart, choiceStart] := rfl

/-- The bare names that are reserved are those that the parser takes for rules. -/
theorem bareNames_eq : bareNames = [intName, floatName, amountName, numericName] := rfl

/-- The names that are reserved in front of a colon are those that the parser takes for rules. -/
theorem argumentNames_eq :
    argumentNames = [intName, floatName, amountName, dateBetweenName, dateAfterName, numericName] :=
  rfl

/-- A text that is not looked up. -/
inductive Reserved (text : List Char) : Prop
  | opening (holds : Template.opening <:+: text)
  | start {start : List Char} (mem : start ∈ reservedStarts) (begins : start <+: text)
  | bare (mem : text ∈ bareNames)
  | arguments {name : List Char} (mem : name ∈ argumentNames) (begins : name ++ [':'] <+: text)

variable {text : List Char}

/-! ## The form of a text that is looked up -/

/-- What a text is cut behind is a prefix of it. -/
theorem prefix_of_isPrefixOf? {start rest : List Char} (h : start.isPrefixOf? text = some rest) :
    start <+: text :=
  ⟨rest, List.isPrefixOf?_eq_some_iff_append_eq.1 h⟩

/-- A text cannot be cut behind what is no prefix of it. -/
theorem isPrefixOf?_eq_none_iff {start : List Char} :
    start.isPrefixOf? text = none ↔ ¬start <+: text := by
  rw [← List.isPrefixOf_iff_prefix, ← List.isSome_isPrefixOf?_eq_isPrefixOf, Bool.not_eq_true,
    Option.isSome_eq_false_iff, Option.isNone_iff_eq_none]

/-- A text has no arguments behind a name and a colon when it does not start with both. -/
theorem colonArguments?_eq_none_iff {name : List Char} :
    colonArguments? name text = none ↔ ¬name ++ [':'] <+: text := by
  rw [colonArguments?, Option.map_eq_none_iff, isPrefixOf?_eq_none_iff]

/-- A text has no arguments of a name if it is neither the name nor starts with it and a colon. -/
theorem arguments?_eq_none_iff {name : List Char} :
    arguments? name text = none ↔ text ≠ name ∧ ¬name ++ [':'] <+: text := by
  unfold arguments?
  split
  · next h => simp [h]
  · next h => simp [h, colonArguments?_eq_none_iff]

/-- No name makes a text a rule when it is none of the bare names and no name with arguments begins
it. -/
theorem namedForm?_eq_none_iff :
    namedForm? text = none ↔
      text ∉ bareNames ∧ ∀ name ∈ argumentNames, ¬name ++ [':'] <+: text := by
  simp only [namedForm?, Option.orElse_eq_orElse, Option.orElse_eq_or, Option.or_eq_none_iff,
    Option.map_eq_none_iff, arguments?_eq_none_iff, colonArguments?_eq_none_iff, bareNames_eq,
    argumentNames_eq, List.mem_cons, List.not_mem_nil]
  grind

/-- No name makes a text one that is looked up. -/
theorem namedForm?_ne_lookup : namedForm? text ≠ some .lookup := by
  simp [namedForm?]

/-- The form of a text is that of a look-up when nothing is reserved in it but perhaps the mark of
a placeholder. -/
theorem formOf_eq_lookup_iff :
    formOf text = .lookup ↔
      (∀ start ∈ reservedStarts, ¬start <+: text) ∧ namedForm? text = none := by
  unfold formOf
  split
  · next hcontext =>
    exact iff_of_false (by simp) fun h =>
      h.1 contextStart (by simp [reservedStarts_eq]) (List.isPrefixOf_iff_prefix.1 hcontext)
  · next hcontext =>
    split
    · next hrelation =>
      exact iff_of_false (by simp) fun h =>
        h.1 relationStart (by simp [reservedStarts_eq]) (prefix_of_isPrefixOf? hrelation)
    · next hrelation =>
      split
      · next hchoice =>
        exact iff_of_false (by simp) fun h =>
          h.1 choiceStart (by simp [reservedStarts_eq]) (prefix_of_isPrefixOf? hchoice)
      · next hchoice =>
        have hstarts : ∀ start ∈ reservedStarts, ¬start <+: text := by
          simp only [reservedStarts_eq, List.forall_mem_cons]
          exact ⟨fun h => hcontext (List.isPrefixOf_iff_prefix.2 h),
            isPrefixOf?_eq_none_iff.1 hrelation, isPrefixOf?_eq_none_iff.1 hchoice,
            List.forall_mem_nil _⟩
        cases hnamed : namedForm? text with
        | none => exact iff_of_true rfl ⟨hstarts, rfl⟩
        | some form =>
          refine iff_of_false ?_ (by simp)
          rintro rfl
          exact namedForm?_ne_lookup hnamed

/-! ## Texts that are looked up -/

/-- A text is not reserved when it holds no mark of a placeholder and has the form of a look-up. -/
theorem not_reserved_iff :
    ¬Reserved text ↔ ¬Template.opening <:+: text ∧ formOf text = .lookup := by
  rw [formOf_eq_lookup_iff, namedForm?_eq_none_iff]
  constructor
  · intro h
    exact ⟨fun ho => h (.opening ho), fun start hs hp => h (.start hs hp),
      fun hb => h (.bare hb), fun name hn hp => h (.arguments hn hp)⟩
  · rintro ⟨hopening, hstarts, hbare, harguments⟩ h
    cases h with
    | opening holds => exact hopening holds
    | start mem begins => exact hstarts _ mem begins
    | bare mem => exact hbare mem
    | arguments mem begins => exact harguments _ mem begins

/-- Only the form of a look-up gives one. -/
theorem Form.Gives.eq_lookup {form : Form} {looked : String} (h : form.Gives (.lookup looked)) :
    form = .lookup := by
  cases form <;> simp [Form.Gives] at h ⊢

/-- **A text is looked up as it stands** exactly when it is not reserved. -/
theorem parse_eq_lookup_iff {text looked : String} :
    Rule.parse text = .ok (.lookup looked) ↔ looked = text ∧ ¬Reserved text.toList := by
  rw [not_reserved_iff, ← Template.hasOpening_iff, parse, parseChars]
  split
  · next hopening => simp [hopening]
  · next hopening =>
    have hplain (h : formOf text.toList = .lookup) :
        parsePlain text.toList = .ok (.lookup text) := by
      rw [parsePlain, h, String.ofList_toList]
    constructor
    · intro h
      have hform := (gives_of_parsePlain h).eq_lookup
      rw [hplain hform] at h
      cases h
      exact ⟨rfl, hopening, hform⟩
    · rintro ⟨rfl, -, hform⟩
      exact hplain hform

end Seedbed.Rule
