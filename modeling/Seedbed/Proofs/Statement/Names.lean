import Seedbed.Statement
import Seedbed.Proofs.Statement.Token
import Seedbed.Proofs.Text.Split

/-!
# No name escapes its quotes

A name stands in a statement as quoted identifiers with dots between them, one for each part of the
name (`Parts`). The characters of a part leave the reader of a statement inside its quotes
(`run_doubleQuotes`), so each part is one token whatever it holds (`lexes_quotePart`), and a list of
names is read name by name (`lexes_intercalate`). From the tokens the parts are got back, and the
name from its parts: two names are never quoted alike (`quoteName_injective`), and the grammar of
quoted identifiers has one reading of a quoted name (`identifiers_iff`).
-/

namespace Seedbed.Statement

/-! ## The parts of a name -/

/-- The parts of a name are what stands between its dots. -/
structure Parts (name : String) (parts : List String) : Prop where
  ne : parts ≠ []
  joined : String.intercalate "." parts = name
  apart : ∀ part ∈ parts, '.' ∉ part.toList

/-- The name cut at its dots. -/
def partsOf (name : String) : List String :=
  (Text.splitOn '.' name.toList).map String.ofList

/-- Every name has a part. -/
theorem partsOf_ne_nil (name : String) : partsOf name ≠ [] := by
  simpa [partsOf] using Text.splitOn_ne_nil '.' name.toList

/-- A name has one list of parts. -/
theorem parts_iff {name : String} {parts : List String} :
    Parts name parts ↔ parts = partsOf name := by
  have hjoin (parts : List String) : (String.intercalate "." parts).toList =
      Text.joinWith ['.'] (parts.map String.toList) := by
    rw [String.toList_intercalate, Text.joinWith_eq_intercalate]
    rfl
  constructor
  · rintro ⟨hne, rfl, hapart⟩
    have hcut : Text.splitOn '.' (Text.joinWith ['.'] (parts.map String.toList)) =
        parts.map String.toList :=
      Text.splitOn_joinWith (by simpa using hne) (by simpa using hapart)
    rw [partsOf, hjoin, hcut]
    simp [Function.comp_def]
  · rintro rfl
    refine ⟨partsOf_ne_nil name, String.toList_injective ?_, fun part hpart => ?_⟩
    · rw [hjoin, partsOf, List.map_map]
      simpa [Function.comp_def] using Text.joinWith_splitOn '.' name.toList
    · obtain ⟨piece, hpiece, rfl⟩ := List.mem_map.1 hpart
      simpa using Text.not_mem_of_mem_splitOn hpiece

/-! ## The grammar of quoted identifiers -/

/-- How the inside of a quoted identifier is written: a double quote twice, all else once. -/
inductive Inside : List Char → List Char → Prop
  | nil : Inside [] []
  | quote {written name : List Char} (rest : Inside written name) :
    Inside ('"' :: '"' :: written) ('"' :: name)
  | other {c : Char} {written name : List Char} (h : c ≠ '"') (rest : Inside written name) :
    Inside (c :: written) (c :: name)

/-- A text is quoted identifiers with dots between them, for these names. -/
inductive Identifiers : List Char → List String → Prop
  | last {written name : List Char} (inside : Inside written name) :
    Identifiers ('"' :: (written ++ ['"'])) [String.ofList name]
  | next {written name text : List Char} {names : List String} (inside : Inside written name)
    (rest : Identifiers text names) :
    Identifiers ('"' :: (written ++ ['"']) ++ '.' :: text) (String.ofList name :: names)

/-- What stands within the quotes of a name is the name with its quotes doubled. -/
theorem inside_iff {written name : List Char} :
    Inside written name ↔ written = doubleQuotes name := by
  constructor
  · intro h
    induction h with
    | nil => rfl
    | quote rest ih => simp [doubleQuotes, ih]
    | other hc rest ih => simp [doubleQuotes, hc, ih]
  · rintro rfl
    induction name with
    | nil => exact .nil
    | cons c name ih =>
      by_cases hc : c = '"'
      · subst hc
        simpa [doubleQuotes] using ih.quote
      · simpa [doubleQuotes, hc] using ih.other hc

/-- Identifiers as they are written for names. -/
def written (names : List String) : List Char :=
  Text.joinWith ['.'] (names.map fun name => quotePart name.toList)

/-- A quoted name is its parts in quotes with points between them. -/
theorem toList_quoteName (name : String) : (quoteName name).toList = written (partsOf name) := by
  simp [quoteName, written, partsOf, Function.comp_def]

/-- Written names are read as these names. -/
theorem identifiers_written {names : List String} (h : names ≠ []) :
    Identifiers (written names) names := by
  induction names with
  | nil => exact absurd rfl h
  | cons name names ih =>
    have hinside : Inside (doubleQuotes name.toList) name.toList := inside_iff.2 rfl
    cases names with
    | nil => simpa [written, Text.joinWith, quotePart] using Identifiers.last hinside
    | cons next names =>
      have hnext := Identifiers.next hinside (ih (by simp))
      simpa [written, Text.joinWith, quotePart] using hnext

/-- Names are read from nothing but what is written for them. -/
theorem Identifiers.eq_written {text : List Char} {names : List String}
    (h : Identifiers text names) : names ≠ [] ∧ text = written names := by
  induction h with
  | last inside => simp [written, Text.joinWith, quotePart, inside_iff.1 inside]
  | @next _ name text names inside rest ih =>
    obtain ⟨hne, rfl⟩ := ih
    obtain ⟨next, names, rfl⟩ := List.exists_cons_of_ne_nil hne
    simp [written, Text.joinWith, quotePart, inside_iff.1 inside]

/-! ## The tokens of names -/

/-- The tokens of a name with these parts. -/
def nameTokens (parts : List String) : List Token :=
  [.mark "."].intercalate (parts.map fun part => [.quoted part])

/-- A part of a statement that begins with a quoted name, ends with one, and stands for tokens. -/
def LexesQuoted (text : List Char) (tokens : List Token) : Prop :=
  text.head? = some '"' ∧ Lexes text tokens (· ≠ '"')

/-- The characters of a name leave the reader inside its quotes. -/
theorem run_doubleQuotes (cs name : List Char) :
    (Reading.quoted cs).run (doubleQuotes name) = some ([], .quoted (name.reverse ++ cs)) := by
  induction name generalizing cs with
  | nil => rfl
  | cons c name ih =>
    have hchar : (Reading.quoted cs).run (if c = '"' then ['"', '"'] else [c]) =
        some ([], .quoted (c :: cs)) := by
      by_cases hc : c = '"'
      · simp [hc, Reading.run, Reading.step, Reading.extend?]
      · simp [hc, Reading.run, Reading.step, Reading.extend?]
    rw [doubleQuotes, List.flatMap_cons, Reading.run_append hchar, ← doubleQuotes, ih]
    simp

/-- A double quote between tokens begins a quoted name. -/
theorem run_between_quote (cs : List Char) :
    Reading.between.run ('"' :: cs) = (Reading.quoted []).run cs := by
  have hstep : Reading.between.step '"' = some ([], .quoted []) := rfl
  rw [Reading.run, hstep]
  simp only [Option.bind_eq_bind, Option.bind_some, List.nil_append]
  exact Option.bind_fun_some _

/-- **A part of a name is one token**, whatever its characters are. -/
theorem lexes_quotePart (name : List Char) :
    LexesQuoted (quotePart name) [.quoted (String.ofList name)] := by
  refine ⟨rfl, [], .closed name.reverse, _, ?_, rfl, by simp, fun c hc => ?_⟩
  · have hinside := run_doubleQuotes [] name
    rw [quotePart, run_between_quote, Reading.run_append hinside, List.append_nil]
    rfl
  · simp [Reading.extend?, hc]

/-- Quoted parts with a separator between them are read one after another. -/
theorem lexes_intercalate {α : Type} {sep : List Char} {mark : List Token} {c : Char}
    (hsep : Lexes sep mark fun _ => True) (hfirst : sep.head? = some c) (hc : c ≠ '"')
    {text : α → List Char} {tokens : α → List Token} (h : ∀ a, LexesQuoted (text a) (tokens a))
    {items : List α} (hne : items ≠ []) :
    LexesQuoted (sep.intercalate (items.map text)) (mark.intercalate (items.map tokens)) := by
  induction items with
  | nil => exact absurd rfl hne
  | cons item items ih =>
    cases items with
    | nil => simpa using h item
    | cons next items =>
      obtain ⟨hquote, hitem⟩ := h item
      obtain ⟨hquotes, hitems⟩ := ih (by simp)
      have hbehind := hsep.append hitems hquotes trivial
      have hstart : (sep ++ sep.intercalate ((next :: items).map text)).head? = some c := by
        rw [List.head?_append, hfirst, Option.some_or]
      rw [List.map_cons, List.map_cons, List.map_cons, List.map_cons, List.intercalate_cons_cons,
        List.intercalate_cons_cons, List.append_assoc, List.append_assoc]
      refine ⟨?_, hitem.append hbehind hstart hc⟩
      rw [List.head?_append, hquote, Option.some_or]

/-- Written names are cut into their tokens. -/
theorem lexes_written {names : List String} (h : names ≠ []) :
    LexesQuoted (written names) (nameTokens names) := by
  have hdot : Lexes ['.'] [.mark "."] fun _ => True :=
    ⟨[], .mark ['.'], _, rfl, rfl, rfl, fun _ _ => rfl⟩
  have hpart (name : String) : LexesQuoted (quotePart name.toList) [.quoted name] := by
    simpa using lexes_quotePart name.toList
  rw [written, Text.joinWith_eq_intercalate]
  exact lexes_intercalate hdot rfl (by decide) hpart h

/-- A name is read as its parts. -/
theorem lexes_quoteName (name : String) :
    LexesQuoted (quoteName name).toList (nameTokens (partsOf name)) := by
  rw [toList_quoteName]
  exact lexes_written (partsOf_ne_nil name)

/-- The names among tokens. -/
def namesIn (tokens : List Token) : List String :=
  tokens.filterMap fun
    | .quoted name => some name
    | _ => none

/-- The names in the tokens of names are these names. -/
theorem namesIn_nameTokens (parts : List String) : namesIn (nameTokens parts) = parts := by
  induction parts with
  | nil => rfl
  | cons part parts ih =>
    cases parts with
    | nil => rfl
    | cons next parts =>
      have hcons : nameTokens (part :: next :: parts) =
          [.quoted part, .mark "."] ++ nameTokens (next :: parts) := by
        simp [nameTokens]
      have hparts : namesIn ([.quoted part, .mark "."] ++ nameTokens (next :: parts)) =
          part :: namesIn (nameTokens (next :: parts)) := by
        simp [namesIn]
      rw [hcons, hparts, ih]

/-- What is written for names tells the names. -/
theorem written_inj {names others : List String} (h : names ≠ []) (h' : others ≠ [])
    (he : written names = written others) : names = others := by
  have htokens : tokens? (String.ofList (written names)) = some (nameTokens names) :=
    Lexes.tokens?_eq (by simpa using (lexes_written h).2)
  have hothers : tokens? (String.ofList (written others)) = some (nameTokens others) :=
    Lexes.tokens?_eq (by simpa using (lexes_written h').2)
  rw [he, hothers, Option.some_inj] at htokens
  rw [← namesIn_nameTokens names, ← htokens, namesIn_nameTokens]

/-- **The grammar of quoted identifiers** reads a quoted name in one way, as its parts. -/
theorem identifiers_iff {name : String} {names : List String} :
    Identifiers (quoteName name).toList names ↔ names = partsOf name := by
  rw [toList_quoteName]
  constructor
  · intro h
    obtain ⟨hne, he⟩ := h.eq_written
    exact (written_inj (partsOf_ne_nil name) hne he).symm
  · rintro rfl
    exact identifiers_written (partsOf_ne_nil name)

/-- **Names are never quoted alike.** -/
theorem quoteName_injective : Function.Injective quoteName := by
  intro name other he
  have hparts : partsOf name = partsOf other :=
    written_inj (partsOf_ne_nil name) (partsOf_ne_nil other)
      (by rw [← toList_quoteName, he, toList_quoteName])
  rw [← (parts_iff.2 rfl : Parts name (partsOf name)).joined, hparts]
  exact (parts_iff.2 rfl).joined

/-! ## Statements about one table -/

/-- Quoted names stand for themselves between the parts of a statement around them. -/
theorem Lexes.around {front text back : List Char} {before tokens after : List Token}
    {next : Char → Prop} {c : Char} (hfront : Lexes front before fun _ => True)
    (htext : LexesQuoted text tokens) (hback : Lexes back after next)
    (hfirst : back.head? = some c) (hc : c ≠ '"') :
    Lexes (front ++ text ++ back) (before ++ tokens ++ after) next := by
  obtain ⟨hquote, htokens⟩ := htext
  exact (hfront.append htokens hquote trivial).append hback hfirst hc

/-- The tokens of a delete of the rows of a tenant. -/
theorem tokens?_deleteWhereTenant (table : String) :
    tokens? (deleteWhereTenant table) =
      some ([.word "delete", .word "from"] ++ nameTokens (partsOf table) ++
        [.word "where", .word "tenant_id", .mark "=", .parameter "1"]) := by
  have hfront : Lexes "delete from ".toList [.word "delete", .word "from"] fun _ => True :=
    .of_between (by decide +kernel)
  have hback : Lexes " where tenant_id = $1".toList
      [.word "where", .word "tenant_id", .mark "=", .parameter "1"] fun _ => False :=
    ⟨[.word "where", .word "tenant_id", .mark "="], .parameter ['1'], _, by decide +kernel, rfl,
      rfl, fun _ => False.elim⟩
  have hfirst : " where tenant_id = $1".toList.head? = some ' ' := by decide +kernel
  have hlexes := hfront.around (lexes_quoteName table) hback hfirst (by decide)
  rw [← String.toList_append, ← String.toList_append] at hlexes
  exact hlexes.tokens?_eq

/-- The tokens of a query for the tenants of a table. -/
theorem tokens?_distinctTenants (table : String) :
    tokens? (distinctTenants table) =
      some ([.word "select", .word "distinct", .word "tenant_id", .mark "::", .word "text",
          .word "from"] ++ nameTokens (partsOf table) ++
        [.word "where", .word "tenant_id", .word "is", .word "not", .word "null", .word "order",
          .word "by", .number "1"]) := by
  have hfront : Lexes "select distinct tenant_id::text from ".toList
      [.word "select", .word "distinct", .word "tenant_id", .mark "::", .word "text",
        .word "from"] fun _ => True :=
    .of_between (by decide +kernel)
  have hback : Lexes " where tenant_id is not null order by 1".toList
      [.word "where", .word "tenant_id", .word "is", .word "not", .word "null", .word "order",
        .word "by", .number "1"] fun _ => False :=
    ⟨[.word "where", .word "tenant_id", .word "is", .word "not", .word "null", .word "order",
        .word "by"], .number ['1'], _, by decide +kernel, rfl, rfl, fun _ => False.elim⟩
  have hfirst : " where tenant_id is not null order by 1".toList.head? = some ' ' := by
    decide +kernel
  have hlexes := hfront.around (lexes_quoteName table) hback hfirst (by decide)
  rw [← String.toList_append, ← String.toList_append] at hlexes
  exact hlexes.tokens?_eq

/-- **No name escapes its quotes.** The parts of a name are what its quoted form is read as, by the
grammar of quoted identifiers and by the reader of statements, so two names are never quoted alike;
and a statement about a table is read as its fixed tokens, with the parts of the name of the table
in their place and nothing else. -/
theorem name_in_quotes (name : String) :
    ∃ parts, (∀ other, Parts name other ↔ other = parts) ∧
      (∀ names, Identifiers (quoteName name).toList names ↔ names = parts) ∧
      tokens? (quoteName name) = some (nameTokens parts) ∧
      (∀ other, quoteName other = quoteName name → other = name) ∧
      tokens? (deleteWhereTenant name) =
        some ([.word "delete", .word "from"] ++ nameTokens parts ++
          [.word "where", .word "tenant_id", .mark "=", .parameter "1"]) ∧
      tokens? (distinctTenants name) =
        some ([.word "select", .word "distinct", .word "tenant_id", .mark "::", .word "text",
            .word "from"] ++ nameTokens parts ++
          [.word "where", .word "tenant_id", .word "is", .word "not", .word "null", .word "order",
            .word "by", .number "1"]) :=
  ⟨partsOf name, fun _ => parts_iff, fun _ => identifiers_iff, (lexes_quoteName name).2.tokens?_eq,
    fun _ he => quoteName_injective he, tokens?_deleteWhereTenant name,
    tokens?_distinctTenants name⟩

end Seedbed.Statement
