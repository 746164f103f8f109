import Mathlib.Data.List.Forall2
import Seedbed.Proofs.Statement.Names

/-!
# The columns of an insert

An insert lists its columns twice: in brackets behind the table, and between `select` and `from`.
Whatever the names are, the statement is read as its fixed tokens with the tokens of the names in
between (`tokens?_insertReturning`), and no token of a name ends a list or separates its items. So
both lists have one item for each column, in order, which is the parts of the column's name
(`columns_in_quotes`). A column is named by one identifier if and only if no dot stands in its name:
a dot makes what is before it the qualification of what is behind it (`column_cut_at_dot`).
-/

namespace Seedbed.Statement

variable {table : String} {columns : List String}

/-! ## Lists of names -/

/-- The tokens of a list of names. -/
def listTokens (names : List String) : List Token :=
  [.mark ","].intercalate (names.map fun name => nameTokens (partsOf name))

/-- A list of names is read name by name. -/
theorem lexes_nameList {names : List String} (h : names ≠ []) :
    LexesQuoted (nameList names).toList (listTokens names) := by
  have hsep : Lexes ", ".toList [.mark ","] fun _ => True := .of_between (by decide +kernel)
  have hfirst : ", ".toList.head? = some ',' := by decide +kernel
  rw [nameList, String.toList_intercalate, List.map_map]
  exact lexes_intercalate hsep hfirst (by decide) lexes_quoteName h

/-- What stands in a joined list stands in the separator or in one of the lists. -/
theorem mem_or_mem_of_mem_intercalate {α : Type} {sep : List α} {x : α} {ls : List (List α)}
    (h : x ∈ sep.intercalate ls) : x ∈ sep ∨ ∃ l ∈ ls, x ∈ l := by
  induction ls with
  | nil => simp at h
  | cons l ls ih =>
    cases ls with
    | nil => exact .inr ⟨l, by simp, by simpa using h⟩
    | cons next ls =>
      rw [List.intercalate_cons_cons, List.append_assoc, List.mem_append, List.mem_append] at h
      obtain h | h | h := h
      · exact .inr ⟨l, by simp, h⟩
      · exact .inl h
      · obtain h | ⟨l', hl', hx⟩ := ih h
        · exact .inl h
        · exact .inr ⟨l', List.mem_cons_of_mem _ hl', hx⟩

/-- The tokens of a name are its parts and the dots between them. -/
theorem eq_of_mem_nameTokens {parts : List String} {token : Token}
    (h : token ∈ nameTokens parts) : (∃ part, token = .quoted part) ∨ token = .mark "." := by
  obtain h | ⟨l, hl, h⟩ := mem_or_mem_of_mem_intercalate h
  · exact .inr (List.mem_singleton.1 h)
  · obtain ⟨part, -, rfl⟩ := List.mem_map.1 hl
    exact .inl ⟨part, List.mem_singleton.1 h⟩

/-- The tokens of a list of names are their parts, with dots and commas between them. -/
theorem eq_of_mem_listTokens {names : List String} {token : Token}
    (h : token ∈ listTokens names) :
    (∃ part, token = .quoted part) ∨ token = .mark "." ∨ token = .mark "," := by
  obtain h | ⟨l, hl, h⟩ := mem_or_mem_of_mem_intercalate h
  · exact .inr (.inr (List.mem_singleton.1 h))
  · obtain ⟨name, -, rfl⟩ := List.mem_map.1 hl
    exact (eq_of_mem_nameTokens h).imp_right .inl

/-- A list of names is cut at its commas into the names. -/
theorem splitOn_listTokens {names : List String} (h : names ≠ []) :
    (listTokens names).splitOn (.mark ",") = names.map fun name => nameTokens (partsOf name) := by
  refine List.splitOn_intercalate _ (fun item hitem hcomma => ?_) (by simpa using h)
  obtain ⟨name, -, rfl⟩ := List.mem_map.1 hitem
  simpa using eq_of_mem_nameTokens hcomma

/-- A name is one identifier if and only if no dot stands in it. -/
theorem nameTokens_eq_quoted_iff {name : String} :
    nameTokens (partsOf name) = [.quoted name] ↔ '.' ∉ name.toList := by
  constructor
  · intro h
    have hparts : partsOf name = [name] := by
      rw [← namesIn_nameTokens (partsOf name), h]
      rfl
    exact (parts_iff.2 hparts.symm).apart name (by simp)
  · intro h
    have hparts : Parts name [name] := ⟨by simp, by simp, by simpa using h⟩
    rw [← parts_iff.1 hparts]
    rfl

/-! ## Reading the lists -/

/-- The tokens from the first opening token up to the closing one behind it. -/
def enclosed (opening closing : Token) (tokens : List Token) : List Token :=
  ((tokens.dropWhile (· != opening)).tail).takeWhile (· != closing)

/-- The items of the list in brackets. -/
def insertedColumns (tokens : List Token) : List (List Token) :=
  (enclosed (.mark "(") (.mark ")") tokens).splitOn (.mark ",")

/-- The items of the list that is selected. -/
def selectedColumns (tokens : List Token) : List (List Token) :=
  (enclosed (.word "select") (.word "from") tokens).splitOn (.mark ",")

/-- What is enclosed lies between the first opening token and the first closing one behind it. -/
theorem enclosed_eq {opening closing : Token} {front inside tokens : List Token}
    (hopening : opening ∉ front) (hclosing : closing ∉ inside)
    (h : front ++ opening :: (inside ++ [closing]) <+: tokens) :
    enclosed opening closing tokens = inside := by
  obtain ⟨back, rfl⟩ := h
  have hfront : ∀ token ∈ front, (token != opening) = true := fun token htoken =>
    bne_iff_ne.2 fun he => hopening (he ▸ htoken)
  have hinside : ∀ token ∈ inside, (token != closing) = true := fun token htoken =>
    bne_iff_ne.2 fun he => hclosing (he ▸ htoken)
  rw [enclosed, List.append_assoc, List.dropWhile_append_of_pos hfront, List.cons_append,
    List.append_assoc, List.dropWhile_cons_of_neg (by simp), List.tail_cons,
    List.takeWhile_append_of_pos hinside, List.singleton_append,
    List.takeWhile_cons_of_neg (by simp), List.append_nil]

/-- The tokens of an insert of rows with these columns. -/
theorem tokens?_insertReturning (h : columns ≠ []) :
    tokens? (insertReturning table columns) =
      some ([.word "insert", .word "into"] ++ nameTokens (partsOf table) ++
        [.word "as", .word "inserted", .mark "("] ++ listTokens columns ++
        [.mark ")", .word "select"] ++ listTokens columns ++
        [.word "from", .word "jsonb_populate_recordset", .mark "(", .word "null", .mark "::"] ++
        nameTokens (partsOf table) ++
        [.mark ",", .parameter "1", .mark ")", .word "returning", .word "to_jsonb", .mark "(",
          .word "inserted", .mark ".", .mark "*", .mark ")"]) := by
  have hinsert : Lexes "insert into ".toList [.word "insert", .word "into"] fun _ => True :=
    .of_between (by decide +kernel)
  have has : Lexes " as inserted (".toList [.word "as", .word "inserted", .mark "("]
      fun _ => True :=
    ⟨[.word "as", .word "inserted"], .mark ['('], _, by decide +kernel, rfl, rfl, fun _ _ => rfl⟩
  have hselect : Lexes ") select ".toList [.mark ")", .word "select"] fun _ => True :=
    .of_between (by decide +kernel)
  have hfrom : Lexes " from jsonb_populate_recordset(null::".toList
      [.word "from", .word "jsonb_populate_recordset", .mark "(", .word "null", .mark "::"]
      fun _ => True :=
    ⟨[.word "from", .word "jsonb_populate_recordset", .mark "(", .word "null"], .mark [':', ':'],
      _, by decide +kernel, rfl, rfl, fun _ _ => rfl⟩
  have hreturning : Lexes ", $1) returning to_jsonb(inserted.*)".toList
      [.mark ",", .parameter "1", .mark ")", .word "returning", .word "to_jsonb", .mark "(",
        .word "inserted", .mark ".", .mark "*", .mark ")"] fun _ => True :=
    ⟨[.mark ",", .parameter "1", .mark ")", .word "returning", .word "to_jsonb", .mark "(",
      .word "inserted", .mark ".", .mark "*"], .mark [')'], _, by decide +kernel, rfl, rfl,
      fun _ _ => rfl⟩
  have htable := lexes_quoteName table
  have hcolumns := lexes_nameList h
  have hnamed := hinsert.around htable has (by decide +kernel : _ = some ' ') (by decide)
  have hlisted := hnamed.around hcolumns hselect (by decide +kernel : _ = some ')') (by decide)
  have hselected := hlisted.around hcolumns hfrom (by decide +kernel : _ = some ' ') (by decide)
  have hlexes := hselected.around htable hreturning (by decide +kernel : _ = some ',') (by decide)
  simp only [← String.toList_append] at hlexes
  exact hlexes.tokens?_eq

/-- **Both lists of an insert** have the tokens of each column's name as one item, in order. -/
theorem columns_of_insertReturning (h : columns ≠ []) {tokens : List Token}
    (htokens : tokens? (insertReturning table columns) = some tokens) :
    insertedColumns tokens = columns.map (fun column => nameTokens (partsOf column)) ∧
      selectedColumns tokens = columns.map (fun column => nameTokens (partsOf column)) := by
  rw [tokens?_insertReturning h, Option.some_inj] at htokens
  have hbracket : .mark ")" ∉ listTokens columns := fun h => by simpa using eq_of_mem_listTokens h
  have hselect : .word "select" ∉ listTokens columns := fun h => by
    simpa using eq_of_mem_listTokens h
  have hfrom : .word "from" ∉ listTokens columns := fun h => by simpa using eq_of_mem_listTokens h
  have hbracket' : .mark "(" ∉ nameTokens (partsOf table) := fun h => by
    simpa using eq_of_mem_nameTokens h
  have hselect' : .word "select" ∉ nameTokens (partsOf table) := fun h => by
    simpa using eq_of_mem_nameTokens h
  have hinserted : enclosed (.mark "(") (.mark ")") tokens = listTokens columns := by
    have hfront : .mark "(" ∉ [.word "insert", .word "into"] ++ nameTokens (partsOf table) ++
        [.word "as", .word "inserted"] := by
      simp [hbracket']
    refine enclosed_eq hfront hbracket ?_
    simp [← htokens]
  have hselected : enclosed (.word "select") (.word "from") tokens = listTokens columns := by
    have hfront : .word "select" ∉ [.word "insert", .word "into"] ++ nameTokens (partsOf table) ++
        [.word "as", .word "inserted", .mark "("] ++ listTokens columns ++ [.mark ")"] := by
      simp [hselect, hselect']
    refine enclosed_eq hfront hfrom ?_
    simp [← htokens]
  rw [insertedColumns, selectedColumns, hinserted, hselected, splitOn_listTokens h]
  exact ⟨rfl, rfl⟩

/-- **Columns in an insert.** Every column stands in both lists as the parts of its name, in order;
it is named by one identifier, with its whole name, if and only if no dot stands in it. -/
theorem columns_in_quotes (table : String) (columns : List String) (h : columns ≠ []) :
    ∃ tokens items, tokens? (insertReturning table columns) = some tokens ∧
      insertedColumns tokens = items ∧ selectedColumns tokens = items ∧
      List.Forall₂ (fun column item => ∃ parts, Parts column parts ∧ item = nameTokens parts)
        columns items ∧
      (items = columns.map (fun column => [.quoted column]) ↔
        ∀ column ∈ columns, '.' ∉ column.toList) := by
  have htokens : tokens? (insertReturning table columns) = _ := tokens?_insertReturning h
  obtain ⟨hinserted, hselected⟩ := columns_of_insertReturning h htokens
  refine ⟨_, _, htokens, hinserted, hselected, ?_, ?_⟩
  · rw [List.forall₂_map_right_iff, List.forall₂_same]
    exact fun column _ => ⟨partsOf column, parts_iff.2 rfl, rfl⟩
  · rw [List.map_inj_left]
    exact forall₂_congr fun column _ => nameTokens_eq_quoted_iff

/-- Quotes, commas and brackets in a name stay in it. -/
theorem columns_in_quotes_of_marks :
    ∃ tokens, tokens? (insertReturning "app.people" ["first name", "we\"ird", "a, b) from c"]) =
        some tokens ∧
      insertedColumns tokens =
        [[.quoted "first name"], [.quoted "we\"ird"], [.quoted "a, b) from c"]] ∧
      selectedColumns tokens =
        [[.quoted "first name"], [.quoted "we\"ird"], [.quoted "a, b) from c"]] := by
  obtain ⟨tokens, items, htokens, hinserted, hselected, -, hnames⟩ :=
    columns_in_quotes "app.people" ["first name", "we\"ird", "a, b) from c"] (by simp)
  have hitems := hnames.2 (by decide +kernel)
  exact ⟨tokens, htokens, hinserted.trans hitems, hselected.trans hitems⟩

/-- A column with a dot in its name is read as a field of something else. -/
theorem column_cut_at_dot :
    ["company.name"] ≠ [] ∧ (∀ column ∈ ["company.name"], column ≠ "") ∧
      ∃ tokens, tokens? (insertReturning "people" ["company.name"]) = some tokens ∧
        insertedColumns tokens = [[.quoted "company", .mark ".", .quoted "name"]] ∧
        selectedColumns tokens = [[.quoted "company", .mark ".", .quoted "name"]] ∧
        insertedColumns tokens ≠ ["company.name"].map fun column => [.quoted column] := by
  have htokens : tokens? (insertReturning "people" ["company.name"]) = _ :=
    tokens?_insertReturning (by simp)
  obtain ⟨hinserted, hselected⟩ := columns_of_insertReturning (by simp) htokens
  have hname : nameTokens (partsOf "company.name") =
      [.quoted "company", .mark ".", .quoted "name"] := by
    decide +kernel
  rw [List.map_singleton, hname] at hinserted hselected
  exact ⟨by simp, by simp, _, htokens, hinserted, hselected, by rw [hinserted]; decide⟩

end Seedbed.Statement
