import Mathlib.Tactic.SplitIfs
import Seedbed.Validation.Check
import Seedbed.Proofs.Definition.Decoding

/-!
# Validation and compilation agree

Validation goes over a value and lists all that is wrong with it; compilation stops at the first
problem. Both take the same tree: a list of issues is `Clear` when nothing in it keeps a definition
from being compiled, and the issues of each part of a value are clear exactly when that part is
decoded and the issues of its scalars are clear (`clear_checkNode_iff` and the lemmas around it).
What validation finds beyond that is told by three kinds of errors: a generator that is not known, a
placeholder that is neither a rule nor a column, and a table name of blanks only. Whether these are
tolerated is left open, so that the same lemmas speak of a definition that compiles
(`compile_ok_iff_errors`) and of one without any errors (`columnOnly_declared`).
-/

namespace Seedbed.Validation

open Decoder

/-! ## Clear lists -/

/-- A finding that is tolerated: a warning, an error about a generator or a placeholder if one is
`lenient`, and an error about the table name if that name is only `blank`. -/
def Tolerable (lenient blank : Prop) (finding : Finding) : Prop :=
  finding.severity = .warning ∨
    (finding.code = "unknown_generator" ∨ finding.code = "invalid_placeholder") ∧ lenient ∨
    finding.code = "table_invalid" ∧ blank

/-- All issues are tolerated. -/
def Clear (lenient blank : Prop) (issues : List Issue) : Prop :=
  ∀ issue ∈ issues, Tolerable lenient blank issue.finding

variable {lenient blank : Prop}

@[simp] theorem clear_nil : Clear lenient blank [] := List.forall_mem_nil _

@[simp] theorem clear_append {issues others : List Issue} :
    Clear lenient blank (issues ++ others) ↔
      Clear lenient blank issues ∧ Clear lenient blank others :=
  List.forall_mem_append

@[simp] theorem clear_found {path : String} {finding : Finding} :
    Clear lenient blank (found path finding) ↔ Tolerable lenient blank finding :=
  List.forall_mem_singleton

/-- Unknown members are only warned about. -/
@[simp] theorem clear_unknownKeys (allowed : List String) (path : String) (members : Fields Json) :
    Clear lenient blank (unknownKeys allowed path members) := by
  intro issue h
  obtain ⟨key, -, rfl⟩ := List.mem_map.1 h
  exact .inl rfl

/-! ## Scalars -/

variable (known : Catalog) (declared : List String)

/-- The issues of a text that is looked up are clear if one is lenient, and else when it is known or
what stands before its first colon is. -/
theorem clear_checkLookup_iff (text path : String) :
    Clear lenient blank (checkLookup known text path) ↔
      lenient ∨ known text = true ∨ ∀ head rest, Text.splitFirst ':' text.toList =
        some (head, rest) → known (String.ofList head) = true := by
  unfold checkLookup
  split
  · next hknown => simp [hknown]
  · next hunknown =>
    split
    · next head rest hsplit =>
      dsimp only
      split
      · next hhead => simp [hsplit, hhead]
      · next hhead =>
        simp [hsplit, hhead, hunknown, Tolerable, Finding.severity, Finding.code]
    · next hsplit =>
      refine iff_of_true ?_ (.inr (.inr fun head rest h => ?_))
      · split
        · exact clear_found.2 (.inl rfl)
        · exact clear_nil
      · cases hsplit.symm.trans h

/-- The issues of a segment are clear if one is lenient, and else when its key is a column or it
is a rule. -/
theorem clear_checkSegment_iff (path : String) (segment : Segment) :
    Clear lenient blank (checkSegment declared path segment) ↔
      lenient ∨ ∀ key error, segment = .columnOnly key error → key ∈ declared := by
  unfold checkSegment
  split
  · next key error =>
    split_ifs with hk
    · refine iff_of_true clear_nil (.inr ?_)
      rintro key' error' ⟨⟩
      exact hk
    · simp [Tolerable, Finding.severity, Finding.code, hk]
  · next hne => exact iff_of_true clear_nil (.inr fun key error h => absurd h (hne key error))

/-- The issues of a text are clear, if one is lenient, when it is a rule. -/
theorem clear_checkScalar_iff (text path : String) :
    Clear True blank (checkScalar known declared text path) ↔
      ∃ rule, Rule.parse text = .ok rule := by
  unfold checkScalar
  split
  · next e he => simp [he, Tolerable, Finding.severity, Finding.code]
  · next segments he =>
    refine iff_of_true (fun issue h => ?_) ⟨_, he⟩
    obtain ⟨segment, -, hi⟩ := List.mem_flatMap.1 h
    exact (clear_checkSegment_iff declared path segment).2 (.inl trivial) issue hi
  · next he =>
    exact iff_of_true ((clear_checkLookup_iff known _ path).2 (.inl trivial)) ⟨_, he⟩
  · next he =>
    refine iff_of_true ?_ ⟨_, he⟩
    split_ifs
    · exact clear_nil
    · exact clear_found.2 (.inl rfl)
  · next he => exact iff_of_true clear_nil ⟨_, he⟩

/-- The issues of all scalars are clear. -/
def ScalarsClear (lenient blank : Prop) (known : Catalog) (declared : List String)
    (scalars : List (String × String)) : Prop :=
  ∀ scalar ∈ scalars, Clear lenient blank (checkScalar known declared scalar.2 scalar.1)

/-! ## Counts -/

/-- The bounds of a range are decoded when both are there and in order. -/
theorem decodeRange_ok_iff {members : Fields Json} {path : String} :
    (∃ count, decodeRange members path = .ok count) ↔
      ∃ min max, (Fields.get? "min" members).bind Json.natural? = some min ∧
        (Fields.get? "max" members).bind Json.natural? = some max ∧ min ≤ max := by
  unfold decodeRange
  split
  · next min max hmin hmax =>
    split_ifs with hle
    · exact iff_of_true ⟨_, rfl⟩ ⟨min, max, hmin, hmax, hle⟩
    · refine iff_of_false (by simp [refuse]) ?_
      rintro ⟨min', max', hmin', hmax', hle'⟩
      cases hmin.symm.trans hmin'
      cases hmax.symm.trans hmax'
      exact hle hle'
  · next hnone =>
    refine iff_of_false (by simp [refuse]) ?_
    rintro ⟨min, max, hmin, hmax, -⟩
    exact hnone min max hmin hmax

/-- The issues of a number of rows are clear when it is decoded. -/
theorem clear_checkCount_iff (count : Json) (path : String) :
    Clear lenient blank (checkCount count) ↔ ∃ decoded, decodeCount count path = .ok decoded := by
  unfold checkCount decodeCount
  cases count.natural? with
  | some n => simp
  | none =>
    cases count.members? with
    | none => simp [refuse, Tolerable, Finding.severity, Finding.code]
    | some members =>
      dsimp only
      rw [decodeRange_ok_iff]
      split
      · next min max hmin hmax =>
        simp only [hmin, hmax, Option.some.injEq]
        split_ifs with hlt
        · simp [Tolerable, Finding.severity, Finding.code, hlt]
        · simp [Nat.le_of_not_lt hlt]
      · next hnone =>
        refine iff_of_false (by simp [Tolerable, Finding.severity, Finding.code]) ?_
        rintro ⟨min, max, hmin, hmax, -⟩
        exact hnone min max hmin hmax

/-- The issues of a number of items are clear when it is decoded. -/
theorem clear_checkArrayCount_iff (members : Fields Json) (path : String) :
    Clear lenient blank (checkArrayCount members path) ↔
      ∃ decoded, decodeArrayCount members path = .ok decoded := by
  unfold checkArrayCount decodeArrayCount
  rcases hc : Fields.get? "count" members with _ | count <;>
    rcases hmin : Fields.get? "min" members with _ | min <;>
    rcases hmax : Fields.get? "max" members with _ | max
  case none.some.some =>
    simp only [decodeRange_ok_iff, hmin, hmax, Option.bind_some]
    rcases min.natural? with _ | min <;> rcases max.natural? with _ | max <;>
      simp [Tolerable, Finding.severity, Finding.code]
    split_ifs with hlt <;> simp [Tolerable, Finding.severity, Finding.code] <;> omega
  case some.none.none =>
    cases hn : count.natural? <;> simp [hn, refuse, Tolerable, Finding.severity, Finding.code]
  all_goals simp [refuse, Tolerable, Finding.severity, Finding.code]

/-! ## Nodes -/

mutual

/-- The issues of a node are clear when it is decoded and the issues of its scalars are clear. -/
theorem clear_checkNode_iff (path : String) : ∀ value : Json,
    Clear lenient blank (checkNode known declared path value) ↔
      ∃ node, decodeNode path value = .ok node ∧
        ScalarsClear lenient blank known declared (node.scalars path)
  | .string text => by
    simp [checkNode, decodeNode, Node.scalars, ScalarsClear]
  | .object members => by
    unfold checkNode decodeNode
    generalize (Fields.get? "type" members).bind Json.text? = kind
    split
    · simp only [clear_append, clear_unknownKeys, true_and, clear_checkItems_iff path members,
        clear_checkArrayCount_iff, bind_eq_ok, pure_eq_ok]
      constructor
      · rintro ⟨⟨items, hi, hp⟩, count, hc⟩
        exact ⟨.array items count, ⟨items, hi, count, hc, rfl⟩, hp⟩
      · rintro ⟨node, ⟨items, hi, count, hc, rfl⟩, hp⟩
        exact ⟨⟨items, hi, hp⟩, count, hc⟩
    · simp only [clear_append, clear_unknownKeys, true_and]
      split
      · next key hk =>
        have hc : container? members = some key := by rw [container?, hk]
        simp only [hc, clear_checkContainer_iff path key members, bind_eq_ok, pure_eq_ok]
        constructor
        · rintro ⟨properties, hd, hp⟩
          exact ⟨.object properties, ⟨properties, hd, rfl⟩, hp⟩
        · rintro ⟨node, ⟨properties, hd, rfl⟩, hp⟩
          exact ⟨properties, hd, hp⟩
      · next hk =>
        have hc : container? members = none := by rw [container?, hk]
        simp [hc, refuse, Tolerable, Finding.severity, Finding.code]
      · next hone hnone =>
        simp [container?_eq_none hone, refuse, Tolerable, Finding.severity, Finding.code]
    · simp [refuse, Tolerable, Finding.severity, Finding.code]
  | .null | .bool _ | .integer _ | .real _ | .array _ => by
    simp [checkNode, decodeNode, refuse, Tolerable, Finding.severity, Finding.code]

/-- The issues of the items of an array are clear when they are decoded. -/
theorem clear_checkItems_iff (path : String) : ∀ members : List (String × Json),
    Clear lenient blank (checkItems known declared path members) ↔
      ∃ node, decodeItems path members = .ok node ∧
        ScalarsClear lenient blank known declared (node.scalars (itemsPath path))
  | [] => by simp [checkItems, decodeItems, refuse, Tolerable, Finding.severity, Finding.code]
  | (name, value) :: rest => by
    unfold checkItems decodeItems
    split_ifs
    · exact clear_checkNode_iff (itemsPath path) value
    · exact clear_checkItems_iff path rest

/-- The issues of the container of an object are clear when it is decoded. -/
theorem clear_checkContainer_iff (path key : String) : ∀ members : List (String × Json),
    Clear lenient blank (checkContainer known declared path key members) ↔
      ∃ properties, decodeContainer path key members = .ok properties ∧
        ScalarsClear lenient blank known declared (Node.propertyScalars path properties)
  | [] => by simp [checkContainer, decodeContainer, Node.propertyScalars, ScalarsClear]
  | (name, value) :: rest => by
    unfold checkContainer decodeContainer
    split_ifs
    · cases value with
      | object properties => exact clear_checkProperties_iff path properties
      | _ => simp [refuse, Tolerable, Finding.severity, Finding.code]
    · exact clear_checkContainer_iff path key rest

/-- The issues of properties are clear when they are decoded. -/
theorem clear_checkProperties_iff (path : String) : ∀ members : List (String × Json),
    Clear lenient blank (checkProperties known declared path members) ↔
      ∃ properties, decodeProperties path members = .ok properties ∧
        ScalarsClear lenient blank known declared (Node.propertyScalars path properties)
  | [] => by simp [checkProperties, decodeProperties, Node.propertyScalars, ScalarsClear]
  | (name, value) :: rest => by
    simp only [checkProperties, decodeProperties, clear_append, bind_eq_ok, pure_eq_ok,
      clear_checkNode_iff (propertyPath path name) value, clear_checkProperties_iff path rest]
    constructor
    · rintro ⟨⟨node, hn, hp⟩, properties, hr, hps⟩
      exact ⟨(name, node) :: properties, ⟨node, hn, properties, hr, rfl⟩,
        List.forall_mem_append.2 ⟨hp, hps⟩⟩
    · rintro ⟨_, ⟨node, hn, properties, hr, rfl⟩, hp⟩
      obtain ⟨hp, hps⟩ := List.forall_mem_append.1 hp
      exact ⟨⟨node, hn, hp⟩, properties, hr, hps⟩

end

/-! ## Definitions -/

/-- The issues of columns are clear when they are decoded and the issues of their scalars are
clear. -/
theorem clear_columns_iff (columns : Fields Json) :
    Clear lenient blank (columns.flatMap fun column =>
        checkNode known declared (columnPath column.1) column.2) ↔
      ∃ decoded, decodeColumns columns = .ok decoded ∧
        ScalarsClear lenient blank known declared (Definition.columnScalars decoded) := by
  induction columns with
  | nil => simp [decodeColumns, Definition.columnScalars, ScalarsClear]
  | cons column rest ih =>
    obtain ⟨name, value⟩ := column
    rw [List.flatMap_cons, clear_append, ih, clear_checkNode_iff]
    simp only [decodeColumns, bind_eq_ok, pure_eq_ok]
    constructor
    · rintro ⟨⟨node, hn, hp⟩, decoded, hd, hps⟩
      exact ⟨(name, node) :: decoded, ⟨node, hn, decoded, hd, rfl⟩,
        List.forall_mem_append.2 ⟨hp, hps⟩⟩
    · rintro ⟨_, ⟨node, hn, decoded, hd, rfl⟩, hp⟩
      obtain ⟨hp, hps⟩ := List.forall_mem_append.1 hp
      exact ⟨⟨node, hn, hp⟩, decoded, hd, hps⟩

/-- The name of the table is a text that holds blanks only, at least one. -/
def BlankTable (members : Fields Json) : Prop :=
  ∃ table, Fields.get? "table" members = some (.string table) ∧ table ≠ "" ∧
    Text.isAllBlank table.toList = true

/-- The issues of the table name are clear when it is a text that is not empty. -/
theorem clear_checkTable_iff (members : Fields Json) :
    Clear lenient (BlankTable members) (checkTable members) ↔
      ∃ table, Fields.get? "table" members = some (.string table) ∧ table ≠ "" := by
  unfold checkTable
  split
  · next table ht =>
    split_ifs with hb
    · simp only [clear_found, Tolerable, Finding.severity, Finding.code, BlankTable, ht]
      simp [hb]
    · refine iff_of_true clear_nil ⟨table, ht, ?_⟩
      rintro rfl
      exact hb rfl
  · next value hne ht =>
    have hno : ∀ table, value ≠ Json.string table := hne
    simp [Tolerable, Finding.severity, Finding.code, BlankTable, ht, hno]
  · next ht => simp [Tolerable, Finding.severity, Finding.code, BlankTable, ht]

/-- The issues of the columns of a definition are clear when there are columns, these are decoded,
and the issues of their scalars are clear. -/
theorem clear_checkColumns_iff (members : Fields Json) :
    Clear lenient blank (checkColumns known members) ↔
      ∃ columns decoded, Fields.get? "columns" members = some (.object columns) ∧ columns ≠ [] ∧
        decodeColumns columns = .ok decoded ∧
        ScalarsClear lenient blank known (Fields.names columns)
          (Definition.columnScalars decoded) := by
  unfold checkColumns
  split
  · next hc => simp [hc, Tolerable, Finding.severity, Finding.code]
  · next columns hne hc =>
    have hcn : columns ≠ [] := by
      rintro rfl
      exact hne rfl
    rw [clear_columns_iff]
    constructor
    · rintro ⟨decoded, hd, hp⟩
      exact ⟨columns, decoded, hc, hcn, hd, hp⟩
    · rintro ⟨columns', decoded, hc', -, hd, hp⟩
      cases hc.symm.trans hc'
      exact ⟨decoded, hd, hp⟩
  · next value hnil hobject hc =>
    have hno : ∀ columns, value ≠ Json.object columns := hobject
    simp [hc, Tolerable, Finding.severity, Finding.code, hno]
  · next hc => simp [hc, Tolerable, Finding.severity, Finding.code]

/-- The issues of the members of a definition are clear when those of the table name are and the
rest is decoded to columns whose scalars have clear issues. -/
theorem clear_checkMembers_iff (members : Fields Json) :
    Clear lenient blank (checkMembers known members) ↔
      Clear lenient blank (checkTable members) ∧
      (∃ count n, Fields.get? "count" members = some count ∧ decodeCount count "$.count" = .ok n) ∧
      ∃ columns decoded, Fields.get? "columns" members = some (.object columns) ∧ columns ≠ [] ∧
        decodeColumns columns = .ok decoded ∧
        ScalarsClear lenient blank known (Fields.names columns)
          (Definition.columnScalars decoded) := by
  have hunknown : Clear lenient blank
      ((Fields.names members).filter (· ∉ topLevelKeys) |>.map fun key =>
        { path := "$." ++ key, finding := .unknownTopLevelKey key }) := by
    intro issue h
    obtain ⟨key, -, rfl⟩ := List.mem_map.1 h
    exact .inl rfl
  simp only [checkMembers, clear_append, hunknown, true_and, clear_checkColumns_iff, and_assoc]
  refine and_congr_right fun _ => and_congr_left fun _ => ?_
  cases hget : Fields.get? "count" members with
  | none => simp [Tolerable, Finding.severity, Finding.code]
  | some count => simp [clear_checkCount_iff count "$.count"]

/-! ## Definitions that compile -/

/-- A definition compiles when it is decoded and its scalars are rules. -/
theorem compile_ok_iff {value : Json} :
    (∃ definition, Definition.compile value = .ok definition) ↔
      ∃ decoded, Definition.decode value = .ok decoded ∧
        ∀ scalar ∈ decoded.scalars, ∃ rule, Rule.parse scalar.2 = .ok rule := by
  simp only [Definition.compile, exists_bind_eq_ok, mapError_eq_ok, Definition.traverse_ok_iff,
    parseAt]

/-- The issues of the members of a definition are clear, if one is lenient, when it compiles. -/
theorem clear_checkMembers_iff_compile (members : Fields Json) :
    Clear True (BlankTable members) (checkMembers known members) ↔
      ∃ definition, Definition.compile (.object members) = .ok definition := by
  rw [clear_checkMembers_iff, clear_checkTable_iff, compile_ok_iff]
  simp only [ScalarsClear, clear_checkScalar_iff, Definition.decode_eq_ok_iff, Json.object.injEq]
  constructor
  · rintro ⟨⟨table, ht, hne⟩, ⟨count, n, hget, hn⟩, columns, decoded, hc, hcn, hd, hp⟩
    exact ⟨⟨table, n, decoded⟩, ⟨members, count, columns, rfl, ht, hne, hget, hn, hc, hcn, hd⟩, hp⟩
  · rintro ⟨decoded, ⟨_, count, columns, rfl, ht, hne, hget, hn, hc, hcn, hd⟩, hp⟩
    exact ⟨⟨_, ht, hne⟩, ⟨count, _, hget, hn⟩, columns, _, hc, hcn, hd, hp⟩

/-- The issues of a report are clear when its errors are tolerated. -/
theorem clear_issues_iff (report : Report) :
    Clear True blank report.issues ↔ ∀ issue ∈ report.errors,
      issue.finding.code = "unknown_generator" ∨ issue.finding.code = "invalid_placeholder" ∨
        issue.finding.code = "table_invalid" ∧ blank := by
  simp only [Clear, Tolerable, Report.errors, List.mem_filter, decide_eq_true_eq, and_true,
    or_assoc]
  constructor
  · rintro h issue ⟨hi, hs⟩
    exact (h issue hi).resolve_left (by simp [hs])
  · intro h issue hi
    cases hs : issue.finding.severity with
    | warning => exact .inl rfl
    | error => exact .inr (h issue ⟨hi, hs⟩)

/-- Of a definition without errors all issues are clear, though one tolerates nothing. -/
theorem clear_of_isOk {report : Report} (h : report.isOk = true) :
    Clear False False report.issues := by
  intro issue hi
  cases hs : issue.finding.severity with
  | warning => exact .inl hs
  | error =>
    have hmem : issue ∈ report.errors := List.mem_filter.2 ⟨hi, by simp [hs]⟩
    rw [List.isEmpty_iff.1 h] at hmem
    cases hmem

/-- Clear issues stay clear when more is tolerated. -/
theorem Clear.mono {lenient' blank' : Prop} {issues : List Issue} (hl : lenient → lenient')
    (hb : blank → blank') (h : Clear lenient blank issues) : Clear lenient' blank' issues := by
  intro issue hi
  rcases h issue hi with hwarning | ⟨hcode, hlenient⟩ | ⟨hcode, hblank⟩
  · exact .inl hwarning
  · exact .inr (.inl ⟨hcode, hl hlenient⟩)
  · exact .inr (.inr ⟨hcode, hb hblank⟩)

/-- A value without errors compiles. -/
theorem exists_compile_of_isOk {value : Json} (hok : (validate known value).isOk = true) :
    ∃ definition, Definition.compile value = .ok definition := by
  have hclear := clear_of_isOk hok
  unfold validate at hclear
  split at hclear
  · simp [Tolerable, Finding.severity, Finding.code] at hclear
  · next members hmembers =>
    cases Json.members?_eq_some_iff.1 hmembers
    exact (clear_checkMembers_iff_compile known members).1
      (hclear.mono False.elim False.elim)

/-- In a definition without errors every scalar is what a text was parsed to whose issues are
clear, though one tolerates nothing. -/
theorem clear_checkScalar_of_isOk {value : Json} {definition : Compiled}
    (hok : (validate known value).isOk = true) (h : Definition.compile value = .ok definition)
    {column : String × Node Rule} (hc : column ∈ definition.columns) {path : String} {rule : Rule}
    (hs : (path, rule) ∈ column.2.scalars (columnPath column.1)) :
    ∃ text, Rule.parse text = .ok rule ∧
      Clear False False (checkScalar known definition.columnNames text path) := by
  obtain ⟨members, columns, decoded, rfl, hget, hd, ht⟩ := Definition.compile_columns h
  have hclear := (clear_checkMembers_iff known members).1 (clear_of_isOk hok)
  obtain ⟨-, -, _, _, hget', -, hd', hscalars⟩ := hclear
  cases hget.symm.trans hget'
  cases hd.symm.trans hd'
  obtain ⟨text, htext, hparsed⟩ := Definition.exists_scalar_of_traverseColumns ht hc hs
  rw [Definition.columnNames_of_traverse hd ht]
  exact ⟨text, mapError_eq_ok.1 hparsed, hscalars _ htext⟩

/-- In a definition without errors, a placeholder whose key is no rule names one of the columns. -/
theorem columnOnly_declared {value : Json} {definition : Compiled}
    (hok : (validate known value).isOk = true) (h : Definition.compile value = .ok definition)
    {column : String × Node Rule} (hc : column ∈ definition.columns) {path : String}
    {segments : List Segment}
    (hs : (path, Rule.template segments) ∈ column.2.scalars (columnPath column.1)) {key : String}
    {error : RuleError} (hk : Segment.columnOnly key error ∈ segments) :
    key ∈ definition.columnNames := by
  obtain ⟨text, hparsed, hissues⟩ := clear_checkScalar_of_isOk known hok h hc hs
  rw [checkScalar, hparsed] at hissues
  have hsegment : Clear False False (checkSegment definition.columnNames path
      (.columnOnly key error)) := fun issue hi =>
    hissues issue (List.mem_flatMap.2 ⟨_, hk, hi⟩)
  exact ((clear_checkSegment_iff _ _ _).1 hsegment).resolve_left id _ _ rfl

/-- In a definition without errors, a text that is looked up is known, or what stands before its
first colon is. -/
theorem lookup_known {value : Json} {definition : Compiled}
    (hok : (validate known value).isOk = true) (h : Definition.compile value = .ok definition)
    {column : String × Node Rule} (hc : column ∈ definition.columns) {path text : String}
    (hs : (path, Rule.lookup text) ∈ column.2.scalars (columnPath column.1)) :
    known text = true ∨ ∀ head rest, Text.splitFirst ':' text.toList = some (head, rest) →
      known (String.ofList head) = true := by
  obtain ⟨written, hparsed, hissues⟩ := clear_checkScalar_of_isOk known hok h hc hs
  rw [checkScalar, hparsed] at hissues
  exact ((clear_checkLookup_iff known text path).1 hissues).resolve_left id

/-- **Validation and compilation agree.** A value compiles exactly when validation finds no errors
but those about a generator, about a placeholder, and about a table name of blanks only. In
particular a value without errors compiles. -/
theorem compile_ok_iff_errors (value : Json) :
    ((∃ definition, Definition.compile value = .ok definition) ↔
      ∀ issue ∈ (validate known value).errors,
        issue.finding.code = "unknown_generator" ∨ issue.finding.code = "invalid_placeholder" ∨
          issue.finding.code = "table_invalid" ∧
            ∃ table, value.member? "table" = some (.string table) ∧ table ≠ "" ∧
              Text.isAllBlank table.toList = true) ∧
    ((validate known value).isOk = true →
      ∃ definition, Definition.compile value = .ok definition) := by
  have hiff : (∃ definition, Definition.compile value = .ok definition) ↔
      ∀ issue ∈ (validate known value).errors,
        issue.finding.code = "unknown_generator" ∨ issue.finding.code = "invalid_placeholder" ∨
          issue.finding.code = "table_invalid" ∧
            ∃ table, value.member? "table" = some (.string table) ∧ table ≠ "" ∧
              Text.isAllBlank table.toList = true := by
    rw [← clear_issues_iff]
    cases hm : value.members? with
    | none =>
      have hno : ∀ members, value ≠ .object members := by
        rintro members rfl
        cases hm
      rw [compile_ok_iff]
      simp [validate, hm, Definition.decode_eq_ok_iff, hno, Tolerable, Finding.severity,
        Finding.code]
    | some members =>
      cases Json.members?_eq_some_iff.1 hm
      exact (clear_checkMembers_iff_compile known members).symm
  refine ⟨hiff, fun hok => hiff.2 fun issue hi => ?_⟩
  rw [List.isEmpty_iff.1 hok] at hi
  cases hi

/-- A definition with an array of choices has no errors, so it compiles. -/
theorem compile_ok_array_of_choices :
    let value : Json := .object [("table", .string "t"), ("count", .integer 2),
      ("columns", .object [("tags", .object [("type", .string "array"), ("min", .integer 0),
        ("max", .integer 3), ("items", .string "helpers.arrayElement:a:b")])])]
    (validate (fun _ => false) value).isOk = true ∧
      ∃ definition, Definition.compile value = .ok definition := by
  intro value
  have hok : (validate (fun _ => false) value).isOk = true := by decide +kernel
  exact ⟨hok, (compile_ok_iff_errors (fun _ => false) value).2 hok⟩

end Seedbed.Validation
