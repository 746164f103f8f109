import Mathlib.Tactic.SplitIfs
import Seedbed.Validation.Check
import Seedbed.Proofs.Definition.Scalars

/-!
# The rule errors of a definition

Of all that validation finds, the errors about rules come from scalars only. `ruleErrors` picks them
from a list of issues, and for each part of a value they are the errors of the scalars of that part
(`ruleErrors_checkNode` and the lemmas around it): nothing that is wrong with a node hides or
repeats them. Compilation stops at the first scalar that is refused, so it stops at the first of
these errors (`bad_scalars_reported`).
-/

namespace Seedbed

/-- The error of a scalar that is no rule, with its path. -/
def badScalar? (scalar : String × String) : Option (String × RuleError) :=
  (refusal? (Rule.parse scalar.2)).map (scalar.1, ·)

/-- The errors of the scalars of columns that are no rules, in document order. -/
def badScalars (columns : Fields Json) : List (String × RuleError) :=
  (Json.columnScalars columns).filterMap badScalar?

/-! ## Picking the rule errors -/

/-- The error of a finding about a rule. -/
def Finding.ruleError? : Finding → Option RuleError
  | .invalidRule e => some e
  | _ => none

/-- A finding about a rule is known by its code. -/
theorem Finding.code_eq_invalid_rule_iff {finding : Finding} :
    finding.code = "invalid_rule" ↔ ∃ e, finding = .invalidRule e := by
  constructor
  · intro h
    cases finding with
    | invalidRule e => exact ⟨e, rfl⟩
    | _ => exact absurd h (by simp [code])
  · rintro ⟨e, rfl⟩
    rfl

/-- The findings about rules are those that report a rule which cannot be parsed. -/
theorem Finding.ruleError?_eq_some_iff {finding : Finding} {e : RuleError} :
    finding.ruleError? = some e ↔ finding = .invalidRule e := by
  cases finding <;> simp [ruleError?]

namespace Validation

open Decoder

/-- The errors about rules in a list of issues, with their paths. -/
def ruleErrors (issues : List Issue) : List (String × RuleError) :=
  issues.filterMap fun issue => issue.finding.ruleError?.map (issue.path, ·)

@[simp] theorem ruleErrors_nil : ruleErrors [] = [] := rfl

@[simp] theorem ruleErrors_append (issues others : List Issue) :
    ruleErrors (issues ++ others) = ruleErrors issues ++ ruleErrors others :=
  List.filterMap_append

@[simp] theorem ruleErrors_found (path : String) (finding : Finding) :
    ruleErrors (found path finding) = (finding.ruleError?.map (path, ·)).toList := by
  cases h : finding.ruleError? <;> simp [ruleErrors, found, h]

/-- The rule errors of issues that are gathered piece by piece are gathered in the same way. -/
theorem ruleErrors_flatMap {α : Type} (issues : α → List Issue) (list : List α) :
    ruleErrors (list.flatMap issues) = list.flatMap fun a => ruleErrors (issues a) :=
  List.filterMap_flatMap

/-- The errors of a report that have the code of rule errors are its rule errors. -/
theorem map_errors_eq (report : Report) :
    (report.errors.filter fun issue => issue.finding.code = "invalid_rule").map
        (fun issue => (issue.path, issue.finding.message)) =
      (ruleErrors report.issues).map fun bad => (bad.1, bad.2.message) := by
  rw [Report.errors, List.filter_filter, ruleErrors, List.map_filterMap]
  induction report.issues with
  | nil => rfl
  | cons issue rest ih =>
    obtain ⟨path, finding⟩ := issue
    by_cases hcode : finding.code = "invalid_rule"
    · obtain ⟨e, rfl⟩ := Finding.code_eq_invalid_rule_iff.1 hcode
      rw [List.filter_cons_of_pos (by rfl), List.map_cons, ih]
      rfl
    · have hnone : finding.ruleError? = none := Option.eq_none_iff_forall_ne_some.2 fun e he =>
        hcode (Finding.code_eq_invalid_rule_iff.2 ⟨e, Finding.ruleError?_eq_some_iff.1 he⟩)
      rw [List.filter_cons_of_neg (by simp [hcode]), List.filterMap_cons_none (by simp [hnone]), ih]

/-! ## Parts without rules -/

/-- A list of issues has no errors about rules when no issue in it is one. -/
theorem ruleErrors_eq_nil {issues : List Issue}
    (h : ∀ issue ∈ issues, issue.finding.ruleError? = none) : ruleErrors issues = [] :=
  List.filterMap_eq_nil_iff.2 fun issue hi => by rw [h issue hi, Option.map_none]

@[simp] theorem ruleErrors_unknownKeys (allowed : List String) (path : String)
    (members : Fields Json) : ruleErrors (unknownKeys allowed path members) = [] := by
  refine ruleErrors_eq_nil fun issue h => ?_
  obtain ⟨key, -, rfl⟩ := List.mem_map.1 h
  rfl

@[simp] theorem ruleErrors_checkTable (members : Fields Json) :
    ruleErrors (checkTable members) = [] := by
  unfold checkTable
  split
  · split_ifs <;> rfl
  · rfl
  · rfl

@[simp] theorem ruleErrors_checkCount (count : Json) : ruleErrors (checkCount count) = [] := by
  unfold checkCount
  split
  · rfl
  · split
    · rfl
    · split
      · split_ifs <;> rfl
      · rfl

@[simp] theorem ruleErrors_checkArrayCount (members : Fields Json) (path : String) :
    ruleErrors (checkArrayCount members path) = [] := by
  unfold checkArrayCount
  dsimp only
  rw [ruleErrors_append, List.append_eq_nil_iff]
  constructor
  · split
    · split_ifs <;> rfl
    · rfl
  · split
    · rw [ruleErrors_append, List.append_eq_nil_iff]
      constructor
      · split
        · split_ifs <;> rfl
        · rfl
      · split_ifs <;> rfl
    · rfl
    · rfl
    · split_ifs <;> rfl

/-! ## Scalars -/

section

variable (known : Catalog) (declared : List String)

@[simp] theorem ruleErrors_checkLookup (text path : String) :
    ruleErrors (checkLookup known text path) = [] := by
  unfold checkLookup
  split
  · rfl
  · split
    · dsimp only
      split_ifs <;> rfl
    · split_ifs <;> rfl

@[simp] theorem ruleErrors_checkSegment (path : String) (segment : Segment) :
    ruleErrors (checkSegment declared path segment) = [] := by
  unfold checkSegment
  split
  · split_ifs <;> rfl
  · rfl

/-- Examining a scalar finds an error about a rule when it is no rule. -/
theorem ruleErrors_checkScalar (text path : String) :
    ruleErrors (checkScalar known declared text path) = (badScalar? (path, text)).toList := by
  unfold checkScalar badScalar?
  split
  · next e he => simp [he, refusal?, Finding.ruleError?]
  · next segments he => simp [he, refusal?, ruleErrors_flatMap]
  · next looked he => simp [he, refusal?]
  · next column _ _ he =>
    rw [he]
    split_ifs <;> rfl
  · next rule _ _ _ he =>
    rw [he]
    rfl

/-! ## Nodes -/

mutual

/-- The errors about rules in a node are those of its scalars. -/
theorem ruleErrors_checkNode (path : String) : ∀ value : Json,
    ruleErrors (checkNode known declared path value) = (value.scalars path).filterMap badScalar?
  | .string text => by
    rw [checkNode, Json.scalars, ruleErrors_checkScalar]
    cases h : badScalar? (path, text) <;> simp [h]
  | .object members => by
    unfold checkNode
    split
    · next htype =>
      rw [Json.scalars_of_array htype, ruleErrors_append, ruleErrors_append,
        ruleErrors_unknownKeys, ruleErrors_checkArrayCount, List.nil_append, List.append_nil]
      exact ruleErrors_checkItems path members
    · next htype =>
      rw [ruleErrors_append, ruleErrors_unknownKeys, List.nil_append]
      split
      · next key hone =>
        have hc : container? members = some key := by rw [container?, hone]
        rw [Json.scalars_of_object htype hc]
        exact ruleErrors_checkContainer path key members
      · next hnone =>
        have hc : container? members = none := by rw [container?, hnone]
        rw [Json.scalars_of_no_container htype hc]
        rfl
      · next hone _ =>
        rw [Json.scalars_of_no_container htype (container?_eq_none hone)]
        rfl
    · next harray hobject =>
      rw [Json.scalars_of_other harray hobject]
      rfl
  | .null | .bool _ | .integer _ | .real _ | .array _ => by
    rw [checkNode.eq_def, Json.scalars.eq_def]
    rfl

/-- The errors about rules in the items of an array are those of their scalars. -/
theorem ruleErrors_checkItems (path : String) : ∀ members : List (String × Json),
    ruleErrors (checkItems known declared path members) =
      (Json.itemScalars path members).filterMap badScalar?
  | [] => rfl
  | (name, value) :: rest => by
    rw [checkItems, Json.itemScalars]
    split_ifs
    · exact ruleErrors_checkNode (itemsPath path) value
    · exact ruleErrors_checkItems path rest

/-- The errors about rules in the container of an object are those of its scalars. -/
theorem ruleErrors_checkContainer (path key : String) : ∀ members : List (String × Json),
    ruleErrors (checkContainer known declared path key members) =
      (Json.containerScalars path key members).filterMap badScalar?
  | [] => rfl
  | (name, value) :: rest => by
    unfold checkContainer Json.containerScalars
    split_ifs
    · cases value with
      | object properties => exact ruleErrors_checkProperties path properties
      | _ => rfl
    · exact ruleErrors_checkContainer path key rest

/-- The errors about rules in properties are those of their scalars. -/
theorem ruleErrors_checkProperties (path : String) : ∀ members : List (String × Json),
    ruleErrors (checkProperties known declared path members) =
      (Json.propertyScalars path members).filterMap badScalar?
  | [] => rfl
  | (name, value) :: rest => by
    rw [checkProperties, Json.propertyScalars, ruleErrors_append, List.filterMap_append,
      ruleErrors_checkNode (propertyPath path name) value, ruleErrors_checkProperties path rest]

end

end

/-! ## Definitions -/

/-- The errors about rules in a definition are those of the scalars of its columns. -/
theorem ruleErrors_validate (known : Catalog) {members columns : Fields Json}
    (h : Fields.get? "columns" members = some (.object columns)) :
    ruleErrors (validate known (.object members)).issues = badScalars columns := by
  have hcolumns : ruleErrors (checkColumns known members) = badScalars columns := by
    unfold checkColumns
    rw [h]
    cases columns with
    | nil => rfl
    | cons column rest =>
      simp only [ruleErrors_flatMap, ruleErrors_checkNode, badScalars, Json.columnScalars,
        List.filterMap_flatMap]
  show ruleErrors (checkMembers known members) = badScalars columns
  rw [checkMembers, ruleErrors_append, ruleErrors_append, ruleErrors_append, hcolumns,
    ruleErrors_checkTable, List.append_nil, List.append_left_eq_self, List.append_eq_nil_iff]
  constructor
  · refine ruleErrors_eq_nil fun issue hi => ?_
    obtain ⟨key, -, rfl⟩ := List.mem_map.1 hi
    rfl
  · split
    · rfl
    · exact ruleErrors_checkCount _

end Validation

/-! ## Compilation -/

/-- Parsing a scalar at its path stops when it is no rule. -/
theorem refusal?_parseAt (scalar : String × String) :
    refusal? (parseAt scalar.1 scalar.2) =
      (badScalar? scalar).map fun bad => CompileError.rule bad.1 bad.2 := by
  rw [parseAt, refusal?_mapError, badScalar?, Option.map_map]
  rfl

/-- What compiling refuses over a rule was decoded, and its scalars are those of the value. -/
theorem Definition.exists_decoded_of_compile {members columns : Fields Json} {path : String}
    {e : RuleError} (hcolumns : Fields.get? "columns" members = some (.object columns))
    (h : compile (.object members) = .error (.rule path e)) :
    ∃ decoded : Definition String, decoded.scalars = Json.columnScalars columns ∧
      decoded.traverse parseAt = .error (.rule path e) := by
  rw [compile] at h
  cases hdecode : decode (.object members) with
  | error shape =>
    rw [hdecode] at h
    cases h
  | ok decoded =>
    rw [hdecode] at h
    obtain ⟨_, _, columns', hvalue, -, -, -, -, hget, -, hdecoded⟩ := decode_eq_ok_iff.1 hdecode
    cases hvalue
    cases hcolumns.symm.trans hget
    exact ⟨decoded, Decoder.scalars_of_decodeColumns hdecoded, h⟩

/-- Compiling that fails over a rule fails over the first scalar that is no rule. -/
theorem head?_badScalars_of_compile {members columns : Fields Json} {path : String} {e : RuleError}
    (hcolumns : Fields.get? "columns" members = some (.object columns))
    (h : Definition.compile (.object members) = .error (.rule path e)) :
    (badScalars columns).head? = some (path, e) := by
  obtain ⟨decoded, hscalars, hstop⟩ := Definition.exists_decoded_of_compile hcolumns h
  have hfirst : ((badScalars columns).head?.map fun bad => CompileError.rule bad.1 bad.2) =
      some (.rule path e) := by
    rw [badScalars, List.head?_filterMap, List.map_findSome?, ← hscalars,
      ← refusal?_eq_some_iff.2 hstop, Definition.refusal?_traverse]
    exact congrArg (List.findSome? · _) (funext fun scalar => (refusal?_parseAt scalar).symm)
  obtain ⟨bad, hbad, hrule⟩ := Option.map_eq_some_iff.1 hfirst
  cases hrule
  exact hbad

/-- **Bad scalars are reported once each and in order.** When a definition has columns, the errors
about rules that validation lists, with their paths and messages, are those of the scalars that are
no rules, in document order; compilation, when it fails over a rule, fails over the first of them.
A scalar counts when it is reached from a column through items and containers, whatever else is
wrong there. -/
theorem bad_scalars_reported {members columns : Fields Json}
    (hcolumns : Fields.get? "columns" members = some (.object columns)) :
    (∀ known, ((validate known (.object members)).errors.filter fun issue =>
        issue.finding.code = "invalid_rule").map (fun issue =>
          (issue.path, issue.finding.message)) =
      (badScalars columns).map fun bad => (bad.1, bad.2.message)) ∧
    (∀ path e, Definition.compile (.object members) = .error (.rule path e) →
      (badScalars columns).head? = some (path, e)) ∧
    ∀ scalar, scalar ∈ Json.columnScalars columns ↔
      ∃ column ∈ columns, Json.Reaches (columnPath column.1) column.2 scalar := by
  refine ⟨fun known => ?_, fun path e => head?_badScalars_of_compile hcolumns, fun scalar => ?_⟩
  · rw [Validation.map_errors_eq, Validation.ruleErrors_validate known hcolumns]
  · simp only [Json.columnScalars, List.mem_flatMap, Json.mem_scalars_iff]

/-- Two bad scalars, one of them below items under fields: both are listed, with their own paths,
and the first one fails the definition. -/
theorem bad_scalars_reported_below_items :
    let columns : Fields Json := [
      ("notes", .object [("type", .string "array"), ("count", .integer 2),
        ("items", .object [("type", .string "object"), ("fields", .object [
          ("code", .string "number.int:9:1"), ("kind", .string "on hold")])])]),
      ("author", .string "context.user")]
    let members : Fields Json :=
      [("table", .string "notes"), ("count", .integer 1), ("columns", .object columns)]
    let path := "$.columns.notes.items.properties.code"
    let e := RuleError.invertedRange "number.int:9:1"
    Fields.get? "columns" members = some (.object columns) ∧
      ((validate (fun _ => false) (.object members)).errors.filter fun issue =>
          issue.finding.code = "invalid_rule").map (fun issue =>
            (issue.path, issue.finding.message)) =
        [(path, e.message),
          ("$.columns.author", (RuleError.unknownContextField "context.user").message)] ∧
      Definition.compile (.object members) = .error (.rule path e) ∧
      (badScalars columns).head? = some (path, e) := by
  intro columns members path e
  have hcolumns : Fields.get? "columns" members = some (.object columns) := rfl
  have hcompile : Definition.compile (.object members) = .error (.rule path e) := rfl
  have hreported := bad_scalars_reported hcolumns
  exact ⟨hcolumns, hreported.1 (fun _ => false), hcompile, hreported.2.1 path e hcompile⟩

end Seedbed
