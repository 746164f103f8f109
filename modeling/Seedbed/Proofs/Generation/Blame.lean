import Seedbed.Proofs.Generation.Table
import Seedbed.Proofs.Rule.Template

/-!
# Where a failure points

A failure of a generation carries a table and the path of a scalar. `Scene.Culprit` says what that
scalar has to do with the failure: it holds a key that is neither a rule nor a column so far, it
relates to a table without rows, it counts from the column with the bad date, or a generator failed.
A scalar that was parsed is to blame for each of its failures (`culprit_of_fails`), so the failure
of a table always points at a scalar that converting the definition visits, and the pass is as it
was (`makeTable_failure_points`).
-/

namespace Seedbed

/-- A rule holds itself, and a template holds the rules of its placeholders. -/
inductive Rule.Holds : Rule → Rule → Prop
  | self (rule : Rule) : Holds rule rule
  | placeholder {segments : List Segment} {key : String} {rule : Rule}
    (mem : .placeholder key rule ∈ segments) : Holds (.template segments) rule

/-- A key that is no rule in a template that was parsed fails to parse as a text of its own. -/
theorem Rule.parse_key_of_columnOnly {text : String} {segments : List Segment}
    (hparsed : Rule.parse text = .ok (.template segments)) {key : String} {error : RuleError}
    (hmem : .columnOnly key error ∈ segments) : Rule.parse key = .error error := by
  obtain ⟨-, rfl⟩ := Rule.parseChars_eq_template_iff.1 hparsed
  have hsegment := Rule.eq_segmentOfKey hmem rfl
  unfold Rule.segmentOfKey at hsegment
  split at hsegment
  · cases hsegment
  · next hkey =>
    cases hsegment
    exact hkey

namespace Scene

/-- The rule of a scalar at a path is to blame for a failure, beside a row of some columns. -/
inductive Culprit (scene : Scene) (columns : List String) (path : String) (rule : Rule) :
    GenerationFailure → Prop
  | key {segments : List Segment} {key : String} {error : RuleError}
    (template : rule = .template segments) (mem : .columnOnly key error ∈ segments)
    (parsed : Rule.parse key = .error error) (late : key ∉ columns) :
    Culprit scene columns path rule (.rule scene.table path error)
  | relation {target column : String} (holds : rule.Holds (.relation target column))
    (empty : ¬scene.cache.Offers target) :
    Culprit scene columns path rule (.missingRelation scene.table path target)
  | date {column value : String} {minDays maxDays : Int}
    (holds : rule.Holds (.dateAfter column minDays maxDays)) :
    Culprit scene columns path rule (.invalidBaseDate scene.table path column value)
  | generator {cause : GeneratorFailure} (fails : scene.GeneratorFails cause) :
    Culprit scene columns path rule (.generator cause)

variable {scene : Scene} {columns : List String} {path : String} {row : Row} {rule : Rule}
  {failure : GenerationFailure}

/-! ## Rules -/

/-- A rule without placeholders is to blame for its failures, whatever the columns are. -/
theorem culprit_of_flat (hflat : rule.Flat) (h : scene.Fails path row rule failure) :
    scene.Culprit columns path rule failure := by
  cases rule with
  | template segments =>
    obtain ⟨text, rfl⟩ := hflat segments rfl
    simp only [Fails, FillFails] at h
  | relation target column =>
    obtain ⟨rfl, hempty⟩ := h
    exact .relation (.self _) hempty
  | dateAfter column minDays maxDays =>
    obtain ⟨value, rfl⟩ := h
    exact .date (.self _)
  | lookup text =>
    obtain ⟨cause, rfl, hfails⟩ := h
    exact .generator hfails
  | _ => exact h.elim

/-- A template is to blame for what the rule of a placeholder is to blame for. -/
theorem Culprit.of_placeholder {segments : List Segment} {key : String}
    (hmem : .placeholder key rule ∈ segments) (hflat : rule.Flat)
    (h : scene.Culprit columns path rule failure) :
    scene.Culprit columns path (.template segments) failure := by
  have hholds : ∀ {held}, (∀ parts, held ≠ .template parts) → rule.Holds held →
      (Rule.template segments).Holds held := by
    rintro held hplain (_ | hpart)
    · exact .placeholder hmem
    · obtain ⟨text, rfl⟩ := hflat _ rfl
      cases List.mem_singleton.1 hpart
  cases h with
  | key template mem parsed late =>
    obtain ⟨text, rfl⟩ := hflat _ template
    cases List.mem_singleton.1 mem
  | relation holds empty => exact .relation (hholds (fun _ he => by cases he) holds) empty
  | date holds => exact .date (hholds (fun _ he => by cases he) holds)
  | generator fails => exact .generator fails

/-- **A rule that was parsed is to blame for its failures**, beside the columns of its row. -/
theorem culprit_of_fails {text : String} (hparsed : Rule.parse text = .ok rule)
    (h : scene.Fails path row rule failure) :
    scene.Culprit (Fields.names row) path rule failure := by
  cases rule with
  | template segments =>
    rcases fillFails_iff.1 h with ⟨key, part, hmem, -, hpart⟩ | ⟨key, error, hmem, hnone, rfl⟩
    · have hflat := (Rule.segmentsFit_iff.1 (Rule.fit_of_parse hparsed) key part hmem).2
      exact (culprit_of_flat hflat hpart).of_placeholder hmem hflat
    · have hkey := Rule.parse_key_of_columnOnly hparsed hmem
      exact .key rfl hmem hkey (Fields.get?_eq_none_iff.1 hnone)
  | _ => exact culprit_of_flat (fun _ he => by cases he) h

/-! ## Tables -/

/-- What is to blame beside some columns is to blame beside fewer. -/
theorem Culprit.mono {fewer : List String} (hsub : ∀ name ∈ fewer, name ∈ columns)
    (h : scene.Culprit columns path rule failure) : scene.Culprit fewer path rule failure := by
  cases h with
  | key template mem parsed late =>
    exact .key template mem parsed fun hfewer => late (hsub _ hfewer)
  | relation holds empty => exact .relation holds empty
  | date holds => exact .date holds
  | generator fails => exact .generator fails

end Scene

/-- **A failure points at its culprit and changes nothing.** When the table of a compiled definition
is not made, the pass is as it was, with its cache. The failure is the fault of a scalar of the
definition: it names the table and the path at which converting the definition visits the scalar,
and a key that is to blame names no column before that of the scalar. -/
theorem makeTable_failure_points {value : Json} {definition : Compiled}
    (hcompile : Definition.compile value = .ok definition) (registry : Registry) (state : PassState)
    {failure : GenerationFailure}
    (hfails : (makeTable registry definition state).result = .error failure) :
    (makeTable registry definition state).state.pass = state.pass ∧
      ∃ before name tree after path rule, definition.columns = before ++ (name, tree) :: after ∧
        (path, rule) ∈ tree.scalars (columnPath name) ∧ (path, rule) ∈ definition.visited ∧
        (state.pass.scene registry definition.table).Culprit (Fields.names before) path rule
          failure := by
  obtain ⟨hfailsIn, hpass⟩ :=
    (ends_makeTable registry (Definition.fit_of_compile hcompile) state).of_error hfails
  obtain ⟨before, name, tree, after, made, hcolumns, hmade, ⟨path, rule⟩, hscalar, hrule⟩ :=
    hfailsIn
  have hcolumn : (name, tree) ∈ definition.columns := by simp [hcolumns]
  obtain ⟨text, hparsed⟩ := Definition.compile_scalar_parsed hcompile hcolumn hscalar
  refine ⟨hpass, before, name, tree, after, path, rule, hcolumns, hscalar, ?_, ?_⟩
  · rw [Definition.visited_eq_scalars]
    exact List.mem_flatMap.2 ⟨(name, tree), hcolumn, hscalar⟩
  · refine (Scene.culprit_of_fails hparsed hrule).mono fun column hbefore => ?_
    exact hmade.mem_names_iff.2 (.inr hbefore)

/-- The lines of an order, each with a price that another table should have. -/
def orderLines : Json :=
  .object [("table", .string "orders"), ("count", .integer 1), ("columns", .object [
    ("code", .string "string.numeric:4"),
    ("lines", .object [("type", .string "array"), ("count", .integer 2), ("items", .object [
      ("type", .string "object"), ("fields", .object [
        ("label", .string "line of ${code}"),
        ("price", .string "${number.int:1:1} x ${relation.prices.amount}")])])])])]

/-- Without prices the second field of the first line fails, and the failure points there. -/
theorem makeTable_failure_points_prices :
    let pass := Pass.start "acme" ⟨739069, by decide, by decide⟩
    let failure := GenerationFailure.missingRelation "orders"
      "$.columns.lines.items.properties.price" "prices"
    ∃ definition, Definition.compile orderLines = .ok definition ∧
      (makeTable Registry.empty definition ⟨pass, pass.source⟩).result = .error failure ∧
      (makeTable Registry.empty definition ⟨pass, pass.source⟩).state.pass = pass ∧
      ∃ before name tree after path rule, definition.columns = before ++ (name, tree) :: after ∧
        (path, rule) ∈ tree.scalars (columnPath name) ∧ (path, rule) ∈ definition.visited ∧
        (pass.scene Registry.empty definition.table).Culprit (Fields.names before) path rule
          failure := by
  intro pass failure
  let definition : Compiled := { table := "orders", count := .fixed 1, columns := [
    ("code", .scalar (.numeric 4)),
    ("lines", .array (.object [
      ("label", .scalar (.template [.literal "line of ",
        .placeholder "code" (.lookup "code")])),
      ("price", .scalar (.template [.placeholder "number.int:1:1" (.int 1 1), .literal " x ",
        .placeholder "relation.prices.amount" (.relation "prices" "amount")]))]) (.fixed 2))] }
  have hcompile : Definition.compile orderLines = .ok definition := rfl
  have hfails : (makeTable Registry.empty definition ⟨pass, pass.source⟩).result =
      .error failure := refusal?_eq_some_iff.1 (by decide +kernel)
  exact ⟨definition, hcompile, hfails,
    makeTable_failure_points hcompile Registry.empty ⟨pass, pass.source⟩ hfails⟩

end Seedbed
