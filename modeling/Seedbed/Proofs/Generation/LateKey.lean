import Seedbed.Proofs.Definition.Agreement
import Seedbed.Proofs.Generation.Table

/-!
# Placeholders that name a later column

A placeholder whose key is no rule stands for a column. Validation asks that the column is declared,
anywhere in the definition; evaluation sees the columns before its own only. Making the rows of a
definition without errors therefore fails on rule text because of a late key and of nothing else: a
key whose column is declared, but not before the column of the template (`Definition.LateKey`). A
definition that cannot do without a late key never has a row.
-/

namespace Seedbed

namespace Scene

variable {scene : Scene} {path : String} {row : Row}

/-! ## Templates -/

/-- A rule without placeholders never fails on rule text. -/
theorem ne_rule_of_fails {rule : Rule} (hflat : rule.Flat) {failure : GenerationFailure}
    (h : scene.Fails path row rule failure) (table path' : String) (error : RuleError) :
    failure ≠ .rule table path' error := by
  rintro rfl
  cases rule with
  | template segments =>
    obtain ⟨text, rfl⟩ := hflat segments rfl
    simp only [Fails, FillFails] at h
  | relation target column =>
    obtain ⟨h, -⟩ := h
    cases h
  | dateAfter column minDays maxDays =>
    obtain ⟨value, h⟩ := h
    cases h
  | lookup text =>
    obtain ⟨e, h, -⟩ := h
    cases h
  | _ => exact h

/-- A template fails on rule text because of a key that is no rule and no column of the row. -/
theorem columnOnly_of_fillFails {segments : List Segment} (hfit : Rule.SegmentsFit segments)
    {table path' : String} {error : RuleError}
    (h : scene.FillFails path row segments (.rule table path' error)) :
    table = scene.table ∧ path' = path ∧
      ∃ key, .columnOnly key error ∈ segments ∧ key ∉ Fields.names row := by
  rcases fillFails_iff.1 h with ⟨key, rule, hk, -, hfails⟩ | ⟨key, error', hk, hnone, he⟩
  · have hflat := (Rule.segmentsFit_iff.1 hfit key rule hk).2
    exact absurd rfl (ne_rule_of_fails hflat hfails table path' error)
  · cases he
    exact ⟨rfl, rfl, key, hk, Fields.get?_eq_none_iff.1 hnone⟩

/-- A template that was filled found a column for each key that is no rule. -/
theorem mem_names_of_fills {segments : List Segment} {text : String}
    (h : scene.Fills row segments text) {key : String} {error : RuleError}
    (hk : .columnOnly key error ∈ segments) : key ∈ Fields.names row := by
  induction segments generalizing text with
  | nil => cases hk
  | cons segment rest ih =>
    cases segment with
    | literal literal =>
      obtain ⟨tail, -, h⟩ := h
      exact ih h (List.mem_of_ne_of_mem (by simp) hk)
    | placeholder key' rule =>
      obtain ⟨value, tail, -, h, -⟩ := h
      exact ih h (List.mem_of_ne_of_mem (by simp) hk)
    | columnOnly key' error' =>
      obtain ⟨value, tail, -, h, hget⟩ := h
      rcases List.mem_cons.1 hk with he | hk
      · cases he
        by_contra hn
        rw [Fields.get?_eq_none_iff.2 hn] at hget
        cases hget
      · exact ih h hk

end Scene

namespace Node

/-! ## Scalars of every value -/

mutual

/-- A tree has a scalar with a property in each of its values: one that is in no array that may be
empty. -/
def Always (p : Rule → Prop) : Node Rule → Prop
  | scalar rule => p rule
  | array items count => 0 < count.bounds.1 ∧ Always p items
  | object properties => PropertiesAlways p properties

/-- `Always` of one of the properties of an object. -/
def PropertiesAlways (p : Rule → Prop) : List (String × Node Rule) → Prop
  | [] => False
  | (_, tree) :: rest => Always p tree ∨ PropertiesAlways p rest

end

variable {p : String → Rule → Json → Prop} {q : Rule → Prop}

mutual

/-- A tree with a scalar in each of its values has no value when that scalar has none. -/
theorem not_yields_of_always (hq : ∀ path rule value, q rule → ¬p path rule value) (path : String) :
    ∀ {tree : Node Rule} {value : Json}, tree.Always q → ¬tree.Yields p path value
  | scalar rule, value, h, hy => hq path rule value h hy
  | array items count, value, h, hy => by
    obtain ⟨values, -, ⟨hmin, -⟩, hall⟩ := hy
    cases values with
    | nil => exact absurd h.1 (Nat.not_lt.2 hmin)
    | cons item rest =>
      exact not_yields_of_always hq (itemsPath path) h.2 (hall item (List.mem_cons_self ..))
  | object properties, value, h, hy => by
    obtain ⟨members, -, hm⟩ := hy
    exact not_propertiesYield_of_always hq path h hm

/-- `not_yields_of_always` for properties. -/
theorem not_propertiesYield_of_always (hq : ∀ path rule value, q rule → ¬p path rule value)
    (path : String) : ∀ {properties : List (String × Node Rule)} {members : Row},
    PropertiesAlways q properties → ¬PropertiesYield p path properties members
  | [], _, h, _ => h
  | (name, tree) :: rest, members, h, hy => by
    obtain ⟨value, others, -, hv, ho⟩ := hy
    rcases h with h | h
    · exact not_yields_of_always hq (propertyPath path name) h hv
    · exact not_propertiesYield_of_always hq path h ho

end

end Node

namespace Definition

/-! ## Late keys -/

/-- A rule is a template with a key that is no rule and none of some names. -/
def NeedsKeyBeyond (names : List String) (rule : Rule) : Prop :=
  ∃ segments key error, rule = .template segments ∧ .columnOnly key error ∈ segments ∧ key ∉ names

/-- The template at a path has a key that is not the rule it looks like, for the reason `error`, and
whose column is declared, but not before the column of the template. -/
def LateKey (definition : Compiled) (path : String) (error : RuleError) : Prop :=
  ∃ before name tree after segments key, definition.columns = before ++ (name, tree) :: after ∧
    (path, .template segments) ∈ tree.scalars (columnPath name) ∧
    .columnOnly key error ∈ segments ∧ key ∈ definition.columnNames ∧ key ∉ Fields.names before

/-- A column has a template with a late key in each of its values. -/
def AlwaysLate (definition : Compiled) : Prop :=
  ∃ before name tree after, definition.columns = before ++ (name, tree) :: after ∧
    tree.Always (NeedsKeyBeyond (Fields.names before))

end Definition

variable {registry : Registry} {value : Json} {definition : Compiled}

/-- Without errors in its definition, a table fails on rule text because of a late key. -/
theorem lateKey_of_failsIn {scene : Scene}
    (hok : (validate registry.knows value).isOk = true)
    (hcompile : Definition.compile value = .ok definition) {table path : String} {error : RuleError}
    (h : scene.FailsIn definition (.rule table path error)) :
    table = scene.table ∧ definition.LateKey path error := by
  have hfit := Definition.fit_of_compile hcompile
  obtain ⟨before, name, tree, after, made, he, hmade, ⟨path', rule⟩, hs, hfails⟩ := h
  have hmem : (name, tree) ∈ definition.columns := by simp [he]
  cases rule with
  | template segments =>
    obtain ⟨ht, rfl, key, hk, hn⟩ :=
      Scene.columnOnly_of_fillFails (hfit.rules _ hmem _ hs) hfails
    refine ⟨ht, before, name, tree, after, segments, key, he, hs, hk, ?_, fun hb => hn ?_⟩
    · exact Validation.columnOnly_declared registry.knows hok hcompile hmem hs hk
    · exact hmade.mem_names_iff.2 (.inr hb)
  | _ =>
    refine absurd rfl (Scene.ne_rule_of_fails (fun segments h => ?_) hfails table path error)
    cases h

/-- No row is made of a definition that has a late key in each value of a column. -/
theorem not_made_of_alwaysLate {scene : Scene} (h : definition.AlwaysLate) (row : Row) :
    ¬scene.Made definition row := by
  intro hmade
  obtain ⟨before, name, tree, after, he, halways⟩ := h
  rw [Scene.Made, he] at hmade
  obtain ⟨upTo, value, hupTo, hvalue, -⟩ := hmade.split
  refine Node.not_yields_of_always (fun path rule value hneeds hmakes => ?_) _ halways hvalue
  obtain ⟨segments, key, error, rfl, hk, hn⟩ := hneeds
  obtain ⟨text, -, hfills⟩ := hmakes
  have hnames := hupTo.mem_names_iff.1 (Scene.mem_names_of_fills hfills hk)
  exact hnames.elim List.not_mem_nil hn

/-- **Failures on rule text.** Making the rows of a definition without errors fails on rule text
only because of a late key; so it never does when each key that is no rule names a column before
its own. A definition that has a late key in each value of a column has no rows at all. -/
theorem makeTable_rule_failure (hok : (validate registry.knows value).isOk = true)
    (hcompile : Definition.compile value = .ok definition) :
    (∀ state table path error,
      (makeTable registry definition state).result = .error (.rule table path error) →
        table = definition.table ∧ definition.LateKey path error) ∧
    ((∀ path error, ¬definition.LateKey path error) → ∀ state table path error,
      (makeTable registry definition state).result ≠ .error (.rule table path error)) ∧
    (definition.AlwaysLate → ∀ state rows,
      (makeTable registry definition state).result = .ok rows → rows = []) := by
  have hends := ends_makeTable registry (Definition.fit_of_compile hcompile)
  have hlate : ∀ state table path error,
      (makeTable registry definition state).result = .error (.rule table path error) →
        table = definition.table ∧ definition.LateKey path error := by
    intro state table path error hr
    exact lateKey_of_failsIn hok hcompile ((hends state).of_error hr).1
  refine ⟨hlate, fun hnone state table path error hr => ?_, fun halways state rows hr => ?_⟩
  · exact hnone path error (hlate state table path error hr).2
  · refine List.eq_nil_iff_forall_not_mem.2 fun row hrow => ?_
    exact not_made_of_alwaysLate halways row (((hends state).of_ok hr).1.2 row hrow)

/-- A definition of one row whose label is made from a column, which is declared before or behind
it. -/
def labelled (columns : Fields Json) : Json :=
  .object [("table", .string "t"), ("count", .integer 1), ("columns", .object columns)]

/-- With the column before its template, no generation fails on rule text. -/
theorem makeTable_rule_failure_earlier_column :
    let value := labelled
      [("relation.x", .string "Acme"), ("label", .string "$\x7brelation.x\x7d Group")]
    (validate Registry.empty.knows value).isOk = true ∧
    ∃ definition, Definition.compile value = .ok definition ∧
      (∀ path error, ¬definition.LateKey path error) ∧ ∀ state table path error,
        (makeTable Registry.empty definition state).result ≠ .error (.rule table path error) := by
  intro value
  have hok : (validate Registry.empty.knows value).isOk = true := by decide +kernel
  have hcompile : Definition.compile value = .ok
      { table := "t", count := .fixed 1, columns := [("relation.x", .scalar (.lookup "Acme")),
        ("label", .scalar (.template [.columnOnly "relation.x" (.invalidRelation "relation.x"),
          .literal " Group"]))] } := rfl
  refine ⟨hok, _, hcompile, ?hnone, (makeTable_rule_failure hok hcompile).2.1 ?hnone⟩
  rintro path error ⟨before, name, tree, after, segments, key, he, hs, hk, -, hn⟩
  rcases before with _ | ⟨first, _ | ⟨second, rest⟩⟩
  · cases he
    simp [Node.scalars] at hs
  · cases he
    simp only [Node.scalars, List.mem_singleton, Prod.mk.injEq, Rule.template.injEq] at hs
    obtain ⟨-, rfl⟩ := hs
    obtain ⟨rfl, -⟩ : key = "relation.x" ∧ error = .invalidRelation "relation.x" := by
      simpa using hk
    exact hn (by simp [Fields.names])
  · simp at he

/-- **A column behind its template is not seen.** The definition has no errors, and every generation
of its rows fails on the text of the placeholder. -/
theorem rule_failure_of_later_column :
    let value := labelled
      [("label", .string "$\x7brelation.x\x7d Group"), ("relation.x", .string "Acme")]
    (validate Registry.empty.knows value).isOk = true ∧
    ∃ definition, Definition.compile value = .ok definition ∧ ∀ state,
      (makeTable Registry.empty definition state).result =
        .error (.rule "t" "$.columns.label" (.invalidRelation "relation.x")) := by
  intro value
  refine ⟨by decide +kernel, _, rfl, fun state => ?_⟩
  have hcount : (Random.Draw.count 1 1 state.source).1 = 1 := by
    have hbounds := Random.Draw.count_bounds (Nat.le_refl 1) (by decide) state.source
    omega
  have hends : (makeTable Registry.empty
      { table := "t", count := .fixed 1, columns := [("label", .scalar (.template
          [.columnOnly "relation.x" (.invalidRelation "relation.x"), .literal " Group"])),
        ("relation.x", .scalar (.lookup "Acme"))] }).Ends state (fun _ _ => False)
      fun e _ => e = .rule "t" "$.columns.label" (.invalidRelation "relation.x") := by
    simp only [makeTable, Scene.rows, Count.bounds, hcount, Work.repeated_succ, Scene.columns,
      Scene.node, Scene.scalar, Scene.fill, Fields.get?, Work.ends_bind, Work.ends_state,
      Work.ends_on, Work.ends_ofState, Work.ends_note, Work.ends_fail]
    rfl
  cases hr : (makeTable Registry.empty _ state).result with
  | ok rows => exact (hends.of_ok hr).elim
  | error e => rw [hends.of_error hr]

end Seedbed
