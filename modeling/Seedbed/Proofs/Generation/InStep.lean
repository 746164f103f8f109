import Seedbed.Proofs.Generation.Alike
import Seedbed.Proofs.Generator.Days
import Seedbed.Proofs.InStep

/-!
# Making a table twice

Two passes of a tenant need not make the same rows: relations copy ids that a store has given out,
and dates count from the day. But they draw alike. What a rule draws depends on which columns a row
has and on how many rows a table has, and never on the values in them, so two scenes whose caches
have rows with the same columns make as many rows of a table, which have the same columns again
(`Scene.rows_inStep`). So passes that are in step stay so (`makeTable_inStep`).
-/

namespace Seedbed

/-! ## Columns -/

/-- Two rows have the same columns in the same order. -/
def SameColumns (row other : Row) : Prop :=
  Fields.names row = Fields.names other

variable {row other : Row}

/-- A row has the same columns as itself. -/
theorem SameColumns.refl (row : Row) : SameColumns row row := rfl

/-- Two rows with the same columns both have a column or both do not. -/
theorem SameColumns.get? (h : SameColumns row other) (name : String) :
    (∃ value value', Fields.get? name row = some value ∧ Fields.get? name other = some value') ∨
      Fields.get? name row = none ∧ Fields.get? name other = none := by
  have hiff : Fields.get? name row = none ↔ Fields.get? name other = none := by
    rw [Fields.get?_eq_none_iff, Fields.get?_eq_none_iff, h]
  cases hrow : Fields.get? name row with
  | none => exact .inr ⟨rfl, hiff.1 hrow⟩
  | some value =>
    cases hother : Fields.get? name other with
    | none => exact absurd (hiff.2 hother) (by simp [hrow])
    | some value' => exact .inl ⟨value, value', rfl, rfl⟩

/-- Two rows keep having the same columns when a column is set in both. -/
theorem SameColumns.put (h : SameColumns row other) (name : String) (value value' : Json) :
    SameColumns (Fields.put name value row) (Fields.put name value' other) := by
  unfold SameColumns at h ⊢
  rw [Fields.names_put, Fields.names_put, h]

/-! ## Scenes -/

/-- Two scenes have the same generators, which draw alike on their days, and the rows in their
caches have the same columns. -/
structure Scene.InStep (left right : Scene) : Prop where
  registry_eq : left.registry = right.registry
  draws : left.registry.DrawsAlike left.today right.today
  cache : left.cache.Related SameColumns right.cache

namespace Scene

variable {left right : Scene} {path : String}

/-- A relation picks the same row in both scenes. -/
theorem relation_inStep (h : left.InStep right) (table column path : String) :
    Work.InStep Eq (fun _ _ => True) (left.relation table column path)
      (right.relation table column path) := by
  refine .bind (.ofState fun source => h.cache.pick? table source) fun picked picked' hpicked => ?_
  cases hpicked with
  | none => exact .fail_left _
  | some hsame =>
    rcases hsame.get? column with ⟨value, value', hvalue, hvalue'⟩ | ⟨hnone, hnone'⟩
    · simp only [hvalue, hvalue']
      exact .pure trivial
    · simp only [hnone, hnone']
      exact .bind (.note _ _) fun _ _ _ => .pure trivial

/-- A date after another one takes one draw, from whichever date it counts. -/
theorem dateAfter_inStep (column : String) (minDays maxDays : Int) :
    Work.InStep Eq (fun _ _ => True) (left.dateAfter column minDays maxDays path row)
      (right.dateAfter column minDays maxDays path other) := by
  refine .bind (.ofExcept _ _) fun base base' _ => ?_
  refine .bind (.refl _) fun days _ hdays => ?_
  subst hdays
  cases base.addDays? days with
  | none => exact .fail_left _
  | some date =>
    cases base'.addDays? days with
    | none => exact .fail_right _
    | some date' => exact .pure trivial

/-- A generator draws alike in both scenes. -/
theorem generate_inStep {generator : Generator}
    (h : generator.DrawsAlike left.today right.today) (arguments : List String) :
    Work.InStep Eq (fun _ _ => True) (left.generate generator arguments)
      (right.generate generator arguments) :=
  .mapError (.ofFallible fun source => h arguments source) _ _

/-- A text stands for the same generator in both scenes. -/
theorem lookup_inStep (h : left.InStep right) (text : String) :
    Work.InStep Eq (fun _ _ => True) (left.lookup text) (right.lookup text) := by
  unfold lookup
  rw [← h.registry_eq]
  cases hfind : left.registry.find? text with
  | some generator => exact generate_inStep (h.draws.find? hfind) _
  | none =>
    cases hsplit : Text.splitFirst ':' text.toList with
    | none => exact .pure trivial
    | some parts =>
      cases hhead : left.registry.find? (String.ofList parts.1) with
      | none =>
        simp only [hhead]
        exact .pure trivial
      | some generator =>
        simp only [hhead]
        exact generate_inStep (h.draws.find? hhead) _

mutual

/-- **A rule draws alike** in both scenes, beside rows with the same columns. -/
theorem scalar_inStep (h : left.InStep right) (hrow : SameColumns row other) : ∀ rule : Rule,
    Work.InStep Eq (fun _ _ => True) (left.scalar path row rule) (right.scalar path other rule)
  | .template segments => by
    rw [scalar, scalar]
    exact .bind (fill_inStep h hrow segments) fun _ _ _ => .pure trivial
  | .tenantId => by
    rw [scalar, scalar]
    exact .pure trivial
  | .relation table column => by
    rw [scalar, scalar]
    exact relation_inStep h table column path
  | .choice candidates => by
    rw [scalar, scalar]
    exact (Work.InStep.refl _).mono fun _ _ _ => trivial
  | .int min max => by
    rw [scalar, scalar]
    exact (Work.InStep.refl _).mono fun _ _ _ => trivial
  | .float min max places => by
    rw [scalar, scalar]
    exact (Work.InStep.refl _).mono fun _ _ _ => trivial
  | .amount min max places => by
    rw [scalar, scalar]
    exact (Work.InStep.refl _).mono fun _ _ _ => trivial
  | .dateBetween first last => by
    rw [scalar, scalar]
    exact (Work.InStep.refl _).mono fun _ _ _ => trivial
  | .dateAfter column minDays maxDays => by
    rw [scalar, scalar]
    exact dateAfter_inStep column minDays maxDays
  | .numeric length => by
    rw [scalar, scalar]
    exact (Work.InStep.refl _).mono fun _ _ _ => trivial
  | .lookup text => by
    rw [scalar, scalar]
    exact lookup_inStep h text

/-- `scalar_inStep` for the segments of a template. -/
theorem fill_inStep (h : left.InStep right) (hrow : SameColumns row other) :
    ∀ segments : List Segment,
      Work.InStep Eq (fun _ _ => True) (left.fill path row segments)
        (right.fill path other segments)
  | [] => by
    rw [fill, fill]
    exact .pure trivial
  | .literal text :: rest => by
    rw [fill, fill]
    exact .bind (fill_inStep h hrow rest) fun _ _ _ => .pure trivial
  | .placeholder key rule :: rest => by
    have hrest := fill_inStep h hrow rest
    rw [fill, fill]
    -- Whether the column or the rule gives the value is the same on both sides.
    rcases hrow.get? key with ⟨value, value', hvalue, hvalue'⟩ | ⟨hnone, hnone'⟩
    · simp only [hvalue, hvalue', pure_bind]
      exact .bind hrest fun _ _ _ => .pure trivial
    · simp only [hnone, hnone']
      exact .bind (scalar_inStep h hrow rule) fun _ _ _ =>
        .bind hrest fun _ _ _ => .pure trivial
  | .columnOnly key error :: rest => by
    have hrest := fill_inStep h hrow rest
    rw [fill, fill]
    rcases hrow.get? key with ⟨value, value', hvalue, hvalue'⟩ | ⟨hnone, hnone'⟩
    · simp only [hvalue, hvalue', pure_bind]
      exact .bind hrest fun _ _ _ => .pure trivial
    · simp only [hnone, hnone']
      have hfail : Work.InStep Eq (fun _ _ => True)
          (Work.fail (.rule left.table path error) : Making Json)
          (Work.fail (.rule right.table path error) : Making Json) := .fail_left _
      exact .bind hfail fun _ _ _ => .bind hrest fun _ _ _ => .pure trivial

end

mutual

/-- A tree of rules draws alike in both scenes; an array gets as many items. -/
theorem node_inStep (h : left.InStep right) (hrow : SameColumns row other) (path : String) :
    ∀ tree : Node Rule,
      Work.InStep Eq (fun _ _ => True) (left.node path row tree) (right.node path other tree)
  | .scalar rule => by
    rw [node, node]
    exact scalar_inStep h hrow rule
  | .array items count => by
    rw [node, node]
    refine .bind (.refl _) fun n _ hn => ?_
    subst hn
    exact .bind (.repeated (node_inStep h hrow (itemsPath path) items) n) fun _ _ _ => .pure trivial
  | .object properties => by
    rw [node, node]
    exact .bind (members_inStep h hrow path properties) fun _ _ _ => .pure trivial

/-- `node_inStep` for the properties of an object. -/
theorem members_inStep (h : left.InStep right) (hrow : SameColumns row other) (path : String) :
    ∀ properties : List (String × Node Rule),
      Work.InStep Eq (fun _ _ => True) (left.members path row properties)
        (right.members path other properties)
  | [] => by
    rw [members, members]
    exact .pure trivial
  | (name, tree) :: rest => by
    rw [members, members]
    exact .bind (node_inStep h hrow (propertyPath path name) tree) fun _ _ _ =>
      .bind (members_inStep h hrow path rest) fun _ _ _ => .pure trivial

end

/-- The columns behind rows with the same columns draw alike and have the same names. -/
theorem columns_inStep (h : left.InStep right) (hrow : SameColumns row other)
    (columns : Fields (Node Rule)) :
    Work.InStep Eq SameColumns (left.columns row columns) (right.columns other columns) := by
  induction columns generalizing row other with
  | nil => exact .pure hrow
  | cons column rest ih =>
    obtain ⟨name, tree⟩ := column
    refine .bind (node_inStep h hrow (columnPath name) tree) fun value value' _ => ?_
    exact ih (hrow.put name value value')

/-- **The rows of a table** are as many in both scenes and have the same columns. -/
theorem rows_inStep (h : left.InStep right) (definition : Compiled) :
    Work.InStep Eq (List.Forall₂ SameColumns) (left.rows definition) (right.rows definition) := by
  refine .bind (.refl _) fun n _ hn => ?_
  subst hn
  refine .bind (.note _ _) fun _ _ _ => ?_
  have hcolumns := columns_inStep h (.refl []) definition.columns
  exact .bind (hcolumns.repeated n) fun _ _ hrows => .bind (.note _ _) fun _ _ _ => .pure hrows

end Scene

/-! ## Passes -/

/-- Two passes have the same source, the generators draw alike on their days, and the rows in their
caches have the same columns. -/
structure PassState.InStep (registry : Registry) (left right : PassState) : Prop where
  source_eq : left.source = right.source
  draws : registry.DrawsAlike left.pass.today right.pass.today
  cache : left.pass.cache.Related SameColumns right.pass.cache

/-- **Making a table in two passes in step** gives as many rows, which have the same columns, and
leaves the passes in step. -/
theorem makeTable_inStep (registry : Registry) (definition : Compiled) :
    Work.InStep (PassState.InStep registry) (List.Forall₂ SameColumns)
      (makeTable registry definition) (makeTable registry definition) := by
  rintro left right ⟨hsource, hdraws, hcache⟩ rows rows' after after' hleft hright
  obtain ⟨source, hrows, rfl⟩ := gives_makeTable_iff.1 hleft
  obtain ⟨source', hrows', rfl⟩ := gives_makeTable_iff.1 hright
  have hscenes : (left.pass.scene registry definition.table).InStep
      (right.pass.scene registry definition.table) := ⟨rfl, hdraws, hcache⟩
  obtain ⟨hsame, rfl⟩ := Scene.rows_inStep hscenes definition hsource hrows hrows'
  exact ⟨hsame, rfl, hdraws, hcache.insert hsame⟩

end Seedbed
