import Seedbed.Generation.Table
import Seedbed.Proofs.Generation.Scalar
import Seedbed.Proofs.Generation.Yield

/-!
# What making a table gives

A compiled definition is fit (`Definition.fit_of_compile`): its counts and its rules are as
evaluation needs them. Making the table of a fit definition either gives rows that are `Made` in
its scene, which the pass then keeps, or fails with an error of one of its scalars and leaves the
pass as it was (`ends_makeTable`). What rows hold and which errors arise is read off from this one
statement.
-/

namespace Seedbed

/-! ## Compiled definitions -/

/-- The counts and the rules of a definition are fit. -/
structure Definition.Fit (definition : Compiled) : Prop where
  count : definition.count.Fits
  counts : ∀ column ∈ definition.columns, column.2.CountsFit
  rules : ∀ column ∈ definition.columns, ∀ scalar ∈ column.2.scalars (columnPath column.1),
    scalar.2.Fit

/-- A definition that was compiled is fit. -/
theorem Definition.fit_of_compile {value : Json} {definition : Compiled}
    (h : compile value = .ok definition) : definition.Fit where
  count := compile_count_fits h
  counts _ hc := compile_countsFit h hc
  rules _ hc _ hs :=
    have ⟨_, hparsed⟩ := compile_scalar_parsed h hc hs
    Rule.fit_of_parse hparsed

namespace Scene

variable (scene : Scene)

/-! ## Rows -/

/-- A row is made in a scene: column by column, each with values of its rules beside the columns
before it. -/
def Made (definition : Compiled) (row : Row) : Prop :=
  RowMade (fun row _ rule value => scene.Makes row rule value) [] definition.columns row

/-- A failure is one of a scalar of a column, beside a row of the columns before it. -/
def FailsIn (definition : Compiled) (failure : GenerationFailure) : Prop :=
  ∃ before name tree after made, definition.columns = before ++ (name, tree) :: after ∧
    RowMade (fun row _ rule value => scene.Makes row rule value) [] before made ∧
    ∃ scalar ∈ tree.scalars (columnPath name), scene.Fails scalar.1 made scalar.2 failure

variable {scene : Scene} {definition : Compiled}

/-- The rows of a table are as many as the definition asks for, and each is made in the scene. -/
theorem ends_rows (hfit : definition.Fit) (source : Random.Source) :
    (scene.rows definition).Ends source
      (fun rows _ => (definition.count.bounds.1 ≤ rows.length ∧
        rows.length ≤ definition.count.bounds.2) ∧ ∀ row ∈ rows, scene.Made definition row)
      fun e _ => scene.FailsIn definition e := by
  have hbounds := Random.Draw.count_bounds hfit.count.1 hfit.count.2 source
  have hcolumns (s : Random.Source) : (scene.columns [] definition.columns).Ends s
      (fun row _ => RowMade (fun row _ rule value => scene.Makes row rule value) []
        definition.columns row) fun e _ => scene.FailsIn definition e := by
    refine ends_columns hfit.counts
      (fun before name tree after he made hmade scalar hs source => ?_) s
    have hmem : (name, tree) ∈ definition.columns := by simp [he]
    refine (ends_scalar (hfit.rules _ hmem _ hs) source).mono (fun _ _ => id) (fun e _ h => ?_)
    exact ⟨before, name, tree, after, made, he, hmade, scalar, hs, h⟩
  simp only [Scene.rows, Work.ends_bind, Work.ends_ofState, Work.ends_note, Work.ends_pure]
  refine (Work.ends_repeated (scene.Made definition) (fun _ => True) (fun s _ => ?_) _
    trivial).mono ?_ (fun _ _ => id)
  · exact (hcolumns s).mono (fun _ _ h => ⟨h, trivial⟩) (fun _ _ => id)
  · rintro rows s ⟨hlength, hall, -⟩
    exact ⟨hlength ▸ hbounds, hall⟩

end Scene

/-- **Making the table of a fit definition** gives rows that are made in the scene of the pass,
which the pass keeps; a failure is one of a scalar and leaves the pass as it was. -/
theorem ends_makeTable (registry : Registry) {definition : Compiled} (hfit : definition.Fit)
    (state : PassState) :
    (makeTable registry definition).Ends state
      (fun rows s => ((definition.count.bounds.1 ≤ rows.length ∧
          rows.length ≤ definition.count.bounds.2) ∧
          ∀ row ∈ rows, (state.pass.scene registry definition.table).Made definition row) ∧
        s.pass = { state.pass with cache := state.pass.cache.insert definition.table rows })
      fun e s => (state.pass.scene registry definition.table).FailsIn definition e ∧
        s.pass = state.pass := by
  simp only [makeTable, Work.ends_bind, Work.ends_state, Work.ends_on, Work.ends_update,
    Work.ends_pure]
  exact (Scene.ends_rows hfit state.source).mono (fun _ _ hrows => ⟨hrows, trivial⟩)
    (fun _ _ he => ⟨he, trivial⟩)

end Seedbed
