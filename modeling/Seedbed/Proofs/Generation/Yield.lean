import Mathlib.Tactic.Tauto
import Seedbed.Generation.Evaluation
import Seedbed.Proofs.Ending
import Seedbed.Proofs.Random.Bounds
import Seedbed.Proofs.Definition.Decoding

/-!
# What a tree of rules yields

`Node.Yields` lifts a relation between a rule and a value to a tree and a value: an array has so
many items as its count allows, an object has the properties of the tree in order. `RowMade` does
the same for the columns of a row, each beside the columns before it. What is shown of the scalars
holds of every tree and every row: `ends_node` and `ends_columns` are the only places where the
recursion over trees and the loops over items and columns are opened.
-/

namespace Seedbed

/-! ## Values of trees and rows -/

namespace Node

variable (p : String → Rule → Json → Prop)

mutual

/-- A value has the shape of a tree, and each scalar of it is related to its rule. -/
def Yields (path : String) : Node Rule → Json → Prop
  | scalar rule, value => p path rule value
  | array items count, value =>
    ∃ values, value = .array values ∧
      (count.bounds.1 ≤ values.length ∧ values.length ≤ count.bounds.2) ∧
      ∀ item ∈ values, Yields (itemsPath path) items item
  | object properties, value =>
    ∃ members, value = .object members ∧ PropertiesYield path properties members

/-- The members of an object are the properties in order, each with a value of its tree. -/
def PropertiesYield (path : String) : List (String × Node Rule) → Row → Prop
  | [], members => members = []
  | (name, tree) :: rest, members =>
    ∃ value others, members = (name, value) :: others ∧
      Yields (propertyPath path name) tree value ∧ PropertiesYield path rest others

end

end Node

/-- A row is made from a row so far by adding columns, each with a value of its tree that is related
to the columns before it. -/
def RowMade (p : Row → String → Rule → Json → Prop) (row : Row) : Fields (Node Rule) → Row → Prop
  | [], made => made = row
  | (name, tree) :: rest, made =>
    ∃ value, tree.Yields (p row) (columnPath name) value ∧
      RowMade p (Fields.put name value row) rest made

namespace Scene

variable {scene : Scene} {failed : GenerationFailure → Prop}

/-! ## Trees -/

section

variable {p : String → Rule → Json → Prop} {row : Row}

mutual

/-- A tree yields what its scalars yield, in its shape. -/
theorem ends_node (path : String) : ∀ {tree : Node Rule}, tree.CountsFit →
    (∀ scalar ∈ tree.scalars path, ∀ source, (scene.scalar scalar.1 row scalar.2).Ends source
      (fun value _ => p scalar.1 scalar.2 value) fun e _ => failed e) →
    ∀ source, (scene.node path row tree).Ends source (fun value _ => tree.Yields p path value)
      fun e _ => failed e
  | .scalar rule, _, hscalar, source => by
    rw [node]
    exact hscalar (path, rule) (List.mem_singleton_self _) source
  | .array items count, hcounts, hscalar, source => by
    rw [node]
    have hbounds := Random.Draw.count_bounds hcounts.1.1 hcounts.1.2 source
    have hitems := ends_node (itemsPath path) hcounts.2 hscalar
    simp only [Work.ends_bind, Work.ends_ofState, Work.ends_pure]
    refine (Work.ends_repeated (fun item => items.Yields p (itemsPath path) item) (fun _ => True)
      (fun s _ => ?_) _ trivial).mono ?_ (fun _ _ => id)
    · exact (hitems s).mono (fun _ _ h => ⟨h, trivial⟩) (fun _ _ => id)
    · rintro values s ⟨hlength, hall, -⟩
      rw [Node.Yields]
      exact ⟨values, rfl, hlength ▸ hbounds, hall⟩
  | .object properties, hcounts, hscalar, source => by
    rw [node, Work.ends_bind]
    refine (ends_members path hcounts hscalar source).mono (fun made s h => ?_) (fun _ _ => id)
    rw [Work.ends_pure, Node.Yields]
    exact ⟨made, rfl, h⟩

/-- Properties yield what their scalars yield. -/
theorem ends_members (path : String) : ∀ {properties : List (String × Node Rule)},
    Node.PropertyCountsFit properties →
    (∀ scalar ∈ Node.propertyScalars path properties, ∀ source,
      (scene.scalar scalar.1 row scalar.2).Ends source
        (fun value _ => p scalar.1 scalar.2 value) fun e _ => failed e) →
    ∀ source, (scene.members path row properties).Ends source
      (fun made _ => Node.PropertiesYield p path properties made) fun e _ => failed e
  | [], _, _, source => by
    rw [members, Work.ends_pure, Node.PropertiesYield]
  | (name, tree) :: rest, hcounts, hscalar, source => by
    obtain ⟨htree, hrest⟩ := List.forall_mem_append.1 hscalar
    rw [members, Work.ends_bind]
    refine (ends_node (propertyPath path name) hcounts.1 htree source).mono (fun value s hv => ?_)
      (fun _ _ => id)
    rw [Work.ends_bind]
    refine (ends_members path hcounts.2 hrest s).mono (fun others s ho => ?_) (fun _ _ => id)
    rw [Work.ends_pure, Node.PropertiesYield]
    exact ⟨value, others, rfl, hv, ho⟩

end

end

/-! ## Rows -/

section

variable {p : Row → String → Rule → Json → Prop}

/-- A row is made by going over the columns. For a scalar of a column it is known which columns the
row has so far, those before the column. -/
theorem ends_columns {columns : Fields (Node Rule)} {row : Row}
    (hcounts : ∀ column ∈ columns, column.2.CountsFit)
    (hscalar : ∀ before name tree after, columns = before ++ (name, tree) :: after →
      ∀ made, RowMade p row before made → ∀ scalar ∈ tree.scalars (columnPath name), ∀ source,
        (scene.scalar scalar.1 made scalar.2).Ends source
          (fun value _ => p made scalar.1 scalar.2 value) fun e _ => failed e)
    (source : Random.Source) :
    (scene.columns row columns).Ends source (fun made _ => RowMade p row columns made)
      fun e _ => failed e := by
  induction columns generalizing row source with
  | nil => rw [Scene.columns, Work.ends_pure, RowMade]
  | cons column rest ih =>
    obtain ⟨name, tree⟩ := column
    obtain ⟨htree, hrest⟩ := List.forall_mem_cons.1 hcounts
    rw [Scene.columns, Work.ends_bind]
    refine (ends_node (p := p row) (columnPath name) htree
      (hscalar [] name tree rest rfl row rfl) source).mono (fun value s hv => ?_) (fun _ _ => id)
    refine (ih hrest (fun before name' tree' after he made hmade => ?_) s).mono
      (fun made s h => ?_) (fun _ _ => id)
    · exact hscalar ((name, tree) :: before) name' tree' after (by rw [he]; rfl) made
        ⟨value, hv, hmade⟩
    · exact ⟨value, hv, h⟩

end

end Scene

namespace RowMade

variable {p : Row → String → Rule → Json → Prop} {columns : Fields (Node Rule)} {row made : Row}

/-- The names of a row that was made are those it was made from and those of the columns. -/
theorem mem_names_iff (h : RowMade p row columns made) {name : String} :
    name ∈ Fields.names made ↔ name ∈ Fields.names row ∨ name ∈ Fields.names columns := by
  induction columns generalizing row with
  | nil =>
    cases h
    simp [Fields.names]
  | cons column rest ih =>
    obtain ⟨key, tree⟩ := column
    obtain ⟨value, -, hmade⟩ := h
    rw [ih hmade, Fields.mem_names_put_iff]
    simp only [Fields.names, List.map_cons, List.mem_cons]
    tauto

/-- A row that was made by going over columns was made up to each of them, then with a value of its
tree, then from there on. -/
theorem split {before after : Fields (Node Rule)} {name : String} {tree : Node Rule}
    (h : RowMade p row (before ++ (name, tree) :: after) made) :
    ∃ upTo value, RowMade p row before upTo ∧ tree.Yields (p upTo) (columnPath name) value ∧
      RowMade p (Fields.put name value upTo) after made := by
  induction before generalizing row with
  | nil =>
    obtain ⟨value, hv, hmade⟩ := h
    exact ⟨row, value, rfl, hv, hmade⟩
  | cons column rest ih =>
    obtain ⟨value, hv, hmade⟩ := h
    obtain ⟨upTo, value', hupTo, hv', hrest⟩ := ih hmade
    exact ⟨upTo, value', ⟨value, hv, hupTo⟩, hv', hrest⟩

/-- Columns with new names are added behind the row, in their order. -/
theorem eq_append (h : RowMade p row columns made)
    (hn : (Fields.names row ++ Fields.names columns).Nodup) :
    ∃ cells, made = row ++ cells ∧ Fields.names cells = Fields.names columns := by
  induction columns generalizing row with
  | nil =>
    exact ⟨[], by rw [List.append_nil]; exact h, rfl⟩
  | cons column rest ih =>
    obtain ⟨name, tree⟩ := column
    obtain ⟨value, -, hmade⟩ := h
    have hnew : name ∉ Fields.names row := fun hr =>
      (List.nodup_append.1 hn).2.2 name hr name (List.mem_cons_self ..) rfl
    rw [Fields.put_of_not_mem hnew] at hmade
    obtain ⟨cells, rfl, hcells⟩ := ih hmade (by simpa [Fields.names] using hn)
    exact ⟨(name, value) :: cells, by simp, by simpa [Fields.names] using hcells⟩

/-- A row of columns with distinct names has these columns in order, and each value is of the tree
of its column, beside the part of the row before it. -/
theorem columns_of_nodup (h : RowMade p [] columns made) (hn : (Fields.names columns).Nodup) :
    Fields.names made = Fields.names columns ∧
      ∀ before name tree after, columns = before ++ (name, tree) :: after →
        ∃ value, Fields.get? name made = some value ∧
          tree.Yields (p (made.take before.length)) (columnPath name) value := by
  have hnames : Fields.names made = Fields.names columns := by
    obtain ⟨cells, rfl, hcells⟩ := h.eq_append hn
    exact hcells
  refine ⟨hnames, fun before name tree after he => ?_⟩
  subst he
  have hsplit : (Fields.names before ++ name :: Fields.names after).Nodup := by
    simpa [Fields.names] using hn
  obtain ⟨hbefore, hafter, hdisjoint⟩ := List.nodup_append.1 hsplit
  obtain ⟨upTo, value, hupTo, hvalue, hrest⟩ := h.split
  have hbeforeNames : Fields.names upTo = Fields.names before := by
    obtain ⟨cells, rfl, hcells⟩ := hupTo.eq_append hbefore
    exact hcells
  have hnew : name ∉ Fields.names upTo := fun hc =>
    hdisjoint name (hbeforeNames ▸ hc) name (List.mem_cons_self ..) rfl
  rw [Fields.put_of_not_mem hnew] at hrest
  have hdistinct : (Fields.names (upTo ++ [(name, value)]) ++ Fields.names after).Nodup := by
    rw [Fields.names, List.map_append, ← Fields.names, hbeforeNames]
    simpa using hsplit
  obtain ⟨others, rfl, -⟩ := hrest.eq_append hdistinct
  have hlength : before.length = upTo.length := by
    simpa [Fields.names] using (congrArg List.length hbeforeNames).symm
  refine ⟨value, Fields.get?_of_mem (hnames ▸ hn) (by simp), ?_⟩
  rwa [hlength, List.append_assoc, List.take_left]

end RowMade

end Seedbed
