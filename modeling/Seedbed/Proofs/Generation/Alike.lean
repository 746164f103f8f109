import Seedbed.Generation.Table
import Seedbed.Proofs.Generation.Cache
import Seedbed.Proofs.Giving
import Seedbed.Proofs.Store.Memory

/-!
# Making rows beside rows as they are stored

A row that is stored differs from the row that was made in its id only. Rules see the rows of other
tables through relations, and a relation sees one column, so rules without a relation to the id make
the same values beside either cache, from the same source, which they leave in the same state
(`Scene.rows_alike`). Making the table of a definition without such a relation therefore has the
same result in passes that are alike, and leaves passes that are alike (`makeTable_alike`).
-/

namespace Seedbed

/-! ## Rules that read a column of other tables -/

mutual

/-- Whether a rule is a relation to a column, or has one in a placeholder. -/
def Rule.relatesTo (column : String) : Rule → Bool
  | .template segments => Rule.segmentsRelateTo column segments
  | .relation _ target => target = column
  | _ => false

/-- Whether a rule in a placeholder of a template relates to a column. -/
def Rule.segmentsRelateTo (column : String) : List Segment → Bool
  | [] => false
  | .literal _ :: rest => Rule.segmentsRelateTo column rest
  | .placeholder _ rule :: rest =>
    Rule.relatesTo column rule || Rule.segmentsRelateTo column rest
  | .columnOnly _ _ :: rest => Rule.segmentsRelateTo column rest

end

/-- Whether a rule of a definition relates to a column. -/
def Definition.relatesTo (column : String) (definition : Compiled) : Bool :=
  definition.scalars.any fun scalar => scalar.2.relatesTo column

/-! ## Caches -/

namespace Cache

/-- A cache holds the rows of another one as they are stored. -/
def Alike (made stored : Cache) : Prop :=
  ∀ table, Option.Rel (List.Forall₂ StoredAs) (made.rows? table) (stored.rows? table)

variable {made stored : Cache} {table : String}

/-- A cache is like itself. -/
theorem Alike.refl (cache : Cache) : cache.Alike cache :=
  Related.refl StoredAs.refl cache

/-- Caches stay alike when rows join one of them and these rows as they are stored the other. -/
theorem Alike.insert (h : made.Alike stored) {rows storedRows : List Row}
    (hrows : List.Forall₂ StoredAs rows storedRows) :
    (made.insert table rows).Alike (stored.insert table storedRows) :=
  Related.insert h hrows

/-- Caches stay alike when the rows of a table are replaced by these rows as they are stored. -/
theorem Alike.replace (h : made.Alike stored) {rows storedRows : List Row}
    (hmade : made.rows? table = some rows) (hrows : List.Forall₂ StoredAs rows storedRows) :
    made.Alike (stored.insert table storedRows) :=
  Related.replace h hmade hrows

/-- A row is picked from either cache alike, and the source goes on alike. -/
theorem Alike.pick? (h : made.Alike stored) (table : String) (source : Random.Source) :
    Option.Rel StoredAs (made.pick? table source).1 (stored.pick? table source).1 ∧
      (made.pick? table source).2 = (stored.pick? table source).2 :=
  Related.pick? h table source

end Cache

/-! ## Evaluation -/

namespace Scene

variable {scene : Scene} {cache : Cache} {path : String} {row : Row}

/-- A relation to another column than the id gives the same value beside either cache. -/
theorem relation_alike (h : scene.cache.Alike cache) (table : String) {column : String}
    (hcolumn : column ≠ idColumn) :
    ({ scene with cache } : Scene).relation table column path =
      scene.relation table column path := by
  funext source
  obtain ⟨hpicked, hsource⟩ := h.pick? table source
  simp only [relation, Work.bind_eq, Work.bind, Work.ofState]
  generalize scene.cache.pick? table source = made at hpicked hsource ⊢
  generalize cache.pick? table source = stored at hpicked hsource ⊢
  obtain ⟨picked, source⟩ := made
  obtain ⟨storedPicked, _⟩ := stored
  cases hsource
  cases hpicked with
  | none => rfl
  | @some target storedTarget hstored => simp only [hstored column hcolumn]

mutual

/-- A rule without a relation to the id makes the same beside either cache. -/
theorem scalar_alike (h : scene.cache.Alike cache) : ∀ {rule : Rule},
    rule.relatesTo idColumn = false →
      ({ scene with cache } : Scene).scalar path row rule = scene.scalar path row rule
  | .template segments, hrule => by
    have hsegments : Rule.segmentsRelateTo idColumn segments = false := hrule
    rw [scalar, scalar, fill_alike h hsegments]
  | .tenantId, _ => by rw [scalar, scalar]
  | .relation table column, hrule => by
    rw [scalar, scalar]
    exact relation_alike h table (of_decide_eq_false hrule)
  | .choice candidates, _ => by rw [scalar, scalar]
  | .int min max, _ => by rw [scalar, scalar]
  | .float min max places, _ => by rw [scalar, scalar]
  | .amount min max places, _ => by rw [scalar, scalar]
  | .dateBetween first last, _ => by rw [scalar, scalar]
  | .dateAfter column minDays maxDays, _ => by
    rw [scalar, scalar]
    rfl
  | .numeric length, _ => by rw [scalar, scalar]
  | .lookup text, _ => by
    rw [scalar, scalar]
    rfl

/-- `scalar_alike` for the segments of a template. -/
theorem fill_alike (h : scene.cache.Alike cache) : ∀ {segments : List Segment},
    Rule.segmentsRelateTo idColumn segments = false →
      ({ scene with cache } : Scene).fill path row segments = scene.fill path row segments
  | [], _ => by rw [fill, fill]
  | .literal text :: rest, hsegments => by
    have hrest : Rule.segmentsRelateTo idColumn rest = false := hsegments
    rw [fill, fill, fill_alike h hrest]
  | .placeholder key rule :: rest, hsegments => by
    obtain ⟨hrule, hrest⟩ := Bool.or_eq_false_iff.1 hsegments
    rw [fill, fill, scalar_alike h hrule, fill_alike h hrest]
  | .columnOnly key error :: rest, hsegments => by
    have hrest : Rule.segmentsRelateTo idColumn rest = false := hsegments
    rw [fill, fill, fill_alike h hrest]

end

mutual

/-- A tree without a relation to the id makes the same beside either cache. -/
theorem node_alike (h : scene.cache.Alike cache) (path : String) : ∀ {tree : Node Rule},
    (∀ scalar ∈ tree.scalars path, scalar.2.relatesTo idColumn = false) →
      ({ scene with cache } : Scene).node path row tree = scene.node path row tree
  | .scalar rule, htree => by
    rw [node, node]
    exact scalar_alike h (htree (path, rule) (List.mem_singleton_self _))
  | .array items count, htree => by
    rw [node, node, node_alike h (itemsPath path) htree]
  | .object properties, htree => by
    rw [node, node, members_alike h path htree]

/-- `node_alike` for the properties of an object. -/
theorem members_alike (h : scene.cache.Alike cache) (path : String) :
    ∀ {properties : List (String × Node Rule)},
    (∀ scalar ∈ Node.propertyScalars path properties, scalar.2.relatesTo idColumn = false) →
      ({ scene with cache } : Scene).members path row properties =
        scene.members path row properties
  | [], _ => by rw [members, members]
  | (name, tree) :: rest, hproperties => by
    obtain ⟨htree, hrest⟩ := List.forall_mem_append.1 hproperties
    rw [members, members, node_alike h (propertyPath path name) htree, members_alike h path hrest]

end

/-- Columns without a relation to the id make the same beside either cache. -/
theorem columns_alike (h : scene.cache.Alike cache) {columns : Fields (Node Rule)}
    (hcolumns : ∀ scalar ∈ Definition.columnScalars columns, scalar.2.relatesTo idColumn = false) :
    ({ scene with cache } : Scene).columns row columns = scene.columns row columns := by
  induction columns generalizing row with
  | nil => rw [Scene.columns, Scene.columns]
  | cons column rest ih =>
    obtain ⟨name, tree⟩ := column
    obtain ⟨htree, hrest⟩ := List.forall_mem_append.1 hcolumns
    rw [Scene.columns, Scene.columns, node_alike h (columnPath name) htree]
    congr 1
    funext value
    exact ih hrest

/-- **The rows of a table without a relation to the id** are the same beside either cache. -/
theorem rows_alike (h : scene.cache.Alike cache) {definition : Compiled}
    (hdefinition : definition.relatesTo idColumn = false) :
    ({ scene with cache } : Scene).rows definition = scene.rows definition := by
  have hcolumns : ∀ scalar ∈ Definition.columnScalars definition.columns,
      scalar.2.relatesTo idColumn = false := by
    simpa [Definition.relatesTo, Definition.scalars] using hdefinition
  rw [rows, rows, columns_alike h hcolumns]

end Scene

/-! ## Tables -/

/-- Two passes of one tenant on one day have the same source, and one of them keeps the rows of the
other as they are stored. -/
structure PassState.Alike (made stored : PassState) : Prop where
  tenant_eq : made.pass.tenant = stored.pass.tenant
  today_eq : made.pass.today = stored.pass.today
  source_eq : made.source = stored.source
  cache : made.pass.cache.Alike stored.pass.cache

variable {registry : Registry} {definition : Compiled} {made stored after : PassState}
  {rows : List Row}

/-- A state is like itself. -/
theorem PassState.Alike.refl (state : PassState) : state.Alike state :=
  ⟨rfl, rfl, rfl, .refl _⟩

/-- Making a table gives the rows in its scene, which the pass then keeps. -/
theorem gives_makeTable_iff {state : PassState} :
    (makeTable registry definition).Gives state rows after ↔
      ∃ source, ((state.pass.scene registry definition.table).rows definition).Gives state.source
        rows source ∧
      { pass := { state.pass with cache := state.pass.cache.insert definition.table rows },
        source } = after := by
  simp [-bind_pure_comp, makeTable, Work.gives_bind_iff, Work.gives_on_iff]

/-- The rows that were made are kept. -/
theorem rows?_of_gives_makeTable {state : PassState}
    (h : (makeTable registry definition).Gives state rows after) :
    after.pass.cache.rows? definition.table = some rows := by
  obtain ⟨source, -, rfl⟩ := gives_makeTable_iff.1 h
  exact Cache.rows?_insert_self _ _ _

/-- **Making a table without a relation to the id** gives the same rows in passes that are alike,
and leaves them alike. -/
theorem makeTable_alike (h : made.Alike stored)
    (hdefinition : definition.relatesTo idColumn = false)
    (hgives : (makeTable registry definition).Gives stored rows after) :
    ∃ after', (makeTable registry definition).Gives made rows after' ∧ after'.Alike after := by
  obtain ⟨source, hrows, rfl⟩ := gives_makeTable_iff.1 hgives
  obtain ⟨htenant, htoday, hsource, hcache⟩ := h
  have hscene : stored.pass.scene registry definition.table =
      { made.pass.scene registry definition.table with cache := stored.pass.cache } := by
    simp [Pass.scene, htenant, htoday]
  have hcacheScene : (made.pass.scene registry definition.table).cache.Alike stored.pass.cache :=
    hcache
  rw [hscene, Scene.rows_alike hcacheScene hdefinition, ← hsource] at hrows
  refine ⟨_, gives_makeTable_iff.2 ⟨source, hrows, rfl⟩, htenant, htoday, rfl, ?_⟩
  exact hcache.insert (List.forall₂_same.2 fun row _ => .refl row)

end Seedbed
