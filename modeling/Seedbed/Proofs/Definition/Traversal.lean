import Seedbed.Definition.Basic
import Seedbed.Proofs.Fields
import Seedbed.Proofs.Accepting

/-!
# Converting the scalars of a definition

Whatever a conversion does besides (it may fail, or change a state), converting a definition keeps
its shape and makes one call for each scalar, with its path, in document order; what the calls give
are the scalars of the result (`seen_traverse`). A definition is known from its shape and its
scalars (`eq_of_seen`), so nothing else is to be said of converting. Read for a check: converting
stops at the first scalar that is refused (`refusal?_traverse`), so it succeeds exactly when every
scalar is accepted (`traverse_ok_iff`), and what comes out has what was accepted, in the same order
and at the same paths, under the same table, number of rows and column names (`traverse_eq_ok_iff`).
Read for a conversion that notes what it is called for: converting visits the scalars, each once
(`visited_eq_scalars`).
-/

namespace Seedbed

variable {α β : Type}

/-! ## Calls -/

section

variable {m : Type → Type} [Monad m]

/-- The call for a scalar: what it gives stands at the path of the scalar. -/
def call (f : String → α → m β) (scalar : String × α) : m (String × β) := do
  return (scalar.1, ← f scalar.1 scalar.2)

/-- Computations that are seen to give the same can stand for each other, one after the other. -/
theorem bind_map_congr [LawfulMonad m] {δ δ' σ σ' τ τ' υ : Type} {first : m δ} {first' : m δ'}
    {second : m σ} {second' : m σ'} {see : δ → τ} {see' : δ' → τ} {look : σ → τ'} {look' : σ' → τ'}
    (hfirst : see <$> first = see' <$> first') (hsecond : look <$> second = look' <$> second')
    (join : τ → τ' → υ) :
    (first >>= fun a => (fun b => join (see a) (look b)) <$> second) =
      first' >>= fun a => (fun b => join (see' a) (look' b)) <$> second' := by
  calc (first >>= fun a => (fun b => join (see a) (look b)) <$> second)
      = see <$> first >>= fun t => join t <$> (look <$> second) := by
        simp only [bind_map_left, Functor.map_map]
    _ = see' <$> first' >>= fun t => join t <$> (look' <$> second') := by rw [hfirst, hsecond]
    _ = first' >>= fun a => (fun b => join (see' a) (look' b)) <$> second' := by
        simp only [bind_map_left, Functor.map_map]

end

namespace Node

/-! ## Trees -/

mutual

/-- A tree without the values of its scalars. -/
def shape : Node α → Node Unit
  | scalar _ => scalar ()
  | array items count => array (shape items) count
  | object properties => object (propertyShapes properties)

/-- Properties without the values of their scalars. -/
def propertyShapes : List (String × Node α) → List (String × Node Unit)
  | [] => []
  | (name, node) :: rest => (name, shape node) :: propertyShapes rest

end

/-- The shape of a tree and its scalars. -/
def seen (path : String) (node : Node α) : Node Unit × List (String × α) :=
  (node.shape, node.scalars path)

/-- The shapes of properties and their scalars. -/
def propertiesSeen (path : String) (properties : List (String × Node α)) :
    List (String × Node Unit) × List (String × α) :=
  (propertyShapes properties, propertyScalars path properties)

section

variable {m : Type → Type} [Monad m] [LawfulMonad m] (f : String → α → m β)

mutual

/-- Converting a tree keeps its shape and makes the calls for its scalars. -/
theorem seen_traverse (path : String) : ∀ node : Node α,
    seen path <$> node.traverse f path =
      (fun answers => (node.shape, answers)) <$> (node.scalars path).mapM (call f)
  | scalar value => by simp [traverse, scalars, shape, call, seen]
  | array items count => by
    have hitems := congrArg
      (Functor.map fun seen : Node Unit × List (String × β) => (array seen.1 count, seen.2))
      (seen_traverse (itemsPath path) items)
    simpa only [traverse, scalars, shape, seen, Functor.map_map, bind_pure_comp] using hitems
  | object properties => by
    have hproperties := congrArg
      (Functor.map fun seen : List (String × Node Unit) × List (String × β) =>
        (object seen.1, seen.2))
      (seen_traverseProperties path properties)
    simpa only [traverse, scalars, shape, seen, propertiesSeen, Functor.map_map, bind_pure_comp]
      using hproperties

/-- Converting properties keeps their shapes and makes the calls for their scalars. -/
theorem seen_traverseProperties (path : String) : ∀ properties : List (String × Node α),
    propertiesSeen path <$> traverseProperties f path properties =
      (fun answers => (propertyShapes properties, answers)) <$>
        (propertyScalars path properties).mapM (call f)
  | [] => by simp [traverseProperties, propertyScalars, propertyShapes, propertiesSeen]
  | (name, node) :: rest => by
    have hboth := bind_map_congr (seen_traverse (propertyPath path name) node)
      (seen_traverseProperties path rest)
      fun node rest => ((name, node.1) :: rest.1, node.2 ++ rest.2)
    simpa only [traverseProperties, propertyScalars, propertyShapes, seen, propertiesSeen,
      List.mapM_append, map_bind, Functor.map_map, bind_pure_comp] using hboth

end

end

mutual

/-- Trees of one shape have as many scalars. -/
theorem length_scalars_of_shape (path : String) : ∀ {a : Node α} {b : Node β},
    a.shape = b.shape → (a.scalars path).length = (b.scalars path).length
  | scalar _, scalar _, _ => rfl
  | array items _, array items' _, h => by
    simp only [shape, array.injEq] at h
    exact length_scalars_of_shape (itemsPath path) h.1
  | object properties, object properties', h => by
    simp only [shape, object.injEq] at h
    exact length_propertyScalars_of_shapes path h

/-- Properties of the same shapes have as many scalars. -/
theorem length_propertyScalars_of_shapes (path : String) :
    ∀ {as : List (String × Node α)} {bs : List (String × Node β)},
      propertyShapes as = propertyShapes bs →
        (propertyScalars path as).length = (propertyScalars path bs).length
  | [], [], _ => rfl
  | (name, node) :: rest, (name', node') :: rest', h => by
    simp only [propertyShapes, List.cons.injEq, Prod.mk.injEq] at h
    obtain ⟨⟨rfl, hnode⟩, hrest⟩ := h
    rw [propertyScalars, propertyScalars, List.length_append, List.length_append,
      length_scalars_of_shape _ hnode, length_propertyScalars_of_shapes path hrest]

end

mutual

/-- A tree is known from its shape and its scalars. -/
theorem eq_of_seen (path : String) : ∀ {a b : Node α},
    a.shape = b.shape → a.scalars path = b.scalars path → a = b
  | scalar value, scalar value', _, hs => by
    simp only [scalars, List.cons.injEq, Prod.mk.injEq] at hs
    rw [hs.1.2]
  | array items count, array items' count', h, hs => by
    simp only [shape, array.injEq] at h
    rw [eq_of_seen (itemsPath path) h.1 hs, h.2]
  | object properties, object properties', h, hs => by
    simp only [shape, object.injEq] at h
    rw [eq_of_propertiesSeen path h hs]

/-- Properties are known from their shapes and their scalars. -/
theorem eq_of_propertiesSeen (path : String) : ∀ {as bs : List (String × Node α)},
    propertyShapes as = propertyShapes bs →
      propertyScalars path as = propertyScalars path bs → as = bs
  | [], [], _, _ => rfl
  | (name, node) :: rest, (name', node') :: rest', h, hs => by
    simp only [propertyShapes, List.cons.injEq, Prod.mk.injEq] at h
    obtain ⟨⟨rfl, hnode⟩, hrest⟩ := h
    obtain ⟨hfirst, hothers⟩ := List.append_inj hs (length_scalars_of_shape _ hnode)
    rw [eq_of_seen _ hnode hfirst, eq_of_propertiesSeen path hrest hothers]

end

end Node

namespace Definition

/-! ## Definitions -/

/-- Columns without the values of their scalars. -/
def columnShapes (columns : Fields (Node α)) : Fields (Node Unit) :=
  columns.map fun (name, node) => (name, node.shape)

/-- A definition without the values of its scalars. -/
def shape (definition : Definition α) : Definition Unit where
  table := definition.table
  count := definition.count
  columns := columnShapes definition.columns

/-- The shapes of columns and their scalars. -/
def columnsSeen (columns : Fields (Node α)) : Fields (Node Unit) × List (String × α) :=
  (columnShapes columns, columnScalars columns)

/-- The shape of a definition and its scalars. -/
def seen (definition : Definition α) : Definition Unit × List (String × α) :=
  (definition.shape, definition.scalars)

section

variable {m : Type → Type} [Monad m] [LawfulMonad m] (f : String → α → m β)

/-- Converting columns keeps their shapes and makes the calls for their scalars. -/
theorem seen_traverseColumns (columns : Fields (Node α)) :
    columnsSeen <$> traverseColumns f columns =
      (fun answers => (columnShapes columns, answers)) <$>
        (columnScalars columns).mapM (call f) := by
  induction columns with
  | nil => simp [traverseColumns, columnsSeen, columnShapes, columnScalars]
  | cons column rest ih =>
    obtain ⟨name, node⟩ := column
    have hboth := bind_map_congr (Node.seen_traverse f (columnPath name) node) ih
      fun node rest => ((name, node.1) :: rest.1, node.2 ++ rest.2)
    simpa only [traverseColumns, columnsSeen, columnShapes, columnScalars, List.map_cons,
      List.flatMap_cons, Node.seen, List.mapM_append, map_bind, Functor.map_map, bind_pure_comp]
      using hboth

/-- **Converting a definition** keeps its shape and makes the calls for its scalars, one after
another. -/
theorem seen_traverse (definition : Definition α) :
    seen <$> definition.traverse f =
      (fun answers => (definition.shape, answers)) <$> definition.scalars.mapM (call f) := by
  have hcolumns := congrArg
    (Functor.map fun seen : Fields (Node Unit) × List (String × β) =>
      (({ table := definition.table, count := definition.count, columns := seen.1 } :
        Definition Unit), seen.2))
    (seen_traverseColumns f definition.columns)
  simpa only [traverse, seen, shape, scalars, columnsSeen, Functor.map_map, bind_pure_comp]
    using hcolumns

end

/-- Columns are known from their shapes and their scalars. -/
theorem eq_of_columnsSeen {as bs : Fields (Node α)} (h : columnShapes as = columnShapes bs)
    (hs : columnScalars as = columnScalars bs) : as = bs := by
  induction as generalizing bs with
  | nil => exact (List.map_eq_nil_iff.1 h.symm).symm
  | cons column rest ih =>
    obtain ⟨name, node⟩ := column
    cases bs with
    | nil => cases h
    | cons column' rest' =>
      obtain ⟨name', node'⟩ := column'
      simp only [columnShapes, List.map_cons, List.cons.injEq, Prod.mk.injEq] at h
      obtain ⟨⟨rfl, hnode⟩, hrest⟩ := h
      obtain ⟨hfirst, hothers⟩ := List.append_inj hs (Node.length_scalars_of_shape _ hnode)
      rw [Node.eq_of_seen _ hnode hfirst, ih hrest hothers]

/-- A definition is known from its shape and its scalars. -/
theorem eq_of_seen {a b : Definition α} (h : a.shape = b.shape) (hs : a.scalars = b.scalars) :
    a = b := by
  obtain ⟨table, count, columns⟩ := a
  obtain ⟨table', count', columns'⟩ := b
  simp only [shape, Definition.mk.injEq] at h
  obtain ⟨rfl, rfl, hcolumns⟩ := h
  rw [eq_of_columnsSeen hcolumns hs]

end Definition

/-! ## Checks -/

section

variable {ε : Type} {f : String → α → Except ε β}

/-- A converted scalar stands where the scalar stood and is what the conversion gave for it. -/
def Converted (f : String → α → Except ε β) (scalar : String × α) (converted : String × β) : Prop :=
  converted.1 = scalar.1 ∧ f scalar.1 scalar.2 = .ok converted.2

/-- The calls for some scalars stop at the first that is refused. -/
theorem refusal?_calls (scalars : List (String × α)) :
    refusal? (scalars.mapM (call f)) =
      scalars.findSome? fun scalar => refusal? (f scalar.1 scalar.2) := by
  induction scalars with
  | nil => rfl
  | cons scalar rest ih =>
    rw [List.mapM_cons, refusal?_bind fun _ => refusal?_bind_pure, ih, call, refusal?_bind_pure,
      List.findSome?_cons]
    cases refusal? (f scalar.1 scalar.2) <;> rfl

/-- A call gives exactly the scalar that is converted from its own. -/
theorem call_eq_ok_iff {scalar : String × α} {converted : String × β} :
    call f scalar = .ok converted ↔ Converted f scalar converted := by
  obtain ⟨path, b⟩ := converted
  simp only [call, bind_eq_ok, pure_eq_ok, Converted, Prod.mk.injEq]
  constructor
  · rintro ⟨b, hb, hpath, rfl⟩
    exact ⟨hpath.symm, hb⟩
  · rintro ⟨hpath, hb⟩
    exact ⟨b, hb, hpath.symm, rfl⟩

/-- The calls for some scalars accept when each of them does. -/
theorem calls_eq_ok_iff {scalars : List (String × α)} {answers : List (String × β)} :
    scalars.mapM (call f) = .ok answers ↔ List.Forall₂ (Converted f) scalars answers := by
  induction scalars generalizing answers with
  | nil => rw [List.mapM_nil, pure_eq_ok, List.forall₂_nil_left_iff, eq_comm]
  | cons scalar rest ih =>
    simp only [List.mapM_cons, bind_eq_ok, pure_eq_ok, call_eq_ok_iff, ih,
      List.forall₂_cons_left_iff]
    constructor
    · rintro ⟨b, hb, rest', hrest, rfl⟩
      exact ⟨b, rest', hb, hrest, rfl⟩
    · rintro ⟨b, rest', hb, hrest, rfl⟩
      exact ⟨b, hb, rest', hrest, rfl⟩

/-- What a check gives can be told from what is seen of it. -/
theorem eq_ok_iff_of_seen {δ τ υ : Type} {check : Except ε δ} {calls : Except ε υ}
    {see : δ → τ × υ} {whole : τ} {out : δ}
    (hseen : see <$> check = (fun answers => (whole, answers)) <$> calls)
    (hknown : ∀ other, see other = see out → other = out) :
    check = .ok out ↔ (see out).1 = whole ∧ calls = .ok (see out).2 := by
  cases check with
  | error e =>
    cases calls with
    | error e' => simp
    | ok answers => cases hseen
  | ok other =>
    cases calls with
    | error e => cases hseen
    | ok answers =>
      have hother : see other = (whole, answers) := Except.ok.inj hseen
      constructor
      · intro h
        cases h
        simp [hother]
      · rintro ⟨hwhole, hanswers⟩
        rw [hknown other (hother.trans (Prod.ext hwhole.symm (Except.ok.inj hanswers)))]

namespace Definition

/-- **Converting stops at the first scalar that is refused.** -/
theorem refusal?_traverse (definition : Definition α) :
    refusal? (definition.traverse f) =
      definition.scalars.findSome? fun scalar => refusal? (f scalar.1 scalar.2) := by
  have hseen := congrArg refusal? (seen_traverse f definition)
  simpa only [map_eq_pure_bind, refusal?_bind_pure, refusal?_calls] using hseen

/-- A definition is converted exactly when each of its scalars is accepted. -/
theorem traverse_ok_iff {definition : Definition α} :
    (∃ out, definition.traverse f = .ok out) ↔
      ∀ scalar ∈ definition.scalars, ∃ b, f scalar.1 scalar.2 = .ok b := by
  rw [← refusal?_eq_none_iff, refusal?_traverse, List.findSome?_eq_none_iff]
  simp only [refusal?_eq_none_iff]

/-- **A converted definition** has the shape of the definition, and its scalars are what was
accepted for those of the definition. -/
theorem traverse_eq_ok_iff {definition : Definition α} {out : Definition β} :
    definition.traverse f = .ok out ↔
      out.shape = definition.shape ∧
        List.Forall₂ (Converted f) definition.scalars out.scalars := by
  rw [eq_ok_iff_of_seen (seen_traverse f definition) fun other h =>
    eq_of_seen (Prod.ext_iff.1 h).1 (Prod.ext_iff.1 h).2]
  exact and_congr_right' calls_eq_ok_iff

/-- Each column of the converted ones is a column with its tree converted, in the same order. -/
theorem columns_of_traverseColumns {columns : Fields (Node α)} {out : Fields (Node β)}
    (h : traverseColumns f columns = .ok out) :
    List.Forall₂ (fun column converted => converted.1 = column.1 ∧
      column.2.traverse f (columnPath column.1) = .ok converted.2) columns out := by
  induction columns generalizing out with
  | nil =>
    simp only [traverseColumns, pure_eq_ok] at h
    subst h
    exact .nil
  | cons column rest ih =>
    obtain ⟨name, node⟩ := column
    simp only [traverseColumns, bind_eq_ok, pure_eq_ok] at h
    obtain ⟨node', hn, rest', hr, rfl⟩ := h
    exact .cons ⟨rfl, hn⟩ (ih hr)

/-- The scalars of converted columns are what was accepted for the scalars of the columns. -/
theorem scalars_of_traverseColumns {columns : Fields (Node α)} {out : Fields (Node β)}
    (h : traverseColumns f columns = .ok out) :
    List.Forall₂ (Converted f) (columnScalars columns) (columnScalars out) :=
  calls_eq_ok_iff.1 ((eq_ok_iff_of_seen (seen_traverseColumns f columns) fun _ hother =>
    eq_of_columnsSeen (Prod.ext_iff.1 hother).1 (Prod.ext_iff.1 hother).2).1 h).2

/-- Each scalar of a converted column is the conversion of a scalar at the same path. -/
theorem exists_scalar_of_traverseColumns {columns : Fields (Node α)} {out : Fields (Node β)}
    (h : traverseColumns f columns = .ok out) {column : String × Node β} (hc : column ∈ out)
    {scalar : String × β} (hs : scalar ∈ column.2.scalars (columnPath column.1)) :
    ∃ a, (scalar.1, a) ∈ columnScalars columns ∧ f scalar.1 a = .ok scalar.2 := by
  have hmem : scalar ∈ columnScalars out := List.mem_flatMap.2 ⟨column, hc, hs⟩
  obtain ⟨⟨path, a⟩, ha, hpath, hf⟩ := exists_mem_of_forall₂ (scalars_of_traverseColumns h) hmem
  exact ⟨a, hpath ▸ ha, hpath ▸ hf⟩

/-- A converted definition has the table and the number of rows that the definition has, and its
columns are converted. -/
theorem traverse_eq_ok {definition : Definition α} {out : Definition β}
    (h : definition.traverse f = .ok out) :
    out.table = definition.table ∧ out.count = definition.count ∧
      traverseColumns f definition.columns = .ok out.columns := by
  simp only [traverse, bind_eq_ok, pure_eq_ok] at h
  obtain ⟨columns, hc, rfl⟩ := h
  exact ⟨rfl, rfl, hc⟩

end Definition

end

/-! ## Visiting -/

/-- Notes a scalar and its path behind those that were visited before. -/
def visit (path : String) (value : α) : StateM (List (String × α)) Unit :=
  modify fun visited => visited ++ [(path, value)]

/-- The calls for some scalars visit them. -/
theorem calls_visit (scalars visited : List (String × α)) :
    (scalars.mapM (call visit) visited).2 = visited ++ scalars := by
  induction scalars generalizing visited with
  | nil => exact (List.append_nil visited).symm
  | cons scalar rest ih =>
    rw [List.mapM_cons, ← List.singleton_append, ← List.append_assoc]
    exact ih (visited ++ [scalar])

namespace Definition

/-- The scalars that converting a definition visits, with the paths at which it visits them. -/
def visited (definition : Definition α) : List (String × α) :=
  (definition.traverse visit []).2

/-- Converting a definition visits its scalars. -/
theorem visited_eq_scalars (definition : Definition α) :
    definition.visited = definition.scalars := by
  have hseen := congrArg (fun computation => (computation []).2) (seen_traverse visit definition)
  exact hseen.trans (calls_visit definition.scalars [])

end Definition

end Seedbed
