import Mathlib.Tactic.SplitIfs
import Seedbed.Proofs.Definition.Decoding

/-!
# The scalars of a value

A value that is no definition has scalars all the same: `Json.scalars` goes down the items of arrays
and the one container of objects, whatever else is wrong with these nodes, so it lists exactly the
texts that are reached in this way (`mem_scalars_iff`). When a value is decoded, its tree has the
same scalars at the same paths (`scalars_of_decodeNode`), since the path of a property does not tell
how its container is called.
-/

namespace Seedbed

open Decoder

namespace Json

/-! ## Listing -/

mutual

/-- The scalars of a node with the paths at which they are compiled, in document order. -/
def scalars (path : String) : Json → List (String × String)
  | .string text => [(path, text)]
  | .object members =>
    match (Fields.get? "type" members).bind Json.text? with
    | some "array" => itemScalars path members
    | some "object" =>
      match container? members with
      | some key => containerScalars path key members
      | none => []
    | _ => []
  | _ => []

/-- The scalars of the items of an array node. -/
def itemScalars (path : String) : List (String × Json) → List (String × String)
  | [] => []
  | (name, value) :: rest =>
    if name = "items" then scalars (itemsPath path) value else itemScalars path rest

/-- The scalars of a container of an object node. -/
def containerScalars (path key : String) : List (String × Json) → List (String × String)
  | [] => []
  | (name, value) :: rest =>
    if name = key then
      match value with
      | .object properties => propertyScalars path properties
      | _ => []
    else containerScalars path key rest

/-- The scalars of the properties of an object node. -/
def propertyScalars (path : String) : List (String × Json) → List (String × String)
  | [] => []
  | (name, value) :: rest =>
    scalars (propertyPath path name) value ++ propertyScalars path rest

end

/-- The scalars of columns. -/
def columnScalars (columns : Fields Json) : List (String × String) :=
  columns.flatMap fun column => column.2.scalars (columnPath column.1)

variable {path : String}

section
variable {members : Fields Json}

/-- The scalars of an array node are those of its items. -/
theorem scalars_of_array (h : (Fields.get? "type" members).bind Json.text? = some "array") :
    scalars path (.object members) = itemScalars path members := by
  simp only [scalars, h]

/-- The scalars of an object node are those of its container. -/
theorem scalars_of_object (h : (Fields.get? "type" members).bind Json.text? = some "object")
    {key : String} (hone : container? members = some key) :
    scalars path (.object members) = containerScalars path key members := by
  simp only [scalars, h, hone]

/-- An object node without its container has no scalars. -/
theorem scalars_of_no_container
    (h : (Fields.get? "type" members).bind Json.text? = some "object")
    (hnone : container? members = none) : scalars path (.object members) = [] := by
  simp only [scalars, h, hnone]

/-- A node of another type has no scalars. -/
theorem scalars_of_other (harray : (Fields.get? "type" members).bind Json.text? ≠ some "array")
    (hobject : (Fields.get? "type" members).bind Json.text? ≠ some "object") :
    scalars path (.object members) = [] := by
  rw [scalars]
  split
  · next h => exact absurd h harray
  · next h => exact absurd h hobject
  · rfl

end

/-- `itemScalars` of the items. -/
theorem itemScalars_of_get? {members : Fields Json} {items : Json}
    (h : Fields.get? "items" members = some items) :
    itemScalars path members = items.scalars (itemsPath path) := by
  induction members with
  | nil => cases h
  | cons member rest ih =>
    obtain ⟨name, value⟩ := member
    rw [Fields.get?] at h
    rw [itemScalars]
    split_ifs at h ⊢ with hname
    · cases h
      rfl
    · exact ih h

/-- `containerScalars` of the container. -/
theorem containerScalars_of_get? {key : String} {members properties : Fields Json}
    (h : Fields.get? key members = some (.object properties)) :
    containerScalars path key members = propertyScalars path properties := by
  induction members with
  | nil => cases h
  | cons member rest ih =>
    obtain ⟨name, value⟩ := member
    rw [Fields.get?] at h
    rw [containerScalars.eq_def]
    dsimp only
    split_ifs at h ⊢ with hname
    · cases h
      rfl
    · exact ih h

/-- `propertyScalars` in the natural per-element form. -/
theorem propertyScalars_eq (properties : Fields Json) :
    propertyScalars path properties =
      properties.flatMap fun property => property.2.scalars (propertyPath path property.1) := by
  induction properties with
  | nil => rfl
  | cons property rest ih =>
    obtain ⟨name, value⟩ := property
    rw [propertyScalars, ih, List.flatMap_cons]

/-! ## Reaching -/

/-- A scalar that is reached from the node at a path: through the items of array nodes and through
the one container of object nodes, which the path calls the properties. -/
inductive Reaches : String → Json → String × String → Prop
  | text (path text : String) : Reaches path (.string text) (path, text)
  | items {path : String} {members : Fields Json} {items : Json} {scalar : String × String}
      (type : Fields.get? "type" members = some (.string "array"))
      (get : Fields.get? "items" members = some items)
      (reached : Reaches (itemsPath path) items scalar) : Reaches path (.object members) scalar
  | property {path key name : String} {members properties : Fields Json} {value : Json}
      {scalar : String × String} (type : Fields.get? "type" members = some (.string "object"))
      (one : container? members = some key)
      (get : Fields.get? key members = some (.object properties))
      (mem : (name, value) ∈ properties)
      (reached : Reaches (propertyPath path name) value scalar) :
      Reaches path (.object members) scalar

variable {scalar : String × String}

mutual

/-- What is listed is reached. -/
theorem reaches_of_mem (path : String) :
    ∀ {value : Json}, scalar ∈ value.scalars path → Reaches path value scalar
  | .string text, h => by
    rw [scalars, List.mem_singleton] at h
    exact h ▸ .text path text
  | .object members, h => by
    unfold scalars at h
    split at h
    · next htype =>
      obtain ⟨items, hget, hitems⟩ := reaches_of_mem_items path h
      exact .items (bind_text?_eq_some_iff.1 htype) hget hitems
    · next htype =>
      split at h
      · next key hone =>
        obtain ⟨properties, name, value, hget, hmem, hvalue⟩ := reaches_of_mem_container path key h
        exact .property (bind_text?_eq_some_iff.1 htype) hone hget hmem hvalue
      · cases h
    · cases h
  | .null, h | .bool _, h | .integer _, h | .real _, h | .array _, h => by
    rw [scalars.eq_def] at h
    cases h

/-- What is listed of the items is reached from them. -/
theorem reaches_of_mem_items (path : String) : ∀ {members : List (String × Json)},
    scalar ∈ itemScalars path members →
      ∃ items, Fields.get? "items" members = some items ∧ Reaches (itemsPath path) items scalar
  | [], h => by cases h
  | (name, value) :: rest, h => by
    rw [itemScalars] at h
    rw [Fields.get?]
    split_ifs at h ⊢
    · exact ⟨value, rfl, reaches_of_mem (itemsPath path) h⟩
    · exact reaches_of_mem_items path h

/-- What is listed of a container is reached from one of its properties. -/
theorem reaches_of_mem_container (path key : String) : ∀ {members : List (String × Json)},
    scalar ∈ containerScalars path key members →
      ∃ properties name value, Fields.get? key members = some (.object properties) ∧
        (name, value) ∈ properties ∧ Reaches (propertyPath path name) value scalar
  | [], h => by cases h
  | (name, value) :: rest, h => by
    unfold containerScalars at h
    rw [Fields.get?]
    split_ifs at h ⊢
    · cases value with
      | object properties =>
        obtain ⟨name, value, hmem, hvalue⟩ := reaches_of_mem_properties path h
        exact ⟨properties, name, value, rfl, hmem, hvalue⟩
      | _ => cases h
    · exact reaches_of_mem_container path key h

/-- What is listed of properties is reached from one of them. -/
theorem reaches_of_mem_properties (path : String) : ∀ {properties : List (String × Json)},
    scalar ∈ propertyScalars path properties →
      ∃ name value, (name, value) ∈ properties ∧ Reaches (propertyPath path name) value scalar
  | [], h => by cases h
  | (name, value) :: rest, h => by
    rw [propertyScalars] at h
    rcases List.mem_append.1 h with h | h
    · exact ⟨name, value, List.mem_cons_self .., reaches_of_mem (propertyPath path name) h⟩
    · obtain ⟨name, value, hmem, hvalue⟩ := reaches_of_mem_properties path h
      exact ⟨name, value, List.mem_cons_of_mem _ hmem, hvalue⟩

end

/-- **Listed is what is reached.** -/
theorem mem_scalars_iff {value : Json} :
    scalar ∈ value.scalars path ↔ Reaches path value scalar := by
  refine ⟨reaches_of_mem path, fun h => ?_⟩
  induction h with
  | text path text => exact List.mem_singleton_self _
  | items type get _ ih =>
    rw [scalars_of_array (bind_text?_eq_some_iff.2 type), itemScalars_of_get? get]
    exact ih
  | property type one get mem _ ih =>
    rw [scalars_of_object (bind_text?_eq_some_iff.2 type) one, containerScalars_of_get? get,
      propertyScalars_eq]
    exact List.mem_flatMap.2 ⟨_, mem, ih⟩

end Json

/-! ## Decoding -/

namespace Decoder

mutual

/-- A decoded tree has the scalars of the value. -/
theorem scalars_of_decodeNode (path : String) : ∀ {value : Json} {node : Node String},
    decodeNode path value = .ok node → node.scalars path = value.scalars path
  | .string text, node, h => by
    simp only [decodeNode] at h
    cases h
    rfl
  | .object members, node, h => by
    unfold decodeNode at h
    split at h
    · next htype =>
      simp only [bind_eq_ok, pure_eq_ok] at h
      obtain ⟨items, hitems, count, -, rfl⟩ := h
      rw [Node.scalars, Json.scalars_of_array htype]
      exact scalars_of_decodeItems path hitems
    · next htype =>
      split at h
      · cases h
      · next key hone =>
        simp only [bind_eq_ok, pure_eq_ok] at h
        obtain ⟨properties, hproperties, rfl⟩ := h
        rw [Node.scalars, Json.scalars_of_object htype hone]
        exact scalars_of_decodeContainer path key hproperties
    · cases h
  | .null, _, h | .bool _, _, h | .integer _, _, h | .real _, _, h | .array _, _, h => by
    simp only [decodeNode] at h
    cases h

/-- Decoded items have the scalars of the items. -/
theorem scalars_of_decodeItems (path : String) :
    ∀ {members : List (String × Json)} {node : Node String}, decodeItems path members = .ok node →
      node.scalars (itemsPath path) = Json.itemScalars path members
  | [], _, h => by cases h
  | (name, value) :: rest, node, h => by
    rw [decodeItems] at h
    rw [Json.itemScalars]
    split_ifs at h ⊢
    · exact scalars_of_decodeNode (itemsPath path) h
    · exact scalars_of_decodeItems path h

/-- A decoded container has the scalars of the container. -/
theorem scalars_of_decodeContainer (path key : String) :
    ∀ {members : List (String × Json)} {properties : List (String × Node String)},
      decodeContainer path key members = .ok properties →
        Node.propertyScalars path properties = Json.containerScalars path key members
  | [], _, h => by
    simp only [decodeContainer] at h
    cases h
    rfl
  | (name, value) :: rest, properties, h => by
    unfold decodeContainer at h
    unfold Json.containerScalars
    split_ifs at h ⊢
    · cases value with
      | object members => exact scalars_of_decodeProperties path h
      | _ => cases h
    · exact scalars_of_decodeContainer path key h

/-- Decoded properties have the scalars of the properties. -/
theorem scalars_of_decodeProperties (path : String) :
    ∀ {members : List (String × Json)} {properties : List (String × Node String)},
      decodeProperties path members = .ok properties →
        Node.propertyScalars path properties = Json.propertyScalars path members
  | [], _, h => by
    simp only [decodeProperties] at h
    cases h
    rfl
  | (name, value) :: rest, properties, h => by
    simp only [decodeProperties, bind_eq_ok, pure_eq_ok] at h
    obtain ⟨node, hnode, others, hothers, rfl⟩ := h
    rw [Node.propertyScalars, Json.propertyScalars,
      scalars_of_decodeNode (propertyPath path name) hnode,
      scalars_of_decodeProperties path hothers]

end

/-- Decoded columns have the scalars of the columns. -/
theorem scalars_of_decodeColumns {columns : Fields Json} {decoded : Fields (Node String)}
    (h : decodeColumns columns = .ok decoded) :
    Definition.columnScalars decoded = Json.columnScalars columns := by
  induction columns generalizing decoded with
  | nil =>
    simp only [decodeColumns] at h
    cases h
    rfl
  | cons column rest ih =>
    obtain ⟨name, value⟩ := column
    simp only [decodeColumns, bind_eq_ok, pure_eq_ok] at h
    obtain ⟨node, hnode, others, hothers, rfl⟩ := h
    simp only [Definition.columnScalars, Json.columnScalars] at ih ⊢
    rw [List.flatMap_cons, List.flatMap_cons, ih hothers, scalars_of_decodeNode _ hnode]

end Decoder

end Seedbed
