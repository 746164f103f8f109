import Mathlib.Tactic.SplitIfs
import Seedbed.Proofs.Definition.Decoding

/-!
# The values that are decoded

A value renders a definition when its members have the documented form, in any order and beside any
others (`Renders`): this is said of the value alone, by one case for each kind of node. The decoder
accepts exactly the renderings of a definition, and gives that definition (`decode_iff_renders`).
Every definition that has a name, a column and counts in order has renderings, one for each choice
of the names under which its objects hold their properties (`renders_render`).
-/

namespace Seedbed

/-! ## Counts -/

/-- The members of an object hold a range: two words in order. -/
inductive RendersRange (members : Fields Json) : Count → Prop
  | range {min max : Nat} (least : Fields.get? "min" members = some (.integer min))
      (most : Fields.get? "max" members = some (.integer max)) (ordered : min ≤ max)
      (word : max < 2 ^ 64) : RendersRange members (.range min max)

/-- A value renders a number of rows: it is a word, or an object with a range. -/
inductive RendersCount : Json → Count → Prop
  | fixed {n : Nat} (word : n < 2 ^ 64) : RendersCount (.integer n) (.fixed n)
  | range {members : Fields Json} {count : Count} (range : RendersRange members count) :
    RendersCount (.object members) count

/-- The members of an object hold a number of items: either a count alone or a range alone. -/
inductive RendersLength (members : Fields Json) : Count → Prop
  | fixed {n : Nat} (count : Fields.get? "count" members = some (.integer n)) (word : n < 2 ^ 64)
      (least : Fields.get? "min" members = none) (most : Fields.get? "max" members = none) :
    RendersLength members (.fixed n)
  | range {length : Count} (count : Fields.get? "count" members = none)
      (range : RendersRange members length) : RendersLength members length

namespace Decoder

variable {members : Fields Json} {path : String} {count : Count}

/-- A value that may be missing is read as a natural number when it is there and is one. -/
theorem bind_natural?_eq_some_iff {value? : Option Json} {n : Nat} :
    value?.bind Json.natural? = some n ↔ value? = some (.integer n) ∧ n < 2 ^ 64 := by
  simp only [Option.bind_eq_some_iff, Json.natural?_eq_some_iff]
  constructor
  · rintro ⟨value, hvalue, rfl, hword⟩
    exact ⟨hvalue, hword⟩
  · rintro ⟨hvalue, hword⟩
    exact ⟨_, hvalue, rfl, hword⟩

/-- A range is decoded from exactly the members that render it. -/
theorem decodeRange_iff : decodeRange members path = .ok count ↔ RendersRange members count := by
  unfold decodeRange
  constructor
  · intro h
    split at h
    · next min max hmin hmax =>
      split_ifs at h with hle
      · cases h
        obtain ⟨hmin, -⟩ := bind_natural?_eq_some_iff.1 hmin
        obtain ⟨hmax, hword⟩ := bind_natural?_eq_some_iff.1 hmax
        exact .range hmin hmax hle hword
      · cases h
    · cases h
  · rintro ⟨hmin, hmax, hle, hword⟩
    rw [bind_natural?_eq_some_iff.2 ⟨hmin, Nat.lt_of_le_of_lt hle hword⟩,
      bind_natural?_eq_some_iff.2 ⟨hmax, hword⟩]
    exact if_pos hle

/-- A number of rows is decoded from exactly the values that render it. -/
theorem decodeCount_iff {value : Json} :
    decodeCount value path = .ok count ↔ RendersCount value count := by
  unfold decodeCount
  constructor
  · intro h
    split at h
    · next n hn =>
      cases h
      obtain ⟨rfl, hword⟩ := Json.natural?_eq_some_iff.1 hn
      exact .fixed hword
    · split at h
      · next members hmembers =>
        obtain rfl := Json.members?_eq_some_iff.1 hmembers
        exact .range (decodeRange_iff.1 h)
      · cases h
  · intro h
    cases h with
    | fixed word => rw [Json.natural?_eq_some_iff.2 ⟨rfl, word⟩]
    | range range => exact decodeRange_iff.2 range

/-- A count alone is decoded as it is read. -/
theorem decodeArrayCount_of_count {value : Json} {n : Nat}
    (hcount : Fields.get? "count" members = some value) (hmin : Fields.get? "min" members = none)
    (hmax : Fields.get? "max" members = none) (hn : value.natural? = some n) :
    decodeArrayCount members path = .ok (.fixed n) := by
  simp only [decodeArrayCount, hcount, hmin, hmax, hn]

/-- The length of an array is decoded from exactly the members that render it. -/
theorem decodeArrayCount_iff :
    decodeArrayCount members path = .ok count ↔ RendersLength members count := by
  constructor
  · intro h
    unfold decodeArrayCount at h
    split at h
    · next value hcount hmin hmax =>
      split at h
      · next n hn =>
        cases h
        obtain ⟨rfl, hword⟩ := Json.natural?_eq_some_iff.1 hn
        exact .fixed hcount hword hmin hmax
      · cases h
    · next hcount _ _ => exact .range hcount (decodeRange_iff.1 h)
    all_goals cases h
  · intro h
    cases h with
    | fixed hcount word hmin hmax =>
      exact decodeArrayCount_of_count hcount hmin hmax (Json.natural?_eq_some_iff.2 ⟨rfl, word⟩)
    | range hcount range =>
      have hdecoded : decodeRange members path = .ok count := decodeRange_iff.2 range
      cases range with
      | range hmin hmax => simpa only [decodeArrayCount, hcount, hmin, hmax] using hdecoded

end Decoder

/-! ## Nodes -/

/-- The names under which an object node may hold its properties. -/
inductive Container
  | properties
  | fields
  deriving DecidableEq

namespace Container

def key : Container → String
  | properties => "properties"
  | fields => "fields"

/-- The container that is not chosen. -/
def other : Container → Container
  | properties => fields
  | fields => properties

end Container

mutual

/-- A value renders a tree of rules: a scalar as its text, an array with its items and their number,
an object with exactly one container of its properties. -/
inductive RendersNode : Json → Node String → Prop
  | scalar (text : String) : RendersNode (.string text) (.scalar text)
  | array {members : Fields Json} {value : Json} {node : Node String} {count : Count}
      (type : Fields.get? "type" members = some (.string "array"))
      (items : Fields.get? "items" members = some value) (renders : RendersNode value node)
      (length : RendersLength members count) : RendersNode (.object members) (.array node count)
  | object {members properties : Fields Json} {nodes : Fields (Node String)}
      (container : Container) (type : Fields.get? "type" members = some (.string "object"))
      (held : Fields.get? container.key members = some (.object properties))
      (alone : Fields.get? container.other.key members = none)
      (renders : RendersProperties properties nodes) :
    RendersNode (.object members) (.object nodes)

/-- Members render named trees one by one, in order. -/
inductive RendersProperties : Fields Json → Fields (Node String) → Prop
  | nil : RendersProperties [] []
  | cons {name : String} {value : Json} {node : Node String} {members : Fields Json}
      {nodes : Fields (Node String)} (first : RendersNode value node)
      (rest : RendersProperties members nodes) :
    RendersProperties ((name, value) :: members) ((name, node) :: nodes)

end

namespace Decoder

/-- There is one container when it is there and the other one is not. -/
theorem container?_eq_some_iff {members : Fields Json} {key : String} :
    container? members = some key ↔ ∃ container : Container, key = container.key ∧
      Fields.get? container.key members ≠ none ∧
      Fields.get? container.other.key members = none := by
  have hexists {p : Container → Prop} : (∃ container, p container) ↔ p .properties ∨ p .fields := by
    constructor
    · rintro ⟨_ | _, h⟩
      · exact .inl h
      · exact .inr h
    · exact fun h => h.elim (⟨_, ·⟩) (⟨_, ·⟩)
  unfold container? containerKeys
  rw [hexists]
  cases hproperties : Fields.get? "properties" members <;>
    cases hfields : Fields.get? "fields" members <;>
    simp [Fields.has, Container.key, Container.other, hproperties, hfields, eq_comm]

variable {node : Node String} {nodes : Fields (Node String)}

mutual

/-- A tree is decoded from what renders it. -/
theorem decodeNode_iff (path : String) : ∀ {value : Json} {node : Node String},
    decodeNode path value = .ok node ↔ RendersNode value node
  | .string text, node => by
    rw [decodeNode]
    constructor
    · rintro ⟨⟩
      exact .scalar text
    · rintro ⟨⟩
      rfl
  | .object members, node => by
    unfold decodeNode
    constructor
    · intro h
      split at h
      · next htype =>
        simp only [bind_eq_ok, pure_eq_ok, decodeItems_iff path, decodeArrayCount_iff] at h
        obtain ⟨items, ⟨value, hvalue, hitems⟩, count, hcount, rfl⟩ := h
        exact .array (Json.bind_text?_eq_some_iff.1 htype) hvalue hitems hcount
      · next htype =>
        split at h
        · cases h
        · next key hkey =>
          obtain ⟨container, rfl, hheld, halone⟩ := container?_eq_some_iff.1 hkey
          simp only [bind_eq_ok, pure_eq_ok, decodeContainer_iff path container.key hheld] at h
          obtain ⟨nodes, ⟨properties, hproperties, hnodes⟩, rfl⟩ := h
          exact .object container (Json.bind_text?_eq_some_iff.1 htype) hproperties halone hnodes
      · cases h
    · intro h
      cases h with
      | array type items renders length =>
        simp only [Json.bind_text?_eq_some_iff.2 type, bind_eq_ok, pure_eq_ok]
        exact ⟨_, (decodeItems_iff path).2 ⟨_, items, renders⟩, _,
          decodeArrayCount_iff.2 length, rfl⟩
      | object container type held alone renders =>
        have hone : container? members = some container.key :=
          container?_eq_some_iff.2 ⟨container, rfl, by simp [held], alone⟩
        simp only [Json.bind_text?_eq_some_iff.2 type, hone, bind_eq_ok, pure_eq_ok]
        exact ⟨_, (decodeContainer_iff path container.key (by simp [held])).2
          ⟨_, held, renders⟩, rfl⟩
  | .null, _ | .bool _, _ | .integer _, _ | .real _, _ | .array _, _ => by
    rw [decodeNode.eq_def]
    exact iff_of_false (by simp [refuse]) (by rintro ⟨⟩)

/-- Items are decoded from what renders them. -/
theorem decodeItems_iff (path : String) :
    ∀ {members : List (String × Json)} {node : Node String}, decodeItems path members = .ok node ↔
      ∃ items, Fields.get? "items" members = some items ∧ RendersNode items node
  | [], _ => by simp [decodeItems, Fields.get?, refuse]
  | (name, value) :: rest, node => by
    rw [decodeItems, Fields.get?]
    split_ifs
    · simp [decodeNode_iff (itemsPath path)]
    · exact decodeItems_iff path

/-- A container that is there is decoded when it is an object that renders properties. -/
theorem decodeContainer_iff (path key : String) :
    ∀ {members : List (String × Json)} {nodes : List (String × Node String)},
      Fields.get? key members ≠ none → (decodeContainer path key members = .ok nodes ↔
        ∃ properties, Fields.get? key members = some (.object properties) ∧
          RendersProperties properties nodes)
  | [], _, h => absurd rfl h
  | (name, value) :: rest, nodes, h => by
    unfold decodeContainer
    rw [Fields.get?] at h ⊢
    split_ifs at h ⊢
    · cases value with
      | object properties => simp [decodeProperties_iff path]
      | _ => simp [refuse]
    · exact decodeContainer_iff path key h

/-- Properties are decoded from what renders them. -/
theorem decodeProperties_iff (path : String) :
    ∀ {members : List (String × Json)} {nodes : List (String × Node String)},
      decodeProperties path members = .ok nodes ↔ RendersProperties members nodes
  | [], nodes => by
    rw [decodeProperties]
    constructor
    · rintro ⟨⟩
      exact .nil
    · rintro ⟨⟩
      rfl
  | (name, value) :: rest, nodes => by
    simp only [decodeProperties, bind_eq_ok, pure_eq_ok, decodeNode_iff (propertyPath path name),
      decodeProperties_iff path]
    constructor
    · rintro ⟨node, hnode, others, hothers, rfl⟩
      exact .cons hnode hothers
    · rintro (_ | ⟨hnode, hothers⟩)
      exact ⟨_, hnode, _, hothers, rfl⟩

end

/-- Columns are decoded from what renders them. -/
theorem decodeColumns_iff {columns : Fields Json} {nodes : Fields (Node String)} :
    decodeColumns columns = .ok nodes ↔ RendersProperties columns nodes := by
  induction columns generalizing nodes with
  | nil =>
    rw [decodeColumns]
    constructor
    · rintro ⟨⟩
      exact .nil
    · rintro ⟨⟩
      rfl
  | cons column rest ih =>
    obtain ⟨name, value⟩ := column
    simp only [decodeColumns, bind_eq_ok, pure_eq_ok, decodeNode_iff, ih]
    constructor
    · rintro ⟨node, hnode, others, hothers, rfl⟩
      exact .cons hnode hothers
    · rintro (_ | ⟨hnode, hothers⟩)
      exact ⟨_, hnode, _, hothers, rfl⟩

end Decoder

/-! ## Definitions -/

/-- A value renders a definition: an object with a name that is not empty, a number of rows, and an
object of at least one column. -/
inductive Renders : Json → Definition String → Prop
  | object {members columns : Fields Json} {rows : Json} {definition : Definition String}
      (table : Fields.get? "table" members = some (.string definition.table))
      (named : definition.table ≠ "") (count : Fields.get? "count" members = some rows)
      (rows : RendersCount rows definition.count)
      (held : Fields.get? "columns" members = some (.object columns)) (nonempty : columns ≠ [])
      (renders : RendersProperties columns definition.columns) :
    Renders (.object members) definition

/-- **What is decoded** are the renderings of a definition, and it is that definition. -/
theorem decode_iff_renders {value : Json} {definition : Definition String} :
    Definition.decode value = .ok definition ↔ Renders value definition := by
  rw [Definition.decode_eq_ok_iff]
  constructor
  · rintro ⟨members, rows, columns, rfl, htable, hnamed, hcount, hrows, hheld, hne, hcolumns⟩
    exact .object htable hnamed hcount (Decoder.decodeCount_iff.1 hrows) hheld hne
      (Decoder.decodeColumns_iff.1 hcolumns)
  · rintro ⟨htable, hnamed, hcount, hrows, hheld, hne, hcolumns⟩
    exact ⟨_, _, _, rfl, htable, hnamed, hcount, Decoder.decodeCount_iff.2 hrows, hheld, hne,
      Decoder.decodeColumns_iff.2 hcolumns⟩

/-! ## Rendering -/

/-- A number of rows as a value. -/
def Count.render : Count → Json
  | fixed n => .integer n
  | range min max => .object [("min", .integer min), ("max", .integer max)]

/-- A number of items as members of an array node. -/
def Count.renderMembers : Count → Fields Json
  | fixed n => [("count", .integer n)]
  | range min max => [("min", .integer min), ("max", .integer max)]

namespace Node

mutual

/-- A tree as a value. The container of each object is chosen at its place: the names on the way to
it, where the items of an array are called so. -/
def render (choose : List String → Container) (place : List String) : Node String → Json
  | scalar text => .string text
  | array items count =>
    .object (("type", .string "array") ::
      ("items", render choose (place ++ ["items"]) items) :: count.renderMembers)
  | object properties =>
    .object [("type", .string "object"),
      ((choose place).key, .object (renderProperties choose place properties))]

/-- Properties as members, in order. -/
def renderProperties (choose : List String → Container) (place : List String) :
    List (String × Node String) → Fields Json
  | [] => []
  | (name, node) :: rest =>
    (name, render choose (place ++ [name]) node) :: renderProperties choose place rest

end

end Node

/-- A definition as a value. -/
def Definition.render (choose : List String → Container) (definition : Definition String) : Json :=
  .object [("table", .string definition.table), ("count", definition.count.render),
    ("columns", .object (Node.renderProperties choose [] definition.columns))]

/-- A definition has a name, a column, and counts whose bounds are words in order. -/
structure Definition.WellFormed (definition : Definition String) : Prop where
  named : definition.table ≠ ""
  rows : definition.count.Fits
  columns : definition.columns ≠ []
  counts : Node.PropertyCountsFit definition.columns

/-- A number of rows that fits is rendered by the value that is written for it. -/
theorem Count.renders_render {count : Count} (h : count.Fits) :
    RendersCount count.render count := by
  obtain ⟨hordered, hword⟩ := h
  cases count with
  | fixed n => exact .fixed hword
  | range min max => exact .range (.range rfl rfl hordered hword)

/-- The length of an array that fits is rendered by the members that are written for it. -/
theorem Count.rendersLength_renderMembers {count : Count} (h : count.Fits) (value : Json) :
    RendersLength (("type", .string "array") :: ("items", value) :: count.renderMembers) count := by
  obtain ⟨hordered, hword⟩ := h
  cases count with
  | fixed n => exact .fixed rfl hword rfl rfl
  | range min max => exact .range rfl (.range rfl rfl hordered hword)

namespace Node

mutual

/-- A tree with fitting counts is rendered. -/
theorem renders_render (choose : List String → Container) (place : List String) :
    ∀ {node : Node String}, node.CountsFit → RendersNode (node.render choose place) node
  | scalar text, _ => .scalar text
  | array items count, h =>
    .array rfl rfl (renders_render choose (place ++ ["items"]) h.2)
      (Count.rendersLength_renderMembers h.1 _)
  | object properties, h => by
    have hproperties := renders_renderProperties choose place h
    rw [render]
    cases hchoice : choose place with
    | properties => exact .object .properties rfl rfl rfl hproperties
    | fields => exact .object .fields rfl rfl rfl hproperties

/-- Properties with fitting counts are rendered. -/
theorem renders_renderProperties (choose : List String → Container) (place : List String) :
    ∀ {properties : List (String × Node String)}, PropertyCountsFit properties →
      RendersProperties (renderProperties choose place properties) properties
  | [], _ => .nil
  | (name, _) :: _, h =>
    .cons (renders_render choose (place ++ [name]) h.1) (renders_renderProperties choose place h.2)

end

end Node

/-- A well-formed definition is rendered, whichever containers are chosen. -/
theorem Definition.WellFormed.renders_render {definition : Definition String}
    (h : definition.WellFormed) (choose : List String → Container) :
    Renders (definition.render choose) definition := by
  have hcolumns : Node.renderProperties choose [] definition.columns ≠ [] := by
    obtain ⟨column, rest, hcolumns⟩ := List.exists_cons_of_ne_nil h.columns
    rw [hcolumns, Node.renderProperties]
    exact List.cons_ne_nil _ _
  exact .object rfl h.named rfl (Count.renders_render h.rows) rfl hcolumns
    (Node.renders_renderProperties choose [] h.counts)

/-- **The decoder accepts exactly the documented form.** A value is decoded to a definition when it
renders that definition, and to nothing else; and every well-formed definition is decoded from its
rendering, whichever containers are chosen for its objects. -/
theorem decodes_exactly_renderings :
    (∀ (value : Json) (definition : Definition String),
      Definition.decode value = .ok definition ↔ Renders value definition) ∧
    ∀ (choose : List String → Container) (definition : Definition String),
      definition.WellFormed → Definition.decode (definition.render choose) = .ok definition :=
  ⟨fun _ _ => decode_iff_renders,
    fun choose _ h => decode_iff_renders.2 (h.renders_render choose)⟩

/-- Accounts with contacts: an array of objects, in which one object holds another one. -/
def contacts : Definition String where
  table := "accounts"
  count := .range 2 4
  columns := [("name", .scalar "company.name"),
    ("contacts", .array (.object [("email", .scalar "internet.email"),
      ("address", .object [("city", .scalar "location.city")])]) (.range 1 3)),
    ("tags", .array (.scalar "lorem.word") (.fixed 2))]

/-- Contacts whose addresses have fields are decoded. -/
theorem decodes_exactly_renderings_contacts :
    let choose (place : List String) : Container :=
      if place = ["contacts", "items", "address"] then .fields else .properties
    contacts.WellFormed ∧ Definition.decode (contacts.render choose) = .ok contacts := by
  intro choose
  have hwell : contacts.WellFormed :=
    { named := by decide
      rows := ⟨by decide, by decide⟩
      columns := by simp [contacts]
      counts := ⟨trivial, ⟨⟨by decide, by decide⟩, trivial, ⟨trivial, trivial⟩, trivial⟩,
        ⟨⟨by decide, by decide⟩, trivial⟩, trivial⟩ }
  exact ⟨hwell, decodes_exactly_renderings.2 choose contacts hwell⟩

end Seedbed
