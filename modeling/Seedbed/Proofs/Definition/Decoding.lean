import Seedbed.Definition.Compiler
import Seedbed.Proofs.Definition.Traversal
import Seedbed.Proofs.Json.Distinct

/-!
# What a decoded and a compiled definition hold

`decode_eq_ok_iff` says which values are decoded and to what. Every number of rows or items that was
decoded is a word and has its bounds in order (`Count.Fits`), in every array of every column
(`Node.CountsFit`); the columns are those of the value, so their names are distinct where the names
of objects are. Compiling keeps all of this and parses the scalars (`compile_eq_ok_iff`).
-/

namespace Seedbed

variable {ε α β : Type}

/-! ## Counts -/

/-- The bounds of a count are in order and fit a word. -/
def Count.Fits (count : Count) : Prop :=
  count.bounds.1 ≤ count.bounds.2 ∧ count.bounds.2 < 2 ^ 64

namespace Node

mutual

/-- The counts of all arrays of a tree fit. -/
def CountsFit : Node α → Prop
  | scalar _ => True
  | array items count => count.Fits ∧ CountsFit items
  | object properties => PropertyCountsFit properties

/-- `CountsFit` of the properties of an object. -/
def PropertyCountsFit : List (String × Node α) → Prop
  | [] => True
  | (_, node) :: rest => CountsFit node ∧ PropertyCountsFit rest

end

mutual

/-- Converting the scalars of a tree keeps its counts. -/
theorem countsFit_of_traverse {f : String → α → Except ε β} (path : String) :
    ∀ {node : Node α} {out : Node β}, node.traverse f path = .ok out → node.CountsFit →
      out.CountsFit
  | scalar value, out, h, _ => by
    simp only [traverse, bind_eq_ok, pure_eq_ok] at h
    obtain ⟨b, -, rfl⟩ := h
    trivial
  | array items count, out, h, hc => by
    simp only [traverse, bind_eq_ok, pure_eq_ok] at h
    obtain ⟨items', hi, rfl⟩ := h
    exact ⟨hc.1, countsFit_of_traverse (itemsPath path) hi hc.2⟩
  | object properties, out, h, hc => by
    simp only [traverse, bind_eq_ok, pure_eq_ok] at h
    obtain ⟨properties', hp, rfl⟩ := h
    exact countsFit_of_traverseProperties path hp hc

/-- Converting the scalars of properties keeps their counts. -/
theorem countsFit_of_traverseProperties {f : String → α → Except ε β} (path : String) :
    ∀ {properties : List (String × Node α)} {out : List (String × Node β)},
      traverseProperties f path properties = .ok out → PropertyCountsFit properties →
      PropertyCountsFit out
  | [], out, h, _ => by
    simp only [traverseProperties, pure_eq_ok] at h
    subst h
    trivial
  | (name, node) :: rest, out, h, hc => by
    simp only [traverseProperties, bind_eq_ok, pure_eq_ok] at h
    obtain ⟨node', hn, rest', hr, rfl⟩ := h
    exact ⟨countsFit_of_traverse (propertyPath path name) hn hc.1,
      countsFit_of_traverseProperties path hr hc.2⟩

end

end Node

/-! ## Decoding -/

/-- A value has members when it is an object, and those are the members. -/
theorem Json.members?_eq_some_iff {value : Json} {members : Fields Json} :
    value.members? = some members ↔ value = object members := by
  cases value <;> simp [Json.members?]

namespace Decoder

/-- There is no container when not exactly one of its names occurs. -/
theorem container?_eq_none {members : Fields Json}
    (h : ∀ key, (containerKeys.filter fun key => Fields.has key members) ≠ [key]) :
    container? members = none := by
  unfold container?
  split
  · next key hkey => exact absurd hkey (h key)
  · rfl

/-- A whole number that was read is a word. -/
theorem fits_of_natural? {value : Json} {n : Nat} (h : value.natural? = some n) :
    (Count.fixed n).Fits :=
  ⟨Nat.le_refl n, (Json.natural?_eq_some_iff.1 h).2⟩

/-- The bounds of a range that was decoded are in order and words. -/
theorem decodeRange_fits {members : Fields Json} {path : String} {count : Count}
    (h : decodeRange members path = .ok count) : count.Fits := by
  unfold decodeRange at h
  split at h
  · next min max hmin hmax =>
    split at h
    · next hle =>
      cases h
      obtain ⟨value, -, hv⟩ := Option.bind_eq_some_iff.1 hmax
      exact ⟨hle, (fits_of_natural? hv).2⟩
    · cases h
  · cases h

/-- A decoded number of rows is one that a word can hold, and a range of it is in order. -/
theorem decodeCount_fits {value : Json} {path : String} {count : Count}
    (h : decodeCount value path = .ok count) : count.Fits := by
  unfold decodeCount at h
  split at h
  · next hn => cases h; exact fits_of_natural? hn
  · split at h
    · exact decodeRange_fits h
    · cases h

/-- A decoded length of an array is one that a word can hold, and a range of it is in order. -/
theorem decodeArrayCount_fits {members : Fields Json} {path : String} {count : Count}
    (h : decodeArrayCount members path = .ok count) : count.Fits := by
  unfold decodeArrayCount at h
  split at h
  · split at h
    · next hn => cases h; exact fits_of_natural? hn
    · cases h
  · exact decodeRange_fits h
  all_goals cases h

mutual

/-- The counts of a decoded tree fit. -/
theorem decodeNode_countsFit (path : String) : ∀ {value : Json} {node : Node String},
    decodeNode path value = .ok node → node.CountsFit
  | .string text, node, h => by
    simp only [decodeNode] at h
    cases h
    trivial
  | .object members, node, h => by
    unfold decodeNode at h
    split at h
    · simp only [bind_eq_ok, pure_eq_ok] at h
      obtain ⟨items, hi, count, hc, rfl⟩ := h
      exact ⟨decodeArrayCount_fits hc, decodeItems_countsFit path hi⟩
    · split at h
      · cases h
      · simp only [bind_eq_ok, pure_eq_ok] at h
        obtain ⟨properties, hp, rfl⟩ := h
        exact decodeContainer_countsFit path _ hp
    · cases h
  | .null, _, h | .bool _, _, h | .integer _, _, h | .real _, _, h | .array _, _, h => by
    simp only [decodeNode] at h
    cases h

/-- The counts of decoded items fit. -/
theorem decodeItems_countsFit (path : String) :
    ∀ {members : List (String × Json)} {node : Node String},
      decodeItems path members = .ok node → node.CountsFit
  | [], _, h => by cases h
  | (name, value) :: rest, node, h => by
    unfold decodeItems at h
    split at h
    · exact decodeNode_countsFit (itemsPath path) h
    · exact decodeItems_countsFit path h

/-- The counts of a decoded container fit. -/
theorem decodeContainer_countsFit (path key : String) :
    ∀ {members : List (String × Json)} {properties : List (String × Node String)},
      decodeContainer path key members = .ok properties → Node.PropertyCountsFit properties
  | [], properties, h => by
    simp only [decodeContainer] at h
    cases h
    trivial
  | (name, value) :: rest, properties, h => by
    unfold decodeContainer at h
    split at h
    · cases value with
      | object members => exact decodeProperties_countsFit path h
      | _ => cases h
    · exact decodeContainer_countsFit path key h

/-- The counts of decoded properties fit. -/
theorem decodeProperties_countsFit (path : String) :
    ∀ {members : List (String × Json)} {properties : List (String × Node String)},
      decodeProperties path members = .ok properties → Node.PropertyCountsFit properties
  | [], properties, h => by
    simp only [decodeProperties] at h
    cases h
    trivial
  | (name, value) :: rest, properties, h => by
    simp only [decodeProperties, bind_eq_ok, pure_eq_ok] at h
    obtain ⟨node, hn, properties, hr, rfl⟩ := h
    exact ⟨decodeNode_countsFit (propertyPath path name) hn, decodeProperties_countsFit path hr⟩

end

/-- Each decoded column is a member of the columns with its value decoded, in the same order. -/
theorem decodeColumns_forall₂ {columns : Fields Json} {decoded : Fields (Node String)}
    (h : decodeColumns columns = .ok decoded) :
    List.Forall₂ (fun column tree => tree.1 = column.1 ∧
      decodeNode (columnPath column.1) column.2 = .ok tree.2) columns decoded := by
  induction columns generalizing decoded with
  | nil =>
    simp only [decodeColumns] at h
    cases h
    exact .nil
  | cons column rest ih =>
    obtain ⟨name, value⟩ := column
    simp only [decodeColumns, bind_eq_ok, pure_eq_ok] at h
    obtain ⟨node, hn, rest', hr, rfl⟩ := h
    exact .cons ⟨rfl, hn⟩ (ih hr)

end Decoder

namespace Definition

/-- A value is decoded when it is an object with a table name, a number of rows and at least one
column, each of which is decoded. -/
theorem decode_eq_ok_iff {value : Json} {definition : Definition String} :
    decode value = .ok definition ↔
      ∃ members count columns, value = .object members ∧
        Fields.get? "table" members = some (.string definition.table) ∧ definition.table ≠ "" ∧
        Fields.get? "count" members = some count ∧
        Decoder.decodeCount count "$.count" = .ok definition.count ∧
        Fields.get? "columns" members = some (.object columns) ∧ columns ≠ [] ∧
        Decoder.decodeColumns columns = .ok definition.columns := by
  constructor
  · intro h
    unfold decode at h
    split at h
    · next members hm =>
      simp only [bind, Except.bind, pure, Except.pure, Decoder.refuse] at h
      split at h
      · next table ht =>
        split at h
        · cases h
        · next hne =>
          split at h
          · cases h
          · next count hc =>
            split at h
            · cases h
            · next decoded hd =>
              split at h
              · next column rest hcs =>
                split at h
                · cases h
                · next columns hcd =>
                  cases h
                  have ht := Json.bind_text?_eq_some_iff.1 ht
                  obtain ⟨_, hcs, hs⟩ := Option.bind_eq_some_iff.1 hcs
                  cases Json.members?_eq_some_iff.1 hs
                  exact ⟨members, count, column :: rest, Json.members?_eq_some_iff.1 hm, ht,
                    by simpa using hne, hc, hd, hcs, by simp, hcd⟩
              · cases h
      · cases h
    · cases h
  · rintro ⟨members, count, columns, rfl, ht, hne, hc, hd, hcs, hcn, hcd⟩
    obtain ⟨column, rest, rfl⟩ := List.exists_cons_of_ne_nil hcn
    simp [decode, Json.members?, Json.text?, ht, hne, hc, hd, hcs, hcd, bind, Except.bind, pure,
      Except.pure]

/-! ## Compiling -/

/-- A value compiles to what parsing the scalars of its decoded definition gives. -/
theorem compile_eq_ok_iff {value : Json} {definition : Compiled} :
    compile value = .ok definition ↔
      ∃ decoded, decode value = .ok decoded ∧ decoded.traverse parseAt = .ok definition := by
  simp only [compile, bind_eq_ok, mapError_eq_ok]

variable {value : Json} {definition : Compiled}

/-- Each compiled column comes from a decoded column of the same name. -/
theorem compile_columns (h : compile value = .ok definition) :
    ∃ members columns decoded, value = .object members ∧
      Fields.get? "columns" members = some (.object columns) ∧
      Decoder.decodeColumns columns = .ok decoded ∧
      traverseColumns parseAt decoded = .ok definition.columns := by
  obtain ⟨decoded, hd, ht⟩ := compile_eq_ok_iff.1 h
  obtain ⟨members, -, columns, hv, -, -, -, -, hc, -, hcd⟩ := decode_eq_ok_iff.1 hd
  exact ⟨members, columns, decoded.columns, hv, hc, hcd, (traverse_eq_ok ht).2.2⟩

/-- The columns of a compiled definition have the names of the columns of the value. -/
theorem columnNames_of_traverse {columns : Fields Json} {decoded : Fields (Node String)}
    (hd : Decoder.decodeColumns columns = .ok decoded)
    (ht : traverseColumns parseAt decoded = .ok definition.columns) :
    definition.columnNames = Fields.names columns := by
  have hdecoded : Fields.names decoded = Fields.names columns :=
    Fields.names_eq_of_forall₂ (Decoder.decodeColumns_forall₂ hd) fun _ _ h => h.1
  have hcompiled : definition.columnNames = Fields.names decoded :=
    Fields.names_eq_of_forall₂ (columns_of_traverseColumns ht) fun _ _ h => h.1
  exact hcompiled.trans hdecoded

/-- The columns of a compiled definition have distinct names when no object of the value has a name
twice. -/
theorem compile_nodup (hv : value.Distinct) (h : compile value = .ok definition) :
    definition.columnNames.Nodup := by
  obtain ⟨members, columns, decoded, rfl, hc, hd, ht⟩ := compile_columns h
  rw [columnNames_of_traverse hd ht]
  have hobject := (Json.distinct_object.1 hv).2 _ (Fields.mem_of_get? hc)
  exact (Json.distinct_object.1 hobject).1

/-- The number of rows of a compiled definition fits. -/
theorem compile_count_fits (h : compile value = .ok definition) : definition.count.Fits := by
  obtain ⟨decoded, hd, ht⟩ := compile_eq_ok_iff.1 h
  obtain ⟨-, _, -, -, -, -, -, hc, -⟩ := decode_eq_ok_iff.1 hd
  rw [(traverse_eq_ok ht).2.1]
  exact Decoder.decodeCount_fits hc

/-- The counts of all arrays of a compiled definition fit. -/
theorem compile_countsFit (h : compile value = .ok definition) {column : String × Node Rule}
    (hc : column ∈ definition.columns) : column.2.CountsFit := by
  obtain ⟨-, columns, decoded, -, -, hd, ht⟩ := compile_columns h
  obtain ⟨tree, htree, -, hconverted⟩ :=
    exists_mem_of_forall₂ (columns_of_traverseColumns ht) hc
  obtain ⟨column', -, -, hdecoded⟩ :=
    exists_mem_of_forall₂ (Decoder.decodeColumns_forall₂ hd) htree
  exact Node.countsFit_of_traverse _ hconverted (Decoder.decodeNode_countsFit _ hdecoded)

/-- Every scalar of a compiled definition is what some text was parsed to. -/
theorem compile_scalar_parsed (h : compile value = .ok definition) {column : String × Node Rule}
    (hc : column ∈ definition.columns) {scalar : String × Rule}
    (hs : scalar ∈ column.2.scalars (columnPath column.1)) :
    ∃ text, Rule.parse text = .ok scalar.2 := by
  obtain ⟨-, -, decoded, -, -, -, ht⟩ := compile_columns h
  obtain ⟨text, -, hparsed⟩ := exists_scalar_of_traverseColumns ht hc hs
  exact ⟨text, mapError_eq_ok.1 hparsed⟩

end Definition

end Seedbed
