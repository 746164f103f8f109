/-!
# Named fields in order

The members of a JSON object and the columns of a row are lists of named values whose order is kept
and shown. `put` replaces the value of a name where it stands and appends a new name at the end, so
a list built by `put` never holds a name twice (`nodup_names_put`). `ofMembers` reads a written
object the same way: a repeated name keeps its first position and its last value.
-/

namespace Seedbed

/-- Values under names, in order. -/
abbrev Fields (α : Type) := List (String × α)

namespace Fields

variable {α : Type}

/-- The value under a name: of a repeated name the first. -/
def get? (name : String) : Fields α → Option α
  | [] => none
  | (key, value) :: rest => if key = name then some value else get? name rest

/-- The names in order. -/
def names (fields : Fields α) : List String :=
  fields.map Prod.fst

/-- Whether a name occurs. -/
def has (name : String) (fields : Fields α) : Bool :=
  (get? name fields).isSome

/-- Sets the value of a name: in place when the name occurs, else at the end. -/
def put (name : String) (value : α) : Fields α → Fields α
  | [] => [(name, value)]
  | (key, old) :: rest =>
    if key = name then (key, value) :: rest else (key, old) :: put name value rest

/-- The fields that a written list of members stands for: each is `put` in turn. -/
def ofMembers (members : Fields α) : Fields α :=
  members.foldl (fun fields member => put member.1 member.2 fields) []

/-- No value stands under a name that is not there. -/
theorem get?_eq_none_iff {name : String} {fields : Fields α} :
    get? name fields = none ↔ name ∉ names fields := by
  induction fields with
  | nil => simp [get?, names]
  | cons field rest ih =>
    obtain ⟨key, value⟩ := field
    simp only [get?, names, List.map_cons, List.mem_cons, not_or]
    split
    · next h => simp [h]
    · next h => simpa [Ne.symm h, names] using ih

@[simp] theorem get?_put_self (name : String) (value : α) (fields : Fields α) :
    get? name (put name value fields) = some value := by
  induction fields with
  | nil => simp [put, get?]
  | cons field rest ih =>
    obtain ⟨key, old⟩ := field
    simp only [put]
    split
    · next h => simp [get?, h]
    · next h => simpa [get?, h] using ih

/-- Putting a value under a name leaves the values under other names. -/
theorem get?_put_of_ne {name other : String} (h : name ≠ other) (value : α) (fields : Fields α) :
    get? other (put name value fields) = get? other fields := by
  induction fields with
  | nil => simp [put, get?, h]
  | cons field rest ih =>
    obtain ⟨key, old⟩ := field
    simp only [put]
    split
    · next hk => subst hk; simp [get?, h]
    · next hk => simp only [get?, ih]

/-- `put` under a new name appends. -/
theorem put_of_not_mem {name : String} {fields : Fields α} (h : name ∉ names fields) (value : α) :
    put name value fields = fields ++ [(name, value)] := by
  induction fields with
  | nil => rfl
  | cons field rest ih =>
    obtain ⟨key, old⟩ := field
    simp only [names, List.map_cons, List.mem_cons, not_or] at h
    simp [put, Ne.symm h.1, ih h.2]

/-- `put` under a name that occurs keeps the names. -/
theorem names_put_of_mem {name : String} {fields : Fields α} (h : name ∈ names fields) (value : α) :
    names (put name value fields) = names fields := by
  induction fields with
  | nil => simp [names] at h
  | cons field rest ih =>
    obtain ⟨key, old⟩ := field
    simp only [put]
    split
    · rfl
    · next hk =>
      have hr : name ∈ names rest := by simpa [names, Ne.symm hk] using h
      have := ih hr
      simp only [names, List.map_cons] at this ⊢
      rw [this]

/-- Putting a value under a name keeps the names apart. -/
theorem nodup_names_put {fields : Fields α} (h : (names fields).Nodup) (name : String) (value : α) :
    (names (put name value fields)).Nodup := by
  by_cases hm : name ∈ names fields
  · rwa [names_put_of_mem hm]
  · rw [put_of_not_mem hm]
    simp only [names, List.map_append, List.map_cons, List.map_nil] at h hm ⊢
    exact List.nodup_append.2 ⟨h, by simp, by
      intro a ha b hb
      rintro rfl
      simp only [List.mem_singleton] at hb
      exact hm (hb ▸ ha)⟩

end Fields

end Seedbed
