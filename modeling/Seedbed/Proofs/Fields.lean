import Mathlib.Data.List.Forall2
import Seedbed.Fields

/-!
# Fields with distinct names

What `Fields.get?` finds is among the fields, and when the names are distinct each field is found
under its name. The fields that a written list of members stands for have distinct names.
-/

namespace Seedbed

variable {α β : Type}

/-- Of two lists that match one by one, each element of the second matches one of the first. -/
theorem exists_mem_of_forall₂ {r : α → β → Prop} {as : List α} {bs : List β}
    (h : List.Forall₂ r as bs) {b : β} (hb : b ∈ bs) : ∃ a ∈ as, r a b := by
  induction h with
  | nil => cases hb
  | cons hab _ ih =>
    rcases List.mem_cons.1 hb with rfl | hb
    · exact ⟨_, List.mem_cons_self .., hab⟩
    · obtain ⟨a, ha, h⟩ := ih hb
      exact ⟨a, List.mem_cons_of_mem _ ha, h⟩

/-- The elements at an index are related. -/
theorem forall₂_getElem? {r : α → β → Prop} {as : List α} {bs : List β} (h : List.Forall₂ r as bs)
    (i : Nat) : Option.Rel r as[i]? bs[i]? := by
  induction h generalizing i with
  | nil => exact .none
  | cons hr _ ih =>
    cases i with
    | zero => exact .some hr
    | succ i => exact ih i

/-- Three lists that match one by one. -/
theorem forall₂_trans {γ : Type} {r : α → β → Prop} {s : β → γ → Prop} {t : α → γ → Prop}
    (htrans : ∀ a b c, r a b → s b c → t a c) {as : List α} {bs : List β} {cs : List γ}
    (h : List.Forall₂ r as bs) (h' : List.Forall₂ s bs cs) : List.Forall₂ t as cs := by
  induction h generalizing cs with
  | nil => cases h'; exact .nil
  | cons hr _ ih =>
    cases h' with
    | cons hs hrest => exact .cons (htrans _ _ _ hr hs) (ih hrest)

/-- Elements that each have a partner have a list of partners. -/
theorem exists_forall₂ {r : α → β → Prop} {as : List α} (h : ∀ a ∈ as, ∃ b, r a b) :
    ∃ bs, List.Forall₂ r as bs := by
  induction as with
  | nil => exact ⟨[], .nil⟩
  | cons a rest ih =>
    obtain ⟨⟨b, hb⟩, hrest⟩ := List.forall_mem_cons.1 h
    obtain ⟨bs, hbs⟩ := ih hrest
    exact ⟨b :: bs, .cons hb hbs⟩

namespace Fields

/-! ## Looking up -/

/-- What is found under a name is a field. -/
theorem mem_of_get? {name : String} {fields : Fields α} {value : α}
    (h : get? name fields = some value) : (name, value) ∈ fields := by
  induction fields with
  | nil => cases h
  | cons field rest ih =>
    obtain ⟨key, old⟩ := field
    rw [get?] at h
    split at h
    · next hk =>
      cases h
      exact hk ▸ List.mem_cons_self ..
    · exact List.mem_cons_of_mem _ (ih h)

/-- Of distinct names each is found with its field. -/
theorem get?_of_mem {name : String} {fields : Fields α} {value : α} (hn : (names fields).Nodup)
    (h : (name, value) ∈ fields) : get? name fields = some value := by
  induction fields with
  | nil => cases h
  | cons field rest ih =>
    obtain ⟨key, old⟩ := field
    obtain ⟨hnot, hrest⟩ := List.nodup_cons.1 hn
    rw [get?]
    rcases List.mem_cons.1 h with he | h
    · cases he
      exact if_pos rfl
    · have hne : key ≠ name := by
        rintro rfl
        exact hnot (List.mem_map.2 ⟨_, h, rfl⟩)
      rw [if_neg hne]
      exact ih hrest h

/-- A name that occurs in front is found there. -/
theorem get?_append_of_mem {name : String} {fields : Fields α} (h : name ∈ names fields)
    (others : Fields α) : get? name (fields ++ others) = get? name fields := by
  induction fields with
  | nil => cases h
  | cons field rest ih =>
    obtain ⟨key, value⟩ := field
    rw [List.cons_append, get?, get?]
    split
    · rfl
    · next hne => exact ih ((List.mem_cons.1 h).resolve_left (Ne.symm hne))

/-- Fields that match one by one under the same names have the same names. -/
theorem names_eq_of_forall₂ {r : String × α → String × β → Prop} {fields : Fields α}
    {others : Fields β} (h : List.Forall₂ r fields others)
    (hr : ∀ field other, r field other → other.1 = field.1) : names others = names fields := by
  induction h with
  | nil => rfl
  | cons hab _ ih =>
    simp only [names, List.map_cons] at ih ⊢
    rw [hr _ _ hab, ih]

/-- Fields whose values are told by their names. -/
theorem eq_map_names {fields : Fields α} {f : String → α}
    (h : ∀ field ∈ fields, field.2 = f field.1) :
    fields = (names fields).map fun name => (name, f name) := by
  rw [names, List.map_map]
  exact (List.map_id fields).symm.trans
    (List.map_congr_left fun field hfield => Prod.ext rfl (h field hfield))

/-! ## Setting a field -/

/-- Setting a name keeps the names, or appends the name when it is new. -/
theorem names_put (name : String) (value : α) (fields : Fields α) :
    names (put name value fields) =
      if name ∈ names fields then names fields else names fields ++ [name] := by
  split
  · next hmem => exact names_put_of_mem hmem value
  · next hnew =>
    rw [put_of_not_mem hnew]
    simp [names]

/-- Setting a name adds at most that name. -/
theorem mem_names_put_iff {name key : String} {value : α} {fields : Fields α} :
    key ∈ names (put name value fields) ↔ key = name ∨ key ∈ names fields := by
  by_cases hm : name ∈ names fields
  · rw [names_put_of_mem hm]
    exact (or_iff_right_of_imp fun h => h ▸ hm).symm
  · rw [put_of_not_mem hm]
    simp [names, or_comm]

/-- A field of fields with a name set is the new one or was there before. -/
theorem mem_put {name : String} {value : α} {fields : Fields α} {field : String × α}
    (h : field ∈ put name value fields) : field.2 = value ∨ field ∈ fields := by
  induction fields with
  | nil =>
    rw [put, List.mem_singleton] at h
    exact .inl (h ▸ rfl)
  | cons head rest ih =>
    obtain ⟨key, old⟩ := head
    rw [put] at h
    split at h
    · rcases List.mem_cons.1 h with rfl | h
      · exact .inl rfl
      · exact .inr (List.mem_cons_of_mem _ h)
    · rcases List.mem_cons.1 h with rfl | h
      · exact .inr (List.mem_cons_self ..)
      · exact (ih h).imp id (List.mem_cons_of_mem _)

/-- Setting a name to the value that it has changes nothing. -/
theorem put_of_get? {name : String} {value : α} {fields : Fields α}
    (h : get? name fields = some value) : put name value fields = fields := by
  induction fields with
  | nil => cases h
  | cons field rest ih =>
    obtain ⟨key, old⟩ := field
    rw [get?] at h
    rw [put]
    split at h
    · next hkey =>
      obtain rfl : old = value := Option.some.inj h
      rw [if_pos hkey]
    · next hkey => rw [if_neg hkey, ih h]

/-- Of two values set under one name the later one counts. -/
theorem put_put_self (name : String) (value old : α) (fields : Fields α) :
    put name value (put name old fields) = put name value fields := by
  induction fields with
  | nil => simp [put]
  | cons field rest ih =>
    obtain ⟨key, other⟩ := field
    by_cases hkey : key = name
    · simp [put, hkey]
    · simp [put, hkey, ih]

/-- Setting two names, of which one is there already, can be done in either order. -/
theorem put_comm_of_mem {name other : String} (hne : name ≠ other) {fields : Fields α}
    (hmem : name ∈ names fields) (value otherValue : α) :
    put name value (put other otherValue fields) =
      put other otherValue (put name value fields) := by
  induction fields with
  | nil => cases hmem
  | cons field rest ih =>
    obtain ⟨key, old⟩ := field
    by_cases hkey : key = name
    · subst hkey
      simp [put, hne]
    · have hrest : name ∈ names rest := (List.mem_cons.1 hmem).resolve_left (Ne.symm hkey)
      by_cases hother : key = other
      · subst hother
        simp [put, hkey]
      · simp [put, hkey, hother, ih hrest]

/-- A measure of all fields changes with `put` by what the new value has more than the old one. -/
theorem foldr_put (measure : α → Nat) (name : String) (value : α) (fields : Fields α) :
    ((put name value fields).map fun field => measure field.2).foldr (· + ·) 0 +
        ((get? name fields).map measure).getD 0 =
      (fields.map fun field => measure field.2).foldr (· + ·) 0 + measure value := by
  induction fields with
  | nil => simp [put, get?]
  | cons field rest ih =>
    obtain ⟨key, old⟩ := field
    rw [put, get?]
    split
    · simp only [List.map_cons, List.foldr_cons, Option.map_some, Option.getD_some]
      omega
    · simp only [List.map_cons, List.foldr_cons]
      omega

/-! ## The fields of written members -/

/-- The names of the fields that members stand for are distinct. -/
theorem nodup_names_ofMembers (members : Fields α) : (names (ofMembers members)).Nodup := by
  have hfold : ∀ (members fields : Fields α), (names fields).Nodup →
      (names (members.foldl (fun fields member => put member.1 member.2 fields) fields)).Nodup := by
    intro members
    induction members with
    | nil => exact fun _ h => h
    | cons member rest ih => exact fun fields h => ih _ (nodup_names_put h member.1 member.2)
  exact hfold members [] List.nodup_nil

/-- The values of the fields that members stand for are values of members. -/
theorem mem_ofMembers {members : Fields α} {field : String × α} (h : field ∈ ofMembers members) :
    ∃ member ∈ members, field.2 = member.2 := by
  have hfold : ∀ (members fields : Fields α),
      field ∈ members.foldl (fun fields member => put member.1 member.2 fields) fields →
        field ∈ fields ∨ ∃ member ∈ members, field.2 = member.2 := by
    intro members
    induction members with
    | nil => exact fun _ h => .inl h
    | cons member rest ih =>
      intro fields h
      rcases ih _ h with h | ⟨other, ho, he⟩
      · rcases mem_put h with he | h
        · exact .inr ⟨member, List.mem_cons_self .., he⟩
        · exact .inl h
      · exact .inr ⟨other, List.mem_cons_of_mem _ ho, he⟩
  exact (hfold members [] h).resolve_left (List.not_mem_nil)

end Fields

end Seedbed
