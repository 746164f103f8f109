import Seedbed.Generation.Cache
import Seedbed.Proofs.Fields
import Seedbed.Proofs.Random.Bounds

/-!
# Caches whose rows are related

Two caches that keep the same tables, with as many rows in each and the rows related one by one,
cannot be told apart by what picking a row draws: from one source the same row is picked in both,
and the source goes on in the same way (`Related.pick?`). Keeping rows that are related in both
keeps the caches related.
-/

namespace Seedbed.Cache

/-- Two caches have the same tables, whose rows are related one by one. -/
def Related (r : Row → Row → Prop) (left right : Cache) : Prop :=
  ∀ table, Option.Rel (List.Forall₂ r) (left.rows? table) (right.rows? table)

variable {r : Row → Row → Prop} {left right : Cache} {table : String}

/-- A cache is related to itself by a relation in which every row stands to itself. -/
theorem Related.refl (hr : ∀ row, r row row) (cache : Cache) : cache.Related r cache := by
  intro table
  cases cache.rows? table with
  | none => exact .none
  | some rows => exact .some (List.forall₂_same.2 fun row _ => hr row)

/-- Caches stay related when rows that are related join them. -/
theorem Related.insert (h : left.Related r right) {rows others : List Row}
    (hrows : List.Forall₂ r rows others) :
    (left.insert table rows).Related r (right.insert table others) := by
  intro other
  by_cases ht : table = other
  · subst ht
    rw [rows?_insert_self, rows?_insert_self]
    exact .some hrows
  · rw [rows?_insert_of_ne ht, rows?_insert_of_ne ht]
    exact h other

/-- Caches stay related when the rows of a table are replaced by others that are related to those
of the other cache. -/
theorem Related.replace (h : left.Related r right) {rows others : List Row}
    (hleft : left.rows? table = some rows) (hrows : List.Forall₂ r rows others) :
    left.Related r (right.insert table others) := by
  intro other
  by_cases ht : table = other
  · subst ht
    rw [rows?_insert_self, hleft]
    exact .some hrows
  · rw [rows?_insert_of_ne ht]
    exact h other

/-- **The same row is picked** from both caches, and the source goes on alike. -/
theorem Related.pick? (h : left.Related r right) (table : String) (source : Random.Source) :
    Option.Rel r (left.pick? table source).1 (right.pick? table source).1 ∧
      (left.pick? table source).2 = (right.pick? table source).2 := by
  have hrows := h table
  unfold Cache.pick?
  generalize left.rows? table = rows at hrows ⊢
  generalize right.rows? table = others at hrows ⊢
  cases hrows with
  | none => exact ⟨.none, rfl⟩
  | @some rows others hrows =>
    simp only [Random.Draw.bind_apply, ← hrows.length_eq]
    cases (Random.Draw.index? rows.length source).1 with
    | none => exact ⟨.none, rfl⟩
    | some i => exact ⟨forall₂_getElem? hrows i, rfl⟩

end Seedbed.Cache
