import Seedbed.Generator.BuiltIn

/-!
# What generators draw on different days

A generator is told the day, and a date that it makes may depend on it. That a generator draws the
same on two days (`Generator.DrawsAlike`) says that it leaves the source in the same state,
whatever it gives. All built-in generators do so on any two days (`Registry.builtIn_drawsAlike`):
a date near the day is the day and a number of days that is drawn from a range that does not depend
on it.
-/

namespace Seedbed

/-- A generator leaves the source in the same state on two days. -/
def Generator.DrawsAlike (generator : Generator) (day other : Date) : Prop :=
  ∀ arguments source, (generator.run { arguments, today := day } source).2 =
    (generator.run { arguments, today := other } source).2

/-- All generators of a registry draw alike on two days. -/
def Registry.DrawsAlike (registry : Registry) (day other : Date) : Prop :=
  ∀ generator ∈ registry.generators, generator.DrawsAlike day other

variable {day other : Date} {registry : Registry}

/-- On one and the same day the generators of a registry draw alike. -/
theorem Registry.DrawsAlike.refl (registry : Registry) (day : Date) :
    registry.DrawsAlike day day :=
  fun _ _ _ _ => rfl

/-- A generator that is found draws alike. -/
theorem Registry.DrawsAlike.find? (h : registry.DrawsAlike day other) {id : String}
    {generator : Generator} (hfind : registry.find? id = some generator) :
    generator.DrawsAlike day other :=
  h generator (List.mem_of_find?_eq_some hfind)

namespace Registry

/-- Adding a generator to a sorted list adds no other one. -/
theorem mem_insertSorted {generator new : Generator} {generators : List Generator}
    (h : generator ∈ insertSorted new generators) : generator = new ∨ generator ∈ generators := by
  induction generators with
  | nil => exact .inl (List.mem_singleton.1 h)
  | cons first rest ih =>
    unfold insertSorted at h
    split at h
    · exact (List.mem_cons.1 h).imp id (List.mem_cons_of_mem _)
    split at h
    · exact List.mem_cons.1 h
    · rcases List.mem_cons.1 h with rfl | h
      · exact .inr (List.mem_cons_self ..)
      · exact (ih h).imp id (List.mem_cons_of_mem _)

/-- Adding generators adds no other ones. -/
theorem mem_insertAll {generator : Generator} {generators : List Generator}
    (h : generator ∈ (registry.insertAll generators).generators) :
    generator ∈ generators ∨ generator ∈ registry.generators := by
  induction generators generalizing registry with
  | nil => exact .inr h
  | cons first rest ih =>
    have hinserted : generator ∈ ((registry.insert first).insertAll rest).generators := h
    rcases ih hinserted with h | h
    · exact .inl (List.mem_cons_of_mem _ h)
    · rcases mem_insertSorted h with rfl | h
      · exact .inl (List.mem_cons_self ..)
      · exact .inr h

/-- A built-in generator is one of lifelike text or a primitive one. -/
theorem mem_of_mem_builtIn {generator : Generator} (h : generator ∈ builtIn.generators) :
    generator ∈ Faker.generators ∨ generator ∈ Primitive.generators := by
  rcases mem_insertAll h with h | h
  · exact .inr h
  · rcases mem_insertAll h with h | h
    · exact .inl h
    · exact absurd h List.not_mem_nil

end Registry

/-- A date near the day is drawn alike on all days, also when it is out of range. -/
theorem Primitive.relativeDate_drawsAlike (id : String) (direction : Direction) (default : Int) :
    (relativeDate id direction default).DrawsAlike day other := by
  intro arguments source
  have hsource (today : Date) :
      ((relativeDate id direction default).run { arguments, today } source).2 =
        (Random.Draw.int 1 (spanOf { arguments, today } default) source).2 := by
    simp only [relativeDate]
    generalize Random.Draw.int 1 (spanOf { arguments, today } default) source = drawn
    obtain ⟨distance, after⟩ := drawn
    cases hdate : today.addDays? (direction.days distance) <;> simp only [hdate]
  exact (hsource day).trans (hsource other).symm

/-- The primitive generators draw alike on all days. -/
theorem Primitive.generators_drawsAlike :
    ∀ generator ∈ Primitive.generators, generator.DrawsAlike day other := by
  have hidentifier : uuid.DrawsAlike day other := fun _ _ => rfl
  have hboolean : boolean.DrawsAlike day other := fun _ _ => rfl
  have hover (id : String) (alphabet : Array Char) :
      (overAlphabet id alphabet).DrawsAlike day other := fun _ _ => rfl
  simp only [generators, alpha, alphanumeric, datePast, dateRecent, dateFuture, dateSoon,
    List.forall_mem_cons, hidentifier, hboolean, hover, relativeDate_drawsAlike,
    List.not_mem_nil, false_implies, implies_true, and_self]

/-- A text that is drawn without arguments is drawn alike on every day. -/
theorem Faker.simple_drawsAlike (id : String) (draw : Random.Draw String) :
    (simple id draw).DrawsAlike day other :=
  fun _ _ => rfl

/-- A text of a size that is asked for is drawn alike on every day. -/
theorem Faker.sized_drawsAlike (id : String) (default : Nat) (draw : Nat → Random.Draw String) :
    (sized id default draw).DrawsAlike day other :=
  fun _ _ => rfl

/-- The generators of lifelike text draw alike on all days. -/
theorem Faker.generators_drawsAlike :
    ∀ generator ∈ Faker.generators, generator.DrawsAlike day other := by
  simp only [generators, List.forall_mem_cons, simple_drawsAlike, sized_drawsAlike,
    List.not_mem_nil, false_implies, implies_true, and_self]

/-- **The built-in generators** draw alike on all days. -/
theorem Registry.builtIn_drawsAlike (day other : Date) : builtIn.DrawsAlike day other := by
  intro generator h
  rcases mem_of_mem_builtIn h with h | h
  · exact Faker.generators_drawsAlike generator h
  · exact Primitive.generators_drawsAlike generator h

end Seedbed
