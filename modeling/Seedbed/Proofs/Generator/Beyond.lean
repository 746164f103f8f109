import Seedbed.Proofs.Generator.Days

/-!
# When a built-in generator fails

A date near the day is drawn from a span that is never empty, and a date beyond the calendar is
reported (`Primitive.relativeDate_beyond`). No other built-in generator fails
(`Registry.builtIn_answers`).
-/

namespace Seedbed

/-- The answers of a generator to a request: a value, or the failure of a date beyond the calendar
under its own path. -/
inductive Generator.Answers (generator : Generator) (request : Request) :
    Except GeneratorFailure Json → Prop
  | value (value : Json) : Answers generator request (.ok value)
  | beyond {days : Int} (message : String) (beyond : request.today.addDays? days = none) :
    Answers generator request (.error { id := generator.id, message })

namespace Primitive

variable {id : String} {direction : Direction} {default : Int}

/-- The span that a distance in days is drawn from is never empty. -/
theorem one_le_spanOf (request : Request) (default : Int) : 1 ≤ spanOf request default := by
  unfold spanOf clamp
  split
  · exact Int.le_refl 1
  · split
    · decide
    · omega

/-- The failure for a date some days from the day that the calendar does not have. -/
def outOfRange (id : String) (today : Date) (days : Int) : GeneratorFailure where
  id
  message := String.ofList (Number.integerText days) ++ " days from " ++ today.toText ++
    " is out of range"

/-- The date at the distance that was drawn is the answer, or it is beyond the calendar and that is
reported. -/
theorem relativeDate_run (request : Request) (source : Random.Source) :
    (∃ date, request.today.addDays?
        (direction.days (Random.Draw.int 1 (spanOf request default) source).1) = some date ∧
      ((relativeDate id direction default).run request source).1 = .ok (.string date.toText)) ∨
    (request.today.addDays?
        (direction.days (Random.Draw.int 1 (spanOf request default) source).1) = none ∧
      ((relativeDate id direction default).run request source).1 =
        .error (outOfRange id request.today
          (direction.days (Random.Draw.int 1 (spanOf request default) source).1))) := by
  simp only [relativeDate]
  generalize Random.Draw.int 1 (spanOf request default) source = drawn
  obtain ⟨distance, after⟩ := drawn
  cases hdate : request.today.addDays? (direction.days distance) with
  | some date => exact .inl ⟨date, rfl, by simp only [hdate]⟩
  | none => exact .inr ⟨rfl, by simp only [hdate]; rfl⟩

/-- A date near the day that is beyond the calendar is reported. -/
theorem relativeDate_beyond {request : Request} {source : Random.Source}
    (hbeyond : request.today.addDays?
      (direction.days (Random.Draw.int 1 (spanOf request default) source).1) = none) :
    ∃ message, ((relativeDate id direction default).run request source).1 =
      .error { id, message } := by
  rcases relativeDate_run request source with ⟨date, hdate, -⟩ | ⟨-, hreport⟩
  · rw [hbeyond] at hdate
    cases hdate
  · exact ⟨_, hreport⟩

/-- A date near the day answers with a date, or with its only failure. -/
theorem relativeDate_answers (request : Request) (source : Random.Source) :
    (relativeDate id direction default).Answers request
      ((relativeDate id direction default).run request source).1 := by
  rcases relativeDate_run request source with ⟨date, -, hrun⟩ | ⟨hbeyond, hrun⟩
  · rw [hrun]
    exact .value _
  · rw [hrun]
    exact .beyond _ hbeyond

end Primitive

/-- The primitive generators answer. -/
theorem Primitive.generators_answer (request : Request) (source : Random.Source) :
    ∀ generator ∈ Primitive.generators,
      generator.Answers request (generator.run request source).1 := by
  have hidentifier : uuid.Answers request (uuid.run request source).1 := .value _
  have hboolean : boolean.Answers request (boolean.run request source).1 := .value _
  have hover (id : String) (alphabet : Array Char) : (overAlphabet id alphabet).Answers request
      ((overAlphabet id alphabet).run request source).1 := .value _
  simp only [generators, alpha, alphanumeric, datePast, dateRecent, dateFuture, dateSoon,
    List.forall_mem_cons, hidentifier, hboolean, hover, relativeDate_answers,
    List.not_mem_nil, false_implies, implies_true, and_self]

/-- The generators of lifelike text answer with a text. -/
theorem Faker.generators_answer (request : Request) (source : Random.Source) :
    ∀ generator ∈ Faker.generators,
      generator.Answers request (generator.run request source).1 := by
  have hsimple (id : String) (draw : Random.Draw String) : (simple id draw).Answers request
      ((simple id draw).run request source).1 := .value _
  have hsized (id : String) (default : Nat) (draw : Nat → Random.Draw String) :
      (sized id default draw).Answers request ((sized id default draw).run request source).1 :=
    .value _
  simp only [generators, List.forall_mem_cons, hsimple, hsized, List.not_mem_nil, false_implies,
    implies_true, and_self]

/-- **A built-in generator fails only for a date beyond the calendar.** -/
theorem Registry.builtIn_answers {generator : Generator} (h : generator ∈ builtIn.generators)
    (request : Request) (source : Random.Source) :
    generator.Answers request (generator.run request source).1 := by
  rcases mem_of_mem_builtIn h with h | h
  · exact Faker.generators_answer request source generator h
  · exact Primitive.generators_answer request source generator h

end Seedbed
