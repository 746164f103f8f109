import Seedbed.Work
import Seedbed.Proofs.Random.Bounds

/-!
# Work with its failure converted

Converting the failure of work goes into its parts (`mapError_bind` and its like), and a computation
on the state goes into its parts in the same way (`ofState_bind`). So work that is put together like
other work from converted parts is the other work converted.
-/

namespace Seedbed.Work

variable {ε ε' σ τ α β : Type} {convert : ε → ε'}

@[simp] theorem mapError_pure (value : α) :
    mapError convert (pure value : Work ε σ α) = pure value := rfl

@[simp] theorem mapError_fail (e : ε) :
    mapError convert (fail e : Work ε σ α) = fail (convert e) := rfl

@[simp] theorem mapError_state : mapError convert (Work.state : Work ε σ σ) = Work.state := rfl

@[simp] theorem mapError_update (change : σ → σ) :
    mapError convert (update change : Work ε σ Unit) = update change := rfl

@[simp] theorem mapError_note (event : Event) :
    mapError convert (note event : Work ε σ Unit) = note event := rfl

@[simp] theorem mapError_ofState (computation : StateM σ α) :
    mapError convert (ofState computation : Work ε σ α) = ofState computation := rfl

@[simp] theorem mapError_on (get : τ → σ) (set : σ → τ → τ) (work : Work ε σ α) :
    mapError convert (on get set work) = on get set (mapError convert work) := rfl

@[simp] theorem mapError_bind (work : Work ε σ α) (next : α → Work ε σ β) :
    mapError convert (work >>= next) =
      mapError convert work >>= fun value => mapError convert (next value) := by
  funext state
  simp only [bind_eq, mapError, Work.bind]
  rcases work state with ⟨_ | value, s, journal⟩ <;> rfl

@[simp] theorem mapError_repeated (n : Nat) (work : Work ε σ α) :
    mapError convert (repeated n work) = repeated n (mapError convert work) := by
  induction n with
  | zero => rfl
  | succ n ih => simp only [repeated_succ, mapError_bind, mapError_pure, ih]

/-- Work that goes on with what was computed from the state. -/
theorem ofState_bind_apply (computation : StateM σ α) (next : α → Work ε σ β) (state : σ) :
    (ofState computation >>= next) state = next (computation state).1 (computation state).2 := rfl

/-- The work of a sequence of computations is the sequence of their work. -/
theorem ofState_bind (computation : StateM σ α) (next : α → StateM σ β) :
    (ofState (computation >>= next) : Work ε σ β) =
      ofState computation >>= fun value => ofState (next value) := rfl

/-- Drawing the same again and again is one draw. -/
theorem repeated_ofState (n : Nat) (draw : Random.Draw α) :
    (repeated n (ofState draw) : Work ε Random.Source (List α)) =
      ofState (Random.Draw.times n draw) := by
  induction n with
  | zero => rfl
  | succ n ih =>
    have htimes : Random.Draw.times (n + 1) draw = do
        let value ← draw
        let values ← Random.Draw.times n draw
        return value :: values := by
      simp [Random.Draw.times, List.replicate_succ]
    rw [repeated_succ, ih, htimes]
    rfl

end Seedbed.Work
