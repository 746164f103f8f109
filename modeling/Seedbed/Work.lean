import Seedbed.Journal

/-!
# Work on a state

`Work ε σ α` is a computation that changes a state `σ`, may fail with an `ε`, and notes events. A
failure keeps the state and the events that preceded it: draws that were made stay made, rows that
were stored stay stored. The journal is only written, never read, so a result cannot depend on it.
`Work.repeated` and `Work.forEach` are the loops; their equations are those of the obvious
recursion.
-/

namespace Seedbed

variable {ε ε' σ α β : Type}

/-- What is left of some work. -/
structure Outcome (ε σ α : Type) where
  result : Except ε α
  state : σ
  journal : List Event

/-- A computation on a state that may fail and notes events. -/
def Work (ε σ α : Type) := σ → Outcome ε σ α

namespace Work

/-- Gives a value and does nothing. -/
protected def pure (value : α) : Work ε σ α := fun state =>
  { result := .ok value, state, journal := [] }

/-- Goes on with the value of some work, unless it failed. -/
protected def bind (work : Work ε σ α) (next : α → Work ε σ β) : Work ε σ β := fun state =>
  match work state with
  | { result := .error e, state, journal } => { result := .error e, state, journal }
  | { result := .ok value, state, journal } =>
    let rest := next value state
    { rest with journal := journal ++ rest.journal }

instance : Monad (Work ε σ) where
  pure := Work.pure
  bind := Work.bind

/-- A sequence of work hands the value and the state of its first part on to the second. -/
theorem bind_eq (work : Work ε σ α) (next : α → Work ε σ β) :
    work >>= next = Work.bind work next := rfl

/-- A value that is there already leaves the state and notes nothing. -/
theorem pure_eq (value : α) : (pure value : Work ε σ α) = Work.pure value := rfl

/-- Mapping the identity changes nothing. -/
theorem id_map_eq (work : Work ε σ α) : id <$> work = work := by
  funext state
  show Work.bind work (fun value => Work.pure (id value)) state = work state
  simp only [Work.bind]
  split
  · next h => rw [h]
  · next h => rw [h]; simp [Work.pure]

/-- A value that is there already is handed on. -/
theorem pure_bind_eq (value : α) (next : α → Work ε σ β) : pure value >>= next = next value := by
  funext state
  show Work.bind (Work.pure value) next state = next value state
  simp [Work.bind, Work.pure]

/-- Only the order of three pieces of work matters, not how they are grouped. -/
theorem bind_bind_eq (work : Work ε σ α) (next : α → Work ε σ β) (last : β → Work ε σ γ) :
    work >>= next >>= last = work >>= fun value => next value >>= last := by
  funext state
  show Work.bind (Work.bind work next) last state =
    Work.bind work (fun value => Work.bind (next value) last) state
  simp only [Work.bind]
  rcases work state with ⟨_ | value, state, journal⟩
  · rfl
  · simp only
    rcases next value state with ⟨_ | value, state, journal'⟩ <;> simp

instance : LawfulMonad (Work ε σ) :=
  LawfulMonad.mk' (Work ε σ) id_map_eq pure_bind_eq bind_bind_eq

/-- Fails. -/
def fail (e : ε) : Work ε σ α := fun state =>
  { result := .error e, state, journal := [] }

/-- The state. -/
def state : Work ε σ σ := fun state =>
  { result := .ok state, state, journal := [] }

/-- Changes the state. -/
def update (change : σ → σ) : Work ε σ Unit := fun state =>
  { result := .ok (), state := change state, journal := [] }

/-- Notes an event. -/
def note (event : Event) : Work ε σ Unit := fun state =>
  { result := .ok (), state, journal := [event] }

/-- Notes events. -/
def noteAll (events : List Event) : Work ε σ Unit := fun state =>
  { result := .ok (), state, journal := events }

/-- A result as work that changes nothing. -/
def ofExcept (result : Except ε α) : Work ε σ α := fun state =>
  { result, state, journal := [] }

/-- A computation on the state as work. -/
def ofState (computation : StateM σ α) : Work ε σ α := fun state =>
  let (value, state) := computation state
  { result := .ok value, state, journal := [] }

/-- A computation on the state that may fail as work. -/
def ofFallible (computation : σ → Except ε α × σ) : Work ε σ α := fun state =>
  let (result, state) := computation state
  { result, state, journal := [] }

/-- Work with its failure converted. -/
def mapError (convert : ε → ε') (work : Work ε σ α) : Work ε' σ α := fun state =>
  let outcome := work state
  { outcome with result := outcome.result.mapError convert }

/-- Work whose events are told to the state once it is done, also if it failed. -/
def heard (hear : List Event → σ → σ) (work : Work ε σ α) : Work ε σ α := fun state =>
  let outcome := work state
  { outcome with state := hear outcome.journal outcome.state }

/-- Work on a part of a larger state. -/
def on {τ : Type} (get : τ → σ) (set : σ → τ → τ) (work : Work ε σ α) : Work ε τ α := fun whole =>
  let outcome := work (get whole)
  { result := outcome.result, state := set outcome.state whole, journal := outcome.journal }

/-- The loop of `repeated`, with the results and the events so far, last first. -/
def repeatedFrom (work : Work ε σ α) (results : List α) (events : List Event) :
    Nat → σ → Outcome ε σ (List α)
  | 0, state => { result := .ok results.reverse, state, journal := events.reverse }
  | n + 1, state =>
    match work state with
    | { result := .error e, state, journal } =>
      { result := .error e, state, journal := events.reverse ++ journal }
    | { result := .ok value, state, journal } =>
      repeatedFrom work (value :: results) (journal.reverse ++ events) n state

/-- The results of doing the same work `n` times. -/
def repeated (n : Nat) (work : Work ε σ α) : Work ε σ (List α) :=
  repeatedFrom work [] [] n

/-- Work that is repeated behind earlier results and events adds its own to them. -/
theorem repeatedFrom_eq (work : Work ε σ α) (results : List α) (events : List Event) (n : Nat)
    (state : σ) :
    repeatedFrom work results events n state =
      { result := (repeated n work state).result.map (results.reverse ++ ·)
        state := (repeated n work state).state
        journal := events.reverse ++ (repeated n work state).journal } := by
  induction n generalizing results events state with
  | zero => simp [repeated, repeatedFrom, Except.map]
  | succ n ih =>
    simp only [repeated, repeatedFrom]
    rcases work state with ⟨_ | value, state, journal⟩
    · simp [Except.map]
    · simp only
      rw [ih, ih [value]]
      generalize repeated n work state = outcome
      rcases outcome with ⟨_ | values, state, journal'⟩ <;> simp [Except.map]

@[simp] theorem repeated_zero (work : Work ε σ α) : repeated 0 work = pure [] := rfl

/-- Work that is repeated once more is done once and then as often as before. -/
theorem repeated_succ (n : Nat) (work : Work ε σ α) :
    repeated (n + 1) work = do
      let value ← work
      let values ← repeated n work
      return value :: values := by
  funext state
  simp only [bind_eq, pure_eq, Work.bind, Work.pure]
  show repeatedFrom work [] [] (n + 1) state = _
  simp only [repeatedFrom]
  rcases work state with ⟨_ | value, state, journal⟩
  · simp
  · simp only
    rw [repeatedFrom_eq]
    generalize repeated n work state = outcome
    rcases outcome with ⟨_ | values, state, journal'⟩ <;> simp [Except.map]

/-- Work for each element of a list, with the results in order. -/
def forEach (work : α → Work ε σ β) : List α → Work ε σ (List β)
  | [] => return []
  | a :: as => do
    let b ← work a
    let bs ← forEach work as
    return b :: bs

end Work

end Seedbed
