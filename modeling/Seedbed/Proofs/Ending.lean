import Seedbed.Work

/-!
# How work ends

`Work.Ends` says of some work from a state that it ends well or fails well: with a value and a state
for which `done` holds, or with an error and a state for which `failed` holds. It is the weakest
condition on the state from which both hold, so it is an equation for every way to build work
(`ends_bind` and its like), and the loops `repeated` and `forEach` have one rule each, with an
invariant. The journal is not looked at.
-/

namespace Seedbed.Work

variable {ε ε' σ τ α β : Type}

/-- From a state, some work gives a value and a state that satisfy `done`, or it fails with an error
and a state that satisfy `failed`. -/
def Ends (work : Work ε σ α) (state : σ) (done : α → σ → Prop) (failed : ε → σ → Prop) : Prop :=
  match (work state).result with
  | .ok value => done value (work state).state
  | .error e => failed e (work state).state

variable {state : σ} {done done' : α → σ → Prop} {failed failed' : ε → σ → Prop}

/-! ## Reading an ending -/

/-- The value of work that ended well satisfies `done`. -/
theorem Ends.of_ok {work : Work ε σ α} (h : work.Ends state done failed) {value : α}
    (hr : (work state).result = .ok value) : done value (work state).state := by
  unfold Ends at h
  rwa [hr] at h

/-- The error of work that failed satisfies `failed`. -/
theorem Ends.of_error {work : Work ε σ α} (h : work.Ends state done failed) {e : ε}
    (hr : (work state).result = .error e) : failed e (work state).state := by
  unfold Ends at h
  rwa [hr] at h

/-- What holds of the state however the work ends. -/
theorem Ends.state_of {work : Work ε σ α} {p : σ → Prop}
    (h : work.Ends state (fun _ s => p s) (fun _ s => p s)) : p (work state).state := by
  cases hr : (work state).result with
  | ok value => exact h.of_ok hr
  | error e => exact h.of_error hr

/-- Work that cannot fail gives a value. -/
theorem Ends.succeeds {work : Work ε σ α} (h : work.Ends state done fun _ _ => False) :
    ∃ value, (work state).result = .ok value ∧ done value (work state).state := by
  cases hr : (work state).result with
  | ok value => exact ⟨value, rfl, h.of_ok hr⟩
  | error e => exact (h.of_error hr).elim

/-- Work that cannot end well fails with an error. -/
theorem Ends.fails {work : Work ε σ α} (h : work.Ends state (fun _ _ => False) failed) :
    ∃ e, (work state).result = .error e ∧ failed e (work state).state := by
  cases hr : (work state).result with
  | ok value => exact (h.of_ok hr).elim
  | error e => exact ⟨e, rfl, h.of_error hr⟩

/-- An ending is shown by what follows from either result. -/
theorem Ends.intro {work : Work ε σ α}
    (hok : ∀ value, (work state).result = .ok value → done value (work state).state)
    (herror : ∀ e, (work state).result = .error e → failed e (work state).state) :
    work.Ends state done failed := by
  unfold Ends
  split
  · next hr => exact hok _ hr
  · next hr => exact herror _ hr

/-- Work that ends well ends well in every weaker sense. -/
theorem Ends.mono {work : Work ε σ α} (h : work.Ends state done failed)
    (hdone : ∀ value s, done value s → done' value s)
    (hfailed : ∀ e s, failed e s → failed' e s) : work.Ends state done' failed' :=
  .intro (fun _ hr => hdone _ _ (h.of_ok hr)) (fun _ hr => hfailed _ _ (h.of_error hr))

/-! ## Single steps -/

@[simp] theorem ends_pure {value : α} :
    (pure value : Work ε σ α).Ends state done failed ↔ done value state := Iff.rfl

@[simp] theorem ends_fail {e : ε} :
    (fail e : Work ε σ α).Ends state done failed ↔ failed e state := Iff.rfl

@[simp] theorem ends_state {done : σ → σ → Prop} :
    (Work.state : Work ε σ σ).Ends state done failed ↔ done state state := Iff.rfl

@[simp] theorem ends_update {change : σ → σ} {done : Unit → σ → Prop} :
    (update change : Work ε σ Unit).Ends state done failed ↔ done () (change state) := Iff.rfl

@[simp] theorem ends_note {event : Event} {done : Unit → σ → Prop} :
    (note event : Work ε σ Unit).Ends state done failed ↔ done () state := Iff.rfl

@[simp] theorem ends_noteAll {events : List Event} {done : Unit → σ → Prop} :
    (noteAll events : Work ε σ Unit).Ends state done failed ↔ done () state := Iff.rfl

@[simp] theorem ends_ofExcept_ok {value : α} :
    (ofExcept (.ok value) : Work ε σ α).Ends state done failed ↔ done value state := Iff.rfl

@[simp] theorem ends_ofExcept_error {e : ε} :
    (ofExcept (.error e) : Work ε σ α).Ends state done failed ↔ failed e state := Iff.rfl

@[simp] theorem ends_ofState {computation : StateM σ α} :
    (ofState computation : Work ε σ α).Ends state done failed ↔
      done (computation state).1 (computation state).2 := Iff.rfl

/-- Work that is a computation with its own result. -/
theorem ends_ofFallible {computation : σ → Except ε α × σ} :
    (ofFallible computation : Work ε σ α).Ends state done failed ↔
      match (computation state).1 with
      | .ok value => done value (computation state).2
      | .error e => failed e (computation state).2 := Iff.rfl

@[simp] theorem ends_mapError {convert : ε → ε'} {work : Work ε σ α} {failed : ε' → σ → Prop} :
    (mapError convert work).Ends state done failed ↔
      work.Ends state done fun e s => failed (convert e) s := by
  simp only [Ends, mapError]
  cases (work state).result <;> rfl

@[simp] theorem ends_on {get : τ → σ} {set : σ → τ → τ} {work : Work ε σ α} {whole : τ}
    {done : α → τ → Prop} {failed : ε → τ → Prop} :
    (on get set work).Ends whole done failed ↔
      work.Ends (get whole) (fun value s => done value (set s whole))
        (fun e s => failed e (set s whole)) := Iff.rfl

/-! ## Sequences and loops -/

/-- Work that goes on with a value ends as what it goes on with does. -/
@[simp] theorem ends_bind {work : Work ε σ α} {next : α → Work ε σ β} {done : β → σ → Prop} :
    (work >>= next).Ends state done failed ↔
      work.Ends state (fun value s => (next value).Ends s done failed) failed := by
  simp only [bind_eq, Ends, Work.bind]
  rcases work state with ⟨_ | value, s, journal⟩ <;> rfl

/-- A step that keeps an invariant and gives values with a property can be repeated: as many values
come out, all with the property. -/
theorem ends_repeated {work : Work ε σ α} (p : α → Prop) (invariant : σ → Prop)
    (hstep : ∀ s, invariant s → work.Ends s (fun value s => p value ∧ invariant s) failed) (n : Nat)
    (h : invariant state) :
    (repeated n work).Ends state
      (fun values s => values.length = n ∧ (∀ value ∈ values, p value) ∧ invariant s) failed := by
  induction n generalizing state with
  | zero => simpa using h
  | succ n ih =>
    rw [repeated_succ, ends_bind]
    refine (hstep state h).mono (fun value s hv => ?_) (fun _ _ => id)
    rw [ends_bind]
    refine (ih hv.2).mono (fun values s hs => ?_) (fun _ _ => id)
    rw [ends_pure]
    exact ⟨by simp [hs.1], by simpa [hv.1] using hs.2.1, hs.2.2⟩

/-- The rule of `ends_forEach` from the middle of a list on, `before` being done with `results`. -/
theorem ends_forEach_from {work : α → Work ε σ β} {invariant : List α → List β → σ → Prop}
    (before after : List α) (results : List β)
    (hstep : ∀ done a rest, before ++ after = done ++ a :: rest → ∀ results s,
      invariant done results s →
        (work a).Ends s (fun b s => invariant (done ++ [a]) (results ++ [b]) s) failed)
    (h : invariant before results state) :
    (forEach work after).Ends state
      (fun bs s => invariant (before ++ after) (results ++ bs) s) failed := by
  induction after generalizing before results state with
  | nil => simpa [forEach] using h
  | cons a rest ih =>
    rw [forEach, ends_bind]
    refine (hstep before a rest rfl results state h).mono (fun b s hb => ?_) (fun _ _ => id)
    have happ : before ++ a :: rest = before ++ [a] ++ rest := by simp
    have hrest := ih (before ++ [a]) (results ++ [b])
      (fun done a' rest' he => hstep done a' rest' (happ.trans he)) hb
    rw [ends_bind]
    refine hrest.mono (fun bs s hbs => ?_) (fun _ _ => id)
    rw [ends_pure]
    simpa using hbs

/-- Work for each element of a list: an invariant on the elements done, their results and the state
that each step keeps holds of all elements in the end. A step may know where in the list it is. -/
theorem ends_forEach {work : α → Work ε σ β} (invariant : List α → List β → σ → Prop) {as : List α}
    (hstep : ∀ done a rest, as = done ++ a :: rest → ∀ results s, invariant done results s →
      (work a).Ends s (fun b s => invariant (done ++ [a]) (results ++ [b]) s) failed)
    (h : invariant [] [] state) :
    (forEach work as).Ends state (fun bs s => invariant as bs s) failed := by
  simpa using ends_forEach_from [] as [] hstep h

end Seedbed.Work
