import Seedbed.Proofs.Ending

/-!
# What work gives

`Work.Gives` and `Work.Stops` say of some work from a state with which value, or with which error,
it ends and which state it leaves. Work does exactly one of the two, and a sequence does what its
parts do one after another (`gives_bind_iff`, `stops_bind_iff`). So a loop that stops does so at an
element where its work stops, behind elements where it gave something (`stops_forEach_iff`), and
work that is done fewer times gives the first of its results (`Gives.repeated_take`).
-/

namespace Seedbed.Work

variable {ε ε' σ τ α β : Type}

/-- From a state, some work gives a value and leaves a state. -/
def Gives (work : Work ε σ α) (state : σ) (value : α) (after : σ) : Prop :=
  (work state).result = .ok value ∧ (work state).state = after

/-- From a state, some work fails with an error and leaves a state. -/
def Stops (work : Work ε σ α) (state : σ) (e : ε) (after : σ) : Prop :=
  (work state).result = .error e ∧ (work state).state = after

variable {work : Work ε σ α} {state after : σ} {value : α} {e : ε}

/-- Work gives something or stops. -/
theorem ends_as_it_does (work : Work ε σ α) (state : σ) :
    work.Ends state (fun value after => work.Gives state value after)
      fun e after => work.Stops state e after :=
  .intro (fun _ h => ⟨h, rfl⟩) (fun _ h => ⟨h, rfl⟩)

/-- What holds of every value that work may end with holds of the value that it gives. -/
theorem Ends.of_gives {done : α → σ → Prop} {failed : ε → σ → Prop}
    (h : work.Ends state done failed) (hg : work.Gives state value after) : done value after :=
  hg.2 ▸ h.of_ok hg.1

/-- What holds of every error that work may end with holds of the error that it stops with. -/
theorem Ends.of_stops {done : α → σ → Prop} {failed : ε → σ → Prop}
    (h : work.Ends state done failed) (hs : work.Stops state e after) : failed e after :=
  hs.2 ▸ h.of_error hs.1

/-- Work whose result is a value gives it. -/
theorem exists_gives_of_isOk (h : (work state).result.isOk = true) :
    ∃ value, work.Gives state value (work state).state := by
  cases hr : (work state).result with
  | ok value => exact ⟨value, hr, rfl⟩
  | error e =>
    rw [hr] at h
    cases h

/-- Work that gives something does not stop. -/
theorem Gives.not_stops (hg : work.Gives state value after) {after' : σ} :
    ¬work.Stops state e after' := by
  rintro ⟨hs, -⟩
  cases hg.1.symm.trans hs

/-- Work stops in one way only. -/
theorem Stops.unique {e' : ε} {after' : σ} (h : work.Stops state e after)
    (h' : work.Stops state e' after') : e = e' ∧ after = after' :=
  ⟨Except.error.inj (h.1.symm.trans h'.1), h.2.symm.trans h'.2⟩

/-- Work gives one thing only. -/
theorem Gives.unique {value' : α} {after' : σ} (h : work.Gives state value after)
    (h' : work.Gives state value' after') : value = value' ∧ after = after' :=
  ⟨Except.ok.inj (h.1.symm.trans h'.1), h.2.symm.trans h'.2⟩

@[simp] theorem gives_pure_iff {a : α} :
    (pure a : Work ε σ α).Gives state value after ↔ a = value ∧ state = after := by
  simp [Gives, pure_eq, Work.pure]

@[simp] theorem not_stops_pure {a : α} : ¬(pure a : Work ε σ α).Stops state e after := by
  simp [Stops, pure_eq, Work.pure]

@[simp] theorem gives_state_iff {a : σ} :
    (Work.state : Work ε σ σ).Gives state a after ↔ state = a ∧ state = after := by
  simp [Gives, Work.state]

@[simp] theorem gives_update_iff {change : σ → σ} {u : Unit} :
    (update change : Work ε σ Unit).Gives state u after ↔ change state = after := by
  simp [Gives, update]

@[simp] theorem not_gives_fail : ¬(fail e : Work ε σ α).Gives state value after := by
  simp [Gives, fail]

@[simp] theorem gives_note_iff {event : Event} {u : Unit} :
    (note event : Work ε σ Unit).Gives state u after ↔ state = after := by
  simp [Gives, note]

/-- A computation on the state gives its result. -/
theorem gives_ofState_iff {computation : StateM σ α} :
    (ofState computation : Work ε σ α).Gives state value after ↔
      computation state = (value, after) := by
  show Except.ok (computation state).1 = Except.ok value ∧ (computation state).2 = after ↔ _
  rw [Except.ok.injEq, Prod.ext_iff]

@[simp] theorem gives_mapError_iff {convert : ε → ε'} :
    (mapError convert work).Gives state value after ↔ work.Gives state value after := by
  simp only [Gives, mapError]
  cases (work state).result with
  | error e =>
    show (Except.error (convert e) = Except.ok value ∧ _) ↔ _
    simp
  | ok a =>
    show (Except.ok a = Except.ok value ∧ _) ↔ _
    simp

/-- Work on a part of a state gives what it gives on the part. -/
theorem gives_on_iff {get : τ → σ} {set : σ → τ → τ} {whole whole' : τ} :
    (on get set work).Gives whole value whole' ↔
      ∃ inner, work.Gives (get whole) value inner ∧ set inner whole = whole' := by
  simp [Gives, on, and_assoc]

/-! ## Sequences -/

/-- A sequence gives what its second part gives behind its first. -/
theorem gives_bind_iff {next : α → Work ε σ β} {b : β} :
    (work >>= next).Gives state b after ↔
      ∃ a mid, work.Gives state a mid ∧ (next a).Gives mid b after := by
  simp only [Gives, bind_eq, Work.bind]
  rcases work state with ⟨_ | a, mid, journal⟩
  · simp
  · constructor
    · exact fun h => ⟨a, mid, ⟨rfl, rfl⟩, h⟩
    · rintro ⟨_, _, ⟨⟨⟩, rfl⟩, h⟩
      exact h

/-- A sequence stops in its first part, or in its second behind what the first gave. -/
theorem stops_bind_iff {next : α → Work ε σ β} :
    (work >>= next).Stops state e after ↔
      work.Stops state e after ∨ ∃ a mid, work.Gives state a mid ∧ (next a).Stops mid e after := by
  simp only [Gives, Stops, bind_eq, Work.bind]
  rcases work state with ⟨_ | a, mid, journal⟩
  · simp
  · constructor
    · exact fun h => .inr ⟨a, mid, ⟨rfl, rfl⟩, h⟩
    · rintro (⟨⟨⟩, _⟩ | ⟨_, _, ⟨⟨⟩, rfl⟩, h⟩)
      exact h

/-- What is made of the value of work changes nothing else. -/
theorem gives_map_iff {make : α → β} {b : β} :
    (make <$> work).Gives state b after ↔ ∃ a, work.Gives state a after ∧ make a = b := by
  simp only [map_eq_pure_bind, gives_bind_iff, gives_pure_iff]
  constructor
  · rintro ⟨a, _, ha, hb, rfl⟩
    exact ⟨a, ha, hb⟩
  · rintro ⟨a, ha, hb⟩
    exact ⟨a, after, ha, hb, rfl⟩

/-- What is made of the value of work does not change where it stops. -/
theorem stops_map_iff {make : α → β} :
    (make <$> work).Stops state e after ↔ work.Stops state e after := by
  simp only [map_eq_pure_bind, stops_bind_iff, not_stops_pure, and_false, exists_false, or_false]

/-! ## Loops -/

/-- A loop goes through its list as any other monad does. -/
theorem mapM_eq_forEach (work : α → Work ε σ β) (as : List α) : as.mapM work = forEach work as := by
  induction as with
  | nil => rfl
  | cons a as ih => rw [List.mapM_cons, ih, forEach]

section
variable {work : α → Work ε σ β} {as : List α} {bs : List β}

@[simp] theorem gives_forEach_nil_iff :
    (forEach work []).Gives state bs after ↔ bs = [] ∧ state = after := by
  rw [forEach, gives_pure_iff, eq_comm]

@[simp] theorem not_stops_forEach_nil : ¬(forEach work []).Stops state e after :=
  not_stops_pure

/-- A loop gives a result for its first element and then those of the others. -/
theorem gives_forEach_cons_iff {a : α} :
    (forEach work (a :: as)).Gives state bs after ↔
      ∃ b rest mid, bs = b :: rest ∧ (work a).Gives state b mid ∧
        (forEach work as).Gives mid rest after := by
  simp only [forEach, gives_bind_iff, gives_pure_iff]
  constructor
  · rintro ⟨b, mid, hb, rest, _, hrest, rfl, rfl⟩
    exact ⟨b, rest, mid, rfl, hb, hrest⟩
  · rintro ⟨b, rest, mid, rfl, hb, hrest⟩
    exact ⟨b, mid, hb, rest, after, hrest, rfl, rfl⟩

/-- A loop stops at its first element or behind it. -/
theorem stops_forEach_cons_iff {a : α} :
    (forEach work (a :: as)).Stops state e after ↔
      (work a).Stops state e after ∨
        ∃ b mid, (work a).Gives state b mid ∧ (forEach work as).Stops mid e after := by
  simp only [forEach, stops_bind_iff, not_stops_pure, and_false, exists_false, or_false]

/-- A loop over two lists gives the results of the first, and then those of the second. -/
theorem gives_forEach_append_iff {others : List α} :
    (forEach work (as ++ others)).Gives state bs after ↔
      ∃ first second mid, bs = first ++ second ∧ (forEach work as).Gives state first mid ∧
        (forEach work others).Gives mid second after := by
  induction as generalizing state bs with
  | nil =>
    constructor
    · exact fun h => ⟨[], bs, state, rfl, by simp, h⟩
    · rintro ⟨_, _, _, rfl, hfirst, hsecond⟩
      obtain ⟨rfl, rfl⟩ := gives_forEach_nil_iff.1 hfirst
      exact hsecond
  | cons a as ih =>
    simp only [List.cons_append, gives_forEach_cons_iff, ih]
    constructor
    · rintro ⟨b, _, s, rfl, hb, first, second, mid, rfl, hfirst, hsecond⟩
      exact ⟨b :: first, second, mid, rfl, ⟨b, first, s, rfl, hb, hfirst⟩, hsecond⟩
    · rintro ⟨_, second, mid, rfl, ⟨b, first, s, rfl, hb, hfirst⟩, hsecond⟩
      exact ⟨b, first ++ second, s, rfl, hb, first, second, mid, rfl, hfirst, hsecond⟩

/-- **A loop stops at an element** where its work stops, behind elements where it gave results. -/
theorem stops_forEach_iff :
    (forEach work as).Stops state e after ↔
      ∃ before a rest bs mid, as = before ++ a :: rest ∧
        (forEach work before).Gives state bs mid ∧ (work a).Stops mid e after := by
  induction as generalizing state with
  | nil => simp
  | cons first others ih =>
    rw [stops_forEach_cons_iff]
    constructor
    · rintro (hfirst | ⟨b, s, hfirst, hothers⟩)
      · exact ⟨[], first, others, [], state, rfl, by simp, hfirst⟩
      · obtain ⟨before, a, rest, bs, mid, rfl, hbefore, ha⟩ := ih.1 hothers
        refine ⟨first :: before, a, rest, b :: bs, mid, rfl, ?_, ha⟩
        exact gives_forEach_cons_iff.2 ⟨b, bs, s, rfl, hfirst, hbefore⟩
    · rintro ⟨before, a, rest, bs, mid, he, hbefore, ha⟩
      cases before with
      | nil =>
        obtain ⟨rfl, rfl⟩ := List.cons.inj he
        obtain ⟨-, rfl⟩ := gives_forEach_nil_iff.1 hbefore
        exact .inl ha
      | cons head before =>
        obtain ⟨rfl, rfl⟩ := List.cons.inj he
        obtain ⟨b, bs, s, rfl, hfirst, hbefore⟩ := gives_forEach_cons_iff.1 hbefore
        exact .inr ⟨b, s, hfirst, ih.2 ⟨before, a, rest, bs, mid, rfl, hbefore, ha⟩⟩

end

/-! ## Repetitions -/

/-- Doing work again and again is a loop that takes no notice of its elements. -/
theorem repeated_eq_forEach (n : Nat) (work : Work ε σ α) :
    repeated n work = forEach (fun _ => work) (List.replicate n ()) := by
  induction n with
  | zero => rfl
  | succ n ih => rw [repeated_succ, List.replicate_succ, forEach, ih]

/-- Work that is done some times and then more times gives the results of the first times, and then
those of the others. -/
theorem gives_repeated_add_iff {n k : Nat} {values : List α} :
    (repeated (n + k) work).Gives state values after ↔
      ∃ first second mid, values = first ++ second ∧ (repeated n work).Gives state first mid ∧
        (repeated k work).Gives mid second after := by
  simp only [repeated_eq_forEach, ← List.replicate_append_replicate, gives_forEach_append_iff]

/-- As many results come out as the work is done. -/
theorem Gives.length_repeated {n : Nat} {values : List α}
    (h : (repeated n work).Gives state values after) : values.length = n := by
  have hends : (repeated n work).Ends state (fun values _ => values.length = n ∧ _)
      fun _ _ => True :=
    ends_repeated (fun _ => True) (fun _ => True)
      (fun _ _ => .intro (fun _ _ => ⟨trivial, trivial⟩) fun _ _ => trivial) n trivial
  exact (hends.of_gives h).1

/-- **Work that is done fewer times** gives the first of the results. -/
theorem Gives.repeated_take {n m : Nat} {values : List α}
    (h : (repeated m work).Gives state values after) (hle : n ≤ m) :
    ∃ mid, (repeated n work).Gives state (values.take n) mid := by
  obtain ⟨k, rfl⟩ := Nat.exists_eq_add_of_le hle
  obtain ⟨first, second, mid, rfl, hfirst, -⟩ := gives_repeated_add_iff.1 h
  refine ⟨mid, ?_⟩
  rwa [List.take_left' hfirst.length_repeated]

end Seedbed.Work
