/-!
# When a check accepts

A check is a result that is either a value or the error that it stopped at. A sequence of checks
accepts exactly when each of them does, with the value that the ones before it gave. `refusal?` is
the error; a sequence has the error of the first check that has one (`refusal?_bind`).
-/

namespace Seedbed

variable {ε ε' α β : Type}

/-- A sequence of two checks accepts when both do. -/
theorem bind_eq_ok {check : Except ε α} {next : α → Except ε β} {b : β} :
    check >>= next = .ok b ↔ ∃ a, check = .ok a ∧ next a = .ok b := by
  cases check with
  | error e => simp [bind, Except.bind]
  | ok a => simp [bind, Except.bind]

@[simp] theorem pure_eq_ok {a b : α} : (pure a : Except ε α) = .ok b ↔ a = b := by
  simp [pure, Except.pure]

/-- A check accepts whatever its error is called. -/
@[simp] theorem mapError_eq_ok {check : Except ε α} {convert : ε → ε'} {a : α} :
    check.mapError convert = .ok a ↔ check = .ok a := by
  cases check with
  | error e => constructor <;> (intro h; cases h)
  | ok b =>
    constructor
    · exact fun h => congrArg Except.ok (Except.ok.inj h)
    · exact fun h => congrArg Except.ok (Except.ok.inj h)

/-- A sequence of two checks accepts something when the first one does and the second accepts
something behind it. -/
theorem exists_bind_eq_ok {check : Except ε α} {next : α → Except ε β} :
    (∃ b, check >>= next = .ok b) ↔ ∃ a, check = .ok a ∧ ∃ b, next a = .ok b := by
  simp only [bind_eq_ok]
  constructor
  · rintro ⟨b, a, ha, hb⟩
    exact ⟨a, ha, b, hb⟩
  · rintro ⟨a, ha, b, hb⟩
    exact ⟨b, a, ha, hb⟩

/-! ## Errors -/

/-- The error that a check stops at. -/
def refusal? : Except ε α → Option ε
  | .ok _ => none
  | .error e => some e

variable {check : Except ε α} {e : ε}

/-- A check refuses with an error exactly when it ends with it. -/
theorem refusal?_eq_some_iff : refusal? check = some e ↔ check = .error e := by
  cases check <;> simp [refusal?]

/-- A check refuses nothing exactly when it passes. -/
theorem refusal?_eq_none_iff : refusal? check = none ↔ ∃ a, check = .ok a := by
  cases check <;> simp [refusal?]

@[simp] theorem refusal?_pure {a : α} : refusal? (pure a : Except ε α) = none := rfl

@[simp] theorem refusal?_mapError {convert : ε → ε'} :
    refusal? (check.mapError convert) = (refusal? check).map convert := by
  cases check <;> rfl

/-- A sequence of two checks, the second of which stops in the same way behind each value of the
first, has the error of the first or else that of the second. -/
theorem refusal?_bind {next : α → Except ε β} {behind : Option ε}
    (h : ∀ a, refusal? (next a) = behind) :
    refusal? (check >>= next) = (refusal? check).or behind := by
  cases check with
  | error e => rfl
  | ok a => exact h a

/-- What is made of the value of a check does not change its error. -/
theorem refusal?_bind_pure {result : α → β} :
    refusal? (check >>= fun a => pure (result a)) = refusal? check := by
  rw [refusal?_bind fun _ => refusal?_pure, Option.or_none]

end Seedbed
