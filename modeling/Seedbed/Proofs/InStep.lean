import Mathlib.Data.List.Forall2
import Seedbed.Proofs.Giving

/-!
# Two pieces of work in step

Two pieces of work are in step when, started in states that are related, they give values that are
related and leave states that are related, if both of them give something at all. Nothing is said
of work that fails, so a failure on one side is as good as one on both. Each way to build work
keeps this, one lemma each; the loops relate their results one by one.
-/

namespace Seedbed.Work

variable {ε ε' σ τ σ' τ' α β γ δ : Type}

/-- Whenever two pieces of work give something from related states, their values are related, and
so are the states that they leave. -/
def InStep (states : σ → τ → Prop) (values : α → β → Prop) (left : Work ε σ α)
    (right : Work ε' τ β) : Prop :=
  ∀ ⦃s t⦄, states s t → ∀ ⦃a b s' t'⦄, left.Gives s a s' → right.Gives t b t' →
    values a b ∧ states s' t'

namespace InStep

variable {states : σ → τ → Prop} {values values' : α → β → Prop} {left : Work ε σ α}
  {right : Work ε' τ β}

/-- Values that are related in one way are so in every weaker one. -/
theorem mono (h : InStep states values left right) (hvalues : ∀ a b, values a b → values' a b) :
    InStep states values' left right := by
  intro s t hst a b s' t' ha hb
  obtain ⟨hab, hst'⟩ := h hst ha hb
  exact ⟨hvalues a b hab, hst'⟩

/-- Work is in step with itself from one state. -/
theorem refl (work : Work ε σ α) : InStep Eq Eq work work := by
  rintro s _ rfl a b s' t' ha hb
  exact ha.unique hb

/-- Related values that are there already are given in step. -/
theorem pure {a : α} {b : β} (h : values a b) :
    InStep states values (pure a : Work ε σ α) (Pure.pure b : Work ε' τ β) := by
  intro s t hst _ _ _ _ ha hb
  obtain ⟨rfl, rfl⟩ := gives_pure_iff.1 ha
  obtain ⟨rfl, rfl⟩ := gives_pure_iff.1 hb
  exact ⟨h, hst⟩

/-- Events are noted without a trace in the state. -/
theorem note (event other : Event) :
    InStep states (fun _ _ => True) (note event : Work ε σ Unit)
      (Work.note other : Work ε' τ Unit) := by
  rintro s t hst _ _ _ _ ⟨-, rfl⟩ ⟨-, rfl⟩
  exact ⟨trivial, hst⟩

/-- A result is given without a trace in the state. -/
theorem ofExcept (result : Except ε α) (other : Except ε' β) :
    InStep states (fun _ _ => True) (ofExcept result) (Work.ofExcept other) := by
  rintro s t hst _ _ _ _ ⟨-, rfl⟩ ⟨-, rfl⟩
  exact ⟨trivial, hst⟩

/-- Computations whose values are related are in step when they change the state alike. -/
theorem ofState {computation : StateM σ α} {other : StateM σ β}
    (h : ∀ s, values (computation s).1 (other s).1 ∧ (computation s).2 = (other s).2) :
    InStep Eq values (ofState computation : Work ε σ α) (Work.ofState other : Work ε' σ β) := by
  rintro s _ rfl _ _ _ _ ⟨⟨⟩, rfl⟩ ⟨⟨⟩, rfl⟩
  exact h s

/-- Computations that change the state alike are in step, whatever they give. -/
theorem ofFallible {computation : σ → Except ε α × σ} {other : σ → Except ε' β × σ}
    (h : ∀ s, (computation s).2 = (other s).2) :
    InStep Eq (fun _ _ => True) (ofFallible computation) (Work.ofFallible other) := by
  rintro s _ rfl _ _ _ _ ⟨-, rfl⟩ ⟨-, rfl⟩
  exact ⟨trivial, h s⟩

/-- Work that always fails is in step with all work. -/
theorem fail_left (e : ε) : InStep states values (fail e) right := by
  rintro s t - a b s' t' ⟨ha, -⟩
  cases ha

/-- All work is in step with work that always fails. -/
theorem fail_right (e : ε') : InStep states values left (fail e) := by
  rintro s t - a b s' t' - ⟨hb, -⟩
  cases hb

/-- Work in step stays in step when errors are converted. -/
theorem mapError {ζ ζ' : Type} (h : InStep states values left right) (convert : ε → ζ)
    (other : ε' → ζ') : InStep states values (mapError convert left) (Work.mapError other right) :=
  fun _ _ hst _ _ _ _ ha hb => h hst (gives_mapError_iff.1 ha) (gives_mapError_iff.1 hb)

/-- A sequence is in step when its parts are. -/
theorem bind {left' : α → Work ε σ γ} {right' : β → Work ε' τ δ} {results : γ → δ → Prop}
    (h : InStep states values left right)
    (hnext : ∀ a b, values a b → InStep states results (left' a) (right' b)) :
    InStep states results (left >>= left') (right >>= right') := by
  intro s t hst c d s' t' hc hd
  obtain ⟨a, mid, ha, hc⟩ := gives_bind_iff.1 hc
  obtain ⟨b, mid', hb, hd⟩ := gives_bind_iff.1 hd
  obtain ⟨hab, hmid⟩ := h hst ha hb
  exact hnext a b hab hmid hc hd

/-- Work that is repeated as often stays in step. -/
theorem repeated (h : InStep states values left right) (n : Nat) :
    InStep states (List.Forall₂ values) (repeated n left) (Work.repeated n right) := by
  induction n with
  | zero => exact pure .nil
  | succ n ih =>
    rw [repeated_succ, repeated_succ]
    refine h.bind fun a b hab => ih.bind fun as bs habs => ?_
    exact pure (.cons hab habs)

/-- Loops over the same list are in step when their steps are. -/
theorem forEach {left : γ → Work ε σ α} {right : γ → Work ε' τ β} {cs : List γ}
    (h : ∀ c ∈ cs, InStep states values (left c) (right c)) :
    InStep states (List.Forall₂ values) (forEach left cs) (Work.forEach right cs) := by
  induction cs with
  | nil => exact pure .nil
  | cons c rest ih =>
    refine (h c (List.mem_cons_self ..)).bind fun a b hab => ?_
    refine (ih fun c' hc' => h c' (List.mem_cons_of_mem _ hc')).bind fun as bs habs => ?_
    exact pure (.cons hab habs)

end InStep

end Seedbed.Work
