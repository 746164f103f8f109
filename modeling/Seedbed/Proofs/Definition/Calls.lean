import Seedbed.Proofs.Giving
import Seedbed.Proofs.Definition.Traversal

/-!
# Converting with a conversion that has a state

A conversion may read and change a state from call to call. Then converting a definition makes the
calls for its scalars in document order, each from the state that the one before it left. It gives a
definition exactly when all calls give something, and what they give is then the whole of what comes
out, for its shape is that of the definition (`gives_traverse_iff`). It stops at the first call that
stops, with its error and the state it leaves, and makes no call behind it (`stops_traverse_iff`).
When there is no state, converting twice is converting once with both conversions
(`traverse_bind_eq_ok_iff`).
-/

namespace Seedbed

variable {ε σ α β γ : Type}

/-! ## Calls one after another -/

/-- The calls for some scalars, made one after another from a state, give answers at the paths of
the scalars and leave a state. -/
inductive Answers (f : String → α → Work ε σ β) :
    List (String × α) → σ → List (String × β) → σ → Prop
  | nil {state : σ} : Answers f [] state [] state
  | cons {path : String} {value : α} {answer : β} {scalars : List (String × α)}
      {answers : List (String × β)} {state mid after : σ}
      (first : (f path value).Gives state answer mid) (rest : Answers f scalars mid answers after) :
      Answers f ((path, value) :: scalars) state ((path, answer) :: answers) after

variable {f : String → α → Work ε σ β} {state after : σ} {e : ε}

/-- A call keeps its path and gives what its function gives. -/
theorem gives_call_iff {path path' : String} {value : α} {answer : β} :
    (call f (path, value)).Gives state (path', answer) after ↔
      path' = path ∧ (f path value).Gives state answer after := by
  rw [call, bind_pure_comp, Work.gives_map_iff]
  simp only [Prod.mk.injEq]
  constructor
  · rintro ⟨_, hgives, rfl, rfl⟩
    exact ⟨rfl, hgives⟩
  · rintro ⟨rfl, hgives⟩
    exact ⟨answer, hgives, rfl, rfl⟩

/-- A call stops where its function stops. -/
theorem stops_call_iff {scalar : String × α} :
    (call f scalar).Stops state e after ↔ (f scalar.1 scalar.2).Stops state e after := by
  rw [call, bind_pure_comp, Work.stops_map_iff]

/-- A loop over calls gives the answers of the calls. -/
theorem gives_calls_iff {scalars : List (String × α)} {answers : List (String × β)} :
    (Work.forEach (call f) scalars).Gives state answers after ↔
      Answers f scalars state answers after := by
  induction scalars generalizing state answers with
  | nil =>
    rw [Work.gives_forEach_nil_iff]
    constructor
    · rintro ⟨rfl, rfl⟩
      exact .nil
    · rintro ⟨⟩
      exact ⟨rfl, rfl⟩
  | cons scalar rest ih =>
    obtain ⟨path, value⟩ := scalar
    rw [Work.gives_forEach_cons_iff]
    constructor
    · rintro ⟨⟨_, answer⟩, answers, mid, rfl, hfirst, hrest⟩
      obtain ⟨rfl, hfirst⟩ := gives_call_iff.1 hfirst
      exact .cons hfirst (ih.1 hrest)
    · rintro (_ | ⟨hfirst, hrest⟩)
      exact ⟨_, _, _, rfl, gives_call_iff.2 ⟨rfl, hfirst⟩, ih.2 hrest⟩

/-- A loop over calls stops at the first call that stops. -/
theorem stops_calls_iff {scalars : List (String × α)} :
    (Work.forEach (call f) scalars).Stops state e after ↔
      ∃ before path value behind answers mid, scalars = before ++ (path, value) :: behind ∧
        Answers f before state answers mid ∧ (f path value).Stops mid e after := by
  simp only [Work.stops_forEach_iff, gives_calls_iff, stops_call_iff, Prod.exists]

namespace Definition

variable {definition : Definition α}

/-! ## Converting with a state -/

/-- **Converting gives a definition** of the same shape, whose scalars are the answers of the
calls. -/
theorem gives_traverse_iff {out : Definition β} :
    (definition.traverse f).Gives state out after ↔
      out.shape = definition.shape ∧ Answers f definition.scalars state out.scalars after := by
  have hseen : ∀ answers, (seen <$> definition.traverse f).Gives state answers after ↔
      Answers f definition.scalars state answers.2 after ∧ answers.1 = definition.shape := by
    rintro ⟨whole, answers⟩
    rw [seen_traverse, Work.mapM_eq_forEach, Work.gives_map_iff]
    simp only [gives_calls_iff, Prod.mk.injEq]
    constructor
    · rintro ⟨_, hanswers, rfl, rfl⟩
      exact ⟨hanswers, rfl⟩
    · rintro ⟨hanswers, rfl⟩
      exact ⟨answers, hanswers, rfl, rfl⟩
  constructor
  · intro h
    exact ((hseen out.seen).1 (Work.gives_map_iff.2 ⟨out, h, rfl⟩)).symm
  · intro h
    obtain ⟨other, hother, he⟩ := Work.gives_map_iff.1 ((hseen out.seen).2 h.symm)
    rwa [eq_of_seen (Prod.ext_iff.1 he).1 (Prod.ext_iff.1 he).2] at hother

/-- Converting gives something when all calls give something. -/
theorem exists_gives_traverse_iff :
    (∃ out, (definition.traverse f).Gives state out after) ↔
      ∃ answers, Answers f definition.scalars state answers after := by
  have hseen : (∃ out, (definition.traverse f).Gives state out after) ↔
      ∃ seen, (Definition.seen <$> definition.traverse f).Gives state seen after := by
    simp only [Work.gives_map_iff]
    exact ⟨fun ⟨out, h⟩ => ⟨out.seen, out, h, rfl⟩, fun ⟨_, out, h, _⟩ => ⟨out, h⟩⟩
  rw [hseen, seen_traverse, Work.mapM_eq_forEach]
  simp only [Work.gives_map_iff, gives_calls_iff]
  exact ⟨fun ⟨_, answers, h, _⟩ => ⟨answers, h⟩, fun ⟨answers, h⟩ => ⟨_, answers, h, rfl⟩⟩

/-- **Converting stops at the first call that stops**, as this call does. -/
theorem stops_traverse_iff :
    (definition.traverse f).Stops state e after ↔
      ∃ before path value behind answers mid,
        definition.scalars = before ++ (path, value) :: behind ∧
          Answers f before state answers mid ∧ (f path value).Stops mid e after := by
  have hseen : (Definition.seen <$> definition.traverse f).Stops state e after ↔
      (Work.forEach (call f) definition.scalars).Stops state e after := by
    rw [seen_traverse, Work.mapM_eq_forEach, Work.stops_map_iff]
  rw [Work.stops_map_iff] at hseen
  rw [hseen, stops_calls_iff]

/-! ## Converting twice -/

section

variable {f : String → α → Except ε β} {g : String → β → Except ε γ}

/-- **Converting twice** gives what converting once with both conversions gives. -/
theorem traverse_bind_eq_ok_iff {out : Definition γ} :
    (definition.traverse f >>= fun converted => converted.traverse g) = .ok out ↔
      definition.traverse (fun path value => f path value >>= g path) = .ok out := by
  rw [bind_eq_ok]
  constructor
  · rintro ⟨mid, hmid, hout⟩
    obtain ⟨hmidShape, hmids⟩ := traverse_eq_ok_iff.1 hmid
    obtain ⟨houtShape, houts⟩ := traverse_eq_ok_iff.1 hout
    refine traverse_eq_ok_iff.2 ⟨houtShape.trans hmidShape, forall₂_trans ?_ hmids houts⟩
    rintro ⟨path, a⟩ ⟨_, b⟩ ⟨_, c⟩ ⟨rfl, hb⟩ ⟨rfl, hc⟩
    exact ⟨rfl, bind_eq_ok.2 ⟨b, hb, hc⟩⟩
  · intro h
    obtain ⟨mid, hmid⟩ : ∃ mid, definition.traverse f = .ok mid := by
      refine traverse_ok_iff.2 fun scalar hscalar => ?_
      obtain ⟨c, hc⟩ := traverse_ok_iff.1 ⟨out, h⟩ scalar hscalar
      obtain ⟨b, hb, -⟩ := bind_eq_ok.1 hc
      exact ⟨b, hb⟩
    obtain ⟨hmidShape, hmids⟩ := traverse_eq_ok_iff.1 hmid
    obtain ⟨houtShape, houts⟩ := traverse_eq_ok_iff.1 h
    refine ⟨mid, hmid, traverse_eq_ok_iff.2
      ⟨houtShape.trans hmidShape.symm, forall₂_trans ?_ (List.Forall₂.flip hmids) houts⟩⟩
    rintro ⟨path, b⟩ ⟨_, a⟩ ⟨_, c⟩ ⟨rfl, hb⟩ ⟨rfl, hc⟩
    obtain ⟨b', hb', hc⟩ := bind_eq_ok.1 hc
    cases hb.symm.trans hb'
    exact ⟨rfl, hc⟩

end

/-! ## Everything about converting -/

/-- **Converting a definition is a traversal of its scalars in document order.** From any state it
gives a definition exactly when the calls for the scalars, each with its path and from the state
that the call before it left, all give something; the definition has the same shape, the answers as
its scalars, and the state behind the last call is left. It stops exactly when some call stops
behind calls that gave something, with the error and the state of that call. Converting twice
without a state gives what converting once with both conversions gives. -/
theorem traverse_in_order (definition : Definition α) :
    (∀ (f : String → α → Work ε σ β) (state after : σ),
      (∀ out, (definition.traverse f).Gives state out after ↔
        out.shape = definition.shape ∧ Answers f definition.scalars state out.scalars after) ∧
      ((∃ out, (definition.traverse f).Gives state out after) ↔
        ∃ answers, Answers f definition.scalars state answers after) ∧
      ∀ e, (definition.traverse f).Stops state e after ↔
        ∃ before path value behind answers mid,
          definition.scalars = before ++ (path, value) :: behind ∧
            Answers f before state answers mid ∧ (f path value).Stops mid e after) ∧
    ∀ (f : String → α → Except ε β) (g : String → β → Except ε γ) (out : Definition γ),
      (definition.traverse f >>= fun converted => converted.traverse g) = .ok out ↔
        definition.traverse (fun path value => f path value >>= g path) = .ok out :=
  ⟨fun _ _ _ => ⟨fun _ => gives_traverse_iff, exists_gives_traverse_iff,
    fun _ => stops_traverse_iff⟩, fun _ _ _ => traverse_bind_eq_ok_iff⟩

end Definition

end Seedbed
