import Seedbed.Generation.Evaluation
import Seedbed.Proofs.Converting
import Seedbed.Proofs.Rule.Nesting

/-!
# Evaluating a rule goes down once

`Scene.scalarWithin` is the evaluation of a rule with a limit on how deep it may go: the rule of a
placeholder is evaluated with one level less, and without a level left nothing is evaluated. With
more levels than placeholders stand one below another in the rule, the limit is never met
(`scalarWithin_eq`). In a parsed rule no placeholder stands below another, so two levels are enough
(`nesting_bounded`).
-/

namespace Seedbed

namespace Scene

variable (scene : Scene) (path : String) (row : Row)

/-! ## Evaluation with a limit -/

/-- The text of a template whose placeholders are evaluated in a given way. -/
def fillWith (evaluate : Rule → Work (Option GenerationFailure) Random.Source Json) :
    List Segment → Work (Option GenerationFailure) Random.Source String
  | [] => return ""
  | .literal text :: rest => do
    return text ++ (← fillWith evaluate rest)
  | .placeholder key rule :: rest => do
    let value ← match Fields.get? key row with
      | some value => pure value
      | none => evaluate rule
    return value.inText ++ (← fillWith evaluate rest)
  | .columnOnly key error :: rest => do
    let value ← match Fields.get? key row with
      | some value => pure value
      | none => Work.fail (some (.rule scene.table path error))
    return value.inText ++ (← fillWith evaluate rest)

/-- The value of a rule, evaluated on so many levels; it fails with `none` when they do not
suffice. -/
def scalarWithin : Nat → Rule → Work (Option GenerationFailure) Random.Source Json
  | 0, _ => Work.fail none
  | depth + 1, .template segments => do
    return .string (← scene.fillWith path row (scalarWithin depth) segments)
  | _ + 1, rule => Work.mapError some (scene.scalar path row rule)

/-! ## Enough levels -/

variable {scene path row}

/-- A template whose rules are evaluated as they are has the text that it has. -/
theorem fillWith_eq {evaluate : Rule → Work (Option GenerationFailure) Random.Source Json}
    {segments : List Segment}
    (h : ∀ key rule, .placeholder key rule ∈ segments →
      evaluate rule = Work.mapError some (scene.scalar path row rule)) :
    scene.fillWith path row evaluate segments =
      Work.mapError some (scene.fill path row segments) := by
  induction segments with
  | nil => rw [fillWith, fill, Work.mapError_pure]
  | cons segment rest ih =>
    have hrest := ih fun key rule hmem => h key rule (List.mem_cons_of_mem _ hmem)
    cases segment with
    | literal text =>
      simp only [fillWith, fill, hrest, Work.mapError_bind, Work.mapError_pure]
    | placeholder key rule =>
      rw [fillWith, fill, hrest, h key rule (List.mem_cons_self ..)]
      cases Fields.get? key row with
      | none => simp only [Work.mapError_bind, Work.mapError_pure]
      | some value => simp only [Work.mapError_bind, Work.mapError_pure]
    | columnOnly key error =>
      rw [fillWith, fill, hrest]
      cases Fields.get? key row with
      | none => simp only [Work.mapError_bind, Work.mapError_fail, Work.mapError_pure]
      | some value => simp only [Work.mapError_bind, Work.mapError_pure]

/-- **With enough levels the limit is never met.** -/
theorem scalarWithin_eq {depth : Nat} {rule : Rule} (h : rule.nesting < depth) :
    scene.scalarWithin path row depth rule =
      Work.mapError some (scene.scalar path row rule) := by
  induction depth generalizing rule with
  | zero => exact absurd h (Nat.not_lt_zero _)
  | succ depth ih =>
    cases rule with
    | template segments =>
      have hrules := (Rule.segmentsNesting_le_iff.1 (Nat.le_of_lt_succ h)).1
      have hfill : scene.fillWith path row (scene.scalarWithin path row depth) segments =
          Work.mapError some (scene.fill path row segments) :=
        fillWith_eq fun key rule hmem => ih (hrules key rule hmem)
      rw [scalarWithin, scalar, hfill, Work.mapError_bind]
      rfl
    | _ => rw [scalarWithin]; nofun

/-- The limit is not idle: a placeholder without a column needs a second level. -/
theorem scalarWithin_one {key : String} {rule : Rule} {rest : List Segment}
    (h : Fields.get? key row = none) (source : Random.Source) :
    (scene.scalarWithin path row 1 (.template (.placeholder key rule :: rest)) source).result =
      .error none := by
  simp only [scalarWithin, fillWith, h]
  rfl

end Scene

/-! ## Parsed rules -/

/-- **Placeholders do not nest.** The keys of the placeholders of a text, which are parsed as texts
of their own, are shorter than the text and have no placeholders; parsing them in the same way as
the text is what parsing does. In a rule that a text is parsed to, a template in a placeholder is
the key of the placeholder as one literal, so no placeholder stands below another, and evaluating
the rule goes through at most two levels of rules. -/
theorem nesting_bounded (text : String) :
    (∀ key, .placeholder key ∈ Template.pieces text.toList →
      key.length < text.toList.length ∧
        ∀ inner, .placeholder inner ∉ Template.pieces key) ∧
    Rule.parse text = Rule.parseNested text.toList ∧
    ∀ rule, Rule.parse text = .ok rule →
      (∀ key segments, Rule.Placed key (.template segments) rule → segments = [.literal key]) ∧
        rule.nesting ≤ 1 ∧
        ∀ (scene : Scene) (path : String) (row : Row),
          scene.scalarWithin path row 2 rule = Work.mapError some (scene.scalar path row rule) := by
  refine ⟨fun key hkey => ⟨Template.length_lt_of_mem_pieces hkey,
    Template.not_mem_pieces_of_mem_pieces hkey⟩, (Rule.parseNested_eq text.toList).symm,
    fun rule hparsed => ?_⟩
  have hnesting := Rule.nesting_le_one hparsed
  exact ⟨fun key segments => Rule.literal_of_placed hparsed, hnesting,
    fun scene path row => Scene.scalarWithin_eq (Nat.lt_succ_of_le hnesting)⟩

/-- A key that holds the mark of a placeholder is one literal. -/
theorem nesting_bounded_of_mark_in_key :
    ∃ rule, Rule.parse "a$\x7bb$\x7bc\x7dd" = .ok rule ∧
      Rule.Placed "b$\x7bc" (.template [.literal "b$\x7bc"]) rule ∧ rule.nesting ≤ 1 ∧
      ∀ (scene : Scene) (path : String) (row : Row),
        scene.scalarWithin path row 2 rule = Work.mapError some (scene.scalar path row rule) := by
  have hparsed : Rule.parse "a$\x7bb$\x7bc\x7dd" = .ok (.template [.literal "a",
    .placeholder "b$\x7bc" (.template [.literal "b$\x7bc"]), .literal "d"]) := by rfl
  exact ⟨_, hparsed, .here (by simp), ((nesting_bounded _).2.2 _ hparsed).2⟩

end Seedbed
