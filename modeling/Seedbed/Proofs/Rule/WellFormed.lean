import Seedbed.Proofs.Number.Order
import Seedbed.Proofs.Rule.Fit
import Seedbed.Proofs.Text.Split

/-!
# Parsed rules are well formed

`Rule.WellFormed` is what a reader may rely on of every rule that a text is parsed to, and of the
rules in its placeholders: bounds are in order and within their limits, the names of a relation
hold no dot, a choice has candidates (`Rule.wellFormed_of_parse`). All but the dots follows from
what the evaluation needs of a rule (`Rule.Fit`).
-/

namespace Seedbed.Rule

/-- A range of reals has finite bounds in order. -/
structure RealsOrdered (min max : Float) (places : Nat) : Prop where
  min_finite : Number.isFinite min = true
  max_finite : Number.isFinite max = true
  le : min ≤ max
  places_le : places ≤ 15

mutual

/-- The arguments of a rule are of the right kind and in order. -/
def WellFormed : Rule → Prop
  | template segments => SegmentsWellFormed segments
  | tenantId => True
  | relation table column =>
    (table ≠ "" ∧ '.' ∉ table.toList) ∧ (column ≠ "" ∧ '.' ∉ column.toList)
  | choice candidates => candidates ≠ []
  | int min max => min ≤ max
  | float min max places => RealsOrdered min max places
  | amount min max places => RealsOrdered min max places
  | dateBetween first last => first.number ≤ last.number
  | dateAfter column minDays maxDays =>
    column ≠ "" ∧ minDays ≤ maxDays ∧ minDays.natAbs ≤ 1000000 ∧ maxDays.natAbs ≤ 1000000
  | numeric _ => True
  | lookup _ => True

/-- The rules in the placeholders of a template are well formed. -/
def SegmentsWellFormed : List Segment → Prop
  | [] => True
  | .literal _ :: rest => SegmentsWellFormed rest
  | .placeholder _ rule :: rest => WellFormed rule ∧ SegmentsWellFormed rest
  | .columnOnly _ _ :: rest => SegmentsWellFormed rest

end

/-- `SegmentsWellFormed` in the natural per-element form. -/
theorem segmentsWellFormed_iff {segments : List Segment} :
    SegmentsWellFormed segments ↔
      ∀ key rule, .placeholder key rule ∈ segments → WellFormed rule := by
  induction segments with
  | nil => simp [SegmentsWellFormed]
  | cons segment rest ih =>
    cases segment with
    | literal text => simp [SegmentsWellFormed, ih]
    | columnOnly key error => simp [SegmentsWellFormed, ih]
    | placeholder key rule => simp [SegmentsWellFormed, ih, or_imp, forall_and]

/-- A fit range of reals is in order. -/
theorem RealsFit.ordered {min max : Float} {places : Nat} (h : RealsFit min max places) :
    RealsOrdered min max places :=
  have ⟨hmin, hmax, hlt, _, hplaces⟩ := h
  ⟨hmin, hmax, Number.le_of_not_lt hmin hmax hlt, hplaces⟩

variable {text : List Char} {rule : Rule}

/-- A relation is parsed from two names around one dot. -/
theorem parseRelation_eq_ok {path : List Char} (h : parseRelation text path = .ok rule) :
    ∃ table column, rule = .relation (String.ofList table) (String.ofList column) ∧
      '.' ∉ table ∧ '.' ∉ column := by
  unfold parseRelation at h
  split at h
  · next table column hsplit =>
    split at h
    · cases h
    · cases h
      exact ⟨table, column, rfl, Text.not_mem_of_mem_splitOn (by rw [hsplit]; simp),
        Text.not_mem_of_mem_splitOn (by rw [hsplit]; simp)⟩
  · cases h

/-- The names of a relation that was parsed hold no dot. -/
theorem dot_not_mem_of_parsePlain {table column : String}
    (h : parsePlain text = .ok (.relation table column)) :
    '.' ∉ table.toList ∧ '.' ∉ column.toList := by
  have hgives := gives_of_parsePlain h
  cases hform : formOf text with
  | relation path =>
    rw [parsePlain, hform] at h
    obtain ⟨table', column', heq, htable, hcolumn⟩ := parseRelation_eq_ok h
    obtain ⟨rfl, rfl⟩ := Rule.relation.inj heq
    simp [htable, hcolumn]
  | _ => simp [hform, Form.Gives] at hgives

/-- A text without placeholders is parsed to a well-formed rule. -/
theorem parsePlain_wellFormed (h : parsePlain text = .ok rule) : rule.WellFormed := by
  have hfit := parsePlain_fit h
  cases rule with
  | template segments => exact absurd rfl (parsePlain_ne_template h segments)
  | tenantId => trivial
  | relation table column =>
    obtain ⟨htable, hcolumn⟩ := dot_not_mem_of_parsePlain h
    exact ⟨⟨hfit.1, htable⟩, hfit.2, hcolumn⟩
  | choice candidates => exact hfit
  | int min max => exact hfit.1
  | float min max places => exact hfit.ordered
  | amount min max places => exact hfit.ordered
  | dateBetween first last => exact hfit
  | dateAfter column minDays maxDays =>
    obtain ⟨hcolumn, hle, hlower, hupper⟩ := hfit
    simp only [maxDayOffset] at hlower hupper
    exact ⟨hcolumn, hle, by omega, by omega⟩
  | numeric length => trivial
  | lookup text => trivial

/-- The key of a placeholder is parsed to a well-formed rule. -/
theorem parseKey_wellFormed (h : parseKey text = .ok rule) : rule.WellFormed := by
  unfold parseKey at h
  split at h
  · cases h
    trivial
  · exact parsePlain_wellFormed h

/-- **Every rule that a text is parsed to is well formed**, and so is every rule in one of its
placeholders. -/
theorem wellFormed_of_parse {text : String} (h : Rule.parse text = .ok rule) :
    rule.WellFormed := by
  unfold parse parseChars at h
  split at h
  · cases h
    refine segmentsWellFormed_iff.2 fun key rule hm => ?_
    obtain ⟨piece, -, hpiece⟩ := List.mem_map.1 hm
    obtain ⟨key', hrule⟩ := exists_parseKey_of_segmentOf hpiece
    exact parseKey_wellFormed hrule
  · exact parsePlain_wellFormed h

end Seedbed.Rule
