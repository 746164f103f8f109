import Seedbed.Proofs.Rule.Template

/-!
# Placeholders do not nest

The key of a placeholder is parsed as a text of its own. It stands in the text that holds it, so it
is shorter, and parsing can be written as the recursion that it is (`parseNested`); the one that
does not recur gives the same (`parseNested_eq`). Since a key holds no closing brace, it has no
placeholder, and what is parsed from it is a rule without placeholders or the key itself as one
literal (`literal_of_placed`). So no placeholder stands below a placeholder (`nesting_le_one`).
-/

namespace Seedbed

namespace Template

variable {text key : List Char}

/-- The key of a placeholder stands in the text, between the marks. -/
theorem exists_eq_of_mem_pieces (h : .placeholder key ∈ pieces text) :
    ∃ front back, text = front ++ (opening ++ key ++ '\x7d' :: back) := by
  obtain ⟨before, after, hpieces⟩ := List.append_of_mem h
  refine ⟨write before, write after, ?_⟩
  rw [← write_pieces text, hpieces, write_append]
  simp [write, Piece.write]

/-- The key of a placeholder is shorter than the text. -/
theorem length_lt_of_mem_pieces (h : .placeholder key ∈ pieces text) :
    key.length < text.length := by
  obtain ⟨front, back, rfl⟩ := exists_eq_of_mem_pieces h
  simp only [List.length_append, List.length_cons]
  omega

/-- The key of a placeholder has no placeholders. -/
theorem not_mem_pieces_of_mem_pieces (h : .placeholder key ∈ pieces text) (inner : List Char) :
    .placeholder inner ∉ pieces key := by
  rw [pieces_of_not_mem ((cut_pieces text).keys key h).2]
  simp [mem_literalPiece_iff]

end Template

namespace Rule

/-! ## Parsing as a recursion -/

/-- Parses a text, and the keys of its placeholders in the same way. -/
def parseNested (text : List Char) : Except RuleError Rule :=
  if Template.hasOpening text then
    .ok (.template ((Template.pieces text).attach.map fun
      | ⟨.literal literal, _⟩ => .literal (String.ofList literal)
      | ⟨.placeholder key, _⟩ =>
        match parseNested key with
        | .ok rule => .placeholder (String.ofList key) rule
        | .error e => .columnOnly (String.ofList key) e))
  else parsePlain text
termination_by text.length
decreasing_by exact Template.length_lt_of_mem_pieces ‹_›

/-- **Parsing the keys in the same way** gives what parsing gives. -/
theorem parseNested_eq (text : List Char) : parseNested text = parseChars text := by
  unfold parseNested parseChars
  split
  · refine congrArg (fun segments => Except.ok (template segments)) ?_
    refine Eq.trans (List.map_congr_left ?_) List.attach_map_val
    rintro ⟨piece, hpiece⟩ -
    cases piece with
    | literal literal => rfl
    | placeholder key =>
      have hclosed : '\x7d' ∉ key := ((Template.cut_pieces text).keys key hpiece).2
      have hkey : parseNested key = parseKey key :=
        (parseNested_eq key).trans (parseKey_eq_parseChars hclosed).symm
      cases hrule : parseKey key with
      | ok rule => simp only [segmentOf, hkey, hrule]
      | error e => simp only [segmentOf, hkey, hrule]
  · rfl
termination_by text.length
decreasing_by exact Template.length_lt_of_mem_pieces hpiece

/-! ## Placeholders below placeholders -/

/-- A placeholder with a key and a rule stands in a rule, at any depth. -/
inductive Placed (key : String) (inner : Rule) : Rule → Prop
  | here {segments : List Segment} (mem : .placeholder key inner ∈ segments) :
      Placed key inner (.template segments)
  | deeper {segments : List Segment} {other : String} {rule : Rule}
      (mem : .placeholder other rule ∈ segments) (placed : Placed key inner rule) :
      Placed key inner (.template segments)

mutual

/-- How many placeholders stand one below another in a rule. -/
def nesting : Rule → Nat
  | template segments => segmentsNesting segments
  | _ => 0

/-- How many placeholders stand one below another in the segments of a template. -/
def segmentsNesting : List Segment → Nat
  | [] => 0
  | .literal _ :: rest => segmentsNesting rest
  | .placeholder _ rule :: rest => max (nesting rule + 1) (segmentsNesting rest)
  | .columnOnly _ _ :: rest => max 1 (segmentsNesting rest)

end

/-- `segmentsNesting` in the natural per-element form. -/
theorem segmentsNesting_le_iff {segments : List Segment} {n : Nat} :
    segmentsNesting segments ≤ n ↔
      (∀ key rule, .placeholder key rule ∈ segments → nesting rule < n) ∧
        ∀ key error, .columnOnly key error ∈ segments → 0 < n := by
  induction segments with
  | nil => simp [segmentsNesting]
  | cons segment rest ih =>
    cases segment with
    | literal text => simp [segmentsNesting, ih]
    | columnOnly key error =>
      rw [segmentsNesting, Nat.max_le, ih]
      show 0 < n ∧ _ ↔ _
      simp [or_imp, forall_and, and_left_comm]
    | placeholder key rule =>
      rw [segmentsNesting, Nat.max_le, ih]
      show nesting rule < n ∧ _ ↔ _
      simp [or_imp, forall_and, and_assoc]

/-! ## Parsed rules -/

variable {text : List Char} {key : String} {inner rule : Rule}

/-- A key that is parsed to a template is one literal. -/
theorem parseKey_eq_template {segments : List Segment}
    (h : parseKey text = .ok (.template segments)) :
    segments = [.literal (String.ofList text)] := by
  unfold parseKey at h
  split at h
  · cases h
    rfl
  · exact absurd rfl (parsePlain_ne_template h segments)

/-- A template in a placeholder of a text is the key of the placeholder as one literal. -/
theorem literal_of_mem_segments {segments : List Segment}
    (h : .placeholder key (.template segments) ∈ Rule.segments text) :
    segments = [.literal key] := by
  obtain ⟨piece, -, hpiece⟩ := List.mem_map.1 h
  cases piece with
  | literal literal => cases hpiece
  | placeholder cs =>
    simp only [segmentOf] at hpiece
    split at hpiece
    · next hrule =>
      cases hpiece
      exact parseKey_eq_template hrule
    · cases hpiece

/-- No placeholder stands in the rule of a placeholder of a text. -/
theorem not_placed_of_mem_segments {other : String}
    (h : .placeholder other rule ∈ Rule.segments text) : ¬Placed key inner rule := by
  rintro (⟨hmem⟩ | ⟨hmem, -⟩)
  · obtain rfl := literal_of_mem_segments h
    simp at hmem
  · obtain rfl := literal_of_mem_segments h
    simp at hmem

/-- **A template in a placeholder of a parsed rule**, at whatever depth, is the key of the
placeholder as one literal. -/
theorem literal_of_placed {text : String} {segments : List Segment}
    (hparsed : parse text = .ok rule) (h : Placed key (.template segments) rule) :
    segments = [.literal key] := by
  cases h with
  | here mem =>
    obtain ⟨-, rfl⟩ := parseChars_eq_template_iff.1 hparsed
    exact literal_of_mem_segments mem
  | deeper mem placed =>
    obtain ⟨-, rfl⟩ := parseChars_eq_template_iff.1 hparsed
    exact absurd placed (not_placed_of_mem_segments mem)

/-- **No placeholder of a parsed rule stands below another.** -/
theorem nesting_le_one {text : String} (hparsed : parse text = .ok rule) : rule.nesting ≤ 1 := by
  cases rule with
  | template segments =>
    obtain ⟨-, rfl⟩ := parseChars_eq_template_iff.1 hparsed
    refine segmentsNesting_le_iff.2 ⟨fun key rule hmem => ?_, fun _ _ _ => Nat.one_pos⟩
    cases rule with
    | template inner =>
      obtain rfl := literal_of_mem_segments hmem
      exact Nat.one_pos
    | _ => exact Nat.one_pos
  | _ => exact Nat.zero_le 1

end Rule

end Seedbed
