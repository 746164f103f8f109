import Seedbed.Generation.Evaluation
import Seedbed.Proofs.Rule.Template

/-!
# Columns in place of placeholders

`Replaced` says what a text becomes when each of its placeholders, from left to right, gives way to
the value of the column that has its key as its name. The text is read once: a value that was put in
is not looked at again. A row with a column for every placeholder leads to one such text
(`replaced_shown`), and evaluating the rule of the text makes it (`fill_segments`). What the keys
would mean as rules plays no part, so nothing fails and nothing is drawn.
-/

namespace Seedbed

open Template (Free Opens Cut literalPiece)

/-- What a text becomes with the values of a row in place of its placeholders. -/
inductive Replaced (row : Row) : List Char → List Char → Prop
  | last {text : List Char} (free : Free text []) : Replaced row text text
  | next {front text key rest result : List Char} {value : Json} (free : Free front text)
      (placeholder : Opens text key rest)
      (column : Fields.get? (String.ofList key) row = some value)
      (tail : Replaced row rest result) :
      Replaced row (front ++ text) (front ++ value.inText.toList ++ result)

/-- A row has a column for each placeholder of a text. -/
def HasColumns (row : Row) (text : List Char) : Prop :=
  ∀ pieces, Cut text pieces → ∀ key, .placeholder key ∈ pieces →
    String.ofList key ∈ Fields.names row

/-- What a piece of a text shows of a row: a placeholder shows the value of its column. -/
def Template.Piece.shown (row : Row) : Template.Piece → List Char
  | .literal text => text
  | .placeholder key => ((Fields.get? (String.ofList key) row).getD .null).inText.toList

variable {row : Row} {text result : List Char}

/-- A literal is shown as it is, and so is an empty one. -/
theorem flatMap_shown_literalPiece (text : List Char) :
    (literalPiece text).flatMap (Template.Piece.shown row) = text := by
  unfold literalPiece
  split
  · next h => simp [List.isEmpty_iff.1 h]
  · simp [Template.Piece.shown]

/-- The placeholders of a text can be replaced by the columns of a row that has them all. -/
theorem replaced_shown (h : HasColumns row text) :
    Replaced row text ((Template.pieces text).flatMap (Template.Piece.shown row)) := by
  have hcut := Template.cut_pieces text
  replace h := h _ hcut
  generalize Template.pieces text = pieces at hcut h
  induction hcut with
  | last free =>
    rw [flatMap_shown_literalPiece]
    exact .last free
  | @next front text key rest pieces free placeholder tail ih =>
    have hkey : String.ofList key ∈ Fields.names row := h key (by simp)
    obtain ⟨value, hvalue⟩ :=
      Option.ne_none_iff_exists'.1 (mt Fields.get?_eq_none_iff.1 (not_not.2 hkey))
    have hrest := ih fun other hother => h other (by simp [hother])
    have hnext := Replaced.next free placeholder hvalue hrest
    simpa [flatMap_shown_literalPiece, Template.Piece.shown, hvalue] using hnext

namespace Scene

variable (scene : Scene) (path : String)

/-- A literal is put in front of what the segments behind it give. -/
theorem fill_literalPiece (row : Row) (front : List Char) (rest : List Segment) :
    scene.fill path row ((literalPiece front).map Rule.segmentOf ++ rest) = do
      return String.ofList front ++ (← scene.fill path row rest) := by
  unfold literalPiece
  split
  · next hempty =>
    obtain rfl := List.isEmpty_iff.1 hempty
    simp
  · simp [Rule.segmentOf, fill]

/-- A column with the key of a placeholder is put in front of what the segments behind it give. -/
theorem fill_placeholder {key : List Char} {value : Json}
    (h : Fields.get? (String.ofList key) row = some value) (rest : List Segment) :
    scene.fill path row (Rule.segmentOf (.placeholder key) :: rest) = do
      return value.inText ++ (← scene.fill path row rest) := by
  rw [Rule.segmentOf]
  split <;> simp [fill, h]

/-- **A template is filled from the columns of the row** when it has one for each placeholder. -/
theorem fill_segments (h : Replaced row text result) :
    scene.fill path row (Rule.segments text) = pure (String.ofList result) := by
  induction h with
  | @last text free =>
    have hpieces : Template.pieces text = literalPiece text :=
      (Template.cut_iff.1 (.last free)).symm
    have hfill := scene.fill_literalPiece path row text []
    simpa [Rule.segments, hpieces, fill] using hfill
  | @next front text key rest result value free placeholder column tail ih =>
    have hpieces : Template.pieces (front ++ text) =
        literalPiece front ++ .placeholder key :: Template.pieces rest :=
      (Template.cut_iff.1 (.next free placeholder (Template.cut_pieces rest))).symm
    rw [Rule.segments, hpieces, List.map_append, List.map_cons, fill_literalPiece,
      fill_placeholder _ _ column, ← Rule.segments, ih]
    simp [String.ofList_append]

end Scene

/-- **Columns win in a template.** A text with the mark of a placeholder is a rule, whatever its
keys are. Beside a row that has a column for each of its placeholders it makes the one text that it
becomes with the values of the columns in their place; it does not fail, draws nothing and notes
nothing. A text without a complete placeholder makes itself beside every row. -/
theorem columns_win {text : String} (hmark : Template.opening <:+: text.toList) :
    ∃ rule, Rule.parse text = .ok rule ∧
      ∀ (scene : Scene) (path : String) (row : Row) (source : Random.Source),
        (HasColumns row text.toList → ∃ result,
          (∀ other, Replaced row text.toList other ↔ other = result) ∧
            scene.scalar path row rule source =
              ⟨.ok (.string (String.ofList result)), source, []⟩) ∧
        (Free text.toList [] →
          scene.scalar path row rule source = ⟨.ok (.string text), source, []⟩) := by
  refine ⟨.template (Rule.segments text.toList),
    Rule.parseChars_eq_template_iff.2 ⟨hmark, rfl⟩, fun scene path row source => ?_⟩
  have hmakes : ∀ {result}, Replaced row text.toList result →
      scene.scalar path row (.template (Rule.segments text.toList)) source =
        ⟨.ok (.string (String.ofList result)), source, []⟩ := by
    intro result h
    rw [Scene.scalar, scene.fill_segments path h, pure_bind]
    rfl
  refine ⟨fun hcolumns => ?_, fun hfree => ?_⟩
  · have hresult := replaced_shown hcolumns
    refine ⟨_, fun other => ⟨fun hother => ?_, fun he => he ▸ hresult⟩, hmakes hresult⟩
    have hsame := (hmakes hother).symm.trans (hmakes hresult)
    exact String.ofList_injective (by simpa using hsame)
  · simpa using hmakes (.last hfree)

/-- A row whose columns are named like a rule, like a rule with bounds in the wrong order, and like
a key that holds the mark of a placeholder; the first one holds a placeholder of its own name. -/
def oddRow : Row :=
  [("context.tenant_id", .string "$\x7bcontext.tenant_id\x7d"), ("number.int:9:1", .integer 7),
    ("x$\x7by", .null)]

/-- Each of these columns wins, and the placeholder in the first one stays as it is. -/
theorem columns_win_over_rules :
    let text := "$\x7bcontext.tenant_id\x7d ($\x7bnumber.int:9:1\x7d) $\x7bx$\x7by\x7d $\x7b"
    Template.opening <:+: text.toList ∧ HasColumns oddRow text.toList ∧
      ∃ rule, Rule.parse text = .ok rule ∧
        ∀ (scene : Scene) (path : String) (source : Random.Source), ∃ result,
          String.ofList result = "$\x7bcontext.tenant_id\x7d (7) null $\x7b" ∧
          (∀ other, Replaced oddRow text.toList other ↔ other = result) ∧
          scene.scalar path oddRow rule source =
            ⟨.ok (.string (String.ofList result)), source, []⟩ := by
  intro text
  have hmark : Template.opening <:+: text.toList := Template.hasOpening_iff.1 (by decide)
  have hpieces : Template.pieces text.toList =
      [.placeholder "context.tenant_id".toList, .literal " (".toList,
        .placeholder "number.int:9:1".toList, .literal ") ".toList,
        .placeholder "x$\x7by".toList, .literal " $\x7b".toList] := by decide
  have hcolumns : HasColumns oddRow text.toList := by
    intro pieces hcut key hkey
    rw [Template.cut_iff.1 hcut, hpieces] at hkey
    simp only [List.mem_cons, Template.Piece.placeholder.injEq, reduceCtorEq, false_or,
      List.not_mem_nil, or_false] at hkey
    rcases hkey with rfl | rfl | rfl <;> decide
  obtain ⟨rule, hrule, hwin⟩ := columns_win hmark
  refine ⟨hmark, hcolumns, rule, hrule, fun scene path source => ?_⟩
  obtain ⟨result, hresult, hmakes⟩ := (hwin scene path oddRow source).1 hcolumns
  refine ⟨result, ?_, hresult, hmakes⟩
  rw [← (hresult _).1 (replaced_shown hcolumns), hpieces]
  decide +kernel

end Seedbed
