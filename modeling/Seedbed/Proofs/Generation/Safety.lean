import Seedbed.Proofs.Generation.Checked
import Seedbed.Proofs.Generation.Table
import Seedbed.Proofs.Generator.Beyond
import Seedbed.Proofs.Rule.WellFormed

/-!
# The evaluation never meets a fault

On fit rules the evaluation with checks is the evaluation itself with its failures called so
(`Checked.scalar_eq`), and so it is on the trees, the rows and the table of a definition that was
compiled. So no check ever stops it: what is drawn from has a number, what is picked is there, and a
date of a range is in the calendar.
-/

namespace Seedbed

namespace Checked

variable {α : Type}

/-! ## Draws and elements -/

/-- A draw between bounds in order has no fault. -/
theorem int_eq {min max : Int} (h : min ≤ max) :
    int min max = Work.ofState (Random.Draw.int min max) :=
  if_pos h

/-- A count between bounds in order has no fault. -/
theorem count_eq {min max : Nat} (h : min ≤ max) :
    count min max = Work.ofState (Random.Draw.count min max) :=
  if_pos h

/-- Finite bounds in order, at a finite distance, can be drawn between. -/
theorem real_eq {min max : Float} {places : Nat} (h : Rule.RealsFit min max places) :
    real min max = Work.ofState (Random.Draw.real min max) := by
  have hle := h.ordered.le
  obtain ⟨-, -, -, hdistance, -⟩ := h
  unfold real
  split
  · next hempty =>
    -- bounds that meet are not drawn between
    have hdraw : Random.Draw.real min max = pure min := if_pos hempty
    rw [hdraw]
    rfl
  · rfl

/-- An element at an index within its list has no fault. -/
theorem element_eq {items : List α} {index : Nat} (h : index < items.length) :
    element items index = return items[index] := by
  rw [element, List.getElem?_eq_getElem h]

/-- An index that was drawn is that of a row. -/
theorem pick?_eq (cache : Cache) (table : String) :
    pick? cache table = Work.ofState (cache.pick? table) := by
  funext source
  unfold pick? Cache.pick?
  cases cache.rows? table with
  | none => rfl
  | some rows =>
    rcases Nat.eq_zero_or_pos rows.length with hempty | hpos
    · simp only [hempty, Random.Draw.index?]
      rfl
    · obtain ⟨index, hindex, hlt⟩ := Random.Draw.index?_lt hpos source
      simp only [Work.ofState_bind, Work.ofState_bind_apply, hindex, element_eq hlt]
      simp only [Work.bind_eq, List.getElem?_eq_getElem hlt]
      rfl

/-! ## Rules -/

/-- Drawing a digit has no fault. -/
theorem digit_eq (first : Bool) : digit first = Work.ofState (Scene.digit first) := by
  have hle : (if first then 1 else 0 : Int) ≤ 9 := by cases first <;> decide
  rw [digit, int_eq hle]
  rfl

/-- Drawing digits has no fault. -/
theorem digits_eq (length : Nat) : digits length = Work.ofState (Scene.digits length) := by
  cases length with
  | zero => rfl
  | succ n =>
    rw [digits, digit_eq, digit_eq, Work.repeated_ofState]
    rfl

/-- A choice from some candidates has no fault. -/
theorem choice_eq {candidates : List String} (hne : candidates ≠ []) :
    choice candidates = Work.mapError .failure (Scene.choice candidates) := by
  funext source
  obtain ⟨index, hindex, hlt⟩ :=
    Random.Draw.index?_lt (List.length_pos_of_ne_nil hne) source
  simp only [choice, Scene.choice, Work.mapError_bind, Work.mapError_ofState,
    Work.ofState_bind_apply, hindex, Option.getD_some, element_eq hlt]
  simp [hlt]

/-- A real number between bounds that fit has no fault. -/
theorem roundedReal_eq {min max : Float} {places : Nat} (h : Rule.RealsFit min max places) :
    roundedReal min max places = Work.mapError .failure (Scene.real min max places) := by
  rw [roundedReal, real_eq h]
  rfl

/-- A date that is drawn for a range of dates is in the calendar. -/
theorem dateBetween_eq {first last : Date} (hle : first.number ≤ last.number) :
    dateBetween first last = Work.mapError .failure (Scene.dateBetween first last) := by
  have hnonneg : 0 ≤ first.daysTo last := Int.sub_nonneg.2 hle
  funext source
  obtain ⟨date, hdate, -, -⟩ := Date.exists_drawn hle source
  simp only [dateBetween, Scene.dateBetween, int_eq hnonneg, Work.mapError_bind,
    Work.mapError_ofState, Work.mapError_pure, Work.ofState_bind_apply, hdate, Option.getD_some]

variable {scene : Scene} {path : String} {row : Row}

/-- A relation has no fault. -/
theorem relation_eq (table column : String) :
    relation scene table column path =
      Work.mapError .failure (scene.relation table column path) := by
  simp only [relation, Scene.relation, pick?_eq, Work.mapError_bind, Work.mapError_ofState]
  congr 1
  funext picked
  cases picked with
  | none => rfl
  | some picked =>
    cases hcolumn : Fields.get? column picked with
    | none => simp only [hcolumn]; rfl
    | some value => simp only [hcolumn]; rfl

/-- A date after a column has no fault when its bounds are in order. -/
theorem dateAfter_eq {column : String} {minDays maxDays : Int} (hle : minDays ≤ maxDays) :
    dateAfter scene column minDays maxDays path row =
      Work.mapError .failure (scene.dateAfter column minDays maxDays path row) := by
  simp only [dateAfter, Scene.dateAfter, int_eq hle, Work.mapError_bind, Work.mapError_ofState]
  congr 1
  funext base
  congr 1
  funext days
  cases hdate : base.addDays? days <;> rfl

mutual

/-- **On a fit rule no check fails**: the evaluation with checks is the evaluation. -/
theorem scalar_eq : ∀ {rule : Rule}, rule.Fit →
    scalar scene path row rule = Work.mapError .failure (scene.scalar path row rule)
  | .template segments, hfit => by
    rw [scalar, Scene.scalar, fill_eq segments hfit, Work.mapError_bind]
    rfl
  | .tenantId, _ => by rw [scalar, Scene.scalar, Work.mapError_pure]
  | .relation table column, _ => by
    rw [scalar, Scene.scalar]
    exact relation_eq table column
  | .choice candidates, hfit => by
    rw [scalar, Scene.scalar]
    exact choice_eq hfit
  | .int min max, hfit => by
    rw [scalar, Scene.scalar, int_eq hfit.1, Work.mapError_bind]
    rfl
  | .float min max places, hfit => by
    rw [scalar, Scene.scalar]
    exact roundedReal_eq hfit
  | .amount min max places, hfit => by
    rw [scalar, Scene.scalar]
    exact roundedReal_eq hfit
  | .dateBetween first last, hfit => by
    rw [scalar, Scene.scalar]
    exact dateBetween_eq hfit
  | .dateAfter column minDays maxDays, hfit => by
    rw [scalar, Scene.scalar]
    exact dateAfter_eq hfit.2.1
  | .numeric length, _ => by
    rw [scalar, Scene.scalar, digits_eq, Work.mapError_bind]
    rfl
  | .lookup text, _ => by rw [scalar, Scene.scalar]

/-- `scalar_eq` for the segments of a template. -/
theorem fill_eq : ∀ (segments : List Segment), Rule.SegmentsFit segments →
    fill scene path row segments = Work.mapError .failure (scene.fill path row segments)
  | [], _ => by rw [fill, Scene.fill, Work.mapError_pure]
  | .literal text :: rest, hfit => by
    rw [fill, Scene.fill, fill_eq rest hfit, Work.mapError_bind]
    rfl
  | .placeholder key rule :: rest, hfit => by
    rw [fill, Scene.fill, fill_eq rest hfit.2, scalar_eq hfit.1.1]
    cases hkey : Fields.get? key row with
    | none => simp only [Work.mapError_bind, Work.mapError_pure]
    | some value => simp only [Work.mapError_bind, Work.mapError_pure]
  | .columnOnly key error :: rest, hfit => by
    rw [fill, Scene.fill, fill_eq rest hfit]
    cases hkey : Fields.get? key row with
    | none => simp only [Work.mapError_bind, Work.mapError_fail, Work.mapError_pure]
    | some value => simp only [Work.mapError_bind, Work.mapError_pure]

end

/-- The checks are not idle: whole numbers and dates out of order and a choice of nothing meet a
fault. -/
theorem exists_fault {rule : Rule} (source : Random.Source) (h : ¬rule.WellFormed)
    (hrule : (∃ min max, rule = .int min max) ∨ (∃ first last, rule = .dateBetween first last) ∨
      ∃ candidates, rule = .choice candidates) :
    ∃ fault, (scalar scene path row rule source).result = .error (.fault fault) := by
  rcases hrule with ⟨min, max, rfl⟩ | ⟨first, last, rfl⟩ | ⟨candidates, rfl⟩
  · have hnot : ¬min ≤ max := h
    refine ⟨.emptyRange, ?_⟩
    rw [scalar, int, if_neg hnot]
    rfl
  · have hnot : ¬0 ≤ first.daysTo last := fun hle => h (Int.sub_nonneg.1 hle)
    refine ⟨.emptyRange, ?_⟩
    rw [scalar, dateBetween, int, if_neg hnot]
    rfl
  · obtain rfl : candidates = [] := by simpa [Rule.WellFormed] using h
    refine ⟨.outOfBounds, ?_⟩
    rw [scalar]
    rfl

/-! ## Trees, rows and tables -/

mutual

/-- `scalar_eq` for a tree. -/
theorem node_eq (path : String) : ∀ {tree : Node Rule}, tree.CountsFit →
    (∀ scalar ∈ tree.scalars path, scalar.2.Fit) →
    node scene path row tree = Work.mapError .failure (scene.node path row tree)
  | .scalar rule, _, hrules => by
    rw [node, Scene.node]
    exact scalar_eq (hrules (path, rule) (List.mem_singleton_self _))
  | .array items count, hcounts, hrules => by
    rw [node, Scene.node, count_eq hcounts.1.1, node_eq (itemsPath path) hcounts.2 hrules]
    simp only [Work.mapError_bind, Work.mapError_ofState, Work.mapError_repeated,
      Work.mapError_pure]
  | .object properties, hcounts, hrules => by
    rw [node, Scene.node, members_eq path hcounts hrules, Work.mapError_bind]
    rfl

/-- `scalar_eq` for the properties of an object. -/
theorem members_eq (path : String) : ∀ {properties : List (String × Node Rule)},
    Node.PropertyCountsFit properties →
    (∀ scalar ∈ Node.propertyScalars path properties, scalar.2.Fit) →
    members scene path row properties = Work.mapError .failure (scene.members path row properties)
  | [], _, _ => by rw [members, Scene.members, Work.mapError_pure]
  | (name, tree) :: rest, hcounts, hrules => by
    obtain ⟨htree, hrest⟩ := List.forall_mem_append.1 hrules
    rw [members, Scene.members, node_eq (propertyPath path name) hcounts.1 htree,
      members_eq path hcounts.2 hrest]
    simp only [Work.mapError_bind, Work.mapError_pure]

end

/-- The columns of a row have no fault when their counts and rules fit. -/
theorem columns_eq {columns : Fields (Node Rule)}
    (hcounts : ∀ column ∈ columns, column.2.CountsFit)
    (hrules : ∀ column ∈ columns, ∀ scalar ∈ column.2.scalars (columnPath column.1),
      scalar.2.Fit) (row : Row) :
    Checked.columns scene row columns = Work.mapError .failure (scene.columns row columns) := by
  induction columns generalizing row with
  | nil => rfl
  | cons column rest ih =>
    obtain ⟨name, tree⟩ := column
    obtain ⟨htree, hrest⟩ := List.forall_mem_cons.1 hcounts
    obtain ⟨htreeRules, hrestRules⟩ := List.forall_mem_cons.1 hrules
    rw [Checked.columns, Scene.columns, node_eq (columnPath name) htree htreeRules]
    simp only [Work.mapError_bind, ih hrest hrestRules]

/-- The rows of a definition that fits have no fault. -/
theorem rows_eq {definition : Compiled} (hfit : definition.Fit) :
    rows scene definition = Work.mapError .failure (scene.rows definition) := by
  simp only [rows, Scene.rows, count_eq hfit.count.1, columns_eq hfit.counts hfit.rules,
    Work.mapError_bind, Work.mapError_ofState, Work.mapError_note, Work.mapError_repeated,
    Work.mapError_pure]

/-- **Making the table of a fit definition never meets a fault**: it is the same work with checks as
without them. -/
theorem makeTable_eq (registry : Registry) {definition : Compiled} (hfit : definition.Fit) :
    makeTable registry definition =
      Work.mapError .failure (Seedbed.makeTable registry definition) := by
  simp only [makeTable, Seedbed.makeTable, rows_eq hfit, Work.mapError_bind, Work.mapError_state,
    Work.mapError_on, Work.mapError_update, Work.mapError_pure]

/-- No check of a fit definition fails. -/
theorem makeTable_ne_fault (registry : Registry) {definition : Compiled} (hfit : definition.Fit)
    (state : PassState) (fault : Fault) :
    (makeTable registry definition state).result ≠ .error (.fault fault) := by
  intro h
  rw [makeTable_eq registry hfit] at h
  simp only [Work.mapError] at h
  cases hresult : (Seedbed.makeTable registry definition state).result with
  | ok rows => rw [hresult] at h; cases h
  | error e => rw [hresult] at h; cases h

end Checked

/-! ## What is reported -/

/-- A date counted from a column that is beyond the calendar is a failure at its column. -/
theorem Scene.dateAfter_beyond {scene : Scene} {column path : String} {row : Row} {base : Date}
    {minDays maxDays : Int} {source : Random.Source}
    (hbase : scene.baseDate column path row = .ok base)
    (hbeyond : base.addDays? (Random.Draw.int minDays maxDays source).1 = none) :
    ∃ value, (scene.dateAfter column minDays maxDays path row source).result =
      .error (.invalidBaseDate scene.table path column value) := by
  have hdays : (scene.dateAfter column minDays maxDays path row).Ends source (fun _ _ => False)
      fun e _ => ∃ value, e = .invalidBaseDate scene.table path column value := by
    simp only [Scene.dateAfter, hbase, Work.ends_bind, Work.ends_ofExcept_ok, Work.ends_ofState,
      hbeyond, Work.ends_fail]
    exact ⟨_, rfl⟩
  obtain ⟨e, hresult, value, rfl⟩ := hdays.fails
  exact ⟨value, hresult⟩

/-- **Whatever is parsed is safe to evaluate.** A rule that was parsed is well formed. Making the
table of a definition that was compiled is the same work with the checks of `Checked` as without
them, so it draws from no empty range, picks nothing beyond the end of a list, and leaves the
calendar in no range of dates. A date counted from a column and a date near the day may be beyond
the calendar, and that is reported; no other built-in generator fails. -/
theorem evaluation_safe :
    (∀ text rule, Rule.parse text = .ok rule → rule.WellFormed) ∧
      (∀ value definition, Definition.compile value = .ok definition → ∀ registry state,
        Checked.makeTable registry definition state =
            Work.mapError .failure (makeTable registry definition) state ∧
          ∀ fault, (Checked.makeTable registry definition state).result ≠ .error (.fault fault)) ∧
      (∀ (scene : Scene) column minDays maxDays path row source base,
        scene.baseDate column path row = .ok base →
        base.addDays? (Random.Draw.int minDays maxDays source).1 = none →
        ∃ value, (scene.dateAfter column minDays maxDays path row source).result =
          .error (.invalidBaseDate scene.table path column value)) ∧
      (∀ id direction default request source, 1 ≤ Primitive.spanOf request default ∧
        (request.today.addDays? (direction.days
            (Random.Draw.int 1 (Primitive.spanOf request default) source).1) = none →
          ∃ message, ((Primitive.relativeDate id direction default).run request source).1 =
            .error { id, message })) ∧
      ∀ generator ∈ Registry.builtIn.generators, ∀ request source,
        generator.Answers request (generator.run request source).1 := by
  refine ⟨fun text rule => Rule.wellFormed_of_parse, fun value definition hcompile registry state =>
    ?_, fun _ _ _ _ _ _ _ _ => Scene.dateAfter_beyond, fun _ _ default request _ =>
      ⟨Primitive.one_le_spanOf request default, Primitive.relativeDate_beyond⟩,
    fun _ h => Registry.builtIn_answers h⟩
  have hfit := Definition.fit_of_compile hcompile
  exact ⟨congrFun (Checked.makeTable_eq registry hfit) state,
    Checked.makeTable_ne_fault registry hfit state⟩

/-- A column with the day after the day, and one in front of it that draws in every way. -/
def dues : Json :=
  .object [("table", .string "dues"), ("count", .integer 1),
    ("columns", .object [
      ("note", .string "$\x7bnumber.int:-5:5\x7d $\x7bhelpers.arrayElement:a:b\x7d"),
      ("paid_on", .string "date.between:2024-02-29:2024-02-29"),
      ("due_on", .string "date.afterColumn:billed_on:1:1")])]

/-- On the last day of the calendar there is no day after it, and that is what stops the making of
the table, with checks as without them. -/
theorem evaluation_safe_of_last_day :
    let pass := Pass.start "acme" ⟨lastDay, by decide, by decide⟩
    let failure := GenerationFailure.invalidBaseDate "dues" "$.columns.due_on" "billed_on"
      "+262142-12-31 + 1 days"
    ∃ definition, Definition.compile dues = .ok definition ∧
      (Checked.makeTable Registry.empty definition ⟨pass, pass.source⟩).result =
        .error (.failure failure) := by
  intro pass failure
  have hrun : ((Definition.compile dues).toOption.any fun definition =>
      match (makeTable Registry.empty definition ⟨pass, pass.source⟩).result with
      | .ok _ => false
      | .error e => e = failure) = true := by
    decide +kernel
  cases hcompile : Definition.compile dues with
  | error e =>
    rw [hcompile] at hrun
    cases hrun
  | ok definition =>
    refine ⟨definition, rfl, ?_⟩
    obtain ⟨hsame, -⟩ := evaluation_safe.2.1 dues definition hcompile Registry.empty
      ⟨pass, pass.source⟩
    rw [hsame]
    simp only [Work.mapError]
    rw [hcompile] at hrun
    cases hresult : (makeTable Registry.empty definition ⟨pass, pass.source⟩).result with
    | ok rows =>
      simp [Except.toOption, hresult] at hrun
    | error e =>
      obtain rfl : e = failure := by simpa [Except.toOption, hresult] using hrun
      rfl

end Seedbed
