import Seedbed.Proofs.Calendar.Text
import Seedbed.Proofs.Generation.Conformance

/-!
# Dates that count from a column

A column with a date may count its days from a date in an earlier column of its row. The earlier
date is read back from the row by its first ten bytes, so the days are those asked for in the years
0 to 9999. Beyond them there is no row. In front of them the last digit of the day is cut off, and
the days count from an earlier day of the month (`makeTable_dateAfter`).
-/

namespace Seedbed

/-- Whether the values of a rule are dates. -/
def Rule.IsDate : Rule → Prop
  | .dateBetween _ _ => True
  | .dateAfter _ _ _ => True
  | _ => False

/-- A date counts from the text of another one: in the years 0 to 9999 it stands in the range of
days behind it, in the years -9999 to -1 behind the day of the month that the first digit of its
day names, and no date counts from the others. -/
structure Date.CountedFrom (minDays maxDays : Int) (first second : Date) : Prop where
  years : -9999 ≤ first.civil.year ∧ first.civil.year ≤ 9999
  plain : 0 ≤ first.civil.year → minDays ≤ first.daysTo second ∧ first.daysTo second ≤ maxDays
  signed : first.civil.year < 0 → 10 ≤ first.civil.day ∧ ∃ base : Date,
    base.daysTo first = (first.civil.day : Int) - (first.civil.day / 10 : Nat) ∧
      minDays ≤ base.daysTo second ∧ base.daysTo second ≤ maxDays

namespace Date

variable {first second base : Date} {minDays maxDays : Int}

/-- The day that is read in place of a date with a sign is an earlier one of its month. -/
theorem daysTo_of_signed
    (h : ofCivil? { first.civil with day := first.civil.day / 10 } = some base) :
    10 ≤ first.civil.day ∧
      base.daysTo first = (first.civil.day : Int) - (first.civil.day / 10 : Nat) := by
  simp only [ofCivil?, Option.ite_none_right_eq_some, ofNumber?_eq_some_iff, Civil.exists?_iff] at h
  obtain ⟨⟨-, hpos, -⟩, hnumber⟩ := h
  obtain ⟨-, hday, -⟩ := Civil.exists?_iff.1 first.exists?_civil
  have hmonth := Civil.number_of_day first.civil hday hpos
  have hfirst : first.civil.number = first.number := Civil.number_ofNumber first.number
  rw [daysTo]
  omega

/-- A date in the range of days behind what is read of another one counts from that one. -/
theorem countedFrom_of_readTimestamp? (hread : readTimestamp? first.text = some base)
    (hrange : minDays ≤ base.daysTo second ∧ base.daysTo second ≤ maxDays) :
    CountedFrom minDays maxDays first second := by
  obtain ⟨hplain, hsigned, hwide⟩ := first.readTimestamp?_text
  have hyears : -9999 ≤ first.civil.year ∧ first.civil.year ≤ 9999 := by
    by_contra hbeyond
    rw [hwide (by omega)] at hread
    cases hread
  refine ⟨hyears, fun hyear => ?_, fun hyear => ?_⟩
  · obtain rfl : first = base := Option.some.inj ((hplain ⟨hyear, hyears.2⟩).symm.trans hread)
    exact hrange
  · obtain ⟨hday, hdays⟩ := daysTo_of_signed ((hsigned ⟨hyear, hyears.1⟩).symm.trans hread)
    exact ⟨hday, base, hdays, hrange⟩

/-- The text of a date is not the empty string. -/
theorem toText_ne_empty (d : Date) : d.toText ≠ "" := by
  simpa [toText] using d.text_ne_nil

end Date

variable {today : Date} {first base : Date}

/-- A date that was written is counted from as its first ten bytes are read. -/
theorem CountsFrom.readTimestamp? (h : CountsFrom today (some (.string first.toText)) base) :
    Date.readTimestamp? first.text = some base := by
  generalize htext : first.toText = text at h
  cases h with
  | empty => exact absurd htext first.toText_ne_empty
  | read _ hread =>
    rwa [← htext, Date.toText, String.toList_ofList] at hread

namespace Scene

variable {scene : Scene} {definition : Compiled} {row : Row}

/-- What a date rule makes is the text of a date. -/
theorem Makes.date {rule : Rule} {value : Json} (h : scene.Makes row rule value)
    (hdate : rule.IsDate) : ∃ date : Date, value = .string date.toText := by
  cases rule with
  | dateBetween first last =>
    obtain ⟨date, hvalue, -⟩ := h
    exact ⟨date, hvalue⟩
  | dateAfter column minDays maxDays =>
    obtain ⟨base, date, days, hvalue, -⟩ := h
    exact ⟨date, hvalue⟩
  | _ => exact hdate.elim

/-- A column sees the value of an earlier column. -/
theorem Conforms.get?_take (h : scene.Conforms definition row) {before after : Fields (Node Rule)}
    (he : definition.columns = before ++ after) {name : String}
    (hname : name ∈ Fields.names before) :
    Fields.get? name (row.take before.length) = Fields.get? name row := by
  have hnames : Fields.names (row.take before.length) = Fields.names before := by
    have hrow : Fields.names row = Fields.names before ++ Fields.names after := by
      rw [h.1, Definition.columnNames, he, Fields.names, List.map_append]
      rfl
    rw [Fields.names, List.map_take, ← Fields.names, hrow]
    exact List.take_left' (by simp [Fields.names])
  rw [← hnames] at hname
  rw [← Fields.get?_append_of_mem hname (row.drop before.length), List.take_append_drop]

/-- A row with a date and a date that counts from it holds two such dates. -/
theorem Conforms.dateAfter (h : scene.Conforms definition row)
    {before between after : Fields (Node Rule)} {a b : String} {rule : Rule} {minDays maxDays : Int}
    (hdate : rule.IsDate) (he : definition.columns = before ++ (a, .scalar rule) ::
      (between ++ (b, .scalar (.dateAfter a minDays maxDays)) :: after)) :
    ∃ first second : Date, Fields.get? a row = some (.string first.toText) ∧
      Fields.get? b row = some (.string second.toText) ∧
      Date.CountedFrom minDays maxDays first second := by
  obtain ⟨firstValue, ha, hfirst⟩ := h.2 _ _ _ _ he
  obtain ⟨first, rfl⟩ := Makes.date hfirst hdate
  have hsplit : definition.columns = (before ++ (a, .scalar rule) :: between) ++
      (b, .scalar (.dateAfter a minDays maxDays)) :: after := by
    simp [he]
  obtain ⟨secondValue, hb, base, second, days, rfl, hcounts, hnumber, hmin, hmax⟩ :=
    h.2 _ _ _ _ hsplit
  rw [h.get?_take hsplit (by simp [Fields.names]), ha] at hcounts
  refine ⟨first, second, ha, hb, Date.countedFrom_of_readTimestamp? hcounts.readTimestamp? ?_⟩
  rw [Date.daysTo]
  omega

end Scene

variable {value : Json} {definition : Compiled} {registry : Registry} {state : PassState}

/-- **Dates count from the column they name**, as it is read. In every row of a table that was made,
a date that counts from an earlier column stands in its range of days behind the date of that
column; a sign in front of the year of that date moves the range to an earlier day of its month. -/
theorem makeTable_dateAfter (hv : value.Distinct)
    (hcompile : Definition.compile value = .ok definition)
    {before between after : Fields (Node Rule)} {a b : String} {rule : Rule} {minDays maxDays : Int}
    (hdate : rule.IsDate) (he : definition.columns = before ++ (a, .scalar rule) ::
      (between ++ (b, .scalar (.dateAfter a minDays maxDays)) :: after)) {rows : List Row}
    (h : (makeTable registry definition state).result = .ok rows) :
    ∀ row ∈ rows, ∃ first second : Date, Fields.get? a row = some (.string first.toText) ∧
      Fields.get? b row = some (.string second.toText) ∧
      Date.CountedFrom minDays maxDays first second := by
  intro row hrow
  have hmade := ((ends_makeTable registry (Definition.fit_of_compile hcompile) state).of_ok h).1.2
  exact ((hmade row hrow).conforms (Definition.compile_nodup hv hcompile)).dateAfter hdate he

/-- A definition of one row with two columns. -/
def dated (a b : String) : Json :=
  .object [("table", .string "t"), ("count", .integer 1),
    ("columns", .object [("a", .string a), ("b", .string b)])]

/-- A date of 2024 and a date up to thirty days after it. -/
theorem makeTable_dateAfter_of_2024 :
    let pass := Pass.start "acme" ⟨739069, by decide, by decide⟩
    let value := dated "date.between:2024-01-01:2024-12-31" "date.afterColumn:a:1:30"
    value.Distinct ∧ ∃ definition first last rows, Definition.compile value = .ok definition ∧
      definition.columns = [("a", .scalar (.dateBetween first last)),
        ("b", .scalar (.dateAfter "a" 1 30))] ∧
      (makeTable Registry.empty definition ⟨pass, pass.source⟩).result = .ok rows ∧
      ∀ row ∈ rows, ∃ first second : Date, Fields.get? "a" row = some (.string first.toText) ∧
        Fields.get? "b" row = some (.string second.toText) ∧
        Date.CountedFrom 1 30 first second := by
  intro pass value
  have hdistinct : value.Distinct := by
    simp [value, dated, Fields.names, Json.Distinct, Json.DistinctMembers]
  let first : Date := ⟨739191, by decide, by decide⟩
  let last : Date := ⟨739556, by decide, by decide⟩
  let definition : Compiled := { table := "t", count := .fixed 1, columns := [
    ("a", .scalar (.dateBetween first last)), ("b", .scalar (.dateAfter "a" 1 30))] }
  have hcompile : Definition.compile value = .ok definition := rfl
  have hrun : (makeTable Registry.empty definition ⟨pass, pass.source⟩).result.isOk = true := by
    decide +kernel
  have hdate : (Rule.dateBetween first last).IsDate := trivial
  have hcolumns : definition.columns = [] ++ ("a", .scalar (.dateBetween first last)) ::
      ([] ++ ("b", .scalar (.dateAfter "a" 1 30)) :: []) := rfl
  cases hrows : (makeTable Registry.empty definition ⟨pass, pass.source⟩).result with
  | error e =>
    rw [hrows] at hrun
    cases hrun
  | ok rows =>
    exact ⟨hdistinct, definition, first, last, rows, hcompile, rfl, hrows,
      makeTable_dateAfter hdistinct hcompile hdate hcolumns hrows⟩

/-- A date of one day only and one that counts no days from it: the second is what is read of the
first. -/
theorem ends_makeTable_sameDay {first second : Date}
    (hread : Date.readTimestamp? first.text = some second) (registry : Registry)
    (state : PassState) :
    (makeTable registry { table := "t", count := .fixed 1, columns := [
        ("a", .scalar (.dateBetween first first)),
        ("b", .scalar (.dateAfter "a" 0 0))] }).Ends state
      (fun rows _ => rows = [[("a", .string first.toText), ("b", .string second.toText)]])
      fun _ _ => False := by
  have hcount (source : Random.Source) : (Random.Draw.count 1 1 source).1 = 1 := by
    have hbounds := Random.Draw.count_bounds (Nat.le_refl 1) (by decide) source
    omega
  have hzero (source : Random.Source) : (Random.Draw.int 0 0 source).1 = 0 := by
    have hbounds := Random.Draw.int_bounds (Int.le_refl 0) (by decide) (by decide) source
    omega
  have hspan : first.daysTo first = 0 := Int.sub_self _
  have hstay (date : Date) : date.addDays? 0 = some date :=
    Date.addDays?_eq_some_iff.2 (Int.add_zero _).symm
  have hbase (scene : Scene) (path : String) :
      scene.baseDate "a" path [("a", .string first.toText)] = .ok second := by
    have hlist : first.toText.toList = first.text := String.toList_ofList ..
    simp [Scene.baseDate, Fields.get?, first.toText_ne_empty, hlist, hread]
  simp [-bind_pure_comp, makeTable, Scene.rows, Count.bounds, hcount, Work.repeated_succ,
    Scene.columns, Scene.node, Scene.scalar, Scene.dateBetween, Scene.dateAfter, Fields.put, hspan,
    hzero, hstay, hbase]

set_option maxRecDepth 20000 in
/-- **Behind a sign the offset is lost.** The first column holds a day of January in the year -1,
and the second asks for the same day; every table has the day fourteen days before it. -/
theorem offset_lost_behind_sign :
    let value := dated "date.between:-0001-01-15:-0001-01-15" "date.afterColumn:a:0:0"
    value.Distinct ∧ ∃ definition first, Definition.compile value = .ok definition ∧
      definition.columns = [("a", .scalar (.dateBetween first first)),
        ("b", .scalar (.dateAfter "a" 0 0))] ∧
      ∀ registry state, ∃ second : Date, (makeTable registry definition state).result =
          .ok [[("a", .string first.toText), ("b", .string second.toText)]] ∧
        first.daysTo second = -14 := by
  intro value
  have hdistinct : value.Distinct := by
    simp [value, dated, Fields.names, Json.Distinct, Json.DistinctMembers]
  let first : Date := ⟨-411, by decide, by decide⟩
  let second : Date := ⟨-425, by decide, by decide⟩
  let definition : Compiled := { table := "t", count := .fixed 1, columns := [
    ("a", .scalar (.dateBetween first first)), ("b", .scalar (.dateAfter "a" 0 0))] }
  have hcompile : Definition.compile value = .ok definition := rfl
  have hread : Date.readTimestamp? first.text = some second := by decide +kernel
  refine ⟨hdistinct, definition, first, hcompile, rfl, fun registry state =>
    ⟨second, ?_, by decide⟩⟩
  obtain ⟨rows, hrows, rfl⟩ := (ends_makeTable_sameDay hread registry state).succeeds
  exact hrows

end Seedbed
