import Seedbed.Generation.Evaluation
import Seedbed.Proofs.Ending
import Seedbed.Proofs.Fields
import Seedbed.Proofs.Random.Bounds
import Seedbed.Proofs.Rule.Fit

/-!
# What a rule makes and how it fails

`Scene.Makes` says which values a rule may have beside the columns of its row so far, and
`Scene.Fails` with which errors its evaluation may end. A fit rule has such a value or such an error
from every state of the random source (`ends_scalar`); nothing else in these proofs looks into the
evaluation of a rule.
-/

namespace Seedbed

/-- The date that a rule counts from: the day's when a column is absent, null or empty, and else the
date that its text begins with. -/
inductive CountsFrom (today : Date) : Option Json → Date → Prop
  | absent : CountsFrom today none today
  | null : CountsFrom today (some .null) today
  | empty : CountsFrom today (some (.string "")) today
  | read {text : String} {date : Date} (hne : text ≠ "")
    (hread : Date.readTimestamp? text.toList = some date) :
    CountsFrom today (some (.string text)) date

/-- A real that is drawn from a range: the lower bound of an empty range, and else one of `2 ^ 52`
steps from the lower bound. -/
def DrawnReal (min max x : Float) : Prop :=
  if max ≤ min then x = min
  else ∃ n < 2 ^ 52, x = Float.ofNat n * Random.Draw.unitStep * (max - min) + min

/-- The value of a range of reals: a real of the range, rounded, or `null` when that is not
finite. -/
def RoundedReal (min max : Float) (places : Nat) (value : Json) : Prop :=
  ∃ x, DrawnReal min max x ∧
    value = if Number.isFinite (Number.roundToPlaces x places) then
      .real (Number.roundToPlaces x places) else .null

/-- A cache has rows of a table, so that one can be picked. -/
def Cache.Offers (cache : Cache) (table : String) : Prop :=
  ∃ rows, cache.rows? table = some rows ∧ rows ≠ []

/-- The days that are drawn for a range of dates lead to a date of the range. -/
theorem Date.exists_drawn {first last : Date} (hle : first.number ≤ last.number)
    (source : Random.Source) :
    ∃ date, first.addDays? (Random.Draw.int 0 (first.daysTo last) source).1 = some date ∧
      first.number ≤ date.number ∧ date.number ≤ last.number := by
  have hfirst := first.lower
  have hlast := last.upper
  have hspan : first.daysTo last < 2 ^ 63 := by
    simp only [Date.daysTo, firstDay, lastDay] at *
    omega
  have hnonneg : 0 ≤ first.daysTo last := Int.sub_nonneg.2 hle
  obtain ⟨hmin, hmax⟩ := Random.Draw.int_bounds hnonneg (by decide) hspan source
  generalize (Random.Draw.int 0 (first.daysTo last) source).1 = days at hmin hmax ⊢
  simp only [Date.daysTo] at hmax
  let date : Date := ⟨first.number + days, by omega, by omega⟩
  refine ⟨date, Date.addDays?_eq_some_iff.2 rfl, ?_, ?_⟩
  · show first.number ≤ first.number + days
    omega
  · show first.number + days ≤ last.number
    omega

namespace Scene

variable (scene : Scene)

/-- A generator gives a value from some state of the random source. -/
def Generates (generator : Generator) (arguments : List String) (value : Json) : Prop :=
  ∃ source, (generator.run { arguments, today := scene.today } source).1 = .ok value

/-- A generator of the registry ends with a failure, from some state of the random source. -/
def GeneratorFails (failure : GeneratorFailure) : Prop :=
  ∃ generator ∈ scene.registry.generators, ∃ arguments source,
    (generator.run { arguments, today := scene.today } source).1 = .error failure

/-- What a text stands for that is looked up: the generator with that path, else the generator with
the part before the first colon and the other parts as its arguments, else the text itself. -/
inductive LooksUp (text : String) : Json → Prop
  | path {generator : Generator} {value : Json} (hfind : scene.registry.find? text = some generator)
    (hvalue : scene.Generates generator [] value) : LooksUp text value
  | head {generator : Generator} {head rest : List Char} {value : Json}
    (hnone : scene.registry.find? text = none)
    (hsplit : Text.splitFirst ':' text.toList = some (head, rest))
    (hfind : scene.registry.find? (String.ofList head) = some generator)
    (hvalue : scene.Generates generator ((Text.splitOn ':' rest).map String.ofList) value) :
    LooksUp text value
  | text (hnone : scene.registry.find? text = none)
    (hhead : ∀ head rest, Text.splitFirst ':' text.toList = some (head, rest) →
      scene.registry.find? (String.ofList head) = none) : LooksUp text (.string text)

mutual

/-- The values of a rule beside the columns of its row so far. -/
def Makes (row : Row) : Rule → Json → Prop
  | .template segments, value => ∃ text, value = .string text ∧ Fills row segments text
  | .tenantId, value => value = .string scene.tenant
  | .relation table column, value =>
    ∃ rows target, scene.cache.rows? table = some rows ∧ target ∈ rows ∧
      value = (Fields.get? column target).getD .null
  | .choice candidates, value => ∃ candidate ∈ candidates, value = .string candidate
  | .int min max, value => ∃ n, value = .integer n ∧ min ≤ n ∧ n ≤ max
  | .float min max places, value => RoundedReal min max places value
  | .amount min max places, value => RoundedReal min max places value
  | .dateBetween first last, value =>
    ∃ date : Date, value = .string date.toText ∧ first.number ≤ date.number ∧
      date.number ≤ last.number
  | .dateAfter column minDays maxDays, value =>
    ∃ (base date : Date) (days : Int), value = .string date.toText ∧
      CountsFrom scene.today (Fields.get? column row) base ∧ date.number = base.number + days ∧
      minDays ≤ days ∧ days ≤ maxDays
  | .numeric length, value =>
    ∃ digits : List Char, value = .string (String.ofList digits) ∧ digits.length = length ∧
      (∀ digit ∈ digits, digit.isDigit = true) ∧ digits.head? ≠ some '0'
  | .lookup text, value => scene.LooksUp text value

/-- The texts of a template: a column with the key of a placeholder wins over its rule. -/
def Fills (row : Row) : List Segment → String → Prop
  | [], text => text = ""
  | .literal literal :: rest, text => ∃ tail, text = literal ++ tail ∧ Fills row rest tail
  | .placeholder key rule :: rest, text =>
    ∃ value tail, text = value.inText ++ tail ∧ Fills row rest tail ∧
      (Fields.get? key row = some value ∨ Fields.get? key row = none ∧ Makes row rule value)
  | .columnOnly key _ :: rest, text =>
    ∃ value tail, text = value.inText ++ tail ∧ Fills row rest tail ∧
      Fields.get? key row = some value

end

mutual

/-- The errors of a rule at a path, beside the columns of its row so far. -/
def Fails (path : String) (row : Row) : Rule → GenerationFailure → Prop
  | .template segments, failure => FillFails path row segments failure
  | .relation table _, failure =>
    failure = .missingRelation scene.table path table ∧ ¬scene.cache.Offers table
  | .dateAfter column _ _, failure =>
    ∃ value, failure = .invalidBaseDate scene.table path column value
  | .lookup _, failure => ∃ e, failure = .generator e ∧ scene.GeneratorFails e
  | _, _ => False

/-- The errors of a template: those of the rules in its placeholders, and of a key that is no rule,
when no column has the key. -/
def FillFails (path : String) (row : Row) : List Segment → GenerationFailure → Prop
  | [], _ => False
  | .literal _ :: rest, failure => FillFails path row rest failure
  | .placeholder key rule :: rest, failure =>
    Fields.get? key row = none ∧ Fails path row rule failure ∨ FillFails path row rest failure
  | .columnOnly key error :: rest, failure =>
    Fields.get? key row = none ∧ failure = .rule scene.table path error ∨
      FillFails path row rest failure

end

variable {scene : Scene} {path : String} {row : Row} {source : Random.Source}

/-- `FillFails` in the natural per-element form. -/
theorem fillFails_iff {segments : List Segment} {failure : GenerationFailure} :
    scene.FillFails path row segments failure ↔
      (∃ key rule, .placeholder key rule ∈ segments ∧ Fields.get? key row = none ∧
        scene.Fails path row rule failure) ∨
      ∃ key error, .columnOnly key error ∈ segments ∧ Fields.get? key row = none ∧
        failure = .rule scene.table path error := by
  induction segments with
  | nil => simp [FillFails]
  | cons segment rest ih =>
    cases segment with
    | literal text => simp [FillFails, ih]
    | placeholder key rule =>
      simp [FillFails, ih, or_and_right, exists_or, and_assoc, or_assoc]
    | columnOnly key error =>
      simp [FillFails, ih, or_and_right, exists_or, and_assoc, or_left_comm]

/-! ## Relations and choices -/

/-- A row that is picked is a row of the table. -/
theorem mem_of_pick? {cache : Cache} {table : String} {target : Row}
    (h : (cache.pick? table source).1 = some target) :
    ∃ rows, cache.rows? table = some rows ∧ target ∈ rows := by
  cases hrows : cache.rows? table with
  | none =>
    rw [Cache.pick?, hrows] at h
    cases h
  | some rows =>
    simp only [Cache.pick?, hrows, Random.Draw.bind_apply] at h
    cases hi : (Random.Draw.index? rows.length source).1 with
    | none =>
      rw [hi] at h
      cases h
    | some i =>
      rw [hi] at h
      exact ⟨rows, rfl, List.mem_of_getElem? h⟩

/-- A row is picked where there is one. -/
theorem exists_pick?_of_offers {cache : Cache} {table : String} (h : cache.Offers table)
    (source : Random.Source) : ∃ target, (cache.pick? table source).1 = some target := by
  obtain ⟨rows, hrows, hne⟩ := h
  obtain ⟨i, hi, hlt⟩ := Random.Draw.index?_lt (List.length_pos_of_ne_nil hne) source
  refine ⟨rows[i], ?_⟩
  simp only [Cache.pick?, hrows, Random.Draw.bind_apply, hi]
  exact List.getElem?_eq_getElem hlt

/-- A relation ends with what its rule makes or fails as its rule may fail. -/
theorem ends_relation {table column : String} :
    (scene.relation table column path).Ends source
      (fun value _ => scene.Makes row (.relation table column) value)
      fun e _ => scene.Fails path row (.relation table column) e := by
  simp only [Scene.relation, Work.ends_bind, Work.ends_ofState]
  split
  · next hnone =>
    rw [Work.ends_fail, Fails]
    refine ⟨rfl, fun hoffers => ?_⟩
    obtain ⟨target, htarget⟩ := exists_pick?_of_offers hoffers source
    rw [hnone] at htarget
    cases htarget
  · next target htarget =>
    obtain ⟨rows, hrows, hmem⟩ := mem_of_pick? htarget
    split
    · next value hvalue =>
      rw [Work.ends_pure, Makes]
      exact ⟨rows, target, hrows, hmem, by rw [hvalue]; rfl⟩
    · next hnone =>
      rw [Work.ends_bind, Work.ends_note, Work.ends_pure, Makes]
      exact ⟨rows, target, hrows, hmem, by rw [hnone]; rfl⟩

/-- A choice from some candidates ends with one of them. -/
theorem ends_choice {candidates : List String} (hne : candidates ≠ [])
    {failed : GenerationFailure → Prop} :
    (Scene.choice candidates).Ends source
      (fun value _ => scene.Makes row (.choice candidates) value) fun e _ => failed e := by
  obtain ⟨i, hi, hlt⟩ := Random.Draw.index?_lt (List.length_pos_of_ne_nil hne) source
  simp only [Scene.choice, Work.ends_bind, Work.ends_ofState, hi, Work.ends_pure, Makes]
  exact ⟨candidates[i], List.getElem_mem hlt, by simp [hlt]⟩

/-! ## Numbers -/

/-- A real that is drawn is one that can be drawn. -/
theorem drawnReal (min max : Float) (source : Random.Source) :
    DrawnReal min max (Random.Draw.real min max source).1 := by
  unfold DrawnReal Random.Draw.real
  split
  · rfl
  · have hn := Random.Draw.bits64_lt source
    exact ⟨(Random.Draw.bits64 source).1 / 2 ^ 12, by omega, rfl⟩

/-- A real number ends with one drawn between its bounds and rounded to its places, or with nothing
when that is not finite. -/
theorem ends_real (min max : Float) (places : Nat) {failed : GenerationFailure → Prop} :
    (Scene.real min max places).Ends source (fun value _ => RoundedReal min max places value)
      fun e _ => failed e := by
  simp only [Scene.real, Work.ends_bind, Work.ends_ofState, Work.ends_pure]
  exact ⟨_, drawnReal min max source, rfl⟩

/-- The characters for numbers below ten are digits, and only that for zero is the zero. -/
theorem digitChar_spec : ∀ n < 10,
    (Nat.digitChar n).isDigit = true ∧ (n ≠ 0 → Nat.digitChar n ≠ '0') := by
  decide

/-- A digit is a digit, and as the first of a text not zero. -/
theorem digit_spec (first : Bool) (source : Random.Source) :
    (digit first source).1.isDigit = true ∧ (first = true → (digit first source).1 ≠ '0') := by
  have hlow : (if first then 1 else 0 : Int) ≤ 9 := by cases first <;> decide
  have hlower : (-2 ^ 63 : Int) ≤ (if first then 1 else 0 : Int) := by cases first <;> decide
  obtain ⟨hmin, hmax⟩ := Random.Draw.int_bounds hlow hlower (by decide) source
  simp only [digit, Random.Draw.bind_apply, Random.Draw.pure_apply]
  generalize (Random.Draw.int (if first then 1 else 0) 9 source).1 = n at hmin hmax ⊢
  have hlt : n.toNat < 10 := by omega
  obtain ⟨hdigit, hzero⟩ := digitChar_spec n.toNat hlt
  refine ⟨hdigit, fun hfirst => hzero ?_⟩
  rw [if_pos hfirst] at hmin
  omega

/-- A numeric text ends with as many digits as it is long, of which the first is not zero. -/
theorem ends_numeric (length : Nat) (failed : GenerationFailure → Prop) :
    (Work.ofState (digits length) : Making (List Char)).Ends source
      (fun ds _ => ds.length = length ∧ (∀ d ∈ ds, d.isDigit = true) ∧ ds.head? ≠ some '0')
      fun e _ => failed e := by
  rw [Work.ends_ofState]
  cases length with
  | zero => simp [digits]
  | succ n =>
    simp only [digits, Random.Draw.bind_apply, Random.Draw.pure_apply]
    obtain ⟨hdigit, hzero⟩ := digit_spec true source
    obtain ⟨hlength, hall⟩ := Random.Draw.times_spec (p := fun d : Char => d.isDigit = true)
      (fun s => (digit_spec false s).1) n (digit true source).2
    exact ⟨by simp [hlength], List.forall_mem_cons.2 ⟨hdigit, hall⟩, by simpa using hzero rfl⟩

/-! ## Dates -/

/-- A date between others ends with a date that is neither before the first nor after the last. -/
theorem ends_dateBetween {first last : Date} (hle : first.number ≤ last.number)
    {failed : GenerationFailure → Prop} :
    (Scene.dateBetween first last).Ends source
      (fun value _ => scene.Makes row (.dateBetween first last) value) fun e _ => failed e := by
  obtain ⟨date, hdate, hlower, hupper⟩ := Date.exists_drawn hle source
  simp only [Scene.dateBetween, Work.ends_bind, Work.ends_ofState, Work.ends_pure, Makes]
  exact ⟨date, by rw [hdate, Option.getD_some], hlower, hupper⟩

/-- The base date is the one that a rule counts from; without one the error names the column. -/
theorem baseDate_spec (scene : Scene) (path : String) (row : Row) (column : String) :
    (∃ base, scene.baseDate column path row = .ok base ∧
        CountsFrom scene.today (Fields.get? column row) base) ∨
      ∃ value, scene.baseDate column path row =
        .error (.invalidBaseDate scene.table path column value) := by
  unfold baseDate
  split
  · next h => rw [h]; exact .inl ⟨_, rfl, .absent⟩
  · next h => rw [h]; exact .inl ⟨_, rfl, .null⟩
  · next text h =>
    rw [h]
    split
    · next hempty =>
      obtain rfl : text = "" := by simpa using hempty
      exact .inl ⟨_, rfl, .empty⟩
    · next hne =>
      split
      · next date hread => exact .inl ⟨_, rfl, .read (by simpa using hne) hread⟩
      · exact .inr ⟨_, rfl⟩
  · exact .inr ⟨_, rfl⟩

/-- A date after a column ends with what its rule makes or fails as its rule may fail. -/
theorem ends_dateAfter {column : String} {minDays maxDays : Int}
    (hfit : (Rule.dateAfter column minDays maxDays).Fit) :
    (scene.dateAfter column minDays maxDays path row).Ends source
      (fun value _ => scene.Makes row (.dateAfter column minDays maxDays) value)
      fun e _ => scene.Fails path row (.dateAfter column minDays maxDays) e := by
  obtain ⟨-, hle, hlower, hupper⟩ := hfit
  simp only [Rule.maxDayOffset] at hlower hupper
  obtain ⟨hmin, hmax⟩ := Random.Draw.int_bounds hle (by omega) (by omega) source
  rcases baseDate_spec scene path row column with
    ⟨base, hbase, hcounts⟩ | ⟨value, hbase⟩
  · simp only [Scene.dateAfter, hbase, Work.ends_bind, Work.ends_ofExcept_ok, Work.ends_ofState]
    split
    · next date hdate =>
      rw [Work.ends_pure, Makes]
      exact ⟨base, date, _, rfl, hcounts, Date.addDays?_eq_some_iff.1 hdate, hmin, hmax⟩
    · rw [Work.ends_fail, Fails]
      exact ⟨_, rfl⟩
  · simp only [Scene.dateAfter, hbase, Work.ends_bind, Work.ends_ofExcept_error, Fails]
    exact ⟨_, rfl⟩

/-! ## Generators -/

/-- A generator of the registry ends with a value that it makes or with a failure of its own. -/
theorem ends_generate {generator : Generator} (hmem : generator ∈ scene.registry.generators)
    {arguments : List String} :
    (scene.generate generator arguments).Ends source
      (fun value _ => scene.Generates generator arguments value)
      fun e _ => ∃ failure, e = .generator failure ∧ scene.GeneratorFails failure := by
  rw [generate, Work.ends_mapError, Work.ends_ofFallible]
  split
  · next hrun => exact ⟨source, hrun⟩
  · next hrun => exact ⟨_, rfl, generator, hmem, arguments, source, hrun⟩

/-- A text that is looked up ends with what it stands for, or with a failure of a generator. -/
theorem ends_lookup {text : String} :
    (scene.lookup text).Ends source (fun value _ => scene.LooksUp text value)
      fun e _ => ∃ failure, e = .generator failure ∧ scene.GeneratorFails failure := by
  unfold Scene.lookup
  split
  · next generator hfind =>
    have hmem := List.mem_of_find?_eq_some hfind
    exact (ends_generate hmem).mono (fun _ _ h => .path hfind h) (fun _ _ => id)
  · next hnone =>
    split
    · next hsplit =>
      rw [Work.ends_pure]
      exact .text hnone (by simp [hsplit])
    · next head rest hsplit =>
      split
      · next generator hfind =>
        have hmem := List.mem_of_find?_eq_some hfind
        exact (ends_generate hmem).mono (fun _ _ h => .head hnone hsplit hfind h) (fun _ _ => id)
      · next hhead =>
        rw [Work.ends_pure]
        refine .text hnone fun head' rest' h => ?_
        cases hsplit.symm.trans h
        exact hhead

/-! ## All rules -/

mutual

/-- **A fit rule makes one of its values or fails with one of its errors**, from every state of the
random source. -/
theorem ends_scalar : ∀ {rule : Rule}, rule.Fit → ∀ source,
    (scene.scalar path row rule).Ends source (fun value _ => scene.Makes row rule value)
      fun e _ => scene.Fails path row rule e
  | .template segments, hfit, source => by
    rw [scalar, Work.ends_bind]
    refine (ends_fill segments hfit source).mono (fun text s h => ?_) (fun e s h => ?_)
    · rw [Work.ends_pure, Makes]
      exact ⟨text, rfl, h⟩
    · rwa [Fails]
  | .tenantId, _, source => by rw [scalar, Work.ends_pure, Makes]
  | .relation table column, _, source => by
    rw [scalar]
    exact ends_relation
  | .choice candidates, hfit, source => by
    rw [scalar]
    exact ends_choice hfit
  | .int min max, hfit, source => by
    obtain ⟨hle, hlower, hupper⟩ := hfit
    rw [scalar, Work.ends_bind, Work.ends_ofState, Work.ends_pure, Makes]
    exact ⟨_, rfl, Random.Draw.int_bounds hle hlower hupper source⟩
  | .float min max places, _, source => by
    rw [scalar]
    exact (ends_real min max places).mono (fun _ _ h => by rwa [Makes]) (fun _ _ => id)
  | .amount min max places, _, source => by
    rw [scalar]
    exact (ends_real min max places).mono (fun _ _ h => by rwa [Makes]) (fun _ _ => id)
  | .dateBetween first last, hfit, source => by
    rw [scalar]
    exact ends_dateBetween hfit
  | .dateAfter column minDays maxDays, hfit, source => by
    rw [scalar]
    exact ends_dateAfter hfit
  | .numeric length, _, source => by
    rw [scalar, Work.ends_bind]
    refine (ends_numeric length (scene.Fails path row (.numeric length))).mono
      (fun ds s h => ?_) (fun _ _ => id)
    rw [Work.ends_pure, Makes]
    exact ⟨ds, rfl, h⟩
  | .lookup text, _, source => by
    rw [scalar]
    exact ends_lookup.mono (fun _ _ h => by rwa [Makes]) (fun _ _ h => by rwa [Fails])

/-- `ends_scalar` for the segments of a template. -/
theorem ends_fill : ∀ (segments : List Segment), Rule.SegmentsFit segments → ∀ source,
    (scene.fill path row segments).Ends source (fun text _ => scene.Fills row segments text)
      fun e _ => scene.FillFails path row segments e
  | [], _, source => by rw [fill, Work.ends_pure, Fills]
  | .literal literal :: rest, hfit, source => by
    rw [fill, Work.ends_bind]
    refine (ends_fill rest hfit source).mono (fun tail s h => ?_) (fun e s h => ?_)
    · rw [Work.ends_pure, Fills]
      exact ⟨tail, rfl, h⟩
    · rwa [FillFails]
  | .placeholder key rule :: rest, hfit, source => by
    rw [fill]
    cases hkey : Fields.get? key row with
    | some value =>
      simp only [pure_bind, Work.ends_bind, Work.ends_pure]
      refine (ends_fill rest hfit.2 source).mono (fun tail s h => ?_) (fun e s h => ?_)
      · rw [Fills]
        exact ⟨value, tail, rfl, h, .inl hkey⟩
      · rw [FillFails]
        exact .inr h
    | none =>
      rw [Work.ends_bind]
      refine (ends_scalar hfit.1.1 source).mono (fun value s hv => ?_) (fun e s h => ?_)
      · rw [Work.ends_bind]
        refine (ends_fill rest hfit.2 s).mono (fun tail s h => ?_) (fun e s h => ?_)
        · rw [Work.ends_pure, Fills]
          exact ⟨value, tail, rfl, h, .inr ⟨hkey, hv⟩⟩
        · rw [FillFails]
          exact .inr h
      · rw [FillFails]
        exact .inl ⟨hkey, h⟩
  | .columnOnly key error :: rest, hfit, source => by
    rw [fill]
    cases hkey : Fields.get? key row with
    | some value =>
      simp only [pure_bind, Work.ends_bind, Work.ends_pure]
      refine (ends_fill rest hfit source).mono (fun tail s h => ?_) (fun e s h => ?_)
      · rw [Fills]
        exact ⟨value, tail, rfl, h, hkey⟩
      · rw [FillFails]
        exact .inr h
    | none =>
      rw [Work.ends_bind, Work.ends_fail, FillFails]
      exact .inl ⟨hkey, rfl⟩

end

end Scene

end Seedbed
