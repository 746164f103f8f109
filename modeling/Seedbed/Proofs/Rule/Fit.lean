import Seedbed.Rule.Parser
import Seedbed.Proofs.Accepting

/-!
# What a parsed rule holds

Parsing checks what evaluation relies on: `Rule.Fit` says that the bounds of a rule are in order
and within their words, that a choice has candidates and a relation has names, and the same of the
rules in a template. Every rule that a text is parsed to is fit (`fit_of_parse`). The rule of a
placeholder holds no placeholders of its own (`Rule.Flat`).
-/

namespace Seedbed

namespace Rule

/-- A range of reals has finite bounds in order, at a finite distance, and so many places as a
double has digits. -/
def RealsFit (min max : Float) (places : Nat) : Prop :=
  Number.isFinite min = true ∧ Number.isFinite max = true ∧ ¬max < min ∧
    Number.isFinite (max - min) = true ∧ places ≤ maxPlaces

/-- A rule without placeholders; a template of this kind is one literal. -/
def Flat (rule : Rule) : Prop :=
  ∀ segments, rule = .template segments → ∃ text, segments = [.literal text]

mutual

/-- The arguments of a rule are as its evaluation needs them. -/
def Fit : Rule → Prop
  | template segments => SegmentsFit segments
  | tenantId => True
  | relation table column => table ≠ "" ∧ column ≠ ""
  | choice candidates => candidates ≠ []
  | int min max => min ≤ max ∧ -2 ^ 63 ≤ min ∧ max < 2 ^ 63
  | float min max places => RealsFit min max places
  | amount min max places => RealsFit min max places
  | dateBetween first last => first.number ≤ last.number
  | dateAfter column minDays maxDays =>
    column ≠ "" ∧ minDays ≤ maxDays ∧ -maxDayOffset ≤ minDays ∧ maxDays ≤ maxDayOffset
  | numeric length => length < 2 ^ 64
  | lookup _ => True

/-- The rules in the placeholders of a template are fit and flat. -/
def SegmentsFit : List Segment → Prop
  | [] => True
  | .literal _ :: rest => SegmentsFit rest
  | .placeholder _ rule :: rest => (Fit rule ∧ Flat rule) ∧ SegmentsFit rest
  | .columnOnly _ _ :: rest => SegmentsFit rest

end

/-- `SegmentsFit` in the natural per-element form. -/
theorem segmentsFit_iff {segments : List Segment} :
    SegmentsFit segments ↔ ∀ key rule, .placeholder key rule ∈ segments → Fit rule ∧ Flat rule := by
  induction segments with
  | nil => simp [SegmentsFit]
  | cons segment rest ih =>
    cases segment with
    | literal text => simp [SegmentsFit, ih]
    | columnOnly key error => simp [SegmentsFit, ih]
    | placeholder key rule => simp [SegmentsFit, ih, or_imp, forall_and, and_and_and_comm]

end Rule

/-! ## Arguments -/

/-- A signed number that was read fits its word. -/
theorem Number.readInteger_bounds {bits : Nat} {cs : List Char} {i : Int}
    (h : readInteger bits cs = some i) : -2 ^ (bits - 1) ≤ i ∧ i < 2 ^ (bits - 1) := by
  have hcast : ((2 ^ (bits - 1) : Nat) : Int) = 2 ^ (bits - 1) := by simp
  unfold readInteger at h
  split at h
  · obtain ⟨m, hm, rfl⟩ := Option.map_eq_some_iff.1 h
    obtain ⟨n, hn, hpure⟩ := Option.bind_eq_some_iff.1 hm
    have hle : n ≤ 2 ^ (bits - 1) := by simpa using (Option.filter_eq_some_iff.1 hn).2
    cases hpure
    have hpos : 0 < 2 ^ (bits - 1) := Nat.two_pow_pos _
    omega
  · obtain ⟨n, hn, rfl⟩ := Option.map_eq_some_iff.1 h
    have hlt : n < 2 ^ (bits - 1) := by simpa using (Option.filter_eq_some_iff.1 hn).2
    simp only [Int.ofNat_eq_natCast]
    omega
  · obtain ⟨n, hn, rfl⟩ := Option.map_eq_some_iff.1 h
    have hlt : n < 2 ^ (bits - 1) := by simpa using (Option.filter_eq_some_iff.1 hn).2
    simp only [Int.ofNat_eq_natCast]
    omega

namespace Rule

variable {text : List Char}

section

variable {α : Type} {value : List Char}

/-- An argument that was read is what the reader gave for it. -/
theorem readArgument_eq_ok {read : List Char → Option α} {name expected : String} {a : α}
    (h : readArgument text read name value expected = .ok a) : read (Text.trim value) = some a := by
  unfold readArgument at h
  split at h
  · next hr => cases h; exact hr
  · cases h

/-- Bounds that pass the check are in order. -/
theorem checkOrdered_eq_ok {inverted : Bool} (h : checkOrdered text inverted = .ok ()) :
    inverted = false := by
  unfold checkOrdered at h
  split at h
  · cases h
  · next hi => exact Bool.eq_false_iff.2 hi

/-- An argument that is there is not empty. -/
theorem required_eq_ok {arguments : List (List Char)} {index : Nat} {name : String}
    (h : required text arguments index name = .ok value) : value ≠ [] := by
  unfold required at h
  split at h
  · next hv =>
    cases h
    simpa using (Option.filter_eq_some_iff.1 hv).2
  · cases h

/-- An argument with a default is read or is the default. -/
theorem readOr_eq_ok {argument : Option (List Char)} {default a : α}
    {read : List Char → Except RuleError α} (h : readOr argument default read = .ok a) :
    a = default ∨ ∃ value, read value = .ok a := by
  unfold readOr at h
  split at h
  · exact .inr ⟨_, h⟩
  · cases h; exact .inl rfl

end

/-- An integer that is read is one of a signed word of 64 bits. -/
theorem readInt_bounds {name : String} {value : List Char} {i : Int}
    (h : readInt text name value = .ok i) : -2 ^ 63 ≤ i ∧ i < 2 ^ 63 :=
  Number.readInteger_bounds (readArgument_eq_ok h)

/-- A real number that is read is finite. -/
theorem readFinite_isFinite {name : String} {value : List Char} {x : Float}
    (h : readFinite text name value = .ok x) : Number.isFinite x = true := by
  simp only [readFinite, bind_eq_ok] at h
  obtain ⟨number, -, h⟩ := h
  split at h
  · next hf => cases h; exact hf
  · cases h

/-- A number of places that is read is within its limit. -/
theorem readPlaces_le {value : List Char} {places : Nat} (h : readPlaces text value = .ok places) :
    places ≤ maxPlaces := by
  simp only [readPlaces, bind_eq_ok] at h
  obtain ⟨places', -, h⟩ := h
  split at h
  · next hp => cases h; exact hp
  · cases h

/-- A number of days that is read is within its limit on either side. -/
theorem readOffset_bounds {name : String} {value : List Char} {days : Int}
    (h : readOffset text name value = .ok days) : -maxDayOffset ≤ days ∧ days ≤ maxDayOffset := by
  simp only [readOffset, bind_eq_ok] at h
  obtain ⟨days', -, h⟩ := h
  split at h
  · next hd => cases h; exact hd
  · cases h

/-! ## Rules without placeholders -/

/-- A relation that is parsed fits. -/
theorem parseRelation_fit {path : List Char} {rule : Rule}
    (h : parseRelation text path = .ok rule) : rule.Fit := by
  unfold parseRelation at h
  split at h
  · next table column _ =>
    split at h
    · cases h
    · next hne =>
      cases h
      simpa [Fit] using hne
  · cases h

/-- A choice that is parsed fits. -/
theorem parseChoice_fit {candidates : List Char} {rule : Rule}
    (h : parseChoice text candidates = .ok rule) : rule.Fit := by
  unfold parseChoice at h
  split at h
  · cases h
  · cases h
    simpa [Fit] using Text.splitOn_ne_nil ':' candidates

/-- An integer rule that is parsed fits. -/
theorem parseInt_fit {arguments : List (List Char)} {rule : Rule}
    (h : parseInt text arguments = .ok rule) : rule.Fit := by
  unfold parseInt at h
  split at h
  · cases h
    simp [Fit, defaultIntMax]
  · simp only [bind_eq_ok, pure_eq_ok] at h
    obtain ⟨_, -, _, -, min, hmin, _, -, max, hmax, _, hordered, rfl⟩ := h
    have hle : ¬max < min := of_decide_eq_false (checkOrdered_eq_ok hordered)
    exact ⟨Int.not_lt.1 hle, (readInt_bounds hmin).1, (readInt_bounds hmax).2⟩

/-- A range of reals that was parsed is fit when its default is. -/
theorem parseRealRange_fit {arguments : List (List Char)} {default : Float × Float}
    (hd : RealsFit default.1 default.2 defaultPlaces) {min max : Float} {places : Nat}
    (h : parseRealRange text arguments default = .ok (min, max, places)) :
    RealsFit min max places := by
  unfold parseRealRange at h
  split at h
  · cases h
    exact hd
  · simp only [bind_eq_ok] at h
    obtain ⟨_, -, _, -, min', hmin, maxText, -, max', hmax, _, hordered, h⟩ := h
    split at h
    · cases h
    · next hdistance =>
      obtain ⟨places', hplaces, h⟩ := bind_eq_ok.1 h
      cases h
      have hle : places ≤ maxPlaces := by
        rcases readOr_eq_ok hplaces with rfl | ⟨value, hv⟩
        · decide
        · exact readPlaces_le hv
      exact ⟨readFinite_isFinite hmin, readFinite_isFinite hmax,
        of_decide_eq_false (checkOrdered_eq_ok hordered), by simpa using hdistance, hle⟩

/-- A date between others that is parsed fits. -/
theorem parseDateBetween_fit {arguments : List (List Char)} {rule : Rule}
    (h : parseDateBetween text arguments = .ok rule) : rule.Fit := by
  simp only [parseDateBetween, bind_eq_ok, pure_eq_ok] at h
  obtain ⟨_, -, _, -, first, -, _, -, last, -, _, hordered, rfl⟩ := h
  have hle : ¬last.number < first.number := of_decide_eq_false (checkOrdered_eq_ok hordered)
  exact Int.not_lt.1 hle

/-- A date after a column that is parsed fits. -/
theorem parseDateAfter_fit {arguments : List (List Char)} {rule : Rule}
    (h : parseDateAfter text arguments = .ok rule) : rule.Fit := by
  simp only [parseDateAfter, bind_eq_ok, pure_eq_ok] at h
  obtain ⟨_, -, column, hcolumn, minDays, hmin, maxDays, hmax, _, hordered, rfl⟩ := h
  have hle : ¬maxDays < minDays := of_decide_eq_false (checkOrdered_eq_ok hordered)
  have hlower : -maxDayOffset ≤ minDays := by
    rcases readOr_eq_ok hmin with rfl | ⟨value, hv⟩
    · decide
    · exact (readOffset_bounds hv).1
  have hupper : maxDays ≤ maxDayOffset := by
    rcases readOr_eq_ok hmax with rfl | ⟨value, hv⟩
    · decide
    · exact (readOffset_bounds hv).2
  refine ⟨?_, Int.not_lt.1 hle, hlower, hupper⟩
  simpa using required_eq_ok hcolumn

/-- A numeric text that is parsed fits. -/
theorem parseNumeric_fit {arguments : List (List Char)} {rule : Rule}
    (h : parseNumeric text arguments = .ok rule) : rule.Fit := by
  simp only [parseNumeric, bind_eq_ok] at h
  obtain ⟨_, -, h⟩ := h
  split at h
  · cases h
    simp [Fit]
  · simp only [bind_eq_ok, pure_eq_ok] at h
    obtain ⟨_, -, length, hlength, rfl⟩ := h
    exact Number.readNatural_lt (readArgument_eq_ok hlength)

/-- The defaults of the rules on reals are fit themselves. -/
theorem default_realsFit :
    RealsFit defaultFloatRange.1 defaultFloatRange.2 defaultPlaces ∧
      RealsFit defaultAmountRange.1 defaultAmountRange.2 defaultPlaces := by
  unfold RealsFit
  decide

/-- A text without placeholders is parsed to a fit rule. -/
theorem parsePlain_fit {rule : Rule} (h : parsePlain text = .ok rule) : rule.Fit := by
  unfold parsePlain at h
  split at h
  case h_1 =>
    split at h
    · cases h; trivial
    · cases h
  case h_2 path _ => exact parseRelation_fit h
  case h_3 candidates _ => exact parseChoice_fit h
  case h_4 arguments _ => exact parseInt_fit h
  case h_5 arguments _ =>
    obtain ⟨⟨min, max, places⟩, hreals, h⟩ := bind_eq_ok.1 h
    cases h
    exact parseRealRange_fit default_realsFit.1 hreals
  case h_6 arguments _ =>
    obtain ⟨⟨min, max, places⟩, hreals, h⟩ := bind_eq_ok.1 h
    cases h
    exact parseRealRange_fit default_realsFit.2 hreals
  case h_7 arguments _ => exact parseDateBetween_fit h
  case h_8 arguments _ => exact parseDateAfter_fit h
  case h_9 arguments _ => exact parseNumeric_fit h
  case h_10 => cases h; trivial

/-- The rules that the arguments of a form may give. -/
def Form.Gives : Form → Rule → Prop
  | .context, rule => rule = .tenantId
  | .relation _, rule => ∃ table column, rule = .relation table column
  | .choice _, rule => ∃ candidates, rule = .choice candidates
  | .int _, rule => ∃ min max, rule = .int min max
  | .float _, rule => ∃ min max places, rule = .float min max places
  | .amount _, rule => ∃ min max places, rule = .amount min max places
  | .dateBetween _, rule => ∃ first last, rule = .dateBetween first last
  | .dateAfter _, rule => ∃ column minDays maxDays, rule = .dateAfter column minDays maxDays
  | .numeric _, rule => ∃ length, rule = .numeric length
  | .lookup, rule => ∃ text, rule = .lookup text

/-- A text without placeholders is parsed to a rule of its form. -/
theorem gives_of_parsePlain {rule : Rule} (h : parsePlain text = .ok rule) :
    (formOf text).Gives rule := by
  unfold parsePlain at h
  split at h
  case h_1 hform =>
    rw [hform]
    split at h
    · cases h; rfl
    · cases h
  case h_2 path hform =>
    rw [hform]
    unfold parseRelation at h
    split at h
    · split at h
      · cases h
      · cases h; exact ⟨_, _, rfl⟩
    · cases h
  case h_3 candidates hform =>
    rw [hform]
    unfold parseChoice at h
    split at h
    · cases h
    · cases h; exact ⟨_, rfl⟩
  case h_4 arguments hform =>
    rw [hform]
    unfold parseInt at h
    split at h
    · cases h; exact ⟨_, _, rfl⟩
    · simp only [bind_eq_ok, pure_eq_ok] at h
      obtain ⟨_, -, _, -, min, -, _, -, max, -, _, -, rfl⟩ := h
      exact ⟨min, max, rfl⟩
  case h_5 arguments hform =>
    rw [hform]
    obtain ⟨⟨min, max, places⟩, -, h⟩ := bind_eq_ok.1 h
    cases h
    exact ⟨min, max, places, rfl⟩
  case h_6 arguments hform =>
    rw [hform]
    obtain ⟨⟨min, max, places⟩, -, h⟩ := bind_eq_ok.1 h
    cases h
    exact ⟨min, max, places, rfl⟩
  case h_7 arguments hform =>
    rw [hform]
    simp only [parseDateBetween, bind_eq_ok, pure_eq_ok] at h
    obtain ⟨_, -, _, -, first, -, _, -, last, -, _, -, rfl⟩ := h
    exact ⟨first, last, rfl⟩
  case h_8 arguments hform =>
    rw [hform]
    simp only [parseDateAfter, bind_eq_ok, pure_eq_ok] at h
    obtain ⟨_, -, column, -, minDays, -, maxDays, -, _, -, rfl⟩ := h
    exact ⟨String.ofList column, minDays, maxDays, rfl⟩
  case h_9 arguments hform =>
    rw [hform]
    obtain ⟨_, -, h⟩ := bind_eq_ok.1 h
    split at h
    · cases h; exact ⟨_, rfl⟩
    · simp only [bind_eq_ok, pure_eq_ok] at h
      obtain ⟨_, -, length, -, rfl⟩ := h
      exact ⟨length, rfl⟩
  case h_10 hform =>
    rw [hform]
    cases h
    exact ⟨String.ofList text, rfl⟩

/-- No form gives a template. -/
theorem Form.Gives.ne_template {form : Form} {rule : Rule} (h : form.Gives rule)
    (segments : List Segment) : rule ≠ .template segments := by
  rintro rfl
  cases form <;> simp [Form.Gives] at h

/-- A text without placeholders is parsed to no template. -/
theorem parsePlain_ne_template {rule : Rule} (h : parsePlain text = .ok rule)
    (segments : List Segment) : rule ≠ .template segments :=
  (gives_of_parsePlain h).ne_template segments

/-! ## Templates -/

/-- The key of a placeholder is parsed to a fit rule without placeholders. -/
theorem parseKey_fit {rule : Rule} (h : parseKey text = .ok rule) : rule.Fit ∧ rule.Flat := by
  unfold parseKey at h
  split at h
  · cases h
    refine ⟨trivial, ?_⟩
    rintro _ ⟨⟩
    exact ⟨_, rfl⟩
  · exact ⟨parsePlain_fit h, fun segments he => absurd he (parsePlain_ne_template h segments)⟩

/-- The rule in a placeholder is what its key is parsed to. -/
theorem exists_parseKey_of_segmentOf {piece : Template.Piece} {key : String} {rule : Rule}
    (h : segmentOf piece = .placeholder key rule) : ∃ key, parseKey key = .ok rule := by
  cases piece with
  | literal text => cases h
  | placeholder key' =>
    simp only [segmentOf] at h
    split at h
    · next hrule => cases h; exact ⟨key', hrule⟩
    · cases h

/-- **Every rule that a text is parsed to is fit**: evaluation never meets an empty range, a choice
of nothing, or a bound beyond its word. -/
theorem fit_of_parse {text : String} {rule : Rule} (h : Rule.parse text = .ok rule) :
    rule.Fit := by
  unfold parse parseChars at h
  split at h
  · cases h
    refine segmentsFit_iff.2 fun key rule hm => ?_
    obtain ⟨piece, -, hpiece⟩ := List.mem_map.1 hm
    obtain ⟨key', hrule⟩ := exists_parseKey_of_segmentOf hpiece
    exact parseKey_fit hrule
  · exact parsePlain_fit h

end Rule

end Seedbed
