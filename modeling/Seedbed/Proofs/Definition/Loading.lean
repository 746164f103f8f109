import Mathlib.Tactic.SplitIfs
import Seedbed.Definition.File
import Seedbed.Proofs.Ending
import Seedbed.Proofs.Fields
import Seedbed.Proofs.Definition.Agreement

/-!
# Checking and loading definitions

The text of a file compiles exactly when its check finds no errors (`check_isOk_iff`), though the
two go over the text apart from each other: a check lists what is wrong, loading stops at the first
thing. So several definitions are loaded when no check finds errors, and then each is what its text
compiles to; else all failed checks are reported, and no other failure is seen
(`ends_compileAll`). The same holds of the files of a library (`loads_as_checked`).
-/

namespace Seedbed

/-- The text of a file compiles to a definition. -/
def DefinitionText.Compiles (known : Catalog) (source : DefinitionText) (definition : Compiled) :
    Prop :=
  source.compile known = .ok definition

/-- The text of a file compiles when it is JSON that compiles, without errors, to a definition of
the table of the file. -/
theorem DefinitionText.Compiles.parsed {known : Catalog} {source : DefinitionText}
    {definition : Compiled} (h : source.Compiles known definition) :
    ∃ text value, source.text = .ok text ∧ Json.parse text = .ok value ∧
      (validate known value).isOk = true ∧ Definition.compile value = .ok definition ∧
      definition.table = source.table := by
  unfold DefinitionText.Compiles DefinitionText.compile at h
  split at h
  · cases h
  · next text htext =>
    split at h
    · cases h
    · next value hvalue =>
      simp only [compileValue] at h
      split at h
      · cases h
      · next hok =>
        split at h
        · cases h
        · next compiled hcompile =>
          split_ifs at h with htable
          cases h
          exact ⟨text, value, htext, hvalue, by simpa using hok, hcompile, htable⟩

/-- A text that compiles to a definition with a property compiles to the only one that has it. -/
theorem DefinitionText.compiles_of_any {known : Catalog} {source : DefinitionText}
    {definition : Compiled} {p : Compiled → Bool}
    (h : (source.compile known).toOption.any p = true)
    (hp : ∀ other, p other = true → other = definition) : source.Compiles known definition := by
  unfold Compiles
  cases hc : source.compile known with
  | error e =>
    rw [hc] at h
    cases h
  | ok other =>
    rw [hc] at h
    exact congrArg Except.ok (hp other h)

/-- The definition that the text of a file compiles to is of the table of the file. -/
theorem DefinitionText.Compiles.table_eq {known : Catalog} {source : DefinitionText}
    {definition : Compiled} (h : source.Compiles known definition) :
    definition.table = source.table := by
  obtain ⟨_, _, -, -, -, -, htable⟩ := h.parsed
  exact htable

/-- A value that compiles declares the table of its definition. -/
theorem declaredTable?_of_compile {value : Json} {definition : Compiled}
    (h : Definition.compile value = .ok definition) :
    declaredTable? value = some definition.table := by
  obtain ⟨decoded, hdecode, htraverse⟩ := Definition.compile_eq_ok_iff.1 h
  obtain ⟨members, _, _, rfl, htable, -⟩ := Definition.decode_eq_ok_iff.1 hdecode
  rw [(Definition.traverse_eq_ok htraverse).1, declaredTable?]
  simp [Json.member?, Json.members?, htable, Json.text?]

/-- The check of a file whose text compiles finds no errors. -/
theorem DefinitionText.Compiles.check_isOk {known : Catalog} {source : DefinitionText}
    {definition : Compiled} (h : source.Compiles known definition) :
    (source.check known).isOk = true := by
  obtain ⟨text, value, htext, hparse, hok, hcompile, htable⟩ := h.parsed
  have hdeclared : declaredTable? value = some source.table :=
    htable ▸ declaredTable?_of_compile hcompile
  have hname : checkTableName (some source.table) (declaredTable? value) = [] := by
    rw [hdeclared]
    exact if_pos rfl
  simp only [DefinitionText.check, checkText, htext, hparse, DefinitionCheck.isOk, hname,
    List.append_nil]
  exact hok

/-- Issues of two sources have no errors when those of each have none. -/
theorem Report.isOk_append_iff {issues others : List Issue} :
    (Report.mk (issues ++ others)).isOk = true ↔
      (Report.mk issues).isOk = true ∧ (Report.mk others).isOk = true := by
  simp [isOk, errors, List.filter_append]

/-- A file defines the table that it is named after unless this is found to be an error. -/
theorem eq_of_checkTableName_isOk {expected declared : String}
    (h : (Report.mk (checkTableName (some expected) (some declared))).isOk = true) :
    declared = expected := by
  simp only [checkTableName] at h
  split_ifs at h with heq
  · exact heq.symm
  · simp [Report.isOk, Report.errors, Finding.severity] at h

/-- **A check finds no errors exactly when the text compiles.** -/
theorem DefinitionText.check_isOk_iff {known : Catalog} {source : DefinitionText} :
    (source.check known).isOk = true ↔ ∃ definition, source.Compiles known definition := by
  refine ⟨fun hok => ?_, fun ⟨_, h⟩ => h.check_isOk⟩
  unfold check checkText at hok
  unfold Compiles compile
  split at hok
  · simp [DefinitionCheck.isOk, Report.isOk, Report.errors, Finding.severity] at hok
  · split at hok
    · simp [DefinitionCheck.isOk, Report.isOk, Report.errors, Finding.severity] at hok
    · next value _ =>
      obtain ⟨hvalid, hname⟩ := Report.isOk_append_iff.1 hok
      have hvalid : (validate known value).isOk = true := hvalid
      obtain ⟨definition, hcompile⟩ := Validation.exists_compile_of_isOk known hvalid
      rw [declaredTable?_of_compile hcompile] at hname
      have htable : definition.table = source.table := eq_of_checkTableName_isOk hname
      refine ⟨definition, ?_⟩
      simp [compileValue, hvalid, hcompile, htable]

/-- Loading the text of a file gives what it compiles to. -/
theorem DefinitionText.result_load {σ : Type} (known : Catalog) (source : DefinitionText)
    (state : σ) : (source.load known state).result = source.compile known := rfl

/-- Loading texts one after another gives what they compile to, or fails at one that does not
compile. -/
theorem DefinitionText.ends_loads {σ : Type} {known : Catalog} (sources : List DefinitionText)
    (state : σ) :
    (Work.forEach (·.load known) sources : Work LoadFailure σ (List Compiled)).Ends state
      (fun definitions s => s = state ∧ List.Forall₂ (Compiles known) sources definitions)
      fun _ s => s = state ∧ ∃ source ∈ sources, ∀ definition,
        ¬ source.Compiles known definition := by
  refine Work.ends_forEach (fun sources definitions s => s = state ∧
    List.Forall₂ (Compiles known) sources definitions)
    (fun done source rest he definitions s h => ?_) ⟨rfl, .nil⟩
  obtain ⟨rfl, hdone⟩ := h
  simp only [load, Work.ends_bind, Work.ends_noteAll]
  cases hc : source.compile known with
  | error e =>
    rw [Work.ends_ofExcept_error]
    refine ⟨rfl, source, by simp [he], fun definition hdefinition => ?_⟩
    cases hc.symm.trans hdefinition
  | ok definition =>
    rw [Work.ends_ofExcept_ok]
    exact ⟨rfl, List.rel_append hdone (.cons hc .nil)⟩

/-! ## Several definitions -/

/-- No check failed when all of them find no errors. -/
theorem failedChecks_eq_nil_iff {known : Catalog} {sources : List DefinitionText} :
    failedChecks known sources = [] ↔ ∀ source ∈ sources, (source.check known).isOk = true := by
  simp [failedChecks, List.filter_eq_nil_iff]

/-- **Several definitions are loaded** when no check failed, and each is then what its text compiles
to; else exactly the failed checks are reported. Nothing is done to the state. -/
theorem ends_compileAll {σ : Type} (known : Catalog) (sources : List DefinitionText) (state : σ) :
    (compileAll known sources : Work LoadFailure σ (List Compiled)).Ends state
      (fun definitions s => s = state ∧ failedChecks known sources = [] ∧
        List.Forall₂ (DefinitionText.Compiles known) sources definitions)
      fun e s => s = state ∧ failedChecks known sources ≠ [] ∧
        e = .invalidDefinitions (failedChecks known sources) := by
  unfold compileAll
  split
  · next hnone =>
    refine (DefinitionText.ends_loads sources state).mono
      (fun definitions s h => ⟨h.1, hnone, h.2⟩) ?_
    -- A text that does not compile would have failed its check.
    rintro _ s ⟨-, source, hsource, hfails⟩
    have hok := failedChecks_eq_nil_iff.1 hnone source hsource
    obtain ⟨definition, hcompiles⟩ := DefinitionText.check_isOk_iff.1 hok
    exact absurd hcompiles (hfails definition)
  · next hsome =>
    rw [Work.ends_fail]
    exact ⟨rfl, hsome, rfl⟩

/-- Loading agrees with checking, for things that stand for definitions of tables. -/
structure LoadsAsChecked {ι σ : Type} (table : ι → String) (check : ι → DefinitionCheck)
    (load : ι → Work LoadFailure σ Compiled)
    (loadAll : List ι → Work LoadFailure σ (List Compiled)) : Prop where
  /-- One definition is loaded exactly when its check finds no errors. -/
  load_iff : ∀ i state, (∃ definition, (load i state).result = .ok definition) ↔
    (check i).report.errors = []
  /-- Several definitions are loaded exactly when no check finds errors. -/
  loadAll_iff : ∀ all state, (∃ definitions, (loadAll all state).result = .ok definitions) ↔
    ∀ i ∈ all, (check i).report.errors = []
  /-- They are then those that are loaded one by one, in order, and of the tables asked for. -/
  loaded : ∀ all state definitions, (loadAll all state).result = .ok definitions →
    List.Forall₂ (fun i definition => (load i state).result = .ok definition ∧
      definition.table = table i) all definitions
  /-- Else the failure is always the same: the checks with errors, in order. -/
  failed : ∀ all state e, (loadAll all state).result = .error e →
    e = .invalidDefinitions ((all.map check).filter fun check => check.report.errors ≠ [])

/-- A check is well when its list of errors is empty. -/
theorem DefinitionCheck.isOk_iff {check : DefinitionCheck} :
    check.isOk = true ↔ check.report.errors = [] :=
  List.isEmpty_iff

/-- Texts of files, wherever they were read from, are loaded as they are checked. -/
theorem DefinitionText.loadsAsChecked (known : Catalog) (σ : Type) :
    LoadsAsChecked (σ := σ) DefinitionText.table (·.check known) (·.load known)
      (compileAll known) where
  load_iff source state := by
    rw [← DefinitionCheck.isOk_iff, check_isOk_iff, result_load]
    rfl
  loadAll_iff sources state := by
    have hends := ends_compileAll known sources state
    simp only [← DefinitionCheck.isOk_iff]
    rw [← failedChecks_eq_nil_iff]
    constructor
    · rintro ⟨definitions, hr⟩
      exact (hends.of_ok hr).2.1
    · intro hnone
      cases hr : (compileAll known sources state).result with
      | ok definitions => exact ⟨definitions, rfl⟩
      | error e => exact absurd hnone (hends.of_error hr).2.1
  loaded sources state definitions hr := by
    obtain ⟨-, -, hcompiles⟩ := (ends_compileAll known sources state).of_ok hr
    exact hcompiles.imp fun source definition h => ⟨h, h.table_eq⟩
  failed sources state e hr := by
    obtain ⟨-, -, he⟩ := (ends_compileAll known sources state).of_error hr
    rw [he, failedChecks]
    congr 2
    funext check
    simp [← DefinitionCheck.isOk_iff]

/-- What stands for things that are loaded as they are checked is loaded so itself. -/
theorem LoadsAsChecked.comap {ι κ σ : Type} {table : ι → String} {check : ι → DefinitionCheck}
    {load : ι → Work LoadFailure σ Compiled}
    {loadAll : List ι → Work LoadFailure σ (List Compiled)}
    (h : LoadsAsChecked table check load loadAll) (f : κ → ι) :
    LoadsAsChecked (table ∘ f) (check ∘ f) (load ∘ f) (loadAll ∘ List.map f) where
  load_iff k state := h.load_iff (f k) state
  loadAll_iff all state := (h.loadAll_iff (all.map f) state).trans List.forall_mem_map
  loaded all state definitions hr :=
    List.forall₂_map_left_iff.1 (h.loaded (all.map f) state definitions hr)
  failed all state e hr := by
    rw [h.failed (all.map f) state e hr, List.map_map]

/-- **Checking and loading agree**, one by one and in bulk, for the texts of files and for the
tables of a library: what is loaded has no errors, what has no errors is loaded, several are loaded
as they are one by one, and the only failure of several is the list of the checks with errors. -/
theorem loads_as_checked (known : Catalog) (σ : Type) :
    LoadsAsChecked (σ := σ) DefinitionText.table (·.check known) (·.load known)
      (compileAll known) ∧
    ∀ library : Library, LoadsAsChecked (σ := σ) id (library.check known) (library.load known)
      (library.loadAll known) :=
  ⟨DefinitionText.loadsAsChecked known σ, fun library =>
    (DefinitionText.loadsAsChecked known σ).comap library.source⟩

end Seedbed
