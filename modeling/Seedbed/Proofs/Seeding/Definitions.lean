import Seedbed.Seeding.Run
import Seedbed.Proofs.Json.Distinct
import Seedbed.Proofs.Definition.Loading
import Seedbed.Proofs.Generation.Table

/-!
# The definitions that a run uses

A run loads the definitions of all tables of its order before it does anything else. What it goes
on with is, table by table, what the library defines (`ends_definitions`): a fit definition of
that table whose columns have distinct names.
-/

namespace Seedbed

namespace Setup

variable {σ : Type} {setup : Setup} {table : String} {definition : Compiled}

/-- The library holds a definition of a table: its file has no errors and compiles to it. -/
def Defines (setup : Setup) (table : String) (definition : Compiled) : Prop :=
  (setup.library.source table).Compiles setup.known definition

/-- A definition for a table is of this table. -/
theorem Defines.table_eq (h : setup.Defines table definition) : definition.table = table :=
  DefinitionText.Compiles.table_eq h

/-- The definitions of a setup fit. -/
theorem Defines.fit (h : setup.Defines table definition) : definition.Fit := by
  obtain ⟨_, _, -, -, -, hcompile, -⟩ := h.parsed
  exact Definition.fit_of_compile hcompile

/-- The columns of a definition of the library have distinct names. -/
theorem Defines.nodup (h : setup.Defines table definition) : definition.columnNames.Nodup := by
  obtain ⟨_, _, -, hparse, -, hcompile, -⟩ := h.parsed
  exact Definition.compile_nodup (Json.parse_distinct hparse) hcompile

/-- The library holds at most one definition of a table. -/
theorem Defines.unique {other : Compiled} (h : setup.Defines table definition)
    (h' : setup.Defines table other) : definition = other :=
  Except.ok.inj (h.symm.trans h')

/-- The library defines a table exactly when the check of its file finds no errors. -/
theorem exists_defines_iff :
    (∃ definition, setup.Defines table definition) ↔
      (setup.library.check setup.known table).report.errors = [] :=
  DefinitionText.check_isOk_iff.symm.trans DefinitionCheck.isOk_iff

/-- The library has one list of definitions for tables at most. -/
theorem defines_unique {tables : List String} {definitions others : List Compiled}
    (h : List.Forall₂ setup.Defines tables definitions)
    (h' : List.Forall₂ setup.Defines tables others) : definitions = others := by
  have hunique : Relator.RightUnique setup.Defines := fun _ _ _ hd hd' => hd.unique hd'
  exact hunique.forall₂ h h'

/-- Definitions of tables, one each, are of these tables in order. -/
theorem tables_of_defines {tables : List String} {definitions : List Compiled}
    (h : List.Forall₂ setup.Defines tables definitions) :
    definitions.map (·.table) = tables := by
  induction h with
  | nil => rfl
  | cons hdefines _ ih => rw [List.map_cons, hdefines.table_eq, ih]

/-- When tables have a definition each, one of them has one among these. -/
theorem exists_mem_of_defines {tables : List String} {definitions : List Compiled}
    (h : List.Forall₂ setup.Defines tables definitions) (ht : table ∈ tables) :
    ∃ definition ∈ definitions, setup.Defines table definition := by
  induction h with
  | nil => cases ht
  | cons hfirst _ ih =>
    rcases List.mem_cons.1 ht with rfl | ht
    · exact ⟨_, List.mem_cons_self .., hfirst⟩
    · obtain ⟨definition, hmem, hdefines⟩ := ih ht
      exact ⟨definition, List.mem_cons_of_mem _ hmem, hdefines⟩

/-- What the library defines for one of the tables is among their definitions. -/
theorem mem_of_defines {tables : List String} {definitions : List Compiled}
    (h : List.Forall₂ setup.Defines tables definitions) (ht : table ∈ tables)
    (hdefines : setup.Defines table definition) : definition ∈ definitions := by
  obtain ⟨other, hmem, hother⟩ := exists_mem_of_defines h ht
  exact hdefines.unique hother ▸ hmem

/-- **Loading gives what the library defines** for each table of the order, and it fails when
there is a table that the library does not define. It does nothing to the state. -/
theorem ends_definitions (setup : Setup) (state : σ) :
    (setup.definitions : Work RunFailure σ (List Compiled)).Ends state
      (fun definitions s => s = state ∧
        List.Forall₂ setup.Defines setup.order.seed definitions)
      fun e s => s = state ∧ (∃ failure, e = .loading failure) ∧
        ∃ table ∈ setup.order.seed, ∀ definition, ¬ setup.Defines table definition := by
  rw [definitions, Work.ends_mapError]
  refine (ends_compileAll _ _ state).mono ?_ ?_
  · rintro definitions s ⟨hs, -, hcompile⟩
    exact ⟨hs, (List.forall₂_map_left_iff (f := setup.library.source)).1 hcompile⟩
  · rintro e s ⟨hs, hfailed, -⟩
    rw [Ne, failedChecks_eq_nil_iff] at hfailed
    push Not at hfailed
    obtain ⟨source, hsource, hfails⟩ := hfailed
    obtain ⟨table, htable, rfl⟩ := List.mem_map.1 hsource
    refine ⟨hs, ⟨e, rfl⟩, table, htable, fun definition hdefines => hfails ?_⟩
    exact DefinitionText.Compiles.check_isOk hdefines

/-- Loading gives the definitions of all tables of the order when the library has them. -/
theorem ends_definitions_of_defines {definitions : List Compiled}
    (h : List.Forall₂ setup.Defines setup.order.seed definitions) (state : σ) :
    (setup.definitions : Work RunFailure σ (List Compiled)).Ends state
      (fun loaded s => s = state ∧ loaded = definitions) fun _ _ => False := by
  refine (ends_definitions setup state).mono
    (fun loaded s hs => ⟨hs.1, defines_unique hs.2 h⟩) ?_
  · rintro _ s ⟨-, -, table, htable, hnone⟩
    obtain ⟨definition, -, hdefines⟩ := exists_mem_of_defines h htable
    exact hnone definition hdefines

/-- What a check finds of all definitions of a library holds of them. -/
theorem Defines.of_all {p : Compiled → Bool}
    (hall : (setup.order.seed.all fun table =>
      ((setup.library.source table).compile setup.known).toOption.all p) = true)
    (htable : table ∈ setup.order.seed) (h : setup.Defines table definition) :
    p definition = true := by
  have hdefinition := List.all_eq_true.1 hall table htable
  rwa [show (setup.library.source table).compile setup.known = .ok definition from h]
    at hdefinition

/-! ## A library -/

/-- A library with two markets and an account in one of them. -/
def accountSetup : Setup where
  registry := Registry.empty
  order := { seed := ["markets", "accounts"], named := by decide, nodup := by decide }
  library := {
    directory := "defs"
    read := fun file =>
      if file = "defs/markets.json" then
        .ok ("\x7b\"table\":\"markets\",\"count\":2," ++
          "\"columns\":\x7b\"tenant_id\":\"context.tenant_id\"\x7d\x7d")
      else
        .ok ("\x7b\"table\":\"accounts\",\"count\":1," ++
          "\"columns\":\x7b\"tenant_id\":\"context.tenant_id\"," ++
          "\"market\":\"relation.markets.id\"\x7d\x7d") }
  today := ⟨739069, by decide, by decide⟩

/-- The definition of the markets in `accountSetup`. -/
def markets : Compiled where
  table := "markets"
  count := .fixed 2
  columns := [(tenantColumn, .scalar .tenantId)]

/-- The definition of the accounts in `accountSetup`. -/
def accounts : Compiled where
  table := "accounts"
  count := .fixed 1
  columns := [(tenantColumn, .scalar .tenantId), ("market", .scalar (.relation "markets" "id"))]

/-- Whether a definition is `markets`. -/
def isMarkets : Compiled → Bool
  | ⟨"markets", .fixed 2, [("tenant_id", .scalar .tenantId)]⟩ => true
  | _ => false

/-- Whether a definition is `accounts`. -/
def isAccounts : Compiled → Bool
  | ⟨"accounts", .fixed 1, [("tenant_id", .scalar .tenantId),
      ("market", .scalar (.relation "markets" "id"))]⟩ => true
  | _ => false

/-- The library of `accountSetup` has the definitions of both of its tables. -/
theorem accountSetup_defines :
    List.Forall₂ accountSetup.Defines accountSetup.order.seed [markets, accounts] := by
  have hmarkets : accountSetup.Defines "markets" markets := by
    refine DefinitionText.compiles_of_any (p := isMarkets) (by decide +kernel)
      fun definition h => ?_
    unfold isMarkets at h
    split at h
    · rfl
    · cases h
  have haccounts : accountSetup.Defines "accounts" accounts := by
    refine DefinitionText.compiles_of_any (p := isAccounts) (by decide +kernel)
      fun definition h => ?_
    unfold isAccounts at h
    split at h
    · rfl
    · cases h
  exact .cons hmarkets (.cons haccounts .nil)

end Setup

end Seedbed
