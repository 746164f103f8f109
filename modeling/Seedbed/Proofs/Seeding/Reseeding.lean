import Seedbed.Proofs.Generation.InStep
import Seedbed.Proofs.Seeding.Integrity
import Seedbed.Proofs.Seeding.Resetting
import Seedbed.Proofs.Seeding.Truncation
import Seedbed.Proofs.Store.Commuting

/-!
# Reseeding twice

Two seedings of a tenant make as many rows of each table, with the same columns: the rows that
they store have the same columns too (`SameColumns.stored`), so the passes stay in step from table
to table (`gives_seeds_inStep`). What a seeding adds to a store are rows of its tenant
(`adds_own_rows`), and a reset takes these and leaves the others. So a reseeding that follows
another one deletes from each table what the other one seeded and seeds as much again
(`reseed_stable`).
-/

namespace Seedbed

/-! ## Rows that are stored -/

/-- Rows with the same columns are stored with the same columns. -/
theorem SameColumns.stored {row other stored stored' : Row} (h : SameColumns row other)
    (hstored : IdFilled row stored) (hstored' : IdFilled other stored') :
    SameColumns stored stored' := by
  rw [SameColumns, hstored.names_eq, hstored'.names_eq, h]

/-- `SameColumns.stored` for rows one by one. -/
theorem sameColumns_stored {rows others stored stored' : List Row}
    (h : List.Forall₂ SameColumns rows others) (hstored : List.Forall₂ IdFilled rows stored)
    (hstored' : List.Forall₂ IdFilled others stored') :
    List.Forall₂ SameColumns stored stored' := by
  induction h generalizing stored stored' with
  | nil =>
    cases hstored
    cases hstored'
    exact .nil
  | cons hsame _ ih =>
    cases hstored with
    | cons hfilled hrest =>
      cases hstored' with
      | cons hfilled' hrest' => exact .cons (hsame.stored hfilled hfilled') (ih hrest hrest')

/-! ## Seedings in step -/

/-- Two seedings are in step: their passes are, and to each table they have added as many rows, with
the same columns. -/
structure SeedState.InStep (registry : Registry) (store store' : MemoryStore)
    (left right : SeedState MemoryStore) : Prop where
  making : left.making.InStep registry right.making
  added : ∀ table, ∃ made made', left.store.rows table = store.rows table ++ made ∧
    right.store.rows table = store'.rows table ++ made' ∧ List.Forall₂ SameColumns made made'

namespace Setup

/-- The setup of a run on another day. -/
def onDay (setup : Setup) (day : Date) : Setup :=
  { setup with today := day }

variable {setup : Setup} {rejecting : Option String} {tenant table : String} {later : Date}
  {definition : Compiled} {store store' : MemoryStore}

section
variable {left right after after' : SeedState MemoryStore} {entry entry' : String × Nat}

/-- **A table that is seeded in two seedings in step** leaves them in step. -/
theorem SeedsTable.inStep (h : left.InStep setup.registry store store' right)
    (hleft : setup.SeedsTable (MemoryStore.backend rejecting) definition left entry after)
    (hright : (setup.onDay later).SeedsTable (MemoryStore.backend rejecting)
      definition right entry' after') : after.InStep setup.registry store store' after' := by
  obtain ⟨hmaking, hadded⟩ := h
  have hmakes := makeTable_inStep setup.registry definition hmaking
  cases hleft with
  | empty hmade =>
    cases hright with
    | empty hmade' => exact ⟨(hmakes hmade hmade').2, hadded⟩
    | stored hmade' hrows' hinsert' =>
      obtain ⟨hsame, -⟩ := hmakes hmade hmade'
      cases hsame
      exact absurd rfl hrows'
  | stored hmade hrows hinsert =>
    cases hright with
    | empty hmade' =>
      obtain ⟨hsame, -⟩ := hmakes hmade hmade'
      cases hsame
      exact absurd rfl hrows
    | stored hmade' hrows' hinsert' =>
      obtain ⟨hsame, hsource, hdraws, hcache⟩ := hmakes hmade hmade'
      obtain ⟨rfl, rfl⟩ := MemoryStore.backend_insert_eq hinsert
      obtain ⟨rfl, rfl⟩ := MemoryStore.backend_insert_eq hinsert'
      have hstored : List.Forall₂ SameColumns (left.store.insert definition.table _).1
          (right.store.insert definition.table _).1 :=
        sameColumns_stored hsame MemoryStore.insert_filled MemoryStore.insert_filled
      refine ⟨⟨hsource, hdraws, hcache.insert hstored⟩, fun name => ?_⟩
      obtain ⟨made, made', hmadeRows, hmadeRows', hsameMade⟩ := hadded name
      by_cases hname : definition.table = name
      · subst hname
        refine ⟨made ++ _, made' ++ _, ?_, ?_, List.rel_append hsameMade hstored⟩
        · rw [MemoryStore.rows_insert_self, hmadeRows, List.append_assoc]
        · rw [MemoryStore.rows_insert_self, hmadeRows', List.append_assoc]
      · refine ⟨made, made', ?_, ?_, hsameMade⟩
        · rw [MemoryStore.rows_insert_of_ne hname, hmadeRows]
        · rw [MemoryStore.rows_insert_of_ne hname, hmadeRows']

end

/-- `SeedsTable.inStep` for the work of seeding a table. -/
theorem seedTable_inStep (store store' : MemoryStore) (definition : Compiled) :
    Work.InStep (SeedState.InStep setup.registry store store') (fun _ _ => True)
      (setup.seedTable (MemoryStore.backend rejecting) tenant definition)
      ((setup.onDay later).seedTable (MemoryStore.backend rejecting) tenant definition) := by
  intro left right hstates entry entry' after after' hgives hgives'
  have hsteps := (seedTable_steps tenant definition left).of_gives hgives
  have hsteps' := (seedTable_steps tenant definition right).of_gives hgives'
  exact ⟨trivial, hsteps.inStep hstates hsteps'⟩

/-- Two seedings of a tenant start in step. -/
theorem begin_inStep (hdraws : setup.registry.DrawsAlike setup.today later) :
    (setup.begin tenant store).InStep setup.registry store store'
      ((setup.onDay later).begin tenant store') where
  making := ⟨rfl, hdraws, .refl .refl _⟩
  added _ := ⟨[], [], (List.append_nil _).symm, (List.append_nil _).symm, .nil⟩

/-- **Two seedings of a tenant** that end well have added to each table as many rows, with the same
columns. -/
theorem gives_seeds_inStep {report report' : SeedReport} {after after' : MemoryStore}
    (hdraws : setup.registry.DrawsAlike setup.today later)
    (hleft : (setup.seed (MemoryStore.backend rejecting) tenant).Gives store report after)
    (hright : ((setup.onDay later).seed (MemoryStore.backend rejecting)
      tenant).Gives store' report' after') :
    ∀ table, ∃ made made', after.rows table = store.rows table ++ made ∧
      after'.rows table = store'.rows table ++ made' ∧ List.Forall₂ SameColumns made made' := by
  obtain ⟨definitions, hdefines⟩ := exists_definitions_of_ok hleft.1
  have hdefines' : List.Forall₂ (setup.onDay later).Defines
      setup.order.seed definitions := hdefines
  obtain ⟨-, left, htables, rfl⟩ := (ends_seed_of_defines hdefines _ tenant store).of_gives hleft
  obtain ⟨-, right, htables', rfl⟩ :=
    (ends_seed_of_defines hdefines' _ tenant store').of_gives hright
  have hloop := Work.InStep.forEach fun definition (_ : definition ∈ definitions) =>
    @seedTable_inStep setup rejecting tenant later store store' definition
  exact (hloop (begin_inStep hdraws) htables htables').2.added

/-! ## What a seeding adds -/

/-- A seeding for a tenant has added rows of it only. -/
structure AddsOwn (store : MemoryStore) (tenant : String) (state : SeedState MemoryStore) :
    Prop where
  tenant_eq : state.making.pass.tenant = tenant
  added : ∀ table, ∃ made, state.store.rows table = store.rows table ++ made ∧
    ∀ row ∈ made, OwnedBy tenant row

/-- A table that is seeded adds rows of the tenant. -/
theorem AddsOwn.step {state after : SeedState MemoryStore} {entry : String × Nat}
    (h : AddsOwn store tenant state) (hdefines : setup.Defines table definition)
    (hdeclared : (tenantColumn, .scalar .tenantId) ∈ definition.columns)
    (hstep : setup.SeedsTable (MemoryStore.backend rejecting) definition state entry after) :
    AddsOwn store tenant after := by
  refine ⟨(hstep.tenant_eq hdefines).trans h.tenant_eq, fun name => ?_⟩
  obtain ⟨made, hrows, hown⟩ := h.added name
  cases hstep with
  | empty hmade => exact ⟨made, hrows, hown⟩
  | @stored making rows _ _ hmade _ hinsert =>
    obtain ⟨rfl, rfl⟩ := MemoryStore.backend_insert_eq hinsert
    have hstored : ∀ row ∈ (state.store.insert definition.table rows).1,
        OwnedBy tenant row := by
      intro row hrow
      obtain ⟨source, hsource, hstoredAs⟩ := MemoryStore.exists_of_mem_insert hrow
      exact hstoredAs.ownedBy_iff.2
        (h.tenant_eq ▸ ownedBy_of_gives hdefines hdeclared hmade source hsource)
    by_cases hname : definition.table = name
    · subst hname
      refine ⟨made ++ _, ?_, List.forall_mem_append.2 ⟨hown, hstored⟩⟩
      rw [MemoryStore.rows_insert_self, hrows, List.append_assoc]
    · exact ⟨made, by rw [MemoryStore.rows_insert_of_ne hname, hrows], hown⟩

/-- **A seeding adds rows of its tenant** to the tables. -/
theorem adds_own_rows (hdeclares : setup.DeclaresTenants) {report : SeedReport}
    {after : MemoryStore}
    (h : (setup.seed (MemoryStore.backend rejecting) tenant).Gives store report after) :
    ∀ table, ∃ made, after.rows table = store.rows table ++ made ∧
      ∀ row ∈ made, OwnedBy tenant row := by
  have hbegin : AddsOwn store tenant (setup.begin tenant store) :=
    ⟨rfl, fun table => ⟨[], (List.append_nil _).symm, fun _ hrow => absurd hrow List.not_mem_nil⟩⟩
  have hends := ends_seed_of_step (MemoryStore.backend rejecting) tenant store
    (fun _ _ state => AddsOwn store tenant state) hbegin
    fun done table rest definition _ _ _ _ hseed hdefines hstate hstep =>
      hstate.step hdefines (hdeclares table (by simp [hseed]) definition hdefines) hstep
  obtain ⟨state, hstate, rfl⟩ := hends.of_gives h
  exact hstate.added

/-- A seeding reports for each table of the order the number of rows that it added. -/
theorem report_eq_of_gives {report : SeedReport} {after : MemoryStore} {made : String → List Row}
    (h : (setup.seed (MemoryStore.backend rejecting) tenant).Gives store report after)
    (hmade : ∀ table ∈ setup.order.seed, after.rows table = store.rows table ++ made table) :
    report.tables = setup.order.seed.map fun table => (table, (made table).length) := by
  obtain ⟨hnames, hgrown⟩ := grown_of_ok h.1
  rw [h.2] at hgrown
  rw [← hnames]
  refine Fields.eq_map_names fun ⟨table, n⟩ hentry => ?_
  have htable : table ∈ setup.order.seed := hnames ▸ List.mem_map.2 ⟨_, hentry, rfl⟩
  obtain ⟨rows, hrows, rfl⟩ := hgrown.appended table n hentry
  rw [List.append_cancel_left (hrows.symm.trans (hmade table htable))]

/-! ## Reseedings -/

/-- A reseeding is a reset and then a seeding. -/
theorem gives_reseed_iff {σ : Type} {backend : Backend σ} {before after : σ}
    {reports : ResetReport × SeedReport} :
    (setup.reseed backend tenant).Gives before reports after ↔
      ∃ mid, (setup.reset backend tenant).Gives before reports.1 mid ∧
        (setup.seed backend tenant).Gives mid reports.2 after := by
  simp only [reseed, Work.gives_bind_iff, Work.gives_pure_iff]
  constructor
  · rintro ⟨reset, mid, hreset, seed, _, hseed, rfl, rfl⟩
    exact ⟨mid, hreset, hseed⟩
  · rintro ⟨mid, hreset, hseed⟩
    exact ⟨reports.1, mid, hreset, reports.2, after, hseed, rfl, rfl⟩

/-- A reset leaves the rows of the other tenants in a table of the order, and the seeding behind it
adds what are then the rows of the tenant. -/
theorem rows_of_reset_seed (hdeclares : setup.DeclaresTenants) {reset : ResetReport}
    {seed : SeedReport} {mid after : MemoryStore}
    (hreset : (setup.reset (MemoryStore.backend rejecting) tenant).Gives store reset mid)
    (hseed : (setup.seed (MemoryStore.backend rejecting) tenant).Gives mid seed after)
    (htable : table ∈ setup.order.seed) :
    mid.rows table = otherRows store tenant table ∧
      after.rows table = mid.rows table ++ tenantRows after tenant table ∧
      otherRows after tenant table = otherRows store tenant table := by
  obtain ⟨-, hmid⟩ := (ends_reset_rows setup rejecting tenant store).of_gives hreset
  have hothers : mid.rows table = otherRows store tenant table := by rw [hmid, if_pos htable]
  obtain ⟨made, hrows, hown⟩ := adds_own_rows hdeclares hseed table
  obtain ⟨rfl, hothers'⟩ := split_rows (hothers ▸ hrows) hown
  exact ⟨hothers, hrows, hothers'⟩

/-- **Reseeding is stable.** Of two reseedings of a tenant one after the other that both end well,
the second deletes from each table, the last one first, as many rows as the first one seeded, and
it seeds as many again. In both cases a table has the rows of the other tenants that it had at first
and behind them the rows of the tenant, of which the ones seeded second have the same columns as the
ones seeded first. On another day this asks of the generators that they draw alike on both days, as
the built-in ones do. -/
theorem reseed_stable (hdeclares : setup.DeclaresTenants) {rejecting : Option String}
    (hday : later = setup.today ∨ setup.registry.DrawsAlike setup.today later)
    {first second : ResetReport × SeedReport} {reseeded again : MemoryStore}
    (hfirst : (setup.reseed (MemoryStore.backend rejecting) tenant).Gives store first reseeded)
    (hsecond : ((setup.onDay later).reseed (MemoryStore.backend rejecting) tenant).Gives reseeded
      second again) :
    second.1.tables = first.2.tables.reverse ∧ second.2.tables = first.2.tables ∧
      ∀ table ∈ setup.order.seed,
        let made := tenantRows reseeded tenant table
        let remade := tenantRows again tenant table
        (table, made.length) ∈ first.2.tables ∧ List.Forall₂ SameColumns made remade ∧
          reseeded.rows table = otherRows store tenant table ++ made ∧
          again.rows table = otherRows store tenant table ++ remade := by
  have hdraws : setup.registry.DrawsAlike setup.today later := by
    rcases hday with rfl | hdraws
    · exact .refl _ _
    · exact hdraws
  obtain ⟨mid, hreset, hseed⟩ := gives_reseed_iff.1 hfirst
  obtain ⟨mid', hreset', hseed'⟩ := gives_reseed_iff.1 hsecond
  have hdeclares' : (setup.onDay later).DeclaresTenants := hdeclares
  have hrows := fun table (htable : table ∈ setup.order.seed) =>
    rows_of_reset_seed hdeclares hreset hseed htable
  have hrows' := fun table (htable : table ∈ setup.order.seed) =>
    rows_of_reset_seed hdeclares' hreset' hseed' htable
  have hsame : ∀ table ∈ setup.order.seed, List.Forall₂ SameColumns
      (tenantRows reseeded tenant table) (tenantRows again tenant table) := by
    intro table htable
    obtain ⟨made, made', hmade, hmade', hsame⟩ := gives_seeds_inStep hdraws hseed hseed' table
    obtain ⟨-, hadded, -⟩ := hrows table htable
    obtain ⟨-, hadded', -⟩ := hrows' table htable
    rwa [List.append_cancel_left (hadded.symm.trans hmade),
      List.append_cancel_left (hadded'.symm.trans hmade')]
  have hreport : first.2.tables = setup.order.seed.map fun table =>
      (table, (tenantRows reseeded tenant table).length) :=
    report_eq_of_gives hseed fun table htable => (hrows table htable).2.1
  have hreport' : second.2.tables = (setup.onDay later).order.seed.map fun table =>
      (table, (tenantRows again tenant table).length) :=
    report_eq_of_gives hseed' fun table htable => (hrows' table htable).2.1
  refine ⟨?_, ?_, fun table htable => ⟨?_, hsame table htable, ?_, ?_⟩⟩
  · obtain ⟨hdeleted, -⟩ :=
      (ends_reset_rows (setup.onDay later) rejecting tenant reseeded).of_gives hreset'
    rw [hdeleted, hreport, ← List.map_reverse]
    rfl
  · rw [hreport, hreport']
    refine List.map_congr_left fun table htable => ?_
    rw [(hsame table htable).length_eq]
  · rw [hreport]
    exact List.mem_map_of_mem htable
  · obtain ⟨hothers, hadded, -⟩ := hrows table htable
    exact hothers ▸ hadded
  · obtain ⟨-, -, hkept⟩ := hrows table htable
    obtain ⟨hothers', hadded', -⟩ := hrows' table htable
    rw [hadded', hothers', hkept]

/-- `accountSetup` with the built-in generators, and with accounts that were opened before the
day. -/
def datedSetup : Setup :=
  { accountSetup with
    registry := Registry.builtIn
    library := {
      directory := "defs"
      read := fun file =>
        if file = "defs/markets.json" then accountSetup.library.read file
        else
          .ok ("\x7b\"table\":\"accounts\",\"count\":\x7b\"min\":1,\"max\":4\x7d," ++
            "\"columns\":\x7b\"tenant_id\":\"context.tenant_id\"," ++
            "\"market\":\"relation.markets.id\",\"opened\":\"date.past\"\x7d\x7d") } }

/-- The day after that of `datedSetup`. -/
def nextDay : Date := ⟨739070, by decide, by decide⟩

/-- A store with a market of each of two tenants. -/
def twoMarkets : MemoryStore :=
  (MemoryStore.empty.insert "markets"
    [[(tenantColumn, .string "globex")], [(tenantColumn, .string "acme")]]).2

/-- Whether a definition declares the column with the tenant. -/
def declaresTenant (definition : Compiled) : Bool :=
  definition.columns.any fun
    | (name, .scalar .tenantId) => name == tenantColumn
    | _ => false

/-- A definition that declares the tenant has the column for it. -/
theorem mem_of_declaresTenant (h : declaresTenant definition = true) :
    (tenantColumn, .scalar .tenantId) ∈ definition.columns := by
  obtain ⟨column, hmem, hcolumn⟩ := List.any_eq_true.1 h
  split at hcolumn
  · next name => exact beq_iff_eq.1 hcolumn ▸ hmem
  · cases hcolumn

/-- A tenant is reseeded on two days, with accounts that have a date near the day and the id of a
market. -/
theorem reseed_stable_dated :
    let backend := MemoryStore.backend none
    datedSetup.DeclaresTenants ∧ nextDay ≠ datedSetup.today ∧
      ∃ first second reseeded again,
        (datedSetup.reseed backend "acme").Gives twoMarkets first reseeded ∧
        ((datedSetup.onDay nextDay).reseed backend "acme").Gives reseeded second again ∧
        second.1.tables = first.2.tables.reverse ∧ second.2.tables = first.2.tables ∧
        ∀ table ∈ datedSetup.order.seed,
          let made := tenantRows reseeded "acme" table
          let remade := tenantRows again "acme" table
          (table, made.length) ∈ first.2.tables ∧ List.Forall₂ SameColumns made remade ∧
            reseeded.rows table = otherRows twoMarkets "acme" table ++ made ∧
            again.rows table = otherRows twoMarkets "acme" table ++ remade := by
  intro backend
  let reseeded := (datedSetup.reseed backend "acme" twoMarkets).state
  have hrun : ((datedSetup.order.seed.all fun table =>
        ((datedSetup.library.source table).compile datedSetup.known).toOption.all declaresTenant) &&
      (datedSetup.reseed backend "acme" twoMarkets).result.isOk &&
      ((datedSetup.onDay nextDay).reseed backend "acme" reseeded).result.isOk) = true := by
    decide +kernel
  rw [Bool.and_eq_true, Bool.and_eq_true] at hrun
  obtain ⟨⟨hchecked, hok⟩, hok'⟩ := hrun
  have hdeclares : datedSetup.DeclaresTenants := by
    intro table htable definition hdefines
    exact mem_of_declaresTenant (hdefines.of_all hchecked htable)
  obtain ⟨first, hfirst⟩ := Work.exists_gives_of_isOk hok
  obtain ⟨second, hsecond⟩ := Work.exists_gives_of_isOk hok'
  exact ⟨hdeclares, by decide, first, second, _, _, hfirst, hsecond,
    reseed_stable hdeclares (.inr (Registry.builtIn_drawsAlike _ _)) hfirst hsecond⟩

end Setup

end Seedbed
