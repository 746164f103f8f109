import Seedbed.Proofs.Seeding.Steps
import Seedbed.Proofs.Store.Memory

/-!
# What a seeding leaves in the store

A seeding of a store in memory appends rows to its tables, one table after another
(`MemoryStore.Grown`), and a table that fails leaves no trace (`FailsTable.store_eq`). So a seeding
that fails at a table leaves what a seeding of the tables before it leaves, and one that ends well
has reported the rows it added (`seed_leaves`).
-/

namespace Seedbed

/-! ## Stores that grow -/

namespace MemoryStore

/-- A store has grown by so many rows in each of some tables, which come behind the rows that the
table had, and is otherwise as it was. -/
structure Grown (store : MemoryStore) (entries : List (String × Nat)) (after : MemoryStore) :
    Prop where
  appended : ∀ table count, (table, count) ∈ entries →
    ∃ rows, after.rows table = store.rows table ++ rows ∧ rows.length = count
  others : ∀ table, table ∉ entries.map Prod.fst → after.rows table = store.rows table
  size : after.size = store.size + (entries.map Prod.snd).sum

variable {store mid after : MemoryStore} {entries : List (String × Nat)} {table : String}
  {rows : List Row}

/-- A store has grown by nothing from itself. -/
theorem Grown.refl (store : MemoryStore) : Grown store [] store where
  appended _ _ h := absurd h List.not_mem_nil
  others _ _ := rfl
  size := rfl

/-- A store that has grown goes on with one more table. -/
theorem Grown.concat (h : Grown store entries mid) (hnew : table ∉ entries.map Prod.fst)
    (hself : after.rows table = mid.rows table ++ rows)
    (hother : ∀ other, table ≠ other → after.rows other = mid.rows other)
    (hsize : after.size = mid.size + rows.length) :
    Grown store (entries ++ [(table, rows.length)]) after where
  appended name count hmem := by
    rcases List.mem_append.1 hmem with hmem | hmem
    · have hne : table ≠ name := by
        rintro rfl
        exact hnew (List.mem_map.2 ⟨_, hmem, rfl⟩)
      rw [hother name hne]
      exact h.appended name count hmem
    · cases List.mem_singleton.1 hmem
      exact ⟨rows, by rw [hself, h.others table hnew], rfl⟩
  others name hname := by
    simp only [List.map_append, List.mem_append, List.map_cons, List.map_nil,
      List.mem_singleton, not_or] at hname
    rw [hother name (Ne.symm hname.2), h.others name hname.1]
  size := by
    rw [hsize, h.size]
    simp [Nat.add_assoc]

/-- The rows that were there before come first. -/
theorem Grown.rows_prefix (h : Grown store entries after) (name : String) :
    store.rows name <+: after.rows name := by
  by_cases hmem : name ∈ entries.map Prod.fst
  · obtain ⟨⟨_, count⟩, hentry, rfl⟩ := List.mem_map.1 hmem
    obtain ⟨rows, hrows, -⟩ := h.appended _ count hentry
    rw [hrows]
    exact List.prefix_append _ _
  · exact ⟨[], by rw [List.append_nil, h.others name hmem]⟩

end MemoryStore

/-! ## The first tables of an order -/

/-- The order of the first tables. -/
def TableOrder.take (order : TableOrder) (n : Nat) : TableOrder where
  seed := order.seed.take n
  named table h := order.named table (List.mem_of_mem_take h)
  nodup := order.nodup.sublist (List.take_sublist n order.seed)

namespace Setup

/-- The setup of a run on the first tables only. -/
def upTo (setup : Setup) (n : Nat) : Setup :=
  { setup with order := setup.order.take n }

variable {setup : Setup} {rejecting : Option String} {tenant : String} {definition : Compiled}

/-! ## One table of a store in memory -/

section
variable {state after : SeedState MemoryStore}

/-- A table that is not seeded leaves the store as it was. -/
theorem FailsTable.store_eq {e : RunFailure}
    (h : setup.FailsTable (MemoryStore.backend rejecting) definition state e after) :
    after.store = state.store := by
  cases h with
  | making hfails => rfl
  | storing hmade hrows hinsert => exact MemoryStore.backend_insert_error hinsert

/-- A table that is seeded appends as many rows as are reported, and changes no other table. -/
theorem SeedsTable.grown {store : MemoryStore} {entries : List (String × Nat)}
    {entry : String × Nat}
    (h : setup.SeedsTable (MemoryStore.backend rejecting) definition state entry after)
    (hgrown : store.Grown entries state.store) (hnew : definition.table ∉ entries.map Prod.fst) :
    entry.1 = definition.table ∧ store.Grown (entries ++ [entry]) after.store := by
  cases h with
  | empty hmade =>
    have hsame : state.store.rows definition.table = state.store.rows definition.table ++ [] :=
      (List.append_nil _).symm
    exact ⟨rfl, hgrown.concat hnew hsame (fun _ _ => rfl) rfl⟩
  | @stored making rows stored store' hmade hrows hinsert =>
    obtain ⟨rfl, rfl⟩ := MemoryStore.backend_insert_eq hinsert
    refine ⟨rfl, hgrown.concat hnew MemoryStore.rows_insert_self
      (fun _ hne => MemoryStore.rows_insert_of_ne hne) ?_⟩
    rw [MemoryStore.length_insert]
    exact MemoryStore.size_insert

end

/-! ## All tables -/

/-- A seeding stops behind so many tables: these are seeded one after another, and seeding the next
one fails. -/
def StopsAt {σ : Type} (setup : Setup) (backend : Backend σ) (tenant : String) (store : σ) (n : Nat)
    (failure : RunFailure) : Prop :=
  ∃ table definition before entries state after,
    setup.order.seed[n]? = some table ∧ setup.Defines table definition ∧
    List.Forall₂ setup.Defines (setup.order.seed.take n) before ∧
    (Work.forEach (setup.seedTable backend tenant) before).Gives
      (setup.begin tenant store) entries state ∧
    (setup.seedTable backend tenant definition).Stops state failure after

/-- The definitions of all tables are those before a table, that of the table, and others. -/
theorem definitions_split {definitions before : List Compiled} {n : Nat} {table : String}
    (h : List.Forall₂ setup.Defines setup.order.seed definitions)
    (hbefore : List.Forall₂ setup.Defines (setup.order.seed.take n) before)
    (htable : setup.order.seed[n]? = some table) (hdefines : setup.Defines table definition) :
    ∃ rest, definitions = before ++ definition :: rest := by
  obtain ⟨hn, rfl⟩ := List.getElem?_eq_some_iff.1 htable
  have htake := defines_unique (List.forall₂_take n h) hbefore
  have hdrop := List.forall₂_drop n h
  rw [List.drop_eq_getElem_cons hn] at hdrop
  cases hrest : definitions.drop n with
  | nil =>
    rw [hrest] at hdrop
    cases hdrop
  | cons other rest =>
    rw [hrest] at hdrop
    obtain ⟨hother, -⟩ := List.forall₂_cons.1 hdrop
    cases hother.unique hdefines
    exact ⟨rest, by rw [← List.take_append_drop n definitions, htake, hrest]⟩

section
variable {σ : Type} {backend : Backend σ} {store : σ} {definitions : List Compiled}
  {failure : RunFailure}

/-- A seeding that fails, though its definitions are there, stops at one of its tables. -/
theorem exists_stopsAt (h : List.Forall₂ setup.Defines setup.order.seed definitions)
    (hr : (setup.seed backend tenant store).result = .error failure) :
    ∃ n, setup.StopsAt backend tenant store n failure := by
  obtain ⟨after, hstops, -⟩ := (ends_seed_of_defines h backend tenant store).of_error hr
  obtain ⟨before, definition, rest, entries, state, rfl, hgives, hstop⟩ :=
    Work.stops_forEach_iff.1 hstops
  have hbefore := List.forall₂_take_append _ _ _ h
  have htables := tables_of_defines h
  have htable : setup.order.seed[before.length]? = some definition.table := by
    simp [← htables]
  have hdefines : setup.Defines definition.table definition := by
    obtain ⟨table, -, hdefines⟩ := exists_mem_of_forall₂ h (List.mem_append_right before
      (List.mem_cons_self ..))
    exact hdefines.table_eq ▸ hdefines
  exact ⟨before.length, _, definition, before, entries, state, after, htable, hdefines, hbefore,
    hgives, hstop⟩

end

section
variable {store : MemoryStore} {definitions : List Compiled} {failure : RunFailure} {n : Nat}

/-- **A seeding that stops behind some tables** has the failure of the next one and leaves what a
seeding of these tables leaves, which ends well. -/
theorem StopsAt.leaves (h : List.Forall₂ setup.Defines setup.order.seed definitions)
    (hstop : setup.StopsAt (MemoryStore.backend rejecting) tenant store n failure) :
    (setup.seed (MemoryStore.backend rejecting) tenant store).result = .error failure ∧
      (∃ report, ((setup.upTo n).seed (MemoryStore.backend rejecting) tenant store).result =
        .ok report) ∧
      (setup.seed (MemoryStore.backend rejecting) tenant store).state =
        ((setup.upTo n).seed (MemoryStore.backend rejecting) tenant store).state := by
  obtain ⟨table, definition, before, entries, state, after, htable, hdefines, hbefore, hgives,
    hfails⟩ := hstop
  obtain ⟨rest, rfl⟩ := definitions_split h hbefore htable hdefines
  have hstops : (Work.forEach (setup.seedTable (MemoryStore.backend rejecting) tenant)
      (before ++ definition :: rest)).Stops (setup.begin tenant store) failure after :=
    Work.stops_forEach_iff.2 ⟨before, definition, rest, entries, state, rfl, hgives, hfails⟩
  have hstore : after.store = state.store :=
    ((seedTable_steps tenant definition state).of_stops hfails).store_eq
  have hwhole : (setup.seed (MemoryStore.backend rejecting) tenant).Ends store
      (fun _ _ => False) fun e s => e = failure ∧ s = state.store := by
    refine (ends_seed_of_defines h _ tenant store).mono ?_ ?_
    · rintro report s ⟨-, _, hg, -⟩
      exact hg.not_stops hstops
    · rintro e s ⟨_, hs, rfl⟩
      obtain ⟨rfl, rfl⟩ := hs.unique hstops
      exact ⟨rfl, hstore⟩
  -- The shorter run is the same loop over the definitions before the one that fails.
  have hfirst : ((setup.upTo n).seed (MemoryStore.backend rejecting) tenant).Ends store
      (fun _ s => s = state.store) fun _ _ => False := by
    have hdefinitions : List.Forall₂ (setup.upTo n).Defines (setup.upTo n).order.seed before :=
      hbefore
    refine (ends_seed_of_defines hdefinitions _ tenant store).mono ?_ ?_
    · rintro report s ⟨-, _, hg, rfl⟩
      exact congrArg SeedState.store (hg.unique hgives).2
    · rintro e s ⟨_, hs, -⟩
      exact hgives.not_stops hs
  obtain ⟨e, hresult, rfl, hstate⟩ := hwhole.fails
  obtain ⟨report, hreport, hfirstState⟩ := hfirst.succeeds
  exact ⟨hresult, ⟨report, hreport⟩, hstate.trans hfirstState.symm⟩

/-- A seeding that ends well reports the tables of the order, and the store has grown by the rows
that it reports. -/
theorem grown_of_ok {report : SeedReport}
    (hr : (setup.seed (MemoryStore.backend rejecting) tenant store).result = .ok report) :
    report.tables.map Prod.fst = setup.order.seed ∧ store.Grown report.tables
      (setup.seed (MemoryStore.backend rejecting) tenant store).state := by
  have hends := @ends_seed_of_step _ setup (MemoryStore.backend rejecting) tenant store
    (fun done entries state => entries.map Prod.fst = done ∧ store.Grown entries state.store)
    ⟨rfl, .refl store⟩ ?_
  · obtain ⟨state, ⟨hnames, hgrown⟩, hafter⟩ := hends.of_ok hr
    exact ⟨hnames, hafter ▸ hgrown⟩
  rintro done table rest definition entries state entry after hseed hdefines ⟨rfl, hgrown⟩ hstep
  have hnew := TableOrder.not_mem_before hseed
  rw [← hdefines.table_eq] at hnew ⊢
  obtain ⟨hentry, hafter⟩ := hstep.grown hgrown hnew
  exact ⟨by simp [hentry], hafter⟩

/-- **What a seeding leaves in the store.** When the check of some table finds errors, a seeding
fails and changes nothing. Else a seeding that fails stops at one of its tables, and wherever it
stops it leaves exactly what a seeding of the tables before that one leaves. A seeding that ends
well reports the tables of the order with the rows that it appended to each; what was there before
comes first, and the store has grown by the total. -/
theorem seed_leaves (setup : Setup) (rejecting : Option String) (tenant : String)
    (store : MemoryStore) :
    let backend := MemoryStore.backend rejecting
    let seeded := setup.seed backend tenant store
    ((∃ table ∈ setup.order.seed, (setup.library.check setup.known table).report.errors ≠ []) →
      (∃ failure, seeded.result = .error failure) ∧ seeded.state = store) ∧
    ((∀ table ∈ setup.order.seed, (setup.library.check setup.known table).report.errors = []) →
      (∀ failure, seeded.result = .error failure →
        ∃ n, setup.StopsAt backend tenant store n failure) ∧
      ∀ n failure, setup.StopsAt backend tenant store n failure →
        seeded.result = .error failure ∧
          (∃ report, ((setup.upTo n).seed backend tenant store).result = .ok report) ∧
          seeded.state = ((setup.upTo n).seed backend tenant store).state) ∧
    ∀ report, seeded.result = .ok report →
      report.tables.map Prod.fst = setup.order.seed ∧
        (∀ table count, (table, count) ∈ report.tables → ∃ rows,
          seeded.state.rows table = store.rows table ++ rows ∧ rows.length = count) ∧
        (∀ table, store.rows table <+: seeded.state.rows table) ∧
        seeded.state.size = store.size + report.total := by
  intro backend seeded
  refine ⟨?_, fun hclear => ?_, fun report hr => ?_⟩
  · rintro ⟨table, htable, herrors⟩
    have hnone : ∀ definition, ¬setup.Defines table definition := fun definition hdefines =>
      herrors (exists_defines_iff.1 ⟨definition, hdefines⟩)
    obtain ⟨failure, hr, hstate⟩ := (ends_seed_of_undefined htable hnone backend tenant store).fails
    exact ⟨⟨failure, hr⟩, hstate⟩
  · obtain ⟨definitions, hdefines⟩ := exists_forall₂ (r := setup.Defines) fun table htable =>
      exists_defines_iff.2 (hclear table htable)
    exact ⟨fun failure hr => exists_stopsAt hdefines hr, fun n failure h => h.leaves hdefines⟩
  · obtain ⟨hnames, hgrown⟩ := grown_of_ok hr
    exact ⟨hnames, hgrown.appended, hgrown.rows_prefix, hgrown.size⟩

/-- When inserts into the accounts are rejected, a seeding stops behind the markets and leaves what
a seeding of the markets leaves, which are two rows. -/
theorem seed_leaves_markets :
    let backend := MemoryStore.backend (some "accounts")
    let seeded := accountSetup.seed backend "acme" MemoryStore.empty
    ∃ n failure, accountSetup.StopsAt backend "acme" MemoryStore.empty n failure ∧
      seeded.result = .error failure ∧
      seeded.state = ((accountSetup.upTo n).seed backend "acme" MemoryStore.empty).state ∧
      (seeded.state.rows "markets").length = 2 := by
  intro backend seeded
  have hrun : (!seeded.result.toBool && (seeded.state.rows "markets").length == 2) = true := by
    decide +kernel
  obtain ⟨hfails, hrows⟩ := Bool.and_eq_true_iff.1 hrun
  obtain ⟨-, hclear, -⟩ := seed_leaves accountSetup (some "accounts") "acme" MemoryStore.empty
  obtain ⟨hstops, hleaves⟩ := hclear fun table htable => exists_defines_iff.1 <|
    (exists_mem_of_defines accountSetup_defines htable).imp fun _ h => h.2
  cases hr : seeded.result with
  | ok report =>
    rw [hr] at hfails
    cases hfails
  | error failure =>
    obtain ⟨n, hstop⟩ := hstops failure hr
    obtain ⟨-, -, hstate⟩ := hleaves n failure hstop
    exact ⟨n, failure, hstop, rfl, hstate, by simpa using hrows⟩

end

end Setup

end Seedbed
