import Seedbed.Proofs.Generation.Conformance
import Seedbed.Proofs.Seeding.History
import Seedbed.Proofs.Seeding.References
import Seedbed.Proofs.Seeding.Steps

/-!
# No reference dangles

Seeding keeps a store sound because relations only pick rows from the cache, and the cache of a pass
holds, for the tables that are done, rows of the tenant as they are stored (`Cache.HoldsStored`).
Resetting keeps it sound because the tables behind the next one have no rows of the tenant any more.
So each call keeps every state of a recorded store sound, however it ends (`soundAlways_call`), and
no state that calls lead an empty store through has a reference to a row that is not there
(`history_resolves`).
-/

namespace Seedbed

/-- The rows in a cache are rows of a tenant as they are in a store, of tables that are done. -/
def Cache.HoldsStored (cache : Cache) (store : MemoryStore) (tenant : String)
    (done : List String) : Prop :=
  ∀ table rows, cache.rows? table = some rows → table ∈ done ∧
    ∀ row ∈ rows, row ∈ store.rows table ∧ Fields.get? tenantColumn row = some (.string tenant)

/-- An empty cache holds nothing that is not stored. -/
theorem Cache.holdsStored_empty (store : MemoryStore) (tenant : String) (done : List String) :
    Cache.empty.HoldsStored store tenant done := by
  intro table rows hrows
  rw [Cache.rows?_empty] at hrows
  cases hrows

/-- A table that is done joins the cache with its stored rows; the store may have grown. -/
theorem Cache.HoldsStored.replace {cache cache' : Cache} {store store' : MemoryStore}
    {name tenant : String} {done : List String} {rows : List Row}
    (h : cache.HoldsStored store tenant done) (hself : cache'.rows? name = some rows)
    (hother : ∀ table, name ≠ table → cache'.rows? table = cache.rows? table)
    (hgrow : ∀ table, ∀ row ∈ store.rows table, row ∈ store'.rows table)
    (hrows : ∀ row ∈ rows, row ∈ store'.rows name ∧
      Fields.get? tenantColumn row = some (.string tenant)) :
    cache'.HoldsStored store' tenant (done ++ [name]) := by
  intro table kept hkept
  by_cases hn : name = table
  · subst hn
    rw [hself] at hkept
    cases hkept
    exact ⟨by simp, hrows⟩
  · rw [hother table hn] at hkept
    obtain ⟨hdone, hstored⟩ := h table kept hkept
    refine ⟨List.mem_append_left _ hdone, fun row hrow => ?_⟩
    obtain ⟨hmem, htenant⟩ := hstored row hrow
    exact ⟨hgrow table row hmem, htenant⟩

namespace Setup

/-- The definitions of the tables of the order declare the column with the tenant. -/
def DeclaresTenants (setup : Setup) : Prop :=
  ∀ table ∈ setup.order.seed, ∀ definition, setup.Defines table definition →
    (tenantColumn, .scalar .tenantId) ∈ definition.columns

/-- The state of a recorded store and all its states before are sound. -/
def SoundAlways (setup : Setup) (recorded : Recorded MemoryStore) : Prop :=
  setup.Sound recorded.store ∧ ∀ store ∈ recorded.history, setup.Sound store

/-- What holds of a seeding for a tenant when some tables are done. -/
structure Seeds (setup : Setup) (tenant : String) (done : List String)
    (state : SeedState (Recorded MemoryStore)) : Prop where
  sound : setup.SoundAlways state.store
  tenant_eq : state.making.pass.tenant = tenant
  cached : state.making.pass.cache.HoldsStored state.store.store tenant done

variable {setup : Setup} {rejecting : Option String} {table tenant : String}
  {definition : Compiled} {recorded : Recorded MemoryStore}

/-- Stores that were sound so far stay so when a sound one is recorded. -/
theorem SoundAlways.next (h : setup.SoundAlways recorded) {store : MemoryStore}
    (hs : setup.Sound store) : setup.SoundAlways (recorded.next store) := by
  refine ⟨hs, fun before hbefore => ?_⟩
  rcases List.mem_append.1 hbefore with hbefore | hbefore
  · exact h.2 before hbefore
  · rw [List.mem_singleton.1 hbefore]
    exact hs

/-! ## Rows that are made and stored -/

section
variable {scene : Scene} {row stored : Row}

/-- A row that is made has the tenant of its scene, also as it is stored. -/
theorem tenant_of_made (hdefines : setup.Defines table definition)
    (htenant : (tenantColumn, .scalar .tenantId) ∈ definition.columns)
    (hmade : scene.Made definition row) (hstored : StoredAs row stored) :
    Fields.get? tenantColumn stored = some (.string scene.tenant) := by
  obtain ⟨_, value, hvalue, hmakes⟩ := (hmade.conforms hdefines.nodup).scalar htenant
  rw [Scene.Makes] at hmakes
  rw [hstored tenantColumn (by decide), hvalue, hmakes]

/-- The rows that are made of a table are of the tenant of the pass. -/
theorem ownedBy_of_gives {state making : PassState} {rows : List Row}
    (hdefines : setup.Defines table definition)
    (htenant : (tenantColumn, .scalar .tenantId) ∈ definition.columns)
    (hmade : (makeTable setup.registry definition).Gives state rows making) :
    ∀ row ∈ rows, OwnedBy state.pass.tenant row := by
  obtain ⟨⟨-, hrows⟩, -⟩ := (ends_makeTable setup.registry hdefines.fit state).of_gives hmade
  intro row hrow
  exact tenant_of_made hdefines htenant (hrows row hrow) (.refl row)

/-- A row that is made from a cache of stored rows is sound as it is stored. -/
theorem soundRow_of_made {store : MemoryStore} {done rest : List String}
    (hseed : setup.order.seed = done ++ table :: rest) (hdefines : setup.Defines table definition)
    (htenant : (tenantColumn, .scalar .tenantId) ∈ definition.columns)
    (hcache : scene.cache.HoldsStored store scene.tenant done) (hmade : scene.Made definition row)
    (hstored : StoredAs row stored) : setup.SoundRow store table stored := by
  refine ⟨scene.tenant, tenant_of_made hdefines htenant hmade hstored, ?_⟩
  rintro target column value ⟨definition', key, hdefines', hkey, hcolumn, hvalue, hnull⟩
  cases hdefines'.unique hdefines
  obtain ⟨_, made, hget, hmakes⟩ := (hmade.conforms hdefines.nodup).scalar hcolumn
  rw [hstored key hkey, hget] at hvalue
  cases hvalue
  -- The relation picked a row of the cache, which is a stored row of a table that is done.
  rw [Scene.Makes] at hmakes
  obtain ⟨rows, parent, hrows, hparent, hpicked⟩ := hmakes
  obtain ⟨hdone, hall⟩ := hcache target rows hrows
  obtain ⟨hmem, hof⟩ := hall parent hparent
  refine ⟨TableOrder.precedes_of_mem hseed hdone, parent, hmem, hof, ?_⟩
  cases hcell : Fields.get? column parent with
  | none =>
    rw [hcell] at hpicked
    exact absurd hpicked hnull
  | some cell =>
    rw [hcell] at hpicked
    exact congrArg some hpicked.symm

end

/-! ## Seeding -/

section
variable {done rest : List String} {state after : SeedState (Recorded MemoryStore)}
  {making : PassState} {rows : List Row}

/-- A table without rows that joins the cache is done. -/
theorem Seeds.skip (h : setup.Seeds tenant done state)
    (hpass : making.pass =
      { state.making.pass with cache := state.making.pass.cache.insert table [] }) :
    setup.Seeds tenant (done ++ [table]) { state with making } := by
  obtain ⟨hsound, rfl, hcached⟩ := h
  have hcache : making.pass.cache = state.making.pass.cache.insert table [] := by rw [hpass]
  have hself : making.pass.cache.rows? table = some [] := by
    rw [hcache]
    exact Cache.rows?_insert_self _ _ _
  refine ⟨hsound, by rw [hpass], hcached.replace hself ?_ (fun _ _ => id) ?_⟩
  · intro other ho
    rw [hcache]
    exact Cache.rows?_insert_of_ne ho _ _
  · exact fun _ hrow => absurd hrow List.not_mem_nil

/-- A table whose rows are stored, and take the place of the rows as they were made, is done. -/
theorem Seeds.store (h : setup.Seeds tenant done state)
    (hseed : setup.order.seed = done ++ table :: rest) (hdefines : setup.Defines table definition)
    (htenant : (tenantColumn, .scalar .tenantId) ∈ definition.columns)
    (hmade : ∀ row ∈ rows, (state.making.pass.scene setup.registry table).Made definition row)
    (hpass : making.pass =
      { state.making.pass with cache := state.making.pass.cache.insert table rows }) :
    setup.Seeds tenant (done ++ [table])
      { store := state.store.next (state.store.store.insert table rows).2
        making := { making with pass.cache :=
          making.pass.cache.insert table (state.store.store.insert table rows).1 } } := by
  obtain ⟨hsound, rfl, hcached⟩ := h
  have hcache : making.pass.cache = state.making.pass.cache.insert table rows := by rw [hpass]
  have hrows {stored : Row} (hs : stored ∈ (state.store.store.insert table rows).1) :
      ∃ row, (state.making.pass.scene setup.registry table).Made definition row ∧
        StoredAs row stored := by
    obtain ⟨row, hrow, hs⟩ := MemoryStore.exists_of_mem_insert hs
    exact ⟨row, hmade row hrow, hs⟩
  refine ⟨hsound.next (hsound.1.insert fun stored hs => ?_), by rw [hpass],
    hcached.replace (Cache.rows?_insert_self _ _ _) (fun other ho => ?_)
      (fun _ _ => MemoryStore.mem_rows_insert) fun stored hs => ⟨?_, ?_⟩⟩
  · obtain ⟨row, hrow, hs⟩ := hrows hs
    exact soundRow_of_made hseed hdefines htenant hcached hrow hs
  · rw [Cache.rows?_insert_of_ne ho, hcache, Cache.rows?_insert_of_ne ho]
  · show stored ∈ (state.store.store.insert table rows).2.rows table
    rw [MemoryStore.rows_insert_self]
    exact List.mem_append_right _ hs
  · obtain ⟨row, hrow, hs⟩ := hrows hs
    exact tenant_of_made hdefines htenant hrow hs

/-- **The next table** that is seeded keeps what holds of a seeding. -/
theorem Seeds.step {entry : String × Nat} (h : setup.Seeds tenant done state)
    (hseed : setup.order.seed = done ++ table :: rest) (hdefines : setup.Defines table definition)
    (htenant : (tenantColumn, .scalar .tenantId) ∈ definition.columns)
    (hstep : setup.SeedsTable (MemoryStore.backend rejecting).recorded definition state entry
      after) : setup.Seeds tenant (done ++ [table]) after := by
  obtain rfl := hdefines.table_eq
  have hends := ends_makeTable setup.registry hdefines.fit state.making
  cases hstep with
  | empty hmade =>
    obtain ⟨-, hpass⟩ := hends.of_gives hmade
    exact h.skip hpass
  | stored hmade hrows hinsert =>
    obtain ⟨⟨-, hrows⟩, hpass⟩ := hends.of_gives hmade
    obtain ⟨store, hstore, rfl⟩ := Backend.recorded_insert_iff.1 hinsert
    obtain ⟨rfl, rfl⟩ := MemoryStore.backend_insert_eq hstore
    exact h.store hseed hdefines htenant hrows hpass

/-- **A table that is not seeded** leaves the store sound. -/
theorem Seeds.fails {e : RunFailure} (h : setup.Seeds tenant done state)
    (hfails : setup.FailsTable (MemoryStore.backend rejecting).recorded definition state e after) :
    setup.SoundAlways after.store := by
  cases hfails with
  | making hfails => exact h.sound
  | storing hmade hrows hinsert =>
    obtain ⟨store, hstore, rfl⟩ := Backend.recorded_insert_iff.1 hinsert
    obtain rfl := MemoryStore.backend_insert_error hstore
    exact h.sound.next h.sound.1

end

/-- **A seeding keeps every state of the store sound**, also when it fails. -/
theorem ends_seed (hdeclares : setup.DeclaresTenants) (tenant : String)
    (h : setup.SoundAlways recorded) :
    (setup.seed (MemoryStore.backend rejecting).recorded tenant).Ends recorded
      (fun _ s => setup.SoundAlways s) fun _ s => setup.SoundAlways s := by
  refine (ends_seed_of_step _ tenant recorded (fun done _ state => setup.Seeds tenant done state)
    ⟨h, rfl, Cache.holdsStored_empty _ _ _⟩ ?_).mono ?_ ?_
  · intro done table rest definition _ state _ after hseed hdefines hstate hstep
    have htable : table ∈ setup.order.seed := by simp [hseed]
    exact hstate.step hseed hdefines (hdeclares table htable definition hdefines) hstep
  · rintro _ _ ⟨state, hstate, rfl⟩
    exact hstate.sound
  · rintro _ _ (⟨-, rfl⟩ | ⟨_, _, _, _, _, state, failed, -, -, hstate, hfails, rfl⟩)
    · exact h
    · exact hstate.fails hfails

/-! ## Resetting -/

/-- **A reset keeps every state of the store sound.** -/
theorem ends_reset (tenant : String) (h : setup.SoundAlways recorded) :
    (setup.reset (MemoryStore.backend rejecting).recorded tenant).Ends recorded
      (fun _ s => setup.SoundAlways s) fun _ s => setup.SoundAlways s := by
  simp only [reset, Work.ends_bind, Work.ends_pure]
  refine (Work.ends_forEach (fun done _ s => setup.SoundAlways s ∧
    ∀ table ∈ done, ∀ row ∈ s.store.rows table, ¬OwnedBy tenant row)
    (fun done table rest he _ s hs => ?_) ⟨h, fun _ hd => absurd hd List.not_mem_nil⟩).mono
    (fun _ _ hs => hs.1) (fun _ _ => id)
  obtain ⟨hsound, hreset⟩ := hs
  simp only [resetTable, Work.ends_bind, Work.ends_mapError, Work.ends_note, Work.ends_pure,
    Work.ends_ofFallible, Backend.recorded, MemoryStore.backend]
  refine ⟨hsound.next (hsound.1.delete fun other hprecedes => ?_), fun other ho row hrow => ?_⟩
  · exact hreset other (hprecedes.mem_reset he)
  · obtain ⟨hold, hself⟩ := MemoryStore.mem_rows_delete_iff.1 hrow
    rcases List.mem_append.1 ho with ho | ho
    · exact hreset other ho row hold
    · exact hself (List.mem_singleton.1 ho).symm

/-! ## Calls -/

/-- **Each call keeps every state of the store sound.** -/
theorem soundAlways_call (hdeclares : setup.DeclaresTenants) (h : setup.SoundAlways recorded)
    (call : TenantCall) :
    setup.SoundAlways (setup.call (MemoryStore.backend rejecting).recorded recorded call) := by
  cases call with
  | seed today tenant =>
    -- The day is all that the call changes in the setup, and no definition depends on it.
    exact (@ends_seed { setup with today } rejecting recorded hdeclares tenant h).state_of
  | reset tenant => exact (ends_reset tenant h).state_of

/-- Calls one after another keep every state of the store sound. -/
theorem soundAlways_calls (hdeclares : setup.DeclaresTenants) (h : setup.SoundAlways recorded)
    (calls : List TenantCall) :
    setup.SoundAlways (setup.calls (MemoryStore.backend rejecting).recorded recorded calls) := by
  induction calls generalizing recorded with
  | nil => exact h
  | cons call rest ih => exact ih (soundAlways_call hdeclares h call)

/-- The empty store is sound from the start. -/
theorem soundAlways_empty : setup.SoundAlways ⟨MemoryStore.empty, []⟩ :=
  ⟨sound_empty, fun _ h => absurd h List.not_mem_nil⟩

/-- **No reference ever dangles.** In every state that calls lead an empty store through,
whichever of them fail, a column of a row that is a relation, is not the id and is not null holds
the value of the column of a row of the same tenant that is in the other table at that time. -/
theorem history_resolves (hdeclares : setup.DeclaresTenants) {calls : List TenantCall}
    {store : MemoryStore} (hstore : store ∈ setup.history rejecting calls)
    (hdefines : setup.Defines table definition) {row : Row} (hrow : row ∈ store.rows table)
    {key target column : String} (hkey : key ≠ idColumn)
    (hcolumn : (key, .scalar (.relation target column)) ∈ definition.columns) {value : Json}
    (hvalue : Fields.get? key row = some value) (hnull : value ≠ .null) :
    ∃ parent ∈ store.rows target,
      (∃ tenant, Fields.get? tenantColumn row = some (.string tenant) ∧
        Fields.get? tenantColumn parent = some (.string tenant)) ∧
      Fields.get? column parent = some value := by
  have hsound : setup.Sound store :=
    (soundAlways_calls hdeclares soundAlways_empty calls).2 store hstore
  obtain ⟨tenant, htenant, hrefers⟩ := hsound table row hrow
  obtain ⟨-, parent, hparent, hof, hsame⟩ := hrefers target column value
    ⟨definition, key, hdefines, hkey, hcolumn, hvalue, hnull⟩
  exact ⟨parent, hparent, ⟨tenant, htenant, hof⟩, hsame⟩

/-- The tables of the accounts declare their tenants. -/
theorem accountSetup_declaresTenants : accountSetup.DeclaresTenants := by
  intro table htable definition hdefines
  have hmem := mem_of_defines accountSetup_defines htable hdefines
  rcases List.mem_pair.1 hmem with rfl | rfl
  · exact List.mem_cons_self ..
  · exact List.mem_cons_self ..

/-- Behind a reset of another tenant, the account of a tenant refers to one of its markets. -/
theorem history_resolves_accounts :
    ∃ store ∈ accountSetup.history none [.reset "globex", .seed accountSetup.today "acme"],
      ∃ row ∈ store.rows "accounts", ∃ value, Fields.get? "market" row = some value ∧
        value ≠ .null ∧ ∃ parent ∈ store.rows "markets",
          (∃ tenant, Fields.get? tenantColumn row = some (.string tenant) ∧
            Fields.get? tenantColumn parent = some (.string tenant)) ∧
          Fields.get? "id" parent = some value := by
  have hhistory : accountSetup.history none [.reset "globex", .seed accountSetup.today "acme"] =
      (Work.forEach (accountSetup.seedTable (MemoryStore.backend none).recorded "acme")
        [markets, accounts]
        { store := accountSetup.call (MemoryStore.backend none).recorded ⟨MemoryStore.empty, []⟩
            (.reset "globex"), making := accountSetup.start "acme" }).state.store.history :=
    congrArg Recorded.history (seed_of_defines accountSetup_defines _ _ _)
  have hrun : (accountSetup.history none [.reset "globex", .seed accountSetup.today "acme"]).any
      (fun store => (store.rows "accounts").any fun row =>
        ((Fields.get? "market" row).bind Json.natural?).isSome) = true := by
    rw [hhistory]
    decide +kernel
  obtain ⟨store, hstore, hrow⟩ := List.any_eq_true.1 hrun
  obtain ⟨row, hrow, hvalue⟩ := List.any_eq_true.1 hrow
  obtain ⟨n, hvalue⟩ := Option.isSome_iff_exists.1 hvalue
  obtain ⟨value, hvalue, hn⟩ := Option.bind_eq_some_iff.1 hvalue
  have hnull : value ≠ .null := by
    rintro rfl
    cases hn
  obtain ⟨-, haccounts⟩ := List.forall₂_cons.1 accountSetup_defines
  obtain ⟨haccounts, -⟩ := List.forall₂_cons.1 haccounts
  refine ⟨store, hstore, row, hrow, value, hvalue, hnull, ?_⟩
  exact history_resolves accountSetup_declaresTenants hstore haccounts hrow (by decide)
    (List.mem_cons_of_mem _ (List.mem_cons_self ..)) hvalue hnull

end Setup

end Seedbed
