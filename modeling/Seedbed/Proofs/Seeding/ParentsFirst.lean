import Seedbed.Proofs.Seeding.Preview
import Seedbed.Proofs.Seeding.References

/-!
# Parents first

A relation finds no row when the cache has none of its target, and of nothing else
(`missing_of_fails`). When each relation leads to a table before its own that has at least one row
(`Setup.ParentsFirst`), the cache offers a row of each such table once it is done, before and after
its rows are replaced by the stored ones. So neither a seeding nor a preview ever asks for a row
that is not there (`ne_missingRelation`).
-/

namespace Seedbed

/-! ## The targets of relations -/

mutual

/-- The tables that a rule relates to, in its placeholders too. -/
def Rule.targets : Rule → List String
  | .template segments => Rule.segmentTargets segments
  | .relation table _ => [table]
  | _ => []

/-- The tables that the rules in the placeholders of a template relate to. -/
def Rule.segmentTargets : List Segment → List String
  | [] => []
  | .literal _ :: rest => Rule.segmentTargets rest
  | .placeholder _ rule :: rest => Rule.targets rule ++ Rule.segmentTargets rest
  | .columnOnly _ _ :: rest => Rule.segmentTargets rest

end

/-- The tables that the rules of a definition relate to, at any depth. -/
def Definition.targets (definition : Compiled) : List String :=
  definition.scalars.flatMap fun scalar => scalar.2.targets

namespace Scene

variable {scene : Scene} {path : String} {row : Row} {table place target : String}

mutual

/-- **A missing relation** is one of the rule, and the cache has no row of its target. -/
theorem missing_of_fails : ∀ {rule : Rule},
    scene.Fails path row rule (.missingRelation table place target) →
      target ∈ rule.targets ∧ ¬scene.cache.Offers target
  | .template segments, h => by
    have hfails : scene.FillFails path row segments (.missingRelation table place target) := h
    exact missing_of_fillFails hfails
  | .relation parent column, h => by
    obtain ⟨hfailure, hnone⟩ := h
    cases hfailure
    exact ⟨List.mem_singleton_self _, hnone⟩
  | .dateAfter column minDays maxDays, h => by
    obtain ⟨value, hfailure⟩ := h
    cases hfailure
  | .lookup text, h => by
    obtain ⟨e, hfailure, -⟩ := h
    cases hfailure
  | .tenantId, h => h.elim
  | .choice candidates, h => h.elim
  | .int min max, h => h.elim
  | .float min max places, h => h.elim
  | .amount min max places, h => h.elim
  | .dateBetween first last, h => h.elim
  | .numeric length, h => h.elim

/-- `missing_of_fails` for the segments of a template. -/
theorem missing_of_fillFails : ∀ {segments : List Segment},
    scene.FillFails path row segments (.missingRelation table place target) →
      target ∈ Rule.segmentTargets segments ∧ ¬scene.cache.Offers target
  | [], h => h.elim
  | .literal text :: rest, h => by
    have hrest : scene.FillFails path row rest (.missingRelation table place target) := h
    obtain ⟨hmem, hnone⟩ := missing_of_fillFails hrest
    exact ⟨hmem, hnone⟩
  | .placeholder key rule :: rest, h => by
    rcases h with ⟨-, h⟩ | h
    · obtain ⟨hmem, hnone⟩ := missing_of_fails h
      exact ⟨List.mem_append_left _ hmem, hnone⟩
    · obtain ⟨hmem, hnone⟩ := missing_of_fillFails h
      exact ⟨List.mem_append_right _ hmem, hnone⟩
  | .columnOnly key error :: rest, h => by
    rcases h with ⟨-, hfailure⟩ | hrest
    · cases hfailure
    · obtain ⟨hmem, hnone⟩ := missing_of_fillFails hrest
      exact ⟨hmem, hnone⟩

end

/-- `missing_of_fails` for a definition. -/
theorem missing_of_failsIn {definition : Compiled}
    (h : scene.FailsIn definition (.missingRelation table place target)) :
    target ∈ definition.targets ∧ ¬scene.cache.Offers target := by
  obtain ⟨before, name, tree, after, made, he, -, scalar, hscalar, hfails⟩ := h
  obtain ⟨hmem, hnone⟩ := missing_of_fails hfails
  have hscalars : scalar ∈ definition.scalars :=
    List.mem_flatMap.2 ⟨(name, tree), by simp [he], hscalar⟩
  exact ⟨List.mem_flatMap.2 ⟨scalar, hscalars, hmem⟩, hnone⟩

end Scene

namespace Setup

/-- Each relation of a definition leads to a table before its own, of which there is always a
row. -/
def ParentsFirst (setup : Setup) : Prop :=
  ∀ table ∈ setup.order.seed, ∀ definition, setup.Defines table definition →
    ∀ target ∈ definition.targets, setup.order.Precedes target table ∧
      ∀ parent, setup.Defines target parent → 1 ≤ parent.count.bounds.1

/-- The tables that are done are defined, and of those that always have a row a cache offers one. -/
def Offered (setup : Setup) (done : List String) (cache : Cache) : Prop :=
  ∀ table ∈ done, ∃ definition, setup.Defines table definition ∧
    (1 ≤ definition.count.bounds.1 → cache.Offers table)

variable {setup : Setup} {rejecting : Option String} {table : String} {definition : Compiled}
  {done rest : List String} {cache cache' : Cache}

/-- A table that joins the cache with rows, if it always has some, is offered. -/
theorem Offered.step (h : setup.Offered done cache) (hdefines : setup.Defines table definition)
    {rows : List Row} (hself : cache'.rows? table = some rows)
    (hother : ∀ other, table ≠ other → cache'.rows? other = cache.rows? other)
    (hrows : 1 ≤ definition.count.bounds.1 → rows ≠ []) :
    setup.Offered (done ++ [table]) cache' := by
  intro other hmem
  by_cases hn : table = other
  · subst hn
    exact ⟨definition, hdefines, fun hcount => ⟨rows, hself, hrows hcount⟩⟩
  · have hdone : other ∈ done := by simpa [Ne.symm hn] using hmem
    obtain ⟨found, hfound, hoffers⟩ := h other hdone
    refine ⟨found, hfound, fun hcount => ?_⟩
    rw [Cache.Offers, hother other hn]
    exact hoffers hcount

/-- **No relation of the next table misses its row.** -/
theorem Offered.ne_missing (h : setup.Offered done cache) (hparents : setup.ParentsFirst)
    (hseed : setup.order.seed = done ++ table :: rest) (hdefines : setup.Defines table definition)
    {scene : Scene} (hscene : scene.cache = cache) {failure : GenerationFailure}
    (hfails : scene.FailsIn definition failure) (missing place target : String) :
    failure ≠ .missingRelation missing place target := by
  rintro rfl
  obtain ⟨htarget, hnone⟩ := Scene.missing_of_failsIn hfails
  obtain ⟨hprecedes, hcount⟩ := hparents table (by simp [hseed]) definition hdefines target htarget
  have hnodup : (done ++ table :: rest).Nodup := hseed ▸ setup.order.nodup
  have hdone : target ∈ done := mem_of_pair_sublist hnodup (hseed ▸ hprecedes)
  obtain ⟨parent, hparent, hoffers⟩ := h target hdone
  rw [hscene] at hnone
  exact hnone (hoffers (hcount parent hparent))

/-! ## Seedings -/

/-- A table that is seeded is offered, whether it is kept as it was made or as it is stored. -/
theorem Offered.seeded {state after : SeedState MemoryStore} {entry : String × Nat}
    (h : setup.Offered done state.making.pass.cache) (hdefines : setup.Defines table definition)
    (hstep : setup.SeedsTable (MemoryStore.backend rejecting) definition state entry after) :
    setup.Offered (done ++ [table]) after.making.pass.cache := by
  obtain rfl := hdefines.table_eq
  have hends := ends_makeTable setup.registry hdefines.fit state.making
  cases hstep with
  | @empty making hmade =>
    obtain ⟨⟨⟨hcount, -⟩, -⟩, hpass⟩ := hends.of_gives hmade
    have hcache : making.pass.cache = state.making.pass.cache.insert definition.table [] := by
      rw [hpass]
    have hself : making.pass.cache.rows? definition.table = some [] := by
      rw [hcache, Cache.rows?_insert_self]
    refine h.step hdefines hself (fun other hn => ?_) (fun hpositive => ?_)
    · rw [hcache, Cache.rows?_insert_of_ne hn]
    · exact absurd (hpositive.trans hcount) (by simp)
  | @stored making rows stored store hmade hrows hinsert =>
    obtain ⟨-, hpass⟩ := hends.of_gives hmade
    have hcache : making.pass.cache = state.making.pass.cache.insert definition.table rows := by
      rw [hpass]
    obtain ⟨rfl, rfl⟩ := MemoryStore.backend_insert_eq hinsert
    refine h.step hdefines (Cache.rows?_insert_self _ _ _) (fun other hn => ?_) (fun _ => ?_)
    · rw [Cache.rows?_insert_of_ne hn, hcache, Cache.rows?_insert_of_ne hn]
    · rw [← List.length_pos_iff, MemoryStore.length_insert]
      exact List.length_pos_of_ne_nil hrows

/-- **A seeding** never misses the row of a relation when parents come first. -/
theorem seed_ne_missing (hparents : setup.ParentsFirst) (tenant : String) (store : MemoryStore) :
    (setup.seed (MemoryStore.backend rejecting) tenant).Ends store (fun _ _ => True) fun e _ =>
      ∀ missing place target, e ≠ .generation (.missingRelation missing place target) := by
  refine (ends_seed_of_step _ tenant store
    (fun done _ state => setup.Offered done state.making.pass.cache) ?_ ?_).mono
    (fun _ _ _ => trivial) ?_
  · exact fun _ h => absurd h List.not_mem_nil
  · intro done table rest definition _ state _ after _ hdefines h hstep
    exact h.seeded hdefines hstep
  · rintro _ _ (⟨⟨failure, rfl⟩, -⟩ |
      ⟨done, table, rest, definition, _, state, _, hseed, hdefines, h, hfails, -⟩)
      missing place target
    · exact fun he => by cases he
    cases hfails with
    | storing => exact fun he => by cases he
    | making hstops =>
      rintro ⟨⟩
      have hends := ends_makeTable setup.registry hdefines.fit state.making
      obtain ⟨hfailsIn, -⟩ := hends.of_stops hstops
      exact h.ne_missing hparents hseed hdefines rfl hfailsIn missing place target rfl

/-! ## Previews -/

/-- Loading gives what the library defines. -/
theorem ends_load (setup : Setup) (table : String) {σ : Type} (state : σ) :
    (setup.library.load setup.known table : Work LoadFailure σ Compiled).Ends state
      (fun definition s => s = state ∧ setup.Defines table definition) fun _ s => s = state :=
  .intro (fun _ hr => ⟨rfl, hr⟩) fun _ _ => rfl

/-- The next table of a preview is offered once it is made, and misses no row of a relation. -/
theorem Offered.made {state : PassState} (h : setup.Offered done state.pass.cache)
    (hparents : setup.ParentsFirst) (hseed : setup.order.seed = done ++ table :: rest) :
    (setup.loadAndMake none table).Ends state
      (fun _ s => setup.Offered (done ++ [table]) s.pass.cache) fun e _ =>
        ∀ missing place target, e ≠ .generation (.missingRelation missing place target) := by
  simp only [loadAndMake, Work.ends_bind, Work.ends_mapError]
  refine (ends_load setup table state).mono ?_ (fun e s _ _ _ _ he => by cases he)
  rintro definition s ⟨hs, hdefines⟩
  subst hs
  obtain rfl := hdefines.table_eq
  refine (ends_makeTable setup.registry hdefines.fit s).mono ?_ ?_
  · rintro rows _ ⟨⟨⟨hcount, -⟩, -⟩, hpass⟩
    rw [hpass]
    refine h.step hdefines (Cache.rows?_insert_self _ _ _)
      (fun other hn => Cache.rows?_insert_of_ne hn _ _) (fun hpositive => ?_)
    exact List.length_pos_iff.1 (hpositive.trans hcount)
  · rintro e _ ⟨hfailsIn, -⟩ missing place target he
    cases he
    exact h.ne_missing hparents hseed hdefines rfl hfailsIn missing place target rfl

/-- **A preview** never misses the row of a relation when parents come first. -/
theorem preview_ne_missing (hparents : setup.ParentsFirst) (table tenant : String) {σ : Type}
    (state : σ) :
    (setup.preview table tenant none).Ends state (fun _ _ => True) fun e _ =>
      ∀ missing place target, e ≠ .generation (.missingRelation missing place target) := by
  rw [preview, Work.ends_on, previewWith]
  cases hpredecessors : setup.order.predecessors? table with
  | none => exact fun _ _ _ he => by cases he
  | some parents =>
    obtain ⟨rest, hseed⟩ := TableOrder.predecessors?_eq_some_iff.1 hpredecessors
    simp only [Work.ends_bind]
    refine (Work.ends_forEach (fun done _ s => setup.Offered done s.pass.cache) ?_ ?_).mono ?_
      (fun _ _ => id)
    · intro done parent others he _ s h
      have hsplit : setup.order.seed = done ++ parent :: (others ++ table :: rest) := by
        rw [hseed, he, List.append_assoc, List.cons_append]
      exact h.made hparents hsplit
    · exact fun _ h => absurd h List.not_mem_nil
    · exact fun _ s h => (h.made hparents hseed).mono (fun _ _ _ => trivial) (fun _ _ => id)

/-- **Parents first, no relation misses its row.** When each relation of a definition, at any depth,
leads to a table before its own that always has a row, then no seeding into any store in memory and
no preview of any table, of any tenant, fails because of a relation without rows. -/
theorem ne_missingRelation (hparents : setup.ParentsFirst) (rejecting : Option String)
    (tenant : String) (store : MemoryStore) (missing place target : String) :
    (setup.seed (MemoryStore.backend rejecting) tenant store).result ≠
        .error (.generation (.missingRelation missing place target)) ∧
      ∀ (table : String) (σ : Type) (state : σ), (setup.preview table tenant none state).result ≠
        .error (.generation (.missingRelation missing place target)) := by
  refine ⟨fun hr => ?_, fun table σ state hr => ?_⟩
  · exact (seed_ne_missing hparents tenant store).of_error hr missing place target rfl
  · exact (preview_ne_missing hparents table tenant state).of_error hr missing place target rfl

/-- The accounts of `accountSetup` relate to the two markets before them. -/
theorem accountSetup_parentsFirst : accountSetup.ParentsFirst := by
  intro table htable definition hdefines target htarget
  have hmem := mem_of_defines accountSetup_defines htable hdefines
  rcases List.mem_pair.1 hmem with rfl | rfl
  · cases htarget
  · obtain rfl : target = "markets" := List.mem_singleton.1 htarget
    obtain rfl : "accounts" = table := hdefines.table_eq
    refine ⟨.refl _, fun parent hparent => ?_⟩
    obtain ⟨hmarkets, -⟩ := List.forall₂_cons.1 accountSetup_defines
    rw [hparent.unique hmarkets]
    decide

/-- Neither seeding nor previewing the accounts misses a market. -/
theorem ne_missingRelation_markets :
    accountSetup.ParentsFirst ∧
      (accountSetup.seed (MemoryStore.backend none) "acme" MemoryStore.empty).result ≠
        .error (.generation (.missingRelation "accounts" "$.columns.market" "markets")) ∧
      (accountSetup.preview "accounts" "acme" none ()).result ≠
        .error (.generation (.missingRelation "accounts" "$.columns.market" "markets")) := by
  obtain ⟨hseed, hpreview⟩ := ne_missingRelation accountSetup_parentsFirst none "acme"
    MemoryStore.empty "accounts" "$.columns.market" "markets"
  exact ⟨accountSetup_parentsFirst, hseed, hpreview "accounts" Unit ()⟩

end Setup

end Seedbed
