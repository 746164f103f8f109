import Seedbed.Proofs.Seeding.Preview

/-!
# Tables with a fixed number of rows

How many rows a table has is drawn before its rows are made. A number that is fixed is drawn as
well, and takes as much of the random source whatever it is (`Random.Draw.count_self`), so the first
row starts from the same source for every fixed number (`gives_rows_fixed_iff`), and so does each
row behind equal rows. Asking for fewer rows therefore only cuts the list of rows, of a table that
is made in a pass and of a preview (`fixed_count_truncates`).
-/

namespace Seedbed

/-! ## Rows -/

/-- A definition with a fixed number of rows. -/
def Definition.withCount {α : Type} (definition : Definition α) (n : Nat) : Definition α :=
  { definition with count := .fixed n }

variable {scene : Scene} {definition : Compiled} {n m : Nat} {rows : List Row}

/-- The rows of a table are made behind the draw of their number. -/
theorem Scene.gives_rows_iff {source after : Random.Source} :
    (scene.rows definition).Gives source rows after ↔
      ∃ n mid, Random.Draw.count definition.count.bounds.1 definition.count.bounds.2 source =
          (n, mid) ∧
        (Work.repeated n (scene.columns [] definition.columns)).Gives mid rows after := by
  simp [-bind_pure_comp, Scene.rows, Work.gives_bind_iff, Work.gives_ofState_iff]

/-- **A fixed number of rows** is made behind one number of 64 bits. -/
theorem Scene.gives_rows_fixed_iff {source after : Random.Source} :
    (scene.rows (definition.withCount n)).Gives source rows after ↔
      (Work.repeated n (scene.columns [] definition.columns)).Gives
        (Random.Draw.bits64 source).2 rows after := by
  rw [Scene.gives_rows_iff]
  constructor
  · rintro ⟨_, _, hcount, hrows⟩
    cases (Random.Draw.count_self n source).symm.trans hcount
    exact hrows
  · exact fun hrows => ⟨n, _, Random.Draw.count_self n source, hrows⟩

/-- Fewer rows of a table are the first ones. -/
theorem Scene.gives_rows_take {source after : Random.Source} (hle : n ≤ m)
    (h : (scene.rows (definition.withCount m)).Gives source rows after) :
    rows.length = m ∧
      ∃ mid, (scene.rows (definition.withCount n)).Gives source (rows.take n) mid := by
  have hrepeated := Scene.gives_rows_fixed_iff.1 h
  obtain ⟨mid, htake⟩ := hrepeated.repeated_take hle
  exact ⟨hrepeated.length_repeated, mid, Scene.gives_rows_fixed_iff.2 htake⟩

/-! ## Tables and previews -/

/-- Fewer rows of a table that is made in a pass are the first ones. -/
theorem gives_makeTable_take {registry : Registry} {state after : PassState} (hle : n ≤ m)
    (h : (makeTable registry (definition.withCount m)).Gives state rows after) :
    rows.length = m ∧
      ∃ after', (makeTable registry (definition.withCount n)).Gives state (rows.take n) after' := by
  obtain ⟨source, hrows, -⟩ := gives_makeTable_iff.1 h
  obtain ⟨hlength, mid, htake⟩ := Scene.gives_rows_take hle hrows
  exact ⟨hlength, _, gives_makeTable_iff.2 ⟨mid, htake, rfl⟩⟩

namespace Setup

variable {setup : Setup} {table tenant : String}

/-- Fewer rows of a table that is loaded are the first ones. -/
theorem gives_loadAndMake_take {state after : PassState} (hle : n ≤ m)
    (h : (setup.loadAndMake (some m) table).Gives state rows after) :
    ∃ after', (setup.loadAndMake (some n) table).Gives state (rows.take n) after' := by
  rw [loadAndMake, Work.gives_bind_iff] at h
  obtain ⟨definition, loaded, hload, hmake⟩ := h
  have hmade : (makeTable setup.registry (definition.withCount m)).Gives loaded rows after :=
    Work.gives_mapError_iff.1 hmake
  obtain ⟨-, after', htake⟩ := gives_makeTable_take hle hmade
  refine ⟨after', ?_⟩
  rw [loadAndMake, Work.gives_bind_iff]
  exact ⟨definition, loaded, hload, Work.gives_mapError_iff.2 htake⟩

/-- Fewer rows of a preview are the first ones, since the tables before are made alike. -/
theorem gives_previewWith_take {state after : PassState} (hle : n ≤ m)
    (h : (setup.previewWith setup.loadAndMake table (some m)).Gives state rows after) :
    ∃ after',
      (setup.previewWith setup.loadAndMake table (some n)).Gives state (rows.take n) after' := by
  unfold previewWith at h ⊢
  split at h
  · exact absurd h Work.not_gives_fail
  · rw [Work.gives_bind_iff] at h
    obtain ⟨made, mid, hparents, hmake⟩ := h
    obtain ⟨after', htake⟩ := gives_loadAndMake_take hle hmake
    exact ⟨after', Work.gives_bind_iff.2 ⟨made, mid, hparents, htake⟩⟩

end Setup

/-- **A fixed number of rows only truncates.** When the table of a definition with a fixed number of
rows is made, then with a smaller number the same pass and source give the first of its rows; so the
preview of a table with the smaller number of rows is the beginning of that with the larger one. -/
theorem fixed_count_truncates (hle : n ≤ m) :
    (∀ (registry : Registry) (definition : Compiled) (state : PassState) (rows : List Row),
      (makeTable registry (definition.withCount m) state).result = .ok rows → rows.length = m ∧
        (makeTable registry (definition.withCount n) state).result = .ok (rows.take n)) ∧
    ∀ (setup : Setup) (table tenant : String) (σ : Type) (state : σ) (rows : List Row),
      (setup.preview table tenant (some m) state).result = .ok rows →
        (setup.preview table tenant (some n) state).result = .ok (rows.take n) := by
  constructor
  · intro registry definition state rows hrows
    obtain ⟨hlength, -, htake, -⟩ := gives_makeTable_take hle ⟨hrows, rfl⟩
    exact ⟨hlength, htake⟩
  · intro setup table tenant σ state rows hrows
    have hshown : (setup.previewWith setup.loadAndMake table (some m)).Gives (setup.start tenant)
        rows _ := ⟨hrows, rfl⟩
    obtain ⟨-, htake, -⟩ := Setup.gives_previewWith_take hle hshown
    exact htake

/-- The first of two markets with codes is the one market that the same pass makes, and the first of
two accounts, made behind two markets, is the preview of one. -/
theorem fixed_count_truncates_accounts :
    let markets : Compiled :=
      { table := "markets", count := .fixed 2, columns := [("code", .scalar (.numeric 4))] }
    let state := Setup.codedSetup.start "acme"
    1 ≤ 2 ∧
      (∃ rows, (makeTable Registry.empty (markets.withCount 2) state).result = .ok rows ∧
        rows.length = 2 ∧
        (makeTable Registry.empty (markets.withCount 1) state).result = .ok (rows.take 1)) ∧
      ∃ rows, (Setup.codedSetup.preview "accounts" "acme" (some 2) ()).result = .ok rows ∧
        (Setup.codedSetup.preview "accounts" "acme" (some 1) ()).result = .ok (rows.take 1) := by
  intro markets state
  have hle : 1 ≤ 2 := by decide
  have hmake : (makeTable Registry.empty (markets.withCount 2) state).result.isOk = true := by
    decide +kernel
  have hpreview : (Setup.codedSetup.preview "accounts" "acme" (some 2) ()).result.isOk = true := by
    decide +kernel
  obtain ⟨made, hmade, -⟩ := Work.exists_gives_of_isOk hmake
  obtain ⟨shown, hshown, -⟩ := Work.exists_gives_of_isOk hpreview
  have htruncated := fixed_count_truncates hle
  exact ⟨hle, ⟨made, hmade, htruncated.1 Registry.empty markets state made hmade⟩,
    shown, hshown, htruncated.2 Setup.codedSetup "accounts" "acme" Unit () shown hshown⟩

end Seedbed
