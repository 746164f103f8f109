import Seedbed.Proofs.Following
import Seedbed.Proofs.Seeding.Steps

/-!
# Runs on a store and on what is seen of it

A seeding changes its store by inserts only, and a reset by deletes only. When the inserts that a
seeding makes follow those of another store along a view, so does the seeding
(`followsFrom_seed`); and so does a reset when its deletes do (`follows_reset_of_delete`). A store
that remembers what is asked of it is such a case: its inserts and deletes all follow those of the
store that it was built from (`Backend.Follows`).
-/

namespace Seedbed

variable {σ τ : Type}

/-- The inserts and deletes of a backend with richer states follow those of another one. -/
structure Backend.Follows (view : τ → σ) (rich : Backend τ) (backend : Backend σ) : Prop where
  insert : ∀ table rows s, (rich.insert table rows s).1 = (backend.insert table rows (view s)).1 ∧
    view (rich.insert table rows s).2 = (backend.insert table rows (view s)).2
  delete : ∀ table tenant s,
    (rich.delete table tenant s).1 = (backend.delete table tenant (view s)).1 ∧
      view (rich.delete table tenant s).2 = (backend.delete table tenant (view s)).2

namespace Setup

variable {setup : Setup} {view : τ → σ} {rich : Backend τ} {backend : Backend σ}

/-- What is seen of a seeding on a richer store. -/
def seedingView (view : τ → σ) (state : SeedState τ) : SeedState σ :=
  { store := view state.store, making := state.making }

/-- Storing rows follows from a state when their insert does. -/
theorem followsFrom_storeRows (state : SeedState τ) {table : String} {rows : List Row}
    (hinsert : Work.FollowsFrom view (Work.ofFallible (rich.insert table rows))
      (Work.ofFallible (backend.insert table rows)) state.store) (tenant : String) :
    Work.FollowsFrom (seedingView view) (setup.storeRows rich table tenant rows)
      (setup.storeRows backend table tenant rows) state := by
  refine .bind (.on (hinsert.mapError _) ?_ ?_) fun stored _ _ =>
    .bind ⟨?_, ?_⟩ fun _ _ _ => .bind (Work.Follows.note _ _) fun _ _ _ => Work.Follows.pure _ _
  all_goals intros; rfl

/-- Seeding a table follows from a state when the insert of the rows that are made does. -/
theorem followsFrom_seedTable {state : SeedState τ} {definition : Compiled}
    (hinsert : ∀ rows making, (makeTable setup.registry definition).Gives state.making rows making →
      Work.FollowsFrom view (Work.ofFallible (rich.insert definition.table rows))
        (Work.ofFallible (backend.insert definition.table rows)) state.store) (tenant : String) :
    Work.FollowsFrom (seedingView view) (setup.seedTable rich tenant definition)
      (setup.seedTable backend tenant definition) state := by
  refine .bind (.on (Work.Follows.refl _ _) ?_ ?_) fun rows after hafter => ?_
  · exact rfl
  · exact fun _ => rfl
  obtain ⟨making, hmade, rfl⟩ := Work.gives_on_iff.1 hafter
  split
  · exact .bind (Work.Follows.note _ _) fun _ _ _ => Work.Follows.pure _ _
  · have hfollows := hinsert rows making (Work.gives_mapError_iff.1 hmade)
    exact .bind (followsFrom_storeRows { state with making } hfollows tenant)
      fun count _ _ => ⟨rfl, rfl⟩

/-- Loading the definitions is followed by itself, whatever is shown of the state. -/
theorem follows_definitions (view : τ → σ) :
    Work.Follows view setup.definitions setup.definitions := by
  refine .mapError ?_ _
  unfold Library.loadAll compileAll
  split
  · exact .forEach (fun source => .bind (.noteAll _) fun _ => .ofExcept _) _
  · exact .fail _

/-- **A seeding follows** when the inserts of its tables do, from the states that an invariant
allows. -/
theorem followsFrom_seed {tenant : String} {store : τ} (invariant : SeedState τ → Prop)
    (hbegin : invariant (setup.begin tenant store))
    (hstep : ∀ table ∈ setup.order.seed, ∀ definition, setup.Defines table definition →
      ∀ state, invariant state →
        (∀ rows making, (makeTable setup.registry definition).Gives state.making rows making →
          Work.FollowsFrom view (Work.ofFallible (rich.insert definition.table rows))
            (Work.ofFallible (backend.insert definition.table rows)) state.store) ∧
        ∀ entry after, setup.SeedsTable rich definition state entry after → invariant after) :
    Work.FollowsFrom view (setup.seed rich tenant) (setup.seed backend tenant) store := by
  refine .bind ⟨?_, ?_⟩ fun _ _ hnoted => ?_
  · exact rfl
  · exact rfl
  obtain rfl : store = _ := hnoted.2
  refine .bind (follows_definitions view store) fun definitions after hloaded => ?_
  obtain ⟨rfl, hdefines⟩ := (ends_definitions setup store).of_gives hloaded
  have hloop : Work.FollowsFrom (seedingView view)
      (Work.forEach (setup.seedTable rich tenant) definitions)
      (Work.forEach (setup.seedTable backend tenant) definitions) (setup.begin tenant after) := by
    refine .forEach invariant (fun definition hmem state hstate => ?_) hbegin
    obtain ⟨table, htable, hdefined⟩ := exists_mem_of_forall₂ hdefines hmem
    obtain ⟨hinsert, hkeeps⟩ := hstep table htable definition hdefined state hstate
    refine ⟨followsFrom_seedTable hinsert tenant, fun entry seeded hgives => ?_⟩
    exact hkeeps entry seeded ((seedTable_steps tenant definition state).of_gives hgives)
  refine .bind (.on hloop ?_ ?_) fun tables _ _ => ?_
  · exact rfl
  · exact fun _ => rfl
  exact .bind (Work.Follows.note _ _) fun _ _ _ => Work.Follows.pure _ _

/-- **A reset follows** when its deletes do. -/
theorem follows_reset_of_delete {tenant : String}
    (hdelete : ∀ table, Work.Follows view (Work.ofFallible (rich.delete table tenant))
      (Work.ofFallible (backend.delete table tenant))) :
    Work.Follows view (setup.reset rich tenant) (setup.reset backend tenant) :=
  .bind (.forEach (fun table => .bind (.mapError (hdelete table) _) fun _ => .bind (.note _)
    fun _ => .pure _) _) fun _ => .pure _

/-! ## Stores that remember -/

/-- **A seeding** on the richer store follows the one on the other. -/
theorem follows_seed (h : Backend.Follows view rich backend) (tenant : String) :
    Work.Follows view (setup.seed rich tenant) (setup.seed backend tenant) :=
  fun _ => followsFrom_seed (fun _ => True) trivial fun _ _ definition _ _ _ =>
    ⟨fun rows _ _ => h.insert definition.table rows _, fun _ _ _ => trivial⟩

/-- **A reset** on the richer store follows the one on the other. -/
theorem follows_reset (h : Backend.Follows view rich backend) (tenant : String) :
    Work.Follows view (setup.reset rich tenant) (setup.reset backend tenant) :=
  follows_reset_of_delete fun table store => h.delete table tenant store

end Setup

end Seedbed
