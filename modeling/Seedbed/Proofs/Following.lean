import Seedbed.Proofs.Giving

/-!
# Work that follows other work

Some work follows other work along a view of its state when it gives the same result and its state
is seen to change in the same way; the journals are not compared. Each way to build work keeps
this, so that a program over a richer state is compared with the program it was built from part by
part. Work may do so from every state (`Follows`) or from a given one (`FollowsFrom`), and then what
is known of the states that it passes through can be used.
-/

namespace Seedbed.Work

variable {ε ε' σ τ σ' τ' α β : Type}

/-- Work on a richer state gives the result of other work and changes what is seen of its state in
the same way. -/
def Follows (view : τ → σ) (rich : Work ε τ α) (work : Work ε σ α) : Prop :=
  ∀ s, (rich s).result = (work (view s)).result ∧ view (rich s).state = (work (view s)).state

/-- `Follows` from one state. -/
def FollowsFrom (view : τ → σ) (rich : Work ε τ α) (work : Work ε σ α) (s : τ) : Prop :=
  (rich s).result = (work (view s)).result ∧ view (rich s).state = (work (view s)).state

variable {view : τ → σ}

namespace FollowsFrom

variable {rich : Work ε τ α} {work : Work ε σ α} {s : τ}

/-- Work that is followed is followed with converted errors as well. -/
theorem mapError (h : FollowsFrom view rich work s) (convert : ε → ε') :
    FollowsFrom view (mapError convert rich) (Work.mapError convert work) s := by
  obtain ⟨hresult, hstate⟩ := h
  exact ⟨congrArg (Except.mapError convert) hresult, hstate⟩

/-- Parts of states are followed when they are seen to be read and written alike. -/
theorem on {part : τ' → σ'} {rich : Work ε τ' α} {work : Work ε σ' α} {richGet : τ → τ'}
    {richSet : τ' → τ → τ} {get : σ → σ'} {set : σ' → σ → σ}
    (h : FollowsFrom part rich work (richGet s)) (hget : part (richGet s) = get (view s))
    (hset : ∀ inner, view (richSet inner s) = set (part inner) (view s)) :
    FollowsFrom view (on richGet richSet rich) (Work.on get set work) s := by
  obtain ⟨hresult, hstate⟩ := h
  rw [hget] at hresult hstate
  refine ⟨hresult, ?_⟩
  show view (richSet (rich (richGet s)).state s) = set (work (get (view s))).state (view s)
  rw [hset, hstate]

/-- The second part of a sequence has to follow from where the first part leads only. -/
theorem bind (h : FollowsFrom view rich work s) {richNext : α → Work ε τ β}
    {next : α → Work ε σ β}
    (hnext : ∀ value after, rich.Gives s value after →
      FollowsFrom view (richNext value) (next value) after) :
    FollowsFrom view (rich >>= richNext) (work >>= next) s := by
  obtain ⟨hresult, hstate⟩ := h
  simp only [FollowsFrom, bind_eq, Work.bind]
  rcases hrich : rich s with ⟨_ | value, s', journal⟩ <;>
    rcases hwork : work (view s) with ⟨_ | value', t', journal'⟩ <;>
    simp only [hrich, hwork] at hresult hstate
  · cases hresult
    exact ⟨rfl, hstate⟩
  · cases hresult
  · cases hresult
  · cases hresult
    subst hstate
    exact hnext value s' ⟨by rw [hrich], by rw [hrich]⟩

/-- A loop follows from a state when each step does from where an invariant holds, which steps
keep. -/
theorem forEach {rich : α → Work ε τ β} {work : α → Work ε σ β} (invariant : τ → Prop)
    {as : List α}
    (hstep : ∀ a ∈ as, ∀ s, invariant s → FollowsFrom view (rich a) (work a) s ∧
      ∀ b after, (rich a).Gives s b after → invariant after)
    (h : invariant s) : FollowsFrom view (forEach rich as) (Work.forEach work as) s := by
  induction as generalizing s with
  | nil => exact ⟨rfl, rfl⟩
  | cons a rest ih =>
    obtain ⟨hfirst, hkeeps⟩ := hstep a (List.mem_cons_self ..) s h
    refine hfirst.bind fun b after hb => ?_
    have hrest := ih (fun a' ha' => hstep a' (List.mem_cons_of_mem _ ha')) (hkeeps b after hb)
    exact hrest.bind fun bs _ _ => ⟨rfl, rfl⟩

end FollowsFrom

namespace Follows

/-- A value that is there already is followed. -/
theorem pure (value : α) : Follows view (pure value : Work ε τ α) (Pure.pure value) :=
  fun _ => ⟨rfl, rfl⟩

/-- Failing is followed. -/
theorem fail (e : ε) : Follows view (fail e : Work ε τ α) (Work.fail e) :=
  fun _ => ⟨rfl, rfl⟩

/-- Noting an event is followed. -/
theorem note (event : Event) : Follows view (note event : Work ε τ Unit) (Work.note event) :=
  fun _ => ⟨rfl, rfl⟩

/-- Noting events is followed. -/
theorem noteAll (events : List Event) :
    Follows view (noteAll events : Work ε τ Unit) (Work.noteAll events) :=
  fun _ => ⟨rfl, rfl⟩

/-- A result that is there already is followed. -/
theorem ofExcept (result : Except ε α) :
    Follows view (ofExcept result : Work ε τ α) (Work.ofExcept result) :=
  fun _ => ⟨rfl, rfl⟩

/-- A change is followed by one that shows as it. -/
theorem update {richChange : τ → τ} {change : σ → σ}
    (h : ∀ s, view (richChange s) = change (view s)) :
    Follows view (update richChange : Work ε τ Unit) (Work.update change) :=
  fun s => ⟨rfl, h s⟩

/-- A computation is followed by one with the same result whose state shows as its state. -/
theorem ofFallible {rich : τ → Except ε α × τ} {computation : σ → Except ε α × σ}
    (h : ∀ s, (rich s).1 = (computation (view s)).1 ∧ view (rich s).2 = (computation (view s)).2) :
    Follows view (ofFallible rich) (Work.ofFallible computation) :=
  h

/-- Work follows itself. -/
theorem refl (work : Work ε σ α) : Follows id work work :=
  fun _ => ⟨rfl, rfl⟩

/-- Work that follows other work does so with converted errors as well. -/
theorem mapError {rich : Work ε τ α} {work : Work ε σ α} (h : Follows view rich work)
    (convert : ε → ε') : Follows view (mapError convert rich) (Work.mapError convert work) :=
  fun s => FollowsFrom.mapError (h s) convert

/-- Parts of states are followed when they are seen to be read and written alike. -/
theorem on {part : τ' → σ'} {rich : Work ε τ' α} {work : Work ε σ' α} (h : Follows part rich work)
    {richGet : τ → τ'} {richSet : τ' → τ → τ} {get : σ → σ'} {set : σ' → σ → σ}
    (hget : ∀ s, part (richGet s) = get (view s))
    (hset : ∀ inner s, view (richSet inner s) = set (part inner) (view s)) :
    Follows view (on richGet richSet rich) (Work.on get set work) :=
  fun s => FollowsFrom.on (h (richGet s)) (hget s) fun inner => hset inner s

/-- A sequence is followed step by step. -/
theorem bind {rich : Work ε τ α} {work : Work ε σ α} (h : Follows view rich work)
    {richNext : α → Work ε τ β} {next : α → Work ε σ β}
    (hnext : ∀ value, Follows view (richNext value) (next value)) :
    Follows view (rich >>= richNext) (work >>= next) :=
  fun s => FollowsFrom.bind (h s) fun value after _ => hnext value after

/-- Work for each element is followed element by element. -/
theorem forEach {rich : α → Work ε τ β} {work : α → Work ε σ β}
    (h : ∀ a, Follows view (rich a) (work a)) (as : List α) :
    Follows view (forEach rich as) (Work.forEach work as) :=
  fun _ => FollowsFrom.forEach (fun _ => True) (fun a _ s _ => ⟨h a s, fun _ _ _ => trivial⟩)
    trivial

end Follows

end Seedbed.Work
