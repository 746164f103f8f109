import Mathlib.Data.List.Nodup
import Mathlib.Data.List.Perm.Subperm
import Seedbed.TableOrder
import Seedbed.Proofs.Accepting

/-!
# The orders that are accepted

The last check of a pair of orders compares them position by position and stops at the end of the
shorter one. It is exact all the same: behind the checks before it both orders list the same tables
once each, so neither is shorter (`check_eq_ok_iff`). The tables in front of a table of an order are
those that are reset behind it (`predecessors?_eq_some_iff`).
-/

namespace Seedbed.TableOrder

/-- The names of a seed order: none is blank, and none occurs twice. -/
def Proper (seed : List String) : Prop :=
  (∀ table ∈ seed, ∃ c ∈ table.toList, Text.isBlank c = false) ∧ seed.Nodup

/-! ## Checks -/

/-- A name is not blank when a character in it is none. -/
theorem isBlankName_eq_false_iff {table : String} :
    isBlankName table = false ↔ ∃ c ∈ table.toList, Text.isBlank c = false := by
  simp [isBlankName, Text.isAllBlank]

/-- The names of an order pass exactly when the order is proper. -/
theorem checkNames_proper_iff {side : OrderSide} {order : List String} :
    checkNames side [] order = .ok () ↔ Proper order := by
  simp only [checkNames_eq_ok_iff, isBlankName_eq_false_iff, List.not_mem_nil, not_false_eq_true,
    implies_true, and_true, Proper]

/-- Of names there is always a first one. -/
theorem least?_eq_none_iff {names : List String} : least? names = none ↔ names = [] := by
  cases names with
  | nil => simp [least?]
  | cons name rest =>
    simp only [least?]
    split <;> simp

/-- Nothing is missing when each name of one list is in the other. -/
theorem firstMissing?_eq_none_iff {from_ other : List String} :
    firstMissing? from_ other = none ↔ from_ ⊆ other := by
  rw [firstMissing?, least?_eq_none_iff, List.filter_eq_nil_iff]
  simp [List.subset_def]

/-- Lists of one length are the same when no position differs. -/
theorem checkPositions_eq_ok_iff {index : Nat} {expected actual : List String}
    (hlength : expected.length = actual.length) :
    checkPositions index expected actual = .ok () ↔ expected = actual := by
  induction expected generalizing index actual with
  | nil =>
    obtain rfl := List.length_eq_zero_iff.1 hlength.symm
    simp [checkPositions]
  | cons name expected ih =>
    cases actual with
    | nil => cases hlength
    | cons other actual =>
      rw [checkPositions, List.cons.injEq]
      split
      · next heq => simp [heq, ih (Nat.succ.inj hlength)]
      · next hne => simp [hne]

/-- Two lists of distinct names that hold the same names are of one length. -/
theorem length_eq_of_subset {names others : List String} (hnames : names.Nodup)
    (hothers : others.Nodup) (hsub : names ⊆ others) (hsub' : others ⊆ names) :
    names.length = others.length :=
  Nat.le_antisymm (hnames.subperm hsub).length_le (hothers.subperm hsub').length_le

/-- **A pair of orders is accepted** when the first one is proper and the second one is its
reverse. -/
theorem check_eq_ok_iff {seed reset : List String} :
    check seed reset = .ok () ↔ Proper seed ∧ reset = seed.reverse := by
  have hcheck : check seed reset = .ok () ↔ Proper seed ∧ Proper reset ∧ seed ⊆ reset ∧
      reset ⊆ seed ∧ checkPositions 0 seed.reverse reset = .ok () := by
    simp only [check, bind_eq_ok, Unique.exists_iff, PUnit.default_eq_unit, checkNames_proper_iff,
      ← firstMissing?_eq_none_iff]
    cases firstMissing? seed reset <;> cases firstMissing? reset seed <;>
      simp [throw, throwThe, MonadExceptOf.throw, bind, Except.bind]
  rw [hcheck]
  constructor
  · rintro ⟨hseed, hreset, hsub, hsub', hpositions⟩
    have hlength : seed.reverse.length = reset.length := by
      rw [List.length_reverse]
      exact length_eq_of_subset hseed.2 hreset.2 hsub hsub'
    exact ⟨hseed, ((checkPositions_eq_ok_iff hlength).1 hpositions).symm⟩
  · rintro ⟨hseed, rfl⟩
    have hreset : Proper seed.reverse := ⟨by simpa using hseed.1, List.nodup_reverse.2 hseed.2⟩
    exact ⟨hseed, hreset, by simp, by simp, (checkPositions_eq_ok_iff rfl).2 rfl⟩

/-! ## Orders -/

/-- The names of an order are proper. -/
theorem proper (order : TableOrder) : Proper order.seed :=
  ⟨fun table h => isBlankName_eq_false_iff.1 (order.named table h), order.nodup⟩

/-- An order is known by the order in which it seeds. -/
theorem eq_of_seed_eq {order other : TableOrder} (h : order.seed = other.seed) : order = other := by
  cases order
  cases other
  cases h
  rfl

/-- **The order of two lists** that are accepted has them as its seed order and reset order. -/
theorem ofOrders_eq_ok_iff {seed reset : List String} {order : TableOrder} :
    ofOrders seed reset = .ok order ↔
      Proper seed ∧ reset = seed.reverse ∧ order.seed = seed ∧ order.reset = reset := by
  have hnames (hseed : Proper seed) : checkNames .seed [] seed = .ok () :=
    checkNames_proper_iff.2 hseed
  unfold ofOrders
  split
  · next e he =>
    refine iff_of_false (by simp) ?_
    rintro ⟨hseed, hreset, -⟩
    cases he.symm.trans (check_eq_ok_iff.2 ⟨hseed, hreset⟩)
  · next hok =>
    obtain ⟨hseed, hreset⟩ := check_eq_ok_iff.1 hok
    split
    · next e he => cases he.symm.trans (hnames hseed)
    · constructor
      · rintro ⟨⟩
        exact ⟨hseed, hreset, rfl, hreset.symm⟩
      · rintro ⟨-, -, horder, -⟩
        exact congrArg Except.ok (eq_of_seed_eq horder.symm)

/-- A seed order alone makes an order when it is proper. -/
theorem exists_ofSeed_iff {seed : List String} :
    (∃ order, ofSeed seed = .ok order) ↔ Proper seed := by
  constructor
  · rintro ⟨order, h⟩
    exact (ofOrders_eq_ok_iff.1 h).1
  · intro h
    exact ⟨⟨seed, fun table ht => isBlankName_eq_false_iff.2 (h.1 table ht), h.2⟩,
      ofOrders_eq_ok_iff.2 ⟨h, rfl, rfl, rfl⟩⟩

/-! ## Predecessors -/

variable {order : TableOrder} {table : String}

/-- A table of an order is none of the tables before it. -/
theorem not_mem_before {before rest : List String} (h : order.seed = before ++ table :: rest) :
    table ∉ before := by
  have hnodup := order.nodup
  rw [h] at hnodup
  exact fun hmem => (List.nodup_append.1 hnodup).2.2 _ hmem _ (List.mem_cons_self ..) rfl

/-- The tables before a table of the order. -/
theorem predecessors?_of_split {before rest : List String}
    (h : order.seed = before ++ table :: rest) : order.predecessors? table = some before := by
  have hbefore : ∀ other ∈ before, (other != table) = true := by
    intro other hother
    refine bne_iff_ne.2 ?_
    rintro rfl
    exact not_mem_before h hother
  have hcontains : order.contains table = true := by
    simp [contains, h]
  rw [predecessors?, if_pos hcontains, h, List.takeWhile_append_of_pos hbefore]
  simp

/-- A table outside the order has no tables before it. -/
theorem predecessors?_eq_none_iff : order.predecessors? table = none ↔ table ∉ order.seed := by
  simp [predecessors?, contains]

/-- **The tables before a table** are those in front of it in the seed order. -/
theorem predecessors?_eq_some_iff {before : List String} :
    order.predecessors? table = some before ↔
      ∃ rest, order.seed = before ++ table :: rest := by
  constructor
  · intro h
    have hmem : table ∈ order.seed := by
      by_contra hnot
      rw [predecessors?_eq_none_iff.2 hnot] at h
      cases h
    obtain ⟨front, rest, hseed⟩ := List.append_of_mem hmem
    rw [predecessors?_of_split hseed] at h
    exact ⟨rest, Option.some.inj h ▸ hseed⟩
  · rintro ⟨rest, hseed⟩
    exact predecessors?_of_split hseed

/-- What stands in front of a table in the seed order stands behind it in the reset order. -/
theorem reset_of_split {before rest : List String} (h : order.seed = before ++ table :: rest) :
    order.reset = rest.reverse ++ table :: before.reverse := by
  rw [reset, h]
  simp

/-- **Orders are checked exactly.** A pair is accepted when the seed order is proper and the reset
order is its reverse, and the order that is made of it has both as they were given; each order is
made of its own pair. The predecessors of a table are what stands in front of it in the seed order
and behind it in the reset order, and a table outside the order has none. -/
theorem orders_exact :
    (∀ seed reset, check seed reset = .ok () ↔ Proper seed ∧ reset = seed.reverse) ∧
    (∀ seed reset order, ofOrders seed reset = .ok order ↔
      Proper seed ∧ reset = seed.reverse ∧ order.seed = seed ∧ order.reset = reset) ∧
    (∀ order : TableOrder, ofOrders order.seed order.reset = .ok order) ∧
    (∀ seed, (∃ order, ofSeed seed = .ok order) ↔ Proper seed) ∧
    (∀ (order : TableOrder) table before, order.predecessors? table = some before ↔
      ∃ rest, order.seed = before ++ table :: rest ∧
        order.reset = rest.reverse ++ table :: before.reverse) ∧
    ∀ (order : TableOrder) table, order.predecessors? table = none ↔ table ∉ order.seed := by
  refine ⟨fun _ _ => check_eq_ok_iff, fun _ _ _ => ofOrders_eq_ok_iff, fun order => ?_,
    fun _ => exists_ofSeed_iff, fun order table before => ?_, fun _ _ => predecessors?_eq_none_iff⟩
  · exact ofOrders_eq_ok_iff.2 ⟨order.proper, rfl, rfl, rfl⟩
  · rw [predecessors?_eq_some_iff]
    constructor
    · rintro ⟨rest, hseed⟩
      exact ⟨rest, hseed, reset_of_split hseed⟩
    · rintro ⟨rest, hseed, -⟩
      exact ⟨rest, hseed⟩

end Seedbed.TableOrder
