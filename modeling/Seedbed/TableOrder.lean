import Seedbed.Text.Blank

/-!
# The order of the tables

Tables are seeded parents first and reset children first. An order is given by its seed order, a
list of distinct names that are not blank; the reset order is its reverse, so the two cannot
disagree. `check` compares a seed order with a reset order that was given beside it and names the
first thing that is wrong; `TableOrder.ofOrders` builds an order from two lists that pass.
-/

namespace Seedbed

/-- Which of the two orders a complaint is about. -/
inductive OrderSide
  | seed
  | reset
  deriving DecidableEq, Repr

def OrderSide.label : OrderSide → String
  | seed => "seed"
  | reset => "reset"

/-- What is wrong with a pair of orders. -/
inductive OrderError
  | blankName (side : OrderSide)
  | repeated (table : String) (side : OrderSide)
  | onlyInSeed (table : String)
  | onlyInReset (table : String)
  | position (index : Nat) (actual expected : String)
  deriving DecidableEq, Repr

def OrderError.message : OrderError → String
  | blankName side =>
    "invalid table order: " ++ side.label ++ " order contains an empty table name"
  | repeated table side =>
    "invalid table order: table '" ++ table ++ "' appears twice in the " ++ side.label ++ " order"
  | onlyInSeed table =>
    "invalid table order: table '" ++ table ++ "' is in the seed order but not in the reset order"
  | onlyInReset table =>
    "invalid table order: table '" ++ table ++ "' is in the reset order but not in the seed order"
  | position index actual expected =>
    "invalid table order: reset order position " ++ toString index ++ " is '" ++ actual ++
      "', expected '" ++ expected ++ "'"

/-- Whether a table name is empty or blank. -/
def isBlankName (table : String) : Bool :=
  Text.isAllBlank table.toList

namespace TableOrder

/-- Checks that the names of one order are not blank and distinct; `seen` holds the names so far. -/
def checkNames (side : OrderSide) (seen : List String) : List String → Except OrderError Unit
  | [] => .ok ()
  | table :: rest =>
    if isBlankName table then .error (.blankName side)
    else if table ∈ seen then .error (.repeated table side)
    else checkNames side (table :: seen) rest

/-- The first name in alphabetical order. -/
def least? : List String → Option String
  | [] => none
  | table :: rest =>
    match least? rest with
    | none => some table
    | some other => some (if other < table then other else table)

/-- The first name, in alphabetical order, of one list that is missing from the other. -/
def firstMissing? (from_ other : List String) : Option String :=
  least? (from_.filter (· ∉ other))

/-- Compares the expected reset order with the given one, from position `index` on. -/
def checkPositions (index : Nat) : List String → List String → Except OrderError Unit
  | expected :: rest, actual :: others =>
    if expected = actual then checkPositions (index + 1) rest others
    else .error (.position index actual expected)
  | _, _ => .ok ()

/-- Checks that both orders list the same tables once each and that the second reverses the
first. -/
def check (seed reset : List String) : Except OrderError Unit := do
  checkNames .seed [] seed
  checkNames .reset [] reset
  if let some table := firstMissing? seed reset then throw (.onlyInSeed table)
  if let some table := firstMissing? reset seed then throw (.onlyInReset table)
  checkPositions 0 seed.reverse reset

/-- Names pass when none is blank, none comes twice and none was seen before. -/
theorem checkNames_eq_ok_iff {side : OrderSide} {seen order : List String} :
    checkNames side seen order = .ok () ↔
      (∀ table ∈ order, isBlankName table = false) ∧ order.Nodup ∧
        ∀ table ∈ order, table ∉ seen := by
  induction order generalizing seen with
  | nil => simp [checkNames]
  | cons table rest ih =>
    simp only [checkNames]
    split
    · next h => simp [h]
    · next h =>
      split
      · next hm => simp [hm]
      · next hm =>
        simp only [ih, List.mem_cons, not_or, List.nodup_cons, forall_eq_or_imp]
        constructor
        · rintro ⟨h1, h2, h3⟩
          exact ⟨⟨by simpa using h, h1⟩, ⟨fun ht => (h3 table ht).1 rfl, h2⟩, hm,
            fun t ht => (h3 t ht).2⟩
        · rintro ⟨⟨_, h1⟩, ⟨h2, h3⟩, _, h5⟩
          exact ⟨h1, h3, fun t ht => ⟨fun he => h2 (he ▸ ht), h5 t ht⟩⟩

end TableOrder

/-- A seed order of distinct tables whose names are not blank. -/
structure TableOrder where
  /-- Parents before children. -/
  seed : List String
  named : ∀ table ∈ seed, isBlankName table = false
  nodup : seed.Nodup

namespace TableOrder

/-- Children before parents: the reverse of the seed order. -/
def reset (order : TableOrder) : List String :=
  order.seed.reverse

/-- The order given by a seed order and a reset order that agree. -/
def ofOrders (seed reset : List String) : Except OrderError TableOrder :=
  match check seed reset with
  | .error e => .error e
  | .ok () =>
    match h : checkNames .seed [] seed with
    | .error e => .error e
    | .ok () =>
      have hs := checkNames_eq_ok_iff.1 h
      .ok { seed, named := hs.1, nodup := hs.2.1 }

/-- The order given by a seed order alone. -/
def ofSeed (seed : List String) : Except OrderError TableOrder :=
  ofOrders seed seed.reverse

/-- Whether a table belongs to the order. -/
def contains (order : TableOrder) (table : String) : Bool :=
  order.seed.contains table

/-- The tables that are seeded before a table; nothing for a table outside the order. -/
def predecessors? (order : TableOrder) (table : String) : Option (List String) :=
  if order.contains table then some (order.seed.takeWhile (· != table)) else none

/-- The tables of the retention data set, parents before children. -/
def defaultSeed : List String :=
  ["markets", "industries", "account_managers", "producers", "account_executives", "efforts",
    "retention_summary", "retention_insights", "renewals_products", "accounts", "policies",
    "renewals"]

/-- The order of the retention data set. -/
def default : TableOrder where
  seed := defaultSeed
  named := by decide
  nodup := by decide

end TableOrder

end Seedbed
