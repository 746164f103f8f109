import Seedbed.Proofs.Store.Memory

/-!
# What a log tells of a store

The calls on a store and their answers are its log. From the log alone one can say which rows a
table holds: those that inserts gave back, in order, without those that were deleted later
(`StoreLog.rows`); and which ids the table gave out (`StoreLog.givenIds`). A store in memory that
was empty at first holds exactly these rows, whatever calls it has seen, and the ids that it gave
out are the numbers from 1 on (`log_tells`).
-/

namespace Seedbed

variable {σ : Type}

/-! ## Logs -/

/-- What is asked of a store. -/
inductive StoreCall
  | insert (table : String) (rows : List Row)
  | delete (table tenant : String)

/-- What was asked of a store, with its answer. -/
inductive StoreEntry
  | insert (table : String) (rows : List Row) (answer : Except StoreFailure (List Row))
  | delete (table tenant : String) (answer : Except StoreFailure Nat)

namespace StoreEntry

/-- The rows that came into a table. -/
def stored (table : String) : StoreEntry → List Row
  | insert name _ (.ok rows) => if name = table then rows else []
  | _ => []

/-- Whether a row of a table was deleted, if it was there. -/
def deletes (table : String) (row : Row) : StoreEntry → Bool
  | delete name tenant (.ok _) => name = table && OwnedBy tenant row
  | _ => false

/-- The ids that were given to rows of a table that had none, in order. -/
def givenIds (table : String) : StoreEntry → List (Option Json)
  | insert name rows (.ok stored) =>
    if name = table then
      ((rows.zip stored).filter fun pair => !hasId pair.1).map fun pair =>
        Fields.get? idColumn pair.2
    else []
  | _ => []

end StoreEntry

/-- Calls and answers, in order. -/
abbrev StoreLog := List StoreEntry

namespace StoreLog

/-- Whether a row of a table stays through a log. -/
def keeps (table : String) (log : StoreLog) (row : Row) : Bool :=
  log.all fun entry => !entry.deletes table row

/-- The rows of a table that a log leaves: those that came into the table, without those that were
deleted later. -/
def rows (table : String) : StoreLog → List Row
  | [] => []
  | entry :: later => (entry.stored table).filter (keeps table later) ++ rows table later

/-- The ids that a table gave out, in order. -/
def givenIds (table : String) (log : StoreLog) : List (Option Json) :=
  log.flatMap (StoreEntry.givenIds table)

end StoreLog

namespace Backend

variable (backend : Backend σ)

/-- The entry of a call, and the store behind it. -/
def answer (store : σ) : StoreCall → StoreEntry × σ
  | .insert table rows =>
    let (answer, store) := backend.insert table rows store
    (.insert table rows answer, store)
  | .delete table tenant =>
    let (answer, store) := backend.delete table tenant store
    (.delete table tenant answer, store)

/-- The store behind calls one after another. -/
def reached (store : σ) (calls : List StoreCall) : σ :=
  calls.foldl (fun store call => (backend.answer store call).2) store

/-- The log of calls one after another. -/
def log (store : σ) : List StoreCall → StoreLog
  | [] => []
  | call :: rest => (backend.answer store call).1 :: log (backend.answer store call).2 rest

variable {backend} {store : σ}

/-- The store behind one more call. -/
theorem reached_concat (calls : List StoreCall) (call : StoreCall) :
    backend.reached store (calls ++ [call]) =
      (backend.answer (backend.reached store calls) call).2 := by
  simp [reached]

/-- The log goes on from the store that the calls before led to. -/
theorem log_append (calls others : List StoreCall) :
    backend.log store (calls ++ others) =
      backend.log store calls ++ backend.log (backend.reached store calls) others := by
  induction calls generalizing store with
  | nil => rfl
  | cons call rest ih =>
    rw [List.cons_append, log, log, List.cons_append, ih]
    rfl

end Backend

/-! ## The answers of a store in memory -/

namespace StoredTable

/-- The rows without an id get the numbers behind those that were given, in order. -/
theorem giveIds_given (assigned : Nat) (rows : List Row) :
    ∃ n, (giveIds assigned rows).1 = assigned + n ∧
      ((rows.zip (giveIds assigned rows).2).filter fun pair => !hasId pair.1).map
          (fun pair => Fields.get? idColumn pair.2) =
        (List.range' (assigned + 1) n).map fun id => some (.integer id) := by
  induction rows generalizing assigned with
  | nil => exact ⟨0, rfl, rfl⟩
  | cons row rest ih =>
    rw [giveIds]
    split
    · next hid =>
      obtain ⟨n, hlast, hgiven⟩ := ih assigned
      exact ⟨n, hlast, by simpa [hid] using hgiven⟩
    · next hid =>
      obtain ⟨n, hlast, hgiven⟩ := ih (assigned + 1)
      refine ⟨n + 1, by rw [hlast]; omega, ?_⟩
      simpa [hid, List.range'_succ] using hgiven

end StoredTable

namespace MemoryStore

variable {rejecting : Option String} {store : MemoryStore} {table : String}

/-- An insert is answered with an error where inserts are rejected, and else with the rows as they
are stored. -/
theorem answer_insert_spec {name : String} {rows : List Row}
    {answer : Except StoreFailure (List Row)}
    (h : ((backend rejecting).insert name rows store).1 = answer) :
    if rejecting = some name then ∃ e, answer = .error e
    else ∃ stored, answer = .ok stored ∧ List.Forall₂ IdFilled rows stored := by
  subst h
  simp only [backend]
  split
  · exact ⟨_, rfl⟩
  · exact ⟨_, rfl, insert_filled⟩

/-- **One call** takes from a table what its entry deletes and appends what came into the table. -/
theorem rows_answer (call : StoreCall) :
    ((backend rejecting).answer store call).2.rows table =
      (store.rows table).filter
          (fun row => !(((backend rejecting).answer store call).1.deletes table row)) ++
        ((backend rejecting).answer store call).1.stored table := by
  cases call with
  | insert name rows =>
    simp only [Backend.answer, backend]
    split
    · simp [StoreEntry.deletes, StoreEntry.stored]
    · by_cases hname : name = table
      · subst hname
        simp [StoreEntry.deletes, StoreEntry.stored, rows_insert_self]
      · simp [StoreEntry.deletes, StoreEntry.stored, hname, rows_insert_of_ne hname]
  | delete name tenant =>
    simp only [Backend.answer, backend]
    by_cases hname : name = table
    · subst hname
      simp [StoreEntry.deletes, StoreEntry.stored, rows_delete_self]
    · simp [StoreEntry.deletes, StoreEntry.stored, hname, rows_delete_of_ne hname]

/-- **One call** gives out the next ids of a table. -/
theorem givenIds_answer (rejecting : Option String) (store : MemoryStore) (call : StoreCall) :
    ∃ n, (((backend rejecting).answer store call).2.table table).assigned =
        (store.table table).assigned + n ∧
      ((backend rejecting).answer store call).1.givenIds table =
        (List.range' ((store.table table).assigned + 1) n).map fun id => some (.integer id) := by
  cases call with
  | insert name rows =>
    simp only [Backend.answer, backend]
    split
    · exact ⟨0, rfl, rfl⟩
    · by_cases hname : name = table
      · subst hname
        obtain ⟨n, hlast, hgiven⟩ := StoredTable.giveIds_given (store.table name).assigned rows
        refine ⟨n, ?_, ?_⟩
        · rw [table_insert_self]
          exact hlast
        · rw [StoreEntry.givenIds, if_pos rfl]
          exact hgiven
      · refine ⟨0, ?_, ?_⟩
        · rw [table_insert_of_ne hname]
          rfl
        · rw [StoreEntry.givenIds, if_neg hname]
          rfl
  | delete name tenant =>
    refine ⟨0, ?_, rfl⟩
    simp only [Backend.answer, backend]
    by_cases hname : name = table
    · subst hname
      rw [table_delete_self]
      rfl
    · rw [table_delete_of_ne hname]
      rfl

/-! ## All calls -/

/-- Calls keep of the rows of a table those that stay through the log, and add those that the log
leaves. -/
theorem rows_reached (store : MemoryStore) (calls : List StoreCall) :
    ((backend rejecting).reached store calls).rows table =
      (store.rows table).filter (StoreLog.keeps table ((backend rejecting).log store calls)) ++
        StoreLog.rows table ((backend rejecting).log store calls) := by
  induction calls generalizing store with
  | nil =>
    have hkeeps : StoreLog.keeps table [] = fun _ => true := rfl
    simp [Backend.reached, Backend.log, hkeeps, StoreLog.rows]
  | cons call rest ih =>
    rw [Backend.log, StoreLog.rows]
    refine (ih _).trans ?_
    rw [rows_answer, List.filter_append, List.filter_filter, List.append_assoc]
    congr 2
    funext row
    simp [StoreLog.keeps, Bool.and_comm]

/-- Calls give out the ids of a table one after another. -/
theorem givenIds_log (store : MemoryStore) (calls : List StoreCall) :
    ∃ n, StoreLog.givenIds table ((backend rejecting).log store calls) =
      (List.range' ((store.table table).assigned + 1) n).map fun id => some (.integer id) := by
  induction calls generalizing store with
  | nil => exact ⟨0, rfl⟩
  | cons call rest ih =>
    obtain ⟨n, hassigned, hgiven⟩ := givenIds_answer rejecting store call
    obtain ⟨m, hrest⟩ := ih ((backend rejecting).answer store call).2
    refine ⟨n + m, ?_⟩
    rw [hassigned, Nat.add_right_comm] at hrest
    rw [Backend.log, StoreLog.givenIds, List.flatMap_cons, ← StoreLog.givenIds, hgiven, hrest,
      ← List.map_append, List.range'_append_1]

/-- An entry of the log is the answer of a store to a call. -/
theorem exists_answer_of_mem_log {entry : StoreEntry} {calls : List StoreCall}
    (h : entry ∈ (backend rejecting).log store calls) :
    ∃ (before : MemoryStore) (call : StoreCall),
      ((backend rejecting).answer before call).1 = entry := by
  induction calls generalizing store with
  | nil => cases h
  | cons call rest ih =>
    rcases List.mem_cons.1 h with rfl | h
    · exact ⟨store, call, rfl⟩
    · exact ih h

/-- **A store in memory is what its log tells.** Of a store that was empty at first, each table
holds the rows that inserts into it gave back, in order, without those whose tenant a later delete
named. An insert is refused exactly where inserts are rejected, and else gives back its rows one by
one, each as it is if it has an id and else with a number as its id; the numbers that a table gave
out are 1, 2 and so on. A delete answers with the number of rows that it took, and an insert that
is refused changes nothing. -/
theorem log_tells (rejecting : Option String) (calls : List StoreCall) :
    let backend := MemoryStore.backend rejecting
    let log := backend.log MemoryStore.empty calls
    let store := backend.reached MemoryStore.empty calls
    (∀ table, store.rows table = StoreLog.rows table log) ∧
    (∀ table rows answer, .insert table rows answer ∈ log →
      if rejecting = some table then ∃ e, answer = .error e
      else ∃ stored, answer = .ok stored ∧ List.Forall₂ IdFilled rows stored) ∧
    (∀ table, ∃ n, StoreLog.givenIds table log =
      (List.range' 1 n).map fun id => some (.integer id)) ∧
    (∀ before table tenant after, calls = before ++ .delete table tenant :: after →
      let old := backend.reached MemoryStore.empty before
      let new := backend.reached MemoryStore.empty (before ++ [.delete table tenant])
      ∃ n later,
        log = backend.log MemoryStore.empty before ++ .delete table tenant (.ok n) :: later ∧
        (old.rows table).length = n + (new.rows table).length) ∧
    ∀ before table rows after, calls = before ++ .insert table rows :: after →
      rejecting = some table →
        backend.reached MemoryStore.empty (before ++ [.insert table rows]) =
          backend.reached MemoryStore.empty before := by
  intro backend log store
  refine ⟨fun table => ?_, fun table rows answer hentry => ?_, fun table => givenIds_log _ calls,
    ?_, ?_⟩
  · exact rows_reached MemoryStore.empty calls
  · obtain ⟨before, call, hanswer⟩ := exists_answer_of_mem_log hentry
    cases call with
    | insert name inserted =>
      cases hanswer
      exact answer_insert_spec rfl
    | delete name tenant => cases hanswer
  · rintro before table tenant after rfl old new
    refine ⟨(old.delete table tenant).1, _, Backend.log_append before _, ?_⟩
    rw [show new = (old.delete table tenant).2 from Backend.reached_concat before _]
    exact count_delete _ _ _
  · rintro before table rows after - hreject
    rw [Backend.reached_concat]
    simp only [Backend.answer, backend, MemoryStore.backend, if_pos hreject]

/-- Three rows, of which the second brings an id that is null and the third one of its own. -/
def firstMarkets : StoreCall :=
  .insert "markets" [[(tenantColumn, .string "acme")],
    [(idColumn, .null), (tenantColumn, .string "globex")],
    [(idColumn, .string "m-1"), (tenantColumn, .string "acme")]]

/-- An insert into a table that rejects inserts. -/
def refusedMarket : StoreCall :=
  .insert "closed" [[(tenantColumn, .string "acme")]]

/-- Behind a refused insert and a delete of the first tenant, its new row gets the third number. -/
theorem log_tells_of_second_insert :
    let backend := MemoryStore.backend (some "closed")
    let calls := [firstMarkets, refusedMarket, .delete "markets" "acme",
      .insert "markets" [[(tenantColumn, .string "acme")]]]
    let log := backend.log MemoryStore.empty calls
    (backend.reached MemoryStore.empty calls).rows "markets" = StoreLog.rows "markets" log ∧
      StoreLog.rows "markets" log =
        [[(idColumn, .integer 2), (tenantColumn, .string "globex")],
          [(tenantColumn, .string "acme"), (idColumn, .integer 3)]] ∧
      (∃ n, StoreLog.givenIds "markets" log =
        (List.range' 1 n).map fun id => some (.integer id)) ∧
      backend.reached MemoryStore.empty [firstMarkets, refusedMarket] =
        backend.reached MemoryStore.empty [firstMarkets] := by
  intro backend calls log
  obtain ⟨hrows, -, hids, -, hrefused⟩ := log_tells (some "closed") calls
  exact ⟨hrows "markets", rfl, hids "markets", hrefused [firstMarkets] _ _ _ rfl rfl⟩

end MemoryStore

end Seedbed
