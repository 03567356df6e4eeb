import Pifp.Indexer.Rpc

/-!
# The indexer's database

`db.rs` of the indexer over two tables. `events` holds the decoded events, in
insertion order, under a unique key on `(ledger, tx_hash, event_type,
project_id)`; `INSERT OR IGNORE` skips an event whose key is already stored.
As in SQL, a NULL in a key equals nothing, so an event without a transaction
hash or a project id never conflicts and is stored every time it is inserted.
`indexer_cursor` has one row, id 1, holding the last ledger and the pagination
cursor; `save_cursor` updates that row and changes nothing when it is missing.
The migrations that create the tables are not in the repository: the row is
taken to be created with ledger 0 and no cursor.

`insert_events` runs one statement per event with no transaction around them,
so a statement that fails leaves the earlier ones' rows in place.
-/

namespace Pifp.Indexer

/-- The key of the unique index on `events`. -/
def PifpEvent.key (event : PifpEvent) : Int × Option String × String × Option String :=
  (event.ledger, event.txHash, event.eventType, event.projectId)

/-- Two SQL values equal under the unique index: both present and equal. -/
def sqlEq {α : Type} [DecidableEq α] : Option α → Option α → Bool
  | some first, some second => decide (first = second)
  | _, _ => false

/-- Whether two events collide in the unique index. -/
def PifpEvent.conflicts (stored event : PifpEvent) : Bool :=
  decide (stored.ledger = event.ledger) && sqlEq stored.txHash event.txHash &&
    decide (stored.eventType = event.eventType) && sqlEq stored.projectId event.projectId

/-- Whether a key has no NULL in it. -/
def PifpEvent.keyComplete (event : PifpEvent) : Bool :=
  event.txHash.isSome && event.projectId.isSome

/-- The row `indexer_cursor` keeps under id 1. -/
structure CursorRow where
  lastLedger : Int
  lastCursor : Option String
  deriving DecidableEq

/-- The database: the `events` table in insertion order and the cursor row. -/
structure Db where
  events : List PifpEvent
  cursorRow : Option CursorRow

/-- A new database: no events, and the cursor row at ledger 0 with no cursor. -/
def Db.initial : Db := ⟨[], some ⟨0, none⟩⟩

/-- `get_last_ledger`: the stored ledger, `0` without a row. -/
def Db.getLastLedger (db : Db) : Int :=
  (db.cursorRow.map CursorRow.lastLedger).getD 0

/-- `get_cursor_string`: the stored cursor, if any. -/
def Db.getCursorString (db : Db) : Option String :=
  db.cursorRow.bind CursorRow.lastCursor

/-- `save_cursor`: `UPDATE ... WHERE id = 1`. -/
def Db.saveCursor (db : Db) (lastLedger : Int) (lastCursor : Option String) : Db :=
  { db with cursorRow := db.cursorRow.map fun _ => ⟨lastLedger, lastCursor⟩ }

/-- One `INSERT OR IGNORE` and the rows it affected. -/
def insertOrIgnore (table : List PifpEvent) (event : PifpEvent) : List PifpEvent × Nat :=
  if table.any fun stored => stored.conflicts event then (table, 0) else (table ++ [event], 1)

/-- `insert_events` when every statement succeeds: the table and the count of
rows inserted. -/
def insertEvents (table : List PifpEvent) : List PifpEvent → List PifpEvent × Nat
  | [] => (table, 0)
  | event :: events =>
    let (table, first) := insertOrIgnore table event
    let (table, rest) := insertEvents table events
    (table, first + rest)

/-- No two rows of a table collide in the unique index. -/
def NoConflicts (table : List PifpEvent) : Prop :=
  table.Pairwise fun stored event => stored.conflicts event = false

/-- A decoded deposit with its whole key. -/
def sampleRow : PifpEvent :=
  ⟨"project_funded", some "0", some "GDONOR", some "1000", 5, 1704067200, "CPIFP", some "tx1"⟩

section Properties

variable {table : List PifpEvent} {event : PifpEvent} {events : List PifpEvent}

/-- Values equal under the index are equal. -/
theorem sqlEq_eq {α : Type} [DecidableEq α] {first second : Option α}
    (same : sqlEq first second = true) : first = second := by
  cases first <;> cases second <;> simp_all [sqlEq]

/-- Colliding events have the same key. -/
theorem PifpEvent.key_eq_of_conflicts {stored : PifpEvent} (conflict : stored.conflicts event = true) :
    stored.key = event.key := by
  simp only [PifpEvent.conflicts, Bool.and_eq_true, decide_eq_true_eq] at conflict
  obtain ⟨⟨⟨ledgers, hashes⟩, types⟩, projects⟩ := conflict
  simp [PifpEvent.key, ledgers, sqlEq_eq hashes, types, sqlEq_eq projects]

/-- Events with one key agree on whether it has a NULL. -/
theorem PifpEvent.keyComplete_of_key_eq {stored : PifpEvent} (same : stored.key = event.key) :
    stored.keyComplete = event.keyComplete := by
  simp only [PifpEvent.key, Prod.mk.injEq] at same
  simp [PifpEvent.keyComplete, same.2.1, same.2.2.2]

/-- A stored row whose key has no NULL conflicts with an event exactly when
their keys are equal. -/
theorem PifpEvent.conflicts_iff {stored : PifpEvent} (complete : stored.keyComplete = true) :
    stored.conflicts event = true ↔ stored.key = event.key := by
  refine ⟨PifpEvent.key_eq_of_conflicts, fun same => ?_⟩
  simp only [PifpEvent.keyComplete, Bool.and_eq_true, Option.isSome_iff_exists] at complete
  obtain ⟨⟨hash, hashed⟩, ⟨project, projected⟩⟩ := complete
  simp only [PifpEvent.key, Prod.mk.injEq] at same
  obtain ⟨ledgers, hashes, types, projects⟩ := same
  simp [PifpEvent.conflicts, ledgers, ← hashes, types, ← projects, hashed, projected, sqlEq]

/-- A stored row is never removed, and after the insert some row has the
event's key. -/
theorem insertOrIgnore_spec (table : List PifpEvent) (event : PifpEvent) :
    (∀ row ∈ table, row ∈ (insertOrIgnore table event).1) ∧
      ∃ row ∈ (insertOrIgnore table event).1, row.key = event.key := by
  unfold insertOrIgnore
  split
  · next present =>
    obtain ⟨stored, member, conflict⟩ := List.any_eq_true.mp present
    exact ⟨fun _ => id, stored, member, PifpEvent.key_eq_of_conflicts conflict⟩
  · exact ⟨fun row member => List.mem_append_left _ member, event, by simp, rfl⟩

/-- What one `INSERT OR IGNORE` does to the table: nothing, or it appends the
event, which then collides with no stored row. -/
theorem insertOrIgnore_table (table : List PifpEvent) (event : PifpEvent) :
    (insertOrIgnore table event).1 = table ∨
      ((insertOrIgnore table event).1 = table ++ [event] ∧
        ∀ stored ∈ table, stored.conflicts event = false) := by
  unfold insertOrIgnore
  split
  · exact .inl rfl
  · next absent => exact .inr ⟨rfl, by simpa using absent⟩

theorem insertEvents_cons (table : List PifpEvent) (event : PifpEvent) (events : List PifpEvent) :
    (insertEvents table (event :: events)).1 = (insertEvents (insertOrIgnore table event).1 events).1 :=
  rfl

/-- `insert_events` never removes a row. -/
theorem insertEvents_keeps {row : PifpEvent} (kept : row ∈ table) :
    row ∈ (insertEvents table events).1 := by
  induction events generalizing table with
  | nil => exact kept
  | cons event events inductionHypothesis =>
    rw [insertEvents_cons]
    exact inductionHypothesis ((insertOrIgnore_spec table event).1 row kept)

/-- After `insert_events`, every event it was given has a row with its key. -/
theorem insertEvents_covers {event : PifpEvent} (listed : event ∈ events) :
    ∃ row ∈ (insertEvents table events).1, row.key = event.key := by
  induction events generalizing table with
  | nil => cases listed
  | cons first events inductionHypothesis =>
    rw [insertEvents_cons]
    rcases List.mem_cons.mp listed with rfl | later
    · obtain ⟨row, member, same⟩ := (insertOrIgnore_spec table event).2
      exact ⟨row, insertEvents_keeps member, same⟩
    · exact inductionHypothesis later

/-- Every row after `insert_events` was stored before or given to it. -/
theorem insertEvents_sound {row : PifpEvent} (member : row ∈ (insertEvents table events).1) :
    row ∈ table ∨ row ∈ events := by
  induction events generalizing table with
  | nil => exact .inl member
  | cons event events inductionHypothesis =>
    rw [insertEvents_cons] at member
    rcases inductionHypothesis member with old | later
    · rcases insertOrIgnore_table table event with same | ⟨appended, -⟩
      · exact .inl (same ▸ old)
      · rw [appended] at old
        rcases List.mem_append.mp old with kept | added
        · exact .inl kept
        · exact .inr (by simp_all)
    · exact .inr (.tail _ later)

/-- `insert_events` keeps the unique index free of collisions. -/
theorem insertEvents_noConflicts (unique : NoConflicts table) :
    NoConflicts (insertEvents table events).1 := by
  induction events generalizing table with
  | nil => exact unique
  | cons event events inductionHypothesis =>
    rw [insertEvents_cons]
    apply inductionHypothesis
    rcases insertOrIgnore_table table event with same | ⟨appended, free⟩
    · rwa [same]
    · rw [appended, NoConflicts, List.pairwise_append]
      exact ⟨unique, List.pairwise_singleton _ _, fun stored member _ added => by
        rw [List.mem_singleton.mp added]; exact free stored member⟩

/-- An event that collides with a stored row is ignored. -/
theorem insertOrIgnore_of_conflict (present : ∃ stored ∈ table, stored.conflicts event = true) :
    insertOrIgnore table event = (table, 0) := by
  simp [insertOrIgnore, List.any_eq_true.mpr present]

/-- A NULL equals nothing under the index. -/
@[simp] theorem sqlEq_none {α : Type} [DecidableEq α] (first : Option α) : sqlEq first none = false := by
  cases first <;> rfl

/-- A row with a NULL in its key collides with no stored row: `INSERT OR
IGNORE` stores it whatever the table holds, an equal row included. -/
theorem insertOrIgnore_incomplete (table : List PifpEvent) (incomplete : event.keyComplete = false) :
    insertOrIgnore table event = (table ++ [event], 1) := by
  have null : event.txHash = none ∨ event.projectId = none := by
    unfold PifpEvent.keyComplete at incomplete
    cases hashed : event.txHash <;> cases projected : event.projectId <;> simp_all
  have free : ∀ stored ∈ table, stored.conflicts event = false := by
    rcases null with hashless | projectless <;> simp [PifpEvent.conflicts, *]
  unfold insertOrIgnore
  rw [if_neg (by simpa using free)]

/-- Each delivery of a row with a NULL in its key stores it once more: the
table ends with as many copies as it had plus as many as were delivered. -/
theorem insertEvents_count_incomplete (table events : List PifpEvent)
    (incomplete : event.keyComplete = false) :
    (insertEvents table events).1.count event = table.count event + events.count event := by
  induction events generalizing table with
  | nil => rfl
  | cons first events inductionHypothesis =>
    rw [insertEvents_cons, inductionHypothesis, List.count_cons]
    by_cases same : first = event
    · subst same
      rw [insertOrIgnore_incomplete table incomplete, List.count_append, List.count_singleton_self]
      simp only [beq_self_eq_true, ↓reduceIte]
      omega
    · have other : (first == event) = false := beq_false_of_ne same
      rcases insertOrIgnore_table table first with unchanged | ⟨appended, -⟩
      · rw [unchanged, other]
        rfl
      · rw [appended, List.count_append, List.count_singleton, other]
        rfl

/-- Re-delivering events whose keys have no NULL leaves the table as it was:
each of them already has a row it collides with. -/
theorem insertEvents_redelivered (table events : List PifpEvent)
    (complete : ∀ event ∈ events, event.keyComplete = true) :
    (insertEvents (insertEvents table events).1 events).1 = (insertEvents table events).1 := by
  have present : ∀ event ∈ events,
      ∃ stored ∈ (insertEvents table events).1, stored.conflicts event = true := by
    intro event listed
    obtain ⟨row, member, same⟩ : ∃ row ∈ (insertEvents table events).1, row.key = event.key :=
      insertEvents_covers listed
    have rowComplete : row.keyComplete = true := by
      rw [PifpEvent.keyComplete_of_key_eq same, complete event listed]
    exact ⟨row, member, (PifpEvent.conflicts_iff rowComplete).mpr same⟩
  generalize (insertEvents table events).1 = stored at present ⊢
  induction events with
  | nil => rfl
  | cons event events inductionHypothesis =>
    rw [insertEvents_cons, insertOrIgnore_of_conflict (present event (.head _))]
    exact inductionHypothesis (fun later listed => complete later (.tail _ listed))
      fun later listed => present later (.tail _ listed)

theorem insertEvents_redelivered_sample :
    (∀ event ∈ [sampleRow], event.keyComplete = true) ∧
      (insertEvents (insertEvents [] [sampleRow]).1 [sampleRow]).1 = (insertEvents [] [sampleRow]).1 :=
  ⟨by decide, insertEvents_redelivered _ _ (by decide)⟩

end Properties

end Pifp.Indexer
