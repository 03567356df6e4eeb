import Pifp.Indexer.Poll
import Pifp.Indexer.Notifications

/-!
# Ingestion up to the stored cursor

What the indexer's tables hold after any run of the system of `Poll`: the
contract emitting events, ledgers closing, polls that fail at the fetch, part-way
through the inserts or at the save, and restarts. Along every run, every row
is the decoding of an event the RPC served (`RowsFromLog`). The invariant
`Consistent` says that no two rows collide in the unique index, and that the
stored cursor and the loop's cursor each stand for a position before which
every event has a row with its key. It holds from the start and after every
action but a restart whose read of the cursor fails: such a restart polls from
the stored ledger with no cursor.

So every event before the stored cursor has a row with its key, exactly one
when the key has no NULL. The key does not tell events apart: two deposits to
one project in one transaction decode to one key and share a row, and events of
failed calls are stored like any other. Nor does it make re-delivery
harmless: an event whose key has a NULL, such as a verification, which decodes
with no project id, is stored once more each time a poll whose save failed is
repeated, though `insert_events` promises to ignore such repeats.
-/

namespace Pifp.Indexer

section Coverage

variable (config : Config)

/-- Every event of the log before `position`, from the start ledger on, that
decodes has a row with its key; the position is within the log. -/
def CoveredUpTo (log : List RawEvent) (table : List PifpEvent) (position : Nat) : Prop :=
  position ≤ log.length ∧ ∀ event ∈ log.take position, config.startLedger ≤ event.ledger.getD 0 →
    ∀ decoded ∈ decodeSingle event config.contractId, ∃ row ∈ table, row.key = decoded.key

/-- A cursor stands for a position before which every event is stored. -/
def CursorCovers (log : List RawEvent) (table : List PifpEvent) (cursor : String) : Prop :=
  ∃ position, cursorPosition cursor = some position ∧ CoveredUpTo config log table position

variable {config} {log : List RawEvent} {table grown : List PifpEvent} {position : Nat}

/-- Coverage survives new rows. -/
theorem CoveredUpTo.mono (covered : CoveredUpTo config log table position)
    (kept : ∀ row ∈ table, row ∈ grown) : CoveredUpTo config log grown position := by
  refine ⟨covered.1, fun event listed late decoded decodes => ?_⟩
  obtain ⟨row, member, same⟩ := covered.2 event listed late decoded decodes
  exact ⟨row, kept row member, same⟩

/-- Coverage survives new events: they come after every covered position. -/
theorem CoveredUpTo.append (covered : CoveredUpTo config log table position) (event : RawEvent) :
    CoveredUpTo config (log ++ [event]) table position := by
  have within := covered.1
  refine ⟨by simp only [List.length_append]; omega, ?_⟩
  rw [List.take_append_of_le_length covered.1]
  exact covered.2

/-- Nothing before the first event of the start ledger is due. -/
theorem coveredUpTo_firstAtOrAfter (log : List RawEvent) (table : List PifpEvent) :
    CoveredUpTo config log table (firstAtOrAfter config.startLedger log) :=
  ⟨firstAtOrAfter_le_length _ _, fun event listed late =>
    absurd late (Nat.not_le_of_lt (ledger_lt_of_before_first event listed))⟩

/-- Storing every decoded event of a page extends the covered positions over
the page. -/
theorem CoveredUpTo.page (covered : CoveredUpTo config log table position) (limit : Nat)
    (kept : ∀ row ∈ table, row ∈ grown)
    (stored : ∀ decoded ∈ decodeEvents ((log.drop position).take limit) config.contractId,
      ∃ row ∈ grown, row.key = decoded.key) :
    CoveredUpTo config log grown (position + ((log.drop position).take limit).length) := by
  have within := covered.1
  refine ⟨by simp only [List.length_take, List.length_drop]; omega, ?_⟩
  intro event listed late decoded decodes
  rw [List.take_add] at listed
  rcases List.mem_append.mp listed with before | paged
  · exact (covered.mono kept).2 event before late decoded decodes
  · have shorter : ((log.drop position).take limit).length ≤ limit := List.length_take_le _ _
    exact stored decoded
      (List.mem_filterMap.mpr ⟨event, List.take_subset_take_left _ shorter paged, decodes⟩)

/-- A cursor's coverage survives new rows. -/
theorem CursorCovers.mono {cursor : String} (covers : CursorCovers config log table cursor)
    (kept : ∀ row ∈ table, row ∈ grown) : CursorCovers config log grown cursor :=
  let ⟨position, read, covered⟩ := covers
  ⟨position, read, covered.mono kept⟩

/-- A cursor's coverage survives new events. -/
theorem CursorCovers.append {cursor : String} (covers : CursorCovers config log table cursor)
    (event : RawEvent) : CursorCovers config (log ++ [event]) table cursor :=
  let ⟨position, read, covered⟩ := covers
  ⟨position, read, covered.append event⟩

/-- A poll starting from a cursor that covers, or from the start ledger without
one, starts at a covered position. -/
theorem covered_of_startPosition {ledger : Nat} {cursor : Option String}
    (running : ∀ text, cursor = some text → CursorCovers config log table text)
    (fresh : cursor = none → ledger = config.startLedger)
    (started : startPosition log ledger cursor = some position) :
    CoveredUpTo config log table position := by
  cases cursor with
  | some text =>
    obtain ⟨read, parsed, covered⟩ := running text rfl
    exact Option.some.inj (parsed.symm.trans started) ▸ covered
  | none =>
    cases fresh rfl
    cases started
    exact coveredUpTo_firstAtOrAfter log table

end Coverage

section Invariant

/-- Whether an action finds the stored cursor when it needs it: every action
but a restart whose read of the cursor fails. -/
def Action.resumesFromCursor : Action → Bool
  | .restart _ cursorReadFails => !cursorReadFails
  | _ => true

/-- Every row of the table decodes an event of the log. -/
def IndexerSys.RowsFromLog (config : Config) (sys : IndexerSys) : Prop :=
  ∀ row ∈ sys.db.events, ∃ event ∈ sys.chain.log, decodeSingle event config.contractId = some row

/-- What holds at every point of a run whose restarts read the stored cursor
back: no two rows collide in the unique index, the stored cursor and the loop's
cursor each cover the events before them, a loop without a cursor starts from
the configured ledger, and a cursor row without a cursor holds ledger `0`. -/
structure IndexerSys.Consistent (config : Config) (sys : IndexerSys) : Prop where
  unique : NoConflicts sys.db.events
  persisted : ∀ cursor, sys.db.getCursorString = some cursor →
    CursorCovers config sys.chain.log sys.db.events cursor
  running : ∀ cursor, sys.loop.cursor = some cursor →
    CursorCovers config sys.chain.log sys.db.events cursor
  fresh : sys.loop.cursor = none → sys.loop.currentLedger = config.startLedger
  seeded : sys.db.getCursorString = none → sys.db.getLastLedger = 0

variable {config : Config} {sys : IndexerSys}

/-- After a cursor is saved, it is the stored cursor, and a row without a
stored cursor is no row at all. -/
theorem Db.saved {before after : Db} {ledger : Int} {text : String}
    (saved : after.cursorRow = before.cursorRow.map fun _ => ⟨ledger, some text⟩) :
    (∀ cursor, after.getCursorString = some cursor → cursor = text) ∧
      (after.getCursorString = none → after.getLastLedger = 0) := by
  cases known : before.cursorRow <;> simp [Db.getCursorString, Db.getLastLedger, saved, known, eq_comm]

/-- Every action keeps every row a decoding of the log: the log only grows, and
a poll inserts only decodings of events the RPC served, wherever it fails. -/
theorem IndexerSys.RowsFromLog.step (rows : sys.RowsFromLog config) (action : Action) :
    (sys.step config action).RowsFromLog config := by
  intro row member
  cases action with
  | poll faults =>
    obtain ⟨inserted, fromLog, stored, -⟩ :=
      pollOnce_spec config sys.chain sys.db sys.loop.currentLedger sys.loop.cursor faults
    rw [IndexerSys.step_poll_db, stored] at member
    simp only [IndexerSys.step_log, Action.emitted?, Option.toList, List.append_nil]
    exact (insertEvents_sound member).elim (rows row) (fromLog row)
  | _ =>
    obtain ⟨event, listed, decoded⟩ := rows row member
    exact ⟨event, by simp [IndexerSys.step_log, listed], decoded⟩

/-- Along every run, whatever fails and however restarts read back, every row
decodes an event of the log. -/
theorem IndexerSys.RowsFromLog.run (rows : sys.RowsFromLog config) (actions : List Action) :
    (sys.run config actions).RowsFromLog config := by
  induction actions generalizing sys with
  | nil => exact rows
  | cons action actions inductionHypothesis => exact inductionHypothesis (rows.step action)

/-- A new indexer has no rows. -/
theorem IndexerSys.rowsFromLog_initial (config : Config) :
    (IndexerSys.initial config).RowsFromLog config :=
  fun _ member => (nomatch member)

/-- A new indexer is consistent. -/
theorem IndexerSys.consistent_initial (config : Config) :
    (IndexerSys.initial config).Consistent config where
  unique := List.Pairwise.nil
  persisted _ read := nomatch read
  running _ read := nomatch read
  fresh _ := rfl
  seeded _ := rfl

namespace IndexerSys.Consistent

/-- The contract emitting an event keeps the invariant. -/
theorem emit (consistent : sys.Consistent config) (event : RawEvent) :
    (sys.step config (.emit event)).Consistent config where
  unique := consistent.unique
  persisted cursor read := (consistent.persisted cursor read).append event
  running cursor read := (consistent.running cursor read).append event
  fresh := consistent.fresh
  seeded := consistent.seeded

/-- The network closing a ledger keeps the invariant. -/
theorem close (consistent : sys.Consistent config) (ledger : Nat) :
    (sys.step config (.close ledger)).Consistent config :=
  ⟨consistent.unique, consistent.persisted, consistent.running, consistent.fresh, consistent.seeded⟩

/-- A restart that reads the stored cursor back resumes from it, or from the
configured ledger when none is stored. -/
theorem restart (consistent : sys.Consistent config) (ledgerReadFails : Bool) :
    (sys.step config (.restart ledgerReadFails false)).Consistent config where
  unique := consistent.unique
  persisted := consistent.persisted
  running := consistent.persisted
  fresh absent := by
    have unsaved : sys.db.getLastLedger = 0 := consistent.seeded absent
    simp [IndexerSys.step, resume, unsaved]
  seeded := consistent.seeded

/-- A poll keeps the invariant whatever fails: the table only gains decoded
events of the log, and when the poll returns, the page it inserted lies
between the old cursor and the new one. -/
theorem poll (consistent : sys.Consistent config) (faults : Faults) :
    (sys.step config (.poll faults)).Consistent config := by
  obtain ⟨inserted, -, stored, kept, saved⟩ :=
    pollOnce_spec config sys.chain sys.db sys.loop.currentLedger sys.loop.cursor faults
  simp only [IndexerSys.step, Loop.iterate]
  generalize pollOnce config sys.chain sys.db sys.loop.currentLedger sys.loop.cursor faults = outcome
    at stored kept saved
  obtain ⟨after, result⟩ := outcome
  dsimp only at stored kept saved
  have grown : ∀ row ∈ sys.db.events, row ∈ after.events :=
    fun _ member => stored ▸ insertEvents_keeps member
  have unique : NoConflicts after.events := stored ▸ insertEvents_noConflicts consistent.unique
  cases result with
  | none =>
    have row := kept rfl
    have same : after.getCursorString = sys.db.getCursorString := by simp [Db.getCursorString, row]
    exact ⟨unique, fun cursor read => (consistent.persisted cursor (same ▸ read)).mono grown,
      fun cursor read => (consistent.running cursor read).mono grown, consistent.fresh,
      fun absent => by simpa [Db.getLastLedger, row] using consistent.seeded (same ▸ absent)⟩
  | some returned =>
    obtain ⟨ledger, nextCursor⟩ := returned
    obtain ⟨-, row, position, started, -, rfl, rfl⟩ := saved ledger nextCursor rfl
    have advanced : CursorCovers config sys.chain.log after.events
        (toString (position + ((sys.chain.log.drop position).take config.eventsPerPage).length)) := by
      refine ⟨_, cursorPosition_toString _, ?_⟩
      exact (covered_of_startPosition consistent.running consistent.fresh started).page _ grown
        fun decoded listed => stored ▸ insertEvents_covers listed
    exact ⟨unique, fun cursor read => (Db.saved row).1 cursor read ▸ advanced,
      fun cursor read => Option.some.inj read ▸ advanced, fun absent => (nomatch absent),
      (Db.saved row).2⟩

/-- The invariant holds after any action that finds the stored cursor. -/
theorem step (consistent : sys.Consistent config) {action : Action}
    (resumes : action.resumesFromCursor = true) : (sys.step config action).Consistent config := by
  cases action with
  | emit event => exact consistent.emit event
  | close ledger => exact consistent.close ledger
  | poll faults => exact consistent.poll faults
  | restart ledgerReadFails cursorReadFails =>
    obtain rfl : cursorReadFails = false := by simpa [Action.resumesFromCursor] using resumes
    exact consistent.restart ledgerReadFails

/-- The invariant holds along every run whose restarts find the stored cursor. -/
theorem run (consistent : sys.Consistent config) {actions : List Action}
    (resumable : ∀ action ∈ actions, action.resumesFromCursor = true) :
    (sys.run config actions).Consistent config := by
  induction actions generalizing sys with
  | nil => exact consistent
  | cons action actions inductionHypothesis =>
    exact inductionHypothesis (consistent.step (resumable action (.head _)))
      fun later listed => resumable later (.tail _ listed)

end IndexerSys.Consistent

end Invariant

section ExactlyOnce

/-- A table free of collisions has at most one row with a given key without
NULLs. -/
theorem countP_key_le_one {table : List PifpEvent} {event : PifpEvent} (unique : NoConflicts table)
    (complete : event.keyComplete = true) : table.countP (fun row => row.key = event.key) ≤ 1 := by
  induction table with
  | nil => simp
  | cons stored table inductionHypothesis =>
    obtain ⟨free, rest⟩ := List.pairwise_cons.mp unique
    by_cases keyed : stored.key = event.key
    · have storedComplete : stored.keyComplete = true := by
        rw [PifpEvent.keyComplete_of_key_eq keyed, complete]
      have alone : table.countP (fun row => row.key = event.key) = 0 :=
        List.countP_eq_zero.mpr fun row member same => by
          have collides := (PifpEvent.conflicts_iff storedComplete).mpr
            (keyed.trans (of_decide_eq_true same).symm)
          simp [free row member] at collides
      simp [keyed, alone]
    · simpa [keyed] using inductionHypothesis rest

/-- What exactly-once ingestion up to the stored cursor asks of a state: no two
rows collide in the unique index, every row decodes an event of the log, and
every event before the stored cursor's position, from the start ledger on, that
decodes has a row with its key, exactly one when the key has no NULL. -/
def IngestedUpToCursor (config : Config) (sys : IndexerSys) : Prop :=
  NoConflicts sys.db.events ∧
    (∀ row ∈ sys.db.events,
      ∃ event ∈ sys.chain.log, decodeSingle event config.contractId = some row) ∧
    ∀ position, sys.persistedPosition = some position →
      position ≤ sys.chain.log.length ∧
      ∀ event ∈ sys.chain.log.take position, config.startLedger ≤ event.ledger.getD 0 →
        ∀ decoded ∈ decodeSingle event config.contractId,
          0 < sys.db.events.countP (fun row => row.key = decoded.key) ∧
          (decoded.keyComplete = true → sys.db.events.countP (fun row => row.key = decoded.key) = 1)

/-- A consistent state whose rows decode the log is ingested up to its stored
cursor. -/
theorem IndexerSys.Consistent.ingested {config : Config} {sys : IndexerSys}
    (consistent : sys.Consistent config) (rows : sys.RowsFromLog config) :
    IngestedUpToCursor config sys := by
  refine ⟨consistent.unique, rows, fun position read => ?_⟩
  obtain ⟨cursor, stored, positioned⟩ := Option.bind_eq_some.mp read
  obtain ⟨parsed, standsFor, covered⟩ := consistent.persisted cursor stored
  cases standsFor.symm.trans positioned
  refine ⟨covered.1, fun event listed late decoded decodes => ?_⟩
  obtain ⟨row, member, same⟩ := covered.2 event listed late decoded decodes
  have present : 0 < sys.db.events.countP (fun row => row.key = decoded.key) :=
    List.countP_pos_iff.mpr ⟨row, member, by simpa using same⟩
  exact ⟨present, fun complete => le_antisymm (countP_key_le_one consistent.unique complete) present⟩

open Pifp

/-- Where a sample event is published. -/
def sampleContext (txHash : String) (ledger : Nat) (successful : Bool) : EventContext :=
  ⟨"CPIFP", some txHash, ledger, "2024-01-01T00:00:00Z", successful⟩

/-- The first of two deposits to project 0 in one transaction, as `deposit`
publishes it. -/
def firstDeposit : RawEvent :=
  renderEvent (sampleContext "tx1" 5 true)
    ⟨[.symbol "donation_received", .u64 0], .vec [.address sampleDonator, .i128 1000]⟩

/-- The second deposit of the transaction, by another donator. -/
def secondDeposit : RawEvent :=
  renderEvent (sampleContext "tx1" 5 true)
    ⟨[.symbol "donation_received", .u64 0], .vec [.address sampleAdmin, .i128 250]⟩

/-- A verification of project 0, as `verify_and_release` publishes it. -/
def verification : RawEvent :=
  renderEvent (sampleContext "tx2" 6 true) ⟨[.symbol "verified"], .u64 0⟩

/-- A deposit in a call that failed. -/
def failedDeposit : RawEvent :=
  renderEvent (sampleContext "tx3" 7 false)
    ⟨[.symbol "donation_received", .u64 0], .vec [.address sampleDonator, .i128 5]⟩

/-- The four events, a poll whose save fails, a restart, and a poll that
succeeds. -/
def redeliveryTrace : List Action :=
  [.emit firstDeposit, .emit secondDeposit, .emit verification, .emit failedDeposit, .close 7,
    .poll ⟨false, none, true⟩, .restart false false, .poll Faults.none]

/-- The indexer after the trace. -/
def redeliveredSys : IndexerSys :=
  (IndexerSys.initial sampleIndexerConfig).run sampleIndexerConfig redeliveryTrace

/-- Ingestion over every run whose restarts read the stored cursor back, with
fetches, inserts and saves failing anywhere: the state is ingested up to the
stored cursor. -/
theorem ingestion_from_persisted_cursor (config : Config) (actions : List Action)
    (resumable : ∀ action ∈ actions, action.resumesFromCursor = true) :
    IngestedUpToCursor config ((IndexerSys.initial config).run config actions) :=
  ((IndexerSys.consistent_initial config).run resumable).ingested
    ((IndexerSys.rowsFromLog_initial config).run actions)

/-- The verification's event is delivered again after the save of the cursor
fails, and stored a second time: it decodes with no project id, and
`INSERT OR IGNORE` ignores no row with a NULL in its key
(`insertOrIgnore_incomplete`). The log holds it once, before the stored cursor.
Beside it, the two deposits of one transaction share one row and the failed
call's deposit has one. -/
theorem redelivered_verification_stored_twice :
    redeliveredSys.chain.log = [firstDeposit, secondDeposit, verification, failedDeposit] ∧
      redeliveredSys.persistedPosition = some 4 ∧
      decodeEvents [verification] sampleIndexerConfig.contractId =
        [recordOf (sampleContext "tx2" 6 true) "project_verified" none none none] ∧
      (recordOf (sampleContext "tx2" 6 true) "project_verified" none none none).keyComplete = false ∧
      redeliveredSys.db.events =
        [recordOf (sampleContext "tx1" 5 true) "unknown" (some "0") none none,
          recordOf (sampleContext "tx2" 6 true) "project_verified" none none none,
          recordOf (sampleContext "tx3" 7 false) "unknown" (some "0") none none,
          recordOf (sampleContext "tx2" 6 true) "project_verified" none none none] :=
  ⟨rfl, by decide, verified_event_decoded _ _ 0, rfl, by decide⟩

end ExactlyOnce

end Pifp.Indexer
