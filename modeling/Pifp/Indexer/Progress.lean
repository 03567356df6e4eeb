import Pifp.Indexer.Ingestion

/-!
# Fault-free polls catch up

`Ingestion` is safety, whatever fails; this is the matching progress. From any
state a run reaches whose restarts read the stored cursor back, a poll that
does not fail reads the next page, and the loop and the stored cursor both move
past it. A page holds at most `events_per_page` events, so with a positive
page size each such poll moves at least one event on, or stands at the end of
the log. After as many polls as the log has events, and one more, the stored
cursor stands for the end of the log, and every event the RPC served from the
start ledger on is ingested.

A page size of `0` is left out: the model's RPC then serves empty pages, and
what the real one does with a zero limit is its own choice.
-/

namespace Pifp.Indexer

/-- Where the loop's next poll starts reading. -/
def IndexerSys.nextPosition (sys : IndexerSys) : Option Nat :=
  startPosition sys.chain.log sys.loop.currentLedger sys.loop.cursor

/-- Polls that do not fail. -/
def faultlessPolls (count : Nat) : List Action :=
  List.replicate count (.poll Faults.none)

/-- The state after as many fault-free polls as the log has events, and one
more. -/
def IndexerSys.caughtUp (config : Config) (sys : IndexerSys) : IndexerSys :=
  sys.run config (faultlessPolls (sys.chain.log.length + 1))

/-- The states reached by runs whose restarts read the stored cursor back. -/
def IndexerSys.Reached (config : Config) (sys : IndexerSys) : Prop :=
  ∃ actions, (∀ action ∈ actions, action.resumesFromCursor = true) ∧
    sys = (IndexerSys.initial config).run config actions

variable {config : Config} {sys : IndexerSys}

theorem IndexerSys.run_faultlessPolls_succ (sys : IndexerSys) (count : Nat) :
    sys.run config (faultlessPolls (count + 1)) =
      (sys.step config (.poll Faults.none)).run config (faultlessPolls count) := rfl

/-- Fault-free polls find the stored cursor. -/
theorem faultlessPolls_resume (count : Nat) :
    ∀ action ∈ faultlessPolls count, action.resumesFromCursor = true := by
  intro action listed
  rw [faultlessPolls, List.mem_replicate] at listed
  rw [listed.2]
  rfl

namespace IndexerSys.Consistent

/-- A consistent loop has a position to read from, within the log. -/
theorem nextPosition_within (consistent : sys.Consistent config) :
    ∃ position, sys.nextPosition = some position ∧ position ≤ sys.chain.log.length := by
  cases cursor : sys.loop.cursor with
  | some text =>
    obtain ⟨position, parsed, covered⟩ := consistent.running text cursor
    exact ⟨position, by simp [IndexerSys.nextPosition, cursor, startPosition, parsed], covered.1⟩
  | none =>
    exact ⟨_, by simp [IndexerSys.nextPosition, cursor, startPosition],
      firstAtOrAfter_le_length sys.loop.currentLedger sys.chain.log⟩

/-- A poll that does not fail, from a state with a cursor row, reads the next
page: the loop and the stored cursor both move past it, and the log stays. -/
theorem poll_advances (consistent : sys.Consistent config) (row : sys.db.cursorRow.isSome)
    {position : Nat} (next : sys.nextPosition = some position) :
    (sys.step config (.poll Faults.none)).chain = sys.chain ∧
      (sys.step config (.poll Faults.none)).nextPosition =
        some (position + ((sys.chain.log.drop position).take config.eventsPerPage).length) ∧
      (sys.step config (.poll Faults.none)).persistedPosition =
        some (position + ((sys.chain.log.drop position).take config.eventsPerPage).length) := by
  have within := (covered_of_startPosition consistent.running consistent.fresh next).1
  obtain ⟨ledger, returned⟩ := @pollOnce_faultless config _ sys.db _ _ _ next within
  obtain ⟨_, -, -, -, saved⟩ :=
    pollOnce_spec config sys.chain sys.db sys.loop.currentLedger sys.loop.cursor Faults.none
  obtain ⟨-, written, -⟩ := saved ledger _ returned
  obtain ⟨stored, known⟩ := Option.isSome_iff_exists.mp row
  refine ⟨by simp only [IndexerSys.step, Loop.iterate], ?_⟩
  simp only [IndexerSys.step, Loop.iterate]
  generalize pollOnce config sys.chain sys.db sys.loop.currentLedger sys.loop.cursor Faults.none =
    outcome at returned written
  obtain ⟨after, result⟩ := outcome
  dsimp only at returned written
  subst returned
  refine ⟨cursorPosition_toString _, ?_⟩
  simp only [IndexerSys.persistedPosition, Db.getCursorString, written, known, Option.map_some',
    Option.some_bind, cursorPosition_toString]

/-- With a positive page size, fault-free polls move the loop and the stored
cursor at least one event a poll, up to the end of the log. -/
theorem faultless_polls (consistent : sys.Consistent config) (row : sys.db.cursorRow.isSome)
    (positive : 0 < config.eventsPerPage) {position : Nat} (next : sys.nextPosition = some position)
    (count : Nat) :
    ∃ reached, (sys.run config (faultlessPolls (count + 1))).persistedPosition = some reached ∧
      (sys.run config (faultlessPolls (count + 1))).nextPosition = some reached ∧
      (sys.run config (faultlessPolls (count + 1))).chain = sys.chain ∧
      min sys.chain.log.length (position + count + 1) ≤ reached := by
  induction count generalizing sys position with
  | zero =>
    obtain ⟨chain, advanced, persisted⟩ := consistent.poll_advances row next
    refine ⟨_, persisted, advanced, chain, ?_⟩
    rw [List.length_take, List.length_drop]
    omega
  | succ count inductionHypothesis =>
    obtain ⟨chain, advanced, -⟩ := consistent.poll_advances row next
    have steppedRow : (sys.step config (.poll Faults.none)).db.cursorRow.isSome := by
      rw [IndexerSys.step_cursorRow_isSome]
      exact row
    obtain ⟨reached, persistedAt, nextAt, sameChain, bound⟩ :=
      inductionHypothesis (consistent.poll Faults.none) steppedRow advanced
    rw [IndexerSys.run_faultlessPolls_succ]
    refine ⟨reached, persistedAt, nextAt, sameChain.trans chain, ?_⟩
    rw [chain, List.length_take, List.length_drop] at bound
    omega

end IndexerSys.Consistent

/-- Progress: from every state a run reaches whose restarts read the stored
cursor back, with fetches, inserts and saves failing anywhere before, fault-free
polls as many as the log has events, and one more, bring the stored cursor to
the end of the log without changing it, and the state is then ingested up to
that cursor: every event of the log from the start ledger on that decodes has a
row with its key, exactly one when the key has no NULL. -/
theorem faultless_polls_ingest_log (positive : 0 < config.eventsPerPage)
    (reached : sys.Reached config) :
    (sys.caughtUp config).chain = sys.chain ∧
      (sys.caughtUp config).persistedPosition = some sys.chain.log.length ∧
      IngestedUpToCursor config (sys.caughtUp config) := by
  obtain ⟨actions, resumable, rfl⟩ := reached
  have consistent := (IndexerSys.consistent_initial config).run resumable
  have rows := (IndexerSys.rowsFromLog_initial config).run actions
  have row : ((IndexerSys.initial config).run config actions).db.cursorRow.isSome := by
    rw [IndexerSys.run_cursorRow_isSome]
    rfl
  obtain ⟨position, next, -⟩ := consistent.nextPosition_within
  obtain ⟨reachedAt, persisted, nextAt, chain, bound⟩ :=
    consistent.faultless_polls row positive next _
  have final := consistent.run (faultlessPolls_resume
    (((IndexerSys.initial config).run config actions).chain.log.length + 1))
  obtain ⟨last, lastNext, within⟩ := final.nextPosition_within
  rw [nextAt, Option.some.injEq] at lastNext
  rw [chain, ← lastNext] at within
  refine ⟨chain, ?_, final.ingested (rows.run _)⟩
  rw [IndexerSys.caughtUp, persisted]
  congr 1
  omega

section Monotone

/-! Where a poll starts reading is where the stored cursor stands, as long as
restarts read it back; a poll that saves stores the position after its page. So
the stored cursor never moves back, and the indexer never reads a page it has
already passed. A restart whose read of the cursor fails starts again from the
ledger, and the next save can store an earlier position. -/

/-- The loop reads from the cursor the database keeps, and there is a row to
keep it in. -/
structure IndexerSys.ReadsStoredCursor (sys : IndexerSys) : Prop where
  cursor : sys.loop.cursor = sys.db.getCursorString
  row : sys.db.cursorRow.isSome

namespace IndexerSys.ReadsStoredCursor

/-- An action that finds the stored cursor keeps the loop reading from it, and
moves the stored cursor forward or leaves it. -/
theorem step (reads : sys.ReadsStoredCursor) {action : Action}
    (resumes : action.resumesFromCursor = true) :
    (sys.step config action).ReadsStoredCursor ∧
      ∀ position, sys.persistedPosition = some position →
        ∃ next, (sys.step config action).persistedPosition = some next ∧ position ≤ next := by
  cases action with
  | emit _ | close _ => exact ⟨⟨reads.cursor, reads.row⟩, fun position stored => ⟨position, stored, le_rfl⟩⟩
  | restart ledgerReadFails cursorReadFails =>
    obtain rfl : cursorReadFails = false := by simpa [Action.resumesFromCursor] using resumes
    exact ⟨⟨rfl, reads.row⟩, fun position stored => ⟨position, stored, le_rfl⟩⟩
  | poll faults =>
    obtain ⟨_, -, -, kept, saved⟩ :=
      pollOnce_spec config sys.chain sys.db sys.loop.currentLedger sys.loop.cursor faults
    simp only [IndexerSys.step, Loop.iterate]
    generalize pollOnce config sys.chain sys.db sys.loop.currentLedger sys.loop.cursor faults =
      outcome at kept saved
    obtain ⟨after, _ | ⟨ledger, nextCursor⟩⟩ := outcome <;> dsimp only at kept saved ⊢
    · have row : after.cursorRow = sys.db.cursorRow := kept rfl
      have same : after.getCursorString = sys.db.getCursorString := by
        simp only [Db.getCursorString, row]
      refine ⟨⟨reads.cursor.trans same.symm, row ▸ reads.row⟩, fun position stored => ?_⟩
      exact ⟨position, by simpa only [IndexerSys.persistedPosition, same] using stored, le_rfl⟩
    · obtain ⟨-, row, start, started, -, -, rfl⟩ := saved ledger nextCursor rfl
      obtain ⟨stored, known⟩ := Option.isSome_iff_exists.mp reads.row
      have written : after.getCursorString =
          some (toString (start + ((sys.chain.log.drop start).take config.eventsPerPage).length)) := by
        simp [Db.getCursorString, row, known]
      refine ⟨⟨written.symm, by simp [row, known]⟩, fun position persisted => ?_⟩
      obtain ⟨text, read, parsed⟩ := Option.bind_eq_some.mp persisted
      rw [reads.cursor, read, startPosition, parsed, Option.some.injEq] at started
      subst started
      exact ⟨_, by rw [IndexerSys.persistedPosition, written, Option.some_bind,
        cursorPosition_toString], Nat.le_add_right _ _⟩

/-- Along a run whose restarts read the stored cursor back, the invariant
holds and the stored cursor, once there, only moves forward. -/
theorem run (reads : sys.ReadsStoredCursor) {actions : List Action}
    (resuming : ∀ action ∈ actions, action.resumesFromCursor = true) :
    (sys.run config actions).ReadsStoredCursor ∧
      ∀ position, sys.persistedPosition = some position →
        ∃ next, (sys.run config actions).persistedPosition = some next ∧ position ≤ next := by
  induction actions generalizing sys with
  | nil => exact ⟨reads, fun position stored => ⟨position, stored, le_rfl⟩⟩
  | cons action actions inductionHypothesis =>
    obtain ⟨stepped, forward⟩ := reads.step (resuming action (.head _))
    obtain ⟨ran, further⟩ := inductionHypothesis stepped fun later listed => resuming later (.tail _ listed)
    refine ⟨ran, fun position stored => ?_⟩
    obtain ⟨middle, storedMiddle, below⟩ := forward position stored
    obtain ⟨next, storedNext, above⟩ := further middle storedMiddle
    exact ⟨next, storedNext, below.trans above⟩

end IndexerSys.ReadsStoredCursor

/-- The stored cursor never moves back: from any state a run reaches whose
restarts read the stored cursor back, with fetches, inserts and saves failing
anywhere, any further such actions leave a stored cursor whose position is at
least the one stored before. -/
theorem persistedPosition_monotone (reached : sys.Reached config) (actions : List Action)
    (resuming : ∀ action ∈ actions, action.resumesFromCursor = true) {position : Nat}
    (stored : sys.persistedPosition = some position) :
    ∃ next, (sys.run config actions).persistedPosition = some next ∧ position ≤ next := by
  obtain ⟨earlier, resumable, rfl⟩ := reached
  have initially : (IndexerSys.initial config).ReadsStoredCursor := ⟨rfl, rfl⟩
  exact ((initially.run resumable).1.run resuming).2 position stored

/-- A deposit reaches the RPC, a ledger closes, and a poll saves a cursor. -/
def savedTrace : List Action := [.emit firstDeposit, .close 5, .poll Faults.none]

theorem persistedPosition_monotone_sample :
    ((IndexerSys.initial sampleIndexerConfig).run sampleIndexerConfig savedTrace).Reached
        sampleIndexerConfig ∧
      (∀ action ∈ [Action.emit secondDeposit, .restart true false, .poll Faults.none],
        action.resumesFromCursor = true) ∧
      ((IndexerSys.initial sampleIndexerConfig).run sampleIndexerConfig savedTrace).persistedPosition =
        some 1 ∧
      ∃ next, (((IndexerSys.initial sampleIndexerConfig).run sampleIndexerConfig savedTrace).run
          sampleIndexerConfig [.emit secondDeposit, .restart true false, .poll Faults.none]).persistedPosition =
        some next ∧ 1 ≤ next :=
  have reached : ((IndexerSys.initial sampleIndexerConfig).run sampleIndexerConfig savedTrace).Reached
      sampleIndexerConfig := ⟨savedTrace, by decide, rfl⟩
  have stored : ((IndexerSys.initial sampleIndexerConfig).run sampleIndexerConfig
      savedTrace).persistedPosition = some 1 := by decide
  ⟨reached, by decide, stored, persistedPosition_monotone reached _ (by decide) stored⟩

/-- With pages of one event, a restart whose read of the cursor fails starts
again from the stored ledger, and the next save stores an earlier position. -/
example :
    ((IndexerSys.initial { sampleIndexerConfig with eventsPerPage := 1 }).run
        { sampleIndexerConfig with eventsPerPage := 1 }
        [.emit firstDeposit, .emit secondDeposit, .close 5, .poll Faults.none,
          .poll Faults.none]).persistedPosition = some 2 ∧
      ((IndexerSys.initial { sampleIndexerConfig with eventsPerPage := 1 }).run
        { sampleIndexerConfig with eventsPerPage := 1 }
        [.emit firstDeposit, .emit secondDeposit, .close 5, .poll Faults.none, .poll Faults.none,
          .restart false true, .poll Faults.none]).persistedPosition = some 1 := by
  decide

end Monotone

/-- Two deposits reach the RPC, the first poll fails at the fetch and the
second at the save, and the process restarts. -/
def catchUpTrace : List Action :=
  [.emit firstDeposit, .emit secondDeposit, .close 5, .poll ⟨true, none, false⟩,
    .poll ⟨false, none, true⟩, .restart false false]

theorem faultless_polls_ingest_log_sample :
    0 < sampleIndexerConfig.eventsPerPage ∧
      ((IndexerSys.initial sampleIndexerConfig).run sampleIndexerConfig catchUpTrace).Reached
        sampleIndexerConfig ∧
      (((IndexerSys.initial sampleIndexerConfig).run sampleIndexerConfig catchUpTrace).caughtUp
          sampleIndexerConfig).persistedPosition = some 2 ∧
      (((IndexerSys.initial sampleIndexerConfig).run sampleIndexerConfig catchUpTrace).caughtUp
          sampleIndexerConfig).chain =
        ((IndexerSys.initial sampleIndexerConfig).run sampleIndexerConfig catchUpTrace).chain ∧
      (((IndexerSys.initial sampleIndexerConfig).run sampleIndexerConfig catchUpTrace).caughtUp
          sampleIndexerConfig).persistedPosition =
        some ((IndexerSys.initial sampleIndexerConfig).run sampleIndexerConfig
          catchUpTrace).chain.log.length ∧
      IngestedUpToCursor sampleIndexerConfig
        (((IndexerSys.initial sampleIndexerConfig).run sampleIndexerConfig catchUpTrace).caughtUp
          sampleIndexerConfig) :=
  have reached : ((IndexerSys.initial sampleIndexerConfig).run sampleIndexerConfig
      catchUpTrace).Reached sampleIndexerConfig := ⟨catchUpTrace, by decide, rfl⟩
  ⟨by decide, reached, by decide, faultless_polls_ingest_log (by decide) reached⟩

end Pifp.Indexer
