import Pifp.Indexer.Poll

/-!
# Restarts resume where the loop stood

`poll_once` saves the ledger and the cursor it returns before `run` takes them
("Persist cursor so restarts are deterministic"), and `run` starts from the two
that `indexer_cursor` holds. So along every run whose restarts read both back,
the loop holds exactly what a restart would resume, and a restart changes
nothing. This rests on the saved ledger fitting `u32`, since `run` reads it
back cut to `u32`; it does when the configured start ledger fits, which
`from_env` ensures.
-/

namespace Pifp.Indexer

/-- Whether an action reads back both the stored ledger and the stored cursor
when it needs them: every action but a restart whose reads fail. -/
def Action.readsBack : Action → Bool
  | .restart ledgerReadFails cursorReadFails => !ledgerReadFails && !cursorReadFails
  | _ => true

/-- The loop holds what a restart would resume, there is a cursor row to
resume from, and the loop's ledger lies between the configured start and
`2 ^ 32`. -/
structure IndexerSys.Resumed (config : Config) (sys : IndexerSys) : Prop where
  loop : sys.loop = resume config sys.db false false
  row : sys.db.cursorRow.isSome
  above : config.startLedger ≤ sys.loop.currentLedger
  below : sys.loop.currentLedger < 2 ^ 32

variable {config : Config} {sys : IndexerSys}

/-- `resume` reads the cursor row only. -/
theorem resume_of_cursorRow {db other : Db} (same : other.cursorRow = db.cursorRow)
    (ledgerReadFails cursorReadFails : Bool) :
    resume config other ledgerReadFails cursorReadFails =
      resume config db ledgerReadFails cursorReadFails := by
  simp [resume, Db.getLastLedger, Db.getCursorString, same]

/-- A ledger that fits `u32`, saved and read back by `run`, is the ledger
itself, or the configured start when it is `0`. -/
theorem resume_saved {db saved : Db} {row : CursorRow} {ledger : Nat} {cursor : Option String}
    (stored : db.cursorRow = some row)
    (written : saved.cursorRow = db.cursorRow.map fun _ => ⟨ledger, cursor⟩)
    (fits : ledger < 2 ^ 32) (above : config.startLedger ≤ ledger) :
    resume config saved false false = ⟨ledger, cursor⟩ := by
  simp only [resume, Db.getLastLedger, Db.getCursorString, written, stored, Option.map_some',
    Option.getD_some, Option.some_bind, Bool.false_eq_true, if_false, Loop.mk.injEq, and_true]
  split_ifs <;> omega

/-- A new indexer over a start ledger that fits `u32` holds what it resumed. -/
theorem IndexerSys.resumed_initial (bounded : config.startLedger < 2 ^ 32) :
    (IndexerSys.initial config).Resumed config where
  loop := rfl
  row := rfl
  above := by simp [IndexerSys.initial, resume, Db.getLastLedger, Db.initial]
  below := by simpa [IndexerSys.initial, resume, Db.getLastLedger, Db.initial] using bounded

namespace IndexerSys.Resumed

/-- A restart that reads both back resumes what the loop holds. -/
theorem restart_eq (resumed : sys.Resumed config) : sys.step config (.restart false false) = sys := by
  simp [IndexerSys.step, ← resumed.loop]

/-- A poll keeps the loop and the cursor row in step: when it fails neither
changes, and when it returns it saves the ledger and cursor the loop takes. -/
theorem poll (resumed : sys.Resumed config) (faults : Faults) :
    (sys.step config (.poll faults)).Resumed config := by
  obtain ⟨_, -, -, kept, saved⟩ :=
    pollOnce_spec config sys.chain sys.db sys.loop.currentLedger sys.loop.cursor faults
  simp only [IndexerSys.step, Loop.iterate]
  generalize pollOnce config sys.chain sys.db sys.loop.currentLedger sys.loop.cursor faults = outcome
    at kept saved
  obtain ⟨after, _ | ⟨ledger, nextCursor⟩⟩ := outcome <;> dsimp only at kept saved ⊢
  · have row : after.cursorRow = sys.db.cursorRow := kept rfl
    exact ⟨resumed.loop.trans (resume_of_cursorRow row false false).symm, row ▸ resumed.row,
      resumed.above, resumed.below⟩
  · obtain ⟨rfl, row, -⟩ := saved ledger nextCursor rfl
    obtain ⟨stored, known⟩ := Option.isSome_iff_exists.mp resumed.row
    have fits : max (sys.chain.latestLedger % 2 ^ 32) sys.loop.currentLedger < 2 ^ 32 :=
      max_lt (Nat.mod_lt _ (by norm_num)) resumed.below
    have above := le_trans resumed.above (le_max_right (sys.chain.latestLedger % 2 ^ 32) _)
    exact ⟨(resume_saved known row fits above).symm, by simp [row, known], above, fits⟩

/-- The invariant holds after every action that reads both back. -/
theorem step (resumed : sys.Resumed config) {action : Action} (reads : action.readsBack = true) :
    (sys.step config action).Resumed config := by
  cases action with
  | emit event => exact ⟨resumed.loop, resumed.row, resumed.above, resumed.below⟩
  | close ledger => exact ⟨resumed.loop, resumed.row, resumed.above, resumed.below⟩
  | poll faults => exact resumed.poll faults
  | restart ledgerReadFails cursorReadFails =>
    obtain ⟨rfl, rfl⟩ : ledgerReadFails = false ∧ cursorReadFails = false := by
      simpa [Action.readsBack] using reads
    exact resumed.restart_eq ▸ resumed

/-- The invariant holds along every run whose restarts read both back. -/
theorem run (resumed : sys.Resumed config) {actions : List Action}
    (reading : ∀ action ∈ actions, action.readsBack = true) :
    (sys.run config actions).Resumed config := by
  induction actions generalizing sys with
  | nil => exact resumed
  | cons action actions inductionHypothesis =>
    exact inductionHypothesis (resumed.step (reading action (.head _)))
      fun later listed => reading later (.tail _ listed)

end IndexerSys.Resumed

/-- For every configuration `from_env` builds and every run whose restarts
read the stored ledger and cursor back, with fetches, inserts and saves failing
anywhere, one more such restart changes nothing. -/
theorem restart_changes_nothing {env : String → Option String}
    (configured : Config.fromEnv env = .ok config) (actions : List Action)
    (reading : ∀ action ∈ actions, action.readsBack = true) :
    ((IndexerSys.initial config).run config actions).step config (.restart false false) =
      (IndexerSys.initial config).run config actions :=
  ((IndexerSys.resumed_initial (Config.fromEnv_startLedger_lt configured)).run reading).restart_eq

/-- Ledgers close, a poll returns, one fails at the save, and the process
restarts. -/
def restartTrace : List Action :=
  [.close 7, .poll Faults.none, .close 9, .poll ⟨false, none, true⟩, .restart false false]

theorem restart_changes_nothing_sample :
    Config.fromEnv sampleEnvironment = .ok sampleIndexerConfig ∧
      (∀ action ∈ restartTrace, action.readsBack = true) ∧
      ((IndexerSys.initial sampleIndexerConfig).run sampleIndexerConfig restartTrace).step
          sampleIndexerConfig (.restart false false) =
        (IndexerSys.initial sampleIndexerConfig).run sampleIndexerConfig restartTrace :=
  ⟨rfl, by decide, restart_changes_nothing
    (show Config.fromEnv sampleEnvironment = .ok sampleIndexerConfig from rfl) restartTrace
    (by decide)⟩

end Pifp.Indexer
