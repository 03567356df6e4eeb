import Pifp.Indexer.Config
import Pifp.Indexer.Db
import Pifp.Indexer.JsonRoundTrip

/-!
# The polling loop

`indexer.rs` of the indexer, with `fetch_events` of `rpc.rs`, against a model
of the RPC. The RPC serves the contract's events as a log that only grows:
asked with a cursor it continues at the cursor's position, asked without one it
starts at the first event of the start ledger or later, and it answers with at
most `limit` events, the cursor of the position after them and the latest
ledger. A cursor is the decimal position it stands for; one the RPC cannot
read, or one past the end, is refused.

`poll_once` fetches a page, inserts its decoded events, and saves the next
ledger and the cursor; each of the three may fail, and a failure skips what
comes after it. `run` starts from the ledger and cursor stored in the database
(a failed read gives `0` or no cursor; ledger `0` means the configured start)
and then polls forever, taking a poll's ledger and cursor when it returns and
keeping its own when it fails. A restart of the process is a new `run`.

The system interleaves the contract emitting events, the network closing
ledgers, polls with any failures, and restarts.
-/

namespace Pifp.Indexer

/-- The RPC's view of the contract: its events in order, and the latest ledger. -/
structure Chain where
  log : List RawEvent
  latestLedger : Nat

/-- The position of the first event at or after `ledger`, the end of the log
if there is none. -/
def firstAtOrAfter (ledger : Nat) : List RawEvent → Nat
  | [] => 0
  | event :: rest => if ledger ≤ event.ledger.getD 0 then 0 else firstAtOrAfter ledger rest + 1

/-- The position a cursor stands for: a nonempty run of decimal digits. -/
def cursorPosition (cursor : String) : Option Nat :=
  if cursor.toList ≠ [] ∧ cursor.toList.all Char.isDigit then some (digitsValue cursor.toList)
  else none

/-- The answer to `getEvents`. -/
structure Page where
  events : List RawEvent
  cursor : Option String
  latestLedger : Option Nat

/-- Where `getEvents` starts: at the cursor's position, else at the first event
at or after `startLedger` (`build_params` sends the start ledger only without a
cursor). -/
def startPosition (log : List RawEvent) (startLedger : Nat) : Option String → Option Nat
  | some text => cursorPosition text
  | none => some (firstAtOrAfter startLedger log)

/-- `getEvents`: from the start position, at most `limit` events, then the
cursor of the position after them and the latest ledger. -/
def Chain.getEvents (chain : Chain) (startLedger : Nat) (cursor : Option String) (limit : Nat) :
    Option Page := do
  let position ← startPosition chain.log startLedger cursor
  if chain.log.length < position then none
  else
    let events := (chain.log.drop position).take limit
    pure ⟨events, some (toString (position + events.length)), some chain.latestLedger⟩

/-- Where one poll fails: the fetch, the insert statement of that index, or the
save of the cursor. -/
structure Faults where
  fetch : Bool
  insert : Option Nat
  save : Bool

/-- No failure. -/
def Faults.none : Faults := ⟨false, Option.none, false⟩

/-- `insert_events` with the statement of index `failing` failing, when there is
one: the table it leaves, and whether it returned an error. -/
def insertEventsUntil (table : List PifpEvent) (events : List PifpEvent) :
    Option Nat → List PifpEvent × Bool
  | some failing =>
    if failing < events.length then ((insertEvents table (events.take failing)).1, true)
    else ((insertEvents table events).1, false)
  | none => ((insertEvents table events).1, false)

/-- `poll_once`: the database after it, and the next ledger and cursor when it
returns. The next ledger is the latest one cut to `u32`, never below the start
ledger. -/
def pollOnce (config : Config) (chain : Chain) (db : Db) (startLedger : Nat)
    (cursor : Option String) (faults : Faults) : Db × Option (Nat × Option String) :=
  match (if faults.fetch then none else chain.getEvents startLedger cursor config.eventsPerPage) with
  | none => (db, none)
  | some page =>
    let (events, failed) :=
      if page.events.isEmpty then (db.events, false)
      else insertEventsUntil db.events (decodeEvents page.events config.contractId) faults.insert
    let db := { db with events := events }
    if failed then (db, none)
    else
      let nextLedger : Nat := match page.latestLedger with
        | some latest => max (latest % 2 ^ 32) startLedger
        | none => startLedger
      if faults.save then (db, none)
      else (db.saveCursor (nextLedger : Int) page.cursor, some (nextLedger, page.cursor))

/-- The variables of `run`'s loop. -/
structure Loop where
  currentLedger : Nat
  cursor : Option String

/-- The start of `run`: the stored ledger (cut to `u32`) unless it is `0`, then
the configured start; the stored cursor. A read that fails counts as `0` or as
no cursor. -/
def resume (config : Config) (db : Db) (ledgerReadFails cursorReadFails : Bool) : Loop :=
  let lastLedger := if ledgerReadFails then 0 else db.getLastLedger
  ⟨if 0 < lastLedger then (lastLedger % 2 ^ 32).toNat else config.startLedger,
    if cursorReadFails then none else db.getCursorString⟩

/-- One iteration of `run`'s loop: a poll, whose ledger and cursor replace the
loop's when it returns. -/
def Loop.iterate (loop : Loop) (config : Config) (chain : Chain) (db : Db) (faults : Faults) :
    Db × Loop :=
  match pollOnce config chain db loop.currentLedger loop.cursor faults with
  | (db, some (ledger, cursor)) => (db, ⟨ledger, cursor⟩)
  | (db, none) => (db, loop)

/-- What can happen next: the contract emits an event, the network closes a
ledger, the indexer polls (failing as given), or the process restarts (its
reads of the cursor row failing as given). -/
inductive Action
  | emit (event : RawEvent)
  | close (ledger : Nat)
  | poll (faults : Faults)
  | restart (ledgerReadFails cursorReadFails : Bool)

/-- The RPC, the database and the running loop. -/
structure IndexerSys where
  chain : Chain
  db : Db
  loop : Loop

/-- Nothing emitted, a new database, and `run` just started. -/
def IndexerSys.initial (config : Config) : IndexerSys :=
  ⟨⟨[], 0⟩, Db.initial, resume config Db.initial false false⟩

/-- One action. -/
def IndexerSys.step (config : Config) (sys : IndexerSys) : Action → IndexerSys
  | .emit event => { sys with chain := { sys.chain with log := sys.chain.log ++ [event] } }
  | .close ledger =>
    { sys with chain := { sys.chain with latestLedger := max sys.chain.latestLedger ledger } }
  | .poll faults =>
    let (db, loop) := sys.loop.iterate config sys.chain sys.db faults
    { sys with db := db, loop := loop }
  | .restart ledgerReadFails cursorReadFails =>
    { sys with loop := resume config sys.db ledgerReadFails cursorReadFails }

/-- Actions in order. -/
def IndexerSys.run (config : Config) (sys : IndexerSys) : List Action → IndexerSys
  | [] => sys
  | action :: rest => (sys.step config action).run config rest

/-- The position of the cursor the database keeps. -/
def IndexerSys.persistedPosition (sys : IndexerSys) : Option Nat :=
  sys.db.getCursorString.bind cursorPosition

/-- The event an action emits, if any. -/
def Action.emitted? : Action → Option RawEvent
  | .emit event => some event
  | _ => none

section Properties

/-- `insert_events` failing part-way inserts a part of the events, all of them
when it reports no failure. -/
theorem insertEventsUntil_eq (table events : List PifpEvent) (failing : Option Nat) :
    ∃ inserted ⊆ events,
      (insertEventsUntil table events failing).1 = (insertEvents table inserted).1 ∧
      ((insertEventsUntil table events failing).2 = false → inserted = events) := by
  unfold insertEventsUntil
  split
  · split
    · exact ⟨_, List.take_subset _ _, rfl, by simp⟩
    · exact ⟨events, List.Subset.refl _, rfl, fun _ => rfl⟩
  · exact ⟨events, List.Subset.refl _, rfl, fun _ => rfl⟩

/-- The first event at or after a ledger is within the log. -/
theorem firstAtOrAfter_le_length (ledger : Nat) (log : List RawEvent) :
    firstAtOrAfter ledger log ≤ log.length := by
  induction log with
  | nil => exact le_refl 0
  | cons event rest inductionHypothesis =>
    unfold firstAtOrAfter
    split <;> simp [inductionHypothesis]

/-- Every event before the first one at or after a ledger is below it. -/
theorem ledger_lt_of_before_first {ledger : Nat} {log : List RawEvent} :
    ∀ event ∈ log.take (firstAtOrAfter ledger log), event.ledger.getD 0 < ledger := by
  induction log with
  | nil => simp
  | cons first rest inductionHypothesis =>
    unfold firstAtOrAfter
    split
    · simp
    · next later =>
      simpa using ⟨Nat.lt_of_not_le later, inductionHypothesis⟩

/-- The cursor of a position stands for it. -/
theorem cursorPosition_toString (n : Nat) : cursorPosition (toString n) = some n := by
  obtain ⟨digits, printed, nonempty, allDigits, value⟩ := toString_digits n
  rw [cursorPosition, printed, if_pos ⟨nonempty, List.all_eq_true.mpr allDigits⟩, value]

/-- A page `getEvents` serves: the events from the start position on, and the
cursor of the position after them. -/
theorem Chain.getEvents_eq_some {chain : Chain} {startLedger limit : Nat} {cursor : Option String}
    {page : Page} (served : chain.getEvents startLedger cursor limit = some page) :
    ∃ position, startPosition chain.log startLedger cursor = some position ∧
      position ≤ chain.log.length ∧
      page = ⟨(chain.log.drop position).take limit,
        some (toString (position + ((chain.log.drop position).take limit).length)),
        some chain.latestLedger⟩ := by
  unfold Chain.getEvents at served
  cases started : startPosition chain.log startLedger cursor with
  | none => simp [started] at served
  | some position =>
    simp only [started, Option.bind_eq_bind, Option.some_bind] at served
    split at served
    · cases served
    · next within => exact ⟨position, rfl, by omega, (Option.some.inj served).symm⟩

/-- The insert half of a poll: a part of the page's decoded events is
inserted, all of it unless the insert reports a failure. -/
theorem pageInsert_eq {table events : List PifpEvent} {raw : List RawEvent} {contractId : String}
    {failing : Option Nat} {failed : Bool}
    (inserting : (if raw.isEmpty then (table, false)
      else insertEventsUntil table (decodeEvents raw contractId) failing) = (events, failed)) :
    ∃ inserted ⊆ decodeEvents raw contractId, events = (insertEvents table inserted).1 ∧
      (failed = false → inserted = decodeEvents raw contractId) := by
  split at inserting
  · next empty =>
    cases inserting
    exact ⟨[], List.nil_subset _, rfl, by simp_all [decodeEvents]⟩
  · obtain ⟨inserted, drawn, stored, complete⟩ :=
      insertEventsUntil_eq table (decodeEvents raw contractId) failing
    rw [inserting] at stored complete
    exact ⟨inserted, drawn, stored, complete⟩

/-- What one poll does, wherever it fails: it inserts some decoded events of
the log, and it changes the cursor row only when it returns, to the ledger and
cursor it returns. When it returns, its ledger is the latest one cut to `u32`
and never below the start, it has inserted the whole page from its start
position, and its cursor stands for the position after the page. -/
theorem pollOnce_spec (config : Config) (chain : Chain) (db : Db) (startLedger : Nat)
    (cursor : Option String) (faults : Faults) :
    ∃ inserted,
      (∀ row ∈ inserted, ∃ event ∈ chain.log, decodeSingle event config.contractId = some row) ∧
      (pollOnce config chain db startLedger cursor faults).1.events = (insertEvents db.events inserted).1 ∧
      ((pollOnce config chain db startLedger cursor faults).2 = none →
        (pollOnce config chain db startLedger cursor faults).1.cursorRow = db.cursorRow) ∧
      ∀ ledger nextCursor,
        (pollOnce config chain db startLedger cursor faults).2 = some (ledger, nextCursor) →
        ledger = max (chain.latestLedger % 2 ^ 32) startLedger ∧
        (pollOnce config chain db startLedger cursor faults).1.cursorRow =
          db.cursorRow.map (fun _ => ⟨ledger, nextCursor⟩) ∧
        ∃ position, startPosition chain.log startLedger cursor = some position ∧
          position ≤ chain.log.length ∧
          inserted = decodeEvents ((chain.log.drop position).take config.eventsPerPage) config.contractId ∧
          nextCursor =
            some (toString (position + ((chain.log.drop position).take config.eventsPerPage).length)) := by
  unfold pollOnce
  split
  · exact ⟨[], by simp, rfl, fun _ => rfl, by simp⟩
  · next page fetched =>
    have served : chain.getEvents startLedger cursor config.eventsPerPage = some page := by
      split at fetched <;> simp_all
    obtain ⟨position, started, within, rfl⟩ := Chain.getEvents_eq_some served
    split
    next events failed inserting =>
    obtain ⟨inserted, drawn, stored, complete⟩ := pageInsert_eq inserting
    have fromLog : ∀ row ∈ inserted,
        ∃ event ∈ chain.log, decodeSingle event config.contractId = some row := by
      intro row member
      obtain ⟨event, listed, decoded⟩ := List.mem_filterMap.mp (drawn member)
      exact ⟨event, List.mem_of_mem_drop (List.mem_of_mem_take listed), decoded⟩
    refine ⟨inserted, fromLog, ?_⟩
    cases failed
    · cases saving : faults.save
      · simp [Db.saveCursor, stored, complete, started, within]
      · simp [stored]
    · simp [stored]

/-- A poll leaves the database `pollOnce` returns. -/
theorem IndexerSys.step_poll_db (config : Config) (sys : IndexerSys) (faults : Faults) :
    (sys.step config (.poll faults)).db =
      (pollOnce config sys.chain sys.db sys.loop.currentLedger sys.loop.cursor faults).1 := by
  simp only [IndexerSys.step, Loop.iterate]
  generalize pollOnce config sys.chain sys.db sys.loop.currentLedger sys.loop.cursor faults = outcome
  obtain ⟨after, _ | ⟨ledger, cursor⟩⟩ := outcome <;> rfl

/-- An action adds to the log only the event it emits. -/
theorem IndexerSys.step_log (config : Config) (sys : IndexerSys) (action : Action) :
    (sys.step config action).chain.log = sys.chain.log ++ action.emitted?.toList := by
  cases action <;> simp [IndexerSys.step, Action.emitted?]

/-- A poll with no fault, from a start position the RPC serves, returns the
cursor of the position after its page. -/
theorem pollOnce_faultless {config : Config} {chain : Chain} {db : Db} {startLedger : Nat}
    {cursor : Option String} {position : Nat}
    (started : startPosition chain.log startLedger cursor = some position)
    (within : position ≤ chain.log.length) :
    ∃ ledger, (pollOnce config chain db startLedger cursor Faults.none).2 =
      some (ledger, some (toString
        (position + ((chain.log.drop position).take config.eventsPerPage).length))) := by
  have served : chain.getEvents startLedger cursor config.eventsPerPage =
      some ⟨(chain.log.drop position).take config.eventsPerPage,
        some (toString (position + ((chain.log.drop position).take config.eventsPerPage).length)),
        some chain.latestLedger⟩ := by
    simp [Chain.getEvents, started, Nat.not_lt.mpr within]
  simp only [pollOnce, Faults.none, served, Bool.false_eq_true, if_false]
  split <;> simp [insertEventsUntil]

/-- No action adds or removes the cursor row. -/
theorem IndexerSys.step_cursorRow_isSome (config : Config) (sys : IndexerSys) (action : Action) :
    (sys.step config action).db.cursorRow.isSome = sys.db.cursorRow.isSome := by
  cases action with
  | poll faults =>
    obtain ⟨_, -, -, kept, saved⟩ :=
      pollOnce_spec config sys.chain sys.db sys.loop.currentLedger sys.loop.cursor faults
    rw [IndexerSys.step_poll_db]
    cases returned : (pollOnce config sys.chain sys.db sys.loop.currentLedger sys.loop.cursor
        faults).2 with
    | none => rw [kept returned]
    | some result =>
      rw [(saved result.1 result.2 returned).2.1]
      cases sys.db.cursorRow <;> rfl
  | _ => rfl

/-- Nor does any run. -/
theorem IndexerSys.run_cursorRow_isSome (config : Config) (sys : IndexerSys) (actions : List Action) :
    (sys.run config actions).db.cursorRow.isSome = sys.db.cursorRow.isSome := by
  induction actions generalizing sys with
  | nil => rfl
  | cons action actions inductionHypothesis =>
    rw [IndexerSys.run, inductionHypothesis, IndexerSys.step_cursorRow_isSome]

end Properties

end Pifp.Indexer
