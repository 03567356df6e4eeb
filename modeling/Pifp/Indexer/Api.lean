import Pifp.Indexer.Progress

/-!
# Reading the events back

The read half of `db.rs` and the handlers of `api.rs` that use it.
`get_all_events` selects every row of `events`, `get_events_for_project` those
whose `project_id` equals the one asked for, where a NULL equals nothing; both
`ORDER BY ledger ASC, id ASC`. `GET /events` answers with the rows and their
count, `GET /projects/:id/events` with the project id, the rows and their count.

The migrations are not in the repository: `id` is taken to be the row id SQLite
assigns, one more than the last, so that the ids number the rows from one in
insertion order; nothing deletes a row. `created_at` is not modelled. The ids
are distinct, so `ORDER BY ledger, id` leaves one answer (`sorted_answer_unique`),
which insertion sort computes. A failing query answers `500` with the error's
text; the model's reads do not fail.

Over the model: the rows of one project are the rows of all, filtered, in the
same order; and over every run of the indexer, what `GET /projects/:id/events`
serves is what `Ingestion` says the table holds.
-/

namespace Pifp.Indexer

/-- `EventRecord`: a row of `events` with its id. -/
structure EventRecord where
  id : Nat
  row : PifpEvent
  deriving DecidableEq, Repr

/-- The rows of `events` with their ids, in insertion order. -/
def Db.records (db : Db) : List EventRecord :=
  db.events.enum.map fun entry => ⟨entry.1 + 1, entry.2⟩

/-- `ORDER BY ledger ASC, id ASC`: `first` may come before `second`. -/
def EventRecord.Precedes (first second : EventRecord) : Prop :=
  first.row.ledger < second.row.ledger ∨ first.row.ledger = second.row.ledger ∧ first.id ≤ second.id

instance : DecidableRel EventRecord.Precedes := fun _ _ => inferInstanceAs (Decidable (_ ∨ _))

instance : IsTotal EventRecord EventRecord.Precedes :=
  ⟨fun first second => by simp only [EventRecord.Precedes]; omega⟩

instance : IsTrans EventRecord EventRecord.Precedes :=
  ⟨fun first second third => by simp only [EventRecord.Precedes]; omega⟩

/-- The rows in the order `ORDER BY ledger ASC, id ASC` gives them. -/
def orderByLedgerId (records : List EventRecord) : List EventRecord :=
  records.insertionSort EventRecord.Precedes

/-- `WHERE project_id = ?1`. -/
def EventRecord.ofProject (projectId : String) (record : EventRecord) : Bool :=
  sqlEq record.row.projectId (some projectId)

/-- `get_events_for_project`. -/
def Db.getEventsForProject (db : Db) (projectId : String) : List EventRecord :=
  orderByLedgerId (db.records.filter (EventRecord.ofProject projectId))

/-- `get_all_events`. -/
def Db.getAllEvents (db : Db) : List EventRecord :=
  orderByLedgerId db.records

/-- `EventsResponse`. -/
structure EventsResponse where
  projectId : String
  count : Nat
  events : List EventRecord

/-- `AllEventsResponse`. -/
structure AllEventsResponse where
  count : Nat
  events : List EventRecord

namespace Api

/-- `get_project_events` when the query succeeds: status `200` and this body. -/
def getProjectEvents (db : Db) (projectId : String) : EventsResponse :=
  let events := db.getEventsForProject projectId
  ⟨projectId, events.length, events⟩

/-- `get_all_events` when the query succeeds: status `200` and this body. -/
def getAllEvents (db : Db) : AllEventsResponse :=
  let events := db.getAllEvents
  ⟨events.length, events⟩

@[simp]
theorem getProjectEvents_events (db : Db) (projectId : String) :
    (getProjectEvents db projectId).events = db.getEventsForProject projectId :=
  rfl

@[simp]
theorem getAllEvents_events (db : Db) : (getAllEvents db).events = db.getAllEvents :=
  rfl

end Api

/-- What `GET /projects/:id/events` should serve, given what the table holds
(`IngestedUpToCursor`): rows of the project only, each decoding an event of the
log, and for every event of the project before the stored cursor's position,
from the start ledger on, a row with its key, exactly one when the key has no
NULL. -/
def ServesProjectEvents (config : Config) (sys : IndexerSys) (projectId : String) : Prop :=
  (∀ record ∈ (Api.getProjectEvents sys.db projectId).events,
      record.row.projectId = some projectId ∧
        ∃ event ∈ sys.chain.log, decodeSingle event config.contractId = some record.row) ∧
    ∀ position, sys.persistedPosition = some position →
      ∀ event ∈ sys.chain.log.take position, config.startLedger ≤ event.ledger.getD 0 →
        ∀ decoded ∈ decodeSingle event config.contractId, decoded.projectId = some projectId →
          0 < (Api.getProjectEvents sys.db projectId).events.countP
              (fun record => record.row.key = decoded.key) ∧
            (decoded.keyComplete = true →
              (Api.getProjectEvents sys.db projectId).events.countP
                (fun record => record.row.key = decoded.key) = 1)

section Order

/-- Two answers that list the same rows, sorted by ledger and id, are one
answer, provided the ids are distinct. -/
theorem sorted_answer_unique {first second : List EventRecord}
    (ids : (first.map EventRecord.id).Nodup) (same : first.Perm second)
    (firstSorted : first.Sorted EventRecord.Precedes) (secondSorted : second.Sorted EventRecord.Precedes) :
    first = second := by
  induction first generalizing second with
  | nil => exact same.nil_eq
  | cons record first inductionHypothesis =>
    cases second with
    | nil => exact absurd same.length_eq (by simp)
    | cons head second =>
      obtain ⟨fresh, distinct⟩ := List.nodup_cons.mp ids
      have leading : record = head := by
        by_contra differ
        have later : head ∈ first :=
          (List.mem_cons.mp (same.symm.subset (List.mem_cons_self head second))).resolve_left
            (Ne.symm differ)
        have earlier : record ∈ second :=
          (List.mem_cons.mp (same.subset (List.mem_cons_self record first))).resolve_left differ
        have before := List.rel_of_sorted_cons firstSorted head later
        have after := List.rel_of_sorted_cons secondSorted record earlier
        have sameId : head.id = record.id := by
          simp only [EventRecord.Precedes] at before after
          omega
        exact fresh (sameId ▸ List.mem_map_of_mem EventRecord.id later)
      subst leading
      rw [inductionHypothesis distinct same.cons_inv firstSorted.of_cons secondSorted.of_cons]

theorem sorted_orderByLedgerId (records : List EventRecord) :
    (orderByLedgerId records).Sorted EventRecord.Precedes :=
  List.sorted_insertionSort _ records

/-- Filtering the ordered rows orders the filtered rows. -/
theorem orderByLedgerId_filter {records : List EventRecord} (ids : (records.map EventRecord.id).Nodup)
    (keep : EventRecord → Bool) :
    (orderByLedgerId records).filter keep = orderByLedgerId (records.filter keep) := by
  have permuted := (List.perm_insertionSort EventRecord.Precedes records).filter keep
  have filteredIds : ((records.filter keep).map EventRecord.id).Nodup :=
    ((List.filter_sublist records).map EventRecord.id).nodup ids
  exact sorted_answer_unique ((permuted.map EventRecord.id).nodup_iff.mpr filteredIds)
    (permuted.trans (List.perm_insertionSort _ _).symm)
    ((sorted_orderByLedgerId records).filter keep) (sorted_orderByLedgerId _)

end Order

section Records

variable (db : Db)

@[simp]
theorem Db.map_row_records : db.records.map EventRecord.row = db.events := by
  rw [Db.records, List.map_map]
  exact List.enum_map_snd db.events

/-- The ids number the rows from one. -/
theorem Db.map_id_records : db.records.map EventRecord.id = (List.range db.events.length).map Nat.succ := by
  rw [Db.records, List.map_map, ← List.enum_map_fst, List.map_map]
  rfl

theorem Db.nodup_ids : (db.records.map EventRecord.id).Nodup := by
  rw [Db.map_id_records]
  exact (List.nodup_range _).map Nat.succ_injective

theorem Db.getEventsForProject_eq_filter (projectId : String) :
    db.getEventsForProject projectId = db.getAllEvents.filter (EventRecord.ofProject projectId) :=
  (orderByLedgerId_filter db.nodup_ids _).symm

/-- Counting the served rows with a key of the project counts the table's. -/
theorem Db.countP_getEventsForProject {projectId : String} {event : PifpEvent}
    (owned : event.projectId = some projectId) :
    (db.getEventsForProject projectId).countP (fun record => record.row.key = event.key) =
      db.events.countP (fun row => row.key = event.key) := by
  have keyed : ∀ record ∈ db.records, (decide (record.row.key = event.key) &&
      record.ofProject projectId) = decide (record.row.key = event.key) := by
    intro record _
    by_cases same : record.row.key = event.key
    · have projected : record.row.projectId = event.projectId := congrArg (·.2.2.2) same
      simp [same, EventRecord.ofProject, projected, owned, sqlEq]
    · simp [same]
  rw [Db.getEventsForProject, orderByLedgerId, (List.perm_insertionSort _ _).countP_eq,
    List.countP_filter, List.countP_congr fun record member => by rw [keyed record member],
    ← Db.map_row_records, List.countP_map]
  rfl

theorem Db.mem_getEventsForProject {projectId : String} {record : EventRecord} :
    record ∈ db.getEventsForProject projectId ↔
      record ∈ db.records ∧ record.row.projectId = some projectId := by
  simp only [Db.getEventsForProject, orderByLedgerId, List.mem_insertionSort, List.mem_filter,
    EventRecord.ofProject]
  exact and_congr_right fun _ => ⟨sqlEq_eq, fun owned => by simp [owned, sqlEq]⟩

/-- The two endpoints agree on any table: `GET /projects/:id/events` lists the
rows `GET /events` lists whose project id is the one asked for, in the same
order, and counts the rows of the table with that project id. -/
theorem project_events_agree (projectId : String) :
    (Api.getProjectEvents db projectId).events =
        (Api.getAllEvents db).events.filter (EventRecord.ofProject projectId) ∧
      (Api.getProjectEvents db projectId).count =
        db.events.countP fun row => sqlEq row.projectId (some projectId) := by
  refine ⟨db.getEventsForProject_eq_filter projectId, ?_⟩
  show (db.getEventsForProject projectId).length = _
  rw [Db.getEventsForProject, orderByLedgerId, List.length_insertionSort,
    ← List.countP_eq_length_filter, ← Db.map_row_records, List.countP_map]
  rfl

/-- A row without a project id is listed by `GET /events` and by no project. -/
example :
    (Api.getAllEvents ⟨[sampleRow, { sampleRow with projectId := none }], none⟩).count = 2 ∧
      (Api.getProjectEvents ⟨[sampleRow, { sampleRow with projectId := none }], none⟩ "0").count = 1 :=
  by decide

/-- `GET /events` on any table lists every row once, by ledger and then in
insertion order, and that is the only answer `ORDER BY ledger ASC, id ASC`
allows. -/
theorem all_events_listed :
    (Api.getAllEvents db).count = db.events.length ∧
      (Api.getAllEvents db).events.Sorted EventRecord.Precedes ∧
      ((Api.getAllEvents db).events.map EventRecord.row).Perm db.events ∧
      ∀ answer : List EventRecord, answer.Perm db.records → answer.Sorted EventRecord.Precedes →
        answer = (Api.getAllEvents db).events := by
  have permuted : db.getAllEvents.Perm db.records := List.perm_insertionSort _ _
  refine ⟨?_, sorted_orderByLedgerId _, by simpa using permuted.map EventRecord.row,
    fun answer same sorted => ?_⟩
  · show db.getAllEvents.length = _
    rw [permuted.length_eq, ← Db.map_row_records, List.length_map]
  · exact sorted_answer_unique ((same.map _).nodup_iff.mpr db.nodup_ids) (same.trans permuted.symm)
      sorted (sorted_orderByLedgerId _)

/-- Rows at ledgers 7, 5 and 5, inserted in that order, are listed as the second,
the third and the first. -/
example :
    (Api.getAllEvents ⟨[{ sampleRow with ledger := 7 }, sampleRow, { sampleRow with txHash := none }],
      none⟩).events.map EventRecord.id = [2, 3, 1] :=
  by decide

end Records

section Served

variable {config : Config} {sys : IndexerSys}

/-- A table ingested up to its stored cursor is served as such. -/
theorem IngestedUpToCursor.serves (ingested : IngestedUpToCursor config sys) (projectId : String) :
    ServesProjectEvents config sys projectId := by
  obtain ⟨-, rows, covered⟩ := ingested
  refine ⟨fun record listed => ?_, fun position read event member late decoded decodes owned => ?_⟩
  · obtain ⟨stored, owned⟩ := (Db.mem_getEventsForProject _).mp listed
    exact ⟨owned, rows record.row (Db.map_row_records _ ▸ List.mem_map_of_mem _ stored)⟩
  · rw [Api.getProjectEvents_events, Db.countP_getEventsForProject _ owned]
    exact (covered position read).2 event member late decoded decodes

theorem IndexerSys.Reached.ingested (reached : sys.Reached config) : IngestedUpToCursor config sys := by
  obtain ⟨actions, resumable, rfl⟩ := reached
  exact ((IndexerSys.consistent_initial config).run resumable).ingested
    ((IndexerSys.rowsFromLog_initial config).run actions)

theorem IndexerSys.run_append (sys : IndexerSys) (first second : List Action) :
    sys.run config (first ++ second) = (sys.run config first).run config second := by
  induction first generalizing sys with
  | nil => rfl
  | cons action rest inductionHypothesis => exact inductionHypothesis _

theorem IndexerSys.Reached.step (reached : sys.Reached config) {action : Action}
    (resumes : action.resumesFromCursor = true) : (sys.step config action).Reached config := by
  obtain ⟨actions, resumable, rfl⟩ := reached
  refine ⟨actions ++ [action], fun other member => ?_, by rw [IndexerSys.run_append]; rfl⟩
  rcases List.mem_append.mp member with earlier | last
  · exact resumable other earlier
  · rw [List.mem_singleton.mp last]
    exact resumes

/-- What is served depends on the log and the table only. -/
theorem ServesProjectEvents.of_eq {projectId : String} {other : IndexerSys}
    (served : ServesProjectEvents config sys projectId) (chain : other.chain = sys.chain)
    (db : other.db = sys.db) : ServesProjectEvents config other projectId := by
  obtain ⟨otherChain, otherDb, loop⟩ := other
  subst chain db
  exact served

/-- Over every run whose restarts read the stored cursor back, with fetches,
inserts and saves failing anywhere, `GET /projects/:id/events` serves the
project's rows of the log up to the stored cursor, exactly once for keys without
NULL, and nothing else. -/
theorem project_events_served (reached : sys.Reached config) (projectId : String) :
    ServesProjectEvents config sys projectId :=
  reached.ingested.serves projectId

theorem project_events_served_redelivered :
    redeliveredSys.Reached sampleIndexerConfig ∧
      ServesProjectEvents sampleIndexerConfig redeliveredSys "0" :=
  have reached : redeliveredSys.Reached sampleIndexerConfig := ⟨redeliveryTrace, by decide, rfl⟩
  ⟨reached, project_events_served reached "0"⟩

/-! The API and the indexer share the database and run at once. `insert_events`
commits each statement by itself, so a read beside a poll can see the table
after any number of its inserts. Each such table is one the model reaches: the
one a poll leaves when its next statement fails. -/

/-- The databases `poll_once` passes through when no statement fails, one per
statement that writes: the one it starts from, the one after each
`INSERT OR IGNORE`, and the one after `save_cursor`. -/
def pollStates (config : Config) (chain : Chain) (db : Db) (startLedger : Nat)
    (cursor : Option String) : List Db :=
  match chain.getEvents startLedger cursor config.eventsPerPage with
  | none => [db]
  | some page =>
    let decoded := if page.events.isEmpty then [] else decodeEvents page.events config.contractId
    (List.range (decoded.length + 1)).map (fun count =>
        { db with events := (insertEvents db.events (decoded.take count)).1 }) ++
      [(pollOnce config chain db startLedger cursor Faults.none).1]

/-- Every database a poll passes through is the one a poll failing at its next
statement leaves. -/
theorem pollStates_observed {chain : Chain} {db : Db} {startLedger : Nat} {cursor : Option String}
    {observed : Db} (member : observed ∈ pollStates config chain db startLedger cursor) :
    ∃ faults, (pollOnce config chain db startLedger cursor faults).1 = observed := by
  unfold pollStates at member
  split at member
  · next unanswered =>
    obtain rfl := List.mem_singleton.mp member
    exact ⟨⟨true, none, false⟩, rfl⟩
  · next page answered =>
    rcases List.mem_append.mp member with inserting | saved
    · obtain ⟨count, within, rfl⟩ := List.mem_map.mp inserting
      have bounded := List.mem_range.mp within
      cases empty : page.events.isEmpty
      · simp only [empty, Bool.false_eq_true, ↓reduceIte] at bounded ⊢
        by_cases partway : count < (decodeEvents page.events config.contractId).length
        · exact ⟨⟨false, some count, false⟩, by simp [pollOnce, answered, empty, insertEventsUntil, partway]⟩
        · have whole : count = (decodeEvents page.events config.contractId).length := by omega
          refine ⟨⟨false, none, true⟩, ?_⟩
          simp [pollOnce, answered, empty, insertEventsUntil, whole]
      · simp only [empty, ↓reduceIte] at bounded ⊢
        have zero : count = 0 := by simpa using bounded
        exact ⟨⟨false, none, true⟩, by simp [pollOnce, answered, empty, zero, insertEvents]⟩
    · exact ⟨Faults.none, (List.mem_singleton.mp saved).symm⟩

/-- Reads beside the indexer: however a poll's statements interleave with a
read of `GET /projects/:id/events`, from any state the indexer reaches the read
sees a table served as `project_events_served` describes, also between two
inserts of one page. -/
theorem reads_beside_poll_served (reached : sys.Reached config) (projectId : String) {observed : Db}
    (member : observed ∈ pollStates config sys.chain sys.db sys.loop.currentLedger sys.loop.cursor) :
    ServesProjectEvents config { sys with db := observed } projectId := by
  obtain ⟨faults, rfl⟩ := pollStates_observed member
  have resumes : (Action.poll faults).resumesFromCursor = true := rfl
  have polled := (reached.step resumes).ingested.serves projectId
  exact polled.of_eq rfl (IndexerSys.step_poll_db config sys faults).symm

/-- Three events emitted and a ledger closed, not yet polled. -/
def unpolledSys : IndexerSys :=
  (IndexerSys.initial sampleIndexerConfig).run sampleIndexerConfig
    [.emit firstDeposit, .emit secondDeposit, .emit verification, .close 6]

/-- The table after the first insert of the next poll. -/
def midPollDb : Db :=
  { unpolledSys.db with
    events := (insertEvents unpolledSys.db.events
      ((decodeEvents unpolledSys.chain.log sampleIndexerConfig.contractId).take 1)).1 }

theorem reads_beside_poll_served_midway :
    unpolledSys.Reached sampleIndexerConfig ∧
      midPollDb ∈ pollStates sampleIndexerConfig unpolledSys.chain unpolledSys.db
        unpolledSys.loop.currentLedger unpolledSys.loop.cursor ∧
      ServesProjectEvents sampleIndexerConfig { unpolledSys with db := midPollDb } "0" :=
  have reached : unpolledSys.Reached sampleIndexerConfig := ⟨_, by decide, rfl⟩
  have member : midPollDb ∈ pollStates sampleIndexerConfig unpolledSys.chain unpolledSys.db
      unpolledSys.loop.currentLedger unpolledSys.loop.cursor :=
    List.mem_append_left _ (List.mem_map.mpr ⟨1, by decide, rfl⟩)
  ⟨reached, member, reads_beside_poll_served reached "0" member⟩

end Served

end Pifp.Indexer
