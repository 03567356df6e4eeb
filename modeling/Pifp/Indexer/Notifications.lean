import Pifp.Indexer.JsonRoundTrip
import Pifp.Indexer.Rpc
import Pifp.Funds

/-!
# What the indexer makes of the contract's events

The contract publishes three kinds of project event: `deposit` publishes
`("donation_received", project_id)` with data `(donator, amount)`,
`verify_and_release` publishes `("verified",)` with data `project_id`, and
`register_project` publishes none. Rendered as `getEvents` returns them (each
topic the JSON text of its `{"type", "value"}` object, the data that object
itself) and passed through `decode_events`, they do not become the records the
indexer is written for: its table knows `funded` and `created`, and looks for
the project id in a second topic.

A deposit decodes to an `"unknown"` record with no actor and no amount, though
with the right project id; a verification decodes to `"project_verified"` with
no project id; a registration leaves nothing to decode.

The role notifications decode under their own names, with the target's
address in the project id column. Their data, the acting address, renders as
an object rather than a string, so no actor is read from it.
-/

namespace Pifp.Indexer

open Pifp PifpProtocol

mutual
/-- A value in the `{"type", "value"}` shape the indexer reads: numbers that fit
a JSON integer as numbers, `i128` in decimal as a string, addresses as their
strkey, vectors as arrays. -/
def scValJson : ScVal → Json
  | .symbol name => .object [("type", .string "symbol"), ("value", .string name)]
  | .u64 value => .object [("type", .string "u64"), ("value", .number (.posInt value))]
  | .i128 value => .object [("type", .string "i128"), ("value", .string (toString value))]
  | .address address => .object [("type", .string "address"), ("value", .string address.strkey)]
  | .vec items => .object [("type", .string "vec"), ("value", .array (scValsJson items))]

/-- The items of a vector. -/
def scValsJson : List ScVal → List Json
  | [] => []
  | item :: items => scValJson item :: scValsJson items
end

/-- Where and when an event was published, as the RPC reports it. -/
structure EventContext where
  contractId : String
  txHash : Option String
  ledger : Nat
  ledgerClosedAt : String
  successful : Bool

/-- A published event as `getEvents` returns it: each topic the JSON text of its
value, the data its value. -/
def renderEvent (context : EventContext) (event : ContractEvent) : RawEvent where
  topic := event.topics.map fun topic => (scValJson topic).render
  value := scValJson event.data
  contractId := some context.contractId
  txHash := context.txHash
  ledger := some context.ledger
  ledgerClosedAt := some context.ledgerClosedAt
  inSuccessfulContractCall := some context.successful

section Topics

/-- A rendered symbol topic reads back as its symbol. -/
theorem extractSymbol_symbol (name : String) :
    extractSymbol (scValJson (.symbol name)).render = name := by
  have canonical : (scValJson (.symbol name)).canonical 128 = true := by
    simp [scValJson, Json.canonical, Json.entriesCanonical]
    decide
  rw [extractSymbol, Json.fromStr_render canonical]
  simp [scValJson, Json.get, Json.asStr, List.lookup]

/-- A rendered `u64` topic reads back as the number in decimal. -/
theorem extractU64OrRaw_u64 {value : Nat} (inRange : value ≤ u64Max) :
    extractU64OrRaw (scValJson (.u64 value)).render = toString value := by
  have canonical : (scValJson (.u64 value)).canonical 128 = true := by
    simp [scValJson, Json.canonical, Json.entriesCanonical, inRange]
    decide
  rw [extractU64OrRaw, Json.fromStr_render canonical]
  simp [scValJson, Json.get, Json.asU64, List.lookup]

end Topics

section Contract

variable (context : EventContext) (contractId : String)

/-- The record decoded from an event published in `context`, given what was
read from its topics and data. -/
def recordOf (eventType : String) (projectId actor amount : Option String) : PifpEvent :=
  ⟨eventType, projectId, actor, amount, wrapI64 context.ledger,
    (parseIsoToUnix context.ledgerClosedAt).getD 0, context.contractId, context.txHash⟩

/-- A deposit's event decodes to one `"unknown"` record: `donation_received` is
not in the indexer's table. Its project id is read right; no actor and no
amount are. -/
theorem deposit_event_decoded {projectId : Nat} (inRange : projectId ≤ u64Max) (donator : Address)
    (amount : Int) :
    decodeEvents [renderEvent context ⟨[.symbol "donation_received", .u64 projectId],
        .vec [.address donator, .i128 amount]⟩] contractId =
      [recordOf context "unknown" (some (toString projectId)) none none] := by
  simp [decodeEvents, decodeSingle, renderEvent, extractSymbol_symbol, extractU64OrRaw_u64 inRange,
    show EventKind.fromTopic "donation_received" = .unknown from rfl, decodeData, EventKind.asStr,
    recordOf]

/-- A verification's event decodes to one `"project_verified"` record with no
project id: the id is the event's data, not a second topic. -/
theorem verified_event_decoded (projectId : Nat) :
    decodeEvents [renderEvent context ⟨[.symbol "verified"], .u64 projectId⟩] contractId =
      [recordOf context "project_verified" none none none] := by
  have noActor : decodeData (scValJson (.u64 projectId)) .projectVerified = (none, none) := by
    simp [decodeData, extractField, scValJson, Json.get, List.lookup]
  simp [decodeEvents, decodeSingle, renderEvent, extractSymbol_symbol,
    show EventKind.fromTopic "verified" = .projectVerified from rfl, noActor, EventKind.asStr,
    recordOf]

/-- The contract's events against the indexer's decoder: a committed `deposit`
publishes one event, which decodes to an `"unknown"` record with the project id
in decimal and no actor or amount; a committed `verify_and_release` publishes
one, which decodes to `"project_verified"` with no project id; a committed
`register_project` publishes none. -/
theorem contract_events_decoded :
    (∀ env projectId donator amount host after, projectId ≤ u64Max →
      deposit env projectId donator amount host = .ok () after →
        ∃ event, after.events = host.events ++ [event] ∧
          decodeEvents [renderEvent context event] contractId =
            [recordOf context "unknown" (some (toString projectId)) none none]) ∧
    (∀ env projectId submittedProofHash host after,
      verifyAndRelease env projectId submittedProofHash host = .ok () after →
        ∃ event, after.events = host.events ++ [event] ∧
          decodeEvents [renderEvent context event] contractId =
            [recordOf context "project_verified" none none none]) ∧
    (∀ env creator token goal proofHash deadline host project after,
      registerProject env creator token goal proofHash deadline host = .ok project after →
        after.events = host.events) := by
  refine ⟨fun env projectId donator amount host after inRange committed => ?_,
    fun env projectId submittedProofHash host after committed => ?_,
    fun env creator token goal proofHash deadline host project after committed => ?_⟩
  · obtain ⟨-, -, -, -, -, -, -, rfl⟩ := deposit_eq_ok.mp committed
    exact ⟨_, rfl, deposit_event_decoded context contractId inRange donator amount⟩
  · obtain ⟨-, -, -, -, -, -, -, -, -, -, rfl⟩ := verifyAndRelease_eq_ok.mp committed
    exact ⟨_, rfl, verified_event_decoded context contractId projectId⟩
  · obtain ⟨-, -, -, -, -, -, rfl⟩ := registerProject_eq_ok.mp committed
    rfl

end Contract

end Pifp.Indexer
