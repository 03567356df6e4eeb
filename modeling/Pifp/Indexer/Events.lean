import Pifp.Indexer.Json

/-!
# The indexer's event kinds

`events.rs` of the indexer: the kinds of event it recognises by the leading
topic symbol, the identifier each is stored under, and the decoded event it
writes to the database. A symbol the table does not list is `Unknown`, stored
as `"unknown"`.
-/

namespace Pifp.Indexer

/-- All recognised event kinds from the PIFP contract. -/
inductive EventKind
  | projectCreated
  | projectFunded
  | projectVerified
  | fundsReleased
  | roleSet
  | roleDel
  | protocolPaused
  | protocolUnpaused
  | unknown
  deriving DecidableEq, Repr

/-- `EventKind::from_topic`: the kind a leading topic symbol names. -/
def EventKind.fromTopic (topic : String) : EventKind :=
  match topic with
  | "created" => .projectCreated
  | "funded" => .projectFunded
  | "verified" => .projectVerified
  | "released" => .fundsReleased
  | "role_set" => .roleSet
  | "role_del" => .roleDel
  | "paused" => .protocolPaused
  | "unpaused" => .protocolUnpaused
  | _ => .unknown

/-- `EventKind::as_str`: the identifier stored in the database. -/
def EventKind.asStr : EventKind → String
  | .projectCreated => "project_created"
  | .projectFunded => "project_funded"
  | .projectVerified => "project_verified"
  | .fundsReleased => "funds_released"
  | .roleSet => "role_set"
  | .roleDel => "role_del"
  | .protocolPaused => "protocol_paused"
  | .protocolUnpaused => "protocol_unpaused"
  | .unknown => "unknown"

/-- A fully decoded PIFP event, ready to be stored in the database. -/
structure PifpEvent where
  eventType : String
  projectId : Option String
  actor : Option String
  amount : Option String
  ledger : Int
  timestamp : Int
  contractId : String
  txHash : Option String
  deriving DecidableEq, Repr

/-- The identifiers of the kinds are pairwise distinct, so the stored
`event_type` determines the kind. -/
theorem EventKind.asStr_injective : Function.Injective EventKind.asStr := by
  intro first second same
  cases first <;> cases second <;> first | rfl | exact absurd same (by decide)

/-- Only the listed symbols name a kind; every other symbol is `Unknown`. -/
theorem EventKind.fromTopic_eq_unknown {topic : String}
    (unlisted : topic ∉ ["created", "funded", "verified", "released", "role_set", "role_del",
      "paused", "unpaused"]) :
    EventKind.fromTopic topic = .unknown := by
  simp only [List.mem_cons, List.mem_singleton, not_or, List.not_mem_nil, not_false_eq_true,
    and_true] at unlisted
  obtain ⟨created, funded, verified, released, roleSet, roleDel, paused, unpaused⟩ := unlisted
  unfold EventKind.fromTopic
  split <;> simp_all

/-- The contract's deposit topic is not in the table. -/
example : EventKind.fromTopic "donation_received" = .unknown :=
  EventKind.fromTopic_eq_unknown (by decide)

end Pifp.Indexer
