import Pifp.Indexer.Events

/-!
# Decoding the RPC's events

`rpc.rs` of the indexer, its decoding half. The RPC returns each event with its
topics as strings and its data as a JSON value. The leading topic's symbol,
read from a `{"type", "value"}` string or taken as it is, picks the kind; the
second topic, when there is one, is the project id; the data is searched for an
actor and an amount under field names that depend on the kind. An event with no
topic at all is dropped; every other event decodes, whatever it carries, and
`inSuccessfulContractCall` is never looked at.

The ledger's close time is read as RFC 3339 (`chrono`'s
`parse_from_rfc3339`) into Unix seconds, zero when it is absent or malformed.
-/

namespace Pifp.Indexer

/-- An event as `getEvents` returns it. -/
structure RawEvent where
  /-- The topic list, one string per topic. -/
  topic : List String
  /-- The event's data. -/
  value : Json
  contractId : Option String
  txHash : Option String
  ledger : Option Nat
  ledgerClosedAt : Option String
  /-- Returned by the RPC; read by no function of the indexer. -/
  inSuccessfulContractCall : Option Bool

section Symbols

/-- `extract_symbol`: the `"value"` string of a topic that parses as JSON, the
topic itself otherwise. -/
def extractSymbol (raw : String) : String :=
  match (Json.fromStr raw).bind fun value => (value.get "value").bind Json.asStr with
  | some symbol => symbol
  | none => raw

/-- `extract_u64_or_raw`: the `"value"` of a topic that parses as JSON, in
decimal when it is a `u64`, as it is when it is a string; the topic itself
otherwise. -/
def extractU64OrRaw (raw : String) : String :=
  match Json.fromStr raw with
  | some value =>
    match (value.get "value").bind Json.asU64 with
    | some number => toString number
    | none =>
      match (value.get "value").bind Json.asStr with
      | some text => text
      | none => raw
  | none => raw

/-- The text `extract_field` takes from a field: a string as it is, a number
printed, nothing from any other value. -/
def fieldText : Json → Option String
  | .string text => some text
  | .number number => some number.toString
  | other => other.asStr

/-- `extract_field`: the text of the first of `keys` whose field yields one. -/
def extractField (value : Json) : List String → Option String
  | [] => none
  | key :: keys =>
    match (value.get key).bind fieldText with
    | some text => some text
    | none => extractField value keys

mutual
/-- `find_nested`: a depth-first search of the objects, in key order, for the
first entry named `key`; that entry's string, or nothing if it is not a
string. -/
def findNested (key : String) : Json → Option String
  | .object entries => findNestedEntries key entries
  | _ => none

/-- The search through an object's entries. -/
def findNestedEntries (key : String) : List (String × Json) → Option String
  | [] => none
  | (name, value) :: entries =>
    if name = key then value.asStr
    else
      match findNested key value with
      | some found => some found
      | none => findNestedEntries key entries
end

/-- `decode_data`: the actor and the amount, looked up by the kind's field
names. -/
def decodeData (value : Json) : EventKind → Option String × Option String
  | .projectCreated =>
    let actor := ((value.get "creator" <|> value.get "address").bind Json.asStr) <|>
      findNested "creator" value
    let amount := (value.get "goal").bind fun goal =>
      goal.asStr <|> goal.asI64.map fun number => toString number
    (actor, amount)
  | .projectFunded =>
    (extractField value ["donator", "funder", "address"], extractField value ["amount"])
  | .projectVerified => (extractField value ["oracle", "verifier", "address"], none)
  | .fundsReleased => (none, extractField value ["amount"])
  | .roleSet | .roleDel => (value.asStr <|> extractField value ["address", "caller", "by"], none)
  | .protocolPaused | .protocolUnpaused => (value.asStr <|> extractField value ["address"], none)
  | .unknown => (none, none)

end Symbols

section Time

/-- Exactly `count` decimal digits, read as a number. -/
def scanDigits : Nat → Nat → List Char → Option (Nat × List Char)
  | 0, value, rest => some (value, rest)
  | count + 1, value, c :: rest =>
    if c.isDigit then scanDigits count (10 * value + (c.toNat - 48)) rest else none
  | _ + 1, _, [] => none

/-- One expected character. -/
def scanChar (expected : Char) : List Char → Option (List Char)
  | c :: rest => if c = expected then some rest else none
  | [] => none

/-- An optional fraction of a second: a point and at least one digit, all of
them taken. -/
def scanFraction : List Char → Option (List Char)
  | '.' :: rest =>
    match rest.span Char.isDigit with
    | ([], _) => none
    | (_, rest) => some rest
  | rest => some rest

/-- The offset of the time zone in seconds: `Z`, or a sign, hours, a colon and
minutes below sixty, within a day. -/
def scanOffset : List Char → Option (Int × List Char)
  | c :: rest =>
    if c = 'Z' ∨ c = 'z' then some (0, rest)
    else if c = '+' ∨ c = '-' ∨ c = '−' then do
      let (hours, rest) ← scanDigits 2 0 rest
      let rest ← scanChar ':' rest
      let (minutes, rest) ← scanDigits 2 0 rest
      if 60 ≤ minutes ∨ 23 * 60 + 59 < hours * 60 + minutes then none
      else some ((if c = '+' then 1 else -1) * ((hours * 60 + minutes) * 60 : Nat), rest)
    else none
  | [] => none

/-- Whether `year` is a leap year of the proleptic Gregorian calendar. -/
def isLeapYear (year : Nat) : Bool :=
  year % 4 = 0 && (year % 100 ≠ 0 || year % 400 = 0)

/-- The days of a month. -/
def daysInMonth (year month : Nat) : Nat :=
  if month = 2 then (if isLeapYear year then 29 else 28)
  else if month = 4 ∨ month = 6 ∨ month = 9 ∨ month = 11 then 30
  else 31

/-- Days from 1970-01-01 to a date of the proleptic Gregorian calendar. -/
def daysFromCivil (year month day : Nat) : Int :=
  let shifted : Int := if month ≤ 2 then (year : Int) - 1 else year
  let era := shifted / 400
  let yearOfEra := shifted - era * 400
  let dayOfYear : Int := (153 * ((month + 9) % 12) + 2) / 5 + day - 1
  let dayOfEra := yearOfEra * 365 + yearOfEra / 4 - yearOfEra / 100 + dayOfYear
  era * 146097 + dayOfEra - 719468

/-- A date, `YYYY-MM-DD`. -/
def scanDate (input : List Char) : Option ((Nat × Nat × Nat) × List Char) := do
  let (year, rest) ← scanDigits 4 0 input
  let rest ← scanChar '-' rest
  let (month, rest) ← scanDigits 2 0 rest
  let rest ← scanChar '-' rest
  let (day, rest) ← scanDigits 2 0 rest
  pure ((year, month, day), rest)

/-- What separates the date and the time: `T`, `t` or a space. -/
def scanSeparator : List Char → Option (List Char)
  | c :: rest => if c = 'T' ∨ c = 't' ∨ c = ' ' then some rest else none
  | [] => none

/-- A time of day, `hh:mm:ss`. -/
def scanTime (input : List Char) : Option ((Nat × Nat × Nat) × List Char) := do
  let (hour, rest) ← scanDigits 2 0 input
  let rest ← scanChar ':' rest
  let (minute, rest) ← scanDigits 2 0 rest
  let rest ← scanChar ':' rest
  let (second, rest) ← scanDigits 2 0 rest
  pure ((hour, minute, second), rest)

/-- `parse_iso_to_unix`: `DateTime::parse_from_rfc3339` then `timestamp()`.
A leap second `60` counts as `59`. -/
def parseIsoToUnix (text : String) : Option Int := do
  let ((year, month, day), rest) ← scanDate text.toList
  let rest ← scanSeparator rest
  let ((hour, minute, second), rest) ← scanTime rest
  let rest ← scanFraction rest
  let (offset, rest) ← scanOffset rest
  if rest ≠ [] ∨ month < 1 ∨ 12 < month ∨ day < 1 ∨ daysInMonth year month < day ∨ 23 < hour ∨
      59 < minute ∨ 60 < second then none
  else
    some (daysFromCivil year month day * 86400 + hour * 3600 + minute * 60 + min second 59 - offset)

example : parseIsoToUnix "2024-01-01T00:00:00Z" = some 1704067200 := by decide

example : parseIsoToUnix "2024-02-30T00:00:00Z" = none := by decide

end Time

section Decoding

/-- `u64 as i64`: the two's-complement reading of the low 64 bits. -/
def wrapI64 (value : Nat) : Int :=
  if value % 2 ^ 64 < 2 ^ 63 then (value % 2 ^ 64 : Nat) else (value % 2 ^ 64 : Nat) - 2 ^ 64

/-- `decode_single`: nothing for an event without topics; otherwise the kind
named by the first topic, the project id from the second, the actor and the
amount from the data, the ledger, its close time, the contract (the configured
one when the RPC names none) and the transaction. -/
def decodeSingle (raw : RawEvent) (contractId : String) : Option PifpEvent := do
  let firstTopic ← raw.topic.head?
  let kind := EventKind.fromTopic (extractSymbol firstTopic)
  let (actor, amount) := decodeData raw.value kind
  pure {
    eventType := kind.asStr
    projectId := (raw.topic.get? 1).map extractU64OrRaw
    actor := actor
    amount := amount
    ledger := wrapI64 (raw.ledger.getD 0)
    timestamp := (raw.ledgerClosedAt.bind parseIsoToUnix).getD 0
    contractId := raw.contractId.getD contractId
    txHash := raw.txHash }

/-- `decode_events`: every event that decodes, in order. -/
def decodeEvents (raw : List RawEvent) (contractId : String) : List PifpEvent :=
  raw.filterMap fun event => decodeSingle event contractId

/-- Exactly the events with at least one topic decode. -/
theorem decodeSingle_isSome (raw : RawEvent) (contractId : String) :
    (decodeSingle raw contractId).isSome = !raw.topic.isEmpty := by
  cases topics : raw.topic <;> simp [decodeSingle, topics]

end Decoding

end Pifp.Indexer
