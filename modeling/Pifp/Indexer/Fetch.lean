import Pifp.Indexer.Poll

/-!
# Fetching a page

`fetch_events` of `rpc.rs`: one `getEvents` request after another, with the
same parameters, until one of them ends the call. A request that fails to send,
an answer with status `429`, and an RPC error other than `-32600` and `-32601`
are retried after a sleep, which starts at two seconds and doubles after each
retry, up to sixty. A body that does not decode, one of the two hard error
codes, and a body with neither an error nor a result end the call with an
error; a body with a result and no error ends it with that result. An error in
the body wins over a result beside it.

The loop has no bound of its own. While the RPC keeps failing, rate-limiting or
answering soft errors, the call does not return, and neither does the poll that
made it; the polling model (`Poll`) sees only how a call ends, as the fault
`fetch` or as the page the RPC serves. The requests themselves, and the
deserialization of the body, are not modelled: each request is the response it
gets back.
-/

namespace Pifp.Indexer

/-- `MAX_BACKOFF_SECS`. -/
def maxBackoffSecs : Nat := 60

/-- `INITIAL_BACKOFF_SECS`. -/
def initialBackoffSecs : Nat := 2

/-- `RpcError`. -/
structure RpcError where
  code : Int
  message : String

/-- `RpcResponse`; its result, `EventsResult`, is the page: the events, the
cursor and the latest ledger. -/
structure RpcResponse where
  result : Option Page
  error : Option RpcError

/-- What one request of the loop gets back. -/
inductive Response
  /-- `send` failed: no connection, a reset, a timeout. -/
  | failed
  /-- An answer with status `429 Too Many Requests`. -/
  | rateLimited
  /-- An answer with any other status, its body read as an `RpcResponse`;
  `none` when it does not decode. -/
  | answered (body : Option RpcResponse)

/-- What the loop does with one response: `none` to sleep and send the request
again, or the result the call returns. -/
def Response.outcome : Response → Option (Except IndexerError Page)
  | .failed | .rateLimited => none
  | .answered none => some (.error .http)
  | .answered (some body) =>
    match body.error with
    | some error =>
      if error.code = -32600 ∨ error.code = -32601 then
        some (.error (.eventParse
          ("RPC hard error " ++ toString error.code ++ ": " ++ error.message)))
      else none
    | none =>
      match body.result with
      | some page => some (.ok page)
      | none => some (.error (.eventParse "Empty result from getEvents"))

/-- `backoff = (backoff * 2).min(MAX_BACKOFF_SECS)`. -/
def nextBackoff (backoff : Nat) : Nat := min (backoff * 2) maxBackoffSecs

/-- The loop of `fetch_events` from `backoff`, over the responses its requests
get: the result it returns, `none` while it is still retrying when the
responses run out, and the seconds it slept, in order. -/
def fetchLoop (backoff : Nat) : List Response → Option (Except IndexerError Page) × List Nat
  | [] => (none, [])
  | response :: responses =>
    match response.outcome with
    | some result => (some result, [])
    | none =>
      let rest := fetchLoop (nextBackoff backoff) responses
      (rest.1, backoff :: rest.2)

/-- `fetch_events`: the loop from `INITIAL_BACKOFF_SECS`. -/
def fetchEvents (responses : List Response) : Option (Except IndexerError Page) × List Nat :=
  fetchLoop initialBackoffSecs responses

section Loop

/-- The sleep before a retry, counted from `backoff`: doubled once per retry,
up to `MAX_BACKOFF_SECS`. -/
theorem min_nextBackoff_mul (backoff retry : Nat) :
    min (nextBackoff backoff * 2 ^ retry) maxBackoffSecs =
      min (backoff * 2 ^ (retry + 1)) maxBackoffSecs := by
  have doubled : backoff * 2 ^ (retry + 1) = backoff * 2 * 2 ^ retry := by
    rw [Nat.pow_succ, Nat.mul_comm (2 ^ retry), Nat.mul_assoc]
  have positive : 1 ≤ 2 ^ retry := Nat.one_le_two_pow
  rw [doubled, nextBackoff]
  by_cases small : backoff * 2 ≤ maxBackoffSecs
  · rw [Nat.min_eq_left small]
  · have capped : maxBackoffSecs ≤ maxBackoffSecs * 2 ^ retry := Nat.le_mul_of_pos_right _ positive
    have past : maxBackoffSecs ≤ backoff * 2 * 2 ^ retry :=
      (Nat.le_of_not_le small).trans (Nat.le_mul_of_pos_right _ positive)
    rw [Nat.min_eq_right (Nat.le_of_not_le small), Nat.min_eq_right capped, Nat.min_eq_right past]

/-- The loop from a backoff within the cap returns the outcome of the first
response that ends it, and sleeps once per response before that one, the
backoff doubled per retry up to the cap. -/
theorem fetchLoop_eq {backoff : Nat} (capped : backoff ≤ maxBackoffSecs) (responses : List Response) :
    fetchLoop backoff responses =
      (responses.findSome? Response.outcome,
        (List.range (responses.takeWhile fun response => response.outcome.isNone).length).map
          fun retry => min (backoff * 2 ^ retry) maxBackoffSecs) := by
  induction responses generalizing backoff with
  | nil => rfl
  | cons response responses inductionHypothesis =>
    cases ended : response.outcome with
    | some result => simp [fetchLoop, ended]
    | none =>
      have next : nextBackoff backoff ≤ maxBackoffSecs := Nat.min_le_right _ _
      simp only [fetchLoop, ended, inductionHypothesis next, List.findSome?_cons,
        List.takeWhile_cons, Option.isNone_none, if_true, List.length_cons, List.range_succ_eq_map,
        List.map_cons, List.map_map, Function.comp_def, min_nextBackoff_mul, Nat.pow_zero,
        Nat.mul_one, Nat.min_eq_left capped]

/-- `fetch_events` over any responses: it returns the outcome of the first
response that ends the loop, having slept once per response before it, two
seconds, then twice the last sleep up to sixty; while every response is
retried it has not returned. -/
theorem fetchEvents_eq (responses : List Response) :
    fetchEvents responses =
      (responses.findSome? Response.outcome,
        (List.range (responses.takeWhile fun response => response.outcome.isNone).length).map
          fun retry => min (2 ^ (retry + 1)) maxBackoffSecs) := by
  rw [fetchEvents, fetchLoop_eq (by decide)]
  simp only [initialBackoffSecs, Nat.pow_succ, Nat.mul_comm 2]

example : fetchEvents (List.replicate 7 .rateLimited ++ [.answered none]) =
    (some (.error .http), [2, 4, 8, 16, 32, 60, 60]) :=
  rfl

end Loop

end Pifp.Indexer
