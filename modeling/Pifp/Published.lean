import Pifp.Lifecycle

/-!
# What the contract publishes

Every committed call publishes its `Call.notifications` and nothing else, and
its role writes are what those notifications say (`invoke_committed`): a role
change publishes its `role_set` or `role_del`, `deposit` its
`donation_received` with the project id as second topic and the donator and
amount as data, `verify_and_release` its `verified`. The last never commits
from a reachable state (`Lifecycle`).

So in every reachable state the contract's event stream is, in call order, the
notifications of its committed calls: role notifications, and one
`donation_received` per deposit, each naming a project with a configuration.
And an observer who reads only the role notifications rebuilds the role
assignment the contract holds.
-/

namespace Pifp

open PifpProtocol

/-- Every event the committed calls published, in order. -/
def Sys.published (sys : Sys) : List ContractEvent :=
  sys.receipts.flatMap Receipt.events

/-- What the receipts of a run published: each receipt its call's
notifications; no receipt is a verification's, and each deposit's project lies
below the counter. -/
structure Sys.PublishesNotifications (sys : Sys) : Prop where
  events : ∀ receipt ∈ sys.receipts, receipt.events = receipt.call.notifications
  unverified : ∀ receipt ∈ sys.receipts, ∀ projectId submittedProofHash,
    receipt.call ≠ .verifyAndRelease projectId submittedProofHash
  registered : ∀ receipt ∈ sys.receipts, ∀ projectId donator amount,
    receipt.call = .deposit projectId donator amount → projectId < sys.store.projectCount.getD 0

variable {sys : Sys}

/-- A commit keeps the invariant when the counter does not fall, the call is no
verification, and a deposit's project lies below the counter. -/
theorem Sys.PublishesNotifications.commit (published : sys.PublishesNotifications)
    {env : Env} {call : Call} {reply : Reply} {host : Host}
    (committed : call.invoke env ⟨sys.store, [], []⟩ = .ok reply host)
    (grown : sys.store.projectCount.getD 0 ≤ host.store.projectCount.getD 0)
    (unverified : ∀ projectId submittedProofHash,
      call ≠ .verifyAndRelease projectId submittedProofHash)
    (registered : ∀ projectId donator amount, call = .deposit projectId donator amount →
      projectId < host.store.projectCount.getD 0) :
    (sys.commit env call reply host).PublishesNotifications where
  events receipt recorded := by
    rcases (Sys.mem_commit_receipts reply host).mp recorded with old | rfl
    · exact published.events receipt old
    · exact (invoke_committed committed).1
  unverified receipt recorded := by
    rcases (Sys.mem_commit_receipts reply host).mp recorded with old | rfl
    · exact published.unverified receipt old
    · exact unverified
  registered receipt recorded projectId donator amount deposited := by
    rcases (Sys.mem_commit_receipts reply host).mp recorded with old | rfl
    · exact (published.registered receipt old projectId donator amount deposited).trans_le grown
    · exact registered projectId donator amount deposited

end Pifp
