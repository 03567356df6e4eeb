import Pifp.Lifecycle

/-!
# Funds held for projects

Each token is a ledger changed only by transfers. The receipts of a run record
every transfer a committed call made, so the amount of a project's token that
its deposits moved into the contract, and the amount the contract paid out for
the project, are sums over the receipts.

`deposit` moves the donated amount from the donator, who signed and so is not
the contract, into the contract, and adds exactly that amount to the recorded
balance with a checked `+=`. No entry point transfers anything out of the
contract: `verify_and_release` marks a project `Completed` and moves no token.
So the deposits to a project always equal its recorded balance, and nothing is
ever released to its creator. That no project of a reachable state is
`Completed` comes from the lifecycle: verification never commits. Were
`OracleKey` ever written, a verification would commit, mark the project
`Completed` and leave its balance held in the contract: the release to the
creator that `verify_and_release`'s documentation promises is not in its body.

The amount is never checked. A token that accepts a transfer of a negative
amount takes the recorded balance below zero.
-/

namespace Pifp

open PifpProtocol

/-- What a transfer moves into `holder` in `token`: its amount when it arrives
there, its negation when it leaves, both when it does both. -/
def Transfer.inflow (token holder : Address) (transfer : Transfer) : Int :=
  (if transfer.token = token ∧ transfer.recipient = holder then transfer.amount else 0) -
    (if transfer.token = token ∧ transfer.sender = holder then transfer.amount else 0)

/-- The project a call is made for. -/
def Call.project? : Call → Option Nat
  | .getProject id => some id
  | .deposit projectId .. | .verifyAndRelease projectId .. => some projectId
  | _ => none

/-- Whether a receipt is that of a committed `deposit(p, _, _)`. -/
def Receipt.isDepositTo (p : Nat) (receipt : Receipt) : Bool :=
  match receipt.call with
  | .deposit projectId .. => projectId == p
  | _ => false

/-- What one receipt's transfers moved into its contract in `token`. -/
def Receipt.inflow (token : Address) (receipt : Receipt) : Int :=
  (receipt.transfers.map (Transfer.inflow token receipt.contract)).sum

/-- What one receipt's transfers paid from its contract to `recipient` in
`token`. -/
def Receipt.paid (token recipient : Address) (receipt : Receipt) : Int :=
  ((receipt.transfers.filter fun transfer =>
    transfer.token == token && transfer.sender == receipt.contract &&
      transfer.recipient == recipient).map Transfer.amount).sum

/-- The amount of `token` the committed `deposit(p, _, _)` calls moved into the
contract. -/
def Sys.deposited (sys : Sys) (p : Nat) (token : Address) : Int :=
  ((sys.receipts.filter (Receipt.isDepositTo p)).map (Receipt.inflow token)).sum

/-- The amount of `token` the contract paid to `recipient` in calls made for
`p`. -/
def Sys.released (sys : Sys) (p : Nat) (token recipient : Address) : Int :=
  ((sys.receipts.filter fun receipt => receipt.call.project? == some p).map
    (Receipt.paid token recipient)).sum

/-- The balance `ProjState(p)` records in `token`: the project's balance when
`token` is the project's token, zero otherwise and for an unregistered id. -/
def Store.held (store : Store) (p : Nat) (token : Address) : Int :=
  match store.projConfig p, store.projState p with
  | some config, some state => if config.token = token then state.balance else 0
  | _, _ => 0

/-- No committed call paid anything out of the contract. -/
def Sys.PaysNothing (sys : Sys) : Prop :=
  ∀ receipt ∈ sys.receipts, ∀ transfer ∈ receipt.transfers, transfer.sender ≠ receipt.contract

/-- The deposits to each project, in each token, are what its state records. -/
def Sys.Funded (sys : Sys) : Prop :=
  ∀ p token, sys.deposited p token = sys.store.held p token

section Accounting

variable {sys : Sys} {env : Env} {call : Call} {reply : Reply} {host : Host}

@[simp] theorem Sys.deposited_commit (p : Nat) (token : Address) :
    (sys.commit env call reply host).deposited p token =
      sys.deposited p token +
        if Receipt.isDepositTo p ⟨call, env.contract, reply, host.transfers, host.events⟩ then
          Receipt.inflow token ⟨call, env.contract, reply, host.transfers, host.events⟩
        else 0 := by
  unfold Sys.deposited
  split <;> simp [List.filter_append, *]

@[simp] theorem Store.held_of_some {store : Store} {p : Nat} {config : ProjectConfig}
    {state : ProjectState} (configured : store.projConfig p = some config)
    (stated : store.projState p = some state) (token : Address) :
    store.held p token = if config.token = token then state.balance else 0 := by
  simp [Store.held, configured, stated]

/-- The recorded balances read only the data entries. -/
theorem Store.held_of_data_eq {store other : Store} (same : store.data = other.data) :
    store.held = other.held := by
  obtain ⟨-, -, configs, states⟩ := Store.data_eq_iff.mp same
  unfold Store.held
  rw [configs, states]

/-- The contract never signs its own invocation. -/
theorem Env.ne_contract_of_signed {address : Address} (signed : address ∈ env.signers) :
    address ≠ env.contract :=
  fun same => env.contract_unsigned (same ▸ signed)

/-- A donator who signed is not the contract, so a deposit's transfer moves
its whole amount in. -/
theorem Transfer.inflow_deposit {token donator : Address} (signed : donator ∈ env.signers)
    (amount : Int) (other : Address) :
    Transfer.inflow other env.contract ⟨token, donator, env.contract, amount⟩ =
      if token = other then amount else 0 := by
  simp [Transfer.inflow, env.ne_contract_of_signed signed]

/-- Rewriting a state entry changes the recorded balance of that project only. -/
theorem Store.held_setState {store : Store} {p q : Nat} {state : ProjectState} (ttl : Ttl)
    (token : Address) (other : q ≠ p) :
    { store with projState := Function.update store.projState p (some state), ttl := ttl }.held
      q token = store.held q token := by
  simp [Store.held, Function.update_noteq other]

end Accounting

section Preservation

variable {sys : Sys} {env : Env} {call : Call} {reply : Reply} {host : Host}

/-- A committed call pays nothing out of the contract: only `deposit`
transfers, and its sender signed. -/
theorem paysNothing_commit (paid : sys.PaysNothing)
    (committed : call.invoke env ⟨sys.store, [], []⟩ = .ok reply host) :
    (sys.commit env call reply host).PaysNothing := by
  intro receipt member
  rcases List.mem_append.mp member with old | new
  · exact paid receipt old
  rw [List.mem_singleton.mp new]
  rcases Call.writes_cases call with
    quiet | ⟨creator, token, goal, proofHash, deadline, rfl⟩ | ⟨projectId, donator, amount, rfl⟩ |
      ⟨projectId, submittedProofHash, rfl⟩
  · simp [(invoke_quiet quiet committed).2]
  · obtain ⟨project, returned, -⟩ := invoke_registerProject_eq_ok.mp committed
    obtain ⟨-, -, -, -, -, -, rfl⟩ := registerProject_eq_ok.mp returned
    simp
  · obtain ⟨config, state, signed, -, -, -, -, rfl⟩ :=
      deposit_eq_ok.mp (invoke_deposit_eq_ok.mp committed).1
    simpa using env.ne_contract_of_signed signed
  · obtain ⟨oracle, config, state, -, -, -, -, -, -, -, rfl⟩ :=
      verifyAndRelease_eq_ok.mp (invoke_verifyAndRelease_eq_ok.mp committed).1
    simp

/-- A committed call keeps every project's deposits equal to its recorded
balance: a deposit adds its amount to both, a registration starts a fresh id
at zero, and the other calls touch neither. -/
theorem funded_commit (represented : sys.store.Represented) (funded : sys.Funded)
    (committed : call.invoke env ⟨sys.store, [], []⟩ = .ok reply host) :
    (sys.commit env call reply host).Funded := by
  intro q token
  rw [Sys.deposited_commit, Sys.commit_store, funded q token]
  rcases Call.writes_cases call with
    quiet | ⟨creator, projectToken, goal, proofHash, deadline, rfl⟩ |
      ⟨projectId, donator, amount, rfl⟩ | ⟨projectId, submittedProofHash, rfl⟩
  · have notDeposit : Receipt.isDepositTo q ⟨call, env.contract, reply, host.transfers,
        host.events⟩ = false := by
      cases call <;> simp_all [Receipt.isDepositTo, Call.writesProjects]
    rw [notDeposit, Store.held_of_data_eq (invoke_quiet quiet committed).1]
    simp
  · obtain ⟨project, returned, -⟩ := invoke_registerProject_eq_ok.mp committed
    obtain ⟨-, -, -, -, -, rfl, rfl⟩ := registerProject_eq_ok.mp returned
    simp only [Receipt.isDepositTo, Bool.false_eq_true, if_false, add_zero]
    by_cases fresh : q = sys.store.projectCount.getD 0
    · subst fresh
      have unregistered : sys.store.projConfig (sys.store.projectCount.getD 0) = none := by
        simpa using (represented.config_isSome _).not.mpr (Nat.lt_irrefl _)
      simp [Store.held, unregistered, Project.config, Project.state]
    · simp [Store.held, Function.update_noteq fresh]
  · obtain ⟨config, state, signed, configured, stated, -, -, rfl⟩ :=
      deposit_eq_ok.mp (invoke_deposit_eq_ok.mp committed).1
    by_cases same : q = projectId
    · subst same
      dsimp only at configured stated
      by_cases sameToken : config.token = token <;>
        simp [Receipt.isDepositTo, Receipt.inflow, Transfer.inflow_deposit signed, Store.held,
          configured, stated, sameToken]
    · simp [Receipt.isDepositTo, Ne.symm same, Store.held_setState _ _ same]
  · obtain ⟨oracle, config, state, -, -, -, configured, stated, -, -, rfl⟩ :=
      verifyAndRelease_eq_ok.mp (invoke_verifyAndRelease_eq_ok.mp committed).1
    by_cases same : q = projectId
    · subst same
      dsimp only at configured stated
      simp [Receipt.isDepositTo, Store.held, configured, stated]
    · simp [Receipt.isDepositTo, Store.held_setState _ _ same]

/-- No reachable state has paid anything out of the contract. -/
theorem paysNothing_of_reachable : Reachable sys → sys.PaysNothing := by
  apply Reachable.induction
  · exact fun _ absent => nomatch absent
  · exact fun _ _ _ _ _ _ paid committed => paysNothing_commit paid committed

/-- Every reachable state is funded. -/
theorem funded_of_reachable : Reachable sys → sys.Funded := by
  apply Reachable.induction
  · exact fun _ _ => rfl
  · exact fun _ _ _ _ _ reachable funded committed =>
      funded_commit (represented_of_reachable reachable) funded committed

/-- Nothing paid out means nothing released to anyone. -/
theorem Sys.PaysNothing.released (paid : sys.PaysNothing) (p : Nat) (token recipient : Address) :
    sys.released p token recipient = 0 := by
  unfold Sys.released
  refine List.sum_eq_zero fun amount listed => ?_
  obtain ⟨receipt, member, rfl⟩ := List.mem_map.mp listed
  refine List.sum_eq_zero fun value paidOut => ?_
  obtain ⟨transfer, selected, rfl⟩ := List.mem_map.mp paidOut
  obtain ⟨sent, chosen⟩ := List.mem_filter.mp selected
  simp only [Bool.and_eq_true, beq_iff_eq] at chosen
  exact absurd chosen.1.2 (paid receipt (List.mem_filter.mp member).1 transfer sent)

end Preservation

section Conservation

variable {sys : Sys}

/-- Funds of a project: in every reachable state, the amount of a registered
project's token that committed deposits to it moved into the contract is its
recorded balance, and the contract has paid its creator nothing for it. -/
theorem project_deposits_held (reachable : Reachable sys) {p : Nat} {config : ProjectConfig}
    {state : ProjectState} (configured : sys.store.projConfig p = some config)
    (stated : sys.store.projState p = some state) :
    sys.deposited p config.token = state.balance ∧ sys.released p config.token config.creator = 0 := by
  have funded := funded_of_reachable reachable p config.token
  rw [Store.held_of_some configured stated, if_pos rfl] at funded
  exact ⟨funded, (paysNothing_of_reachable reachable).released p config.token config.creator⟩

end Conservation

section Deposit

/-- What a committed `deposit(p, donator, amount)` leaves, against the host it
started from: the balance grew by exactly `amount` as an integer within the
`i128` range, the status stayed, the one new transfer moved `amount` from the
donator to the contract in the project's token, and the counter, `OracleKey`,
every configuration and every other project's state are as they were. -/
def DepositEffect (env : Env) (p : Nat) (donator : Address) (amount : Int) (host after : Host) :
    Prop :=
  ∃ config state, host.store.projConfig p = some config ∧ host.store.projState p = some state ∧
    InI128 (state.balance + amount) ∧
    after.store.projState p = some ⟨state.balance + amount, state.status⟩ ∧
    after.transfers = host.transfers ++ [⟨config.token, donator, env.contract, amount⟩] ∧
    after.store.projectCount = host.store.projectCount ∧
    after.store.oracleKey = host.store.oracleKey ∧
    after.store.projConfig = host.store.projConfig ∧
    ∀ q, q ≠ p → after.store.projState q = host.store.projState q

/-- A committed deposit has exactly the effect `DepositEffect` describes: a sum
outside the `i128` range never commits, so the balance never wraps. -/
theorem deposit_adds_exact_amount {env : Env} {host after : Host} {p : Nat} {donator : Address}
    {amount : Int} (committed : deposit env p donator amount host = .ok () after) :
    DepositEffect env p donator amount host after := by
  obtain ⟨config, state, -, configured, stated, -, inRange, rfl⟩ := deposit_eq_ok.mp committed
  exact ⟨config, state, configured, stated, inRange, by simp, rfl, rfl, rfl, rfl,
    fun q other => by simp [Function.update_noteq other]⟩

theorem deposit_adds_exact_amount_sample :
    ∃ after, deposit sampleEnv 0 sampleDonator 1000 ⟨sampleSys.store, [], []⟩ = .ok () after ∧
      DepositEffect sampleEnv 0 sampleDonator 1000 ⟨sampleSys.store, [], []⟩ after :=
  have committed := deposit_eq_ok.mpr
    ⟨sampleProject.config, ⟨1000, .funding⟩, by decide, by decide, by decide, rfl, by decide, rfl⟩
  ⟨_, committed, deposit_adds_exact_amount committed⟩

/-- Initialization, one registration, and a deposit of `-1` in a token that
accepts every transfer. -/
def negativeDepositRun : List (Env × Call) :=
  [(sampleEnv, .init sampleAdmin),
   (sampleEnv, .registerProject sampleAdmin sampleToken 5000 sampleHash 86400),
   (sampleEnv, .deposit 0 sampleDonator (-1))]

/-- Nothing checks the amount of a deposit: after `negativeDepositRun` all
three calls have committed and project 0 records a balance of `-1`. -/
theorem negative_deposit_balance :
    Reachable (Sys.initial.run negativeDepositRun) ∧
    (Sys.initial.run negativeDepositRun).receipts.length = 3 ∧
    (Sys.initial.run negativeDepositRun).store.projState 0 = some ⟨-1, .funding⟩ :=
  ⟨Reachable.initial.run negativeDepositRun, by decide, by decide⟩

end Deposit

end Pifp
