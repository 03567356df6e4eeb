import Pifp.Types

/-!
# The Soroban host as one invocation sees it

An invocation runs in `Contract`, an `EStateM` over the contract's storage and
the effects produced so far: the transfers made through the external token
interface and the events published. A failure returns the host as it stood at
the point of failure, so every storage write takes effect at once. The host's
rollback of a failed invocation is applied one level up, where calls are
committed.

The environment fixes what the host decides outside the contract: the ledger
clock, the addresses that authorized the invocation, and the verdict of each
token contract. A token is whatever contract the project's creator named, so
its verdict on a transfer is an arbitrary function.

The second half is a small program logic for failure atomicity: operations
that keep the data entries, operations that never fail, and the bind rule that
makes a failure-atomic program from a data-keeping prefix.
-/

namespace Pifp

/-- One call of `transfer(from, to, amount)` on a token contract. -/
structure Transfer where
  token : Address
  sender : Address
  recipient : Address
  amount : Int
  deriving DecidableEq

/-- What the host fixes for one invocation. The contract's own address cannot
authorize a call to itself: it has no `__check_auth`, and re-entry is refused. -/
structure Env where
  timestamp : Nat
  sequence : Nat
  contract : Address
  signers : List Address
  contract_unsigned : contract ∉ signers
  accepts : Transfer → Bool

/-- A Soroban value as it appears in the topics and the data of an event. -/
inductive ScVal
  | symbol (name : String)
  | u64 (value : Nat)
  | i128 (value : Int)
  | address (value : Address)
  | vec (items : List ScVal)

/-- An event published with `env.events().publish(topics, data)`. -/
structure ContractEvent where
  topics : List ScVal
  data : ScVal

/-- How an invocation fails: a typed `panic_with_error!`, an untyped panic
(`panic!`, `expect`, an arithmetic overflow) with its message, a failed
`require_auth`, or a token contract that aborted a transfer. -/
inductive Failure
  | contractError (error : Error)
  | panic (message : String)
  | authFailed (address : Address)
  | callFailed (transfer : Transfer)

/-- The contract's storage keys, `DataKey` of `storage.rs`. -/
inductive DataKey
  | projectCount
  | oracleKey
  | projConfig (id : Nat)
  | projState (id : Nat)
  deriving DecidableEq

/-- TTL metadata: the last ledger at which the instance tier lives, and the
same for each persistent entry. -/
structure Ttl where
  instanceLiveUntil : Nat
  liveUntil : DataKey → Nat

/-- Contract storage. The instance tier holds `ProjectCount` and `OracleKey`;
the persistent tier one `ProjConfig` and one `ProjState` entry per project;
the access-control module its role assignment. Absent entries are `none`. -/
structure Store where
  projectCount : Option Nat
  oracleKey : Option Address
  projConfig : Nat → Option ProjectConfig
  projState : Nat → Option ProjectState
  roles : Address → Option Role
  superAdmin : Option Address
  ttl : Ttl

/-- The storage of a freshly deployed contract. -/
def Store.empty : Store :=
  ⟨none, none, fun _ => none, fun _ => none, fun _ => none, none, ⟨0, fun _ => 0⟩⟩

/-- The four entries of `storage.rs` that hold contract data, without TTL
metadata or role entries. -/
def Store.data (store : Store) :
    Option Nat × Option Address × (Nat → Option ProjectConfig) × (Nat → Option ProjectState) :=
  (store.projectCount, store.oracleKey, store.projConfig, store.projState)

/-- The state an invocation threads: storage, then its transfers and events in
the order made. -/
structure Host where
  store : Store
  transfers : List Transfer
  events : List ContractEvent

/-- Code running inside one invocation. -/
abbrev Contract := EStateM Failure Host

/-- Read the storage. -/
def readStore : Contract Store := fun host => .ok host.store host

/-- Write the storage. -/
def writeStore (write : Store → Store) : Contract Unit :=
  fun host => .ok () { host with store := write host.store }

/-- `Option::expect`: the value, or a panic with the given message. -/
def expect {α : Type} (value : Option α) (message : String) : Contract α :=
  match value with
  | some a => pure a
  | none => throw (.panic message)

/-- Fail with `failure` when `condition` holds: the shape of every
`if ... { panic_with_error!(...) }` guard of the source. -/
def failIf (condition : Prop) [Decidable condition] (failure : Failure) : Contract Unit :=
  if condition then throw failure else pure ()

/-- `address.require_auth()`. -/
def requireAuth (env : Env) (address : Address) : Contract Unit :=
  failIf (address ∉ env.signers) (.authFailed address)

/-- `token::Client::new(env, token).transfer(from, to, amount)`. The token
contract accepts and the call is recorded, or it aborts the invocation. -/
def transfer (env : Env) (token sender recipient : Address) (amount : Int) : Contract Unit :=
  let call : Transfer := ⟨token, sender, recipient, amount⟩
  if env.accepts call then fun host => .ok () { host with transfers := host.transfers ++ [call] }
  else throw (.callFailed call)

/-- `env.events().publish(topics, data)`. -/
def publish (topics : List ScVal) (data : ScVal) : Contract Unit :=
  fun host => .ok () { host with events := host.events ++ [⟨topics, data⟩] }

/-- `a + b` on `i128` with overflow checks. -/
def addI128 (a b : Int) : Contract Int :=
  if InI128 (a + b) then pure (a + b) else throw (.panic "attempt to add with overflow")

/-- `a + b` on `u64` with overflow checks. -/
def addU64 (a b : Nat) : Contract Nat :=
  if a + b ≤ u64Max then pure (a + b) else throw (.panic "attempt to add with overflow")

section Monad

variable {α β : Type} {x : Contract α} {f : α → Contract β} {host after : Host}

theorem bind_apply (f : α → Contract β) (host : Host) :
    (x >>= f) host = EStateM.bind x f host := rfl

/-- A bind runs its continuation on the host its first part returned. -/
theorem bind_of_ok {a : α} (first : x host = .ok a after) : (x >>= f) host = f a after := by
  simp only [bind_apply, EStateM.bind, first]

/-- A bind stops at the failure of its first part. -/
theorem bind_of_error {failure : Failure} (first : x host = .error failure after) :
    (x >>= f) host = .error failure after := by
  simp only [bind_apply, EStateM.bind, first]

/-- A bind returns exactly when its first part returns and then its
continuation does. With the `_eq_ok` lemmas below, `simp` turns a straight-line
`do` block into the conjunction of what each step requires. -/
theorem bind_eq_ok {b : β} :
    (x >>= f) host = .ok b after ↔ ∃ a middle, x host = .ok a middle ∧ f a middle = .ok b after := by
  constructor
  · intro returned
    cases first : x host with
    | ok a middle => exact ⟨a, middle, rfl, (bind_of_ok first).symm.trans returned⟩
    | error failure middle => simp [bind_of_error first] at returned
  · rintro ⟨a, middle, first, rest⟩
    exact (bind_of_ok first).trans rest

/-- A bind fails exactly when its first part fails, or returns and then its
continuation fails. -/
theorem bind_eq_error {failure : Failure} :
    (x >>= f) host = .error failure after ↔
      x host = .error failure after ∨
        ∃ a middle, x host = .ok a middle ∧ f a middle = .error failure after := by
  cases first : x host with
  | ok a middle =>
    simp only [bind_of_ok first, reduceCtorEq, false_or, EStateM.Result.ok.injEq]
    constructor
    · intro failed
      exact ⟨a, middle, ⟨rfl, rfl⟩, failed⟩
    · rintro ⟨_, _, ⟨rfl, rfl⟩, failed⟩
      exact failed
  | error other middle => simp [bind_of_error first]

/-- A map returns the image of what its argument returned. -/
@[simp] theorem map_eq_ok {g : α → β} {b : β} :
    (g <$> x) host = .ok b after ↔ ∃ a, x host = .ok a after ∧ b = g a := by
  show EStateM.map g x host = _ ↔ _
  cases first : x host with
  | ok a middle =>
    simp only [EStateM.map, first, EStateM.Result.ok.injEq]
    constructor
    · rintro ⟨rfl, rfl⟩
      exact ⟨a, ⟨rfl, rfl⟩, rfl⟩
    · rintro ⟨_, ⟨rfl, rfl⟩, rfl⟩
      exact ⟨rfl, rfl⟩
  | error failure middle => simp [EStateM.map, first]

/-- A map fails as its argument does. -/
theorem map_of_error {g : α → β} {failure : Failure} (first : x host = .error failure after) :
    (g <$> x) host = .error failure after := by
  show EStateM.map g x host = _
  simp only [EStateM.map, first]

@[simp] theorem pure_eq_ok {a b : α} : (pure a : Contract α) host = .ok b after ↔ b = a ∧ after = host := by
  show EStateM.Result.ok a host = _ ↔ _
  simp [eq_comm]

@[simp] theorem pure_ne_error {a : α} {failure : Failure} :
    (pure a : Contract α) host ≠ .error failure after := nofun

@[simp] theorem throw_eq_error {failure other : Failure} :
    (throw failure : Contract α) host = .error other after ↔ other = failure ∧ after = host := by
  show EStateM.Result.error failure host = _ ↔ _
  simp [eq_comm]

@[simp] theorem throw_ne_ok {failure : Failure} {a : α} :
    (throw failure : Contract α) host ≠ .ok a after := nofun

@[simp] theorem readStore_eq_ok {store : Store} :
    readStore host = .ok store after ↔ store = host.store ∧ after = host := by
  simp [readStore, eq_comm]

@[simp] theorem writeStore_eq_ok {write : Store → Store} {u : Unit} :
    writeStore write host = .ok u after ↔ after = { host with store := write host.store } := by
  simp [writeStore, eq_comm]

@[simp] theorem publish_eq_ok {topics : List ScVal} {data : ScVal} {u : Unit} :
    publish topics data host = .ok u after ↔
      after = { host with events := host.events ++ [⟨topics, data⟩] } := by
  simp [publish, eq_comm]

@[simp] theorem expect_eq_ok {value : Option α} {message : String} {a : α} :
    expect value message host = .ok a after ↔ value = some a ∧ after = host := by
  cases value with
  | some value => simp [expect, eq_comm]
  | none => exact ⟨nofun, fun ⟨absent, _⟩ => nomatch absent⟩

/-- A guard returns exactly when its condition fails, and then changes nothing. -/
@[simp] theorem failIf_eq_ok {condition : Prop} [Decidable condition] {failure : Failure}
    {u : Unit} : failIf condition failure host = .ok u after ↔ ¬condition ∧ after = host := by
  unfold failIf
  split <;> simp_all

/-- `require_auth` passes exactly for a signer. -/
@[simp] theorem requireAuth_eq_ok {env : Env} {address : Address} {u : Unit} :
    requireAuth env address host = .ok u after ↔ address ∈ env.signers ∧ after = host := by
  simp [requireAuth]

/-- A transfer returns exactly when the token accepts it, and is then recorded. -/
@[simp] theorem transfer_eq_ok {env : Env} {token sender recipient : Address} {amount : Int}
    {u : Unit} : transfer env token sender recipient amount host = .ok u after ↔
      env.accepts ⟨token, sender, recipient, amount⟩ = true ∧
        after = { host with transfers := host.transfers ++ [⟨token, sender, recipient, amount⟩] } := by
  unfold transfer
  split
  · next accepted => simp [accepted, eq_comm]
  · next rejected => simp [rejected]

/-- Checked `i128` addition returns exactly the in-range sum. -/
@[simp] theorem addI128_eq_ok {a b c : Int} :
    addI128 a b host = .ok c after ↔ InI128 (a + b) ∧ c = a + b ∧ after = host := by
  unfold addI128
  split <;> simp_all

/-- Checked `u64` addition returns exactly the sum up to `u64::MAX`. -/
@[simp] theorem addU64_eq_ok {a b c : Nat} :
    addU64 a b host = .ok c after ↔ a + b ≤ u64Max ∧ c = a + b ∧ after = host := by
  unfold addU64
  split
  · next inRange => simp [inRange]
  · next outOfRange => simp [outOfRange]

end Monad

section FailureAtomicity

/-! The program logic for failure atomicity. A call is failure-atomic when any
failure leaves the four data entries as they were before it, with its writes
taking effect immediately. It suffices that everything which can fail comes
before the first write to those entries. -/

variable {α β : Type} {x : Contract α} {f : α → Contract β}

/-- The host an outcome leaves, whether the code returned or failed. -/
def resultHost : EStateM.Result Failure Host α → Host
  | .ok _ host => host
  | .error _ host => host

/-- `op` leaves the four data entries as they were, whatever its outcome. -/
def KeepsData (op : Contract α) : Prop :=
  ∀ host, (resultHost (op host)).store.data = host.store.data

/-- `op` returns from every host. -/
def NeverFails (op : Contract α) : Prop :=
  ∀ host failure after, op host ≠ .error failure after

/-- A failure of `op` leaves the four data entries as they were before it. -/
def FailureAtomic (op : Contract α) : Prop :=
  ∀ host failure after, op host = .error failure after → after.store.data = host.store.data

/-- Code that keeps the data is failure-atomic. -/
theorem KeepsData.failureAtomic (keeps : KeepsData x) : FailureAtomic x := by
  intro host failure after failed
  simpa [resultHost, failed] using keeps host

/-- Code that never fails is failure-atomic, whatever it writes. -/
theorem NeverFails.failureAtomic (total : NeverFails x) : FailureAtomic x :=
  fun host failure after failed => absurd failed (total host failure after)

/-- Sequencing two pieces of code that keep the data keeps the data. -/
theorem KeepsData.bind (first : KeepsData x) (rest : ∀ a, KeepsData (f a)) :
    KeepsData (x >>= f) := by
  intro host
  cases run : x host with
  | ok a middle =>
    have kept := first host
    simp only [run, resultHost] at kept
    rw [bind_of_ok run, rest a middle, kept]
  | error failure middle => simpa [bind_of_error run, resultHost, run] using first host

/-- Sequencing two pieces of code that never fail never fails. -/
theorem NeverFails.bind (first : NeverFails x) (rest : ∀ a, NeverFails (f a)) :
    NeverFails (x >>= f) := by
  intro host failure after failed
  rcases bind_eq_error.mp failed with stopped | ⟨a, middle, _, failedLater⟩
  · exact first host failure after stopped
  · exact rest a middle failure after failedLater

/-- The bind rule: a data-keeping prefix followed by failure-atomic code is
failure-atomic. Writes may only follow the last point of failure. -/
theorem FailureAtomic.bind (first : KeepsData x) (rest : ∀ a, FailureAtomic (f a)) :
    FailureAtomic (x >>= f) := by
  intro host failure after failed
  rcases bind_eq_error.mp failed with stopped | ⟨a, middle, returned, failedLater⟩
  · exact first.failureAtomic host failure after stopped
  · have kept := first host
    simp only [returned, resultHost] at kept
    rw [rest a middle failure after failedLater, kept]

/-- Failure-atomic code followed by code that never fails is failure-atomic:
the writes of the second part happen only once nothing can fail any more. -/
theorem FailureAtomic.bind_neverFails (first : FailureAtomic x) (rest : ∀ a, NeverFails (f a)) :
    FailureAtomic (x >>= f) := by
  intro host failure after failed
  rcases bind_eq_error.mp failed with stopped | ⟨a, middle, _, failedLater⟩
  · exact first host failure after stopped
  · exact absurd failedLater (rest a middle failure after)

theorem keepsData_pure (a : α) : KeepsData (pure a : Contract α) := fun _ => rfl

theorem keepsData_throw (failure : Failure) : KeepsData (throw failure : Contract α) :=
  fun _ => rfl

theorem neverFails_pure (a : α) : NeverFails (pure a : Contract α) := fun _ _ _ => nofun

theorem keepsData_readStore : KeepsData readStore := fun _ => rfl

theorem keepsData_expect (value : Option α) (message : String) : KeepsData (expect value message) := by
  intro host
  cases value <;> rfl

theorem keepsData_failIf (condition : Prop) [Decidable condition] (failure : Failure) :
    KeepsData (failIf condition failure) := by
  intro host
  unfold failIf
  split <;> rfl

theorem keepsData_requireAuth (env : Env) (address : Address) :
    KeepsData (requireAuth env address) :=
  keepsData_failIf _ _

theorem keepsData_transfer (env : Env) (token sender recipient : Address) (amount : Int) :
    KeepsData (transfer env token sender recipient amount) := by
  intro host
  unfold transfer
  split <;> rfl

theorem keepsData_addI128 (a b : Int) : KeepsData (addI128 a b) := by
  intro host
  unfold addI128
  split <;> rfl

theorem keepsData_addU64 (a b : Nat) : KeepsData (addU64 a b) := by
  intro host
  unfold addU64
  split <;> rfl

theorem neverFails_writeStore (write : Store → Store) : NeverFails (writeStore write) :=
  fun _ _ _ => nofun

theorem neverFails_publish (topics : List ScVal) (data : ScVal) : NeverFails (publish topics data) :=
  fun _ _ _ => nofun

/-- A storage write that leaves the data entries alone keeps the data. -/
theorem keepsData_writeStore {write : Store → Store} (untouched : ∀ store, (write store).data = store.data) :
    KeepsData (writeStore write) :=
  fun host => untouched host.store

end FailureAtomicity

end Pifp
