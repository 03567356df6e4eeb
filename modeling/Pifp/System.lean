import Pifp.Protocol

/-!
# The contract under the host

A deployed contract receives invocations of its entry points one at a time.
The host commits an invocation that returns (its storage writes, its
transfers, its events) and discards one that fails, whatever it had written.
What a committed call publishes depends on the call alone
(`Call.notifications`).
The system state is the storage and the receipts of the committed invocations,
so that properties of whole runs can speak about what each call returned and
which tokens it moved.

Every run starts from an empty storage. `Reachable` packages the induction
over runs once: a property that holds initially and survives every committed
invocation holds in every reachable state.
-/

namespace Pifp

/-- An invocation of one entry point with its arguments. -/
inductive Call
  | init (superAdmin : Address)
  | grantRole (caller target : Address) (role : Role)
  | revokeRole (caller target : Address)
  | transferSuperAdmin (currentSuperAdmin newSuperAdmin : Address)
  | roleOf (address : Address)
  | hasRole (address : Address) (role : Role)
  | registerProject (creator token : Address) (goal : Int) (proofHash : BytesN 32) (deadline : Nat)
  | getProject (id : Nat)
  | deposit (projectId : Nat) (donator : Address) (amount : Int)
  | setOracle (caller oracle : Address)
  | verifyAndRelease (projectId : Nat) (submittedProofHash : BytesN 32)

/-- What an entry point returns. -/
inductive Reply
  | unit
  | project (project : Project)
  | role (role : Option Role)
  | bool (answer : Bool)

/-- The entry point a call names, run with its arguments. -/
def Call.invoke (env : Env) : Call → Contract Reply
  | .init superAdmin => do PifpProtocol.init env superAdmin; pure .unit
  | .grantRole caller target role => do PifpProtocol.grantRole env caller target role; pure .unit
  | .revokeRole caller target => do PifpProtocol.revokeRole env caller target; pure .unit
  | .transferSuperAdmin current new => do
      PifpProtocol.transferSuperAdmin env current new
      pure .unit
  | .roleOf address => .role <$> PifpProtocol.roleOf address
  | .hasRole address role => .bool <$> PifpProtocol.hasRole address role
  | .registerProject creator token goal proofHash deadline =>
      .project <$> PifpProtocol.registerProject env creator token goal proofHash deadline
  | .getProject id => .project <$> PifpProtocol.getProject env id
  | .deposit projectId donator amount => do
      PifpProtocol.deposit env projectId donator amount
      pure .unit
  | .setOracle caller oracle => do PifpProtocol.setOracle env caller oracle; pure .unit
  | .verifyAndRelease projectId submittedProofHash => do
      PifpProtocol.verifyAndRelease env projectId submittedProofHash
      pure .unit

/-- The calls that write project entries. -/
def Call.writesProjects : Call → Bool
  | .registerProject .. | .deposit .. | .verifyAndRelease .. => true
  | _ => false

/-- The events a call publishes when it commits: each role change its
notifications (`set_oracle` is a grant of Oracle), `deposit` its
`donation_received`, `verify_and_release` its `verified`; the queries and
`register_project` publish nothing. -/
def Call.notifications : Call → List ContractEvent
  | .init superAdmin => [Rbac.roleSet superAdmin superAdmin .superAdmin]
  | .grantRole caller target role => [Rbac.roleSet caller target role]
  | .revokeRole caller target => [Rbac.roleDel caller target]
  | .transferSuperAdmin current new =>
      [Rbac.roleDel current current, Rbac.roleSet current new .superAdmin]
  | .setOracle caller oracle => [Rbac.roleSet caller oracle .oracle]
  | .deposit projectId donator amount =>
      [⟨[.symbol "donation_received", .u64 projectId], .vec [.address donator, .i128 amount]⟩]
  | .verifyAndRelease projectId _ => [⟨[.symbol "verified"], .u64 projectId⟩]
  | .roleOf _ | .hasRole .. | .registerProject .. | .getProject _ => []

/-- A committed invocation: the call, the contract's address, the reply, and
the transfers and events it produced. -/
structure Receipt where
  call : Call
  contract : Address
  reply : Reply
  transfers : List Transfer
  events : List ContractEvent

/-- The contract's storage and the receipts of every committed invocation,
oldest first. -/
structure Sys where
  store : Store
  receipts : List Receipt

/-- A freshly deployed contract. -/
def Sys.initial : Sys := ⟨Store.empty, []⟩

/-- The state after a committed invocation that returned `reply` on `host`. -/
def Sys.commit (sys : Sys) (env : Env) (call : Call) (reply : Reply) (host : Host) : Sys :=
  ⟨host.store, sys.receipts ++ [⟨call, env.contract, reply, host.transfers, host.events⟩]⟩

/-- One invocation under the host: committed if it returns, discarded if it
fails. -/
def Sys.step (env : Env) (call : Call) (sys : Sys) : Sys :=
  match call.invoke env ⟨sys.store, [], []⟩ with
  | .ok reply host => sys.commit env call reply host
  | .error _ _ => sys

/-- Invocations in order. -/
def Sys.run (sys : Sys) : List (Env × Call) → Sys
  | [] => sys
  | (env, call) :: rest => (sys.step env call).run rest

/-- The states some run reaches from a freshly deployed contract. -/
inductive Reachable : Sys → Prop
  | initial : Reachable Sys.initial
  | step {sys : Sys} (env : Env) (call : Call) : Reachable sys → Reachable (sys.step env call)

section Runs

variable {sys : Sys} {env : Env} {call : Call}

/-- A step commits the invocation's outcome or leaves the state unchanged. -/
theorem Sys.step_cases (env : Env) (call : Call) (sys : Sys) :
    sys.step env call = sys ∨
      ∃ reply host, call.invoke env ⟨sys.store, [], []⟩ = .ok reply host ∧
        sys.step env call = sys.commit env call reply host := by
  unfold Sys.step
  split
  · next reply host committed => exact .inr ⟨reply, host, committed, rfl⟩
  · exact .inl rfl

/-- A failed invocation leaves the state as it was. -/
theorem Sys.step_of_error {failure : Failure} {host : Host}
    (failed : call.invoke env ⟨sys.store, [], []⟩ = .error failure host) : sys.step env call = sys := by
  rw [Sys.step, failed]

/-- Every state a run passes through is reachable. -/
theorem Reachable.run (reachable : Reachable sys) (calls : List (Env × Call)) :
    Reachable (sys.run calls) := by
  induction calls generalizing sys with
  | nil => exact reachable
  | cons invocation rest inductionHypothesis =>
    exact inductionHypothesis (reachable.step invocation.1 invocation.2)

/-- Induction over reachable states: it is enough that a property holds
initially and survives each committed invocation. -/
theorem Reachable.induction {P : Sys → Prop} (initial : P Sys.initial)
    (committed : ∀ sys env call reply host, Reachable sys → P sys →
      call.invoke env ⟨sys.store, [], []⟩ = .ok reply host → P (sys.commit env call reply host)) :
    Reachable sys → P sys := by
  intro reachable
  induction reachable with
  | initial => exact initial
  | @step sys env call reachable holds =>
    rcases Sys.step_cases env call sys with same | ⟨reply, host, returned, stepped⟩
    · rwa [same]
    · rw [stepped]
      exact committed sys env call reply host reachable holds returned

/-- A run keeps every receipt it started with. -/
theorem Sys.receipts_run (sys : Sys) (calls : List (Env × Call)) :
    ∃ later, (sys.run calls).receipts = sys.receipts ++ later := by
  induction calls generalizing sys with
  | nil => exact ⟨[], by simp [Sys.run]⟩
  | cons invocation rest inductionHypothesis =>
    obtain ⟨later, extended⟩ := inductionHypothesis (sys.step invocation.1 invocation.2)
    rcases Sys.step_cases invocation.1 invocation.2 sys with same | ⟨reply, host, -, stepped⟩
    · exact ⟨later, by rw [Sys.run, extended, same]⟩
    · refine ⟨⟨invocation.2, invocation.1.contract, reply, host.transfers, host.events⟩ :: later, ?_⟩
      rw [Sys.run, extended, stepped]
      simp [Sys.commit]

@[simp] theorem Sys.commit_store (reply : Reply) (host : Host) :
    (sys.commit env call reply host).store = host.store := rfl

@[simp] theorem Sys.commit_receipts (reply : Reply) (host : Host) :
    (sys.commit env call reply host).receipts =
      sys.receipts ++ [⟨call, env.contract, reply, host.transfers, host.events⟩] := rfl

/-- A receipt of a commit is an earlier one or the committed call's. -/
theorem Sys.mem_commit_receipts {receipt : Receipt} (reply : Reply) (host : Host) :
    receipt ∈ (sys.commit env call reply host).receipts ↔
      receipt ∈ sys.receipts ∨ receipt = ⟨call, env.contract, reply, host.transfers, host.events⟩ := by
  rw [Sys.commit_receipts, List.mem_append, List.mem_singleton]

end Runs

section Sample

/-! A sample deployment for exhibiting runs: a SuperAdmin, a donator and an
oracle sign every call, the ledger clock reads zero, and every token accepts
every transfer. -/

/-- The SuperAdmin of the sample deployment. -/
def sampleAdmin : Address := ⟨"GADMIN"⟩

/-- The donator of the sample deployment. -/
def sampleDonator : Address := ⟨"GDONOR"⟩

/-- The oracle of the sample deployment. -/
def sampleOracle : Address := ⟨"GORACLE"⟩

/-- The token of the sample deployment. -/
def sampleToken : Address := ⟨"CTOKEN"⟩

/-- The environment of every sample call. -/
def sampleEnv : Env where
  timestamp := 0
  sequence := 0
  contract := ⟨"CPIFP"⟩
  signers := [sampleAdmin, sampleDonator, sampleOracle]
  contract_unsigned := by decide
  accepts := fun _ => true

/-- The proof hash of the sample project. -/
def sampleHash : BytesN 32 := ⟨List.replicate 32 0xab, rfl⟩

/-- Initialization, one registration and one deposit of 1000. -/
def sampleRun : List (Env × Call) :=
  [(sampleEnv, .init sampleAdmin),
   (sampleEnv, .registerProject sampleAdmin sampleToken 5000 sampleHash 86400),
   (sampleEnv, .deposit 0 sampleDonator 1000)]

/-- The project the sample registration returns. -/
def sampleProject : Project :=
  ⟨0, sampleAdmin, sampleToken, 5000, 0, sampleHash, 86400, .funding⟩

/-- The state the sample run reaches. -/
def sampleSys : Sys := Sys.initial.run sampleRun

theorem sampleSys_reachable : Reachable sampleSys := Reachable.initial.run sampleRun

end Sample

section Invocations

open PifpProtocol

variable {env : Env} {host after : Host} {reply : Reply}

/-- A call writes project entries or it is one of the quiet ones. -/
theorem Call.writes_cases (call : Call) :
    call.writesProjects = false ∨
      (∃ creator token goal proofHash deadline,
        call = .registerProject creator token goal proofHash deadline) ∨
      (∃ projectId donator amount, call = .deposit projectId donator amount) ∨
      (∃ projectId submittedProofHash, call = .verifyAndRelease projectId submittedProofHash) := by
  cases call <;> simp [Call.writesProjects]

/-- The storage entries of `storage.rs` are equal exactly when each is. -/
theorem Store.data_eq_iff {store other : Store} :
    store.data = other.data ↔
      store.projectCount = other.projectCount ∧ store.oracleKey = other.oracleKey ∧
        store.projConfig = other.projConfig ∧ store.projState = other.projState := by
  simp [Store.data]

/-- An entry point that returns unit: what it left is what the call leaves. -/
theorem returned_of_seq_pure {operation : Contract Unit}
    (committed : (do operation; pure Reply.unit) host = .ok reply after) :
    operation host = .ok () after := by
  obtain ⟨⟨⟩, _, returned, finished⟩ := bind_eq_ok.mp committed
  obtain ⟨-, rfl⟩ := pure_eq_ok.mp finished
  exact returned

/-- What a committed call leaves beside its project writes: it published
exactly its notifications, its role writes are what those notifications say,
and a quiet call kept the four data entries and made no transfer. Role
operations, queries and `set_oracle` never touch project entries, `OracleKey`
or the counter. -/
theorem invoke_committed {call : Call} {store : Store}
    (committed : call.invoke env ⟨store, [], []⟩ = .ok reply after) :
    after.events = call.notifications ∧
      after.store.roles = call.notifications.foldl Rbac.applyNotification store.roles ∧
      (call.writesProjects = false → after.store.data = store.data ∧ after.transfers = []) := by
  cases call with
  | init superAdmin =>
    obtain ⟨-, -, rfl⟩ := init_eq_ok.mp (returned_of_seq_pure committed)
    exact ⟨rfl, rfl, fun _ => ⟨rfl, rfl⟩⟩
  | grantRole caller target role =>
    obtain ⟨-, -, -, rfl⟩ := Rbac.grantRole_eq_ok.mp (returned_of_seq_pure committed)
    exact ⟨rfl, (Rbac.applyNotification_roleSet _ caller _ _).symm, fun _ => ⟨rfl, rfl⟩⟩
  | revokeRole caller target =>
    obtain ⟨-, -, -, -, rfl⟩ := revokeRole_eq_ok.mp (returned_of_seq_pure committed)
    exact ⟨rfl, rfl, fun _ => ⟨rfl, rfl⟩⟩
  | transferSuperAdmin current new =>
    obtain ⟨-, -, rfl⟩ := transferSuperAdmin_eq_ok.mp (returned_of_seq_pure committed)
    exact ⟨rfl, rfl, fun _ => ⟨rfl, rfl⟩⟩
  | roleOf address =>
    obtain ⟨_, returned, -⟩ := map_eq_ok.mp committed
    obtain ⟨-, rfl⟩ := Rbac.roleOf_eq_ok.mp returned
    exact ⟨rfl, rfl, fun _ => ⟨rfl, rfl⟩⟩
  | hasRole address role =>
    obtain ⟨_, returned, -⟩ := map_eq_ok.mp committed
    obtain ⟨-, rfl⟩ := hasRole_eq_ok.mp returned
    exact ⟨rfl, rfl, fun _ => ⟨rfl, rfl⟩⟩
  | registerProject creator token goal proofHash deadline =>
    obtain ⟨_, registered, -⟩ := map_eq_ok.mp committed
    obtain ⟨-, -, -, -, -, -, rfl⟩ := registerProject_eq_ok.mp registered
    exact ⟨rfl, rfl, nofun⟩
  | getProject id =>
    obtain ⟨_, returned, -⟩ := map_eq_ok.mp committed
    obtain ⟨_, _, -, -, rfl, -⟩ := getProject_eq_ok.mp returned
    exact ⟨rfl, rfl, fun _ => ⟨rfl, rfl⟩⟩
  | deposit projectId donator amount =>
    obtain ⟨_, _, -, -, -, -, -, rfl⟩ := deposit_eq_ok.mp (returned_of_seq_pure committed)
    exact ⟨rfl, rfl, nofun⟩
  | setOracle caller oracle =>
    obtain ⟨-, -, rfl⟩ := setOracle_eq_ok.mp (returned_of_seq_pure committed)
    exact ⟨rfl, rfl, fun _ => ⟨rfl, rfl⟩⟩
  | verifyAndRelease projectId submittedProofHash =>
    obtain ⟨_, _, _, -, -, -, -, -, -, -, rfl⟩ :=
      verifyAndRelease_eq_ok.mp (returned_of_seq_pure committed)
    exact ⟨rfl, rfl, nofun⟩

/-- A committed quiet call leaves the four data entries as they were and makes
no transfer. -/
theorem invoke_quiet {call : Call} {store : Store} (quiet : call.writesProjects = false)
    (committed : call.invoke env ⟨store, [], []⟩ = .ok reply after) :
    after.store.data = store.data ∧ after.transfers = [] :=
  (invoke_committed committed).2.2 quiet

theorem invoke_registerProject_eq_ok {creator token : Address} {goal : Int}
    {proofHash : BytesN 32} {deadline : Nat} :
    (Call.registerProject creator token goal proofHash deadline).invoke env host = .ok reply after ↔
      ∃ project, registerProject env creator token goal proofHash deadline host = .ok project after ∧
        reply = .project project := by
  simp [Call.invoke]

theorem invoke_deposit_eq_ok {projectId : Nat} {donator : Address} {amount : Int} :
    (Call.deposit projectId donator amount).invoke env host = .ok reply after ↔
      deposit env projectId donator amount host = .ok () after ∧ reply = .unit := by
  simp only [Call.invoke, bind_eq_ok, pure_eq_ok]
  constructor
  · rintro ⟨⟨⟩, _, returned, rfl, rfl⟩
    exact ⟨returned, rfl⟩
  · rintro ⟨returned, rfl⟩
    exact ⟨(), after, returned, rfl, rfl⟩

theorem invoke_verifyAndRelease_eq_ok {projectId : Nat} {submittedProofHash : BytesN 32} :
    (Call.verifyAndRelease projectId submittedProofHash).invoke env host = .ok reply after ↔
      verifyAndRelease env projectId submittedProofHash host = .ok () after ∧ reply = .unit := by
  simp only [Call.invoke, bind_eq_ok, pure_eq_ok]
  constructor
  · rintro ⟨⟨⟩, _, returned, rfl, rfl⟩
    exact ⟨returned, rfl⟩
  · rintro ⟨returned, rfl⟩
    exact ⟨(), after, returned, rfl, rfl⟩

end Invocations

end Pifp
