import Pifp.Rbac

/-!
# Entry points of `PifpProtocol`

The public operations of `lib.rs`, each written as the source writes it: the
same checks in the same order, the same storage helpers, the same events.
`register_project` publishes no event; `deposit` publishes
`("donation_received", project_id)` with data `(donator, amount)`;
`verify_and_release` publishes `("verified",)` with data `project_id`; the role
operations, `set_oracle` among them, publish the notifications of `Rbac`.

`verify_and_release` still begins with `get_oracle`, which reads `OracleKey`,
while `set_oracle` now grants the Oracle role instead of writing that key.

Each operation has one lemma saying exactly when it returns and what it leaves,
and the three that write project data are failure-atomic: every point of
failure comes before the first write.
-/

namespace Pifp

namespace PifpProtocol

/-- `init`: the first SuperAdmin authenticates and is recorded once. -/
def init (env : Env) (superAdmin : Address) : Contract Unit := do
  requireAuth env superAdmin
  Rbac.initSuperAdmin superAdmin

/-- `grant_role`. -/
def grantRole (env : Env) (caller target : Address) (role : Role) : Contract Unit :=
  Rbac.grantRole env caller target role

/-- `revoke_role`. -/
def revokeRole (env : Env) (caller target : Address) : Contract Unit :=
  Rbac.revokeRole env caller target

/-- `transfer_super_admin`. -/
def transferSuperAdmin (env : Env) (currentSuperAdmin newSuperAdmin : Address) :
    Contract Unit :=
  Rbac.transferSuperAdmin env currentSuperAdmin newSuperAdmin

/-- `role_of`. -/
def roleOf (address : Address) : Contract (Option Role) :=
  Rbac.roleOf address

/-- `has_role`. -/
def hasRole (address : Address) (role : Role) : Contract Bool :=
  Rbac.hasRole address role

/-- `register_project`: authorization, the two `InvalidMilestones` checks, the
next id, then both halves of a funding project with balance zero. -/
def registerProject (env : Env) (creator token : Address) (goal : Int) (proofHash : BytesN 32)
    (deadline : Nat) : Contract Project := do
  requireAuth env creator
  Rbac.requireCanRegister creator
  failIf (goal ≤ 0) (.contractError .invalidMilestones)
  failIf (deadline ≤ env.timestamp) (.contractError .invalidMilestones)
  let id ← Storage.getAndIncrementProjectId env
  let project : Project := ⟨id, creator, token, goal, 0, proofHash, deadline, .funding⟩
  Storage.saveProject env project
  pure project

/-- `get_project`. -/
def getProject (env : Env) (id : Nat) : Contract Project :=
  Storage.loadProject env id

/-- `deposit`: the donator's tokens move to the contract, then the balance
grows by `amount` with a checked `+=`, and only the state entry is written. -/
def deposit (env : Env) (projectId : Nat) (donator : Address) (amount : Int) :
    Contract Unit := do
  requireAuth env donator
  let config ← Storage.loadProjectConfig env projectId
  let state ← Storage.loadProjectState env projectId
  transfer env config.token donator env.contract amount
  let balance ← addI128 state.balance amount
  Storage.saveProjectState env projectId { state with balance }
  publish [.symbol "donation_received", .u64 projectId] (.vec [.address donator, .i128 amount])

/-- `set_oracle`: grants the Oracle role; no earlier oracle is revoked. -/
def setOracle (env : Env) (caller oracle : Address) : Contract Unit := do
  requireAuth env caller
  Rbac.requireAdminOrAbove caller
  Rbac.grantRole env caller oracle .oracle

/-- The status check of `verify_and_release`: only funding and active projects
can be verified; an expired one is reported as `ProjectNotFound`. -/
def checkVerifiable (status : ProjectStatus) : Contract Unit :=
  match status with
  | .funding | .active => pure ()
  | .completed => throw (.contractError .milestoneAlreadyReleased)
  | .expired => throw (.contractError .projectNotFound)

/-- `verify_and_release`: the oracle read from `OracleKey` authenticates and
must hold the Oracle role; a verifiable project whose stored hash equals the
submitted one becomes `Completed`. No token is transferred. -/
def verifyAndRelease (env : Env) (projectId : Nat) (submittedProofHash : BytesN 32) :
    Contract Unit := do
  let oracle ← Storage.getOracle env
  requireAuth env oracle
  Rbac.requireOracle oracle
  let config ← Storage.loadProjectConfig env projectId
  let state ← Storage.loadProjectState env projectId
  checkVerifiable state.status
  failIf (submittedProofHash ≠ config.proofHash) (.panic "proof verification failed: hash mismatch")
  Storage.saveProjectState env projectId { state with status := .completed }
  publish [.symbol "verified"] (.u64 projectId)

section Specifications

open Storage

variable {env : Env} {host after : Host} {u : Unit}

theorem init_eq_ok {superAdmin : Address} :
    init env superAdmin host = .ok u after ↔
      superAdmin ∈ env.signers ∧ host.store.superAdmin = none ∧
        after = { host with
          store := { host.store with
            superAdmin := some superAdmin
            roles := Function.update host.store.roles superAdmin (some .superAdmin) }
          events := host.events ++ [Rbac.roleSet superAdmin superAdmin .superAdmin] } := by
  simp [init, Rbac.initSuperAdmin, Rbac.roleSet, bind_eq_ok, and_assoc, Option.isSome_iff_ne_none]

theorem revokeRole_eq_ok {caller target : Address} :
    revokeRole env caller target host = .ok u after ↔
      caller ∈ env.signers ∧ (host.store.roles caller).any Rbac.Role.isAdminOrAbove = true ∧
        host.store.roles target ≠ some .superAdmin ∧ host.store.roles target ≠ none ∧
        after = { host with
          store := { host.store with roles := Function.update host.store.roles target none }
          events := host.events ++ [Rbac.roleDel caller target] } := by
  simp [revokeRole, Rbac.revokeRole, Rbac.roleDel, bind_eq_ok, and_assoc]

/-- A transfer moves the role in one write and announces the current holder's
removal, then the new holder's grant. -/
theorem transferSuperAdmin_eq_ok {current new : Address} :
    transferSuperAdmin env current new host = .ok u after ↔
      current ∈ env.signers ∧ host.store.roles current = some .superAdmin ∧
        after = { host with
          store := { host.store with
            superAdmin := some new
            roles := Function.update (Function.update host.store.roles current none) new
              (some .superAdmin) }
          events := host.events ++
            [Rbac.roleDel current current, Rbac.roleSet current new .superAdmin] } := by
  simp [transferSuperAdmin, Rbac.transferSuperAdmin, Rbac.roleSet, Rbac.roleDel, bind_eq_ok,
    and_assoc]

theorem hasRole_eq_ok {address : Address} {role : Role} {answer : Bool} :
    hasRole address role host = .ok answer after ↔
      answer = (host.store.roles address == some role) ∧ after = host := by
  simp [hasRole, Rbac.hasRole, bind_eq_ok, and_assoc, and_comm]

/-- A registration returns a funding project with balance zero under the next
id, and stores both its halves under that id. -/
theorem registerProject_eq_ok {creator token : Address} {goal : Int} {proofHash : BytesN 32}
    {deadline : Nat} {project : Project} :
    registerProject env creator token goal proofHash deadline host = .ok project after ↔
      creator ∈ env.signers ∧ (host.store.roles creator).any Rbac.Role.canRegister = true ∧
        0 < goal ∧ env.timestamp < deadline ∧ host.store.projectCount.getD 0 + 1 ≤ u64Max ∧
        project = ⟨host.store.projectCount.getD 0, creator, token, goal, 0, proofHash, deadline,
          .funding⟩ ∧
        after = { host with store := { host.store with
          projectCount := some (host.store.projectCount.getD 0 + 1)
          projConfig := Function.update host.store.projConfig (host.store.projectCount.getD 0)
            (some project.config)
          projState := Function.update host.store.projState (host.store.projectCount.getD 0)
            (some project.state)
          ttl := ((host.store.ttl.bumpInstance env).bumpPersistent env
            (.projConfig (host.store.projectCount.getD 0))).bumpPersistent env
              (.projState (host.store.projectCount.getD 0)) } } := by
  simp [registerProject, bind_eq_ok, getAndIncrementProjectId_eq_ok, saveProject_eq_ok, and_assoc]
  intro _ _ _ _ _
  constructor
  · rintro ⟨rfl, rfl⟩
    exact ⟨rfl, rfl⟩
  · rintro ⟨rfl, rfl⟩
    exact ⟨rfl, rfl⟩

theorem getProject_eq_ok {id : Nat} {project : Project} :
    getProject env id host = .ok project after ↔
      ∃ config state, host.store.projConfig id = some config ∧
        host.store.projState id = some state ∧
          after = { host with store := { host.store with ttl :=
            (host.store.ttl.bumpPersistent env (.projConfig id)).bumpPersistent env (.projState id) } } ∧
          project = Project.ofParts config state :=
  loadProject_eq_ok

/-- A deposit returns exactly when the donator signed, the project exists, the
token accepts the transfer and the new balance is an `i128`. Then one transfer
is recorded, the state entry holds the sum, and one event is published. -/
theorem deposit_eq_ok {projectId : Nat} {donator : Address} {amount : Int} :
    deposit env projectId donator amount host = .ok u after ↔
      ∃ config state, donator ∈ env.signers ∧ host.store.projConfig projectId = some config ∧
        host.store.projState projectId = some state ∧
        env.accepts ⟨config.token, donator, env.contract, amount⟩ = true ∧
        InI128 (state.balance + amount) ∧
        after = ⟨{ host.store with
            projState := Function.update host.store.projState projectId
              (some { state with balance := state.balance + amount }),
            ttl := ((host.store.ttl.bumpPersistent env (.projConfig projectId)).bumpPersistent env
              (.projState projectId)).bumpPersistent env (.projState projectId) },
          host.transfers ++ [⟨config.token, donator, env.contract, amount⟩],
          host.events ++ [⟨[.symbol "donation_received", .u64 projectId],
            .vec [.address donator, .i128 amount]⟩]⟩ := by
  simp [deposit, bind_eq_ok, loadProjectConfig_eq_ok, loadProjectState_eq_ok,
    saveProjectState_eq_ok, and_assoc]

/-- Without a stored configuration a deposit fails before its transfer, on the
host it started from: on the donator's missing signature, which is checked
first, and otherwise on `load_project_config`'s panic. -/
theorem deposit_of_none {projectId : Nat} {donator : Address} {amount : Int}
    (absent : host.store.projConfig projectId = none) :
    deposit env projectId donator amount host =
      .error (if donator ∈ env.signers then .panic "project not found" else .authFailed donator)
        host := by
  rw [deposit]
  by_cases signed : donator ∈ env.signers
  · have authorized : requireAuth env donator host = .ok () host := requireAuth_eq_ok.mpr ⟨signed, rfl⟩
    rw [if_pos signed, bind_of_ok authorized]
    exact bind_of_error (loadProjectConfig_of_none absent)
  · rw [if_neg signed]
    exact bind_of_error (by rw [requireAuth, failIf, if_pos signed]; rfl)

theorem setOracle_eq_ok {caller oracle : Address} :
    setOracle env caller oracle host = .ok u after ↔
      caller ∈ env.signers ∧ (host.store.roles caller).any Rbac.Role.isAdminOrAbove = true ∧
        after = { host with
          store := { host.store with roles := Function.update host.store.roles oracle (some .oracle) }
          events := host.events ++ [Rbac.roleSet caller oracle .oracle] } := by
  simp only [setOracle, bind_eq_ok, Rbac.grantRole_eq_ok, requireAuth_eq_ok,
    Rbac.requireAdminOrAbove_eq_ok]
  constructor
  · rintro ⟨_, _, ⟨signed, rfl⟩, _, _, ⟨admin, rfl⟩, -, -, -, rfl⟩
    exact ⟨signed, admin, rfl⟩
  · rintro ⟨signed, admin, rfl⟩
    exact ⟨(), _, ⟨signed, rfl⟩, (), _, ⟨admin, rfl⟩, signed, admin, nofun, rfl⟩

@[simp] theorem checkVerifiable_eq_ok {status : ProjectStatus} :
    checkVerifiable status host = .ok u after ↔
      (status = .funding ∨ status = .active) ∧ after = host := by
  cases status <;> simp [checkVerifiable]

/-- A verification returns exactly when an oracle is stored in `OracleKey`,
signed, and holds the Oracle role, and the project is verifiable and its hash
matches. Then the state entry becomes `Completed`; nothing is transferred. -/
theorem verifyAndRelease_eq_ok {projectId : Nat} {submittedProofHash : BytesN 32} :
    verifyAndRelease env projectId submittedProofHash host = .ok u after ↔
      ∃ oracle config state, host.store.oracleKey = some oracle ∧ oracle ∈ env.signers ∧
        host.store.roles oracle = some .oracle ∧ host.store.projConfig projectId = some config ∧
        host.store.projState projectId = some state ∧
        (state.status = .funding ∨ state.status = .active) ∧
        submittedProofHash = config.proofHash ∧
        after = ⟨{ host.store with
            projState := Function.update host.store.projState projectId
              (some { state with status := .completed }),
            ttl := (((host.store.ttl.bumpInstance env).bumpPersistent env
              (.projConfig projectId)).bumpPersistent env (.projState projectId)).bumpPersistent env
                (.projState projectId) },
          host.transfers, host.events ++ [⟨[.symbol "verified"], .u64 projectId⟩]⟩ := by
  simp [verifyAndRelease, bind_eq_ok, getOracle_eq_ok, loadProjectConfig_eq_ok,
    loadProjectState_eq_ok, saveProjectState_eq_ok, and_assoc]

end Specifications

section FailureAtomicity

open Storage

variable (env : Env)

theorem keepsData_checkVerifiable (status : ProjectStatus) : KeepsData (checkVerifiable status) := by
  cases status <;> first | exact keepsData_pure _ | exact keepsData_throw _

/-- In `register_project` the authorization, the two checks and the counter's
overflow all come before `save_project`, which cannot fail. -/
theorem failureAtomic_registerProject (creator token : Address) (goal : Int)
    (proofHash : BytesN 32) (deadline : Nat) :
    FailureAtomic (registerProject env creator token goal proofHash deadline) :=
  FailureAtomic.bind (keepsData_requireAuth env creator) fun _ =>
    FailureAtomic.bind (Rbac.keepsData_requireCanRegister creator) fun _ =>
      FailureAtomic.bind (keepsData_failIf _ _) fun _ =>
        FailureAtomic.bind (keepsData_failIf _ _) fun _ =>
          FailureAtomic.bind_neverFails (failureAtomic_getAndIncrementProjectId env) fun _ =>
            (neverFails_saveProject env _).bind fun _ => neverFails_pure _

/-- In `deposit` the loads, the transfer and the overflow check all come before
`save_project_state`. -/
theorem failureAtomic_deposit (projectId : Nat) (donator : Address) (amount : Int) :
    FailureAtomic (deposit env projectId donator amount) :=
  FailureAtomic.bind (keepsData_requireAuth env donator) fun _ =>
    FailureAtomic.bind (keepsData_loadProjectConfig env projectId) fun config =>
      FailureAtomic.bind (keepsData_loadProjectState env projectId) fun state =>
        FailureAtomic.bind (keepsData_transfer env config.token donator env.contract amount) fun _ =>
          FailureAtomic.bind (keepsData_addI128 state.balance amount) fun _ =>
            NeverFails.failureAtomic ((neverFails_saveProjectState env projectId _).bind fun _ =>
              neverFails_publish _ _)

/-- In `verify_and_release` the oracle read, both guards, the loads, the status
check and the hash comparison all come before `save_project_state`. -/
theorem failureAtomic_verifyAndRelease (projectId : Nat) (submittedProofHash : BytesN 32) :
    FailureAtomic (verifyAndRelease env projectId submittedProofHash) :=
  FailureAtomic.bind (keepsData_getOracle env) fun oracle =>
    FailureAtomic.bind (keepsData_requireAuth env oracle) fun _ =>
      FailureAtomic.bind (Rbac.keepsData_requireOracle oracle) fun _ =>
        FailureAtomic.bind (keepsData_loadProjectConfig env projectId) fun _ =>
          FailureAtomic.bind (keepsData_loadProjectState env projectId) fun state =>
            FailureAtomic.bind (keepsData_checkVerifiable state.status) fun _ =>
              FailureAtomic.bind (keepsData_failIf _ _) fun _ =>
                NeverFails.failureAtomic ((neverFails_saveProjectState env projectId _).bind fun _ =>
                  neverFails_publish _ _)

/-- Failure atomicity without host rollback: with every storage write taking
effect at once, a failed `register_project`, `deposit` or `verify_and_release`
leaves `ProjectCount`, `OracleKey` and every `ProjConfig` and `ProjState` entry
exactly as they were, from any state and for any input. -/
theorem failed_calls_keep_data :
    (∀ creator token goal proofHash deadline,
      FailureAtomic (registerProject env creator token goal proofHash deadline)) ∧
    (∀ projectId donator amount, FailureAtomic (deposit env projectId donator amount)) ∧
    (∀ projectId submittedProofHash,
      FailureAtomic (verifyAndRelease env projectId submittedProofHash)) :=
  ⟨failureAtomic_registerProject env, failureAtomic_deposit env,
    failureAtomic_verifyAndRelease env⟩

end FailureAtomicity

end PifpProtocol

end Pifp
