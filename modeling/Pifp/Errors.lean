import Pifp.Lifecycle

/-!
# The typed errors the contract raises

`Error` has nine kinds, and the specification lists all nine as the typed
failures of the core. The code fails with one of them only at a guard,
`panic_with_error!` or a role check; a missing entry, a hash mismatch, an
overflow, a missing signature and an aborted transfer fail untyped. Following
the guards through each entry point gives the kinds it can raise
(`Call.errors`).

From a reachable state four kinds are left: `AlreadyInitialized`,
`NotAuthorized`, `RoleNotFound` and `InvalidMilestones`. The only guards for
`MilestoneAlreadyReleased` and `ProjectNotFound` are in `verify_and_release`,
which never gets past its oracle read (`Lifecycle`), and `MilestoneNotFound`,
`InsufficientBalance` and `GoalMismatch` have no guard at all. A project that
does not exist is an untyped panic (`Registry`).
-/

namespace Pifp

open PifpProtocol

section Logic

variable {α β : Type} {x : Contract α} {f : α → Contract β} {errors : List Error}

/-- Every typed error `op` fails with is one of `errors`. Untyped failures are
not counted. -/
def RaisesOnly (errors : List Error) (op : Contract α) : Prop :=
  ∀ host error after, op host = .error (.contractError error) after → error ∈ errors

theorem RaisesOnly.bind (first : RaisesOnly errors x) (rest : ∀ a, RaisesOnly errors (f a)) :
    RaisesOnly errors (x >>= f) := by
  intro host error after failed
  rcases bind_eq_error.mp failed with stopped | ⟨a, middle, -, failedLater⟩
  · exact first host error after stopped
  · exact rest a middle error after failedLater

theorem RaisesOnly.map {g : α → β} (raises : RaisesOnly errors x) : RaisesOnly errors (g <$> x) := by
  intro host error after failed
  change EStateM.map g x host = _ at failed
  cases run : x host with
  | ok a middle => simp only [EStateM.map, run, reduceCtorEq] at failed
  | error failure middle =>
    simp only [EStateM.map, run, EStateM.Result.error.injEq] at failed
    exact raises host error middle (failed.1 ▸ run)

/-- Code followed by a `pure` raises what the code raises: the shape in which
`Call.invoke` wraps most entry points. -/
theorem RaisesOnly.bind_pure (raises : RaisesOnly errors x) (b : β) :
    RaisesOnly errors (x >>= fun _ => pure b) :=
  raises.bind fun _ _ _ _ => nofun

/-- Code that never fails raises nothing. -/
theorem NeverFails.raisesOnly (total : NeverFails x) : RaisesOnly errors x :=
  fun host _ after failed => absurd failed (total host _ after)

theorem raisesOnly_readStore : RaisesOnly errors readStore := fun _ _ _ => nofun

theorem raisesOnly_throw {failure : Failure}
    (listed : ∀ error, failure = .contractError error → error ∈ errors) :
    RaisesOnly errors (throw failure : Contract α) :=
  fun _ error _ failed => listed error (throw_eq_error.mp failed).1.symm

/-- A panic raises no typed error. -/
theorem raisesOnly_panic (message : String) : RaisesOnly errors (throw (.panic message) : Contract α) :=
  raisesOnly_throw nofun

/-- A typed `throw` raises its error. -/
theorem raisesOnly_throw_error {error : Error} (listed : error ∈ errors) :
    RaisesOnly errors (throw (.contractError error) : Contract α) :=
  raisesOnly_throw fun _ thrown => Failure.contractError.inj thrown ▸ listed

/-- A guard raises what its failure raises. -/
theorem raisesOnly_failIf {condition : Prop} [Decidable condition] {failure : Failure}
    (thrown : RaisesOnly errors (throw failure : Contract Unit)) :
    RaisesOnly errors (failIf condition failure) := by
  unfold failIf
  split
  · exact thrown
  · exact (neverFails_pure ()).raisesOnly

theorem raisesOnly_expect (value : Option α) (message : String) :
    RaisesOnly errors (expect value message) := by
  cases value
  · exact raisesOnly_panic message
  · exact (neverFails_pure _).raisesOnly

theorem raisesOnly_requireAuth (env : Env) (address : Address) :
    RaisesOnly errors (requireAuth env address) :=
  raisesOnly_failIf (raisesOnly_throw nofun)

theorem raisesOnly_transfer (env : Env) (token sender recipient : Address) (amount : Int) :
    RaisesOnly errors (transfer env token sender recipient amount) := by
  unfold transfer
  dsimp only
  split
  · exact fun _ _ _ => nofun
  · exact raisesOnly_throw nofun

theorem raisesOnly_addI128 (a b : Int) : RaisesOnly errors (addI128 a b) := by
  unfold addI128
  split
  · exact (neverFails_pure _).raisesOnly
  · exact raisesOnly_panic _

theorem raisesOnly_addU64 (a b : Nat) : RaisesOnly errors (addU64 a b) := by
  unfold addU64
  split
  · exact (neverFails_pure _).raisesOnly
  · exact raisesOnly_panic _

end Logic

section Helpers

/-! The storage helpers fail only untyped; each role check raises
`NotAuthorized`, and `revoke_role` also `RoleNotFound`. -/

variable {errors : List Error} (env : Env)

theorem raisesOnly_getOracle : RaisesOnly errors (Storage.getOracle env) :=
  (neverFails_writeStore _).raisesOnly.bind fun _ =>
    raisesOnly_readStore.bind fun _ => raisesOnly_expect _ _

theorem raisesOnly_loadProjectConfig (id : Nat) : RaisesOnly errors (Storage.loadProjectConfig env id) :=
  raisesOnly_readStore.bind fun _ => (raisesOnly_expect _ _).bind fun _ =>
    (neverFails_writeStore _).raisesOnly.bind fun _ => (neverFails_pure _).raisesOnly

theorem raisesOnly_loadProjectState (id : Nat) : RaisesOnly errors (Storage.loadProjectState env id) :=
  raisesOnly_readStore.bind fun _ => (raisesOnly_expect _ _).bind fun _ =>
    (neverFails_writeStore _).raisesOnly.bind fun _ => (neverFails_pure _).raisesOnly

theorem raisesOnly_getAndIncrementProjectId :
    RaisesOnly errors (Storage.getAndIncrementProjectId env) :=
  (neverFails_writeStore _).raisesOnly.bind fun _ =>
    raisesOnly_readStore.bind fun _ => (raisesOnly_addU64 _ _).bind fun _ =>
      (neverFails_writeStore _).raisesOnly.bind fun _ => (neverFails_pure _).raisesOnly

theorem raisesOnly_roleOf (address : Address) : RaisesOnly errors (Rbac.roleOf address) :=
  raisesOnly_readStore.bind fun _ => (neverFails_pure _).raisesOnly

variable {env}

theorem raisesOnly_requireAdminOrAbove (listed : .notAuthorized ∈ errors) (address : Address) :
    RaisesOnly errors (Rbac.requireAdminOrAbove address) :=
  (raisesOnly_roleOf address).bind fun _ => raisesOnly_failIf (raisesOnly_throw_error listed)

theorem raisesOnly_requireCanRegister (listed : .notAuthorized ∈ errors) (address : Address) :
    RaisesOnly errors (Rbac.requireCanRegister address) :=
  (raisesOnly_roleOf address).bind fun _ => raisesOnly_failIf (raisesOnly_throw_error listed)

theorem raisesOnly_requireOracle (listed : .notAuthorized ∈ errors) (address : Address) :
    RaisesOnly errors (Rbac.requireOracle address) :=
  (raisesOnly_roleOf address).bind fun _ => raisesOnly_failIf (raisesOnly_throw_error listed)

theorem raisesOnly_grantRole (listed : .notAuthorized ∈ errors) (caller target : Address)
    (role : Role) : RaisesOnly errors (Rbac.grantRole env caller target role) :=
  (raisesOnly_requireAuth env caller).bind fun _ =>
    (raisesOnly_requireAdminOrAbove listed caller).bind fun _ => (raisesOnly_roleOf caller).bind fun _ =>
      (raisesOnly_failIf (raisesOnly_throw_error listed)).bind fun _ =>
        ((neverFails_writeStore _).bind fun _ => neverFails_publish _ _).raisesOnly

end Helpers

section EntryPoints

/-! What each entry point of `lib.rs` raises, one term per `do` block. -/

variable (env : Env)

theorem raisesOnly_init (superAdmin : Address) :
    RaisesOnly [.alreadyInitialized] (init env superAdmin) :=
  (raisesOnly_requireAuth env superAdmin).bind fun _ => raisesOnly_readStore.bind fun _ =>
    (raisesOnly_failIf (raisesOnly_throw_error (List.mem_singleton_self _))).bind fun _ =>
      ((neverFails_writeStore _).bind fun _ => neverFails_publish _ _).raisesOnly

theorem raisesOnly_revokeRole (caller target : Address) :
    RaisesOnly [.notAuthorized, .roleNotFound] (revokeRole env caller target) :=
  (raisesOnly_requireAuth env caller).bind fun _ =>
    (raisesOnly_requireAdminOrAbove (by decide) caller).bind fun _ =>
      (raisesOnly_roleOf target).bind fun _ =>
        (raisesOnly_failIf (raisesOnly_throw_error (by decide))).bind fun _ =>
          (raisesOnly_failIf (raisesOnly_throw_error (by decide))).bind fun _ =>
            ((neverFails_writeStore _).bind fun _ => neverFails_publish _ _).raisesOnly

theorem raisesOnly_transferSuperAdmin (current new : Address) :
    RaisesOnly [.notAuthorized] (transferSuperAdmin env current new) :=
  (raisesOnly_requireAuth env current).bind fun _ => (raisesOnly_roleOf current).bind fun _ =>
    (raisesOnly_failIf (raisesOnly_throw_error (List.mem_singleton_self _))).bind fun _ =>
      ((neverFails_writeStore _).bind fun _ =>
        (neverFails_publish _ _).bind fun _ => neverFails_publish _ _).raisesOnly

theorem raisesOnly_registerProject (creator token : Address) (goal : Int) (proofHash : BytesN 32)
    (deadline : Nat) :
    RaisesOnly [.notAuthorized, .invalidMilestones]
      (registerProject env creator token goal proofHash deadline) :=
  (raisesOnly_requireAuth env creator).bind fun _ =>
    (raisesOnly_requireCanRegister (by decide) creator).bind fun _ =>
      (raisesOnly_failIf (raisesOnly_throw_error (by decide))).bind fun _ =>
        (raisesOnly_failIf (raisesOnly_throw_error (by decide))).bind fun _ =>
          (raisesOnly_getAndIncrementProjectId env).bind fun _ =>
            (Storage.neverFails_saveProject env _).raisesOnly.bind fun _ =>
              (neverFails_pure _).raisesOnly

theorem raisesOnly_getProject (id : Nat) : RaisesOnly [] (getProject env id) :=
  (raisesOnly_loadProjectConfig env id).bind fun _ =>
    (raisesOnly_loadProjectState env id).bind fun _ => (neverFails_pure _).raisesOnly

theorem raisesOnly_deposit (projectId : Nat) (donator : Address) (amount : Int) :
    RaisesOnly [] (deposit env projectId donator amount) :=
  (raisesOnly_requireAuth env donator).bind fun _ =>
    (raisesOnly_loadProjectConfig env projectId).bind fun config =>
      (raisesOnly_loadProjectState env projectId).bind fun state =>
        (raisesOnly_transfer env config.token donator env.contract amount).bind fun _ =>
          (raisesOnly_addI128 state.balance amount).bind fun _ =>
            (Storage.neverFails_saveProjectState env projectId _).raisesOnly.bind fun _ =>
              (neverFails_publish _ _).raisesOnly

theorem raisesOnly_setOracle (caller oracle : Address) :
    RaisesOnly [.notAuthorized] (setOracle env caller oracle) :=
  (raisesOnly_requireAuth env caller).bind fun _ =>
    (raisesOnly_requireAdminOrAbove (List.mem_singleton_self _) caller).bind fun _ =>
      raisesOnly_grantRole (List.mem_singleton_self _) caller oracle .oracle

theorem raisesOnly_checkVerifiable (status : ProjectStatus) :
    RaisesOnly [.notAuthorized, .milestoneAlreadyReleased, .projectNotFound]
      (checkVerifiable status) := by
  cases status <;> simp only [checkVerifiable]
  case funding | active => exact (neverFails_pure _).raisesOnly
  case completed | expired => exact raisesOnly_throw_error (by decide)

/-- The guards of `verify_and_release`; from a reachable state none of them is
reached (`Lifecycle`). -/
theorem raisesOnly_verifyAndRelease (projectId : Nat) (submittedProofHash : BytesN 32) :
    RaisesOnly [.notAuthorized, .milestoneAlreadyReleased, .projectNotFound]
      (verifyAndRelease env projectId submittedProofHash) :=
  (raisesOnly_getOracle env).bind fun oracle =>
    (raisesOnly_requireAuth env oracle).bind fun _ =>
      (raisesOnly_requireOracle (by decide) oracle).bind fun _ =>
        (raisesOnly_loadProjectConfig env projectId).bind fun _ =>
          (raisesOnly_loadProjectState env projectId).bind fun state =>
            (raisesOnly_checkVerifiable state.status).bind fun _ =>
              (raisesOnly_failIf (raisesOnly_panic _)).bind fun _ =>
                (Storage.neverFails_saveProjectState env projectId _).raisesOnly.bind fun _ =>
                  (neverFails_publish _ _).raisesOnly

/-- The typed errors each entry point can raise, read off its guards. -/
def Call.errors : Call → List Error
  | .init _ => [.alreadyInitialized]
  | .grantRole .. | .transferSuperAdmin .. | .setOracle .. => [.notAuthorized]
  | .revokeRole .. => [.notAuthorized, .roleNotFound]
  | .roleOf _ | .hasRole .. | .getProject _ | .deposit .. => []
  | .registerProject .. => [.notAuthorized, .invalidMilestones]
  | .verifyAndRelease .. => [.notAuthorized, .milestoneAlreadyReleased, .projectNotFound]

/-- Every call raises only the kinds `Call.errors` lists for it. -/
theorem Call.raisesOnly_invoke (call : Call) : RaisesOnly call.errors (call.invoke env) := by
  cases call with
  | init superAdmin => exact (raisesOnly_init env superAdmin).bind_pure _
  | grantRole caller target role =>
    exact (raisesOnly_grantRole (List.mem_singleton_self _) caller target role).bind_pure _
  | revokeRole caller target => exact (raisesOnly_revokeRole env caller target).bind_pure _
  | transferSuperAdmin current new =>
    exact (raisesOnly_transferSuperAdmin env current new).bind_pure _
  | roleOf address => exact (raisesOnly_roleOf address).map
  | hasRole address role =>
    exact ((raisesOnly_roleOf address).bind fun _ => (neverFails_pure _).raisesOnly).map
  | registerProject creator token goal proofHash deadline =>
    exact (raisesOnly_registerProject env creator token goal proofHash deadline).map
  | getProject id => exact (raisesOnly_getProject env id).map
  | deposit projectId donator amount =>
    exact (raisesOnly_deposit env projectId donator amount).bind_pure _
  | setOracle caller oracle => exact (raisesOnly_setOracle env caller oracle).bind_pure _
  | verifyAndRelease projectId submittedProofHash =>
    exact (raisesOnly_verifyAndRelease env projectId submittedProofHash).bind_pure _

end EntryPoints

section Reachable

variable {sys : Sys}

/-- The typed errors a client sees: from a reachable state, a call that fails
with a typed error fails with one its entry point lists, and that is
`AlreadyInitialized`, `NotAuthorized`, `RoleNotFound` or `InvalidMilestones`.
No call ever fails with `ProjectNotFound`, `MilestoneNotFound`,
`MilestoneAlreadyReleased`, `InsufficientBalance` or `GoalMismatch`. -/
theorem reachable_typed_errors (reachable : Reachable sys) (env : Env) (call : Call)
    {error : Error} {after : Host}
    (failed : call.invoke env ⟨sys.store, [], []⟩ = .error (.contractError error) after) :
    error ∈ call.errors ∧
      error ∈ [.alreadyInitialized, .notAuthorized, .roleNotFound, .invalidMilestones] := by
  have listed := Call.raisesOnly_invoke env call _ _ _ failed
  refine ⟨listed, ?_⟩
  cases call
  case verifyAndRelease projectId submittedProofHash =>
    rw [Call.invoke, bind_of_error (verifyAndRelease_of_reachable reachable env projectId
      submittedProofHash)] at failed
    cases failed
  all_goals
    simp only [Call.errors] at listed
    fin_cases listed <;> decide

/-- The specification's scenario: after `init(A)`, revoking the role of an
address that holds none fails with `RoleNotFound`. -/
theorem reachable_typed_errors_revoke :
    Reachable sampleSys ∧
      (Call.revokeRole sampleAdmin sampleDonator).invoke sampleEnv ⟨sampleSys.store, [], []⟩ =
        .error (.contractError .roleNotFound) ⟨sampleSys.store, [], []⟩ ∧
      Error.roleNotFound ∈ (Call.revokeRole sampleAdmin sampleDonator).errors ∧
      Error.roleNotFound ∈
        [Error.alreadyInitialized, .notAuthorized, .roleNotFound, .invalidMilestones] :=
  have failed : (Call.revokeRole sampleAdmin sampleDonator).invoke sampleEnv
      ⟨sampleSys.store, [], []⟩ = .error (.contractError .roleNotFound) ⟨sampleSys.store, [], []⟩ :=
    rfl
  ⟨sampleSys_reachable, failed, reachable_typed_errors sampleSys_reachable sampleEnv _ failed⟩

end Reachable

end Pifp
