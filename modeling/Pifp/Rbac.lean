import Pifp.Storage

/-!
# Role-based access control

`lib.rs` delegates every authorization decision to its `rbac` module, whose
source is not among the repository's files. Each function here is modelled
from the specification's description of that module: one role per address, a
later grant overwriting an earlier one; a single `init`; grants and revocations
by a SuperAdmin or an Admin; and three guards that fail with `NotAuthorized`
and have no other effect. The role assignment lives in storage entries of its
own (`RbacKey` in `lib.rs`'s notes), apart from the `DataKey` entries.

Every change of a role publishes a notification (the specification's "role
changes"): `("role_set", target, role)` when an address gains a role and
`("role_del", target)` when it loses one, each with the acting address as
data. These are the shapes the indexer decodes, and the ones its
`decode_role_set_event` test feeds it; the role is published as the symbol of
its name.
-/

namespace Pifp

/-- The symbol a role is published under. -/
def Role.symbol : Role → String
  | .superAdmin => "super_admin"
  | .admin => "admin"
  | .projectManager => "project_manager"
  | .oracle => "oracle"

/-- The role a published symbol names. -/
def Role.ofSymbol : String → Option Role
  | "super_admin" => some .superAdmin
  | "admin" => some .admin
  | "project_manager" => some .projectManager
  | "oracle" => some .oracle
  | _ => none

@[simp] theorem Role.ofSymbol_symbol (role : Role) : Role.ofSymbol role.symbol = some role := by
  cases role <;> rfl

namespace Rbac

/-- The notification that `target` now holds `role`, set by `caller`. -/
def roleSet (caller target : Address) (role : Role) : ContractEvent :=
  ⟨[.symbol "role_set", .address target, .symbol role.symbol], .address caller⟩

/-- The notification that `target` no longer holds a role, removed by
`caller`. -/
def roleDel (caller target : Address) : ContractEvent :=
  ⟨[.symbol "role_del", .address target], .address caller⟩

/-- How an observer of the notifications reads one event: `role_set` gives its
target the role it names, `role_del` takes its target's role away, and any
other event leaves the assignment as it was. -/
def applyNotification (roles : Address → Option Role) : ContractEvent → Address → Option Role
  | ⟨[.symbol "role_set", .address target, .symbol name], _⟩ =>
      Function.update roles target (Role.ofSymbol name)
  | ⟨[.symbol "role_del", .address target], _⟩ => Function.update roles target none
  | _ => roles

@[simp] theorem applyNotification_roleSet (roles : Address → Option Role) (caller target : Address)
    (role : Role) :
    applyNotification roles (roleSet caller target role) = Function.update roles target (some role) := by
  rw [roleSet, applyNotification, Role.ofSymbol_symbol]

@[simp] theorem applyNotification_roleDel (roles : Address → Option Role) (caller target : Address) :
    applyNotification roles (roleDel caller target) = Function.update roles target none :=
  rfl

/-- Modelled from the spec (`rbac::role_of`, source absent): the role an
address holds, if any. -/
def roleOf (address : Address) : Contract (Option Role) := do
  return (← readStore).roles address

/-- Modelled from the spec (`rbac::has_role`, source absent). -/
def hasRole (address : Address) (role : Role) : Contract Bool := do
  return (← roleOf address) == some role

/-- Modelled from the spec (`rbac::init_super_admin`, source absent): callable
once; records the first SuperAdmin and announces it. -/
def initSuperAdmin (superAdmin : Address) : Contract Unit := do
  failIf (← readStore).superAdmin.isSome (.contractError .alreadyInitialized)
  writeStore fun store =>
    { store with
      superAdmin := some superAdmin
      roles := Function.update store.roles superAdmin (some .superAdmin) }
  publish [.symbol "role_set", .address superAdmin, .symbol Role.superAdmin.symbol]
    (.address superAdmin)

/-- The roles `require_admin_or_above` admits. -/
def Role.isAdminOrAbove : Role → Bool
  | .superAdmin | .admin => true
  | .projectManager | .oracle => false

/-- The roles `require_can_register` admits. -/
def Role.canRegister : Role → Bool
  | .superAdmin | .admin | .projectManager => true
  | .oracle => false

/-- Modelled from the spec (`rbac::require_admin_or_above`, source absent). -/
def requireAdminOrAbove (address : Address) : Contract Unit := do
  let role ← roleOf address
  failIf (role.any Role.isAdminOrAbove = false) (.contractError .notAuthorized)

/-- Modelled from the spec (`rbac::require_can_register`, source absent):
SuperAdmin, Admin and ProjectManager may register projects. -/
def requireCanRegister (address : Address) : Contract Unit := do
  let role ← roleOf address
  failIf (role.any Role.canRegister = false) (.contractError .notAuthorized)

/-- Modelled from the spec (`rbac::require_oracle`, source absent). -/
def requireOracle (address : Address) : Contract Unit := do
  let role ← roleOf address
  failIf (role ≠ some .oracle) (.contractError .notAuthorized)

/-- Modelled from the spec (`rbac::grant_role`, source absent): the caller
authenticates and holds SuperAdmin or Admin; only a SuperAdmin grants
SuperAdmin; the grant overwrites the target's role and is announced. -/
def grantRole (env : Env) (caller target : Address) (role : Role) : Contract Unit := do
  requireAuth env caller
  requireAdminOrAbove caller
  let callerRole ← roleOf caller
  failIf (role = .superAdmin ∧ callerRole ≠ some .superAdmin) (.contractError .notAuthorized)
  writeStore fun store => { store with roles := Function.update store.roles target (some role) }
  publish [.symbol "role_set", .address target, .symbol role.symbol] (.address caller)

/-- Modelled from the spec (`rbac::revoke_role`, source absent): the caller
authenticates and holds SuperAdmin or Admin; the SuperAdmin cannot be revoked;
a target without a role fails with `RoleNotFound`; a revocation is announced. -/
def revokeRole (env : Env) (caller target : Address) : Contract Unit := do
  requireAuth env caller
  requireAdminOrAbove caller
  let targetRole ← roleOf target
  failIf (targetRole = some .superAdmin) (.contractError .notAuthorized)
  failIf (targetRole = none) (.contractError .roleNotFound)
  writeStore fun store => { store with roles := Function.update store.roles target none }
  publish [.symbol "role_del", .address target] (.address caller)

/-- Modelled from the spec (`rbac::transfer_super_admin`, source absent): the
current SuperAdmin authenticates, and the role moves in one write, announced
as the current holder's removal and the new holder's grant. -/
def transferSuperAdmin (env : Env) (current new : Address) : Contract Unit := do
  requireAuth env current
  let currentRole ← roleOf current
  failIf (currentRole ≠ some .superAdmin) (.contractError .notAuthorized)
  writeStore fun store =>
    { store with
      superAdmin := some new
      roles := Function.update (Function.update store.roles current none) new (some .superAdmin) }
  publish [.symbol "role_del", .address current] (.address current)
  publish [.symbol "role_set", .address new, .symbol Role.superAdmin.symbol] (.address current)

section Specifications

variable {env : Env} {host after : Host}

@[simp] theorem roleOf_eq_ok {address : Address} {role : Option Role} :
    roleOf address host = .ok role after ↔ role = host.store.roles address ∧ after = host := by
  show EStateM.Result.ok (host.store.roles address) host = _ ↔ _
  simp [eq_comm]

/-- The oracle guard passes exactly for a holder of the Oracle role. -/
@[simp] theorem requireOracle_eq_ok {address : Address} {u : Unit} :
    requireOracle address host = .ok u after ↔
      host.store.roles address = some .oracle ∧ after = host := by
  simp [requireOracle, bind_eq_ok, and_assoc, and_comm, @eq_comm _ (some Role.oracle)]

/-- The registration guard passes exactly for SuperAdmin, Admin and
ProjectManager. -/
@[simp] theorem requireCanRegister_eq_ok {address : Address} {u : Unit} :
    requireCanRegister address host = .ok u after ↔
      (host.store.roles address).any Role.canRegister = true ∧ after = host := by
  simp [requireCanRegister, bind_eq_ok, and_assoc, and_comm]

@[simp] theorem requireAdminOrAbove_eq_ok {address : Address} {u : Unit} :
    requireAdminOrAbove address host = .ok u after ↔
      (host.store.roles address).any Role.isAdminOrAbove = true ∧ after = host := by
  simp [requireAdminOrAbove, bind_eq_ok, and_assoc, and_comm]

/-- A grant writes the target's role, publishes its `role_set`, and does
nothing else. -/
theorem grantRole_eq_ok {caller target : Address} {role : Role} {u : Unit} :
    grantRole env caller target role host = .ok u after ↔
      caller ∈ env.signers ∧ (host.store.roles caller).any Role.isAdminOrAbove = true ∧
        (role = .superAdmin → host.store.roles caller = some .superAdmin) ∧
        after = { host with
          store := { host.store with roles := Function.update host.store.roles target (some role) }
          events := host.events ++ [roleSet caller target role] } := by
  simp [grantRole, roleSet, bind_eq_ok, and_assoc]

end Specifications

section FailureAtomicity

theorem keepsData_roleOf (address : Address) : KeepsData (roleOf address) :=
  keepsData_readStore.bind fun _ => keepsData_pure _

theorem keepsData_requireCanRegister (address : Address) : KeepsData (requireCanRegister address) :=
  (keepsData_roleOf address).bind fun _ => keepsData_failIf _ _

theorem keepsData_requireOracle (address : Address) : KeepsData (requireOracle address) :=
  (keepsData_roleOf address).bind fun _ => keepsData_failIf _ _

end FailureAtomicity

end Rbac

end Pifp
