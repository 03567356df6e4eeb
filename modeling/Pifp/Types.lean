import Mathlib

/-!
# Values of the PIFP protocol contract

The value types of `types.rs`, the error codes of `lib.rs` and the roles of the
access-control module. A Soroban address is opaque and compared only for
equality; a `BytesN<32>` carries its length.

Machine integers are mathematical integers with a range check exactly where
the source does arithmetic. Soroban contracts are built with overflow checks,
so `current + 1` on a `u64` and `balance += amount` on an `i128` fail out of
range instead of wrapping.
-/

namespace Pifp

/-- A Soroban `Address`, identified by its strkey text. -/
structure Address where
  strkey : String
  deriving DecidableEq, Repr

/-- `BytesN<n>`: a byte string of length exactly `n`. -/
structure BytesN (n : Nat) where
  bytes : List UInt8
  length_eq : bytes.length = n
  deriving DecidableEq

/-- Lifecycle status of a project. -/
inductive ProjectStatus
  | funding
  | active
  | completed
  | expired
  deriving DecidableEq, Repr

/-- Immutable project configuration, written once at registration. -/
structure ProjectConfig where
  id : Nat
  creator : Address
  token : Address
  goal : Int
  proofHash : BytesN 32
  deadline : Nat
  deriving DecidableEq

/-- Mutable project state, updated on deposits and verification. -/
structure ProjectState where
  balance : Int
  status : ProjectStatus
  deriving DecidableEq

/-- The public view of a project, reconstructed from its two stored halves. -/
structure Project where
  id : Nat
  creator : Address
  token : Address
  goal : Int
  balance : Int
  proofHash : BytesN 32
  deadline : Nat
  status : ProjectStatus
  deriving DecidableEq

/-- The contract's typed errors, raised by `panic_with_error!`. -/
inductive Error
  | projectNotFound
  | milestoneNotFound
  | milestoneAlreadyReleased
  | insufficientBalance
  | invalidMilestones
  | notAuthorized
  | goalMismatch
  | alreadyInitialized
  | roleNotFound
  deriving DecidableEq, Repr

/-- Roles of the access-control module; an address holds at most one. -/
inductive Role
  | superAdmin
  | admin
  | projectManager
  | oracle
  deriving DecidableEq, Repr

/-- The immutable half that `save_project` splits off a project. -/
def Project.config (project : Project) : ProjectConfig :=
  ⟨project.id, project.creator, project.token, project.goal, project.proofHash,
    project.deadline⟩

/-- The mutable half that `save_project` splits off a project. -/
def Project.state (project : Project) : ProjectState :=
  ⟨project.balance, project.status⟩

/-- The view that `load_project` rebuilds from a configuration and a state. -/
def Project.ofParts (config : ProjectConfig) (state : ProjectState) : Project :=
  ⟨config.id, config.creator, config.token, config.goal, state.balance, config.proofHash,
    config.deadline, state.status⟩

/-- Splitting a project and rebuilding it is the identity. -/
@[simp] theorem Project.ofParts_config_state (project : Project) :
    Project.ofParts project.config project.state = project := rfl

/-- Rebuilding a project and splitting off its configuration gives back the
configuration. -/
@[simp] theorem Project.config_ofParts (config : ProjectConfig) (state : ProjectState) :
    (Project.ofParts config state).config = config := rfl

/-- `u64::MAX`. -/
def u64Max : Nat := 2 ^ 64 - 1

/-- `i128::MIN`, the power taken in `Nat` so that it evaluates quickly. -/
def i128Min : Int := -((2 ^ 127 : Nat) : Int)

/-- `i128::MAX`. -/
def i128Max : Int := ((2 ^ 127 : Nat) : Int) - 1

/-- A sum is an `i128` exactly when it lies between the two bounds. -/
def InI128 (value : Int) : Prop := i128Min ≤ value ∧ value ≤ i128Max

instance (value : Int) : Decidable (InI128 value) :=
  inferInstanceAs (Decidable (_ ∧ _))

end Pifp
