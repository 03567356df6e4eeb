import Pifp.Host

/-!
# Storage helpers

The typed helpers of `storage.rs` over the two storage tiers. Instance entries
(`ProjectCount`, `OracleKey`) share one lifetime, renewed by seven days when
less than a day remains; each persistent entry (`ProjConfig(id)`,
`ProjState(id)`) is renewed by thirty days when less than seven remain. The two
renewals are one function with the tier's threshold and extension.

A project is stored as two entries: the configuration, written once by
`save_project`, and the state, rewritten by `save_project_state`. Each helper
has one lemma that says exactly when it returns and what it leaves in storage;
the entry points are reasoned about through these lemmas only.
-/

namespace Pifp

/-- Approximate ledgers per day (about five seconds per ledger). -/
def dayInLedgers : Nat := 17280

/-- Instance storage is extended to seven days ahead ... -/
def instanceBumpAmount : Nat := 7 * dayInLedgers

/-- ... when less than one day remains. -/
def instanceLifetimeThreshold : Nat := dayInLedgers

/-- Persistent storage is extended to thirty days ahead ... -/
def persistentBumpAmount : Nat := 30 * dayInLedgers

/-- ... when less than seven days remain. -/
def persistentLifetimeThreshold : Nat := 7 * dayInLedgers

/-- `extend_ttl(threshold, extend_to)` on an entry living until `liveUntil`:
when fewer than `threshold` ledgers remain, the entry is made to live
`extendTo` ledgers past the current one. -/
def extendTtl (threshold extendTo sequence liveUntil : Nat) : Nat :=
  if liveUntil - sequence < threshold then sequence + extendTo else liveUntil

/-- The instance tier's renewal. -/
def Ttl.bumpInstance (env : Env) (ttl : Ttl) : Ttl :=
  { ttl with
    instanceLiveUntil :=
      extendTtl instanceLifetimeThreshold instanceBumpAmount env.sequence ttl.instanceLiveUntil }

/-- The renewal of one persistent entry. -/
def Ttl.bumpPersistent (env : Env) (key : DataKey) (ttl : Ttl) : Ttl :=
  { ttl with
    liveUntil := Function.update ttl.liveUntil key
      (extendTtl persistentLifetimeThreshold persistentBumpAmount env.sequence (ttl.liveUntil key)) }

namespace Storage

/-- `bump_instance`. -/
def bumpInstance (env : Env) : Contract Unit :=
  writeStore fun store => { store with ttl := store.ttl.bumpInstance env }

/-- `bump_persistent`. -/
def bumpPersistent (env : Env) (key : DataKey) : Contract Unit :=
  writeStore fun store => { store with ttl := store.ttl.bumpPersistent env key }

/-- `get_and_increment_project_id`: the counter before the increment, an
absent counter read as zero. -/
def getAndIncrementProjectId (env : Env) : Contract Nat := do
  bumpInstance env
  let current := (← readStore).projectCount.getD 0
  let next ← addU64 current 1
  writeStore fun store => { store with projectCount := some next }
  pure current

/-- `set_oracle` of `storage.rs`: the only writer of `OracleKey`. -/
def setOracle (env : Env) (oracle : Address) : Contract Unit := do
  writeStore fun store => { store with oracleKey := some oracle }
  bumpInstance env

/-- `get_oracle`: panics when no oracle has been set. -/
def getOracle (env : Env) : Contract Address := do
  bumpInstance env
  expect (← readStore).oracleKey "oracle not set"

/-- `save_project`: writes both halves of a new project, then renews them. -/
def saveProject (env : Env) (project : Project) : Contract Unit := do
  writeStore fun store =>
    { store with projConfig := Function.update store.projConfig project.id (some project.config) }
  writeStore fun store =>
    { store with projState := Function.update store.projState project.id (some project.state) }
  bumpPersistent env (.projConfig project.id)
  bumpPersistent env (.projState project.id)

/-- `load_project_config`. -/
def loadProjectConfig (env : Env) (id : Nat) : Contract ProjectConfig := do
  let config ← expect ((← readStore).projConfig id) "project not found"
  bumpPersistent env (.projConfig id)
  pure config

/-- `load_project_state`. -/
def loadProjectState (env : Env) (id : Nat) : Contract ProjectState := do
  let state ← expect ((← readStore).projState id) "project not found"
  bumpPersistent env (.projState id)
  pure state

/-- `load_project`: both halves, rebuilt into the public view. -/
def loadProject (env : Env) (id : Nat) : Contract Project := do
  let config ← loadProjectConfig env id
  let state ← loadProjectState env id
  pure (Project.ofParts config state)

/-- `save_project_state`: rewrites only the mutable half. -/
def saveProjectState (env : Env) (id : Nat) (state : ProjectState) : Contract Unit := do
  writeStore fun store => { store with projState := Function.update store.projState id (some state) }
  bumpPersistent env (.projState id)

section Specifications

variable {env : Env} {host after : Host}

@[simp] theorem bumpInstance_eq_ok {u : Unit} :
    bumpInstance env host = .ok u after ↔
      after = { host with store := { host.store with ttl := host.store.ttl.bumpInstance env } } := by
  simp [bumpInstance]

@[simp] theorem bumpPersistent_eq_ok {key : DataKey} {u : Unit} :
    bumpPersistent env key host = .ok u after ↔
      after = { host with store := { host.store with ttl := host.store.ttl.bumpPersistent env key } } := by
  simp [bumpPersistent]

/-- The counter returns its old value and stores the successor, unless the
successor would pass `u64::MAX`. -/
theorem getAndIncrementProjectId_eq_ok {id : Nat} :
    getAndIncrementProjectId env host = .ok id after ↔
      id = host.store.projectCount.getD 0 ∧ id + 1 ≤ u64Max ∧
        after = { host with store := { host.store with
          projectCount := some (id + 1), ttl := host.store.ttl.bumpInstance env } } := by
  simp [getAndIncrementProjectId, bind_eq_ok, and_assoc]
  constructor
  · rintro ⟨inRange, rfl, rfl⟩
    exact ⟨rfl, inRange, rfl⟩
  · rintro ⟨rfl, inRange, rfl⟩
    exact ⟨inRange, rfl, rfl⟩

theorem loadProjectConfig_eq_ok {id : Nat} {config : ProjectConfig} :
    loadProjectConfig env id host = .ok config after ↔
      host.store.projConfig id = some config ∧
        after = { host with store := { host.store with
          ttl := host.store.ttl.bumpPersistent env (.projConfig id) } } := by
  simp [loadProjectConfig, bind_eq_ok, and_assoc]

theorem loadProjectState_eq_ok {id : Nat} {state : ProjectState} :
    loadProjectState env id host = .ok state after ↔
      host.store.projState id = some state ∧
        after = { host with store := { host.store with
          ttl := host.store.ttl.bumpPersistent env (.projState id) } } := by
  simp [loadProjectState, bind_eq_ok, and_assoc]

/-- `load_project` returns the two stored halves rebuilt, renewing both. -/
theorem loadProject_eq_ok {id : Nat} {project : Project} :
    loadProject env id host = .ok project after ↔
      ∃ config state, host.store.projConfig id = some config ∧
        host.store.projState id = some state ∧
          after = { host with store := { host.store with ttl :=
            (host.store.ttl.bumpPersistent env (.projConfig id)).bumpPersistent env (.projState id) } } ∧
          project = Project.ofParts config state := by
  simp [loadProject, bind_eq_ok, loadProjectConfig_eq_ok, loadProjectState_eq_ok, and_assoc]

/-- `get_oracle` returns the stored oracle, and fails when none is stored. -/
theorem getOracle_eq_ok {oracle : Address} :
    getOracle env host = .ok oracle after ↔
      host.store.oracleKey = some oracle ∧
        after = { host with store := { host.store with ttl := host.store.ttl.bumpInstance env } } := by
  simp [getOracle, bind_eq_ok, and_assoc]

/-- Without a stored oracle, `get_oracle` panics after renewing the instance
tier. -/
theorem getOracle_of_none (absent : host.store.oracleKey = none) :
    getOracle env host = .error (.panic "oracle not set")
      { host with store := { host.store with ttl := host.store.ttl.bumpInstance env } } := by
  simp [getOracle, bind_apply, EStateM.bind, bumpInstance, writeStore, readStore, expect, absent]

/-- Without a stored configuration, `load_project_config` panics on its
`expect` before renewing anything, so the host is as it was. -/
theorem loadProjectConfig_of_none {id : Nat} (absent : host.store.projConfig id = none) :
    loadProjectConfig env id host = .error (.panic "project not found") host := by
  simp only [loadProjectConfig, bind_apply, EStateM.bind, readStore, expect, absent]
  rfl

/-- `load_project` reads the configuration first, and fails as that read does. -/
theorem loadProject_of_none {id : Nat} (absent : host.store.projConfig id = none) :
    loadProject env id host = .error (.panic "project not found") host :=
  bind_of_error (loadProjectConfig_of_none absent)

/-- `save_project` stores both halves under the project's id. -/
theorem saveProject_eq_ok {project : Project} {u : Unit} :
    saveProject env project host = .ok u after ↔
      after = { host with store := { host.store with
        projConfig := Function.update host.store.projConfig project.id (some project.config),
        projState := Function.update host.store.projState project.id (some project.state),
        ttl := (host.store.ttl.bumpPersistent env (.projConfig project.id)).bumpPersistent env
          (.projState project.id) } } := by
  simp [saveProject, bind_eq_ok, and_assoc]

/-- `save_project_state` rewrites the state entry of one id. -/
theorem saveProjectState_eq_ok {id : Nat} {state : ProjectState} {u : Unit} :
    saveProjectState env id state host = .ok u after ↔
      after = { host with store := { host.store with
        projState := Function.update host.store.projState id (some state),
        ttl := host.store.ttl.bumpPersistent env (.projState id) } } := by
  simp [saveProjectState, bind_eq_ok, and_assoc]

end Specifications

section FailureAtomicity

/-! Which helpers may fail and which write the data entries. Renewals write
only TTL metadata; the loads and `get_oracle` may fail but write no data;
`save_project` and `save_project_state` write data but cannot fail. -/

variable (env : Env)

theorem keepsData_bumpInstance : KeepsData (bumpInstance env) :=
  keepsData_writeStore fun _ => rfl

theorem keepsData_bumpPersistent (key : DataKey) : KeepsData (bumpPersistent env key) :=
  keepsData_writeStore fun _ => rfl

theorem keepsData_getOracle : KeepsData (getOracle env) :=
  (keepsData_bumpInstance env).bind fun _ =>
    keepsData_readStore.bind fun store => keepsData_expect store.oracleKey _

theorem keepsData_loadProjectConfig (id : Nat) : KeepsData (loadProjectConfig env id) :=
  keepsData_readStore.bind fun store => (keepsData_expect (store.projConfig id) _).bind fun _ =>
    (keepsData_bumpPersistent env _).bind fun _ => keepsData_pure _

theorem keepsData_loadProjectState (id : Nat) : KeepsData (loadProjectState env id) :=
  keepsData_readStore.bind fun store => (keepsData_expect (store.projState id) _).bind fun _ =>
    (keepsData_bumpPersistent env _).bind fun _ => keepsData_pure _

/-- The overflow check of the counter comes before its write. -/
theorem failureAtomic_getAndIncrementProjectId : FailureAtomic (getAndIncrementProjectId env) :=
  FailureAtomic.bind (keepsData_bumpInstance env) fun _ =>
    FailureAtomic.bind keepsData_readStore fun store =>
      FailureAtomic.bind (keepsData_addU64 (store.projectCount.getD 0) 1) fun _ =>
        NeverFails.failureAtomic ((neverFails_writeStore _).bind fun _ => neverFails_pure _)

theorem neverFails_saveProject (project : Project) : NeverFails (saveProject env project) :=
  (neverFails_writeStore _).bind fun _ => (neverFails_writeStore _).bind fun _ =>
    (neverFails_writeStore _).bind fun _ => neverFails_writeStore _

theorem neverFails_saveProjectState (id : Nat) (state : ProjectState) :
    NeverFails (saveProjectState env id state) :=
  (neverFails_writeStore _).bind fun _ => neverFails_writeStore _

end FailureAtomicity

end Storage

end Pifp
