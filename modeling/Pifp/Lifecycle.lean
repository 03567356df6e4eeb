import Pifp.Registry

/-!
# The project lifecycle

The status of a project moves forward only. `invariants.rs` states the
admissible transitions (its INV-7); every committed call either leaves a
project's status alone or makes one of those moves: a deposit writes back the
status it read, and a verification turns a funding or active project into a
completed one. Completed and expired projects therefore keep their status
forever. None of this depends on who may verify.

Who may verify is another matter. `verify_and_release` starts by reading
`OracleKey`, and the only writer of that key, `storage::set_oracle`, is called
by no entry point: `set_oracle` grants the Oracle role instead. In every
reachable state the key is absent, so every verification fails with
"oracle not set", whoever signs and whatever roles are held.
-/

namespace Pifp

open PifpProtocol

/-- The transitions `assert_valid_status_transition` admits. -/
def validStatusTransition : ProjectStatus → ProjectStatus → Bool
  | .funding, .active | .funding, .completed | .funding, .expired => true
  | .active, .completed | .active, .expired => true
  | _, _ => false

/-- One step of a project's status: no change, or an admitted transition. -/
def StatusStep (before after : ProjectStatus) : Prop :=
  before = after ∨ validStatusTransition before after = true

/-- Nothing leaves a terminal status. -/
theorem StatusStep.terminal {before after : ProjectStatus} (step : StatusStep before after)
    (terminal : before = .completed ∨ before = .expired) : after = before := by
  rcases step with same | valid
  · exact same.symm
  · rcases terminal with rfl | rfl <;> cases after <;> simp [validStatusTransition] at valid

section Transitions

variable {sys : Sys}

/-- A committed call changes the status of a stored project by at most one
admitted transition, and never removes its state. -/
theorem status_commit (represented : sys.store.Represented) {env : Env} {call : Call}
    {reply : Reply} {host : Host} (committed : call.invoke env ⟨sys.store, [], []⟩ = .ok reply host)
    {id : Nat} {state : ProjectState} (stated : sys.store.projState id = some state) :
    ∃ state', host.store.projState id = some state' ∧ StatusStep state.status state'.status := by
  rcases Call.writes_cases call with
    quiet | ⟨creator, token, goal, proofHash, deadline, rfl⟩ | ⟨projectId, donator, amount, rfl⟩ |
      ⟨projectId, submittedProofHash, rfl⟩
  · obtain ⟨-, -, -, states⟩ := Store.data_eq_iff.mp (invoke_quiet quiet committed).1
    exact ⟨state, by rw [states, stated], .inl rfl⟩
  · obtain ⟨project, returned, -⟩ := invoke_registerProject_eq_ok.mp committed
    obtain ⟨-, -, -, -, -, rfl, rfl⟩ := registerProject_eq_ok.mp returned
    have below := (represented.state_isSome id).mp (by simp [stated])
    exact ⟨state, by simp [Function.update_noteq (Nat.ne_of_lt below), stated], .inl rfl⟩
  · obtain ⟨returned, -⟩ := invoke_deposit_eq_ok.mp committed
    obtain ⟨config, old, -, -, oldStated, -, -, rfl⟩ := deposit_eq_ok.mp returned
    by_cases same : id = projectId
    · subst same
      rw [stated, Option.some.injEq] at oldStated
      subst oldStated
      exact ⟨{ state with balance := state.balance + amount }, by simp, .inl rfl⟩
    · exact ⟨state, by simp [Function.update_noteq same, stated], .inl rfl⟩
  · obtain ⟨returned, -⟩ := invoke_verifyAndRelease_eq_ok.mp committed
    obtain ⟨oracle, config, old, -, -, -, -, oldStated, verifiable, -, rfl⟩ :=
      verifyAndRelease_eq_ok.mp returned
    by_cases same : id = projectId
    · subst same
      rw [stated, Option.some.injEq] at oldStated
      subst oldStated
      refine ⟨{ state with status := .completed }, by simp, .inr ?_⟩
      rcases verifiable with funding | active <;> simp [*, validStatusTransition]
    · exact ⟨state, by simp [Function.update_noteq same, stated], .inl rfl⟩

/-- The same for one step of the system, committed or discarded. -/
theorem status_step (represented : sys.store.Represented) (env : Env) (call : Call) {id : Nat}
    {state : ProjectState} (stated : sys.store.projState id = some state) :
    ∃ state', (sys.step env call).store.projState id = some state' ∧
      StatusStep state.status state'.status := by
  rcases Sys.step_cases env call sys with same | ⟨reply, host, committed, stepped⟩
  · exact ⟨state, by rw [same, stated], .inl rfl⟩
  · rw [stepped]
    exact status_commit represented committed stated

/-- A terminal status survives any run from a reachable state. -/
theorem terminal_status_run (reachable : Reachable sys) (calls : List (Env × Call)) {id : Nat}
    {state : ProjectState} (stated : sys.store.projState id = some state)
    (terminal : state.status = .completed ∨ state.status = .expired) :
    ∃ state', (sys.run calls).store.projState id = some state' ∧ state'.status = state.status := by
  induction calls generalizing sys state with
  | nil => exact ⟨state, stated, rfl⟩
  | cons invocation rest inductionHypothesis =>
    obtain ⟨next, nextStated, step⟩ :=
      status_step (represented_of_reachable reachable) invocation.1 invocation.2 stated
    have kept := step.terminal terminal
    obtain ⟨final, finalStated, finalStatus⟩ :=
      inductionHypothesis (reachable.step invocation.1 invocation.2) nextStated (kept ▸ terminal)
    exact ⟨final, finalStated, finalStatus.trans kept⟩

/-- Forward-only status: in every reachable state, one invocation of any entry
point leaves each stored status unchanged or moves it by one of
Funding→Active, Funding→Completed, Funding→Expired, Active→Completed,
Active→Expired; and once a project is Completed or Expired, no sequence of
calls changes its status. -/
theorem status_forward_only (reachable : Reachable sys) :
    (∀ env call id state, sys.store.projState id = some state →
      ∃ state', (sys.step env call).store.projState id = some state' ∧
        (state.status = state'.status ∨ validStatusTransition state.status state'.status = true)) ∧
    (∀ calls id state, sys.store.projState id = some state →
      (state.status = .completed ∨ state.status = .expired) →
        ∃ state', (sys.run calls).store.projState id = some state' ∧ state'.status = state.status) :=
  ⟨fun env call _ _ stated => status_step (represented_of_reachable reachable) env call stated,
    fun calls _ _ stated terminal => terminal_status_run reachable calls stated terminal⟩

theorem status_forward_only_sample :
    Reachable sampleSys ∧
    (∀ env call id state, sampleSys.store.projState id = some state →
      ∃ state', (sampleSys.step env call).store.projState id = some state' ∧
        (state.status = state'.status ∨ validStatusTransition state.status state'.status = true)) ∧
    (∀ calls id state, sampleSys.store.projState id = some state →
      (state.status = .completed ∨ state.status = .expired) →
        ∃ state', (sampleSys.run calls).store.projState id = some state' ∧
          state'.status = state.status) :=
  ⟨sampleSys_reachable, status_forward_only sampleSys_reachable⟩

end Transitions

section Oracle

variable {sys : Sys}

/-- No committed call writes `OracleKey`: the quiet calls keep every data
entry, and registration, deposit and verification write only the counter and
project entries. -/
theorem oracleKey_commit {env : Env} {call : Call} {reply : Reply} {host : Host}
    (committed : call.invoke env ⟨sys.store, [], []⟩ = .ok reply host) :
    host.store.oracleKey = sys.store.oracleKey := by
  rcases Call.writes_cases call with
    quiet | ⟨creator, token, goal, proofHash, deadline, rfl⟩ | ⟨projectId, donator, amount, rfl⟩ |
      ⟨projectId, submittedProofHash, rfl⟩
  · exact (Store.data_eq_iff.mp (invoke_quiet quiet committed).1).2.1
  · obtain ⟨project, returned, -⟩ := invoke_registerProject_eq_ok.mp committed
    obtain ⟨-, -, -, -, -, -, rfl⟩ := registerProject_eq_ok.mp returned
    rfl
  · obtain ⟨config, state, -, -, -, -, -, rfl⟩ := deposit_eq_ok.mp (invoke_deposit_eq_ok.mp committed).1
    rfl
  · obtain ⟨oracle, config, state, -, -, -, -, -, -, -, rfl⟩ :=
      verifyAndRelease_eq_ok.mp (invoke_verifyAndRelease_eq_ok.mp committed).1
    rfl

/-- `OracleKey` is absent in every reachable state. -/
theorem oracleKey_none_of_reachable : Reachable sys → sys.store.oracleKey = none := by
  apply Reachable.induction
  · rfl
  intro sys env call reply host _ absent committed
  rw [Sys.commit_store, oracleKey_commit committed, absent]

/-- In every reachable state every verification fails at `get_oracle` with
"oracle not set", whoever signs and whatever roles are held, leaving only the
instance tier's renewal behind. -/
theorem verifyAndRelease_of_reachable (reachable : Reachable sys) (env : Env) (projectId : Nat)
    (submittedProofHash : BytesN 32) :
    verifyAndRelease env projectId submittedProofHash ⟨sys.store, [], []⟩ =
      .error (.panic "oracle not set")
        ⟨{ sys.store with ttl := sys.store.ttl.bumpInstance env }, [], []⟩ := by
  simp only [verifyAndRelease]
  exact bind_of_error (Storage.getOracle_of_none (oracleKey_none_of_reachable reachable))

/-- No verification is ever committed. -/
theorem verifyAndRelease_never_commits (reachable : Reachable sys) (env : Env) (projectId : Nat)
    (submittedProofHash : BytesN 32) :
    sys.step env (.verifyAndRelease projectId submittedProofHash) = sys :=
  Sys.step_of_error (bind_of_error (verifyAndRelease_of_reachable reachable env projectId
    submittedProofHash))

theorem verifyAndRelease_never_commits_sample :
    Reachable sampleSys ∧ sampleSys.step sampleEnv (.verifyAndRelease 0 sampleHash) = sampleSys :=
  ⟨sampleSys_reachable, verifyAndRelease_never_commits sampleSys_reachable _ _ _⟩

/-- Every stored project is funding in every reachable state: registration
stores funding projects, a deposit writes back the status it read, and no
verification commits. -/
theorem status_funding_of_reachable : Reachable sys →
    ∀ id state, sys.store.projState id = some state → state.status = .funding := by
  apply Reachable.induction
  · exact fun _ _ stated => nomatch stated
  intro sys env call reply host reachable funding committed id state stated
  rw [Sys.commit_store] at stated
  rcases Call.writes_cases call with
    quiet | ⟨creator, token, goal, proofHash, deadline, rfl⟩ | ⟨projectId, donator, amount, rfl⟩ |
      ⟨projectId, submittedProofHash, rfl⟩
  · obtain ⟨-, -, -, states⟩ := Store.data_eq_iff.mp (invoke_quiet quiet committed).1
    exact funding id state (states ▸ stated)
  · obtain ⟨project, returned, -⟩ := invoke_registerProject_eq_ok.mp committed
    obtain ⟨-, -, -, -, -, rfl, rfl⟩ := registerProject_eq_ok.mp returned
    by_cases same : id = sys.store.projectCount.getD 0
    · subst same
      simp only [Function.update_same, Option.some.injEq] at stated
      rw [← stated]
      rfl
    · exact funding id state (by simpa [Function.update_noteq same] using stated)
  · obtain ⟨config, old, -, -, oldStated, -, -, rfl⟩ :=
      deposit_eq_ok.mp (invoke_deposit_eq_ok.mp committed).1
    by_cases same : id = projectId
    · subst same
      simp only [Function.update_same, Option.some.injEq] at stated
      rw [← stated]
      exact funding id old oldStated
    · exact funding id state (by simpa [Function.update_noteq same] using stated)
  · obtain ⟨oracle, -, -, stored, -⟩ :=
      verifyAndRelease_eq_ok.mp (invoke_verifyAndRelease_eq_ok.mp committed).1
    rw [oracleKey_none_of_reachable reachable] at stored
    cases stored

/-- Initialization, `set_oracle` naming the sample oracle, and one
registration. -/
def oracleRun : List (Env × Call) :=
  [(sampleEnv, .init sampleAdmin), (sampleEnv, .setOracle sampleAdmin sampleOracle),
   (sampleEnv, .registerProject sampleAdmin sampleToken 5000 sampleHash 86400)]

/-- The state `oracleRun` reaches. -/
def oracleSys : Sys := Sys.initial.run oracleRun

/-- After `set_oracle(admin, oracle)` succeeds and a project is registered, the
oracle holds the Oracle role and signs, project 0 is funding, and its stored
hash is submitted; still the verification fails with "oracle not set" and is
not committed. -/
theorem verify_fails_after_set_oracle :
    oracleSys.receipts.length = 3 ∧ oracleSys.store.roles sampleOracle = some .oracle ∧
    sampleOracle ∈ sampleEnv.signers ∧ oracleSys.store.projState 0 = some ⟨0, .funding⟩ ∧
    (oracleSys.store.projConfig 0).map ProjectConfig.proofHash = some sampleHash ∧
    verifyAndRelease sampleEnv 0 sampleHash ⟨oracleSys.store, [], []⟩ =
      .error (.panic "oracle not set")
        ⟨{ oracleSys.store with ttl := oracleSys.store.ttl.bumpInstance sampleEnv }, [], []⟩ :=
  ⟨by decide, by decide, by decide, by decide, by decide,
    verifyAndRelease_of_reachable (Reachable.initial.run oracleRun) sampleEnv 0 sampleHash⟩

end Oracle

end Pifp
