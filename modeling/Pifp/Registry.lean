import Pifp.System

/-!
# The project registry

The representation invariant of the persistent store: the configuration and
the state of a project are present together, exactly for the ids below the
counter, and each configuration carries its own key as its id. Registrations
hand out the counter's values in order, so the ids returned by the committed
registrations are `0, 1, 2, …` with no gap and no reuse; the counter's checked
increment refuses to pass `u64::MAX` rather than wrap onto an id in use.

Since every registration writes at a fresh id and the other entry points write
only state entries, a configuration once stored is never changed again: every
later `get_project` returns what `register_project` returned.

An id the counter has not handed out has no configuration, so `get_project`
and `deposit` on it stop at the `expect` of `load_project_config`: an untyped
panic, "project not found", and not `Error::ProjectNotFound`. `deposit` asks for
the donator's signature before that. Either way the call fails on the host it
started from, so nothing is transferred, published or stored.
-/

namespace Pifp

open PifpProtocol

/-- The project a committed `register_project` returned. -/
def Receipt.registered? (receipt : Receipt) : Option Project :=
  match receipt.call, receipt.reply with
  | .registerProject .., .project project => some project
  | _, _ => none

/-- The representation invariant of the persistent store. -/
structure Store.Represented (store : Store) : Prop where
  count_le : store.projectCount.getD 0 ≤ u64Max
  config_isSome : ∀ id, (store.projConfig id).isSome ↔ id < store.projectCount.getD 0
  state_isSome : ∀ id, (store.projState id).isSome ↔ id < store.projectCount.getD 0
  config_id : ∀ id config, store.projConfig id = some config → config.id = id

/-- A registration's receipt records the project it returned; other receipts
record none. -/
theorem Receipt.registered?_of_writes {call : Call} {contract : Address} {reply : Reply}
    {transfers : List Transfer} {events : List ContractEvent}
    (notRegistration : ∀ creator token goal proofHash deadline,
      call ≠ .registerProject creator token goal proofHash deadline) :
    Receipt.registered? ⟨call, contract, reply, transfers, events⟩ = none := by
  cases call <;> simp_all [Receipt.registered?]

section Preservation

variable {store : Store} {env : Env} {host : Host}

/-- The invariant reads only the data entries. -/
theorem Store.Represented.of_data_eq {other : Store} (represented : other.Represented)
    (same : store.data = other.data) : store.Represented := by
  obtain ⟨count, -, configs, states⟩ := Store.data_eq_iff.mp same
  exact ⟨count ▸ represented.count_le, count ▸ configs ▸ represented.config_isSome,
    count ▸ states ▸ represented.state_isSome, configs ▸ represented.config_id⟩

/-- Rewriting the state of a stored project keeps the representation. -/
theorem Store.Represented.setState (represented : store.Represented) {id : Nat}
    {state : ProjectState} (stored : (store.projState id).isSome) (ttl : Ttl) :
    { store with
      projState := Function.update store.projState id (some state), ttl := ttl }.Represented where
  count_le := represented.count_le
  config_isSome := represented.config_isSome
  state_isSome other := by
    by_cases same : other = id
    · subst same
      simpa using (represented.state_isSome other).mp stored
    · simpa [Function.update_noteq same] using represented.state_isSome other
  config_id := represented.config_id

/-- A registration at the counter's value keeps the representation. -/
theorem Store.Represented.register (represented : store.Represented) {project : Project}
    (fresh : project.id = store.projectCount.getD 0)
    (inRange : store.projectCount.getD 0 + 1 ≤ u64Max) (ttl : Ttl) :
    { store with
      projectCount := some (store.projectCount.getD 0 + 1)
      projConfig := Function.update store.projConfig (store.projectCount.getD 0)
        (some project.config)
      projState := Function.update store.projState (store.projectCount.getD 0)
        (some project.state)
      ttl := ttl }.Represented where
  count_le := inRange
  config_isSome key := by
    by_cases same : key = store.projectCount.getD 0
    · subst same
      simp
    · simp only [Option.getD_some, Function.update_noteq same, represented.config_isSome key]
      omega
  state_isSome key := by
    by_cases same : key = store.projectCount.getD 0
    · subst same
      simp
    · simp only [Option.getD_some, Function.update_noteq same, represented.state_isSome key]
      omega
  config_id id config stored := by
    by_cases same : id = store.projectCount.getD 0
    · subst same
      simp only [Function.update_same, Option.some.injEq] at stored
      rw [← stored, ← fresh]
      rfl
    · exact represented.config_id id config (by simpa [Function.update_noteq same] using stored)

end Preservation

section Reachable

variable {sys : Sys}

/-- The persistent store of every reachable state is represented. -/
theorem represented_of_reachable : Reachable sys → sys.store.Represented := by
  apply Reachable.induction
  · exact ⟨by decide, by simp [Sys.initial, Store.empty], by simp [Sys.initial, Store.empty],
      by simp [Sys.initial, Store.empty]⟩
  intro sys env call reply host _ represented committed
  rcases Call.writes_cases call with
    quiet | ⟨creator, token, goal, proofHash, deadline, rfl⟩ | ⟨projectId, donator, amount, rfl⟩ |
      ⟨projectId, submittedProofHash, rfl⟩
  · exact represented.of_data_eq (invoke_quiet quiet committed).1
  · obtain ⟨project, returned, -⟩ := invoke_registerProject_eq_ok.mp committed
    obtain ⟨-, -, -, -, inRange, rfl, rfl⟩ := registerProject_eq_ok.mp returned
    exact represented.register rfl inRange _
  · obtain ⟨returned, -⟩ := invoke_deposit_eq_ok.mp committed
    obtain ⟨config, state, -, -, stored, -, -, rfl⟩ := deposit_eq_ok.mp returned
    exact represented.setState (Option.isSome_iff_exists.mpr ⟨state, stored⟩) _
  · obtain ⟨returned, -⟩ := invoke_verifyAndRelease_eq_ok.mp committed
    obtain ⟨oracle, config, state, -, -, -, -, stored, -, -, rfl⟩ := verifyAndRelease_eq_ok.mp returned
    exact represented.setState (Option.isSome_iff_exists.mpr ⟨state, stored⟩) _

/-- What the committed registrations of a run left behind: the ids they
returned, in order, and their projects' configurations in storage. -/
structure Sys.RegistrationsStored (sys : Sys) : Prop where
  ids : (sys.receipts.filterMap Receipt.registered?).map Project.id =
    List.range (sys.store.projectCount.getD 0)
  stored : ∀ receipt ∈ sys.receipts, ∀ project, receipt.registered? = some project →
    sys.store.projConfig project.id = some project.config ∧ 0 < project.goal ∧ 0 < project.deadline

/-- A committed call other than a registration records no project and leaves
the counter and the configurations alone. -/
theorem Sys.RegistrationsStored.commit_of_keeps (registrations : sys.RegistrationsStored)
    {env : Env} {call : Call} {reply : Reply} {host : Host}
    (notRegistration : ∀ creator token goal proofHash deadline,
      call ≠ .registerProject creator token goal proofHash deadline)
    (count : host.store.projectCount = sys.store.projectCount)
    (configs : host.store.projConfig = sys.store.projConfig) :
    (sys.commit env call reply host).RegistrationsStored where
  ids := by simp [Receipt.registered?_of_writes notRegistration, count, registrations.ids]
  stored receipt recorded project registered := by
    simp only [Sys.commit_receipts, List.mem_append, List.mem_singleton] at recorded
    rcases recorded with old | rfl
    · simpa [configs] using registrations.stored receipt old project registered
    · simp [Receipt.registered?_of_writes notRegistration] at registered

/-- Registrations hand out the counter's values in order, and every
registration's configuration stays where it was written. -/
theorem registrationsStored_of_reachable : Reachable sys → sys.RegistrationsStored := by
  apply Reachable.induction
  · exact ⟨rfl, by simp [Sys.initial]⟩
  intro sys env call reply host reachable registrations committed
  rcases Call.writes_cases call with
    quiet | ⟨creator, token, goal, proofHash, deadline, rfl⟩ | ⟨projectId, donator, amount, rfl⟩ |
      ⟨projectId, submittedProofHash, rfl⟩
  · obtain ⟨count, -, configs, -⟩ := Store.data_eq_iff.mp (invoke_quiet quiet committed).1
    refine registrations.commit_of_keeps ?_ count configs
    rintro creator token goal proofHash deadline rfl
    simp [Call.writesProjects] at quiet
  · obtain ⟨project, returned, rfl⟩ := invoke_registerProject_eq_ok.mp committed
    obtain ⟨-, -, positive, future, -, rfl, rfl⟩ := registerProject_eq_ok.mp returned
    have represented := represented_of_reachable reachable
    constructor
    · simp [Receipt.registered?, registrations.ids, List.range_succ]
    · intro receipt recorded project registered
      simp only [Sys.commit_receipts, List.mem_append, List.mem_singleton] at recorded
      rcases recorded with old | rfl
      · obtain ⟨stored, rest⟩ := registrations.stored receipt old project registered
        have below := (represented.config_isSome project.id).mp (by simp [stored])
        simpa [Function.update_noteq (Nat.ne_of_lt below), stored] using rest
      · simp only [Receipt.registered?, Option.some.injEq] at registered
        subst registered
        exact ⟨by simp, positive, Nat.lt_of_le_of_lt (Nat.zero_le _) future⟩
  · obtain ⟨returned, rfl⟩ := invoke_deposit_eq_ok.mp committed
    obtain ⟨config, state, -, -, -, -, -, rfl⟩ := deposit_eq_ok.mp returned
    exact registrations.commit_of_keeps (fun _ _ _ _ _ => nofun) rfl rfl
  · obtain ⟨returned, rfl⟩ := invoke_verifyAndRelease_eq_ok.mp committed
    obtain ⟨oracle, config, state, -, -, -, -, -, -, -, rfl⟩ := verifyAndRelease_eq_ok.mp returned
    exact registrations.commit_of_keeps (fun _ _ _ _ _ => nofun) rfl rfl

/-- Store representation: in every reachable state an id has a configuration
exactly when it has a state, exactly when it lies below the counter (an absent
counter read as zero); each configuration records its own key as its id; the
counter never passes `u64::MAX`; and the committed registrations returned the
ids `0, 1, 2, …` in order, so ids are gap-free and never reused. -/
theorem project_ids_sequential (reachable : Reachable sys) :
    (∀ id, ((sys.store.projConfig id).isSome ↔ (sys.store.projState id).isSome) ∧
      ((sys.store.projState id).isSome ↔ id < sys.store.projectCount.getD 0) ∧
      ∀ config, sys.store.projConfig id = some config → config.id = id) ∧
    sys.store.projectCount.getD 0 ≤ u64Max ∧
    (sys.receipts.filterMap Receipt.registered?).map Project.id =
      List.range (sys.store.projectCount.getD 0) := by
  have represented := represented_of_reachable reachable
  refine ⟨fun id => ⟨?_, represented.state_isSome id, represented.config_id id⟩,
    represented.count_le, (registrationsStored_of_reachable reachable).ids⟩
  rw [represented.config_isSome id, represented.state_isSome id]

theorem project_ids_sequential_sample :
    Reachable sampleSys ∧
    (∀ id, ((sampleSys.store.projConfig id).isSome ↔ (sampleSys.store.projState id).isSome) ∧
      ((sampleSys.store.projState id).isSome ↔ id < sampleSys.store.projectCount.getD 0) ∧
      ∀ config, sampleSys.store.projConfig id = some config → config.id = id) ∧
    sampleSys.store.projectCount.getD 0 ≤ u64Max ∧
    (sampleSys.receipts.filterMap Receipt.registered?).map Project.id =
      List.range (sampleSys.store.projectCount.getD 0) :=
  ⟨sampleSys_reachable, project_ids_sequential sampleSys_reachable⟩

/-- Immutable creation fields: a project returned by a committed
`register_project` has a positive goal and deadline, and in every later state,
whatever calls come after, its stored configuration is the one returned and
`get_project` returns the same id, creator, token, goal, proof hash and
deadline. -/
theorem registered_project_immutable (reachable : Reachable sys) (project : Project)
    (registered : project ∈ sys.receipts.filterMap Receipt.registered?) :
    0 < project.goal ∧ 0 < project.deadline ∧
      ∀ calls env, (sys.run calls).store.projConfig project.id = some project.config ∧
        ∃ view after, getProject env project.id ⟨(sys.run calls).store, [], []⟩ = .ok view after ∧
          view.config = project.config := by
  obtain ⟨receipt, recorded, returned⟩ := List.mem_filterMap.mp registered
  obtain ⟨-, positive, future⟩ :=
    (registrationsStored_of_reachable reachable).stored receipt recorded project returned
  refine ⟨positive, future, fun calls env => ?_⟩
  obtain ⟨later, extended⟩ := sys.receipts_run calls
  have laterReachable := reachable.run calls
  obtain ⟨stored, -⟩ := (registrationsStored_of_reachable laterReachable).stored receipt
    (by simp [extended, recorded]) project returned
  have present := (represented_of_reachable laterReachable).config_isSome project.id
  rw [← (represented_of_reachable laterReachable).state_isSome project.id, stored] at present
  obtain ⟨state, stated⟩ := Option.isSome_iff_exists.mp (present.mp rfl)
  exact ⟨stored, _, _, getProject_eq_ok.mpr ⟨_, _, stored, stated, rfl, rfl⟩, rfl⟩

theorem registered_project_immutable_sample :
    Reachable sampleSys ∧ sampleProject ∈ sampleSys.receipts.filterMap Receipt.registered? ∧
      0 < sampleProject.goal ∧ 0 < sampleProject.deadline ∧
      ∀ calls env, (sampleSys.run calls).store.projConfig sampleProject.id =
          some sampleProject.config ∧
        ∃ view after, getProject env sampleProject.id ⟨(sampleSys.run calls).store, [], []⟩ =
          .ok view after ∧ view.config = sampleProject.config :=
  have registered : sampleProject ∈ sampleSys.receipts.filterMap Receipt.registered? := by decide
  ⟨sampleSys_reachable, registered,
    registered_project_immutable sampleSys_reachable sampleProject registered⟩

end Reachable

section Unregistered

variable {sys : Sys}

/-- An id the counter has not handed out has no configuration. -/
theorem Store.Represented.projConfig_of_unregistered {store : Store}
    (represented : store.Represented) {id : Nat} (unregistered : store.projectCount.getD 0 ≤ id) :
    store.projConfig id = none :=
  Option.not_isSome_iff_eq_none.mp fun present =>
    Nat.not_le.mpr ((represented.config_isSome id).mp present) unregistered

/-- In a reachable state, for an id the counter has not handed out,
`get_project` fails on the untyped panic of `load_project_config`, and
`deposit` on the same panic or, before it, on the donator's missing signature;
never on `Error::ProjectNotFound`. Both fail on the host they started from, with
no transfer and no event, and the step leaves the system as it was. -/
theorem unregistered_id_panics (reachable : Reachable sys) {id : Nat}
    (unregistered : sys.store.projectCount.getD 0 ≤ id) (env : Env) (donator : Address)
    (amount : Int) :
    (Call.getProject id).invoke env ⟨sys.store, [], []⟩ =
        .error (.panic "project not found") ⟨sys.store, [], []⟩ ∧
      (Call.deposit id donator amount).invoke env ⟨sys.store, [], []⟩ =
        .error (if donator ∈ env.signers then .panic "project not found" else .authFailed donator)
          ⟨sys.store, [], []⟩ ∧
      sys.step env (.getProject id) = sys ∧ sys.step env (.deposit id donator amount) = sys := by
  have absent := (represented_of_reachable reachable).projConfig_of_unregistered unregistered
  have lookup : (Call.getProject id).invoke env ⟨sys.store, [], []⟩ =
      .error (.panic "project not found") ⟨sys.store, [], []⟩ :=
    map_of_error (Storage.loadProject_of_none absent)
  have deposited : (Call.deposit id donator amount).invoke env ⟨sys.store, [], []⟩ =
      .error (if donator ∈ env.signers then .panic "project not found" else .authFailed donator)
        ⟨sys.store, [], []⟩ :=
    bind_of_error (deposit_of_none absent)
  exact ⟨lookup, deposited, Sys.step_of_error lookup, Sys.step_of_error deposited⟩

theorem unregistered_id_panics_initial :
    Reachable Sys.initial ∧ Sys.initial.store.projectCount.getD 0 ≤ 0 ∧
      sampleDonator ∈ sampleEnv.signers ∧
      (Call.getProject 0).invoke sampleEnv ⟨Sys.initial.store, [], []⟩ =
          .error (.panic "project not found") ⟨Sys.initial.store, [], []⟩ ∧
        (Call.deposit 0 sampleDonator 1000).invoke sampleEnv ⟨Sys.initial.store, [], []⟩ =
          .error (if sampleDonator ∈ sampleEnv.signers then .panic "project not found"
            else .authFailed sampleDonator) ⟨Sys.initial.store, [], []⟩ ∧
        Sys.initial.step sampleEnv (.getProject 0) = Sys.initial ∧
        Sys.initial.step sampleEnv (.deposit 0 sampleDonator 1000) = Sys.initial :=
  ⟨Reachable.initial, le_rfl, by decide,
    unregistered_id_panics Reachable.initial le_rfl sampleEnv sampleDonator 1000⟩

end Unregistered

end Pifp
