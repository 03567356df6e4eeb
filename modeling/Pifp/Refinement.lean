import Pifp.Registry

/-!
# The registry the contract implements

What the contract is for, with storage layout, roles, TTLs and tokens left
out: a list of projects in registration order, the `n`-th with id `n`. A
registration appends a funding project with nothing raised, a deposit adds its
amount to one project's balance, a verification completes one project, and no
other call touches a project.

The store refines this list. Read through `load_project` for every id below the
counter, a committed call does to the store's projects what its abstract
operation does to the list, whatever the call and whoever signs. So every
reachable store is the replay of its committed calls through the abstract
registry. The argument does not rest on verification never committing: a
committed verification completes its project, as the abstract one does.
-/

namespace Pifp

open PifpProtocol

/-- What a call does to the registry when it succeeds. -/
def Call.apply : Call → List Project → List Project
  | .registerProject creator token goal proofHash deadline, projects =>
    projects ++ [⟨projects.length, creator, token, goal, 0, proofHash, deadline, .funding⟩]
  | .deposit projectId _ amount, projects =>
    projects.modify (fun project => { project with balance := project.balance + amount }) projectId
  | .verifyAndRelease projectId _, projects =>
    projects.modify (fun project => { project with status := .completed }) projectId
  | _, projects => projects

/-- The project `load_project(id)` rebuilds, when both halves are stored. -/
def Store.project? (store : Store) (id : Nat) : Option Project :=
  (store.projConfig id).bind fun config => (store.projState id).map (Project.ofParts config)

/-- The abstraction: the projects of a store, in id order, read for every id
below the counter. -/
def Store.projects (store : Store) : List Project :=
  (List.range (store.projectCount.getD 0)).filterMap store.project?

section Abstraction

variable {store : Store}

/-- A call that writes no project entry is the identity on the registry. -/
theorem Call.apply_of_quiet {call : Call} (quiet : call.writesProjects = false)
    (projects : List Project) : call.apply projects = projects := by
  cases call <;> first | rfl | cases quiet

/-- `load_project(id)` succeeds with exactly the project `project?` reads. -/
theorem loadProject_returns_project? {env : Env} {host : Host} {id : Nat} {project : Project} :
    (∃ after, Storage.loadProject env id host = .ok project after) ↔
      host.store.project? id = some project := by
  simp only [Storage.loadProject_eq_ok, Store.project?, Option.bind_eq_some, Option.map_eq_some']
  constructor
  · rintro ⟨_, config, state, configured, stated, -, rfl⟩
    exact ⟨config, configured, state, stated, rfl⟩
  · rintro ⟨config, configured, state, stated, rfl⟩
    exact ⟨_, config, state, configured, stated, rfl, rfl⟩

/-- The values of `f` below `n`, when each of them is defined, are `n` values. -/
theorem length_filterMap_range {α : Type} {f : Nat → Option α} {n : Nat}
    (total : ∀ i < n, (f i).isSome) : ((List.range n).filterMap f).length = n := by
  rw [List.length_filterMap_eq_countP, List.countP_eq_length.mpr, List.length_range]
  exact fun i listed => by simpa using total i (List.mem_range.mp listed)

/-- Reading the `i`-th of the values of `f` below `n`, when each of them is
defined. -/
theorem getElem?_filterMap_range {α : Type} {f : Nat → Option α} {n : Nat}
    (total : ∀ i < n, (f i).isSome) (i : Nat) :
    ((List.range n).filterMap f)[i]? = if i < n then f i else none := by
  induction n with
  | zero => simp
  | succ n inductionHypothesis =>
    have earlierTotal : ∀ j < n, (f j).isSome := fun j below => total j (Nat.lt_succ_of_lt below)
    have length := length_filterMap_range earlierTotal
    obtain ⟨value, defined⟩ := Option.isSome_iff_exists.mp (total n (Nat.lt_succ_self n))
    simp only [List.range_succ, List.filterMap_append, List.filterMap_cons, defined,
      List.filterMap_nil]
    rcases Nat.lt_trichotomy i n with below | rfl | above
    · rw [List.getElem?_append_left (by rw [length]; exact below),
        inductionHypothesis earlierTotal, if_pos below, if_pos (Nat.lt_succ_of_lt below)]
    · simp [List.getElem?_append_right, length, defined]
    · rw [List.getElem?_append_right (by omega), if_neg (by omega)]
      simp [length]
      omega

/-- Under the representation invariant every id below the counter reads back. -/
theorem Store.Represented.project?_isSome (represented : store.Represented) {id : Nat}
    (below : id < store.projectCount.getD 0) : (store.project? id).isSome := by
  obtain ⟨config, configured⟩ :=
    Option.isSome_iff_exists.mp ((represented.config_isSome id).mpr below)
  obtain ⟨state, stated⟩ :=
    Option.isSome_iff_exists.mp ((represented.state_isSome id).mpr below)
  simp [Store.project?, configured, stated]

/-- Under the representation invariant the project with id `id` is the `id`-th. -/
theorem Store.Represented.projects_getElem? (represented : store.Represented) (id : Nat) :
    store.projects[id]? = store.project? id := by
  rw [Store.projects, getElem?_filterMap_range (fun _ below => represented.project?_isSome below),
    eq_comm]
  split_ifs with below
  · rfl
  · simp [Store.project?, represented.projConfig_of_unregistered (Nat.not_lt.mp below)]

/-- Under the representation invariant there are as many projects as the
counter says. -/
theorem Store.Represented.projects_length (represented : store.Represented) :
    store.projects.length = store.projectCount.getD 0 :=
  length_filterMap_range fun _ below => represented.project?_isSome below

/-- The projects read only the data entries. -/
theorem Store.projects_of_data_eq {other : Store} (same : store.data = other.data) :
    store.projects = other.projects := by
  obtain ⟨count, -, configs, states⟩ := Store.data_eq_iff.mp same
  have reads : store.project? = other.project? :=
    funext fun id => by simp only [Store.project?, configs, states]
  rw [Store.projects, Store.projects, count, reads]

/-- A registration at the counter's value appends its project. -/
theorem Store.projects_register {project : Project} (ttl : Ttl) :
    { store with
      projectCount := some (store.projectCount.getD 0 + 1)
      projConfig := Function.update store.projConfig (store.projectCount.getD 0)
        (some project.config)
      projState := Function.update store.projState (store.projectCount.getD 0)
        (some project.state)
      ttl := ttl }.projects = store.projects ++ [project] := by
  simp only [Store.projects, Option.getD_some, List.range_succ, List.filterMap_append]
  congr 1
  · refine List.filterMap_congr fun id listed => ?_
    have other : id ≠ store.projectCount.getD 0 := Nat.ne_of_lt (List.mem_range.mp listed)
    simp [Store.project?, Function.update_noteq other]
  · simp [Store.project?]

/-- Rewriting the state of a stored project changes that project only, as `f`
does. -/
theorem Store.projects_setState (represented : store.Represented) {id : Nat}
    {config : ProjectConfig} {state newState : ProjectState} {f : Project → Project}
    (configured : store.projConfig id = some config) (stated : store.projState id = some state)
    (changed : f (Project.ofParts config state) = Project.ofParts config newState) (ttl : Ttl) :
    { store with
      projState := Function.update store.projState id (some newState), ttl := ttl }.projects =
        store.projects.modify f id := by
  have updated : { store with
      projState := Function.update store.projState id (some newState), ttl := ttl }.Represented :=
    represented.setState (Option.isSome_iff_exists.mpr ⟨state, stated⟩) ttl
  ext1 other
  rw [updated.projects_getElem?, List.getElem?_modify, represented.projects_getElem?]
  by_cases same : id = other
  · subst same
    simp [Store.project?, configured, stated, changed]
  · simp [Store.project?, Function.update_noteq (Ne.symm same), same]

end Abstraction

section Refinement

variable {sys : Sys}

/-- One committed call does to the store's projects what its abstract operation
does. -/
theorem projects_commit (represented : sys.store.Represented) {env : Env} {call : Call}
    {reply : Reply} {host : Host}
    (committed : call.invoke env ⟨sys.store, [], []⟩ = .ok reply host) :
    host.store.projects = call.apply sys.store.projects := by
  rcases Call.writes_cases call with
    quiet | ⟨creator, token, goal, proofHash, deadline, rfl⟩ | ⟨projectId, donator, amount, rfl⟩ |
      ⟨projectId, submittedProofHash, rfl⟩
  · rw [Call.apply_of_quiet quiet]
    exact Store.projects_of_data_eq (invoke_quiet quiet committed).1
  · obtain ⟨project, returned, -⟩ := invoke_registerProject_eq_ok.mp committed
    obtain ⟨-, -, -, -, -, rfl, rfl⟩ := registerProject_eq_ok.mp returned
    rw [Store.projects_register, Call.apply, represented.projects_length]
  · obtain ⟨config, state, -, configured, stated, -, -, rfl⟩ :=
      deposit_eq_ok.mp (invoke_deposit_eq_ok.mp committed).1
    exact Store.projects_setState represented configured stated rfl _
  · obtain ⟨oracle, config, state, -, -, -, configured, stated, -, -, rfl⟩ :=
      verifyAndRelease_eq_ok.mp (invoke_verifyAndRelease_eq_ok.mp committed).1
    exact Store.projects_setState represented configured stated rfl _

/-- Every reachable store is the replay of the calls committed so far through
the abstract registry. -/
theorem projects_replay_receipts : Reachable sys →
    sys.store.projects =
      sys.receipts.foldl (fun projects receipt => receipt.call.apply projects) [] := by
  apply Reachable.induction
  · rfl
  intro sys env call reply host reachable replayed committed
  rw [Sys.commit_store, Sys.commit_receipts, List.foldl_append, ← replayed,
    projects_commit (represented_of_reachable reachable) committed]
  rfl

theorem projects_replay_receipts_sample :
    Reachable sampleSys ∧
      sampleSys.store.projects =
        [⟨0, sampleAdmin, sampleToken, 5000, 1000, sampleHash, 86400, .funding⟩] ∧
      sampleSys.store.projects =
        sampleSys.receipts.foldl (fun projects receipt => receipt.call.apply projects) [] :=
  ⟨sampleSys_reachable, by decide, projects_replay_receipts sampleSys_reachable⟩

end Refinement

end Pifp
