import Pifp.System

/-!
# Storage rent

What the entry points do to the lifetimes of the entries they use. Every helper
of `storage.rs` renews the tier it reads or writes: the instance tier
(`ProjectCount`, `OracleKey`) to seven days ahead when less than a day remains,
a persistent entry (`ProjConfig(id)`, `ProjState(id)`) to thirty days ahead when
less than seven remain. `Call.renew` reads off the helpers each entry point calls
the renewals a committed call makes, in order; the access-control entry points
make none.

Over every run no lifetime shrinks, and a call committed at ledger `s` that loads
or saves a project leaves both of its entries living until at least `s` plus
seven days, however the run goes on. The archival of an entry whose lifetime has
passed is not modelled: the store keeps every entry, and the lifetimes are the
metadata beside it.
-/

namespace Pifp

/-- `later` keeps every entry at least as long as `earlier` does. -/
structure Ttl.Extends (earlier later : Ttl) : Prop where
  instanceLiveUntil_le : earlier.instanceLiveUntil ≤ later.instanceLiveUntil
  liveUntil_le : ∀ key, earlier.liveUntil key ≤ later.liveUntil key

/-- The project whose two entries a call loads or saves: the next id for a
registration. -/
def Call.usesProject? (store : Store) : Call → Option Nat
  | .registerProject .. => some (store.projectCount.getD 0)
  | .getProject id | .deposit id .. | .verifyAndRelease id .. => some id
  | _ => none

/-- The calls that renew the instance tier, through
`get_and_increment_project_id` and `get_oracle`. -/
def Call.renewsInstance : Call → Bool
  | .registerProject .. | .verifyAndRelease .. => true
  | _ => false

/-- The renewals a committed call makes, in the order its helpers make them. -/
def Call.renew (env : Env) (store : Store) (call : Call) (ttl : Ttl) : Ttl :=
  match call with
  | .registerProject .. =>
    let id := store.projectCount.getD 0
    ((ttl.bumpInstance env).bumpPersistent env (.projConfig id)).bumpPersistent env (.projState id)
  | .getProject id => (ttl.bumpPersistent env (.projConfig id)).bumpPersistent env (.projState id)
  | .deposit id .. =>
    ((ttl.bumpPersistent env (.projConfig id)).bumpPersistent env (.projState id)).bumpPersistent env
      (.projState id)
  | .verifyAndRelease id .. =>
    (((ttl.bumpInstance env).bumpPersistent env (.projConfig id)).bumpPersistent env
      (.projState id)).bumpPersistent env (.projState id)
  | _ => ttl

section Renewal

variable {env : Env} {earlier later ttl : Ttl} {key : DataKey}

/-- A renewal never shortens a lifetime, and leaves at least `threshold` ledgers
ahead of the current one. -/
theorem le_extendTtl {threshold extendTo sequence liveUntil : Nat} (positive : 0 < threshold)
    (enough : threshold ≤ extendTo) :
    liveUntil ≤ extendTtl threshold extendTo sequence liveUntil ∧
      sequence + threshold ≤ extendTtl threshold extendTo sequence liveUntil := by
  unfold extendTtl
  split <;> omega

theorem Ttl.Extends.refl (ttl : Ttl) : ttl.Extends ttl :=
  ⟨le_refl _, fun _ => le_refl _⟩

theorem Ttl.Extends.trans {final : Ttl} (first : earlier.Extends later) (second : later.Extends final) :
    earlier.Extends final :=
  ⟨first.1.trans second.1, fun key => (first.2 key).trans (second.2 key)⟩

theorem Ttl.Extends.bumpInstance (extended : earlier.Extends later) :
    earlier.Extends (later.bumpInstance env) :=
  extended.trans ⟨(le_extendTtl (by decide) (by decide)).1, fun _ => le_refl _⟩

theorem Ttl.Extends.bumpPersistent (extended : earlier.Extends later) :
    earlier.Extends (later.bumpPersistent env key) := by
  refine extended.trans ⟨le_refl _, fun other => ?_⟩
  by_cases same : other = key
  · subst same
    simpa [Ttl.bumpPersistent] using (le_extendTtl (by decide) (by decide)).1
  · simp [Ttl.bumpPersistent, same]

/-- An entry renewed and then kept lives until at least seven days past the
renewal's ledger. -/
theorem Ttl.Extends.renewed (kept : (ttl.bumpPersistent env key).Extends later) :
    env.sequence + persistentLifetimeThreshold ≤ later.liveUntil key :=
  le_trans (by simpa [Ttl.bumpPersistent] using (le_extendTtl (by decide) (by decide)).2) (kept.2 key)

/-- The instance tier renewed and then kept lives until at least a day past the
renewal's ledger. -/
theorem Ttl.Extends.instanceRenewed (kept : (ttl.bumpInstance env).Extends later) :
    env.sequence + instanceLifetimeThreshold ≤ later.instanceLiveUntil :=
  le_trans (le_extendTtl (by decide) (by decide)).2 kept.1

end Renewal

section Calls

variable {env : Env} {store : Store} {call : Call} {reply : Reply} {after : Host}

/-- A committed call leaves exactly the lifetimes `Call.renew` gives. -/
theorem Call.invoke_ttl (committed : call.invoke env ⟨store, [], []⟩ = .ok reply after) :
    after.store.ttl = call.renew env store store.ttl := by
  cases call with
  | init superAdmin =>
    obtain ⟨-, -, rfl⟩ := PifpProtocol.init_eq_ok.mp (returned_of_seq_pure committed)
    rfl
  | grantRole caller target role =>
    obtain ⟨-, -, -, rfl⟩ := Rbac.grantRole_eq_ok.mp (returned_of_seq_pure committed)
    rfl
  | revokeRole caller target =>
    obtain ⟨-, -, -, -, rfl⟩ := PifpProtocol.revokeRole_eq_ok.mp (returned_of_seq_pure committed)
    rfl
  | transferSuperAdmin current new =>
    obtain ⟨-, -, rfl⟩ := PifpProtocol.transferSuperAdmin_eq_ok.mp (returned_of_seq_pure committed)
    rfl
  | roleOf address =>
    obtain ⟨_, returned, -⟩ := map_eq_ok.mp committed
    obtain ⟨-, rfl⟩ := Rbac.roleOf_eq_ok.mp returned
    rfl
  | hasRole address role =>
    obtain ⟨_, returned, -⟩ := map_eq_ok.mp committed
    obtain ⟨-, rfl⟩ := PifpProtocol.hasRole_eq_ok.mp returned
    rfl
  | registerProject creator token goal proofHash deadline =>
    obtain ⟨_, registered, -⟩ := invoke_registerProject_eq_ok.mp committed
    obtain ⟨-, -, -, -, -, -, rfl⟩ := PifpProtocol.registerProject_eq_ok.mp registered
    rfl
  | getProject id =>
    obtain ⟨_, returned, -⟩ := map_eq_ok.mp committed
    obtain ⟨_, _, -, -, rfl, -⟩ := PifpProtocol.getProject_eq_ok.mp returned
    rfl
  | deposit projectId donator amount =>
    obtain ⟨_, _, -, -, -, -, -, rfl⟩ :=
      PifpProtocol.deposit_eq_ok.mp (invoke_deposit_eq_ok.mp committed).1
    rfl
  | setOracle caller oracle =>
    obtain ⟨-, -, rfl⟩ := PifpProtocol.setOracle_eq_ok.mp (returned_of_seq_pure committed)
    rfl
  | verifyAndRelease projectId submittedProofHash =>
    obtain ⟨_, _, _, -, -, -, -, -, -, -, rfl⟩ :=
      PifpProtocol.verifyAndRelease_eq_ok.mp (invoke_verifyAndRelease_eq_ok.mp committed).1
    rfl

theorem Call.extends_renew (call : Call) (ttl : Ttl) : ttl.Extends (call.renew env store ttl) := by
  cases call
  case registerProject => exact (Ttl.Extends.refl ttl).bumpInstance.bumpPersistent.bumpPersistent
  case getProject => exact (Ttl.Extends.refl ttl).bumpPersistent.bumpPersistent
  case deposit => exact (Ttl.Extends.refl ttl).bumpPersistent.bumpPersistent.bumpPersistent
  case verifyAndRelease =>
    exact (Ttl.Extends.refl ttl).bumpInstance.bumpPersistent.bumpPersistent.bumpPersistent
  all_goals exact .refl ttl

/-- The renewals of a call that loads or saves a project leave both of its
entries living until at least seven days past the call's ledger. -/
theorem Call.renew_project {id : Nat} (found : call.usesProject? store = some id) (ttl : Ttl)
    {key : DataKey} (listed : key ∈ [DataKey.projConfig id, .projState id]) :
    env.sequence + persistentLifetimeThreshold ≤ (call.renew env store ttl).liveUntil key := by
  cases call <;> simp only [Call.usesProject?, reduceCtorEq, Option.some.injEq] at found
  all_goals
    subst found
    rcases List.mem_pair.mp listed with rfl | rfl
  case registerProject.inl | getProject.inl => exact (Ttl.Extends.refl _).bumpPersistent.renewed
  case deposit.inl | verifyAndRelease.inl =>
    exact (Ttl.Extends.refl _).bumpPersistent.bumpPersistent.renewed
  all_goals exact (Ttl.Extends.refl _).renewed

theorem Call.renew_instance (renews : call.renewsInstance = true) (ttl : Ttl) :
    env.sequence + instanceLifetimeThreshold ≤ (call.renew env store ttl).instanceLiveUntil := by
  cases call <;> simp only [Call.renewsInstance, Bool.false_eq_true] at renews
  case registerProject => exact (Ttl.Extends.refl _).bumpPersistent.bumpPersistent.instanceRenewed
  case verifyAndRelease =>
    exact (Ttl.Extends.refl _).bumpPersistent.bumpPersistent.bumpPersistent.instanceRenewed

end Calls

section Runs

theorem Sys.extends_step (sys : Sys) (env : Env) (call : Call) :
    sys.store.ttl.Extends (sys.step env call).store.ttl := by
  rcases Sys.step_cases env call sys with same | ⟨reply, host, committed, stepped⟩
  · rw [same]
    exact .refl _
  · rw [stepped, Sys.commit_store, Call.invoke_ttl committed]
    exact Call.extends_renew call _

theorem Sys.extends_run (sys : Sys) (calls : List (Env × Call)) :
    sys.store.ttl.Extends (sys.run calls).store.ttl := by
  induction calls generalizing sys with
  | nil => exact .refl _
  | cons invocation rest inductionHypothesis =>
    exact (sys.extends_step invocation.1 invocation.2).trans (inductionHypothesis _)

/-- Storage rent over any run: no lifetime shrinks; and a call committed at
ledger `s` before the run keeps both entries of the project it loads or saves
living until at least `s` plus seven days, and the instance tier, when it renews
it, until at least `s` plus a day, through the whole run. -/
theorem storage_rent (sys : Sys) (calls : List (Env × Call)) :
    sys.store.ttl.Extends (sys.run calls).store.ttl ∧
      ∀ env call, (∃ reply after, call.invoke env ⟨sys.store, [], []⟩ = .ok reply after) →
        (∀ id ∈ call.usesProject? sys.store, ∀ key ∈ [DataKey.projConfig id, .projState id],
          env.sequence + persistentLifetimeThreshold ≤
            ((sys.step env call).run calls).store.ttl.liveUntil key) ∧
        (call.renewsInstance = true → env.sequence + instanceLifetimeThreshold ≤
            ((sys.step env call).run calls).store.ttl.instanceLiveUntil) := by
  refine ⟨sys.extends_run calls, fun env call ⟨reply, after, committed⟩ => ?_⟩
  have stepped : (sys.step env call).store.ttl = call.renew env sys.store sys.store.ttl := by
    rw [Sys.step, committed, Sys.commit_store, Call.invoke_ttl committed]
  have kept := (sys.step env call).extends_run calls
  rw [stepped] at kept
  exact ⟨fun id found key listed => (Call.renew_project found _ listed).trans (kept.2 key),
    fun renews => (Call.renew_instance renews _).trans kept.1⟩

end Runs

end Pifp
