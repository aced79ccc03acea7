import PoolOperator.Proofs.Apply.Installing
import PoolOperator.Proofs.Apply.Protected
import PoolOperator.Proofs.Merge.Failure
import PoolOperator.Proofs.Pool.Course

/-!
# Failures that are not tried again

A failed reconciliation is tried again, unless its error is permanent.  With a store
in memory an error is permanent exactly if the object cannot be applied whatever the
store holds (`permanent_iff_hopeless`, `refused_of_permanent`), since merging never
fails because an object is not supported (`curable_merge`).  So an installation that
is not tried again would fail with every other store as well, and configuring a pool
is always tried again (`retry_policy`).
-/

namespace PoolOperator

/-! ## Errors of merging -/

/-- Does a computation never fail because an object is not supported? -/
def Curable {α : Type} (computation : Except MergeError α) : Prop :=
  ∀ error : MergeError, computation = .error error → error.isUnsupported = false

/-- Merging does not fail because an object is not supported. -/
theorem curable_merge (current desired : Object) : Curable (merge current desired) := by
  intro error failed
  rcases merge_failsOnly current desired error failed with ⟨source, rfl⟩ | ⟨source, rfl⟩
  · rfl
  · rfl

theorem curable_livePools (current : Object) : Curable (livePools current) := by
  refine Except.FailsOnly.bind (.mapError _ fun _ => rfl) fun payload? => ?_
  cases payload? with
  | none => exact .ok []
  | some payload =>
      intro error failed
      obtain ⟨source, rfl⟩ := poolsOf_unreadable failed
      rfl

/-! ## Objects that cannot be applied at all -/

namespace Object

variable {desired : Object}

/-- Why an object can never be applied. -/
inductive Hopeless (desired : Object) : Prop
  /-- It has no name, or an empty one. -/
  | nameless (missing : desired.metadata.name = none ∨ desired.metadata.name = some "")
  /-- It has no type, or one with an empty kind. -/
  | typeless (missing : desired.type? = none ∨ ∃ apiVersion : String,
      desired.type? = some ⟨apiVersion, ""⟩)
  /-- It is a ServiceAccount with secrets. -/
  | secrets (account : desired.groupKind = ⟨"", "ServiceAccount"⟩) (secrets : desired.HasSecrets)

theorem name?_eq_none_iff :
    desired.name? = none ↔ desired.metadata.name = none ∨ desired.metadata.name = some "" := by
  rw [name?]
  cases desired.metadata.name with
  | none => simp
  | some name => simp

theorem kind_eq_empty_iff : desired.groupKind.kind = "" ↔
    desired.type? = none ∨ ∃ apiVersion : String, desired.type? = some ⟨apiVersion, ""⟩ := by
  rw [groupKind]
  cases desired.type? with
  | none => simp
  | some type =>
      obtain ⟨apiVersion, kind⟩ := type
      simp

theorem unsupported_iff :
    (∃ reason : String, checkSupported desired = .error (.unsupported reason)) ↔
    desired.groupKind = ⟨"", "ServiceAccount"⟩ ∧ desired.HasSecrets := by
  constructor
  · rintro ⟨reason, refused⟩
    by_cases account : desired.groupKind = ⟨"", "ServiceAccount"⟩
    · refine ⟨account, ?_⟩
      rw [checkSupported, if_pos account] at refused
      cases read : desired.body.list? ["secrets"] with
      | error error =>
          rw [read] at refused
          cases refused
      | ok items? =>
          rw [read] at refused
          rcases items? with _ | (_ | ⟨item, items⟩)
          · cases refused
          · cases refused
          · exact ⟨item :: items, List.cons_ne_nil item items, Value.list?_eq_some_iff.mp read⟩
    · rw [checkSupported, if_neg account] at refused
      cases refused
  · rintro ⟨account, items, notEmpty, there⟩
    rw [checkSupported, if_pos account, Value.list?_eq_some_iff.mpr there]
    cases items with
    | nil => exact absurd rfl notEmpty
    | cons item items => exact ⟨_, rfl⟩

/-- An object without a label cannot be applied at all. -/
theorem hopeless_of_label {error : ApplyError} (unlabelled : desired.label = .error error) :
    desired.Hopeless ∧ error.isPermanent = true := by
  rcases label_eq_error_iff.mp unlabelled with ⟨nameless, rfl⟩ | ⟨-, typeless, rfl⟩
  · exact ⟨.nameless (name?_eq_none_iff.mp nameless), rfl⟩
  · exact ⟨.typeless (kind_eq_empty_iff.mp typeless), rfl⟩

theorem admission_permanent_iff :
    (∃ error : ApplyError, desired.admission = .error error ∧ error.isPermanent = true) ↔
      desired.Hopeless := by
  cases labelled : desired.label with
  | error error =>
      obtain ⟨hopeless, permanent⟩ := hopeless_of_label labelled
      exact ⟨fun _ => hopeless, fun _ => ⟨error, admission_of_label labelled, permanent⟩⟩
  | ok label =>
      obtain ⟨named, typed, -⟩ := label_eq_ok_iff.mp labelled
      constructor
      · rintro ⟨error, refused, permanent⟩
        cases checked : checkSupported desired with
        | ok _ =>
            rw [admission_of_supported labelled checked] at refused
            cases refused
        | error source =>
            rw [admission_of_check labelled checked] at refused
            cases refused
            cases source with
            | unsupported reason =>
                obtain ⟨account, secrets⟩ := unsupported_iff.mp ⟨reason, checked⟩
                exact .secrets account secrets
            | access _ => cases permanent
            | unreadableConfig _ => cases permanent
            | unwritableConfig _ => cases permanent
      · intro hopeless
        cases hopeless with
        | nameless missing =>
            rw [name?_eq_none_iff.mpr missing] at named
            cases named
        | typeless missing => exact absurd (kind_eq_empty_iff.mpr missing) typed
        | secrets account secrets =>
            obtain ⟨reason, checked⟩ := unsupported_iff.mpr ⟨account, secrets⟩
            exact ⟨_, admission_of_check labelled checked, rfl⟩

end Object

/-! ## Calls -/

/-- No error that comes up once the live object is known is permanent. -/
theorem Verdict.isPermanent_of_ofLive {label : String} {desired : Object} {live? : Option Object}
    {error : ApplyError} (failed : (Verdict.ofLive label desired live?).result = .error error) :
    error.isPermanent = false := by
  cases live? with
  | none => cases failed
  | some current =>
      simp only [Verdict.ofLive] at failed
      cases done : merge current desired with
      | error source =>
          rw [done] at failed
          cases failed
          exact curable_merge current desired source done
      | ok merged =>
          rw [done, Verdict.ofMerge] at failed
          cases compared : current.same merged with
          | error reason =>
              rw [compared] at failed
              cases failed
              rfl
          | ok equal =>
              rw [compared] at failed
              cases equal <;> cases failed

namespace MemoryStore

section

variable {store : MemoryStore} {desired : Object} {error : ApplyError}

/-- What is refused is refused by every store. -/
theorem result_of_refused (refused : desired.admission = .error error) :
    (store.verdict desired).result = .error error := by
  rw [verdict, Object.verdict, refused]
  rfl

/-- Only the object itself is the cause of a permanent error. -/
theorem refused_of_permanent (failed : (store.verdict desired).result = .error error)
    (permanent : error.isPermanent = true) : desired.admission = .error error := by
  rw [verdict, Object.verdict] at failed
  cases admitted : desired.admission with
  | error refused =>
      rw [admitted] at failed
      cases failed
      rfl
  | ok label =>
      rw [admitted] at failed
      exact absurd permanent (Bool.eq_false_iff.mp (Verdict.isPermanent_of_ofLive failed))

/-- A call fails with a permanent error exactly if the object can never be applied. -/
theorem permanent_iff_hopeless :
    (∃ error : ApplyError, (store.verdict desired).result = .error error
      ∧ error.isPermanent = true) ↔
      desired.Hopeless := by
  rw [← Object.admission_permanent_iff]
  refine exists_congr fun error => ⟨fun failed => ?_, fun refused => ?_⟩
  · exact ⟨refused_of_permanent failed.1 failed.2, failed.2⟩
  · exact ⟨result_of_refused refused.1, refused.2⟩

end

variable (surroundings : Surroundings (StateM MemoryStore))

/-! ## Installing -/

section

variable (owner : OwnerReference)

/-- If an installation fails with a permanent error, one of the objects is refused. -/
theorem refused_of_applyAll {summary : InstallSummary} {objects : List Object}
    {metrics metrics' : Metrics} {store after : MemoryStore} {error : ApplyError}
    (ran : (surroundings.inMemory.run (applyAll owner summary objects).run metrics).run store =
      ((.error error, metrics'), after)) (permanent : error.isPermanent = true) :
    ∃ object ∈ objects, (object.ownedBy owner).admission = .error error := by
  induction objects generalizing summary metrics store with
  | nil => cases ran
  | cons object rest induction =>
      obtain ⟨between, first⟩ := run_apply surroundings (object.ownedBy owner) metrics store
      rw [run_applyAll_cons surroundings owner first] at ran
      cases result : (store.verdict (object.ownedBy owner)).result with
      | error error' =>
          rw [result] at ran
          cases ran
          exact ⟨object, List.mem_cons_self, refused_of_permanent result permanent⟩
      | ok outcome =>
          rw [result] at ran
          obtain ⟨refused, there, admission⟩ := induction ran
          exact ⟨refused, List.mem_cons_of_mem _ there, admission⟩

/-- If one of the objects is refused, an installation fails with every store. -/
theorem applyAll_fails {objects : List Object} {error : ApplyError}
    (refused : ∃ object ∈ objects, (object.ownedBy owner).admission = .error error)
    (summary : InstallSummary) (metrics : Metrics) (store : MemoryStore) :
    ∃ (error' : ApplyError) (metrics' : Metrics) (after : MemoryStore),
      (surroundings.inMemory.run (applyAll owner summary objects).run metrics).run store =
        ((.error error', metrics'), after) := by
  induction objects generalizing summary metrics store with
  | nil =>
      obtain ⟨object, there, -⟩ := refused
      cases there
  | cons object rest induction =>
      obtain ⟨between, first⟩ := run_apply surroundings (object.ownedBy owner) metrics store
      rw [run_applyAll_cons surroundings owner first]
      cases result : (store.verdict (object.ownedBy owner)).result with
      | error error' => exact ⟨error', between, _, rfl⟩
      | ok outcome =>
          refine induction ?_ _ between _
          obtain ⟨refused, there, admission⟩ := refused
          refine ⟨refused, (List.mem_cons.mp there).resolve_left fun same => ?_, admission⟩
          rw [same] at admission
          rw [result_of_refused admission] at result
          cases result

/-- An installation that fails with a permanent error fails with every store. -/
theorem installAll_fails {objects : List Object} {metrics : Metrics} {store : MemoryStore}
    {error : ApplyError}
    (failed : (installAll surroundings owner metrics store objects).1 = .error error)
    (permanent : error.isPermanent = true) (metrics' : Metrics) (store' : MemoryStore) :
    ∃ error' : ApplyError, (installAll surroundings owner metrics' store' objects).1 =
      .error error' := by
  obtain ⟨between, ran⟩ := run_installAll surroundings owner metrics store objects
  rw [failed] at ran
  obtain ⟨error', between', after', ran'⟩ := applyAll_fails surroundings owner
    (refused_of_applyAll surroundings owner ran permanent) .none metrics' store'
  obtain ⟨_, whole⟩ := run_installAll surroundings owner metrics' store' objects
  exact ⟨error', congrArg (fun ran => ran.1.1) (whole.symm.trans ran')⟩

end

/-! ## Pools -/

/-- No failure to configure a pool is permanent. -/
theorem ensurePool_not_permanent {pool : AddressPool} {space : String} {metrics metrics' : Metrics}
    {store after : MemoryStore} {error : ApplyError}
    (ran : (surroundings.inMemory.run (ensurePool pool space).run metrics).run store =
      ((.error error, metrics'), after)) : error.isPermanent = false := by
  have notHopeless : ¬ (pool.configMap space).Hopeless := by
    intro hopeless
    obtain ⟨error, refused, -⟩ := Object.admission_permanent_iff.mpr hopeless
    have admitted : (pool.configMap space).admission = .ok (pool.mapLabel space) := rfl
    rw [admitted] at refused
    cases refused
  have fetched {metrics : Metrics}
      (ran : (surroundings.inMemory.run (pool.fetching space) metrics).run store =
        ((.error error, metrics'), after)) : error.isPermanent = false := by
    rw [← pool.apply_configMap_run space] at ran
    obtain ⟨between, applied⟩ := run_apply surroundings (pool.configMap space) metrics store
    rw [applied] at ran
    have failed : (store.verdict (pool.configMap space)).result = .error error :=
      congrArg (fun ran => ran.1.1) ran
    exact Bool.eq_false_iff.mpr fun permanent =>
      notHopeless (permanent_iff_hopeless.mp ⟨error, failed, permanent⟩)
  rw [pool.ensurePool_run space, surroundings.run_get] at ran
  cases readable : poolsIn (store.find? (pool.configMap space).key) with
  | ok pools =>
      rw [pool.looking_of_readable space readable] at ran
      split at ran
      next => cases ran
      next => exact fetched ran
  | error source =>
      cases live : store.find? (pool.configMap space).key with
      | none =>
          rw [live] at readable
          cases readable
      | some current =>
          rw [live] at readable ran
          have unreadable : livePools current = .error source := readable
          simp only [AddressPool.looking, hasPool, unreadable] at ran
          cases ran
          exact curable_livePools current source unreadable

/-! ## What is next -/

section

variable (config : Config) (owner : OwnerReference)

/-- The result of rendering the manifests and applying their objects in a store. -/
def installed (system : FileSystem) (metrics : Metrics) (store : MemoryStore) :
    Except ReconcileError InstallSummary :=
  ((surroundings.inMemory.run (install config system owner).run metrics).run store).1.1

/-- What is next after an error. -/
def nextAction (controller : String) (metrics : Metrics) (store : MemoryStore)
    (error : ReconcileError) :
    Action :=
  ((surroundings.inMemory.run (afterError config controller error) metrics).run store).1.1

theorem nextAction_of_permanent {controller : String} {metrics : Metrics} {store : MemoryStore}
    {error : ReconcileError} (permanent : error.isPermanent = true) :
    nextAction surroundings config controller metrics store error = .awaitChange :=
  if_pos permanent

theorem nextAction_of_transient {controller : String} {metrics : Metrics} {store : MemoryStore}
    {error : ReconcileError} (transient : error.isPermanent = false) :
    nextAction surroundings config controller metrics store error =
      .requeue config.errorRequeueSeconds :=
  if_neg (Bool.eq_false_iff.mp transient)

section

variable {system : FileSystem} {metrics : Metrics} {store : MemoryStore}

theorem installed_of_unrendered {error : RenderError}
    (unrendered : Manifest.render config.templateValues system config.manifestPath = .error error) :
    installed surroundings config owner system metrics store = .error (.render error) := by
  rw [installed, install, unrendered]
  rfl

theorem installed_of_rendered {objects : List Object}
    (rendered : Manifest.render config.templateValues system config.manifestPath = .ok objects) :
    installed surroundings config owner system metrics store =
      (installAll surroundings owner metrics store objects).1.mapError .apply := by
  rw [installed, install, rendered]
  obtain ⟨between, ran⟩ := run_installAll surroundings owner metrics store objects
  have adapted := surroundings.run_andThen ran fun result =>
    (pure (result.mapError .apply) : Operation (Except ReconcileError InstallSummary))
  exact congrArg (fun ran => ran.1.1) adapted

end

/-- A resource is only left alone until it changes if trying again is of no use.
Whatever a store holds, a call fails with a permanent error exactly if the object can
never be applied, and then it fails with this error for every other store.  An
installation that is not tried again fails for every other store as well.  Everything
else, and any failure to configure a pool, is tried again after the configured
time. -/
theorem retry_policy (controller : String) :
    (∀ (metrics : Metrics) (store : MemoryStore) (desired : Object),
        (∃ error : ApplyError, (applyOne surroundings metrics store desired).1 = .error error
          ∧ error.isPermanent = true) ↔ desired.Hopeless)
      ∧ (∀ (metrics metrics' : Metrics) (store store' : MemoryStore) (desired : Object)
          (error : ApplyError),
        (applyOne surroundings metrics store desired).1 = .error error → error.isPermanent = true →
        (applyOne surroundings metrics' store' desired).1 = .error error)
      ∧ (∀ (metrics : Metrics) (store : MemoryStore) (objects : List Object) (error : ApplyError),
        (installAll surroundings owner metrics store objects).1 = .error error →
        let next := nextAction surroundings config controller metrics store (.apply error)
        next = .requeue config.errorRequeueSeconds
          ∨ next = .awaitChange ∧ ∀ (metrics' : Metrics) (store' : MemoryStore),
            ∃ error' : ApplyError,
              (installAll surroundings owner metrics' store' objects).1 = .error error')
      ∧ (∀ (system : FileSystem) (metrics : Metrics) (store : MemoryStore) (error : ReconcileError),
        installed surroundings config owner system metrics store = .error error →
        let next := nextAction surroundings config controller metrics store error
        next = .requeue config.errorRequeueSeconds
          ∨ next = .awaitChange ∧ ∀ (metrics' : Metrics) (store' : MemoryStore),
            ∃ error' : ReconcileError,
              installed surroundings config owner system metrics' store' = .error error')
      ∧ ∀ (pool : AddressPool) (space : String) (metrics : Metrics) (store : MemoryStore)
          (error : ApplyError),
        ((surroundings.inMemory.run (ensurePool pool space).run metrics).run store).1.1 =
          .error error →
        nextAction surroundings config controller metrics store (.apply error) =
          .requeue config.errorRequeueSeconds := by
  simp only [applyOne_eq]
  refine ⟨fun _ _ _ => permanent_iff_hopeless, ?_, ?_, ?_, ?_⟩
  · intro metrics metrics' store store' desired error failed permanent
    exact result_of_refused (refused_of_permanent failed permanent)
  · intro metrics store objects error failed
    cases permanent : error.isPermanent with
    | false => exact .inl (nextAction_of_transient surroundings config permanent)
    | true =>
        exact .inr ⟨nextAction_of_permanent surroundings config permanent,
          installAll_fails surroundings owner failed permanent⟩
  · intro system metrics store error failed
    cases rendered : Manifest.render config.templateValues system config.manifestPath with
    | error source =>
        rw [installed_of_unrendered surroundings config owner rendered] at failed
        cases failed
        exact .inl (nextAction_of_transient surroundings config rfl)
    | ok objects =>
        rw [installed_of_rendered surroundings config owner rendered] at failed
        obtain ⟨source, stopped, rfl⟩ := Except.mapError_eq_error_iff.mp failed
        cases permanent : source.isPermanent with
        | false => exact .inl (nextAction_of_transient surroundings config permanent)
        | true =>
            refine .inr ⟨nextAction_of_permanent surroundings config permanent,
              fun metrics' store' => ?_⟩
            obtain ⟨source', again⟩ :=
              installAll_fails surroundings owner stopped permanent metrics' store'
            rw [installed_of_rendered surroundings config owner rendered, again]
            exact ⟨_, rfl⟩
  · intro pool space metrics store error failed
    exact nextAction_of_transient surroundings config
      (ensurePool_not_permanent surroundings (Prod.ext (Prod.ext failed rfl) rfl))

end

end MemoryStore

end PoolOperator
