import PoolOperator.Metallb.Install
import PoolOperator.Proofs.Apply.Log

/-!
# How MetalLB is installed and reported

Objects are applied for an owner one after the other (`AppliesEach`).  An installation
applies all objects of the manifests, or stops at the first one that cannot be applied
(`Installation`).  Whatever becomes of it, the resource is reported once, and as available
if and only if everything was applied (`Reported`, `Metallb.reconcile_reported`).
-/

namespace PoolOperator

/-! ## Objects -/

/-- Objects are applied for an owner in order, each with an outcome. -/
inductive AppliesEach (owner : OwnerReference) :
    List Object → List AnsweredCall → List Outcome → Prop
  /-- There is none. -/
  | nil : AppliesEach owner [] [] []
  /-- The first one is applied before the others. -/
  | cons {object : Object} {objects : List Object} {calls later : List AnsweredCall}
      {outcome : Outcome}
      {outcomes : List Outcome} (first : Course (object.ownedBy owner) calls (.ok outcome))
      (others : AppliesEach owner objects later outcomes) :
      AppliesEach owner (object :: objects) (calls ++ later) (outcome :: outcomes)

/-- The first objects are applied for an owner, and the next one fails.  Nothing is asked
about those after it. -/
inductive StopsAt (owner : OwnerReference) : List Object → List AnsweredCall → ApplyError → Prop
  /-- One object fails. -/
  | failed {before later : List Object} {failing : Object} {calls last : List AnsweredCall}
      {outcomes : List Outcome} {error : ApplyError}
      (applied : AppliesEach owner before calls outcomes)
      (failed : Course (failing.ownedBy owner) last (.error error)) :
      StopsAt owner (before ++ failing :: later) (calls ++ last) error

section

variable {owner : OwnerReference} {object : Object} {objects : List Object}

theorem AppliesEach.of_cons {calls : List AnsweredCall} {outcomes : List Outcome}
    (applied : AppliesEach owner (object :: objects) calls outcomes) :
    ∃ (first later : List AnsweredCall) (outcome : Outcome) (others : List Outcome), calls =
      first ++ later
      ∧ Course (object.ownedBy owner) first (.ok outcome)
      ∧ AppliesEach owner objects later others := by
  cases applied with
  | cons first others => exact ⟨_, _, _, _, rfl, first, others⟩

theorem StopsAt.cons {calls later : List AnsweredCall} {outcome : Outcome} {error : ApplyError}
    (first : Course (object.ownedBy owner) calls (.ok outcome))
    (others : StopsAt owner objects later error) :
    StopsAt owner (object :: objects) (calls ++ later) error := by
  obtain ⟨applied, failed⟩ := others
  rw [← List.append_assoc, ← List.cons_append]
  exact .failed (.cons first applied) failed

/-- The answers tell whether all objects are applied. -/
theorem AppliesEach.not_stopped {before later : List Object} {failing : Object}
    {earlier last : List AnsweredCall} {outcomes : List Outcome} {error : ApplyError}
    (applied : AppliesEach owner before earlier outcomes)
    (failed : Course (failing.ownedBy owner) last (.error error)) (outcomes' : List Outcome) :
    ¬ AppliesEach owner (before ++ failing :: later) (earlier ++ last) outcomes' := by
  -- Object by object, the same calls are taken from both, up to the one that fails.
  induction applied generalizing outcomes' with
  | nil =>
      intro all
      obtain ⟨first, others, outcome, -, split, done, -⟩ := all.of_cons
      have same := failed.eq_of_append done ((List.append_nil last).trans split)
      cases same.2
  | cons course others induction =>
      intro all
      obtain ⟨first, later, outcome, more, split, done, rest⟩ := all.of_cons
      rw [List.append_assoc] at split
      obtain ⟨rfl, -⟩ := course.eq_of_append done split
      exact induction more (List.append_cancel_left split ▸ rest)

/-- Objects are applied as far as they can be. -/
theorem applied_of_runs {summary : InstallSummary} {log : List AnsweredDemand}
    {result : Except ApplyError InstallSummary}
    (runs : Dialogue.Runs (applyAll owner summary objects).run log result) :
    (∃ outcomes : List Outcome, AppliesEach owner objects (callsOf log) outcomes
        ∧ result = .ok (outcomes.foldl InstallSummary.record summary))
      ∨ ∃ error : ApplyError, StopsAt owner objects (callsOf log) error
        ∧ result = .error error := by
  induction objects generalizing summary log with
  | nil =>
      obtain ⟨rfl, rfl⟩ := Dialogue.Runs.of_done runs
      exact .inl ⟨[], .nil, rfl⟩
  | cons object rest induction =>
      obtain ⟨error, rfl, failed⟩ | ⟨first, others, outcome, rfl, applied, later⟩ :=
        Dialogue.Runs.of_bind_except runs
      · exact .inr ⟨error, .failed .nil (course_of_transcript (transcript_of_runs failed)), rfl⟩
      · have course := course_of_transcript (transcript_of_runs applied)
        rw [callsOf_append]
        obtain ⟨outcomes, all, rfl⟩ | ⟨error, stops, rfl⟩ := induction later
        · exact .inl ⟨outcome :: outcomes, .cons course all, rfl⟩
        · exact .inr ⟨error, .cons course stops, rfl⟩

theorem asks_applyAll (owner : OwnerReference) (summary : InstallSummary) (objects : List Object) :
    (applyAll owner summary objects).run.Asks Demand.IsNoPatch := by
  induction objects generalizing summary with
  | nil => trivial
  | cons object rest induction =>
      have applied := (asks_apply (object.ownedBy owner)).imp fun _ =>
        Demand.IsCallOrCount.isNoPatch
      refine applied.bind fun result => ?_
      cases result with
      | error error => trivial
      | ok outcome => exact induction (summary.record outcome)

end

/-! ## Installations -/

/-- The calls that an installation makes, and its result. -/
inductive Installation (config : Config) (system : FileSystem) (owner : OwnerReference) :
    List AnsweredCall → Except ReconcileError InstallSummary → Prop
  /-- The manifests cannot be rendered. -/
  | unrendered {error : RenderError}
      (failed : Manifest.render config.templateValues system config.manifestPath = .error error) :
      Installation config system owner [] (.error (.render error))
  /-- All objects of the manifests are applied. -/
  | done {objects : List Object} {calls : List AnsweredCall} {outcomes : List Outcome}
      (rendered : Manifest.render config.templateValues system config.manifestPath = .ok objects)
      (applied : AppliesEach owner objects calls outcomes) :
      Installation config system owner calls (.ok (outcomes.foldl InstallSummary.record .none))
  /-- An object cannot be applied. -/
  | stopped {objects : List Object} {calls : List AnsweredCall} {error : ApplyError}
      (rendered : Manifest.render config.templateValues system config.manifestPath = .ok objects)
      (stops : StopsAt owner objects calls error) :
      Installation config system owner calls (.error (.apply error))

section

variable {config : Config} {system : FileSystem} {owner : OwnerReference}

theorem installation_of_runs {log : List AnsweredDemand}
    {installed : Except ReconcileError InstallSummary}
    (runs : Dialogue.Runs (install config system owner).run log installed) :
    Installation config system owner (callsOf log) installed
      ∧ reaching log = (callsOf log).map AnsweredCall.demand := by
  rw [install] at runs
  cases rendered : Manifest.render config.templateValues system config.manifestPath with
  | error error =>
      rw [rendered] at runs
      obtain ⟨rfl, rfl⟩ := Dialogue.Runs.of_done runs
      exact ⟨.unrendered rendered, rfl⟩
  | ok objects =>
      rw [rendered] at runs
      obtain ⟨result, rfl, applying⟩ := Dialogue.Runs.of_map runs
      refine ⟨?_, reaching_eq (applying.allowed (asks_applyAll owner .none objects))⟩
      obtain ⟨outcomes, applied, rfl⟩ | ⟨error, stops, rfl⟩ := applied_of_runs applying
      · exact .done rendered applied
      · exact .stopped rendered stops

theorem Installation.done_iff {calls : List AnsweredCall}
    {installed : Except ReconcileError InstallSummary}
    (installation : Installation config system owner calls installed) :
    (∃ summary : InstallSummary, installed = .ok summary) ↔
      ∃ (objects : List Object) (outcomes : List Outcome),
        Manifest.render config.templateValues system config.manifestPath = .ok objects
          ∧ AppliesEach owner objects calls outcomes := by
  cases installation with
  | unrendered failed => simp [failed]
  | done rendered applied => exact ⟨fun _ => ⟨_, _, rendered, applied⟩, fun _ => ⟨_, rfl⟩⟩
  | stopped rendered stops =>
      refine ⟨nofun, ?_⟩
      rintro ⟨objects, outcomes, rendered', applied⟩
      rw [rendered] at rendered'
      cases rendered'
      obtain ⟨earlier, failed⟩ := stops
      exact absurd applied (earlier.not_stopped failed outcomes)

end

/-! ## Owners -/

theorem ownerReferences_merge {current desired merged : Object}
    (done : merge current desired = .ok merged) :
    merged.metadata.ownerReferences = desired.metadata.ownerReferences := by
  rw [metadata_merge done]
  rfl

/-- Are all calls about objects that have one owner only? -/
def OwnedBy (owner : OwnerReference) (calls : List AnsweredCall) : Prop :=
  ∀ call ∈ calls, call.object.metadata.ownerReferences = some [owner]

theorem ownedBy_nil (owner : OwnerReference) : OwnedBy owner [] :=
  fun _ member => absurd member List.not_mem_nil

section

variable {owner : OwnerReference}

theorem Course.ownedBy {object : Object} {calls : List AnsweredCall}
    {result : Except ApplyError Outcome} (course : Course (object.ownedBy owner) calls result) :
    OwnedBy owner calls := by
  cases course with
  | nameless labelled => exact ownedBy_nil owner
  | unsupported labelled checked => exact ownedBy_nil owner
  | absent applicable => exact List.forall_mem_cons.mpr ⟨rfl, List.forall_mem_singleton.mpr rfl⟩
  | changed applicable done different =>
      exact List.forall_mem_cons.mpr
        ⟨rfl, List.forall_mem_singleton.mpr (ownerReferences_merge done)⟩
  | _ => exact List.forall_mem_singleton.mpr rfl

theorem AppliesEach.ownedBy {objects : List Object} {calls : List AnsweredCall}
    {outcomes : List Outcome} (applied : AppliesEach owner objects calls outcomes) :
    OwnedBy owner calls := by
  induction applied with
  | nil => exact ownedBy_nil owner
  | cons first others induction => exact List.forall_mem_append.mpr ⟨first.ownedBy, induction⟩

theorem Installation.ownedBy {config : Config} {system : FileSystem} {calls : List AnsweredCall}
    {installed : Except ReconcileError InstallSummary}
    (installation : Installation config system owner calls installed) : OwnedBy owner calls := by
  cases installation with
  | unrendered failed => exact ownedBy_nil owner
  | done rendered applied => exact applied.ownedBy
  | stopped rendered stops =>
      obtain ⟨applied, failed⟩ := stops
      exact List.forall_mem_append.mpr ⟨applied.ownedBy, failed.ownedBy⟩

end

/-! ## Reports -/

/-- How an installation is reported: the calls that it makes and its result, the condition in
the report, the answer to that, and the result of the reconciliation. -/
structure Reported (config : Config) (system : FileSystem) (owner : OwnerReference)
    (calls : List AnsweredCall) (installed : Except ReconcileError InstallSummary)
    (condition : Condition) (answer : Except ClusterError Unit)
    (result : Except ReconcileError Action) : Prop where
  /-- The objects of the manifests are applied, or those before the first one that fails. -/
  installation : Installation config system owner calls installed
  /-- Every call is about an object with this owner and no other. -/
  owned : OwnedBy owner calls
  /-- An object merged with a live one has this owner, too, even if there is nothing to change. -/
  merged : ∀ object current merged : Object, .get object (.ok (some current)) ∈ calls →
    merge current object = .ok merged → merged.metadata.ownerReferences = some [owner]
  /-- The condition tells what became of the installation. -/
  observed : ∃ now : String, condition = Metallb.observation installed now
  /-- It tells whether MetalLB is available. -/
  available : condition.type = "Available"
    ∧ (condition.status = "True" ∨ condition.status = "False")
  /-- It does so if and only if everything was rendered and applied. -/
  truthful : condition.status = "True" ↔ ∃ (objects : List Object) (outcomes : List Outcome),
    Manifest.render config.templateValues system config.manifestPath = .ok objects
      ∧ AppliesEach owner objects calls outcomes
  /-- The reconciliation succeeds if the installation and the report do. -/
  requeued : ∀ action : Action, result = .ok action ↔
    action = .requeue config.reconcileIntervalSeconds
      ∧ (∃ summary : InstallSummary, installed = .ok summary)
      ∧ answer = .ok ()
  /-- An installation that fails decides the error, whatever becomes of the report. -/
  failed : ∀ error : ReconcileError, installed = .error error → result = .error error
  /-- Otherwise the report does. -/
  unreported : ∀ (summary : InstallSummary) (error : ClusterError), installed = .ok summary →
    answer = .error error → result = .error (.cluster error)

namespace Metallb

/-- How a resource is reconciled: what is asked, and the result. -/
structure Reconciled (config : Config) (system : FileSystem) (metallb : Metallb)
    (log : List AnsweredDemand) (result : Except ReconcileError Action) : Prop where
  /-- A resource without a name or an identity is left alone. -/
  anonymous : metallb.metadata.name = none ∨ metallb.metadata.uid = none →
    reaching log = [] ∧ result = .error (.missingOwner metallb.metadata.anyName)
  /-- Any other resource is installed, and then its status is changed once. -/
  reported : ∀ name uid : String, metallb.metadata.name = some name →
    metallb.metadata.uid = some uid →
    ∃ (calls : List AnsweredCall) (installed : Except ReconcileError InstallSummary)
      (condition : Condition) (answer : Except ClusterError Unit),
      reaching log = calls.map AnsweredCall.demand
        ++ [⟨.patchStatus (metallb.metadata.namespaceName.getD "") name
          (.obj [("status", MetallbStatus.toValue
          ⟨nextConditions metallb.status condition, metallb.metadata.generation⟩)]), answer⟩]
      ∧ Reported config system ⟨operatorApi, "Metallb", name, uid, some true, none⟩ calls
        installed condition
        answer result

variable {config : Config} {system : FileSystem} {metallb : Metallb} {log : List AnsweredDemand}
  {result : Except ReconcileError Action}

theorem timed_run (controller : String) (reconciliation : Reconciliation Action) :
    (timed controller reconciliation).run =
      .ask (.count .reconciliations controller) fun _ => reconciliation.run >>= fun result =>
        .ask (.recordDuration controller) fun _ => .done result := rfl

/-- Counting and measuring a reconciliation does not reach the cluster. -/
theorem runs_of_timed {controller : String} {reconciliation : Reconciliation Action}
    (runs : Dialogue.Runs (timed controller reconciliation).run log result) :
    ∃ middle : List AnsweredDemand, reaching log = reaching middle
      ∧ Dialogue.Runs reconciliation.run middle result := by
  rw [timed_run] at runs
  obtain ⟨counted, others, rfl, running⟩ := Dialogue.Runs.of_ask runs
  obtain ⟨middle, last, between, rfl, inner, ending⟩ := Dialogue.Runs.of_bind running
  obtain ⟨recorded, rest, rfl, ended⟩ := Dialogue.Runs.of_ask ending
  obtain ⟨rfl, rfl⟩ := Dialogue.Runs.of_done ended
  refine ⟨middle, ?_, inner⟩
  rw [← List.singleton_append, reaching_append, reaching_append]
  exact List.append_nil _

/-- What a reconciliation results in, given the results of the installation and of the
report. -/
def verdict (config : Config) : Except ReconcileError InstallSummary → Except ClusterError Unit →
    Except ReconcileError Action
  | .error error, _ => .error error
  | .ok _, .error error => .error (.cluster error)
  | .ok _, .ok () => .ok (.requeue config.reconcileIntervalSeconds)

theorem installAndReport_run {owner : OwnerReference}
    (isOwner : metallb.ownerReference? = some owner) :
    (metallb.installAndReport config system).run = (install config system owner).run >>=
    fun installed =>
      .ask .now fun now =>
        .ask (.patchStatus (metallb.metadata.namespaceName.getD "") metallb.metadata.anyName
          (metallb.statusPatch (observation installed now))) fun answer =>
            .done (verdict config installed answer) := by
  rw [installAndReport, isOwner]
  refine congrArg ((install config system owner).run >>= ·) (funext fun installed => ?_)
  refine congrArg (Dialogue.ask Demand.now) (funext fun now => ?_)
  refine congrArg (Dialogue.ask (Demand.patchStatus _ _ _)) (funext fun answer => ?_)
  cases installed with
  | error error => rfl
  | ok summary => cases answer <;> rfl

/-- A resource that can own objects is installed, and then its status is changed. -/
theorem runs_of_installAndReport {owner : OwnerReference}
    (isOwner : metallb.ownerReference? = some owner)
    (runs : Dialogue.Runs (metallb.installAndReport config system).run log result) :
    ∃ (calls : List AnsweredCall) (installed : Except ReconcileError InstallSummary) (now : String)
      (answer : Except ClusterError Unit), Installation config system owner calls installed
        ∧ reaching log = calls.map AnsweredCall.demand
          ++ [⟨.patchStatus (metallb.metadata.namespaceName.getD "") metallb.metadata.anyName
            (metallb.statusPatch (observation installed now)), answer⟩]
        ∧ result = verdict config installed answer := by
  rw [installAndReport_run isOwner] at runs
  obtain ⟨installing, others, installed, rfl, inner, reporting⟩ := Dialogue.Runs.of_bind runs
  obtain ⟨now, rest, rfl, patching⟩ := Dialogue.Runs.of_ask reporting
  obtain ⟨answer, rest, rfl, ended⟩ := Dialogue.Runs.of_ask patching
  obtain ⟨rfl, rfl⟩ := Dialogue.Runs.of_done ended
  obtain ⟨installation, calls⟩ := installation_of_runs inner
  refine ⟨callsOf installing, installed, now, answer, installation, ?_, rfl⟩
  rw [reaching_append, calls]
  rfl

theorem reported_of_installation {owner : OwnerReference} {calls : List AnsweredCall}
    {installed : Except ReconcileError InstallSummary}
    (installation : Installation config system owner calls installed) (now : String)
    (answer : Except ClusterError Unit) :
    Reported config system owner calls installed (observation installed now) answer
      (verdict config installed answer) where
  installation := installation
  owned := installation.ownedBy
  merged object current merged fetched done :=
    (ownerReferences_merge done).trans (installation.ownedBy _ fetched)
  observed := ⟨now, rfl⟩
  available := by
    cases installed with
    | error error => exact ⟨rfl, .inr rfl⟩
    | ok summary => exact ⟨rfl, .inl rfl⟩
  truthful := by
    rw [← installation.done_iff]
    cases installed with
    | error error => simp [observation, Condition.available]
    | ok summary => simp [observation, Condition.available]
  requeued action := by
    cases installed <;> cases answer <;> simp [verdict, eq_comm]
  failed := by
    rintro error rfl
    rfl
  unreported := by
    rintro summary error rfl rfl
    rfl

theorem ownerReference?_eq_none_iff :
    metallb.ownerReference? = none ↔
      metallb.metadata.name = none ∨ metallb.metadata.uid = none := by
  rw [ownerReference?]
  cases metallb.metadata.name <;> cases metallb.metadata.uid <;> simp

theorem ownerReference?_of_identity {name uid : String} (named : metallb.metadata.name = some name)
    (identified : metallb.metadata.uid = some uid) :
    metallb.ownerReference? = some ⟨operatorApi, "Metallb", name, uid, some true, none⟩ := by
  rw [ownerReference?, named, identified]
  rfl

theorem reconciled_of_runs (runs : Dialogue.Runs (metallb.reconcile config system).run log result) :
    metallb.Reconciled config system log result := by
  obtain ⟨middle, same, inner⟩ := runs_of_timed runs
  constructor
  · intro anonymous
    rw [installAndReport, ownerReference?_eq_none_iff.mpr anonymous] at inner
    obtain ⟨rfl, rfl⟩ := Dialogue.Runs.of_done inner
    exact ⟨same, rfl⟩
  · intro name uid named identified
    have isOwner := ownerReference?_of_identity named identified
    obtain ⟨calls, installed, now, answer, installation, reaches, rfl⟩ :=
      runs_of_installAndReport isOwner inner
    have sameName : metallb.metadata.anyName = name := by rw [Metadata.anyName, named]; rfl
    rw [sameName] at reaches
    exact ⟨calls, installed, observation installed now, answer, same.trans reaches,
      reported_of_installation installation now answer⟩

/-- Whatever the surroundings answer, a resource is reconciled as described. -/
theorem reconcile_reported {σ : Type} (surroundings : Surroundings (StateM σ)) (config : Config)
    (system : FileSystem) (metallb : Metallb) (metrics : Metrics) (state : σ) :
    ∃ (log : List AnsweredDemand) (result : Except ReconcileError Action) (metrics' : Metrics)
      (after : σ),
      (surroundings.run (metallb.reconcile config system).run metrics).run state =
        ((result, metrics'), after)
        ∧ (surroundings.logged (metallb.reconcile config system).run metrics).run state =
          (((result, log), metrics'), after)
        ∧ metallb.Reconciled config system log result := by
  obtain ⟨log, result, metrics', after, runs, ran, logged⟩ :=
    surroundings.exists_logged (metallb.reconcile config system).run metrics state
  exact ⟨log, result, metrics', after, ran, logged, reconciled_of_runs runs⟩

end Metallb

end PoolOperator
