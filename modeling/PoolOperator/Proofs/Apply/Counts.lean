import PoolOperator.Proofs.Apply.Log
import PoolOperator.Proofs.Merge.Merged
import PoolOperator.Proofs.Store.Memory

/-!
# What is counted

Whatever an operation does, the counters rise by what was counted in its log
(`exists_counted`).  An object that is applied is counted under its outcome, or under the
category of the merge error, once the result is certain, and under nothing else
(`countsOf_apply`).  This needs a store that does not answer with merge errors of its own:
a store does not merge.

`apply_accounts` says so of one object and of any number of them in a row.
-/

namespace PoolOperator

/-! ## Counters and logs -/

/-- The counter that a demand raises, with the label. -/
def Demand.count? : Demand → Option (Counter × String)
  | .count counter label => some (counter, label)
  | _ => none

/-- What was counted in a log. -/
def countsOf (log : List AnsweredDemand) : List (Counter × String) :=
  log.filterMap fun answered => answered.1.count?

theorem countsOf_append (log others : List AnsweredDemand) :
    countsOf (log ++ others) = countsOf log ++ countsOf others :=
  List.filterMap_append

/-- Nothing is counted by a call. -/
theorem countsOf_call (call : StoreCall) (answer : (Demand.store call).Answer)
    (log : List AnsweredDemand) :
    countsOf (⟨.store call, answer⟩ :: log) = countsOf log := rfl

/-- The counters rise by what was counted. -/
def Metrics.RisesBy (before : Metrics) (raised : List (Counter × String))
    (after : Metrics) : Prop :=
  ∀ (counter : Counter) (label : String),
    after.count counter label = before.count counter label + raised.count (counter, label)

namespace Metrics

theorem risesBy_nil (metrics : Metrics) : metrics.RisesBy [] metrics := fun _ _ => rfl

theorem RisesBy.append {before between after : Metrics} {raised raised' : List (Counter × String)}
    (first : before.RisesBy raised between) (others : between.RisesBy raised' after) :
    before.RisesBy (raised ++ raised') after := by
  intro counter label
  rw [others, first, List.count_append, Nat.add_assoc]

theorem risesBy_increment (metrics : Metrics) (counter : Counter) (label : String) :
    metrics.RisesBy [(counter, label)] (metrics.increment counter label) := by
  intro other label'
  rw [List.count_singleton]
  by_cases sameCounter : other = counter
  · subst sameCounter
    by_cases sameLabel : label' = label
    · subst sameLabel
      rw [count_increment_self]
      simp
    · rw [count, increment, counts_setCounts_self, Fields.find?_put_ne _ _ sameLabel]
      simp [count, Ne.symm sameLabel]
  · rw [count, increment, counts_setCounts_ne _ _ sameCounter]
    simp [count, Ne.symm sameCounter]

end Metrics

/-- Every answer raises what its demand counts. -/
theorem Surroundings.risesBy_answer {σ : Type} (surroundings : Surroundings (StateM σ))
    (demand : Demand) (metrics : Metrics) (state : σ) :
    metrics.RisesBy (countsOf [⟨demand, (surroundings.answered demand metrics state).1.1⟩])
      (surroundings.answered demand metrics state).1.2 := by
  cases demand with
  | count counter label => exact metrics.risesBy_increment counter label
  | _ => exact fun _ _ => rfl

/-! ## Stores that do not merge -/

/-- Is an error no merge error? -/
def ApplyError.Unmerged (error : ApplyError) : Prop :=
  ∀ (label : String) (source : MergeError), error ≠ .merge label source

/-- Did a call not fail with a merge error? -/
def AnsweredCall.Unmerged (call : AnsweredCall) : Prop :=
  ∀ error : ApplyError, call.error? = some error → error.Unmerged

/-- Does no call to the store fail with a merge error? -/
def Surroundings.Unmerging {σ : Type} (surroundings : Surroundings (StateM σ)) : Prop :=
  ∀ (call : StoreCall) (state : σ),
    (AnsweredCall.of call ((surroundings.store call).run state).1).Unmerged

/-- Every operation has a log, and the counters rise by what was counted in it. -/
theorem Surroundings.exists_counted {σ α : Type} {surroundings : Surroundings (StateM σ)}
    (unmerging : surroundings.Unmerging) (operation : Operation α) (metrics : Metrics) (state : σ) :
    ∃ (log : List AnsweredDemand) (result : α) (metrics' : Metrics) (after : σ),
      operation.Runs log result
      ∧ (surroundings.run operation metrics).run state = ((result, metrics'), after)
      ∧ (surroundings.logged operation metrics).run state = (((result, log), metrics'), after)
      ∧ (∀ call ∈ callsOf log, call.Unmerged) ∧ metrics.RisesBy (countsOf log) metrics' := by
  refine Dialogue.exists_runs_of_invariant surroundings.answer
    (fun log metrics' _ =>
      (∀ call ∈ callsOf log, call.Unmerged) ∧ metrics.RisesBy (countsOf log) metrics')
    ?_ operation [] metrics state ⟨by simp [callsOf], metrics.risesBy_nil⟩
  rintro demand log between state ⟨unmerged, rises⟩
  rw [callsOf_append, countsOf_append]
  refine ⟨List.forall_mem_append.mpr ⟨unmerged, ?_⟩,
    rises.append (surroundings.risesBy_answer demand between state)⟩
  cases demand with
  | store call => exact List.forall_mem_singleton.mpr (unmerging call state)
  | _ => exact fun call member => absurd member List.not_mem_nil

/-! ## Applying an object -/

/-- What is counted for a result. -/
def due : Except ApplyError Outcome → List (Counter × String)
  | .ok outcome => [(.objectsApplied, outcome.name)]
  | .error (.merge _ source) => [(.mergeErrors, source.category.name)]
  | .error _ => []

theorem length_due_le (result : Except ApplyError Outcome) : (due result).length ≤ 1 := by
  rcases result with error | outcome
  · cases error <;> simp [due]
  · exact Nat.le_refl 1

/-- Nothing is counted for an error that is no merge error. -/
theorem due_of_unmerged {error : ApplyError} (unmerged : error.Unmerged) :
    due (.error error) = [] := by
  cases error with
  | merge label source => exact absurd rfl (unmerged label source)
  | _ => rfl

section

variable {log : List AnsweredDemand} {result : Except ApplyError Outcome}

theorem countsOf_failing {label : String} {source : MergeError}
    (runs : (Object.failing label source).Runs log result) : countsOf log = due result := by
  obtain ⟨answer, others, rfl, rest⟩ := runs.of_ask
  obtain ⟨rfl, rfl⟩ := rest.of_done
  rfl

theorem countsOf_finishing {outcome : Outcome} {answer : Except ApplyError Object}
    (unmerged : ∀ error : ApplyError, answer = .error error → error.Unmerged)
    (runs : (Object.finishing outcome answer).Runs log result) : countsOf log = due result := by
  cases answer with
  | error error =>
      obtain ⟨rfl, rfl⟩ := runs.of_done
      exact (due_of_unmerged (unmerged error rfl)).symm
  | ok stored =>
      obtain ⟨answer, others, rfl, rest⟩ := runs.of_ask
      obtain ⟨rfl, rfl⟩ := rest.of_done
      rfl

variable (unmerged : ∀ call ∈ callsOf log, call.Unmerged)

include unmerged

theorem countsOf_comparing {label : String} {current : Object} {merged : Except MergeError Object}
    (runs : (Object.comparing label current merged).Runs log result) :
    countsOf log = due result := by
  cases merged with
  | error source => exact countsOf_failing runs
  | ok merged =>
      rw [Object.comparing] at runs
      cases compared : current.same merged with
      | error reason =>
          -- The comparison ends the call before anything is counted.
          rw [compared] at runs
          obtain ⟨rfl, rfl⟩ := runs.of_done
          rfl
      | ok equal =>
          rw [compared] at runs
          cases equal with
          | true =>
              obtain ⟨answer, others, rfl, rest⟩ := runs.of_ask
              obtain ⟨rfl, rfl⟩ := rest.of_done
              rfl
          | false =>
              obtain ⟨answer, others, rfl, rest⟩ := runs.of_ask
              rw [countsOf_call]
              refine countsOf_finishing (fun error failed => ?_) rest
              exact unmerged (.replace merged answer) List.mem_cons_self error (by rw [failed]; rfl)

theorem countsOf_fetching {label : String} {desired : Object}
    (runs : (desired.fetching label).Runs log result) : countsOf log = due result := by
  obtain ⟨fetched, others, rfl, rest⟩ := runs.of_ask
  obtain ⟨first, later⟩ := List.forall_mem_cons.mp unmerged
  rw [countsOf_call]
  rcases fetched with error | (_ | current)
  · obtain ⟨rfl, rfl⟩ := rest.of_done
    exact (due_of_unmerged (first error rfl)).symm
  · obtain ⟨answer, others, rfl, written⟩ := rest.of_ask
    rw [countsOf_call]
    refine countsOf_finishing (fun error failed => ?_) written
    exact later (.create desired answer) List.mem_cons_self error (by rw [failed]; rfl)
  · exact countsOf_comparing later rest

/-- The result of applying an object, and nothing else, is what is counted. -/
theorem countsOf_apply {desired : Object} (runs : (apply desired).run.Runs log result) :
    countsOf log = due result := by
  rw [apply_run] at runs
  cases labelled : desired.label with
  | error error =>
      rw [labelled] at runs
      obtain ⟨rfl, rfl⟩ := runs.of_done
      rcases Object.label_eq_error_iff.mp labelled with ⟨-, rfl⟩ | ⟨-, -, rfl⟩ <;> rfl
  | ok label =>
      rw [labelled, Object.applying] at runs
      cases checked : checkSupported desired with
      | error source =>
          rw [checked] at runs
          exact countsOf_failing runs
      | ok _ =>
          rw [checked] at runs
          exact countsOf_fetching unmerged runs

end

/-! ## Applying objects in a row -/

/-- Objects that are applied one after another, whatever becomes of the ones before. -/
def applyInTurn (objects : List Object) : Operation (List (Except ApplyError Outcome)) :=
  objects.mapM fun object => (apply object).run

theorem countsOf_applyInTurn {objects : List Object} {log : List AnsweredDemand}
    {results : List (Except ApplyError Outcome)} (unmerged : ∀ call ∈ callsOf log, call.Unmerged)
    (runs : (applyInTurn objects).Runs log results) :
    results.length = objects.length ∧ countsOf log = results.flatMap due := by
  induction objects generalizing log results with
  | nil =>
      obtain ⟨rfl, rfl⟩ := runs.of_done
      exact ⟨rfl, rfl⟩
  | cons object objects induction =>
      rw [applyInTurn, List.mapM_cons] at runs
      obtain ⟨first, others, result, rfl, applied, rest⟩ := runs.of_bind
      obtain ⟨second, last, results', rfl, appliedOthers, finished⟩ := rest.of_bind
      obtain ⟨rfl, rfl⟩ := finished.of_done
      rw [callsOf_append, callsOf_append, List.forall_mem_append,
        List.forall_mem_append] at unmerged
      obtain ⟨length, counted⟩ := induction unmerged.2.1 appliedOthers
      refine ⟨congrArg Nat.succ length, ?_⟩
      rw [countsOf_append, countsOf_append, countsOf_apply unmerged.1 applied, counted,
        List.flatMap_cons]
      exact congrArg (due result ++ ·) (List.append_nil _)

/-! ## Results and counters -/

/-- Is a result a certain outcome? -/
def isOutcome (outcome : Outcome) : Except ApplyError Outcome → Bool
  | .ok other => other = outcome
  | .error _ => false

/-- Is a result a merge error of a certain category? -/
def isMergeError (category : MergeErrorCategory) : Except ApplyError Outcome → Bool
  | .error (.merge _ source) => source.category = category
  | _ => false

theorem Outcome.name_injective : Function.Injective Outcome.name := by
  intro one other same
  cases one <;> cases other <;> first | rfl | exact absurd same (by decide)

theorem MergeErrorCategory.name_injective : Function.Injective MergeErrorCategory.name := by
  intro one other same
  cases one <;> cases other <;> first | rfl | exact absurd same (by decide)

theorem mem_due_outcome {outcome : Outcome} {result : Except ApplyError Outcome} :
    (.objectsApplied, outcome.name) ∈ due result ↔ isOutcome outcome result = true := by
  rcases result with error | other
  · cases error <;> simp [due, isOutcome]
  · simp [due, isOutcome, Outcome.name_injective.eq_iff, eq_comm]

theorem mem_due_category {category : MergeErrorCategory} {result : Except ApplyError Outcome} :
    (.mergeErrors, category.name) ∈ due result ↔ isMergeError category result = true := by
  rcases result with error | other
  · cases error <;> simp [due, isMergeError, MergeErrorCategory.name_injective.eq_iff, eq_comm]
  · simp [due, isMergeError]

theorem exists_of_mem_due {sample : Counter × String} {result : Except ApplyError Outcome}
    (counted : sample ∈ due result) :
    (∃ outcome : Outcome, sample = (.objectsApplied, outcome.name))
      ∨ ∃ category : MergeErrorCategory, sample = (.mergeErrors, category.name) := by
  rcases result with error | other
  · cases error with
    | merge label source => exact .inr ⟨source.category, List.mem_singleton.mp counted⟩
    | _ => exact absurd counted List.not_mem_nil
  · exact .inl ⟨other, List.mem_singleton.mp counted⟩

theorem nodup_due (result : Except ApplyError Outcome) : (due result).Nodup :=
  List.nodup_iff_injective_get.mpr fun i j _ => Fin.ext (by have := length_due_le result; omega)

/-- As often as a sample is due, it is counted. -/
theorem count_flatMap_due (sample : Counter × String) (results : List (Except ApplyError Outcome)) :
    (results.flatMap due).count sample = results.countP (sample ∈ due ·) := by
  induction results with
  | nil => rfl
  | cons result results induction =>
      rw [List.flatMap_cons, List.count_append, induction, List.countP_cons,
        (nodup_due result).count, Nat.add_comm]
      simp only [decide_eq_true_eq]

/-- The counters tell how often each outcome and each category of merge errors was among
some results. -/
structure Metrics.Accounts (before after : Metrics)
    (results : List (Except ApplyError Outcome)) : Prop where
  /-- Each outcome is counted as often as it is a result. -/
  applied : ∀ outcome : Outcome, after.count .objectsApplied outcome.name =
    before.count .objectsApplied outcome.name + results.countP (isOutcome outcome)
  /-- Each category is counted as often as a merge error of it is a result. -/
  mergeErrors : ∀ category : MergeErrorCategory, after.count .mergeErrors category.name =
    before.count .mergeErrors category.name + results.countP (isMergeError category)
  /-- Nothing else is counted. -/
  others : ∀ (counter : Counter) (label : String),
    (∀ outcome : Outcome, (counter, label) ≠ (.objectsApplied, outcome.name)) →
    (∀ category : MergeErrorCategory, (counter, label) ≠ (.mergeErrors, category.name)) →
    after.count counter label = before.count counter label

theorem Metrics.RisesBy.accounts {before after : Metrics}
    {results : List (Except ApplyError Outcome)}
    (rises : before.RisesBy (results.flatMap due) after) : before.Accounts after results where
  applied outcome := by
    rw [rises, count_flatMap_due]
    congr 2
    funext result
    rw [Bool.eq_iff_iff, decide_eq_true_eq, mem_due_outcome]
  mergeErrors category := by
    rw [rises, count_flatMap_due]
    congr 2
    funext result
    rw [Bool.eq_iff_iff, decide_eq_true_eq, mem_due_category]
  others counter label noOutcome noCategory := by
    have none : (counter, label) ∉ results.flatMap due := by
      intro member
      obtain ⟨result, -, counted⟩ := List.mem_flatMap.mp member
      rcases exists_of_mem_due counted with ⟨outcome, same⟩ | ⟨category, same⟩
      · exact noOutcome outcome same
      · exact noCategory category same
    rw [rises, List.count_eq_zero_of_not_mem none, Nat.add_zero]

/-! ## Whatever the store answers -/

/-- What applying an object does to the counters, where `log` tells what was asked and
answered. -/
structure Counted (desired : Object) (log : List AnsweredDemand)
    (result : Except ApplyError Outcome) (before after : Metrics) : Prop where
  /-- The counters tell the result. -/
  accounts : before.Accounts after [result]
  /-- At most one counter rises, and it rises by one. -/
  once : ∃ raised : List (Counter × String), raised.length ≤ 1 ∧ before.RisesBy raised after
  /-- None rises for an object without a name or without a kind. -/
  unlabelled : desired.name? = none ∨ desired.groupKind.kind = "" → before.RisesBy [] after
  /-- None rises after a call that failed. -/
  unanswered : ∀ call ∈ callsOf log, call.error? ≠ none → before.RisesBy [] after
  /-- None rises if the merged object cannot be compared with the live one. -/
  incomparable : ∀ (current merged : Object) (reason : String),
    .get desired (.ok (some current)) ∈ callsOf log → merge current desired = .ok merged →
    current.same merged = .error reason → before.RisesBy [] after
  /-- None rises for an error that is no merge error. -/
  unmerged : ∀ error : ApplyError, result = .error error → error.Unmerged → before.RisesBy [] after

theorem Course.failed_of_call {desired : Object} {calls : List AnsweredCall}
    {result : Except ApplyError Outcome} (course : Course desired calls result)
    {call : AnsweredCall} (made : call ∈ calls) {error : ApplyError}
    (failed : call.error? = some error) : result = .error error := by
  cases course with
  | nameless labelled => exact absurd made List.not_mem_nil
  | unsupported labelled checked => exact absurd made List.not_mem_nil
  | notFetched applicable =>
      obtain rfl := List.mem_singleton.mp made
      cases failed
      rfl
  | @absent answer applicable =>
      rcases List.mem_pair.mp made with rfl | rfl
      · cases failed
      · cases answer <;> cases failed
        rfl
  | @changed current merged answer applicable done different =>
      rcases List.mem_pair.mp made with rfl | rfl
      · cases failed
      · cases answer <;> cases failed
        rfl
  | _ =>
      obtain rfl := List.mem_singleton.mp made
      cases failed

theorem counted_of_runs {desired : Object} {log : List AnsweredDemand}
    {result : Except ApplyError Outcome} {before after : Metrics}
    (runs : (apply desired).run.Runs log result) (unmerged : ∀ call ∈ callsOf log, call.Unmerged)
    (rises : before.RisesBy (countsOf log) after) :
    Counted desired log result before after := by
  have course : Course desired (callsOf log) result :=
    course_of_transcript (transcript_of_runs runs)
  rw [countsOf_apply unmerged runs] at rises
  have none_of_error : ∀ error : ApplyError, result = .error error → error.Unmerged →
      before.RisesBy [] after := by
    rintro error rfl noMerge
    rwa [due_of_unmerged noMerge] at rises
  refine ⟨?_, ⟨due result, length_due_le result, rises⟩, ?_, ?_, ?_, none_of_error⟩
  · exact Metrics.RisesBy.accounts (by rwa [List.flatMap_singleton])
  · rintro unlabelled
    cases labelled : desired.label with
    | error error =>
        refine none_of_error error (course.failed_of_label labelled) ?_
        rcases Object.label_eq_error_iff.mp labelled with ⟨-, rfl⟩ | ⟨-, -, rfl⟩ <;>
          rintro label source ⟨⟩
    | ok label =>
        obtain ⟨named, typed, -⟩ := Object.label_eq_ok_iff.mp labelled
        rcases unlabelled with nameless | typeless
        · rw [nameless] at named
          cases named
        · exact absurd typeless typed
  · intro call made failed
    obtain ⟨error, failed⟩ := Option.ne_none_iff_exists'.mp failed
    exact none_of_error error (course.failed_of_call made failed) (unmerged call made error failed)
  · intro current merged reason fetched done failed
    refine none_of_error _ (course.failed_of_step (.compare fetched done failed)) ?_
    rintro label source ⟨⟩

/-- Objects are counted as they are applied, one alone and any number of them in a row. -/
structure Surroundings.CountsResults {σ : Type}
    (surroundings : Surroundings (StateM σ)) : Prop where
  /-- One object. -/
  one : ∀ (desired : Object) (metrics : Metrics) (state : σ),
    ∃ (log : List AnsweredDemand) (result : Except ApplyError Outcome) (metrics' : Metrics)
      (after : σ),
      (surroundings.run (apply desired).run metrics).run state = ((result, metrics'), after)
        ∧ (surroundings.logged (apply desired).run metrics).run state =
        (((result, log), metrics'), after)
        ∧ Counted desired log result metrics metrics'
  /-- Any number of objects. -/
  inTurn : ∀ (objects : List Object) (metrics : Metrics) (state : σ),
    ∃ (results : List (Except ApplyError Outcome)) (metrics' : Metrics) (after : σ),
      (surroundings.run (applyInTurn objects) metrics).run state = ((results, metrics'), after)
        ∧ results.length = objects.length ∧ metrics.Accounts metrics' results

/-- Whatever the store answers, and whichever of its calls fail, the counters account for
the results. -/
theorem apply_accounts {σ : Type} {surroundings : Surroundings (StateM σ)}
    (unmerging : surroundings.Unmerging) : surroundings.CountsResults where
  one desired metrics state := by
    obtain ⟨log, result, metrics', after, runs, ran, logged, unmerged, rises⟩ :=
      surroundings.exists_counted unmerging (apply desired).run metrics state
    exact ⟨log, result, metrics', after, ran, logged, counted_of_runs runs unmerged rises⟩
  inTurn objects metrics state := by
    obtain ⟨log, results, metrics', after, runs, ran, -, unmerged, rises⟩ :=
      surroundings.exists_counted unmerging (applyInTurn objects) metrics state
    obtain ⟨length, counts⟩ := countsOf_applyInTurn unmerged runs
    rw [counts] at rises
    exact ⟨results, metrics', after, ran, length, rises.accounts⟩

/-- Surroundings with a store in memory in which nothing can be replaced. -/
def Surroundings.rigid : Surroundings (StateM MemoryStore) :=
  { Surroundings.idle with
    store := fun
      | .replace _ => pure (.error (.cluster (.unreachable "closed")))
      | call => MemoryStore.answer call }

/-- A changed Service is not counted, because it cannot be replaced, and a Namespace whose body
is a list is counted when it is created, but not when it is applied again, because it cannot be
compared. -/
theorem apply_accounts_rigid :
    let first := webService none [("type", .str "ClusterIP")]
    let changed := webService none [("type", .str "NodePort")]
    let account :=
      { Object.bare "v1" "ServiceAccount" "web" with body := .obj [("secrets", .arr [.null])] }
    let listed := { Object.bare "v1" "Namespace" "web" with body := .arr [.null] }
    Surroundings.rigid.Unmerging ∧ Surroundings.rigid.CountsResults
      ∧ ((Surroundings.rigid.run
            (applyInTurn [first, changed, first, account, listed, listed]) .empty).run .empty).1 =
        ([.ok .created, .error (.cluster (.unreachable "closed")), .ok .unchanged,
          .error (.merge "ServiceAccount web"
            (.unsupported "cannot create ServiceAccount web with secrets")),
          .ok .created,
          .error (.incomparable "can only flatten structs and maps (got a sequence)")],
          { objectsApplied := [("create", 2), ("unchanged", 1)],
            mergeErrors := [("unsupported", 1)] }) := by
  intro first changed account listed
  have unmerging : Surroundings.rigid.Unmerging := by
    intro call store error failed label source
    cases call with
    | get object => cases failed
    | create object => cases failed
    | replace object =>
        cases failed
        rintro ⟨⟩
  exact ⟨unmerging, apply_accounts unmerging, by decide⟩

end PoolOperator
