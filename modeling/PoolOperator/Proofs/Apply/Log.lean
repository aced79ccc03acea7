import PoolOperator.Proofs.Apply.Conduct
import PoolOperator.Proofs.Dialogue

/-!
# Logs

The log of an operation is what it asks of its surroundings, with the answers
(`Surroundings.logged`).  The calls in it are a transcript (`transcript_of_runs`), so that
what is known about transcripts is known about logs.

An object is applied with calls to the store only, and some counts (`asks_apply`).  The
answers to the calls decide how (`Course.eq_of_append`).
-/

namespace PoolOperator

/-- A demand with its answer. -/
abbrev AnsweredDemand := Sigma Demand.Answer

namespace Surroundings

/-- The result of an operation, what it asked, and the metrics after it. -/
def logged {m : Type → Type} [Monad m] {α : Type} (surroundings : Surroundings m)
    (operation : Operation α) (metrics : Metrics) : m ((α × List AnsweredDemand) × Metrics) :=
  ((operation.run (Dialogue.recording surroundings.answer)).run []).run metrics

theorem exists_logged {σ α : Type} (surroundings : Surroundings (StateM σ))
    (operation : Operation α) (metrics : Metrics) (state : σ) :
    ∃ (log : List AnsweredDemand) (result : α) (metrics' : Metrics) (after : σ),
      operation.Runs log result
      ∧ (surroundings.run operation metrics).run state = ((result, metrics'), after)
      ∧ (surroundings.logged operation metrics).run state = (((result, log), metrics'), after) :=
  Dialogue.exists_runs surroundings.answer operation [] metrics state

end Surroundings

/-! ## Calls -/

/-- The call that was answered, if it was one. -/
def AnsweredCall.of? : AnsweredDemand → Option AnsweredCall
  | ⟨.store call, answer⟩ => some (.of call answer)
  | _ => none

/-- A call as a demand. -/
def AnsweredCall.demand : AnsweredCall → AnsweredDemand
  | .get object answer => ⟨.store (.get object), answer⟩
  | .create object answer => ⟨.store (.create object), answer⟩
  | .replace object answer => ⟨.store (.replace object), answer⟩

/-- The calls in a log. -/
def callsOf (log : List AnsweredDemand) : List AnsweredCall := log.filterMap AnsweredCall.of?

theorem callsOf_append (log others : List AnsweredDemand) :
    callsOf (log ++ others) = callsOf log ++ callsOf others :=
  List.filterMap_append

theorem callsOf_cons_of_ne {demand : Demand} (noCall : ∀ call : StoreCall, demand ≠ .store call)
    (answer : demand.Answer) (log : List AnsweredDemand) :
    callsOf (⟨demand, answer⟩ :: log) = callsOf log := by
  cases demand with
  | store call => exact absurd rfl (noCall call)
  | _ => rfl

theorem transcript_of_runs {α : Type} {operation : Operation α} {log : List AnsweredDemand}
    {result : α} (runs : operation.Runs log result) :
    Transcript operation (callsOf log) result := by
  induction runs with
  | done result => exact .done result
  | @ask demand next log result answer rest induction =>
      by_cases isCall : ∃ call : StoreCall, demand = .store call
      · obtain ⟨call, rfl⟩ := isCall
        exact .call answer induction
      · have noCall : ∀ call : StoreCall, demand ≠ .store call := fun call same =>
          isCall ⟨call, same⟩
        rw [callsOf_cons_of_ne noCall]
        exact .other noCall answer induction

/-- Is a demand a change of the cluster or a question about it? -/
def Demand.reaches : Demand → Bool
  | .store _ => true
  | .patchStatus _ _ _ => true
  | _ => false

/-- What is asked of the cluster in a log. -/
def reaching (log : List AnsweredDemand) : List AnsweredDemand :=
  log.filter fun answered => answered.1.reaches

theorem reaching_append (log others : List AnsweredDemand) :
    reaching (log ++ others) = reaching log ++ reaching others :=
  List.filter_append log others

/-- Is a demand no change of a status? -/
def Demand.IsNoPatch (demand : Demand) : Prop :=
  ∀ (space name : String) (patch : Value), demand ≠ .patchStatus space name patch

theorem reaching_eq {log : List AnsweredDemand} (noPatch : ∀ answered ∈ log, answered.1.IsNoPatch) :
    reaching log = (callsOf log).map AnsweredCall.demand := by
  induction log with
  | nil => rfl
  | cons answered log induction =>
      obtain ⟨first, others⟩ := List.forall_mem_cons.mp noPatch
      obtain ⟨demand, answer⟩ := answered
      cases demand with
      | store call => cases call <;> exact congrArg (_ :: ·) (induction others)
      | patchStatus space name patch => exact absurd rfl (first space name patch)
      | _ => exact induction others

/-! ## Applying an object -/

/-- Is a demand a call to the store, or something to be counted? -/
def Demand.IsCallOrCount : Demand → Prop
  | .store _ => True
  | .count _ _ => True
  | _ => False

theorem Demand.IsCallOrCount.isNoPatch {demand : Demand} (either : demand.IsCallOrCount) :
    demand.IsNoPatch := by
  rintro space name patch rfl
  exact either

section

variable (label : String) (desired current : Object)

theorem asks_failing (source : MergeError) :
    (Object.failing label source).Asks Demand.IsCallOrCount :=
  ⟨trivial, fun _ => trivial⟩

theorem asks_finishing (outcome : Outcome) (answer : Except ApplyError Object) :
    (Object.finishing outcome answer).Asks Demand.IsCallOrCount := by
  cases answer with
  | error error => trivial
  | ok stored => exact ⟨trivial, fun _ => trivial⟩

theorem asks_comparing (merged : Except MergeError Object) :
    (Object.comparing label current merged).Asks Demand.IsCallOrCount := by
  cases merged with
  | error source => exact asks_failing label source
  | ok merged =>
      rw [Object.comparing]
      cases current.same merged with
      | error reason => trivial
      | ok equal =>
          cases equal with
          | true => exact ⟨trivial, fun _ => trivial⟩
          | false => exact ⟨trivial, asks_finishing .updated⟩

theorem asks_fetching : (desired.fetching label).Asks Demand.IsCallOrCount := by
  refine ⟨trivial, fun fetched => ?_⟩
  rcases fetched with error | (_ | current)
  · trivial
  · exact ⟨trivial, asks_finishing .created⟩
  · exact asks_comparing label current (merge current desired)

theorem asks_apply : (apply desired).run.Asks Demand.IsCallOrCount := by
  rw [apply_run]
  cases desired.label with
  | error error => trivial
  | ok label =>
      rw [Object.applying]
      cases checkSupported desired with
      | error source => exact asks_failing label source
      | ok _ => exact asks_fetching label desired

end

/-- Two courses of one object are the same as far as the answers are. -/
theorem Course.eq_of_append {desired : Object} {calls calls' others others' : List AnsweredCall}
    {result result' : Except ApplyError Outcome} (course : Course desired calls result)
    (course' : Course desired calls' result') (same : calls ++ others = calls' ++ others') :
    calls = calls' ∧ result = result' := by
  -- Different courses differ in what the object itself decides, or in the first different answer.
  cases course <;> cases course' <;>
    simp_all [Object.not_applicable_of_label, Object.not_applicable_of_check]

end PoolOperator
