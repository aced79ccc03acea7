import PoolOperator.Proofs.Apply.Course
import PoolOperator.Surroundings

/-!
# Transcripts

What is asked of a store and answered by it is a transcript.  The transcripts of
an operation are those of all stores, whatever they answer, and `recorded` writes
down the one of some surroundings (`run_recorded`).
-/

namespace PoolOperator

/-- A call to a store, and its answer. -/
inductive AnsweredCall where
  /-- The live object was asked for. -/
  | get (object : Object) (answer : Except ApplyError (Option Object))
  /-- An object was to be created. -/
  | create (object : Object) (answer : Except ApplyError Object)
  /-- An object was to be put in place of the live one. -/
  | replace (object : Object) (answer : Except ApplyError Object)

/-- A call with its answer. -/
def AnsweredCall.of : (call : StoreCall) → call.Answer → AnsweredCall
  | .get object, answer => .get object answer
  | .create object, answer => .create object answer
  | .replace object, answer => .replace object answer

/-- The object that a call is about. -/
def AnsweredCall.object : AnsweredCall → Object
  | .get object _ => object
  | .create object _ => object
  | .replace object _ => object

/-- Why a call failed, if it did. -/
def AnsweredCall.error? : AnsweredCall → Option ApplyError
  | .get _ (.error error) => some error
  | .create _ (.error error) => some error
  | .replace _ (.error error) => some error
  | _ => none

/-- The calls that an operation makes in order, each with an answer, and its
result.  Other demands are answered in any way. -/
inductive Transcript {α : Type} : Operation α → List AnsweredCall → α → Prop
  /-- The operation is over. -/
  | done (result : α) : Transcript (.done result) [] result
  /-- A call is answered. -/
  | call {call : StoreCall} {next : call.Answer → Operation α} {calls : List AnsweredCall}
      {result : α}
      (answer : call.Answer) (rest : Transcript (next answer) calls result) :
      Transcript (.ask (.store call) next) (.of call answer :: calls) result
  /-- Another demand is answered. -/
  | other {demand : Demand} {next : demand.Answer → Operation α} {calls : List AnsweredCall}
      {result : α}
      (noCall : ∀ call, demand ≠ .store call) (answer : demand.Answer)
      (rest : Transcript (next answer) calls result) : Transcript (.ask demand next) calls result

/-! ## Recording -/

namespace Surroundings

/-- Surroundings that write down every call after the ones before. -/
def recorded {m : Type → Type} [Monad m] (surroundings : Surroundings m) :
    Surroundings (StateT (List AnsweredCall) m) where
  store call := do
    let answer ← StateT.lift (surroundings.store call)
    modify fun calls => calls ++ [.of call answer]
    return answer
  patchStatus space name patch := StateT.lift (surroundings.patchStatus space name patch)
  now := StateT.lift surroundings.now
  elapsed := StateT.lift surroundings.elapsed

variable {σ α : Type} (surroundings : Surroundings (StateM σ))

/-- The answer to a demand, the metrics and the state after it. -/
def answered (demand : Demand) (metrics : Metrics) (state : σ) : (demand.Answer × Metrics) × σ :=
  ((surroundings.answer demand).run metrics).run state

theorem run_recorded_call (call : StoreCall) (next : call.Answer → Operation α) (metrics : Metrics)
    (earlier : List AnsweredCall) (state : σ) :
    ((surroundings.recorded.run (.ask (.store call) next) metrics).run earlier).run state =
      ((surroundings.recorded.run (next (surroundings.answered (.store call) metrics state).1.1)
        (surroundings.answered (.store call) metrics state).1.2).run
          (earlier ++ [.of call (surroundings.answered (.store call) metrics state).1.1])).run
            (surroundings.answered (.store call) metrics state).2 := rfl

theorem run_recorded_other {demand : Demand} (noCall : ∀ call, demand ≠ .store call)
    (next : demand.Answer → Operation α) (metrics : Metrics) (earlier : List AnsweredCall)
    (state : σ) :
    ((surroundings.recorded.run (.ask demand next) metrics).run earlier).run state =
      ((surroundings.recorded.run (next (surroundings.answered demand metrics state).1.1)
        (surroundings.answered demand metrics state).1.2).run earlier).run
          (surroundings.answered demand metrics state).2 := by
  cases demand with
  | store call => exact absurd rfl (noCall call)
  | _ => rfl

/-- Recorded surroundings give the same answers, and what they write down is a
transcript. -/
theorem run_recorded (operation : Operation α) (metrics : Metrics) (earlier : List AnsweredCall)
    (state : σ) :
    ∃ (calls : List AnsweredCall) (result : α) (metrics' : Metrics) (after : σ),
      Transcript operation calls result
        ∧ (surroundings.run operation metrics).run state = ((result, metrics'), after)
        ∧ ((surroundings.recorded.run operation metrics).run earlier).run state =
          (((result, metrics'), earlier ++ calls), after) := by
  induction operation generalizing metrics earlier state with
  | done result =>
      refine ⟨[], result, metrics, state, .done result, rfl, ?_⟩
      rw [List.append_nil]
      rfl
  | ask demand next induction =>
      -- The rest is recorded after what the first answer leaves behind.
      let first := surroundings.answered demand metrics state
      by_cases isCall : ∃ call : StoreCall, demand = .store call
      · obtain ⟨call, rfl⟩ := isCall
        obtain ⟨calls, result, metrics', after, transcript, ran, recorded⟩ :=
          induction first.1.1 first.1.2 (earlier ++ [.of call first.1.1]) first.2
        refine ⟨.of call first.1.1 :: calls, result, metrics', after,
          .call first.1.1 transcript, ran, ?_⟩
        rw [List.append_cons]
        exact (surroundings.run_recorded_call call next metrics earlier state).trans recorded
      · have noCall : ∀ call : StoreCall, demand ≠ .store call := fun call same =>
          isCall ⟨call, same⟩
        obtain ⟨calls, result, metrics', after, transcript, ran, recorded⟩ :=
          induction first.1.1 first.1.2 earlier first.2
        exact ⟨calls, result, metrics', after, .other noCall first.1.1 transcript, ran,
          (surroundings.run_recorded_other noCall next metrics earlier state).trans recorded⟩

end Surroundings

end PoolOperator
