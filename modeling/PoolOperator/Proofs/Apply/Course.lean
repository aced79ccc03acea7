import PoolOperator.Apply

/-!
# The course of applying an object

An object that is not refused is fetched (`fetching`), and what was fetched
decides whether it is created, replaced or left alone (`merging`).  Every stage
is a dialogue that begins with one question, so that the course can be followed
from answer to answer (`apply_run`).
-/

namespace PoolOperator

namespace Object

/-- What is left once an object was written, if it was. -/
def finishing (outcome : Outcome) : Except ApplyError Object → Operation (Except ApplyError Outcome)
  | .ok _ => .ask (.count .objectsApplied outcome.name) fun _ => .done (.ok outcome)
  | .error error => .done (.error error)

/-- What is left once an object was refused or could not be merged. -/
def failing (label : String) (source : MergeError) : Operation (Except ApplyError Outcome) :=
  .ask (.count .mergeErrors source.category.name) fun _ => .done (.error (.merge label source))

variable (label : String) (desired : Object)

/-- What is left once the merged object was compared with the live one. -/
def compared (merged : Object) : Except String Bool → Operation (Except ApplyError Outcome)
  | .error reason => .done (.error (.incomparable reason))
  | .ok true => .ask (.count .objectsApplied Outcome.unchanged.name) fun _ => .done (.ok .unchanged)
  | .ok false => .ask (.store (.replace merged)) (finishing .updated)

/-- What is left once the merged object is known. -/
def comparing (current : Object) : Except MergeError Object → Operation (Except ApplyError Outcome)
  | .error source => failing label source
  | .ok merged => compared merged (current.same merged)

/-- What is left once the live object was fetched. -/
def merging : Except ApplyError (Option Object) → Operation (Except ApplyError Outcome)
  | .error error => .done (.error error)
  | .ok none => .ask (.store (.create desired)) (finishing .created)
  | .ok (some current) => comparing label current (merge current desired)

/-- The dialogue from the time on that the live object is fetched. -/
def fetching : Operation (Except ApplyError Outcome) :=
  .ask (.store (.get desired)) (desired.merging label)

/-- What becomes of an object with a label, once it was checked. -/
def checking : Except MergeError Unit → Operation (Except ApplyError Outcome)
  | .error source => failing label source
  | .ok () => desired.fetching label

/-- The whole course. -/
def applying : Except ApplyError String → Operation (Except ApplyError Outcome)
  | .error error => .done (.error error)
  | .ok label => desired.checking label (checkSupported desired)

end Object

/-- An outcome is counted once it is known. -/
def counted (outcome : ExceptT ApplyError Operation Outcome) :
    ExceptT ApplyError Operation Outcome := do
  let outcome ← outcome
  Operation.count .objectsApplied outcome.name
  return outcome

/-- What is left of a submission once the live object was merged. -/
def submitMerged (label : String) (current : Object) :
    Except MergeError Object → ExceptT ApplyError Operation Outcome
  | .error source => failMerge label source
  | .ok merged => do
      if ← current.isUpToDate merged then return .unchanged
      let _ ← Operation.replace merged
      return .updated

theorem counted_submitMerged (label : String) (current : Object)
    (merged : Except MergeError Object) :
    (counted (submitMerged label current merged)).run = Object.comparing label current merged := by
  cases merged with
  | error source => rfl
  | ok merged =>
      rw [submitMerged, Object.comparing, Object.isUpToDate]
      cases current.same merged with
      | error reason => rfl
      | ok equal =>
          cases equal with
          | true => rfl
          | false =>
              refine congrArg (Dialogue.ask (Demand.store (.replace merged)))
                (funext fun answer => ?_)
              cases answer <;> rfl

theorem counted_submit (label : String) (desired : Object) :
    (counted (submit label desired)).run = desired.fetching label := by
  refine congrArg (Dialogue.ask (Demand.store (.get desired))) (funext fun answer => ?_)
  match answer with
  | .error error => rfl
  | .ok none =>
      refine congrArg (Dialogue.ask (Demand.store (.create desired))) (funext fun answer => ?_)
      match answer with
      | .error error => rfl
      | .ok object => rfl
  | .ok (some current) => exact counted_submitMerged label current (merge current desired)

theorem apply_run (desired : Object) : (apply desired).run = desired.applying desired.label := by
  unfold apply
  cases named : desired.label with
  | error error => rfl
  | ok label =>
      change (match checkSupported desired with
        | .error source => failMerge label source
        | .ok () => counted (submit label desired) : ExceptT ApplyError Operation Outcome).run = _
      rw [Object.applying]
      cases checkSupported desired with
      | error source => rfl
      | ok checked => exact counted_submit label desired

end PoolOperator
