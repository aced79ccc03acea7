import PoolOperator.Dialogue
import PoolOperator.Store

/-!
# Operations

What the operator does is a dialogue with its surroundings: the store of
objects, the cluster's record of the status of a resource, the metrics and the
clock.  An operation may fail with an error.
-/

namespace PoolOperator

/-- The metrics that count events, each under a label. -/
inductive Counter where
  /-- Reconciliations, by controller. -/
  | reconciliations
  /-- Failed reconciliations, by controller. -/
  | reconciliationErrors
  /-- Applied objects, by outcome. -/
  | objectsApplied
  /-- Objects that were refused or could not be merged, by category. -/
  | mergeErrors
  deriving DecidableEq, Repr, Inhabited

/-- What an operation asks of its surroundings. -/
inductive Demand where
  /-- A call to the store. -/
  | store (call : StoreCall)
  /-- The status of a `Metallb` resource, to be changed. -/
  | patchStatus (space name : String) (patch : Value)
  /-- One more event under a label. -/
  | count (counter : Counter) (label : String)
  /-- The time since the beginning of the reconciliation, to be recorded under a
  controller. -/
  | recordDuration (controller : String)
  /-- The time. -/
  | now

/-- The answer to a demand. -/
def Demand.Answer : Demand → Type
  | .store call => call.Answer
  | .patchStatus _ _ _ => Except ClusterError Unit
  | .count _ _ => Unit
  | .recordDuration _ => Unit
  | .now => String

/-- A dialogue of the operator with its surroundings. -/
abbrev Operation : Type → Type := Dialogue Demand Demand.Answer

namespace Operation

/-- Gets the live object. -/
def getLive (object : Object) : ExceptT ApplyError Operation (Option Object) :=
  .mk (.ask (.store (.get object)) .done)

/-- Creates an object. -/
def create (object : Object) : ExceptT ApplyError Operation Object :=
  .mk (.ask (.store (.create object)) .done)

/-- Puts an object in place of the live one. -/
def replace (object : Object) : ExceptT ApplyError Operation Object :=
  .mk (.ask (.store (.replace object)) .done)

/-- Counts an event. -/
def count (counter : Counter) (label : String) : Operation Unit :=
  .ask (.count counter label) .done

/-- Records the time that a reconciliation took. -/
def recordDuration (controller : String) : Operation Unit :=
  .ask (.recordDuration controller) .done

/-- The time. -/
def now : Operation String := .ask .now .done

/-- Changes the status of a `Metallb` resource. -/
def patchStatus (space name : String) (patch : Value) : Operation (Except ClusterError Unit) :=
  .ask (.patchStatus space name patch) .done

end Operation

end PoolOperator
