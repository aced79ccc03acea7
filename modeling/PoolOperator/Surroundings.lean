import PoolOperator.Metrics

/-!
# Surroundings

Who answers the demands of an operation.  The counts and measurements are kept
by the operator itself, as the state `Metrics`.  Everything else is asked of
the surroundings, whatever they are.
-/

namespace PoolOperator

/-- The surroundings of the operator in a monad. -/
structure Surroundings (m : Type → Type) where
  /-- The answer to a store call. -/
  store : (call : StoreCall) → m call.Answer
  /-- Changes the status of a `Metallb` resource, given by its namespace and
  name. -/
  patchStatus : String → String → Value → m (Except ClusterError Unit)
  /-- The time. -/
  now : m String
  /-- How long the present reconciliation has taken, in seconds. -/
  elapsed : m Binary64

namespace Surroundings

variable {m : Type → Type} [Monad m]

/-- The answer to a demand. -/
def answer (surroundings : Surroundings m) : (demand : Demand) → StateT Metrics m demand.Answer
  | .store call => StateT.lift (surroundings.store call)
  | .patchStatus space name patch => StateT.lift (surroundings.patchStatus space name patch)
  | .count counter label => modify fun metrics => metrics.increment counter label
  | .recordDuration controller => do
      let duration ← StateT.lift surroundings.elapsed
      modify fun metrics => metrics.observe controller duration
  | .now => StateT.lift surroundings.now

/-- The result of an operation, and the metrics after it. -/
def run {α : Type} (surroundings : Surroundings m) (operation : Operation α) (metrics : Metrics) :
    m (α × Metrics) :=
  (operation.run surroundings.answer).run metrics

end Surroundings

end PoolOperator
