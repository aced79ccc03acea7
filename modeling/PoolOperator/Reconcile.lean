import PoolOperator.Apply
import PoolOperator.Config
import PoolOperator.Manifest

/-!
# Reconciliations

A reconciliation makes the cluster what one resource asks for, and tells when
it should be done again.  `timed` counts it and records how long it took,
whatever comes out.  After a failure, `afterError` decides what is next.
-/

namespace PoolOperator

/-- Why a reconciliation failed. -/
inductive ReconcileError where
  /-- The manifests cannot be rendered. -/
  | render (error : RenderError)
  /-- An object cannot be applied. -/
  | apply (error : ApplyError)
  /-- A request to the cluster failed. -/
  | cluster (error : ClusterError)
  /-- A resource without an identity cannot manage other objects. -/
  | missingOwner (name : String)
  deriving DecidableEq, Repr, Inhabited

namespace ReconcileError

/-- The text of a reconciliation error. -/
def message : ReconcileError → String
  | .render error => "failed to render manifests: " ++ error.message
  | .apply error => "failed to apply manifests: " ++ error.message
  | .cluster error => "Kubernetes API error: " ++ error.message
  | .missingOwner name => name ++ " has no uid, cannot own the objects it installs"

/-- Will the reconciliation fail again until the resource is changed? -/
def isPermanent : ReconcileError → Bool
  | .apply error => error.isPermanent
  | _ => false

end ReconcileError

/-- When a resource is reconciled again. -/
inductive Action where
  /-- When it changes. -/
  | awaitChange
  /-- When it changes, or after some seconds. -/
  | requeue (seconds : Nat)
  deriving DecidableEq, Repr, Inhabited

/-- A computation of a reconciliation. -/
abbrev Reconciliation : Type → Type := ExceptT ReconcileError Operation

/-- Counts a reconciliation of a controller and records its duration. -/
def timed (controller : String) (reconciliation : Reconciliation Action) : Reconciliation Action :=
  .mk do
    Operation.count .reconciliations controller
    let result ← reconciliation.run
    Operation.recordDuration controller
    return result

/-- What is next after a failed reconciliation.  The error is counted. -/
def afterError (config : Config) (controller : String) (error : ReconcileError) :
    Operation Action := do
  Operation.count .reconciliationErrors controller
  return if error.isPermanent then .awaitChange else .requeue config.errorRequeueSeconds

end PoolOperator
