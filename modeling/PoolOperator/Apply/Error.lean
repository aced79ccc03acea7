import PoolOperator.Cluster.Error
import PoolOperator.Merge

/-!
# Errors of applying an object
-/

namespace PoolOperator

/-- Why an object cannot be applied. -/
inductive ApplyError where
  /-- The object has no name. -/
  | missingName
  /-- The object has no type. -/
  | missingType (object : String)
  /-- The object cannot be merged into the live one. -/
  | merge (object : String) (source : MergeError)
  /-- A request to the cluster failed. -/
  | cluster (error : ClusterError)
  /-- The object cannot be compared with the live one. -/
  | incomparable (reason : String)
  deriving DecidableEq, Repr, Inhabited

namespace ApplyError

/-- The text of an apply error. -/
def message : ApplyError → String
  | .missingName => "object has no name"
  | .missingType object => s!"object {object} has no apiVersion or kind"
  | .merge object source => s!"merge failed for {object}: {source.message}"
  | .cluster error => "Kubernetes API error: " ++ error.message
  | .incomparable reason => "failed to compare objects: " ++ reason

/-- Will the same object fail again, whatever the cluster does? -/
def isPermanent : ApplyError → Bool
  | .missingName => true
  | .missingType _ => true
  | .merge _ source => source.isUnsupported
  | .cluster _ => false
  | .incomparable _ => false

end ApplyError

end PoolOperator
