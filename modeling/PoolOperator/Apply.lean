import PoolOperator.Operation

/-!
# Applying an object

`apply` brings one object into the cluster.  An object without a name or a
type, or one that is not supported, is refused before anything is asked.  Then
the live object is fetched.  If there is none, the object is created as it is.
Otherwise it is merged with the live one, and replaces it unless the two are
the same.  Nothing is written after a failed merge, or if the two cannot be
compared.
-/

namespace PoolOperator

/-- What was done to apply an object. -/
inductive Outcome where
  /-- The object was created. -/
  | created
  /-- The live object was replaced. -/
  | updated
  /-- The live object was as it should be. -/
  | unchanged
  deriving DecidableEq, Repr, Inhabited

/-- The name of an outcome. -/
def Outcome.name : Outcome → String
  | .created => "create"
  | .updated => "update"
  | .unchanged => "unchanged"

/-- The type and the name of an object, for messages; an error if one of them
is missing. -/
def Object.label (object : Object) : Except ApplyError String :=
  if object.name?.isNone then .error .missingName
  else if object.groupKind.kind = "" then .error (.missingType object.displayName)
  else .ok (object.groupKind.kind ++ " " ++ object.displayName)

/-- Gives up because of a merge error, and counts it. -/
def failMerge {α : Type} (label : String) (source : MergeError) :
    ExceptT ApplyError Operation α := do
  Operation.count .mergeErrors source.category.name
  throw (.merge label source)

/-- Is the live object the same as the merged one? -/
def Object.isUpToDate (current merged : Object) : Except ApplyError Bool :=
  match current.same merged with
  | .ok same => .ok same
  | .error reason => .error (.incomparable reason)

/-- Brings a supported object into the cluster. -/
def submit (label : String) (desired : Object) : ExceptT ApplyError Operation Outcome := do
  match ← Operation.getLive desired with
  | none =>
      let _ ← Operation.create desired
      return .created
  | some current =>
      match merge current desired with
      | .error source => failMerge label source
      | .ok merged =>
          if ← current.isUpToDate merged then return .unchanged
          let _ ← Operation.replace merged
          return .updated

/-- Brings an object into the cluster. -/
def apply (desired : Object) : ExceptT ApplyError Operation Outcome := do
  let label ← desired.label
  match checkSupported desired with
  | .error source => failMerge label source
  | .ok () =>
      let outcome ← submit label desired
      Operation.count .objectsApplied outcome.name
      return outcome

end PoolOperator
