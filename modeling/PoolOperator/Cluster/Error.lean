import PoolOperator.Text.Quoted

/-!
# Errors of the cluster

What can go wrong between the operator and the cluster: an answer that reports
an error, an answer that cannot be read, or no answer.
-/

namespace PoolOperator

/-- An answer of the cluster that reports an error. -/
structure ErrorResponse where
  /-- Whether the request failed, in one word. -/
  status : String
  /-- What is wrong. -/
  message : String
  /-- What is wrong, in one word. -/
  reason : String
  /-- The number of the reason. -/
  code : Nat
  deriving DecidableEq, Repr, Inhabited

/-- Why a request to the cluster failed. -/
inductive ClusterError where
  /-- The cluster reports an error. -/
  | reported (response : ErrorResponse)
  /-- The answer cannot be read. -/
  | unreadable (reason : String)
  /-- The request cannot be written. -/
  | unwritable (reason : String)
  /-- There is no address for the kinds of a group. -/
  | unaddressable (reason : String)
  /-- The cluster does not know the kind of the object. -/
  | missingKind (group version kind : String)
  /-- There is no answer. -/
  | unreachable (reason : String)
  deriving DecidableEq, Repr, Inhabited

/-- All that an error answer tells, with the names of its fields. -/
def ErrorResponse.details (response : ErrorResponse) : String :=
  "ErrorResponse \x7b status: " ++ Text.quoted response.status
    ++ ", message: " ++ Text.quoted response.message
    ++ ", reason: " ++ Text.quoted response.reason
    ++ ", code: " ++ toString response.code ++ " \x7d"

/-- The text of a cluster error. -/
def ClusterError.message : ClusterError → String
  | .reported response =>
      s!"ApiError: {response.message}: {response.reason} ({response.details})"
  | .unreadable reason => "Error deserializing response: " ++ reason
  | .unwritable reason => "Failed to build request: " ++ reason
  | .unaddressable reason => "HttpError: " ++ reason
  | .missingKind group version kind =>
      "Error from discovery: Missing Kind: GroupVersionKind \x7b group: " ++ Text.quoted group
        ++ ", version: " ++ Text.quoted version ++ ", kind: " ++ Text.quoted kind ++ " \x7d"
  | .unreachable reason => "ServiceError: " ++ reason

end PoolOperator
