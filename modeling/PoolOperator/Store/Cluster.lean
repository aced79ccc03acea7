import PoolOperator.Cluster.Collection
import PoolOperator.Metallb.Resource
import PoolOperator.Store

/-!
# The objects of a cluster

The store calls as requests to a cluster (`ClusterStore.answer`), and the
change of the status of a `Metallb` resource (`ClusterStore.patchStatus`).
Every call first finds out which collection its object belongs to.
-/

namespace PoolOperator.ClusterStore

/-- The type of the content of requests that write objects. -/
def objectContent : String := "application/json"

/-- The type of the content of requests that change a part of an object. -/
def patchContent : String := "application/merge-patch+json"

/-- A request to an address that is given as a text. -/
def request (method : RequestMethod) (address : String) (content : Option RequestContent) :
    Except ClusterError Request :=
  match Address.ofText address with
  | .ok address => .ok ⟨method, address, content⟩
  | .error reason => .error (.unwritable ("failed to build request: " ++ reason))

/-- Sends a request that is about objects. -/
def send {α : Type} (method : RequestMethod) (address : String) (content : Option RequestContent)
    (read : Value → Except ReadError α) : ClusterCall α := do
  let request ← request method address content
  ClusterCall.send request read

/-- The collection of an object.  `defaultSpace` is the namespace of an object
that does not tell its own. -/
def collection (defaultSpace : String) (object : Object) :
    ExceptT ApplyError Exchange Collection := do
  match object.type? with
  | none => throw (.missingType object.displayName)
  | some type =>
      (type.collection (object.metadata.namespaceName.getD defaultSpace)).adapt .cluster

/-- The address of an object in a collection. -/
def addressIn (collection : Collection) (object : Object) : Except ApplyError String :=
  match object.name? with
  | some name => .ok (collection.address ++ "/" ++ name)
  | none => .error .missingName

/-- The live object, or none if the cluster says that there is none. -/
def presence (result : Except ClusterError Object) : Except ApplyError (Option Object) :=
  match result with
  | .ok object => .ok (some object)
  | .error (.reported response) =>
      if response.reason = "NotFound" then .ok none else .error (.cluster (.reported response))
  | .error error => .error (.cluster error)

/-- Gets the live object. -/
def get (defaultSpace : String) (object : Object) :
    ExceptT ApplyError Exchange (Option Object) := do
  let collection ← collection defaultSpace object
  let address ← addressIn collection object
  .mk (presence <$> (send .get address none Object.ofValue).run)

/-- The content of a request that writes an object. -/
def written (object : Object) : Except ApplyError RequestContent :=
  match object.toValue with
  | .ok value => .ok ⟨objectContent, value⟩
  | .error reason => .error (.cluster (.unreadable reason))

/-- Creates an object. -/
def create (defaultSpace : String) (object : Object) : ExceptT ApplyError Exchange Object := do
  let collection ← collection defaultSpace object
  let content ← written object
  (send .post (collection.address ++ "?") (some content) Object.ofValue).adapt .cluster

/-- Puts an object in place of the live one. -/
def replace (defaultSpace : String) (object : Object) : ExceptT ApplyError Exchange Object := do
  let collection ← collection defaultSpace object
  let address ← addressIn collection object
  let content ← written object
  (send .put (address ++ "?") (some content) Object.ofValue).adapt .cluster

/-- Answers a store call. -/
def answer (defaultSpace : String) : (call : StoreCall) → Exchange call.Answer
  | .get object => (get defaultSpace object).run
  | .create object => (create defaultSpace object).run
  | .replace object => (replace defaultSpace object).run

/-- The collection of the `Metallb` resources in a namespace. -/
def metallbs (space : String) : Collection where
  group := apiGroup operatorApi
  apiVersion := operatorApi
  space := some space
  name := "metallbs"

/-- Changes the status of a `Metallb` resource. -/
def patchStatus (space name : String) (patch : Value) : ClusterCall Unit := do
  if name = "" then
    throw (.unwritable "failed to validate request: A non-empty name is required")
  let address := (metallbs space).address ++ "/" ++ name ++ "/status?"
  let _ ← send .patch address (some ⟨patchContent, patch⟩) Metallb.ofValue

end PoolOperator.ClusterStore
