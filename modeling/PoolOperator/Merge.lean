import PoolOperator.Object
import PoolOperator.Pool.Resource

/-!
# Merging an object into the live one

A desired object, as it is rendered, has none of the fields that the cluster
fills in.  Replacing the live object with it would remove them.  `merge` copies
them from the live object into the desired one: what the kind of the object
calls for, and then the metadata that belong to the cluster.

`checkSupported` refuses objects that cannot be merged in a useful way.
-/

namespace PoolOperator

/-- Why an object cannot be merged into the live one. -/
inductive MergeError where
  /-- A field cannot be read or written. -/
  | access (error : AccessError)
  /-- A pool configuration cannot be read. -/
  | unreadableConfig (error : Yaml.Error)
  /-- A pool configuration cannot be written. -/
  | unwritableConfig (error : Yaml.Error)
  /-- The object is not one that the operator can keep up to date. -/
  | unsupported (reason : String)
  deriving DecidableEq, Repr, Inhabited

/-- The classes of merge errors. -/
inductive MergeErrorCategory where
  /-- The object has another structure than expected. -/
  | structural
  /-- A text in the object cannot be read or written. -/
  | serialization
  /-- The object is not supported. -/
  | unsupported
  deriving DecidableEq, Repr, Inhabited

/-- The name of a class of merge errors. -/
def MergeErrorCategory.name : MergeErrorCategory → String
  | .structural => "structural"
  | .serialization => "serialization"
  | .unsupported => "unsupported"

namespace MergeError

/-- The text of a merge error. -/
def message : MergeError → String
  | .access error => error.message
  | .unreadableConfig error => "failed to parse address pool configuration: " ++ error.message
  | .unwritableConfig error => "failed to serialize address pool configuration: " ++ error.message
  | .unsupported reason => "unsupported object: " ++ reason

/-- The class of a merge error. -/
def category : MergeError → MergeErrorCategory
  | .access _ => .structural
  | .unreadableConfig _ => .serialization
  | .unwritableConfig _ => .serialization
  | .unsupported _ => .unsupported

/-- Does the object have to change before it can be merged? -/
def isUnsupported : MergeError → Bool
  | .unsupported _ => true
  | _ => false

end MergeError

/-- The kinds with fields in the body or annotations that belong to the
cluster. -/
inductive MergedKind where
  /-- A Deployment. -/
  | deployment
  /-- A Service. -/
  | service
  /-- A ServiceAccount. -/
  | serviceAccount
  /-- A ConfigMap. -/
  | configMap
  deriving DecidableEq, Repr, Inhabited

/-- The kind that decides how an object is merged, if it matters. -/
def MergedKind.of? (type : GroupKind) : Option MergedKind :=
  if type = ⟨"apps", "Deployment"⟩ then some .deployment
  else if type = ⟨"", "Service"⟩ then some .service
  else if type = ⟨"", "ServiceAccount"⟩ then some .serviceAccount
  else if type = ⟨"", "ConfigMap"⟩ then some .configMap
  else none

/-- The annotation with the revision of a Deployment, which the cluster
maintains. -/
def revisionAnnotation : String := "deployment.kubernetes.io/revision"

/-- Refuses a ServiceAccount with secrets.  The cluster makes the secrets of a
ServiceAccount, and merging always keeps the live ones. -/
def checkSupported (object : Object) : Except MergeError Unit := do
  if object.groupKind = ⟨"", "ServiceAccount"⟩ then
    let secrets ← (object.body.list? ["secrets"]).mapError .access
    if !(secrets.getD []).isEmpty then
      throw (.unsupported s!"cannot create ServiceAccount {object.displayName} with secrets")

namespace Object

/-- The text at a path in the body. -/
def string? (object : Object) (path : Path) : Except MergeError (Option String) :=
  (object.body.string? path).mapError .access

/-- The list at a path in the body. -/
def list? (object : Object) (path : Path) : Except MergeError (Option (List Value)) :=
  (object.body.list? path).mapError .access

/-- The list of texts at a path in the body. -/
def strings? (object : Object) (path : Path) : Except MergeError (Option (List String)) :=
  (object.body.strings? path).mapError .access

/-- The object with a value at a path of its body. -/
def write (object : Object) (path : Path) (value : Value) : Except MergeError Object :=
  (object.setBody path value).mapError .access

/-- The object with a value at a path of its body, if there is a value. -/
def writeSome (object : Object) (path : Path) (value? : Option Value) : Except MergeError Object :=
  match value? with
  | some value => object.write path value
  | none => .ok object

end Object

/-! ## What the kind calls for -/

/-- A Deployment keeps the revision of the live one. -/
def mergeDeployment (current desired : Object) : Object :=
  let annotations := desired.metadata.annotations.getD []
  let revision? := (current.metadata.annotations.getD []).find? revisionAnnotation
  let annotations := match revision? with
    | some revision => annotations.put revisionAnnotation revision
    | none => annotations
  { desired with metadata := { desired.metadata with annotations := some annotations } }

/-- A Service keeps the addresses and address families of the live one, and
the family policy unless the desired one states its own. -/
def mergeService (current desired : Object) : Except MergeError Object := do
  let address ← current.string? ["spec", "clusterIP"]
  let desired ← desired.writeSome ["spec", "clusterIP"] ((address.filter (· ≠ "")).map .str)
  let addresses ← current.strings? ["spec", "clusterIPs"]
  let desired ← desired.writeSome ["spec", "clusterIPs"] (addresses.map .strings)
  let families ← current.strings? ["spec", "ipFamilies"]
  let desired ← desired.writeSome ["spec", "ipFamilies"] (families.map .strings)
  let livePolicy ← current.string? ["spec", "ipFamilyPolicy"]
  let ownPolicy ← desired.string? ["spec", "ipFamilyPolicy"]
  if ownPolicy.isSome then return desired
  desired.writeSome ["spec", "ipFamilyPolicy"] (livePolicy.map .str)

/-- A ServiceAccount keeps the secrets of the live one. -/
def mergeServiceAccount (current desired : Object) : Except MergeError Object := do
  let secrets ← current.list? ["secrets"]
  let desired ← desired.writeSome ["secrets"] (secrets.map .arr)
  let pullSecrets ← current.list? ["imagePullSecrets"]
  desired.writeSome ["imagePullSecrets"] (pullSecrets.map .arr)

/-- The pools of a configuration in an object. -/
def poolsOf (payload : String) : Except MergeError (List PoolEntry) :=
  ((PoolConfig.ofYaml payload).mapError .unreadableConfig).map PoolConfig.pools

/-- The pool configuration in a ConfigMap. -/
def Object.poolPayload? (object : Object) : Except MergeError (Option String) :=
  object.string? ["data", configKey]

/-- A ConfigMap with pools keeps the pools of the live one, and its own come
after them.  The configuration is then all that the ConfigMap holds. -/
def mergeConfigMap (current desired : Object) : Except MergeError Object := do
  match ← current.poolPayload? with
  | none => return desired
  | some livePayload =>
      match ← desired.poolPayload? with
      | none => return desired
      | some ownPayload =>
          let livePools ← poolsOf livePayload
          let ownPools ← poolsOf ownPayload
          let payload := PoolConfig.toYaml ⟨livePools ++ ownPools⟩
          desired.write ["data"] (.obj [(configKey, .str payload)])

/-- Copies what the kind of the desired object calls for. -/
def mergeKind (current desired : Object) : Except MergeError Object :=
  match MergedKind.of? desired.groupKind with
  | some .deployment => .ok (mergeDeployment current desired)
  | some .service => mergeService current desired
  | some .serviceAccount => mergeServiceAccount current desired
  | some .configMap => mergeConfigMap current desired
  | none => .ok desired

/-! ## Metadata -/

/-- The live entries with the desired ones laid over them; none if there are no
entries at all. -/
def mergeEntries (current desired : Option (Fields String)) : Option (Fields String) :=
  let merged := (current.getD []).overlay (desired.getD [])
  if merged.isEmpty then none else some merged

/-- The desired metadata with what belongs to the cluster from the live ones. -/
def mergeMetadata (current desired : Metadata) : Metadata :=
  { desired with
    creationTimestamp := current.creationTimestamp
    selfLink := current.selfLink
    generation := current.generation
    uid := current.uid
    resourceVersion := current.resourceVersion
    managedFields := current.managedFields
    finalizers := current.finalizers
    annotations := mergeEntries current.annotations desired.annotations
    labels := mergeEntries current.labels desired.labels }

/-- The object to replace the live one with. -/
def merge (current desired : Object) : Except MergeError Object :=
  (mergeKind current desired).map fun merged =>
    { merged with metadata := mergeMetadata current.metadata merged.metadata }

end PoolOperator
