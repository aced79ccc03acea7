import PoolOperator.Reading
import PoolOperator.Timestamp

/-!
# Metadata of cluster objects

What the cluster keeps about every object.  All of it is optional, and an
empty list or map is not the same as none.  Members that are not listed here
are not kept.
-/

namespace PoolOperator

/-- A reference to the object that another object belongs to. -/
structure OwnerReference where
  /-- The version of the interface of the owner. -/
  apiVersion : String
  /-- The kind of the owner. -/
  kind : String
  /-- The name of the owner. -/
  name : String
  /-- The identity of the owner. -/
  uid : String
  /-- Does the owner manage the object? -/
  controller : Option Bool
  /-- Does the object keep its owner from being deleted? -/
  blockOwnerDeletion : Option Bool
  deriving DecidableEq, Repr, Inhabited

/-- A note on who manages which fields of an object. -/
structure ManagedFields where
  /-- The version of the interface that the fields belong to. -/
  apiVersion : Option String
  /-- The form of the list of fields. -/
  fieldsType : Option String
  /-- The fields. -/
  fieldsV1 : Option Value
  /-- Who manages the fields. -/
  manager : Option String
  /-- The operation that led to the note. -/
  operation : Option String
  /-- The part of the object that was changed. -/
  subresource : Option String
  /-- The time of the change. -/
  time : Option Timestamp
  deriving Repr, Inhabited

/-- The metadata of an object. -/
structure Metadata where
  /-- Notes under textual keys. -/
  annotations : Option (Fields String)
  /-- When the object was created. -/
  creationTimestamp : Option Timestamp
  /-- How long the deletion may take. -/
  deletionGracePeriodSeconds : Option Int
  /-- When the object will be deleted. -/
  deletionTimestamp : Option Timestamp
  /-- Who has to agree to the deletion. -/
  finalizers : Option (List String)
  /-- The beginning of a name to be completed by the cluster. -/
  generateName : Option String
  /-- The number of the desired state. -/
  generation : Option Int
  /-- Marks under textual keys. -/
  labels : Option (Fields String)
  /-- Who manages which fields. -/
  managedFields : Option (List ManagedFields)
  /-- The name. -/
  name : Option String
  /-- The namespace, unless the object belongs to the whole cluster. -/
  namespaceName : Option String
  /-- The objects that this one belongs to. -/
  ownerReferences : Option (List OwnerReference)
  /-- The version of the stored object. -/
  resourceVersion : Option String
  /-- The address of the object. -/
  selfLink : Option String
  /-- The identity of the object. -/
  uid : Option String
  deriving Repr, Inhabited

/-! ## Writing -/

namespace OwnerReference

/-- The value of a reference. -/
def toValue (owner : OwnerReference) : Value :=
  .ofMembers [
    ("apiVersion", some (.str owner.apiVersion)),
    ("blockOwnerDeletion", owner.blockOwnerDeletion.map .bool),
    ("controller", owner.controller.map .bool),
    ("kind", some (.str owner.kind)),
    ("name", some (.str owner.name)),
    ("uid", some (.str owner.uid))]

end OwnerReference

namespace ManagedFields

/-- The value of a note. -/
def toValue (entry : ManagedFields) : Value :=
  .ofMembers [
    ("apiVersion", entry.apiVersion.map .str),
    ("fieldsType", entry.fieldsType.map .str),
    ("fieldsV1", entry.fieldsV1),
    ("manager", entry.manager.map .str),
    ("operation", entry.operation.map .str),
    ("subresource", entry.subresource.map .str),
    ("time", entry.time.map fun time => .str time.text)]

end ManagedFields

namespace Metadata

/-- Metadata with nothing in it. -/
def empty : Metadata :=
  ⟨none, none, none, none, none, none, none, none, none, none, none, none, none, none, none⟩

/-- The value of metadata. -/
def toValue (metadata : Metadata) : Value :=
  .ofMembers [
    ("annotations", metadata.annotations.map Value.stringMap),
    ("creationTimestamp", metadata.creationTimestamp.map fun time => .str time.text),
    ("deletionGracePeriodSeconds", metadata.deletionGracePeriodSeconds.map .int),
    ("deletionTimestamp", metadata.deletionTimestamp.map fun time => .str time.text),
    ("finalizers", metadata.finalizers.map Value.strings),
    ("generateName", metadata.generateName.map .str),
    ("generation", metadata.generation.map .int),
    ("labels", metadata.labels.map Value.stringMap),
    ("managedFields", metadata.managedFields.map fun entries =>
      .arr (entries.map ManagedFields.toValue)),
    ("name", metadata.name.map .str),
    ("namespace", metadata.namespaceName.map .str),
    ("ownerReferences", metadata.ownerReferences.map fun owners =>
      .arr (owners.map OwnerReference.toValue)),
    ("resourceVersion", metadata.resourceVersion.map .str),
    ("selfLink", metadata.selfLink.map .str),
    ("uid", metadata.uid.map .str)]

/-- The name, or what there is of one. -/
def anyName (metadata : Metadata) : String :=
  metadata.name.getD (metadata.generateName.getD "")

end Metadata

/-! ## Reading -/

section

variable {σ : Type} {m : Type → Type} [Monad m] [Source σ m]

/-- Reads a timestamp. -/
def Timestamp.read (place : σ) : m Timestamp := do
  let text ← Source.text "an RFC 3339 formatted date and time string" place
  match Timestamp.ofText text with
  | .ok time => return time
  | .error error => Source.refuse place (.other error.message)

/-- Reads a reference. -/
def OwnerReference.read (place : σ) : m OwnerReference := do
  let members ← Source.members "OwnerReference" place
  return {
    apiVersion := (← Reading.member? members Reading.text "apiVersion").getD ""
    blockOwnerDeletion := ← Reading.member? members Source.flag "blockOwnerDeletion"
    controller := ← Reading.member? members Source.flag "controller"
    kind := (← Reading.member? members Reading.text "kind").getD ""
    name := (← Reading.member? members Reading.text "name").getD ""
    uid := (← Reading.member? members Reading.text "uid").getD "" }

/-- Reads a note on managed fields. -/
def ManagedFields.read (place : σ) : m ManagedFields := do
  let members ← Source.members "ManagedFieldsEntry" place
  return {
    apiVersion := ← Reading.member? members Reading.text "apiVersion"
    fieldsType := ← Reading.member? members Reading.text "fieldsType"
    fieldsV1 := ← Reading.member? members Source.value "fieldsV1"
    manager := ← Reading.member? members Reading.text "manager"
    operation := ← Reading.member? members Reading.text "operation"
    subresource := ← Reading.member? members Reading.text "subresource"
    time := ← Reading.member? members Timestamp.read "time" }

/-- Reads metadata. -/
def Metadata.read (place : σ) : m Metadata := do
  let members ← Source.members "ObjectMeta" place
  return {
    annotations := ← Reading.member? members Reading.textMap "annotations"
    creationTimestamp := ← Reading.member? members Timestamp.read "creationTimestamp"
    deletionGracePeriodSeconds :=
      ← Reading.member? members Source.wholeNumber "deletionGracePeriodSeconds"
    deletionTimestamp := ← Reading.member? members Timestamp.read "deletionTimestamp"
    finalizers := ← Reading.member? members Reading.texts "finalizers"
    generateName := ← Reading.member? members Reading.text "generateName"
    generation := ← Reading.member? members Source.wholeNumber "generation"
    labels := ← Reading.member? members Reading.textMap "labels"
    managedFields := ← Reading.member? members (Reading.list ManagedFields.read) "managedFields"
    name := ← Reading.member? members Reading.text "name"
    namespaceName := ← Reading.member? members Reading.text "namespace"
    ownerReferences :=
      ← Reading.member? members (Reading.list OwnerReference.read) "ownerReferences"
    resourceVersion := ← Reading.member? members Reading.text "resourceVersion"
    selfLink := ← Reading.member? members Reading.text "selfLink"
    uid := ← Reading.member? members Reading.text "uid" }

end

end PoolOperator
