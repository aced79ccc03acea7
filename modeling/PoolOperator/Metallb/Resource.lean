import PoolOperator.Pool.Resource

/-!
# Metallb resources

A `Metallb` resource asks for MetalLB to be installed.  There is nothing to
specify.  The status tells how far the installation is, in conditions.

`nextConditions` is how a new observation changes the conditions: it takes the
place of the earlier one of its type, at the end of the list.  The time of the
last transition stays the same while the status does.
-/

namespace PoolOperator

/-- An observation about a resource. -/
structure Condition where
  /-- What is observed. -/
  type : String
  /-- `True`, `False` or `Unknown`. -/
  status : String
  /-- When the status became what it is. -/
  lastTransitionTime : Option String
  /-- The cause, in one word. -/
  reason : Option String
  /-- The cause, in more words. -/
  message : Option String
  deriving DecidableEq, Repr, Inhabited

/-- The status of a `Metallb` resource. -/
structure MetallbStatus where
  /-- The latest observations. -/
  conditions : List Condition
  /-- The generation of the resource that they are about. -/
  observedGeneration : Option Int
  deriving DecidableEq, Repr, Inhabited

/-- A `Metallb` resource. -/
structure Metallb where
  /-- The metadata. -/
  metadata : Metadata
  /-- The status. -/
  status : Option MetallbStatus
  deriving Repr, Inhabited

namespace Condition

/-- The type of the condition that tells whether MetalLB is installed. -/
def availableType : String := "Available"

/-- The observation that MetalLB is installed, or is not. -/
def available (isAvailable : Bool) (reason message now : String) : Condition where
  type := availableType
  status := if isAvailable then "True" else "False"
  lastTransitionTime := some now
  reason := some reason
  message := some message

/-- The value of a text that may be absent. -/
def nullableText (text? : Option String) : Value := (text?.map Value.str).getD .null

/-- The value of a condition, which always has all members. -/
def toValue (condition : Condition) : Value :=
  .ofMembers [
    ("type", some (.str condition.type)),
    ("status", some (.str condition.status)),
    ("lastTransitionTime", some (nullableText condition.lastTransitionTime)),
    ("reason", some (nullableText condition.reason)),
    ("message", some (nullableText condition.message))]

end Condition

/-! ## The conditions after an observation -/

/-- The observation with the transition time of an earlier one that had the
same status. -/
def Condition.since (condition : Condition) (earlier? : Option Condition) : Condition :=
  match earlier? with
  | some earlier =>
      if earlier.status = condition.status then
        { condition with lastTransitionTime := earlier.lastTransitionTime }
      else condition
  | none => condition

/-- The conditions of a status after an observation. -/
def nextConditions (status? : Option MetallbStatus) (condition : Condition) : List Condition :=
  let conditions := (status?.map MetallbStatus.conditions).getD []
  let earlier? := conditions.find? fun earlier => earlier.type = condition.type
  conditions.filter (fun other => other.type ≠ condition.type) ++ [condition.since earlier?]

namespace MetallbStatus

/-- The value of a status, which always has all members. -/
def toValue (status : MetallbStatus) : Value :=
  .ofMembers [
    ("conditions", some (.arr (status.conditions.map Condition.toValue))),
    ("observedGeneration", some ((status.observedGeneration.map Value.int).getD .null))]

end MetallbStatus

namespace Metallb

/-- The value of a resource. -/
def toValue (metallb : Metallb) : Value :=
  .ofMembers [
    ("apiVersion", some (.str operatorApi)),
    ("kind", some (.str "Metallb")),
    ("metadata", some metallb.metadata.toValue),
    ("spec", some (.obj [])),
    ("status", metallb.status.map MetallbStatus.toValue)]

/-- The reference that makes the resource the manager of another object; none
without a name or an identity. -/
def ownerReference? (metallb : Metallb) : Option OwnerReference := do
  let name ← metallb.metadata.name
  let uid ← metallb.metadata.uid
  return {
    apiVersion := operatorApi
    kind := "Metallb"
    name
    uid
    controller := some true
    blockOwnerDeletion := none }

end Metallb

/-! ## Reading -/

section

variable {σ : Type} {m : Type → Type} [Monad m] [Source σ m]

/-- Reads a condition. -/
def Condition.read (place : σ) : m Condition := do
  let slots ← Reading.slots "struct Condition"
    ["type", "status", "lastTransitionTime", "reason", "message"] place
  return {
    type := ← slots.required place "type" Reading.text
    status := ← slots.required place "status" Reading.text
    lastTransitionTime := ← slots.optional "lastTransitionTime" Reading.text
    reason := ← slots.optional "reason" Reading.text
    message := ← slots.optional "message" Reading.text }

/-- Reads a status. -/
def MetallbStatus.read (place : σ) : m MetallbStatus := do
  let slots ← Reading.slots "struct MetallbStatus" ["conditions", "observedGeneration"] place
  return {
    conditions := ← slots.defaulted "conditions" [] (Reading.list Condition.read)
    observedGeneration := ← slots.optional "observedGeneration" Source.wholeNumber }

/-- Reads a specification, which has no fields. -/
def Metallb.readSpec (place : σ) : m Unit := do
  let _ ← Reading.slots "struct MetallbSpec" [] place

/-- Reads a resource.  Given as a list, it has to have a status. -/
def Metallb.read (place : σ) : m Metallb := do
  let slots ← Reading.slots "struct Metallb" ["metadata", "spec", "status"] place
  let metadata ← slots.required place "metadata" Metadata.read
  slots.required place "spec" Metallb.readSpec
  if slots.listed && (slots.find? "status").isNone then
    Source.refuse place (.invalidLength 2 "struct Metallb with 3 elements")
  else return { metadata, status := ← slots.optional "status" MetallbStatus.read }

end

/-- The resource that a value stands for. -/
def Metallb.ofValue (value : Value) : Except ReadError Metallb := read value

/-- The status that a value stands for. -/
def MetallbStatus.ofValue (value : Value) : Except ReadError MetallbStatus := read value

/-- The condition that a value stands for. -/
def Condition.ofValue (value : Value) : Except ReadError Condition := read value

end PoolOperator
