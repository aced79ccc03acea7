import PoolOperator.Definition
import PoolOperator.Metallb.Install
import PoolOperator.Pool.Ensure
import PoolOperator.Readiness
import PoolOperator.Store.Cluster

/-!
# Controllers

A controller watches the resources of a kind in a namespace and reconciles
every one that appears or changes.  It counts as running while it watches.

What the cluster tells while a kind is watched is a list of events.
`WatchEvent.due` are the resources to be reconciled after it, each once.
-/

namespace PoolOperator

/-! ## Watching -/

/-- What the cluster tells about the resources of a kind. -/
inductive WatchEvent (α : Type) where
  /-- A resource is there, and is new or has changed. -/
  | present (resource : α)
  /-- A resource is gone. -/
  | gone (resource : α)
  /-- Nothing has happened. -/
  | bookmark
  deriving Inhabited, Repr

namespace WatchEvent

variable {α : Type}

/-- Reads an event. -/
def ofValue (read : Value → Except ReadError α) (value : Value) :
    Except ReadError (WatchEvent α) := do
  let slots ← Reading.slots "struct WatchEvent" ["type", "object"] value
  let object {β : Type} (read : Value → Except ReadError β) := slots.required value "object" read
  match ← slots.required value "type" Reading.text with
  | "ADDED" => return .present (← object read)
  | "MODIFIED" => return .present (← object read)
  | "DELETED" => return .gone (← object read)
  | "BOOKMARK" => return .bookmark
  | other => throw (.unknownVariant other ["ADDED", "MODIFIED", "DELETED", "BOOKMARK", "ERROR"])

/-- The resource that an event says is there. -/
def resource? : WatchEvent α → Option α
  | .present resource => some resource
  | _ => none

/-- Puts a resource in the place of an earlier one with the same identity, or
at the end. -/
def supersede {κ : Type} [DecidableEq κ] (identity : α → κ) (resource : α) : List α → List α
  | [] => [resource]
  | first :: rest =>
      if identity first = identity resource then resource :: rest
      else first :: supersede identity resource rest

/-- The resources that some events say are there, each once and as it was told
last. -/
def due {κ : Type} [DecidableEq κ] (identity : α → κ) (events : List (WatchEvent α)) : List α :=
  (events.filterMap resource?).foldl (fun found resource => supersede identity resource found) []

end WatchEvent

/-! ## Controllers -/

/-- A controller of the resources of a type. -/
structure Controller (α : Type) where
  /-- The name. -/
  name : String
  /-- What the collections of the resources are called. -/
  plural : String
  /-- The collections that are watched in a namespace. -/
  watched : String → List Collection
  /-- Reads a resource. -/
  read : Value → Except ReadError α
  /-- The metadata of a resource. -/
  metadata : α → Metadata
  /-- Reconciles a resource. -/
  reconcile : Config → FileSystem → α → Reconciliation Action

namespace Controller

variable {α : Type}

/-- Reconciles a resource, and decides what is next. -/
def handle (controller : Controller α) (config : Config) (system : FileSystem) (resource : α) :
    Operation Action := do
  match ← (controller.reconcile config system resource).run with
  | .ok action => return action
  | .error error => afterError config controller.name error

/-- The namespace and the name of a resource. -/
def identity (controller : Controller α) (resource : α) : Option String × Option String :=
  ((controller.metadata resource).namespaceName, (controller.metadata resource).name)

/-- Handles every resource that the cluster tells about. -/
def run (controller : Controller α) (config : Config) (system : FileSystem)
    (events : List (WatchEvent α)) : Operation (List Action) :=
  (WatchEvent.due controller.identity events).mapM (controller.handle config system)

/-- The state once the controller watches. -/
def started (controller : Controller α) (state : Readiness) : Readiness :=
  state.setRunning controller.name true

/-- The state once the controller has ended. -/
def stopped (controller : Controller α) (state : Readiness) : Readiness :=
  state.setRunning controller.name false

end Controller

/-- The collection of the workloads of some kind in a namespace. -/
def workloads (name space : String) : Collection where
  group := "apps"
  apiVersion := "apps/v1"
  space := some space
  name := name

/-- The collection of resources of the operator in a namespace. -/
def ownResources (definition : ResourceDefinition) (space : String) : Collection where
  group := ResourceDefinition.group
  apiVersion := operatorApi
  space := some space
  name := definition.plural

/-- The controller of `Metallb` resources.  It also watches the workloads that
they manage. -/
def metallbController : Controller Metallb where
  name := Metallb.controllerName
  plural := ResourceDefinition.metallb.plural
  watched space := [
    ownResources .metallb space, workloads "deployments" space, workloads "daemonsets" space]
  read := Metallb.ofValue
  metadata := Metallb.metadata
  reconcile := Metallb.reconcile

/-- The controller of address pools. -/
def poolController : Controller AddressPool where
  name := AddressPool.controllerName
  plural := ResourceDefinition.addressPool.plural
  watched space := [ownResources .addressPool space]
  read := AddressPool.ofValue
  metadata := AddressPool.metadata
  reconcile config _ pool := pool.reconcile config

/-- The names of all controllers. -/
def controllerNames : List String := [metallbController.name, poolController.name]

end PoolOperator
