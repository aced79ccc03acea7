import PoolOperator.Metallb.Resource
import PoolOperator.Reconcile

/-!
# Installing MetalLB

For a `Metallb` resource the manifests are rendered and their objects applied
one after the other, each managed by the resource.  The first failure ends
that.  Whatever comes out is reported in the status of the resource.  If both
the installation and the report fail, the error is that of the installation.
-/

namespace PoolOperator

/-- How many objects of an installation had each outcome. -/
structure InstallSummary where
  /-- Objects that were created. -/
  created : Nat
  /-- Objects that were replaced. -/
  updated : Nat
  /-- Objects that were as they should be. -/
  unchanged : Nat
  deriving DecidableEq, Repr, Inhabited

namespace InstallSummary

/-- The summary of an installation without objects. -/
def none : InstallSummary := ⟨0, 0, 0⟩

/-- The summary with one more outcome. -/
def record (summary : InstallSummary) : Outcome → InstallSummary
  | .created => { summary with created := summary.created + 1 }
  | .updated => { summary with updated := summary.updated + 1 }
  | .unchanged => { summary with unchanged := summary.unchanged + 1 }

/-- The text of a summary. -/
def text (summary : InstallSummary) : String :=
  s!"{summary.created} created, {summary.updated} updated, {summary.unchanged} unchanged"

end InstallSummary

/-- The object with a manager and no other owner. -/
def Object.ownedBy (object : Object) (owner : OwnerReference) : Object :=
  { object with metadata := { object.metadata with ownerReferences := some [owner] } }

/-- Applies some objects in order, after others with a known summary. -/
def applyAll (owner : OwnerReference) :
    InstallSummary → List Object → ExceptT ApplyError Operation InstallSummary
  | summary, [] => return summary
  | summary, object :: rest => do
      let outcome ← apply (object.ownedBy owner)
      applyAll owner (summary.record outcome) rest

/-- Applies the objects of the manifests, in the folder that the configuration
names. -/
def install (config : Config) (system : FileSystem) (owner : OwnerReference) :
    Reconciliation InstallSummary := do
  match Manifest.render config.templateValues system config.manifestPath with
  | .error error => throw (.render error)
  | .ok objects => (applyAll owner .none objects).adapt .apply

namespace Metallb

/-- The name of the controller of `Metallb` resources. -/
def controllerName : String := "metallb"

/-- What an installation shows about MetalLB. -/
def observation (installed : Except ReconcileError InstallSummary) (now : String) : Condition :=
  match installed with
  | .ok summary =>
      .available true "Installed" s!"MetalLB manifests applied ({summary.text})" now
  | .error error => .available false "InstallFailed" error.message now

/-- The change of the status that an observation makes. -/
def statusPatch (metallb : Metallb) (condition : Condition) : Value :=
  let status : MetallbStatus :=
    ⟨nextConditions metallb.status condition, metallb.metadata.generation⟩
  .obj [("status", status.toValue)]

/-- Reports an installation in the status. -/
def report (metallb : Metallb) (installed : Except ReconcileError InstallSummary) :
    Operation (Except ClusterError Unit) := do
  let now ← Operation.now
  Operation.patchStatus (metallb.metadata.namespaceName.getD "") metallb.metadata.anyName
    (metallb.statusPatch (observation installed now))

/-- Installs MetalLB and reports that. -/
def installAndReport (config : Config) (system : FileSystem) (metallb : Metallb) :
    Reconciliation Action := do
  match metallb.ownerReference? with
  | none => throw (.missingOwner metallb.metadata.anyName)
  | some owner => .mk do
      let installed ← (install config system owner).run
      let reported ← metallb.report installed
      return match installed, reported with
        | .error error, _ => .error error
        | .ok _, .error error => .error (.cluster error)
        | .ok _, .ok () => .ok (.requeue config.reconcileIntervalSeconds)

/-- Reconciles a resource. -/
def reconcile (config : Config) (system : FileSystem) (metallb : Metallb) : Reconciliation Action :=
  timed controllerName (metallb.installAndReport config system)

end Metallb

end PoolOperator
