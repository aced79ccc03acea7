import PoolOperator.Controller
import PoolOperator.Kubeconfig

/-!
# Starting the operator

The operator first starts its server, and then finds out how the cluster is
reached.  If either fails, it does not start.
-/

namespace PoolOperator

/-- Why the operator does not start. -/
inductive StartupError where
  /-- The server does not listen in time. -/
  | serverTimeout (seconds : Nat)
  /-- The server cannot listen. -/
  | serverFailed
  /-- The cluster cannot be reached. -/
  | noCluster (error : KubeconfigError)
  deriving DecidableEq, Repr, Inhabited

namespace StartupError

/-- The text of a start-up error. -/
def message : StartupError → String
  | .serverTimeout seconds => s!"HTTP server failed to become ready within {seconds} seconds"
  | .serverFailed => "HTTP server failed to start"
  | .noCluster _ => "Failed to create Kubernetes client"

/-- What is behind a start-up error. -/
def cause? : StartupError → Option String
  | .noCluster error => some error.message
  | _ => none

/-- The text of a start-up error with what is behind it. -/
def report (error : StartupError) : String :=
  let cause := match error.cause? with
    | some cause => "\n\nCaused by:\n    " ++ cause
    | none => ""
  "Error: " ++ error.message ++ cause ++ "\n"

end StartupError

/-- The operator after its start. -/
structure Started where
  /-- The settings. -/
  config : Config
  /-- What is running. -/
  readiness : Readiness
  /-- How the cluster is reached. -/
  cluster : ClusterAccess
  deriving Repr, Inhabited

namespace Started

/-- A short description: is the operator ready? -/
def details (started : Started) : String :=
  s!"InitializationResult \x7b server_ready: {started.readiness.isReady}, .. \x7d"

end Started

/-- A short description of what all controllers share. -/
def Config.sharedDetails (config : Config) : String :=
  "Context \x7b config: " ++ config.details ++ ", .. \x7d"

/-- A short description of the store of objects in the cluster. -/
def ClusterStore.details : String := "KubeObjectStore \x7b .. \x7d"

/-- Waits for the server to listen.  It begins only while it is waited for, so
that no time at all is too little, whatever the server does. -/
def awaitServer (config : Config) (portIsFree : Bool) : Except StartupError Unit :=
  if config.startupTimeoutSeconds = 0 then .error (.serverTimeout config.startupTimeoutSeconds)
  else if portIsFree then .ok ()
  else .error .serverFailed

/-- Starts the operator. -/
def start (config : Config) (portIsFree : Bool) (kubeconfig? : Option String) :
    Except StartupError Started := do
  awaitServer config portIsFree
  let cluster ← (Kubeconfig.accessOf kubeconfig?).mapError .noCluster
  return {
    config
    readiness := (Readiness.expecting controllerNames).setListening true
    cluster }

end PoolOperator
