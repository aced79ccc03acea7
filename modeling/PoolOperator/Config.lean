import PoolOperator.Template
import PoolOperator.Text.Quoted

/-!
# Configuration

The settings of the operator, which come from environment variables
(`Config.ofEnvironment`).  A text that is empty counts as not set.  A number
that is not written in digits, or too large for its type, counts as not set
either, so that no environment keeps the operator from starting.
-/

namespace PoolOperator

/-- The settings of the operator. -/
structure Config where
  /-- The image of the MetalLB controller. -/
  controllerImage : String := "quay.io/metallb/controller:main"
  /-- The image of the MetalLB speaker. -/
  speakerImage : String := "quay.io/metallb/speaker:main"
  /-- The namespace that MetalLB is installed into, and that is watched. -/
  namespaceName : String := "metallb-system"
  /-- The folder with the manifests. -/
  manifestPath : String := "bindata/deployment"
  /-- The port for metrics and probes. -/
  metricsPort : Nat := 8080
  /-- The seconds until a failed reconciliation is tried again. -/
  errorRequeueSeconds : Nat := 60
  /-- The seconds until an installation is looked at again. -/
  reconcileIntervalSeconds : Nat := 300
  /-- The seconds that the server may take to start. -/
  startupTimeoutSeconds : Nat := 10
  /-- The milliseconds between two looks at the server while it starts. -/
  pollIntervalMilliseconds : Nat := 50
  deriving DecidableEq, Repr, Inhabited

namespace Config

/-- The settings without any environment. -/
def standard : Config := {}

/-- A text that is set and not empty. -/
def textOr (value? : Option String) (default : String) : String :=
  (value?.filter (· ≠ "")).getD default

/-- The number that a text stands for: digits, perhaps after a plus sign, of a
number below a limit. -/
def number? (limit : Nat) (text : String) : Option Nat :=
  let digits := match text.toList with
    | '+' :: digits => digits
    | digits => digits
  if digits.isEmpty || !digits.all Char.isDigit then none
  else some (Value.digitsToNat digits) |>.filter (· < limit)

/-- A number that is set. -/
def numberOr (limit : Nat) (value? : Option String) (default : Nat) : Nat :=
  (value?.bind (number? limit)).getD default

/-- The environment variables that settings come from. -/
def variableNames : List String := [
  "CONTROLLER_IMAGE", "SPEAKER_IMAGE", "WATCH_NAMESPACE", "POD_NAMESPACE", "MANIFEST_PATH",
  "METRICS_PORT", "RECONCILIATION_ERROR_REQUEUE_SECS", "RECONCILE_INTERVAL_SECS",
  "SERVER_STARTUP_TIMEOUT_SECS", "SERVER_POLL_INTERVAL_MS"]

/-- The settings that environment variables give. -/
def ofEnvironment (lookup : String → Option String) : Config where
  controllerImage := textOr (lookup "CONTROLLER_IMAGE") standard.controllerImage
  speakerImage := textOr (lookup "SPEAKER_IMAGE") standard.speakerImage
  namespaceName :=
    textOr (lookup "WATCH_NAMESPACE") (textOr (lookup "POD_NAMESPACE") standard.namespaceName)
  manifestPath := textOr (lookup "MANIFEST_PATH") standard.manifestPath
  metricsPort := numberOr (Nat.pow 2 16) (lookup "METRICS_PORT") standard.metricsPort
  errorRequeueSeconds :=
    numberOr (Nat.pow 2 64) (lookup "RECONCILIATION_ERROR_REQUEUE_SECS")
      standard.errorRequeueSeconds
  reconcileIntervalSeconds :=
    numberOr (Nat.pow 2 64) (lookup "RECONCILE_INTERVAL_SECS") standard.reconcileIntervalSeconds
  startupTimeoutSeconds :=
    numberOr (Nat.pow 2 64) (lookup "SERVER_STARTUP_TIMEOUT_SECS") standard.startupTimeoutSeconds
  pollIntervalMilliseconds :=
    numberOr (Nat.pow 2 64) (lookup "SERVER_POLL_INTERVAL_MS") standard.pollIntervalMilliseconds

/-- The values for the manifests: the images and the namespace. -/
def templateValues (config : Config) : TemplateValues :=
  Fields.ofList [
    ("ControllerImage", config.controllerImage),
    ("SpeakerImage", config.speakerImage),
    ("NameSpace", config.namespaceName)]

/-- All settings, with their names. -/
def details (config : Config) : String :=
  "ControllerConfig \x7b controller_image: " ++ Text.quoted config.controllerImage
    ++ ", speaker_image: " ++ Text.quoted config.speakerImage
    ++ ", namespace: " ++ Text.quoted config.namespaceName
    ++ ", manifest_path: " ++ Text.quoted config.manifestPath
    ++ ", metrics_port: " ++ toString config.metricsPort
    ++ ", reconciliation_error_requeue_secs: " ++ toString config.errorRequeueSeconds
    ++ ", reconcile_interval_secs: " ++ toString config.reconcileIntervalSeconds
    ++ ", startup_timeout_secs: " ++ toString config.startupTimeoutSeconds
    ++ ", poll_interval_ms: " ++ toString config.pollIntervalMilliseconds ++ " \x7d"

end Config

end PoolOperator
