import PoolOperator.CommandLine
import PoolOperator.Endpoint
import PoolOperator.Startup
import Std.Async.TCP
import Std.Http.Server

/-!
# The program

The command line, the environment, the files and the server of the operator.
What the program does with them is said elsewhere.  After its start it serves
the endpoints until it is stopped.
-/

namespace PoolOperator.Program

/-! ## Surroundings -/

/-- The settings that the environment gives. -/
def readConfig : IO Config := do
  let given ← Config.variableNames.filterMapM fun name =>
    return (← IO.getEnv name).map fun value => (name, value)
  return Config.ofEnvironment (Fields.find? given)

/-- The text of a file, if it can be read. -/
def readText? (path : String) : IO (Option String) :=
  try
    let text ← IO.FS.readFile path
    return some text
  catch _ => return none

/-- The text of the kubeconfig file: the one that the environment names, or the
one of the user. -/
def readKubeconfig? : IO (Option String) := do
  match ← IO.getEnv "KUBECONFIG" with
  | some path => readText? path
  | none =>
      match ← IO.getEnv "HOME" with
      | some home => readText? (home ++ "/.kube/config")
      | none => return none

/-! ## The server -/

/-- What the endpoints tell about. -/
structure Endpoints where
  /-- What is running. -/
  readiness : IO.Ref Readiness
  /-- What was counted. -/
  metrics : IO.Ref Metrics

/-- The answer of the endpoints to a request. -/
def Endpoints.answer (endpoints : Endpoints) (method target : String) : IO PageAnswer := do
  return Endpoint.respond (← endpoints.readiness.get) (← endpoints.metrics.get) method target

instance : Std.Http.Server.Handler Endpoints where
  ResponseBody := Std.Http.Body.Full
  onRequest endpoints request := do
    let page ← endpoints.answer (toString request.line.method) (toString request.line.uri)
    let status := (Std.Http.Status.ofCode none page.status.toUInt16).getD default
    let response := Std.Http.Response.withStatus status
    match page.contentType with
    | some type => (response.header! "content-type" type).fromBytes page.body.toUTF8
    | none => response.fromBytes page.body.toUTF8

/-- The address of the server. -/
def serverAddress (config : Config) : Std.Net.SocketAddress :=
  .v4 ⟨⟨#v[0, 0, 0, 0]⟩, config.metricsPort.toUInt16⟩

/-- Starts the server; nothing if the port cannot be used. -/
def listen? (config : Config) (endpoints : Endpoints) : IO (Option Std.Http.Server) :=
  try
    let server ← (Std.Http.Server.serve (serverAddress config) endpoints).block
    return some server
  catch _ => return none

/-! ## Commands -/

/-- Runs the operator. -/
def run : IO UInt32 := do
  let config ← readConfig
  let endpoints : Endpoints :=
    ⟨← IO.mkRef (Readiness.expecting controllerNames), ← IO.mkRef Metrics.empty⟩
  let server? ← listen? config endpoints
  match start config server?.isSome (← readKubeconfig?) with
  | .error error =>
      IO.eprint error.report
      return 1
  | .ok started =>
      endpoints.readiness.set started.readiness
      if let some server := server? then server.waitShutdown.block
      return 0

/-- Does what some arguments ask for. -/
def runWith (arguments : List String) : IO UInt32 := do
  match CommandLine.parse arguments with
  | .page text =>
      IO.print text
      return 0
  | .mistake text =>
      IO.eprint text
      return 2
  | .command .crds =>
      IO.print ResourceDefinition.manifests
      return 0
  | .command .run => run

end PoolOperator.Program

/-- The program. -/
def main (arguments : List String) : IO UInt32 := PoolOperator.Program.runWith arguments
