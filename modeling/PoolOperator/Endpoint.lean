import PoolOperator.Metrics
import PoolOperator.Readiness

/-!
# Endpoints

The operator answers requests over HTTP at three paths.  `/metrics` tells the
metrics, `/healthz` that the operator is alive, and `/readyz` whether it is
ready.  Asking changes nothing.
-/

namespace PoolOperator

/-- An answer to a request. -/
structure PageAnswer where
  /-- The status code. -/
  status : Nat
  /-- The type of the content, if there is any. -/
  contentType : Option String
  /-- The content. -/
  body : String
  deriving DecidableEq, Repr, Inhabited

namespace Endpoint

/-- A text as an answer. -/
def plain (status : Nat) (body : String) : PageAnswer :=
  ⟨status, some "text/plain; charset=utf-8", body⟩

/-- An answer that has no content. -/
def bare (status : Nat) : PageAnswer := ⟨status, none, ""⟩

/-- The answer about the metrics. -/
def metricsPage (metrics : Metrics) : PageAnswer where
  status := 200
  contentType := some "text/plain; version=0.0.4; charset=utf-8"
  body := String.join (metrics.lines.map (· ++ "\n"))

/-- The answer about readiness. -/
def readinessPage (state : Readiness) : PageAnswer :=
  if !state.listening then plain 503 "server not listening"
  else if state.pending.isEmpty then plain 200 "ok"
  else plain 503 ("controllers not running: " ++ ", ".intercalate state.pending)

/-- The answer at a path. -/
def page? (state : Readiness) (metrics : Metrics) : String → Option PageAnswer
  | "/metrics" => some (metricsPage metrics)
  | "/healthz" => some (bare 200)
  | "/readyz" => some (readinessPage state)
  | _ => none

/-- The path of a target, which ends where a query or a fragment begins. -/
def pathOf (target : String) : String :=
  String.ofList (target.toList.takeWhile fun char => char ≠ '?' && char ≠ '#')

/-- The answer to a request.  The paths can be asked for with their contents or
without, and nothing else can be done with them. -/
def respond (state : Readiness) (metrics : Metrics) (method target : String) : PageAnswer :=
  match page? state metrics (pathOf target) with
  | none => bare 404
  | some page =>
      if method = "GET" then page
      else if method = "HEAD" then { page with body := "" }
      else bare 405

end Endpoint

end PoolOperator
