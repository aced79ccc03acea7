import PoolOperator.Fields

/-!
# Readiness

The operator is ready once its server listens and all of its controllers run.
A controller counts from the moment that it is expected or first heard of.
-/

namespace PoolOperator

/-- What is known about the server and the controllers. -/
structure Readiness where
  /-- Does the server listen? -/
  listening : Bool
  /-- Which of the known controllers are running? -/
  controllers : Fields Bool
  deriving DecidableEq, Repr, Inhabited

namespace Readiness

/-- The state in which some controllers are expected and nothing has started. -/
def expecting (names : List String) : Readiness where
  listening := false
  controllers := .ofList (names.map (·, false))

/-- The state after the server began or ceased to listen. -/
def setListening (state : Readiness) (listening : Bool) : Readiness := { state with listening }

/-- The state after a controller started or stopped. -/
def setRunning (state : Readiness) (controller : String) (running : Bool) : Readiness :=
  { state with controllers := state.controllers.put controller running }

/-- The known controllers that are not running, in the order of their names. -/
def pending (state : Readiness) : List String :=
  (state.controllers.filter fun controller => !controller.2).map Prod.fst

/-- Does the server listen, and do all known controllers run? -/
def isReady (state : Readiness) : Bool := state.listening && state.pending.isEmpty

end Readiness

end PoolOperator
