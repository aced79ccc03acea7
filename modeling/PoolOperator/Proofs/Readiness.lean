import Mathlib.Data.List.Induction
import PoolOperator.Endpoint
import PoolOperator.Proofs.Fields

/-!
# Readiness over time

Two kinds of flags decide whether the operator is ready: does the server listen, and does
each controller run?  They are set one after another, in any order and any number of
times, and between that the endpoints are asked.  The state is decided by the last value
of each flag (`listening_after`, `find?_after`), so that the order in which different flags
are set does not matter, and asking does not either (`after_congr`).

`told_after` says what the state and the endpoint for readiness tell after any events:
the operator is ready if the server listens and every controller that was expected or
ever heard of runs, and otherwise the endpoint says what is missing.
-/

namespace PoolOperator

namespace Readiness

/-! ## Events -/

/-- What is set. -/
inductive Flag where
  /-- Does the server listen? -/
  | listening
  /-- Is a controller running? -/
  | running (controller : String)
  deriving DecidableEq

/-- The state after a flag was set. -/
def set (state : Readiness) : Flag → Bool → Readiness
  | .listening, value => state.setListening value
  | .running controller, value => state.setRunning controller value

/-- What happens. -/
inductive Event where
  /-- A flag is set. -/
  | set (flag : Flag) (value : Bool)
  /-- A request is answered. -/
  | asked (metrics : Metrics) (method target : String)

namespace Event

/-- Is a flag set? -/
def isSetting : Event → Bool
  | .set _ _ => true
  | .asked _ _ _ => false

/-- The value that a flag is set to, if it is this flag. -/
def value? (flag : Flag) : Event → Option Bool
  | .set other value => if other = flag then some value else none
  | .asked _ _ _ => none

end Event

/-- The state after an event, and the answer to a request. -/
def meet (state : Readiness) : Event → Readiness × Option PageAnswer
  | .set flag value => (state.set flag value, none)
  | .asked metrics method target => (state, some (Endpoint.respond state metrics method target))

/-- The state after some events, where some controllers were expected in the beginning. -/
def after (names : List String) (events : List Event) : Readiness :=
  events.foldl (fun state event => (state.meet event).1) (expecting names)

/-- The last value of a flag, if it was ever set. -/
def lastOf (flag : Flag) (events : List Event) : Option Bool :=
  (events.filterMap (Event.value? flag)).getLast?

/-- Was it said last that the server listens? -/
def IsListening (events : List Event) : Prop := lastOf .listening events = some true

/-- Is a controller expected, or was it ever heard of? -/
def IsKnown (names : List String) (events : List Event) (controller : String) : Prop :=
  controller ∈ names ∨ ∃ value : Bool, .set (.running controller) value ∈ events

/-- Was it said last that a controller runs? -/
def IsRunning (events : List Event) (controller : String) : Prop :=
  lastOf (.running controller) events = some true

theorem lastOf_append (flag : Flag) (events later : List Event) :
    lastOf flag (events ++ later) = (lastOf flag later).or (lastOf flag events) := by
  rw [lastOf, List.filterMap_append, List.getLast?_append]
  rfl

theorem lastOf_singleton (flag : Flag) (event : Event) :
    lastOf flag [event] = event.value? flag := by
  rw [lastOf, List.filterMap_cons]
  cases event.value? flag <;> rfl

theorem lastOf_filter_isSetting (flag : Flag) (events : List Event) :
    lastOf flag (events.filter Event.isSetting) = lastOf flag events := by
  rw [lastOf, List.filterMap_filter, lastOf]
  congr 2
  funext event
  cases event <;> rfl

/-- A flag has a last value if it was ever set. -/
theorem lastOf_eq_none_iff {flag : Flag} {events : List Event} :
    lastOf flag events = none ↔ ¬ ∃ value : Bool, .set flag value ∈ events := by
  rw [lastOf, List.getLast?_eq_none_iff, List.filterMap_eq_nil_iff]
  constructor
  · rintro never ⟨value, member⟩
    have none := never _ member
    rw [Event.value?, if_pos rfl] at none
    cases none
  · intro never event member
    cases event with
    | asked metrics method target => rfl
    | set other value =>
        have different : other ≠ flag := by
          rintro rfl
          exact never ⟨value, member⟩
        exact if_neg different

/-! ## The state -/

section

variable (names : List String)

theorem after_append_singleton (events : List Event) (event : Event) :
    after names (events ++ [event]) = ((after names events).meet event).1 := by
  rw [after, List.foldl_append]
  rfl

/-- Whether the server listens is what was said last. -/
theorem listening_after (events : List Event) :
    (after names events).listening = (lastOf .listening events).getD false := by
  induction events using List.reverseRecOn with
  | nil => rfl
  | append_singleton events event induction =>
      rw [after_append_singleton, lastOf_append, lastOf_singleton]
      cases event with
      | asked metrics method target => exact induction
      | set flag value =>
          cases flag with
          | listening => rfl
          | running controller => exact induction

theorem find?_expecting (controller : String) :
    (expecting names).controllers.find? controller = if controller ∈ names then some false
    else none := by
  rw [expecting, Fields.find?_ofList, ← List.map_reverse, Fields.find?_map_mk]
  simp only [List.mem_reverse]

/-- Whether a controller runs is what was said last, or that it does not. -/
theorem find?_after (events : List Event) (controller : String) :
    (after names events).controllers.find? controller =
      (lastOf (.running controller) events).or
      (if controller ∈ names then some false else none) := by
  induction events using List.reverseRecOn with
  | nil => exact find?_expecting names controller
  | append_singleton events event induction =>
      rw [after_append_singleton, lastOf_append, lastOf_singleton]
      cases event with
      | asked metrics method target => exact induction
      | set flag value =>
          cases flag with
          | listening => exact induction
          | running other =>
              by_cases same : other = controller
              · subst same
                rw [Event.value?, if_pos rfl]
                exact Fields.find?_put_self _ _ _
              · have different : Flag.running other ≠ .running controller :=
                  fun equal => same (Flag.running.inj equal)
                rw [Event.value?, if_neg different]
                exact (Fields.find?_put_ne _ _ (Ne.symm same)).trans induction

theorem sorted_after (events : List Event) : (after names events).controllers.Sorted := by
  induction events using List.reverseRecOn with
  | nil => exact Fields.sorted_ofList _
  | append_singleton events event induction =>
      rw [after_append_singleton]
      cases event with
      | asked metrics method target => exact induction
      | set flag value =>
          cases flag with
          | listening => exact induction
          | running controller => exact Fields.sorted_put induction controller value

/-- Nothing but the last value of each flag matters. -/
theorem after_congr {events others : List Event}
    (same : ∀ flag : Flag, lastOf flag others = lastOf flag events) :
    after names others = after names events := by
  have listening : (after names others).listening = (after names events).listening := by
    rw [listening_after, listening_after, same]
  have controllers : (after names others).controllers = (after names events).controllers := by
    refine Fields.eq_of_find? (sorted_after names others) (sorted_after names events) fun name => ?_
    rw [find?_after, find?_after, same]
  cases one : after names others
  cases other : after names events
  rw [one, other] at listening controllers
  cases listening
  cases controllers
  rfl

end

/-! ## What the state tells -/

section

variable {state : Readiness}

theorem mem_pending_iff (sorted : state.controllers.Sorted) {controller : String} :
    controller ∈ state.pending ↔ state.controllers.find? controller = some false := by
  rw [pending, List.mem_map]
  constructor
  · rintro ⟨⟨name, running⟩, member, rfl⟩
    obtain ⟨there, waits⟩ := List.mem_filter.mp member
    obtain rfl : running = false := by simpa using waits
    exact Fields.find?_of_mem sorted there
  · intro found
    exact ⟨(controller, false), List.mem_filter.mpr ⟨Fields.mem_of_find? found, rfl⟩, rfl⟩

theorem pairwise_pending (sorted : state.controllers.Sorted) : state.pending.Pairwise (· < ·) :=
  List.pairwise_map.mpr (List.Pairwise.filter _ sorted)

theorem isReady_iff : state.isReady = true ↔ state.listening = true ∧ state.pending = [] := by
  rw [isReady, Bool.and_eq_true, List.isEmpty_iff]

/-! ## What the endpoint tells -/

theorem respond_readiness (metrics : Metrics) {target : String}
    (path : Endpoint.pathOf target = "/readyz") :
    Endpoint.respond state metrics "GET" target = Endpoint.readinessPage state := by
  rw [Endpoint.respond, path]
  rfl

theorem waiting_ne_deaf (names : String) :
    "controllers not running: " ++ names ≠ "server not listening" := by
  have waiting : "controllers not running: ".toList = 'c' :: "ontrollers not running: ".toList := by
    decide
  have deaf : "server not listening".toList = 's' :: "erver not listening".toList := by decide
  intro same
  have heads := congrArg (fun text : String => text.toList.head?) same
  simp only [String.toList_append] at heads
  rw [waiting, deaf] at heads
  simp at heads

/-- The answer that names what is not running. -/
def waitingPage (state : Readiness) : PageAnswer :=
  Endpoint.plain 503 ("controllers not running: " ++ ", ".intercalate state.pending)

theorem plain_eq_plain_iff {status status' : Nat} {body body' : String} :
    Endpoint.plain status body = Endpoint.plain status' body' ↔
      status = status' ∧ body = body' := by
  rw [Endpoint.plain, Endpoint.plain, PageAnswer.mk.injEq, eq_self, true_and]

theorem waitingPage_ne_ok (state : Readiness) : state.waitingPage ≠ Endpoint.plain 200 "ok" := by
  simp [waitingPage, plain_eq_plain_iff]

theorem waitingPage_ne_deaf (state : Readiness) :
    state.waitingPage ≠ Endpoint.plain 503 "server not listening" := by
  simp [waitingPage, plain_eq_plain_iff, waiting_ne_deaf]

theorem ok_ne_deaf : Endpoint.plain 200 "ok" ≠ Endpoint.plain 503 "server not listening" := by
  simp [plain_eq_plain_iff]

theorem readinessPage_deaf (deaf : state.listening = false) :
    Endpoint.readinessPage state = Endpoint.plain 503 "server not listening" := by
  rw [Endpoint.readinessPage, if_pos (by rw [deaf, Bool.not_false])]

theorem readinessPage_ok (ready : state.isReady = true) :
    Endpoint.readinessPage state = Endpoint.plain 200 "ok" := by
  obtain ⟨listens, nothing⟩ := isReady_iff.mp ready
  rw [Endpoint.readinessPage, if_neg (by simp [listens]), if_pos (by simp [nothing])]

theorem readinessPage_waiting (listens : state.listening = true) (missing : state.isReady = false) :
    Endpoint.readinessPage state = state.waitingPage := by
  have some : ¬ state.pending.isEmpty = true := by
    intro empty
    rw [isReady, listens, empty] at missing
    cases missing
  rw [Endpoint.readinessPage, if_neg (by simp [listens]), if_neg some, waitingPage]

/-- The answers about readiness, and when they are given. -/
theorem readinessPage_cases (state : Readiness) :
    state.listening = false ∧ state.isReady = false
        ∧ Endpoint.readinessPage state = Endpoint.plain 503 "server not listening"
      ∨ state.listening = true ∧ state.isReady = true
        ∧ Endpoint.readinessPage state = Endpoint.plain 200 "ok"
      ∨ state.listening = true ∧ state.isReady = false
        ∧ Endpoint.readinessPage state = state.waitingPage := by
  cases listens : state.listening with
  | false => exact .inl ⟨rfl, by rw [isReady, listens, Bool.false_and], readinessPage_deaf listens⟩
  | true =>
      cases ready : state.isReady with
      | true => exact .inr (.inl ⟨rfl, rfl, readinessPage_ok ready⟩)
      | false => exact .inr (.inr ⟨rfl, rfl, readinessPage_waiting listens ready⟩)

theorem readinessPage_ok_iff :
    Endpoint.readinessPage state = Endpoint.plain 200 "ok" ↔ state.isReady = true := by
  rcases readinessPage_cases state with ⟨_, ready, page⟩ | ⟨_, ready, page⟩ | ⟨_, ready, page⟩
  · simp [page, ready, ok_ne_deaf.symm]
  · simp [page, ready]
  · simp [page, ready, state.waitingPage_ne_ok]

theorem readinessPage_deaf_iff :
    Endpoint.readinessPage state = Endpoint.plain 503 "server not listening" ↔
      state.listening = false := by
  rcases readinessPage_cases state with ⟨listens, _, page⟩ | ⟨listens, _, page⟩ | ⟨listens, _, page⟩
  · simp [page, listens]
  · simp [page, listens, ok_ne_deaf]
  · simp [page, listens, state.waitingPage_ne_deaf]

theorem readinessPage_waiting_iff :
    Endpoint.readinessPage state = state.waitingPage ↔
      state.listening = true ∧ state.isReady = false := by
  rcases readinessPage_cases state with ⟨listens, _, page⟩ | ⟨listens, ready, page⟩ | ⟨listens,
    ready, page⟩
  · simp [page, listens, state.waitingPage_ne_deaf.symm]
  · simp [page, ready, state.waitingPage_ne_ok.symm]
  · simp [page, listens, ready]

end

/-! ## After any events -/

/-- What is told after some events, where some controllers were expected in the beginning. -/
structure Told (names : List String) (events : List Event) (state : Readiness) : Prop where
  /-- The controllers that are missing are told in the order of their names, each once. -/
  increasing : state.pending.Pairwise (· < ·)
  /-- They are the known ones that do not run. -/
  mem_pending : ∀ controller : String, controller ∈ state.pending ↔
    IsKnown names events controller ∧ ¬ IsRunning events controller
  /-- The operator is ready if the server listens and no controller is missing. -/
  ready : state.isReady = true ↔
    IsListening events ∧ ∀ controller : String, IsKnown names events controller →
    IsRunning events controller
  /-- The endpoint tells that the operator is ready exactly if it is. -/
  ok : ∀ (metrics : Metrics) (target : String), Endpoint.pathOf target = "/readyz" →
    (Endpoint.respond state metrics "GET" target = Endpoint.plain 200 "ok" ↔ state.isReady = true)
  /-- It tells that the server does not listen exactly if it does not, whatever runs. -/
  deaf : ∀ (metrics : Metrics) (target : String), Endpoint.pathOf target = "/readyz" →
    (Endpoint.respond state metrics "GET" target = Endpoint.plain 503 "server not listening" ↔
      ¬ IsListening events)
  /-- Otherwise it names the controllers that are missing. -/
  waiting : ∀ (metrics : Metrics) (target : String), Endpoint.pathOf target = "/readyz" →
    (Endpoint.respond state metrics "GET" target =
      Endpoint.plain 503 ("controllers not running: " ++ ", ".intercalate state.pending) ↔
        IsListening events ∧ state.isReady = false)
  /-- Only the last value of each flag matters. -/
  decided : ∀ others : List Event, (∀ flag : Flag, lastOf flag others = lastOf flag events) →
    after names others = state
  /-- Flags may be set in any order, if they are different ones. -/
  commute : ∀ (earlier later : List Event) (flag other : Flag) (value value' : Bool), flag ≠ other →
    events = earlier ++ .set flag value :: .set other value' :: later →
    after names (earlier ++ .set other value' :: .set flag value :: later) = state
  /-- Nothing changes if requests are left out. -/
  unasked : after names (events.filter Event.isSetting) = state

section

variable {names : List String} {events : List Event} {controller : String}

theorem isKnown_iff : IsKnown names events controller ↔
    (after names events).controllers.find? controller ≠ none := by
  rw [find?_after, IsKnown]
  by_cases expected : controller ∈ names
  · simp [expected]
  · rw [if_neg expected, Option.or_none, ne_eq, lastOf_eq_none_iff, not_not, or_iff_right expected]

theorem mem_pending_after : controller ∈ (after names events).pending ↔
    IsKnown names events controller ∧ ¬ IsRunning events controller := by
  rw [mem_pending_iff (sorted_after names events), isKnown_iff, find?_after, IsRunning]
  cases lastOf (.running controller) events with
  | none => by_cases expected : controller ∈ names <;> simp [expected]
  | some value => cases value <;> simp

theorem isListening_iff (names : List String) :
    IsListening events ↔ (after names events).listening = true := by
  rw [listening_after, IsListening]
  cases lastOf .listening events <;> simp

theorem pending_after_eq_nil_iff : (after names events).pending = [] ↔
    ∀ controller : String, IsKnown names events controller → IsRunning events controller := by
  simp only [List.eq_nil_iff_forall_not_mem, mem_pending_after, not_and, not_not]

end

theorem lastOf_swap (flag : Flag) (earlier later : List Event) {one other : Flag}
    (different : one ≠ other) (value value' : Bool) :
    lastOf flag (earlier ++ .set other value' :: .set one value :: later) =
      lastOf flag (earlier ++ .set one value :: .set other value' :: later) := by
  have pair : lastOf flag [.set other value', .set one value] =
      lastOf flag [.set one value, .set other value'] := by
    simp only [lastOf, List.filterMap_cons, List.filterMap_nil, Event.value?]
    by_cases first : one = flag
    · have second : other ≠ flag := fun equal => different (first.trans equal.symm)
      simp only [if_pos first, if_neg second]
    · simp only [if_neg first]
  have split : ∀ first second : Event, earlier ++ first :: second :: later =
      earlier ++ ([first, second] ++ later) := fun _ _ => rfl
  rw [split, split, lastOf_append, lastOf_append, lastOf_append, lastOf_append, pair]

/-- Whatever is expected and whatever happens, the state and the endpoint tell the last
values of the flags and nothing else. -/
theorem told_after (names : List String) (events : List Event) :
    Told names events (after names events) where
  increasing := pairwise_pending (sorted_after names events)
  mem_pending _ := mem_pending_after
  ready := by
    rw [isReady_iff, isListening_iff names, pending_after_eq_nil_iff]
  ok metrics target path := by
    rw [respond_readiness metrics path, readinessPage_ok_iff]
  deaf metrics target path := by
    rw [respond_readiness metrics path, readinessPage_deaf_iff, isListening_iff names,
      Bool.not_eq_true]
  waiting metrics target path := by
    rw [respond_readiness metrics path, isListening_iff names]
    exact readinessPage_waiting_iff
  decided _ := after_congr names
  commute earlier later flag other value value' different split := by
    subst split
    exact after_congr names fun flag => lastOf_swap flag earlier later different value value'
  unasked := after_congr names fun flag => lastOf_filter_isSetting flag events

/-- A controller that was expected twice is named once, and one that was not expected is
named after it stopped. -/
example :
    (after ["pool", "metallb", "pool"]
      [.set (.running "watcher") true, .set (.running "pool") true, .set .listening true,
        .set (.running "watcher") false, .asked .empty "GET" "/readyz"]).pending =
      ["metallb", "watcher"] := by
  decide

end Readiness

end PoolOperator
