import Mathlib.Data.List.Nodup
import Mathlib.Logic.Function.Basic
import PoolOperator.Operation

/-!
# Operations side by side

Several operations run side by side against one server, a call of one of them
after a call of another one, in any order (`System.Step`).  The server guards
its objects by versions: an object is only replaced by one with the version of
the live object, and every write gets a version that was never given before
(`Server.Answers`).  A call may also be refused for any other reason, and then
it has no effect.
-/

namespace PoolOperator

/-! ## The server -/

/-- A server that keeps objects. -/
structure Server where
  /-- The live object under a key. -/
  live : ObjectKey → Option Object
  /-- The versions that were given so far. -/
  given : List String

/-- Is an object stored as it was submitted, under a version?  The server may
fill in metadata. -/
structure Object.StoredAs (submitted stored : Object) (version : String) : Prop where
  key : stored.key = submitted.key
  body : stored.body = submitted.body
  version : stored.metadata.resourceVersion = some version

namespace Server

/-- A server without objects. -/
def empty : Server := ⟨fun _ => none, []⟩

/-- The server with an object stored under a version. -/
def store (server : Server) (object : Object) (version : String) : Server where
  live key := if key = object.key then some object else server.live key
  given := version :: server.given

/-- What a server may answer to a call, and what becomes of the server. -/
inductive Answers (server : Server) : (call : StoreCall) → call.Answer → Server → Prop
  /-- The live object is read. -/
  | got (object : Object) : Answers server (.get object) (Except.ok (server.live object.key)) server
  /-- An object is created if there is none. -/
  | created (object stored : Object) (version : String) (absent : server.live object.key = none)
      (new : version ∉ server.given) (asSubmitted : object.StoredAs stored version) :
      Answers server (.create object) (Except.ok stored) (server.store stored version)
  /-- An object is replaced if it still has the submitted version. -/
  | replaced (object current stored : Object) (version : String)
      (present : server.live object.key = some current)
      (current_version : object.metadata.resourceVersion = current.metadata.resourceVersion)
      (new : version ∉ server.given) (asSubmitted : object.StoredAs stored version) :
      Answers server (.replace object) (Except.ok stored) (server.store stored version)
  /-- Reading is refused. -/
  | notGot (object : Object) (error : ApplyError) :
      Answers server (.get object) (Except.error error) server
  /-- Creating is refused. -/
  | notCreated (object : Object) (error : ApplyError) :
      Answers server (.create object) (Except.error error) server
  /-- Replacing is refused. -/
  | notReplaced (object : Object) (error : ApplyError) :
      Answers server (.replace object) (Except.error error) server

/-- Every live object has a version that was given. -/
def Versioned (server : Server) : Prop :=
  ∀ (key : ObjectKey) (object : Object), server.live key = some object →
    ∃ version ∈ server.given, object.metadata.resourceVersion = some version

theorem versioned_empty : empty.Versioned :=
  fun _ object there => absurd there (Option.some_ne_none object).symm

theorem live_store_self (server : Server) (object : Object) (version : String) :
    (server.store object version).live object.key = some object := if_pos rfl

theorem Versioned.store {server : Server} (versioned : server.Versioned) {object stored : Object}
    {version : String} (asSubmitted : object.StoredAs stored version) :
    (server.store stored version).Versioned := by
  intro key other there
  rw [Server.store] at there ⊢
  simp only at there ⊢
  split at there
  next =>
    cases there
    exact ⟨version, List.mem_cons_self, asSubmitted.version⟩
  next =>
    obtain ⟨old, member, same⟩ := versioned key other there
    exact ⟨old, List.mem_cons_of_mem _ member, same⟩

/-- Live objects keep a version, whatever is answered. -/
theorem Answers.versioned {server after : Server} {call : StoreCall} {answer : call.Answer}
    (answers : server.Answers call answer after) (versioned : server.Versioned) :
    after.Versioned := by
  cases answers with
  | created _ _ _ _ _ asSubmitted => exact versioned.store asSubmitted
  | replaced _ _ _ _ _ _ _ asSubmitted => exact versioned.store asSubmitted
  | _ => exact versioned

/-- The live object under a key is known by its version: it is this one, if it
has the same version. -/
structure Remembers (server : Server) (key : ObjectKey) (object : Object) : Prop where
  given : ∃ version ∈ server.given, object.metadata.resourceVersion = some version
  same : ∀ live : Object, server.live key = some live →
    live.metadata.resourceVersion = object.metadata.resourceVersion → live = object

theorem Versioned.remembers {server : Server} (versioned : server.Versioned) {key : ObjectKey}
    {object : Object} (there : server.live key = some object) : server.Remembers key object := by
  refine ⟨versioned key object there, fun live found _ => ?_⟩
  rw [there] at found
  exact (Option.some.inj found).symm

theorem Remembers.store {server : Server} {key : ObjectKey} {object : Object}
    (remembers : server.Remembers key object) {submitted stored : Object} {version : String}
    (asSubmitted : submitted.StoredAs stored version) (new : version ∉ server.given) :
    (server.store stored version).Remembers key object := by
  obtain ⟨⟨old, member, ofObject⟩, same⟩ := remembers
  refine ⟨⟨old, List.mem_cons_of_mem _ member, ofObject⟩, fun live there equal => ?_⟩
  rw [Server.store] at there
  simp only at there
  split at there
  next =>
    -- What was just stored has a new version, and the object an old one.
    cases there
    rw [asSubmitted.version, ofObject] at equal
    cases equal
    exact absurd member new
  next => exact same live there equal

/-- What is known by its version stays so, whatever is answered. -/
theorem Answers.remembers {server after : Server} {call : StoreCall} {answer : call.Answer}
    (answers : server.Answers call answer after) {key : ObjectKey} {object : Object}
    (remembers : server.Remembers key object) : after.Remembers key object := by
  cases answers with
  | created _ _ _ _ new asSubmitted => exact remembers.store asSubmitted new
  | replaced _ _ _ _ _ _ new asSubmitted => exact remembers.store asSubmitted new
  | _ => exact remembers

end Server

/-! ## Systems -/

/-- A call of one of several runs, and its answer. -/
structure Event (ι : Type) where
  /-- The run. -/
  run : ι
  /-- The call. -/
  call : StoreCall
  /-- The answer. -/
  answer : call.Answer

/-- Was an object written? -/
def Event.isWrite {ι : Type} : Event ι → Bool
  | ⟨_, .create _, .ok _⟩ => true
  | ⟨_, .replace _, .ok _⟩ => true
  | _ => false

/-- The runs whose write was accepted, in the order of the writes. -/
def acceptedRuns {ι : Type} (log : List (Event ι)) : List ι :=
  (log.filter Event.isWrite).map Event.run

/-- Operations that run side by side against one server. -/
structure System (ι α : Type) where
  /-- The server. -/
  server : Server
  /-- What is left of the runs. -/
  runs : ι → Operation α
  /-- The calls so far. -/
  log : List (Event ι)

namespace System

variable {ι α : Type} [DecidableEq ι]

/-- The system before the first call. -/
def start (server : Server) (runs : ι → Operation α) : System ι α := ⟨server, runs, []⟩

/-- What happens next: one of the runs is given an answer, by the server if it
calls the server. -/
inductive Step (system : System ι α) : System ι α → Prop
  /-- A call to the server. -/
  | call (run : ι) (call : StoreCall) (next : call.Answer → Operation α)
      (asks : system.runs run = .ask (.store call) next) (answer : call.Answer) (server : Server)
      (answers : system.server.Answers call answer server) :
      Step system ⟨server, Function.update system.runs run (next answer),
        system.log ++ [⟨run, call, answer⟩]⟩
  /-- Any other demand. -/
  | other (run : ι) (demand : Demand) (next : demand.Answer → Operation α)
      (asks : system.runs run = .ask demand next) (noCall : ∀ call, demand ≠ .store call)
      (answer : demand.Answer) :
      Step system { system with runs := Function.update system.runs run (next answer) }

/-- The systems that a system may become. -/
inductive Reachable (start : System ι α) : System ι α → Prop
  /-- The system itself. -/
  | start : Reachable start start
  /-- One more step. -/
  | step {system after : System ι α} (earlier : Reachable start system) (step : system.Step after) :
      Reachable start after

/-- What holds at the start and is kept by every step holds always. -/
theorem Reachable.invariant {start system : System ι α} (reachable : Reachable start system)
    {holds : System ι α → Prop} (first : holds start)
    (kept : ∀ system after : System ι α, holds system → system.Step after → holds after) :
    holds system := by
  induction reachable with
  | start => exact first
  | step _ step induction => exact kept _ _ induction step

end System

/-! ## Accepted writes -/

section

variable {ι : Type}

theorem acceptedRuns_append (log others : List (Event ι)) :
    acceptedRuns (log ++ others) = acceptedRuns log ++ acceptedRuns others := by
  rw [acceptedRuns, List.filter_append, List.map_append]
  rfl

theorem acceptedRuns_of_write {event : Event ι} (write : event.isWrite = true) :
    acceptedRuns [event] = [event.run] := by
  rw [acceptedRuns, List.filter_cons_of_pos write]
  rfl

theorem acceptedRuns_of_not_write {event : Event ι} (noWrite : event.isWrite = false) :
    acceptedRuns [event] = [] := by
  rw [acceptedRuns, List.filter_cons_of_neg (by rw [noWrite]; exact Bool.false_ne_true)]
  rfl

end

end PoolOperator
