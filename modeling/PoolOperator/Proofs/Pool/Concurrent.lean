import PoolOperator.Proofs.Concurrent
import PoolOperator.Proofs.Pool.Course

/-!
# Configuring pools side by side

Any number of pools are configured at the same time in one namespace.  What
each run may still do is told by its stage (`Stage`).  A run that is about to
replace the ConfigMap knows by its version which one it merged its entry into,
so a write is only accepted if nobody has written in between.  Therefore the
live pools are always those at the start, and after them the entries of the
runs whose write was accepted (`Invariant`).
-/

namespace PoolOperator

namespace Configuring

variable {ι : Type} (pools : ι → AddressPool) (space : String) (live : List PoolEntry)

/-- The pools at the start, and the entries that were written since. -/
def entriesAfter (log : List (Event ι)) : List PoolEntry :=
  live ++ (acceptedRuns log).map fun run => (pools run).toEntry

/-- Was the entry of a run missing at one of its calls? -/
def WasMissing (log : List (Event ι)) (run : ι) : Prop :=
  ∃ (before : List (Event ι)) (event : Event ι) (after : List (Event ι)),
    log = before ++ event :: after ∧ event.run = run
      ∧ (pools run).toEntry ∉ entriesAfter pools live before

/-- Has a run read a list of pools with its entry? -/
def HasFound (log : List (Event ι)) (run : ι) : Prop :=
  ∃ (object : Object) (read : List PoolEntry),
    ⟨run, .get ((pools run).configMap space), Except.ok (some object)⟩ ∈ log
      ∧ livePools object = .ok read ∧ (pools run).toEntry ∈ read

/-- How far a run is, with what it may rely on. -/
inductive Stage (server : Server) (log : List (Event ι)) (run : ι) :
    Operation (Except ApplyError Outcome) → Prop
  /-- The live ConfigMap is about to be looked at. -/
  | looking (notWritten : run ∉ acceptedRuns log) :
      Stage server log run
        (.ask (.store (.get ((pools run).configMap space))) ((pools run).looking space))
  /-- The live ConfigMap is about to be fetched for merging. -/
  | fetching (notWritten : run ∉ acceptedRuns log) (missing : WasMissing pools live log run) :
      Stage server log run
        (.ask (.store (.get ((pools run).configMap space))) ((pools run).merging space))
  /-- The ConfigMap is about to be created. -/
  | creating (notWritten : run ∉ acceptedRuns log) (missing : WasMissing pools live log run) :
      Stage server log run
        (.ask (.store (.create ((pools run).configMap space))) (Object.finishing .created))
  /-- The ConfigMap is about to be replaced by one that a certain version was
  merged into. -/
  | replacing (notWritten : run ∉ acceptedRuns log) (missing : WasMissing pools live log run)
      (current : Object) (read : List PoolEntry) (readable : livePools current = .ok read)
      (remembered : server.Remembers (poolMapKey space) current) :
      Stage server log run
        (.ask (.store (.replace ((pools run).mergedMap space current read)))
          (Object.finishing .updated))
  /-- The write is about to be counted. -/
  | counting (written : run ∈ acceptedRuns log) (missing : WasMissing pools live log run)
      (outcome : Outcome) (changed : outcome ≠ .unchanged) :
      Stage server log run
        (.ask (.count .objectsApplied outcome.name) fun _ => .done (.ok outcome))
  /-- The entry was written. -/
  | finished (written : run ∈ acceptedRuns log) (missing : WasMissing pools live log run)
      (outcome : Outcome) (changed : outcome ≠ .unchanged) :
      Stage server log run (.done (.ok outcome))
  /-- The entry was there. -/
  | present (notWritten : run ∉ acceptedRuns log) (found : HasFound pools space log run) :
      Stage server log run (.done (.ok .unchanged))
  /-- A call was refused. -/
  | failed (notWritten : run ∉ acceptedRuns log) (error : ApplyError) :
      Stage server log run (.done (.error error))

variable {pools space live} {server after : Server} {log : List (Event ι)} {run : ι}

theorem WasMissing.append (missing : WasMissing pools live log run) (others : List (Event ι)) :
    WasMissing pools live (log ++ others) run := by
  obtain ⟨before, event, behind, rfl, same, absent⟩ := missing
  exact ⟨before, event, behind ++ others, by simp, same, absent⟩

theorem HasFound.append (found : HasFound pools space log run) (others : List (Event ι)) :
    HasFound pools space (log ++ others) run := by
  obtain ⟨object, read, member, rest⟩ := found
  exact ⟨object, read, List.mem_append_left others member, rest⟩

/-! ## A call of another run -/

theorem mem_acceptedRuns_append_of_ne (log : List (Event ι)) {event : Event ι}
    (other : event.run ≠ run) :
    run ∈ acceptedRuns (log ++ [event]) ↔ run ∈ acceptedRuns log := by
  rw [acceptedRuns_append, List.mem_append]
  refine ⟨fun either => either.resolve_right fun member => ?_, .inl⟩
  cases write : event.isWrite with
  | true =>
      rw [acceptedRuns_of_write write, List.mem_singleton] at member
      exact other member.symm
  | false =>
      rw [acceptedRuns_of_not_write write] at member
      cases member

/-- A run stays at its stage while another one is answered. -/
theorem Stage.other {operation : Operation (Except ApplyError Outcome)}
    (stage : Stage pools space live server log run operation) {event : Event ι}
    (other : event.run ≠ run) (answers : server.Answers event.call event.answer after) :
    Stage pools space live after (log ++ [event]) run operation := by
  have same := mem_acceptedRuns_append_of_ne log other
  cases stage with
  | looking notWritten => exact .looking (mt same.mp notWritten)
  | fetching notWritten missing => exact .fetching (mt same.mp notWritten) (missing.append _)
  | creating notWritten missing => exact .creating (mt same.mp notWritten) (missing.append _)
  | replacing notWritten missing current read readable remembered =>
      exact .replacing (mt same.mp notWritten) (missing.append _) current read readable
        (answers.remembers remembered)
  | counting written missing outcome changed =>
      exact .counting (same.mpr written) (missing.append _) outcome changed
  | finished written missing outcome changed =>
      exact .finished (same.mpr written) (missing.append _) outcome changed
  | present notWritten found => exact .present (mt same.mp notWritten) (found.append _)
  | failed notWritten error => exact .failed (mt same.mp notWritten) error

/-! ## A call of the run itself -/

theorem entriesAfter_of_write {event : Event ι} (write : event.isWrite = true) :
    entriesAfter pools live (log ++ [event]) =
      entriesAfter pools live log ++ [(pools event.run).toEntry] := by
  rw [entriesAfter, entriesAfter, acceptedRuns_append, acceptedRuns_of_write write, List.map_append,
    List.append_assoc]
  rfl

theorem acceptedRuns_append_of_not_write {event : Event ι} (noWrite : event.isWrite = false) :
    acceptedRuns (log ++ [event]) = acceptedRuns log := by
  rw [acceptedRuns_append, acceptedRuns_of_not_write noWrite, List.append_nil]

theorem entriesAfter_of_not_write {event : Event ι} (noWrite : event.isWrite = false) :
    entriesAfter pools live (log ++ [event]) = entriesAfter pools live log := by
  rw [entriesAfter, entriesAfter, acceptedRuns_append_of_not_write noWrite]

theorem mem_acceptedRuns_of_write {event : Event ι} (write : event.isWrite = true) :
    event.run ∈ acceptedRuns (log ++ [event]) := by
  rw [acceptedRuns_append, acceptedRuns_of_write write]
  exact List.mem_append_right _ List.mem_cons_self

variable (pools space live) in
/-- What is kept when a run is answered: the pools of the server, and what the
run may rely on. -/
structure Kept (after : Server) (log : List (Event ι)) (event : Event ι)
    (operation : Operation (Except ApplyError Outcome)) : Prop where
  holds : HoldsPools (after.live (poolMapKey space)) (entriesAfter pools live (log ++ [event]))
  stage : Stage pools space live after (log ++ [event]) event.run operation
  once : event.isWrite = true → event.run ∉ acceptedRuns log

theorem Kept.of_not_write {event : Event ι} {operation : Operation (Except ApplyError Outcome)}
    (holds : HoldsPools (server.live (poolMapKey space)) (entriesAfter pools live log))
    (noWrite : event.isWrite = false)
    (stage : Stage pools space live server (log ++ [event]) event.run operation) :
    Kept pools space live server log event operation := by
  refine ⟨?_, stage, fun write => ?_⟩
  · rw [entriesAfter_of_not_write noWrite]
    exact holds
  · rw [noWrite] at write
    cases write

theorem Kept.refused {event : Event ι} {error : ApplyError}
    (holds : HoldsPools (server.live (poolMapKey space)) (entriesAfter pools live log))
    (noWrite : event.isWrite = false) (notWritten : event.run ∉ acceptedRuns log) :
    Kept pools space live server log event (.done (.error error)) := by
  refine .of_not_write holds noWrite (.failed ?_ error)
  rw [acceptedRuns_append_of_not_write noWrite]
  exact notWritten

theorem Kept.accepted {event : Event ι} {stored : Object} {version : String} {outcome : Outcome}
    (write : event.isWrite = true) (notWritten : event.run ∉ acceptedRuns log)
    (missing : WasMissing pools live log event.run) (changed : outcome ≠ .unchanged)
    (key : stored.key = poolMapKey space)
    (body : stored.body = poolBody (entriesAfter pools live log ++ [(pools event.run).toEntry])) :
    Kept pools space live (server.store stored version) log event
      (.ask (.count .objectsApplied outcome.name) fun _ => .done (.ok outcome)) := by
  refine ⟨?_, .counting (mem_acceptedRuns_of_write write) (missing.append _) outcome changed,
    fun _ => notWritten⟩
  rw [entriesAfter_of_write write, ← key, server.live_store_self]
  exact .of_poolBody body

theorem Kept.looked {answer : Except ApplyError (Option Object)}
    (holds : HoldsPools (server.live (poolMapKey space)) (entriesAfter pools live log))
    (notWritten : run ∉ acceptedRuns log)
    (answers : server.Answers (.get ((pools run).configMap space)) answer after) :
    Kept pools space live after log ⟨run, .get ((pools run).configMap space), answer⟩
      ((pools run).looking space answer) := by
  cases answers with
  | notGot _ error => exact .refused holds rfl notWritten
  | got =>
      refine .of_not_write holds rfl ?_
      rw [key_configMap, (pools run).looking_of_readable space holds.readable]
      by_cases there : (pools run).toEntry ∈ entriesAfter pools live log
      · rw [if_pos there]
        refine .present ?_ ?_
        · rw [acceptedRuns_append_of_not_write rfl]
          exact notWritten
        · cases found : server.live (poolMapKey space) with
          | none =>
              rw [found] at holds
              rw [holds.eq_nil] at there
              cases there
          | some object =>
              have readable := holds.readable
              rw [found] at readable
              exact ⟨object, _, List.mem_append_right log List.mem_cons_self, readable, there⟩
      · rw [if_neg there]
        refine .fetching ?_ ⟨log, _, [], rfl, rfl, there⟩
        rw [acceptedRuns_append_of_not_write rfl]
        exact notWritten

theorem Kept.fetched {answer : Except ApplyError (Option Object)}
    (holds : HoldsPools (server.live (poolMapKey space)) (entriesAfter pools live log))
    (versioned : server.Versioned) (notWritten : run ∉ acceptedRuns log)
    (missing : WasMissing pools live log run)
    (answers : server.Answers (.get ((pools run).configMap space)) answer after) :
    Kept pools space live after log ⟨run, .get ((pools run).configMap space), answer⟩
      ((pools run).merging space answer) := by
  cases answers with
  | notGot _ error => exact .refused holds rfl notWritten
  | got =>
      refine .of_not_write holds rfl ?_
      rw [key_configMap, (pools run).merging_of_holdsPools space holds]
      have stillNotWritten : run ∉ acceptedRuns (log ++ [⟨run, .get ((pools run).configMap space),
          Except.ok (server.live (poolMapKey space))⟩]) := by
        rw [acceptedRuns_append_of_not_write rfl]
        exact notWritten
      cases found : server.live (poolMapKey space) with
      | none =>
          rw [found] at stillNotWritten
          exact .creating stillNotWritten (missing.append _)
      | some current =>
          rw [found] at stillNotWritten
          have readable := holds.readable
          rw [found] at readable
          exact .replacing stillNotWritten (missing.append _) current _ readable
            (versioned.remembers found)

theorem Kept.created {answer : Except ApplyError Object}
    (holds : HoldsPools (server.live (poolMapKey space)) (entriesAfter pools live log))
    (notWritten : run ∉ acceptedRuns log) (missing : WasMissing pools live log run)
    (answers : server.Answers (.create ((pools run).configMap space)) answer after) :
    Kept pools space live after log ⟨run, .create ((pools run).configMap space), answer⟩
      (Object.finishing .created answer) := by
  cases answers with
  | notCreated _ error => exact .refused holds rfl notWritten
  | created _ stored version absent new asSubmitted =>
      rw [← key_configMap (pools run), absent] at holds
      refine .accepted rfl notWritten missing (by decide) asSubmitted.key ?_
      rw [asSubmitted.body, holds.eq_nil]
      rfl

theorem Kept.replaced {answer : Except ApplyError Object} {current : Object} {read : List PoolEntry}
    (holds : HoldsPools (server.live (poolMapKey space)) (entriesAfter pools live log))
    (notWritten : run ∉ acceptedRuns log) (missing : WasMissing pools live log run)
    (readable : livePools current = .ok read)
    (remembered : server.Remembers (poolMapKey space) current)
    (answers : server.Answers (.replace ((pools run).mergedMap space current read)) answer after) :
    Kept pools space live after log ⟨run,
      .replace ((pools run).mergedMap space current read), answer⟩
      (Object.finishing .updated answer) := by
  cases answers with
  | notReplaced _ error => exact .refused holds rfl notWritten
  | replaced _ other stored version present sameVersion new asSubmitted =>
      -- The version is that of the object that the entry was merged into.
      obtain rfl : other = current := remembered.same other present sameVersion.symm
      have livePools := holds.readable
      rw [← (pools run).key_mergedMap space other read, present] at livePools
      have same : read = entriesAfter pools live log :=
        Except.ok.inj (readable.symm.trans livePools)
      refine .accepted rfl notWritten missing (by decide) asSubmitted.key ?_
      rw [asSubmitted.body, ← same]
      rfl

/-- Whatever a run asks the server, what it may rely on is kept. -/
theorem Stage.answered {call : StoreCall}
    {next : call.Answer → Operation (Except ApplyError Outcome)}
    (stage : Stage pools space live server log run (.ask (.store call) next)) {answer : call.Answer}
    (holds : HoldsPools (server.live (poolMapKey space)) (entriesAfter pools live log))
    (versioned : server.Versioned) (answers : server.Answers call answer after) :
    Kept pools space live after log ⟨run, call, answer⟩ (next answer) := by
  cases stage with
  | looking notWritten => exact .looked holds notWritten answers
  | fetching notWritten missing => exact .fetched holds versioned notWritten missing answers
  | creating notWritten missing => exact .created holds notWritten missing answers
  | replacing notWritten missing current read readable remembered =>
      exact .replaced holds notWritten missing readable remembered answers

/-! ## All runs -/

variable (pools space) in
/-- The system in which a pool for each run is configured. -/
def start (server : Server) : System ι (Except ApplyError Outcome) :=
  .start server fun run => (ensurePool (pools run) space).run

variable (pools space live) in
/-- What holds at all times. -/
structure Invariant (system : System ι (Except ApplyError Outcome)) : Prop where
  holds : HoldsPools (system.server.live (poolMapKey space)) (entriesAfter pools live system.log)
  versioned : system.server.Versioned
  once : (acceptedRuns system.log).Nodup
  stages : ∀ run : ι, Stage pools space live system.server system.log run (system.runs run)

theorem invariant_start (holds : HoldsPools (server.live (poolMapKey space)) live)
    (versioned : server.Versioned) : Invariant pools space live (start pools space server) := by
  refine ⟨?_, versioned, .nil, fun run => ?_⟩
  · rw [entriesAfter]
    simpa [start, System.start, acceptedRuns] using holds
  · have first : (start pools space server).runs run = _ := (pools run).ensurePool_run space
    rw [first]
    exact .looking List.not_mem_nil

variable [DecidableEq ι]

theorem invariant_step {system after : System ι (Except ApplyError Outcome)}
    (invariant : Invariant pools space live system) (step : system.Step after) :
    Invariant pools space live after := by
  obtain ⟨holds, versioned, once, stages⟩ := invariant
  cases step with
  | call run call next asks answer server answers =>
      have stage := stages run
      rw [asks] at stage
      obtain ⟨holdsAfter, stageAfter, notTwice⟩ := stage.answered holds versioned answers
      refine ⟨holdsAfter, answers.versioned versioned, ?_, fun other => ?_⟩
      · cases write : Event.isWrite ⟨run, call, answer⟩ with
        | true =>
            rw [acceptedRuns_append, acceptedRuns_of_write write]
            rw [← List.concat_eq_append]
            exact once.concat (notTwice write)
        | false =>
            rw [acceptedRuns_append_of_not_write write]
            exact once
      · dsimp only
        by_cases same : other = run
        · rw [same, Function.update_self]
          exact stageAfter
        · rw [Function.update_of_ne same]
          exact (stages other).other (Ne.symm same) answers
  | other run demand next asks noCall answer =>
      refine ⟨holds, versioned, once, fun other => ?_⟩
      dsimp only
      by_cases same : other = run
      · rw [same, Function.update_self]
        have stage := stages run
        rw [asks] at stage
        cases stage with
        | counting written missing outcome changed =>
            exact .finished written missing outcome changed
        | _ => exact absurd rfl (noCall _)
      · rw [Function.update_of_ne same]
        exact stages other

theorem invariant_reachable {system : System ι (Except ApplyError Outcome)}
    (holds : HoldsPools (server.live (poolMapKey space)) live) (versioned : server.Versioned)
    (reachable : System.Reachable (start pools space server) system) :
    Invariant pools space live system :=
  reachable.invariant (invariant_start holds versioned) fun _ _ => invariant_step

/-- Two runs for one pool both write, if each of them looks before the other one
has written. -/
theorem bothWrite_reachable (pool : AddressPool) (space : String) :
    ∃ system : System Bool (Except ApplyError Outcome),
      System.Reachable (start (fun _ => pool) space .empty) system
        ∧ acceptedRuns system.log = [false, true] := by
  let stored (object : Object) (version : String) : Object :=
    { object with metadata := { object.metadata with resourceVersion := some version } }
  let created := stored (pool.configMap space) "1"
  let merged := pool.mergedMap space created [pool.toEntry]
  have begins := pool.ensurePool_run space
  have there : (Server.store .empty created "1").live (pool.configMap space).key =
      some created := Server.live_store_self _ created "1"
  have merges : pool.merging space (.ok ((Server.store .empty created "1").live
      (pool.configMap space).key)) = pool.writing space [pool.toEntry] (some created) := by
    rw [there]
    exact pool.merging_of_holdsPools space (.of_poolBody rfl)
  have newVersion : "2" ∉ ["1"] := by decide
  have look (run : Bool) {system : System Bool (Except ApplyError Outcome)}
      (asks : system.runs run = .ask (.store (.get (pool.configMap space))) (pool.looking space)) :=
    System.Step.call run (.get (pool.configMap space)) (pool.looking space) asks _ _ (.got _)
  have fetch (run : Bool) {system : System Bool (Except ApplyError Outcome)}
      (asks : system.runs run = .ask (.store (.get (pool.configMap space))) (pool.merging space)) :=
    System.Step.call run (.get (pool.configMap space)) (pool.merging space) asks _ _ (.got _)
  -- Both runs look, and see no ConfigMap.
  have started : System.Reachable (start (fun _ : Bool => pool) space .empty)
      (start (fun _ => pool) space .empty) := .start
  have looked := (started.step (look false begins)).step (look true begins)
  -- One of them creates it, and the other one fetches what was created.
  have wrote := (looked.step (fetch false rfl)).step
    (.call false (.create (pool.configMap space)) (Object.finishing .created) rfl _ _
      (.created _ created "1" rfl List.not_mem_nil ⟨rfl, rfl, rfl⟩))
  exact ⟨_, (wrote.step (fetch true rfl)).step
    (.call true (.replace merged) (Object.finishing .updated) merges _ _
      (.replaced _ created (stored merged "2") "2" there rfl newVersion ⟨rfl, rfl, rfl⟩)), rfl⟩

/-- At any time the live pools are those at the start, followed by the entries
of the runs whose write was accepted, in the order of the writes.  Each run
writes at most once.  A run that created or updated the ConfigMap has written,
one that failed has not, and one that found nothing to change has read its
entry. -/
theorem livePools_reachable {system : System ι (Except ApplyError Outcome)}
    (holds : HoldsPools (server.live (poolMapKey space)) live) (versioned : server.Versioned)
    (reachable : System.Reachable (start pools space server) system) :
    poolsIn (system.server.live (poolMapKey space)) =
        .ok (live ++ (acceptedRuns system.log).map fun run => (pools run).toEntry)
      ∧ (acceptedRuns system.log).Nodup
      ∧ ∀ (run : ι) (result : Except ApplyError Outcome), system.runs run = .done result →
          match result with
          | .error _ => run ∉ acceptedRuns system.log
          | .ok .unchanged => run ∉ acceptedRuns system.log ∧ HasFound pools space system.log run
          | .ok .created => run ∈ acceptedRuns system.log
          | .ok .updated => run ∈ acceptedRuns system.log := by
  have invariant := invariant_reachable holds versioned reachable
  refine ⟨invariant.holds.readable, invariant.once, fun run result ended => ?_⟩
  have stage := invariant.stages run
  rw [ended] at stage
  cases stage with
  | failed notWritten error => exact notWritten
  | present notWritten found => exact ⟨notWritten, found⟩
  | finished written missing outcome changed =>
      cases outcome with
      | unchanged => exact absurd rfl changed
      | created => exact written
      | updated => exact written

/-- Two runs for one pool that both write, on a server without objects. -/
theorem livePools_bothWritten :
    ∃ system : System Bool (Except ApplyError Outcome),
      HoldsPools (Server.empty.live (poolMapKey "here")) []
        ∧ Server.empty.Versioned
        ∧ System.Reachable (start (fun _ => .plain "one") "here" .empty) system
        ∧ poolsIn (system.server.live (poolMapKey "here")) =
          .ok [(AddressPool.plain "one").toEntry, (AddressPool.plain "one").toEntry] := by
  obtain ⟨system, reachable, accepted⟩ := bothWrite_reachable (.plain "one") "here"
  have holds : HoldsPools (Server.empty.live (poolMapKey "here")) [] := .absent
  have versioned := Server.versioned_empty
  obtain ⟨readable, -⟩ := livePools_reachable holds versioned reachable
  simp only [accepted, List.map_cons, List.map_nil, List.nil_append] at readable
  exact ⟨system, holds, versioned, reachable, readable⟩

end Configuring

end PoolOperator
