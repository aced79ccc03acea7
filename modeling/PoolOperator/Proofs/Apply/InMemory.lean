import PoolOperator.Proofs.Apply.Verdict
import PoolOperator.Proofs.Object.WellFormed
import PoolOperator.Proofs.Store.Order

/-!
# Applying objects one after another

With a store in memory a call leaves the store as it is, creates the object, or
replaces the live one by the merged one (`Applied`).  What calls one after another
do is a `History` of the store.  What no call is about stays as it is
(`find?_of_history`), the objects stay in order (`inOrder_of_history`), and the
counters of the store count the calls that wrote (`History.versions`,
`History.replacements`).
-/

namespace PoolOperator

/-! ## Keys -/

namespace Object

/-- Under the key of an object with a kind there are objects of the same type. -/
theorem type?_eq_of_key {one other : Object} (typed : other.groupKind.kind ≠ "")
    (key : one.key = other.key) :
    one.type? = other.type? := by
  have versions : one.key.apiVersion = other.key.apiVersion := congrArg ObjectKey.apiVersion key
  have kinds : one.key.kind = other.key.kind := congrArg ObjectKey.kind key
  simp only [groupKind, Object.key] at typed versions kinds
  cases known : other.type? with
  | none =>
      rw [known] at typed
      exact absurd rfl typed
  | some type =>
      rw [known] at typed versions kinds
      cases found : one.type? with
      | none =>
          rw [found] at kinds
          exact absurd kinds.symm typed
      | some type' =>
          rw [found] at versions kinds
          obtain ⟨version, kind⟩ := type
          obtain ⟨version', kind'⟩ := type'
          cases versions
          cases kinds
          rfl

theorem groupKind_eq_of_type? {one other : Object} (type : one.type? = other.type?) :
    one.groupKind = other.groupKind := by
  rw [groupKind, groupKind, type]

end Object

namespace Object.WellFormed

variable {object : Object}

theorem created (wellFormed : object.WellFormed) (version : Nat) :
    (MemoryStore.created object version).WellFormed :=
  ⟨wellFormed.body, wellFormed.annotations, wellFormed.labels, wellFormed.noMetadata,
    wellFormed.noType⟩

theorem replaced (wellFormed : object.WellFormed) (version : Nat) :
    (MemoryStore.replaced object version).WellFormed :=
  ⟨wellFormed.body, wellFormed.annotations, wellFormed.labels, wellFormed.noMetadata,
    wellFormed.noType⟩

end Object.WellFormed

namespace MemoryStore

/-! ## One call -/

/-- What one call does to a store. -/
inductive Applied (desired : Object) (before : MemoryStore) :
    Except ApplyError Outcome → MemoryStore → Prop
  /-- The object cannot be applied, merged or compared. -/
  | failed {error : ApplyError} (reason : ¬ desired.Applicable ∨ ∃ current : Object,
      before.find? desired.key = some current ∧ ((∃ source, merge current desired = .error source)
        ∨ ∃ (merged : Object) (reason : String),
            merge current desired = .ok merged ∧ current.same merged = .error reason)) :
      Applied desired before (.error error) before
  /-- There is no live object. -/
  | created (applicable : desired.Applicable) (absent : before.find? desired.key = none) :
      Applied desired before (.ok .created) (before.create desired).2
  /-- The live object is as it should be. -/
  | unchanged {current merged : Object} (applicable : desired.Applicable)
      (present : before.find? desired.key = some current)
      (done : merge current desired = .ok merged)
      (same : current.same merged = .ok true) : Applied desired before (.ok .unchanged) before
  /-- The live object is replaced. -/
  | updated {current merged : Object} (applicable : desired.Applicable)
      (present : before.find? desired.key = some current)
      (done : merge current desired = .ok merged)
      (different : current.same merged = .ok false) :
      Applied desired before (.ok .updated) (before.replace merged).2

end MemoryStore

/-- Following a verdict has the effect that goes with its result. -/
theorem MemoryStore.applied_next (store : MemoryStore) (desired : Object) :
    Applied desired store (store.verdict desired).result (store.next desired) := by
  rw [next, verdict, Object.verdict]
  cases admitted : desired.admission with
  | error error => exact .failed (.inl (Object.not_applicable_of_admission admitted))
  | ok label =>
      have applicable := Object.applicable_of_admission admitted
      cases there : store.find? desired.key with
      | none => exact .created applicable there
      | some current =>
          simp only [Verdict.ofLive]
          cases done : merge current desired with
          | error source => exact .failed (.inr ⟨current, there, .inl ⟨source, done⟩⟩)
          | ok merged =>
              rw [Verdict.ofMerge]
              cases same : current.same merged with
              | error reason =>
                  exact .failed (.inr ⟨current, there, .inr ⟨merged, reason, done, same⟩⟩)
              | ok equal =>
                  cases equal with
                  | true => exact .unchanged applicable there done same
                  | false => exact .updated applicable there done same

/-- A call has a result, and an effect that goes with it. -/
theorem apply_inMemory (surroundings : Surroundings (StateM MemoryStore)) (desired : Object)
    (metrics : Metrics) (store : MemoryStore) :
    ∃ (result : Except ApplyError Outcome) (metrics' : Metrics) (after : MemoryStore),
      (surroundings.inMemory.run (apply desired).run metrics).run store =
        ((result, metrics'), after)
        ∧ MemoryStore.Applied desired store result after := by
  obtain ⟨metrics', ran⟩ := run_apply surroundings desired metrics store
  exact ⟨_, metrics', _, ran, store.applied_next desired⟩

namespace MemoryStore

/-- What becomes of the object under a key when another object is applied. -/
inductive Fate (desired : Object) (key : ObjectKey) :
    Except ApplyError Outcome → Option Object → Option Object → Prop
  /-- The call is about another key. -/
  | apart {result : Except ApplyError Outcome} {live? : Option Object}
      (different : key ≠ desired.key) :
      Fate desired key result live? live?
  /-- The call fails. -/
  | failed {error : ApplyError} {live? : Option Object} :
      Fate desired key (.error error) live? live?
  /-- The object is created. -/
  | created (version : Nat) (addressed : key = desired.key) (applicable : desired.Applicable) :
      Fate desired key (.ok .created) none (some (created desired version))
  /-- The live object is as it should be. -/
  | unchanged {current merged : Object} (addressed : key = desired.key)
      (applicable : desired.Applicable)
      (type : current.type? = desired.type?) (done : merge current desired = .ok merged)
      (same : current.same merged = .ok true) :
      Fate desired key (.ok .unchanged) (some current) (some current)
  /-- The live object is replaced. -/
  | updated {current merged : Object} (version : Nat) (addressed : key = desired.key)
      (applicable : desired.Applicable) (type : current.type? = desired.type?)
      (done : merge current desired = .ok merged) :
      Fate desired key (.ok .updated) (some current) (some (replaced merged version))

section

variable {desired : Object} {before after : MemoryStore} {result : Except ApplyError Outcome}

/-- Objects under other keys stay as they are. -/
theorem Applied.find?_of_ne (applied : Applied desired before result after) {key : ObjectKey}
    (different : key ≠ desired.key) : after.find? key = before.find? key := by
  cases applied with
  | failed reason => rfl
  | created applicable absent => exact find?_eq_of_others (before.others_create desired) different
  | unchanged applicable present done same => rfl
  | @updated current merged applicable present done notSame =>
      exact find?_eq_of_others (before.others_replace merged) (key_merge done ▸ different)

/-- A call keeps the objects in the order of their keys. -/
theorem Applied.inOrder (applied : Applied desired before result after) (inOrder : before.InOrder) :
    after.InOrder := by
  cases applied with
  | failed reason => exact inOrder
  | created applicable absent => exact inOrder.create desired
  | unchanged applicable present done same => exact inOrder
  | @updated current merged applicable present done different => exact inOrder.replace merged

/-- A call decides what becomes of the object under every key. -/
theorem Applied.fate (applied : Applied desired before result after) (key : ObjectKey) :
    Fate desired key result (before.find? key) (after.find? key) := by
  by_cases addressed : key = desired.key
  · subst addressed
    cases applied with
    | failed reason => exact .failed
    | created applicable absent =>
        rw [absent, find?_create]
        exact .created _ rfl applicable
    | unchanged applicable present done same =>
        rw [present]
        exact .unchanged rfl applicable
          (Object.type?_eq_of_key applicable.typed (key_of_find? present)) done same
    | updated applicable present done different =>
        rw [present, ← key_merge done, find?_replace]
        exact .updated _ (key_merge done) applicable
          (Object.type?_eq_of_key applicable.typed (key_of_find? present)) done
  · rw [applied.find?_of_ne addressed]
    exact .apart addressed

end

/-! ## Calls one after another -/

/-- What calls one after another do to a store.  A call is an object that is
applied, with the result. -/
inductive History : MemoryStore → List (Object × Except ApplyError Outcome) → MemoryStore → Prop
  /-- There is no call. -/
  | nil (store : MemoryStore) : History store [] store
  /-- A call, and the others after it. -/
  | cons {before between after : MemoryStore} {desired : Object}
      {result : Except ApplyError Outcome}
      {calls : List (Object × Except ApplyError Outcome)}
      (first : Applied desired before result between)
      (others : History between calls after) : History before ((desired, result) :: calls) after

theorem inOrder_of_history {store after : MemoryStore}
    {calls : List (Object × Except ApplyError Outcome)} (history : History store calls after)
    (inOrder : store.InOrder) : after.InOrder := by
  induction history with
  | nil store => exact inOrder
  | cons first others induction => exact induction (first.inOrder inOrder)

/-- What no call is about stays as it is. -/
theorem find?_of_history {store after : MemoryStore}
    {calls : List (Object × Except ApplyError Outcome)} (history : History store calls after)
    {key : ObjectKey} (others : ∀ call ∈ calls, key ≠ call.1.key) :
    after.find? key = store.find? key := by
  induction history with
  | nil store => rfl
  | @cons store between after desired result calls first rest induction =>
      rw [induction fun call member => others call (List.mem_cons_of_mem _ member)]
      exact first.find?_of_ne (others _ List.mem_cons_self)

/-- How many calls had an outcome. -/
def tally (outcome : Outcome) (calls : List (Object × Except ApplyError Outcome)) : Nat :=
  calls.countP fun call => call.2 = .ok outcome

theorem tally_append (outcome : Outcome)
    (calls calls' : List (Object × Except ApplyError Outcome)) :
    tally outcome (calls ++ calls') = tally outcome calls + tally outcome calls' :=
  List.countP_append

theorem tally_cons (outcome : Outcome) (call : Object × Except ApplyError Outcome)
    (calls : List (Object × Except ApplyError Outcome)) :
    tally outcome (call :: calls) = tally outcome [call] + tally outcome calls :=
  tally_append outcome [call] calls

theorem tally_singleton {outcome : Outcome} {desired : Object}
    {result : Except ApplyError Outcome} :
    tally outcome [(desired, result)] = if result = .ok outcome then 1 else 0 := by
  simp [tally, List.countP_cons]

section

variable {desired : Object} {before after : MemoryStore} {result : Except ApplyError Outcome}
  {calls : List (Object × Except ApplyError Outcome)}

theorem Applied.replacements (applied : Applied desired before result after) :
    after.replacements = before.replacements + tally .updated [(desired, result)] := by
  cases applied <;> rfl

theorem Applied.versions (applied : Applied desired before result after) :
    after.versions =
      before.versions +
      (tally .created [(desired, result)] + tally .updated [(desired, result)]) := by
  cases applied <;> rfl

/-- The replacements are counted. -/
theorem History.replacements (history : History before calls after) :
    after.replacements = before.replacements + tally .updated calls := by
  induction history with
  | nil store => rfl
  | @cons before between after desired result calls first others induction =>
      rw [induction, first.replacements, tally_cons .updated _ calls, Nat.add_assoc]

/-- What is created or updated gets a version. -/
theorem History.versions (history : History before calls after) :
    after.versions = before.versions + (tally .created calls + tally .updated calls) := by
  induction history with
  | nil store => rfl
  | @cons before between after desired result calls first others induction =>
      rw [induction, first.versions, tally_cons .created _ calls, tally_cons .updated _ calls]
      omega

end

variable (surroundings : Surroundings (StateM MemoryStore))

/-- The results of applying objects one after another in a store, and the store
after it. -/
def applyEach (metrics : Metrics) (store : MemoryStore) (desireds : List Object) :
    List (Except ApplyError Outcome) × MemoryStore :=
  let operation : Operation (List (Except ApplyError Outcome)) :=
    desireds.mapM fun desired => (apply desired).run
  let ((results, _), after) := (surroundings.inMemory.run operation metrics).run store
  (results, after)

theorem run_each (metrics : Metrics) (store : MemoryStore) (desireds : List Object) :
    ∃ metrics' : Metrics,
      (surroundings.inMemory.run (desireds.mapM fun desired => (apply desired).run) metrics).run
        store =
        ((store.results desireds, metrics'), desireds.foldl next store) := by
  induction desireds generalizing metrics store with
  | nil => exact ⟨metrics, rfl⟩
  | cons desired desireds induction =>
      obtain ⟨between, first⟩ := run_apply surroundings desired metrics store
      obtain ⟨metrics', others⟩ := induction between (store.next desired)
      exact ⟨metrics', surroundings.run_mapM_cons (fun desired => (apply desired).run) first others⟩

theorem applyEach_eq (metrics : Metrics) (store : MemoryStore) (desireds : List Object) :
    applyEach surroundings metrics store desireds =
      (store.results desireds, desireds.foldl next store) := by
  obtain ⟨metrics', ran⟩ := run_each surroundings metrics store desireds
  rw [applyEach, ran]

theorem length_results (store : MemoryStore) (desireds : List Object) :
    (store.results desireds).length = desireds.length := by
  induction desireds generalizing store with
  | nil => rfl
  | cons desired desireds induction => exact congrArg (· + 1) (induction (store.next desired))

theorem history_results (store : MemoryStore) (desireds : List Object) :
    History store (desireds.zip (store.results desireds)) (desireds.foldl next store) := by
  induction desireds generalizing store with
  | nil => exact .nil store
  | cons desired desireds induction =>
      exact .cons (store.applied_next desired) (induction (store.next desired))

/-- What calls do is a history. -/
theorem history_applyEach (metrics : Metrics) (store : MemoryStore) (desireds : List Object) :
    History store (desireds.zip (applyEach surroundings metrics store desireds).1)
      (applyEach surroundings metrics store desireds).2 := by
  rw [applyEach_eq]
  exact history_results store desireds

/-- What some calls do after others is a history as well. -/
theorem history_applyEach_append (metrics : Metrics) (store : MemoryStore)
    (earlier later : List Object) :
    ∃ calls : List (Object × Except ApplyError Outcome), calls.map Prod.fst = later
      ∧ History (applyEach surroundings metrics store earlier).2 calls
        (applyEach surroundings metrics store (earlier ++ later)).2 := by
  rw [applyEach_eq, applyEach_eq, List.foldl_append]
  refine ⟨later.zip ((earlier.foldl next store).results later), ?_, history_results _ later⟩
  exact List.map_fst_zip (length_results _ later).ge

end MemoryStore

end PoolOperator
