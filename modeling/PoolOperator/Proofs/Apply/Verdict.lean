import PoolOperator.Proofs.Apply.Conduct
import PoolOperator.Proofs.Store.Memory

/-!
# Verdicts

What is to be done with an object depends on the object and the live one alone
(`Object.verdict`).  With a store in memory every call goes as the verdict says:
its result is the one of the verdict, and the store is left as the verdict leaves
it (`run_apply`).
-/

namespace PoolOperator

/-- What is to be done with an object once the live one is known. -/
inductive Verdict where
  /-- Nothing, because of an error. -/
  | refuse (error : ApplyError)
  /-- The object is created. -/
  | create
  /-- Nothing, because the live object is as it should be. -/
  | leave
  /-- The live object is replaced. -/
  | replace (merged : Object)

namespace Verdict

/-- The result of a call that goes as a verdict says. -/
def result : Verdict → Except ApplyError Outcome
  | .refuse error => .error error
  | .create => .ok .created
  | .leave => .ok .unchanged
  | .replace _ => .ok .updated

/-- The verdict once the merged object was compared with the live one. -/
def ofComparison (merged : Object) : Except String Bool → Verdict
  | .error reason => .refuse (.incomparable reason)
  | .ok true => .leave
  | .ok false => .replace merged

/-- The verdict once the object was merged into the live one. -/
def ofMerge (label : String) (current : Object) : Except MergeError Object → Verdict
  | .error source => .refuse (.merge label source)
  | .ok merged => ofComparison merged (current.same merged)

/-- The verdict on an object that can be applied. -/
def ofLive (label : String) (desired : Object) : Option Object → Verdict
  | none => .create
  | some current => .ofMerge label current (merge current desired)

end Verdict

namespace Object

/-- How messages name an object that can be applied; for any other object the
reason why it cannot be. -/
def admission (desired : Object) : Except ApplyError String :=
  desired.label.bind fun label =>
    ((checkSupported desired).mapError (.merge label)).map fun _ => label

/-- The verdict on an object if a certain object is live, or none is. -/
def verdict (desired : Object) (live? : Option Object) : Verdict :=
  match desired.admission with
  | .error error => .refuse error
  | .ok label => .ofLive label desired live?

theorem admission_of_label {desired : Object} {error : ApplyError}
    (labelled : desired.label = .error error) : desired.admission = .error error := by
  rw [admission, labelled]
  rfl

theorem admission_of_check {desired : Object} {label : String} {source : MergeError}
    (labelled : desired.label = .ok label) (checked : checkSupported desired = .error source) :
    desired.admission = .error (.merge label source) := by
  rw [admission, labelled, checked]
  rfl

theorem admission_of_supported {desired : Object} {label : String}
    (labelled : desired.label = .ok label) (checked : checkSupported desired = .ok ()) :
    desired.admission = .ok label := by
  rw [admission, labelled, checked]
  rfl

theorem applicable_of_admission {desired : Object} {label : String}
    (admitted : desired.admission = .ok label) : desired.Applicable := by
  cases labelled : desired.label with
  | error error =>
      rw [admission_of_label labelled] at admitted
      cases admitted
  | ok label' =>
      cases checked : checkSupported desired with
      | error source =>
          rw [admission_of_check labelled checked] at admitted
          cases admitted
      | ok _ => exact applicable_iff.mpr ⟨⟨label', labelled⟩, checked⟩

theorem not_applicable_of_admission {desired : Object} {error : ApplyError}
    (refused : desired.admission = .error error) : ¬ desired.Applicable := by
  intro applicable
  obtain ⟨⟨label, labelled⟩, checked⟩ := applicable_iff.mp applicable
  rw [admission_of_supported labelled checked] at refused
  cases refused

end Object

/-! ## Calls in a store in memory -/

namespace MemoryStore

/-- The verdict on an object in a store. -/
def verdict (store : MemoryStore) (desired : Object) : Verdict :=
  desired.verdict (store.find? desired.key)

/-- The store once a verdict on an object was carried out. -/
def carryOut (store : MemoryStore) (desired : Object) : Verdict → MemoryStore
  | .refuse _ => store
  | .create => (store.create desired).2
  | .leave => store
  | .replace merged => (store.replace merged).2

/-- The store once an object was applied. -/
def next (store : MemoryStore) (desired : Object) : MemoryStore :=
  store.carryOut desired (store.verdict desired)

/-- The results of applying objects one after another. -/
def results (store : MemoryStore) : List Object → List (Except ApplyError Outcome)
  | [] => []
  | desired :: rest => (store.verdict desired).result :: (store.next desired).results rest

end MemoryStore

variable (surroundings : Surroundings (StateM MemoryStore))

theorem run_comparing (desired current : Object) (label : String)
    (merged : Except MergeError Object) (metrics : Metrics) (store : MemoryStore) :
    ∃ metrics' : Metrics,
      (surroundings.inMemory.run (Object.comparing label current merged) metrics).run store =
        (((Verdict.ofMerge label current merged).result, metrics'),
          store.carryOut desired (.ofMerge label current merged)) := by
  cases merged with
  | error source => exact ⟨_, rfl⟩
  | ok merged =>
      rw [Object.comparing, Verdict.ofMerge]
      cases current.same merged with
      | error reason => exact ⟨_, rfl⟩
      | ok equal => cases equal <;> exact ⟨_, rfl⟩

/-- A call goes as the verdict says. -/
theorem run_apply (desired : Object) (metrics : Metrics) (store : MemoryStore) :
    ∃ metrics' : Metrics,
      (surroundings.inMemory.run (apply desired).run metrics).run store =
        (((store.verdict desired).result, metrics'), store.next desired) := by
  rw [apply_run, MemoryStore.next, MemoryStore.verdict, Object.verdict]
  cases labelled : desired.label with
  | error error =>
      rw [Object.admission_of_label labelled]
      exact ⟨metrics, rfl⟩
  | ok label =>
      rw [Object.applying]
      cases checked : checkSupported desired with
      | error source =>
          rw [Object.admission_of_check labelled checked]
          exact ⟨_, rfl⟩
      | ok _ =>
          rw [Object.admission_of_supported labelled checked, Object.checking, Object.fetching,
            Surroundings.run_get]
          cases store.find? desired.key with
          | none => exact ⟨_, rfl⟩
          | some current => exact run_comparing surroundings desired current label _ metrics store

namespace MemoryStore

/-- The result of applying an object in a store, and the store after it. -/
def applyOne (metrics : Metrics) (store : MemoryStore) (desired : Object) :
    Except ApplyError Outcome × MemoryStore :=
  let ((result, _), after) := (surroundings.inMemory.run (apply desired).run metrics).run store
  (result, after)

theorem applyOne_eq (metrics : Metrics) (store : MemoryStore) (desired : Object) :
    applyOne surroundings metrics store desired =
      ((store.verdict desired).result, store.next desired) := by
  obtain ⟨metrics', ran⟩ := run_apply surroundings desired metrics store
  rw [applyOne, ran]

end MemoryStore

end PoolOperator
