import PoolOperator.Store.Memory
import PoolOperator.Surroundings

/-!
# The store in memory

What is written to a store in memory is found under its key (`find?_create`,
`find?_replace`), and everything under another key stays as it is
(`others_create`, `others_replace`).  Surroundings may have a store in memory
instead of their own (`Surroundings.inMemory`).
-/

namespace PoolOperator

namespace MemoryStore

/-- The objects that are stored under other keys. -/
def others (store : MemoryStore) (key : ObjectKey) : List Object :=
  store.objects.filter fun object => object.key ≠ key

theorem find?_place (object : Object) (objects : List Object) :
    ((place object objects).find? fun other => other.key = object.key) = some object := by
  induction objects with
  | nil => simp [place]
  | cons first rest induction =>
      rw [place]
      split
      next => simp
      next different =>
        split
        next => simp
        next => simpa [different] using induction

theorem filter_place (object : Object) (objects : List Object) :
    ((place object objects).filter fun other => other.key ≠ object.key) =
      objects.filter fun other => other.key ≠ object.key := by
  induction objects with
  | nil => simp [place]
  | cons first rest induction =>
      rw [place]
      split
      next same => simp [same]
      next different =>
        split
        next => simp
        next => simpa [different] using induction

theorem find?_create (store : MemoryStore) (object : Object) :
    (store.create object).2.find? object.key = some (created object (store.versions + 1)) :=
  find?_place (created object (store.versions + 1)) store.objects

theorem find?_replace (store : MemoryStore) (object : Object) :
    (store.replace object).2.find? object.key = some (replaced object (store.versions + 1)) :=
  find?_place (replaced object (store.versions + 1)) store.objects

theorem others_create (store : MemoryStore) (object : Object) :
    (store.create object).2.others object.key = store.others object.key :=
  filter_place (created object (store.versions + 1)) store.objects

theorem others_replace (store : MemoryStore) (object : Object) :
    (store.replace object).2.others object.key = store.others object.key :=
  filter_place (replaced object (store.versions + 1)) store.objects

theorem find?_eq_of_others {before after : MemoryStore} {written key : ObjectKey}
    (others : after.others written = before.others written) (different : key ≠ written) :
    after.find? key = before.find? key := by
  have passed (store : MemoryStore) : store.find? key =
      (store.others written).find? fun object => object.key = key := by
    rw [MemoryStore.others, List.find?_filter]
    refine congrArg (store.objects.find? ·) (funext fun object => ?_)
    by_cases same : object.key = key <;> simp [same, different]
  rw [passed, passed, others]

theorem key_of_find? {store : MemoryStore} {key : ObjectKey} {object : Object}
    (there : store.find? key = some object) : object.key = key := by
  simpa using List.find?_some there

end MemoryStore

/-! ## Running operations -/

/-- Surroundings with a store in memory instead of their own. -/
def Surroundings.inMemory (surroundings : Surroundings (StateM MemoryStore)) :
    Surroundings (StateM MemoryStore) :=
  { surroundings with store := MemoryStore.answer }

/-- Surroundings where there is only a store in memory. -/
def Surroundings.idle : Surroundings (StateM MemoryStore) where
  store := MemoryStore.answer
  patchStatus _ _ _ := pure (.ok ())
  now := pure ""
  elapsed := pure (.zero false)

variable (surroundings : Surroundings (StateM MemoryStore))

/-- A look into the store in memory, before the rest of an operation. -/
theorem Surroundings.run_get {α : Type} (object : Object)
    (next : Except ApplyError (Option Object) → Operation α) (metrics : Metrics)
    (store : MemoryStore) :
    (surroundings.inMemory.run (.ask (.store (.get object)) next) metrics).run store =
      (surroundings.inMemory.run (next (.ok (store.find? object.key))) metrics).run store := rfl

/-- Two operations one after another. -/
theorem Surroundings.run_andThen {α β : Type} {first : Operation α} {metrics between : Metrics}
    {store middle : MemoryStore} {result : α}
    (ran : (surroundings.inMemory.run first metrics).run store = ((result, between), middle))
    (next : α → Operation β) :
    (surroundings.inMemory.run (first >>= next) metrics).run store =
      (surroundings.inMemory.run (next result) between).run middle := by
  have split : (first >>= next).run surroundings.inMemory.answer =
      first.run surroundings.inMemory.answer >>= fun result =>
        (next result).run surroundings.inMemory.answer :=
    Dialogue.run_bind surroundings.inMemory.answer first next
  rw [Surroundings.run, split, StateT.run_bind, StateT.run_bind]
  rw [Surroundings.run] at ran
  rw [ran]
  rfl

/-- Operations one after another, the first one and then the others. -/
theorem Surroundings.run_mapM_cons {α β : Type} (perform : α → Operation β) {argument : α}
    {arguments : List α} {metrics between metrics' : Metrics} {store middle after : MemoryStore}
    {result : β} {results : List β}
    (first : (surroundings.inMemory.run (perform argument) metrics).run store =
      ((result, between), middle))
    (others : (surroundings.inMemory.run (arguments.mapM perform) between).run middle =
      ((results, metrics'), after)) :
    (surroundings.inMemory.run ((argument :: arguments).mapM perform) metrics).run store =
      ((result :: results, metrics'), after) := by
  rw [List.mapM_cons, surroundings.run_andThen first, surroundings.run_andThen others]
  rfl

end PoolOperator
