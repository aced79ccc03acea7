import PoolOperator.Proofs.Pool.Course
import PoolOperator.Proofs.Store.Memory

/-!
# Configuring pools one after another

With a store in memory no call fails, and nobody else writes.  Then one call
for a pool adds its entry unless the entry is there (`ensurePool_inMemory`),
and calls one after another add each new entry once.
-/

namespace PoolOperator

/-! ## The pools in a store -/

namespace MemoryStore

/-- The pools of a namespace in a store.  Without a ConfigMap there are none. -/
def pools (store : MemoryStore) (space : String) : Except MergeError (List PoolEntry) :=
  poolsIn (store.find? (poolMapKey space))

/-- What one call does to a store: nothing if the entry was known, and one
write of the ConfigMap with the pools otherwise. -/
inductive Effect (space : String) (known : Prop) (before : MemoryStore) :
    Outcome → MemoryStore → Prop
  /-- A known entry is left alone. -/
  | unchanged (there : known) : Effect space known before .unchanged before
  /-- The ConfigMap is created if there was none. -/
  | created (missing : ¬ known) (absent : before.find? (poolMapKey space) = none) (object : Object)
      (key : object.key = poolMapKey space) :
      Effect space known before .created (before.create object).2
  /-- The ConfigMap is replaced if there was one. -/
  | updated (missing : ¬ known) (current : Object)
      (present : before.find? (poolMapKey space) = some current) (object : Object)
      (key : object.key = poolMapKey space) :
      Effect space known before .updated (before.replace object).2

theorem Effect.others {space : String} {known : Prop} {before after : MemoryStore}
    {outcome : Outcome} (effect : Effect space known before outcome after) :
    after.others (poolMapKey space) = before.others (poolMapKey space) := by
  cases effect with
  | unchanged there => rfl
  | created missing absent object key => rw [← key, others_create]
  | updated missing current present object key => rw [← key, others_replace]

theorem Effect.imp {space : String} {known known' : Prop} {before after : MemoryStore}
    {outcome : Outcome} (effect : Effect space known before outcome after) (same : known ↔ known') :
    Effect space known' before outcome after := by
  rwa [propext same] at effect

end MemoryStore

/-! ## One call -/

variable (surroundings : Surroundings (StateM MemoryStore))

namespace AddressPool

variable (pool : AddressPool) (space : String) (metrics : Metrics)

/-- The pools with the entry of a pool, which is added at the end if it is not there. -/
def addedTo (pools : List PoolEntry) : List PoolEntry :=
  if pool.toEntry ∈ pools then pools else pools ++ [pool.toEntry]

theorem mem_addedTo (pools : List PoolEntry) (entry : PoolEntry) :
    entry ∈ pool.addedTo pools ↔ entry ∈ pools ∨ entry = pool.toEntry := by
  rw [addedTo]
  by_cases there : pool.toEntry ∈ pools
  · rw [if_pos there]
    exact ⟨.inl, fun either => either.elim id fun same => same ▸ there⟩
  · rw [if_neg there, List.mem_append, List.mem_singleton]

variable {store : MemoryStore} {pools : List PoolEntry}

/-- The second half of a call, for an entry that is missing. -/
theorem fetching_inMemory (holds : HoldsPools (store.find? (poolMapKey space)) pools)
    (missing : pool.toEntry ∉ pools) :
    ∃ (outcome : Outcome) (metrics' : Metrics) (after : MemoryStore),
      (surroundings.inMemory.run (pool.fetching space) metrics).run store =
          ((.ok outcome, metrics'), after)
        ∧ MemoryStore.Effect space (pool.toEntry ∈ pools) store outcome after
        ∧ HoldsPools (after.find? (poolMapKey space)) (pools ++ [pool.toEntry]) := by
  rw [fetching, Surroundings.run_get, key_configMap, pool.merging_of_holdsPools space holds]
  cases found : store.find? (poolMapKey space) with
  | none =>
      rw [found] at holds
      obtain rfl := holds.eq_nil
      have there := store.find?_create (pool.configMap space)
      refine ⟨.created, _, (store.create (pool.configMap space)).2, rfl,
        .created missing found (pool.configMap space) rfl, ?_⟩
      rw [key_configMap] at there
      rw [there]
      exact .of_poolBody rfl
  | some current =>
      have there := store.find?_replace (pool.mergedMap space current pools)
      refine ⟨.updated, _, (store.replace (pool.mergedMap space current pools)).2, rfl,
        .updated missing current found (pool.mergedMap space current pools) rfl, ?_⟩
      rw [key_mergedMap] at there
      rw [there]
      exact .of_poolBody rfl

/-- A call for a pool adds its entry, unless it is there. -/
theorem ensurePool_inMemory (holds : HoldsPools (store.find? (poolMapKey space)) pools) :
    ∃ (outcome : Outcome) (metrics' : Metrics) (after : MemoryStore),
      (surroundings.inMemory.run (ensurePool pool space).run metrics).run store =
          ((.ok outcome, metrics'), after)
        ∧ MemoryStore.Effect space (pool.toEntry ∈ pools) store outcome after
        ∧ HoldsPools (after.find? (poolMapKey space)) (pool.addedTo pools) := by
  rw [ensurePool_run, Surroundings.run_get, key_configMap,
    pool.looking_of_readable space holds.readable, addedTo]
  by_cases there : pool.toEntry ∈ pools
  · rw [if_pos there, if_pos there]
    exact ⟨.unchanged, metrics, store, rfl, .unchanged there, holds⟩
  · rw [if_neg there, if_neg there]
    exact pool.fetching_inMemory surroundings space metrics holds there

end AddressPool

/-! ## Calls one after another -/

/-- The entries of pools that are new to some entries, each once. -/
def newEntries (live : List PoolEntry) (pools : List AddressPool) : List PoolEntry :=
  ((pools.map AddressPool.toEntry).filter (· ∉ live)).eraseDups

theorem newEntries_cons (live : List PoolEntry) (pool : AddressPool) (pools : List AddressPool) :
    live ++ newEntries live (pool :: pools) =
      pool.addedTo live ++ newEntries (pool.addedTo live) pools := by
  rw [newEntries, newEntries, AddressPool.addedTo, List.map_cons]
  by_cases there : pool.toEntry ∈ live
  · rw [if_pos there, List.filter_cons_of_neg (by simpa using there)]
  · rw [if_neg there, List.filter_cons_of_pos (by simpa using there), List.eraseDups_cons,
      List.filter_filter, List.append_assoc, List.singleton_append]
    congr 3
    refine List.filter_congr fun entry _ => ?_
    by_cases same : entry = pool.toEntry <;> simp [same]

namespace MemoryStore

variable (space : String)

/-- The results of configuring pools one after another in a store, and the
store after it. -/
def configure (metrics : Metrics) (store : MemoryStore) (pools : List AddressPool) :
    List (Except ApplyError Outcome) × MemoryStore :=
  let operation : Operation (List (Except ApplyError Outcome)) :=
    pools.mapM fun pool => (ensurePool pool space).run
  let ((results, _), after) := (surroundings.inMemory.run operation metrics).run store
  (results, after)

theorem configure_cons {metrics between : Metrics} {store middle : MemoryStore} {pool : AddressPool}
    {result : Except ApplyError Outcome}
    (first : (surroundings.inMemory.run (ensurePool pool space).run metrics).run store =
      ((result, between), middle))
    (pools : List AddressPool) :
    configure surroundings space metrics store (pool :: pools) =
      (result :: (configure surroundings space between middle pools).1,
        (configure surroundings space between middle pools).2) := by
  cases others : (surroundings.inMemory.run
      (pools.mapM fun pool => (ensurePool pool space).run) between).run middle with
  | mk state after =>
      rw [configure, surroundings.run_mapM_cons (fun pool => (ensurePool pool space).run)
        first others, configure, others]

/-- Calls for pools one after another all succeed.  Afterwards the pools that
were live are followed by the entries that are new to them, each once and in
the order of the calls.  Each call does one write, or none if its entry was
live or that of an earlier call, and no other object changes. -/
theorem configure_pools {store : MemoryStore} {live : List PoolEntry}
    (holds : HoldsPools (store.find? (poolMapKey space)) live) (metrics : Metrics)
    (pools : List AddressPool) :
    ∃ (outcomes : List Outcome) (after : MemoryStore),
      configure surroundings space metrics store pools = (outcomes.map .ok, after)
        ∧ after.pools space = .ok (live ++ newEntries live pools)
        ∧ after.others (poolMapKey space) = store.others (poolMapKey space)
        ∧ ∀ (earlier later : List AddressPool) (pool : AddressPool),
            pools = earlier ++ pool :: later →
            ∃ outcome : Outcome, outcomes[earlier.length]? = some outcome
              ∧ Effect space (pool.toEntry ∈ live ∨ pool.toEntry ∈ earlier.map AddressPool.toEntry)
                (configure surroundings space metrics store earlier).2 outcome
                (configure surroundings space metrics store (earlier ++ [pool])).2 := by
  induction pools generalizing store live metrics with
  | nil =>
      refine ⟨[], store, rfl, ?_, rfl, ?_⟩
      · rw [MemoryStore.pools, holds.readable, newEntries]
        simp
      · intro earlier later pool split
        simp at split
  | cons pool pools induction =>
      obtain ⟨outcome, between, middle, first, effect, held⟩ :=
        pool.ensurePool_inMemory surroundings space metrics holds
      obtain ⟨outcomes, after, ran, readable, others, calls⟩ := induction held between
      refine ⟨outcome :: outcomes, after, ?_, ?_, others.trans effect.others, ?_⟩
      · rw [configure_cons surroundings space first, ran]
        rfl
      · rw [readable, newEntries_cons]
      · intro earlier later other split
        cases earlier with
        | nil =>
            cases split
            refine ⟨outcome, rfl, ?_⟩
            rw [List.nil_append, configure_cons surroundings space first]
            exact effect.imp (by simp)
        | cons front earlier =>
            obtain ⟨rfl, rest⟩ := List.cons.inj split
            obtain ⟨result, there, effect⟩ := calls earlier later other rest
            refine ⟨result, there, ?_⟩
            rw [List.cons_append, configure_cons surroundings space first,
              configure_cons surroundings space first]
            refine effect.imp ?_
            rw [pool.mem_addedTo, List.map_cons, List.mem_cons, or_assoc]

/-- A live pool is not added again, and a new one only once. -/
theorem configure_pools_again :
    HoldsPools
    ((empty.create ((AddressPool.plain "one").configMap "here")).2.find? (poolMapKey "here"))
        [(AddressPool.plain "one").toEntry]
      ∧ (configure .idle "here" .empty
          (empty.create ((AddressPool.plain "one").configMap "here")).2
          [.plain "one", .plain "two", .plain "two"]).2.pools "here" =
        .ok [(AddressPool.plain "one").toEntry, (AddressPool.plain "two").toEntry] := by
  have holds : HoldsPools
      ((empty.create ((AddressPool.plain "one").configMap "here")).2.find? (poolMapKey "here"))
      [(AddressPool.plain "one").toEntry] := HoldsPools.of_poolBody rfl
  refine ⟨holds, ?_⟩
  obtain ⟨outcomes, after, ran, readable, -, -⟩ := configure_pools .idle "here" holds .empty
    [.plain "one", .plain "two", .plain "two"]
  rw [ran, readable]
  decide +kernel

end MemoryStore

end PoolOperator
