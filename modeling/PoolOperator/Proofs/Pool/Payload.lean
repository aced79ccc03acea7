import PoolOperator.Pool.Ensure
import PoolOperator.Proofs.Merge.Failure
import PoolOperator.Proofs.Pool.RoundTrip

/-!
# The pools in a ConfigMap

What is known of a live ConfigMap is the list of its pools (`livePools`).
Merging the ConfigMap of a pool into it adds the entry of the pool at the end
of the list (`merge_configMap`), and never leaves the live ConfigMap as it is
(`same_mergedMap`).  A written configuration is read back, so the ConfigMap of
a pool holds its entry and nothing else.
-/

namespace PoolOperator

/-! ## ConfigMaps and their pools -/

/-- What the ConfigMap with the pools of a namespace is stored under. -/
def poolMapKey (space : String) : ObjectKey := ⟨"v1", "ConfigMap", space, configMapName⟩

theorem key_configMap (pool : AddressPool) (space : String) :
    (pool.configMap space).key = poolMapKey space := rfl

/-- The body of a ConfigMap with a configuration of some pools and nothing else. -/
def poolBody (pools : List PoolEntry) : Value :=
  .obj [("data", .obj [(configKey, .str (PoolConfig.toYaml ⟨pools⟩))])]

theorem sorted_poolBody (pools : List PoolEntry) : (poolBody pools).fields.Sorted :=
  List.pairwise_singleton _ _

/-- A written configuration is read back from a payload. -/
theorem poolsOf_toYaml (pools : List PoolEntry) :
    poolsOf (PoolConfig.toYaml ⟨pools⟩) = .ok pools := by
  rw [poolsOf, PoolConfig.ofYaml_toYaml]
  rfl

/-- Every written configuration is read back, and the payload of the ConfigMap
of a pool is read as the only entry of the pool. -/
theorem written_config_readBack :
    (∀ config : PoolConfig, PoolConfig.ofYaml config.toYaml = .ok config)
      ∧ ∀ (pool : AddressPool) (space : String), ∃ payload : String,
          (pool.configMap space).poolPayload? = .ok (some payload)
            ∧ PoolConfig.ofYaml payload = .ok ⟨[pool.toEntry]⟩ :=
  ⟨PoolConfig.ofYaml_toYaml, fun _ _ => ⟨_, rfl, PoolConfig.ofYaml_toYaml _⟩⟩

theorem poolPayload?_of_data {live : Object} {payload : String}
    (found : live.body.fields.find? "data" = some (.obj [(configKey, .str payload)])) :
    live.poolPayload? = .ok (some payload) :=
  poolPayload?_eq_some_iff.mpr (Object.member_of_find? found)

theorem livePools_of_payload {live : Object} {payload : String}
    (found : live.member ["data", configKey] = .str payload) :
    livePools live = poolsOf payload := by
  rw [livePools, poolPayload?_eq_some_iff.mpr found]
  rfl

theorem livePools_of_poolBody {live : Object} {pools : List PoolEntry}
    (body : live.body = poolBody pools) : livePools live = .ok pools := by
  have found : live.member ["data", configKey] = .str (PoolConfig.toYaml ⟨pools⟩) := by
    rw [Object.member, body]
    rfl
  rw [livePools_of_payload found, poolsOf_toYaml]

/-- If the pools can be read, the ConfigMap has members. -/
theorem opened_of_readable {live : Object} {pools : List PoolEntry}
    (readable : livePools live = .ok pools) :
    Shape.object.allows live.body = true := by
  obtain ⟨payload?, payload, -⟩ := Except.bind_eq_ok_iff.mp readable
  exact (Object.poolPayload?_eq_ok_iff.mp payload).1.1

/-- The pools in a live ConfigMap, if there is one. -/
def poolsIn : Option Object → Except MergeError (List PoolEntry)
  | none => .ok []
  | some live => livePools live

/-- The pools of a live ConfigMap can be read, and its members are in order, as
those of every object are that was read from a value. -/
structure HoldsPools (live? : Option Object) (pools : List PoolEntry) : Prop where
  readable : poolsIn live? = .ok pools
  sorted : ∀ live ∈ live?, live.body.fields.Sorted

theorem HoldsPools.of_ofValue {value : Value} {live : Object} {pools : List PoolEntry}
    (read : Object.ofValue value = .ok live) (readable : livePools live = .ok pools) :
    HoldsPools (some live) pools := by
  refine ⟨readable, fun _ same => ?_⟩
  cases same
  exact (Object.wellFormed_of_ofValue read).sorted_members

theorem HoldsPools.of_poolBody {live : Object} {pools : List PoolEntry}
    (body : live.body = poolBody pools) : HoldsPools (some live) pools := by
  refine ⟨livePools_of_poolBody body, fun _ same => ?_⟩
  cases same
  rw [body]
  exact sorted_poolBody pools

theorem HoldsPools.absent : HoldsPools none [] :=
  ⟨rfl, fun live member => absurd member (Option.not_mem_none live)⟩

theorem HoldsPools.eq_nil {pools : List PoolEntry} (holds : HoldsPools none pools) : pools = [] :=
  (Except.ok.inj holds.readable).symm

theorem hasPool_of_readable {live : Object} {pools : List PoolEntry}
    (readable : livePools live = .ok pools) (pool : AddressPool) :
    hasPool live pool = .ok (pools.contains pool.toEntry) := by
  rw [hasPool, readable]

/-- The data of an object are a member of its value. -/
theorem find?_data_valueWith (object : Object) (sorted : object.body.fields.Sorted) :
    Fields.find? (object.valueWith object.body.fields).fields "data" =
      Fields.find? object.body.fields "data" := by
  refine Object.find?_valueWith object sorted fun field there same => ?_
  have front := Object.key_of_mem_front there
  rw [same] at front
  simp at front

/-! ## Merging -/

namespace AddressPool

/-- A pool with a name and without addresses. -/
def plain (name : String) : AddressPool where
  metadata := { Metadata.empty with name := some name }
  spec := ⟨.layer2, [], none, none⟩

/-- The ConfigMap of a pool, merged into a live one with some pools. -/
def mergedMap (pool : AddressPool) (space : String) (current : Object) (pools : List PoolEntry) :
    Object :=
  { pool.configMap space with
    metadata := mergeMetadata current.metadata (pool.configMap space).metadata
    body := poolBody (pools ++ [pool.toEntry]) }

variable (pool : AddressPool) (space : String)

theorem key_mergedMap (current : Object) (pools : List PoolEntry) :
    (pool.mergedMap space current pools).key = poolMapKey space := rfl

/-- Merging adds the entry of the pool after the live ones. -/
theorem merge_configMap {current : Object} {pools : List PoolEntry}
    (readable : livePools current = .ok pools) :
    merge current (pool.configMap space) = .ok (pool.mergedMap space current pools) := by
  have own : (pool.configMap space).poolPayload? =
    .ok (some (PoolConfig.toYaml ⟨[pool.toEntry]⟩)) := rfl
  have kind : MergedKind.of? (pool.configMap space).groupKind = some .configMap := rfl
  rw [merge, mergeKind, kind]
  simp only [mergeConfigMap]
  rw [livePools] at readable
  cases payload : current.poolPayload? with
  | error error =>
      rw [payload] at readable
      cases readable
  | ok payload? =>
      rw [payload] at readable
      cases payload? with
      | none =>
          cases readable
          rfl
      | some live =>
          have parsed : poolsOf live = .ok pools := readable
          rw [own]
          simp only [bind, Except.bind, parsed, poolsOf_toYaml]
          rfl

/-- A ConfigMap is never the same as the one that a pool was merged into. -/
theorem same_mergedMap {current : Object} {pools : List PoolEntry}
    (readable : livePools current = .ok pools) (sorted : current.body.fields.Sorted) :
    current.same (pool.mergedMap space current pools) = .ok false := by
  refine Object.same_eq_ok_iff.mpr ⟨opened_of_readable readable, rfl,
    Bool.eq_false_iff.mpr fun same => ?_⟩
  generalize merged : pool.mergedMap space current pools = after at same
  have found : Fields.find? (after.valueWith after.body.fields).fields "data" =
      some (.obj [(configKey, .str (PoolConfig.toYaml ⟨pools ++ [pool.toEntry]⟩))]) := by
    subst merged
    rw [find?_data_valueWith _ (sorted_poolBody _)]
    rfl
  obtain ⟨data, live, sameData⟩ : ∃ data : Value,
      Fields.find? (current.valueWith current.body.fields).fields "data" = some data
        ∧ data.same (.obj [(configKey, .str (PoolConfig.toYaml ⟨pools ++ [pool.toEntry]⟩))]) =
        true :=
    Value.find?_of_sameFields same found
  rw [find?_data_valueWith current sorted, Value.eq_of_same_single sameData] at live
  have payload : current.member ["data", configKey] =
      .str (PoolConfig.toYaml ⟨pools ++ [pool.toEntry]⟩) := Object.member_of_find? live
  -- Then the live pools would be the merged ones, of which there is one more.
  rw [livePools_of_payload payload, poolsOf_toYaml] at readable
  have lengths := congrArg (fun pools => pools.toOption.map List.length) readable
  simp [Except.toOption] at lengths

end AddressPool

end PoolOperator
