import Mathlib.Data.List.Forall2
import PoolOperator.Proofs.Pool.Payload

/-!
# Merging pools one after another

ConfigMaps with configurations are merged one after another, each into what the
last merge gave (`mergeEach`).  One merge appends the pools of the desired
ConfigMap, or fails because they cannot be read (`merge_pools`).  A written
configuration is read back by the next merge, so nothing is lost on the way
(`mergeEach_pools`).
-/

namespace PoolOperator

/-! ## One merge -/

/-- A ConfigMap of the core group has a configuration. -/
structure Object.States (object : Object) (payload : String) : Prop where
  isMap : object.groupKind = ⟨"", "ConfigMap"⟩
  payload : object.poolPayload? = .ok (some payload)

/-- Some pools can be read in a live object. -/
def Object.Lists (live : Object) (pools : List PoolEntry) : Prop :=
  ∃ payload : String, live.poolPayload? = .ok (some payload)
    ∧ PoolConfig.ofYaml payload = .ok ⟨pools⟩

/-- A desired ConfigMap with some pools, to replace the live one. -/
def withPools (current desired : Object) (pools : List PoolEntry) : Object :=
  { desired with
    metadata := mergeMetadata current.metadata desired.metadata
    body :=
      .obj (desired.body.fields.put "data" (.obj [(configKey, .str (PoolConfig.toYaml ⟨pools⟩))])) }

theorem data_withPools (current desired : Object) (pools : List PoolEntry) :
    (withPools current desired pools).body.fields.find? "data" =
      some (.obj [(configKey, .str (PoolConfig.toYaml ⟨pools⟩))]) :=
  Fields.find?_put_self _ _ _

theorem lists_withPools (current desired : Object) (pools : List PoolEntry) :
    (withPools current desired pools).Lists pools :=
  ⟨_, poolPayload?_of_data (data_withPools current desired pools), PoolConfig.ofYaml_toYaml _⟩

section

variable {current desired : Object} {pools : List PoolEntry} {payload : String}

/-- The pools of the desired ConfigMap come after the live ones, if they can be
read. -/
theorem merge_pools (live : current.Lists pools) (states : desired.States payload) :
    merge current desired = ((PoolConfig.ofYaml payload).mapError .unreadableConfig).map fun own =>
      withPools current desired (pools ++ own.pools) := by
  obtain ⟨livePayload, there, readable⟩ := live
  have kind : MergedKind.of? desired.groupKind = some .configMap := by rw [states.isMap]; rfl
  have livePools : poolsOf livePayload = .ok pools := by rw [poolsOf, readable]; rfl
  rw [merge, mergeKind, kind]
  simp only [mergeConfigMap_of_payloads there states.payload, livePools, bind, Except.bind]
  rw [poolsOf]
  cases PoolConfig.ofYaml payload <;> rfl

end

/-! ## Merges one after another -/

/-- The live object after a merge.  A failed one leaves it as it is. -/
def afterMerge (current desired : Object) : Object := (merge current desired).toOption.getD current

/-- What merging objects into a live one gives, one after another. -/
def mergeEach (current : Object) : List Object → List (Except MergeError Object)
  | [] => []
  | desired :: rest => merge current desired :: mergeEach (afterMerge current desired) rest

/-- The pools of a configuration, none if it cannot be read. -/
def readablePools (payload : String) : List PoolEntry :=
  ((PoolConfig.ofYaml payload).map PoolConfig.pools).toOption.getD []

/-- A merge fails exactly if the desired configuration cannot be read, with the reason. -/
def FailsUnread (payload : String) (result : Except MergeError Object) : Prop :=
  ∀ error : MergeError, result = .error error ↔
    ∃ reason : Yaml.Error, PoolConfig.ofYaml payload = .error reason
      ∧ error = .unreadableConfig reason

section

variable {current : Object} {pools : List PoolEntry}

section

variable {desired : Object} {payload : String}

theorem failsUnread_merge (live : current.Lists pools) (states : desired.States payload) :
    FailsUnread payload (merge current desired) := by
  intro error
  rw [merge_pools live states, Except.map_eq_error_iff, Except.mapError_eq_error_iff]

theorem lists_afterMerge (live : current.Lists pools) (states : desired.States payload) :
    (afterMerge current desired).Lists (pools ++ readablePools payload) := by
  rw [afterMerge, merge_pools live states, readablePools]
  cases PoolConfig.ofYaml payload with
  | error reason =>
      change current.Lists (pools ++ [])
      rwa [List.append_nil]
  | ok own => exact lists_withPools current desired _

/-- After a merge that did not fail there are only the pools. -/
theorem data_afterMerge (live : current.Lists pools) (states : desired.States payload)
    {merged : Object} (done : merge current desired = .ok merged) :
    ∃ payload' : String, (afterMerge current desired).body.fields.find? "data" =
      some (.obj [(configKey, .str payload')]) := by
  rw [merge_pools live states] at done
  obtain ⟨own, -, rfl⟩ := Except.map_eq_ok_iff.mp done
  rw [afterMerge, merge_pools live states, done]
  exact ⟨_, data_withPools current desired _⟩

end

variable {desireds : List Object} {payloads : List String}

theorem failsUnread_mergeEach (live : current.Lists pools)
    (states : List.Forall₂ Object.States desireds payloads) :
    List.Forall₂ FailsUnread payloads (mergeEach current desireds) := by
  induction states generalizing current pools with
  | nil => exact .nil
  | cons first others induction =>
      exact .cons (failsUnread_merge live first) (induction (lists_afterMerge live first))

theorem lists_mergeEach (live : current.Lists pools)
    (states : List.Forall₂ Object.States desireds payloads) :
    (desireds.foldl afterMerge current).Lists (pools ++ payloads.flatMap readablePools) := by
  induction states generalizing current pools with
  | nil => simpa using live
  | cons first others induction =>
      rw [List.foldl_cons, List.flatMap_cons, ← List.append_assoc]
      exact induction (lists_afterMerge live first)

/-- Once a merge has not failed, there are only the pools. -/
theorem data_mergeEach (live : current.Lists pools)
    (states : List.Forall₂ Object.States desireds payloads)
    (merged : (∃ payload : String, current.body.fields.find? "data" =
      some (.obj [(configKey, .str payload)]))
      ∨ ∃ result ∈ mergeEach current desireds, ∃ merged : Object, result = .ok merged) :
    ∃ payload : String, (desireds.foldl afterMerge current).body.fields.find? "data" =
      some (.obj [(configKey, .str payload)]) := by
  induction states generalizing current pools with
  | nil => exact merged.resolve_right fun later => absurd later.choose_spec.1 List.not_mem_nil
  | @cons desired payload desireds payloads first others induction =>
      refine induction (lists_afterMerge live first) ?_
      cases done : merge current desired with
      | ok after => exact .inl (data_afterMerge live first done)
      | error error =>
          have same : afterMerge current desired = current := by rw [afterMerge, done]; rfl
          rw [same]
          refine merged.imp_right ?_
          rintro ⟨result, there, after, rfl⟩
          rw [mergeEach, done, same] at there
          exact ⟨_, (List.mem_cons.mp there).resolve_left nofun, after, rfl⟩

/-- ConfigMaps with configurations are merged one after another into a live object with
some pools.  A merge fails exactly if its configuration cannot be read.  In the end
there are the live pools, and after them those of every merge that did not fail, in
order; once a merge has not failed, there is nothing else in the data. -/
theorem mergeEach_pools {payload : String} (live : current.poolPayload? = .ok (some payload))
    (readable : PoolConfig.ofYaml payload = .ok ⟨pools⟩)
    (states : List.Forall₂ Object.States desireds payloads) :
    List.Forall₂ FailsUnread payloads (mergeEach current desireds)
      ∧ (∀ payload ∈ payloads, Text.allBlank payload = true →
        PoolConfig.ofYaml payload = .ok .empty)
      ∧ ∃ final : String, (desireds.foldl afterMerge current).poolPayload? = .ok (some final)
        ∧ PoolConfig.ofYaml final = .ok ⟨pools ++ payloads.flatMap readablePools⟩
        ∧ ((∃ result ∈ mergeEach current desireds, ∃ merged : Object, result = .ok merged) →
          (desireds.foldl afterMerge current).body.fields.find? "data" =
            some (.obj [(configKey, .str final)])) := by
  have lists : current.Lists pools := ⟨payload, live, readable⟩
  refine ⟨failsUnread_mergeEach lists states, fun blank _ isBlank => if_pos isBlank, ?_⟩
  obtain ⟨final, there, parsed⟩ := lists_mergeEach lists states
  refine ⟨final, there, parsed, fun merged => ?_⟩
  obtain ⟨final', data⟩ := data_mergeEach lists states (.inr merged)
  have same := (poolPayload?_of_data data).symm.trans there
  rw [data, Option.some.inj (Except.ok.inj same)]

end

/-- A ConfigMap with a configuration in a namespace. -/
def stating (space payload : String) : Object :=
  { (AddressPool.plain "").configMap space with
    body := .obj [("data", .obj [(configKey, .str payload)])] }

theorem states_stating (space payload : String) : (stating space payload).States payload :=
  ⟨rfl, poolPayload?_of_data rfl⟩

/-- A blank configuration adds no pools, and those after it come after the live ones. -/
theorem mergeEach_pools_blank :
    let gold := PoolConfig.toYaml ⟨[(AddressPool.plain "gold").toEntry]⟩
    let silver := PoolConfig.toYaml ⟨[(AddressPool.plain "silver").toEntry]⟩
    let payloads := ["\n", silver]
    let live := stating "metallb-system" gold
    let desireds := payloads.map (stating "metallb-system")
    live.poolPayload? = .ok (some gold)
      ∧ PoolConfig.ofYaml gold = .ok ⟨[(AddressPool.plain "gold").toEntry]⟩
      ∧ List.Forall₂ Object.States desireds payloads
      ∧ ∃ final : String, (desireds.foldl afterMerge live).poolPayload? = .ok (some final)
        ∧ PoolConfig.ofYaml final =
          .ok ⟨[(AddressPool.plain "gold").toEntry, (AddressPool.plain "silver").toEntry]⟩ := by
  intro gold silver payloads live desireds
  have there : live.poolPayload? = .ok (some gold) := (states_stating "metallb-system" gold).payload
  have states : List.Forall₂ Object.States desireds payloads :=
    List.forall₂_map_left_iff.mpr
      (List.forall₂_same.mpr fun payload _ => states_stating "metallb-system" payload)
  have own : payloads.flatMap readablePools = [(AddressPool.plain "silver").toEntry] := by
    have blank : readablePools "\n" = [] := by decide
    have written : readablePools silver = [(AddressPool.plain "silver").toEntry] := by
      rw [readablePools, PoolConfig.ofYaml_toYaml]
      rfl
    simp [payloads, blank, written]
  obtain ⟨-, -, final, found, parsed, -⟩ :=
    mergeEach_pools there (PoolConfig.ofYaml_toYaml _) states
  rw [own] at parsed
  exact ⟨there, PoolConfig.ofYaml_toYaml _, states, final, found, parsed⟩

end PoolOperator
