import Mathlib
import PoolOperator.Proofs.Apply.InMemory

/-!
# What a store in memory has on record

A store that was empty once can be reckoned from the calls it went through
(`Ledger`): how many objects there are, which identity, version and generation
each of them has, and what the counters say.  What the applied objects claim about
themselves does not matter.  One call keeps the reckoning right (`Ledger.step`),
whatever becomes of it, and so do all that follow (`Ledger.history`).
-/

namespace PoolOperator

namespace Object.Applicable

variable {object : Object}

theorem exists_type (applicable : object.Applicable) :
    ∃ type : ObjectType, object.type? = some type := by
  have typed := applicable.typed
  rw [Object.groupKind] at typed
  cases known : object.type? with
  | none =>
      rw [known] at typed
      exact absurd rfl typed
  | some type => exact ⟨type, rfl⟩

theorem exists_name (applicable : object.Applicable) :
    ∃ name : String, object.metadata.name = some name := by
  obtain ⟨name, named⟩ := Option.isSome_iff_exists.mp applicable.named
  exact ⟨name, (Option.filter_eq_some_iff.mp named).1⟩

end Object.Applicable

namespace MemoryStore

/-! ## Calls about one object -/

/-- The calls about the object under a key. -/
def callsOn (key : ObjectKey) (calls : List (Object × Except ApplyError Outcome)) :
    List (Object × Except ApplyError Outcome) :=
  calls.filter fun call => call.1.key = key

section

variable {key : ObjectKey} {calls calls' : List (Object × Except ApplyError Outcome)}
  {desired : Object}
  {result : Except ApplyError Outcome}

theorem callsOn_append : callsOn key (calls ++ calls') = callsOn key calls ++ callsOn key calls' :=
  List.filter_append ..

theorem callsOn_singleton :
    callsOn key [(desired, result)] = if desired.key = key then [(desired, result)] else [] := by
  simp [callsOn, List.filter_cons]

end

/-! ## Objects -/

/-- What is known of a stored object from the calls and the number of versions. -/
structure Traced (calls : List (Object × Except ApplyError Outcome)) (versions : Nat)
    (object : Object) :
    Prop where
  /-- It has a type. -/
  typed : ∃ type : ObjectType, object.type? = some type
  /-- It has a name. -/
  named : ∃ name : String, object.metadata.name = some name
  /-- Its identity is the one that it was created with. -/
  uid : ∃ (earlier later : List (Object × Except ApplyError Outcome)) (desired : Object),
    calls = earlier ++ (desired, .ok .created) :: later ∧ desired.key = object.key
      ∧ object.metadata.uid = some s!"uid-{tally .created earlier + tally .updated earlier + 1}"
  /-- Its version is one of those that were given. -/
  resourceVersion : ∃ version : Nat, 1 ≤ version ∧ version ≤ versions
    ∧ object.metadata.resourceVersion = some (toString version)
  /-- Its generation counts how often it was updated. -/
  generation : object.metadata.generation =
    some (1 + (tally .updated (callsOn object.key calls) : Int))

/-- What is known of a store from the calls. -/
structure Ledger (calls : List (Object × Except ApplyError Outcome))
    (store : MemoryStore) : Prop where
  /-- The objects stand in order. -/
  inOrder : store.InOrder
  /-- Something is stored under the key of every call that went well. -/
  present : ∀ call ∈ calls, (∃ outcome : Outcome, call.2 = .ok outcome) →
    (store.find? call.1.key).isSome = true
  /-- Every stored object is accounted for. -/
  traced : ∀ object ∈ store.objects, Traced calls store.versions object
  /-- No two objects have the same identity. -/
  uids : (store.objects.map fun object => object.metadata.uid).Nodup
  /-- No two objects have the same version. -/
  resourceVersions : (store.objects.map fun object => object.metadata.resourceVersion).Nodup
  /-- The replacements are the updates. -/
  replacements : store.replacements = tally .updated calls
  /-- There is a version for everything that was created or updated. -/
  versions : store.versions = tally .created calls + tally .updated calls
  /-- Everything that was created is there. -/
  length : store.objects.length = tally .created calls

section

variable {calls : List (Object × Except ApplyError Outcome)} {desired : Object}
  {result : Except ApplyError Outcome} {store after : MemoryStore}

namespace Traced

variable {versions versions' : Nat} {object : Object}

/-- An object stays accounted for unless it is updated. -/
theorem later (traced : Traced calls versions object) (more : versions ≤ versions')
    (notUpdated : desired.key = object.key → result ≠ .ok .updated) :
    Traced (calls ++ [(desired, result)]) versions' object where
  typed := traced.typed
  named := traced.named
  uid := by
    obtain ⟨earlier, later, creator, rfl, key, uid⟩ := traced.uid
    exact ⟨earlier, later ++ [(desired, result)], creator, List.append_assoc .., key, uid⟩
  resourceVersion := by
    obtain ⟨version, positive, most, there⟩ := traced.resourceVersion
    exact ⟨version, positive, most.trans more, there⟩
  generation := by
    have none : tally .updated (callsOn object.key [(desired, result)]) = 0 := by
      rw [callsOn_singleton]
      split
      next same => rw [tally_singleton, if_neg (notUpdated same)]
      next => rfl
    rw [callsOn_append, tally_append, none]
    exact traced.generation

/-- The number in an identity is one of those that were given. -/
theorem uid_le (traced : Traced calls versions object) :
    ∃ number : Nat, number ≤ tally .created calls + tally .updated calls
      ∧ object.metadata.uid = some s!"uid-{number}" := by
  obtain ⟨earlier, later, creator, rfl, -, uid⟩ := traced.uid
  refine ⟨_, ?_, uid⟩
  -- The call that created the object is counted as well.
  rw [List.append_cons, tally_append, tally_append, tally_append, tally_append,
    tally_singleton, if_pos rfl]
  omega

/-- An object that is created for the first time. -/
theorem created (applicable : desired.Applicable)
    (counted : versions = tally .created calls + tally .updated calls)
    (never : tally .updated (callsOn desired.key calls) = 0) :
    Traced (calls ++ [(desired, .ok .created)]) (versions + 1)
      (MemoryStore.created desired (versions + 1)) where
  typed := applicable.exists_type
  named := applicable.exists_name
  uid := ⟨calls, [], desired, rfl, rfl, by rw [← counted]; rfl⟩
  resourceVersion := ⟨versions + 1, Nat.le_add_left .., le_rfl, rfl⟩
  generation := by
    have none : tally .updated (callsOn desired.key (calls ++ [(desired, .ok .created)])) = 0 := by
      rw [callsOn_append, tally_append, never, callsOn_singleton, if_pos rfl, tally_singleton,
        if_neg (by decide)]
    exact congrArg (fun times : Nat => some (1 + (times : Int))) none.symm

/-- An object that takes the place of the one that it was merged into. -/
theorem replaced {current merged : Object} (old : Traced calls versions current)
    (applicable : desired.Applicable) (addressed : current.key = desired.key)
    (done : merge current desired = .ok merged) :
    Traced (calls ++ [(desired, .ok .updated)]) (versions + 1)
      (MemoryStore.replaced merged (versions + 1)) := by
  have key : desired.key = merged.key := (key_merge done).symm
  have name : merged.metadata.name = desired.metadata.name := by
    rw [metadata_merge done, mergeMetadata]
  have uid : merged.metadata.uid = current.metadata.uid := by
    rw [metadata_merge done, mergeMetadata]
  have generation : merged.metadata.generation = current.metadata.generation := by
    rw [metadata_merge done, mergeMetadata]
  have count : tally .updated (callsOn merged.key (calls ++ [(desired, .ok .updated)])) =
      tally .updated (callsOn current.key calls) + 1 := by
    rw [callsOn_append, tally_append, callsOn_singleton, if_pos key, tally_singleton, if_pos rfl,
      addressed.trans key]
  exact {
    typed := type?_merge done ▸ applicable.exists_type
    named := name ▸ applicable.exists_name
    uid := by
      obtain ⟨earlier, later, creator, rfl, creatorKey, numbered⟩ := old.uid
      exact ⟨earlier, later ++ [(desired, .ok .updated)], creator, List.append_assoc ..,
        creatorKey.trans (addressed.trans key), uid.trans numbered⟩
    resourceVersion := ⟨versions + 1, Nat.le_add_left .., le_rfl, rfl⟩
    generation := calc
      (MemoryStore.replaced merged (versions + 1)).metadata.generation
          = some (merged.metadata.generation.getD 0 + 1) := rfl
      _ = some (1 + (tally .updated (callsOn current.key calls) : Int) + 1) := by
          rw [generation, old.generation]
          rfl
      _ = some (1 + (tally .updated (callsOn merged.key (calls ++ [(desired, .ok .updated)])) :
        Int)) := by
          rw [count, Nat.cast_add, Nat.cast_one, add_assoc] }

end Traced

theorem ledger_empty : Ledger [] empty where
  inOrder := inOrder_empty
  present _ there := absurd there List.not_mem_nil
  traced _ there := absurd there List.not_mem_nil
  uids := List.nodup_nil
  resourceVersions := List.nodup_nil
  replacements := rfl
  versions := rfl
  length := rfl

/-- What was under a key, or was written there, is there after the call. -/
theorem Fate.isSome {key : ObjectKey} {live? live'? : Option Object}
    (fate : Fate desired key result live? live'?)
    (there : live?.isSome = true ∨ desired.key = key ∧ ∃ outcome : Outcome, result = .ok outcome) :
    live'?.isSome = true := by
  cases fate with
  | apart different => exact there.resolve_right fun written => different written.1.symm
  | failed =>
      refine there.resolve_right fun written => ?_
      obtain ⟨-, outcome, done⟩ := written
      cases done
  | created => rfl
  | unchanged => rfl
  | updated => rfl

/-- A call that writes nothing leaves the store as it is. -/
theorem Applied.eq_of_not_written (applied : Applied desired store result after)
    (notCreated : result ≠ .ok .created) (notUpdated : result ≠ .ok .updated) : after = store := by
  cases applied with
  | failed reason => rfl
  | created applicable absent => exact absurd rfl notCreated
  | unchanged applicable present done same => rfl
  | updated applicable present done different => exact absurd rfl notUpdated

namespace Ledger

/-- An object is found by its type, its namespace and its name. -/
theorem find?_of_mem (ledger : Ledger calls store) {object : Object}
    (there : object ∈ store.objects) :
    ∃ (type : ObjectType) (name : String),
      object.type? = some type ∧ object.metadata.name = some name
        ∧ store.find? ⟨type.apiVersion, type.kind, object.metadata.namespaceName.getD "", name⟩ =
          some object := by
  obtain ⟨type, typed⟩ := (ledger.traced object there).typed
  obtain ⟨name, named⟩ := (ledger.traced object there).named
  refine ⟨type, name, typed, named, ?_⟩
  rw [← ledger.inOrder.find?_of_mem there, Object.key, typed, named]
  rfl

theorem present_step (ledger : Ledger calls store) (applied : Applied desired store result after) :
    ∀ call ∈ calls ++ [(desired, result)], (∃ outcome : Outcome, call.2 = .ok outcome) →
      (after.find? call.1.key).isSome = true := by
  intro call there well
  refine (applied.fate call.1.key).isSome ?_
  rcases List.mem_append.mp there with earlier | last
  · exact .inl (ledger.present call earlier well)
  · obtain rfl := List.mem_singleton.mp last
    exact .inr ⟨rfl, well⟩

theorem replacements_step (ledger : Ledger calls store)
    (applied : Applied desired store result after) :
    after.replacements = tally .updated (calls ++ [(desired, result)]) := by
  rw [tally_append, ← ledger.replacements, applied.replacements]

theorem versions_step (ledger : Ledger calls store) (applied : Applied desired store result after) :
    after.versions =
      tally .created (calls ++ [(desired, result)])
        + tally .updated (calls ++ [(desired, result)]) := by
  rw [tally_append, tally_append, applied.versions, ledger.versions]
  omega

/-- No call has updated an object that is not there. -/
theorem tally_of_absent (ledger : Ledger calls store) {key : ObjectKey}
    (absent : store.find? key = none) :
    tally .updated (callsOn key calls) = 0 := by
  refine List.countP_eq_zero.mpr fun call there updated => ?_
  obtain ⟨member, same⟩ := List.mem_filter.mp there
  have found := ledger.present call member ⟨.updated, of_decide_eq_true updated⟩
  rw [of_decide_eq_true same, absent] at found
  cases found

/-- Every object stays accounted for: those that a call leaves alone, and the one
that it writes. -/
theorem traced_step (ledger : Ledger calls store) (applied : Applied desired store result after) :
    ∀ object ∈ after.objects, Traced (calls ++ [(desired, result)]) after.versions object := by
  have apart {stored object : Object} (key : desired.key = stored.key)
    (there : object ∈ store.objects)
      (different : object.key ≠ stored.key) :
      Traced (calls ++ [(desired, result)]) (store.versions + 1) object :=
    (ledger.traced object there).later (Nat.le_succ _) fun same =>
      absurd (same.symm.trans key) different
  intro object there
  cases applied with
  | failed reason => exact (ledger.traced object there).later le_rfl nofun
  | created applicable absent =>
      rcases ledger.inOrder.eq_or_mem_of_insert there with rfl | ⟨member, different⟩
      · exact .created applicable ledger.versions (ledger.tally_of_absent absent)
      · exact apart rfl member different
  | unchanged applicable present done same => exact (ledger.traced object there).later le_rfl nofun
  | updated applicable present done notSame =>
      obtain ⟨current, addressed⟩ := ledger.inOrder.find?_eq_some_iff.mp present
      rcases ledger.inOrder.eq_or_mem_of_insert there with rfl | ⟨member, different⟩
      · exact (ledger.traced _ current).replaced applicable addressed done
      · exact apart (key_merge done).symm member different

/-- A new identity is not one of the old ones, and an updated object keeps its own. -/
theorem uids_step (ledger : Ledger calls store) (applied : Applied desired store result after) :
    (after.objects.map fun object => object.metadata.uid).Nodup := by
  cases applied with
  | failed reason => exact ledger.uids
  | created applicable absent =>
      refine ledger.inOrder.nodup_map_insert ledger.uids fun object there _ same => ?_
      obtain ⟨number, most, numbered⟩ := (ledger.traced object there).uid_le
      rw [numbered] at same
      have equal : number = store.versions + 1 := by simpa [MemoryStore.created] using same
      rw [equal, ledger.versions] at most
      omega
  | unchanged applicable present done same => exact ledger.uids
  | @updated current merged applicable present done notSame =>
      obtain ⟨member, addressed⟩ := ledger.inOrder.find?_eq_some_iff.mp present
      have uid : merged.metadata.uid = current.metadata.uid := by
        rw [metadata_merge done, mergeMetadata]
      refine ledger.inOrder.nodup_map_insert ledger.uids fun object there apart same => apart ?_
      -- Among the stored objects only the live one has its identity.
      have equal : object = current :=
        List.inj_on_of_nodup_map ledger.uids there member (same.trans uid)
      exact (congrArg Object.key equal).trans (addressed.trans (key_merge done).symm)

/-- A new version is not one of the old ones. -/
theorem resourceVersions_step (ledger : Ledger calls store)
    (applied : Applied desired store result after) :
    (after.objects.map fun object => object.metadata.resourceVersion).Nodup := by
  have fresh {stored : Object}
      (version : stored.metadata.resourceVersion = some (toString (store.versions + 1))) :
      ((store.insert stored).objects.map fun object => object.metadata.resourceVersion).Nodup := by
    refine ledger.inOrder.nodup_map_insert ledger.resourceVersions fun object there _ same => ?_
    obtain ⟨number, -, most, numbered⟩ := (ledger.traced object there).resourceVersion
    rw [numbered, version] at same
    have equal : number = store.versions + 1 := Nat.repr_inj.mp (Option.some.inj same)
    omega
  cases applied with
  | failed reason => exact ledger.resourceVersions
  | created applicable absent => exact fresh rfl
  | unchanged applicable present done same => exact ledger.resourceVersions
  | updated applicable present done different => exact fresh rfl

theorem length_step (ledger : Ledger calls store) (applied : Applied desired store result after) :
    after.objects.length = tally .created (calls ++ [(desired, result)]) := by
  rw [tally_append, ← ledger.length]
  cases applied with
  | failed reason => rfl
  | created applicable absent => exact length_insert_of_absent absent
  | unchanged applicable present done same => rfl
  | updated applicable present done different =>
      exact ledger.inOrder.length_insert_of_present (key_merge done ▸ present)

/-- One call keeps the reckoning right. -/
theorem step (ledger : Ledger calls store) (applied : Applied desired store result after) :
    Ledger (calls ++ [(desired, result)]) after where
  inOrder := applied.inOrder ledger.inOrder
  present := ledger.present_step applied
  traced := ledger.traced_step applied
  uids := ledger.uids_step applied
  resourceVersions := ledger.resourceVersions_step applied
  replacements := ledger.replacements_step applied
  versions := ledger.versions_step applied
  length := ledger.length_step applied

/-- Calls one after another keep the reckoning right. -/
theorem history {calls' : List (Object × Except ApplyError Outcome)} (ledger : Ledger calls store)
    (history : History store calls' after) : Ledger (calls ++ calls') after := by
  induction history generalizing calls with
  | nil store => rwa [List.append_nil]
  | cons first others induction =>
      rw [List.append_cons]
      exact induction (ledger.step first)

end Ledger

/-- An object that is there keeps its identity. -/
theorem uid_of_history (history : History store calls after) {key : ObjectKey} {stored : Object}
    (there : store.find? key = some stored) :
    ∃ live : Object, after.find? key = some live ∧ live.metadata.uid = stored.metadata.uid := by
  induction history generalizing stored with
  | nil store => exact ⟨stored, there, rfl⟩
  | @cons before between after desired result calls first others induction =>
      have fate := first.fate key
      rw [there] at fate
      generalize found : between.find? key = middle? at fate
      cases fate with
      | apart different => exact induction found
      | failed => exact induction found
      | unchanged addressed applicable type done same => exact induction found
      | updated version addressed applicable type done =>
          obtain ⟨live, final, uid⟩ := induction found
          refine ⟨live, final, uid.trans ?_⟩
          rw [replaced, metadata_merge done, mergeMetadata]

end

variable (surroundings : Surroundings (StateM MemoryStore)) (metrics : Metrics)

/-- One call of those that are made one after another. -/
theorem applyEach_split (store : MemoryStore) (earlier later : List Object) (desired : Object)
    (metrics' : Metrics) :
    let before := (applyEach surroundings metrics store earlier).2
    let call := applyOne surroundings metrics' before desired
    (applyEach surroundings metrics store (earlier ++ desired :: later)).1[earlier.length]? =
    some call.1
      ∧ (applyEach surroundings metrics store (earlier ++ [desired])).2 = call.2
      ∧ Applied desired before call.1 call.2
      ∧ ∃ calls : List (Object × Except ApplyError Outcome),
        History call.2 calls (applyEach surroundings metrics store
          (earlier ++ desired :: later)).2 := by
  simp only [applyEach_eq, applyOne_eq, List.foldl_append, List.foldl_cons, List.foldl_nil]
  refine ⟨?_, trivial, applied_next _ desired, _, history_results _ later⟩
  induction earlier generalizing store with
  | nil => rfl
  | cons first earlier induction => exact induction (store.next first)

/-- Objects that are applied one after another, beginning with an empty store, are
recorded as the calls say.  A call that neither creates nor updates changes
nothing, and what a call creates keeps the identity that it got then. -/
theorem applyEach_ledger (desireds : List Object) :
    let run := applyEach surroundings metrics .empty desireds
    Ledger (desireds.zip run.1) run.2
      ∧ (∀ object ∈ run.2.objects, ∃ (type : ObjectType) (name : String),
        object.type? = some type ∧ object.metadata.name = some name
          ∧ run.2.find? ⟨type.apiVersion, type.kind, object.metadata.namespaceName.getD "", name⟩ =
            some object)
      ∧ ∀ (earlier later : List Object) (desired : Object), desireds = earlier ++ desired :: later →
        let before := (applyEach surroundings metrics .empty earlier).2
        let after := (applyEach surroundings metrics .empty (earlier ++ [desired])).2
        ∃ result : Except ApplyError Outcome, run.1[earlier.length]? = some result
          ∧ (result ≠ .ok .created → result ≠ .ok .updated → after = before)
          ∧ (result = .ok .created → ∃ stored live : Object,
            after.find? desired.key = some stored ∧ run.2.find? desired.key = some live
              ∧ live.metadata.uid = stored.metadata.uid) := by
  have ledger := ledger_empty.history (history_applyEach surroundings metrics .empty desireds)
  refine ⟨ledger, fun object there => ledger.find?_of_mem there, ?_⟩
  rintro earlier later desired rfl
  obtain ⟨position, left, applied, calls, history⟩ :=
    applyEach_split surroundings metrics .empty earlier later desired metrics
  refine ⟨_, position, fun notCreated notUpdated => ?_, fun created => ?_⟩
  · rw [left]
    exact applied.eq_of_not_written notCreated notUpdated
  · rw [created] at applied
    rw [left]
    obtain ⟨stored, found⟩ := Option.isSome_iff_exists.mp
      ((applied.fate desired.key).isSome (.inr ⟨rfl, .created, rfl⟩))
    obtain ⟨live, final, uid⟩ := uid_of_history history found
    exact ⟨stored, live, found, final, uid⟩

/-- What an object claims about itself is not recorded. -/
example :
    let forged := { Object.bare "v1" "Service" "web" with
      metadata :=
        { Metadata.empty with name := some "web", uid := some "uid-7", generation := some 9 } }
    (applyEach .idle .empty .empty [forged, forged]).2.objects.map
      (fun object => (object.metadata.uid, object.metadata.generation)) =
      [(some "uid-1", some 1)] := by
  decide

end MemoryStore

end PoolOperator
