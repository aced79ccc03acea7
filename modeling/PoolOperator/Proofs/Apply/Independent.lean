import PoolOperator.Proofs.Apply.InMemory

/-!
# The order of calls does not matter

A call looks at what is stored under the key of its object alone.  If no two objects
have the same key, every call finds what was there before all of them
(`results_apart`, `fate_apart`).  So the objects can be applied in any order
(`applyEach_perm`): only the identities and the versions that the store gives show in
which order it was.
-/

namespace PoolOperator

namespace MemoryStore

/-! ## Calls about different keys -/

theorem verdict_next_of_ne (store : MemoryStore) {first desired : Object}
    (different : desired.key ≠ first.key) :
    (store.next first).verdict desired = store.verdict desired := by
  rw [verdict, verdict, (store.applied_next first).find?_of_ne different]

/-- The objects with the results that their verdicts in a store give. -/
def judged (store : MemoryStore) (desireds : List Object) :
    List (Object × Except ApplyError Outcome) :=
  desireds.map fun desired => (desired, (store.verdict desired).result)

section

variable (store : MemoryStore) {desireds : List Object}

/-- Every call has the result that it would have as the first one. -/
theorem results_apart (apart : (desireds.map Object.key).Nodup) :
    desireds.zip (store.results desireds) = store.judged desireds := by
  induction desireds generalizing store with
  | nil => rfl
  | cons first rest induction =>
      obtain ⟨new, restApart⟩ := List.nodup_cons.mp apart
      rw [results, List.zip_cons_cons, induction (store.next first) restApart]
      refine congrArg (_ :: ·) (List.map_congr_left fun desired there => ?_)
      rw [store.verdict_next_of_ne fun same => new (same ▸ List.mem_map_of_mem there)]

theorem history_apart (apart : (desireds.map Object.key).Nodup) :
    History store (store.judged desireds) (desireds.foldl next store) :=
  results_apart store apart ▸ history_results store desireds

/-- Every object fares as it would if it were the only one. -/
theorem fate_apart (apart : (desireds.map Object.key).Nodup) {desired : Object}
    (there : desired ∈ desireds) :
    Fate desired desired.key (store.verdict desired).result (store.find? desired.key)
      ((desireds.foldl next store).find? desired.key) := by
  induction desireds generalizing store with
  | nil => cases there
  | cons first rest induction =>
      obtain ⟨new, restApart⟩ := List.nodup_cons.mp apart
      rcases List.mem_cons.mp there with rfl | later
      · -- No later call is about the same key.
        have untouched : (rest.foldl next (store.next desired)).find? desired.key =
            (store.next desired).find? desired.key :=
          find?_of_history (history_results _ rest) fun call member same =>
            new (same ▸ List.mem_map_of_mem (List.of_mem_zip member).1)
        rw [List.foldl_cons, untouched]
        exact (store.applied_next desired).fate desired.key
      · -- The first call is about another key, so the others find what was there before it.
        have different : desired.key ≠ first.key := fun same =>
          new (same ▸ List.mem_map_of_mem later)
        have fate := induction (store.next first) restApart later
        rwa [store.verdict_next_of_ne different,
          (store.applied_next first).find?_of_ne different] at fate

end

/-! ## Stored objects -/

/-- Are two objects the same, as far as it does not depend on the order of calls? -/
structure Alike (calls : List (Object × Except ApplyError Outcome))
    (one other : Object) : Prop where
  /-- They differ in the identity and the version at most. -/
  same : other = { one with metadata := { one.metadata with
    uid := other.metadata.uid, resourceVersion := other.metadata.resourceVersion } }
  /-- The identity is the same unless the object was created. -/
  uid : (∀ call ∈ calls, call.1.key = one.key → call.2 ≠ .ok .created) →
    other.metadata.uid = one.metadata.uid
  /-- The version is the same unless the object was written. -/
  resourceVersion :
    (∀ call ∈ calls, call.1.key = one.key → call.2 ≠ .ok .created ∧ call.2 ≠ .ok .updated) →
    other.metadata.resourceVersion = one.metadata.resourceVersion

section

variable {calls : List (Object × Except ApplyError Outcome)}

theorem Alike.refl (object : Object) : Alike calls object object :=
  ⟨rfl, fun _ => rfl, fun _ => rfl⟩

theorem alike_self (live? : Option Object) : Option.Rel (Alike calls) live? live? := by
  cases live? with
  | none => exact .none
  | some live => exact .some (.refl live)

/-- Twice the same fate makes alike objects of the same one. -/
theorem alike_of_fate {desired : Object} {result : Except ApplyError Outcome}
    {live? one? other? : Option Object} (called : (desired, result) ∈ calls)
    (one : Fate desired desired.key result live? one?)
    (other : Fate desired desired.key result live? other?) :
    Option.Rel (Alike calls) one? other? := by
  cases one with
  | apart different => exact absurd rfl different
  | failed =>
      cases other with
      | apart different => exact absurd rfl different
      | failed => exact alike_self live?
  | created version addressed applicable =>
      cases other with
      | apart different => exact absurd rfl different
      | created version' =>
          exact .some ⟨rfl, fun notCreated => absurd rfl (notCreated _ called rfl),
            fun notWritten => absurd rfl (notWritten _ called rfl).1⟩
  | unchanged addressed applicable type done same =>
      cases other with
      | apart different => exact absurd rfl different
      | unchanged => exact alike_self _
  | updated version addressed applicable type done =>
      cases other with
      | apart different => exact absurd rfl different
      | updated version' addressed' applicable' type' done' =>
          obtain rfl := Except.ok.inj (done.symm.trans done')
          exact .some ⟨rfl, fun _ => rfl,
            fun notWritten => absurd rfl (notWritten _ called (key_merge done).symm).2⟩

end

section

variable {store : MemoryStore} {desireds desireds' : List Object}

theorem alike_find? (perm : desireds.Perm desireds') (apart : (desireds.map Object.key).Nodup)
    (apart' : (desireds'.map Object.key).Nodup) (key : ObjectKey) :
    Option.Rel (Alike (store.judged desireds)) ((desireds.foldl next store).find? key)
      ((desireds'.foldl next store).find? key) := by
  by_cases applied : ∃ desired ∈ desireds, desired.key = key
  · obtain ⟨desired, there, rfl⟩ := applied
    exact alike_of_fate (List.mem_map_of_mem there) (fate_apart store apart there)
      (fate_apart store apart' (perm.mem_iff.mp there))
  · have untouched {objects : List Object} (subset : objects ⊆ desireds) :
        (objects.foldl next store).find? key = store.find? key :=
      find?_of_history (history_results store objects) fun call member same =>
        applied ⟨call.1, subset (List.of_mem_zip member).1, same.symm⟩
    rw [untouched (List.Subset.refl _), untouched perm.symm.subset]
    exact alike_self _

end

theorem tally_perm (outcome : Outcome) {calls calls' : List (Object × Except ApplyError Outcome)}
    (perm : calls.Perm calls') : tally outcome calls = tally outcome calls' :=
  perm.countP_eq _

/-- Objects with different keys can be applied in any order, whether all of them can
be applied or not.  Each has the same result, the stores hold the same objects
except for what a store gives to the objects that are written, and the counters are
the same. -/
theorem applyEach_perm (surroundings : Surroundings (StateM MemoryStore))
    (metrics metrics' : Metrics) (store : MemoryStore) {desireds desireds' : List Object}
    (perm : desireds.Perm desireds') (apart : (desireds.map Object.key).Nodup) :
    let one := applyEach surroundings metrics store desireds
    let other := applyEach surroundings metrics' store desireds'
    let calls := desireds.zip one.1
    calls.Perm (desireds'.zip other.1)
      ∧ (∀ key : ObjectKey, Option.Rel (Alike calls) (one.2.find? key) (other.2.find? key))
      ∧ (store.InOrder → List.Forall₂ (Alike calls) one.2.objects other.2.objects)
      ∧ one.2.versions = other.2.versions ∧ one.2.replacements = other.2.replacements := by
  have apart' : (desireds'.map Object.key).Nodup := (perm.map Object.key).nodup_iff.mp apart
  simp only [applyEach_eq, results_apart store apart, results_apart store apart']
  have samePerm : (store.judged desireds).Perm (store.judged desireds') := perm.map _
  have one := history_apart store apart
  have other := history_apart store apart'
  refine ⟨samePerm, alike_find? perm apart apart', fun inOrder => ?_, ?_, ?_⟩
  · exact (inOrder_of_history one inOrder).forall₂ (inOrder_of_history other inOrder)
      (alike_find? perm apart apart')
  · rw [one.versions, other.versions, tally_perm .created samePerm, tally_perm .updated samePerm]
  · rw [one.replacements, other.replacements, tally_perm .updated samePerm]

/-- Two Services get their identities in the order in which they are created; nothing
else tells the stores apart. -/
theorem applyEach_perm_services :
    let web := Object.bare "v1" "Service" "web"
    let dns := Object.bare "v1" "Service" "dns"
    let one := applyEach .idle .empty .empty [web, dns]
    let other := applyEach .idle .empty .empty [dns, web]
    ([web, dns].map Object.key).Nodup ∧ [web, dns].Perm [dns, web]
      ∧ List.Forall₂ (Alike ([web, dns].zip one.1)) one.2.objects other.2.objects
      ∧ one.2.objects.map (fun object => object.metadata.uid) = [some "uid-2", some "uid-1"]
      ∧ other.2.objects.map (fun object => object.metadata.uid) = [some "uid-1", some "uid-2"] := by
  intro web dns one other
  have apart : ([web, dns].map Object.key).Nodup := by decide
  have perm : [web, dns].Perm [dns, web] := .swap dns web []
  have same := (applyEach_perm .idle .empty .empty .empty perm apart).2.2.1 inOrder_empty
  exact ⟨apart, perm, same, by decide, by decide⟩

end MemoryStore

end PoolOperator
