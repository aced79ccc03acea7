import PoolOperator.Proofs.Apply.InMemory
import PoolOperator.Proofs.Merge.Metadata

/-!
# Protected fields

Whatever objects are applied, a stored object keeps its identity, what the cluster
has noted about it, the revision of a Deployment, the addresses of a Service, and
the secrets of a ServiceAccount (`Preserved`).
-/

namespace PoolOperator

namespace Object

/-- Has the body a value at a path? -/
def Has (object : Object) (path : Path) (value : Value) : Prop :=
  object.body.get? path = .ok (some value)

/-- Has a ServiceAccount any secrets? -/
def HasSecrets (object : Object) : Prop :=
  ∃ items : List Value, items ≠ [] ∧ object.Has ["secrets"] (.arr items)

/-- A supported ServiceAccount has no secrets. -/
theorem not_hasSecrets_of_supported {object : Object}
    (account : object.groupKind = ⟨"", "ServiceAccount"⟩)
    (supported : checkSupported object = .ok ()) : ¬ object.HasSecrets := by
  rintro ⟨items, notEmpty, there⟩
  rw [checkSupported, if_pos account, Value.list?_eq_some_iff.mpr there] at supported
  cases items with
  | nil => exact notEmpty rfl
  | cons item items => cases supported

end Object

/-! ## Merging -/

section

variable {current desired merged : Object}

/-- A value that is to be kept is kept, or gives way to the desired object's own one. -/
theorem has_merge (done : merge current desired = .ok merged) {member : KeptMember}
    (there : member ∈ keptMembers desired.groupKind) {value : Value}
    (live : current.Has member.path value) (admits : member.keeping.Admits value) :
    merged.Has member.path value
      ∨ member.keeping = .textUnlessOwn
        ∧ ∃ own : String, desired.Has member.path (.str own)
        ∧ merged.Has member.path (.str own) := by
  obtain ⟨body, merges, rfl⟩ := merge_eq_ok_iff.mp done
  obtain ⟨value?, found, read⟩ :=
    (merges.keeps_of_mem there).get?_member (separate_keptMembers _) there
  -- Unless the desired object has a value of its own, the live one is written.
  have kept (noOwn : member.keeping = .textUnlessOwn →
    desired.body.string? member.path = .ok none) :
      (mergedObject current desired body).Has member.path value := by
    rw [KeptMember.value?_of_admits live admits noOwn] at found
    cases found
    exact read
  by_cases rule : member.keeping = .textUnlessOwn
  · have given := found
    simp only [KeptMember.value?, rule] at given
    obtain ⟨text?, -, given⟩ := Except.bind_eq_ok_iff.mp given
    obtain ⟨own?, stated, given⟩ := Except.bind_eq_ok_iff.mp given
    cases own? with
    | none => exact .inl (kept fun _ => stated)
    | some own =>
        cases given
        have there := Value.string?_eq_some_iff.mp stated
        exact .inr ⟨rule, own, there, read.trans there⟩
  · exact .inl (kept (absurd · rule))

/-- Merging gives a ServiceAccount no secrets. -/
theorem not_hasSecrets_merge (done : merge current desired = .ok merged)
    (account : desired.groupKind = ⟨"", "ServiceAccount"⟩)
    (supported : checkSupported desired = .ok ()) (live : ¬ current.HasSecrets) :
    ¬ merged.HasSecrets := by
  have members : keptMembers desired.groupKind = serviceAccountMembers := by
    rw [account]
    rfl
  have there : (⟨["secrets"], .list⟩ : KeptMember) ∈ keptMembers desired.groupKind := by
    rw [members]
    exact List.mem_cons_self
  obtain ⟨body, merges, rfl⟩ := merge_eq_ok_iff.mp done
  obtain ⟨value?, found, read⟩ :=
    (merges.keeps_of_mem there).get?_member (separate_keptMembers _) there
  rintro ⟨items, notEmpty, has⟩
  have final : body.get? ["secrets"] = .ok (some (.arr items)) := has
  rw [read] at final
  cases value? with
  | none => exact Object.not_hasSecrets_of_supported account supported ⟨items, notEmpty, final⟩
  | some value =>
      cases final
      exact live ⟨items, notEmpty, (KeptMember.get?_of_value? found).1⟩

end

/-! ## What is preserved -/

/-- What becomes of a stored object when others are applied: what the cluster fills
in stays as it is. -/
structure Preserved (desireds : List Object) (before after : Object) : Prop where
  /-- The object is stored under the same key. -/
  key : after.key = before.key
  /-- It has the same type. -/
  type : after.type? = before.type?
  /-- It has the same identity. -/
  uid : after.metadata.uid = before.metadata.uid
  /-- It was created at the same time. -/
  creationTimestamp : after.metadata.creationTimestamp = before.metadata.creationTimestamp
  /-- It has the same address. -/
  selfLink : after.metadata.selfLink = before.metadata.selfLink
  /-- The same is noted about who manages its fields. -/
  managedFields : after.metadata.managedFields = before.metadata.managedFields
  /-- The same parties have to agree to its deletion. -/
  finalizers : after.metadata.finalizers = before.metadata.finalizers
  /-- A Deployment keeps its revision. -/
  revision : before.groupKind = ⟨"apps", "Deployment"⟩ → ∀ revision : String,
    before.annotation? revisionAnnotation = some revision →
    after.annotation? revisionAnnotation = some revision
  /-- A Service keeps its address. -/
  clusterIP : before.groupKind = ⟨"", "Service"⟩ → ∀ address : String, address ≠ "" →
    before.Has ["spec", "clusterIP"] (.str address) → after.Has ["spec", "clusterIP"] (.str address)
  /-- A Service keeps its addresses. -/
  clusterIPs : before.groupKind = ⟨"", "Service"⟩ → ∀ addresses : List String,
    before.Has ["spec", "clusterIPs"] (.strings addresses) →
    after.Has ["spec", "clusterIPs"] (.strings addresses)
  /-- A Service keeps its address families. -/
  ipFamilies : before.groupKind = ⟨"", "Service"⟩ → ∀ families : List String,
    before.Has ["spec", "ipFamilies"] (.strings families) →
    after.Has ["spec", "ipFamilies"] (.strings families)
  /-- A Service keeps its family policy, or gets one that was desired. -/
  ipFamilyPolicy : before.groupKind = ⟨"", "Service"⟩ → ∀ policy : String,
    before.Has ["spec", "ipFamilyPolicy"] (.str policy) →
    ∃ policy' : String, after.Has ["spec", "ipFamilyPolicy"] (.str policy')
      ∧ (policy' = policy ∨ ∃ desired ∈ desireds, desired.key = before.key
          ∧ desired.Has ["spec", "ipFamilyPolicy"] (.str policy'))
  /-- A ServiceAccount keeps its secrets. -/
  secrets : before.groupKind = ⟨"", "ServiceAccount"⟩ → ∀ secrets : List Value,
    before.Has ["secrets"] (.arr secrets) → after.Has ["secrets"] (.arr secrets)
  /-- A ServiceAccount keeps the secrets that images are pulled with. -/
  imagePullSecrets : before.groupKind = ⟨"", "ServiceAccount"⟩ → ∀ secrets : List Value,
    before.Has ["imagePullSecrets"] (.arr secrets) → after.Has ["imagePullSecrets"] (.arr secrets)
  /-- A ServiceAccount without secrets gets none. -/
  noSecrets : before.groupKind = ⟨"", "ServiceAccount"⟩ → ¬ before.HasSecrets → ¬ after.HasSecrets

namespace Preserved

theorem refl (desireds : List Object) (object : Object) : Preserved desireds object object where
  key := rfl
  type := rfl
  uid := rfl
  creationTimestamp := rfl
  selfLink := rfl
  managedFields := rfl
  finalizers := rfl
  revision _ _ there := there
  clusterIP _ _ _ there := there
  clusterIPs _ _ there := there
  ipFamilies _ _ there := there
  ipFamilyPolicy _ policy there := ⟨policy, there, .inl rfl⟩
  secrets _ _ there := there
  imagePullSecrets _ _ there := there
  noSecrets _ absent := absent

theorem trans {desireds desireds' : List Object} {before between after : Object}
    (first : Preserved desireds before between) (second : Preserved desireds' between after) :
    Preserved (desireds ++ desireds') before after :=
  have same : between.groupKind = before.groupKind := Object.groupKind_eq_of_type? first.type
  { key := second.key.trans first.key
    type := second.type.trans first.type
    uid := second.uid.trans first.uid
    creationTimestamp := second.creationTimestamp.trans first.creationTimestamp
    selfLink := second.selfLink.trans first.selfLink
    managedFields := second.managedFields.trans first.managedFields
    finalizers := second.finalizers.trans first.finalizers
    revision := fun deployment revision there =>
      second.revision (same.trans deployment) revision (first.revision deployment revision there)
    clusterIP := fun service address notEmpty there =>
      second.clusterIP (same.trans service) address notEmpty
        (first.clusterIP service address notEmpty there)
    clusterIPs := fun service addresses there =>
      second.clusterIPs (same.trans service) addresses (first.clusterIPs service addresses there)
    ipFamilies := fun service families there =>
      second.ipFamilies (same.trans service) families (first.ipFamilies service families there)
    ipFamilyPolicy := by
      intro service policy there
      obtain ⟨policy', there', stated⟩ := first.ipFamilyPolicy service policy there
      obtain ⟨policy'', there'', stated'⟩ :=
        second.ipFamilyPolicy (same.trans service) policy' there'
      refine ⟨policy'', there'', ?_⟩
      rcases stated' with rfl | ⟨desired, member, key, own⟩
      · rcases stated with kept | ⟨desired, member, rest⟩
        · exact .inl kept
        · exact .inr ⟨desired, List.mem_append_left _ member, rest⟩
      · exact .inr ⟨desired, List.mem_append_right _ member, key.trans first.key, own⟩
    secrets := fun account secrets there =>
      second.secrets (same.trans account) secrets (first.secrets account secrets there)
    imagePullSecrets := fun account secrets there =>
      second.imagePullSecrets (same.trans account) secrets
        (first.imagePullSecrets account secrets there)
    noSecrets := fun account absent =>
      second.noSecrets (same.trans account) (first.noSecrets account absent) }

/-- A live object that is replaced by a merged one is preserved. -/
theorem of_merge {current desired merged : Object}
    (sorted : (desired.metadata.annotations.getD []).Sorted)
    (supported : checkSupported desired = .ok ()) (type : current.type? = desired.type?)
    (key : current.key = desired.key) (done : merge current desired = .ok merged) (version : Nat) :
    Preserved [desired] current (MemoryStore.replaced merged version) := by
  have same : desired.groupKind = current.groupKind := Object.groupKind_eq_of_type? type.symm
  have kept {type : GroupKind} (ofType : current.groupKind = type) (member : KeptMember)
      (there : member ∈ keptMembers type) {value : Value} (live : current.Has member.path value)
      (admits : member.keeping.Admits value) (notOwn : member.keeping ≠ .textUnlessOwn) :
      (MemoryStore.replaced merged version).Has member.path value :=
    (has_merge done (same ▸ ofType ▸ there) live admits).resolve_right fun own => notOwn own.1
  have revision : ∀ text : String, current.groupKind = ⟨"apps", "Deployment"⟩ →
      current.annotation? revisionAnnotation = some text →
      merged.annotation? revisionAnnotation = some text := by
    intro text deployment there
    rw [annotation?_merge sorted done, if_pos ⟨same.trans deployment, rfl⟩, there]
    rfl
  have policy : ∀ text : String, current.groupKind = ⟨"", "Service"⟩ →
      current.Has ["spec", "ipFamilyPolicy"] (.str text) →
      ∃ text' : String, merged.Has ["spec", "ipFamilyPolicy"] (.str text')
        ∧ (text' = text ∨ desired.Has ["spec", "ipFamilyPolicy"] (.str text')) := by
    intro text service there
    have member : (⟨["spec", "ipFamilyPolicy"], .textUnlessOwn⟩ : KeptMember) ∈
        keptMembers desired.groupKind := by
      rw [same, service]
      decide
    rcases has_merge done member there (.textUnlessOwn text) with live | ⟨-, own, stated, final⟩
    · exact ⟨text, live, .inl rfl⟩
    · exact ⟨own, final, .inr stated⟩
  have noSecrets (account : current.groupKind = ⟨"", "ServiceAccount"⟩) :
      ¬ current.HasSecrets → ¬ merged.HasSecrets :=
    not_hasSecrets_merge done (same.trans account) supported
  obtain ⟨body, -, rfl⟩ := merge_eq_ok_iff.mp done
  exact {
    key := key.symm
    type := type.symm
    uid := rfl
    creationTimestamp := rfl
    selfLink := rfl
    managedFields := rfl
    finalizers := rfl
    revision := fun deployment text there => revision text deployment there
    clusterIP := fun service address notEmpty there =>
      kept service ⟨["spec", "clusterIP"], .text⟩ (by decide) there (.text notEmpty) nofun
    clusterIPs := fun service addresses there =>
      kept service ⟨["spec", "clusterIPs"], .texts⟩ (by decide) there (.texts addresses) nofun
    ipFamilies := fun service families there =>
      kept service ⟨["spec", "ipFamilies"], .texts⟩ (by decide) there (.texts families) nofun
    ipFamilyPolicy := by
      intro service text there
      obtain ⟨text', final, stated⟩ := policy text service there
      refine ⟨text', final, stated.imp_right fun own => ?_⟩
      exact ⟨desired, List.mem_singleton_self desired, key.symm, own⟩
    secrets := fun account secrets there =>
      kept account ⟨["secrets"], .list⟩ (by decide) there (.list secrets) nofun
    imagePullSecrets := fun account secrets there =>
      kept account ⟨["imagePullSecrets"], .list⟩ (by decide) there (.list secrets) nofun
    noSecrets := noSecrets }

end Preserved

namespace MemoryStore

theorem preserved_of_fate {desired before : Object} {key : ObjectKey}
    {result : Except ApplyError Outcome} {live? : Option Object}
    (fate : Fate desired key result (some before) live?) (stored : before.key = key)
    (sorted : (desired.metadata.annotations.getD []).Sorted) :
    ∃ live : Object, live? = some live ∧ Preserved [desired] before live := by
  cases fate with
  | apart different => exact ⟨before, rfl, .refl _ before⟩
  | failed => exact ⟨before, rfl, .refl _ before⟩
  | unchanged addressed applicable type done same => exact ⟨before, rfl, .refl _ before⟩
  | updated version addressed applicable type done =>
      exact ⟨_, rfl, .of_merge sorted applicable.supported type (stored.trans addressed)
        done version⟩

section

variable {store after : MemoryStore} {calls : List (Object × Except ApplyError Outcome)}
  {key : ObjectKey}

/-- Stored objects are preserved by calls one after another. -/
theorem preserved_of_history (history : History store calls after)
    (sorted : ∀ call ∈ calls, (call.1.metadata.annotations.getD []).Sorted) {before : Object}
    (there : store.find? key = some before) :
    ∃ live : Object, after.find? key = some live ∧ Preserved (calls.map Prod.fst) before live := by
  induction history generalizing before with
  | nil store => exact ⟨before, there, .refl _ before⟩
  | @cons store between after desired result calls first others induction =>
      have fate := first.fate key
      rw [there] at fate
      obtain ⟨middle, found, step⟩ :=
        preserved_of_fate fate (key_of_find? there) (sorted _ List.mem_cons_self)
      obtain ⟨live, final, rest⟩ :=
        induction (fun call member => sorted call (List.mem_cons_of_mem _ member)) found
      exact ⟨live, final, step.trans rest⟩

/-- No ServiceAccount is created with secrets. -/
theorem not_hasSecrets_of_history (history : History store calls after)
    (sorted : ∀ call ∈ calls, (call.1.metadata.annotations.getD []).Sorted)
    (absent : store.find? key = none) {live : Object} (there : after.find? key = some live)
    (account : live.groupKind = ⟨"", "ServiceAccount"⟩) : ¬ live.HasSecrets := by
  induction history with
  | nil store =>
      rw [absent] at there
      cases there
  | @cons store between after desired result calls first others induction =>
      have laterSorted := fun call member => sorted call (List.mem_cons_of_mem _ member)
      have fate := first.fate key
      rw [absent] at fate
      generalize found : between.find? key = middle? at fate
      cases fate with
      | apart different => exact induction laterSorted found there
      | failed => exact induction laterSorted found there
      | created version addressed applicable =>
          -- The check at its creation saw no secrets, and later calls give it none.
          obtain ⟨_, final, rest⟩ := preserved_of_history others laterSorted found
          obtain rfl := Option.some.inj (final.symm.trans there)
          have same := Object.groupKind_eq_of_type? rest.type
          exact rest.noSecrets (same.symm.trans account)
            (Object.not_hasSecrets_of_supported (same.symm.trans account) applicable.supported)

end

variable (surroundings : Surroundings (StateM MemoryStore)) (metrics : Metrics)

/-- Whatever is applied after some other calls, and whatever the calls give,
everything that was stored is preserved, and no ServiceAccount is created with
secrets.  Only the annotations have to be in order, as those of a map are. -/
theorem applyEach_preserved (store : MemoryStore) (earlier later : List Object)
    (sorted : ∀ desired ∈ later, (desired.metadata.annotations.getD []).Sorted) (key : ObjectKey) :
    (∀ before : Object, (applyEach surroundings metrics store earlier).2.find? key = some before →
        ∃ live : Object,
          (applyEach surroundings metrics store (earlier ++ later)).2.find? key = some live
            ∧ Preserved later before live)
      ∧ ((applyEach surroundings metrics store earlier).2.find? key = none → ∀ live : Object,
        (applyEach surroundings metrics store (earlier ++ later)).2.find? key = some live →
        live.groupKind = ⟨"", "ServiceAccount"⟩ → ¬ live.HasSecrets) := by
  obtain ⟨calls, rfl, history⟩ := history_applyEach_append surroundings metrics store earlier later
  have callsSorted : ∀ call ∈ calls, (call.1.metadata.annotations.getD []).Sorted :=
    fun call member => sorted call.1 (List.mem_map_of_mem member)
  exact ⟨fun before there => preserved_of_history history callsSorted there,
    fun absent live there account =>
      not_hasSecrets_of_history history callsSorted absent there account⟩

/-- A stored Service keeps its address when a Service without one is applied. -/
theorem applyEach_preserved_address :
    (∀ desired ∈ [Object.bare "v1" "Service" "web"], (desired.metadata.annotations.getD []).Sorted)
      ∧ ∃ live : Object,
        (applyEach .idle .empty
            (MemoryStore.empty.insert { Object.bare "v1" "Service" "web" with
              body := .obj [("spec", .obj [("clusterIP", .str "10.0.0.1")])] })
            [Object.bare "v1" "Service" "web"]).2.find? ⟨"v1", "Service", "", "web"⟩ = some live
          ∧ live.Has ["spec", "clusterIP"] (.str "10.0.0.1") := by
  have sorted : ∀ desired ∈ [Object.bare "v1" "Service" "web"],
      (desired.metadata.annotations.getD []).Sorted :=
    List.forall_mem_singleton.mpr List.Pairwise.nil
  refine ⟨sorted, ?_⟩
  let stored : Object := { Object.bare "v1" "Service" "web" with
    body := .obj [("spec", .obj [("clusterIP", .str "10.0.0.1")])] }
  have there : (applyEach .idle .empty (MemoryStore.empty.insert stored) []).2.find?
      ⟨"v1", "Service", "", "web"⟩ = some stored := rfl
  obtain ⟨live, found, preserved⟩ := (applyEach_preserved .idle .empty _ [] _ sorted _).1 _ there
  exact ⟨live, found, preserved.clusterIP (by decide) _ (by decide) rfl⟩

end MemoryStore

end PoolOperator
