import PoolOperator.Proofs.Merge.Kept
import PoolOperator.Proofs.Value.Assign

/-!
# What merging gives

A merged object is the desired one with other metadata and another body
(`merge_eq_ok_iff`).  The body is the desired one with the kept members of the
live one, or, for a ConfigMap, with the pools (`MergesBody`).
-/

namespace PoolOperator

/-! ## Kinds -/

/-- The kind that is merged in some manner. -/
def MergedKind.type : MergedKind → GroupKind
  | .deployment => ⟨"apps", "Deployment"⟩
  | .service => ⟨"", "Service"⟩
  | .serviceAccount => ⟨"", "ServiceAccount"⟩
  | .configMap => ⟨"", "ConfigMap"⟩

theorem MergedKind.of?_eq_some_iff {type : GroupKind} {kind : MergedKind} :
    MergedKind.of? type = some kind ↔ type = kind.type := by
  constructor
  · intro found
    simp only [MergedKind.of?] at found
    split at found
    next same => exact same.trans (Option.some.inj found ▸ rfl)
    next =>
      split at found
      next same => exact same.trans (Option.some.inj found ▸ rfl)
      next =>
        split at found
        next same => exact same.trans (Option.some.inj found ▸ rfl)
        next =>
          split at found
          next same => exact same.trans (Option.some.inj found ▸ rfl)
          next => cases found
  · rintro rfl
    cases kind <;> decide

/-- Members are kept of a Service and of a ServiceAccount. -/
theorem keptMembers_cases {type : GroupKind} {member : KeptMember}
    (there : member ∈ keptMembers type) :
    type = ⟨"", "Service"⟩ ∧ member ∈ serviceMembers
      ∨ type = ⟨"", "ServiceAccount"⟩ ∧ member ∈ serviceAccountMembers := by
  rw [keptMembers] at there
  split at there
  next service => exact .inl ⟨MergedKind.of?_eq_some_iff.mp service, there⟩
  next account => exact .inr ⟨MergedKind.of?_eq_some_iff.mp account, there⟩
  next => cases there

theorem not_configMap_of_mem {type : GroupKind} {member : KeptMember}
    (there : member ∈ keptMembers type) :
    MergedKind.of? type ≠ some .configMap := by
  rcases keptMembers_cases there with ⟨rfl, -⟩ | ⟨rfl, -⟩ <;> decide

/-! ## Kept members -/

namespace Object

theorem write_eq_ok_iff {object after : Object} {path : Path} {value : Value}
    (notEmpty : path ≠ []) :
    object.write path value = .ok after ↔
      ∃ body : Value, Value.Written value path object.body body ∧ after = { object with body } := by
  rw [write, Except.mapError_eq_ok_iff, setBody, Except.map_eq_ok_iff]
  simp only [Value.set_eq_ok_iff notEmpty, @eq_comm _ after]

theorem writeSome_ite (object : Object) (path : Path) (value? : Option Value) (condition : Bool) :
    object.writeSome path (if condition then none else value?) =
      if condition then pure object else object.writeSome path value? := by
  cases condition <;> rfl

end Object

/-- Keeps members of the live object in the desired one. -/
def keepMembers (current : Object) : List KeptMember → Object → Except MergeError Object
  | [], desired => pure desired
  | member :: rest, desired => do
      let value? ← (member.value? current.body desired.body).mapError .access
      let between ← desired.writeSome member.path value?
      keepMembers current rest between

theorem mergeService_eq (current desired : Object) :
    mergeService current desired = keepMembers current serviceMembers desired := by
  simp only [mergeService, keepMembers, serviceMembers, KeptMember.value?, Object.string?,
    Object.strings?, Object.writeSome_ite, Except.mapError_bind, Except.mapError_pure, bind_assoc,
    pure_bind, bind_pure]

theorem mergeServiceAccount_eq (current desired : Object) :
    mergeServiceAccount current desired = keepMembers current serviceAccountMembers desired := by
  simp only [mergeServiceAccount, keepMembers, serviceAccountMembers, KeptMember.value?,
    Object.list?, Except.mapError_bind, Except.mapError_pure, bind_assoc, pure_bind, bind_pure]

theorem path_ne_nil_of_mem {type : GroupKind} {member : KeptMember}
    (there : member ∈ keptMembers type) :
    member.path ≠ [] := by
  have ofService : ∀ member ∈ serviceMembers, member.path ≠ [] := by decide
  have ofAccount : ∀ member ∈ serviceAccountMembers, member.path ≠ [] := by decide
  rcases keptMembers_cases there with ⟨-, member⟩ | ⟨-, member⟩
  · exact ofService _ member
  · exact ofAccount _ member

theorem keepMembers_eq_ok_iff {current desired merged : Object} {members : List KeptMember}
    (notEmpty : ∀ member ∈ members, member.path ≠ []) :
    keepMembers current members desired = .ok merged ↔
      ∃ body : Value, Keeps current.body members desired.body body
        ∧ merged = { desired with body } := by
  induction members generalizing desired with
  | nil =>
      constructor
      · intro same
        cases same
        exact ⟨merged.body, .done _, rfl⟩
      · rintro ⟨body, keeps, rfl⟩
        cases keeps
        rfl
  | cons member rest induction =>
      have first := notEmpty member List.mem_cons_self
      have others := fun other there => notEmpty other (List.mem_cons_of_mem _ there)
      rw [keepMembers, Except.bind_eq_ok_iff]
      simp only [Except.mapError_eq_ok_iff, Except.bind_eq_ok_iff, induction others]
      constructor
      · rintro ⟨value?, live, between, written, body, keeps, rfl⟩
        cases value? with
        | none =>
            cases written
            exact ⟨body, .skip live keeps, rfl⟩
        | some value =>
            obtain ⟨middle, inside, rfl⟩ := (Object.write_eq_ok_iff first).mp written
            exact ⟨body, .keep live inside keeps, rfl⟩
      · rintro ⟨body, keeps, rfl⟩
        cases keeps with
        | skip absent others => exact ⟨none, absent, desired, rfl, body, others, rfl⟩
        | keep live written others =>
            exact ⟨_, live, _, (Object.write_eq_ok_iff first).mpr ⟨_, written, rfl⟩, body,
              others, rfl⟩

/-! ## Pools -/

/-- Merging a ConfigMap leaves the desired one, or writes its data. -/
theorem mergeConfigMap_eq_ok {current desired merged : Object}
    (done : mergeConfigMap current desired = .ok merged) :
    ∃ body : Value, merged = { desired with body }
      ∧ (body = desired.body ∨ ∃ payload : String,
          Value.Written (.obj [(configKey, .str payload)]) ["data"] desired.body body) := by
  obtain ⟨live?, -, done⟩ := Except.bind_eq_ok_iff.mp done
  cases live? with
  | none =>
      cases done
      exact ⟨_, rfl, .inl rfl⟩
  | some live =>
      obtain ⟨own?, -, done⟩ := Except.bind_eq_ok_iff.mp done
      cases own? with
      | none =>
          cases done
          exact ⟨_, rfl, .inl rfl⟩
      | some own =>
          obtain ⟨livePools, -, done⟩ := Except.bind_eq_ok_iff.mp done
          obtain ⟨ownPools, -, done⟩ := Except.bind_eq_ok_iff.mp done
          obtain ⟨body, written, rfl⟩ :=
            (Object.write_eq_ok_iff (List.cons_ne_nil "data" [])).mp done
          exact ⟨body, rfl, .inr ⟨_, written⟩⟩

/-- A ConfigMap without a configuration of its own is not changed. -/
theorem mergeConfigMap_of_no_payload {current desired : Object}
    (own : desired.poolPayload? = .ok none) {live? : Option String}
    (live : current.poolPayload? = .ok live?) : mergeConfigMap current desired = .ok desired := by
  rw [mergeConfigMap, live, own]
  cases live? <;> rfl

/-! ## The merged object -/

/-- The body that merging gives. -/
inductive MergesBody (current desired : Object) : Value → Prop
  /-- The desired body with members of the live one. -/
  | kept {body : Value} (notMap : MergedKind.of? desired.groupKind ≠ some .configMap)
      (keeps : Keeps current.body (keptMembers desired.groupKind) desired.body body) :
      MergesBody current desired body
  /-- The body of a ConfigMap. -/
  | pools {body : Value} (isMap : MergedKind.of? desired.groupKind = some .configMap)
      (done : mergeConfigMap current desired = .ok { desired with body }) :
      MergesBody current desired body

/-- The annotations that the live ones are overlaid with. -/
def overlaidAnnotations (current desired : Object) : Option (Fields String) :=
  if MergedKind.of? desired.groupKind = some .deployment then
    (mergeDeployment current desired).metadata.annotations
  else desired.metadata.annotations

/-- The desired object with a body and the metadata that merging gives. -/
def mergedObject (current desired : Object) (body : Value) : Object :=
  { desired with
    metadata := mergeMetadata current.metadata
      { desired.metadata with annotations := overlaidAnnotations current desired }
    body }

theorem mergesBody_iff_keeps {current desired : Object} {body : Value}
    (notMap : MergedKind.of? desired.groupKind ≠ some .configMap) :
    MergesBody current desired body ↔
      Keeps current.body (keptMembers desired.groupKind) desired.body body := by
  constructor
  · intro merges
    cases merges with
    | kept _ keeps => exact keeps
    | pools isMap done => exact absurd isMap notMap
  · exact .kept notMap

theorem MergesBody.keeps_of_mem {current desired : Object} {body : Value}
    (merges : MergesBody current desired body) {member : KeptMember}
    (there : member ∈ keptMembers desired.groupKind) :
    Keeps current.body (keptMembers desired.groupKind) desired.body body :=
  (mergesBody_iff_keeps (not_configMap_of_mem there)).mp merges

/-- What merging makes of the body depends on the bodies only. -/
theorem MergesBody.congr {current current' desired : Object} {body : Value}
    (merges : MergesBody current desired body) (same : current'.body = current.body) :
    MergesBody current' desired body := by
  cases merges with
  | kept notMap keeps => exact .kept notMap (same ▸ keeps)
  | pools isMap done =>
      refine .pools isMap ?_
      rw [← done]
      simp only [mergeConfigMap, Object.poolPayload?, Object.string?, same]

/-- A body without kept members is as desired. -/
theorem keeps_nil_iff {current desired merged : Value} :
    Keeps current [] desired merged ↔ merged = desired := by
  constructor
  · intro keeps
    cases keeps
    rfl
  · rintro rfl
    exact .done merged

theorem mergeKind_eq_ok_iff {current desired merged : Object} :
    mergeKind current desired = .ok merged ↔
      ∃ body : Value, MergesBody current desired body
        ∧ merged = { desired with
            metadata := { desired.metadata with annotations := overlaidAnnotations current desired }
            body } := by
  rw [mergeKind, overlaidAnnotations]
  cases kind : MergedKind.of? desired.groupKind with
  | none =>
      have notMap : MergedKind.of? desired.groupKind ≠ some .configMap := by simp [kind]
      have members : keptMembers desired.groupKind = [] := by rw [keptMembers, kind]
      simp only [mergesBody_iff_keeps notMap, members, keeps_nil_iff, exists_eq_left]
      exact Except.ok.injEq desired merged ▸ eq_comm
  | some merged =>
      cases merged with
      | deployment =>
          have notMap : MergedKind.of? desired.groupKind ≠ some .configMap := by simp [kind]
          have members : keptMembers desired.groupKind = [] := by rw [keptMembers, kind]
          simp only [mergesBody_iff_keeps notMap, members, keeps_nil_iff, exists_eq_left]
          exact Except.ok.injEq (mergeDeployment current desired) merged ▸ eq_comm
      | service =>
          have notMap : MergedKind.of? desired.groupKind ≠ some .configMap := by simp [kind]
          have members : keptMembers desired.groupKind = serviceMembers := by rw [keptMembers, kind]
          rw [mergeService_eq, keepMembers_eq_ok_iff (members ▸ fun _ => path_ne_nil_of_mem)]
          simp [mergesBody_iff_keeps notMap, members]
      | serviceAccount =>
          have notMap : MergedKind.of? desired.groupKind ≠ some .configMap := by simp [kind]
          have members : keptMembers desired.groupKind = serviceAccountMembers := by
            rw [keptMembers, kind]
          rw [mergeServiceAccount_eq, keepMembers_eq_ok_iff (members ▸ fun _ => path_ne_nil_of_mem)]
          simp [mergesBody_iff_keeps notMap, members]
      | configMap =>
          constructor
          · intro done
            obtain ⟨body, rfl, -⟩ := mergeConfigMap_eq_ok done
            exact ⟨body, .pools kind done, rfl⟩
          · rintro ⟨body, merges, rfl⟩
            cases merges with
            | kept notMap keeps => exact absurd kind notMap
            | pools isMap done => exact done

theorem merge_eq_ok_iff {current desired merged : Object} :
    merge current desired = .ok merged ↔
      ∃ body : Value, MergesBody current desired body
        ∧ merged = mergedObject current desired body := by
  rw [merge, Except.map_eq_ok_iff]
  constructor
  · rintro ⟨between, done, rfl⟩
    obtain ⟨body, merges, rfl⟩ := mergeKind_eq_ok_iff.mp done
    exact ⟨body, merges, rfl⟩
  · rintro ⟨body, merges, rfl⟩
    exact ⟨_, mergeKind_eq_ok_iff.mpr ⟨body, merges, rfl⟩, rfl⟩

/-- A merged object is stored in place of the live one. -/
theorem key_merge {current desired merged : Object} (done : merge current desired = .ok merged) :
    merged.key = desired.key := by
  obtain ⟨body, -, rfl⟩ := merge_eq_ok_iff.mp done
  rfl

theorem metadata_merge {current desired merged : Object}
    (done : merge current desired = .ok merged) :
    merged.metadata = mergeMetadata current.metadata
      { desired.metadata with annotations := overlaidAnnotations current desired } := by
  obtain ⟨body, -, rfl⟩ := merge_eq_ok_iff.mp done
  rfl

theorem type?_merge {current desired merged : Object} (done : merge current desired = .ok merged) :
    merged.type? = desired.type? := by
  obtain ⟨body, -, rfl⟩ := merge_eq_ok_iff.mp done
  rfl

end PoolOperator
