import PoolOperator.Proofs.Merge.Failure
import PoolOperator.Proofs.Merge.WellFormed

/-!
# The merged object

What merging gives, if it does not fail (`merge_gives`): the desired object with
the metadata that belong to the cluster, the entries of both sides, and a body
that is the desired one up to what the kind calls for (`MergedBody`).

Annotations, labels and bodies are maps, so their keys are in order on both
sides (`Object.InOrder`).
-/

namespace PoolOperator

/-- Are the members and the entries in order? -/
structure Object.InOrder (object : Object) : Prop where
  /-- The members, in all objects of the body. -/
  body : object.body.Ordered
  /-- The annotations. -/
  annotations : (object.metadata.annotations.getD []).Sorted
  /-- The labels. -/
  labels : (object.metadata.labels.getD []).Sorted

/-- What the live Service supplies for `spec`. -/
def suppliedSpec (current desired : Object) : Fields Value := Value.present [
  ("clusterIP", (current.member ["spec", "clusterIP"]).filled?),
  ("clusterIPs", (current.member ["spec", "clusterIPs"]).present?),
  ("ipFamilies", (current.member ["spec", "ipFamilies"]).present?),
  ("ipFamilyPolicy",
    if (desired.member ["spec", "ipFamilyPolicy"]).isNull then
      (current.member ["spec", "ipFamilyPolicy"]).present?
    else none)]

/-- What the live ServiceAccount supplies. -/
def suppliedSecrets (current : Object) : Fields Value := Value.present [
  ("secrets", (current.member ["secrets"]).present?),
  ("imagePullSecrets", (current.member ["imagePullSecrets"]).present?)]

/-- What the body of a merged object is. -/
inductive MergedBody (current desired : Object) : Value → Prop
  /-- A Service gets what is supplied for `spec`, which is made if there is
  anything. -/
  | service (service : desired.groupKind = ⟨"", "Service"⟩) :
      MergedBody current desired (desired.body.layOver ["spec"] (suppliedSpec current desired))
  /-- A ServiceAccount gets what is supplied. -/
  | account (account : desired.groupKind = ⟨"", "ServiceAccount"⟩) :
      MergedBody current desired (desired.body.layOver [] (suppliedSecrets current))
  /-- A ConfigMap with pools on both sides holds the live pools and then the
  desired ones, and nothing else. -/
  | pools {live own : String} {livePools ownPools : PoolConfig}
      (map : desired.groupKind = ⟨"", "ConfigMap"⟩)
      (ofLive : current.member ["data", configKey] = .str live)
      (ofOwn : desired.member ["data", configKey] = .str own)
      (readsLive : PoolConfig.ofYaml live = .ok livePools)
      (readsOwn : PoolConfig.ofYaml own = .ok ownPools) :
      MergedBody current desired (.obj (desired.body.fields.put "data"
        (.obj [(configKey, .str (PoolConfig.toYaml ⟨livePools.pools ++ ownPools.pools⟩))])))
  /-- Any other body is the desired one. -/
  | other (notService : desired.groupKind ≠ ⟨"", "Service"⟩)
      (notAccount : desired.groupKind ≠ ⟨"", "ServiceAccount"⟩)
      (noPools : desired.groupKind = ⟨"", "ConfigMap"⟩ →
        current.member ["data", configKey] = .null ∨ desired.member ["data", configKey] = .null) :
      MergedBody current desired desired.body

/-- What a merged object is. -/
structure Merged (current desired merged : Object) : Prop where
  /-- The type is the desired one. -/
  type : merged.type? = desired.type?
  /-- Some metadata are those of the live object; the others, besides the
  entries, are the desired ones. -/
  metadata : merged.metadata = { desired.metadata with
    creationTimestamp := current.metadata.creationTimestamp
    selfLink := current.metadata.selfLink
    generation := current.metadata.generation
    uid := current.metadata.uid
    resourceVersion := current.metadata.resourceVersion
    managedFields := current.metadata.managedFields
    finalizers := current.metadata.finalizers
    annotations := merged.metadata.annotations
    labels := merged.metadata.labels }
  /-- The desired annotations win, unless one is the revision of a Deployment. -/
  annotation (key : String) : merged.annotation? key =
    if desired.IsRevision key then (current.annotation? key).or (desired.annotation? key)
    else (desired.annotation? key).or (current.annotation? key)
  /-- The desired labels win. -/
  label (key : String) : merged.label? key = (desired.label? key).or (current.label? key)
  /-- Annotations are absent rather than empty. -/
  noAnnotations : merged.metadata.annotations = none ↔ ∀ key : String, merged.annotation? key = none
  /-- Labels are absent rather than empty. -/
  noLabels : merged.metadata.labels = none ↔ ∀ key : String, merged.label? key = none
  /-- The body. -/
  body : MergedBody current desired merged.body
  /-- The entries and the members are in order. -/
  inOrder : merged.InOrder

/-! ## Bodies -/

section

variable {current desired : Object} {body : Value}

theorem serviceMembers_eq :
    serviceMembers = [("clusterIP", .text), ("clusterIPs", .texts), ("ipFamilies", .texts),
      ("ipFamilyPolicy", .textUnlessOwn)].map fun name => ⟨["spec"] ++ [name.1], name.2⟩ := rfl

theorem serviceAccountMembers_eq :
    serviceAccountMembers = [("secrets", .list), ("imagePullSecrets", .list)].map
      fun name => ⟨[] ++ [name.1], name.2⟩ := rfl

theorem mergedBody_of_service (service : desired.groupKind = ⟨"", "Service"⟩)
    (keeps : Keeps current.body serviceMembers desired.body body) :
    MergedBody current desired body := by
  have separate : Separate serviceMembers := separate_keptMembers ⟨"", "Service"⟩
  rw [serviceMembers_eq] at keeps separate
  exact keeps.eq_layOver separate ▸ .service service

theorem mergedBody_of_account (account : desired.groupKind = ⟨"", "ServiceAccount"⟩)
    (keeps : Keeps current.body serviceAccountMembers desired.body body) :
    MergedBody current desired body := by
  have separate : Separate serviceAccountMembers := separate_keptMembers ⟨"", "ServiceAccount"⟩
  rw [serviceAccountMembers_eq] at keeps separate
  exact keeps.eq_layOver separate ▸ .account account

theorem mergedBody_of_map (map : desired.groupKind = ⟨"", "ConfigMap"⟩)
    (done : mergeConfigMap current desired = .ok { desired with body }) :
    MergedBody current desired body := by
  have other (noPools : current.member ["data", configKey] = .null
    ∨ desired.member ["data", configKey] = .null) :
      MergedBody current desired desired.body :=
    .other (by simp [map]) (by simp [map]) fun _ => noPools
  obtain ⟨live?, ofLive, rest⟩ := Except.bind_eq_ok_iff.mp done
  cases live? with
  | none =>
      obtain rfl : desired.body = body := congrArg Object.body (Except.ok.inj rest)
      exact other (.inl (Object.poolPayload?_eq_ok_iff.mp ofLive).2)
  | some live =>
      obtain ⟨own?, ofOwn, rest⟩ := Except.bind_eq_ok_iff.mp rest
      cases own? with
      | none =>
          obtain rfl : desired.body = body := congrArg Object.body (Except.ok.inj rest)
          exact other (.inr (Object.poolPayload?_eq_ok_iff.mp ofOwn).2)
      | some own =>
          rw [mergeConfigMap_of_payloads ofLive ofOwn] at done
          obtain ⟨_, read, done⟩ := Except.bind_eq_ok_iff.mp done
          obtain ⟨livePools, readsLive, rfl⟩ := poolsOf_eq_ok_iff.mp read
          obtain ⟨_, read, same⟩ := Except.map_eq_ok_iff.mp done
          obtain ⟨ownPools, readsOwn, rfl⟩ := poolsOf_eq_ok_iff.mp read
          obtain rfl := congrArg Object.body same
          exact .pools map (poolPayload?_eq_some_iff.mp ofLive) (poolPayload?_eq_some_iff.mp ofOwn)
            readsLive readsOwn

/-- Members are kept of a Service and of a ServiceAccount only. -/
theorem keptMembers_eq_nil {type : GroupKind} (notService : type ≠ ⟨"", "Service"⟩)
    (notAccount : type ≠ ⟨"", "ServiceAccount"⟩) : keptMembers type = [] := by
  refine List.eq_nil_iff_forall_not_mem.mpr fun member there => ?_
  rcases keptMembers_cases there with ⟨service, -⟩ | ⟨account, -⟩
  · exact notService service
  · exact notAccount account

theorem mergedBody_of_mergesBody (merges : MergesBody current desired body) :
    MergedBody current desired body := by
  cases merges with
  | pools isMap done => exact mergedBody_of_map (MergedKind.of?_eq_some_iff.mp isMap) done
  | kept notMap keeps =>
      by_cases service : desired.groupKind = ⟨"", "Service"⟩
      · rw [service] at keeps
        exact mergedBody_of_service service keeps
      · by_cases account : desired.groupKind = ⟨"", "ServiceAccount"⟩
        · rw [account] at keeps
          exact mergedBody_of_account account keeps
        · rw [keptMembers_eq_nil service account] at keeps
          cases keeps
          exact .other service account fun map => absurd (MergedKind.of?_eq_some_iff.mpr map) notMap

end

/-! ## Entries -/

theorem entries_eq_none_iff {entries : Option (Fields String)} (notEmpty : entries ≠ some []) :
    entries = none ↔ ∀ key : String, (entries.getD []).find? key = none := by
  cases entries with
  | none => simp
  | some entries =>
      cases entries with
      | nil => exact absurd rfl notEmpty
      | cons entry rest =>
          refine ⟨nofun, fun absent => ?_⟩
          have there : Fields.find? (entry :: rest) entry.1 = none := absent entry.1
          rw [Fields.find?, if_pos rfl] at there
          cases there

/-- What merging gives, if it does not fail. -/
theorem merge_gives {current desired merged : Object} (live : current.InOrder)
    (own : desired.InOrder) (done : merge current desired = .ok merged) :
    Merged current desired merged := by
  obtain ⟨body, merges, rfl⟩ := merge_eq_ok_iff.mp done
  exact {
    type := rfl
    metadata := rfl
    annotation := annotation?_merge own.annotations done
    label := label?_merge own.labels done
    noAnnotations := entries_eq_none_iff (mergeEntries_ne_empty _ _)
    noLabels := entries_eq_none_iff (mergeEntries_ne_empty _ _)
    body := mergedBody_of_mergesBody merges
    inOrder := {
      body := merges.ordered live.body own.body
      annotations := sorted_mergeEntries live.annotations _
      labels := sorted_mergeEntries live.labels _ } }

/-- A Service with some members of `spec`, which may have been created. -/
def webService (uid : Option String) (spec : Fields Value) : Object :=
  { Object.bare "v1" "Service" "web" with
    metadata := { Metadata.empty with name := some "web", uid }
    body := .obj [("spec", .obj spec)] }

theorem inOrder_webService {spec : Fields Value} (ordered : (Value.obj spec).Ordered)
    (uid : Option String) :
    (webService uid spec).InOrder :=
  ⟨⟨List.pairwise_singleton _ _, ordered, trivial⟩, List.Pairwise.nil, List.Pairwise.nil⟩

theorem ordered_singleton_str (key text : String) : (Value.obj [(key, .str text)]).Ordered :=
  ⟨List.pairwise_singleton _ _, trivial, trivial⟩

/-- A Service keeps its address and its identity. -/
theorem merge_gives_address :
    let live := webService (some "u-1") [("clusterIP", .str "10.0.0.1")]
    let desired := webService none [("type", .str "ClusterIP")]
    let merged :=
      webService (some "u-1") [("clusterIP", .str "10.0.0.1"), ("type", .str "ClusterIP")]
    merge live desired = .ok merged ∧ Merged live desired merged := by
  intro live desired merged
  have done : merge live desired = .ok merged := rfl
  exact ⟨done, merge_gives (inOrder_webService (ordered_singleton_str _ _) _)
    (inOrder_webService (ordered_singleton_str _ _) _) done⟩

end PoolOperator
