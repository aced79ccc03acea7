import PoolOperator.Proofs.Merge.Merged

/-!
# Merging again

Merging the desired object over what it was merged into gives the same once
more, or it fails (`merge_again`).  It fails if the desired object has a member
of the wrong type where the live object had no value to replace it with
(`Mistyped`): that member was not looked at before, but now it is a live one.

A ConfigMap with pools of its own is excepted, since it gets them once more
every time.
-/

namespace PoolOperator

/-- Has the desired object a member of the wrong type that the live object does not replace? -/
inductive Mistyped (current desired : Object) : Prop
  /-- An address, the addresses or the address families of a Service. -/
  | service {name : String} {shape : Shape} (service : desired.groupKind = ⟨"", "Service"⟩)
      (there :
        (name, shape) ∈ [("clusterIP", Shape.text), ("clusterIPs", .texts), ("ipFamilies", .texts)])
      (unsupplied : (current.member ["spec", name]).filled? = none)
      (wrong : shape.allows (desired.member ["spec", name]) = false) : Mistyped current desired
  /-- The secrets of a ServiceAccount. -/
  | account {name : String} (account : desired.groupKind = ⟨"", "ServiceAccount"⟩)
      (there : name ∈ ["secrets", "imagePullSecrets"]) (unsupplied : current.member [name] = .null)
      (wrong : Shape.list.allows (desired.member [name]) = false) : Mistyped current desired
  /-- The body of a ServiceAccount, which has no members at all then. -/
  | accountBody (account : desired.groupKind = ⟨"", "ServiceAccount"⟩)
      (unsupplied : ∀ name ∈ ["secrets", "imagePullSecrets"], current.member [name] = .null)
      (wrong : Shape.object.allows desired.body = false) : Mistyped current desired
  /-- The data of a ConfigMap. -/
  | map (map : desired.groupKind = ⟨"", "ConfigMap"⟩)
      (unsupplied : current.member ["data", configKey] = .null)
      (wrong : ¬ desired.HasShapes mapShapes) : Mistyped current desired

/-! ## Metadata -/

section

variable {current desired merged : Object}

theorem annotations_again (live : current.InOrder) (own : desired.InOrder)
    (done : merge current desired = .ok merged) :
    mergeEntries merged.metadata.annotations (overlaidAnnotations merged desired) =
      merged.metadata.annotations := by
  have notEmpty : merged.metadata.annotations ≠ some [] := by
    rw [metadata_merge done]
    exact mergeEntries_ne_empty _ _
  refine (mergeEntries_eq_self_iff (merge_gives live own done).inOrder.annotations
    (sorted_overlaidAnnotations merged own.annotations)).mpr ⟨notEmpty, fun key value there => ?_⟩
  rw [find?_overlaidAnnotations] at there
  have given : merged.annotation? key = _ := annotation?_merge own.annotations done key
  rw [← Object.annotation?]
  by_cases revision : desired.IsRevision key
  · rw [if_pos revision] at there given
    -- The desired revision is the merged one if there is no live one.
    cases live : current.annotation? key with
    | none => simpa [given, live] using there
    | some text => simpa [given, live] using there
  · rw [if_neg revision] at there given
    rw [given, there]
    rfl

theorem labels_again (live : current.InOrder) (own : desired.InOrder)
    (done : merge current desired = .ok merged) :
    mergeEntries merged.metadata.labels desired.metadata.labels = merged.metadata.labels := by
  have notEmpty : merged.metadata.labels ≠ some [] := by
    rw [metadata_merge done]
    exact mergeEntries_ne_empty _ _
  refine (mergeEntries_eq_self_iff (merge_gives live own done).inOrder.labels own.labels).mpr
    ⟨notEmpty, fun key value there => ?_⟩
  have given : merged.label? key = _ := label?_merge own.labels done key
  rw [Object.label?, Object.label?, there] at given
  exact given

/-- A merged object gets the metadata that it has. -/
theorem mergedObject_again (live : current.InOrder) (own : desired.InOrder)
    (done : merge current desired = .ok merged) :
    mergedObject merged desired merged.body = merged := by
  have annotations := annotations_again live own done
  have labels := labels_again live own done
  obtain ⟨body, -, rfl⟩ := merge_eq_ok_iff.mp done
  simp only [mergedObject, mergeMetadata] at annotations labels ⊢
  rw [annotations, labels]

end

/-! ## Bodies -/

section

variable {current desired : Object} {body : Value}

theorem filled?_of_present? {value : Value} (absent : value.present? = none) :
    value.filled? = none := by
  rw [Value.filled?_eq, absent]
  rfl

/-- The members of the desired object that the live one does not replace can be
read, if none of them is of the wrong type. -/
theorem typed_of_not_mistyped (looked : ¬ Misshapen current desired)
    (right : ¬ Mistyped current desired) {member : KeptMember}
    (there : member ∈ keptMembers desired.groupKind)
    (unsupplied : member.supplied? current.body desired.body = none) :
    member.Typed desired.body desired.body := by
  rcases keptMembers_cases there with ⟨service, isMember⟩ | ⟨account, isMember⟩
  · have own : desired.HasShapes ownServiceShapes := by_contra fun wrong =>
      looked (.ownService service wrong)
    have opens (name : String) : desired.body.opens ["spec", name] = true :=
      (Object.opens_pair_iff _ _ _).mpr ⟨own.opened, own.members _ List.mem_cons_self⟩
    have policy : Shape.text.allows (desired.member ["spec", "ipFamilyPolicy"]) = true :=
      own.members _ (List.mem_cons_of_mem _ List.mem_cons_self)
    have replaced {name : String} {shape : Shape}
        (there : (name, shape) ∈ [("clusterIP", Shape.text), ("clusterIPs", .texts),
          ("ipFamilies", .texts)])
        (unsupplied : (current.member ["spec", name]).filled? = none) :
        shape.allows (desired.member ["spec", name]) = true :=
      by_contra fun wrong => right (.service service there unsupplied (Bool.eq_false_iff.mpr wrong))
    simp only [serviceMembers, List.mem_cons, List.not_mem_nil, or_false] at isMember
    rcases isMember with rfl | rfl | rfl | rfl
    · exact ⟨⟨opens _, replaced (by simp [Keeping.shape]) unsupplied⟩, fun own => by cases own⟩
    · exact ⟨⟨opens _, replaced (by simp [Keeping.shape]) (filled?_of_present? unsupplied)⟩,
        fun own => by cases own⟩
    · exact ⟨⟨opens _, replaced (by simp [Keeping.shape]) (filled?_of_present? unsupplied)⟩,
        fun own => by cases own⟩
    · exact ⟨⟨opens _, policy⟩, fun _ => ⟨opens _, policy⟩⟩
  · have replaced {name : String} (there : name ∈ ["secrets", "imagePullSecrets"])
        (unsupplied : (current.member [name]).present? = none) :
        Shape.list.allows (desired.member [name]) = true :=
      by_contra fun wrong => right
        (.account account there (Value.present?_eq_none_iff.mp unsupplied)
          (Bool.eq_false_iff.mpr wrong))
    have opened : Shape.object.allows desired.body = true := by
      refine by_contra fun wrong =>
        right (.accountBody account (fun name there => ?_) (Bool.eq_false_iff.mpr wrong))
      exact by_contra fun supplied =>
        looked (.ownAccount account there supplied (Bool.eq_false_iff.mpr wrong))
    have opens (name : String) : desired.body.opens [name] = true :=
      Value.opens_single _ name ▸ opened
    simp only [serviceAccountMembers, List.mem_cons, List.not_mem_nil, or_false] at isMember
    rcases isMember with rfl | rfl
    · exact ⟨⟨opens _, replaced (by simp) unsupplied⟩, fun own => by cases own⟩
    · exact ⟨⟨opens _, replaced (by simp) unsupplied⟩, fun own => by cases own⟩

/-- The desired ConfigMap has no pools, if its data are not of the wrong types. -/
theorem noPayload_of_not_mistyped (map : desired.groupKind = ⟨"", "ConfigMap"⟩)
    (noPools : ∀ own : String, desired.member ["data", configKey] ≠ .str own)
    (looked : ¬ Misshapen current desired) (right : ¬ Mistyped current desired) :
    desired.poolPayload? = .ok none := by
  have shapes : desired.HasShapes mapShapes := by
    have liveShapes : current.HasShapes mapShapes := by_contra fun wrong =>
      looked (.liveMap map wrong)
    obtain ⟨live?, ofLive⟩ := Object.hasShapes_mapShapes_iff.mp liveShapes
    cases live? with
    | none =>
        have unsupplied := (Object.poolPayload?_eq_ok_iff.mp ofLive).2
        exact by_contra fun wrong => right (.map map unsupplied wrong)
    | some live =>
        exact by_contra fun wrong => looked (.ownMap map (poolPayload?_eq_some_iff.mp ofLive) wrong)
  obtain ⟨own?, ofOwn⟩ := Object.hasShapes_mapShapes_iff.mp shapes
  cases own? with
  | none => exact ofOwn
  | some own => exact absurd (poolPayload?_eq_some_iff.mp ofOwn) (noPools own)

/-- A merged body is merged into itself, if nothing is of the wrong type. -/
theorem MergesBody.again (merges : MergesBody current desired body) (live : current.InOrder)
    (own : desired.InOrder)
    (noPools : desired.groupKind = ⟨"", "ConfigMap"⟩ →
      ∀ own : String, desired.member ["data", configKey] ≠ .str own)
    (looked : ¬ Misshapen current desired) (right : ¬ Mistyped current desired)
    {stored : Object} (same : stored.body = body) : MergesBody stored desired body := by
  cases merges with
  | kept notMap keeps =>
      refine .kept notMap (same ▸ keeps.stable (separate_keptMembers _) own.body live.body ?_)
      intro member there unsupplied
      exact ⟨_, KeptMember.value?_eq_ok_iff.mpr ⟨typed_of_not_mistyped looked right there
        (KeptMember.value?_eq_ok_iff.mp unsupplied).2, rfl⟩⟩
  | pools isMap done =>
      have map := MergedKind.of?_eq_some_iff.mp isMap
      have absent := noPayload_of_not_mistyped map (noPools map) looked right
      obtain ⟨live?, ofLive, -⟩ := Except.bind_eq_ok_iff.mp done
      rw [mergeConfigMap_of_no_payload absent ofLive] at done
      obtain rfl : desired.body = body := congrArg Object.body (Except.ok.inj done)
      have again : MergesBody desired desired desired.body :=
        .pools isMap (mergeConfigMap_of_no_payload absent absent)
      exact again.congr same

theorem present?_of_filled? {value : Value} (allowed : Shape.texts.allows value = true)
    (empty : value.filled? = none) : value.present? = none := by
  cases value with
  | str text => cases allowed
  | _ => exact empty

/-- A member that the live object does not replace is a live one after merging. -/
theorem MergesBody.under_of_unsupplied (merges : MergesBody current desired body)
    {member : KeptMember} (there : member ∈ keptMembers desired.groupKind)
    (unsupplied : member.keeping.shape.allows (current.member member.path) = true →
      member.supplied? current.body desired.body = none) :
    body.under member.path = desired.member member.path := by
  have keeps := merges.keeps_of_mem there
  obtain ⟨value?, given, -⟩ := keeps.get?_member (separate_keptMembers _) there
  exact keeps.under_of_unsupplied (separate_keptMembers _) there
    (unsupplied (KeptMember.value?_eq_ok_iff.mp given).1.live.2)

theorem misshapen_of_mistyped {merged : Object} (done : merge current desired = .ok merged)
    (mistyped : Mistyped current desired) : Misshapen merged desired := by
  obtain ⟨body, merges, rfl⟩ := merge_eq_ok_iff.mp done
  cases mistyped with
  | @service name shape service there unsupplied wrong =>
      have kept : ∃ keeping : Keeping, (⟨["spec", name], keeping⟩ : KeptMember) ∈ serviceMembers
          ∧ (keeping.shape.allows (current.member ["spec", name]) = true →
            KeptMember.supplied? ⟨["spec", name], keeping⟩ current.body desired.body = none) := by
        simp only [List.mem_cons, List.not_mem_nil, or_false, Prod.mk.injEq] at there
        rcases there with ⟨rfl, rfl⟩ | ⟨rfl, rfl⟩ | ⟨rfl, rfl⟩
        · exact ⟨.text, by decide, fun _ => unsupplied⟩
        · exact ⟨.texts, by decide, fun allowed => present?_of_filled? allowed unsupplied⟩
        · exact ⟨.texts, by decide, fun allowed => present?_of_filled? allowed unsupplied⟩
      obtain ⟨keeping, member, unsupplied⟩ := kept
      have merged : body.under ["spec", name] = desired.member ["spec", name] :=
        merges.under_of_unsupplied (by rw [service]; exact member) unsupplied
      refine .liveService service fun shapes => ?_
      have expected : (["spec", name], shape) ∈ liveServiceShapes := by
        simp only [List.mem_cons, List.not_mem_nil, or_false, Prod.mk.injEq] at there
        rcases there with ⟨rfl, rfl⟩ | ⟨rfl, rfl⟩ | ⟨rfl, rfl⟩ <;> simp [liveServiceShapes]
      have allowed : shape.allows (body.under ["spec", name]) = true := shapes.members _ expected
      rw [merged, wrong] at allowed
      cases allowed
  | @account name account there unsupplied wrong =>
      have member : (⟨[name], .list⟩ : KeptMember) ∈ serviceAccountMembers := by
        simpa [serviceAccountMembers] using there
      have merged : body.under [name] = desired.member [name] := by
        refine merges.under_of_unsupplied (by rw [account]; exact member) fun _ => ?_
        exact congrArg Value.present? unsupplied
      refine .liveAccount account fun shapes => ?_
      have allowed : Shape.list.allows (body.under [name]) = true :=
        shapes.members ([name], .list) (by simpa [liveAccountShapes] using there)
      rw [merged, wrong] at allowed
      cases allowed
  | accountBody account unsupplied wrong =>
      have same : body = desired.body := by
        cases mergedBody_of_mergesBody merges with
        | service service => simp [account] at service
        | account _ =>
            have nothing : suppliedSecrets current = [] := by
              simp [suppliedSecrets, Value.present, unsupplied, Value.present?]
            rw [nothing, Value.layOver]
        | pools map => simp [account] at map
        | other => rfl
      subst same
      refine .liveAccount account fun shapes => Bool.false_ne_true (wrong ▸ shapes.opened)
  | map map unsupplied wrong =>
      have same : body = desired.body := by
        cases mergedBody_of_mergesBody merges with
        | service service => simp [service] at map
        | account account => simp [account] at map
        | pools map ofLive ofOwn readsLive readsOwn =>
            rw [unsupplied] at ofLive
            cases ofLive
        | other => rfl
      subst same
      exact .liveMap map fun shapes => wrong ⟨shapes.opened, shapes.members⟩

end

/-- Merging the desired object once more gives the same again, or fails since the
desired object has a member of the wrong type that the live one did not replace. -/
theorem merge_again {current desired merged : Object} (live : current.InOrder)
    (own : desired.InOrder) (noPools : desired.groupKind = ⟨"", "ConfigMap"⟩ →
      ∀ payload : String, desired.member ["data", configKey] ≠ .str payload)
    (done : merge current desired = .ok merged) :
    (merge merged desired = .ok merged
        ∨ ∃ source : AccessError, merge merged desired = .error (.access source))
      ∧ ((∃ error : MergeError, merge merged desired = .error error) ↔
        Mistyped current desired) := by
  have looked : ¬ Misshapen current desired := fun wrong => by
    obtain ⟨source, fails⟩ := merge_access_iff.mpr wrong
    rw [done] at fails
    cases fails
  by_cases mistyped : Mistyped current desired
  · obtain ⟨source, fails⟩ := merge_access_iff.mpr (misshapen_of_mistyped done mistyped)
    exact ⟨.inr ⟨source, fails⟩, fun _ => mistyped, fun _ => ⟨_, fails⟩⟩
  · obtain ⟨body, merges, same⟩ := merge_eq_ok_iff.mp done
    have again : merge merged desired = .ok merged := by
      obtain rfl : merged.body = body := same ▸ rfl
      exact merge_eq_ok_iff.mpr ⟨merged.body, merges.again live own noPools looked mistyped rfl,
        (mergedObject_again live own done).symm⟩
    refine ⟨.inl again, fun ⟨error, fails⟩ => ?_, fun wrong => absurd wrong mistyped⟩
    rw [again] at fails
    cases fails

/-- A Service whose addresses are a text by mistake is merged once, into a live one
without addresses, but not once more. -/
theorem merge_again_mistyped :
    let live := webService (some "u-1") [("clusterIP", .str "10.0.0.1")]
    let desired := webService none [("clusterIPs", .str "10.0.0.1")]
    let merged :=
      webService (some "u-1") [("clusterIP", .str "10.0.0.1"), ("clusterIPs", .str "10.0.0.1")]
    merge live desired = .ok merged ∧ Mistyped live desired
      ∧ ∃ error : MergeError, merge merged desired = .error error := by
  intro live desired merged
  have done : merge live desired = .ok merged := rfl
  have mistyped : Mistyped live desired :=
    @Mistyped.service live desired "clusterIPs" .texts rfl (by simp) rfl rfl
  have notMap : desired.groupKind ≠ ⟨"", "ConfigMap"⟩ := by decide
  exact ⟨done, mistyped, (merge_again (inOrder_webService (ordered_singleton_str _ _) _)
    (inOrder_webService (ordered_singleton_str _ _) _) (fun map => absurd map notMap) done).2.mpr
    mistyped⟩

end PoolOperator
