import PoolOperator.Proofs.Merge.Shape
import PoolOperator.Proofs.Object.Same

/-!
# Merged metadata

In merged annotations and labels a desired value wins over a live one
(`find?_mergeEntries`), except for the revision of a Deployment
(`annotation?_merge`).  Live metadata are the same as the merged ones if the
desired entries are there and everything else that is desired is so
(`same_mergeMetadata_iff`).
-/

namespace PoolOperator

/-! ## Entries -/

section

variable {live stated : Option (Fields String)}

theorem getD_mergeEntries (live stated : Option (Fields String)) :
    (mergeEntries live stated).getD [] = (live.getD []).overlay (stated.getD []) := by
  rw [mergeEntries]
  split
  next isEmpty => exact (List.isEmpty_iff.mp isEmpty).symm
  next => rfl

/-- In merged entries the desired value of a key wins. -/
theorem find?_mergeEntries (sorted : (stated.getD []).Sorted) (key : String) :
    ((mergeEntries live stated).getD []).find? key =
      ((stated.getD []).find? key).or ((live.getD []).find? key) := by
  rw [getD_mergeEntries, Fields.find?_overlay, Fields.find?_reverse_of_sorted sorted]

theorem sorted_mergeEntries (sorted : (live.getD []).Sorted) (stated : Option (Fields String)) :
    ((mergeEntries live stated).getD []).Sorted := by
  rw [getD_mergeEntries]
  exact Fields.sorted_overlay sorted _

theorem mergeEntries_ne_empty (live stated : Option (Fields String)) :
    mergeEntries live stated ≠ some [] := by
  rw [mergeEntries]
  split
  next => exact (Option.some_ne_none []).symm
  next notEmpty =>
    intro same
    rw [Option.some.inj same] at notEmpty
    exact notEmpty rfl

/-- Live entries are merged into themselves if the desired ones are among them,
unless there are none in an empty map. -/
theorem mergeEntries_eq_self_iff (sorted : (live.getD []).Sorted)
    (sorted' : (stated.getD []).Sorted) :
    mergeEntries live stated = live ↔
      live ≠ some [] ∧ ∀ (key value : String), (stated.getD []).find? key = some value →
        (live.getD []).find? key = some value := by
  constructor
  · intro same
    refine ⟨same ▸ mergeEntries_ne_empty live stated, fun key value there => ?_⟩
    rw [← same, find?_mergeEntries sorted', there]
    rfl
  · rintro ⟨notEmpty, there⟩
    have laid : (live.getD []).overlay (stated.getD []) = live.getD [] :=
      Fields.overlay_of_find? sorted fun field member =>
        there field.1 field.2 (Fields.find?_of_mem sorted' member)
    rw [mergeEntries, laid]
    cases live with
    | none => rfl
    | some entries =>
        cases entries with
        | nil => exact absurd rfl notEmpty
        | cons => rfl

end

/-! ## Look-up in objects -/

/-- The value of an annotation. -/
def Object.annotation? (object : Object) (key : String) : Option String :=
  (object.metadata.annotations.getD []).find? key

/-- The value of a label. -/
def Object.label? (object : Object) (key : String) : Option String :=
  (object.metadata.labels.getD []).find? key

/-- Is an annotation the revision of a Deployment? -/
def Object.IsRevision (object : Object) (key : String) : Prop :=
  object.groupKind = ⟨"apps", "Deployment"⟩ ∧ key = revisionAnnotation

instance (object : Object) (key : String) : Decidable (object.IsRevision key) :=
  inferInstanceAs (Decidable (_ ∧ _))

section

variable {current desired merged : Object}

theorem sorted_overlaidAnnotations (current : Object)
    (sorted : (desired.metadata.annotations.getD []).Sorted) :
    ((overlaidAnnotations current desired).getD []).Sorted := by
  rw [overlaidAnnotations]
  split
  next =>
    rw [mergeDeployment]
    cases (current.metadata.annotations.getD []).find? revisionAnnotation with
    | none => exact sorted
    | some revision => exact Fields.sorted_put sorted _ _
  next => exact sorted

theorem find?_overlaidAnnotations (current desired : Object) (key : String) :
    ((overlaidAnnotations current desired).getD []).find? key =
      if desired.IsRevision key then (current.annotation? key).or (desired.annotation? key)
      else desired.annotation? key := by
  simp only [overlaidAnnotations, MergedKind.of?_eq_some_iff]
  by_cases deployment : desired.groupKind = MergedKind.deployment.type
  · rw [if_pos deployment]
    by_cases same : key = revisionAnnotation
    · rw [if_pos ⟨deployment, same⟩, same, Object.annotation?, Object.annotation?, mergeDeployment]
      cases (current.metadata.annotations.getD []).find? revisionAnnotation with
      | none => rfl
      | some revision => exact Fields.find?_put_self _ _ _
    · rw [if_neg fun revision => same revision.2, Object.annotation?, mergeDeployment]
      cases (current.metadata.annotations.getD []).find? revisionAnnotation with
      | none => rfl
      | some revision => exact Fields.find?_put_ne _ _ same
  · rw [if_neg deployment, if_neg fun revision => deployment revision.1]
    rfl

/-- The desired annotation wins, unless it is the revision of a Deployment. -/
theorem annotation?_merge (sorted : (desired.metadata.annotations.getD []).Sorted)
    (done : merge current desired = .ok merged) (key : String) :
    merged.annotation? key =
      if desired.IsRevision key then (current.annotation? key).or (desired.annotation? key)
      else (desired.annotation? key).or (current.annotation? key) := by
  obtain ⟨body, -, rfl⟩ := merge_eq_ok_iff.mp done
  have laid : (mergedObject current desired body).annotation? key =
      (((overlaidAnnotations current desired).getD []).find? key).or (current.annotation? key) :=
    find?_mergeEntries (sorted_overlaidAnnotations current sorted) key
  rw [laid, find?_overlaidAnnotations]
  split
  next => cases current.annotation? key <;> simp
  next => rfl

/-- The desired label wins. -/
theorem label?_merge (sorted : (desired.metadata.labels.getD []).Sorted)
    (done : merge current desired = .ok merged) (key : String) :
    merged.label? key = (desired.label? key).or (current.label? key) := by
  obtain ⟨body, -, rfl⟩ := merge_eq_ok_iff.mp done
  exact find?_mergeEntries sorted key

end

/-! ## Sameness -/

namespace Metadata

/-- The members of metadata. -/
def members (metadata : Metadata) : List (String × Option Value) := [
  ("annotations", metadata.annotations.map Value.stringMap),
  ("creationTimestamp", metadata.creationTimestamp.map fun time => .str time.text),
  ("deletionGracePeriodSeconds", metadata.deletionGracePeriodSeconds.map .int),
  ("deletionTimestamp", metadata.deletionTimestamp.map fun time => .str time.text),
  ("finalizers", metadata.finalizers.map Value.strings),
  ("generateName", metadata.generateName.map .str),
  ("generation", metadata.generation.map .int),
  ("labels", metadata.labels.map Value.stringMap),
  ("managedFields", metadata.managedFields.map fun entries =>
    .arr (entries.map ManagedFields.toValue)),
  ("name", metadata.name.map .str),
  ("namespace", metadata.namespaceName.map .str),
  ("ownerReferences", metadata.ownerReferences.map fun owners =>
    .arr (owners.map OwnerReference.toValue)),
  ("resourceVersion", metadata.resourceVersion.map .str),
  ("selfLink", metadata.selfLink.map .str),
  ("uid", metadata.uid.map .str)]

/-- The members that merging leaves as desired. -/
def stated (metadata : Metadata) : List (String × Option Value) := [
  ("deletionGracePeriodSeconds", metadata.deletionGracePeriodSeconds.map .int),
  ("deletionTimestamp", metadata.deletionTimestamp.map fun time => .str time.text),
  ("generateName", metadata.generateName.map .str),
  ("name", metadata.name.map .str),
  ("namespace", metadata.namespaceName.map .str),
  ("ownerReferences", metadata.ownerReferences.map fun owners =>
    .arr (owners.map OwnerReference.toValue))]

/-- The keys of the members of metadata. -/
def keys : List String := empty.members.map Prod.fst

theorem sorted_keys : keys.Pairwise (· < ·) := by decide

theorem same_toValue_iff {one other : Metadata} :
    one.toValue.same other.toValue = true ↔ Value.SameMembers one.members other.members :=
  Value.same_ofMembers_iff sorted_keys rfl rfl

/-- Live metadata are the same as the merged ones if the desired entries are
there and everything else that is desired is so. -/
theorem same_mergeMetadata_iff {live desired : Metadata} :
    live.toValue.same (mergeMetadata live desired).toValue = true ↔
      mergeEntries live.annotations desired.annotations = live.annotations
        ∧ mergeEntries live.labels desired.labels = live.labels
        ∧ Value.SameMembers live.stated desired.stated := by
  rw [same_toValue_iff]
  simp only [members, mergeMetadata, stated, Value.SameMembers, List.forall₂_cons,
    List.forall₂_nil_right_iff, Value.sameOption_stringMap, Value.sameOption_refl, true_and,
    and_true, eq_comm]
  tauto

end Metadata

end PoolOperator
