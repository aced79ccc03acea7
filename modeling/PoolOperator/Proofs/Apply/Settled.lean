import PoolOperator.Proofs.Apply.InMemory
import PoolOperator.Proofs.Merge.WellFormed

/-!
# Settled objects

An object that was applied with success is settled: the live one holds what is
desired, up to what belongs to the cluster (`settled_created`,
`settled_replaced`, `settled_of_same`).  It stays so whatever other parties do to
what belongs to them (`Settled.drift`), and applying a settled object again
changes nothing (`MemoryStore.again_of_settled`).
-/

namespace PoolOperator

/-! ## Rendered objects -/

/-- Is an object one that merging leaves room for?  The body has members, what
merging keeps of them is absent or of the right type, and a ConfigMap has no
pools. -/
structure Object.Rendered (object : Object) : Prop where
  wellFormed : object.WellFormed
  opened : Shape.object.allows object.body = true
  /-- The secrets of a ServiceAccount are looked at when it is applied. -/
  typed : ∀ member ∈ keptMembers object.groupKind, member.path ≠ ["secrets"] →
    ∃ value? : Option Value, member.value? object.body object.body = .ok value?
  noPools : object.groupKind = ⟨"", "ConfigMap"⟩ → object.poolPayload? = .ok none

/-- Are there entries in the maps of some metadata, if there are maps?  Merging
leaves no map without entries. -/
structure Metadata.NoEmptyMap (metadata : Metadata) : Prop where
  annotations : metadata.annotations ≠ some []
  labels : metadata.labels ≠ some []

/-- An object with nothing in its body may be rendered. -/
theorem Object.rendered_of_empty {object : Object} (wellFormed : object.WellFormed)
    (empty : object.body = .obj []) : object.Rendered where
  wellFormed
  opened := by rw [empty]; rfl
  typed member there _ := by
    obtain ⟨path, keeping⟩ := member
    obtain ⟨key, rest, rfl⟩ := List.exists_cons_of_ne_nil (path_ne_nil_of_mem there)
    rw [empty]
    cases keeping <;> exact ⟨none, rfl⟩
  noPools _ := by
    rw [Object.poolPayload?, Object.string?, empty]
    rfl

/-- The secrets of a supported ServiceAccount are of the right type. -/
theorem list?_secrets_of_supported {object : Object}
    (account : object.groupKind = ⟨"", "ServiceAccount"⟩)
    (supported : checkSupported object = .ok ()) :
    ∃ items? : Option (List Value), object.body.list? ["secrets"] = .ok items? := by
  rw [checkSupported, if_pos account] at supported
  obtain ⟨items?, read, -⟩ := Except.bind_eq_ok_iff.mp supported
  exact ⟨items?, Except.mapError_eq_ok_iff.mp read⟩

theorem keeping_secrets {type : GroupKind} {member : KeptMember} (there : member ∈ keptMembers type)
    (secrets : member.path = ["secrets"]) :
    type = ⟨"", "ServiceAccount"⟩ ∧ member.keeping = .list := by
  have others : ∀ member ∈ serviceMembers, member.path ≠ ["secrets"] := by decide
  have lists : ∀ member ∈ serviceAccountMembers, member.keeping = .list := by decide
  rcases keptMembers_cases there with ⟨-, ofService⟩ | ⟨account, ofAccount⟩
  · exact absurd secrets (others member ofService)
  · exact ⟨account, lists member ofAccount⟩

/-- Everything that merging keeps of a supported rendered object is of the right type. -/
theorem Object.Rendered.fits {object : Object} (rendered : object.Rendered)
    (supported : checkSupported object = .ok ()) :
    Keeps.Fits (keptMembers object.groupKind) object.body := by
  intro member there
  by_cases secrets : member.path = ["secrets"]
  · obtain ⟨account, list⟩ := keeping_secrets there secrets
    obtain ⟨items?, read⟩ := list?_secrets_of_supported account supported
    refine ⟨items?.map .arr, ?_⟩
    rw [KeptMember.value?, list, secrets, read]
    rfl
  · exact rendered.typed member there secrets

/-! ## Settled objects -/

/-- Does a live object hold what is desired, up to what belongs to the cluster? -/
structure Settled (desired live : Object) : Prop where
  type : live.type? = desired.type?
  sortedAnnotations : (live.metadata.annotations.getD []).Sorted
  sortedLabels : (live.metadata.labels.getD []).Sorted
  stated : Value.SameMembers live.metadata.stated desired.metadata.stated
  noEmptyMap : live.metadata.NoEmptyMap
  hasAnnotations : ∀ key value : String, desired.annotation? key = some value →
    if desired.IsRevision key then live.annotation? key ≠ none
      else live.annotation? key = some value
  hasLabels : ∀ key value : String, desired.label? key = some value → live.label? key = some value
  body : ∃ body : Value, MergesBody live desired body ∧ live.body.Alike body

/-- The desired entries are in the live ones, as merging has them. -/
theorem Settled.find?_overlaid {desired live : Object} (settled : Settled desired live)
    (key value : String)
    (there : ((overlaidAnnotations live desired).getD []).find? key = some value) :
    (live.metadata.annotations.getD []).find? key = some value := by
  change live.annotation? key = some value
  rw [find?_overlaidAnnotations] at there
  split at there
  next revision =>
    cases found : live.annotation? key with
    | some old =>
        rw [found] at there
        exact there
    | none =>
        rw [found, Option.none_or] at there
        have some := settled.hasAnnotations key value there
        rw [if_pos revision] at some
        exact absurd found some
  next notRevision =>
    have same := settled.hasAnnotations key value there
    rwa [if_neg notRevision] at same

/-- A settled object is the same as the merged one. -/
theorem Settled.same {desired live : Object} (settled : Settled desired live)
    (own : desired.WellFormed) :
    ∃ merged : Object, merge live desired = .ok merged ∧ live.same merged = .ok true := by
  obtain ⟨body, merges, alike⟩ := settled.body
  refine ⟨mergedObject live desired body, merge_eq_ok_iff.mpr ⟨body, merges, rfl⟩, ?_⟩
  have overlaid := sorted_overlaidAnnotations live own.annotations
  have annotations := (mergeEntries_eq_self_iff settled.sortedAnnotations overlaid).mpr
    ⟨settled.noEmptyMap.annotations, settled.find?_overlaid⟩
  have labels := (mergeEntries_eq_self_iff settled.sortedLabels own.labels).mpr
    ⟨settled.noEmptyMap.labels, settled.hasLabels⟩
  have metadata : live.metadata.toValue.same (mergedObject live desired body).metadata.toValue =
    true :=
    Metadata.same_mergeMetadata_iff.mpr ⟨annotations, labels, settled.stated⟩
  exact Object.same_of_parts settled.type metadata alike

/-! ## What other parties do -/

/-- A change of a live object that leaves what is desired alone. -/
inductive Change (desired live : Object) : Object → Prop
  /-- What the cluster notes about the object changes. -/
  | noted (creationTimestamp : Option Timestamp) (selfLink : Option String)
      (generation : Option Int)
      (uid resourceVersion : Option String) (managedFields : Option (List ManagedFields))
      (finalizers : Option (List String)) :
      Change desired live { live with
        metadata := { live.metadata with
          creationTimestamp, selfLink, generation, uid, resourceVersion, managedFields,
          finalizers } }
  /-- Annotations that are not desired change, and something is left of the map. -/
  | annotated (annotations : Option (Fields String)) (sorted : (annotations.getD []).Sorted)
      (notEmpty : annotations ≠ some []) (others : ∀ key : String, desired.annotation? key ≠ none →
        (annotations.getD []).find? key = live.annotation? key) :
      Change desired live { live with metadata := { live.metadata with annotations } }
  /-- Labels that are not desired change, and something is left of the map. -/
  | labelled (labels : Option (Fields String)) (sorted : (labels.getD []).Sorted)
      (notEmpty : labels ≠ some []) (others : ∀ key : String, desired.label? key ≠ none →
        (labels.getD []).find? key = live.label? key) :
      Change desired live { live with metadata := { live.metadata with labels } }
  /-- A Deployment gets another revision. -/
  | revised (deployment : desired.groupKind = ⟨"apps", "Deployment"⟩) (revision : String) :
      Change desired live { live with
        metadata := { live.metadata with
          annotations :=
            some ((live.metadata.annotations.getD []).put revisionAnnotation revision) } }
  /-- A member of the body that merging keeps gets another value that is kept,
  unless the desired object has a value of its own that it insists on. -/
  | kept {member : KeptMember} (there : member ∈ keptMembers desired.groupKind) {value : Value}
      (admits : member.keeping.Admits value)
      (noOwn : member.keeping = .textUnlessOwn → desired.body.string? member.path = .ok none)
      {body : Value} (written : Value.Written value member.path live.body body) :
      Change desired live { live with body }

/-- Any number of changes. -/
abbrev Drift (desired : Object) : Object → Object → Prop := Relation.ReflTransGen (Change desired)

theorem Keeping.Admits.not_null {keeping : Keeping} {value : Value}
    (admits : keeping.Admits value) :
    value.isNull = false := by
  cases admits <;> rfl

namespace Settled

variable {desired live live' : Object}

theorem revise (settled : Settled desired live)
    (deployment : desired.groupKind = ⟨"apps", "Deployment"⟩) (revision : String)
    (key value : String) (there : desired.annotation? key = some value) :
    let live? := ((live.metadata.annotations.getD []).put revisionAnnotation revision).find? key
    if desired.IsRevision key then live? ≠ none else live? = some value := by
  by_cases same : key = revisionAnnotation
  · subst same
    rw [Fields.find?_put_self, if_pos ⟨deployment, rfl⟩]
    exact Option.some_ne_none revision
  · have notRevision : ¬ desired.IsRevision key := fun isRevision => same isRevision.2
    have before := settled.hasAnnotations key value there
    rw [if_neg notRevision] at before ⊢
    rw [Fields.find?_put_ne _ _ same]
    exact before

/-- A kept member of the body may be set to another value that is kept. -/
theorem keep (settled : Settled desired live) {member : KeptMember}
    (there : member ∈ keptMembers desired.groupKind) {value : Value}
    (admits : member.keeping.Admits value)
    (noOwn : member.keeping = .textUnlessOwn → desired.body.string? member.path = .ok none)
    {changed : Value} (written : Value.Written value member.path live.body changed) :
    ∃ body : Value, MergesBody { live with body := changed } desired body ∧ changed.Alike body := by
  obtain ⟨body, merges, alike⟩ := settled.body
  have keeps := merges.keeps_of_mem there
  -- The same is written into what was merged before.
  obtain ⟨body', written', same⟩ := written.alike (path_ne_nil_of_mem there) alike
  have live' : changed.get? member.path = .ok (some value) := by
    rw [written.get?_self, admits.not_null]
    rfl
  exact ⟨body', .kept (not_configMap_of_mem there)
    (keeps.changed (separate_keptMembers _) there written'
    (fun path apart => written.get?_apart apart) (KeptMember.value?_of_admits live' admits noOwn)),
    same⟩

theorem change (settled : Settled desired live) (change : Change desired live live') :
    Settled desired live' := by
  obtain ⟨body, merges, alike⟩ := settled.body
  cases change with
  | noted =>
      exact { settled with
        noEmptyMap := ⟨settled.noEmptyMap.annotations, settled.noEmptyMap.labels⟩
        body := ⟨body, merges.congr rfl, alike⟩ }
  | annotated annotations sorted notEmpty others =>
      refine { settled with
        sortedAnnotations := sorted
        noEmptyMap := ⟨notEmpty, settled.noEmptyMap.labels⟩
        hasAnnotations := ?_
        body := ⟨body, merges.congr rfl, alike⟩ }
      intro key value there
      have same : (annotations.getD []).find? key = live.annotation? key :=
        others key (by simp [there])
      have before := settled.hasAnnotations key value there
      rwa [← same] at before
  | labelled labels sorted notEmpty others =>
      refine { settled with
        sortedLabels := sorted
        noEmptyMap := ⟨settled.noEmptyMap.annotations, notEmpty⟩
        hasLabels := ?_
        body := ⟨body, merges.congr rfl, alike⟩ }
      intro key value there
      exact (others key (by simp [there])).trans (settled.hasLabels key value there)
  | revised deployment revision =>
      have notEmpty :
          some ((live.metadata.annotations.getD []).put revisionAnnotation revision) ≠ some [] := by
        intro same
        have found :=
          Fields.find?_put_self (live.metadata.annotations.getD []) revisionAnnotation revision
        rw [Option.some.inj same] at found
        cases found
      exact { settled with
        sortedAnnotations := Fields.sorted_put settled.sortedAnnotations _ _
        noEmptyMap := ⟨notEmpty, settled.noEmptyMap.labels⟩
        hasAnnotations := settled.revise deployment revision
        body := ⟨body, merges.congr rfl, alike⟩ }
  | kept there admits noOwn written =>
      exact { settled with body := settled.keep there admits noOwn written }

/-- A settled object stays settled. -/
theorem drift (settled : Settled desired live) (drift : Drift desired live live') :
    Settled desired live' := by
  induction drift with
  | refl => exact settled
  | tail _ change induction => exact induction.change change

end Settled

/-! ## Objects that were applied -/

section

variable {current desired merged : Object}

/-- A rendered object is merged into its own body as it is. -/
theorem Object.Rendered.mergesBody (rendered : desired.Rendered)
    (supported : checkSupported desired = .ok ()) (same : current.body = desired.body) :
    MergesBody current desired desired.body := by
  have own : MergesBody desired desired desired.body := by
    by_cases isMap : MergedKind.of? desired.groupKind = some .configMap
    · have noPools := rendered.noPools (MergedKind.of?_eq_some_iff.mp isMap)
      exact .pools isMap (mergeConfigMap_of_no_payload noPools noPools)
    · exact .kept isMap (Keeps.of_fits (separate_keptMembers _) rendered.wellFormed.body
        (rendered.fits supported))
  exact own.congr same

/-- A rendered object is merged into a body that it was merged into as it was then. -/
theorem MergesBody.stable {body : Value} (merges : MergesBody current desired body)
    (rendered : desired.Rendered) (supported : checkSupported desired = .ok ())
    (live : current.body.Ordered) {stored : Object} (same : stored.body = body) :
    MergesBody stored desired body := by
  cases merges with
  | kept notMap keeps =>
      refine .kept notMap (same ▸ keeps.stable (separate_keptMembers _)
        rendered.wellFormed.body live
        fun member there _ => rendered.fits supported member there)
  | pools isMap done =>
      obtain ⟨live?, readable, -⟩ := Except.bind_eq_ok_iff.mp done
      have noPools := rendered.noPools (MergedKind.of?_eq_some_iff.mp isMap)
      rw [mergeConfigMap_of_no_payload noPools readable] at done
      obtain rfl : desired.body = body := congrArg Object.body (Except.ok.inj done)
      exact rendered.mergesBody supported same

theorem settled_created (rendered : desired.Rendered) (supported : checkSupported desired = .ok ())
    (noEmptyMap : desired.metadata.NoEmptyMap) (version : Nat) :
    Settled desired (MemoryStore.created desired version) where
  type := rfl
  sortedAnnotations := rendered.wellFormed.annotations
  sortedLabels := rendered.wellFormed.labels
  stated := Value.sameMembers_refl _
  noEmptyMap := ⟨noEmptyMap.annotations, noEmptyMap.labels⟩
  hasAnnotations key value there := by
    split
    next =>
      intro absent
      cases absent.symm.trans there
    next => exact there
  hasLabels _ _ there := there
  body := ⟨desired.body, rendered.mergesBody supported rfl, Value.alike_refl rendered.opened⟩

theorem settled_replaced (rendered : desired.Rendered) (supported : checkSupported desired = .ok ())
    (live : current.WellFormed) (done : merge current desired = .ok merged) (version : Nat) :
    Settled desired (MemoryStore.replaced merged version) := by
  have sorted := live.merge rendered.wellFormed done
  have annotations := annotation?_merge rendered.wellFormed.annotations done
  have labels := label?_merge rendered.wellFormed.labels done
  obtain ⟨body, merges, rfl⟩ := merge_eq_ok_iff.mp done
  exact {
    type := rfl
    sortedAnnotations := sorted.annotations
    sortedLabels := sorted.labels
    stated := Value.sameMembers_refl _
    noEmptyMap := ⟨mergeEntries_ne_empty _ _, mergeEntries_ne_empty _ _⟩
    hasAnnotations := by
      intro key value there
      have given := annotations key
      -- The live revision may be an older one, all that matters is that there is one.
      by_cases revision : desired.IsRevision key
      · rw [if_pos revision, there] at given
        rw [if_pos revision]
        intro absent
        have neither := given.symm.trans absent
        simp at neither
      · rw [if_neg revision, there] at given
        rw [if_neg revision]
        exact given
    hasLabels := by
      intro key value there
      refine (labels key).trans ?_
      rw [there, Option.some_or]
    body := ⟨body, merges.stable rendered supported live.body rfl,
      Value.alike_refl (merges.opened rendered.opened)⟩ }

theorem settled_of_same (rendered : desired.Rendered) (live : current.WellFormed)
    (type : current.type? = desired.type?) (done : merge current desired = .ok merged)
    (same : current.same merged = .ok true) : Settled desired current := by
  obtain ⟨metadata, alike⟩ := Object.parts_of_same live (live.merge rendered.wellFormed done)
    (type.trans (type?_merge done).symm) same
  obtain ⟨body, merges, rfl⟩ := merge_eq_ok_iff.mp done
  obtain ⟨annotations, labels, stated⟩ := Metadata.same_mergeMetadata_iff.mp metadata
  obtain ⟨filledAnnotations, found⟩ := (mergeEntries_eq_self_iff live.annotations
    (sorted_overlaidAnnotations current rendered.wellFormed.annotations)).mp annotations
  obtain ⟨filledLabels, foundLabels⟩ :=
    (mergeEntries_eq_self_iff live.labels rendered.wellFormed.labels).mp labels
  exact {
    type
    sortedAnnotations := live.annotations
    sortedLabels := live.labels
    stated
    noEmptyMap := ⟨filledAnnotations, filledLabels⟩
    hasAnnotations := by
      intro key value there
      have given := found key
      rw [find?_overlaidAnnotations] at given
      by_cases revision : desired.IsRevision key
      · rw [if_pos revision] at given ⊢
        intro absent
        rw [absent, Option.none_or] at given
        cases absent.symm.trans (given value there)
      · rw [if_neg revision] at given ⊢
        exact given value there
    hasLabels := foundLabels
    body := ⟨body, merges, alike⟩ }

end

namespace MemoryStore

/-- Applying a settled object again changes nothing. -/
theorem again_of_settled {desired live : Object} {store after : MemoryStore}
    {result : Except ApplyError Outcome} (settled : Settled desired live) (own : desired.WellFormed)
    (applicable : desired.Applicable) (there : store.find? desired.key = some live)
    (applied : Applied desired store result after) : result = .ok .unchanged ∧ after = store := by
  obtain ⟨merged, done, same⟩ := settled.same own
  cases applied with
  | failed reason =>
      rcases reason with notApplicable | ⟨current, present,
        ⟨source, failed⟩ | ⟨_, _, done', failed⟩⟩
      · exact absurd applicable notApplicable
      · rw [there] at present
        cases present
        rw [done] at failed
        cases failed
      · rw [there] at present
        cases present
        rw [done] at done'
        cases done'
        rw [same] at failed
        cases failed
  | created _ absent =>
      rw [there] at absent
      cases absent
  | unchanged => exact ⟨rfl, rfl⟩
  | updated _ present done' different =>
      rw [there] at present
      cases present
      rw [done] at done'
      cases done'
      rw [same] at different
      cases different

end MemoryStore

end PoolOperator
