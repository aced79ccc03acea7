import PoolOperator.Proofs.Merge.Metadata

/-!
# Merged objects are well-formed

Merging writes members of the body that stand for neither the type nor the
metadata, so a merged object is as well-formed as the live and the desired one.
-/

namespace PoolOperator

/-- Writing under a key adds at most that key to the members. -/
theorem Value.Written.forall_keys {new value after : Value} {key : String} {rest : Path}
    (written : Written new (key :: rest) value after) {allowed : String → Prop}
    (first : allowed key) (own : ∀ field ∈ value.fields, allowed field.1) :
    ∀ field ∈ after.fields, allowed field.1 := by
  cases written with
  | @inside _ _ _ fields inner enters within =>
      have entered : ∀ field ∈ fields, allowed field.1 := by
        cases enters with
        | object => exact own
        | null => exact fun field there => absurd there List.not_mem_nil
      intro field there
      rcases Fields.mem_put there with rfl | earlier
      · exact first
      · exact entered field earlier

theorem Keeps.forall_keys {current desired merged : Value} {members : List KeptMember}
    (keeps : Keeps current members desired merged) {allowed : String → Prop}
    (heads : ∀ member ∈ members, ∃ key ∈ member.path.head?, allowed key)
    (own : ∀ field ∈ desired.fields, allowed field.1) :
    ∀ field ∈ merged.fields, allowed field.1 := by
  induction keeps with
  | done desired => exact own
  | skip absent others induction =>
      exact induction (fun member there => heads member (List.mem_cons_of_mem _ there)) own
  | @keep member rest value desired between merged live written others induction =>
      obtain ⟨key, first, isAllowed⟩ := heads member List.mem_cons_self
      obtain ⟨rest, path⟩ : ∃ rest : Path, member.path = key :: rest :=
        List.head?_eq_some_iff.mp first
      rw [path] at written
      exact induction (fun other there => heads other (List.mem_cons_of_mem _ there))
        (written.forall_keys isAllowed own)

/-- What is kept in the body stands for neither the type nor the metadata. -/
theorem head_of_mem_keptMembers {type : GroupKind} {member : KeptMember}
    (there : member ∈ keptMembers type) :
    ∃ key ∈ member.path.head?, key ∉ ["apiVersion", "kind", "metadata"] := by
  have ofService : ∀ member ∈ serviceMembers,
      ∃ key ∈ member.path.head?, key ∉ ["apiVersion", "kind", "metadata"] := by
    decide
  have ofAccount : ∀ member ∈ serviceAccountMembers,
      ∃ key ∈ member.path.head?, key ∉ ["apiVersion", "kind", "metadata"] := by
    decide
  rcases keptMembers_cases there with ⟨-, member⟩ | ⟨-, member⟩
  · exact ofService _ member
  · exact ofAccount _ member

/-- A member is kept in an object, which may come in place of null. -/
theorem Keeps.opened {current desired merged : Value} {members : List KeptMember}
    (keeps : Keeps current members desired merged) (notEmpty : ∀ member ∈ members, member.path ≠ [])
    (own : Shape.object.allows desired = true) : Shape.object.allows merged = true := by
  induction keeps with
  | done desired => exact own
  | skip absent others induction =>
      exact induction (fun member there => notEmpty member (List.mem_cons_of_mem _ there)) own
  | keep live written others induction =>
      obtain ⟨fields, rfl⟩ := written.obj_of_ne_nil (notEmpty _ List.mem_cons_self)
      exact induction (fun member there => notEmpty member (List.mem_cons_of_mem _ there)) rfl

section

variable {current desired merged : Object}

/-- A body that may have members has them after merging. -/
theorem MergesBody.opened {body : Value} (merges : MergesBody current desired body)
    (own : Shape.object.allows desired.body = true) : Shape.object.allows body = true := by
  cases merges with
  | kept notMap keeps => exact keeps.opened (fun _ => path_ne_nil_of_mem) own
  | pools isMap done =>
      obtain ⟨body', same, written⟩ := mergeConfigMap_eq_ok done
      obtain rfl : body = body' := congrArg Object.body same
      rcases written with rfl | ⟨payload, written⟩
      · exact own
      · obtain ⟨fields, rfl⟩ := written.obj_of_ne_nil (List.cons_ne_nil _ _)
        rfl

theorem MergesBody.ordered {body : Value} (merges : MergesBody current desired body)
    (live : current.body.Ordered) (own : desired.body.Ordered) :
    body.Ordered := by
  cases merges with
  | kept notMap keeps => exact keeps.ordered live own
  | pools isMap done =>
      obtain ⟨body', same, written⟩ := mergeConfigMap_eq_ok done
      obtain rfl : body = body' := congrArg Object.body same
      rcases written with rfl | ⟨payload, written⟩
      · exact own
      · exact written.ordered own ⟨List.pairwise_singleton _ _, trivial, trivial⟩

theorem MergesBody.forall_keys {body : Value} (merges : MergesBody current desired body)
    {allowed : String → Prop}
    (others : ∀ key, key ∉ ["apiVersion", "kind", "metadata"] → allowed key)
    (own : ∀ field ∈ desired.body.fields, allowed field.1) :
    ∀ field ∈ body.fields, allowed field.1 := by
  cases merges with
  | kept notMap keeps =>
      refine keeps.forall_keys (fun member there => ?_) own
      obtain ⟨key, first, other⟩ := head_of_mem_keptMembers there
      exact ⟨key, first, others key other⟩
  | pools isMap done =>
      obtain ⟨body', same, written⟩ := mergeConfigMap_eq_ok done
      obtain rfl : body = body' := congrArg Object.body same
      rcases written with rfl | ⟨payload, written⟩
      · exact own
      · exact written.forall_keys (others "data" (by decide)) own

theorem Object.WellFormed.merge (live : current.WellFormed) (own : desired.WellFormed)
    (done : merge current desired = .ok merged) : merged.WellFormed := by
  obtain ⟨body, merges, rfl⟩ := merge_eq_ok_iff.mp done
  refine ⟨merges.ordered live.body own.body, sorted_mergeEntries live.annotations _,
    sorted_mergeEntries live.labels _, ?_, fun typed => ?_⟩
  · have others : ∀ key, key ∉ ["apiVersion", "kind", "metadata"] → key ≠ "metadata" := by simp
    exact merges.forall_keys others own.noMetadata
  · have others : ∀ key, key ∉ ["apiVersion", "kind", "metadata"] →
        key ≠ "apiVersion" ∧ key ≠ "kind" := by
      simp +contextual
    exact merges.forall_keys others (own.noType typed)

end

/-! ## Same metadata -/

/-- If the live object is the same as the merged one, merging gave it the entries
that it had. -/
theorem entries_of_same {current desired merged : Object} (live : current.WellFormed)
    (own : desired.WellFormed) (type : current.type? = desired.type?)
    (done : merge current desired = .ok merged) (same : current.same merged = .ok true) :
    merged.metadata.annotations = current.metadata.annotations
      ∧ merged.metadata.labels = current.metadata.labels := by
  have alike :=
    (Object.parts_of_same live (live.merge own done) (type.trans (type?_merge done).symm) same).1
  obtain ⟨body, -, rfl⟩ := merge_eq_ok_iff.mp done
  obtain ⟨annotations, labels, -⟩ := Metadata.same_mergeMetadata_iff.mp alike
  exact ⟨annotations, labels⟩

end PoolOperator
